/-
Operations that answer a value or an error.

Seen from a success: `bind_eq_ok` takes a sequence of two apart, and `foldlM_induct` carries a property through a fold
all of whose steps succeed. Seen from a failure: `bind_eq_error` and `foldlM_eq_error` find the step that fails, and
`FailsWith` says which errors an operation may answer; those of a sequence, a fold or a map are those of its steps.
-/

namespace ShaderInterface.Outcome

variable {ε α β σ : Type}

/-- a sequence of two succeeds exactly when both succeed -/
theorem bind_eq_ok {x : Except ε α} {f : α → Except ε β} {b : β} :
    (x >>= f) = .ok b ↔ ∃ a, x = .ok a ∧ f a = .ok b := by
  cases x with
  | ok a => simp [bind, Except.bind]
  | error e => simp [bind, Except.bind]

theorem map_eq_ok {x : Except ε α} {f : α → β} {b : β} : x.map f = .ok b ↔ ∃ a, x = .ok a ∧ f a = b := by
  cases x with
  | ok a => simp [Except.map]
  | error e => simp [Except.map]

theorem mapError_eq_ok {ε' : Type} {x : Except ε α} {f : ε → ε'} {a : α} : x.mapError f = .ok a ↔ x = .ok a := by
  cases x with
  | ok b => exact ⟨fun h => congrArg Except.ok (Except.ok.inj h), fun h => congrArg Except.ok (Except.ok.inj h)⟩
  | error e => exact ⟨nofun, nofun⟩

/-- renaming the errors of a sequence renames those of both operations -/
theorem mapError_bind {ε' : Type} (x : Except ε α) (f : α → Except ε β) (g : ε → ε') :
    (x >>= f).mapError g = x.mapError g >>= fun a => (f a).mapError g := by
  cases x <;> rfl

theorem isOk_iff {x : Except ε α} : x.isOk = true ↔ ∃ a, x = .ok a := by
  cases x <;> simp [Except.isOk, Except.toBool]

/-- a decided property of what an operation answers -/
theorem exists_of_any {x : Except ε α} {p : α → Prop} [DecidablePred p] (h : x.toOption.any p = true) :
    ∃ a, x = .ok a ∧ p a := by
  cases x with
  | error e => simp [Except.toOption] at h
  | ok a => exact ⟨a, rfl, by simpa [Except.toOption] using h⟩

theorem foldlM_nil_eq_ok {f : σ → α → Except ε σ} {s t : σ} : [].foldlM f s = .ok t ↔ s = t := by
  simp [pure, Except.pure]

theorem foldlM_cons_eq_ok {f : σ → α → Except ε σ} {a : α} {l : List α} {s t : σ} :
    (a :: l).foldlM f s = .ok t ↔ ∃ u, f s a = .ok u ∧ l.foldlM f u = .ok t := by
  rw [List.foldlM_cons, bind_eq_ok]

/-- **A fold keeps what each of its steps keeps**, when every step succeeds. -/
theorem foldlM_induct {f : σ → α → Except ε σ} (P : σ → Prop) {l : List α} {s t : σ} (h : l.foldlM f s = .ok t)
    (h0 : P s) (hstep : ∀ s a t, a ∈ l → f s a = .ok t → P s → P t) : P t := by
  induction l generalizing s with
  | nil =>
    rw [foldlM_nil_eq_ok] at h
    exact h ▸ h0
  | cons a l ih =>
    obtain ⟨u, hu, h⟩ := foldlM_cons_eq_ok.1 h
    exact ih h (hstep s a u List.mem_cons_self hu h0) fun s b t hb => hstep s b t (List.mem_cons_of_mem a hb)

/-- folds are equal if their steps agree on the elements of the list -/
theorem foldlM_congr {f g : σ → α → Except ε σ} {l : List α} (h : ∀ s, ∀ a ∈ l, f s a = g s a) (s : σ) :
    l.foldlM f s = l.foldlM g s := by
  induction l generalizing s with
  | nil => rfl
  | cons a l ih =>
    rw [List.foldlM_cons, List.foldlM_cons, h s a List.mem_cons_self]
    exact bind_congr fun t => ih (fun s b hb => h s b (List.mem_cons_of_mem a hb)) t

/-- a list is mapped to itself by an operation that answers each element with itself -/
theorem mapM_eq_ok_self {f : α → Except ε α} {l : List α} (h : ∀ a ∈ l, f a = .ok a) : l.mapM f = .ok l := by
  induction l with
  | nil => rfl
  | cons a l ih =>
    obtain ⟨ha, hl⟩ := List.forall_mem_cons.1 h
    rw [List.mapM_cons, ha, ih hl]
    rfl

/-- an operation that succeeds on all other elements, with themselves, fails with the one error that it has -/
theorem mapM_eq_error {f : α → Except ε α} {l : List α} {a : α} {e : ε} (ha : a ∈ l) (he : f a = .error e)
    (hother : ∀ b ∈ l, b ≠ a → f b = .ok b) : l.mapM f = .error e := by
  induction l with
  | nil => simp at ha
  | cons b l ih =>
    rw [List.mapM_cons]
    by_cases hba : b = a
    · rw [hba, he]
      rfl
    · obtain ⟨hb, hl⟩ := List.forall_mem_cons.1 hother
      rw [hb hba, ih ((List.mem_cons.1 ha).resolve_left (Ne.symm hba)) hl]
      rfl

/-! ## Failures -/

/-- a sequence of two fails where the first fails, or the second behind a success -/
theorem bind_eq_error {x : Except ε α} {f : α → Except ε β} {e : ε} :
    (x >>= f) = .error e ↔ x = .error e ∨ ∃ a, x = .ok a ∧ f a = .error e := by
  cases x with
  | ok a => simp [bind, Except.bind]
  | error e' => simp [bind, Except.bind]

/-- **A fold fails at one of its elements**, behind steps that succeed. -/
theorem foldlM_eq_error {f : σ → α → Except ε σ} {l : List α} {s : σ} {e : ε} :
    l.foldlM f s = .error e ↔ ∃ front a back t, l = front ++ a :: back ∧ front.foldlM f s = .ok t ∧ f t a = .error e := by
  constructor
  · intro h
    induction l generalizing s with
    | nil => simp [pure, Except.pure] at h
    | cons a l ih =>
      rw [List.foldlM_cons, bind_eq_error] at h
      rcases h with ha | ⟨u, hu, h⟩
      · exact ⟨[], a, l, s, rfl, rfl, ha⟩
      · obtain ⟨front, b, back, t, rfl, hfront, hb⟩ := ih h
        exact ⟨a :: front, b, back, t, rfl, foldlM_cons_eq_ok.2 ⟨u, hu, hfront⟩, hb⟩
  · rintro ⟨front, a, back, t, rfl, hfront, ha⟩
    rw [List.foldlM_append, hfront]
    exact bind_eq_error.2 (.inr ⟨t, rfl, by rw [List.foldlM_cons, ha]; rfl⟩)

/-- whatever error the operation answers is one of these -/
def FailsWith (P : ε → Prop) (x : Except ε α) : Prop := ∀ e, x = .error e → P e

section Failures

variable {P : ε → Prop}

theorem failsWith_ok (a : α) : FailsWith P (.ok a : Except ε α) := fun _ h => by simp at h

theorem failsWith_error {e : ε} (he : P e) : FailsWith P (.error e : Except ε α) := by
  intro _ h
  rwa [← Except.error.inj h]

/-- the errors of a sequence are those of the first operation, and those of the second behind a success -/
theorem FailsWith.bind {x : Except ε α} {f : α → Except ε β} (hx : FailsWith P x)
    (hf : ∀ a, x = .ok a → FailsWith P (f a)) : FailsWith P (x >>= f) := by
  cases x with
  | ok a => exact hf a rfl
  | error e => exact failsWith_error (hx e rfl)

theorem FailsWith.imp {Q : ε → Prop} {x : Except ε α} (h : ∀ e, P e → Q e) (hx : FailsWith P x) : FailsWith Q x :=
  fun e he => h e (hx e he)

theorem FailsWith.map {x : Except ε α} (hx : FailsWith P x) (f : α → β) : FailsWith P (x.map f) := by
  cases x with
  | ok a => exact failsWith_ok (f a)
  | error e => exact failsWith_error (hx e rfl)

theorem failsWith_mapError {ε' : Type} {f : ε' → ε} (hf : ∀ e, P (f e)) (x : Except ε' α) :
    FailsWith P (x.mapError f) := by
  cases x with
  | ok a => exact failsWith_ok a
  | error e => exact failsWith_error (hf e)

/-- the errors of a fold are those of its steps -/
theorem FailsWith.foldlM {f : σ → α → Except ε σ} {l : List α} (hf : ∀ s, ∀ a ∈ l, FailsWith P (f s a)) (s : σ) :
    FailsWith P (l.foldlM f s) := by
  induction l generalizing s with
  | nil => exact failsWith_ok s
  | cons a l ih =>
    rw [List.foldlM_cons]
    exact (hf s a List.mem_cons_self).bind fun t _ => ih (fun s b hb => hf s b (List.mem_cons_of_mem a hb)) t

end Failures

end ShaderInterface.Outcome

/-
The grammar of struct bodies, and the scan of a source for structs.

`Balanced`, `AttributeSpelled` and `BodySpelled` are the grammar of the tokens behind the opening brace of a struct, as
`Phrase.Spelled` is that of types. `Searched` is the scan from left to right: what the tokens declare, or whose body is
outside the grammar. No reader and no fuel is in any of them.

- `skipGroup_eq_ok`: a parenthesised group is skipped exactly if its tokens balance.
- `bodyReads_iff`: tokens begin with a body exactly where the grammar derives one.
- `Searched.unique`, `searched_readAll`: a scan has one outcome, and the search answers that outcome.
- `parseAll_searched`: a source parses to the structs that its tokens declare, and otherwise the first struct whose
  body is outside the grammar is to blame.
-/
import ShaderInterface.Proofs.Source.StructSearch

namespace ShaderInterface

open Outcome

/-! ## The grammar of bodies -/

/-- every parenthesis among the tokens has its partner among them -/
inductive Balanced : List Token → Prop where
  | nil : Balanced []
  | token {token : Token} {rest : List Token} (plain : token ≠ .punct '(' ∧ token ≠ .punct ')')
      (behind : Balanced rest) : Balanced (token :: rest)
  | group {inside rest : List Token} (within : Balanced inside) (behind : Balanced rest) :
    Balanced (.punct '(' :: (inside ++ .punct ')' :: rest))

/-- an attribute of a member: its name, and any balanced group in parentheses -/
inductive AttributeSpelled : List Token → Prop where
  | bare (name : String) : AttributeSpelled [.punct '@', .ident name]
  | applied (name : String) {arguments : List Token} (balanced : Balanced arguments) :
    AttributeSpelled (.punct '@' :: .ident name :: .punct '(' :: (arguments ++ [.punct ')']))

/-- the tokens from behind the opening brace of a struct through its closing brace spell these members -/
inductive BodySpelled : List Token → List Member → Prop where
  | close : BodySpelled [.punct '\x7d'] []
  | annotated {front back : List Token} {members : List Member} (spelled : AttributeSpelled front)
      (body : BodySpelled back members) : BodySpelled (front ++ back) members
  | member {front back : List Token} {type : TypeExpr} {members : List Member} {separator : Char} (name : String)
      (typed : Phrase.Spelled front (.type type)) (separates : separator = ',' ∨ separator = ';')
      (body : BodySpelled back members) :
    BodySpelled (.ident name :: .punct ':' :: (front ++ .punct separator :: back)) (⟨name, type⟩ :: members)
  | last {front : List Token} {type : TypeExpr} (name : String) (typed : Phrase.Spelled front (.type type)) :
    BodySpelled (.ident name :: .punct ':' :: (front ++ [.punct '\x7d'])) [⟨name, type⟩]

/-! ## Groups -/

section Groups

variable {outer : Nat} {token : Token} {tokens inside rest : List Token}

theorem skipGroup_token (h : token ≠ .punct '(' ∧ token ≠ .punct ')') :
    skipGroup outer (token :: rest) = skipGroup outer rest := by
  rw [skipGroup]
  · exact h.1
  · exact fun _ => h.2
  · exact fun _ _ => h.2

/-- balanced tokens close no group that was open before them -/
theorem Balanced.skipGroup (h : Balanced inside) (outer : Nat) (rest : List Token) :
    skipGroup outer (inside ++ rest) = skipGroup outer rest := by
  induction h generalizing outer rest with
  | nil => rfl
  | token plain behind ih => exact (skipGroup_token plain).trans (ih outer rest)
  | @group inside behind within _ ihwithin ihbehind =>
    calc ShaderInterface.skipGroup outer (.punct '(' :: (inside ++ .punct ')' :: behind) ++ rest)
        = ShaderInterface.skipGroup (outer + 1) (inside ++ (.punct ')' :: (behind ++ rest))) := by
          rw [List.cons_append, ShaderInterface.skipGroup, List.append_assoc, List.cons_append]
      _ = ShaderInterface.skipGroup outer (behind ++ rest) := by
          rw [ihwithin, ShaderInterface.skipGroup]
      _ = ShaderInterface.skipGroup outer rest := ihbehind outer rest

/-- the tokens close a group and the `outer` groups around it, one behind the other -/
inductive Closes : Nat → List Token → Prop where
  | last {inside : List Token} (balanced : Balanced inside) : Closes 0 (inside ++ [.punct ')'])
  | more {outer : Nat} {inside rest : List Token} (balanced : Balanced inside) (behind : Closes outer rest) :
    Closes (outer + 1) (inside ++ .punct ')' :: rest)

theorem Closes.cons (h : Closes outer tokens) (plain : token ≠ .punct '(' ∧ token ≠ .punct ')') :
    Closes outer (token :: tokens) := by
  cases h with
  | last balanced => exact .last (balanced.token plain)
  | more balanced behind => exact .more (balanced.token plain) behind

/-- an opening parenthesis makes the group that closes first part of the next -/
theorem Closes.enclose (h : Closes (outer + 1) tokens) : Closes outer (.punct '(' :: tokens) := by
  cases h with
  | @more _ inside _ balanced behind =>
    cases behind with
    | @last next balanced' =>
      have hgroup := Closes.last (balanced.group balanced')
      simpa using hgroup
    | @more outer next rest balanced' behind' =>
      have hgroup := behind'.more (balanced.group balanced')
      simpa using hgroup

theorem closes_of_skipGroup (h : skipGroup outer tokens = .ok rest) :
    ∃ front, tokens = front ++ rest ∧ Closes outer front := by
  induction outer, tokens using skipGroup.induct with
  | case1 outer => simp [skipGroup] at h
  | case2 outer behind ih =>
    rw [skipGroup] at h
    obtain ⟨front, rfl, hfront⟩ := ih h
    exact ⟨_, rfl, hfront.enclose⟩
  | case3 behind =>
    rw [skipGroup] at h
    obtain rfl := Except.ok.inj h
    exact ⟨[.punct ')'], rfl, .last .nil⟩
  | case4 outer behind ih =>
    rw [skipGroup] at h
    obtain ⟨front, rfl, hfront⟩ := ih h
    exact ⟨.punct ')' :: front, rfl, hfront.more .nil⟩
  | case5 outer token behind hopen hlast hmore ih =>
    have hclose : token ≠ .punct ')' := by
      intro heq
      cases outer with
      | zero => exact hlast rfl heq
      | succ outer => exact hmore outer rfl heq
    rw [skipGroup_token ⟨hopen, hclose⟩] at h
    obtain ⟨front, rfl, hfront⟩ := ih h
    exact ⟨_, rfl, hfront.cons ⟨hopen, hclose⟩⟩

/-- **A group is skipped exactly if it balances**, through the parenthesis that closes it. -/
theorem skipGroup_eq_ok :
    skipGroup 0 tokens = .ok rest ↔ ∃ inside, Balanced inside ∧ tokens = inside ++ .punct ')' :: rest := by
  constructor
  · intro h
    obtain ⟨front, rfl, hfront⟩ := closes_of_skipGroup h
    cases hfront with
    | last balanced => exact ⟨_, balanced, by simp⟩
  · rintro ⟨inside, hinside, rfl⟩
    rw [hinside.skipGroup, skipGroup]

end Groups

/-! ## Bodies -/

section Bodies

variable {tokens front rest : List Token} {members : List Member}

/-- an attribute is skipped exactly where the grammar has one, up to a parenthesis that would belong to it -/
theorem skipAttribute_eq_ok :
    skipAttribute tokens = .ok rest ↔
      ∃ front, AttributeSpelled (.punct '@' :: front) ∧ tokens = front ++ rest ∧
        ((∃ name, front = [.ident name]) → rest.head? ≠ some (.punct '(')) := by
  constructor
  · intro h
    unfold skipAttribute at h
    split at h
    · next name behind =>
      obtain ⟨arguments, hbalanced, rfl⟩ := skipGroup_eq_ok.1 h
      refine ⟨_, .applied name hbalanced, by simp, ?_⟩
      rintro ⟨other, hother⟩
      simp at hother
    · next name behind hgroup =>
      obtain rfl := Except.ok.inj h
      refine ⟨_, .bare name, rfl, ?_⟩
      rintro - hhead
      obtain ⟨more, rfl⟩ := List.head?_eq_some_iff.1 hhead
      exact hgroup more rfl
    · simp at h
  · rintro ⟨front, hattribute, rfl, hhead⟩
    cases hattribute with
    | bare name =>
      have hbare := hhead ⟨name, rfl⟩
      rw [List.singleton_append, skipAttribute]
      rintro more rfl
      simp at hbare
    | applied name balanced =>
      simp only [List.cons_append, List.append_assoc, List.nil_append, skipAttribute]
      exact skipGroup_eq_ok.2 ⟨_, balanced, rfl⟩

/-- no body starts with a parenthesis, so none is taken for the group of an attribute -/
theorem BodySpelled.head?_ne (h : BodySpelled front members) (rest : List Token) :
    (front ++ rest).head? ≠ some (.punct '(') := by
  cases h with
  | close => simp
  | annotated spelled body => cases spelled <;> simp
  | member name typed separates body => simp
  | last name typed => simp

theorem BodySpelled.reads (h : BodySpelled front members) (rest : List Token) :
    BodyReads (front ++ rest) members rest := by
  induction h with
  | close => exact .close rest
  | @annotated front back members spelled body ih =>
    obtain ⟨after, rfl⟩ : ∃ after, front = .punct '@' :: after := by
      cases spelled with
      | bare name => exact ⟨_, rfl⟩
      | applied name balanced => exact ⟨_, rfl⟩
    have hskip : skipAttribute (after ++ (back ++ rest)) = .ok (back ++ rest) :=
      skipAttribute_eq_ok.2 ⟨after, spelled, rfl, fun _ => body.head?_ne rest⟩
    rw [List.append_assoc, List.cons_append]
    exact .annotated hskip ih
  | @member front back type members separator name typed separates body ih =>
    have hskip : skipSeparator (.punct separator :: (back ++ rest)) = .ok (back ++ rest) := by
      rcases separates with rfl | rfl
      · rfl
      · rfl
    have hbody := BodyReads.member name typed hskip ih
    simpa using hbody
  | @last front type name typed =>
    have hskip : skipSeparator (.punct '\x7d' :: rest) = .ok (.punct '\x7d' :: rest) := rfl
    have hbody := BodyReads.member name typed hskip (.close rest)
    simpa using hbody

theorem BodyReads.exists_spelled (h : BodyReads tokens members rest) :
    ∃ front, BodySpelled front members ∧ tokens = front ++ rest := by
  induction h with
  | close rest => exact ⟨_, .close, rfl⟩
  | annotated skipped body ih =>
    obtain ⟨front, hfront, rfl⟩ := ih
    obtain ⟨spelling, hspelling, rfl, -⟩ := skipAttribute_eq_ok.1 skipped
    exact ⟨_, .annotated hspelling hfront, by simp⟩
  | member name typed separated body ih =>
    obtain ⟨front, hfront, rfl⟩ := ih
    rcases skipSeparator_eq_ok.1 separated with rfl | rfl | ⟨behind, rfl, hclose⟩
    · exact ⟨_, .member name typed (.inl rfl) hfront, by simp⟩
    · exact ⟨_, .member name typed (.inr rfl) hfront, by simp⟩
    · -- the brace behind the type is the whole rest of the body
      cases hfront with
      | close =>
        obtain ⟨-, rfl⟩ := List.cons.inj hclose
        exact ⟨_, .last name typed, by simp⟩
      | annotated spelled body => cases spelled <;> simp at hclose
      | member name typed separates body => simp at hclose
      | last name typed => simp at hclose

/-- **Tokens begin with a body exactly where the grammar derives one.** -/
theorem bodyReads_iff :
    BodyReads tokens members rest ↔ ∃ front, BodySpelled front members ∧ tokens = front ++ rest := by
  constructor
  · exact BodyReads.exists_spelled
  · rintro ⟨front, hfront, rfl⟩
    exact hfront.reads rest

/-- a list of tokens has one body in front, and so one place where the scan goes on -/
theorem BodySpelled.unique {front' rest' : List Token} {members' : List Member} (h : BodySpelled front members)
    (h' : BodySpelled front' members') (heq : front ++ rest = front' ++ rest') :
    members' = members ∧ rest' = rest :=
  (h.reads rest).unique (heq ▸ h'.reads rest')

end Bodies

/-! ## The scan -/

/-- a struct with each of its member types once, in order of first appearance -/
def StructDecl.declared (name : String) (members : List Member) : StructDecl :=
  ⟨name, members, (members.map (·.type)).eraseDups⟩

/-- scanning the tokens from left to right gives these structs, or stops at the first struct whose body is outside the
grammar -/
inductive Searched : List Token → Except String (List StructDecl) → Prop where
  | finish : Searched [] (.ok [])
  | skip {token : Token} {rest : List Token} {outcome : Except String (List StructDecl)}
      (other : token ≠ .ident "struct") (behind : Searched rest outcome) : Searched (token :: rest) outcome
  | nameless {rest : List Token} {outcome : Except String (List StructDecl)}
      (bare : ∀ name more, rest ≠ .ident name :: more) (behind : Searched rest outcome) :
    Searched (.ident "struct" :: rest) outcome
  | bodiless {rest : List Token} {outcome : Except String (List StructDecl)} (name : String)
      (bare : rest.head? ≠ some (.punct '\x7b')) (behind : Searched rest outcome) :
    Searched (.ident "struct" :: .ident name :: rest) outcome
  | declared {body rest : List Token} {members : List Member} {outcome : Except String (List StructDecl)}
      (name : String) (spelled : BodySpelled body members) (behind : Searched rest outcome) :
    Searched (.ident "struct" :: .ident name :: .punct '\x7b' :: (body ++ rest))
      (outcome.map (.declared name members :: ·))
  | malformed {tokens : List Token} (name : String)
      (outside : ∀ body rest members, tokens = body ++ rest → ¬ BodySpelled body members) :
    Searched (.ident "struct" :: .ident name :: .punct '\x7b' :: tokens) (.error name)

section Scan

variable {tokens : List Token} {outcome outcome' : Except String (List StructDecl)}

/-- **A scan has one outcome.** -/
theorem Searched.unique (h : Searched tokens outcome) (h' : Searched tokens outcome') : outcome = outcome' := by
  induction h generalizing outcome' with
  | finish =>
    cases h'
    rfl
  | skip other behind ih =>
    cases h' with
    | skip _ behind' => exact ih behind'
    | _ => exact absurd rfl other
  | nameless bare behind ih =>
    cases h' with
    | skip other => exact absurd rfl other
    | nameless _ behind' => exact ih behind'
    | _ => exact absurd rfl (bare _ _)
  | bodiless name bare behind ih =>
    cases h' with
    | skip other => exact absurd rfl other
    | nameless bare' => exact absurd rfl (bare' _ _)
    | bodiless _ _ behind' => exact ih behind'
    | _ => exact absurd rfl bare
  | @declared body rest members outcome name spelled behind ih =>
    generalize htokens : body ++ rest = tokens at h'
    cases h' with
    | skip other => exact absurd rfl other
    | nameless bare => exact absurd rfl (bare _ _)
    | bodiless _ bare => exact absurd rfl bare
    | declared _ spelled' behind' =>
      obtain ⟨rfl, rfl⟩ := spelled.unique spelled' htokens
      rw [ih behind']
    | malformed _ outside => exact absurd spelled (outside _ _ _ htokens.symm)
  | malformed name outside =>
    cases h' with
    | skip other => exact absurd rfl other
    | nameless bare => exact absurd rfl (bare _ _)
    | bodiless _ bare => exact absurd rfl bare
    | declared _ spelled => exact absurd spelled (outside _ _ _ rfl)
    | malformed => rfl

/-- what a search answers is the outcome of the scan; of the reason for an error it says nothing -/
def StructDecl.Answers (result : Except Error (List StructDecl)) : Except String (List StructDecl) → Prop
  | .ok decls => result = .ok decls
  | .error owner => ∃ fault, result = .error (.malformed owner fault)

/-- a search answers one outcome: an error names its owner -/
theorem StructDecl.Answers.unique {result : Except Error (List StructDecl)} (h : Answers result outcome)
    (h' : Answers result outcome') : outcome = outcome' := by
  cases outcome with
  | ok decls =>
    obtain rfl : result = .ok decls := h
    cases outcome' with
    | ok decls' => exact congrArg Except.ok (Except.ok.inj h')
    | error owner' => simp [Answers] at h'
  | error owner =>
    obtain ⟨fault, rfl⟩ := h
    cases outcome' with
    | ok decls' => simp [Answers] at h'
    | error owner' =>
      obtain ⟨fault', hfault⟩ := h'
      rw [(Error.malformed.inj (Except.error.inj hfault)).1]

theorem distinctAfter_eq_eraseDups {α : Type} [DecidableEq α] (seen l : List α) :
    distinctAfter seen l = (l.filter (· ∉ seen)).eraseDups := by
  induction l generalizing seen with
  | nil => rfl
  | cons a rest ih =>
    rw [distinctAfter]
    by_cases h : a ∈ seen
    · rw [if_pos h, ih, List.filter_cons_of_neg (by simpa using h)]
    · have hfilter : rest.filter (· ∉ a :: seen) = (rest.filter (· ∉ seen)).filter (fun b => !b == a) := by
        rw [List.filter_filter]
        refine List.filter_congr fun b _ => ?_
        simp [beq_eq_decide]
      rw [if_neg h, ih, List.filter_cons_of_pos (by simpa using h), List.eraseDups_cons, hfilter]

theorem ofMembers_eq_declared (name : String) (members : List Member) :
    StructDecl.ofMembers name members = .declared name members := by
  rw [StructDecl.ofMembers, distinctAfter_eq_eraseDups]
  simp [StructDecl.declared]

/-- what may stand at the front of the tokens, as the scan tells it apart -/
theorem front_cases (tokens : List Token) :
    tokens = [] ∨ (∃ token rest, tokens = token :: rest ∧ token ≠ .ident "struct") ∨
      (∃ rest, tokens = .ident "struct" :: rest ∧ ∀ name more, rest ≠ .ident name :: more) ∨
      (∃ name rest, tokens = .ident "struct" :: .ident name :: rest ∧ rest.head? ≠ some (.punct '\x7b')) ∨
      ∃ name body, tokens = .ident "struct" :: .ident name :: .punct '\x7b' :: body := by
  rcases tokens with _ | ⟨token, rest⟩
  · exact .inl rfl
  · refine .inr ?_
    by_cases hstruct : token = .ident "struct"
    · refine .inr ?_
      subst hstruct
      by_cases hname : ∃ name more, rest = .ident name :: more
      · obtain ⟨name, more, rfl⟩ := hname
        refine .inr ?_
        by_cases hbrace : more.head? = some (.punct '\x7b')
        · obtain ⟨body, rfl⟩ := List.head?_eq_some_iff.1 hbrace
          exact .inr ⟨name, body, rfl⟩
        · exact .inl ⟨name, more, rfl, hbrace⟩
      · exact .inl ⟨rest, rfl, fun name more heq => hname ⟨name, more, heq⟩⟩
    · exact .inl ⟨token, rest, rfl, hstruct⟩

/-- behind a struct whose body is in the grammar the search goes on -/
theorem readAll_declared {fuel : Nat} {name : String} {members : List Member} {rest : List Token}
    (hread : StructDecl.readMembers fuel tokens = .ok (members, rest)) :
    StructDecl.readAll (fuel + 1) (.ident "struct" :: .ident name :: .punct '\x7b' :: tokens) =
      (StructDecl.readAll fuel rest).map (.declared name members :: ·) := by
  rw [StructDecl.readAll, hread, ← ofMembers_eq_declared]
  show (StructDecl.readAll fuel rest >>= fun decls => .ok (.ofMembers name members :: decls)) = _
  cases StructDecl.readAll fuel rest with
  | ok decls => rfl
  | error e => rfl

theorem StructDecl.Answers.map {result : Except Error (List StructDecl)} (h : Answers result outcome)
    (f : List StructDecl → List StructDecl) : Answers (result.map f) (outcome.map f) := by
  cases outcome with
  | ok decls =>
    obtain rfl : result = .ok decls := h
    rfl
  | error owner =>
    obtain ⟨fault, rfl⟩ := h
    exact ⟨fault, rfl⟩

/-- **The search answers the outcome of the scan**, given fuel. -/
theorem searched_readAll {fuel : Nat} (hfuel : tokens.length < fuel) :
    ∃ outcome, Searched tokens outcome ∧ StructDecl.Answers (StructDecl.readAll fuel tokens) outcome := by
  induction fuel generalizing tokens with
  | zero => simp at hfuel
  | succ fuel ih =>
    rcases front_cases tokens with rfl | ⟨token, rest, rfl, hother⟩ | ⟨rest, rfl, hbare⟩ | ⟨name, rest, rfl, hbare⟩ |
      ⟨name, body, rfl⟩
    · exact ⟨.ok [], .finish, rfl⟩
    · obtain ⟨outcome, hsearched, hanswers⟩ := ih (Nat.lt_of_succ_lt_succ hfuel)
      exact ⟨outcome, .skip hother hsearched, by rwa [readAll_skip hother]⟩
    · obtain ⟨outcome, hsearched, hanswers⟩ := ih (Nat.lt_of_succ_lt_succ hfuel)
      exact ⟨outcome, .nameless hbare hsearched, by rwa [readAll_nameless hbare]⟩
    · have hlength : rest.length < fuel := by
        rw [List.length_cons, List.length_cons] at hfuel
        omega
      obtain ⟨outcome, hsearched, hanswers⟩ := ih hlength
      exact ⟨outcome, .bodiless name hbare hsearched, by rwa [readAll_bodiless hbare]⟩
    · have hlength : body.length < fuel := by
        rw [List.length_cons, List.length_cons, List.length_cons] at hfuel
        omega
      cases hread : StructDecl.readMembers fuel body with
      | ok read =>
        obtain ⟨members, rest⟩ := read
        have hbody := bodyReads_of_readMembers hread
        obtain ⟨outcome, hsearched, hanswers⟩ := ih (Nat.lt_of_le_of_lt hbody.length_le hlength)
        obtain ⟨front, hfront, rfl⟩ := hbody.exists_spelled
        refine ⟨_, .declared name hfront hsearched, ?_⟩
        rw [readAll_declared hread]
        exact hanswers.map _
      | error fault =>
        have houtside : ∀ front rest members, body = front ++ rest → ¬ BodySpelled front members := by
          rintro front rest members rfl hfront
          rw [(hfront.reads rest).readMembers hlength] at hread
          simp at hread
        refine ⟨.error name, .malformed name houtside, fault, ?_⟩
        rw [StructDecl.readAll, hread]
        rfl

/-- a source is searched as its tokens are scanned -/
theorem searched_iff_answers (source : String) (outcome : Except String (List StructDecl)) :
    Searched (Token.scan source) outcome ↔ StructDecl.Answers (StructDecl.parseAll source) outcome := by
  obtain ⟨outcome', hsearched, hanswers⟩ := searched_readAll (Nat.lt_succ_self (Token.scan source).length)
  have hparse : StructDecl.parseAll source = StructDecl.readAll ((Token.scan source).length + 1) (Token.scan source) :=
    rfl
  rw [hparse]
  constructor
  · intro h
    rwa [h.unique hsearched]
  · intro h
    rwa [h.unique hanswers]

end Scan

/-- the second struct has a member without a type -/
example : ∃ fault, StructDecl.parseAll "struct A \x7b a: f32 \x7d struct B \x7b b \x7d" = .error (.malformed "B" fault) :=
  ⟨_, rfl⟩

end ShaderInterface

/-
Refreshing bindings. When the object behind a resource is replaced, the bindings are synthesized again and must fill the
same slots as before. The check reports the first slot that differs, or that only one of the two lists has, by its
number; an index that is no 32-bit number is reported as the largest one.
-/
import ShaderInterface.Error
import ShaderInterface.Size

namespace ShaderInterface

/-- the two hold the same resource in the same slot with the same access -/
def Assignment.sameSlot (a b : Assignment) : Bool :=
  a.binding = b.binding ∧ a.resource = b.resource ∧ a.access = b.access

/-- check the slots from `index` on -/
def verifyRefreshFrom : Nat → List Assignment → List Assignment → Except Error Unit
  | _, [], [] => .ok ()
  | index, expected :: layout, found :: refreshed =>
    if expected.sameSlot found then verifyRefreshFrom (index + 1) layout refreshed
    else .error (.bindingMismatch (Size.clamp index) (some expected) (some found))
  | index, layout, refreshed => .error (.bindingMismatch (Size.clamp index) layout.head? refreshed.head?)

/-- the refreshed slots are those of the layout -/
def verifyRefresh (layout refreshed : List Assignment) : Except Error Unit := verifyRefreshFrom 0 layout refreshed

end ShaderInterface

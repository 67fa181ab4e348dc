/-
The layout of one struct: where each member lies and how much padding follows it.

Members are packed tightly, except at block boundaries. A block is as large as the largest alignment among the member
types. Where a member ends inside a block and the next would cross the block's end, padding fills the block and the
next member starts the following one. The struct is padded to a multiple of 16 bytes. Padding is counted in 4-byte
words.

WGSL itself aligns each member to its own type. `Placement.canonicalOffset` is where that rule would put the member,
given the members before it; a member that lies elsewhere disagrees with WGSL. The layout stands as computed all the
same.
-/
import ShaderInterface.Error
import ShaderInterface.Size
import ShaderInterface.Source.StructDecl
import ShaderInterface.Table

namespace ShaderInterface

/-- every struct is padded to a multiple of this many bytes -/
def structGranule : Nat := 16

/-- one member in its place -/
structure Placement where
  member : Member
  offset : Nat
  size : Nat
  /-- where alignment to the member's own type would put it -/
  canonicalOffset : Nat
  /-- words of padding between this member and the next -/
  padding : Nat
deriving DecidableEq, Repr

structure StructLayout where
  name : String
  /-- the largest alignment among the member types, 0 without members -/
  maxAlign : Nat
  placements : List Placement
  byteSize : Nat
  /-- words of padding after the last member -/
  tail : Nat
deriving DecidableEq, Repr

namespace StructLayout

/-- the struct as a member or an element of something else -/
def extent (layout : StructLayout) : Extent := ⟨layout.byteSize, layout.maxAlign⟩

/-- the padding between members, by the name of the member before it -/
def innerPaddings (layout : StructLayout) : List (String × Nat) :=
  (layout.placements.filter (·.padding ≠ 0)).map fun p => (p.member.name, p.padding)

/-- the padding at the end, under the empty name -/
def tailPadding (layout : StructLayout) : List (String × Nat) :=
  if layout.tail = 0 then [] else [("", layout.tail)]

/-- words of padding, by the name of the member before them or the empty name for the end of the struct; of two members
of one name the later one counts -/
def paddings (layout : StructLayout) : Table String Nat :=
  Table.ofList (layout.innerPaddings ++ layout.tailPadding)

/-- words of padding recorded under a name -/
def paddingAfter (layout : StructLayout) (name : String) : Nat := (layout.paddings.get? name).getD 0

/-- the members that lie elsewhere than alignment to their own types would put them -/
def disagreements (layout : StructLayout) : List String :=
  (layout.placements.filter fun p => p.canonicalOffset ≠ p.offset).map (·.member.name)

/-- the first member of a name -/
def find? (layout : StructLayout) (name : String) : Option Placement :=
  layout.placements.find? (·.member.name = name)

end StructLayout

/-! ## Placing the members -/

/-- a size, or the error that the struct is too large -/
def sizeIn (owner : String) (n : Nat) : Except Error Nat :=
  match Size.fits? n with
  | some n => .ok n
  | none => .error (.structTooLarge owner)

/-- padding as words -/
def paddingWords (owner after : String) (bytes : Nat) : Except Error Nat :=
  match Size.words? bytes with
  | some words => .ok words
  | none => .error (.subWordPadding owner after bytes)

/-- words of padding between a member that ends at `stop` and a next one of `nextSize` bytes -/
def paddingBetween (owner after : String) (block stop nextSize : Nat) : Except Error Nat := do
  let boundary ← sizeIn owner (Size.roundUp stop block)
  if stop ≠ boundary ∧ boundary < stop + nextSize then paddingWords owner after (boundary - stop) else .ok 0

/-- words of padding between a member that ends at `stop` and those that follow it, none if it is the last -/
def paddingBefore (owner after : String) (block stop : Nat) : List (Member × Extent) → Except Error Nat
  | [] => .ok 0
  | (_, next) :: _ => paddingBetween owner after block stop next.size

/-- the members placed from `offset` on, with the end of the last; `canonical` is the end so far when each member is
aligned to its own type -/
def place (owner : String) (block offset canonical : Nat) :
    List (Member × Extent) → Except Error (List Placement × Nat)
  | [] => .ok ([], offset)
  | (member, extent) :: rest => do
    let canonicalOffset ← sizeIn owner (Size.roundUp canonical extent.align)
    let canonicalStop ← sizeIn owner (canonicalOffset + extent.size)
    let stop ← sizeIn owner (offset + extent.size)
    let padding ← paddingBefore owner member.name block stop rest
    let (placements, finish) ← place owner block (stop + 4 * padding) canonicalStop rest
    .ok (⟨member, offset, extent.size, canonicalOffset, padding⟩ :: placements, finish)

/-- the name of the last member, empty without members -/
def lastName (members : List Member) : String := (members.getLast?.map (·.name)).getD ""

/-- the layout of a struct whose members have these extents and whose largest alignment is `block` -/
def StructLayout.build (name : String) (block : Nat) (members : List (Member × Extent)) :
    Except Error StructLayout := do
  let (placements, stop) ← place name block 0 0 members
  let byteSize ← sizeIn name (Size.roundUp stop structGranule)
  let tail ← paddingWords name (lastName (members.map (·.1))) (byteSize - stop)
  .ok ⟨name, block, placements, byteSize, tail⟩

end ShaderInterface

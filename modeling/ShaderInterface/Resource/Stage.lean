/-
Shader stages, sets of stages, and who may write a storage.

A storage has at most one writing stage: compute writes whatever it sees, and then vertex and fragment only read.
Without compute, the fragment stage writes a storage that it alone sees. The vertex stage never writes.
-/

namespace ShaderInterface

inductive Stage where
  | compute
  | vertex
  | fragment
deriving DecidableEq, Repr

namespace Stage

/-- every stage, in the order in which a pass lists its stages -/
def all : List Stage := [.compute, .vertex, .fragment]

def name : Stage → String
  | .compute => "compute"
  | .vertex => "vertex"
  | .fragment => "fragment"

/-- the bit of a stage in a set of stages -/
def bit : Stage → UInt32
  | .vertex => 1
  | .fragment => 2
  | .compute => 4

end Stage

/-- a set of stages as a mask; bits that belong to no stage are kept and mean nothing -/
structure StageSet where
  bits : UInt32
deriving DecidableEq, Repr

namespace StageSet

/-- every stage, the visibility of a resource that declares none -/
def all : StageSet := ⟨7⟩

def includes (set : StageSet) (stage : Stage) : Bool := set.bits &&& stage.bit != 0

end StageSet

inductive Access where
  | read
  | readWrite
deriving DecidableEq, Repr

def Access.name : Access → String
  | .read => "read"
  | .readWrite => "read_write"

/-- the access that a storage visible to `set` has in `stage`, if the stage sees it -/
def StageSet.access? (set : StageSet) (stage : Stage) : Option Access :=
  if set.includes stage then
    match stage with
    | .compute => some .readWrite
    | .vertex => some .read
    | .fragment => if set.includes .compute || set.includes .vertex then some .read else some .readWrite
  else none

end ShaderInterface

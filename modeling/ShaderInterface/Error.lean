/-
What can go wrong, by cause, and the message of each cause. A warning reports a declaration that was not carried out as
requested; it stops nothing.
-/
import ShaderInterface.Binding.Assignment
import ShaderInterface.Layout.Primitive
import ShaderInterface.Resource.Kind
import ShaderInterface.Source.SyntaxFault
import ShaderInterface.Source.TypeExpr

namespace ShaderInterface

inductive Error where
  /-- a name that is neither a primitive type nor an earlier struct -/
  | unknownType (owner member name : String)
  | zeroLengthArray (type : TypeExpr)
  | runtimeArrayNotLast (owner member : String) (type : TypeExpr)
  /-- a struct whose layout leaves the 32-bit sizes -/
  | structTooLarge (name : String)
  /-- a type, or the contents of a storage of that type, whose size leaves the 32-bit sizes -/
  | typeTooLarge (type : TypeExpr)
  /-- padding that is not a whole number of words -/
  | subWordPadding (owner after : String) (bytes : Nat)
  /-- an array length that no integer constant gives -/
  | unknownConstant (type : TypeExpr) (constant : String)
  /-- a struct, or a type standing alone, outside the grammar -/
  | malformed (owner : String) (fault : SyntaxFault)
  | conflictingStruct (name : String)
  | duplicateStorage (name : String)
  | duplicateConstant (name : String)
  /-- a binding texture pinned to a pass on one side only -/
  | halfPinnedTexture (name : String)
  /-- a binding texture that no pass can write -/
  | bindingTextureWithoutCompute (name : String)
  | tooManyPasses (count : Nat)
  | emptyPass (pass : Nat)
  /-- a pass with a vertex stage or a fragment stage but not both -/
  | incompletePair (pass : Nat)
  | unknownResource (name : String)
  | unknownPass (pass : Nat)
  | unknownStage (stage : Stage) (pass : Nat)
  | storageNotMapped (name : String)
  | storageSizeMismatch (name : String) (first second : Nat)
  /-- the slot at `binding` before and after a refresh, where the two differ or one is missing -/
  | bindingMismatch (binding : Nat) (expected found : Option Assignment)
  | uniformValueSize (name : String) (expected found : Nat)
  | uniformValueKind (name : String) (type : TypeExpr) (found : ScalarKind)
deriving DecidableEq, Repr

/-- how a message shows a slot that may be missing -/
def slotText : Option Assignment → String
  | some a => a.text
  | none => "nothing"

/-- how a message says that a name stands for nothing -/
def noResource (name : String) : String := "No resource named " ++ quoted name

/-- how a message says that a size leaves the 32-bit sizes -/
def tooLarge (name : String) : String := "Size of " ++ quoted name ++ " doesn't fit in 32 bits"

/-- how a message names a member of a struct -/
def memberOf (owner member : String) : String := "(field " ++ quoted member ++ " of struct " ++ quoted owner ++ ")"

def Error.message : Error → String
  | .unknownType owner member name =>
    "Type " ++ quoted name ++ " " ++ memberOf owner member
      ++ " is neither a known type nor a previously declared struct"
  | .zeroLengthArray type => "Array type " ++ quoted type.text ++ " has zero length"
  | .runtimeArrayNotLast owner member type =>
    "Runtime-sized array " ++ quoted type.text ++ " " ++ memberOf owner member ++ " must be the last field"
  | .structTooLarge name => tooLarge name
  | .typeTooLarge type => tooLarge type.text
  | .subWordPadding owner after bytes =>
    "Struct " ++ quoted owner ++ " needs " ++ toString bytes ++ " padding bytes after " ++ quoted after
      ++ ", which is not a whole number of 4-byte words"
  | .unknownConstant type constant =>
    "Array length " ++ quoted constant ++ " in " ++ quoted type.text ++ " is not a declared integer constant"
  | .malformed owner fault => "Can't parse struct " ++ quoted owner ++ ": " ++ fault.message
  | .conflictingStruct name => "Struct " ++ quoted name ++ " is declared twice with different fields"
  | .duplicateStorage name => "Storage " ++ quoted name ++ " is already declared"
  | .duplicateConstant name => "Constant " ++ quoted name ++ " is already declared"
  | .halfPinnedTexture name =>
    "Binding texture " ++ quoted name ++ " sets only one of its write/read pass indices"
  | .bindingTextureWithoutCompute name =>
    "Binding texture " ++ quoted name ++ " requires a compute stage, but no render pass has one"
  | .tooManyPasses count => toString count ++ " render passes can't be indexed by a u32"
  | .emptyPass pass => "Render pass " ++ toString pass ++ " has no shader stages"
  | .incompletePair pass =>
    "Render pass " ++ toString pass ++ " declares only one of its vertex/fragment pair"
  | .unknownResource name => noResource name
  | .unknownPass pass => noResource ("render pass " ++ toString pass)
  | .unknownStage stage pass => noResource (stage.name ++ " stage of render pass " ++ toString pass)
  | .storageNotMapped name => "Storage " ++ quoted name ++ " was declared without a mapped payload"
  | .storageSizeMismatch name first second =>
    "Storage " ++ quoted name ++ " is " ++ toString first ++ " bytes in one render pass and "
      ++ toString second ++ " bytes in another"
  | .bindingMismatch binding expected found =>
    "Binding " ++ toString binding ++ " no longer matches its layout: expected " ++ slotText expected
      ++ ", found " ++ slotText found
  | .uniformValueSize name expected found =>
    "Uniform " ++ quoted name ++ " is " ++ toString expected ++ " bytes but its value is "
      ++ toString found ++ " bytes"
  | .uniformValueKind name type found =>
    "Uniform " ++ quoted name ++ " of type " ++ quoted type.text ++ " can't hold a " ++ found.name ++ " value"

inductive Warning where
  /-- a uniform declared again under another type, which it does not take -/
  | uniformTypeChanged (name kept requested : String)
  /-- a resource declared again, which changes nothing -/
  | duplicateDeclaration (kind : ResourceKind) (name : String)
deriving DecidableEq, Repr

def Warning.message : Warning → String
  | .uniformTypeChanged name kept requested =>
    "uniform " ++ quoted name ++ " can't change type from " ++ quoted kept ++ " to " ++ quoted requested
      ++ "; keeping " ++ quoted kept
  | .duplicateDeclaration kind name => kind.label ++ " " ++ quoted name ++ " is already declared; ignoring"

end ShaderInterface

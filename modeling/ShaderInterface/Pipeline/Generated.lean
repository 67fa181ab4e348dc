/-
Generated source: the structs of the uniform blocks and the constants, which every stage of a pass gets in front of
its own code.
-/
import ShaderInterface.Binding.Synthesis

namespace ShaderInterface

/-- the line that declares a uniform as a member of its block -/
def memberLine (u : Uniform) : String := "    " ++ u.name ++ ": " ++ u.type ++ ",\n"

/-- the struct of a uniform block, or no text without uniforms -/
def blockText (struct : String) (uniforms : List Uniform) : String :=
  if uniforms.isEmpty then ""
  else "struct " ++ struct ++ " \x7b\n" ++ String.join (uniforms.map memberLine) ++ "\x7d\n"

/-- the line that declares a constant -/
def constantLine (c : Constant) : String := "const " ++ c.name ++ ": " ++ c.type ++ " = " ++ c.value ++ ";\n"

/-- the generated source of a pass: the user's uniforms, the internal ones if the pass is internal, its mesh uniforms,
and the constants -/
def generatedText (registry : Registry) (pass : PassContext) : String :=
  blockText (BlockName.uniforms false).struct (registry.groupUniforms false)
    ++ (if pass.internal then blockText (BlockName.uniforms true).struct (registry.groupUniforms true) else "")
    ++ blockText BlockName.mesh.struct (registry.passUniforms pass.index)
    ++ String.join (registry.constants.map constantLine)

end ShaderInterface

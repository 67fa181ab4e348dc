import ShaderInterface.Pipeline.CompiledPipeline
import ShaderInterface.Proofs.Source.StructGrammar
import ShaderInterface.Proofs.Source.TypeText
import ShaderInterface.Proofs.Source.Trivia
import ShaderInterface.Proofs.Text.Numeral
import ShaderInterface.Proofs.Layout.Tiling
import ShaderInterface.Proofs.Layout.PaddingRule
import ShaderInterface.Proofs.Layout.SizeLimits
import ShaderInterface.Proofs.Layout.DeclarationOrder
import ShaderInterface.Proofs.Layout.Disagreements
import ShaderInterface.Proofs.Layout.Misalignment
import ShaderInterface.Proofs.Layout.ArraySizes
import ShaderInterface.Proofs.Layout.StructSizes
import ShaderInterface.Proofs.Layout.RuntimeArrays
import ShaderInterface.Proofs.Layout.ResolvedTypes
import ShaderInterface.Proofs.Layout.NamedLengths
import ShaderInterface.Proofs.Layout.PrimitiveNames
import ShaderInterface.Proofs.Uniform.Stream
import ShaderInterface.Proofs.Uniform.ExactPacking
import ShaderInterface.Proofs.Uniform.Unpacking
import ShaderInterface.Proofs.Binding.SlotOrder
import ShaderInterface.Proofs.Binding.DistinctSlots
import ShaderInterface.Proofs.Binding.FirstDivergence
import ShaderInterface.Proofs.Resource.Evolution
import ShaderInterface.Proofs.Resource.UniformGroups
import ShaderInterface.Proofs.Resource.UniformHistory
import ShaderInterface.Proofs.Pipeline.SlotAgreement
import ShaderInterface.Proofs.Pipeline.EmittedStructs
import ShaderInterface.Proofs.Pipeline.BlockLayouts
import ShaderInterface.Proofs.Pipeline.BlockSizes
import ShaderInterface.Proofs.Pipeline.PackedUniforms
import ShaderInterface.Proofs.Pipeline.StorageSizes
import ShaderInterface.Proofs.Pipeline.StableBindings
import ShaderInterface.Proofs.Pipeline.WritingStages
import ShaderInterface.Proofs.Pipeline.TextureWriters
import ShaderInterface.Proofs.Pipeline.ShiftedSlots
import ShaderInterface.Proofs.Pipeline.UserView
import ShaderInterface.Proofs.Pipeline.KnownNames

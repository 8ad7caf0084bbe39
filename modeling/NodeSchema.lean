import NodeSchema.Main
import NodeSchema.Workspace.Housekeeping
import NodeSchema.Proofs.TextualDeclaration
import NodeSchema.Proofs.DeclarationDecoding
import NodeSchema.Proofs.Compilation
import NodeSchema.Proofs.CanonicalText
import NodeSchema.Proofs.OutputPath
import NodeSchema.Proofs.CompilationOrder
import NodeSchema.Proofs.GenerationOutcomes
import NodeSchema.Proofs.ProgramOutcomes
import NodeSchema.Proofs.BracketCounts
import NodeSchema.Proofs.FirstFault
import NodeSchema.Proofs.ConstructorClashes
import NodeSchema.Proofs.ConstructorFunctions
import NodeSchema.Proofs.FieldFaults
import NodeSchema.Proofs.SelfReferences
import NodeSchema.Proofs.TrailingText
import NodeSchema.Proofs.CompilationLog
import NodeSchema.Proofs.RepeatedRuns
import NodeSchema.Proofs.BoxingHistory
import NodeSchema.Proofs.CommandLineShape
import NodeSchema.Proofs.DescriptorWalking

import ModelImport.Function.Printer
import ModelImport.Import
import ModelImport.Proofs.Cancellation
import ModelImport.Proofs.Completeness
import ModelImport.Proofs.ConfigurationForms
import ModelImport.Proofs.ConverterEffect
import ModelImport.Proofs.DefinitionSites
import ModelImport.Proofs.FailureReports
import ModelImport.Proofs.FaultIsolation
import ModelImport.Proofs.KeptConfiguration
import ModelImport.Proofs.LexicalScope
import ModelImport.Proofs.LoopAgreement
import ModelImport.Proofs.NameBlind
import ModelImport.Proofs.NodeBindings
import ModelImport.Proofs.RenamedRun
import ModelImport.Proofs.Renaming
import ModelImport.Proofs.RestingState
import ModelImport.Proofs.WellScoped
import ModelImport.Proofs.Broadcasting
import ModelImport.Proofs.IdentityElimination
import ModelImport.Proofs.StrictAccess
import ModelImport.Proofs.StrictInference
import ModelImport.Proofs.StrictLayout
import ModelImport.Proofs.StrictOperators
import ModelImport.Proofs.StrictConverters
import ModelImport.Proofs.StrictLoops
import ModelImport.Proofs.MatrixProducts
import ModelImport.Proofs.EinsumGrammar
import ModelImport.Proofs.EinsumShapes
import ModelImport.Proofs.TensorEncoding
import ModelImport.Proofs.StoredTensors
import ModelImport.Proofs.SliceWalk
import ModelImport.Proofs.ReshapeShapes
import ModelImport.Proofs.SlidingWindows
import ModelImport.Proofs.WindowNodes
import ModelImport.Proofs.UnitAxes
import ModelImport.Proofs.KeptAxes
import ModelImport.Proofs.Partitions
import ModelImport.Proofs.Flattening
import ModelImport.Proofs.AxisOrders
import ModelImport.Proofs.IntegerConstants
import ModelImport.Proofs.FoldedShapes
import ModelImport.Proofs.MessageEncoding
import ModelImport.Proofs.ScopeLoops
import ModelImport.Proofs.WindowCounts
import ModelImport.Proofs.AttributeCalls
import ModelImport.Proofs.ReportReading
import ModelImport.Proofs.AxisResidues

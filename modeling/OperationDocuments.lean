import OperationDocuments.Main
import OperationDocuments.Proofs.Closure
import OperationDocuments.Proofs.DepthFirst
import OperationDocuments.Proofs.Expansion
import OperationDocuments.Proofs.FileLoads
import OperationDocuments.Proofs.FileTree
import OperationDocuments.Proofs.HandedOut
import OperationDocuments.Proofs.ImportGraph
import OperationDocuments.Proofs.JsonReading
import OperationDocuments.Proofs.JsonTokens
import OperationDocuments.Proofs.LineEnds
import OperationDocuments.Proofs.LiteralValues
import OperationDocuments.Proofs.Literals
import OperationDocuments.Proofs.Load
import OperationDocuments.Proofs.Mentions
import OperationDocuments.Proofs.ModuleReading
import OperationDocuments.Proofs.Nesting
import OperationDocuments.Proofs.NormalPaths
import OperationDocuments.Proofs.ParsedNames
import OperationDocuments.Proofs.Reloading
import OperationDocuments.Proofs.ReportedErrors
import OperationDocuments.Proofs.Runs
import OperationDocuments.Proofs.SentVariables
import OperationDocuments.Proofs.Separation
import OperationDocuments.Proofs.SplitNames
import OperationDocuments.Proofs.SplitOutcome
import OperationDocuments.Proofs.SplitRun
import OperationDocuments.Proofs.VariablesRun

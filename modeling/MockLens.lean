import MockLens.Main
import MockLens.Proofs.AgreedNames
import MockLens.Proofs.Assignments
import MockLens.Proofs.BlockImports
import MockLens.Proofs.CallClassification
import MockLens.Proofs.CallCoverage
import MockLens.Proofs.CanonicalKeys
import MockLens.Proofs.CatalogueOrder
import MockLens.Proofs.HintClasses
import MockLens.Proofs.ImportedNames
import MockLens.Proofs.IndexRuns
import MockLens.Proofs.LiteralGrammar
import MockLens.Proofs.LiteralTargets
import MockLens.Proofs.MethodTargets
import MockLens.Proofs.MockLiterals
import MockLens.Proofs.NameRanges
import MockLens.Proofs.OfferedClasses
import MockLens.Proofs.OfferedNames
import MockLens.Proofs.Parameters
import MockLens.Proofs.PassThrough
import MockLens.Proofs.Positions
import MockLens.Proofs.ScanBesideEdits
import MockLens.Proofs.ScopeIsolation
import MockLens.Proofs.Stacks
import MockLens.Proofs.StoredDocuments
import MockLens.Proofs.UncutCharacters
import MockLens.Proofs.VendorFiles
import MockLens.Proofs.WellFormedTypes
import MockLens.Proofs.FileEntries

import VectorForge.Main
import VectorForge.Proofs.FamilyFits
import VectorForge.Proofs.ArgumentHygiene
import VectorForge.Proofs.FileSections
import VectorForge.Proofs.WrittenFiles
import VectorForge.Proofs.ComparisonMeaning
import VectorForge.Proofs.RegionMarkers
import VectorForge.Proofs.Relocation
import VectorForge.Proofs.OptionReach
import VectorForge.Proofs.BracketedFiles
import VectorForge.Proofs.CommandRuns
import VectorForge.Proofs.FunctionMeaning
import VectorForge.Proofs.ComponentPlaces
import VectorForge.Proofs.IndexerLaws
import VectorForge.Proofs.TemplateSpelling
import VectorForge.Proofs.TemplateInlining
import VectorForge.Proofs.SequenceExpansion
import VectorForge.Proofs.FailedRuns
import VectorForge.Proofs.ScopedDepth
import VectorForge.Proofs.RegionDepth
import VectorForge.Proofs.ConfigRules
import VectorForge.Proofs.EditedConfigs
import VectorForge.Proofs.ManifestDistance
import VectorForge.Proofs.SpreadMembers

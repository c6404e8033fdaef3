import SemanticLayer.Bundle.Basic
import SemanticLayer.Bundle.Write
import SemanticLayer.Calendar
import SemanticLayer.Change.Basic
import SemanticLayer.Change.Diff
import SemanticLayer.Cli.Command
import SemanticLayer.Cli.Run
import SemanticLayer.Compile.Basic
import SemanticLayer.Compile.Options
import SemanticLayer.Config.Basic
import SemanticLayer.Digest.Sha256
import SemanticLayer.Document.Field
import SemanticLayer.Document.Finding
import SemanticLayer.Document.Grammar
import SemanticLayer.Document.Names
import SemanticLayer.Document.Scope
import SemanticLayer.Document.Source
import SemanticLayer.Document.Validation
import SemanticLayer.Drift.Basic
import SemanticLayer.Drift.Detection
import SemanticLayer.Drift.Mapping
import SemanticLayer.Drift.View
import SemanticLayer.Evaluation.Basic
import SemanticLayer.Evaluation.Check
import SemanticLayer.Evaluation.JoinGraph
import SemanticLayer.Evaluation.Threshold
import SemanticLayer.Files.Archive
import SemanticLayer.Files.Path
import SemanticLayer.Files.Tree
import SemanticLayer.Json.Basic
import SemanticLayer.Json.Cursor
import SemanticLayer.Json.Pointer
import SemanticLayer.Json.Reader
import SemanticLayer.Json.Record
import SemanticLayer.Json.Shape
import SemanticLayer.Json.Writer
import SemanticLayer.Keyed
import SemanticLayer.LineDiff.Compact
import SemanticLayer.LineDiff.Script
import SemanticLayer.LineDiff.Shortest
import SemanticLayer.Main
import SemanticLayer.Model.Basic
import SemanticLayer.Model.Codec
import SemanticLayer.Model.Yaml
import SemanticLayer.Number.Binary64
import SemanticLayer.Number.Shortest
import SemanticLayer.Ontology.Basic
import SemanticLayer.Ontology.Codec
import SemanticLayer.Ontology.Normalize
import SemanticLayer.Ontology.Vocabulary
import SemanticLayer.Promotion.Basic
import SemanticLayer.Promotion.Rollback
import SemanticLayer.Provider.Basic
import SemanticLayer.Provider.Catalog
import SemanticLayer.Provider.Snapshot
import SemanticLayer.Report.Basic
import SemanticLayer.Report.BoxTable
import SemanticLayer.Report.Csv
import SemanticLayer.Shape
import SemanticLayer.Sql.Literal
import SemanticLayer.Sql.Script
import SemanticLayer.Text.Ascii
import SemanticLayer.Text.Blank
import SemanticLayer.Text.CaseTable
import SemanticLayer.Text.EmojiTable
import SemanticLayer.Text.Lower
import SemanticLayer.Text.Quoted
import SemanticLayer.Text.Range
import SemanticLayer.Text.Utf8
import SemanticLayer.Text.Width
import SemanticLayer.Text.WidthTable
import SemanticLayer.Toml.Reader
import SemanticLayer.Toml.Scalar
import SemanticLayer.Toml.Table
import SemanticLayer.Yaml.Chars
import SemanticLayer.Yaml.Cursor
import SemanticLayer.Yaml.Node.Basic
import SemanticLayer.Yaml.Node.Shape
import SemanticLayer.Yaml.Node.Value
import SemanticLayer.Yaml.Plain
import SemanticLayer.Yaml.Token.Basic
import SemanticLayer.Yaml.Token.Scalar
import SemanticLayer.Yaml.Token.Scan
import SemanticLayer.Yaml.Writer
import SemanticLayer.Proofs.CanonicalText
import SemanticLayer.Proofs.TextOrder
import SemanticLayer.Proofs.DeclarationOrder
import SemanticLayer.Proofs.FirstNames
import SemanticLayer.Proofs.DocumentForm
import SemanticLayer.Proofs.Reversal
import SemanticLayer.Proofs.VersionHistory
import SemanticLayer.Proofs.WellFormed
import SemanticLayer.Proofs.FreshDeployment
import SemanticLayer.Proofs.JsonPointer
import SemanticLayer.Proofs.FindingPlaces
import SemanticLayer.Proofs.GateAgreement
import SemanticLayer.Proofs.ModelText
import SemanticLayer.Proofs.BundleContents
import SemanticLayer.Proofs.SqlScripts
import SemanticLayer.Proofs.SqlStatements
import SemanticLayer.Proofs.BundleChecksum
import SemanticLayer.Proofs.PromotedDeployment
import SemanticLayer.Proofs.PromotionContents
import SemanticLayer.Proofs.DeclaredPlace
import SemanticLayer.Proofs.PromotionTargets
import SemanticLayer.Proofs.EnvironmentIsolation
import SemanticLayer.Proofs.ComparedViews
import SemanticLayer.Proofs.SilentDiff
import SemanticLayer.Proofs.JoinPaths
import SemanticLayer.Proofs.ColumnMatching
import SemanticLayer.Proofs.ColumnAccounts
import SemanticLayer.Proofs.NamedTables
import SemanticLayer.Proofs.ClosedModels
import SemanticLayer.Proofs.WeakerRules
import SemanticLayer.Proofs.RecordText
import SemanticLayer.Proofs.AssembledBundle
import SemanticLayer.Proofs.BundleIdentity
import SemanticLayer.Proofs.ExposedDimensions
import SemanticLayer.Proofs.PathCounts
import SemanticLayer.Proofs.ConnectedObjects
import SemanticLayer.Proofs.WrittenWords
import SemanticLayer.Proofs.TrackedContent
import SemanticLayer.Proofs.ReportedDifferences
import SemanticLayer.Proofs.ShownProperties
import SemanticLayer.Proofs.ColumnOrder
import SemanticLayer.Proofs.PropertyOrder
import SemanticLayer.Proofs.ViewListing
import SemanticLayer.Proofs.ForeseenCompilation
import SemanticLayer.Proofs.Fingerprint
import SemanticLayer.Proofs.ReorderedVerdict
import SemanticLayer.Proofs.TableLookup
import SemanticLayer.Proofs.WrittenPaths
import SemanticLayer.Proofs.StoredNames
import SemanticLayer.Proofs.IdentifiedChanges
import SemanticLayer.Proofs.ReproducedTexts
import SemanticLayer.Proofs.RepeatedNames

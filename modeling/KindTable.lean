import KindTable.Artifact.Basic
import KindTable.Artifact.Rows
import KindTable.Bisect
import KindTable.Bundled
import KindTable.Code.Comment
import KindTable.Code.File
import KindTable.Code.Names
import KindTable.Code.Opcodes
import KindTable.Code.Pieces
import KindTable.Code.Reader
import KindTable.Code.Set
import KindTable.Code.Spelling
import KindTable.Code.Stubs
import KindTable.Code.Token
import KindTable.Code.Visitor
import KindTable.CommandLine.Arguments
import KindTable.CommandLine.Execute
import KindTable.CommandLine.Invocation
import KindTable.Config
import KindTable.Decimal.Shortest
import KindTable.Disk.Access
import KindTable.Disk.Basic
import KindTable.Disk.Fault
import KindTable.Disk.Made
import KindTable.Disk.Path
import KindTable.Disk.Place
import KindTable.Disk.Run
import KindTable.Drift
import KindTable.Entry
import KindTable.FileSet
import KindTable.GateSet
import KindTable.Gates.Fault
import KindTable.Gates.File
import KindTable.Gates.Resolve
import KindTable.Gates.Setting
import KindTable.Generate
import KindTable.Guarded.Generate
import KindTable.Guarded.Panic
import KindTable.Guarded.Source
import KindTable.Identifier
import KindTable.Json.Booleans
import KindTable.Json.Cursor
import KindTable.Json.Fault
import KindTable.Json.Number
import KindTable.Json.Reader
import KindTable.Json.Text
import KindTable.Json.Value
import KindTable.Latest
import KindTable.Layout
import KindTable.Listing
import KindTable.Main
import KindTable.Manifest
import KindTable.Outcome
import KindTable.Proofs.Acceptance
import KindTable.Proofs.Alignment
import KindTable.Proofs.AppendedDeclarations
import KindTable.Proofs.Authoring
import KindTable.Proofs.CodeAgreement
import KindTable.Proofs.CodeReading
import KindTable.Proofs.Concatenation
import KindTable.Proofs.DeclarationSpans
import KindTable.Proofs.DefectPlaces
import KindTable.Proofs.DispatchLookup
import KindTable.Proofs.Displacement
import KindTable.Proofs.DriftReport
import KindTable.Proofs.Drivers
import KindTable.Proofs.Emission
import KindTable.Proofs.GateLayers
import KindTable.Proofs.GateRelevance
import KindTable.Proofs.GateShift
import KindTable.Proofs.GeneratedCode
import KindTable.Proofs.GuardedRun
import KindTable.Proofs.GuardedSource
import KindTable.Proofs.JsonReading
import KindTable.Proofs.Language
import KindTable.Proofs.LayoutTokens
import KindTable.Proofs.LegalNames
import KindTable.Proofs.LexemePlaces
import KindTable.Proofs.LineDiff
import KindTable.Proofs.LineEndings
import KindTable.Proofs.LineGrammar
import KindTable.Proofs.LineSpelling
import KindTable.Proofs.ListingFields
import KindTable.Proofs.Lowering
import KindTable.Proofs.ManifestReading
import KindTable.Proofs.ManifestReport
import KindTable.Proofs.MethodCollisions
import KindTable.Proofs.Monotonicity
import KindTable.Proofs.Numbering
import KindTable.Proofs.OpcodePaths
import KindTable.Proofs.OutputSelection
import KindTable.Proofs.ReadOnlyCommands
import KindTable.Proofs.Recovery
import KindTable.Proofs.Regeneration
import KindTable.Proofs.Reselection
import KindTable.Proofs.ReservedNumbering
import KindTable.Proofs.SettingGrammar
import KindTable.Proofs.ShapeAlignment
import KindTable.Proofs.SlotEnumeration
import KindTable.Proofs.SourceLines
import KindTable.Proofs.StandardNaming
import KindTable.Proofs.StatefulLoops
import KindTable.Proofs.StoppedWrites
import KindTable.Proofs.StrayCharacters
import KindTable.Proofs.TableSize
import KindTable.Proofs.TokenPlaces
import KindTable.Proofs.TokenStream
import KindTable.Proofs.ToolkitLaws
import KindTable.Proofs.Ungated
import KindTable.Proofs.WholeLines
import KindTable.Proofs.WrittenTable
import KindTable.Registry
import KindTable.Report.Excerpt
import KindTable.Report.Render
import KindTable.Report.Window
import KindTable.Selection
import KindTable.Slot
import KindTable.Source.Declaration
import KindTable.Source.Defect
import KindTable.Source.Lexer
import KindTable.Source.Parser
import KindTable.Source.Span
import KindTable.Source.Table
import KindTable.Source.Token
import KindTable.Text.Diff
import KindTable.Text.Glyph
import KindTable.Text.LineBreak
import KindTable.Text.Numeral
import KindTable.Text.Pad
import KindTable.Text.Quoted
import KindTable.Text.Snake
import KindTable.Text.Split
import KindTable.Text.Trim
import KindTable.Text.Wrap
import KindTable.Toolkit
import KindTable.Unicode.Blank
import KindTable.Unicode.Case
import KindTable.Unicode.LineClass
import KindTable.Unicode.Printable
import KindTable.Unicode.Ranges
import KindTable.Unicode.Width
import KindTable.Unicode.Word

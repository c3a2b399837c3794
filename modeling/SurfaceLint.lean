import SurfaceLint.Address
import SurfaceLint.Address.Host
import SurfaceLint.Brackets
import SurfaceLint.Catalog
import SurfaceLint.CommandLine.Command
import SurfaceLint.CommandLine.Files
import SurfaceLint.CommandLine.Grammar
import SurfaceLint.CommandLine.Help
import SurfaceLint.CommandLine.Program
import SurfaceLint.CommandLine.Report
import SurfaceLint.Decimal
import SurfaceLint.Decimal.Shortest
import SurfaceLint.Diagnostic
import SurfaceLint.Dialect
import SurfaceLint.Explanation
import SurfaceLint.Finding
import SurfaceLint.Json
import SurfaceLint.Json.Reader
import SurfaceLint.Main
import SurfaceLint.Names.Declaration
import SurfaceLint.Names.Reference
import SurfaceLint.Path
import SurfaceLint.Rule
import SurfaceLint.Server.Notice
import SurfaceLint.Server.Session
import SurfaceLint.Server.Settings
import SurfaceLint.Server.World
import SurfaceLint.Table
import SurfaceLint.Text.Character
import SurfaceLint.Text.Digit
import SurfaceLint.Text.Encoding
import SurfaceLint.Text.LineIndex
import SurfaceLint.Text.Position
import SurfaceLint.Text.PrintableTable
import SurfaceLint.Text.Scan
import SurfaceLint.Text.WordTable
import SurfaceLint.Proofs.Text.Position
import SurfaceLint.Proofs.Text.Scan
import SurfaceLint.Proofs.Names.Occurrence
import SurfaceLint.Proofs.Traversal
import SurfaceLint.Proofs.Finding
import SurfaceLint.Proofs.Diagnostic.Range
import SurfaceLint.Proofs.Explanation
import SurfaceLint.Proofs.LineEnding.Scan
import SurfaceLint.Proofs.Server.Session
import SurfaceLint.Proofs.LineEnding.Names
import SurfaceLint.Proofs.LineEnding.Diagnostic
import SurfaceLint.Proofs.Brackets.Grammar
import SurfaceLint.Proofs.Brackets.Pairs
import SurfaceLint.Proofs.Text.LineIndex
import SurfaceLint.Proofs.Text.LinePlaces
import SurfaceLint.Proofs.Brackets.Partition
import SurfaceLint.Proofs.Diagnostic.Total
import SurfaceLint.Proofs.Server.Isolation
import SurfaceLint.Proofs.Names.ArgumentGrammar
import SurfaceLint.Proofs.Text.Blank
import SurfaceLint.Proofs.Text.ScanPlaces
import SurfaceLint.Proofs.Names.CallSite
import SurfaceLint.Proofs.BlankLines.Diagnostic
import SurfaceLint.Proofs.AppendedLine.Scan
import SurfaceLint.Proofs.AppendedLine.Declaration
import SurfaceLint.Proofs.Names.KeywordDeclaration
import SurfaceLint.Proofs.Names.ConsoleCall
import SurfaceLint.Proofs.Names.SharedReference
import SurfaceLint.Proofs.Diagnostic.UndefinedReferences
import SurfaceLint.Proofs.Brackets.Concatenation
import SurfaceLint.Proofs.Names.FunctionPattern
import SurfaceLint.Proofs.AppendedLine.Declared
import SurfaceLint.Proofs.AppendedLine.Call
import SurfaceLint.Proofs.Text.Trim
import SurfaceLint.Proofs.Names.PrintPattern
import SurfaceLint.Proofs.Names.EveryOccurrence
import SurfaceLint.Proofs.Names.ParameterPiece
import SurfaceLint.Proofs.Names.Parameters
import SurfaceLint.Proofs.Names.LineByLine
import SurfaceLint.Proofs.Server.Settings
import SurfaceLint.Proofs.Diagnostic.SwitchedOff
import SurfaceLint.Proofs.Server.Untitled
import SurfaceLint.Proofs.CommandLine.Check
import SurfaceLint.Proofs.Json.RoundTrip
import SurfaceLint.Proofs.CommandLine.Reports

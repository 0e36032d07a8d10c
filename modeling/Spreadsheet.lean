import Spreadsheet.Selection
import Spreadsheet.Table
import Spreadsheet.Number.Literal
import Spreadsheet.Number.Display
import Spreadsheet.Calendar
import Spreadsheet.Grid
import Spreadsheet.Formula.Token
import Spreadsheet.Formula.Grammar
import Spreadsheet.Formula.Shift
import Spreadsheet.Formula.Builtin
import Spreadsheet.Formula.Evaluation
import Spreadsheet.Format
import Spreadsheet.Text.Casing
import Spreadsheet.Json.Reading
import Spreadsheet.Json.View
import Spreadsheet.Sheet.Styling
import Spreadsheet.Sheet.Filtering
import Spreadsheet.Sheet.Sorting
import Spreadsheet.Sheet.Filling
import Spreadsheet.Sheet.Pasting
import Spreadsheet.Csv.Records
import Spreadsheet.Text.Encoding
import Spreadsheet.Csv.Export
import Spreadsheet.Csv.Import
import Spreadsheet.Payload.Workbook
import Spreadsheet.Settings
import Spreadsheet.History
import Spreadsheet.Debounce
import Spreadsheet.Clipboard
import Spreadsheet.Archive
import Spreadsheet.Session.Action
import Spreadsheet.Workbook.Edit
import Spreadsheet.Proofs.Session.Autosave
import Spreadsheet.Proofs.Payload.Workbook
import Spreadsheet.Proofs.Formula.Acyclic
import Spreadsheet.Proofs.Formula.Translation
import Spreadsheet.Proofs.Formula.Parsing
import Spreadsheet.Proofs.Sheet.Merges
import Spreadsheet.Proofs.History
import Spreadsheet.Proofs.Session.Change
import Spreadsheet.Proofs.Range
import Spreadsheet.Proofs.Run
import Spreadsheet.Proofs.Session.Sound
import Spreadsheet.Proofs.Session.Undo
import Spreadsheet.Proofs.Session.Gesture
import Spreadsheet.Proofs.Session.Selection
import Spreadsheet.Proofs.Session.OpenEdit
import Spreadsheet.Proofs.Csv.Roundtrip
import Spreadsheet.Proofs.Csv.Placement
import Spreadsheet.Proofs.Formula.Reach
import Spreadsheet.Proofs.Formula.Faults
import Spreadsheet.Proofs.Formula.Stepping
import Spreadsheet.Proofs.Payload.Merges
import Spreadsheet.Proofs.Session.ActiveSheet
import Spreadsheet.Proofs.Timeline
import Spreadsheet.Proofs.Payload.Canonical
import Spreadsheet.Proofs.Sheet.Sorting
import Spreadsheet.Proofs.Formula.Relocation
import Spreadsheet.Proofs.Sheet.Pasted
import Spreadsheet.Proofs.Csv.Coverage
import Spreadsheet.Proofs.Sheet.Filling
import Spreadsheet.Proofs.Sheet.Merging
import Spreadsheet.Proofs.Sheet.Commuting
import Spreadsheet.Proofs.Sheet.Freezing
import Spreadsheet.Proofs.Sheet.Movement
import Spreadsheet.Proofs.Sheet.Showing
import Spreadsheet.Proofs.Formula.Naming
import Spreadsheet.Proofs.Workbook.Naming
import Spreadsheet.Proofs.Sheet.Formatting
import Spreadsheet.Proofs.Sheet.Remapping
import Spreadsheet.Proofs.Formula.Quotation
import Spreadsheet.Proofs.Number.Grouping
import Spreadsheet.Proofs.Session.Clipboard
import Spreadsheet.Proofs.Session.Debounce
import Spreadsheet.Proofs.Settings.Roundtrip

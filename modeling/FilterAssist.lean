import FilterAssist.Csv
import FilterAssist.Field
import FilterAssist.Lexer.Cursor
import FilterAssist.Main
import FilterAssist.Proofs.Buffer.Relex
import FilterAssist.Proofs.Buffer.Vectors
import FilterAssist.Proofs.Document.NearestToken
import FilterAssist.Proofs.Field.Replacement
import FilterAssist.Proofs.Fold.EditedLines
import FilterAssist.Proofs.Fold.Tracking
import FilterAssist.Proofs.Fold.Uniqueness
import FilterAssist.Proofs.Lexer.Tiling
import FilterAssist.Proofs.Lexer.Brackets
import FilterAssist.Proofs.Completion.ReplacedText
import FilterAssist.Proofs.Lexer.OpenLines
import FilterAssist.Proofs.Completion.OpenLines
import FilterAssist.Proofs.Field.ListItems
import FilterAssist.Proofs.Lexer.LayoutIndependence
import FilterAssist.Proofs.Text.LetterCase
import FilterAssist.Proofs.Lexer.LetterCase
import FilterAssist.Proofs.Fold.Placeholders
import FilterAssist.Proofs.Fold.Gutters
import FilterAssist.Proofs.Fold.Loading
import FilterAssist.Proofs.Fold.Clicks
import FilterAssist.Proofs.Lexer.PlainScan
import FilterAssist.Proofs.Lexer.VisualColumns
import FilterAssist.Proofs.Lexer.StateInvariant
import FilterAssist.Proofs.Lexer.EndMarks
import FilterAssist.Proofs.Lexer.Words
import FilterAssist.Proofs.Buffer.ReportedLines
import FilterAssist.Proofs.Text.LowerCase
import FilterAssist.Proofs.Lexer.Gaps
import FilterAssist.Proofs.Completion.Candidates
import FilterAssist.Proofs.Completion.Sessions
import FilterAssist.Proofs.Binary64.DecimalText
import FilterAssist.Proofs.Csv.WrittenRows
import FilterAssist.Proofs.Geo.ReadBack
import FilterAssist.Proofs.Lexer.Numbers
import FilterAssist.Proofs.Document.WalkRounds
import FilterAssist.Proofs.Settings.Merged
import FilterAssist.Proofs.Settings.Reading
import FilterAssist.Proofs.Settings.Standard
import FilterAssist.Proofs.Settings.Layers

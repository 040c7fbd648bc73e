import NoteBase.CommandLine.Report
import NoteBase.Config.Base
import NoteBase.Main
import NoteBase.Proofs.Calendar.DayNumber
import NoteBase.Proofs.Calendar.Epoch
import NoteBase.Proofs.Calendar.Text
import NoteBase.Proofs.Config.Base
import NoteBase.Proofs.Config.Combinators
import NoteBase.Proofs.Config.Document
import NoteBase.Proofs.Content.Addresses
import NoteBase.Proofs.Content.Hints
import NoteBase.Proofs.Content.PassedOver
import NoteBase.Proofs.Content.RoundTrip
import NoteBase.Proofs.Expr.Comparing
import NoteBase.Proofs.Expr.Footprint
import NoteBase.Proofs.Expr.FormulaMode
import NoteBase.Proofs.Expr.Grammar
import NoteBase.Proofs.Expr.LexicalErrors
import NoteBase.Proofs.Expr.Lexing
import NoteBase.Proofs.Expr.MissingInput
import NoteBase.Proofs.Expr.Parse
import NoteBase.Proofs.Expr.ParserErrors
import NoteBase.Proofs.Expr.ParserSound
import NoteBase.Proofs.Expr.Printer
import NoteBase.Proofs.Expr.Printing
import NoteBase.Proofs.Expr.Spelling
import NoteBase.Proofs.Expr.Truncation
import NoteBase.Proofs.Filter.Duality
import NoteBase.Proofs.Formula.Columns
import NoteBase.Proofs.Formula.Independence
import NoteBase.Proofs.Formula.Reattachment
import NoteBase.Proofs.Json.Scalars
import NoteBase.Proofs.Number.Display
import NoteBase.Proofs.Number.Integral
import NoteBase.Proofs.Number.Language
import NoteBase.Proofs.Number.Literals
import NoteBase.Proofs.Number.Nearest
import NoteBase.Proofs.Number.Numeral
import NoteBase.Proofs.Number.Order
import NoteBase.Proofs.Number.Rounding
import NoteBase.Proofs.Number.Shortest
import NoteBase.Proofs.Order.StableSort
import NoteBase.Proofs.Predicate.Compound
import NoteBase.Proofs.Predicate.LogicalTokens
import NoteBase.Proofs.Predicate.LoneComparison
import NoteBase.Proofs.Predicate.Operands
import NoteBase.Proofs.Predicate.PlainCall
import NoteBase.Proofs.Predicate.QuotedCall
import NoteBase.Proofs.Predicate.Sides
import NoteBase.Proofs.Predicate.Split
import NoteBase.Proofs.Predicate.Unlisted
import NoteBase.Proofs.Text.Collation
import NoteBase.Proofs.View.Group
import NoteBase.Proofs.View.ResultKeys
import NoteBase.Proofs.View.Sort
import NoteBase.Proofs.View.Summary

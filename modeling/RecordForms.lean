import RecordForms.Arrangement
import RecordForms.Command
import RecordForms.Diagnostic
import RecordForms.Expression.Operators
import RecordForms.Expression.Render
import RecordForms.FileTree
import RecordForms.Fragment
import RecordForms.Json.Basic
import RecordForms.Json.Fault
import RecordForms.Json.Numeral
import RecordForms.Json.Printer
import RecordForms.Json.Reader
import RecordForms.Json.Token
import RecordForms.Main
import RecordForms.Model.Document
import RecordForms.Model.Edit
import RecordForms.Model.Node
import RecordForms.Model.Session
import RecordForms.Model.Tree
import RecordForms.Model.Value
import RecordForms.Model.Vocabulary
import RecordForms.Number.Binary64
import RecordForms.Number.Decimal
import RecordForms.Number.Digits
import RecordForms.Number.Notation
import RecordForms.Number.Shortest
import RecordForms.Proofs.Acceptance
import RecordForms.Proofs.Ambiguity
import RecordForms.Proofs.Categories
import RecordForms.Proofs.ClassOrder
import RecordForms.Proofs.CleanExpression
import RecordForms.Proofs.CleanModule
import RecordForms.Proofs.Comments
import RecordForms.Proofs.Dangling
import RecordForms.Proofs.Decoration
import RecordForms.Proofs.Descent
import RecordForms.Proofs.Edits
import RecordForms.Proofs.Enclosing
import RecordForms.Proofs.Entries
import RecordForms.Proofs.Figures
import RecordForms.Proofs.Grammar
import RecordForms.Proofs.Identifiers
import RecordForms.Proofs.Indentation
import RecordForms.Proofs.InfixOrder
import RecordForms.Proofs.Journal
import RecordForms.Proofs.Legible
import RecordForms.Proofs.Loading
import RecordForms.Proofs.Mentions
import RecordForms.Proofs.ModuleText
import RecordForms.Proofs.Nesting
import RecordForms.Proofs.Order
import RecordForms.Proofs.Ownership
import RecordForms.Proofs.Parentheses
import RecordForms.Proofs.Placement
import RecordForms.Proofs.Precedence
import RecordForms.Proofs.Printed
import RecordForms.Proofs.Problems
import RecordForms.Proofs.Pruning
import RecordForms.Proofs.Reachable
import RecordForms.Proofs.Reloading
import RecordForms.Proofs.Rendering
import RecordForms.Proofs.Repeats
import RecordForms.Proofs.Roles
import RecordForms.Proofs.Saving
import RecordForms.Proofs.Tokens
import RecordForms.Proofs.TreeOrder
import RecordForms.Proofs.Visible
import RecordForms.Proofs.Words
import RecordForms.RecordModule
import RecordForms.Stored.Basic
import RecordForms.Stored.Load
import RecordForms.Stored.Reading
import RecordForms.Stored.Save
import RecordForms.Text.Blank
import RecordForms.Text.Case
import RecordForms.Text.Case.Cased
import RecordForms.Text.Case.Lower
import RecordForms.Text.Case.Mapping
import RecordForms.Text.Case.Upper
import RecordForms.Text.CharSet
import RecordForms.Text.Letter
import RecordForms.Text.Name
import RecordForms.Text.Quoted
import RecordForms.Text.Unprintable
import RecordForms.TextMap

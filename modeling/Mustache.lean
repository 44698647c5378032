import Mustache.Cursor
import Mustache.Decimal.Binary
import Mustache.Decimal.Float
import Mustache.Decimal.Integer
import Mustache.Decimal.Shortest
import Mustache.Delimiters
import Mustache.DepthLimit
import Mustache.Environment
import Mustache.Escape
import Mustache.Fault
import Mustache.Indent
import Mustache.Node
import Mustache.Node.Parser
import Mustache.Pattern
import Mustache.Position
import Mustache.Proofs.Decimal.Numeral
import Mustache.Proofs.Environment.Alone
import Mustache.Proofs.Environment.Lookup
import Mustache.Proofs.Lexer.Boundary
import Mustache.Proofs.Lexer.Comment
import Mustache.Proofs.Lexer.Failure
import Mustache.Proofs.Lexer.FreeContent
import Mustache.Proofs.Lexer.InEffect
import Mustache.Proofs.Lexer.Layout
import Mustache.Proofs.Lexer.LineEnding
import Mustache.Proofs.Lexer.Locality
import Mustache.Proofs.Lexer.Parallel
import Mustache.Proofs.Lexer.Pieces
import Mustache.Proofs.Lexer.Progress
import Mustache.Proofs.Lexer.Standalone
import Mustache.Proofs.Lexer.Step
import Mustache.Proofs.Lexer.TagStep
import Mustache.Proofs.Lexer.Tiling
import Mustache.Proofs.Node.Indentation
import Mustache.Proofs.Node.Linear
import Mustache.Proofs.Node.Nesting
import Mustache.Proofs.Node.PlainTag
import Mustache.Proofs.Node.Spelling
import Mustache.Proofs.Node.Viable
import Mustache.Proofs.Outcome
import Mustache.Proofs.Render.Blocked
import Mustache.Proofs.Render.Cache
import Mustache.Proofs.Render.Changing
import Mustache.Proofs.Render.Concatenation
import Mustache.Proofs.Render.Depth
import Mustache.Proofs.Render.Direct
import Mustache.Proofs.Render.DottedName
import Mustache.Proofs.Render.Ending
import Mustache.Proofs.Render.Faults
import Mustache.Proofs.Render.HostFault
import Mustache.Proofs.Render.InPlace
import Mustache.Proofs.Render.Law
import Mustache.Proofs.Render.Live
import Mustache.Proofs.Render.Markup
import Mustache.Proofs.Render.Requests
import Mustache.Proofs.Render.Stack
import Mustache.Proofs.Render.Strict
import Mustache.Proofs.Render.Uncached
import Mustache.Proofs.Render.Unescaped
import Mustache.Proofs.Render.Visit
import Mustache.Proofs.Render.Walk
import Mustache.Proofs.Scope.Resolution
import Mustache.Proofs.Session.Changes
import Mustache.Proofs.Session.Default
import Mustache.Proofs.Session.Frame
import Mustache.Proofs.Session.Registry
import Mustache.Proofs.Settings.Load
import Mustache.Proofs.Settings.Precedence
import Mustache.Proofs.Store.Chain
import Mustache.Proofs.Text.Coordinate
import Mustache.Proofs.Text.Entity
import Mustache.Proofs.Text.Indentation
import Mustache.Proofs.Text.Layout
import Mustache.Proofs.Text.Lines
import Mustache.Proofs.Text.Place
import Mustache.Proofs.Text.Solid
import Mustache.Proofs.Value.Alike
import Mustache.Proofs.Value.Membership
import Mustache.Proofs.Value.Reach
import Mustache.Proofs.Value.Sequence
import Mustache.Render
import Mustache.Scanner
import Mustache.Scope
import Mustache.Session
import Mustache.Session.Step
import Mustache.Settings
import Mustache.Settings.File
import Mustache.Store
import Mustache.Text.Basic
import Mustache.Text.Digit
import Mustache.Text.Printable
import Mustache.Text.Quoted
import Mustache.Text.Ranges
import Mustache.Text.Space
import Mustache.Text.Upper
import Mustache.Text.Word
import Mustache.Token
import Mustache.Token.Lexer
import Mustache.Value
import Mustache.Value.Description
import Mustache.Value.Key
import Mustache.Value.Literal
import Mustache.Value.Member
import Mustache.Value.Text

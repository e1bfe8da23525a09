import WidgetTemplate.Assertion
import WidgetTemplate.Main
import WidgetTemplate.Recording
import WidgetTemplate.Proofs.Compile.Flattening
import WidgetTemplate.Proofs.Recording.Trace
import WidgetTemplate.Proofs.WidgetTree.Outcome
import WidgetTemplate.Proofs.WidgetTree.History
import WidgetTemplate.Proofs.Compile.Renaming
import WidgetTemplate.Proofs.WidgetTree.Appending
import WidgetTemplate.Proofs.Recording.Replay
import WidgetTemplate.Proofs.Compile.Ledger
import WidgetTemplate.Proofs.Compile.Scopes
import WidgetTemplate.Proofs.Node.Canonical
import WidgetTemplate.Proofs.WidgetTree.Enumeration
import WidgetTemplate.Proofs.Json.Lexeme
import WidgetTemplate.Proofs.Json.Layout
import WidgetTemplate.Proofs.Json.Reading
import WidgetTemplate.Proofs.Json.Passing
import WidgetTemplate.Proofs.Node.Grammar
import WidgetTemplate.Proofs.Node.ElementText
import WidgetTemplate.Proofs.Json.Unambiguous
import WidgetTemplate.Proofs.Node.JsonText
import WidgetTemplate.Proofs.Format.Objects
import WidgetTemplate.Proofs.Compile.Composition
import WidgetTemplate.Proofs.Compile.Results
import WidgetTemplate.Proofs.Text.Entity
import WidgetTemplate.Proofs.Text.Quoted
import WidgetTemplate.Proofs.WidgetTree.Figure
import WidgetTemplate.Proofs.Format.Markup
import WidgetTemplate.Proofs.Format.Rows
import WidgetTemplate.Proofs.Format.Treeviz
import WidgetTemplate.Proofs.Recording.Refusal
import WidgetTemplate.Proofs.Node.Nesting
import WidgetTemplate.Proofs.WidgetTree.Ownership
import WidgetTemplate.Proofs.WidgetTree.Refusal
import WidgetTemplate.Proofs.Format.Order
import WidgetTemplate.Proofs.Format.Registry
import WidgetTemplate.Proofs.Source.Choice
import WidgetTemplate.Proofs.Settings.Layering
import WidgetTemplate.Proofs.WidgetTree.Identity
import WidgetTemplate.Proofs.Compile.Splicing
import WidgetTemplate.Proofs.Context.Script
import WidgetTemplate.Proofs.Assertion.Portrait
import WidgetTemplate.Proofs.Attribute.Display
import WidgetTemplate.Proofs.Precedence

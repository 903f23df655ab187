import Conformance.Check.Basic
import Conformance.Check.Collection
import Conformance.Check.Container
import Conformance.Check.Named
import Conformance.Check.Run
import Conformance.Check.Scalar
import Conformance.Context
import Conformance.Decimal.Layout
import Conformance.Decimal.Shortest
import Conformance.Error
import Conformance.Json.Basic
import Conformance.Json.Read
import Conformance.Json.Write
import Conformance.Pattern.Error
import Conformance.Pattern.Expr
import Conformance.Pattern.Footprint
import Conformance.Pattern.Match
import Conformance.Pattern.Read
import Conformance.Pattern.Resolve
import Conformance.Pattern.Tree
import Conformance.Pattern.Utf8
import Conformance.Qualifier
import Conformance.Service.Answer
import Conformance.Service.Encode
import Conformance.Text.CaseFold
import Conformance.Text.Classes
import Conformance.Text.Ranges
import Conformance.Text.Units
import Conformance.Time.Instant
import Conformance.TypeName
import Conformance.Unicode.Age
import Conformance.Unicode.Binary
import Conformance.Unicode.Break
import Conformance.Unicode.Category
import Conformance.Unicode.Names
import Conformance.Unicode.Property
import Conformance.Unicode.Script
import Conformance.Unicode.ScriptExtension
import Conformance.Typeset.Basic
import Conformance.Typeset.Classify
import Conformance.Typeset.Grammar
import Conformance.Typeset.Lint
import Conformance.Typeset.Normal
import Conformance.Value.Basic
import Conformance.Value.Print
import Conformance.Value.Tagged
import Conformance.Verdict
import Conformance.Main
import Conformance.Proofs.Recursion
import Conformance.Proofs.Alternatives
import Conformance.Proofs.Choice
import Conformance.Proofs.Normalization
import Conformance.Proofs.Safety
import Conformance.Proofs.Location
import Conformance.Proofs.Language
import Conformance.Proofs.Canonical
import Conformance.Proofs.RoundTrip
import Conformance.Proofs.Relaxation
import Conformance.Proofs.Descent
import Conformance.Proofs.Threading
import Conformance.Proofs.Registry
import Conformance.Proofs.Absence
import Conformance.Proofs.Refusal
import Conformance.Proofs.Projection
import Conformance.Proofs.Classification
import Conformance.Proofs.Violation
import Conformance.Proofs.Subtypes
import Conformance.Proofs.Raised
import Conformance.Proofs.SingleType
import Conformance.Proofs.ExactShape
import Conformance.Proofs.DeepHashMap
import Conformance.Proofs.TypeForms
import Conformance.Proofs.ScalarArguments
import Conformance.Proofs.MapEntries
import Conformance.Proofs.Cursor

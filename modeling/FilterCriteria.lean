import FilterCriteria.Assoc
import FilterCriteria.Compile
import FilterCriteria.Compile.Error
import FilterCriteria.Compile.Names
import FilterCriteria.Compile.Reduction
import FilterCriteria.Compile.Scope
import FilterCriteria.Criterion
import FilterCriteria.Criterion.Json
import FilterCriteria.Criterion.Operator
import FilterCriteria.Criterion.Text
import FilterCriteria.Eval.Conversion
import FilterCriteria.Eval.Error
import FilterCriteria.Eval.Evaluator
import FilterCriteria.Expr
import FilterCriteria.Expr.Operator
import FilterCriteria.Expr.Text
import FilterCriteria.Host
import FilterCriteria.Host.Argument
import FilterCriteria.Host.Dates
import FilterCriteria.Host.Math
import FilterCriteria.Host.Span
import FilterCriteria.Host.Strings
import FilterCriteria.Json
import FilterCriteria.Json.Decode
import FilterCriteria.Json.Number
import FilterCriteria.Json.Printer
import FilterCriteria.Json.Reader
import FilterCriteria.Number.Binary
import FilterCriteria.Number.Digits
import FilterCriteria.Number.Shortest
import FilterCriteria.Number.Text
import FilterCriteria.Pattern
import FilterCriteria.Proofs.Compile.Calls
import FilterCriteria.Proofs.Compile.Casts
import FilterCriteria.Proofs.Compile.Conditionals
import FilterCriteria.Proofs.Compile.Correspondence
import FilterCriteria.Proofs.Compile.CustomFunctions
import FilterCriteria.Proofs.Compile.Derivation
import FilterCriteria.Proofs.Compile.Enclosing
import FilterCriteria.Proofs.Compile.FilterChains
import FilterCriteria.Proofs.Compile.Folding
import FilterCriteria.Proofs.Compile.Fusion
import FilterCriteria.Proofs.Compile.Interchange
import FilterCriteria.Proofs.Compile.Meaning
import FilterCriteria.Proofs.Compile.Membership
import FilterCriteria.Proofs.Compile.Origin
import FilterCriteria.Proofs.Compile.Outcome
import FilterCriteria.Proofs.Compile.Paths
import FilterCriteria.Proofs.Compile.Queries
import FilterCriteria.Proofs.Compile.Renaming
import FilterCriteria.Proofs.Compile.Rules
import FilterCriteria.Proofs.Compile.Simulation
import FilterCriteria.Proofs.Compile.Supported
import FilterCriteria.Proofs.Criterion.Every
import FilterCriteria.Proofs.Criterion.Grouping
import FilterCriteria.Proofs.Criterion.JsonRoundTrip
import FilterCriteria.Proofs.Criterion.Operator
import FilterCriteria.Proofs.Criterion.Reader
import FilterCriteria.Proofs.Criterion.Reader.Atoms
import FilterCriteria.Proofs.Criterion.Reader.Operators
import FilterCriteria.Proofs.Criterion.Reader.Tokens
import FilterCriteria.Proofs.Criterion.Shown
import FilterCriteria.Proofs.Criterion.Unambiguous
import FilterCriteria.Proofs.Eval.Fold
import FilterCriteria.Proofs.Eval.Invariant
import FilterCriteria.Proofs.Expr.Children
import FilterCriteria.Proofs.Expr.Context
import FilterCriteria.Proofs.Host.DateArithmetic
import FilterCriteria.Proofs.Host.DateParts
import FilterCriteria.Proofs.Host.DateRange
import FilterCriteria.Proofs.Host.Extremes
import FilterCriteria.Proofs.Host.LocalTime
import FilterCriteria.Proofs.Host.Months
import FilterCriteria.Proofs.Host.SpanParts
import FilterCriteria.Proofs.Host.Substrings
import FilterCriteria.Proofs.Host.Ticks
import FilterCriteria.Proofs.Json.Decode
import FilterCriteria.Proofs.Json.RoundTrip
import FilterCriteria.Proofs.Json.Scalar
import FilterCriteria.Proofs.Number.Digits
import FilterCriteria.Proofs.Number.Double
import FilterCriteria.Proofs.Number.Rounding
import FilterCriteria.Proofs.Pattern
import FilterCriteria.Proofs.Registry.Bindings
import FilterCriteria.Proofs.Registry.History
import FilterCriteria.Proofs.Registry.Overlap
import FilterCriteria.Proofs.Registry.Runs
import FilterCriteria.Proofs.Text.Utf8
import FilterCriteria.Proofs.Time.Calendar
import FilterCriteria.Proofs.Time.DayNumber
import FilterCriteria.Proofs.Time.Iso
import FilterCriteria.Proofs.Time.Range
import FilterCriteria.Proofs.Time.Span
import FilterCriteria.Proofs.Time.Timeline
import FilterCriteria.Registry
import FilterCriteria.Report
import FilterCriteria.Text.Blank
import FilterCriteria.Text.LetterCase
import FilterCriteria.Text.LetterCase.Mapping
import FilterCriteria.Text.LetterCase.Property
import FilterCriteria.Time.Calendar
import FilterCriteria.Time.DateTime
import FilterCriteria.Time.Span
import FilterCriteria.Time.Text
import FilterCriteria.Time.Zone
import FilterCriteria.Ty
import FilterCriteria.Value

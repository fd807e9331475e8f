import TokenFormula.Algorithm.Check
import TokenFormula.Algorithm.Result
import TokenFormula.Algorithm.Trace
import TokenFormula.Journal
import TokenFormula.Main
import TokenFormula.Proofs.Algorithm.Agreement
import TokenFormula.Proofs.Algorithm.Bindings
import TokenFormula.Proofs.Algorithm.Checked
import TokenFormula.Proofs.Algorithm.Contained
import TokenFormula.Proofs.Algorithm.Cycles
import TokenFormula.Proofs.Algorithm.Edges
import TokenFormula.Proofs.Algorithm.Escape
import TokenFormula.Proofs.Algorithm.Failure
import TokenFormula.Proofs.Algorithm.Frame
import TokenFormula.Proofs.Algorithm.OwnTree
import TokenFormula.Proofs.Algorithm.Reach
import TokenFormula.Proofs.Algorithm.Rendering
import TokenFormula.Proofs.Algorithm.Rollback
import TokenFormula.Proofs.Algorithm.RoundTrip
import TokenFormula.Proofs.Algorithm.Series
import TokenFormula.Proofs.Algorithm.Step
import TokenFormula.Proofs.Algorithm.Trace
import TokenFormula.Proofs.Algorithm.Undefined
import TokenFormula.Proofs.Algorithm.Unused
import TokenFormula.Proofs.Expr.Alias
import TokenFormula.Proofs.Expr.Analyses
import TokenFormula.Proofs.Expr.Captured
import TokenFormula.Proofs.Expr.Converge
import TokenFormula.Proofs.Expr.Findings
import TokenFormula.Proofs.Expr.Fold
import TokenFormula.Proofs.Expr.Footprint
import TokenFormula.Proofs.Expr.HalfUp
import TokenFormula.Proofs.Expr.Integral
import TokenFormula.Proofs.Expr.Keeps
import TokenFormula.Proofs.Expr.Layout
import TokenFormula.Proofs.Expr.Normalized
import TokenFormula.Proofs.Expr.Origin
import TokenFormula.Proofs.Expr.Oversize
import TokenFormula.Proofs.Expr.Reading
import TokenFormula.Proofs.Expr.Reparse
import TokenFormula.Proofs.Expr.Reported
import TokenFormula.Proofs.Expr.Stored
import TokenFormula.Proofs.Grammar.Exact
import TokenFormula.Proofs.Grammar.Prefix
import TokenFormula.Proofs.Journal
import TokenFormula.Proofs.Number.Limit
import TokenFormula.Proofs.Scope
import TokenFormula.Proofs.Scope.Laws
import TokenFormula.Proofs.Settings.Resolve
import TokenFormula.Proofs.Value.Power
import TokenFormula.Proofs.Value.Text

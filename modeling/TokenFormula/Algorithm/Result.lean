import TokenFormula.Algorithm.Token
import TokenFormula.Algorithm.Wire

/-!
# Stored form of results

Results:
* `Run.ofWire`, `Run.toWire`: the outcome of a run.
* `Token.ofWire`, `Token.toWire`: a token of a series.
-/

namespace TokenFormula

open PartReader

/-- An entry that is left out for null. -/
def givenEntry (name : String) (v : Value) : Entries Value :=
  match v with
  | .null => []
  | v => [(name, v)]

/-- Reads the outcome of a run. -/
def Run.ofWire : PartReader Run :=
  record fun es =>
    Run.mk <$> (FieldName.single "variables").readOr [] (entries any) es
      <*> (FieldName.single "results").readOr [] (entries any) es
      <*> (FieldName.mk "iterationValue" "iteration_value").readOr (.int 0) number es
      <*> (FieldName.mk "finalResult" "final_result").readOr .null any es

/-- Writes the outcome of a run. -/
def Run.toWire (r : Run) : Value :=
  .dict ([("variables", (Value.dict r.variables).stored), ("results", (Value.dict r.results).stored),
    ("iterationValue", .num r.iteration)] ++
    (givenEntry "finalResult" r.final).map fun p => (p.1, p.2.stored))

/-- Reads the rendered value of a token. -/
def renderedOfWire : PartReader String :=
  record fun es => textField "value" es

/-- Writes the rendered value of a token. -/
def renderedToWire (s : String) : Value :=
  .dict [("value", .text s)]

/-- Reads a token. -/
def Token.ofWire : PartReader Token :=
  record fun es =>
    Token.mk <$> (FieldName.mk "tokenId" "token_id").read text es
      <*> (FieldName.mk "displayName" "display_name").read text es
      <*> (FieldName.single "value").readOr "" renderedOfWire es
      <*> (FieldName.mk "iterationValue" "iteration_value").read number es
      <*> (FieldName.mk "formulaName" "formula_name").read text es
      <*> textField? (.single "error") es

/-- Writes a token. -/
def Token.toWire (t : Token) : Value :=
  .dict ([("tokenId", .text t.id), ("displayName", .text t.displayName),
    ("value", renderedToWire t.value), ("iterationValue", .num t.iteration),
    ("formulaName", .text t.formula)] ++ optionalEntry "error" .text t.error?)

deriving instance BEq for Run, Token

end TokenFormula

import TokenFormula.Algorithm.Basic
import TokenFormula.Record.Scalar
import TokenFormula.Value.Order

/-!
# Stored form of algorithms

Records are read from dictionaries: unknown entries are ignored, missing ones
have defaults, and every field has the name of stored data and a plain name.
Writing leaves missing parts out. A part that may be any value is written with
null for every number that is not finite.

Results:
* `Value.stored`: any value as it is written.
* `Algorithm.ofWire`, `Algorithm.toWire`, and the same for the parts of an
  algorithm.
-/

namespace TokenFormula

open PartReader

/-! ## Field names -/

/-- The value of a variable where no mode gives another. -/
def fieldDefault : FieldName := ⟨"defaultValue", "default_value"⟩

/-- Whether modes give a variable other values. -/
def fieldModeBased : FieldName := ⟨"modeBased", "mode_based"⟩

/-- The dimension whose mode counts. -/
def fieldDimension : FieldName := ⟨"dimensionId", "dimension_id"⟩

/-- The values by mode. -/
def fieldByMode : FieldName := ⟨"valuesByMode", "values_by_mode"⟩

/-- The range of iteration values. -/
def fieldRange : FieldName := ⟨"iterationRange", "iteration_range"⟩

/-- The type of values that results stand for. -/
def fieldValueType : FieldName := ⟨"resolvedValueTypeId", "resolved_value_type_id"⟩

/-- The generation of tokens. -/
def fieldGeneration : FieldName := ⟨"tokenGeneration", "token_generation"⟩

/-- A text field that is empty where it is missing. -/
def textField (name : String) (es : Entries Value) : Checked String :=
  (FieldName.single name).readOr "" text es

/-- A text field that may be missing or null. -/
def textField? (f : FieldName) (es : Entries Value) : Checked (Option String) :=
  f.readOr none (optional text) es

/-- An entry that is left out where there is nothing to write. -/
def optionalEntry {α : Type} (name : String) (write : α → Value) : Option α → Entries Value
  | some a => [(name, write a)]
  | none => []

/-! ## Any values -/

mutual

/-- Any value as it is written: a number that is not finite becomes null. -/
def Value.stored : Value → Value
  | .num n => if n.isFinite then .num n else .null
  | .list items => .list (storedItems items)
  | .dict entries => .dict (storedEntries entries)
  | v => v

/-- The elements of a list as they are written. -/
def Value.storedItems : List Value → List Value
  | [] => []
  | v :: rest => v.stored :: storedItems rest

/-- The entries of a dictionary as they are written. -/
def Value.storedEntries : List (String × Value) → List (String × Value)
  | [] => []
  | (k, v) :: rest => (k, v.stored) :: storedEntries rest

end

/-! ## Variables -/

/-- Reads a variable. -/
def Variable.ofWire : PartReader Variable :=
  record fun es =>
    Variable.mk <$> textField "id" es <*> textField "name" es
      <*> (FieldName.single "type").readOr none (optional (choice VariableType.ofName?)) es
      <*> fieldDefault.readOr (.text "") scalar es
      <*> textField? (.single "description") es
      <*> fieldModeBased.readOr false boolean es
      <*> textField? fieldDimension es
      <*> fieldByMode.readOr none (optional (entries scalar)) es

/-- Writes a variable. -/
def Variable.toWire (v : Variable) : Value :=
  .dict ([("id", .text v.id), ("name", .text v.name)] ++
    optionalEntry "type" (fun t => .text (VariableType.name t)) v.type? ++
    [("defaultValue", v.default)] ++
    optionalEntry "description" .text v.description? ++
    [("modeBased", .bool v.modeBased)] ++
    optionalEntry "dimensionId" .text v.dimension? ++
    optionalEntry "valuesByMode" .dict v.byMode?)

/-! ## Formulas, conditions and steps -/

/-- Reads the text of a formula in one language. -/
def FormulaText.ofWire : PartReader FormulaText :=
  record fun es =>
    FormulaText.mk <$> textField "value" es
      <*> (FieldName.single "ast").readOr none (optional (entries any)) es

/-- Writes the text of a formula in one language. -/
def FormulaText.toWire (f : FormulaText) : Value :=
  .dict ([("value", .text f.source)] ++ optionalEntry "ast" (fun es => (Value.dict es).stored) f.tree?)

/-- Reads a formula. -/
def Formula.ofWire : PartReader Formula :=
  record fun es =>
    Formula.mk <$> textField "id" es <*> textField "name" es
      <*> textField? (.single "description") es
      <*> (FieldName.single "expressions").readOr [] (entries FormulaText.ofWire) es

/-- Writes a formula. -/
def Formula.toWire (f : Formula) : Value :=
  .dict ([("id", .text f.id), ("name", .text f.name)] ++
    optionalEntry "description" .text f.description? ++
    [("expressions", .dict (f.expressions.map fun p => (p.1, p.2.toWire)))])

/-- Reads a condition. -/
def Condition.ofWire : PartReader Condition :=
  record fun es =>
    Condition.mk <$> textField "id" es <*> textField "name" es <*> textField "expression" es

/-- Writes a condition. -/
def Condition.toWire (c : Condition) : Value :=
  .dict [("id", .text c.id), ("name", .text c.name), ("expression", .text c.source)]

/-- Reads a step. -/
def Step.ofWire : PartReader Step :=
  record fun es =>
    Step.mk <$> (FieldName.single "type").readOr none (optional (choice StepType.ofName?)) es
      <*> textField "id" es <*> textField "name" es

/-- Writes a step. -/
def Step.toWire (s : Step) : Value :=
  .dict (optionalEntry "type" (fun t => .text (StepType.name t)) s.type? ++
    [("id", .text s.id), ("name", .text s.name)])

/-! ## Token generation -/

/-- The range where none is given. -/
def IterationRange.default : IterationRange := ⟨.int 0, .int 0, .int 1⟩

/-- Reads a range. -/
def IterationRange.ofWire : PartReader IterationRange :=
  record fun es =>
    IterationRange.mk <$> (FieldName.single "start").readOr (.int 0) number es
      <*> (FieldName.single "end").readOr (.int 0) number es
      <*> (FieldName.single "step").readOr (.int 1) number es

/-- Writes a range. -/
def IterationRange.toWire (r : IterationRange) : Value :=
  .dict [("start", .num r.first), ("end", .num r.last), ("step", .num r.step)]

/-- Reads the generation of tokens. -/
def TokenGeneration.ofWire : PartReader TokenGeneration :=
  record fun es =>
    TokenGeneration.mk <$> (FieldName.single "enabled").readOr false boolean es
      <*> fieldRange.readOr IterationRange.default IterationRange.ofWire es

/-- Writes the generation of tokens. -/
def TokenGeneration.toWire (g : TokenGeneration) : Value :=
  .dict [("enabled", .bool g.enabled), ("iterationRange", g.range.toWire)]

/-! ## Algorithms -/

/-- Reads an algorithm. -/
def Algorithm.ofWire : PartReader Algorithm :=
  record fun es =>
    Algorithm.mk <$> textField "id" es <*> textField "name" es
      <*> textField? (.single "description") es
      <*> fieldValueType.readOr "" text es
      <*> (FieldName.single "variables").readOr [] (list Variable.ofWire) es
      <*> (FieldName.single "formulas").readOr [] (list Formula.ofWire) es
      <*> (FieldName.single "conditions").readOr [] (list Condition.ofWire) es
      <*> (FieldName.single "steps").readOr [] (list Step.ofWire) es
      <*> fieldGeneration.readOr none (optional TokenGeneration.ofWire) es

/-- Writes an algorithm. -/
def Algorithm.toWire (a : Algorithm) : Value :=
  .dict ([("id", .text a.id), ("name", .text a.name)] ++
    optionalEntry "description" .text a.description? ++
    [("resolvedValueTypeId", .text a.valueType),
      ("variables", .list (a.variables.map Variable.toWire)),
      ("formulas", .list (a.formulas.map Formula.toWire)),
      ("conditions", .list (a.conditions.map Condition.toWire)),
      ("steps", .list (a.steps.map Step.toWire))] ++
    optionalEntry "tokenGeneration" TokenGeneration.toWire a.generation?)

/-! ## Equality -/

deriving instance BEq for
  Variable, FormulaText, Formula, Condition, Step, IterationRange, TokenGeneration, Algorithm

end TokenFormula

import TokenFormula.Value.Basic

/-!
# Checked results

A record is read part by part, and the issues of all parts are reported
together, in the order of the parts.

Results:
* `Checked`: a result or the issues that stand against it.
* `Checked.field`, `Checked.items`: the parts of a record or list, with their
  places in front of their issues.
-/

namespace TokenFormula

/-- One step on the way from a record to a part. -/
inductive Place where
  | key (name : String)
  | item (index : Int)
deriving DecidableEq, Repr

/-- What is wrong with a part. -/
inductive IssueKind where
  | missing
  | textExpected
  | booleanExpected | booleanUnreadable
  | integerExpected | integerUnreadable | integerTooLong
  | realExpected | realUnreadable
  | choiceUnknown
  | listExpected | dictionaryExpected | recordExpected
deriving DecidableEq, Repr

/-- The name of a kind of issue. -/
def IssueKind.name : IssueKind → String
  | missing => "missing"
  | textExpected => "string_type"
  | booleanExpected => "bool_type"
  | booleanUnreadable => "bool_parsing"
  | integerExpected => "int_type"
  | integerUnreadable => "int_parsing"
  | integerTooLong => "int_parsing_size"
  | realExpected => "float_type"
  | realUnreadable => "float_parsing"
  | choiceUnknown => "enum"
  | listExpected => "list_type"
  | dictionaryExpected => "dict_type"
  | recordExpected => "model_type"

/-- A part that cannot be read, and why. -/
structure Issue where
  place : List Place
  kind : IssueKind
deriving DecidableEq, Repr

/-- The issue one step further out. -/
def Issue.within (p : Place) (i : Issue) : Issue :=
  { i with place := p :: i.place }

/-- A result or the issues that stand against it. -/
inductive Checked (α : Type) where
  | ok (a : α)
  | bad (issues : List Issue)

namespace Checked

variable {α β : Type}

/-- Issues of the part itself. -/
def fail (kinds : List (List Place × IssueKind)) : Checked α :=
  bad (kinds.map fun k => ⟨k.1, k.2⟩)

/-- One issue of the part itself. -/
def issue (kind : IssueKind) : Checked α :=
  bad [⟨[], kind⟩]

/-- Puts two results together; the issues of both count. -/
def combine (f : Checked (α → β)) (a : Checked α) : Checked β :=
  match f, a with
  | ok f, ok a => ok (f a)
  | ok _, bad is => bad is
  | bad is, ok _ => bad is
  | bad is, bad js => bad (is ++ js)

instance : Applicative Checked where
  pure := ok
  seq f a := combine f (a ())

/-- The same result one step further out. -/
def within (p : Place) : Checked α → Checked α
  | ok a => ok a
  | bad is => bad (is.map (·.within p))

/-- A check on the result. -/
def andThen (a : Checked α) (f : α → Checked β) : Checked β :=
  match a with
  | ok a => f a
  | bad is => bad is

/-- The results of several parts. -/
def collect : List (Checked α) → Checked (List α)
  | [] => ok []
  | c :: rest => combine (combine (ok List.cons) c) (collect rest)

end Checked

/-! ## Parts -/

/-- How a part is read. -/
abbrev PartReader (α : Type) := Value → Checked α

namespace PartReader

variable {α : Type}

/-- Any value. -/
def any : PartReader Value := .ok

/-- A text. -/
def text : PartReader String
  | .text s => .ok s
  | _ => .issue .textExpected

/-- Null, or a part. -/
def optional (r : PartReader α) : PartReader (Option α)
  | .null => .ok none
  | v => some <$> r v

/-- One of several names. -/
def choice (ofName? : String → Option α) : PartReader α
  | .text s =>
    match ofName? s with
    | some a => .ok a
    | none => .issue .choiceUnknown
  | _ => .issue .choiceUnknown

/-- A list of parts. -/
def list (r : PartReader α) : PartReader (List α)
  | .list items => .collect (items.zipIdx.map fun p => (r p.1).within (.item p.2))
  | _ => .issue .listExpected

/-- A dictionary of parts. -/
def entries (r : PartReader α) : PartReader (Entries α)
  | .dict es =>
    .collect (es.map fun p => (Prod.mk p.1 <$> r p.2).within (.key p.1))
  | _ => .issue .dictionaryExpected

/-- A record, read from its entries. -/
def record (r : Entries Value → Checked α) : PartReader α
  | .dict es => r es
  | _ => .issue .recordExpected

end PartReader

/-- The name of a field in stored data, and a second name that is read as well. -/
structure FieldName where
  wire : String
  plain : String
deriving DecidableEq, Repr

/-- A field with one name. -/
def FieldName.single (name : String) : FieldName := ⟨name, name⟩

/-- The entry of a field, with the name under which it is found; the name of
    stored data counts first. -/
def FieldName.find? (f : FieldName) (es : Entries Value) : Option (String × Value) :=
  match es.get? f.wire with
  | some v => some (f.wire, v)
  | none => (es.get? f.plain).map (Prod.mk f.plain)

/-- A field that may be missing. -/
def FieldName.readOr {α : Type} (f : FieldName) (default : α) (r : PartReader α)
    (es : Entries Value) : Checked α :=
  match f.find? es with
  | some (name, v) => (r v).within (.key name)
  | none => .ok default

/-- A field that must be there. -/
def FieldName.read {α : Type} (f : FieldName) (r : PartReader α) (es : Entries Value) :
    Checked α :=
  match f.find? es with
  | some (name, v) => (r v).within (.key name)
  | none => .bad [⟨[.key f.wire], .missing⟩]

end TokenFormula

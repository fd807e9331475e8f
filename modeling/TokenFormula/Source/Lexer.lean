import TokenFormula.Source.Token
import TokenFormula.Text.Digit

/-!
# From characters to tokens

What a word may be depends on the word before it: an operand is due, an
operator is due, a member name is due, or the text should have ended. Where no
word of the expected kind fits, any word is taken, and the grammar refuses it
later. Only where no word fits at all, the lexer stops.

Results:
* `lexemeAt?`: the word at the start of a text, by place.
* `lex`: the tokens of a text and, if the lexer stopped, where.
-/

namespace TokenFormula.Source

/-! ## Single words -/

/-- The blanks between words. -/
def isLayout (c : Char) : Bool :=
  c == ' ' || c == '\t' || c == '\x0c' || c == '\r' || c == '\n'

/-- A letter, underscore or dollar sign of ASCII. -/
def startsName (c : Char) : Bool :=
  c.isAlpha || c == '_' || c == '$'

/-- A character within a name. -/
def continuesName (c : Char) : Bool :=
  startsName c || c.isDigit

/-- The name at the start; empty where none starts. -/
def nameAt (cs : List Char) : List Char :=
  match cs with
  | [] => []
  | c :: rest => if startsName c then c :: rest.takeWhile continuesName else []

/-- The exponent at the start: a letter, an optional sign and digits; empty
    where no digit follows. -/
def exponentAt (cs : List Char) : List Char :=
  match cs with
  | [] => []
  | e :: rest =>
    if e = 'e' ∨ e = 'E' then
      let sign := match rest with
        | s :: _ => if s = '+' ∨ s = '-' then [s] else []
        | [] => []
      let digits := (rest.drop sign.length).takeWhile Text.isDigit
      if digits.isEmpty then [] else e :: sign ++ digits
    else []

/-- The digits and the point of a number, without its exponent: digits with an
    optional point and more digits, or a point and digits. -/
def mantissaAt (cs : List Char) : List Char :=
  let whole := cs.takeWhile Text.isDigit
  match cs.drop whole.length with
  | '.' :: rest =>
    let fraction := rest.takeWhile Text.isDigit
    if whole.isEmpty && fraction.isEmpty then [] else whole ++ '.' :: fraction
  | _ => whole

/-- The number at the start; empty where none starts. -/
def numberAt (cs : List Char) : List Char :=
  let mantissa := mantissaAt cs
  if mantissa.isEmpty then [] else mantissa ++ exponentAt (cs.drop mantissa.length)

/-- The rest of a quoted text up to its closing quote; none where it is not
    closed. A backslash takes the next character with it, but not a line feed. -/
def quotedRest? (quote : Char) : List Char → Option (List Char)
  | [] => none
  | '\\' :: c :: rest =>
    if c = '\n' then none else (quotedRest? quote rest).map ('\\' :: c :: ·)
  | c :: rest =>
    if c = quote then some [c]
    else if c = '\\' then none
    else (quotedRest? quote rest).map (c :: ·)

/-- The quoted text at the start; none where none starts or it is not closed. -/
def quotedAt? (cs : List Char) : Option (List Char) :=
  match cs with
  | [] => none
  | c :: rest => if c = '"' ∨ c = '\'' then (quotedRest? c rest).map (c :: ·) else none

/-- The first of the marks that is at the start. -/
def markAt? (marks : List Mark) (cs : List Char) : Option Mark :=
  marks.find? fun m => m.spelling.toList.isPrefixOf cs

/-! ## Places -/

/-- What is due at a place of a formula text. -/
inductive Place where
  | operand
  | operator
  | member
  /-- Nothing: the text has been closed by a semicolon. -/
  | done
deriving DecidableEq, Repr

/-- The place after a word. -/
def Lexeme.next : Lexeme → Place
  | .name _ | .number _ | .quoted _ | .keyword _ => .operator
  | .mark .closeParen | .mark .closeBracket => .operator
  | .mark .dot => .member
  | .mark .semicolon => .done
  | .mark _ => .operand

/-- A name, number or quoted text at the start. -/
def wordAt? (cs : List Char) : Option Lexeme :=
  let name := nameAt cs
  if !name.isEmpty then some (.name (String.ofList name))
  else
    let number := numberAt cs
    if !number.isEmpty then some (.number (String.ofList number))
    else (quotedAt? cs).map fun s => .quoted (String.ofList s)

/-- Any word at the start. -/
def anyAt? (cs : List Char) : Option Lexeme :=
  match wordAt? cs with
  | some w => some w
  | none => (markAt? Mark.all cs).map .mark

/-- A name that is a keyword becomes that keyword. -/
def Lexeme.resolve : Lexeme → Lexeme
  | .name s =>
    match Keyword.ofName? s with
    | some k => .keyword k
    | none => .name s
  | w => w

/-- The word of the expected kind at the start. -/
def expectedAt? (place : Place) (cs : List Char) : Option Lexeme :=
  match place with
  | .operand =>
    match wordAt? cs with
    | some w => some w.resolve
    | none => (markAt? (Mark.all.filter Mark.startsOperand) cs).map .mark
  | .operator => (markAt? (Mark.all.erase .bang) cs).map .mark
  | .member =>
    let name := nameAt cs
    if name.isEmpty then none else some (.name (String.ofList name))
  | .done => none

/-- The word at the start: of the expected kind where one fits, else any. -/
def lexemeAt? (place : Place) (cs : List Char) : Option Lexeme :=
  match expectedAt? place cs with
  | some w => some w
  | none => anyAt? cs

/-! ## Whole texts -/

/-- The tokens of a text and the position where the lexer stopped, if no word
    fits there. -/
structure Lexed where
  tokens : List Token
  stop? : Option Nat
deriving DecidableEq, Repr

/-- The tokens from a position on; each takes at least one character, so the
    length of the text bounds their number. -/
def lexFrom : (fuel : Nat) → Place → (offset : Nat) → List Char → Lexed
  | 0, _, _, _ => ⟨[], none⟩
  | fuel + 1, place, offset, cs =>
    let blanks := (cs.takeWhile isLayout).length
    match cs.drop blanks with
    | [] => ⟨[], none⟩
    | c :: rest =>
      let start := offset + blanks
      match lexemeAt? place (c :: rest) with
      | none => ⟨[], some start⟩
      | some w =>
        let size := w.spelling.length
        let ⟨tokens, stop?⟩ := lexFrom fuel w.next (start + size) ((c :: rest).drop size)
        ⟨⟨w, start⟩ :: tokens, stop?⟩

/-- The tokens of a text. -/
def lex (cs : List Char) : Lexed :=
  lexFrom (cs.length + 1) .operand 0 cs

end TokenFormula.Source

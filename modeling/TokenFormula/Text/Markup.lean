import TokenFormula.Text.Blank
import TokenFormula.Text.Emoji
import TokenFormula.Text.Style

/-!
# Markup of console texts

A console text may hold tags in brackets, which name a style and are not
printed: `[name]` opens a style, `[/name]` closes it, and `[/]` closes the last
one that is open. A backslash before a tag makes it a text. Emoji codes stand for
their emoji.

Results:
* `pieces`: the texts and tags of a console text.
* `printed`: what is printed, or which tag closes what is not open.
-/

namespace TokenFormula.Text.Markup

/-- A part of a console text. -/
inductive Piece where
  | plain (cs : List Char)
  /-- A tag without its brackets, and the place of the first one. -/
  | tag (body : List Char) (place : Nat)
deriving DecidableEq, Repr

/-- Why the tags of a console text do not match. -/
inductive Problem where
  /-- A tag closes a style that is not open. -/
  | notOpen (body : List Char) (place : Nat)
  /-- A tag closes the last open style where none is open. -/
  | nothingOpen (place : Nat)
deriving DecidableEq, Repr

/-- The text of a problem. -/
def Problem.message : Problem → String
  | notOpen body place =>
    "closing tag '[" ++ String.ofList body ++ "]' at position " ++ toString place ++
      " doesn't match any open tag"
  | nothingOpen place =>
    "closing tag '[/]' at position " ++ toString place ++ " has nothing to close"

/-- A character with which a tag may start. -/
def startsTag (c : Char) : Bool :=
  ('a' ≤ c && c ≤ 'z') || c == '#' || c == '/' || c == '@'

/-- A tag at the start of a text, without its brackets. -/
def tagAt? : List Char → Option (List Char)
  | '[' :: c :: rest =>
    if startsTag c then
      let more := rest.takeWhile fun d => d != '[' && d != ']'
      if (rest.drop more.length).head? = some ']' then some (c :: more) else none
    else none
  | _ => none

/-- The pieces of a tag behind backslashes, which begin at a place: every two of
    them print one, and one that is left makes the tag a text. -/
def tagPieces (place backslashes : Nat) (body : List Char) : List Piece :=
  let shown := if backslashes < 2 then [] else [Piece.plain (List.replicate (backslashes / 2) '\\')]
  shown ++
    [if backslashes % 2 = 1 then .plain ('[' :: body ++ [']']) else .tag body (place + backslashes)]

/-- A tag at the start of a text, behind any backslashes, and its length. -/
def markAt? (place : Nat) (cs : List Char) : Option (List Piece × Nat) :=
  let backslashes := (cs.takeWhile (· == '\\')).length
  (tagAt? (cs.drop backslashes)).map fun body =>
    (tagPieces place backslashes body, backslashes + body.length + 2)

/-- A text as pieces; the empty one has none. -/
def plainPieces (cs : List Char) : List Piece :=
  if cs.isEmpty then [] else [.plain cs]

/-- The pieces of what follows `chunk` and begins at a place; the next `skip`
    characters are part of a tag. -/
def piecesFrom : (place skip : Nat) → (chunk : List Char) → List Char → List Piece
  | _, _, chunk, [] => plainPieces chunk
  | place, skip + 1, chunk, _ :: rest => piecesFrom (place + 1) skip chunk rest
  | place, 0, chunk, c :: rest =>
    match markAt? place (c :: rest) with
    | some (ps, length) => plainPieces chunk ++ ps ++ piecesFrom (place + 1) (length - 1) [] rest
    | none => piecesFrom (place + 1) 0 (chunk ++ [c]) rest

/-- The texts and tags of a console text. -/
def pieces (cs : List Char) : List Piece :=
  piecesFrom 0 0 [] cs

/-- A text with the backslashes before brackets taken out. -/
def unescaped : List Char → List Char
  | '\\' :: '[' :: rest => '[' :: unescaped rest
  | c :: rest => c :: unescaped rest
  | [] => []

/-- What a tag names: what stands before its equals sign. -/
def tagName (body : List Char) : List Char :=
  body.takeWhile (· ≠ '=')

/-- The open styles, the last first, after a closing tag. -/
def close (stack : List String) (body : List Char) (place : Nat) :
    Except Problem (List String) :=
  let name := trim ((tagName body).drop 1)
  if name.isEmpty then
    match stack with
    | [] => .error (.nothingOpen place)
    | _ :: rest => .ok rest
  else if stack.contains (styleName name) then .ok (stack.erase (styleName name))
  else .error (.notOpen body place)

/-- What the pieces print, with the open styles. -/
def printedFrom : (stack : List String) → List Piece → Except Problem (List Char)
  | _, [] => .ok []
  | stack, .plain cs :: rest => (printedFrom stack rest).map (Emoji.expanded (unescaped cs) ++ ·)
  | stack, .tag body place :: rest =>
    if body.head? = some '/' then do printedFrom (← close stack body place) rest
    else printedFrom (styleName (tagName body) :: stack) rest

/-- What is printed of a console text. -/
def printed (s : String) : Except Problem String :=
  (printedFrom [] (pieces s.toList)).map String.ofList

end TokenFormula.Text.Markup

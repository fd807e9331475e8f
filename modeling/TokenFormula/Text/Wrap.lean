import TokenFormula.Text.Blank
import TokenFormula.Text.Split
import TokenFormula.Text.Width

/-!
# Folding of texts

A text is folded into lines of a given number of cells. A line breaks before a
word for which there is no room; a word that is longer than a line goes on in the
next one, or stands out. The blanks behind a word may always stand out. A tab
reaches to the next multiple of eight cells.

Results:
* `folded`: a text as lines.
* `cut`, `fitted`: a line without what stands out.
* `unfoldedWidth`: the cells that a text takes where it is not folded.
* `flatten_foldedLine`: folding keeps the text.
-/

namespace TokenFormula.Text

/-! ## Tabs -/

/-- The distance between two places at which a tab may end. -/
def tabSize : Nat := 8

/-- A line from cell `place` on, with blanks for its tabs. -/
def untabbedFrom (place : Nat) : List Char → List Char
  | [] => []
  | c :: rest =>
    if c = '\t' then
      let gap := tabSize - place % tabSize
      List.replicate gap ' ' ++ untabbedFrom (place + gap) rest
    else c :: untabbedFrom (place + cellsOf c) rest

/-- A line with blanks for its tabs. -/
def untabbed (cs : List Char) : List Char :=
  untabbedFrom 0 cs

/-! ## Words -/

/-- The words of a line, each with the blanks behind it; `inBlanks` tells that
    the word that is being read has ended, and `word` is what has been read of
    it, the last character first. -/
def wordsFrom (inBlanks : Bool) (word : List Char) : List Char → List (List Char)
  | [] => [word.reverse]
  | c :: rest =>
    if isBlank c then wordsFrom true (c :: word) rest
    else if inBlanks then word.reverse :: wordsFrom false [c] rest
    else wordsFrom false (c :: word) rest

/-- The words of a line, each with the blanks behind it; the blanks at the start
    belong to the first. -/
def spacedWords (cs : List Char) : List (List Char) :=
  let before := cs.takeWhile isBlank
  wordsFrom false before.reverse (cs.drop before.length)

/-- A word in parts of at most `width` cells; `part` is the open one, the last
    character first, and has `used` cells. -/
def choppedFrom (width used : Nat) (part : List Char) : List Char → List (List Char)
  | [] => [part.reverse]
  | c :: rest =>
    if width < used + cellsOf c then part.reverse :: choppedFrom width (cellsOf c) [c] rest
    else choppedFrom width (used + cellsOf c) (c :: part) rest

/-- A word in parts of at most `width` cells. -/
def chopped (width : Nat) (word : List Char) : List (List Char) :=
  choppedFrom width 0 [] word

/-! ## Lines -/

/-- What becomes of a word that is longer than a line. -/
inductive Overflow where
  /-- It goes on in the next line. -/
  | goesOn
  /-- It stands out. -/
  | standsOut
deriving DecidableEq, Repr

/-- The parts of a word that stand in lines of their own. -/
def Overflow.parts (o : Overflow) (width : Nat) (word : List Char) : List (List Char) :=
  match o with
  | goesOn => chopped width word
  | standsOut => [word]

/-- The lines of the words behind `line`, the open line, which has `used` cells. -/
def filled (o : Overflow) (width used : Nat) (line : List Char) :
    List (List Char) → List (List Char)
  | [] => [line]
  | word :: rest =>
    let needed := cells (trimRight word)
    if used + needed ≤ width then filled o width (used + cells word) (line ++ word) rest
    else
      let parts := if width < needed then o.parts width word else [word]
      let last := parts.getLastD []
      let closed := (if line.isEmpty then [] else [line]) ++ parts.dropLast
      closed ++ filled o width (cells last) last rest

/-- A line folded into lines of `width` cells. -/
def foldedLine (o : Overflow) (width : Nat) (cs : List Char) : List (List Char) :=
  filled o width 0 [] (spacedWords (untabbed cs))

/-- A text as lines of `width` cells. -/
def folded (o : Overflow) (width : Nat) (s : String) : List (List Char) :=
  (splitList '\n' s.toList).flatMap (foldedLine o width)

/-! ## Lines that fit -/

/-- The start of a line that takes `width` cells; half a broad sign is a blank. The
    line takes more cells, and one of its starts between `first` and `last` is the
    one; each of at most `fuel` steps halves their distance. -/
def startFrom (width : Nat) (cs : List Char) : (fuel first last : Nat) → List Char
  | 0, first, _ => cs.take first
  | fuel + 1, first, last =>
    let middle := (first + last) / 2
    let start := cs.take (middle + 1)
    if cells start = width + 1 ∧ start.getLast?.map cellsOf = some 2 then start.dropLast ++ [' ']
    else if cells start = width then start
    else if width < cells start then startFrom width cs fuel first middle
    else startFrom width cs fuel middle last

/-- The start of a longer line that takes `width` cells. -/
def startOf (width : Nat) (cs : List Char) : List Char :=
  if width = 0 then [] else startFrom width cs (cs.length + 1) 0 cs.length

/-- A line without the blanks behind it, at most as many as it has characters
    beyond `width`. -/
def withoutOverhang (width : Nat) (cs : List Char) : List Char :=
  cs.take (max (trimRight cs).length (min cs.length width))

/-- A line without what stands out. -/
def cut (width : Nat) (cs : List Char) : List Char :=
  let line := withoutOverhang width cs
  if width < cells line then startOf width line else line

/-- A line of at most `width` cells; three dots stand for what stood out. A line for
    the right edge loses the blanks behind it. -/
def fitted (width : Nat) (right : Bool) (cs : List Char) : List Char :=
  let line := if right then trimRight cs else withoutOverhang width cs
  if width < cells line then startOf (width - 1) line ++ ['…'] else line

/-! ## Widths -/

/-- A character behind which a new line begins. -/
def endsLine (c : Char) : Bool :=
  let n := c.toNat
  (0x0A ≤ n && n ≤ 0x0D) || (0x1C ≤ n && n ≤ 0x1E) || n == 0x85 || n == 0x2028 || n == 0x2029

/-- The most cells of a line; `used` are those of the open line. -/
def widestFrom (used : Nat) : List Char → Nat
  | [] => used
  | c :: rest => if endsLine c then max used (widestFrom 0 rest) else widestFrom (used + cellsOf c) rest

/-- The cells that a text takes where it is not folded. A tab is not counted. -/
def unfoldedWidth (s : String) : Nat :=
  widestFrom 0 s.toList

/-! ## Folding keeps the text -/

theorem flatten_wordsFrom (b : Bool) (word cs : List Char) :
    (wordsFrom b word cs).flatten = word.reverse ++ cs := by
  induction cs generalizing b word with
  | nil => simp [wordsFrom]
  | cons c rest ih =>
    unfold wordsFrom
    split
    · simp [ih]
    · split <;> simp [ih]

/-- The words of a line side by side are the line. -/
theorem flatten_spacedWords (cs : List Char) : (spacedWords cs).flatten = cs := by
  simp only [spacedWords, flatten_wordsFrom, List.reverse_reverse]
  induction cs with
  | nil => rfl
  | cons c rest ih =>
    by_cases h : isBlank c <;> simp [h, ih]

theorem flatten_choppedFrom (width used : Nat) (part cs : List Char) :
    (choppedFrom width used part cs).flatten = part.reverse ++ cs := by
  induction cs generalizing used part with
  | nil => simp [choppedFrom]
  | cons c rest ih =>
    unfold choppedFrom
    split <;> simp [ih]

/-- The parts of a word side by side are the word. -/
theorem flatten_chopped (width : Nat) (word : List Char) :
    (chopped width word).flatten = word := by
  simp [chopped, flatten_choppedFrom]

theorem flatten_dropLast_append_getLastD (parts : List (List Char)) :
    parts.dropLast.flatten ++ parts.getLastD [] = parts.flatten := by
  induction parts with
  | nil => rfl
  | cons p rest ih =>
    cases rest with
    | nil => simp
    | cons q more => simpa [List.append_assoc] using congrArg (p ++ ·) ih

theorem flatten_parts (o : Overflow) (width : Nat) (word : List Char) :
    (o.parts width word).flatten = word := by
  cases o <;> simp [Overflow.parts, flatten_chopped]

theorem flatten_filled (o : Overflow) (width used : Nat) (line : List Char)
    (ws : List (List Char)) : (filled o width used line ws).flatten = line ++ ws.flatten := by
  induction ws generalizing used line with
  | nil => simp [filled]
  | cons word rest ih =>
    have ends := flatten_dropLast_append_getLastD
      (if width < cells (trimRight word) then o.parts width word else [word])
    have whole : (if width < cells (trimRight word) then o.parts width word
        else [word]).flatten = word := by
      split <;> simp [flatten_parts]
    rw [whole] at ends
    unfold filled
    dsimp only
    split
    · simp [ih]
    · simp only [List.flatten_append, ih, ← List.append_assoc, List.flatten_cons]
      rw [List.append_assoc _ _ (List.getLastD _ _), ends]
      cases line <;> simp

/-- The lines of a folded line side by side are the line with blanks for its
    tabs. -/
theorem flatten_foldedLine (o : Overflow) (width : Nat) (cs : List Char) :
    (foldedLine o width cs).flatten = untabbed cs := by
  simp [foldedLine, flatten_filled, flatten_spacedWords]

end TokenFormula.Text

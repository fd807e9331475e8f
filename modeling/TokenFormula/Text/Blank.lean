/-!
# Blank characters

The characters that trimming removes: those with the white space property and
the four information separators U+001C to U+001F.

Results:
* `trim`: the list without the blanks at its two ends.
-/

namespace TokenFormula.Text

/-- A blank: white space in the sense of the character standard, or one of the
    information separators U+001C to U+001F. -/
def isBlank (c : Char) : Bool :=
  let n := c.toNat
  (0x09 ≤ n && n ≤ 0x0D) || (0x1C ≤ n && n ≤ 0x20) || n == 0x85 || n == 0xA0 || n == 0x1680 ||
    (0x2000 ≤ n && n ≤ 0x200A) || n == 0x2028 || n == 0x2029 || n == 0x202F || n == 0x205F ||
    n == 0x3000

/-- The list without its leading blanks. -/
def trimLeft (cs : List Char) : List Char :=
  cs.dropWhile isBlank

/-- The list without its trailing blanks. -/
def trimRight (cs : List Char) : List Char :=
  (cs.reverse.dropWhile isBlank).reverse

/-- The list without the blanks at its two ends. -/
def trim (cs : List Char) : List Char :=
  trimRight (trimLeft cs)

/-- The text without the blanks at its two ends. -/
def trimmed (s : String) : String :=
  String.ofList (trim s.toList)

/-- Each run of blanks becomes one copy of `mark`. -/
def joinBlanks (mark : Char) : List Char → List Char
  | [] => []
  | c :: rest =>
    if isBlank c then
      match rest with
      | [] => [mark]
      | d :: _ => if isBlank d then joinBlanks mark rest else mark :: joinBlanks mark rest
    else c :: joinBlanks mark rest

end TokenFormula.Text

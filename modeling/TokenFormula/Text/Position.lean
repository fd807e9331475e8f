/-!
# Lines and columns

Results:
* `lineColumn`: line and column of a position in a text, both counted from one.
-/

namespace TokenFormula.Text

/-- Line and column of a position, both counted from one; a line ends at a line
    feed. -/
def lineColumn (cs : List Char) (position : Nat) : Nat × Nat :=
  let before := cs.take position
  (before.count '\n' + 1, (before.reverse.takeWhile (· ≠ '\n')).length + 1)

end TokenFormula.Text

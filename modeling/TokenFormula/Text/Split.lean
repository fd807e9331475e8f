/-!
# Splitting at a character

Results:
* `splitAt`: the parts of a text between the places of one character.
* `splitFirst?`: the parts before and after its first place.
-/

namespace TokenFormula.Text

/-- The parts of a list between the places of `mark`; always at least one. -/
def splitList (mark : Char) : List Char → List (List Char)
  | [] => [[]]
  | c :: rest =>
    if c = mark then [] :: splitList mark rest
    else
      match splitList mark rest with
      | [] => [[c]]
      | part :: parts => (c :: part) :: parts

/-- The parts of a text between the places of `mark`; always at least one. -/
def splitAt (mark : Char) (s : String) : List String :=
  (splitList mark s.toList).map String.ofList

/-- The parts of a text before and after the first place of `mark`. -/
def splitFirst? (mark : Char) (s : String) : Option (String × String) :=
  let before := s.toList.takeWhile (· ≠ mark)
  match s.toList.drop before.length with
  | [] => none
  | _ :: after => some (String.ofList before, String.ofList after)

end TokenFormula.Text

import TokenFormula.Text.Split

/-!
# Parts between marks

Results:
* `splitList_eq`, `splitList_append`: the first part ends at the first mark.
* `splitList_append_mark`, `splitAt_append_dot`: a mark in the middle separates the parts.
-/

namespace TokenFormula.Text

variable {mark : Char}

theorem splitList_ne_nil (cs : List Char) : splitList mark cs ≠ [] := by
  cases cs with
  | nil => exact List.cons_ne_nil [] []
  | cons c rest =>
    rw [splitList]
    split
    · exact List.cons_ne_nil _ _
    · split <;> exact List.cons_ne_nil _ _

/-- The first part ends at the first mark. -/
theorem splitList_eq (cs : List Char) :
    splitList mark cs = cs.takeWhile (· ≠ mark) :: (splitList mark cs).tail := by
  induction cs with
  | nil => rfl
  | cons c rest ih =>
    rw [splitList]
    by_cases hc : c = mark
    · rw [if_pos hc, List.takeWhile_cons_of_neg (by simpa using hc), List.tail_cons]
    · rw [if_neg hc, List.takeWhile_cons_of_pos (by simpa using hc), ih]
      rfl

/-- What stands before the first mark is one part. -/
theorem splitList_dropWhile (cs : List Char) :
    splitList mark (cs.dropWhile (· ≠ mark)) = [] :: (splitList mark cs).tail := by
  induction cs with
  | nil => rfl
  | cons c rest ih =>
    by_cases hc : c = mark
    · rw [List.dropWhile_cons_of_neg (by simpa using hc), splitList, if_pos hc, List.tail_cons]
    · rw [List.dropWhile_cons_of_pos (by simpa using hc), ih, splitList, if_neg hc]
      cases hs : splitList mark rest with
      | nil => exact absurd hs (splitList_ne_nil rest)
      | cons part parts => rfl

theorem splitList_append {part cs : List Char} {parts : List (List Char)} (hp : mark ∉ part)
    (h : splitList mark cs = [] :: parts) : splitList mark (part ++ cs) = part :: parts := by
  induction part with
  | nil => exact h
  | cons c part ih =>
    rw [List.mem_cons, not_or] at hp
    rw [List.cons_append, splitList, if_neg (Ne.symm hp.1), ih hp.2]

/-- The parts on both sides of a mark. -/
theorem splitList_append_mark (cs ds : List Char) :
    splitList mark (cs ++ mark :: ds) = splitList mark cs ++ splitList mark ds := by
  induction cs with
  | nil =>
    show (if mark = mark then [] :: splitList mark ds else _) = [[]] ++ splitList mark ds
    rw [if_pos rfl, List.singleton_append]
  | cons c cs ih =>
    rw [List.cons_append, splitList, splitList, ih]
    by_cases hc : c = mark
    · rw [if_pos hc, if_pos hc, List.cons_append]
    · rw [if_neg hc, if_neg hc]
      cases hs : splitList mark cs with
      | nil => exact absurd hs (splitList_ne_nil cs)
      | cons part parts => rfl

/-- The dots of a text separate its parts. -/
theorem splitAt_append_dot (s t : String) :
    splitAt '.' (s ++ "." ++ t) = splitAt '.' s ++ splitAt '.' t := by
  have hdot : (s ++ "." ++ t).toList = s.toList ++ '.' :: t.toList := by
    simp
  rw [splitAt, hdot, splitList_append_mark, List.map_append]
  rfl

/-- A text without dots is one part. -/
theorem splitAt_of_not_mem {s : String} (h : mark ∉ s.toList) : splitAt mark s = [s] := by
  have hs := splitList_append h (rfl : splitList mark [] = [] :: [])
  rw [List.append_nil] at hs
  rw [splitAt, hs, List.map_singleton, String.ofList_toList]

end TokenFormula.Text

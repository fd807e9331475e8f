import TokenFormula.Proofs.Source.Looser

/-!
# Spelling words out

The lexer finds a word again in front of any text that goes on no further than the
one in which it was found. Words that are found at their places, one after the
other, are therefore the words of a text: their spellings with a blank after each.

Results:
* `wordAt?_spelled`, `anyAt?_spelled`, `lexemeAt?_spelled`: a word is spelled as the
  text starts, and is found again in front of a looser text.
* `scans_spelled`: the words of a text of spelled words.
* `exists_lex_eq`: words found at their places are the tokens of some text.
-/

namespace TokenFormula.Source

/-! ## Marks -/

theorem mark_spelling_ne_nil (m : Mark) : m.spelling.toList ≠ [] := by
  cases m <;> decide

/-- A mark goes on with no separator. -/
theorem isSeparator_of_mark (m : Mark) : ∀ c ∈ m.spelling.toList.tail, isSeparator c = false := by
  have hall : m.spelling.toList.tail.all (!isSeparator ·) = true := by cases m <;> decide
  simpa only [List.all_eq_true, Bool.not_eq_true'] using hall

/-- A mark that the looser text starts with is one that the text starts with. -/
theorem mark_prefix_spelled {m : Mark} {u rest rest' : List Char} (hne : u ≠ [])
    (h : m.spelling.toList <+: u ++ rest') (hr : Looser rest rest') :
    m.spelling.toList <+: u ++ rest := by
  by_cases hl : m.spelling.toList.length ≤ u.length
  · exact (List.prefix_of_prefix_length_le h (List.prefix_append u _) hl).trans
      (List.prefix_append u rest)
  · obtain ⟨v, hv⟩ := List.prefix_of_prefix_length_le (List.prefix_append u rest') h (by omega)
    have hsep : ∀ c ∈ v, isSeparator c = false := by
      intro c hc
      refine isSeparator_of_mark m c ?_
      rw [← hv, List.tail_append_of_ne_nil hne]
      exact List.mem_append_right _ hc
    rw [← hv, List.prefix_append_right_inj] at h ⊢
    exact hr v hsep h

theorem prefix_markAt? {marks : List Mark} {cs : List Char} {m : Mark}
    (h : markAt? marks cs = some m) : m.spelling.toList <+: cs := by
  have h := @List.find?_some _ (fun m : Mark => m.spelling.toList.isPrefixOf cs) _ _ h
  exact List.isPrefixOf_iff_prefix.mp h

/-- Where no mark is found, none is found in the looser text. -/
theorem markAt?_spelled_none {marks : List Mark} {u rest rest' : List Char} (hne : u ≠ [])
    (h : markAt? marks (u ++ rest) = none) (hr : Looser rest rest') :
    markAt? marks (u ++ rest') = none := by
  refine List.find?_eq_none.mpr fun m hm hp => ?_
  have hp := mark_prefix_spelled hne (List.isPrefixOf_iff_prefix.mp hp) hr
  exact List.find?_eq_none.mp h m hm (List.isPrefixOf_iff_prefix.mpr hp)

/-- The first mark that fits is found again. -/
theorem markAt?_spelled {marks : List Mark} {m : Mark} {rest rest' : List Char}
    (h : markAt? marks (m.spelling.toList ++ rest) = some m) (hr : Looser rest rest') :
    markAt? marks (m.spelling.toList ++ rest') = some m := by
  obtain ⟨-, before, after, rfl, hbefore⟩ := List.find?_eq_some_iff_append.mp h
  refine List.find?_eq_some_iff_append.mpr ⟨?_, before, after, rfl, fun m' hm' => ?_⟩
  · exact List.isPrefixOf_iff_prefix.mpr (List.prefix_append _ _)
  · rw [Bool.not_eq_true', Bool.eq_false_iff]
    intro hp
    have hp := mark_prefix_spelled (mark_spelling_ne_nil m) (List.isPrefixOf_iff_prefix.mp hp) hr
    have hno := hbefore m' hm'
    rw [List.isPrefixOf_iff_prefix.mpr hp] at hno
    cases hno

/-- Only a number may start with a mark, with the point. -/
theorem wordAt?_mark (m : Mark) (cs : List Char) : nameAt (m.spelling.toList ++ cs) = [] ∧
    quotedAt? (m.spelling.toList ++ cs) = none := by
  cases m <;> exact ⟨rfl, rfl⟩

theorem wordAt?_mark_eq_none (m : Mark) (cs : List Char) :
    wordAt? (m.spelling.toList ++ cs) = none ↔ numberAt (m.spelling.toList ++ cs) = [] := by
  obtain ⟨hn, hq⟩ := wordAt?_mark m cs
  unfold wordAt?
  simp only [hn, hq, List.isEmpty_nil, Bool.not_true, Bool.false_eq_true, if_false,
    Option.map_none, Bool.not_eq_true', ite_eq_right_iff, reduceCtorEq, imp_false,
    Bool.not_eq_false, List.isEmpty_iff]

/-- Where no other word starts with a mark, none does in the looser text. -/
theorem wordAt?_mark_spelled {m : Mark} {rest rest' : List Char}
    (h : wordAt? (m.spelling.toList ++ rest) = none) (hr : Looser rest rest') :
    wordAt? (m.spelling.toList ++ rest') = none := by
  rw [wordAt?_mark_eq_none] at h ⊢
  exact numberAt_spelled (u := []) h (hr.append _)

/-! ## Words -/

/-- The word that is found at the start of a text: the text starts as the word is
    spelled, and it is found again in front of a looser text. -/
def Finds (scan : List Char → Option Lexeme) (cs : List Char) (w : Lexeme) : Prop :=
  ∃ rest, cs = w.spelling.toList ++ rest ∧ w.spelling.toList ≠ [] ∧
    ∀ rest', Looser rest rest' → scan (w.spelling.toList ++ rest') = some w

/-- The three kinds of words that are no marks. -/
theorem wordAt?_cases {cs : List Char} {w : Lexeme} (h : wordAt? cs = some w) :
    (nameAt cs ≠ [] ∧ w = .name (String.ofList (nameAt cs))) ∨
      (nameAt cs = [] ∧ numberAt cs ≠ [] ∧ w = .number (String.ofList (numberAt cs))) ∨
      ∃ u, quotedAt? cs = some u ∧ w = .quoted (String.ofList u) := by
  unfold wordAt? at h
  dsimp only at h
  split at h
  · rename_i hn
    rw [Bool.not_eq_true', List.isEmpty_eq_false_iff] at hn
    exact .inl ⟨hn, (Option.some.inj h).symm⟩
  · rename_i hn
    rw [Bool.not_eq_true', Bool.not_eq_false, List.isEmpty_iff] at hn
    split at h
    · rename_i hnum
      rw [Bool.not_eq_true', List.isEmpty_eq_false_iff] at hnum
      exact .inr (.inl ⟨hn, hnum, (Option.some.inj h).symm⟩)
    · obtain ⟨u, hu, rfl⟩ := Option.map_eq_some_iff.mp h
      exact .inr (.inr ⟨u, hu, rfl⟩)

theorem wordAt?_of_nameAt {cs u : List Char} (h : nameAt cs = u) (hne : u ≠ []) :
    wordAt? cs = some (.name (String.ofList u)) := by
  unfold wordAt?
  simp only [h, List.isEmpty_eq_false_iff.mpr hne, Bool.not_false, if_true]

theorem wordAt?_of_numberAt {cs u : List Char} (hn : nameAt cs = []) (h : numberAt cs = u)
    (hne : u ≠ []) : wordAt? cs = some (.number (String.ofList u)) := by
  unfold wordAt?
  simp only [hn, h, List.isEmpty_eq_false_iff.mpr hne, List.isEmpty_nil, Bool.not_true,
    Bool.not_false, Bool.false_eq_true, if_false, if_true]

theorem wordAt?_spelled {cs : List Char} {w : Lexeme} (h : wordAt? cs = some w) :
    Finds wordAt? cs w := by
  obtain ⟨hne, rfl⟩ | ⟨hn, hne, rfl⟩ | ⟨u, hu, rfl⟩ := wordAt?_cases h
  · obtain ⟨rest, hcs⟩ := prefix_nameAt cs
    refine ⟨rest, ?_⟩
    simp only [Lexeme.spelling, String.toList_ofList]
    refine ⟨hcs.symm, hne, fun rest' hr => ?_⟩
    exact wordAt?_of_nameAt (nameAt_spelled hne (by rw [hcs]) hr) hne
  · obtain ⟨rest, hcs⟩ := prefix_numberAt cs
    refine ⟨rest, ?_⟩
    simp only [Lexeme.spelling, String.toList_ofList]
    refine ⟨hcs.symm, hne, fun rest' hr => ?_⟩
    have hname := eq_nil_of_prefix_nameAt (prefix_numberAt cs) hne hn rest'
    exact wordAt?_of_numberAt hname (numberAt_spelled (by rw [hcs]) hr) hne
  · obtain ⟨rest, hcs⟩ := (quotedAt?_append hu []).1
    refine ⟨rest, ?_⟩
    simp only [Lexeme.spelling, String.toList_ofList]
    refine ⟨hcs.symm, ?_, fun rest' _ => ?_⟩
    · rintro rfl
      have := (quotedAt?_append hu []).2.1
      cases this
    · obtain ⟨-, hq, hname, hnumber⟩ := quotedAt?_append hu rest'
      unfold wordAt?
      simp only [hname, hnumber, hq, List.isEmpty_nil, Bool.not_true, Bool.false_eq_true,
        if_false, Option.map_some]

theorem keyword_spelling_of_ofName? {s : String} {k : Keyword} (h : Keyword.ofName? s = some k) :
    k.spelling = s := by
  have h := @List.find?_some _ (fun k : Keyword => k.spelling == s) _ _ h
  exact beq_iff_eq.mp h

/-- A keyword is spelled as the name. -/
theorem spelling_resolve (w : Lexeme) : w.resolve.spelling = w.spelling := by
  cases w with
  | name s =>
    rw [Lexeme.resolve]
    split
    · rename_i k hk
      exact keyword_spelling_of_ofName? hk
    · rfl
  | _ => rfl

/-- A mark that is found where no other word is. -/
theorem finds_mark {scan : List Char → Option Lexeme} {marks : List Mark} {cs : List Char}
    {m : Mark} (h : markAt? marks cs = some m)
    (hscan : ∀ rest rest', cs = m.spelling.toList ++ rest → Looser rest rest' →
      markAt? marks (m.spelling.toList ++ rest') = some m →
      scan (m.spelling.toList ++ rest') = some (.mark m)) : Finds scan cs (.mark m) := by
  obtain ⟨rest, rfl⟩ := prefix_markAt? h
  exact ⟨rest, rfl, mark_spelling_ne_nil m, fun rest' hr =>
    hscan rest rest' rfl hr (markAt?_spelled h hr)⟩

/-- A word that is found where any word is taken. -/
theorem anyAt?_cases {cs : List Char} {w : Lexeme} (h : anyAt? cs = some w) :
    wordAt? cs = some w ∨ ∃ m, w = .mark m ∧ wordAt? cs = none ∧ markAt? Mark.all cs = some m := by
  unfold anyAt? at h
  split at h
  · rename_i w' hw
    obtain rfl := Option.some.inj h
    exact .inl hw
  · rename_i hw
    obtain ⟨m, hm, rfl⟩ := Option.map_eq_some_iff.mp h
    exact .inr ⟨m, rfl, hw, hm⟩

theorem anyAt?_spelled {cs : List Char} {w : Lexeme} (h : anyAt? cs = some w) :
    Finds anyAt? cs w := by
  obtain hw | ⟨m, rfl, hw, hm⟩ := anyAt?_cases h
  · obtain ⟨rest, hcs, hne, hfound⟩ := wordAt?_spelled hw
    exact ⟨rest, hcs, hne, fun rest' hr => by rw [anyAt?, hfound rest' hr]⟩
  · refine finds_mark hm fun rest rest' hcs hr hm' => ?_
    rw [anyAt?, wordAt?_mark_spelled (hcs ▸ hw) hr, hm']
    rfl

theorem expectedAt?_spelled {p : Place} {cs : List Char} {w : Lexeme}
    (h : expectedAt? p cs = some w) : Finds (expectedAt? p) cs w := by
  cases p with
  | operand =>
    unfold expectedAt? at h
    dsimp only at h
    split at h
    · rename_i w' hw
      obtain rfl := Option.some.inj h
      obtain ⟨rest, hcs, hne, hfound⟩ := wordAt?_spelled hw
      unfold Finds
      rw [spelling_resolve]
      refine ⟨rest, hcs, hne, fun rest' hr => ?_⟩
      unfold expectedAt?
      simp only [hfound rest' hr]
    · rename_i hw
      obtain ⟨m, hm, rfl⟩ := Option.map_eq_some_iff.mp h
      refine finds_mark hm fun rest rest' hcs hr hm' => ?_
      unfold expectedAt?
      simp only [wordAt?_mark_spelled (hcs ▸ hw) hr, hm', Option.map_some]
  | operator =>
    obtain ⟨m, hm, rfl⟩ := Option.map_eq_some_iff.mp h
    exact finds_mark hm fun rest rest' _ _ hm' => Option.map_eq_some_iff.mpr ⟨m, hm', rfl⟩
  | member =>
    unfold expectedAt? at h
    dsimp only at h
    split at h
    · cases h
    · rename_i hn
      obtain rfl := Option.some.inj h
      have hne : nameAt cs ≠ [] := fun he => hn (List.isEmpty_iff.mpr he)
      obtain ⟨rest, hcs⟩ := prefix_nameAt cs
      refine ⟨rest, ?_⟩
      simp only [Lexeme.spelling, String.toList_ofList]
      refine ⟨hcs.symm, hne, fun rest' hr => ?_⟩
      unfold expectedAt?
      simp only [nameAt_spelled hne (by rw [hcs]) hr, List.isEmpty_eq_false_iff.mpr hne,
        Bool.false_eq_true, if_false]
  | done => cases h

/-- Where no word of the expected kind fits, none fits in front of a looser text. -/
theorem expectedAt?_spelled_none {p : Place} {w : Lexeme} {rest rest' : List Char}
    (h : expectedAt? p (w.spelling.toList ++ rest) = none)
    (hw : anyAt? (w.spelling.toList ++ rest) = some w) (hne : w.spelling.toList ≠ [])
    (hr : Looser rest rest') : expectedAt? p (w.spelling.toList ++ rest') = none := by
  cases p with
  | operand =>
    unfold expectedAt? at h
    dsimp only at h
    split at h
    · cases h
    · rename_i hnone
      obtain hw | ⟨m, rfl, -⟩ := anyAt?_cases hw
      · rw [hw] at hnone
        cases hnone
      · have hm := markAt?_spelled_none hne (Option.map_eq_none_iff.mp h) hr
        unfold expectedAt?
        simp only [Lexeme.spelling] at hm hnone ⊢
        simp only [wordAt?_mark_spelled hnone hr, hm, Option.map_none]
  | operator =>
    exact Option.map_eq_none_iff.mpr (markAt?_spelled_none hne (Option.map_eq_none_iff.mp h) hr)
  | member =>
    have hn : nameAt (w.spelling.toList ++ rest) = [] := by
      unfold expectedAt? at h
      dsimp only at h
      split at h
      · rename_i hn
        exact List.isEmpty_iff.mp hn
      · cases h
    unfold expectedAt?
    simp only [eq_nil_of_prefix_nameAt (List.prefix_append _ _) hne hn rest', List.isEmpty_nil,
      if_true]
  | done => rfl

/-- A word is spelled as the text starts and found again in front of a looser text. -/
theorem lexemeAt?_spelled {p : Place} {cs : List Char} {w : Lexeme}
    (h : lexemeAt? p cs = some w) : Finds (lexemeAt? p) cs w := by
  unfold lexemeAt? at h
  split at h
  · rename_i w' hw
    obtain rfl := Option.some.inj h
    obtain ⟨rest, hcs, hne, hfound⟩ := expectedAt?_spelled hw
    exact ⟨rest, hcs, hne, fun rest' hr => by rw [lexemeAt?, hfound rest' hr]⟩
  · rename_i hnone
    obtain ⟨rest, rfl, hne, hfound⟩ := anyAt?_spelled h
    refine ⟨rest, rfl, hne, fun rest' hr => ?_⟩
    rw [lexemeAt?, expectedAt?_spelled_none hnone h hne hr, hfound rest' hr]

/-- No word starts at a blank. -/
theorem lexemeAt?_layout {c : Char} (hc : isLayout c = true) (p : Place) (cs : List Char) :
    lexemeAt? p (c :: cs) = none := by
  simp only [isLayout, Bool.or_eq_true, beq_iff_eq] at hc
  rcases hc with (((rfl | rfl) | rfl) | rfl) | rfl <;> cases p <;> rfl

theorem isLayout_of_lexemeAt? {p : Place} {c : Char} {cs : List Char} {w : Lexeme}
    (h : lexemeAt? p (c :: cs) = some w) : isLayout c = false := by
  rw [Bool.eq_false_iff]
  intro hc
  rw [lexemeAt?_layout hc p cs] at h
  cases h

/-! ## Texts -/

/-- Words with a blank after each. -/
def spelled (ws : List Lexeme) : List Char :=
  ws.flatMap fun w => w.spelling.toList ++ [' ']

theorem spelled_cons (w : Lexeme) (ws : List Lexeme) :
    spelled (w :: ws) = w.spelling.toList ++ ' ' :: spelled ws := by
  rw [spelled, List.flatMap_cons, List.append_assoc]
  rfl

theorem scans_spelled (ws : List Lexeme) :
    ∀ p, LexedFrom p ws → ∃ q, Scans p (spelled ws) ws q [] := by
  induction ws with
  | nil =>
    intro p _
    exact ⟨p, .stop⟩
  | cons w ws ih =>
    intro p h
    obtain ⟨⟨cs, hw⟩, hws⟩ := h
    obtain ⟨q, hq⟩ := ih w.next hws
    obtain ⟨rest, -, hne, hfound⟩ := lexemeAt?_spelled hw
    have hw := hfound (' ' :: spelled ws) (looser_separator (by decide) _ _)
    refine ⟨q, ?_⟩
    rw [spelled_cons]
    cases hs : w.spelling.toList with
    | nil => exact absurd hs hne
    | cons c ds =>
      rw [hs, List.cons_append] at hw
      exact .word (isLayout_of_lexemeAt? hw) hw hs (.blank rfl hq)

/-- Words that are found at their places are the tokens of a text. -/
theorem exists_lex_eq {ws : List Lexeme} (h : LexedFrom .operand ws) :
    ∃ source : String, (lex source.toList).tokens.map Token.lexeme = ws ∧
      (lex source.toList).stop? = none := by
  obtain ⟨q, hq⟩ := scans_spelled ws .operand h
  refine ⟨String.ofList (spelled ws), ?_⟩
  rw [String.toList_ofList]
  exact lex_of_scans hq

end TokenFormula.Source

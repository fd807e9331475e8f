import TokenFormula.Proofs.Expr.Parse
import TokenFormula.Proofs.Grammar.Sound
import TokenFormula.Proofs.Source.Spelled

/-!
# Layout

Blanks between the words of a text, and a semicolon behind the last of them, change
neither the words nor what is read. A blank that is put between two words only
makes the rest of the text looser, so every word in front of it is found again; the
words behind it are read from the same place as before.

Results:
* `Scans.loosen`: the words in front of a looser text.
* `scans_of_lexFrom_between`: the lexer comes to every place between two tokens.
* `Relaid`: the texts that differ in blanks and in the last semicolon only.
* `parse_relaid`: they are read as the same tree.
-/

namespace TokenFormula.Source

/-! ## Scans -/

/-- Words are found again where what follows them goes on no further. -/
theorem Scans.exists_loosen {p q : Place} {cs rest rest' : List Char} {ws : List Lexeme}
    (h : Scans p cs ws q rest) (hr : Looser rest rest') :
    ∃ before, cs = before ++ rest ∧ Scans p (before ++ rest') ws q rest' := by
  induction h with
  | stop => exact ⟨[], rfl, .stop⟩
  | @blank _ _ c _ _ _ hc _ ih =>
    obtain ⟨before, rfl, h⟩ := ih hr
    exact ⟨c :: before, rfl, .blank hc h⟩
  | @word _ _ c cs _ _ w _ hc hw hs _ ih =>
    obtain ⟨before, rfl, h⟩ := ih hr
    refine ⟨c :: (cs ++ before), by simp, ?_⟩
    obtain ⟨r, he, -, hfound⟩ := lexemeAt?_spelled hw
    rw [hs, List.cons_append, List.cons_eq_cons, List.append_cancel_left_eq] at he
    obtain rfl := he.2
    have hw := hfound _ (hr.append before)
    rw [hs] at hw
    rw [List.cons_append, List.append_assoc]
    exact .word hc hw hs h

theorem Scans.loosen {p q : Place} {before rest rest' : List Char} {ws : List Lexeme}
    (h : Scans p (before ++ rest) ws q rest) (hr : Looser rest rest') :
    Scans p (before ++ rest') ws q rest' := by
  obtain ⟨before', he, h'⟩ := h.exists_loosen hr
  rwa [List.append_cancel_right he]

/-- A run of blanks has no words. -/
theorem scans_blanks {run : List Char} (h : ∀ c ∈ run, isLayout c = true) (p : Place)
    (rest : List Char) : Scans p (run ++ rest) [] p rest := by
  induction run with
  | nil => exact .stop
  | cons c run ih =>
    rw [List.forall_mem_cons] at h
    exact .blank h.1 (ih h.2)

/-- Where the lexer does not stop, it skips a blank or reads a word. -/
theorem lexFrom_cases {fuel offset : Nat} {p : Place} {c : Char} {cs : List Char}
    (h : (lexFrom (fuel + 1) p offset (c :: cs)).stop? = none) : isLayout c = true ∨
      ∃ w ds rest, isLayout c = false ∧ cs = ds ++ rest ∧ w.spelling.toList = c :: ds ∧
        lexemeAt? p (c :: (ds ++ rest)) = some w := by
  cases hc : isLayout c with
  | true => exact .inl rfl
  | false =>
    right
    cases hw : lexemeAt? p (c :: cs) with
    | none =>
      rw [lexFrom] at h
      simp only [List.takeWhile_cons_of_neg (Bool.eq_false_iff.mp hc), List.length_nil,
        List.drop_zero, hw] at h
      cases h
    | some w =>
      obtain ⟨rest, he, hne, -⟩ := lexemeAt?_spelled hw
      obtain ⟨d, ds, hs⟩ := List.exists_cons_of_ne_nil hne
      rw [hs, List.cons_append, List.cons_eq_cons] at he
      obtain ⟨rfl, rfl⟩ := he
      exact ⟨w, ds, rest, rfl, rfl, hs, hw⟩

/-- What the lexer gives is a scan. -/
theorem scans_of_lexFrom (n : Nat) : ∀ fuel p offset cs, cs.length ≤ n → cs.length < fuel →
    (lexFrom fuel p offset cs).stop? = none →
    ∃ q, Scans p cs ((lexFrom fuel p offset cs).tokens.map Token.lexeme) q [] := by
  induction n with
  | zero =>
    intro fuel p offset cs hn hf _
    obtain rfl := List.eq_nil_of_length_eq_zero (Nat.le_zero.mp hn)
    obtain ⟨fuel, rfl⟩ := Nat.exists_eq_succ_of_ne_zero (Nat.ne_zero_of_lt hf)
    exact ⟨p, .stop⟩
  | succ n ih =>
    intro fuel p offset cs hn hf h
    obtain ⟨fuel, rfl⟩ := Nat.exists_eq_succ_of_ne_zero (Nat.ne_zero_of_lt hf)
    cases cs with
    | nil => exact ⟨p, .stop⟩
    | cons c cs =>
      rw [List.length_cons] at hn hf
      obtain hc | ⟨w, ds, rest, hc, rfl, hs, hw⟩ := lexFrom_cases h
      · rw [lexFrom_blank hc] at h ⊢
        obtain ⟨q, hq⟩ := ih (fuel + 1) p (offset + 1) cs (by omega) (by omega) h
        exact ⟨q, .blank hc hq⟩
      · rw [lexFrom_word hc hw hs] at h ⊢
        rw [List.length_append] at hn hf
        obtain ⟨q, hq⟩ := ih fuel w.next _ rest (by omega) (by omega) h
        exact ⟨q, .word hc hw hs hq⟩

/-- The lexer comes to every place that is inside no token. The induction is on the
    text before the place: a blank or a word of it is read first. -/
theorem scans_of_lexFrom_between (n : Nat) : ∀ fuel p offset before after, before.length ≤ n →
    (before ++ after).length < fuel → (lexFrom fuel p offset (before ++ after)).stop? = none →
    (∀ t ∈ (lexFrom fuel p offset (before ++ after)).tokens,
      t.offset + t.lexeme.spelling.length ≤ offset + before.length ∨
        offset + before.length ≤ t.offset) →
    ∃ ws us q r, Scans p (before ++ after) ws q after ∧ Scans q after us r [] := by
  induction n with
  | zero =>
    intro fuel p offset before after hn hf h _
    obtain rfl := List.eq_nil_of_length_eq_zero (Nat.le_zero.mp hn)
    obtain ⟨r, hr⟩ := scans_of_lexFrom _ fuel p offset after (Nat.le_refl _) hf h
    exact ⟨[], _, p, r, .stop, hr⟩
  | succ n ih =>
    intro fuel p offset before after hn hf h hgap
    obtain ⟨fuel, rfl⟩ := Nat.exists_eq_succ_of_ne_zero (Nat.ne_zero_of_lt hf)
    cases before with
    | nil =>
      obtain ⟨r, hr⟩ := scans_of_lexFrom _ _ p offset after (Nat.le_refl _) hf h
      exact ⟨[], _, p, r, .stop, hr⟩
    | cons c before =>
      rw [List.cons_append] at h hf hgap ⊢
      rw [List.length_cons] at hn hf hgap
      obtain hc | ⟨w, ds, rest, hc, he, hs, hw⟩ := lexFrom_cases h
      · rw [lexFrom_blank hc] at h hgap
        obtain ⟨ws, us, q, r, hws, hus⟩ := ih (fuel + 1) p (offset + 1) before after (by omega)
          (by omega) h (fun t ht => by have := hgap t ht; omega)
        exact ⟨ws, us, q, r, .blank hc hws, hus⟩
      · have hsize : w.spelling.length = ds.length + 1 := by
          rw [← String.length_toList, hs, List.length_cons]
        rw [he, lexFrom_word hc hw hs] at h hgap
        -- The word starts before the place, so it also ends before it.
        have hend := hgap _ List.mem_cons_self
        dsimp only at hend
        have hprefix : ds <+: before :=
          List.prefix_of_prefix_length_le ⟨rest, he.symm⟩ (List.prefix_append before after)
            (by omega)
        obtain ⟨before', rfl⟩ := hprefix
        rw [List.append_assoc, List.append_cancel_left_eq] at he
        subst he
        rw [List.length_append] at hn hf hgap
        rw [List.append_assoc]
        obtain ⟨ws, us, q, r, hws, hus⟩ := ih fuel w.next (offset + w.spelling.length) before' after
          (by omega) (by rw [List.length_append] at hf ⊢; omega) h
          (fun t ht => by have := hgap t (List.mem_cons_of_mem _ ht); omega)
        exact ⟨w :: ws, us, q, r, .word hc hw hs hws, hus⟩

/-! ## Texts that differ in layout -/

/-- The place behind so many characters is inside no token of the text. -/
def BetweenTokens (cs : List Char) (place : Nat) : Prop :=
  ∀ t ∈ (lex cs).tokens, t.offset + t.lexeme.spelling.length ≤ place ∨ place ≤ t.offset

instance (cs : List Char) (place : Nat) : Decidable (BetweenTokens cs place) :=
  inferInstanceAs (Decidable (∀ t ∈ (lex cs).tokens, _))

/-- The texts that come from a text as runs of blanks are put in at places between
    tokens, at the start and at the end, and a semicolon behind the last token, unless
    that is a semicolon. -/
inductive Relaid (source : List Char) : List Char → Prop
  | same : Relaid source source
  | blanks (before after run : List Char) (h : Relaid source (before ++ after))
    (hplace : BetweenTokens (before ++ after) before.length)
    (hrun : ∀ c ∈ run, isLayout c = true) : Relaid source (before ++ (run ++ after))
  | semicolon {cs : List Char} (h : Relaid source cs)
    (hlast : ∀ t ∈ (lex cs).tokens.getLast?, t.lexeme ≠ .mark .semicolon) :
    Relaid source (cs ++ [';'])

/-- The words of the text are those of a sentence, which has this tree. -/
def IsRead (cs : List Char) (tree : Tree) : Prop :=
  (lex cs).stop? = none ∧
    ∃ d : Sentence, d.word = (lex cs).tokens.map Token.lexeme ∧ d.tree = tree

theorem parse_eq_ok_iff (source : String) (t : Tree) :
    parse source = .ok t ↔ IsRead source.toList t := by
  unfold parse IsRead
  rcases hl : lex source.toList with ⟨ts, _ | offset⟩
  · constructor
    · exact fun h => ⟨rfl, exists_sentence_of_parseTokens h⟩
    · rintro ⟨-, d, hw, rfl⟩
      exact d.parseTokens_eq hw.symm
  · refine iff_of_false (fun h => ?_) (fun h => by cases h.1)
    unfold parseTokens at h
    dsimp only at h
    split at h <;> cases h

/-- Blanks between two tokens change no token. -/
theorem lex_blanks {before after run : List Char} (hstop : (lex (before ++ after)).stop? = none)
    (hplace : BetweenTokens (before ++ after) before.length)
    (hrun : ∀ c ∈ run, isLayout c = true) :
    (lex (before ++ (run ++ after))).stop? = none ∧
      (lex (before ++ (run ++ after))).tokens.map Token.lexeme =
        (lex (before ++ after)).tokens.map Token.lexeme := by
  obtain ⟨ws, us, q, r, hws, hus⟩ := scans_of_lexFrom_between _ _ .operand 0 before after
    (Nat.le_refl _) (Nat.lt_succ_self _) hstop (by simpa [BetweenTokens, lex] using hplace)
  have hold := lex_of_scans (hws.trans hus)
  have hnew := lex_of_scans
    ((hws.loosen (looser_blanks hrun after)).trans ((scans_blanks hrun q after).trans hus))
  exact ⟨hnew.2, hnew.1.trans hold.1.symm⟩

/-- A semicolon at the end is one more token. -/
theorem lex_semicolon {cs : List Char} (hstop : (lex cs).stop? = none) :
    (lex (cs ++ [';'])).stop? = none ∧ (lex (cs ++ [';'])).tokens.map Token.lexeme =
      (lex cs).tokens.map Token.lexeme ++ [.mark .semicolon] := by
  obtain ⟨q, hq⟩ := scans_of_lexFrom _ _ .operand 0 cs (Nat.le_refl _) (Nat.lt_succ_self _) hstop
  have hmark : Scans q [';'] [.mark .semicolon] .done [] :=
    .character rfl (by cases q <;> rfl) rfl .stop
  have hq : Scans .operand (cs ++ []) ((lex cs).tokens.map Token.lexeme) q [] := by
    rwa [List.append_nil]
  have hq := hq.loosen (looser_separator (c := ';') (by decide) [] [])
  exact (lex_of_scans (hq.trans hmark)).symm

theorem IsRead.blanks {before after run : List Char} {t : Tree} (h : IsRead (before ++ after) t)
    (hplace : BetweenTokens (before ++ after) before.length)
    (hrun : ∀ c ∈ run, isLayout c = true) : IsRead (before ++ (run ++ after)) t := by
  obtain ⟨hstop, hread⟩ := h
  obtain ⟨hstop', hwords⟩ := lex_blanks hstop hplace hrun
  refine ⟨hstop', ?_⟩
  rw [hwords]
  exact hread

/-- The sentence without a semicolon and the one with it have the same tree. -/
theorem IsRead.semicolon {cs : List Char} {t : Tree} (h : IsRead cs t)
    (hlast : ∀ u ∈ (lex cs).tokens.getLast?, u.lexeme ≠ .mark .semicolon) :
    IsRead (cs ++ [';']) t := by
  obtain ⟨hstop, d, hw, rfl⟩ := h
  obtain ⟨hstop', hwords⟩ := lex_semicolon hstop
  cases d with
  | plain e =>
    refine ⟨hstop', .closed e, ?_, rfl⟩
    rw [hwords, ← hw]
    rfl
  | closed e =>
    have hend : ((lex cs).tokens.map Token.lexeme).getLast? = some (.mark .semicolon) := by
      rw [← hw]
      exact List.getLast?_concat
    rw [List.getLast?_map] at hend
    obtain ⟨u, hu, he⟩ := Option.map_eq_some_iff.mp hend
    exact absurd he (hlast u hu)

/-- A text that differs in layout is read as the same parse tree. -/
theorem IsRead.relaid {source cs : List Char} {t : Tree} (h : IsRead source t)
    (hr : Relaid source cs) : IsRead cs t := by
  induction hr with
  | same => exact h
  | blanks _ _ _ _ hplace hrun ih => exact ih.blanks hplace hrun
  | semicolon _ hlast ih => exact ih.semicolon hlast

end TokenFormula.Source

namespace TokenFormula.Expr

open Source (Relaid)

/-- Blanks between the tokens of a text that is read, and a semicolon at its end,
    change nothing: the text is read without errors as the very same tree, with
    the same descriptions of what the tree does not model. -/
theorem parse_relaid {source text : String} (hread : (parse source).notedErrors = [])
    (h : Relaid source.toList text.toList) :
    (parse text).notedErrors = [] ∧ parse text = parse source := by
  suffices he : parse text = parse source from ⟨he ▸ hread, he⟩
  obtain ⟨t, e, ht, he, -⟩ := exists_of_notedErrors hread
  have ht' : Source.parse text = .ok t := by
    rw [Source.parse_eq_ok_iff] at ht ⊢
    exact ht.relaid h
  unfold parse
  simp only [ht, ht', he]

/-- Behind the numeral `1.`, between the name and the two-character operator, and behind
    the semicolon. -/
theorem parse_relaid_power :
    (parse "1.+x**2").notedErrors = [] ∧
      Relaid "1.+x**2".toList "1.\n+x \t**2; ".toList ∧
      parse "1.\n+x \t**2; " = parse "1.+x**2" := by
  have hread : (parse "1.+x**2").notedErrors = [] := by decide +kernel
  have hline : Relaid "1.+x**2".toList "1.\n+x**2".toList :=
    .blanks "1.".toList _ ['\n'] .same (by decide +kernel) (List.all_eq_true.mp rfl)
  have hspace : Relaid "1.+x**2".toList "1.\n+x \t**2".toList :=
    .blanks "1.\n+x".toList _ [' ', '\t'] hline (by decide +kernel) (List.all_eq_true.mp rfl)
  have hclosed : Relaid "1.+x**2".toList "1.\n+x \t**2;".toList :=
    .semicolon hspace (by decide +kernel)
  have hend : Relaid "1.+x**2".toList "1.\n+x \t**2; ".toList :=
    .blanks "1.\n+x \t**2;".toList _ [' '] hclosed (by decide +kernel) (List.all_eq_true.mp rfl)
  exact ⟨hread, hend, (parse_relaid hread hend).2⟩

end TokenFormula.Expr

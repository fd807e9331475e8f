import TokenFormula.Proofs.Source.Looser
import TokenFormula.Source.Literal

/-!
# Quoted texts

A text between double quotes, with its quotes, backslashes and line ends
escaped, is one word, and stands for the text.

Results:
* `flatMap_escapeChar`: the escapes are those of five replacements in the whole text,
  the backslashes first.
* `unquote_quote`: a quoted literal stands for the text that it was made of.
* `scans_quote`: it is scanned as one word, whatever follows.
* `quotedAt?_prefix_quote`: no shorter piece of it is a quoted text.
* `lex_quote`: writing, scanning and reading of quoted texts agree.
-/

namespace TokenFormula.Source

/-! ## Escapes -/

/-- Puts `w` in the place of each `c`. -/
def replaceChar (c : Char) (w : List Char) (cs : List Char) : List Char :=
  cs.flatMap fun d => if d = c then w else [d]

/-- The escapes are those of five replacements in the whole text. Only the first
    one meets backslashes that stand in the text: those that the later ones put in
    are not doubled. -/
theorem flatMap_escapeChar (cs : List Char) :
    cs.flatMap escapeChar =
      replaceChar '\t' ['\\', 't'] (replaceChar '\r' ['\\', 'r'] (replaceChar '\n' ['\\', 'n']
        (replaceChar '"' ['\\', '"'] (replaceChar '\\' ['\\', '\\'] cs)))) := by
  unfold replaceChar
  simp only [List.flatMap_assoc]
  congr 1
  funext c
  unfold escapeChar
  by_cases h1 : c = '\\'
  · subst h1
    rfl
  by_cases h2 : c = '"'
  · subst h2
    rfl
  by_cases h3 : c = '\n'
  · subst h3
    rfl
  by_cases h4 : c = '\r'
  · subst h4
    rfl
  by_cases h5 : c = '\t'
  · subst h5
    rfl
  simp only [if_neg h1, if_neg h2, if_neg h3, if_neg h4, if_neg h5, List.flatMap_singleton]

/-- The shapes of an escaped character: a pair after a backslash, or the character
    itself. -/
theorem escapeChar_cases (c : Char) :
    (∃ d, escapeChar c = ['\\', d] ∧ d ≠ '\n' ∧ unescape d = c) ∨
      (escapeChar c = [c] ∧ c ≠ '\\' ∧ c ≠ '"') := by
  unfold escapeChar
  split
  · rename_i h
    exact .inl ⟨'\\', rfl, by decide, h.symm⟩
  · split
    · rename_i h
      exact .inl ⟨'"', rfl, by decide, h.symm⟩
    · split
      · rename_i h
        exact .inl ⟨'n', rfl, by decide, h.symm⟩
      · split
        · rename_i h
          exact .inl ⟨'r', rfl, by decide, h.symm⟩
        · split
          · rename_i h
            exact .inl ⟨'t', rfl, by decide, h.symm⟩
          · rename_i h1 h2 _ _ _
            exact .inr ⟨rfl, h1, h2⟩

/-! ## Reading back -/

theorem resolveEscapes_cons {c : Char} (h : c ≠ '\\') (rest : List Char) :
    resolveEscapes (c :: rest) = c :: resolveEscapes rest := by
  rw [resolveEscapes]
  exact fun _ _ hc _ => h hc

theorem resolveEscapes_escape (cs : List Char) : resolveEscapes (cs.flatMap escapeChar) = cs := by
  induction cs with
  | nil => rfl
  | cons c cs ih =>
    rw [List.flatMap_cons]
    obtain ⟨d, hd, -, hu⟩ | ⟨hc, hne, -⟩ := escapeChar_cases c
    · rw [hd]
      show unescape d :: resolveEscapes (cs.flatMap escapeChar) = _
      rw [hu, ih]
    · rw [hc, List.singleton_append, resolveEscapes_cons hne, ih]

theorem unquoteChars_quoteChars (cs : List Char) : unquoteChars (quoteChars cs) = cs := by
  have hq : isQuoted (quoteChars cs) = true := by
    unfold quoteChars
    cases hb : cs.flatMap escapeChar with
    | nil => rfl
    | cons d rest =>
      show ('"' == '"' || '"' == '\'') && (d :: rest ++ ['"']).getLast? == some '"'
      rw [List.getLast?_concat]
      rfl
  unfold unquoteChars
  rw [if_pos hq]
  show resolveEscapes (cs.flatMap escapeChar ++ ['"']).dropLast = cs
  rw [List.dropLast_concat, resolveEscapes_escape]

/-- A quoted literal stands for the text that it was made of. -/
theorem unquote_quote (s : String) : unquote (quote s) = s := by
  rw [unquote, quote, String.toList_ofList, unquoteChars_quoteChars, String.ofList_toList]

/-! ## Scanning -/

theorem quotedRest?_cons {c : Char} (h : c ≠ '\\') (hq : c ≠ '"') (rest : List Char) :
    quotedRest? '"' (c :: rest) = (quotedRest? '"' rest).map (c :: ·) := by
  rw [quotedRest?, if_neg hq, if_neg h]
  exact fun _ _ hc _ => h hc

theorem quotedRest?_escape (cs rest : List Char) :
    quotedRest? '"' (cs.flatMap escapeChar ++ '"' :: rest) =
      some (cs.flatMap escapeChar ++ ['"']) := by
  induction cs with
  | nil => cases rest <;> rfl
  | cons c cs ih =>
    rw [List.flatMap_cons]
    obtain ⟨d, hd, hne, -⟩ | ⟨hc, hne, hq⟩ := escapeChar_cases c
    · rw [hd]
      show (if d = '\n' then none else
        (quotedRest? '"' (cs.flatMap escapeChar ++ '"' :: rest)).map ('\\' :: d :: ·)) = _
      rw [if_neg hne, ih]
      rfl
    · rw [hc, List.append_assoc, List.singleton_append, quotedRest?_cons hne hq, ih]
      rfl

theorem quote_toList (s : String) :
    (quote s).toList = '"' :: (s.toList.flatMap escapeChar ++ ['"']) := by
  rw [quote, String.toList_ofList]
  rfl

/-- A quoted literal is found as a whole, whatever follows. -/
theorem quotedAt?_quote (s : String) (rest : List Char) :
    quotedAt? ((quote s).toList ++ rest) = some (quote s).toList := by
  rw [quote_toList]
  show (quotedRest? '"' (s.toList.flatMap escapeChar ++ ['"'] ++ rest)).map ('"' :: ·) = _
  rw [List.append_assoc, List.singleton_append, quotedRest?_escape]
  rfl

theorem lexemeAt?_quote (s : String) (rest : List Char) :
    lexemeAt? .operand ((quote s).toList ++ rest) = some (.quoted (quote s)) := by
  have hq := quotedAt?_quote s rest
  obtain ⟨-, -, hname, hnumber⟩ := quotedAt?_append hq rest
  have hword : wordAt? ((quote s).toList ++ rest) = some (.quoted (quote s)) := by
    unfold wordAt?
    simp only [hname, hnumber, hq, List.isEmpty_nil, Bool.not_true, Bool.false_eq_true,
      if_false, Option.map_some, String.ofList_toList]
  unfold lexemeAt? expectedAt?
  simp only [hword, Lexeme.resolve]

/-- A quoted literal is one word, whatever follows. -/
theorem scans_quote (s : String) (rest : List Char) :
    Scans .operand ((quote s).toList ++ rest) [.quoted (quote s)] .operator rest := by
  have hcs := quote_toList s
  have hw := lexemeAt?_quote s rest
  rw [hcs] at hw ⊢
  exact .word rfl hw hcs .stop

/-- A piece from the start of a quoted literal is no quoted text, unless it is the
    whole: neither a quote nor a backslash in the text ends it early. -/
theorem quotedAt?_prefix_quote {s : String} {p u : List Char} (hp : p <+: (quote s).toList)
    (hu : quotedAt? p = some u) : p = (quote s).toList := by
  obtain ⟨v, hv⟩ := hp
  obtain ⟨w, hw⟩ := (quotedAt?_append hu []).1
  have hagain := (quotedAt?_append hu (w ++ v)).2.1
  -- what is found in the piece is found in the whole, so it is the whole
  rw [← List.append_assoc, hw, hv] at hagain
  have hwhole := quotedAt?_quote s []
  rw [List.append_nil, hagain] at hwhole
  obtain rfl := Option.some.inj hwhole
  have hnil : w ++ v = [] := by
    rw [← hw, List.append_assoc] at hv
    exact List.append_cancel_left (hv.trans (List.append_nil _).symm)
  rw [← hw, (List.append_eq_nil_iff.mp hnil).1, List.append_nil]

/-- Writing, scanning and reading of quoted texts agree: where an operand is due, at
    any offset and after any words, the lexer takes a quoted literal as one word,
    whatever follows; the literal stands for the text it was made of, so that
    different texts have different literals; and it does not end early. -/
theorem lex_quote (s : String) (rest : List Char) :
    (∀ fuel offset, (lexFrom (fuel + 1) .operand offset ((quote s).toList ++ rest)).tokens.head? =
      some ⟨.quoted (quote s), offset⟩) ∧
    (∀ cs ws, Scans .operand cs ws .operand ((quote s).toList ++ rest) →
      ∃ after, (lex cs).tokens.map Token.lexeme = ws ++ .quoted (quote s) :: after) ∧
    unquote (quote s) = s ∧
    (∀ t, quote t = quote s → t = s) ∧
    ∀ p, p <+: (quote s).toList → (quotedAt? p).isSome = true → p = (quote s).toList := by
  refine ⟨?_, ?_, unquote_quote s, ?_, ?_⟩
  · intro fuel offset
    have hcs := quote_toList s
    have hw := lexemeAt?_quote s rest
    rw [hcs] at hw ⊢
    exact congrArg (fun r : Lexed => r.tokens.head?) (lexFrom_word rfl hw hcs fuel offset)
  · intro cs ws h
    obtain ⟨fuel, offset, -, ht, -⟩ :=
      lexFrom_scans (h.trans (scans_quote s rest)) (cs.length + 1) 0 (Nat.lt_succ_self _)
    exact ⟨_, ht.trans (List.append_assoc ws _ _)⟩
  · intro t h
    rw [← unquote_quote t, h, unquote_quote s]
  · intro p hp h
    obtain ⟨u, hu⟩ := Option.isSome_iff_exists.mp h
    exact quotedAt?_prefix_quote hp hu

end TokenFormula.Source

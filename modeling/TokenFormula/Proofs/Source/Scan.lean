import TokenFormula.Source.Lexer

/-!
# Scanning

What the lexer makes of a text, word by word: a scan goes from a place and the
characters after it to a later place and the characters that are left. Scans of
neighbouring pieces join, so the text of a tree is scanned piece by piece, each
in front of any text that does not go on its last word.

Results:
* `Scans`, `Scans.trans`: the words from one place to a later one.
* `lexFrom_scans`, `lex_of_scans`: what the lexer gives on a scan, and on one of a whole
  text.
* `scans_mark`, `scans_sign`, `scans_name`, `scans_keyword`: the words without
  digits and quotes.
* `LexedFrom`, `lexFrom_lexed`: each word that the lexer gives is found at its
  place in some text.
-/

namespace TokenFormula.Source

/-! ## Scans -/

/-- From the place `p` before `cs` the words `ws` are read, up to the place `q`
    before `rest`. -/
inductive Scans : Place → List Char → List Lexeme → Place → List Char → Prop
  | stop {p : Place} {cs : List Char} : Scans p cs [] p cs
  | blank {p q : Place} {c : Char} {cs rest : List Char} {ws : List Lexeme}
    (hc : isLayout c = true) (h : Scans p cs ws q rest) : Scans p (c :: cs) ws q rest
  | word {p q : Place} {c : Char} {cs cs' rest : List Char} {w : Lexeme} {ws : List Lexeme}
    (hc : isLayout c = false) (hw : lexemeAt? p (c :: (cs ++ cs')) = some w)
    (hs : w.spelling.toList = c :: cs) (h : Scans w.next cs' ws q rest) :
    Scans p (c :: (cs ++ cs')) (w :: ws) q rest

theorem Scans.trans {p q r : Place} {cs cs' cs'' : List Char} {ws ws' : List Lexeme}
    (h : Scans p cs ws q cs') (h' : Scans q cs' ws' r cs'') : Scans p cs (ws ++ ws') r cs'' := by
  induction h with
  | stop => exact h'
  | blank hc _ ih => exact .blank hc (ih h')
  | word hc hw hs _ ih => exact .word hc hw hs (ih h')

/-- A word of one character. -/
theorem Scans.character {p q : Place} {c : Char} {cs rest : List Char} {w : Lexeme}
    {ws : List Lexeme} (hc : isLayout c = false) (hw : lexemeAt? p (c :: cs) = some w)
    (hs : w.spelling.toList = [c]) (h : Scans w.next cs ws q rest) :
    Scans p (c :: cs) (w :: ws) q rest :=
  @Scans.word p q c [] cs rest w ws hc hw hs h

/-- The lexer skips a blank. -/
theorem lexFrom_blank {c : Char} (hc : isLayout c = true) (fuel : Nat) (p : Place)
    (offset : Nat) (cs : List Char) :
    lexFrom (fuel + 1) p offset (c :: cs) = lexFrom (fuel + 1) p (offset + 1) cs := by
  rw [lexFrom, lexFrom]
  simp only [List.takeWhile_cons_of_pos hc, List.length_cons, List.drop_succ_cons]
  rw [show offset + ((cs.takeWhile isLayout).length + 1) =
    offset + 1 + (cs.takeWhile isLayout).length by omega]

/-- The lexer reads a word. -/
theorem lexFrom_word {c : Char} {cs cs' : List Char} {p : Place} {w : Lexeme}
    (hc : isLayout c = false) (hw : lexemeAt? p (c :: (cs ++ cs')) = some w)
    (hs : w.spelling.toList = c :: cs) (fuel offset : Nat) :
    lexFrom (fuel + 1) p offset (c :: (cs ++ cs')) =
      ⟨⟨w, offset⟩ :: (lexFrom fuel w.next (offset + w.spelling.length) cs').tokens,
        (lexFrom fuel w.next (offset + w.spelling.length) cs').stop?⟩ := by
  have hsize : w.spelling.length = (c :: cs).length := by
    rw [← hs, String.length_toList]
  rw [lexFrom]
  simp only [List.takeWhile_cons_of_neg (Bool.eq_false_iff.mp hc), List.length_nil,
    List.drop_zero, Nat.add_zero, hw]
  rw [hsize, ← List.cons_append, List.drop_left]

/-- The lexer reads the words of a scan and goes on where the scan ends. -/
theorem lexFrom_scans {p q : Place} {cs : List Char} {ws : List Lexeme} {rest : List Char}
    (h : Scans p cs ws q rest) : ∀ fuel offset, cs.length < fuel →
      ∃ fuel' offset', rest.length < fuel' ∧
        (lexFrom fuel p offset cs).tokens.map Token.lexeme =
          ws ++ (lexFrom fuel' q offset' rest).tokens.map Token.lexeme ∧
        (lexFrom fuel p offset cs).stop? = (lexFrom fuel' q offset' rest).stop? := by
  induction h with
  | stop => exact fun fuel offset hf => ⟨fuel, offset, hf, rfl, rfl⟩
  | blank hc _ ih =>
    intro fuel offset hf
    cases fuel with
    | zero => exact absurd hf (Nat.not_lt_zero _)
    | succ fuel =>
      rw [lexFrom_blank hc]
      refine ih (fuel + 1) (offset + 1) ?_
      rw [List.length_cons] at hf
      omega
  | word hc hw hs _ ih =>
    intro fuel offset hf
    cases fuel with
    | zero => exact absurd hf (Nat.not_lt_zero _)
    | succ fuel =>
      rw [List.length_cons, List.length_append] at hf
      obtain ⟨fuel', offset', hf', ht, hstop⟩ := ih fuel _ (by omega)
      rw [lexFrom_word hc hw hs]
      exact ⟨fuel', offset', hf', congrArg (_ :: ·) ht, hstop⟩

/-- A scan of a whole text is what the lexer gives. -/
theorem lex_of_scans {q : Place} {cs : List Char} {ws : List Lexeme}
    (h : Scans .operand cs ws q []) :
    (lex cs).tokens.map Token.lexeme = ws ∧ (lex cs).stop? = none := by
  obtain ⟨fuel, offset, hf, ht, hstop⟩ := lexFrom_scans h (cs.length + 1) 0 (Nat.lt_succ_self _)
  obtain ⟨fuel, rfl⟩ := Nat.exists_eq_succ_of_ne_zero (Nat.ne_of_gt hf)
  exact ⟨ht.trans (List.append_nil ws), hstop⟩

/-! ## Names -/

/-- The text does not start with a character of this kind. -/
def Ends (kind : Char → Bool) (rest : List Char) : Prop :=
  ∀ c ∈ rest.head?, kind c = false

theorem takeWhile_append_of_ends {kind : Char → Bool} {cs rest : List Char}
    (h : ∀ c ∈ cs, kind c = true) (hr : Ends kind rest) :
    (cs ++ rest).takeWhile kind = cs := by
  rw [List.takeWhile_append_of_pos h]
  cases rest with
  | nil => exact List.append_nil cs
  | cons c rest =>
    rw [List.takeWhile_cons_of_neg (Bool.eq_false_iff.mp (hr c rfl)), List.append_nil]

/-- The text is a name as a whole. -/
def IsName (s : String) : Prop :=
  ∃ c cs, s.toList = c :: cs ∧ startsName c = true ∧ ∀ d ∈ cs, continuesName d = true

/-- The text is a name that can be a variable: no keyword. -/
def IsVariable (s : String) : Prop :=
  IsName s ∧ Keyword.ofName? s = none

theorem isName_of_all {s : String} {c : Char} {cs : List Char} (hs : s.toList = c :: cs)
    (hc : startsName c = true) (hcs : cs.all continuesName = true) : IsName s :=
  ⟨c, cs, hs, hc, List.all_eq_true.mp hcs⟩

theorem isName_of_nameAt {cs : List Char} (h : (nameAt cs).isEmpty = false) :
    IsName (String.ofList (nameAt cs)) := by
  unfold nameAt at h ⊢
  split at h
  · cases h
  · rename_i c rest
    split at h
    · rename_i hc
      rw [if_pos hc]
      exact ⟨c, rest.takeWhile continuesName, String.toList_ofList, hc,
        List.all_eq_true.mp List.all_takeWhile⟩
    · cases h

theorem nameAt_append {s : String} (h : IsName s) {rest : List Char}
    (hr : Ends continuesName rest) : nameAt (s.toList ++ rest) = s.toList := by
  obtain ⟨c, cs, hs, hc, hcs⟩ := h
  rw [hs, List.cons_append, nameAt, if_pos hc, takeWhile_append_of_ends hcs hr]

/-- A character that starts a name is no blank. -/
theorem isLayout_of_startsName {c : Char} (h : startsName c = true) : isLayout c = false := by
  cases hl : isLayout c with
  | false => rfl
  | true =>
    simp only [isLayout, Bool.or_eq_true, beq_iff_eq] at hl
    rcases hl with (((rfl | rfl) | rfl) | rfl) | rfl <;> exact absurd h (by decide)

theorem wordAt?_name {s : String} (h : IsName s) {rest : List Char}
    (hr : Ends continuesName rest) : wordAt? (s.toList ++ rest) = some (.name s) := by
  unfold wordAt?
  dsimp only
  rw [nameAt_append h hr, String.ofList_toList]
  obtain ⟨c, cs, hs, -⟩ := h
  rw [hs]
  rfl

theorem scans_name {s : String} (h : IsVariable s) {rest : List Char}
    (hr : Ends continuesName rest) :
    Scans .operand (s.toList ++ rest) [.name s] .operator rest := by
  have hw : lexemeAt? .operand (s.toList ++ rest) = some (.name s) := by
    unfold lexemeAt? expectedAt?
    simp only [wordAt?_name h.1 hr, Lexeme.resolve, h.2]
  obtain ⟨c, cs, hs, hc, -⟩ := h.1
  rw [hs] at hw ⊢
  exact .word (isLayout_of_startsName hc) hw hs .stop

/-- A name after a point may be a keyword. -/
theorem scans_member {s : String} (h : IsName s) {rest : List Char}
    (hr : Ends continuesName rest) :
    Scans .member (s.toList ++ rest) [.name s] .operator rest := by
  have hw : lexemeAt? .member (s.toList ++ rest) = some (.name s) := by
    unfold lexemeAt? expectedAt?
    dsimp only
    rw [nameAt_append h hr, String.ofList_toList]
    obtain ⟨c, cs, hs, -⟩ := h
    rw [hs]
    rfl
  obtain ⟨c, cs, hs, hc, -⟩ := h
  rw [hs] at hw ⊢
  exact .word (isLayout_of_startsName hc) hw hs .stop

theorem isName_keyword (k : Keyword) : IsName k.spelling := by
  cases k <;> exact isName_of_all rfl rfl rfl

theorem scans_keyword (k : Keyword) {rest : List Char} (hr : Ends continuesName rest) :
    Scans .operand (k.spelling.toList ++ rest) [.keyword k] .operator rest := by
  have hw : lexemeAt? .operand (k.spelling.toList ++ rest) = some (.keyword k) := by
    unfold lexemeAt? expectedAt?
    rw [wordAt?_name (isName_keyword k) hr]
    cases k <;> rfl
  obtain ⟨c, cs, hs, hc, -⟩ := isName_keyword k
  rw [hs] at hw ⊢
  exact .word (isLayout_of_startsName hc) hw hs .stop

/-! ## Marks -/

theorem scans_openParen (rest : List Char) :
    Scans .operand ('(' :: rest) [.mark .openParen] .operand rest :=
  .character rfl rfl rfl .stop

theorem scans_closeParen (rest : List Char) :
    Scans .operator (')' :: rest) [.mark .closeParen] .operator rest :=
  .character rfl rfl rfl .stop

/-- The parentheses of a call without arguments. -/
theorem scans_noArguments (rest : List Char) :
    Scans .operator ('(' :: ')' :: rest) [.mark .openParen, .mark .closeParen] .operator rest :=
  .character rfl rfl rfl (.character rfl rfl rfl .stop)

theorem scans_openCall (rest : List Char) :
    Scans .operator ('(' :: rest) [.mark .openParen] .operand rest :=
  .character rfl rfl rfl .stop

theorem scans_comma (rest : List Char) :
    Scans .operator (',' :: ' ' :: rest) [.mark .comma] .operand rest :=
  .character rfl rfl rfl (.blank rfl .stop)

theorem scans_dot (rest : List Char) :
    Scans .operator ('.' :: rest) [.mark .dot] .member rest :=
  .character rfl rfl rfl .stop

theorem scans_assign (rest : List Char) :
    Scans .operator (' ' :: '=' :: ' ' :: rest) [.mark .assign] .operand rest :=
  .blank rfl (.character rfl rfl rfl (.blank rfl .stop))

/-- The mark that a binary operator is printed as. -/
def markOf : BinaryOp → Mark
  | .or => .or
  | .and => .and
  | .strictEq => .strictEq
  | .strictNe => .strictNe
  | .eq => .eq
  | .ne => .ne
  | .lt => .less
  | .gt => .greater
  | .le => .lessEq
  | .ge => .greaterEq
  | .add => .plus
  | .sub => .minus
  | .mul => .star
  | .div => .slash
  | .mod => .percent
  | .pow => .caret

/-- A binary operator between blanks. -/
theorem scans_binary (op : BinaryOp) (rest : List Char) :
    Scans .operator (' ' :: (op.symbol.toList ++ ' ' :: rest)) [.mark (markOf op)] .operand
      rest := by
  refine .blank rfl ?_
  have hblank : Scans .operand (' ' :: rest) [] .operand rest := .blank rfl .stop
  cases op <;> exact .word (by decide) rfl rfl hblank

/-- The mark that a unary operator is printed as. -/
def signOf : UnaryOp → Mark
  | .neg => .minus
  | .pos => .plus
  | .not => .bang

theorem scans_sign (op : UnaryOp) (rest : List Char) :
    Scans .operand (op.symbol.toList ++ rest) [.mark (signOf op)] .operand rest := by
  cases op <;> exact .character rfl rfl rfl .stop

/-! ## Words of the lexer -/

/-- Each word is found at its place in some text. -/
def LexedFrom : Place → List Lexeme → Prop
  | _, [] => True
  | p, w :: ws => (∃ cs, lexemeAt? p cs = some w) ∧ LexedFrom w.next ws

theorem lexFrom_lexed (fuel : Nat) : ∀ p offset cs,
    LexedFrom p ((lexFrom fuel p offset cs).tokens.map Token.lexeme) := by
  induction fuel with
  | zero =>
    intro p offset cs
    trivial
  | succ fuel ih =>
    intro p offset cs
    rw [lexFrom]
    dsimp only
    split
    · trivial
    · split
      · trivial
      · rename_i w hw
        exact ⟨⟨_, hw⟩, ih w.next _ _⟩

theorem isName_of_wordAt? {cs : List Char} {s : String} (h : wordAt? cs = some (.name s)) :
    IsName s := by
  unfold wordAt? at h
  dsimp only at h
  split at h
  · rename_i hn
    rw [Bool.not_eq_true'] at hn
    rw [← Lexeme.name.inj (Option.some.inj h)]
    exact isName_of_nameAt hn
  · split at h
    · cases h
    · cases hq : quotedAt? cs with
      | none =>
        rw [hq] at h
        cases h
      | some q =>
        rw [hq] at h
        cases h

theorem ne_name_of_mark {o : Option Mark} {s : String} : o.map Lexeme.mark ≠ some (.name s) := by
  cases o <;> exact fun h => by cases h

theorem isName_of_anyAt? {cs : List Char} {s : String} (h : anyAt? cs = some (.name s)) :
    IsName s := by
  unfold anyAt? at h
  split at h
  · rename_i w hw
    rw [h] at hw
    exact isName_of_wordAt? hw
  · exact absurd h ne_name_of_mark

/-- A name where an operand is due is no keyword. -/
theorem isVariable_of_lexemeAt? {cs : List Char} {s : String}
    (h : lexemeAt? .operand cs = some (.name s)) : IsVariable s := by
  unfold lexemeAt? expectedAt? anyAt? at h
  dsimp only at h
  cases hw : wordAt? cs with
  | none =>
    rw [hw] at h
    dsimp only at h
    split at h
    · rename_i w hm
      rw [h] at hm
      exact absurd hm ne_name_of_mark
    · exact absurd h ne_name_of_mark
  | some w =>
    rw [hw] at h
    have h : w.resolve = .name s := Option.some.inj h
    unfold Lexeme.resolve at h
    split at h
    · split at h
      · cases h
      · rename_i hk
        obtain rfl := Lexeme.name.inj h
        exact ⟨isName_of_wordAt? hw, hk⟩
    · rw [h] at hw
      rename_i hne
      exact absurd h (hne s)

theorem isName_of_lexemeAt?_member {cs : List Char} {s : String}
    (h : lexemeAt? .member cs = some (.name s)) : IsName s := by
  unfold lexemeAt? expectedAt? at h
  dsimp only at h
  split at h
  · rename_i w hw
    split at hw
    · cases hw
    · rename_i hn
      rw [h] at hw
      rw [← Lexeme.name.inj (Option.some.inj hw)]
      exact isName_of_nameAt (Bool.eq_false_iff.mpr hn)
  · exact isName_of_anyAt? h

end TokenFormula.Source

import TokenFormula.Expr.Parse
import TokenFormula.Proofs.Grammar.Sound
import TokenFormula.Proofs.Source.Spelled

/-!
# Errors stand at the first token that cannot go on

No state of the parser is a dead end: every unfinished construct can be closed, so
the tokens read so far start an accepted text. A token that a state refuses goes
on no sentence, since the parser follows every derivation. The token of a syntax
error is therefore the first one after which the text cannot be completed.

Results:
* `State.completion_finishes`: the closing words finish every state.
* `accepted_iff`: the sequences of accepted texts are the sentences whose words the
  lexer finds at their places.
* `not_prefix_of_refused`: a refused token goes on no sentence.
* `parse_token`, `parse_ending`: the tokens before the place of an error.
* `syntaxError_at_first_dead_token`: what the two messages about tokens say.
-/

namespace TokenFormula.Source

/-! ## Closing constructs -/

/-- The words that close a construct after its current part. -/
def Frame.closing : Frame → List Lexeme
  | .consequent _ => [.mark .colon, .name "x"]
  | .group | .call .. => [.mark .closeParen]
  | .array _ | .index _ => [.mark .closeBracket]
  | .binary .. | .unary _ | .assign _ | .alternative .. => []

/-- The words that close all constructs of a stack, innermost first. -/
def closings (stack : List Frame) : List Lexeme :=
  stack.flatMap Frame.closing

theorem closings_cons (f : Frame) (stack : List Frame) :
    closings (f :: stack) = f.closing ++ closings stack :=
  List.flatMap_cons

/-- The words that finish a text from this state on. -/
def State.completion : State → List Lexeme
  | .operand stack | .member stack _ => .name "x" :: closings stack
  | .operator stack _ => closings stack
  | .done _ => []

/-- Finishing constructs takes nothing that has to be closed, and stops at a
    construct that has. -/
theorem closings_reduce (stack : List Frame) : ∀ t,
    closings (reduce 0 stack t).1 = closings stack ∧ Open 0 (reduce 0 stack t).1 := by
  induction stack with
  | nil => exact fun t => ⟨rfl, trivial⟩
  | cons f stack ih =>
    intro t
    cases f with
    | binary op l =>
      rw [reduce_binary (Nat.zero_le _)]
      exact ih _
    | unary op =>
      rw [reduce_unary (Nat.zero_le _)]
      exact ih _
    | assign name =>
      rw [reduce_assign]
      exact ih _
    | alternative c a =>
      rw [reduce_alternative]
      exact ih _
    | consequent | group | array | call | index =>
      rw [reduce_of_open (by trivial)]
      exact ⟨rfl, trivial⟩

/-- The closing words of a construct bring the parser behind it. -/
theorem steps_closing {f : Frame} {stack stack' : List Frame} {t t' : Tree}
    (ho : Open 0 (f :: stack')) (h : reduce 0 stack t = (f :: stack', t')) :
    ∃ stack'' t'', (State.operator stack t).steps f.closing = some (.operator stack'' t'') ∧
      closings stack'' = closings stack' ∧ f.closing ≠ [] := by
  cases f with
  | binary op l => exact absurd ho (Nat.not_lt_zero _)
  | unary op => exact absurd ho (Nat.not_lt_zero _)
  | assign name => exact absurd ho (Nat.lt_irrefl 0)
  | alternative c a => exact absurd ho (Nat.lt_irrefl 0)
  | consequent c =>
    have hstep : (State.operator stack t).step? (.mark .colon) =
        some (.operand (.alternative c t' :: stack')) := by
      show colon? stack t = _
      simp only [colon?, h]
    refine ⟨.alternative c t' :: stack', .name "x", ?_, rfl, by simp [Frame.closing]⟩
    rw [Frame.closing, State.steps_cons hstep]
    rfl
  | group =>
    have hstep : (State.operator stack t).step? (.mark .closeParen) =
        some (.operator stack' (.group t')) := by
      show closeParen? stack t = _
      simp only [closeParen?, h]
    exact ⟨stack', .group t', State.steps_cons hstep [], rfl, by simp [Frame.closing]⟩
  | call callee args =>
    have hstep := (Listing.call callee).closing_step h
    exact ⟨stack', _, State.steps_cons hstep [], rfl, by simp [Frame.closing]⟩
  | array items =>
    have hstep := Listing.array.closing_step h
    exact ⟨stack', _, State.steps_cons hstep [], rfl, by simp [Frame.closing]⟩
  | index object =>
    have hstep : (State.operator stack t).step? (.mark .closeBracket) =
        some (.operator stack' (.index object t')) := by
      show closeBracket? stack t = _
      simp only [closeBracket?, h]
    exact ⟨stack', .index object t', State.steps_cons hstep [], rfl, by simp [Frame.closing]⟩

/-- After an operand the text can be closed. The induction is on the number of
    closing words: each construct that is left behind takes at least one. -/
theorem closings_finishes (n : Nat) : ∀ stack t, (closings stack).length = n →
    ∃ s t', (State.operator stack t).steps (closings stack) = some s ∧ s.finish? = some t' := by
  induction n using Nat.strongRecOn with
  | ind n ih =>
    intro stack t hn
    obtain ⟨hc, ho⟩ := closings_reduce stack t
    rcases hr : reduce 0 stack t with ⟨_ | ⟨f, stack'⟩, t'⟩
    · rw [hr] at hc
      refine ⟨.operator stack t, t', ?_, ?_⟩
      · rw [← hc]
        rfl
      · simp only [State.finish?, hr]
    · rw [hr] at hc ho
      obtain ⟨stack'', t'', hs, hcl, hne⟩ := steps_closing ho hr
      have hc : closings stack = f.closing ++ closings stack'' := by
        rw [hcl, ← hc, closings_cons]
      have hlt : (closings stack'').length < n := by
        have hpos := List.length_pos_iff.mpr hne
        rw [← hn, hc, List.length_append]
        omega
      obtain ⟨s, u, hs', hu⟩ := ih _ hlt stack'' t'' rfl
      exact ⟨s, u, by rw [hc, State.steps_trans hs, hs'], hu⟩

/-- No state is a dead end. -/
theorem State.completion_finishes (s : State) :
    ∃ s' t, s.steps s.completion = some s' ∧ s'.finish? = some t := by
  cases s with
  | operand stack =>
    obtain ⟨s, t, hs, ht⟩ := closings_finishes _ stack (.name "x") rfl
    exact ⟨s, t, hs, ht⟩
  | operator stack t => exact closings_finishes _ stack t rfl
  | member stack object =>
    obtain ⟨s, t, hs, ht⟩ := closings_finishes _ stack (.member object "x") rfl
    exact ⟨s, t, hs, ht⟩
  | done t => exact ⟨.done t, t, rfl, rfl⟩

/-! ## Prefixes of sentences -/

/-- The words that the parser reads start a sentence. -/
theorem exists_sentence_of_steps {s : State} {ws : List Lexeme}
    (h : State.initial.steps ws = some s) : ∃ d : Sentence, d.word = ws ++ s.completion := by
  obtain ⟨s', t, hs, ht⟩ := s.completion_finishes
  have hr : Reached s' ([] ++ (ws ++ s.completion)) := by
    refine Reached.steps _ (.operand .empty) ?_
    exact (State.steps_trans h _).trans hs
  obtain ⟨d, hd, -⟩ := exists_sentence_of_finish hr ht
  exact ⟨d, hd⟩

/-- The parser reads every prefix of a sentence. -/
theorem Sentence.steps_of_prefix (d : Sentence) {ws : List Lexeme} (h : ws <+: d.word) :
    ∃ s, State.initial.steps ws = some s := by
  obtain ⟨v, hv⟩ := h
  obtain ⟨s, hs, -⟩ := d.finishes
  rw [← hv, State.steps_append] at hs
  obtain ⟨s', hs', -⟩ := Option.bind_eq_some_iff.mp hs
  exact ⟨s', hs'⟩

/-- A word that a state refuses goes on no sentence. -/
theorem not_prefix_of_refused {s : State} {ws : List Lexeme} {w : Lexeme}
    (h : State.initial.steps ws = some s) (hw : s.step? w = none) (d : Sentence) :
    ¬ ws ++ [w] <+: d.word := by
  intro hp
  obtain ⟨s', hs'⟩ := d.steps_of_prefix hp
  rw [State.steps_trans h, State.steps, hw] at hs'
  cases hs'

/-- A name that is refused is refused as a keyword as well. -/
theorem step?_resolve {s : State} {w : Lexeme} (h : s.step? w = none) :
    s.step? w.resolve = none := by
  cases w with
  | name n =>
    rw [Lexeme.resolve]
    split
    · cases s with
      | operand | member => cases h
      | operator | done => rfl
    · exact h
  | _ => exact h

/-- A run stops at the first token that is refused. -/
theorem State.run_eq_error {t : Token} (ts : List Token) :
    ∀ s : State, s.run ts = .error t → ∃ before after s', ts = before ++ t :: after ∧
      s.steps (before.map Token.lexeme) = some s' ∧ s'.step? t.lexeme = none := by
  induction ts with
  | nil =>
    intro s h
    cases h
  | cons t' ts ih =>
    intro s h
    rw [State.run] at h
    cases hs : s.step? t'.lexeme with
    | none =>
      rw [hs] at h
      obtain rfl := Except.error.inj h
      exact ⟨[], ts, s, rfl, rfl, hs⟩
    | some s₁ =>
      rw [hs] at h
      obtain ⟨before, after, s', rfl, hsteps, hw⟩ := ih s₁ h
      refine ⟨t' :: before, after, s', rfl, ?_, hw⟩
      rw [List.map_cons, State.steps_cons hs, hsteps]

/-! ## Accepted texts -/

/-- The words are those of a text that the parser accepts. -/
def Accepted (ws : List Lexeme) : Prop :=
  ∃ source : String, (∃ t, parse source = .ok t) ∧
    (lex source.toList).tokens.map Token.lexeme = ws

theorem LexedFrom.append {u v : List Lexeme} (hv : ∀ p, LexedFrom p v) :
    ∀ p, LexedFrom p u → LexedFrom p (u ++ v) := by
  induction u with
  | nil => exact fun p _ => hv p
  | cons w u ih => exact fun p h => ⟨h.1, ih _ h.2⟩

theorem LexedFrom.of_append {u v : List Lexeme} : ∀ p, LexedFrom p (u ++ v) → LexedFrom p u := by
  induction u with
  | nil => exact fun _ _ => trivial
  | cons w u ih => exact fun p h => ⟨h.1, ih _ h.2⟩

/-- The words of an accepted text are those that the grammar derives and the lexer
    finds at their places. -/
theorem accepted_iff (ws : List Lexeme) :
    Accepted ws ↔ LexedFrom .operand ws ∧ ∃ d : Sentence, d.word = ws := by
  constructor
  · rintro ⟨source, ⟨t, ht⟩, rfl⟩
    refine ⟨lexFrom_lexed (source.toList.length + 1) .operand 0 source.toList, ?_⟩
    unfold parse at ht
    rcases hl : lex source.toList with ⟨ts, _ | offset⟩
    · rw [hl] at ht
      obtain ⟨d, hd, -⟩ := exists_sentence_of_parseTokens ht
      exact ⟨d, hd⟩
    · rw [hl] at ht
      unfold parseTokens at ht
      dsimp only at ht
      split at ht <;> cases ht
  · rintro ⟨hl, d, rfl⟩
    obtain ⟨source, hs, hstop⟩ := exists_lex_eq hl
    refine ⟨source, ⟨d.tree, ?_⟩, hs⟩
    unfold parse
    rcases hl : lex source.toList with ⟨ts, _ | offset⟩
    · rw [hl] at hs
      exact d.parseTokens_eq hs
    · rw [hl] at hstop
      cases hstop

/-- The name and the closing marks are found at every place. -/
theorem lexed_completion (s : State) : ∀ p, LexedFrom p s.completion := by
  have hname (p : Place) : ∃ cs, lexemeAt? p cs = some (.name "x") :=
    ⟨['x'], by cases p <;> decide⟩
  have hcolon (p : Place) : ∃ cs, lexemeAt? p cs = some (.mark .colon) :=
    ⟨[':'], by cases p <;> decide⟩
  have hparen (p : Place) : ∃ cs, lexemeAt? p cs = some (.mark .closeParen) :=
    ⟨[')'], by cases p <;> decide⟩
  have hbracket (p : Place) : ∃ cs, lexemeAt? p cs = some (.mark .closeBracket) :=
    ⟨[']'], by cases p <;> decide⟩
  have hstack (stack : List Frame) : ∀ p, LexedFrom p (closings stack) := by
    induction stack with
    | nil => exact fun _ => trivial
    | cons f stack ih =>
      intro p
      rw [closings_cons]
      refine LexedFrom.append ih p ?_
      cases f with
      | consequent => exact ⟨hcolon p, hname _, trivial⟩
      | group | call => exact ⟨hparen p, trivial⟩
      | array | index => exact ⟨hbracket p, trivial⟩
      | binary | unary | assign | alternative => trivial
  cases s with
  | operand stack | member stack => exact fun p => ⟨hname p, hstack stack _⟩
  | operator stack => exact hstack stack
  | done => exact fun _ => trivial

/-- The tokens that the parser reads start an accepted text. -/
theorem accepted_completion {s : State} {ws : List Lexeme} (hl : LexedFrom .operand ws)
    (h : State.initial.steps ws = some s) : Accepted (ws ++ s.completion) :=
  (accepted_iff _).mpr ⟨LexedFrom.append (lexed_completion s) _ hl, exists_sentence_of_steps h⟩

/-! ## Positions -/

/-- Each token starts behind those before it. -/
theorem lexFrom_offsets (fuel : Nat) : ∀ p offset cs,
    (∀ t ∈ (lexFrom fuel p offset cs).tokens, offset ≤ t.offset) ∧
      (lexFrom fuel p offset cs).tokens.Pairwise fun t u => t.offset < u.offset := by
  induction fuel with
  | zero => exact fun _ _ _ => ⟨by simp [lexFrom], .nil⟩
  | succ fuel ih =>
    intro p offset cs
    rw [lexFrom]
    dsimp only
    split
    · exact ⟨by simp, .nil⟩
    · split
      · exact ⟨by simp, .nil⟩
      · rename_i c rest _ _ w hw
        have hsize : 0 < w.spelling.length := by
          obtain ⟨-, -, hne, -⟩ := lexemeAt?_spelled hw
          rw [← String.length_toList]
          exact List.length_pos_iff.mpr hne
        obtain ⟨hle, hpair⟩ := ih w.next
          (offset + (cs.takeWhile isLayout).length + w.spelling.length)
          ((c :: rest).drop w.spelling.length)
        refine ⟨?_, List.pairwise_cons.mpr ⟨?_, hpair⟩⟩
        · intro t ht
          cases ht with
          | head => exact Nat.le_add_right _ _
          | tail _ ht =>
            have := hle t ht
            omega
        · intro t ht
          have := hle t ht
          show offset + (cs.takeWhile isLayout).length < t.offset
          omega

/-- The tokens before one of the text start before it, and those behind it later. -/
theorem lex_offsets {cs : List Char} {before after : List Token} {t : Token}
    (h : (lex cs).tokens = before ++ t :: after) :
    (∀ u ∈ before, u.offset < t.offset) ∧ ∀ u ∈ after, t.offset < u.offset := by
  have hpair : (lex cs).tokens.Pairwise fun t u => t.offset < u.offset :=
    (lexFrom_offsets (cs.length + 1) .operand 0 cs).2
  rw [h, List.pairwise_append, List.pairwise_cons] at hpair
  obtain ⟨-, ⟨hafter, -⟩, hbefore⟩ := hpair
  exact ⟨fun u hu => hbefore u hu t List.mem_cons_self, hafter⟩

/-! ## Errors -/

theorem lexed_lex (cs : List Char) : LexedFrom .operand ((lex cs).tokens.map Token.lexeme) :=
  lexFrom_lexed (cs.length + 1) .operand 0 cs

/-- The token of an error is the first that goes on no accepted text. -/
theorem parse_token {source : String} {t : Token} (h : parse source = .error (.token t)) :
    ∃ before after, (lex source.toList).tokens = before ++ t :: after ∧
      (∃ ws, Accepted (before.map Token.lexeme ++ ws)) ∧
      ∀ w, w = t.lexeme ∨ w = t.lexeme.resolve →
        ∀ d : Sentence, ¬ before.map Token.lexeme ++ [w] <+: d.word := by
  have hrun : State.initial.run (lex source.toList).tokens = .error t := by
    unfold parse parseTokens at h
    split at h
    · rename_i t' ht'
      obtain rfl := SyntaxError.token.inj (Except.error.inj h)
      exact ht'
    · split at h
      · cases h
      · split at h <;> cases h
  obtain ⟨before, after, s, hsplit, hsteps, hw⟩ := State.run_eq_error _ _ hrun
  have hlexed := lexed_lex source.toList
  rw [hsplit, List.map_append] at hlexed
  refine ⟨before, after, hsplit, ⟨_, accepted_completion (hlexed.of_append _) hsteps⟩, ?_⟩
  rintro w (rfl | rfl)
  · exact not_prefix_of_refused hsteps hw
  · exact not_prefix_of_refused hsteps (step?_resolve hw)

/-- A text that ends too early is the proper beginning of an accepted one. -/
theorem parse_ending {source : String} {last : Nat} (h : parse source = .error (.ending last)) :
    (lex source.toList).stop? = none ∧
      (∃ w ws, Accepted ((lex source.toList).tokens.map Token.lexeme ++ w :: ws)) ∧
      ∀ d : Sentence, d.word ≠ (lex source.toList).tokens.map Token.lexeme := by
  unfold parse at h
  have hlexed := lexed_lex source.toList
  rcases hl : lex source.toList with ⟨ts, _ | offset⟩
  · rw [hl] at h hlexed
    have hno : ∀ d : Sentence, d.word ≠ ts.map Token.lexeme := by
      intro d hd
      rw [d.parseTokens_eq hd.symm] at h
      cases h
    unfold parseTokens at h
    cases hrun : State.initial.run ts with
    | error t =>
      simp only [hrun] at h
      cases h
    | ok s =>
      have hsteps := (State.run_eq_ok_iff s ts _).mp hrun
      have hacc := accepted_completion hlexed hsteps
      refine ⟨rfl, ?_, hno⟩
      cases hc : s.completion with
      | nil =>
        -- Nothing to add: the tokens would be a sentence themselves.
        rw [hc, List.append_nil] at hacc
        obtain ⟨-, d, hd⟩ := (accepted_iff _).mp hacc
        exact absurd hd (hno d)
      | cons w ws => exact ⟨w, ws, hc ▸ hacc⟩
  · rw [hl] at h
    unfold parseTokens at h
    dsimp only at h
    split at h <;> cases h

end TokenFormula.Source

namespace TokenFormula.Expr

open Source (Accepted Lexeme Sentence Token lex)

/-! ## Messages -/

theorem prefix_append (a b : String) : a.toList <+: (a ++ b).toList := by
  rw [String.toList_append]
  exact List.prefix_append _ _

/-- How the messages of notes begin. -/
def messageHeads : List String :=
  ["Unexpected token ", "Unexpected character ", "Unexpected end of expression",
    "Empty expression", "ValueError: "]

/-- Twelve characters tell the beginnings apart. -/
theorem messageHeads_apart : ∀ a ∈ messageHeads, ∀ b ∈ messageHeads,
    12 ≤ a.toList.length ∧ (a.toList.take 12 = b.toList.take 12 → a = b) := by
  decide +kernel

theorem head_unique {a b : String} (ha : a ∈ messageHeads) (hb : b ∈ messageHeads)
    {cs : List Char} (hac : a.toList <+: cs) (hbc : b.toList <+: cs) : a = b := by
  obtain ⟨u, rfl⟩ := hac
  obtain ⟨v, hv⟩ := hbc
  refine (messageHeads_apart a ha b hb).2 ?_
  have h := congrArg (List.take 12) hv
  rw [List.take_append_of_le_length (messageHeads_apart b hb a ha).1,
    List.take_append_of_le_length (messageHeads_apart a ha b hb).1] at h
  exact h.symm

theorem syntaxMessage_token (source : String) (t : Token) :
    "Unexpected token ".toList <+: (syntaxMessage source (.token t)).toList := by
  have h : syntaxMessage source (.token t) =
      "Unexpected token " ++ (Text.quoted t.lexeme.spelling ++ placeText source (.token t)) :=
    String.append_assoc
  rw [h]
  exact prefix_append _ _

theorem syntaxMessage_character (source : String) (offset : Nat) :
    "Unexpected character ".toList <+: (syntaxMessage source (.character offset)).toList := by
  have h : ∃ rest, syntaxMessage source (.character offset) = "Unexpected character " ++ rest :=
    ⟨_, String.append_assoc⟩
  obtain ⟨rest, h⟩ := h
  rw [h]
  exact prefix_append _ _

theorem syntaxMessage_ending (source : String) (last : Nat) :
    ∃ a ∈ ["Unexpected end of expression", "Empty expression"],
      a.toList <+: (syntaxMessage source (.ending last)).toList := by
  unfold syntaxMessage
  dsimp only
  split
  · exact ⟨_, List.mem_cons_of_mem _ List.mem_cons_self, List.prefix_refl _⟩
  · exact ⟨_, List.mem_cons_self, prefix_append _ _⟩

/-- A note of one error comes from the grammar or from an integer. -/
theorem parse_note {source message : String}
    (h : (parse source).notedErrors = [.text message]) :
    (∃ e, Source.parse source = .error e ∧ message = syntaxMessage source e) ∨
      ∃ f : Fault, message = "ValueError: " ++ f.message := by
  unfold parse at h
  split at h
  · rename_i e he
    refine .inl ⟨e, he, ?_⟩
    injection h with h
    injection h with h
    exact h.symm
  · split at h
    · rename_i f hf
      refine .inr ⟨f, ?_⟩
      injection h with h
      injection h with h
      exact h.symm
    · rename_i e he
      cases e <;> cases h

/-- The message about a token names the first token after which no accepted text
    goes on. The message about the end says that the whole text is a proper
    beginning of an accepted one. -/
theorem syntaxError_at_first_dead_token (source message : String)
    (h : (parse source).notedErrors = [.text message]) :
    ("Unexpected token ".toList <+: message.toList →
      ∃ before t after, (lex source.toList).tokens = before ++ t :: after ∧
        message = "Unexpected token " ++ Text.quoted t.lexeme.spelling ++
          placeText source (.token t) ∧
        (∀ u ∈ before, u.offset < t.offset) ∧ (∀ u ∈ after, t.offset < u.offset) ∧
        (∃ ws, Accepted (before.map Token.lexeme ++ ws)) ∧
        ∀ w, w = t.lexeme ∨ w = t.lexeme.resolve →
          ∀ d : Sentence, ¬ before.map Token.lexeme ++ [w] <+: d.word) ∧
    ("Unexpected end of expression".toList <+: message.toList →
      (lex source.toList).stop? = none ∧
        (∃ w ws, Accepted ((lex source.toList).tokens.map Token.lexeme ++ w :: ws)) ∧
        ∀ d : Sentence, d.word ≠ (lex source.toList).tokens.map Token.lexeme) := by
  have htoken : "Unexpected token " ∈ messageHeads := by simp [messageHeads]
  have hcharacter : "Unexpected character " ∈ messageHeads := by simp [messageHeads]
  have hend : "Unexpected end of expression" ∈ messageHeads := by simp [messageHeads]
  have hempty : "Empty expression" ∈ messageHeads := by simp [messageHeads]
  have hvalue : "ValueError: " ∈ messageHeads := by simp [messageHeads]
  obtain ⟨e, he, rfl⟩ | ⟨f, rfl⟩ := parse_note h
  · cases e with
    | token t =>
      refine ⟨fun _ => ?_, fun hp => ?_⟩
      · obtain ⟨before, after, hsplit, hacc, hdead⟩ := Source.parse_token he
        obtain ⟨hbefore, hafter⟩ := Source.lex_offsets hsplit
        exact ⟨before, t, after, hsplit, rfl, hbefore, hafter, hacc, hdead⟩
      · exact absurd (head_unique hend htoken hp (syntaxMessage_token source t)) (by decide)
    | character offset =>
      have hhead := syntaxMessage_character source offset
      refine ⟨fun hp => ?_, fun hp => ?_⟩
      · exact absurd (head_unique htoken hcharacter hp hhead) (by decide)
      · exact absurd (head_unique hend hcharacter hp hhead) (by decide)
    | ending last =>
      refine ⟨fun hp => ?_, fun _ => Source.parse_ending he⟩
      obtain ⟨a, ha, hhead⟩ := syntaxMessage_ending source last
      rw [List.mem_cons, List.mem_singleton] at ha
      rcases ha with rfl | rfl
      · exact absurd (head_unique htoken hend hp hhead) (by decide)
      · exact absurd (head_unique htoken hempty hp hhead) (by decide)
  · have hhead := prefix_append "ValueError: " f.message
    refine ⟨fun hp => ?_, fun hp => ?_⟩
    · exact absurd (head_unique htoken hvalue hp hhead) (by decide)
    · exact absurd (head_unique hend hvalue hp hhead) (by decide)

set_option maxRecDepth 4000 in
/-- A star is dead behind a sign, and a text that ends with a sign can go on. -/
theorem syntaxError_at_first_dead_token_signs :
    (parse "1 +* 2").notedErrors = [.text "Unexpected token '*' at line 1, column 4"] ∧
      (parse "2 +").notedErrors = [.text "Unexpected end of expression at line 1, column 3"] ∧
      (∃ before t after, (lex "1 +* 2".toList).tokens = before ++ t :: after ∧
        (∃ ws, Accepted (before.map Token.lexeme ++ ws)) ∧
        ∀ d : Sentence, ¬ before.map Token.lexeme ++ [t.lexeme] <+: d.word) ∧
      ∃ w ws, Accepted ([.number "2", .mark .plus] ++ w :: ws) := by
  have hstar : (parse "1 +* 2").notedErrors =
      [.text "Unexpected token '*' at line 1, column 4"] := rfl
  have hend : (parse "2 +").notedErrors =
      [.text "Unexpected end of expression at line 1, column 3"] := rfl
  refine ⟨hstar, hend, ?_, ?_⟩
  · obtain ⟨before, t, after, hsplit, -, -, -, hacc, hdead⟩ :=
      (syntaxError_at_first_dead_token _ _ hstar).1 (by decide +kernel)
    exact ⟨before, t, after, hsplit, hacc, hdead t.lexeme (.inl rfl)⟩
  · exact ((syntaxError_at_first_dead_token _ _ hend).2 (by decide +kernel)).2.1

end TokenFormula.Expr

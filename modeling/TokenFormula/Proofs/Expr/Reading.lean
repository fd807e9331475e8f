import TokenFormula.Proofs.Expr.Rebuild
import TokenFormula.Proofs.Expr.Structure

/-!
# Texts that are read and texts that are not

Reading always gives a tree. It is either one that validation accepts and the
printer writes, with a note of its own tier at the root and at no other node, or a
literal that holds the text, with one error, which is all that validation finds.

Results:
* `unnoted_ofTree`: the tree of a parse tree has no notes.
* `exists_render_parse`: the tree of a formula text has a text.
* `parse_read_or_reported`: what reading gives for a text.
-/

namespace TokenFormula.Expr

open Source (Tree)

/-! ## Notes -/

/-- There is no note at the node. -/
def Unnoted (e : Expr) : Prop :=
  e.note? = none

mutual

/-- The tree of a parse tree has no note at any node. -/
theorem unnoted_ofTree : (t : Tree) → ∀ e, ofTree t = .ok e → e.Every Unnoted
  | .number s, e, h => by
    rw [ofTree] at h
    obtain ⟨n, -, h⟩ := bind_eq_ok h
    rw [← Except.ok.inj h]
    exact rfl
  | .quoted s, e, h | .keyword k, e, h | .name s, e, h => by
    rw [ofTree] at h
    rw [← Except.ok.inj h]
    exact rfl
  | .group body, e, h => by
    rw [ofTree] at h
    obtain ⟨b, hb, h⟩ := bind_eq_ok h
    rw [← Except.ok.inj h]
    exact ⟨rfl, unnoted_ofTree body b hb⟩
  | .member object name, e, h => by
    rw [ofTree] at h
    obtain ⟨s, rfl⟩ | ⟨-, rfl⟩ := ofMember_shape h
    · exact rfl
    · exact ⟨rfl, trivial⟩
  | .call callee args, e, h => by
    rw [ofTree] at h
    obtain ⟨es, hes, h⟩ := bind_eq_ok h
    rw [← Except.ok.inj h]
    exact ⟨rfl, unnoted_ofTrees args es hes⟩
  | .unary op operand, e, h => by
    rw [ofTree] at h
    obtain ⟨b, hb, h⟩ := bind_eq_ok h
    rw [← Except.ok.inj h]
    exact ⟨rfl, unnoted_ofTree operand b hb⟩
  | .binary op left right, e, h => by
    rw [ofTree] at h
    obtain ⟨l, hl, h⟩ := bind_eq_ok h
    obtain ⟨r, hr, h⟩ := bind_eq_ok h
    rw [← Except.ok.inj h]
    exact ⟨rfl, unnoted_ofTree left l hl, unnoted_ofTree right r hr⟩
  | .assign name value, e, h => by
    rw [ofTree] at h
    obtain ⟨b, hb, h⟩ := bind_eq_ok h
    rw [← Except.ok.inj h]
    exact ⟨rfl, unnoted_ofTree value b hb⟩
  | .array items, e, h | .index object position, e, h | .choice c a b, e, h => by
    rw [ofTree] at h
    obtain ⟨s, rfl⟩ := describe_shape h
    exact rfl

/-- The trees of several parse trees have no note at any node. -/
theorem unnoted_ofTrees : (ts : List Tree) → ∀ es, ofTrees ts = .ok es → EveryArgument Unnoted es
  | [], es, h => by
    rw [ofTrees] at h
    rw [← Except.ok.inj h]
    trivial
  | t :: rest, es, h => by
    rw [ofTrees] at h
    obtain ⟨e, he, h⟩ := bind_eq_ok h
    obtain ⟨es', hes, h⟩ := bind_eq_ok h
    rw [← Except.ok.inj h]
    exact ⟨unnoted_ofTree t e he, unnoted_ofTrees rest es' hes⟩

end

/-- What every tree inside a tree has is had by every tree inside its children. -/
theorem Every.children {p : Expr → Prop} {e : Expr} (h : e.Every p) :
    ∀ c ∈ e.children, c.Every p := by
  intro c hc
  cases e with
  | absent | var | literal => cases hc
  | unary | assign | group =>
    obtain rfl := List.mem_singleton.mp (List.mem_filter.mp hc).1
    exact h.2
  | binary =>
    obtain rfl | hc := List.mem_cons.mp (List.mem_filter.mp hc).1
    · exact h.2.1
    · obtain rfl := List.mem_singleton.mp hc
      exact h.2.2
  | call => exact everyArgument_iff.mp h.2 c (List.mem_filter.mp hc).1

theorem note?_withNote {e : Expr} (h : e.isAbsent = false) (note : Option Note) :
    (e.withNote note).note? = note := by
  cases e with
  | absent => cases h
  | _ => rfl

/-! ## Printing -/

theorem named_of_parsed {e : Expr} (h : Parsed e) : Named e := by
  cases e with
  | absent => exact h.elim
  | var | call | assign =>
    obtain ⟨s, rfl, -⟩ := h
    trivial
  | unary | binary =>
    obtain ⟨o, rfl, -⟩ := h
    trivial
  | literal | group => trivial

theorem literalShown_of_parsed {e : Expr} (h : Parsed e) : LiteralShown e := by
  cases e with
  | literal v fallback note =>
    obtain ⟨w, rfl, hw⟩ := h
    cases w with
    | null | bool | text => trivial
    | num n =>
      cases n with
      | int k => exact (Value.hasText_int k).mpr (hw.2 rfl)
      | real x => trivial
    | _ => exact hw.elim
  | _ => trivial

/-- The tree of a formula text has a text, also where the text is not read. -/
theorem exists_render_parse (source : String) :
    ∃ text, (parse source).render = .ok (.text text) := by
  have hparsed := parsed_parse source
  have hn := every_mono (fun _ => named_of_parsed) _ hparsed
  have hs := every_mono (fun _ => literalShown_of_parsed) _ hparsed
  have hw := every_mono (fun _ h => h.1) _ (spelled_parse source)
  obtain ⟨text, hcode⟩ := (code_succeedsIff _ hn hs).exists_iff.mpr hw
  exact ⟨text, by rw [render_of_named hn.root, hcode]; rfl⟩

/-! ## Reading -/

/-- What a text that is not read is read as. -/
theorem parse_of_notedErrors (source : String) :
    (parse source).notedErrors = [] ∨ ∃ message, parse source = errorLiteral source message := by
  unfold parse
  split
  · exact .inr ⟨_, rfl⟩
  · split
    · exact .inr ⟨_, rfl⟩
    · rename_i e _
      refine .inl ?_
      cases e <;> rfl

/-- The note of a text that is read has the tier of the tree, and it is the only one. -/
theorem notes_parse {source : String} (h : (parse source).notedErrors = []) :
    (parse source).note? =
        some ⟨.text formVersion, [], .text (Tier.ofScore (parse source).score).name⟩ ∧
      ∀ e ∈ (parse source).children, e.Every Unnoted := by
  obtain ⟨t, e, ht, he, hp⟩ := exists_of_notedErrors h
  have hpresent := isAbsent_of_parsed (parsed_ofTree t (Source.proper_of_parse ht) e he).root
  rw [hp, noted, note?_withNote hpresent, score_withNote, children_withNote]
  exact ⟨rfl, (unnoted_ofTree t e he).children⟩

/-- For every text, reading gives one of two. Either the tree notes no error, is valid and has a
    text, and its root alone has a note, with the tier of the tree's score. Or it is a literal,
    no fallback, that holds the text and notes one error, and this error is all that validation
    finds. -/
theorem parse_read_or_reported (v : Validator) (source : String) :
    ((parse source).notedErrors = [] ∧
      (∃ fs, v.validate (parse source) = .ok fs ∧ Findings.of .error fs = []) ∧
      (∃ text, (parse source).render = .ok (.text text)) ∧
      (parse source).note? =
        some ⟨.text formVersion, [], .text (Tier.ofScore (parse source).score).name⟩ ∧
      ∀ e ∈ (parse source).children, e.Every (·.note? = none)) ∨
    ∃ message note, parse source = literal (some (.text source)) false (some note) ∧
      note.errors = [.text message] ∧
      v.validate (parse source) = .ok [⟨.error, "Parse error: " ++ message, some "literal"⟩] := by
  obtain h | ⟨message, h⟩ := parse_of_notedErrors source
  · obtain ⟨fs, hfs, hvalid⟩ := exists_validate_parse v source
    obtain ⟨hnote, hinner⟩ := notes_parse h
    exact .inl ⟨h, ⟨fs, hfs, List.isEmpty_iff.mp (hvalid.mpr h)⟩, exists_render_parse source,
      hnote, hinner⟩
  · rw [h]
    exact .inr ⟨message, _, rfl, rfl, rfl⟩

end TokenFormula.Expr

import TokenFormula.Expr.Parse
import TokenFormula.Proofs.Sequence

/-!
# Descriptions of parse trees

The description of a parse tree is the JSON text of its outline on one line. It
holds the description of every subtree as a part, and every name as a leaf.

Results:
* `Json.Style.writeAt_depth`: on one line the depth does not matter.
* `Json.Style.write_of_mem_list`, `Json.Style.write_of_mem_dict`: the text of an
  element is a part of the text.
* `Tree.exists_describe`: every parse tree has a description.
* `Tree.Inside`: the trees inside a parse tree.
* `Tree.Inside.describe`: their descriptions are parts of its description.
-/

namespace TokenFormula

/-! ## Parts of JSON texts -/

namespace Json.Style

variable {style : Style}

theorem infix_intercalate (sep : String) {s : String} {parts : List String} (hs : s ∈ parts) :
    s.toList <:+: (sep.intercalate parts).toList := by
  induction parts with
  | nil => cases hs
  | cons a rest ih =>
    cases rest with
    | nil =>
      obtain rfl := List.mem_singleton.mp hs
      have hone : sep.intercalate [s] = s := String.intercalate_singleton
      exact hone.symm ▸ List.infix_refl s.toList
    | cons b rest =>
      rw [String.intercalate_cons_cons, String.toList_append, String.toList_append]
      obtain rfl | hs := List.mem_cons.mp hs
      · exact ((List.prefix_append ..).trans (List.prefix_append ..)).isInfix
      · exact (ih hs).trans (List.suffix_append ..).isInfix

/-- On one line nothing of the layout depends on the depth. -/
theorem enclose_depth (h : style.indent = none) (d d' : Nat) (left right : String)
    (parts : List String) :
    style.enclose d left right parts = style.enclose d' left right parts := by
  unfold enclose
  rw [h]
  cases parts <;> rfl

/-- On one line every part stands between the brackets as it is. -/
theorem infix_enclose (h : style.indent = none) (d : Nat) (left right : String) {s : String}
    {parts : List String} (hs : s ∈ parts) :
    s.toList <:+: (style.enclose d left right parts).toList := by
  unfold enclose
  rw [h]
  cases parts with
  | nil => cases hs
  | cons a rest =>
    dsimp only
    rw [String.toList_append, String.toList_append]
    exact (infix_intercalate _ hs).trans ⟨_, _, rfl⟩

mutual

theorem writeAt_depth (h : style.indent = none) (d d' : Nat) : (v : Value) →
    style.writeAt d v = style.writeAt d' v
  | .null | .bool _ | .num _ | .text _ | .function _ => rfl
  | .list items => by
    rw [writeAt, writeAt, writeItems_depth h (d + 1) (d' + 1) items]
    simp only [enclose_depth h d d']
  | .dict entries => by
    rw [writeAt, writeAt, writeMembers_depth h (d + 1) (d' + 1) entries]
    simp only [enclose_depth h d d']

theorem writeItems_depth (h : style.indent = none) (d d' : Nat) : (items : List Value) →
    style.writeItems d items = style.writeItems d' items
  | [] => rfl
  | v :: rest => by
    rw [writeItems, writeItems, writeAt_depth h d d' v, writeItems_depth h d d' rest]

theorem writeMembers_depth (h : style.indent = none) (d d' : Nat) :
    (entries : List (String × Value)) →
    style.writeMembers d entries = style.writeMembers d' entries
  | [] => rfl
  | (k, v) :: rest => by
    rw [writeMembers, writeMembers, writeAt_depth h d d' v, writeMembers_depth h d d' rest]

end

theorem writeItems_of_mem {d : Nat} {v : Value} {items : List Value} {ss : List String}
    (h : style.writeItems d items = .ok ss) (hv : v ∈ items) :
    ∃ s ∈ ss, style.writeAt d v = .ok s := by
  induction items generalizing ss with
  | nil => cases hv
  | cons a rest ih =>
    rw [writeItems] at h
    obtain ⟨s, hs, h⟩ := bind_eq_ok h
    obtain ⟨ss', hss, h⟩ := bind_eq_ok h
    obtain rfl := Except.ok.inj h
    obtain rfl | hv := List.mem_cons.mp hv
    · exact ⟨s, List.mem_cons_self, hs⟩
    · obtain ⟨s', hs', hv⟩ := ih hss hv
      exact ⟨s', List.mem_cons_of_mem s hs', hv⟩

theorem writeMembers_of_mem {d : Nat} {k : String} {v : Value} {entries : List (String × Value)}
    {ss : List String} (h : style.writeMembers d entries = .ok ss) (hv : (k, v) ∈ entries) :
    ∃ s, style.writeString k ++ style.keySeparator ++ s ∈ ss ∧ style.writeAt d v = .ok s := by
  induction entries generalizing ss with
  | nil => cases hv
  | cons a rest ih =>
    rw [writeMembers] at h
    obtain ⟨s, hs, h⟩ := bind_eq_ok h
    obtain ⟨ss', hss, h⟩ := bind_eq_ok h
    obtain rfl := Except.ok.inj h
    obtain rfl | hv := List.mem_cons.mp hv
    · exact ⟨s, List.mem_cons_self, hs⟩
    · obtain ⟨s', hs', hv⟩ := ih hss hv
      exact ⟨s', List.mem_cons_of_mem _ hs', hv⟩

/-- The text of an item is a part of the text of the list. -/
theorem write_of_mem_list (h : style.indent = none) {v : Value} {items : List Value} {w : String}
    (hw : style.write (.list items) = .ok w) (hv : v ∈ items) :
    ∃ s, style.write v = .ok s ∧ s.toList <:+: w.toList := by
  rw [write, writeAt] at hw
  obtain ⟨ss, hss, hw⟩ := bind_eq_ok hw
  obtain rfl := Except.ok.inj hw
  obtain ⟨s, hs, hv⟩ := writeItems_of_mem hss hv
  exact ⟨s, (writeAt_depth h 0 1 v).trans hv, infix_enclose h _ _ _ hs⟩

/-- The text of the value of an entry is a part of the text of the dictionary. -/
theorem write_of_mem_dict (h : style.indent = none) {k : String} {v : Value}
    {entries : List (String × Value)} {w : String} (hw : style.write (.dict entries) = .ok w)
    (hv : (k, v) ∈ entries) : ∃ s, style.write v = .ok s ∧ s.toList <:+: w.toList := by
  rw [write, writeAt] at hw
  obtain ⟨ss, hss, hw⟩ := bind_eq_ok hw
  obtain rfl := Except.ok.inj hw
  obtain ⟨s, hs, hv⟩ := writeMembers_of_mem hss hv
  refine ⟨s, (writeAt_depth h 0 1 v).trans hv, ?_⟩
  have hsuffix : s.toList <:+ (style.writeString k ++ style.keySeparator ++ s).toList := by
    rw [String.toList_append]
    exact List.suffix_append ..
  exact hsuffix.isInfix.trans (infix_enclose h _ _ _ hs)

end Json.Style

namespace Source

open Json (Style)

/-! ## Outlines -/

theorem toValue_mem_outlineValues {o : Outline} {os : List Outline} (h : o ∈ os) :
    o.toValue ∈ outlineValues os := by
  induction os with
  | nil => cases h
  | cons a rest ih =>
    rw [outlineValues]
    obtain rfl | h := List.mem_cons.mp h
    · exact List.mem_cons_self
    · exact List.mem_cons_of_mem _ (ih h)

/-- The text of a child is a part of the text of a rule. -/
theorem write_of_mem_rule {name : String} {o : Outline} {os : List Outline} {w : String}
    (hw : Style.compact.write (Outline.rule name os).toValue = .ok w) (ho : o ∈ os) :
    ∃ s, Style.compact.write o.toValue = .ok s ∧ s.toList <:+: w.toList := by
  rw [Outline.toValue] at hw
  obtain ⟨ws, hws, hsub⟩ := Style.write_of_mem_dict rfl hw
    (List.mem_cons_of_mem _ List.mem_cons_self)
  obtain ⟨s, hs, hitem⟩ := Style.write_of_mem_list rfl hws (toValue_mem_outlineValues ho)
  exact ⟨s, hs, hitem.trans hsub⟩

theorem outline_mem_outlines {t : Tree} {ts : List Tree} (h : t ∈ ts) :
    t.outline ∈ outlines ts := by
  induction ts with
  | nil => cases h
  | cons a rest ih =>
    rw [outlines]
    obtain rfl | h := List.mem_cons.mp h
    · exact List.mem_cons_self
    · exact List.mem_cons_of_mem _ (ih h)

mutual

/-- An outline holds texts only, so it can be written. -/
theorem exists_writeAt_outline (style : Style) (d : Nat) : (o : Outline) →
    ∃ s, style.writeAt d o.toValue = .ok s
  | .leaf kind text => ⟨_, rfl⟩
  | .rule name os => by
    have hitems := exists_writeItems_outlines style (d + 1 + 1) os
    have hchildren : ∃ s, style.writeAt (d + 1) (.list (outlineValues os)) = .ok s := by
      rw [Style.writeAt, exists_bind_pure_iff]
      exact hitems
    rw [Outline.toValue, Style.writeAt, exists_bind_pure_iff, Style.writeMembers,
      exists_bind_bind_pure_iff, Style.writeMembers, exists_bind_bind_pure_iff]
    exact ⟨⟨_, rfl⟩, hchildren, [], rfl⟩

theorem exists_writeItems_outlines (style : Style) (d : Nat) : (os : List Outline) →
    ∃ ss, style.writeItems d (outlineValues os) = .ok ss
  | [] => ⟨[], rfl⟩
  | o :: rest => by
    rw [outlineValues, Style.writeItems, exists_bind_bind_pure_iff]
    exact ⟨exists_writeAt_outline style d o, exists_writeItems_outlines style d rest⟩

end

theorem Tree.exists_describe (t : Tree) : ∃ s, t.describe = .ok s :=
  exists_writeAt_outline Style.compact 0 t.outline

/-! ## Subtrees -/

namespace Tree

/-- The subtrees right below the root, in source order. -/
def children : Tree → List Tree
  | number _ | quoted _ | keyword _ | name _ => []
  | group body => [body]
  | array items => items
  | member object _ => [object]
  | index object position => [object, position]
  | call callee args => callee :: args
  | unary _ operand => [operand]
  | binary _ left right => [left, right]
  | choice c a b => [c, a, b]
  | assign _ value => [value]

/-- The first tree is inside the second, or the second itself. -/
inductive Inside : Tree → Tree → Prop
  | root (t : Tree) : Inside t t
  | child {u c t : Tree} (hc : c ∈ t.children) (h : Inside u c) : Inside u t

/-- The name that stands at the root: of a variable, of a member or of the target of an
    assignment. -/
def ownName? : Tree → Option String
  | name s | member _ s | assign s _ => some s
  | _ => none

/-- The text of an argument is a part of the text of its list. -/
theorem write_of_mem_argumentOutline {name : String} {front : List Outline} {t : Tree}
    {ts : List Tree} {w : String}
    (hw : Style.compact.write
      (Outline.rule name (front ++ argumentOutline (outlines ts))).toValue = .ok w) (ht : t ∈ ts) :
    ∃ s, Style.compact.write t.outline.toValue = .ok s ∧ s.toList <:+: w.toList := by
  have hmem := outline_mem_outlines ht
  cases hos : outlines ts with
  | nil =>
    rw [hos] at hmem
    cases hmem
  | cons o os =>
    rw [hos] at hw hmem
    obtain ⟨ws, hws, hsub⟩ := write_of_mem_rule hw
      (List.mem_append_right front (List.mem_singleton.mpr rfl))
    obtain ⟨s, hs, hitem⟩ := write_of_mem_rule hws hmem
    exact ⟨s, hs, hitem.trans hsub⟩

/-- The description of a child is a part of the description of the tree. -/
theorem describe_of_mem_children {c t : Tree} (hc : c ∈ t.children) {w : String}
    (hw : t.describe = .ok w) : ∃ s, c.describe = .ok s ∧ s.toList <:+: w.toList := by
  unfold describe at hw ⊢
  cases t with
  | number | quoted | keyword | name => cases hc
  | group | unary | member =>
    obtain rfl := List.mem_singleton.mp hc
    exact write_of_mem_rule hw List.mem_cons_self
  | assign =>
    obtain rfl := List.mem_singleton.mp hc
    exact write_of_mem_rule hw (List.mem_cons_of_mem _ List.mem_cons_self)
  | array items => exact @write_of_mem_argumentOutline _ [] c items w hw hc
  | index object position | binary _ object position =>
    exact write_of_mem_rule hw (@outline_mem_outlines c [object, position] hc)
  | choice c' a b => exact write_of_mem_rule hw (@outline_mem_outlines c [c', a, b] hc)
  | call callee args =>
    obtain rfl | hc := List.mem_cons.mp hc
    · exact write_of_mem_rule hw List.mem_cons_self
    · exact @write_of_mem_argumentOutline _ [callee.outline] c args w hw hc

/-- The description of what is inside a tree is a part of the description of the tree. -/
theorem Inside.describe {u t : Tree} (h : u.Inside t) {w : String} (hw : t.describe = .ok w) :
    ∃ s, u.describe = .ok s ∧ s.toList <:+: w.toList := by
  induction h generalizing w with
  | root => exact ⟨w, hw, List.infix_refl _⟩
  | child hc _ ih =>
    obtain ⟨s, hs, hsub⟩ := describe_of_mem_children hc hw
    obtain ⟨s', hs', hsub'⟩ := ih hs
    exact ⟨s', hs', hsub'.trans hsub⟩

/-- The leaf of the name at the root is a part of the description. -/
theorem describe_ownName {t : Tree} {name : String} (hn : t.ownName? = some name) {w : String}
    (hw : t.describe = .ok w) :
    ∃ s, Style.compact.write (Outline.ofName name).toValue = .ok s ∧ s.toList <:+: w.toList := by
  unfold describe at hw
  cases t with
  | name | assign =>
    obtain rfl := Option.some.inj hn
    exact write_of_mem_rule hw List.mem_cons_self
  | member =>
    obtain rfl := Option.some.inj hn
    exact write_of_mem_rule hw (List.mem_cons_of_mem _ List.mem_cons_self)
  | _ => cases hn

end Tree
end Source
end TokenFormula

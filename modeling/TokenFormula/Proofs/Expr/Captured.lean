import TokenFormula.Proofs.Expr.Describe
import TokenFormula.Proofs.Expr.Parse
import TokenFormula.Proofs.Text.Split

/-!
# What a tree keeps of its text

The tree of a formula text shows every name of the text: of a variable, of a
member and of the target of an assignment. What expressions do not model stands in
a fallback, as a dotted name or as a description. One thing is not kept: a callee
that spells no dotted name leaves no trace.

Results:
* `Tree.segments_of_inside`: the names in a chain of members are parts of its name.
* `Captured`: a tree shows the name and the construct at a place of the text.
* `captured_ofTree`: the tree of a parse tree captures all of it, but for callees
  that spell no name.
* `captured_parse`: so does the tree of a formula text.
* `ofTree_call_of_unspelled`: a callee without a name leaves no trace.
-/

namespace TokenFormula
namespace Source

/-! ## Dotted names -/

theorem splitAt_of_isName {s : String} (h : IsName s) : Text.splitAt '.' s = [s] := by
  obtain ⟨c, cs, hs, hc, hcs⟩ := h
  refine Text.splitAt_of_not_mem fun hdot => ?_
  rw [hs] at hdot
  obtain rfl | hdot := List.mem_cons.mp hdot
  · exact absurd hc (by decide)
  · exact absurd (hcs _ hdot) (by decide)

namespace Tree

/-- The parts of the name of a chain of members: the name of every chain inside is a start of
    it, and the names that stand in the chain are parts of it. -/
theorem segments_of_inside : (t : Tree) → t.Proper → ∀ {d}, t.dottedName? = some d →
    ∀ {u : Tree}, u.Inside t → ∃ d', u.dottedName? = some d' ∧
      Text.splitAt '.' d' <+: Text.splitAt '.' d ∧
        ∀ s, u.ownName? = some s → s ∈ Text.splitAt '.' d'
  | name s, ht, d, hd, u, hu => by
    obtain rfl := Option.some.inj hd
    cases hu with
    | root =>
      refine ⟨s, rfl, List.prefix_rfl, fun s' hs => ?_⟩
      obtain rfl := Option.some.inj hs
      rw [splitAt_of_isName ht.1]
      exact List.mem_cons_self
    | child hc => cases hc
  | member object m, ht, d, hd, u, hu => by
    obtain ⟨b, hb, rfl⟩ := Option.map_eq_some_iff.mp hd
    have hsplit := Text.splitAt_append_dot b m
    cases hu with
    | root =>
      refine ⟨_, hd, List.prefix_rfl, fun s hs => ?_⟩
      obtain rfl := Option.some.inj hs
      rw [hsplit, splitAt_of_isName ht.2]
      exact List.mem_append_right _ List.mem_cons_self
    | child hc hu =>
      obtain rfl := (List.mem_singleton.mp hc).symm
      obtain ⟨d', hd', hstart, hname⟩ := segments_of_inside object ht.1 hb hu
      refine ⟨d', hd', hstart.trans ?_, hname⟩
      rw [hsplit]
      exact List.prefix_append ..
  | number _, _, _, hd, _, _ | quoted _, _, _, hd, _, _ | keyword _, _, _, hd, _, _
  | group _, _, _, hd, _, _ | array _, _, _, hd, _, _ | index .., _, _, hd, _, _
  | call .., _, _, hd, _, _ | unary .., _, _, hd, _, _ | binary .., _, _, hd, _, _
  | choice .., _, _, hd, _, _ | assign .., _, _, hd, _, _ => by cases hd

/-! ## Constructs -/

/-- The construct is one that expressions do not model: a choice, an index, an array, or a
    member of anything but the table of functions. -/
def IsUnmodelled : Tree → Prop
  | choice .. | index .. | array _ => True
  | member object _ => object ≠ name Expr.mathName
  | _ => False

/-- The subtrees that become trees of their own; the callee of a call gives its name only. -/
def converted : Tree → List Tree
  | group e | unary _ e | assign _ e => [e]
  | binary _ l r => [l, r]
  | call _ args => args
  | _ => []

/-- The first tree becomes a tree inside that of the second. -/
inductive Converted : Tree → Tree → Prop
  | root (t : Tree) : Converted t t
  | child {u c t : Tree} (hc : c ∈ t.converted) (h : Converted u c) : Converted u t

/-- The tree stands in a callee that spells no dotted name. A call that is described in a
    fallback does not count. -/
def InUnspelledCallee (u t : Tree) : Prop :=
  ∃ callee args, (call callee args).Converted t ∧ callee.dottedName? = none ∧ u.Inside callee

theorem InUnspelledCallee.of_converted {u c t : Tree} (hc : c ∈ t.converted)
    (h : u.InUnspelledCallee c) : u.InUnspelledCallee t := by
  obtain ⟨callee, args, hcall, hd, hu⟩ := h
  exact ⟨callee, args, .child hc hcall, hd, hu⟩

end Tree
end Source

namespace Expr

open Source (Tree Outline)
open Json (Style)

/-! ## Capturing -/

/-- The first tree is inside the second, or the second itself. -/
inductive Inside : Expr → Expr → Prop
  | root (e : Expr) : Inside e e
  | child {x c e : Expr} (hc : c ∈ e.children) (h : Inside x c) : Inside x e

/-- The node shows a name: of a variable, of the target of an assignment, as a part of the name
    of a call, or inside a fallback, there as a part of a dotted name or as a leaf of a
    description. -/
def ShowsName (s : String) : Expr → Prop
  | var name _ | assign name _ _ => name = .text s
  | call (.text f) _ _ => s ∈ Text.splitAt '.' f
  | literal (some (.text w)) true _ => s ∈ Text.splitAt '.' w ∨
    ∃ leaf, Style.compact.write (Outline.ofName s).toValue = .ok leaf ∧ leaf.toList <:+: w.toList
  | _ => False

/-- The node shows a construct: by its dotted name, which starts the name of a call or a
    fallback, or by its description inside a fallback. -/
def ShowsConstruct (u : Tree) : Expr → Prop
  | call (.text f) _ _ => ∃ d, u.dottedName? = some d ∧ Text.splitAt '.' d <+: Text.splitAt '.' f
  | literal (some (.text w)) true _ =>
    (∃ d, u.dottedName? = some d ∧ Text.splitAt '.' d <+: Text.splitAt '.' w) ∨
      ∃ d, u.describe = .ok d ∧ d.toList <:+: w.toList
  | _ => False

theorem showsName_withNote {s : String} {note : Option Note} (e : Expr) :
    ShowsName s (e.withNote note) ↔ ShowsName s e := by
  cases e with
  | literal v fallback note' =>
    cases v with
    | none => exact .rfl
    | some v => cases v <;> cases fallback <;> exact .rfl
  | call name args note' => cases name <;> exact .rfl
  | _ => exact .rfl

theorem showsConstruct_withNote {u : Tree} {note : Option Note} (e : Expr) :
    ShowsConstruct u (e.withNote note) ↔ ShowsConstruct u e := by
  cases e with
  | literal v fallback note' =>
    cases v with
    | none => exact .rfl
    | some v => cases v <;> cases fallback <;> exact .rfl
  | call name args note' => cases name <;> exact .rfl
  | _ => exact .rfl

/-- What does not look at notes is shown just as well with another note at the root. -/
theorem exists_inside_withNote {p : Expr → Prop} {note : Option Note}
    (hp : ∀ e, p (e.withNote note) ↔ p e) {x e : Expr} (hx : x.Inside e) (h : p x) :
    ∃ y, y.Inside (e.withNote note) ∧ p y := by
  cases hx with
  | root => exact ⟨_, .root _, (hp x).mpr h⟩
  | child hc hx => exact ⟨x, .child (children_withNote e note ▸ hc) hx, h⟩

/-- The expression shows what stands at the root of a part of the parse tree. -/
structure Captured (u : Tree) (e : Expr) : Prop where
  /-- A name at the root is shown. -/
  name : ∀ s, u.ownName? = some s → ∃ x, x.Inside e ∧ ShowsName s x
  /-- A construct that expressions do not model is shown. -/
  construct : u.IsUnmodelled → ∃ x, x.Inside e ∧ ShowsConstruct u x

namespace Captured

variable {u : Tree} {c e : Expr}

theorem of_child (h : Captured u c) (hc : c ∈ e.children) : Captured u e where
  name s hs :=
    have ⟨x, hx, hshows⟩ := h.name s hs
    ⟨x, .child hc hx, hshows⟩
  construct hu :=
    have ⟨x, hx, hshows⟩ := h.construct hu
    ⟨x, .child hc hx, hshows⟩

/-- Where there is no name and no construct, nothing is to be shown. -/
theorem of_plain (hn : u.ownName? = none) (hu : ¬ u.IsUnmodelled) : Captured u e where
  name s hs := by
    rw [hn] at hs
    cases hs
  construct h := absurd h hu

/-- The root shows it. -/
theorem of_root (hn : ∀ s, u.ownName? = some s → ShowsName s e)
    (hu : u.IsUnmodelled → ShowsConstruct u e) : Captured u e where
  name s hs := ⟨e, .root e, hn s hs⟩
  construct h := ⟨e, .root e, hu h⟩

theorem withNote (h : Captured u e) (note : Option Note) : Captured u (e.withNote note) where
  name s hs := (h.name s hs).elim fun _ hx => exists_inside_withNote showsName_withNote hx.1 hx.2
  construct hu :=
    (h.construct hu).elim fun _ hx => exists_inside_withNote showsConstruct_withNote hx.1 hx.2

/-- A dotted name shows the whole chain. -/
theorem of_dotted {t : Tree} {d : String} (ht : t.Proper) (hd : t.dottedName? = some d)
    (hu : u.Inside t) (args : List Expr) (note : Option Note) :
    Captured u (call (.text d) args note) ∧ Captured u (literal (some (.text d)) true note) := by
  obtain ⟨d', hd', hstart, hname⟩ := t.segments_of_inside ht hd hu
  exact ⟨.of_root (fun s hs => hstart.subset (hname s hs)) fun _ => ⟨d', hd', hstart⟩,
    .of_root (fun s hs => .inl (hstart.subset (hname s hs))) fun _ => .inl ⟨d', hd', hstart⟩⟩

/-- A description shows everything that is described. -/
theorem of_describe {t : Tree} (h : Expr.describe t = .ok e) (hu : u.Inside t) :
    Captured u e := by
  obtain ⟨w, hw, h⟩ := bind_eq_ok h
  obtain rfl := Except.ok.inj h
  obtain ⟨d, hd, hsub⟩ := hu.describe hw
  refine .of_root (fun s hs => .inr ?_) fun _ => .inr ⟨d, hd, hsub⟩
  obtain ⟨leaf, hleaf, hleafsub⟩ := Tree.describe_ownName hs hd
  exact ⟨leaf, hleaf, hleafsub.trans hsub⟩

end Captured

/-- A member of the table of functions is captured by the name of a call, another one by a
    fallback. -/
theorem captured_ofMember {object u : Tree} {m : String} {e : Expr}
    (ht : (Tree.member object m).Proper) (h : ofMember object m = .ok e)
    (hu : u.Inside (.member object m)) : Captured u e := by
  unfold ofMember at h
  dsimp only at h
  split at h
  · rename_i s
    have hdotted := Captured.of_dotted ht rfl hu [] none
    split at h
    · rename_i hs
      rw [← Except.ok.inj h, ← hs]
      exact hdotted.1
    · rw [← Except.ok.inj h]
      exact hdotted.2
  · split at h
    · rename_i d hd
      rw [← Except.ok.inj h]
      exact (Captured.of_dotted ht hd hu [] none).2
    · exact .of_describe h hu

theorem children_call {name : Value} {args : List Expr} {note : Option Note}
    (h : EveryArgument Parsed args) : (call name args note).children = args := by
  refine List.filter_eq_self.mpr fun a ha => ?_
  rw [isAbsent_of_parsed (everyArgument_iff.mp h a ha).root]
  rfl

mutual

/-- The expression of a parse tree captures what stands in the parse tree, but for callees that
    spell no name. -/
theorem captured_ofTree : (t : Tree) → t.Proper → ∀ e, ofTree t = .ok e →
    ∀ u : Tree, u.Inside t → ¬ u.InUnspelledCallee t → Captured u e
  | .number s, _, e, h, u, hu, _ | .quoted s, _, e, h, u, hu, _
  | .keyword k, _, e, h, u, hu, _ => by
    cases hu with
    | root => exact .of_plain rfl id
    | child hc => cases hc
  | .name s, _, e, h, u, hu, _ => by
    rw [ofTree] at h
    rw [← Except.ok.inj h]
    cases hu with
    | root => exact .of_root (fun _ hs => congrArg _ (Option.some.inj hs)) False.elim
    | child hc => cases hc
  | .group body, ht, e, h, u, hu, hc => by
    rw [ofTree] at h
    obtain ⟨b, hb, h⟩ := bind_eq_ok h
    rw [← Except.ok.inj h]
    have hpresent := isAbsent_of_parsed (parsed_ofTree body ht b hb).root
    cases hu with
    | root => exact .of_plain rfl id
    | child hmem hu =>
      obtain rfl := (List.mem_singleton.mp hmem).symm
      refine (captured_ofTree body ht b hb u hu (mt (.of_converted (.head _)) hc)).of_child ?_
      simp [children, hpresent]
  | .unary op operand, ht, e, h, u, hu, hc => by
    rw [ofTree] at h
    obtain ⟨b, hb, h⟩ := bind_eq_ok h
    rw [← Except.ok.inj h]
    have hpresent := isAbsent_of_parsed (parsed_ofTree operand ht.1 b hb).root
    cases hu with
    | root => exact .of_plain rfl id
    | child hmem hu =>
      obtain rfl := (List.mem_singleton.mp hmem).symm
      refine (captured_ofTree operand ht.1 b hb u hu (mt (.of_converted (.head _)) hc)).of_child ?_
      simp [children, hpresent]
  | .binary op left right, ht, e, h, u, hu, hc => by
    rw [ofTree] at h
    obtain ⟨l, hl, h⟩ := bind_eq_ok h
    obtain ⟨r, hr, h⟩ := bind_eq_ok h
    rw [← Except.ok.inj h]
    have hleft := isAbsent_of_parsed (parsed_ofTree left ht.1 l hl).root
    have hright := isAbsent_of_parsed (parsed_ofTree right ht.2.1 r hr).root
    cases hu with
    | root => exact .of_plain rfl id
    | child hmem hu =>
      obtain hmem | hmem := List.mem_cons.mp hmem
      · obtain rfl := hmem.symm
        refine (captured_ofTree left ht.1 l hl u hu (mt (.of_converted (.head _)) hc)).of_child ?_
        simp [children, hleft]
      · obtain rfl := (List.mem_singleton.mp hmem).symm
        refine (captured_ofTree right ht.2.1 r hr u hu
          (mt (.of_converted (.tail _ (.head _))) hc)).of_child ?_
        simp [children, hright]
  | .assign name value, ht, e, h, u, hu, hc => by
    rw [ofTree] at h
    obtain ⟨b, hb, h⟩ := bind_eq_ok h
    rw [← Except.ok.inj h]
    have hpresent := isAbsent_of_parsed (parsed_ofTree value ht.2 b hb).root
    cases hu with
    | root => exact .of_root (fun _ hs => congrArg _ (Option.some.inj hs)) False.elim
    | child hmem hu =>
      obtain rfl := (List.mem_singleton.mp hmem).symm
      refine (captured_ofTree value ht.2 b hb u hu (mt (.of_converted (.head _)) hc)).of_child ?_
      simp [children, hpresent]
  | .member object name, ht, e, h, u, hu, _ => by
    rw [ofTree] at h
    exact captured_ofMember ht h hu
  | .call callee args, ht, e, h, u, hu, hc => by
    rw [ofTree] at h
    obtain ⟨es, hes, h⟩ := bind_eq_ok h
    rw [← Except.ok.inj h]
    cases hu with
    | root => exact .of_plain rfl id
    | child hmem hu =>
      obtain hmem | hmem := List.mem_cons.mp hmem
      · obtain rfl := hmem.symm
        cases hd : callee.dottedName? with
        | none => exact absurd ⟨callee, args, .root _, hd, hu⟩ hc
        | some d => exact (Captured.of_dotted ht.1 hd hu es none).1
      · obtain ⟨b, hb, hcaptured⟩ := captured_ofTrees args ht.2 es hes _ hmem u hu
          (mt (.of_converted hmem) hc)
        refine hcaptured.of_child ?_
        rw [children_call (parsed_ofTrees args ht.2 es hes)]
        exact hb
  | .array items, _, e, h, u, hu, _ | .index object position, _, e, h, u, hu, _
  | .choice c a b, _, e, h, u, hu, _ => by
    rw [ofTree] at h
    exact .of_describe h hu

/-- The expressions of several parse trees capture what stands in them. -/
theorem captured_ofTrees : (ts : List Tree) → Source.ProperList ts → ∀ es,
    ofTrees ts = .ok es → ∀ t ∈ ts, ∀ u : Tree, u.Inside t → ¬ u.InUnspelledCallee t →
    ∃ e ∈ es, Captured u e
  | [], _, _, _, t, hmem, _, _, _ => by cases hmem
  | t :: rest, ht, es, h, t', hmem, u, hu, hc => by
    rw [ofTrees] at h
    obtain ⟨e, he, h⟩ := bind_eq_ok h
    obtain ⟨es', hes, h⟩ := bind_eq_ok h
    rw [← Except.ok.inj h]
    obtain hmem | hmem := List.mem_cons.mp hmem
    · obtain rfl := hmem.symm
      exact ⟨e, List.mem_cons_self, captured_ofTree t ht.1 e he u hu hc⟩
    · obtain ⟨b, hb, hcaptured⟩ := captured_ofTrees rest ht.2 es' hes t' hmem u hu hc
      exact ⟨b, List.mem_cons_of_mem e hb, hcaptured⟩

end

/-! ## Formula texts -/

theorem notedErrors_of_ofTree {source : String} {t : Tree} {e : Expr}
    (ht : Source.parse source = .ok t) (he : ofTree t = .ok e) :
    (parse source).notedErrors = [] := by
  rw [parse, ht]
  dsimp only
  rw [he]
  cases e <;> rfl

/-- Let a text be read without error. A name and a construct that expressions do not model,
    wherever it stands in the text, is shown by the tree of the text, unless it stands in a callee
    that spells no name. -/
theorem captured_parse {source : String} {t u : Tree} (ht : Source.parse source = .ok t)
    (herr : (parse source).notedErrors = []) (hu : u.Inside t) (hc : ¬ u.InUnspelledCallee t) :
    Captured u (parse source) := by
  obtain ⟨t', e, ht', he, hp⟩ := exists_of_notedErrors herr
  obtain rfl : t = t' := Except.ok.inj (ht.symm.trans ht')
  rw [hp]
  exact (captured_ofTree t (Source.proper_of_parse ht) e he u hu hc).withNote _

/-- A call with an index as its second argument. -/
def indexedCall : Tree :=
  .call (.member (.name "f") "g") [.number "1", .index (.name "c") (.number "0")]

/-- The index is described in a fallback, with the name in it. -/
theorem captured_parse_index :
    Captured (.index (.name "c") (.number "0")) (parse "f.g(1, c[0])") ∧
      Captured (.name "c") (parse "f.g(1, c[0])") := by
  have hparse : Source.parse "f.g(1, c[0])" = .ok indexedCall := rfl
  obtain ⟨w, hw⟩ := (Tree.index (.name "c") (.number "0")).exists_describe
  have hindex : ofTree (.index (.name "c") (.number "0")) = .ok (fallback w) := by
    rw [ofTree, describe, hw]
    rfl
  have he : ofTree indexedCall = .ok (call (.text "f.g") [number (.int 1), fallback w] none) := by
    rw [indexedCall, ofTree, ofTrees, ofTrees, hindex]
    rfl
  have hspelled (u : Tree) : ¬ u.InUnspelledCallee indexedCall := by
    rintro ⟨callee, args, hcall, hd, -⟩
    cases hcall with
    | root => cases hd
    | child hc hcall =>
      obtain rfl | hc := List.mem_cons.mp hc
      · cases hcall with
        | child hc => cases hc
      · obtain rfl := List.mem_singleton.mp hc
        cases hcall with
        | child hc => cases hc
  have hinside : (Tree.index (.name "c") (.number "0")).Inside indexedCall :=
    .child (.tail _ (.tail _ (.head _))) (.root _)
  have hname : (Tree.name "c").Inside indexedCall :=
    .child (.tail _ (.tail _ (.head _))) (.child (.head _) (.root _))
  have herr := notedErrors_of_ofTree hparse he
  exact ⟨captured_parse hparse herr hinside (hspelled _),
    captured_parse hparse herr hname (hspelled _)⟩

/-- A callee that spells no dotted name leaves no trace: another one of this kind in its place
    gives the same tree. -/
theorem ofTree_call_of_unspelled {callee callee' : Tree} (h : callee.dottedName? = none)
    (h' : callee'.dottedName? = none) (args : List Tree) :
    ofTree (.call callee args) = ofTree (.call callee' args) := by
  rw [ofTree, ofTree, h, h']

/-- The index in this callee is lost, and the name in it. -/
theorem not_captured_parse :
    ¬ ∀ (source : String) (t : Tree), Source.parse source = .ok t →
      (parse source).notedErrors = [] → ∀ u : Tree, u.Inside t → Captured u (parse source) := by
  intro h
  have hcaptured := h "a[0](1)" (.call (.index (.name "a") (.number "0")) [.number "1"]) rfl rfl
    (.name "a") (.child (.head _) (.child (.head _) (.root _)))
  obtain ⟨x, hx, hshows⟩ := hcaptured.name "a" rfl
  have hparse : parse "a[0](1)" = (call (.text "unknown") [number (.int 1)] none).noted := rfl
  rw [hparse] at hx
  cases hx with
  | root =>
    have hsplit : Text.splitAt '.' "unknown" = ["unknown"] := rfl
    change "a" ∈ Text.splitAt '.' "unknown" at hshows
    rw [hsplit] at hshows
    exact absurd hshows (by decide)
  | child hc hx =>
    obtain rfl := List.mem_singleton.mp hc
    cases hx with
    | root => exact hshows
    | child hc => cases hc

end Expr
end TokenFormula

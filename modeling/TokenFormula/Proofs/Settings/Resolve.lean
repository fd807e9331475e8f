import Mathlib.Data.List.DropRight
import TokenFormula.Proofs.Json.Reader
import TokenFormula.Proofs.Number.Round
import TokenFormula.Settings.Loader

/-!
# Which settings resolve

A value that a setting cannot take is reported and ignored, whatever its kind, as each
value of a settings file can be shown. The one value that is not ignored is an infinity
where an integer is needed: its conversion fails with an overflow. A file that cannot be
read is ignored as well, but for one at a path that is too long.

Results:
* `toOption_convertToInteger`: the integer that a value is read as.
* `convertToInteger_of_isInfinite`, `family_of_convertToInteger`: why a value is read as
  none.
* `Resolves`: when a reporting computation succeeds, and with what.
* `resolves_resolveSettings`: the settings by the values that they are given.
* `resolve_succeedsIff`: the settings of an environment and a settings file.
-/

namespace TokenFormula

/-! ## What is configured -/

/-- The entries of a settings file; none where the file is no JSON object. -/
def FileContent.entries : FileContent → Entries Value
  | .text s =>
    match Json.read s with
    | .ok (.dict entries) => entries
    | _ => []
  | _ => []

/-- An integer setting; none for the others. -/
def Settings.integer? (c : Settings) : Setting → Option Int
  | .complexityThreshold => some c.complexityThreshold
  | .maxRounds => some c.maxRounds
  | .maxIterations => some c.maxIterations
  | _ => none

/-- A number without its fraction; none for an infinity and for the value that is no
    number. -/
def Number.integral? : Number → Option Int
  | int n => some n
  | real x =>
    match Double.exact x with
    | .finite negative m q =>
      some (Double.withSign negative (m * 2 ^ q.toNat / 2 ^ (-q).toNat))
    | _ => none

/-- The integer that a value is read as: a text as a numeral, a truth value as `1` or `0`,
    a number without its fraction. -/
def Value.asInteger? : Value → Option Int
  | .text s => (Numeral.readInteger s.toList).toOption
  | v => v.number?.bind Number.integral?

/-- The value is an infinity. -/
def Value.isInfinite : Value → Bool
  | .num (.real x) => Double.isInfinite x
  | _ => false

/-- A name that is not empty and has no blanks around it. -/
def IsClean (name : String) : Prop :=
  name ≠ "" ∧ Text.trimmed name = name

theorem entriesHaveText_entries (content : FileContent) :
    Value.EntriesHaveText content.entries := by
  unfold FileContent.entries
  split
  · split
    · rename_i hread
      exact Json.hasText_of_read hread
    · trivial
  · trivial

/-- A value that a setting is given can be shown. -/
theorem hasText_of_settingValue? {environment : Entries String} {file : Entries Value}
    {s : Setting} {v : Value} (h : Value.EntriesHaveText file)
    (hv : settingValue? environment file s = some v) : v.HasText := by
  unfold settingValue? at hv
  split at hv
  · cases hv
    trivial
  · exact Entries.hasText_of_get? h hv

/-- Looking for the file finds its entries, unless the path is too long. -/
theorem exists_load (path : String) {content : FileContent} (h : content ≠ .tooLong) :
    ∃ l lines, Loader.initial.load path content = .ok (l, lines) ∧ l.file = content.entries ∧
      l.resolved? = none := by
  unfold Loader.load FileContent.entries readSettings
  cases content with
  | tooLong => exact absurd rfl h
  | text s =>
    dsimp only [Loader.initial, FileContent.textAt]
    cases Json.read s with
    | ok v => cases v <;> exact ⟨_, _, rfl, rfl, rfl⟩
    | error e => cases e <;> exact ⟨_, _, rfl, rfl, rfl⟩
  | _ => exact ⟨_, _, rfl, rfl, rfl⟩

/-! ## Values as integers -/

theorem Double.isInfinite_infinity : isInfinite infinity = true := by
  rw [isInfinite, infinity, exact_ofBits]
  rfl

namespace Number

variable {onFinite : Bool → Nat → Int → Int} {x : Float}

theorem integerPart_of_isInfinite (h : Double.isInfinite x = true) :
    integerPart onFinite x = .error .infinityToInteger := by
  unfold integerPart
  cases hx : Double.exact x with
  | infinite negative => rfl
  | nan | finite => simp [Double.isInfinite, hx] at h

theorem family_of_integerPart (h : Double.isInfinite x = false) :
    FailsIn (·.family = .value) (integerPart onFinite x) := by
  unfold integerPart
  cases hx : Double.exact x with
  | nan => exact .error rfl
  | infinite negative => simp [Double.isInfinite, hx] at h
  | finite negative m q => exact .ok _

/-- The fraction is cut off towards zero. -/
theorem toOption_truncate (n : Number) : n.truncate.toOption = n.integral? := by
  cases n with
  | int k => rfl
  | real x =>
    unfold truncate integerPart integral?
    dsimp only
    cases Double.exact x with
    | finite negative m q =>
      have hquotient : Double.floorScaled false m q =
          ((m * 2 ^ q.toNat / 2 ^ (-q).toNat : Nat) : Int) := by
        show (m : Int) * 2 ^ q.toNat / 2 ^ (-q).toNat = _
        push_cast
        rfl
      cases negative with
      | true => exact congrArg (fun k : Int => some (-k)) hquotient
      | false => exact congrArg some hquotient
    | nan | infinite => rfl

end Number

namespace Value

theorem convertToInteger_of_isInfinite {v : Value} (h : v.isInfinite = true) :
    v.convertToInteger = .error .infinityToInteger := by
  match v, h with
  | .num (.real _), h => exact Number.integerPart_of_isInfinite h

theorem toOption_convertToInteger (v : Value) : v.convertToInteger.toOption = v.asInteger? := by
  cases v with
  | num n => exact n.toOption_truncate
  | text s =>
    unfold convertToInteger asInteger?
    dsimp only
    match Numeral.readInteger s.toList with
    | .ok n | .error .malformed | .error (.tooManyDigits count) => rfl
  | _ => rfl

/-- A value that is no infinity is read as an integer, or the fault lies in the value or in
    its type. -/
theorem family_of_convertToInteger {v : Value} (h : v.isInfinite = false) :
    FailsIn (fun f => f.family = .value ∨ f.family = .type) v.convertToInteger := by
  cases v with
  | bool b => exact .ok _
  | num n =>
    cases n with
    | int k => exact .ok k
    | real x => exact (Number.family_of_integerPart h).mono fun _ => .inl
  | text s =>
    unfold convertToInteger
    dsimp only
    split
    · exact .ok _
    · exact .error (.inl rfl)
    · exact .error (.inl rfl)
  | null | list | dict | function => exact .error (.inr rfl)

end Value

/-! ## Names -/

namespace Text

theorem trimLeft_trimRight {cs : List Char} (h : trimLeft cs = cs) :
    trimLeft (trimRight cs) = trimRight cs := by
  have hstart : trimRight cs <+: cs := List.rdropWhile_prefix isBlank cs
  rw [trimLeft, List.dropWhile_eq_self_iff] at h ⊢
  intro hpos
  rw [hstart.getElem hpos]
  exact h _

theorem trim_trim (cs : List Char) : trim (trim cs) = trim cs := by
  have hleft : trimLeft (trimLeft cs) = trimLeft cs := List.dropWhile_idempotent ..
  have hright : trimRight (trimRight (trimLeft cs)) = trimRight (trimLeft cs) :=
    List.rdropWhile_idempotent ..
  rw [trim, trim, trimLeft_trimRight hleft, hright]

theorem trimmed_trimmed (s : String) : trimmed (trimmed s) = trimmed s := by
  rw [trimmed, trimmed, String.toList_ofList, trim_trim]

end Text

theorem isClean_of_mem_cleanNames {names : List String} {name : String}
    (h : name ∈ cleanNames names) : IsClean name := by
  obtain ⟨hmem, hne⟩ := List.mem_filter.mp h
  obtain ⟨raw, -, rfl⟩ := List.mem_map.mp hmem
  refine ⟨?_, Text.trimmed_trimmed raw⟩
  rintro he
  rw [he] at hne
  cases hne

theorem isClean_of_mem_default : ∀ name ∈ Settings.default.recognized, IsClean name := by
  unfold IsClean
  decide

/-! ## Reporting computations -/

namespace Reporting

variable {α β : Type} {c d : Prop} {P : α → Prop} {Q : β → Prop}

/-- Whatever has been reported, the computation succeeds just under the condition, with a
    result with the property; otherwise it fails on an infinity. -/
def Resolves (c : Prop) (P : α → Prop) (m : Reporting α) : Prop :=
  ∀ lines, SucceedsIff (· = .infinityToInteger) c (m.run lines).1 ∧
    ∀ a, (m.run lines).1 = .ok a → P a

namespace Resolves

theorem pure {a : α} (h : P a) : Resolves True P (pure a) :=
  fun _ => ⟨trivial, fun _ ha => Except.ok.inj ha ▸ h⟩

theorem report (line : String) : Resolves True (fun _ => True) (Reporting.report line) :=
  fun _ => ⟨trivial, fun _ _ => trivial⟩

theorem ofExcept {r : Except Fault α} (h : ∃ a, r = .ok a) :
    Resolves True (fun _ => True) (Reporting.ofExcept r) := by
  obtain ⟨a, rfl⟩ := h
  exact fun _ => ⟨trivial, fun _ _ => trivial⟩

theorem congr {m : Reporting α} (h : Resolves c P m) (hcd : c ↔ d) : Resolves d P m :=
  propext hcd ▸ h

/-- A sequence succeeds under the conditions of both parts. -/
theorem bind {m : Reporting α} {k : α → Reporting β} (h : Resolves c P m)
    (hk : ∀ a, P a → Resolves d Q (k a)) : Resolves (c ∧ d) Q (m >>= k) := by
  intro lines
  have hm := h lines
  rw [run_bind_eq]
  match hr : m.run lines with
  | (.ok a, lines') =>
    rw [hr] at hm
    exact ((hk a (hm.2 a rfl)).congr (and_iff_right hm.1).symm) lines'
  | (.error f, lines') =>
    rw [hr] at hm
    exact ⟨⟨fun hcd => hm.1.1 hcd.1, hm.1.2⟩, nofun⟩

/-- A first part that always succeeds adds no condition. -/
theorem after {m : Reporting α} {k : α → Reporting β} (h : Resolves True P m)
    (hk : ∀ a, P a → Resolves d Q (k a)) : Resolves d Q (m >>= k) :=
  (h.bind hk).congr (and_iff_right trivial)

end Resolves
end Reporting

open Reporting

/-! ## Single settings -/

section Given

variable {s : Setting} {v : Value}

theorem resolves_ignoreValue (h : v.HasText) : Resolves True (fun _ => True) (ignoreValue s v) :=
  (Resolves.ofExcept (v.exists_display_iff.mpr h)).after fun _ _ => .report _

/-- An integer setting is the integer that the value is read as, else the default. -/
theorem resolves_integerSetting (n : Int) (h : v.HasText) :
    Resolves (v.isInfinite = false) (· = v.asInteger?.getD n) (integerSetting s n v) := by
  have hignored : Resolves True (· = n) (ignoreValue s v >>= fun _ => pure n) :=
    (resolves_ignoreValue h).after fun _ _ => .pure rfl
  unfold integerSetting
  rw [← v.toOption_convertToInteger]
  cases hi : v.isInfinite with
  | true =>
    rw [Value.convertToInteger_of_isInfinite hi]
    exact fun _ => ⟨⟨Bool.false_ne_true ∘ Eq.symm, rfl⟩, nofun⟩
  | false =>
    refine Resolves.congr (c := True) ?_ (iff_of_true trivial rfl)
    have hfamily := Value.family_of_convertToInteger hi
    cases hr : v.convertToInteger with
    | ok k => exact .pure rfl
    | error f =>
      dsimp only
      split
      · exact hignored
      · exact hignored
      · rename_i hvalue htype
        exact ((hfamily f hr).elim hvalue htype).elim

theorem resolves_namesSetting {names : List String} (hd : ∀ name ∈ names, IsClean name)
    (h : v.HasText) :
    Resolves True (∀ name ∈ ·, IsClean name) (namesSetting s names v) := by
  unfold namesSetting
  split
  · exact .pure fun _ => isClean_of_mem_cleanNames
  · rename_i items
    rw [Value.HasText, Value.itemsHaveText_iff,
      ← exists_mapM_iff Value.exists_plain_iff items] at h
    exact (Resolves.ofExcept h).after fun _ _ => .pure fun _ => isClean_of_mem_cleanNames
  · exact (resolves_ignoreValue h).after fun _ _ => .pure hd

theorem resolves_textSetting (h : v.HasText) : Resolves True (fun _ => True) (textSetting v) :=
  .ofExcept (v.exists_plain_iff.mpr h)

end Given

/-! ## Settings that may be given -/

/-- The integer that a setting is to have: the one that the given value is read as, else
    the default. -/
def integerGiven (given : Option Value) (n : Int) : Int :=
  (given.bind Value.asInteger?).getD n

section Optional

variable {s : Setting} {given : Option Value}

theorem resolves_integer (n : Int) :
    (∀ v ∈ given, v.HasText) →
    Resolves (∀ v ∈ given, v.isInfinite = false) (· = integerGiven given n)
      (match given with
        | some v => integerSetting s n v
        | none => pure n) := by
  intro h
  cases given with
  | none =>
    exact (Resolves.pure (P := (· = integerGiven none n)) rfl).congr
      (iff_of_true trivial fun _ hv => by cases hv)
  | some v =>
    exact (resolves_integerSetting n (h v rfl)).congr
      ⟨fun hv w hw => Option.some.inj hw ▸ hv, fun hv => hv v rfl⟩

theorem resolves_text (t : String) :
    (∀ v ∈ given, v.HasText) →
    Resolves True (fun _ => True)
      (match given with
        | some v => textSetting v
        | none => pure t) := by
  intro h
  cases given with
  | none => exact .pure trivial
  | some v => exact resolves_textSetting (h v rfl)

/-- What follows the names is given names without blanks around them. -/
theorem resolves_names {α : Type} {c : Prop} {P : α → Prop} {names : List String}
    {k : List String → Reporting α} :
    (∀ name ∈ names, IsClean name) → (∀ v ∈ given, v.HasText) →
    (∀ names, (∀ name ∈ names, IsClean name) → Resolves c P (k names)) →
    Resolves c P
      (match given with
        | some v => namesSetting s names v >>= k
        | none => pure names >>= k) := by
  intro hnames h hk
  cases given with
  | none => exact hk names hnames
  | some v => exact (resolves_namesSetting hnames (h v rfl)).after hk

end Optional

/-! ## All settings -/

/-- All settings are found unless an integer setting is given an infinity. -/
theorem resolves_resolveSettings (environment : Entries String) {file : Entries Value}
    (h : Value.EntriesHaveText file) :
    Resolves
      (∀ s, (Settings.default.integer? s).isSome →
        ∀ v ∈ settingValue? environment file s, v.isInfinite = false)
      (fun c =>
        (∀ s, c.integer? s =
          (Settings.default.integer? s).map (integerGiven (settingValue? environment file s))) ∧
        ∀ name ∈ c.recognized, IsClean name)
      (resolveSettings environment file) := by
  have hgiven (s : Setting) : ∀ v ∈ settingValue? environment file s, v.HasText :=
    fun _ hv => hasText_of_settingValue? h hv
  unfold resolveSettings
  extract_lets value? integer text d
  have hinteger (s : Setting) (n : Int) :
      Resolves (∀ v ∈ value? s, v.isInfinite = false) (· = integerGiven (value? s) n)
        (integer s n) :=
    resolves_integer n (hgiven s)
  have htext (s : Setting) (t : String) : Resolves True (fun _ => True) (text s t) :=
    resolves_text t (hgiven s)
  refine ((hinteger .complexityThreshold d.complexityThreshold).bind fun _ h₁ =>
    resolves_names isClean_of_mem_default (hgiven .recognized) fun _ hnames =>
    (htext .systemStart d.systemStart).after fun _ _ =>
    (hinteger .maxRounds d.maxRounds).bind fun _ h₂ =>
    (hinteger .maxIterations d.maxIterations).bind fun _ h₃ =>
    (htext .language d.language).after fun _ _ => .pure ⟨fun s => ?_, hnames⟩).congr ?_
  · constructor
    · rintro ⟨h₁, h₂, h₃, -⟩ s hs
      cases s with
      | complexityThreshold => exact h₁
      | maxRounds => exact h₂
      | maxIterations => exact h₃
      | recognized | systemStart | language => cases hs
    · intro hall
      exact ⟨hall .complexityThreshold rfl, hall .maxRounds rfl, hall .maxIterations rfl,
        trivial⟩
  · cases s with
    | complexityThreshold => exact congrArg some h₁
    | maxRounds => exact congrArg some h₂
    | maxIterations => exact congrArg some h₃
    | recognized | systemStart | language => rfl

namespace Loader

/-- A new loader resolves the entries of the file. -/
theorem settings_initial (environment : Entries String) (path : String) {content : FileContent}
    (h : content ≠ .tooLong) :
    (initial.settings environment path content).1.1 =
      ((resolveSettings environment content.entries).run []).1 := by
  obtain ⟨l, lines, hload, hfile, hresolved⟩ := exists_load path h
  unfold settings resolve
  rw [hload, ← hfile]
  dsimp only
  rw [hresolved]
  dsimp only
  match (resolveSettings environment l.file).run [] with
  | (.ok c, more) => rfl
  | (.error f, more) => rfl

/-- The settings of an environment and a settings file are found just if the path of the file
    is not too long and no integer setting is given an infinity. Each integer setting is then
    the integer that the value it is given is read as, from the environment before the file,
    and its default where it is given none or one that is read as none. -/
theorem resolve_succeedsIff (environment : Entries String) (path : String)
    (content : FileContent) :
    let given := settingValue? environment content.entries
    let outcome := (initial.settings environment path content).1.1
    SucceedsIff (· = if content = .tooLong then .pathTooLong path else .infinityToInteger)
        (content ≠ .tooLong ∧
          ∀ s, (Settings.default.integer? s).isSome → ∀ v ∈ given s, v.isInfinite = false)
        outcome ∧
      ∀ c, outcome = .ok c →
        (∀ s, c.integer? s = (Settings.default.integer? s).map (integerGiven (given s))) ∧
        ∀ name ∈ c.recognized, IsClean name := by
  intro given outcome
  by_cases h : content = .tooLong
  · subst h
    exact ⟨⟨fun hc => hc.1 rfl, rfl⟩, nofun⟩
  · rw [if_neg h]
    have hresolves := resolves_resolveSettings environment (entriesHaveText_entries content) []
    rw [← settings_initial environment path h] at hresolves
    exact ⟨hresolves.1.congr (and_iff_right h).symm, hresolves.2⟩

/-- The environment hides an infinity in the file, and what is no integer is ignored. -/
theorem resolve_succeedsIff_hidden :
    let environment : Entries String := [("ALGOENGINE_MAX_ITERATIONS", " 12 ")]
    let content := FileContent.text
      "\x7b\"max_iterations\": Infinity, \"optimizer_max_rounds\": [1]\x7d"
    ∃ c, (initial.settings environment settingsFileName content).1.1 = .ok c ∧
      c.maxIterations = 12 ∧ c.maxRounds = 10 := by
  intro environment content
  have hne : content ≠ .tooLong := nofun
  have hentries : content.entries =
      [("max_iterations", .real Double.infinity), ("optimizer_max_rounds", .list [.int 1])] := rfl
  -- From here on the file is known by its entries only.
  clear_value content
  have hgiven : ∀ s, settingValue? environment content.entries s = match s with
      | .maxIterations => some (.text " 12 ")
      | .maxRounds => some (.list [.int 1])
      | _ => none := by
    rw [hentries]
    intro s
    cases s <;> rfl
  have h := resolve_succeedsIff environment settingsFileName content
  obtain ⟨c, hc⟩ := h.1.exists_iff.mpr (by
    refine ⟨hne, fun s _ v hv => ?_⟩
    rw [hgiven] at hv
    cases s with
    | maxIterations | maxRounds =>
      cases hv
      rfl
    | _ => cases hv)
  have hinteger := (h.2 c hc).1
  simp only [hgiven] at hinteger
  exact ⟨c, hc, Option.some.inj (hinteger .maxIterations),
    Option.some.inj (hinteger .maxRounds)⟩

/-- Settings are not always found: an infinity is no integer, and it is not ignored. -/
theorem not_resolve_succeeds :
    ¬ ∀ (environment : Entries String) (path : String) (content : FileContent),
      content ≠ .tooLong →
        ∃ c, (initial.settings environment path content).1.1 = .ok c := by
  intro hall
  let content := FileContent.text "\x7b\"max_iterations\": Infinity\x7d"
  have hne : content ≠ .tooLong := nofun
  have hentries : content.entries = [("max_iterations", .real Double.infinity)] := rfl
  obtain ⟨c, hc⟩ := hall [] settingsFileName content hne
  rw [settings_initial _ _ hne] at hc
  have hfinite := (resolves_resolveSettings [] (entriesHaveText_entries content) []).1.exists_iff.mp
    ⟨c, hc⟩ .maxIterations rfl (.real Double.infinity) (by rw [hentries]; rfl)
  rw [Value.real, Value.isInfinite, Double.isInfinite_infinity] at hfinite
  cases hfinite

end Loader
end TokenFormula

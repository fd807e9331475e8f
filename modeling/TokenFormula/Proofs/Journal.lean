import TokenFormula.Journal
import TokenFormula.Proofs.Scope

/-!
# Handlers of loggers

The engine gets new handlers again and again, one generation after the other, and a
logger of another name is given those of the generation in which it is configured. The
handlers that it was given before stay with it, and nothing reaches them any more: they
keep the thresholds that they had when their generation ended.

Results:
* `Operation`, `Journal.run`: what is done with a journal.
* `Ledger`: the generations of handlers, and the loggers that each was given to.
* `Keeps.run`: a journal keeps a ledger.
* `handlersOf_run`: what the engine and every other logger hold.
* `handlers_bounded`: when a logger holds no two handlers for the same sink, and when
  silence reaches all of them.
-/

namespace TokenFormula.Journal

variable {j : Journal} {logger : String} {environment : Entries String} {files : Files}

/-! ## Histories -/

/-- What is done with a journal. The environment may be another one each time. -/
inductive Operation where
  | start (environment : Entries String) (files : Files)
  | attach (environment : Entries String) (files : Files) (logger : String)
  | restart (environment : Entries String) (files : Files)
  | silence
  | restore

/-- The journal after an operation. -/
def after (j : Journal) : Operation → Journal
  | .start environment files => j.start environment files
  | .attach environment files logger => j.attach environment files logger
  | .restart environment files => j.restart environment files
  | .silence => j.silence
  | .restore => j.restore

/-- The journal after several operations. -/
def run (j : Journal) (ops : List Operation) : Journal :=
  ops.foldl after j

/-! ## Generations of handlers -/

/-- Handlers that the engine got together, and the loggers that were given them. -/
structure Generation where
  handlers : List Handler
  loggers : List String

/-- The handlers of the engine, and those that it had before. -/
structure Ledger where
  past : List Generation
  current : Generation

namespace Ledger

/-- All generations, the oldest first. -/
def generations (l : Ledger) : List Generation :=
  l.past ++ [l.current]

/-- The first generation. -/
def first (environment : Entries String) (files : Files) : Ledger :=
  ⟨[], freshHandlers environment files, []⟩

/-- Changes the engine's handlers. -/
def mapCurrent (f : Handler → Handler) (l : Ledger) : Ledger :=
  { l with current := { l.current with handlers := l.current.handlers.map f } }

/-- The ledger after an operation. -/
def after (l : Ledger) : Operation → Ledger
  | .start .. => l
  | .attach _ _ logger =>
    if isEngineLogger logger then l
    else
      let loggers := loggerName logger :: l.current.loggers
      { l with current := { l.current with loggers } }
  | .restart environment files => ⟨l.generations, freshHandlers environment files, []⟩
  | .silence => l.mapCurrent (·.setConsole Level.beyond)
  | .restore => l.mapCurrent (·.setConsole Level.warning.rank)

/-- The ledger after several operations. -/
def run (l : Ledger) (ops : List Operation) : Ledger :=
  ops.foldl after l

end Ledger

/-- The handlers that a logger was given. -/
def given (logger : String) (gs : List Generation) : List Handler :=
  gs.flatMap fun g => if loggerName logger ∈ g.loggers then g.handlers else []

/-! ## Places -/

/-- The number of handlers. -/
def total (gs : List Generation) : Nat :=
  (gs.flatMap Generation.handlers).length

/-- The places of the handlers that were given under a name, if those of the first
    generation start here. -/
def placesFrom (name : String) : Nat → List Generation → List Nat
  | _, [] => []
  | n, g :: rest =>
    (if name ∈ g.loggers then List.range' n g.handlers.length else []) ++
      placesFrom name (n + g.handlers.length) rest

theorem total_cons (g : Generation) (gs : List Generation) :
    total (g :: gs) = g.handlers.length + total gs := by
  rw [total, List.flatMap_cons, List.length_append, total]

theorem placesFrom_append (name : String) (gs gs' : List Generation) : ∀ n,
    placesFrom name n (gs ++ gs') = placesFrom name n gs ++ placesFrom name (n + total gs) gs' := by
  induction gs with
  | nil => exact fun _ => rfl
  | cons g gs ih =>
    intro n
    rw [List.cons_append, placesFrom, placesFrom, ih, List.append_assoc, total_cons, Nat.add_assoc]

theorem lt_of_mem_placesFrom {name : String} {gs : List Generation} {p : Nat} : ∀ {n},
    p ∈ placesFrom name n gs → p < n + total gs := by
  induction gs with
  | nil => nofun
  | cons g gs ih =>
    intro n hp
    rw [total_cons]
    rcases List.mem_append.mp hp with hp | hp
    · split at hp
      · have := (List.mem_range'_1.mp hp).2
        omega
      · cases hp
    · have := ih hp
      omega

theorem filterMap_range' {α : Type} (run : List α) : ∀ before after : List α,
    (List.range' before.length run.length).filterMap ((before ++ (run ++ after))[·]?) = run := by
  induction run with
  | nil => exact fun _ _ => rfl
  | cons a run ih =>
    intro before after
    have hrest := ih (before ++ [a]) after
    rw [List.length_append, List.append_assoc] at hrest
    rw [List.length_cons, List.range'_succ, List.filterMap_cons, List.cons_append]
    rw [List.getElem?_append_right (Nat.le_refl _), Nat.sub_self]
    exact congrArg (a :: ·) hrest

/-- A change at the places of a run changes the run. -/
theorem map_zipIdx_range' {α : Type} (f : α → α) (before run : List α) :
    ((before ++ run).zipIdx.map fun p =>
      if p.2 ∈ List.range' before.length run.length then f p.1 else p.1) = before ++ run.map f := by
  have hbefore : ∀ p ∈ before.zipIdx,
      (if p.2 ∈ List.range' before.length run.length then f p.1 else p.1) = p.1 := by
    rintro ⟨a, i⟩ hp
    have hi : i < before.length := List.snd_lt_of_mem_zipIdx hp
    rw [if_neg]
    rw [List.mem_range'_1]
    omega
  have hrun : ∀ p ∈ run.zipIdx before.length,
      (if p.2 ∈ List.range' before.length run.length then f p.1 else p.1) = (f ∘ Prod.fst) p := by
    rintro ⟨a, i⟩ hp
    have hi : i < before.length + run.length := List.snd_lt_add_of_mem_zipIdx hp
    have hi' : before.length ≤ i := List.le_snd_of_mem_zipIdx hp
    exact if_pos (List.mem_range'_1.mpr ⟨hi', hi⟩)
  rw [List.zipIdx_append, List.map_append, Nat.zero_add, List.map_congr_left hbefore,
    List.map_congr_left hrun, ← List.map_map, List.zipIdx_map_fst, List.zipIdx_map_fst]

/-- At the places of a logger there are the handlers that it was given. -/
theorem filterMap_placesFrom (name : String) (gs : List Generation) : ∀ before : List Handler,
    (placesFrom name before.length gs).filterMap
        ((before ++ gs.flatMap Generation.handlers)[·]?) =
      gs.flatMap fun g => if name ∈ g.loggers then g.handlers else [] := by
  induction gs with
  | nil => exact fun _ => rfl
  | cons g gs ih =>
    intro before
    have hrest := ih (before ++ g.handlers)
    rw [List.length_append, List.append_assoc] at hrest
    rw [placesFrom, List.filterMap_append, List.flatMap_cons, hrest, List.flatMap_cons]
    congr 1
    split
    · exact filterMap_range' g.handlers before _
    · rfl

/-! ## Ledgers -/

variable {l : Ledger}

/-- The journal holds the handlers of the ledger in the order of their generations. -/
structure Keeps (j : Journal) (l : Ledger) : Prop where
  handlers : j.handlers = l.generations.flatMap Generation.handlers
  engine : j.engine = List.range' (total l.past) l.current.handlers.length
  nonempty : l.current.handlers ≠ []
  others : ∀ name, (j.others.get? name).getD [] = placesFrom name 0 l.generations

theorem Keeps.engine_isEmpty (h : Keeps j l) : j.engine.isEmpty = false := by
  rw [h.engine]
  cases hc : l.current.handlers with
  | nil => exact absurd hc h.nonempty
  | cons => rfl

/-- To the places of the earlier generations come the engine's, if they were given. -/
theorem placesFrom_generations (name : String) (l : Ledger) :
    placesFrom name 0 l.generations = placesFrom name 0 l.past ++
      if name ∈ l.current.loggers then List.range' (total l.past) l.current.handlers.length
      else [] := by
  rw [Ledger.generations, placesFrom_append, Nat.zero_add, placesFrom, placesFrom, List.append_nil]

theorem freshHandlers_ne_nil (environment : Entries String) (files : Files) :
    freshHandlers environment files ≠ [] := by
  simp [freshHandlers]

/-- Only the handlers of the last generation are the engine's. -/
theorem Keeps.mapEngine (h : Keeps j l) (f : Handler → Handler) :
    Keeps (j.mapEngine f) (l.mapCurrent f) := by
  refine ⟨?_, ?_, by simpa [Ledger.mapCurrent] using h.nonempty, fun name => ?_⟩
  · show (j.handlers.zipIdx.map fun p => if p.2 ∈ j.engine then f p.1 else p.1) = _
    rw [h.handlers, h.engine, Ledger.generations, Ledger.generations, List.flatMap_append,
      List.flatMap_append, List.flatMap_singleton, List.flatMap_singleton]
    exact map_zipIdx_range' f _ _
  · show j.engine = List.range' (total l.past) (l.current.handlers.map f).length
    rw [List.length_map, h.engine]
  · show (j.others.get? name).getD [] = _
    rw [h.others, placesFrom_generations, placesFrom_generations]
    simp [Ledger.mapCurrent]

theorem Keeps.restart (h : Keeps j l) (environment : Entries String) (files : Files) :
    Keeps (j.restart environment files)
      ⟨l.generations, freshHandlers environment files, []⟩ := by
  rw [Journal.restart]
  have hfresh := freshHandlers_ne_nil environment files
  generalize freshHandlers environment files = fresh at hfresh ⊢
  refine ⟨?_, ?_, hfresh, fun name => ?_⟩
  · rw [Ledger.generations, List.flatMap_append, ← h.handlers, List.flatMap_singleton]
  · rw [total, ← h.handlers]
  · rw [placesFrom_generations, if_neg List.not_mem_nil, List.append_nil]
    exact h.others name

theorem Keeps.start_eq (h : Keeps j l) (environment : Entries String)
    (files : Files) : j.start environment files = j := by
  rw [Journal.start, h.engine_isEmpty]
  rfl

theorem isEngineLogger_engineName : isEngineLogger engineName = true := by decide

theorem placesOf_other (j : Journal) (h : isEngineLogger logger = false) :
    j.placesOf logger = (j.others.get? (loggerName logger)).getD [] := by
  have hne : (logger == engineName) = false := by
    rw [beq_eq_false_iff_ne]
    rintro rfl
    rw [isEngineLogger_engineName] at h
    cases h
  rw [placesOf, hne, h]
  rfl

/-- What a logger gets is the last generation, unless it holds that already. -/
theorem filter_engine (l : Ledger) (name : String) :
    (List.range' (total l.past) l.current.handlers.length).filter
        (!(placesFrom name 0 l.generations).contains ·) =
      if name ∈ l.current.loggers then []
      else List.range' (total l.past) l.current.handlers.length := by
  rw [placesFrom_generations]
  split
  · rw [List.filter_eq_nil_iff]
    intro p hp
    simp [hp]
  · rw [List.filter_eq_self, List.append_nil]
    intro p hp
    rw [Bool.not_eq_true', ← Bool.not_eq_true, List.contains_iff_mem]
    intro hheld
    have hlt := lt_of_mem_placesFrom hheld
    have hle := (List.mem_range'_1.mp hp).1
    omega

theorem Keeps.attach (h : Keeps j l) (environment : Entries String) (files : Files)
    (logger : String) :
    Keeps (j.attach environment files logger) (l.after (.attach environment files logger)) := by
  rw [Journal.attach, h.start_eq environment files, Ledger.after]
  cases hl : isEngineLogger logger with
  | true => exact h
  | false =>
    simp only [Bool.false_eq_true, if_false]
    refine ⟨?_, h.engine, h.nonempty, fun name => ?_⟩
    · rw [h.handlers, Ledger.generations, Ledger.generations, List.flatMap_append,
        List.flatMap_append, List.flatMap_singleton, List.flatMap_singleton]
    · rw [placesOf_other j hl, h.others, h.engine, filter_engine, Entries.get?_set]
      simp only [placesFrom_generations]
      by_cases hname : name = loggerName logger
      · by_cases hheld : loggerName logger ∈ l.current.loggers <;> simp [hname, hheld]
      · simp [hname, h.others, placesFrom_generations]

/-! ## Runs -/

theorem Keeps.after (h : Keeps j l) (op : Operation) :
    Keeps (j.after op) (l.after op) := by
  cases op with
  | start environment files =>
    rw [Journal.after, h.start_eq]
    exact h
  | attach environment files logger => exact h.attach environment files logger
  | restart environment files => exact h.restart environment files
  | silence => exact h.mapEngine _
  | restore => exact h.mapEngine _

theorem Keeps.run (h : Keeps j l) (ops : List Operation) :
    Keeps (j.run ops) (l.run ops) := by
  induction ops generalizing j l with
  | nil => exact h
  | cons op ops ih => exact ih (h.after op)

theorem keeps_first (environment : Entries String) (files : Files) :
    Keeps (empty.start environment files) (.first environment files) := by
  have hempty : Keeps (empty.restart environment files)
      ⟨[], freshHandlers environment files, []⟩ := by
    rw [Journal.restart]
    have hfresh := freshHandlers_ne_nil environment files
    generalize freshHandlers environment files = fresh at hfresh ⊢
    exact ⟨(List.flatMap_singleton ..).symm, rfl, hfresh, fun name => rfl⟩
  exact hempty

/-! ## What loggers hold -/

theorem Keeps.handlersOf_engine (h : Keeps j l) :
    j.handlersOf engineName = l.current.handlers := by
  have hrun := filterMap_range' l.current.handlers (l.past.flatMap Generation.handlers) []
  rw [handlersOf, placesOf, beq_self_eq_true, if_pos rfl, h.engine, h.handlers, Ledger.generations,
    List.flatMap_append, List.flatMap_singleton]
  rwa [List.append_nil] at hrun

theorem Keeps.handlersOf_other (h : Keeps j l) (hl : isEngineLogger logger = false) :
    j.handlersOf logger = given logger l.generations := by
  rw [handlersOf, placesOf_other j hl, h.others, h.handlers]
  exact filterMap_placesFrom (loggerName logger) l.generations []

theorem handlersOf_own (j : Journal) (hl : isEngineLogger logger = true)
    (hne : logger ≠ engineName) : j.handlersOf logger = [] := by
  rw [handlersOf, placesOf, beq_eq_false_iff_ne.mpr hne, hl]
  rfl

/-- The engine holds the last generation, its other loggers hold nothing, and any other
    logger holds the generations that it was given, whatever the environment was. -/
theorem handlersOf_run (ops : List Operation)
    (hj : (empty.start environment files).run ops = j)
    (hl : (Ledger.first environment files).run ops = l) (logger : String) :
    j.handlersOf logger =
      if logger = engineName then l.current.handlers
      else if isEngineLogger logger then []
      else given logger l.generations := by
  have hkeeps : Keeps j l := hj ▸ hl ▸ (keeps_first environment files).run ops
  split
  · rename_i he
    rw [he, hkeeps.handlersOf_engine]
  · rename_i hne
    split
    · rename_i hown
      exact handlersOf_own j hown hne
    · rename_i hother
      exact hkeeps.handlersOf_other (Bool.eq_false_iff.mpr hother)

/-! ## Consoles and files -/

/-- The handlers of the console. -/
def consoles (hs : List Handler) : List Handler :=
  hs.filter (·.isConsole)

/-- The handlers of files. -/
def fileHandlers (hs : List Handler) : List Handler :=
  hs.filter (!·.isConsole)

/-- No warning goes to the console. -/
def Quiet (hs : List Handler) : Prop :=
  ∀ h ∈ hs, h.isConsole = true → Level.warning.rank < h.threshold

instance (hs : List Handler) : Decidable (Quiet hs) :=
  inferInstanceAs (Decidable (∀ h ∈ hs, _))

/-- The logger was given the handlers. -/
def Generation.isHeldBy (g : Generation) (logger : String) : Bool :=
  g.loggers.contains (loggerName logger)

/-- There is a file among the handlers. -/
def Generation.hasFile (g : Generation) : Bool :=
  !(fileHandlers g.handlers).isEmpty

/-- One handler is for the console, and at most one for a file. -/
structure Regular (hs : List Handler) : Prop where
  console : (consoles hs).length = 1
  file : (fileHandlers hs).length ≤ 1

theorem regular_freshHandlers (environment : Entries String) (files : Files) :
    Regular (freshHandlers environment files) := by
  unfold freshHandlers file?
  dsimp only
  split
  · exact ⟨rfl, Nat.le_refl 1⟩
  · exact ⟨rfl, Nat.zero_le 1⟩

theorem isConsole_setConsole (threshold : Nat) (h : Handler) :
    (h.setConsole threshold).isConsole = h.isConsole := by
  unfold Handler.setConsole
  split <;> rfl

theorem Regular.setConsole {hs : List Handler} (h : Regular hs) (threshold : Nat) :
    Regular (hs.map (·.setConsole threshold)) := by
  have hfilter : ∀ p : Bool → Bool,
      ((hs.map (·.setConsole threshold)).filter (p ·.isConsole)).length =
        (hs.filter (p ·.isConsole)).length := by
    intro p
    rw [List.filter_map, List.length_map]
    congr 2
    funext h
    exact congrArg p (isConsole_setConsole threshold h)
  exact ⟨(hfilter id).trans h.console, Nat.le_trans (Nat.le_of_eq (hfilter not)) h.file⟩

theorem forall_generations {p : Generation → Prop} :
    (∀ g ∈ l.generations, p g) ↔ (∀ g ∈ l.past, p g) ∧ p l.current := by
  simp only [Ledger.generations, List.forall_mem_append, List.forall_mem_singleton]

theorem regular_after (h : ∀ g ∈ l.generations, Regular g.handlers)
    (op : Operation) : ∀ g ∈ (l.after op).generations, Regular g.handlers := by
  obtain ⟨hpast, hcurrent⟩ := forall_generations.mp h
  cases op with
  | start => exact h
  | attach _ _ logger =>
    rw [Ledger.after]
    split
    · exact h
    · exact forall_generations.mpr ⟨hpast, hcurrent⟩
  | restart environment files =>
    exact forall_generations.mpr ⟨h, regular_freshHandlers environment files⟩
  | silence => exact forall_generations.mpr ⟨hpast, hcurrent.setConsole _⟩
  | restore => exact forall_generations.mpr ⟨hpast, hcurrent.setConsole _⟩

theorem regular_run (h : ∀ g ∈ l.generations, Regular g.handlers)
    (ops : List Operation) : ∀ g ∈ (l.run ops).generations, Regular g.handlers := by
  induction ops generalizing l with
  | nil => exact h
  | cons op ops ih => exact ih (regular_after h op)

/-- Where each generation has at most one handler of a kind, a logger holds one for each
    generation that it was given and that has one. -/
theorem length_filter_given {p : Handler → Bool} {q : Generation → Bool} {gs : List Generation}
    (h : ∀ g ∈ gs, (g.handlers.filter p).length = if q g then 1 else 0) (logger : String) :
    ((given logger gs).filter p).length = gs.countP fun g => g.isHeldBy logger && q g := by
  induction gs with
  | nil => rfl
  | cons g gs ih =>
    rw [List.forall_mem_cons] at h
    rw [given, List.flatMap_cons, List.filter_append, List.length_append, List.countP_cons,
      ← ih h.2, Nat.add_comm]
    congr 1
    by_cases hg : loggerName logger ∈ g.loggers
    · simpa [hg, Generation.isHeldBy] using h.1
    · simp [hg, Generation.isHeldBy]

theorem length_consoles_given {gs : List Generation} (h : ∀ g ∈ gs, Regular g.handlers)
    (logger : String) :
    (consoles (given logger gs)).length = gs.countP (·.isHeldBy logger) := by
  have hone : ∀ g ∈ gs, (consoles g.handlers).length = if true then 1 else 0 :=
    fun g hg => (h g hg).console
  have hcount := length_filter_given (q := fun _ => true) hone logger
  simp only [Bool.and_true] at hcount
  exact hcount

theorem length_fileHandlers_given {gs : List Generation} (h : ∀ g ∈ gs, Regular g.handlers)
    (logger : String) :
    (fileHandlers (given logger gs)).length =
      gs.countP fun g => g.isHeldBy logger && g.hasFile := by
  refine length_filter_given (fun g hg => ?_) logger
  have hfile := (h g hg).file
  show (fileHandlers g.handlers).length = if !(fileHandlers g.handlers).isEmpty then 1 else 0
  cases hf : fileHandlers g.handlers with
  | nil => rfl
  | cons f fs =>
    rw [hf, List.length_cons] at hfile
    simp only [List.isEmpty_cons, List.length_cons]
    exact Nat.le_antisymm hfile (Nat.succ_le_succ (Nat.zero_le _))

theorem quiet_given {gs : List Generation} (logger : String) :
    Quiet (given logger gs) ↔ ∀ g ∈ gs, g.isHeldBy logger = true → Quiet g.handlers := by
  simp only [Quiet, given, Generation.isHeldBy, List.contains_iff_mem, List.mem_flatMap]
  constructor
  · intro h g hg hheld x hx
    exact h x ⟨g, hg, by rwa [if_pos hheld]⟩
  · rintro h x ⟨g, hg, hx⟩
    split at hx
    · rename_i hheld
      exact h g hg hheld x hx
    · cases hx

theorem quiet_map_beyond (hs : List Handler) : Quiet (hs.map (·.setConsole Level.beyond)) := by
  intro h hmem hc
  obtain ⟨h', -, rfl⟩ := List.mem_map.mp hmem
  rw [isConsole_setConsole] at hc
  rw [Handler.setConsole, if_pos hc]
  exact Level.rank_lt_beyond .warning

/-- After every history a logger of another name holds a console for each generation that
    it was given, and a file for each of these that has one. The engine holds one console
    and at most one file, and its other loggers hold nothing. Silence reaches a logger of
    another name just if the earlier generations that it was given were silent when they
    ended. -/
theorem handlers_bounded (ops : List Operation)
    (hj : (empty.start environment files).run ops = j)
    (hl : (Ledger.first environment files).run ops = l) (logger : String) :
    (isEngineLogger logger = true →
      (consoles (j.handlersOf logger)).length ≤ 1 ∧
      (fileHandlers (j.handlersOf logger)).length ≤ 1 ∧ Quiet (j.silence.handlersOf logger)) ∧
    (isEngineLogger logger = false →
      (consoles (j.handlersOf logger)).length = l.generations.countP (·.isHeldBy logger) ∧
      (fileHandlers (j.handlersOf logger)).length =
        l.generations.countP (fun g => g.isHeldBy logger && g.hasFile) ∧
      (Quiet (j.silence.handlersOf logger) ↔
        ∀ g ∈ l.past, g.isHeldBy logger = true → Quiet g.handlers)) := by
  have hkeeps : Keeps j l := hj ▸ hl ▸ (keeps_first environment files).run ops
  have hsilent := hkeeps.after .silence
  have hregular : ∀ g ∈ l.generations, Regular g.handlers := by
    rw [← hl]
    refine regular_run (fun g hg => ?_) ops
    rw [List.mem_singleton.mp hg]
    exact regular_freshHandlers environment files
  refine ⟨fun hown => ?_, fun hother => ⟨?_, ?_, ?_⟩⟩
  · by_cases he : logger = engineName
    · have hcurrent := (forall_generations.mp hregular).2
      rw [he, hkeeps.handlersOf_engine]
      refine ⟨Nat.le_of_eq hcurrent.console, hcurrent.file, ?_⟩
      rw [show j.silence.handlersOf engineName = _ from hsilent.handlersOf_engine]
      exact quiet_map_beyond _
    · rw [handlersOf_own j hown he, handlersOf_own j.silence hown he]
      exact ⟨Nat.zero_le 1, Nat.zero_le 1, nofun⟩
  · rw [hkeeps.handlersOf_other hother, length_consoles_given hregular]
  · rw [hkeeps.handlersOf_other hother, length_fileHandlers_given hregular]
  · rw [show j.silence.handlersOf logger = _ from hsilent.handlersOf_other hother, quiet_given,
      forall_generations]
    exact and_iff_left fun _ => quiet_map_beyond _

/-- A logger that is configured before and after the engine gets new handlers holds two
    consoles. -/
example : (consoles (((empty.start [] []).run
    [.attach [] [] "app", .restart [] [], .attach [] [] "app"]).handlersOf "app")).length = 2 := by
  decide

/-- Silence does not reach the console of an earlier generation. -/
example : ¬ Quiet (((empty.start [] []).run
    [.attach [] [] "app", .restart [] []]).silence.handlersOf "app") := by
  decide

end TokenFormula.Journal

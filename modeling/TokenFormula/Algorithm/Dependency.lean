import TokenFormula.Algorithm.Run

/-!
# Dependencies of formulas and conditions

Which variables the formulas and conditions of an algorithm read and assign,
which formulas feed which later steps, and what follows: undefined and unused
variables and cycles.

Results:
* `Algorithm.dependencies`: the graph of an algorithm.
* `cycles`: the cycles of a dependency relation.
* `Algorithm.dependencyIssues`: what is wrong with the dependencies.
-/

namespace TokenFormula

/-! ## Graphs -/

/-- A formula or condition with the variables that it reads and assigns. -/
structure DependencyNode where
  id : String
  name : String
  type : StepType
  inputs : List String
  outputs : List String
  dependencies : List String
  /-- The first step that refers to the id. -/
  stepIndex? : Option Nat
deriving DecidableEq, Repr

/-- A formula whose variable a later formula or condition reads. -/
structure DependencyEdge where
  source : String
  target : String
  name : String
deriving DecidableEq, Repr

/-- Where a variable is read. -/
structure VariableUsage where
  formulas : List String
  conditions : List String
  isSystem : Bool
deriving DecidableEq, Repr

/-- The dependencies of an algorithm. -/
structure DependencyGraph where
  nodes : List DependencyNode
  edges : List DependencyEdge
  executionOrder : List String
  usage : Entries VariableUsage

/-- The variables that a text reads, and the one that it assigns at its root; of
    a text outside the grammar none. -/
def inputsAndOutputs (source : String) : List String × List String :=
  let e := Expr.parse source
  if !e.notedErrors.isEmpty then ([], [])
  else
    match e with
    | .assign (.text name) _ _ => (e.variableNames, if name.isEmpty then [] else [name])
    | e => (e.variableNames, [])

/-- Adds an element that is not there yet. -/
def addNew (s : String) (known : List String) : List String :=
  if s ∈ known then known else known ++ [s]

namespace Algorithm

/-- The place of the first step with an id. -/
def stepIndex? (a : Algorithm) (id : String) : Option Nat :=
  a.steps.findIdx? (·.id == id)

/-- The node of a formula, without its dependencies. -/
def formulaNode (a : Algorithm) (language : String) (f : Formula) : DependencyNode :=
  let (inputs, outputs) := inputsAndOutputs (f.sourceIn language)
  ⟨f.id, f.name, .formula, inputs, outputs, [], a.stepIndex? f.id⟩

/-- The node of a condition, without its dependencies. -/
def conditionNode (a : Algorithm) (c : Condition) : DependencyNode :=
  ⟨c.id, c.name, .condition, (inputsAndOutputs c.source).1, [], [], a.stepIndex? c.id⟩

/-- The nodes of an algorithm, without their dependencies. -/
def bareNodes (a : Algorithm) (language : String) : List DependencyNode :=
  a.formulas.map (a.formulaNode language) ++ a.conditions.map a.conditionNode

end Algorithm

/-! ## Edges -/

/-- Whether a formula assigns a variable in a step before the first one of a
    reader; the two must be different nodes. -/
def feeds (producer reader : DependencyNode × Nat) (name : String) : Bool :=
  producer.1.type == .formula && producer.2 != reader.2 && producer.1.outputs.contains name &&
    (match producer.1.stepIndex?, reader.1.stepIndex? with
      | some i, some j => i < j
      | _, _ => false)

/-- The edges into one node, by its inputs and then by producers. -/
def edgesInto (nodes : List (DependencyNode × Nat)) (reader : DependencyNode × Nat) :
    List DependencyEdge :=
  reader.1.inputs.flatMap fun name =>
    (nodes.filter (feeds · reader name)).map fun p => ⟨p.1.id, reader.1.id, name⟩

/-- A node with the sources of the edges into it as dependencies. -/
def withDependencies (nodes : List (DependencyNode × Nat)) (reader : DependencyNode × Nat) :
    DependencyNode :=
  { reader.1 with
    dependencies := (edgesInto nodes reader).foldl (fun known e => addNew e.source known) [] }

/-! ## Usage -/

/-- Records that a node reads a variable. -/
def VariableUsage.add (node : DependencyNode) (u : VariableUsage) : VariableUsage :=
  match node.type with
  | .formula => { u with formulas := addNew node.id u.formulas }
  | .condition => { u with conditions := addNew node.id u.conditions }

/-- Records that a node reads a name; an id stands for the name of its variable.
    Other names are not recorded. -/
def recordUse (aliases : Entries String) (node : DependencyNode) (usage : Entries VariableUsage)
    (name : String) : Entries VariableUsage :=
  let name := (aliases.get? name).getD name
  match usage.get? name with
  | some u => usage.set name (u.add node)
  | none => usage

namespace Algorithm

/-- The ids of variables with their names. -/
def idNames (a : Algorithm) : Entries String :=
  Entries.ofPairs ((a.variables.filter fun v => !v.id.isEmpty && !v.name.isEmpty).map
    fun v => (v.id, v.name))

/-- The variables and the iteration value, not yet read anywhere. -/
def unusedVariables (a : Algorithm) : Entries VariableUsage :=
  (Entries.ofPairs (a.variables.map fun v => (v.name, ⟨[], [], false⟩))).set iterationName
    ⟨[], [], true⟩

/-- Where the variables are read. -/
def usageIn (a : Algorithm) (nodes : List DependencyNode) : Entries VariableUsage :=
  nodes.foldl (fun usage node => node.inputs.foldl (recordUse a.idNames node) usage)
    a.unusedVariables

/-- The dependencies of an algorithm whose formulas are read in a language. -/
def dependencies (a : Algorithm) (language : String) : DependencyGraph :=
  let nodes := (a.bareNodes language).zipIdx
  { nodes := nodes.map (withDependencies nodes)
    edges := nodes.flatMap (edgesInto nodes)
    executionOrder := a.steps.map Step.id
    usage := a.usageIn (a.bareNodes language) }

end Algorithm

/-! ## Cycles -/

/-- What has been searched: the ids that were entered, and the cycles found. -/
structure Search where
  visited : List String
  cycles : List (List String)

/-- Searches from an id along a path of ids. An id on the path closes a cycle;
    an id that was entered before is not entered again. At most `fuel` ids are
    put on the path. -/
def visit (next : String → List String) : (fuel : Nat) → (path : List String) → String →
    Search → Search
  | 0, _, _, s => s
  | fuel + 1, path, id, s =>
    if id ∈ path then { s with cycles := s.cycles ++ [path.dropWhile (· != id)] }
    else if id ∈ s.visited then s
    else
      (next id).foldl (fun s d => visit next fuel (path ++ [id]) d s)
        { s with visited := s.visited ++ [id] }

/-- The dependencies of the first node with an id. -/
def dependenciesOf (nodes : List (String × List String)) (id : String) : List String :=
  ((nodes.find? (·.1 == id)).map Prod.snd).getD []

/-- The cycles found from each id in turn. -/
def cycles (nodes : List (String × List String)) : List (List String) :=
  let next := dependenciesOf nodes
  (nodes.foldl (fun s n => visit next (nodes.length + 2) [] n.1 s) ⟨[], []⟩).cycles

/-- The cycles of a graph. -/
def DependencyGraph.cycles (g : DependencyGraph) : List (List String) :=
  TokenFormula.cycles (g.nodes.map fun n => (n.id, n.dependencies))

/-! ## Issues -/

/-- What is wrong with the dependencies of an algorithm. -/
structure DependencyIssue where
  severity : Severity
  message : String
  formula? : Option String
  condition? : Option String
  subject? : Option String
deriving DecidableEq, Repr

/-- An issue as text. -/
def DependencyIssue.text (i : DependencyIssue) : String :=
  match i.severity with
  | .warning => "Warning: " ++ i.message
  | .error => i.message

/-- A node reads a variable that nothing defines. -/
def undefinedIssue (node : DependencyNode) (name : String) : DependencyIssue :=
  ⟨.error, "Undefined variable '" ++ name ++ "' used in " ++ node.type.name ++ " '" ++ node.name ++
      "'",
    if node.type = .formula then some node.id else none,
    if node.type = .condition then some node.id else none, some name⟩

/-- Formulas depend on each other. -/
def cycleIssue (ids : List String) : DependencyIssue :=
  ⟨.error, "Circular dependency detected: " ++ " -> ".intercalate ids, ids.head?, none, none⟩

/-- A variable is read nowhere. -/
def unusedIssue (name : String) : DependencyIssue :=
  ⟨.warning, "Variable '" ++ name ++ "' is defined but never used", none, none, some name⟩

namespace Algorithm

/-- Whether a name is a variable, the id of one, the iteration value, or assigned
    by some formula. -/
def isDefined (a : Algorithm) (g : DependencyGraph) (name : String) : Bool :=
  a.variables.any (fun v => v.name == name || v.id == name) || name == iterationName ||
    g.nodes.any (·.outputs.contains name)

/-- Whether a variable is read nowhere. -/
def isUnused (g : DependencyGraph) (v : Variable) : Bool :=
  match g.usage.get? v.name with
  | some u => u.formulas.isEmpty && u.conditions.isEmpty
  | none => true

/-- What is wrong with the dependencies: undefined variables, cycles, unused
    variables. -/
def dependencyIssues (a : Algorithm) (language : String) : List DependencyIssue :=
  let g := a.dependencies language
  g.nodes.flatMap (fun node =>
      (node.inputs.filter (!a.isDefined g ·)).map (undefinedIssue node)) ++
    g.cycles.map cycleIssue ++
    (a.variables.filter (isUnused g)).map fun v => unusedIssue v.name

end Algorithm
end TokenFormula

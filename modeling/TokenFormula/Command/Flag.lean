import TokenFormula.Text.Digit
import TokenFormula.Text.Split
import TokenFormula.Value.Basic

/-!
# Words of a command line

A word that starts with a dash is an option, unless it is a negative number or
holds a blank. A long option may be shortened as long as it stays unambiguous;
its value stands behind an equals sign or is the next word. Short options may
share one dash. After `--` no word is an option.

Results:
* `words`: the words of a command line with their roles.
* `cluster`: the options that one word gives.
-/

namespace TokenFormula.Command

/-- The options. -/
inductive Flag where
  | help | version | project | verbose | iteration | context | mode
deriving DecidableEq, Repr

/-- Whether an option needs a value. -/
def Flag.takesValue : Flag → Bool
  | project | iteration | context | mode => true
  | help | version | verbose => false

/-- The options that are known, by their names. -/
abbrev FlagTable := Entries Flag

/-- Why a command line cannot be read. -/
inductive UsageError where
  /-- A shortened option stands for several. -/
  | ambiguous (word : String)
  | valueMissing (option : String)
  | valueUnexpected (option : String)
  | valueInvalid (option value : String)
  | commandUnknown (word : String)
  | commandMissing
  | argumentMissing (name : String)
  | unrecognized (words : List String)
deriving DecidableEq, Repr

/-- The text of an error. -/
def UsageError.message : UsageError → String
  | ambiguous word => "ambiguous option: " ++ word
  | valueMissing option => "argument " ++ option ++ ": expected one argument"
  | valueUnexpected option => "argument " ++ option ++ ": ignored explicit argument"
  | valueInvalid option value => "argument " ++ option ++ ": invalid value: " ++ value
  | commandUnknown word => "argument command: invalid choice: " ++ word
  | commandMissing => "the following arguments are required: command"
  | argumentMissing name => "the following arguments are required: " ++ name
  | unrecognized words => "unrecognized arguments: " ++ " ".intercalate words

/-- The role of a word. -/
inductive Role where
  | plain
  /-- The word after which no word is an option. -/
  | separator
  /-- An option, perhaps with what is written in the same word behind it. -/
  | option (flag : Flag) (name : String) (attached? : Option (List Char))
  | unknownOption
deriving DecidableEq, Repr

/-- A word with its role. -/
structure Word where
  text : String
  role : Role
deriving DecidableEq, Repr

/-! ## Roles -/

/-- A dash, digits, and perhaps a point with digits behind it; one line feed may
    follow. -/
def isNegativeNumber (cs : List Char) : Bool :=
  match cs with
  | '-' :: body =>
    let body := if body.getLast? = some '\n' then body.dropLast else body
    let whole := body.takeWhile Text.isDigit
    match body.drop whole.length with
    | [] => !whole.isEmpty
    | '.' :: fraction => !fraction.isEmpty && fraction.all Text.isDigit
    | _ => false
  | _ => false

/-- The options that a long word can stand for. -/
def longCandidates (table : FlagTable) (word : String) : List Role :=
  let (start, attached?) := match Text.splitFirst? '=' word with
    | some (name, value) => (name, some value.toList)
    | none => (word, none)
  (table.filter fun p => start.toList.isPrefixOf p.1.toList).map fun p =>
    .option p.2 p.1 attached?

/-- The options that a word with one dash can stand for. -/
def shortCandidates (table : FlagTable) (cs : List Char) : List Role :=
  let name := String.ofList (cs.take 2)
  (table.filter (·.1 == name)).map fun p => .option p.2 p.1 (some (cs.drop 2))

/-- The option that stands before an equals sign, if its name is complete. -/
def assigned? (table : FlagTable) (word : String) : Option Role := do
  let (name, value) ← Text.splitFirst? '=' word
  return .option (← table.get? name) name (some value.toList)

/-- The role of a word with at least one character behind its dash, which is no
    complete option. -/
def roleOfRest (table : FlagTable) (word : String) : Except UsageError Role :=
  let cs := word.toList
  let candidates :=
    if cs[1]? = some '-' then longCandidates table word else shortCandidates table cs
  match candidates with
  | [r] => .ok r
  | _ :: _ :: _ => .error (.ambiguous word)
  | [] => .ok (if isNegativeNumber cs || cs.contains ' ' then .plain else .unknownOption)

/-- The role of a word before any separator. -/
def roleOf (table : FlagTable) (word : String) : Except UsageError Role :=
  if word.toList.head? ≠ some '-' then .ok .plain
  else
    match table.get? word with
    | some flag => .ok (.option flag word none)
    | none =>
      if word == "-" then .ok .plain
      else
        match assigned? table word with
        | some r => .ok r
        | none => roleOfRest table word

/-- The words of a command line with their roles. -/
def words (table : FlagTable) : List String → Except UsageError (List Word)
  | [] => .ok []
  | w :: rest =>
    if w == "--" then .ok (⟨w, .separator⟩ :: rest.map (⟨·, .plain⟩))
    else do
      let r ← roleOf table w
      return ⟨w, r⟩ :: (← words table rest)

/-! ## Options of one word -/

/-- The options of one word, with their values. The last one may need the next
    word. -/
structure Cluster where
  given : List (Flag × String × String)
  needsValue? : Option (Flag × String)
deriving DecidableEq, Repr

/-- An option without a value of its own. -/
def bare (flag : Flag) (name : String) : Cluster :=
  if flag.takesValue then ⟨[], some (flag, name)⟩ else ⟨[(flag, name, "")], none⟩

/-- One more option in front. -/
def Cluster.push (flag : Flag) (name : String) (c : Cluster) : Cluster :=
  { c with given := (flag, name, "") :: c.given }

/-- The options of a word with attached characters: the value of the option, or
    more short options. -/
def attachedCluster (table : FlagTable) (flag : Flag) (name : String) :
    List Char → Except UsageError Cluster
  | [] =>
    if flag.takesValue then .ok ⟨[(flag, name, "")], none⟩ else .error (.valueUnexpected name)
  | c :: rest =>
    if flag.takesValue then .ok ⟨[(flag, name, String.ofList (c :: rest))], none⟩
    else if name.toList[1]? = some '-' then .error (.valueUnexpected name)
    else
      let next := String.ofList ['-', c]
      match table.get? next with
      | none => .error (.valueUnexpected name)
      | some f =>
        match rest with
        | [] => .ok ((bare f next).push flag name)
        | d :: more => do return (← attachedCluster table f next (d :: more)).push flag name

/-- The options that one word gives. -/
def cluster (table : FlagTable) (flag : Flag) (name : String) (attached? : Option (List Char)) :
    Except UsageError Cluster :=
  match attached? with
  | none => .ok (bare flag name)
  | some cs => attachedCluster table flag name cs

end TokenFormula.Command

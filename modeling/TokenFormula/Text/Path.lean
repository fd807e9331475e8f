import TokenFormula.Text.Split

/-!
# Paths

Paths in the form that has no empty parts and no steps that lead back.

Results:
* `parts`: the parts of a path, with `..` resolved.
* `joined`: the path with given parts.
* `resolve`: a path in its resolved form.
* `tidy`: a path without parts that change nothing.
-/

namespace TokenFormula.Text.Path

/-- The first part of a path that does not start at the working directory. -/
def root : String := "/"

/-- The parts of a path as it is written, without the empty ones and those for
    the same directory. -/
def writtenParts (path : String) : List String :=
  (if path.toList.head? = some '/' then [root] else []) ++
    (splitAt '/' path).filter fun p => p != "" && p != "."

/-- A part after the parts before it, the last of them first; one for the parent
    takes the last part away. The root is its own parent. -/
def push (before : List String) (part : String) : List String :=
  if part = ".." then
    match before with
    | [] => [".."]
    | last :: rest =>
      if last = ".." then part :: before else if last = root then before else rest
  else part :: before

/-- The parts of a path, with those for the parent resolved where they can be. -/
def parts (path : String) : List String :=
  ((writtenParts path).foldl push []).reverse

/-- The path of parts; without parts it is the directory itself. -/
def joined : List String → String
  | [] => "."
  | first :: rest =>
    if first = root then root ++ "/".intercalate rest else "/".intercalate (first :: rest)

/-- A path in its resolved form. -/
def resolve (path : String) : String :=
  joined (parts path)

/-- Whether a path starts with two slashes and no third, which are not the same as
    one. -/
def hasDoubleRoot (path : String) : Bool :=
  match path.toList with
  | '/' :: '/' :: '/' :: _ => false
  | '/' :: '/' :: _ => true
  | _ => false

/-- The path of parts, with the slashes at the start of another one. -/
def joinedLike (path : String) (ps : List String) : String :=
  if hasDoubleRoot path then root ++ joined ps else joined ps

/-- A path as it is written, without the parts that change nothing. -/
def tidy (path : String) : String :=
  joinedLike path (writtenParts path)

/-- A path inside a directory. -/
def inside (directory name : String) : String :=
  joinedLike directory (writtenParts directory ++ writtenParts name)

end TokenFormula.Text.Path

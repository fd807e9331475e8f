import TokenFormula.Fault
import TokenFormula.Text.Path
import TokenFormula.Text.Utf8
import TokenFormula.Value.Basic

/-!
# Files

What is found at a path. A directory is there as soon as something lies in it.

Results:
* `FileContent`: what is found.
* `FileContent.textAt`: the text that is found, or what is said where there is none.
* `Files.read`: what is found at a path among given files; a step back is taken
  from a directory, too.
* `Files.opens`: whether a file can be written at a path.
* `unixLines`: a text with one kind of line end.
-/

namespace TokenFormula

/-- What is found at a path. -/
inductive FileContent where
  | missing
  | directory
  /-- A file lies where the path needs a directory. -/
  | blocked
  /-- The path is longer than paths can be, or one of its parts is. -/
  | tooLong
  /-- The path holds a null character. -/
  | unnamed
  /-- A file that may not be opened. -/
  | closed
  /-- A file whose bytes are no text. -/
  | undecodable (cause : Text.Utf8.Problem)
  | text (s : String)
deriving DecidableEq, Repr

/-- A text in which every line ends with a line feed: a carriage return becomes
    one, together with a line feed behind it. -/
def unixLines : List Char → List Char
  | '\r' :: '\n' :: rest => '\n' :: unixLines rest
  | '\r' :: rest => '\n' :: unixLines rest
  | c :: rest => c :: unixLines rest
  | [] => []

/-- The text of a file with one kind of line end. -/
def FileContent.ofText (s : String) : FileContent :=
  .text (String.ofList (unixLines s.toList))

/-- What a file with these bytes holds. -/
def FileContent.ofBytes (bytes : ByteArray) : FileContent :=
  match Text.Utf8.problem? bytes.toList with
  | some cause => .undecodable cause
  | none => .ofText ((String.fromUTF8? bytes).getD "")

/-- The text of a file that is opened at a path, or what is said where it cannot be read. -/
def FileContent.textAt (path : String) : FileContent → Except String String
  | .missing => .error (refusal 2 "No such file or directory" path)
  | .closed => .error (refusal 13 "Permission denied" path)
  | .blocked => .error (refusal 20 "Not a directory" path)
  | .directory => .error (refusal 21 "Is a directory" path)
  | .tooLong => .error (Fault.pathTooLong path).message
  | .unnamed => .error "embedded null byte"
  | .undecodable cause => .error cause.message
  | .text s => .ok s

/-- Files and directories by their resolved paths. -/
abbrev Files := Entries FileContent

namespace Files

/-- Puts something at a path. -/
def write (path : String) (content : FileContent) (files : Files) : Files :=
  files.set (Text.Path.resolve path) content

/-- Files with their texts. -/
def ofTexts (texts : List (String × String)) : Files :=
  texts.foldl (fun files p => files.write p.1 (.ofText p.2)) []

/-- A path leads through another one. -/
def below (path outer : List String) : Bool :=
  outer.isPrefixOf path && path.length != outer.length

/-- A path that is a directory whatever the files are: the working directory, one
    around it, or the root. -/
def isOuter (place : List String) : Bool :=
  place.all (· = "..") || place = [Text.Path.root]

/-- What lies at a place, given by the parts of its resolved path. -/
def lookup (files : Files) (place : List String) : FileContent :=
  match files.get? (Text.Path.joined place) with
  | some content => content
  | none =>
    if isOuter place || files.any fun p => below (Text.Path.parts p.1) place then .directory
    else .missing

/-- The bytes that a part of a path has at most. -/
def longestPart : Nat := 255

/-- The bytes that a path has at most. -/
def longestPath : Nat := 4095

/-- What is found at the end of a path that goes on from a place, step by step:
    each step needs a directory to start from. -/
def follow (files : Files) (place : List String) : List String → FileContent
  | [] => files.lookup place
  | part :: rest =>
    match files.lookup place with
    | .directory =>
      if longestPart < part.utf8ByteSize then .tooLong
      else follow files (Text.Path.push place.reverse part).reverse rest
    | .text _ | .undecodable _ | .closed => .blocked
    | other => other

/-- What is found at a path. -/
def read (files : Files) (path : String) : FileContent :=
  if path.toList.contains '\x00' then .unnamed
  else if longestPath < (Text.Path.tidy path).utf8ByteSize then .tooLong
  else files.follow [] (Text.Path.writtenParts path)

/-- Whether a file can be opened for writing at the end of a path that goes on
    from a place; directories are made as they are needed. -/
def opensFrom (files : Files) (place : List String) : List String → Bool
  | [] =>
    match files.lookup place with
    | .missing | .text _ | .undecodable _ => true
    | _ => false
  | part :: rest =>
    match files.lookup place with
    | .directory | .missing => opensFrom files (Text.Path.push place.reverse part).reverse rest
    | _ => false

/-- Whether a file can be opened for writing at a path. -/
def opens (files : Files) (path : String) : Bool :=
  files.opensFrom [] (Text.Path.writtenParts path)

end Files
end TokenFormula

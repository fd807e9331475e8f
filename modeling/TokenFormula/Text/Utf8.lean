import TokenFormula.Text.Quoted

/-!
# Bytes that are no text

The bytes of a file are read as UTF-8. The first byte of a character tells which bytes can
follow it. Where one does not follow, the bytes so far are named in the message.

Results:
* `Utf8.problem?`: where and why bytes are no text.
-/

namespace TokenFormula.Text.Utf8

/-- Why bytes are no text. -/
inductive Cause where
  /-- No character starts with the byte. -/
  | start
  /-- The next byte does not follow. -/
  | continuation
  /-- The bytes end inside a character. -/
  | ending
deriving DecidableEq, Repr

/-- The name of a cause in messages. -/
def Cause.name : Cause → String
  | start => "invalid start byte"
  | continuation => "invalid continuation byte"
  | ending => "unexpected end of data"

/-- The bytes of a character that is none: the first one, its place, and how many more
    follow it. -/
structure Problem where
  first : UInt8
  place : Nat
  more : Nat
  cause : Cause
deriving DecidableEq, Repr

/-- The text of a problem. -/
def Problem.message (p : Problem) : String :=
  "'utf-8' codec can't decode " ++
    (if p.more = 0 then
      "byte 0x" ++ String.ofList (hexDigits 2 p.first.toNat) ++ " in position " ++
        toString p.place
    else
      "bytes in position " ++ toString p.place ++ "-" ++ toString (p.place + p.more)) ++
    ": " ++ p.cause.name

/-- The bytes from the first to the second one. -/
abbrev Span := UInt8 × UInt8

/-- The bytes that follow inside a character. -/
def tail : Span := (0x80, 0xBF)

/-- What can follow a byte at the start of a character: no character is written with more
    bytes than it needs, and there are none beyond the last one or between the surrogates. -/
def spans? (first : UInt8) : Option (List Span) :=
  if first < 0x80 then some []
  else if first < 0xC2 then none
  else if first < 0xE0 then some [tail]
  else if first = 0xE0 then some [(0xA0, 0xBF), tail]
  else if first = 0xED then some [(0x80, 0x9F), tail]
  else if first < 0xF0 then some [tail, tail]
  else if first = 0xF0 then some [(0x90, 0xBF), tail, tail]
  else if first < 0xF4 then some [tail, tail, tail]
  else if first = 0xF4 then some [(0x80, 0x8F), tail, tail]
  else none

/-- The first problem in the rest of some bytes, inside a character of which `more` bytes
    have followed the first one and the spans are still to come. -/
def problemFrom? (first : UInt8) (place more : Nat) : List Span → List UInt8 → Option Problem
  | [], [] => none
  | [], b :: rest =>
    let next := place + more + 1
    match spans? b with
    | some spans => problemFrom? b next 0 spans rest
    | none => some ⟨b, next, 0, .start⟩
  | _ :: _, [] => some ⟨first, place, more, .ending⟩
  | (low, high) :: spans, b :: rest =>
    if low ≤ b && b ≤ high then problemFrom? first place (more + 1) spans rest
    else some ⟨first, place, more, .continuation⟩

/-- The first problem in some bytes. -/
def problem? : List UInt8 → Option Problem
  | [] => none
  | b :: rest =>
    match spans? b with
    | some spans => problemFrom? b 0 0 spans rest
    | none => some ⟨b, 0, 0, .start⟩

end TokenFormula.Text.Utf8

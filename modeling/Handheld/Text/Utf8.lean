import Handheld.Word

/-!
# Text/Utf8 — texts as bytes, and what is wrong with bytes that are no text

`Utf8.decode?` and `Utf8.encode` go between texts and bytes.  For bytes that are no text,
`Utf8.fault` tells where the first sequence starts that encodes no character, and how many of its
bytes could have been the start of one, or that the bytes end inside a sequence.

The encoding itself is the core library's.  What counts as one faulty sequence is a convention of
the decoder that reads a snapshot's texts; it is assumed here as that decoder documents it.
-/

namespace Handheld.Utf8

/-- The bytes of a text. -/
def encode (s : String) : List Byte := s.toByteArray.data.toList.map UInt8.toBitVec

/-- The text that bytes encode, if they encode one. -/
def decode? (bytes : List Byte) : Option String :=
  String.fromUTF8? ⟨(bytes.map UInt8.ofBitVec).toArray⟩

/-- What is wrong with bytes that are no text. -/
inductive Fault where
  /-- The sequence of this length at an index encodes no character. -/
  | invalid (length index : Nat)
  /-- The bytes end inside the sequence at an index. -/
  | incomplete (index : Nat)
  deriving DecidableEq

/-- The bounds of the bytes that may follow a first byte, if it can be one.  The narrower bounds
exclude longer forms than necessary, surrogates and numbers too large for a character. -/
def following? (first : Byte) : Option (List (Byte × Byte)) :=
  let any : Byte × Byte := (0x80#8, 0xBF#8)
  if first ≤ 0x7F#8 then some []
  else if first < 0xC2#8 then none
  else if first ≤ 0xDF#8 then some [any]
  else if first = 0xE0#8 then some [(0xA0#8, 0xBF#8), any]
  else if first = 0xED#8 then some [(0x80#8, 0x9F#8), any]
  else if first ≤ 0xEF#8 then some [any, any]
  else if first = 0xF0#8 then some [(0x90#8, 0xBF#8), any, any]
  else if first ≤ 0xF3#8 then some [any, any, any]
  else if first = 0xF4#8 then some [(0x80#8, 0x8F#8), any, any]
  else none

/-- The first fault in the bytes that follow `seen` bytes of a sequence which started at `start` and
still lacks bytes within the bounds `expected`. -/
def faultFrom (start seen : Nat) : List (Byte × Byte) → List Byte → Fault
  | _, [] => .incomplete start
  | [], b :: rest =>
    match following? b with
    | none => .invalid 1 (start + seen)
    | some expected => faultFrom (start + seen) 1 expected rest
  | (least, greatest) :: expected, b :: rest =>
    if least ≤ b ∧ b ≤ greatest then faultFrom start (seen + 1) expected rest
    else .invalid seen start

/-- The first fault in bytes that are no text. -/
def fault (bytes : List Byte) : Fault := faultFrom 0 0 [] bytes

namespace Fault

/-- The message for a fault. -/
def message : Fault → String
  | invalid length index =>
    "invalid utf-8 sequence of " ++ toString length ++ " bytes from index " ++ toString index
  | incomplete index => "incomplete utf-8 byte sequence from index " ++ toString index

end Fault

end Handheld.Utf8

import Handheld.Text.Utf8

/-!
# Snapshot/Reader — reading values off the front of bytes

A reader takes its value from the front of the bytes and leaves the rest, or names the first fault.
Numbers are little-endian with a fixed number of bytes, a text follows its length, a truth value is
one byte, and an alternative is chosen by a number.

These rules, the faults and the texts that tell them (`Malformed.message`) are those of an external
serializer.  They are assumed as it documents them, and nothing here derives them.
-/

namespace Handheld

/-- Why bytes are no snapshot. -/
inductive Malformed where
  /-- They end too early. -/
  | ended
  /-- A text is none. -/
  | text (fault : Utf8.Fault)
  /-- A truth value is neither zero nor one. -/
  | truth (found : Byte)
  /-- The mark of a value that may be missing is neither zero nor one. -/
  | presence (found : Byte)
  /-- There are only `count` alternatives. -/
  | alternative (found count : Nat)
  deriving DecidableEq

namespace Malformed

/-- The message for bytes that are no snapshot. -/
def message (m : Malformed) : String :=
  "Malformed snapshot: " ++ match m with
    | ended => "io error"
    | text fault => "string is not valid utf8: " ++ fault.message
    | truth found =>
      "invalid u8 while decoding bool, expected 0 or 1, found " ++ toString found.toNat
    | presence found => "tag for enum is not valid, found " ++ toString found.toNat
    | alternative found count =>
      "invalid value: integer `" ++ toString found ++ "`, expected variant index 0 <= i < " ++
        toString count

end Malformed

/-- Takes a value from the front of bytes. -/
abbrev Reader (α : Type) := StateT (List Byte) (Except Malformed) α

namespace Reader

variable {α : Type}

/-- One byte. -/
def byte : Reader Byte := fun bytes =>
  match bytes with
  | [] => .error .ended
  | b :: rest => .ok (b, rest)

/-- A given number of bytes. -/
def bytes (count : Nat) : Reader (List Byte) := fun bytes =>
  if count ≤ bytes.length then .ok (bytes.splitAt count) else .error .ended

/-- A number of `count` bytes, the lowest first. -/
def number : (count : Nat) → Reader Nat
  | 0 => pure 0
  | count + 1 => do
    let b ← byte
    let higher ← number count
    pure (b.toNat + 256 * higher)

/-- A halfword. -/
def half : Reader Half := BitVec.ofNat 16 <$> number 2

/-- A word. -/
def word : Reader Word := BitVec.ofNat 32 <$> number 4

/-- A double. -/
def double : Reader Double := BitVec.ofNat 64 <$> number 8

/-- A text after its length in bytes. -/
def text : Reader String := do
  let length ← number 8
  let encoded ← bytes length
  match Utf8.decode? encoded with
  | some s => pure s
  | none => throw (.text (Utf8.fault encoded))

/-- A truth value. -/
def truth : Reader Bool := do
  let b ← byte
  if b = 0#8 then pure false else if b = 1#8 then pure true else throw (.truth b)

/-- One of several alternatives, by its number. -/
def oneOf (all : List α) : Reader α := do
  let n ← number 4
  match all[n]? with
  | some x => pure x
  | none => throw (.alternative n all.length)

/-- A value that may be missing. -/
def optional (item : Reader α) : Reader (Option α) := do
  let b ← byte
  if b = 0#8 then pure none else if b = 1#8 then some <$> item else throw (.presence b)

/-- Values one after the other. -/
def vector (item : Reader α) : (n : Nat) → Reader (Vector α n)
  | 0 => pure #v[]
  | n + 1 => do
    let v ← vector item n
    let x ← item
    pure (v.push x)

end Reader

end Handheld

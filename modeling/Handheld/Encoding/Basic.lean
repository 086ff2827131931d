import Handheld.Encoding.Wide
import Handheld.Encoding.Narrow
import Handheld.Text.Hex

/-!
# Encoding/Basic — from words to instructions

A word is read as a wide instruction, or its low half as a narrow one.  A word that encodes nothing
is reported whole.
-/

namespace Handheld

/-- A word encodes no instruction. -/
structure Unrecognised where
  /-- The word. -/
  word : Word
  deriving DecidableEq

namespace Unrecognised

/-- The message for a word that encodes no instruction. -/
def message (u : Unrecognised) : String :=
  "Unrecognised encoding " ++ Text.hexPadded 8 u.word.toNat

end Unrecognised

/-- The instruction that a word encodes, if it encodes one. -/
def decode? (narrow : Bool) (w : Word) : Option Instruction :=
  if narrow then Narrow.decode? w.lowHalf else Wide.decode? w

/-- The instruction that a word encodes, or a report of the word. -/
def decode (narrow : Bool) (w : Word) : Except Unrecognised Instruction :=
  match decode? narrow w with
  | some i => .ok i
  | none => .error ⟨w⟩

end Handheld

import Handheld.Word

/-!
# Shifter — the barrel shifter

Shifts a word by any distance and reports the last bit shifted out as the new carry.  A distance of
zero moves nothing and keeps the carry; a left or logical right shift by more than the width clears
word and carry, an arithmetic one fills both with the sign, and a rotation wraps around.
-/

namespace Handheld

/-- The kinds of shift. -/
inductive ShiftKind where
  /-- Left, filling with zeros. -/
  | lsl
  /-- Right, filling with zeros. -/
  | lsr
  /-- Right, filling with the sign. -/
  | asr
  /-- Right, filling with what was shifted out. -/
  | ror
  deriving DecidableEq, Inhabited

namespace ShiftKind

/-- The kind that two bits name. -/
def ofCode (bits : BitVec 2) : ShiftKind :=
  match bits with
  | 0b00#2 => lsl
  | 0b01#2 => lsr
  | 0b10#2 => asr
  | _ => ror

/-- The mnemonic of a shift. -/
def name : ShiftKind → String
  | lsl => "LSL"
  | lsr => "LSR"
  | asr => "ASR"
  | ror => "ROR"

/-- The word shifted by `n`. -/
def shift (k : ShiftKind) (v : Word) (n : Nat) : Word :=
  match k with
  | lsl => v <<< n
  | lsr => v >>> n
  | asr => v.sshiftRight n
  | ror => v.rotateRight n

/-- The last bit shifted out by a positive distance `n`. -/
def carryOut (k : ShiftKind) (v : Word) (n : Nat) : Bool :=
  match k with
  | lsl => n ≤ 32 && v.getLsbD (32 - n)
  | lsr => v.getLsbD (n - 1)
  | asr => v.getLsbD (min (n - 1) 31)
  | ror => (v.rotateRight n).msb

/-- The shifted word and the carry after the shift. -/
def apply (k : ShiftKind) (v : Word) (n : Nat) (carry : Bool) : Word × Bool :=
  if n = 0 then (v, carry) else (k.shift v n, k.carryOut v n)

end ShiftKind

/-- One step of the rotation of word and carry together. -/
def rotateThroughCarry (v : Word) (carry : Bool) : Word × Bool :=
  (BitVec.ofBool carry ++ v.extractLsb' 1 31, v.getLsbD 0)

end Handheld

import Handheld.Instruction.Basic

/-!
# Encoding/Narrow — instructions of 16 bits

The top three bits select one of eight groups.  Most narrow instructions reach the eight low
registers only, and all but conditional branches always take effect.  Nearly all are shorter forms
of wide instructions; the few others read the program counter in a way of their own.
-/

namespace Handheld.Narrow

/-! ## Fields -/

/-- One bit. -/
abbrev bit (h : Half) (i : Nat) : Bool := h.getLsbD i

/-- The low register named by the three bits from `start`. -/
def low (h : Half) (start : Nat) : Register := ((h.extractLsb' start 3).setWidth 4).toFin

/-- The `width` bits from `start`, as a number multiplied by `2 ^ scale`. -/
def number (h : Half) (start width scale : Nat) : Word :=
  (h.extractLsb' start width).setWidth 32 <<< scale

/-- Adding an offset to a base that stays. -/
def offsetFrom (base : Register) : Addressing where
  base
  up := true
  early := true
  writeBack := false

/-- Transferring upwards from a base that moves on. -/
def ascending (base : Register) : Addressing where
  base
  up := true
  early := false
  writeBack := true

/-- Transferring downwards from a base that moves on. -/
def descending (base : Register) : Addressing where
  base
  up := false
  early := true
  writeBack := true

/-! ## The groups -/

/-- Shifts by a fixed distance, and additions and subtractions of three operands. -/
def shiftOrAdd (h : Half) : Operation :=
  let rd := low h 0
  let rs := low h 3
  let distance := (h.extractLsb' 6 5).toNat
  match h.extractLsb' 11 2 with
  | 0b00#2 => .move .mov true rd (.fixed (.shifted rs .lsl distance))
  | 0b01#2 => .move .mov true rd (.fixed (.shifted rs .lsr (if distance = 0 then 32 else distance)))
  | 0b10#2 => .move .mov true rd (.fixed (.shifted rs .asr (if distance = 0 then 32 else distance)))
  | _ =>
    .binary (if bit h 9 then .sub else .add) true rd rs
      (if bit h 10 then .immediate (number h 6 3 0) else .plain (low h 6))

/-- Operations with a number of eight bits. -/
def withByte (h : Half) : Operation :=
  let rd := low h 8
  let operand : DataOperand := .immediate (number h 0 8 0)
  match h.extractLsb' 11 2 with
  | 0b00#2 => .move .mov true rd operand
  | 0b01#2 => .test .cmp rd operand
  | 0b10#2 => .binary .add true rd rd operand
  | _ => .binary .sub true rd rd operand

/-- Transfers with a register as the offset. -/
def registerOffset (h : Half) : Operation :=
  let mode := offsetFrom (low h 3)
  let rd := low h 0
  let offset : Operand := .plain (low h 6)
  match h.extractLsb' 9 3 with
  | 0b000#3 => .store .word mode rd offset
  | 0b001#3 => .store .half mode rd offset
  | 0b010#3 => .store .byte mode rd offset
  | 0b011#3 => .load .signedByte mode rd offset
  | 0b100#3 => .load .word mode rd offset
  | 0b101#3 => .load .half mode rd offset
  | 0b110#3 => .load .byte mode rd offset
  | _ => .load .signedHalf mode rd offset

/-- Operations that reach all sixteen registers, and the jump that selects the width. -/
def anyRegister? (h : Half) : Option Operation :=
  let rs : Register := (h.extractLsb' 3 4).toFin
  let rd : Register := (h.extractLsb' 7 1 ++ h.extractLsb' 0 3).toFin
  match h.extractLsb' 8 2 with
  | 0b00#2 => some (.binary .add false rd rd (.plain rs))
  | 0b01#2 => some (.test .cmp rd (.plain rs))
  | 0b10#2 => some (.move .mov false rd (.plain rs))
  | _ => if bit h 7 then none else some (.branchExchange rs)

/-- Operations of a low register with another. -/
def withRegister (h : Half) : Operation :=
  let rd := low h 0
  let rs := low h 3
  let binary (op : BinaryOp) : Operation := .binary op true rd rd (.plain rs)
  let shift (kind : ShiftKind) : Operation := .move .mov true rd (.byRegister rd kind rs)
  match h.extractLsb' 6 4 with
  | 0x0#4 => binary .and
  | 0x1#4 => binary .eor
  | 0x2#4 => shift .lsl
  | 0x3#4 => shift .lsr
  | 0x4#4 => shift .asr
  | 0x5#4 => binary .adc
  | 0x6#4 => binary .sbc
  | 0x7#4 => shift .ror
  | 0x8#4 => .test .tst rd (.plain rs)
  | 0x9#4 => .binary .rsb true rd rs (.immediate 0#32)
  | 0xA#4 => .test .cmp rd (.plain rs)
  | 0xB#4 => .test .cmn rd (.plain rs)
  | 0xC#4 => binary .orr
  | 0xD#4 => .multiply true rd rd rs none
  | 0xE#4 => binary .bic
  | _ => .move .mvn true rd (.plain rs)

/-- Operations of registers, loads relative to the program counter, and transfers with a register
as the offset. -/
def registers? (h : Half) : Option Operation :=
  if bit h 12 then some (registerOffset h)
  else if bit h 11 then some (.loadFromPc (low h 8) (number h 0 8 2))
  else if bit h 10 then anyRegister? h
  else some (withRegister h)

/-- Transfers of words and bytes with a number as the offset. -/
def wordOrByte (h : Half) : Operation :=
  let mode := offsetFrom (low h 3)
  let rd := low h 0
  match h.extractLsb' 11 2 with
  | 0b00#2 => .store .word mode rd (.immediate (number h 6 5 2))
  | 0b01#2 => .load .word mode rd (.immediate (number h 6 5 2))
  | 0b10#2 => .store .byte mode rd (.immediate (number h 6 5 0))
  | _ => .load .byte mode rd (.immediate (number h 6 5 0))

/-- Transfers of halfwords with a number as the offset, and of words relative to the stack. -/
def halfOrStack (h : Half) : Operation :=
  if bit h 12 then
    let offset : Operand := .immediate (number h 0 8 2)
    if bit h 11 then .load .word (offsetFrom .sp) (low h 8) offset
    else .store .word (offsetFrom .sp) (low h 8) offset
  else
    let offset : Operand := .immediate (number h 6 5 1)
    if bit h 11 then .load .half (offsetFrom (low h 3)) (low h 0) offset
    else .store .half (offsetFrom (low h 3)) (low h 0) offset

/-- Pushes and pops; a push can include the link register and a pop the program counter. -/
def pushOrPop (h : Half) : Operation :=
  let list := (h.extractLsb' 0 8).setWidth 16
  if bit h 11 then
    .loadMultiple (ascending .sp) (if bit h 8 then list ||| 0x8000#16 else list) false
  else .storeMultiple (descending .sp) (if bit h 8 then list ||| 0x4000#16 else list) false

/-- Moves of the stack pointer, pushes and pops, and addresses relative to the program counter or
the stack. -/
def stack? (h : Half) : Option Operation :=
  if bit h 12 then
    match h.extractLsb' 8 4 with
    | 0b0000#4 =>
      some (.binary (if bit h 7 then .sub else .add) false .sp .sp (.immediate (number h 0 7 2)))
    | 0b0100#4 | 0b0101#4 | 0b1100#4 | 0b1101#4 => some (pushOrPop h)
    | _ => none
  else if bit h 11 then some (.binary .add false (low h 8) .sp (.immediate (number h 0 8 2)))
  else some (.addToPc (low h 8) (number h 0 8 2))

/-- Transfers of register lists. -/
def block (h : Half) : Operation :=
  let list := (h.extractLsb' 0 8).setWidth 16
  if bit h 11 then .loadMultiple (ascending (low h 8)) list false
  else .storeMultiple (ascending (low h 8)) list false

/-- Conditional branches and software interrupts. -/
def conditional? (h : Half) : Option Instruction :=
  match h.extractLsb' 8 4 with
  | 0xF#4 => some ⟨.al, .softwareInterrupt ((h.extractLsb' 0 8).setWidth 24)⟩
  | 0xE#4 => none
  | c => some ⟨.ofCode c, .branchNarrow ((h.extractLsb' 0 8 ++ 0b0#1).signExtend 32)⟩

/-- Branches and the two halves of a call. -/
def branch? (h : Half) : Option Operation :=
  match h.extractLsb' 11 2 with
  | 0b00#2 => some (.branchNarrow ((h.extractLsb' 0 11 ++ 0b0#1).signExtend 32))
  | 0b01#2 => none
  | 0b10#2 => some (.linkHigh ((h.extractLsb' 0 11 ++ 0#12).signExtend 32))
  | _ => some (.linkLow (number h 0 11 1))

/-- The instruction that a halfword encodes, if it encodes one. -/
def decode? (h : Half) : Option Instruction :=
  match h.extractLsb' 13 3 with
  | 0b000#3 => some ⟨.al, shiftOrAdd h⟩
  | 0b001#3 => some ⟨.al, withByte h⟩
  | 0b010#3 => (registers? h).map (Instruction.mk .al)
  | 0b011#3 => some ⟨.al, wordOrByte h⟩
  | 0b100#3 => some ⟨.al, halfOrStack h⟩
  | 0b101#3 => (stack? h).map (Instruction.mk .al)
  | 0b110#3 => if bit h 12 then conditional? h else some ⟨.al, block h⟩
  | _ => (branch? h).map (Instruction.mk .al)

end Handheld.Narrow

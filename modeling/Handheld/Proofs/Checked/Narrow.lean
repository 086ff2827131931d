import Handheld.Proofs.Checked.Arithmetic
import Handheld.Proofs.Encoding.Fields

/-!
# Proofs/Checked/Narrow — instructions of 16 bits decoded with every operation checked

A decoder of narrow code builds the masks of its groups bit by bit, and has registers in fields of
three bits, of four, and of three with a fourth kept elsewhere.  Decoding goes well for every
halfword.
-/

namespace Handheld.Narrow

open Checked

variable (h : Half)

/-! ## Fields -/

/-- The mask of the `l` bits from `first` on. -/
def checkedMask (first l : Nat) : Checked Half :=
  (List.range' first l).foldlM (fun m i => (shiftLeft 1#16 i).map (m ||| ·)) 0#16

/-- The `l` bits from `first` on, by their mask. -/
def checkedGroup (first l : Nat) : Checked (BitVec l) := do
  let mask ← checkedMask first l
  field (h &&& mask) first l

/-- The low register named by the three bits from `start`. -/
def checkedLow (start : Nat) : Checked Register := registerField h start 0x7#16

/-- The `width` bits from `start`, as a number multiplied by `2 ^ scale`. -/
def checkedNumber (start width scale : Nat) : Checked Word := do
  let v ← field h start width
  shiftLeft (v.setWidth 32) scale

/-- The register whose number has three bits at the low end and one at bit 7. -/
def checkedSplitRegister : Checked Register := do
  let high ← shiftRight h 4
  register (high &&& 0x8#16 ||| h &&& 0x7#16).toNat

/-- The low `l` bits, multiplied by a power of two and extended with their sign by shifts. -/
def checkedOffset (l up down : Nat) : Checked Word := do
  let v ← checkedGroup h 0 l
  let high ← shiftLeft (v.setWidth 32) up
  signedShiftRight high down

/-- The bits of a mask. -/
theorem getLsbD_mask (first : Nat) {l : Nat} (hl : first + l ≤ 16) :
    ∃ m, checkedMask first l = .ok m
      ∧ ∀ i, m.getLsbD i = decide (first ≤ i ∧ i < first + l) := by
  induction l with
  | zero =>
    refine ⟨0#16, rfl, fun i => ?_⟩
    rw [BitVec.getLsbD_zero, decide_eq_false (by omega)]
  | succ l ih =>
    obtain ⟨m, hm, hbits⟩ := ih (by omega)
    refine ⟨m ||| 1#16 <<< (first + l), ?_, fun i => ?_⟩
    · rw [checkedMask, List.range'_1_concat, List.foldlM_append, ← checkedMask, hm, ok_bind,
        List.foldlM_cons, shiftLeft_eq_ok (by omega), map_ok, ok_bind, List.foldlM_nil, pure_eq_ok]
    · rw [BitVec.getLsbD_or, hbits, BitVec.getLsbD_shiftLeft, BitVec.getLsbD_one, Bool.eq_iff_iff]
      simp
      omega

variable {h}

/-- Bits within the halfword are shifted down and masked. -/
theorem checkedGroup_eq_ok {first l : Nat} (hf : first < 16) (hl : first + l ≤ 16) :
    checkedGroup h first l = .ok (h.extractLsb' first l) := by
  obtain ⟨m, hm, hbits⟩ := getLsbD_mask first hl
  rw [checkedGroup, hm, ok_bind, field_eq_ok hf]
  refine congrArg _ (BitVec.eq_of_getLsbD_eq fun i hi => ?_)
  rw [BitVec.getLsbD_extractLsb', BitVec.getLsbD_extractLsb', BitVec.getLsbD_and, hbits,
    decide_eq_true (show first ≤ first + i ∧ first + i < first + l by omega), Bool.and_true]

theorem checkedLow_eq_ok {start : Nat} (hs : start < 16) :
    checkedLow h start = .ok (low h start) :=
  registerField_eq_ok (l := 3) hs (by decide) rfl

/-- A number of a few bits is counted in bytes, halfwords or words. -/
theorem checkedNumber_eq_ok {start width scale : Nat} (hs : start < 16) (hk : scale < 32) :
    checkedNumber h start width scale = .ok (number h start width scale) := by
  rw [checkedNumber, field_eq_ok hs, ok_bind, shiftLeft_eq_ok hk, number]

variable (h)

/-- The number of a register is put together from a bit and three more. -/
theorem checkedSplitRegister_eq_ok :
    checkedSplitRegister h = .ok (h.extractLsb' 7 1 ++ h.extractLsb' 0 3).toFin := by
  have hbits : h >>> 4 &&& 0x8#16 ||| h &&& 0x7#16
      = (h.extractLsb' 7 1 ++ h.extractLsb' 0 3).setWidth 16 := by
    refine BitVec.eq_of_getLsbD_eq fun i hi => ?_
    rw [show 0x8#16 = BitVec.twoPow 16 3 from rfl,
      show 0x7#16 = (BitVec.allOnes 3).setWidth 16 from rfl]
    simp only [BitVec.getLsbD_or, BitVec.getLsbD_and, BitVec.getLsbD_ushiftRight,
      BitVec.getLsbD_twoPow, BitVec.getLsbD_setWidth, BitVec.getLsbD_allOnes,
      BitVec.getLsbD_append, BitVec.getLsbD_extractLsb']
    grind
  have hlt := (h.extractLsb' 7 1 ++ h.extractLsb' 0 3).isLt
  have hn : (h >>> 4 &&& 0x8#16 ||| h &&& 0x7#16).toNat
      = (h.extractLsb' 7 1 ++ h.extractLsb' 0 3).toNat := by
    rw [hbits, BitVec.toNat_setWidth, Nat.mod_eq_of_lt (by omega)]
  rw [checkedSplitRegister, shiftRight_eq_ok (by decide), ok_bind, register_eq_ok (by omega)]
  exact congrArg _ (Fin.ext hn)

/-- The offset of a jump is a signed multiple of a power of two. -/
theorem checkedOffset_eq_ok {l k : Nat} (hl : 0 < l) (h16 : l ≤ 16) (hk : l + k ≤ 32) :
    checkedOffset h l (32 - l) (32 - (l + k))
      = .ok ((h.extractLsb' 0 l ++ 0#k).signExtend 32) := by
  rw [checkedOffset, checkedGroup_eq_ok (by decide) (by omega), ok_bind,
    shiftLeft_eq_ok (by omega), ok_bind, signedShiftRight_eq_ok (by omega)]
  refine congrArg _ (BitVec.eq_of_getLsbD_eq fun i hi => ?_)
  simp only [BitVec.getLsbD_sshiftRight, BitVec.getLsbD_shiftLeft, BitVec.getLsbD_setWidth,
    BitVec.getLsbD_signExtend, BitVec.getLsbD_append, BitVec.getLsbD_extractLsb',
    BitVec.msb_eq_getLsbD_last, BitVec.getLsbD_zero]
  -- a bit is below the number, in it, or a copy of its highest one
  have hi' : ¬32 ≤ i := by omega
  rcases Nat.lt_or_ge i k with hlow | hlow
  · have hout : 32 - (l + k) + i < 32 - l := by omega
    simp [show i < l + k by omega, show 32 - (l + k) + i < 32 by omega, hlow, hout]
  rcases Nat.lt_or_ge i (l + k) with hin | hin
  · have hat : 32 - (l + k) + i - (32 - l) = i - k := by omega
    have hout : ¬32 - (l + k) + i < 32 - l := by omega
    rw [if_pos (by omega), if_pos hin, if_neg (by omega), hat]
    simp only [hi, hi', hout, show 32 - (l + k) + i < 32 by omega, show i - k < 32 by omega,
      decide_true, decide_false, Bool.not_false, Bool.true_and, Bool.and_true]
  · have hat : 32 - 1 - (32 - l) = l + k - 1 - k := by omega
    have hout : ¬32 - 1 < 32 - l := by omega
    rw [if_neg (by omega), if_neg (by omega), if_neg (by omega), hat]
    simp only [hi, hi', hout, show 32 - 1 < 32 by omega, show l + k - 1 - k < 32 by omega,
      decide_true, decide_false, Bool.not_false, Bool.true_and, Bool.and_true]

/-! ## The groups -/

/-- Shifts by a fixed distance, and additions and subtractions of three operands. -/
def checkedShiftOrAdd : Checked Operation := do
  let rs ← checkedLow h 3
  let rd ← checkedLow h 0
  let bits ← field h 6 5
  let kind ← checkedGroup h 11 2
  let ro ← checkedLow h 6
  let v ← checkedNumber h 6 3 0
  let immediate ← testBit h 10
  let minus ← testBit h 9
  let distance := bits.toNat
  return match kind with
    | 0b00#2 => .move .mov true rd (.fixed (.shifted rs .lsl distance))
    | 0b01#2 =>
      .move .mov true rd (.fixed (.shifted rs .lsr (if distance = 0 then 32 else distance)))
    | 0b10#2 =>
      .move .mov true rd (.fixed (.shifted rs .asr (if distance = 0 then 32 else distance)))
    | _ =>
      .binary (if minus then .sub else .add) true rd rs
        (if immediate then .immediate v else .plain ro)

/-- Operations with a number of eight bits. -/
def checkedWithByte : Checked Operation := do
  let rd ← checkedLow h 8
  let v ← checkedNumber h 0 8 0
  let kind ← checkedGroup h 11 2
  return match kind with
    | 0b00#2 => .move .mov true rd (.immediate v)
    | 0b01#2 => .test .cmp rd (.immediate v)
    | 0b10#2 => .binary .add true rd rd (.immediate v)
    | _ => .binary .sub true rd rd (.immediate v)

/-- Transfers with a register as the offset. -/
def checkedRegisterOffset : Checked Operation := do
  let ro ← checkedLow h 6
  let base ← checkedLow h 3
  let rd ← checkedLow h 0
  let kind ← field h 9 3
  let mode := offsetFrom base
  let offset : Operand := .plain ro
  return match kind with
    | 0b000#3 => .store .word mode rd offset
    | 0b001#3 => .store .half mode rd offset
    | 0b010#3 => .store .byte mode rd offset
    | 0b011#3 => .load .signedByte mode rd offset
    | 0b100#3 => .load .word mode rd offset
    | 0b101#3 => .load .half mode rd offset
    | 0b110#3 => .load .byte mode rd offset
    | _ => .load .signedHalf mode rd offset

/-- Operations that reach all sixteen registers, and the jump that selects the width. -/
def checkedAnyRegister? : Checked (Option Operation) := do
  let rs ← registerField h 3 0xF#16
  let rd ← checkedSplitRegister h
  let kind ← checkedGroup h 8 2
  let link ← testBit h 7
  return match kind with
    | 0b00#2 => some (.binary .add false rd rd (.plain rs))
    | 0b01#2 => some (.test .cmp rd (.plain rs))
    | 0b10#2 => some (.move .mov false rd (.plain rs))
    | _ => if link then none else some (.branchExchange rs)

/-- Operations of a low register with another. -/
def checkedWithRegister : Checked Operation := do
  let rs ← checkedLow h 3
  let rd ← checkedLow h 0
  let kind ← checkedGroup h 6 4
  let binary (op : BinaryOp) : Operation := .binary op true rd rd (.plain rs)
  let shift (kind : ShiftKind) : Operation := .move .mov true rd (.byRegister rd kind rs)
  return match kind with
    | 0x0#4 => binary .and
    | 0x1#4 => binary .eor
    | 0x2#4 => shift .lsl
    | 0x3#4 => shift .lsr
    | 0x4#4 => shift .asr
    | 0x5#4 => binary .adc
    | 0x6#4 => binary .sbc
    | 0x7#4 => shift .ror
    | 0x8#4 => .test .tst rd (.plain rs)
    | 0x9#4 => .binary .rsb true rd rs (.immediate 0#32)
    | 0xA#4 => .test .cmp rd (.plain rs)
    | 0xB#4 => .test .cmn rd (.plain rs)
    | 0xC#4 => binary .orr
    | 0xD#4 => .multiply true rd rd rs none
    | 0xE#4 => binary .bic
    | _ => .move .mvn true rd (.plain rs)

/-- Operations of registers, loads relative to the program counter, and transfers with a register
as the offset. -/
def checkedRegisters? : Checked (Option Operation) := do
  if ← testBit h 12 then (checkedRegisterOffset h).map some
  else if ← testBit h 11 then
    let rd ← checkedLow h 8
    let offset ← checkedNumber h 0 8 2
    return some (.loadFromPc rd offset)
  else if ← testBit h 10 then checkedAnyRegister? h
  else (checkedWithRegister h).map some

/-- Transfers of words and bytes with a number as the offset. -/
def checkedWordOrByte : Checked Operation := do
  let base ← checkedLow h 3
  let rd ← checkedLow h 0
  let kind ← checkedGroup h 11 2
  let words ← checkedNumber h 6 5 2
  let bytes ← checkedNumber h 6 5 0
  let mode := offsetFrom base
  return match kind with
    | 0b00#2 => .store .word mode rd (.immediate words)
    | 0b01#2 => .load .word mode rd (.immediate words)
    | 0b10#2 => .store .byte mode rd (.immediate bytes)
    | _ => .load .byte mode rd (.immediate bytes)

/-- Transfers of halfwords with a number as the offset, and of words relative to the stack. -/
def checkedHalfOrStack : Checked Operation := do
  let load ← testBit h 11
  if ← testBit h 12 then
    let rd ← checkedLow h 8
    let offset ← checkedNumber h 0 8 2
    return if load then .load .word (offsetFrom .sp) rd (.immediate offset)
      else .store .word (offsetFrom .sp) rd (.immediate offset)
  else
    let base ← checkedLow h 3
    let rd ← checkedLow h 0
    let offset ← checkedNumber h 6 5 1
    return if load then .load .half (offsetFrom base) rd (.immediate offset)
      else .store .half (offsetFrom base) rd (.immediate offset)

/-- Pushes and pops; a push can include the link register and a pop the program counter. -/
def checkedPushOrPop : Checked Operation := do
  let pop ← testBit h 11
  let more ← testBit h 8
  let pc ← shiftLeft 1#16 15
  let link ← shiftLeft 1#16 14
  let list := (h.extractLsb' 0 8).setWidth 16
  return if pop then .loadMultiple (ascending .sp) (if more then list ||| pc else list) false
    else .storeMultiple (descending .sp) (if more then list ||| link else list) false

/-- Moves of the stack pointer, pushes and pops, and addresses relative to the program counter or
the stack. -/
def checkedStack? : Checked (Option Operation) := do
  if ← testBit h 12 then
    let kind ← field h 8 4
    let minus ← testBit h 7
    let offset ← checkedNumber h 0 7 2
    let pushOrPop ← checkedPushOrPop h
    return match kind with
      | 0b0000#4 =>
        some (.binary (if minus then .sub else .add) false .sp .sp (.immediate offset))
      | 0b0100#4 | 0b0101#4 | 0b1100#4 | 0b1101#4 => some pushOrPop
      | _ => none
  else
    let rd ← checkedLow h 8
    let offset ← checkedNumber h 0 8 2
    let fromStack ← testBit h 11
    return if fromStack then some (.binary .add false rd .sp (.immediate offset))
      else some (.addToPc rd offset)

/-- Transfers of register lists. -/
def checkedBlock : Checked Operation := do
  let base ← checkedLow h 8
  let load ← testBit h 11
  let list := (h.extractLsb' 0 8).setWidth 16
  return if load then .loadMultiple (ascending base) list false
    else .storeMultiple (ascending base) list false

/-- Conditional branches and software interrupts. -/
def checkedConditional? : Checked (Option Instruction) := do
  let kind ← field h 8 4
  let offset ← shiftLeft ((h.extractLsb' 0 8).signExtend 32) 1
  return match kind with
    | 0xF#4 => some ⟨.al, .softwareInterrupt ((h.extractLsb' 0 8).setWidth 24)⟩
    | 0xE#4 => none
    | c => some ⟨.ofCode c, .branchNarrow offset⟩

/-- Branches and the two halves of a call. -/
def checkedBranch? : Checked (Option Operation) := do
  let kind ← checkedGroup h 11 2
  let near ← checkedOffset h 11 21 20
  let far ← checkedOffset h 11 21 9
  let low ← checkedNumber h 0 11 1
  return match kind with
    | 0b00#2 => some (.branchNarrow near)
    | 0b01#2 => none
    | 0b10#2 => some (.linkHigh far)
    | _ => some (.linkLow low)

/-- The instruction that a halfword encodes, if it encodes one. -/
def checkedDecode? : Checked (Option Instruction) := do
  let always (o : Operation) : Instruction := ⟨.al, o⟩
  match ← checkedGroup h 13 3 with
  | 0b000#3 => (checkedShiftOrAdd h).map (some ∘ always)
  | 0b001#3 => (checkedWithByte h).map (some ∘ always)
  | 0b010#3 => (checkedRegisters? h).map (Option.map always)
  | 0b011#3 => (checkedWordOrByte h).map (some ∘ always)
  | 0b100#3 => (checkedHalfOrStack h).map (some ∘ always)
  | 0b101#3 => (checkedStack? h).map (Option.map always)
  | 0b110#3 =>
    if ← testBit h 12 then checkedConditional? h else (checkedBlock h).map (some ∘ always)
  | _ => (checkedBranch? h).map (Option.map always)

/-! ## Nothing goes wrong -/

/-- Shifts by a number, and sums with three operands, are told apart by two bits. -/
theorem checkedShiftOrAdd_eq_ok : checkedShiftOrAdd h = .ok (shiftOrAdd h) := by
  simp (disch := decide) only [checkedShiftOrAdd, checkedLow_eq_ok, field_eq_ok,
    checkedGroup_eq_ok, checkedNumber_eq_ok, testBit_eq_ok, ok_bind, pure_eq_ok]
  rfl

theorem checkedWithByte_eq_ok : checkedWithByte h = .ok (withByte h) := by
  simp (disch := decide) only [checkedWithByte, checkedLow_eq_ok, checkedGroup_eq_ok,
    checkedNumber_eq_ok, ok_bind, pure_eq_ok]
  rfl

theorem checkedRegisterOffset_eq_ok : checkedRegisterOffset h = .ok (registerOffset h) := by
  simp (disch := decide) only [checkedRegisterOffset, checkedLow_eq_ok, field_eq_ok, ok_bind,
    pure_eq_ok]
  rfl

/-- Among operations on all registers, one of four is a jump. -/
theorem checkedAnyRegister?_eq_ok : checkedAnyRegister? h = .ok (anyRegister? h) := by
  simp (disch := decide) only [checkedAnyRegister?, registerField_eq_ok (l := 4),
    checkedSplitRegister_eq_ok, checkedGroup_eq_ok, testBit_eq_ok, BitVec.setWidth_eq, ok_bind,
    pure_eq_ok]
  rfl

theorem checkedWithRegister_eq_ok : checkedWithRegister h = .ok (withRegister h) := by
  simp (disch := decide) only [checkedWithRegister, checkedLow_eq_ok, checkedGroup_eq_ok, ok_bind,
    pure_eq_ok]
  rfl

/-- Four bits choose one of sixteen operations on two registers. -/
theorem checkedRegisters?_eq_ok : checkedRegisters? h = .ok (registers? h) := by
  simp (disch := decide) only [checkedRegisters?, testBit_eq_ok, checkedRegisterOffset_eq_ok,
    checkedLow_eq_ok, checkedNumber_eq_ok, checkedAnyRegister?_eq_ok, checkedWithRegister_eq_ok,
    map_ok, ok_bind, pure_eq_ok, ← apply_ite Except.ok]
  rfl

theorem checkedWordOrByte_eq_ok : checkedWordOrByte h = .ok (wordOrByte h) := by
  simp (disch := decide) only [checkedWordOrByte, checkedLow_eq_ok, checkedGroup_eq_ok,
    checkedNumber_eq_ok, ok_bind, pure_eq_ok]
  rfl

theorem checkedHalfOrStack_eq_ok : checkedHalfOrStack h = .ok (halfOrStack h) := by
  simp (disch := decide) only [checkedHalfOrStack, testBit_eq_ok, checkedLow_eq_ok,
    checkedNumber_eq_ok, ok_bind, pure_eq_ok, ← apply_ite Except.ok]
  rfl

theorem checkedPushOrPop_eq_ok : checkedPushOrPop h = .ok (pushOrPop h) := by
  simp (disch := decide) only [checkedPushOrPop, testBit_eq_ok, shiftLeft_eq_ok, ok_bind,
    pure_eq_ok]
  rfl

/-- The stack is moved by a number or by a register list. -/
theorem checkedStack?_eq_ok : checkedStack? h = .ok (stack? h) := by
  simp (disch := decide) only [checkedStack?, testBit_eq_ok, field_eq_ok, checkedLow_eq_ok,
    checkedNumber_eq_ok, checkedPushOrPop_eq_ok, ok_bind, pure_eq_ok, ← apply_ite Except.ok]
  rfl

theorem checkedBlock_eq_ok : checkedBlock h = .ok (block h) := by
  simp (disch := decide) only [checkedBlock, testBit_eq_ok, checkedLow_eq_ok, ok_bind, pure_eq_ok]
  rfl

/-- Fourteen conditions are told from software interrupts and from nothing. -/
theorem checkedConditional?_eq_ok : checkedConditional? h = .ok (conditional? h) := by
  have hoffset : (h.extractLsb' 0 8).signExtend 32 <<< 1
      = (h.extractLsb' 0 8 ++ 0b0#1).signExtend 32 := by
    refine BitVec.eq_of_getLsbD_eq fun i hi => ?_
    simp only [BitVec.getLsbD_shiftLeft, BitVec.getLsbD_signExtend, BitVec.getLsbD_append,
      BitVec.getLsbD_extractLsb', BitVec.msb_eq_getLsbD_last, BitVec.getLsbD_zero]
    grind
  simp (disch := decide) only [checkedConditional?, field_eq_ok, shiftLeft_eq_ok, ok_bind,
    pure_eq_ok, hoffset]
  rfl

/-- A branch, or one half of a long call, has its offset in eleven bits. -/
theorem checkedBranch?_eq_ok : checkedBranch? h = .ok (branch? h) := by
  have hnear := checkedOffset_eq_ok h (l := 11) (k := 1) (by decide) (by decide) (by decide)
  have hfar := checkedOffset_eq_ok h (l := 11) (k := 12) (by decide) (by decide) (by decide)
  simp (disch := decide) only [checkedBranch?, checkedGroup_eq_ok, hnear, hfar,
    checkedNumber_eq_ok, ok_bind, pure_eq_ok]
  rfl

/-- **No halfword makes the decoder go wrong.** -/
theorem checkedDecode?_eq_ok : checkedDecode? h = .ok (decode? h) := by
  simp (disch := decide) only [checkedDecode?, checkedGroup_eq_ok, testBit_eq_ok,
    checkedShiftOrAdd_eq_ok, checkedWithByte_eq_ok, checkedRegisters?_eq_ok,
    checkedWordOrByte_eq_ok, checkedHalfOrStack_eq_ok, checkedStack?_eq_ok,
    checkedConditional?_eq_ok, checkedBlock_eq_ok, checkedBranch?_eq_ok, map_ok, ok_bind,
    ← apply_ite Except.ok]
  unfold decode?
  rcases three_bits_cases (h.extractLsb' 13 3) with hg | hg | hg | hg | hg | hg | hg | hg
  all_goals
    rw [hg]
    rfl

end Handheld.Narrow

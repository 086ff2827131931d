import Handheld.Proofs.Encoding.Spaces

/-!
# Proofs/Encoding/Layout — where the fields of a wide word lie

There is a layout for each space of the list of patterns: the fields of the operations there, each
put into place, and all other bits clear.  A word with such bits has the fields that were put in,
and it fits the pattern of the space.
-/

namespace Handheld

/-! ## Codes -/

/-- The two bits that name a kind of shift. -/
def ShiftKind.code : ShiftKind → BitVec 2
  | lsl => 0b00#2
  | lsr => 0b01#2
  | asr => 0b10#2
  | ror => 0b11#2

/-- The code of a kind of shift tells the kind. -/
@[simp] theorem ShiftKind.ofCode_code (kind : ShiftKind) : ofCode kind.code = kind := by
  cases kind <;> rfl

/-- The four bits that name an operation on two values. -/
def BinaryOp.code : BinaryOp → BitVec 4
  | and => 0x0#4
  | eor => 0x1#4
  | sub => 0x2#4
  | rsb => 0x3#4
  | add => 0x4#4
  | adc => 0x5#4
  | sbc => 0x6#4
  | rsc => 0x7#4
  | orr => 0xC#4
  | bic => 0xE#4

/-- The four bits that name a comparison. -/
def TestOp.code : TestOp → BitVec 4
  | tst => 0x8#4
  | teq => 0x9#4
  | cmp => 0xA#4
  | cmn => 0xB#4

/-- The four bits that name an operation on one value. -/
def MoveOp.code : MoveOp → BitVec 4
  | mov => 0xD#4
  | mvn => 0xF#4

/-! ## Fields -/

/-- What a word encodes, whatever its condition. -/
abbrev Body := BitVec 28

/-- A field of one bit. -/
abbrev flagAt {n : Nat} (start : Nat) (b : Bool) : BitVec n := place start (BitVec.ofBool b)

/-- A field that names a register. -/
abbrev registerAt {n : Nat} (start : Nat) (r : Register) : BitVec n :=
  place start (BitVec.ofFin r : BitVec 4)

/-- Half the distance by which a byte was rotated right to become `value`: the first that does it,
from `least` on. -/
def rotation (least : Nat) (value : Word) : Nat :=
  ((List.range 16).find? fun k =>
    decide (least ≤ k ∧ (value.rotateLeft (2 * k)).toNat < 256)).getD 0

/-- A rotated byte and its distance. -/
def rotationField (least : Nat) (value : Word) : BitVec 12 :=
  place 8 (BitVec.ofNat 4 (rotation least value))
    ||| place 0 ((value.rotateLeft (2 * rotation least value)).extractLsb' 0 8)

/-- A register that is shifted by a number.  The distance 32 becomes zero. -/
def shiftField (n : Register) (kind : ShiftKind) (distance : Nat) : BitVec 12 :=
  place 7 (BitVec.ofNat 5 distance) ||| place 5 kind.code ||| registerAt 0 n

namespace Operand

/-- The operand is no register. -/
def isNumber : Operand → Bool
  | immediate _ | rotated _ => true
  | shifted .. | throughCarry _ => false

/-- The operand as a field. -/
def field : Operand → BitVec 12
  | immediate value => value.extractLsb' 0 12
  | rotated value => rotationField 1 value
  | shifted n kind distance => shiftField n kind distance
  | throughCarry n => shiftField n .ror 0

end Operand

namespace DataOperand

/-- The operand is no register. -/
def isNumber : DataOperand → Bool
  | fixed operand => operand.isNumber
  | byRegister .. => false

/-- The operand as a field. -/
def field : DataOperand → BitVec 12
  | fixed operand => operand.field
  | byRegister n kind distance =>
    registerAt 8 distance ||| place 5 kind.code ||| flagAt 4 true ||| registerAt 0 n

end DataOperand

/-! ## Layouts -/

namespace Layout

/-- A data operation. -/
def data (code : BitVec 4) (setFlags : Bool) (rn rd : Register) (operand : DataOperand) : Body :=
  flagAt 25 operand.isNumber ||| place 21 code ||| flagAt 20 setFlags ||| registerAt 16 rn
    ||| registerAt 12 rd ||| place 0 operand.field

/-- An addressing, in any transfer. -/
def addressing (mode : Addressing) : Body :=
  flagAt 24 mode.early ||| flagAt 23 mode.up ||| flagAt 21 mode.writeBack
    ||| registerAt 16 mode.base

/-- A transfer of a word or an unsigned byte. -/
def single (load byte : Bool) (mode : Addressing) (rd : Register) (offset : Operand) : Body :=
  place 26 0b01#2 ||| flagAt 25 (!offset.isNumber) ||| addressing mode ||| flagAt 22 byte
    ||| flagAt 20 load ||| registerAt 12 rd ||| place 0 offset.field

/-- A transfer of a halfword, or a signed load. -/
def halfword (load : Bool) (code : BitVec 2) (mode : Addressing) (rd : Register)
    (offset : Operand) : Body :=
  addressing mode ||| flagAt 22 offset.isNumber ||| flagAt 20 load ||| registerAt 12 rd
    ||| place 8 (offset.field.extractLsb' 4 4) ||| flagAt 7 true ||| place 5 code
    ||| flagAt 4 true ||| place 0 (offset.field.extractLsb' 0 4)

/-- A transfer of a register list. -/
def block (load user : Bool) (mode : Addressing) (list : Half) : Body :=
  place 25 0b100#3 ||| addressing mode ||| flagAt 22 user ||| flagAt 20 load ||| place 0 list

/-- A jump or a call. -/
def branch (link : Bool) (offset : Word) : Body :=
  place 25 0b101#3 ||| flagAt 24 link ||| place 0 (offset.extractLsb' 2 24)

/-- A product of one word. -/
def multiply (setFlags : Bool) (rd rs rm : Register) (addend : Option Register) : Body :=
  flagAt 21 addend.isSome ||| flagAt 20 setFlags ||| registerAt 16 rd
    ||| registerAt 12 (addend.getD .r0) ||| registerAt 8 rs ||| place 4 0b1001#4 ||| registerAt 0 rm

/-- A product of two words. -/
def multiplyLong (signed accumulate setFlags : Bool) (high low rs rm : Register) : Body :=
  place 23 0b00001#5 ||| flagAt 22 signed ||| flagAt 21 accumulate ||| flagAt 20 setFlags
    ||| registerAt 16 high ||| registerAt 12 low ||| registerAt 8 rs ||| place 4 0b1001#4
    ||| registerAt 0 rm

/-- An exchange with memory. -/
def swap (byte : Bool) (base rd rm : Register) : Body :=
  place 23 0b00010#5 ||| flagAt 22 byte ||| registerAt 16 base ||| registerAt 12 rd
    ||| place 4 0b00001001#8 ||| registerAt 0 rm

/-- A read of a status word. -/
def readStatus (saved : Bool) (rd : Register) : Body :=
  place 23 0b00010#5 ||| flagAt 22 saved ||| place 16 0b001111#6 ||| registerAt 12 rd

/-- A write to a status word; the mask is told by one bit of each byte. -/
def writeStatus (saved : Bool) (mask : Word) (number : Bool) (data : BitVec 12) : Body :=
  flagAt 25 number ||| place 23 0b10#2 ||| flagAt 22 saved ||| place 20 0b10#2
    ||| flagAt 19 (mask.getLsbD 24) ||| flagAt 18 (mask.getLsbD 16)
    ||| flagAt 17 (mask.getLsbD 8) ||| flagAt 16 (mask.getLsbD 0) ||| place 12 0b1111#4
    ||| place 0 data

end Layout

namespace Wide

variable {w : Word} {mode : Addressing} {rd rn rs rm : Register} {setFlags load byte user : Bool}

/-- The four bits of a register tell its number. -/
theorem register_of_field {start : Nat} {r : Register}
    (h : w.extractLsb' start 4 = (BitVec.ofFin r : BitVec 4)) : register w start = r := by
  rw [register, h]

theorem register_of_low {l start : Nat} {v : BitVec l} {r : Register}
    (h : w.extractLsb' 0 l = v) (hstart : start + 4 ≤ l)
    (hv : v.extractLsb' start 4 = BitVec.ofFin r) : register w start = r :=
  register_of_field (part_of_low h hstart hv)

/-! ## Operands are read back -/

/-- The field of a shift by a number tells register, kind and distance. -/
theorem parts_of_shiftField {n : Register} {kind : ShiftKind} {distance : Nat}
    (h : w.extractLsb' 0 12 = shiftField n kind distance) :
    register w 0 = n ∧ ShiftKind.ofCode (w.extractLsb' 5 2) = kind
      ∧ (w.extractLsb' 7 5).toNat = distance % 32 ∧ bit w 4 = false := by
  have hn : register w 0 = n :=
    register_of_low h (by decide) (by simp [shiftField, BitVec.extractLsb'_or])
  have hkind : w.extractLsb' 5 2 = kind.code :=
    part_of_low h (by decide) (by simp [shiftField, BitVec.extractLsb'_or])
  have hdistance : w.extractLsb' 7 5 = BitVec.ofNat 5 distance :=
    part_of_low h (by decide) (by simp [shiftField, BitVec.extractLsb'_or])
  have h4 : bit w 4 = false :=
    bit_of_low h (by decide) (by simp [shiftField, -BitVec.getLsbD_eq_getElem])
  exact ⟨hn, by rw [hkind, ShiftKind.ofCode_code], by rw [hdistance, BitVec.toNat_ofNat], h4⟩

/-- The field of a shift by a register tells both registers and the kind. -/
theorem parts_of_byRegister {n distance : Register} {kind : ShiftKind}
    (h : w.extractLsb' 0 12 = (DataOperand.byRegister n kind distance).field) :
    register w 0 = n ∧ ShiftKind.ofCode (w.extractLsb' 5 2) = kind ∧ register w 8 = distance
      ∧ bit w 4 = true ∧ bit w 7 = false := by
  have hn : register w 0 = n := register_of_low h (by decide)
    (by simp [DataOperand.field, BitVec.extractLsb'_or])
  have hkind : w.extractLsb' 5 2 = kind.code := part_of_low h (by decide)
    (by simp [DataOperand.field, BitVec.extractLsb'_or])
  have hdistance : register w 8 = distance := register_of_low h (by decide)
    (by simp [DataOperand.field, BitVec.extractLsb'_or])
  have h4 : bit w 4 = true := bit_of_low h (by decide)
    (by simp [DataOperand.field, -BitVec.getLsbD_eq_getElem])
  have h7 : bit w 7 = false := bit_of_low h (by decide)
    (by simp [DataOperand.field, -BitVec.getLsbD_eq_getElem])
  exact ⟨hn, by rw [hkind, ShiftKind.ofCode_code], hdistance, h4, h7⟩

/-! ## Layouts are read back -/

/-- Four fields tell the way of addressing. -/
theorem addressing_of_low {body : Body} (h : w.extractLsb' 0 28 = body)
    (h24 : body.getLsbD 24 = mode.early) (h23 : body.getLsbD 23 = mode.up)
    (h21 : body.getLsbD 21 = mode.writeBack)
    (h16 : body.extractLsb' 16 4 = BitVec.ofFin mode.base) : addressing w = mode := by
  have hearly : bit w 24 = mode.early := bit_of_low h (by decide) h24
  have hup : bit w 23 = mode.up := bit_of_low h (by decide) h23
  have hwriteBack : bit w 21 = mode.writeBack := bit_of_low h (by decide) h21
  have hbase : register w 16 = mode.base := register_of_low h (by decide) h16
  rw [addressing, hearly, hup, hwriteBack, hbase]

/-- The bits of a data operation, one field after the other. -/
theorem parts_of_data {code : BitVec 4} {o : DataOperand}
    (h : w.extractLsb' 0 28 = Layout.data code setFlags rn rd o) :
    w.extractLsb' 26 2 = 0b00#2 ∧ bit w 25 = o.isNumber ∧ w.extractLsb' 21 4 = code
      ∧ bit w 20 = setFlags ∧ register w 16 = rn ∧ register w 12 = rd
      ∧ w.extractLsb' 0 12 = o.field := by
  refine ⟨part_of_low h (by decide) ?_, bit_of_low h (by decide) ?_, part_of_low h (by decide) ?_,
    bit_of_low h (by decide) ?_, register_of_low h (by decide) ?_, register_of_low h (by decide) ?_,
    part_of_low h (by decide) ?_⟩
  all_goals simp [Layout.data, BitVec.extractLsb'_or, -BitVec.getLsbD_eq_getElem]

/-- The bits of a transfer of a word or byte. -/
theorem parts_of_single {offset : Operand}
    (h : w.extractLsb' 0 28 = Layout.single load byte mode rd offset) :
    w.extractLsb' 26 2 = 0b01#2 ∧ bit w 25 = !offset.isNumber ∧ addressing w = mode
      ∧ bit w 22 = byte ∧ bit w 20 = load ∧ register w 12 = rd
      ∧ w.extractLsb' 0 12 = offset.field := by
  refine ⟨part_of_low h (by decide) ?_, bit_of_low h (by decide) ?_,
    addressing_of_low h ?_ ?_ ?_ ?_, bit_of_low h (by decide) ?_, bit_of_low h (by decide) ?_,
    register_of_low h (by decide) ?_, part_of_low h (by decide) ?_⟩
  all_goals
    simp [Layout.single, Layout.addressing, BitVec.extractLsb'_or, -BitVec.getLsbD_eq_getElem]

/-- The bits of a transfer of a halfword or signed value. -/
theorem parts_of_halfword {code : BitVec 2} {offset : Operand}
    (h : w.extractLsb' 0 28 = Layout.halfword load code mode rd offset) :
    w.extractLsb' 25 3 = 0b000#3 ∧ addressing w = mode ∧ bit w 22 = offset.isNumber
      ∧ bit w 20 = load ∧ register w 12 = rd ∧ w.extractLsb' 8 4 = offset.field.extractLsb' 4 4
      ∧ bit w 7 = true ∧ w.extractLsb' 5 2 = code ∧ bit w 4 = true
      ∧ w.extractLsb' 0 4 = offset.field.extractLsb' 0 4 := by
  refine ⟨part_of_low h (by decide) ?_, addressing_of_low h ?_ ?_ ?_ ?_,
    bit_of_low h (by decide) ?_, bit_of_low h (by decide) ?_, register_of_low h (by decide) ?_,
    part_of_low h (by decide) ?_, bit_of_low h (by decide) ?_, part_of_low h (by decide) ?_,
    bit_of_low h (by decide) ?_, part_of_low h (by decide) ?_⟩
  all_goals
    simp [Layout.halfword, Layout.addressing, BitVec.extractLsb'_or, -BitVec.getLsbD_eq_getElem]

/-- The bits of a transfer of a register list. -/
theorem parts_of_block {list : Half}
    (h : w.extractLsb' 0 28 = Layout.block load user mode list) :
    w.extractLsb' 26 2 = 0b10#2 ∧ bit w 25 = false ∧ addressing w = mode ∧ bit w 22 = user
      ∧ bit w 20 = load ∧ w.extractLsb' 0 16 = list := by
  refine ⟨part_of_low h (by decide) ?_, bit_of_low h (by decide) ?_,
    addressing_of_low h ?_ ?_ ?_ ?_, bit_of_low h (by decide) ?_, bit_of_low h (by decide) ?_,
    part_of_low h (by decide) ?_⟩
  all_goals
    simp [Layout.block, Layout.addressing, BitVec.extractLsb'_or, -BitVec.getLsbD_eq_getElem]

/-- The bits of a branch. -/
theorem parts_of_branch {link : Bool} {offset : Word}
    (h : w.extractLsb' 0 28 = Layout.branch link offset) :
    w.extractLsb' 26 2 = 0b10#2 ∧ bit w 25 = true ∧ bit w 24 = link
      ∧ w.extractLsb' 0 24 = offset.extractLsb' 2 24 := by
  refine ⟨part_of_low h (by decide) ?_, bit_of_low h (by decide) ?_, bit_of_low h (by decide) ?_,
    part_of_low h (by decide) ?_⟩
  all_goals simp [Layout.branch, BitVec.extractLsb'_or, -BitVec.getLsbD_eq_getElem]

/-- The bits of a product. -/
theorem parts_of_multiply {addend : Option Register}
    (h : w.extractLsb' 0 28 = Layout.multiply setFlags rd rs rm addend) :
    IsMultiply w ∧ w.extractLsb' 26 2 = 0b00#2 ∧ bit w 21 = addend.isSome ∧ bit w 20 = setFlags
      ∧ register w 16 = rd ∧ register w 12 = addend.getD .r0 ∧ register w 8 = rs
      ∧ register w 0 = rm := by
  refine ⟨⟨part_of_low h (by decide) ?_, part_of_low h (by decide) ?_⟩,
    part_of_low h (by decide) ?_, bit_of_low h (by decide) ?_, bit_of_low h (by decide) ?_,
    register_of_low h (by decide) ?_, register_of_low h (by decide) ?_,
    register_of_low h (by decide) ?_, register_of_low h (by decide) ?_⟩
  all_goals simp [Layout.multiply, BitVec.extractLsb'_or, -BitVec.getLsbD_eq_getElem]

theorem parts_of_multiplyLong {signed accumulate : Bool} {high low : Register}
    (h : w.extractLsb' 0 28 =
      Layout.multiplyLong signed accumulate setFlags high low rs rm) :
    IsMultiplyLong w ∧ w.extractLsb' 26 2 = 0b00#2 ∧ bit w 22 = signed ∧ bit w 21 = accumulate
      ∧ bit w 20 = setFlags ∧ register w 16 = high ∧ register w 12 = low ∧ register w 8 = rs
      ∧ register w 0 = rm := by
  refine ⟨⟨part_of_low h (by decide) ?_, part_of_low h (by decide) ?_⟩,
    part_of_low h (by decide) ?_, bit_of_low h (by decide) ?_, bit_of_low h (by decide) ?_,
    bit_of_low h (by decide) ?_, register_of_low h (by decide) ?_, register_of_low h (by decide) ?_,
    register_of_low h (by decide) ?_, register_of_low h (by decide) ?_⟩
  all_goals simp [Layout.multiplyLong, BitVec.extractLsb'_or, -BitVec.getLsbD_eq_getElem]

/-- The bits of a swap. -/
theorem parts_of_swap {base : Register}
    (h : w.extractLsb' 0 28 = Layout.swap byte base rd rm) :
    IsSwap w ∧ w.extractLsb' 26 2 = 0b00#2 ∧ bit w 22 = byte ∧ register w 16 = base
      ∧ register w 12 = rd ∧ register w 0 = rm := by
  refine ⟨⟨part_of_low h (by decide) ?_, part_of_low h (by decide) ?_,
    part_of_low h (by decide) ?_⟩, part_of_low h (by decide) ?_, bit_of_low h (by decide) ?_,
    register_of_low h (by decide) ?_, register_of_low h (by decide) ?_,
    register_of_low h (by decide) ?_⟩
  all_goals simp [Layout.swap, BitVec.extractLsb'_or, -BitVec.getLsbD_eq_getElem]

theorem parts_of_readStatus {saved : Bool}
    (h : w.extractLsb' 0 28 = Layout.readStatus saved rd) :
    IsReadStatus w ∧ w.extractLsb' 26 2 = 0b00#2 ∧ bit w 4 = false ∧ bit w 22 = saved
      ∧ register w 12 = rd := by
  refine ⟨⟨part_of_low h (by decide) ?_, part_of_low h (by decide) ?_,
    part_of_low h (by decide) ?_⟩, part_of_low h (by decide) ?_, bit_of_low h (by decide) ?_,
    bit_of_low h (by decide) ?_, register_of_low h (by decide) ?_⟩
  all_goals simp [Layout.readStatus, BitVec.extractLsb'_or, -BitVec.getLsbD_eq_getElem]

/-- The bits of a written status. -/
theorem parts_of_writeStatus {saved number : Bool} {mask : Word} {data : BitVec 12}
    (h : w.extractLsb' 0 28 = Layout.writeStatus saved mask number data) :
    IsWriteStatus w ∧ bit w 25 = number ∧ bit w 22 = saved
      ∧ bit w 19 = mask.getLsbD 24 ∧ bit w 18 = mask.getLsbD 16 ∧ bit w 17 = mask.getLsbD 8
      ∧ bit w 16 = mask.getLsbD 0 ∧ w.extractLsb' 0 12 = data := by
  refine ⟨⟨part_of_low h (by decide) ?_, part_of_low h (by decide) ?_, part_of_low h (by decide) ?_,
    part_of_low h (by decide) ?_⟩, bit_of_low h (by decide) ?_, bit_of_low h (by decide) ?_,
    bit_of_low h (by decide) ?_, bit_of_low h (by decide) ?_, bit_of_low h (by decide) ?_,
    bit_of_low h (by decide) ?_, part_of_low h (by decide) ?_⟩
  all_goals simp [Layout.writeStatus, BitVec.extractLsb'_or, -BitVec.getLsbD_eq_getElem]

end Wide

end Handheld

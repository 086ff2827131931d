import Handheld.Device.Cartridge
import Handheld.Device.Keypad
import Handheld.Device.Sound
import Handheld.Device.Video
import Handheld.Interrupt.Controller
import Handheld.Proofs.Checked.Memory

/-!
# Proofs/Checked/Device — the devices with every operation checked

A device shifts a one to the place of a source or a key, tests single bits, and looks its registers
up by address.  All of it goes well in every state, whatever a program has written; only the line
counter must be below its limit for the next line to fit (`checkedAdvanceLine_eq_ok`).
-/

namespace Handheld

open Checked

/-! ## Sources of interrupts -/

/-- The set that holds one source, by a shift to its place. -/
def Source.checkedBit (k : Source) : Checked SourceSet := do
  let bit ← shiftLeft 1#16 k.index
  return SourceSet.ofHalf bit

/-- The number of a source is less than the number of bits. -/
@[simp] theorem Source.checkedBit_eq_ok (k : Source) : k.checkedBit = .ok k.bit := by
  cases k <;> rfl

/-- The set of a source if it is raised, and the empty set otherwise. -/
def Source.checkedRaise (k : Source) (raised : Bool) : Checked SourceSet :=
  if raised then k.checkedBit else return 0#14

/-- A source is raised by setting its bit. -/
@[simp] theorem Source.checkedRaise_eq_ok (k : Source) (raised : Bool) :
    k.checkedRaise raised = .ok (if raised then k.bit else 0#14) := by
  cases raised
  · rfl
  · exact k.checkedBit_eq_ok

namespace SourceSet

/-- A set holds all sources of another. -/
def contains (s t : SourceSet) : Bool := s &&& t == t

/-- A source is among some exactly if they have its bit. -/
@[simp] theorem contains_bit (s : SourceSet) (k : Source) : contains s k.bit = has s k := by
  have hk : k.bit ≠ 0#14 := by cases k <;> decide
  rw [contains, has, Source.bit, BitVec.and_twoPow]
  cases s.getLsbD k.index
  · exact beq_false_of_ne hk.symm
  · exact beq_self_eq_true _

end SourceSet

/-! ## The interrupt controller -/

namespace Controller

variable (c : Controller)

/-- Flags a source; an enabled one ends a halt. -/
def checkedRequest (k : Source) : Checked Controller := do
  let bit ← k.checkedBit
  return { c with
    flagged := c.flagged ||| bit
    halted := c.halted && !SourceSet.contains c.enabled bit }

/-- Takes the waiting source that is served first. -/
def checkedAcknowledge : Checked (Option Source × Controller) :=
  match if c.master then SourceSet.first? c.ready else none with
  | some k => do
    let bit ← k.checkedBit
    return (some k,
      { c with flagged := c.flagged &&& ~~~bit, halted := false, servicing := some k })
  | none => return (none, c)

/-- The service that goes on after the flags of a set are cleared. -/
def checkedServicing (s : SourceSet) : Checked (Option Source) :=
  match c.servicing with
  | some k => do
    let bit ← k.checkedBit
    return if SourceSet.contains s bit then none else some k
  | none => return none

/-- Clears the flags of a set and ends the service of a source in it. -/
def checkedClearFlags (s : SourceSet) : Checked Controller := do
  let servicing ← c.checkedServicing s
  return { c with flagged := c.flagged &&& ~~~s, servicing }

/-- Writes the bits that `mask` selects of the register at an address. -/
def checkedWrite (a : Word) (value mask : Half) : Checked Controller :=
  if a = flagsAddress then c.checkedClearFlags (SourceSet.ofHalf (value &&& mask))
  else if a = postFlagAddress then do
    let awake ← testBit value 15
    let c :=
      if mask.low = 0#8 then c
      else { c with postFlag := (BitVec.ofBool (value.getLsbD 0)).setWidth 8 }
    return if mask.high = 0#8 || awake then c else c.halt
  else return c.write a value mask

@[simp] theorem checkedRequest_eq_ok (k : Source) : c.checkedRequest k = .ok (c.request k) := by
  simp only [checkedRequest, Source.checkedBit_eq_ok, ok_bind, SourceSet.contains_bit, pure_eq_ok]
  rfl

/-- Serving the first of the pending sources finds its bit. -/
@[simp] theorem checkedAcknowledge_eq_ok : c.checkedAcknowledge = .ok c.acknowledge := by
  unfold checkedAcknowledge acknowledge
  cases if c.master then SourceSet.first? c.ready else none with
  | some k => simp only [Source.checkedBit_eq_ok, ok_bind, pure_eq_ok, SourceSet.erase]
  | none => rfl

/-- What is served ends if its bit is acknowledged. -/
@[simp] theorem checkedServicing_eq_ok (s : SourceSet) :
    c.checkedServicing s = .ok (c.servicing.filter fun k => !SourceSet.has s k) := by
  unfold checkedServicing
  cases c.servicing with
  | some k =>
    simp only [Source.checkedBit_eq_ok, ok_bind, SourceSet.contains_bit, pure_eq_ok,
      Option.filter_some]
    cases SourceSet.has s k <;> rfl
  | none => rfl

@[simp] theorem checkedClearFlags_eq_ok (s : SourceSet) :
    c.checkedClearFlags s = .ok (c.clearFlags s) := by
  rw [checkedClearFlags, checkedServicing_eq_ok, ok_bind, pure_eq_ok]
  rfl

/-- Every register of the controller can be written, in every lane. -/
@[simp] theorem checkedWrite_eq_ok (a : Word) (value mask : Half) :
    c.checkedWrite a value mask = .ok (c.write a value mask) := by
  unfold checkedWrite
  by_cases hf : a = flagsAddress
  · subst hf
    rw [if_pos rfl, checkedClearFlags_eq_ok]
    rfl
  · by_cases hp : a = postFlagAddress
    · subst hp
      rw [if_neg hf, if_pos rfl, testBit_eq_ok (by decide), ok_bind, pure_eq_ok]
      rfl
    · rw [if_neg hf, if_neg hp, pure_eq_ok]

end Controller

/-! ## The video unit -/

namespace Video

variable (v : Video)

/-- Reads the status register. -/
def checkedStatus : Checked Half := get v.registers.cells 2

/-- Replaces the status register. -/
def checkedSetStatus (s : Half) : Checked Video := do
  let cells ← set v.registers.cells 2 s
  return { v with registers := ⟨cells⟩ }

/-- Reads the register at an address. -/
def checkedRead (a : Word) : Checked Half :=
  if a = lineAddress then return v.line else v.registers.checkedRead (a < 0x60#32) a

/-- Writes the bits that `mask` selects of the register at an address. -/
def checkedWrite (a : Word) (value mask : Half) : Checked Video :=
  if a = lineAddress then return v
  else if a = statusAddress then do
    let old ← v.checkedStatus
    v.checkedSetStatus (Half.merge old value (mask &&& ~~~statusBits))
  else do
    let registers ← v.registers.checkedWrite (a < 0x60#32) a value mask
    return { v with registers }

/-- Moves on to the next line, and tells which interrupts this raises. -/
def checkedAdvanceLine : Checked (Video × SourceSet) := do
  let next ← add v.line 1
  let line := next % totalLines
  let status ← v.checkedStatus
  let settings := status &&& ~~~statusBits
  let last ← sub totalLines 1
  let asked ← shiftRight settings 8
  let below : Bool := visibleLines ≤ line && line < last
  let reached : Bool := line = asked
  let v ← v.checkedSetStatus
    (settings ||| (if below then 1#16 else 0#16) ||| (if reached then 4#16 else 0#16))
  let onBelow ← testBit settings 3
  let onLine ← testBit settings 4
  let onReached ← testBit settings 5
  let vBlank ← Source.vBlank.checkedRaise (line = visibleLines && onBelow)
  let hBlank ← Source.hBlank.checkedRaise onLine
  let vCount ← Source.vCount.checkedRaise (reached && onReached)
  return ({ v with line }, vBlank ||| hBlank ||| vCount)

/-- Where an address of the picture's region lies in the picture memory. -/
def checkedVramOffset (a : Word) : Checked Word :=
  let o := a &&& 0x1FFFF#32
  if 0x18000#32 ≤ o then sub o 0x8000#32 else return o

/-- The addresses below the end of the registers are those that the block holds. -/
theorem own_iff (a : Word) : decide (a < 0x60#32) = true ↔ RegisterBlock.Holds 0#32 48 a := by
  rw [decide_eq_true_iff, RegisterBlock.Holds, BitVec.lt_def, BitVec.le_def, BitVec.sub_zero,
    show (0x60#32).toNat = 96 from rfl, show (0#32).toNat = 0 from rfl]
  omega

@[simp] theorem checkedStatus_eq_ok : v.checkedStatus = .ok v.status := get_eq_ok (by decide)

@[simp] theorem checkedSetStatus_eq_ok (s : Half) :
    v.checkedSetStatus s = .ok (v.setStatus s) := by
  rw [checkedSetStatus, set_eq_ok (by decide), ok_bind, pure_eq_ok]
  rfl

/-- Every register of the picture is found. -/
@[simp] theorem checkedRead_eq_ok (a : Word) : v.checkedRead a = .ok (v.read a) := by
  unfold checkedRead read
  split
  · rfl
  · exact v.registers.checkedRead_eq_ok (own_iff a)

/-- Every register of the picture can be written, in every lane. -/
@[simp] theorem checkedWrite_eq_ok (a : Word) (value mask : Half) :
    v.checkedWrite a value mask = .ok (v.write a value mask) := by
  unfold checkedWrite write
  split
  · rfl
  · split
    · rw [checkedStatus_eq_ok, ok_bind, checkedSetStatus_eq_ok]
    · rw [v.registers.checkedWrite_eq_ok (own_iff a), ok_bind, pure_eq_ok]

/-- **The next line fits** while the line counter is below its limit. -/
theorem checkedAdvanceLine_eq_ok (h : v.line < totalLines) :
    v.checkedAdvanceLine = .ok v.advanceLine := by
  have hl : v.line.toNat < 228 := BitVec.lt_def.mp h
  have hnext : add v.line 1 = .ok (v.line + 1) := add_eq_ok (by
    rw [show (1 : Half).toNat = 1 from rfl]
    omega)
  have hlast : sub totalLines 1 = .ok (totalLines - 1) := sub_eq_ok (by decide)
  simp (disch := decide) only [checkedAdvanceLine, hnext, hlast, checkedStatus_eq_ok,
    checkedSetStatus_eq_ok, ok_bind, shiftRight_eq_ok, testBit_eq_ok, Source.checkedRaise_eq_ok,
    pure_eq_ok]
  rfl

example : checkedAdvanceLine { initial with line := 0xFFFF#16 } = .error .overflow := rfl

/-- Folding the picture memory takes off no more than there is. -/
@[simp] theorem checkedVramOffset_eq_ok (a : Word) :
    checkedVramOffset a = .ok (vramOffset a) := by
  unfold checkedVramOffset vramOffset
  dsimp only
  split
  · next h =>
    have hle := BitVec.le_def.mp h
    exact sub_eq_ok (Nat.le_trans (by decide) hle)
  · rfl

end Video

/-! ## The other devices -/

namespace Sound

/-- Reads the register at an address. -/
def checkedRead (s : Sound) (a : Word) : Checked Half :=
  s.registers.checkedRead (0x60#32 ≤ a && a < 0xB0#32) a

/-- Writes the bits that `mask` selects of the register at an address. -/
def checkedWrite (s : Sound) (a : Word) (value mask : Half) : Checked Sound :=
  (s.registers.checkedWrite (0x60#32 ≤ a && a < 0xB0#32) a value mask).map mk

/-- The addresses of the sound unit are those that its block holds. -/
theorem own_iff (a : Word) : (decide (0x60#32 ≤ a) && decide (a < 0xB0#32)) = true
    ↔ RegisterBlock.Holds 0x60#32 40 a := by
  rw [Bool.and_eq_true, decide_eq_true_iff, decide_eq_true_iff, RegisterBlock.Holds]
  refine and_congr_right fun h => ?_
  rw [BitVec.toNat_sub_of_le h, BitVec.lt_def, show (0xB0#32).toNat = 176 from rfl]
  have := BitVec.le_def.mp h
  rw [show (0x60#32).toNat = 96 from rfl] at this ⊢
  omega

/-- Every register of the sound is found. -/
@[simp] theorem checkedRead_eq_ok (s : Sound) (a : Word) : s.checkedRead a = .ok (s.read a) :=
  s.registers.checkedRead_eq_ok (own_iff a)

@[simp] theorem checkedWrite_eq_ok (s : Sound) (a : Word) (value mask : Half) :
    s.checkedWrite a value mask = .ok (s.write a value mask) := by
  rw [checkedWrite, s.registers.checkedWrite_eq_ok (own_iff a)]
  rfl

end Sound

namespace Keypad

/-- The bit of a key, by a shift to its place. -/
def checkedMask (k : Key) : Checked (BitVec 10) := do
  let bit ← shiftLeft 1#16 k.index
  return bit.setWidth 10

/-- Sets which keys are released, and tells which interrupts this raises. -/
def checkedSetReleased (p : Keypad) (released : BitVec 10) : Checked (Keypad × SourceSet) :=
  if released = p.released then return (p, 0#14)
  else do
    let raised ← Source.keypad.checkedBit
    return ({ p with released }, raised)

/-- Presses a key. -/
def checkedPress (p : Keypad) (k : Key) : Checked (Keypad × SourceSet) := do
  let mask ← checkedMask k
  p.checkedSetReleased (p.released &&& ~~~mask)

/-- Releases a key. -/
def checkedRelease (p : Keypad) (k : Key) : Checked (Keypad × SourceSet) := do
  let mask ← checkedMask k
  p.checkedSetReleased (p.released ||| mask)

/-- The number of a key is less than the number of bits. -/
@[simp] theorem checkedMask_eq_ok (k : Key) : checkedMask k = .ok (BitVec.twoPow 10 k.index) := by
  cases k <;> rfl

@[simp] theorem checkedSetReleased_eq_ok (p : Keypad) (released : BitVec 10) :
    p.checkedSetReleased released = .ok (p.setReleased released) := by
  unfold checkedSetReleased setReleased
  split
  · rfl
  · rw [Source.checkedBit_eq_ok, ok_bind, pure_eq_ok]

/-- Pressing a key clears its bit, and raises an interrupt if that changes it. -/
@[simp] theorem checkedPress_eq_ok (p : Keypad) (k : Key) :
    p.checkedPress k = .ok (p.press k) := by
  rw [checkedPress, checkedMask_eq_ok, ok_bind, checkedSetReleased_eq_ok]
  rfl

/-- Releasing a key sets its bit, and raises an interrupt if that changes it. -/
@[simp] theorem checkedRelease_eq_ok (p : Keypad) (k : Key) :
    p.checkedRelease k = .ok (p.release k) := by
  rw [checkedRelease, checkedMask_eq_ok, ok_bind, checkedSetReleased_eq_ok]
  rfl

end Keypad

namespace Cartridge

/-- Writes a byte of the save memory, and tells which interrupts this raises. -/
def checkedWriteSave (c : Cartridge) (a : Word) (v : Byte) : Checked (Cartridge × SourceSet) :=
  if saveOffset a < c.save.size then do
    let raised ← Source.gamePak.checkedBit
    return ((c.writeSave a v).1, raised)
  else return (c, 0#14)

/-- A byte within the save memory is written, and one outside it is not. -/
@[simp] theorem checkedWriteSave_eq_ok (c : Cartridge) (a : Word) (v : Byte) :
    c.checkedWriteSave a v = .ok (c.writeSave a v) := by
  unfold checkedWriteSave writeSave
  by_cases h : saveOffset a < c.save.size
  · rw [if_pos h, dif_pos h, Source.checkedBit_eq_ok, ok_bind, pure_eq_ok]
  · rw [if_neg h, dif_neg h, pure_eq_ok]

end Cartridge

end Handheld

import Handheld.Proofs.Bus.Actions
import Handheld.Proofs.Checked.Device

/-!
# Proofs/Checked/Bus — every access to the bus with every operation checked

The bus subtracts the start of the register region from an address, counts on from aligned
addresses, and shifts the bytes of the cartridge to their places.  No address, width or value makes
any of this go wrong, in any state of the memories and devices.  Among the actions of a host only
the next line asks for more than nothing: the line counter must be below its limit.
-/

namespace Handheld

open Checked

namespace Word

/-- Bytes shifted to their places are put together by a disjunction. -/
theorem or_shifted_bytes (b₀ b₁ b₂ b₃ : Byte) :
    b₀.setWidth 32 ||| b₁.setWidth 32 <<< 8 ||| b₂.setWidth 32 <<< 16 ||| b₃.setWidth 32 <<< 24
      = ofBytes b₀ b₁ b₂ b₃ := by
  apply BitVec.eq_of_getLsbD_eq
  intro i hi
  simp only [ofBytes, BitVec.getLsbD_or, BitVec.getLsbD_shiftLeft, BitVec.getLsbD_setWidth,
    BitVec.getLsbD_append, hi]
  grind

/-- A byte is shifted down and cut off. -/
theorem setWidth_shiftRight (v : Word) (i : Nat) : (v >>> (8 * i)).setWidth 8 = v.byte i := by
  apply BitVec.eq_of_getLsbD_eq
  intro j hj
  simp [byte, hj]

theorem byte_zero_ofByte (v : Byte) : byte (v.setWidth 32) 0 = v := by
  apply BitVec.eq_of_getLsbD_eq
  intro i hi
  simp [byte, hi, show i < 32 by omega]

theorem byte_zero_ofHalf (v : Half) : byte (v.setWidth 32) 0 = v.low := by
  apply BitVec.eq_of_getLsbD_eq
  intro i hi
  simp [byte, Half.low, hi, show i < 32 by omega]

theorem byte_one_ofHalf (v : Half) : byte (v.setWidth 32) 1 = v.high := by
  apply BitVec.eq_of_getLsbD_eq
  intro i hi
  simp [byte, Half.high, hi, show 8 + i < 32 by omega]

end Word

namespace Half

/-- Two bytes shifted to their places make a halfword. -/
theorem setWidth_or_shifted_bytes (b₀ b₁ : Byte) :
    (b₀.setWidth 32 ||| b₁.setWidth 32 <<< 8).setWidth 16 = ofBytes b₀ b₁ := by
  apply BitVec.eq_of_getLsbD_eq
  intro i hi
  simp only [ofBytes, BitVec.getLsbD_or, BitVec.getLsbD_shiftLeft, BitVec.getLsbD_setWidth,
    BitVec.getLsbD_append, hi]
  grind

end Half

namespace Bus

variable (b : Bus)

/-! ## Device registers -/

/-- Reads the register around an offset. -/
def checkedReadRegister (offset : Word) : Checked Half :=
  let o := offset.alignHalf
  match owner? o with
  | some .video => b.video.checkedRead o
  | some .sound => b.sound.checkedRead o
  | some .dma => b.dma.checkedReadHeld o
  | some .timers => b.timers.checkedReadHeld o
  | some .serial => b.serial.checkedReadHeld o
  | some .keypad => return b.keypad.read o
  | some .interrupts => return b.interrupts.read o
  | some .cartridge => return b.cartridge.read o
  | none => return 0#16

/-- Writes the bits that `mask` selects of the register around an offset. -/
def checkedWriteRegister (offset : Word) (value mask : Half) : Checked Bus :=
  let o := offset.alignHalf
  match owner? o with
  | some .video => (b.video.checkedWrite o value mask).map fun video => { b with video }
  | some .sound => (b.sound.checkedWrite o value mask).map fun sound => { b with sound }
  | some .dma => (b.dma.checkedWriteHeld o value mask).map fun dma => { b with dma }
  | some .timers => (b.timers.checkedWriteHeld o value mask).map fun timers => { b with timers }
  | some .serial => (b.serial.checkedWriteHeld o value mask).map fun serial => { b with serial }
  | some .keypad => return { b with keypad := b.keypad.write o value mask }
  | some .interrupts =>
    (b.interrupts.checkedWrite o value mask).map fun interrupts => { b with interrupts }
  | some .cartridge => return { b with cartridge := b.cartridge.write o value mask }
  | none => return b

/-- Reads one byte of the register around an offset. -/
def checkedReadRegisterByte (offset : Word) : Checked Byte := do
  let h ← b.checkedReadRegister offset
  return if offset.getLsbD 0 then h.high else h.low

/-- Writes one byte of the register around an offset. -/
def checkedWriteRegisterByte (offset : Word) (v : Byte) : Checked Bus :=
  if offset.getLsbD 0 then b.checkedWriteRegister offset (Half.ofBytes 0#8 v) 0xFF00#16
  else b.checkedWriteRegister offset (Half.ofBytes v 0#8) 0x00FF#16

/-- Every device is asked for a register that it has. -/
@[simp] theorem checkedReadRegister_eq_ok (o : Word) :
    b.checkedReadRegister o = .ok (b.readRegister o) := by
  unfold checkedReadRegister readRegister
  dsimp only
  cases owner? o.alignHalf with
  | none => rfl
  | some device => cases device <;> simp

/-- Every device is asked to write a register that it has. -/
@[simp] theorem checkedWriteRegister_eq_ok (o : Word) (value mask : Half) :
    b.checkedWriteRegister o value mask = .ok (b.writeRegister o value mask) := by
  unfold checkedWriteRegister writeRegister
  dsimp only
  cases owner? o.alignHalf with
  | none => rfl
  | some device => cases device <;> simp

@[simp] theorem checkedReadRegisterByte_eq_ok (o : Word) :
    b.checkedReadRegisterByte o = .ok (b.readRegisterByte o) := by
  rw [checkedReadRegisterByte, checkedReadRegister_eq_ok, ok_bind, pure_eq_ok]
  rfl

/-- A byte is one lane of the register around it. -/
@[simp] theorem checkedWriteRegisterByte_eq_ok (o : Word) (v : Byte) :
    b.checkedWriteRegisterByte o v = .ok (b.writeRegisterByte o v) := by
  unfold checkedWriteRegisterByte writeRegisterByte
  split
  all_goals exact b.checkedWriteRegister_eq_ok o _ _

/-! ## Offsets -/

/-- The offset of an address in the region of the device registers. -/
def checkedRegisterOffset (a : Word) : Checked Word := sub a 0x04000000#32

/-- Where a wide access of `count` bytes starts. -/
def checkedStart (a count : Word) : Checked Word := do
  let mask ← sub count 1#32
  return a &&& ~~~mask

/-- An address among the registers is not below their start. -/
theorem checkedRegisterOffset_eq_ok {a : Word} (h : Region.of? a = some .registers) :
    checkedRegisterOffset a = .ok (Region.registerOffset a) := by
  have h₃ : a.byte 3 = 0x04#8 := by
    revert h
    unfold Region.of?
    generalize a.byte 3 = top
    split
    all_goals first | exact fun _ => rfl | (intro h; split at h <;> cases h) | (intro h; cases h)
  have hn := Word.toNat_byte_three a
  rw [h₃, show (0x04#8).toNat = 4 from rfl] at hn
  refine sub_eq_ok ?_
  rw [show (0x04000000#32).toNat = 0x04000000 from rfl]
  omega

/-! ## The cartridge -/

/-- A place in a wide access, counted from its start. -/
def checkedPlace (start : Word) (i : Nat) : Checked Word := add start (BitVec.ofNat 32 i)

/-- How far the byte at a place is shifted. -/
def checkedDistance (i : Nat) : Checked Nat := do
  let distance ← mul (BitVec.ofNat 32 i) 8#32
  return distance.toNat

/-- Reads `count` bytes around an address, the lowest one first. -/
def checkedAssemble (read : Word → Byte) (a : Word) (count : Nat) : Checked Word := do
  let start ← checkedStart a (BitVec.ofNat 32 count)
  (List.range count).foldlM (fun v i => do
    let place ← checkedPlace start i
    let distance ← checkedDistance i
    let part ← shiftLeft ((read place).setWidth 32) distance
    return v ||| part) 0#32

/-- Writes a byte of the save memory. -/
def checkedStoreSave (a : Word) (v : Byte) : Checked Bus := do
  let (cartridge, raised) ← b.cartridge.checkedWriteSave a v
  return { b with cartridge, queue := b.queue ||| raised }

/-- Writes the `count` low bytes of a word around an address, the lowest one first. -/
def checkedSplit (a v : Word) (count : Nat) : Checked Bus := do
  let start ← checkedStart a (BitVec.ofNat 32 count)
  (List.range count).foldlM (fun b i => do
    let place ← checkedPlace start i
    let distance ← checkedDistance i
    let part ← shiftRight v distance
    b.checkedStoreSave place (part.setWidth 8)) b

/-- Every byte of the cartridge's save memory can be stored. -/
@[simp] theorem checkedStoreSave_eq_ok (a : Word) (v : Byte) :
    b.checkedStoreSave a v = .ok (b.storeSave a v) := by
  rw [checkedStoreSave, Cartridge.checkedWriteSave_eq_ok, ok_bind]
  rfl

/-- The distance of one of four bytes is counted without overflow. -/
theorem checkedDistance_eq_ok {i : Nat} (h : i < 4) : checkedDistance i = .ok (8 * i) := by
  have hcases : i = 0 ∨ i = 1 ∨ i = 2 ∨ i = 3 := by omega
  rcases hcases with rfl | rfl | rfl | rfl <;> rfl

/-- Counting on within an aligned word does not pass the last address. -/
theorem checkedPlace_eq_ok {a : Word} {i : Nat} (h : a.toNat % 4 + i < 4) :
    checkedPlace a i = .ok (a + BitVec.ofNat 32 i) := by
  have ha := a.isLt
  have hi : (BitVec.ofNat 32 i).toNat = i := Nat.mod_eq_of_lt (by omega)
  refine add_eq_ok ?_
  omega

/-- Masking two aligns to a halfword. -/
theorem checkedStart_two (a : Word) : checkedStart a (BitVec.ofNat 32 2) = .ok a.alignHalf := rfl

/-- Masking four aligns to a word. -/
theorem checkedStart_four (a : Word) : checkedStart a (BitVec.ofNat 32 4) = .ok a.alignWord := rfl

/-- Masking one leaves an address as it is. -/
theorem checkedStart_one (a : Word) : checkedStart a (BitVec.ofNat 32 1) = .ok a := by
  rw [checkedStart, sub_eq_ok (by decide), ok_bind, pure_eq_ok]
  exact congrArg _ BitVec.and_allOnes

/-- The bytes of a wide access that does not leave an aligned word, at their places. -/
theorem checkedAssemble_eq_ok (read : Word → Byte) {a start : Word} {count : Nat}
    (hs : checkedStart a (BitVec.ofNat 32 count) = .ok start) (h : start.toNat % 4 + count ≤ 4) :
    checkedAssemble read a count = .ok ((List.range count).foldl (fun v i =>
      v ||| (read (start + BitVec.ofNat 32 i)).setWidth 32 <<< (8 * i)) 0#32) := by
  rw [checkedAssemble, hs, ok_bind]
  refine foldlM_eq_ok (fun i hi v => ?_) _
  have hlt := List.mem_range.mp hi
  rw [checkedPlace_eq_ok (by omega), ok_bind, checkedDistance_eq_ok (by omega), ok_bind,
    shiftLeft_eq_ok (by omega), ok_bind, pure_eq_ok]

/-- A value split into bytes stores them from the aligned address up. -/
theorem checkedSplit_eq_ok {a start : Word} {count : Nat}
    (hs : checkedStart a (BitVec.ofNat 32 count) = .ok start) (h : start.toNat % 4 + count ≤ 4)
    (v : Word) : b.checkedSplit a v count = .ok ((List.range count).foldl (fun b i =>
      b.storeSave (start + BitVec.ofNat 32 i) (v.byte i)) b) := by
  rw [checkedSplit, hs, ok_bind]
  refine foldlM_eq_ok (fun i hi b => ?_) _
  have hlt := List.mem_range.mp hi
  rw [checkedPlace_eq_ok (by omega), ok_bind, checkedDistance_eq_ok (by omega), ok_bind,
    shiftRight_eq_ok (by omega), ok_bind, checkedStoreSave_eq_ok, Word.setWidth_shiftRight]

/-- Two bytes of the cartridge make the halfword around an address. -/
theorem checkedAssemble_two (read : Word → Byte) (a : Word) :
    (checkedAssemble read a 2).map (·.setWidth 16)
      = .ok (Half.ofBytes (read a.alignHalf) (read (a.alignHalf + 1))) := by
  rw [checkedAssemble_eq_ok read (checkedStart_two a) (Ram.alignHalf_add_lt a (j := 1) (by decide)),
    ← Half.setWidth_or_shifted_bytes]
  simp [List.range_succ]

/-- Four bytes of the cartridge make the word around an address. -/
theorem checkedAssemble_four (read : Word → Byte) (a : Word) :
    checkedAssemble read a 4 = .ok (Word.ofBytes (read a.alignWord) (read (a.alignWord + 1))
      (read (a.alignWord + 2)) (read (a.alignWord + 3))) := by
  have hlt := Ram.alignWord_add_lt a (j := 3) (by decide)
  rw [checkedAssemble_eq_ok read (checkedStart_four a) hlt, ← Word.or_shifted_bytes]
  simp [List.range_succ]

/-- A split byte is one byte of the save memory. -/
theorem checkedSplit_one (a : Word) (v : Byte) :
    b.checkedSplit a (v.setWidth 32) 1 = .ok (b.storeSave a v) := by
  rw [checkedSplit_eq_ok b (checkedStart_one a) (by omega)]
  simp [List.range_succ, Word.byte_zero_ofByte]

/-- A split halfword is two bytes of the save memory. -/
theorem checkedSplit_two (a : Word) (v : Half) :
    b.checkedSplit a (v.setWidth 32) 2
      = .ok ((b.storeSave a.alignHalf v.low).storeSave (a.alignHalf + 1) v.high) := by
  rw [checkedSplit_eq_ok b (checkedStart_two a) (Ram.alignHalf_add_lt a (j := 1) (by decide))]
  simp [List.range_succ, Word.byte_zero_ofHalf, Word.byte_one_ofHalf]

/-- A split word is four bytes of the save memory. -/
theorem checkedSplit_four (a v : Word) :
    b.checkedSplit a v 4
      = .ok ((((b.storeSave a.alignWord (v.byte 0)).storeSave
          (a.alignWord + 1) (v.byte 1)).storeSave
          (a.alignWord + 2) (v.byte 2)).storeSave (a.alignWord + 3) (v.byte 3)) := by
  rw [checkedSplit_eq_ok b (checkedStart_four a) (Ram.alignWord_add_lt a (j := 3) (by decide))]
  simp [List.range_succ]

/-! ## Loads -/

/-- Loads a byte. -/
def checkedLoadByte (a : Word) : Checked Byte :=
  match Region.of? a with
  | some .bios => b.bios.checkedLoadByte a
  | some .ewram => b.ewram.checkedLoadByte a
  | some .iwram => b.iwram.checkedLoadByte a
  | some .registers => do
    let o ← checkedRegisterOffset a
    b.checkedReadRegisterByte o
  | some .palette => b.video.palette.checkedLoadByte a
  | some .vram => do
    let o ← Video.checkedVramOffset a
    b.video.vram.checkedLoadByte o
  | some .oam => b.video.oam.checkedLoadByte a
  | some .rom => return b.cartridge.readRom a
  | some .save => return b.cartridge.readSave a
  | none => return 0#8

/-- Loads the halfword around an address. -/
def checkedLoadHalf (a : Word) : Checked Half :=
  match Region.of? a with
  | some .bios => b.bios.checkedLoadHalf a
  | some .ewram => b.ewram.checkedLoadHalf a
  | some .iwram => b.iwram.checkedLoadHalf a
  | some .registers => do
    let o ← checkedRegisterOffset a
    b.checkedReadRegister o
  | some .palette => b.video.palette.checkedLoadHalf a
  | some .vram => do
    let o ← Video.checkedVramOffset a
    b.video.vram.checkedLoadHalf o
  | some .oam => b.video.oam.checkedLoadHalf a
  | some .rom => (checkedAssemble b.cartridge.readRom a 2).map (·.setWidth 16)
  | some .save => (checkedAssemble b.cartridge.readSave a 2).map (·.setWidth 16)
  | none => return 0#16

/-- Loads the word around an address. -/
def checkedLoadWord (a : Word) : Checked Word :=
  match Region.of? a with
  | some .bios => b.bios.checkedLoadWord a
  | some .ewram => b.ewram.checkedLoadWord a
  | some .iwram => b.iwram.checkedLoadWord a
  | some .registers => do
    let o ← checkedRegisterOffset a
    let low ← b.checkedReadRegister o.alignWord
    let next ← add o.alignWord 2#32
    let high ← b.checkedReadRegister next
    return Word.ofHalves low high
  | some .palette => b.video.palette.checkedLoadWord a
  | some .vram => do
    let o ← Video.checkedVramOffset a
    b.video.vram.checkedLoadWord o
  | some .oam => b.video.oam.checkedLoadWord a
  | some .rom => checkedAssemble b.cartridge.readRom a 4
  | some .save => checkedAssemble b.cartridge.readSave a 4
  | none => return 0#32

/-- Loads a value of any width, extended with zeros. -/
def checkedLoad (w : Width) (a : Word) : Checked Word :=
  match w with
  | .byte => (b.checkedLoadByte a).map (·.setWidth 32)
  | .half => (b.checkedLoadHalf a).map (·.setWidth 32)
  | .word => b.checkedLoadWord a

/-- The second half of a word is within the addresses. -/
theorem add_two_alignWord (a : Word) : add a.alignWord 2#32 = .ok (a.alignWord + 2#32) := by
  refine add_eq_ok ?_
  rw [Word.toNat_alignWord, show (2#32).toNat = 2 from rfl]
  have := a.isLt
  omega

/-- **A byte is loaded wherever its address leads.** -/
@[simp] theorem checkedLoadByte_eq_ok (a : Word) : b.checkedLoadByte a = .ok (b.loadByte a) := by
  unfold checkedLoadByte loadByte
  cases h : Region.of? a with
  | none => rfl
  | some region => cases region <;> simp [checkedRegisterOffset_eq_ok, h]

/-- **A halfword is loaded in its own width in every region**, and is the one that its bytes make
there. -/
@[simp] theorem checkedLoadHalf_eq_ok (a : Word) : b.checkedLoadHalf a = .ok (b.loadHalf a) := by
  unfold checkedLoadHalf loadHalf
  cases h : Region.of? a with
  | none => rfl
  | some region => cases region <;> simp [checkedRegisterOffset_eq_ok, checkedAssemble_two, h]

/-- **A word is loaded in its own width in every region**, and is the one that its bytes make
there. -/
@[simp] theorem checkedLoadWord_eq_ok (a : Word) : b.checkedLoadWord a = .ok (b.loadWord a) := by
  unfold checkedLoadWord loadWord
  cases h : Region.of? a with
  | none => rfl
  | some region =>
    cases region <;>
      simp [checkedRegisterOffset_eq_ok, checkedAssemble_four, add_two_alignWord, h]

/-- A load of any width goes well. -/
@[simp] theorem checkedLoad_eq_ok (w : Width) (a : Word) :
    b.checkedLoad w a = .ok (Memory.load b w a).1 := by
  cases w with
  | byte => rw [checkedLoad, checkedLoadByte_eq_ok]; rfl
  | half => rw [checkedLoad, checkedLoadHalf_eq_ok]; rfl
  | word => exact b.checkedLoadWord_eq_ok a

/-! ## Stores -/

/-- Stores a byte. -/
def checkedStoreByte (a : Word) (v : Byte) : Checked Bus :=
  match Region.of? a with
  | some .ewram => (b.ewram.checkedStoreByte a v).map fun r => b.mapEwram fun _ => r
  | some .iwram => (b.iwram.checkedStoreByte a v).map fun r => b.mapIwram fun _ => r
  | some .registers => do
    let o ← checkedRegisterOffset a
    b.checkedWriteRegisterByte o v
  | some .palette => (b.video.palette.checkedStoreByte a v).map fun r => b.mapPalette fun _ => r
  | some .vram => do
    let o ← Video.checkedVramOffset a
    (b.video.vram.checkedStoreByte o v).map fun r => b.mapVram fun _ => r
  | some .oam => (b.video.oam.checkedStoreByte a v).map fun r => b.mapOam fun _ => r
  | some .save => b.checkedSplit a (v.setWidth 32) 1
  | some .bios | some .rom | none => return b

/-- Stores the halfword around an address. -/
def checkedStoreHalf (a : Word) (v : Half) : Checked Bus :=
  match Region.of? a with
  | some .ewram => (b.ewram.checkedStoreHalf a v).map fun r => b.mapEwram fun _ => r
  | some .iwram => (b.iwram.checkedStoreHalf a v).map fun r => b.mapIwram fun _ => r
  | some .registers => do
    let o ← checkedRegisterOffset a
    b.checkedWriteRegister o v 0xFFFF#16
  | some .palette => (b.video.palette.checkedStoreHalf a v).map fun r => b.mapPalette fun _ => r
  | some .vram => do
    let o ← Video.checkedVramOffset a
    (b.video.vram.checkedStoreHalf o v).map fun r => b.mapVram fun _ => r
  | some .oam => (b.video.oam.checkedStoreHalf a v).map fun r => b.mapOam fun _ => r
  | some .save => b.checkedSplit a (v.setWidth 32) 2
  | some .bios | some .rom | none => return b

/-- Stores the word around an address. -/
def checkedStoreWord (a v : Word) : Checked Bus :=
  match Region.of? a with
  | some .ewram => (b.ewram.checkedStoreWord a v).map fun r => b.mapEwram fun _ => r
  | some .iwram => (b.iwram.checkedStoreWord a v).map fun r => b.mapIwram fun _ => r
  | some .registers => do
    let o ← checkedRegisterOffset a
    let b ← b.checkedWriteRegister o.alignWord v.lowHalf 0xFFFF#16
    let next ← add o.alignWord 2#32
    b.checkedWriteRegister next v.highHalf 0xFFFF#16
  | some .palette => (b.video.palette.checkedStoreWord a v).map fun r => b.mapPalette fun _ => r
  | some .vram => do
    let o ← Video.checkedVramOffset a
    (b.video.vram.checkedStoreWord o v).map fun r => b.mapVram fun _ => r
  | some .oam => (b.video.oam.checkedStoreWord a v).map fun r => b.mapOam fun _ => r
  | some .save => b.checkedSplit a v 4
  | some .bios | some .rom | none => return b

/-- **A byte is stored wherever its address leads.** -/
@[simp] theorem checkedStoreByte_eq_ok (a : Word) (v : Byte) :
    b.checkedStoreByte a v = .ok (b.storeByte a v) := by
  unfold checkedStoreByte storeByte
  cases h : Region.of? a with
  | none => rfl
  | some region =>
    cases region <;> simp [checkedRegisterOffset_eq_ok, checkedSplit_one, h] <;> rfl

/-- **A halfword is stored in its own width in every region**, and leaves what its bytes leave
there. -/
@[simp] theorem checkedStoreHalf_eq_ok (a : Word) (v : Half) :
    b.checkedStoreHalf a v = .ok (b.storeHalf a v) := by
  unfold checkedStoreHalf storeHalf
  cases h : Region.of? a with
  | none => rfl
  | some region =>
    cases region <;> simp [checkedRegisterOffset_eq_ok, checkedSplit_two, h] <;> rfl

/-- **A word is stored in its own width in every region**, and leaves what its bytes leave there. -/
@[simp] theorem checkedStoreWord_eq_ok (a v : Word) :
    b.checkedStoreWord a v = .ok (b.storeWord a v) := by
  unfold checkedStoreWord storeWord
  cases h : Region.of? a with
  | none => rfl
  | some region =>
    cases region <;>
      simp [checkedRegisterOffset_eq_ok, checkedSplit_four, add_two_alignWord, h] <;> rfl

/-! ## Interrupts and devices -/

/-- Queues an interrupt. -/
def checkedRaise (k : Source) : Checked Bus := do
  let bit ← k.checkedBit
  return { b with queue := b.queue ||| bit }

/-- Requests the queued interrupts from the controller, the first-served first. -/
def checkedDeliver : Checked Bus := do
  let interrupts ← Source.all.foldlM (fun c k => do
    let bit ← k.checkedBit
    if SourceSet.contains b.queue bit then c.checkedRequest k else return c) b.interrupts
  return { b with interrupts, queue := 0#14 }

/-- Carries an action out. -/
def checkedPerform : Action → Checked Bus
  | .raise k => b.checkedRaise k
  | .press k => do
    let (keypad, raised) ← b.keypad.checkedPress k
    return { b with keypad, queue := b.queue ||| raised }
  | .release k => do
    let (keypad, raised) ← b.keypad.checkedRelease k
    return { b with keypad, queue := b.queue ||| raised }
  | .advanceLine => do
    let (video, raised) ← b.video.checkedAdvanceLine
    return { b with video, queue := b.queue ||| raised }
  | .request k => (b.interrupts.checkedRequest k).map fun c => b.mapInterrupts fun _ => c
  | .deliver => b.checkedDeliver
  | .storeByte a v => b.checkedStoreByte a v
  | .storeHalf a v => b.checkedStoreHalf a v
  | .storeWord a v => b.checkedStoreWord a v

/-- The bit of a source is one of the queue's. -/
@[simp] theorem checkedRaise_eq_ok (k : Source) : b.checkedRaise k = .ok (b.raise k) := by
  rw [checkedRaise, Source.checkedBit_eq_ok, ok_bind, pure_eq_ok]
  rfl

/-- Delivering asks the controller for the queued sources one after the other. -/
@[simp] theorem checkedDeliver_eq_ok : b.checkedDeliver = .ok b.deliver := by
  have hstep : ∀ k ∈ Source.all, ∀ c : Controller, (do
      let bit ← k.checkedBit
      if SourceSet.contains b.queue bit then c.checkedRequest k else return c)
        = .ok (if SourceSet.has b.queue k then c.request k else c) := by
    intro k _ c
    rw [Source.checkedBit_eq_ok, ok_bind, SourceSet.contains_bit, Controller.checkedRequest_eq_ok,
      pure_eq_ok]
    split <;> rfl
  rw [checkedDeliver, foldlM_eq_ok hstep, ok_bind, pure_eq_ok, deliver, List.foldl_filter]

/-- **Every action on the bus goes well** while the line counter is below its limit. -/
theorem checkedPerform_eq_ok (h : b.video.line < Video.totalLines) (x : Action) :
    b.checkedPerform x = .ok (b.perform x) := by
  cases x with
  | raise k => exact b.checkedRaise_eq_ok k
  | press k => rw [checkedPerform, Keypad.checkedPress_eq_ok]; rfl
  | release k => rw [checkedPerform, Keypad.checkedRelease_eq_ok]; rfl
  | advanceLine => rw [checkedPerform, Video.checkedAdvanceLine_eq_ok _ h]; rfl
  | request k => rw [checkedPerform, Controller.checkedRequest_eq_ok]; rfl
  | deliver => exact b.checkedDeliver_eq_ok
  | storeByte a v => exact b.checkedStoreByte_eq_ok a v
  | storeHalf a v => exact b.checkedStoreHalf_eq_ok a v
  | storeWord a v => exact b.checkedStoreWord_eq_ok a v

end Bus

end Handheld

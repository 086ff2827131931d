import Mathlib.Logic.Function.Basic
import Handheld.Proofs.Bus.Bytes

/-!
# Proofs/Bus/Cells — memories that repeat, as one table of bytes

A program writes six memories, and each repeats over its region in its own way.  `cell?` says which
byte of which memory an address leads to, `content` what that byte holds, and `frame` is everything
on the bus but these bytes.  A stored byte replaces the content of its cell and of no other
(`content_storeByte`), and outside the device registers it leaves the frame alone, but for the mark
and the request of the save memory (`frame_storeByte`).
-/

namespace Handheld

/-! ## Bytes of one memory -/

namespace Ram

variable {k : Nat} (r : Ram k)

/-- The byte at an offset; past the end there is none. -/
def byteAt (i : Nat) : Byte := r.cells.toArray.getD i 0#8

theorem byteAt_of_lt {i : Nat} (h : i < size k) : r.byteAt i = r.cells.get ⟨i, h⟩ := by
  rw [byteAt, Array.getD_eq_getD_getElem?, Array.getElem?_eq_getElem (by simpa using h)]
  rfl

/-- A byte is loaded from its place, modulo the size. -/
theorem loadByte_eq_byteAt (a : Word) : r.loadByte a = r.byteAt (a.toNat % size k) :=
  (r.byteAt_of_lt (Nat.mod_lt _ (size_pos k))).symm

/-- A stored byte is at its place and nowhere else. -/
theorem byteAt_storeByte (a : Word) (v : Byte) (i : Nat) :
    (r.storeByte a v).byteAt i = if a.toNat % size k = i then v else r.byteAt i := by
  by_cases h : i < size k
  · rw [byteAt_of_lt _ h, byteAt_of_lt _ h]
    exact Vector.getElem_set (offset k a).isLt h
  · have hne : a.toNat % size k ≠ i := fun he => h (he ▸ Nat.mod_lt _ (size_pos k))
    rw [if_neg hne]
    simp [byteAt, h]

/-- A memory is its bytes. -/
theorem ext_byteAt {r r' : Ram k} (h : ∀ i, r.byteAt i = r'.byteAt i) : r = r' := by
  have hc : r.cells = r'.cells := Vector.ext fun i hi =>
    (r.byteAt_of_lt hi).symm.trans ((h i).trans (r'.byteAt_of_lt hi))
  exact congrArg Ram.mk hc

end Ram

namespace Bus

/-! ## Cells -/

/-- A memory that a program can write. -/
inductive Block where
  /-- The large working memory. -/
  | ewram
  /-- The fast working memory. -/
  | iwram
  /-- The colours. -/
  | palette
  /-- The picture memory. -/
  | vram
  /-- The objects. -/
  | oam
  /-- The save memory. -/
  | save
  deriving DecidableEq

/-- A byte of such a memory. -/
structure Cell where
  /-- The memory. -/
  block : Block
  /-- Where the byte lies in it. -/
  offset : Nat
  deriving DecidableEq

namespace Cell

/-- Where a number of an address leads in the picture memory: of the 128 KiB that repeat, the last
quarter is the quarter before it. -/
def vramPlace (n : Nat) : Nat :=
  let o := n % 0x20000
  if 0x18000 ≤ o then o - 0x8000 else o

/-- The place in the picture memory is the folded one. -/
theorem toNat_vramOffset_mod (a : Word) :
    (Video.vramOffset a).toNat % Ram.size 17 = vramPlace a.toNat := by
  rw [Video.toNat_vramOffset, vramPlace, show Ram.size 17 = 0x20000 from rfl]
  split
  all_goals omega

/-- The cell of an address beside a save memory of `saveSize` bytes, if it has one. -/
def at? (saveSize : Nat) (a : Word) : Option Cell :=
  match a.byte 3 with
  | 0x02#8 => some ⟨.ewram, a.toNat % 0x40000⟩
  | 0x03#8 => some ⟨.iwram, a.toNat % 0x8000⟩
  | 0x05#8 => some ⟨.palette, a.toNat % 0x400⟩
  | 0x06#8 => some ⟨.vram, vramPlace a.toNat⟩
  | 0x07#8 => some ⟨.oam, a.toNat % 0x400⟩
  | 0x0E#8 | 0x0F#8 =>
    if a.toNat % 0x10000 < saveSize then some ⟨.save, a.toNat % 0x10000⟩ else none
  | _ => none

end Cell

variable (b : Bus)

/-- The cell of an address, if it has one. -/
def cell? (a : Word) : Option Cell := Cell.at? b.cartridge.save.size a

/-- What a cell holds. -/
def content (c : Cell) : Byte :=
  match c.block with
  | .ewram => b.ewram.byteAt c.offset
  | .iwram => b.iwram.byteAt c.offset
  | .palette => b.video.palette.byteAt c.offset
  | .vram => b.video.vram.byteAt c.offset
  | .oam => b.video.oam.byteAt c.offset
  | .save => b.cartridge.save.getD c.offset 0#8

/-- The cell of an address in a region. -/
def regionCell? (a : Word) : Region → Option Cell
  | .ewram => some ⟨.ewram, a.toNat % 0x40000⟩
  | .iwram => some ⟨.iwram, a.toNat % 0x8000⟩
  | .palette => some ⟨.palette, a.toNat % 0x400⟩
  | .vram => some ⟨.vram, Cell.vramPlace a.toNat⟩
  | .oam => some ⟨.oam, a.toNat % 0x400⟩
  | .save =>
    if Cartridge.saveOffset a < b.cartridge.save.size then some ⟨.save, Cartridge.saveOffset a⟩
    else none
  | .bios | .registers | .rom => none

/-- The cell of an address is that of its region. -/
theorem cell?_eq (a : Word) : b.cell? a = (Region.of? a).bind (b.regionCell? a) := by
  unfold cell? Cell.at? Region.of?
  generalize a.byte 3 = top
  split
  case h_8 =>
    -- The other top bytes lead nowhere, to the start-up code, to the registers or to the program.
    split
    · split
      all_goals rfl
    all_goals first | rfl | contradiction
  all_goals rfl

/-! ## Loads -/

/-- An address with a cell loads its content. -/
theorem loadByte_of_cell? {a : Word} {c : Cell} (h : b.cell? a = some c) :
    b.loadByte a = b.content c := by
  rw [cell?_eq] at h
  unfold loadByte
  obtain ⟨region, hr, hc⟩ := Option.bind_eq_some_iff.mp h
  rw [hr]
  cases region with
  | bios => cases hc
  | registers => cases hc
  | rom => cases hc
  | save =>
    obtain ⟨hs, hc⟩ := Option.ite_none_right_eq_some.mp hc
    cases hc
    change b.cartridge.save.getD _ _ = b.cartridge.save.getD _ _
    rw [Array.getD_eq_getD_getElem?, Array.getD_eq_getD_getElem?, Array.getElem?_eq_getElem hs]
    rfl
  | vram =>
    cases hc
    exact (b.video.vram.loadByte_eq_byteAt _).trans
      (congrArg b.video.vram.byteAt (Cell.toNat_vramOffset_mod a))
  | ewram => cases hc; exact b.ewram.loadByte_eq_byteAt a
  | iwram => cases hc; exact b.iwram.loadByte_eq_byteAt a
  | palette => cases hc; exact b.video.palette.loadByte_eq_byteAt a
  | oam => cases hc; exact b.video.oam.loadByte_eq_byteAt a

/-! ## Stores of a byte -/

/-- The six memories are the same. -/
structure SameMemories (b b' : Bus) : Prop where
  ewram : b.ewram = b'.ewram
  iwram : b.iwram = b'.iwram
  palette : b.video.palette = b'.video.palette
  vram : b.video.vram = b'.video.vram
  oam : b.video.oam = b'.video.oam
  save : b.cartridge.save = b'.cartridge.save

/-- Buses with the same memories have the same cells. -/
theorem SameMemories.content_eq {b b' : Bus} (h : b.SameMemories b') : b.content = b'.content := by
  funext c
  simp only [content, h.ewram, h.iwram, h.palette, h.vram, h.oam, h.save]

/-- A device register is no part of a memory. -/
theorem sameMemories_writeRegister (o : Word) (v mask : Half) :
    (b.writeRegister o v mask).SameMemories b := by
  unfold writeRegister
  dsimp only
  split
  case h_1 =>
    unfold Video.write
    split
    · constructor <;> rfl
    · split
      all_goals constructor <;> rfl
  case h_8 =>
    unfold Cartridge.write
    split
    · constructor <;> rfl
    · split
      all_goals constructor <;> rfl
  all_goals constructor <;> rfl

/-- A device register is no cell. -/
theorem sameMemories_writeRegisterByte (o : Word) (v : Byte) :
    (b.writeRegisterByte o v).SameMemories b := by
  unfold writeRegisterByte
  split
  · exact b.sameMemories_writeRegister _ _ _
  · exact b.sameMemories_writeRegister _ _ _

/-- A memory that changed in one byte. -/
theorem content_eq_update {b b' : Bus} {k : Block} {o : Nat} {v : Byte}
    (other : ∀ c, c.block ≠ k → b'.content c = b.content c)
    (byte : ∀ i, b'.content ⟨k, i⟩ = if o = i then v else b.content ⟨k, i⟩) :
    b'.content = Function.update b.content ⟨k, o⟩ v := by
  funext c
  rw [Function.update_apply]
  by_cases hk : c.block = k
  · obtain ⟨_, i⟩ := c
    obtain rfl : _ = k := hk
    rw [byte]
    simp [eq_comm]
  · rw [if_neg fun hc => hk (congrArg Cell.block hc), other c hk]

/-- A byte of the save memory has a cell if the memory reaches that far. -/
theorem content_storeSave (a : Word) (v : Byte) :
    (b.storeSave a v).content = if Cartridge.saveOffset a < b.cartridge.save.size then
      Function.update b.content ⟨.save, Cartridge.saveOffset a⟩ v else b.content := by
  unfold storeSave Cartridge.writeSave
  by_cases h : Cartridge.saveOffset a < b.cartridge.save.size
  · rw [dif_pos h, if_pos h]
    refine content_eq_update (fun c hc => ?_) fun i => ?_
    · obtain ⟨k, i⟩ := c
      cases k
      all_goals trivial
    · change (b.cartridge.save.set _ v h).getD i 0#8 = _
      rw [Array.getD_eq_getD_getElem?, Array.getElem?_set]
      split
      · rfl
      · exact (Array.getD_eq_getD_getElem? ..).symm
  · rw [dif_neg h, if_neg h]
    rfl

/-- **A stored byte replaces the content of the cell of its address**, if that has one. -/
theorem content_storeByte (a : Word) (v : Byte) :
    (b.storeByte a v).content
      = (b.cell? a).elim b.content fun c => Function.update b.content c v := by
  rw [cell?_eq]
  unfold storeByte
  cases Region.of? a with
  | none => rfl
  | some region =>
    cases region with
    | bios => rfl
    | rom => rfl
    | registers => exact (b.sameMemories_writeRegisterByte _ v).content_eq
    | save =>
      refine (b.content_storeSave a v).trans ?_
      rw [Option.bind_some, regionCell?]
      split
      all_goals rfl
    | vram =>
      refine content_eq_update (fun c hc => ?_) fun i => ?_
      · obtain ⟨k, i⟩ := c
        cases k
        all_goals trivial
      · rw [← Cell.toNat_vramOffset_mod]
        exact b.video.vram.byteAt_storeByte _ v i
    | ewram | iwram | palette | oam =>
      refine content_eq_update (fun c hc => ?_) fun i => Ram.byteAt_storeByte _ a v i
      obtain ⟨k, i⟩ := c
      cases k
      all_goals trivial

/-! ## Everything but the cells -/

/-- What the bus holds besides its cells. -/
structure Frame where
  /-- The start-up code. -/
  bios : Ram 14
  /-- The registers of the video unit. -/
  videoRegisters : RegisterBlock 0#32 48
  /-- The current line. -/
  line : Half
  /-- The sound unit. -/
  sound : Sound
  /-- The registers of the transfer channels. -/
  dma : RegisterBlock 0xB0#32 40
  /-- The registers of the timers. -/
  timers : RegisterBlock 0x100#32 8
  /-- The registers of the serial link. -/
  serial : RegisterBlock 0x120#32 112
  /-- The keys. -/
  keypad : Keypad
  /-- The interrupt controller. -/
  interrupts : Controller
  /-- The program. -/
  rom : Array Byte
  /-- The number of bytes of the save memory. -/
  saveSize : Nat
  /-- The register of access times. -/
  waitControl : Half
  /-- The register that marks changes. -/
  changed : Half
  /-- The interrupts that were raised and not yet delivered. -/
  queue : SourceSet

namespace Frame

/-- The frame after a change of the save memory, which marks it and raises the cartridge's
interrupt. -/
def saveChanged (f : Frame) : Frame :=
  { f with changed := f.changed ||| 1#16, queue := f.queue ||| Source.gamePak.bit }

/-- A mark that is set stays as it is. -/
@[simp] theorem saveChanged_saveChanged (f : Frame) :
    f.saveChanged.saveChanged = f.saveChanged := by
  simp [saveChanged, BitVec.or_assoc]

end Frame

/-- Everything but the cells. -/
def frame (b : Bus) : Frame where
  bios := b.bios
  videoRegisters := b.video.registers
  line := b.video.line
  sound := b.sound
  dma := b.dma
  timers := b.timers
  serial := b.serial
  keypad := b.keypad
  interrupts := b.interrupts
  rom := b.cartridge.rom
  saveSize := b.cartridge.save.size
  waitControl := b.cartridge.waitControl
  changed := b.cartridge.changed
  queue := b.queue

/-- Frame and cells make up the bus. -/
theorem ext_frame_content {b b' : Bus} (hf : b.frame = b'.frame) (hc : b.content = b'.content) :
    b = b' := by
  have hb (k : Block) (i : Nat) : b.content ⟨k, i⟩ = b'.content ⟨k, i⟩ := congrFun hc ⟨k, i⟩
  have he := Ram.ext_byteAt (hb .ewram)
  have hi := Ram.ext_byteAt (hb .iwram)
  have hp := Ram.ext_byteAt (hb .palette)
  have hv := Ram.ext_byteAt (hb .vram)
  have ho := Ram.ext_byteAt (hb .oam)
  have hs : b.cartridge.save = b'.cartridge.save := by
    refine Array.ext (congrArg Frame.saveSize hf) fun i h h' => ?_
    have := hb .save i
    simpa [content, h, h'] using this
  obtain ⟨_, _, _, ⟨_, _, _, _, _⟩, _, _, _, _, _, _, ⟨_, _, _, _⟩, _⟩ := b
  obtain ⟨_, _, _, ⟨_, _, _, _, _⟩, _, _, _, _, _, _, ⟨_, _, _, _⟩, _⟩ := b'
  cases he
  cases hi
  cases hp
  cases hv
  cases ho
  cases hs
  cases hf
  rfl

/-- What a byte stored outside the device registers does to the frame. -/
def Frame.afterByte (f : Frame) (c? : Option Cell) : Frame :=
  if c?.any (·.block = .save) then f.saveChanged else f

/-- A byte of the save memory marks the memory as changed, if it has a cell. -/
theorem frame_storeSave {a : Word} (h : Region.of? a = some .save) (v : Byte) :
    (b.storeSave a v).frame = b.frame.afterByte (b.cell? a) := by
  rw [cell?_eq, h, Option.bind_some, regionCell?]
  unfold storeSave Cartridge.writeSave
  by_cases hs : Cartridge.saveOffset a < b.cartridge.save.size
  · rw [dif_pos hs, if_pos hs]
    simp [frame, Frame.afterByte, Frame.saveChanged]
  · rw [dif_neg hs, if_neg hs]
    simp [frame, Frame.afterByte]

/-- **Outside the device registers a stored byte leaves the frame alone**, but for the mark and the
request of the save memory. -/
theorem frame_storeByte {a : Word} (h : Region.of? a ≠ some .registers) (v : Byte) :
    (b.storeByte a v).frame = b.frame.afterByte (b.cell? a) := by
  cases hr : Region.of? a with
  | none =>
    rw [cell?_eq, storeByte, hr]
    rfl
  | some region =>
    cases region with
    | registers => exact absurd hr h
    | save =>
      rw [← frame_storeSave b hr v, storeByte, hr]
    | _ =>
      rw [cell?_eq, storeByte, hr]
      rfl

/-- The cells stay where they are. -/
theorem cell?_storeByte (a : Word) (v : Byte) : (b.storeByte a v).cell? = b.cell? := by
  have hs : (b.storeByte a v).cartridge.save.size = b.cartridge.save.size := by
    by_cases h : Region.of? a = some .registers
    · rw [storeByte, h]
      exact congrArg Array.size (b.sameMemories_writeRegisterByte _ v).save
    · have hf := congrArg Frame.saveSize (b.frame_storeByte h v)
      refine hf.trans ?_
      unfold Frame.afterByte
      split
      all_goals rfl
  funext c
  rw [cell?, hs, cell?]

end Bus

end Handheld

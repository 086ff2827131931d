import Handheld.Proofs.Bus.Region
import Handheld.Proofs.Checked.Bus
import Handheld.Proofs.Device.Lanes

/-!
# Proofs/Bus/Bytes — a wide access is its bytes

A halfword or word on the bus is loaded and stored as its bytes would be, from the aligned address
up, wherever the address leads.  A word is two halfwords in every region, and a halfword is two
bytes: in a memory that repeats because the repetition keeps neighbours together, and among the
device registers because every register is written by lanes.  The same holds of the accesses that
index a memory once for each width and check every index (`checkedLoadHalf` and its like).
-/

namespace Handheld

/-! ## Offsets of the picture memory -/

namespace Video

/-- The picture memory is folded by 32 KiB where the address space goes on past its end. -/
theorem toNat_vramOffset (a : Word) : (vramOffset a).toNat
    = if 0x18000 ≤ a.toNat % 0x20000 then a.toNat % 0x20000 - 0x8000 else a.toNat % 0x20000 := by
  have ho : (a &&& 0x1FFFF#32).toNat = a.toNat % 0x20000 := by
    rw [BitVec.toNat_and]
    exact Nat.and_two_pow_sub_one_eq_mod a.toNat 17
  have hl : 0x18000#32 ≤ a &&& 0x1FFFF#32 ↔ 0x18000 ≤ a.toNat % 0x20000 := by
    rw [BitVec.le_def, ho]
    rfl
  unfold vramOffset
  dsimp only
  by_cases h : 0x18000 ≤ a.toNat % 0x20000
  · rw [if_pos (hl.mpr h), if_pos h, BitVec.toNat_sub, ho, show (0x8000#32).toNat = 0x8000 from rfl]
    omega
  · rw [if_neg (mt hl.mp h), if_neg h, ho]

/-- The fold of the picture memory begins and ends at multiples of four. -/
theorem vramOffset_add {s i : Word} (h : s.toNat % 4 + i.toNat < 4) :
    vramOffset (s + i) = vramOffset s + i := by
  have := s.isLt
  rw [← BitVec.toNat_inj, BitVec.toNat_add, toNat_vramOffset, toNat_vramOffset, BitVec.toNat_add]
  split <;> split <;> omega

/-- The fold moves whole blocks, so it keeps the place in a halfword. -/
theorem alignHalf_vramOffset (a : Word) : (vramOffset a).alignHalf = vramOffset a.alignHalf := by
  rw [← BitVec.toNat_inj, Word.toNat_alignHalf, toNat_vramOffset, toNat_vramOffset,
    Word.toNat_alignHalf]
  split <;> split <;> omega

theorem alignWord_vramOffset (a : Word) : (vramOffset a).alignWord = vramOffset a.alignWord := by
  rw [← BitVec.toNat_inj, Word.toNat_alignWord, toNat_vramOffset, toNat_vramOffset,
    Word.toNat_alignWord]
  split <;> split <;> omega

/-- The second byte of a halfword follows the first one in the picture memory too. -/
theorem vramOffset_alignHalf_add_one (a : Word) :
    vramOffset (a.alignHalf + 1) = (vramOffset a).alignHalf + 1 := by
  rw [alignHalf_vramOffset]
  apply vramOffset_add
  rw [Word.toNat_alignHalf, show (1 : Word).toNat = 1 from rfl]
  omega

/-- The second halfword of a word follows the first one in the picture memory too. -/
theorem vramOffset_alignWord_add_two (a : Word) :
    vramOffset (a.alignWord + 2) = (vramOffset a).alignWord + 2 := by
  rw [alignWord_vramOffset]
  apply vramOffset_add
  rw [Word.toNat_alignWord, show (2 : Word).toNat = 2 from rfl]
  omega

end Video

/-! ## A word of a memory that repeats -/

namespace Ram

variable {k : Nat} (r : Ram k)

/-- A word of a memory that repeats is two halfwords. -/
theorem loadWord_eq_halves (a : Word) :
    r.loadWord a = Word.ofHalves (r.loadHalf a.alignWord) (r.loadHalf (a.alignWord + 2)) := by
  have h₃ : a.alignWord + 2 + 1 = a.alignWord + 3 := by bv_omega
  simp only [loadWord, loadHalf, Word.alignHalf_alignWord, Word.alignHalf_alignWord_add_two,
    Word.ofHalves_ofBytes, h₃]

theorem storeWord_eq_halves (a v : Word) :
    r.storeWord a v
      = (r.storeHalf a.alignWord v.lowHalf).storeHalf (a.alignWord + 2) v.highHalf := by
  have h₃ : a.alignWord + 2 + 1 = a.alignWord + 3 := by bv_omega
  simp only [storeWord, storeHalf, Word.alignHalf_alignWord, Word.alignHalf_alignWord_add_two,
    Word.low_lowHalf, Word.high_lowHalf, Word.low_highHalf, Word.high_highHalf, h₃]

end Ram

namespace Bus

variable (b : Bus)

/-! ## A halfword of the device registers -/

/-- A register is read by the halfword around its offset. -/
theorem readRegister_congr {o o' : Word} (h : o.alignHalf = o'.alignHalf) :
    b.readRegister o = b.readRegister o' := by
  unfold readRegister
  rw [h]

theorem writeRegister_congr {o o' : Word} (h : o.alignHalf = o'.alignHalf) (v mask : Half) :
    b.writeRegister o v mask = b.writeRegister o' v mask := by
  unfold writeRegister
  rw [h]

/-- Both bytes of a halfword belong to one register. -/
theorem alignHalf_registerOffset_add (a : Word) {i : Word} (h : i.toNat < 2) :
    (Region.registerOffset (a.alignHalf + i)).alignHalf = (Region.registerOffset a).alignHalf := by
  rw [Region.alignHalf_registerOffset, Region.alignHalf_registerOffset,
    Word.alignHalf_alignHalf_add a h]

/-- The byte at an even offset is the low one, that at an odd offset the high one. -/
theorem getLsbD_registerOffset_add (a : Word) {i : Word} (h : i.toNat < 2) :
    (Region.registerOffset (a.alignHalf + i)).getLsbD 0 = decide (i.toNat = 1) := by
  have := a.isLt
  rw [Region.getLsbD_zero_registerOffset, BitVec.toNat_add, Word.toNat_alignHalf]
  exact decide_eq_decide.mpr (by omega)

/-- A register is read as its two bytes. -/
theorem readRegister_eq_bytes (a : Word) :
    b.readRegister (Region.registerOffset a)
      = Half.ofBytes (b.readRegisterByte (Region.registerOffset a.alignHalf))
          (b.readRegisterByte (Region.registerOffset (a.alignHalf + 1))) := by
  have h₀ := alignHalf_registerOffset_add a (i := 0#32) (by decide)
  have h₁ := alignHalf_registerOffset_add a (i := 1) (by decide)
  have e₀ := getLsbD_registerOffset_add a (i := 0#32) (by decide)
  have e₁ := getLsbD_registerOffset_add a (i := 1) (by decide)
  rw [BitVec.add_zero] at h₀ e₀
  rw [readRegisterByte, readRegisterByte, e₀, e₁, b.readRegister_congr h₀, b.readRegister_congr h₁,
    if_neg (by decide), if_pos (by decide), Half.ofBytes_low_high]

/-- A register written as a whole is written as its two lanes, one after the other. -/
theorem writeRegister_eq_bytes (a : Word) (v : Half) :
    b.writeRegister (Region.registerOffset a) v 0xFFFF#16
      = (b.writeRegisterByte (Region.registerOffset a.alignHalf) v.low).writeRegisterByte
          (Region.registerOffset (a.alignHalf + 1)) v.high := by
  have h₀ := alignHalf_registerOffset_add a (i := 0#32) (by decide)
  have h₁ := alignHalf_registerOffset_add a (i := 1) (by decide)
  have e₀ := getLsbD_registerOffset_add a (i := 0#32) (by decide)
  have e₁ := getLsbD_registerOffset_add a (i := 1) (by decide)
  rw [BitVec.add_zero] at h₀ e₀
  rw [writeRegisterByte, writeRegisterByte, e₀, e₁, if_pos (by decide), if_neg (by decide),
    writeRegister_congr _ h₀, writeRegister_congr _ h₁]
  exact (byLanes_writeRegister (Region.registerOffset a) b v).symm

/-! ## A halfword is two bytes -/

/-- **A halfword is loaded as its two bytes** in every region. -/
theorem loadHalf_eq_bytes (a : Word) :
    b.loadHalf a = Half.ofBytes (b.loadByte a.alignHalf) (b.loadByte (a.alignHalf + 1)) := by
  have h₀ := Region.of?_alignHalf a
  have h₁ := Region.of?_alignHalf_add a (i := 1) (by decide)
  unfold loadHalf loadByte
  rw [h₀, h₁]
  cases Region.of? a with
  | none => exact (by decide : (0#16 : Half) = Half.ofBytes 0#8 0#8)
  | some region =>
    cases region with
    | registers => exact b.readRegister_eq_bytes a
    | vram =>
      dsimp only
      rw [Video.vramOffset_alignHalf_add_one, ← Video.alignHalf_vramOffset]
      rfl
    | _ => rfl

/-- **A halfword is stored as its two bytes** in every region. -/
theorem storeHalf_eq_bytes (a : Word) (v : Half) :
    b.storeHalf a v = (b.storeByte a.alignHalf v.low).storeByte (a.alignHalf + 1) v.high := by
  have h₀ := Region.of?_alignHalf a
  have h₁ := Region.of?_alignHalf_add a (i := 1) (by decide)
  unfold storeHalf storeByte
  rw [h₀, h₁]
  cases Region.of? a with
  | none => rfl
  | some region =>
    cases region with
    | registers => exact b.writeRegister_eq_bytes a v
    | vram =>
      dsimp only
      rw [Video.vramOffset_alignHalf_add_one, ← Video.alignHalf_vramOffset]
      rfl
    | _ => rfl

/-! ## A word is two halfwords -/

/-- A word is loaded as two halfwords in every region. -/
theorem loadWord_eq_halves (a : Word) :
    b.loadWord a = Word.ofHalves (b.loadHalf a.alignWord) (b.loadHalf (a.alignWord + 2)) := by
  have h₀ := Region.of?_alignWord a
  have h₂ := Region.of?_alignWord_add a (i := 2) (by decide)
  have h₃ : a.alignWord + 2 + 1 = a.alignWord + 3 := by bv_omega
  unfold loadWord loadHalf
  rw [h₀, h₂]
  cases Region.of? a with
  | none => exact (by decide : (0#32 : Word) = Word.ofHalves 0#16 0#16)
  | some region =>
    cases region with
    | registers =>
      dsimp only
      rw [Region.alignWord_registerOffset, Region.registerOffset_add]
    | vram =>
      dsimp only
      rw [Ram.loadWord_eq_halves, Video.vramOffset_alignWord_add_two, Video.alignWord_vramOffset]
    | rom =>
      simp only [Word.alignHalf_alignWord, Word.alignHalf_alignWord_add_two, h₃,
        Word.ofHalves_ofBytes]
    | save =>
      simp only [Word.alignHalf_alignWord, Word.alignHalf_alignWord_add_two, h₃,
        Word.ofHalves_ofBytes]
    | _ => exact Ram.loadWord_eq_halves _ a

/-- A word is stored as two halfwords in every region, the lower first. -/
theorem storeWord_eq_halves (a v : Word) :
    b.storeWord a v
      = (b.storeHalf a.alignWord v.lowHalf).storeHalf (a.alignWord + 2) v.highHalf := by
  have h₀ := Region.of?_alignWord a
  have h₂ := Region.of?_alignWord_add a (i := 2) (by decide)
  have h₃ : a.alignWord + 2 + 1 = a.alignWord + 3 := by bv_omega
  unfold storeWord storeHalf
  rw [h₀, h₂]
  cases Region.of? a with
  | none => rfl
  | some region =>
    cases region with
    | registers =>
      dsimp only
      rw [Region.alignWord_registerOffset, Region.registerOffset_add]
    | vram =>
      simp only [mapVram, Ram.storeWord_eq_halves, Video.vramOffset_alignWord_add_two,
        Video.alignWord_vramOffset]
    | save =>
      simp only [Word.alignHalf_alignWord, Word.alignHalf_alignWord_add_two, h₃,
        Word.low_lowHalf, Word.high_lowHalf, Word.low_highHalf, Word.high_highHalf]
    | ewram => exact congrArg (fun r => { b with ewram := r }) (b.ewram.storeWord_eq_halves a v)
    | iwram => exact congrArg (fun r => { b with iwram := r }) (b.iwram.storeWord_eq_halves a v)
    | palette =>
      have hr := b.video.palette.storeWord_eq_halves a v
      exact congrArg (fun r => { b with video := { b.video with palette := r } }) hr
    | oam =>
      have hr := b.video.oam.storeWord_eq_halves a v
      exact congrArg (fun r => { b with video := { b.video with oam := r } }) hr
    | bios => rfl
    | rom => rfl

/-! ## A word is four bytes -/

/-- **A word is loaded as its four bytes.** -/
theorem loadWord_eq_bytes (a : Word) :
    b.loadWord a = Word.ofBytes (b.loadByte a.alignWord) (b.loadByte (a.alignWord + 1))
      (b.loadByte (a.alignWord + 2)) (b.loadByte (a.alignWord + 3)) := by
  have h₃ : a.alignWord + 2 + 1 = a.alignWord + 3 := by bv_omega
  rw [loadWord_eq_halves, loadHalf_eq_bytes, loadHalf_eq_bytes, Word.alignHalf_alignWord,
    Word.alignHalf_alignWord_add_two, h₃, Word.ofHalves_ofBytes]

/-- **A word is stored as its four bytes**, the lowest first. -/
theorem storeWord_eq_bytes (a v : Word) :
    b.storeWord a v
      = (((b.storeByte a.alignWord (v.byte 0)).storeByte (a.alignWord + 1) (v.byte 1)).storeByte
          (a.alignWord + 2) (v.byte 2)).storeByte (a.alignWord + 3) (v.byte 3) := by
  have h₃ : a.alignWord + 2 + 1 = a.alignWord + 3 := by bv_omega
  rw [storeWord_eq_halves, storeHalf_eq_bytes, storeHalf_eq_bytes, Word.alignHalf_alignWord,
    Word.alignHalf_alignWord_add_two, h₃, Word.low_lowHalf, Word.high_lowHalf, Word.low_highHalf,
    Word.high_highHalf]

/-! ## Every access -/

/-- **A wide access is exactly its byte accesses**, wherever its address leads.  A load gives the
bytes from the aligned address up, the lowest first, and changes nothing; a store leaves the whole
bus as storing its bytes from the aligned address up leaves it.  The accesses that go to each region
in their own width, with every index checked, all succeed, and with the same results. -/
theorem wide_access_bytewise (a : Word) :
    let s := a.alignHalf
    let t := a.alignWord
    Memory.loadByte b a = (b.loadByte a, b)
      ∧ Memory.loadHalf b a = (Half.ofBytes (b.loadByte s) (b.loadByte (s + 1)), b)
      ∧ Memory.loadWord b a
        = (Word.ofBytes (b.loadByte t) (b.loadByte (t + 1)) (b.loadByte (t + 2))
            (b.loadByte (t + 3)), b)
      ∧ (∀ v, Memory.storeHalf b a v = (b.storeByte s v.low).storeByte (s + 1) v.high)
      ∧ (∀ v, Memory.storeWord b a v
        = (((b.storeByte t (v.byte 0)).storeByte (t + 1) (v.byte 1)).storeByte (t + 2)
            (v.byte 2)).storeByte (t + 3) (v.byte 3))
      ∧ b.checkedLoadByte a = .ok (b.loadByte a)
      ∧ b.checkedLoadHalf a = .ok (Half.ofBytes (b.loadByte s) (b.loadByte (s + 1)))
      ∧ b.checkedLoadWord a
        = .ok (Word.ofBytes (b.loadByte t) (b.loadByte (t + 1)) (b.loadByte (t + 2))
            (b.loadByte (t + 3)))
      ∧ (∀ v, b.checkedStoreByte a v = .ok (b.storeByte a v))
      ∧ (∀ v, b.checkedStoreHalf a v = .ok ((b.storeByte s v.low).storeByte (s + 1) v.high))
      ∧ ∀ v, b.checkedStoreWord a v
        = .ok ((((b.storeByte t (v.byte 0)).storeByte (t + 1) (v.byte 1)).storeByte (t + 2)
            (v.byte 2)).storeByte (t + 3) (v.byte 3)) := by
  intro s t
  have hloadHalf := b.loadHalf_eq_bytes a
  have hloadWord := b.loadWord_eq_bytes a
  have hstoreHalf := b.storeHalf_eq_bytes a
  have hstoreWord := b.storeWord_eq_bytes a
  refine ⟨rfl, congrArg (·, b) hloadHalf, congrArg (·, b) hloadWord, hstoreHalf, hstoreWord,
    b.checkedLoadByte_eq_ok a, ?_, ?_, b.checkedStoreByte_eq_ok a, fun v => ?_, fun v => ?_⟩
  · exact (b.checkedLoadHalf_eq_ok a).trans (congrArg Except.ok hloadHalf)
  · exact (b.checkedLoadWord_eq_ok a).trans (congrArg Except.ok hloadWord)
  · exact (b.checkedStoreHalf_eq_ok a v).trans (congrArg Except.ok (hstoreHalf v))
  · exact (b.checkedStoreWord_eq_ok a v).trans (congrArg Except.ok (hstoreWord v))

end Bus

end Handheld

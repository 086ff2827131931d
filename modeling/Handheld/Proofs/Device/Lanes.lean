import Handheld.Bus.Registers

/-!
# Proofs/Device/Lanes — a register written byte by byte

A store of one byte writes one byte lane of a register, and the mask tells the device which.  No
device treats the lanes unlike the halfword: writing the low lane and then the high one leaves what
writing the halfword leaves (`ByLanes`).  That holds of registers that merge, whatever bits they
protect, of those that are cleared by ones, and of those of which only one lane does something, so
it holds of every register of the bus (`byLanes_writeRegister`).
-/

namespace Handheld

/-- Writing the low lane of a register and then the high one is writing the halfword. -/
def ByLanes {D : Type} (write : D → Half → Half → D) : Prop :=
  ∀ d v, write (write d (Half.ofBytes v.low 0#8) 0x00FF#16) (Half.ofBytes 0#8 v.high) 0xFF00#16
    = write d v 0xFFFF#16

/-! ## The lanes of a halfword -/

namespace Half

/-- The low byte has the low bits. -/
theorem getLsbD_ofBytes (l h : Byte) (i : Nat) :
    (ofBytes l h).getLsbD i = if i < 8 then l.getLsbD i else h.getLsbD (i - 8) := by
  rw [ofBytes, BitVec.getLsbD_append]

/-- The low lane of a halfword is its low byte, whatever the other lane holds. -/
theorem and_lowLane (v : Half) : ofBytes v.low 0#8 &&& 0x00FF#16 = v &&& 0x00FF#16 := by
  have hm : ∀ i : Fin 16, (0x00FF#16).getLsbD i = decide (i.val < 8) := by decide
  apply BitVec.eq_of_getLsbD_eq
  intro i hi
  rw [BitVec.getLsbD_and, BitVec.getLsbD_and, getLsbD_ofBytes, hm ⟨i, hi⟩]
  by_cases h : i < 8
  · rw [if_pos h, low, BitVec.getLsbD_extractLsb']
    simp [h]
  · simp [h]

/-- The high lane of a halfword is its high byte, whatever the other lane holds. -/
theorem and_highLane (v : Half) : ofBytes 0#8 v.high &&& 0xFF00#16 = v &&& 0xFF00#16 := by
  have hm : ∀ i : Fin 16, (0xFF00#16).getLsbD i = decide (8 ≤ i.val) := by decide
  apply BitVec.eq_of_getLsbD_eq
  intro i hi
  rw [BitVec.getLsbD_and, BitVec.getLsbD_and, getLsbD_ofBytes, hm ⟨i, hi⟩]
  by_cases h : i < 8
  · simp [Nat.not_le.mpr h]
  · rw [if_neg h, high, BitVec.getLsbD_extractLsb']
    simp [show i - 8 < 8 by omega, show 8 + (i - 8) = i by omega]

theorem getLsbD_zero_lowLane (v : Half) : (ofBytes v.low 0#8).getLsbD 0 = v.getLsbD 0 := by
  rw [getLsbD_ofBytes, if_pos (by decide), low, BitVec.getLsbD_extractLsb']
  rfl

theorem getLsbD_last_highLane (v : Half) : (ofBytes 0#8 v.high).getLsbD 15 = v.getLsbD 15 := by
  rw [getLsbD_ofBytes, if_neg (by decide), high, BitVec.getLsbD_extractLsb']
  rfl

/-- Both lanes together are the halfword. -/
theorem and_lanes (v : Half) : v &&& 0x00FF#16 ||| v &&& 0xFF00#16 = v &&& 0xFFFF#16 := by
  rw [← BitVec.and_or_distrib_left]
  rfl

/-- Merging takes nothing from a value outside the mask. -/
theorem merge_congr {v w mask : Half} (h : v &&& mask = w &&& mask) (old : Half) :
    merge old v mask = merge old w mask := by
  rw [merge, merge, h]

/-- Merging under one mask and then under another is merging under both. -/
theorem merge_merge (old v mask mask' : Half) :
    merge (merge old v mask) v mask' = merge old v (mask ||| mask') := by
  apply BitVec.eq_of_getLsbD_eq
  intro i hi
  simp only [merge, BitVec.getLsbD_or, BitVec.getLsbD_and, BitVec.getLsbD_not, hi, decide_true,
    Bool.true_and]
  cases mask.getLsbD i <;> cases mask'.getLsbD i <;> simp

end Half

/-- A register that merges is written by lanes, also if some of its bits cannot be written. -/
theorem byLanes_merge (writable : Half) :
    ByLanes fun old v mask => Half.merge old v (mask &&& writable) := by
  intro old v
  have hl : Half.ofBytes v.low 0#8 &&& (0x00FF#16 &&& writable)
      = v &&& (0x00FF#16 &&& writable) := by
    rw [← BitVec.and_assoc, Half.and_lowLane, BitVec.and_assoc]
  have hh : Half.ofBytes 0#8 v.high &&& (0xFF00#16 &&& writable)
      = v &&& (0xFF00#16 &&& writable) := by
    rw [← BitVec.and_assoc, Half.and_highLane, BitVec.and_assoc]
  dsimp only
  rw [Half.merge_congr hl, Half.merge_congr hh, Half.merge_merge, ← BitVec.and_or_distrib_right]
  rfl

theorem byLanes_mergeAll : ByLanes Half.merge := byLanes_merge 0xFFFF#16

/-- A register that is cleared by ones is written by lanes. -/
theorem byLanes_clear : ByLanes fun (old v mask : Half) => old &&& ~~~(v &&& mask) := by
  intro old v
  dsimp only
  rw [Half.and_lowLane, Half.and_highLane, BitVec.and_assoc, ← BitVec.not_or, Half.and_lanes]

/-! ## Devices -/

/-- A register in a block is written by lanes, and none is written outside it. -/
theorem RegisterBlock.byLanes_write {base : Word} {n : Nat} (a : Word) :
    ByLanes fun (b : RegisterBlock base n) v mask => b.write a v mask := by
  intro b v
  unfold write
  cases index? base n a with
  | none => rfl
  | some i =>
    have hm := byLanes_mergeAll b.cells[i] v
    simp only [Fin.getElem_fin] at hm ⊢
    simp only [Vector.getElem_set_self, Vector.set_set, hm]

namespace Video

theorem status_setStatus (v : Video) (s : Half) : (v.setStatus s).status = s :=
  Vector.getElem_set_self _

theorem setStatus_setStatus (v : Video) (s t : Half) :
    (v.setStatus s).setStatus t = v.setStatus t := by
  simp only [setStatus, Vector.set_set]

/-- The status of the picture is written by lanes, although some of its bits cannot be written. -/
theorem byLanes_write (a : Word) : ByLanes fun (d : Video) v mask => d.write a v mask := by
  intro d v
  unfold write
  by_cases hl : a = lineAddress
  · simp only [if_pos hl]
  · by_cases hs : a = statusAddress
    · simp only [if_neg hl, if_pos hs, status_setStatus, setStatus_setStatus]
      exact congrArg d.setStatus (byLanes_merge (~~~statusBits) d.status v)
    · simp only [if_neg hl, if_neg hs]
      have hr := RegisterBlock.byLanes_write a d.registers v
      exact congrArg (fun r => { d with registers := r }) hr

end Video

theorem Sound.byLanes_write (a : Word) : ByLanes fun (d : Sound) v mask => d.write a v mask :=
  fun d v => congrArg Sound.mk (RegisterBlock.byLanes_write a d.registers v)

theorem Keypad.byLanes_write (a : Word) : ByLanes fun (d : Keypad) v mask => d.write a v mask := by
  intro d v
  unfold write
  by_cases ha : a = controlAddress
  · simp only [if_pos ha]
    exact congrArg (fun c => { d with control := c }) (byLanes_mergeAll d.control v)
  · simp only [if_neg ha]

/-- A cartridge's registers are written by lanes, and the save memory is not among them. -/
theorem Cartridge.byLanes_write (a : Word) :
    ByLanes fun (d : Cartridge) v mask => d.write a v mask := by
  intro d v
  unfold write
  by_cases hw : a = waitControlAddress
  · simp only [if_pos hw]
    exact congrArg (fun w => { d with waitControl := w }) (byLanes_mergeAll d.waitControl v)
  · by_cases hc : a = changedAddress
    · simp only [if_neg hw, if_pos hc]
      exact congrArg (fun c => { d with changed := c }) (byLanes_clear d.changed v)
    · simp only [if_neg hw, if_neg hc]

/-! ## The interrupt controller -/

namespace SourceSet

theorem ofHalf_or (h g : Half) : ofHalf (h ||| g) = ofHalf h ||| ofHalf g := BitVec.setWidth_or

/-- The bits of a register that name no source can be lost before a merge or after it. -/
theorem ofHalf_merge_toHalf_ofHalf (h v mask : Half) :
    ofHalf (Half.merge (toHalf (ofHalf h)) v mask) = ofHalf (Half.merge h v mask) := by
  apply BitVec.eq_of_getLsbD_eq
  intro i hi
  simp [ofHalf, toHalf, Half.merge, hi, show i < 16 by omega]

end SourceSet

namespace Controller

/-- Clearing flags twice clears the flags of both. -/
theorem clearFlags_clearFlags (c : Controller) (s t : SourceSet) :
    (c.clearFlags s).clearFlags t = c.clearFlags (s ||| t) := by
  have hs : (c.servicing.filter fun k => !SourceSet.has s k).filter (fun k => !SourceSet.has t k)
      = c.servicing.filter fun k => !SourceSet.has (s ||| t) k := by
    rw [Option.filter_filter]
    simp
  simp only [clearFlags, hs, BitVec.and_assoc, ← BitVec.not_or]

/-- The flags are cleared by lanes, and halting is a matter of one lane. -/
theorem byLanes_write (a : Word) : ByLanes fun (c : Controller) v mask => c.write a v mask := by
  intro c v
  unfold write
  by_cases he : a = enableAddress
  · simp only [if_pos he, SourceSet.ofHalf_merge_toHalf_ofHalf]
    have hm := byLanes_mergeAll (SourceSet.toHalf c.enabled) v
    exact congrArg (fun h => { c with enabled := SourceSet.ofHalf h }) hm
  · by_cases hf : a = flagsAddress
    · simp only [if_neg he, if_pos hf, clearFlags_clearFlags, Half.and_lowLane, Half.and_highLane,
        ← SourceSet.ofHalf_or, Half.and_lanes]
    · by_cases hm : a = masterAddress
      · simp only [if_neg he, if_neg hf, if_pos hm]
        rw [if_neg (by decide), if_pos (by decide), if_pos (by decide), Half.getLsbD_zero_lowLane]
      · by_cases hp : a = postFlagAddress
        · -- The low lane sets the start-up flag, the high one halts; neither undoes the other.
          have hl : Half.low 0x00FF#16 ≠ 0#8 ∧ Half.high 0x00FF#16 = 0#8 := by decide
          have hh : Half.low 0xFF00#16 = 0#8 ∧ Half.high 0xFF00#16 ≠ 0#8 := by decide
          have ha : Half.low 0xFFFF#16 ≠ 0#8 ∧ Half.high 0xFFFF#16 ≠ 0#8 := by decide
          simp only [if_neg he, if_neg hf, if_neg hm, if_pos hp, hl, hh, ha, if_true, if_false,
            decide_true, decide_false, Bool.true_or, Bool.false_or, Half.getLsbD_zero_lowLane,
            Half.getLsbD_last_highLane]
        · simp only [if_neg he, if_neg hf, if_neg hm, if_neg hp]

end Controller

/-! ## The bus -/

/-- **Every register of the bus is written by lanes.** -/
theorem Bus.byLanes_writeRegister (o : Word) :
    ByLanes fun (b : Bus) v mask => b.writeRegister o v mask := by
  intro b v
  unfold writeRegister
  dsimp only
  cases owner? o.alignHalf with
  | none => rfl
  | some owner =>
    cases owner with
    | video => exact congrArg (fun d => { b with video := d }) (Video.byLanes_write _ b.video v)
    | sound => exact congrArg (fun d => { b with sound := d }) (Sound.byLanes_write _ b.sound v)
    | dma => exact congrArg (fun d => { b with dma := d }) (RegisterBlock.byLanes_write _ b.dma v)
    | timers =>
      exact congrArg (fun d => { b with timers := d }) (RegisterBlock.byLanes_write _ b.timers v)
    | serial =>
      exact congrArg (fun d => { b with serial := d }) (RegisterBlock.byLanes_write _ b.serial v)
    | keypad => exact congrArg (fun d => { b with keypad := d }) (Keypad.byLanes_write _ b.keypad v)
    | interrupts =>
      exact congrArg (fun d => { b with interrupts := d })
        (Controller.byLanes_write _ b.interrupts v)
    | cartridge =>
      exact congrArg (fun d => { b with cartridge := d }) (Cartridge.byLanes_write _ b.cartridge v)

end Handheld

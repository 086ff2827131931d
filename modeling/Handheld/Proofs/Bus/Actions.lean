import Handheld.Proofs.Bus.Region
import Handheld.Proofs.Interrupt.Requests

/-!
# Proofs/Bus/Actions — what an action on the bus does to the requests

The host acts on the bus through its devices and its queue, the program by stores.  `Bus.events`
says what each action does to the requests, a store byte by byte: a byte of the request register
clears the flags of its ones, a byte inside the save memory raises the cartridge's interrupt, and
any other byte does nothing.  An action changes queue and flags as its events do and in no other way
(`requests_perform`).
-/

namespace Handheld.Bus

/-! ## Actions -/

/-- An action on the bus that may have to do with interrupts. -/
inductive Action where
  /-- Queues an interrupt. -/
  | raise (k : Source)
  /-- Presses a key. -/
  | press (k : Key)
  /-- Releases a key. -/
  | release (k : Key)
  /-- Moves the video unit on to the next line. -/
  | advanceLine
  /-- Requests an interrupt from the controller at once. -/
  | request (k : Source)
  /-- Delivers the queue. -/
  | deliver
  /-- Stores a byte. -/
  | storeByte (a : Word) (v : Byte)
  /-- Stores a halfword. -/
  | storeHalf (a : Word) (v : Half)
  /-- Stores a word. -/
  | storeWord (a v : Word)

/-- Carries an action out. -/
def perform (b : Bus) : Action → Bus
  | .raise k => b.raise k
  | .press k => b.press k
  | .release k => b.release k
  | .advanceLine => b.advanceLine
  | .request k => b.mapInterrupts fun c => c.request k
  | .deliver => b.deliver
  | .storeByte a v => b.storeByte a v
  | .storeHalf a v => b.storeHalf a v
  | .storeWord a v => b.storeWord a v

/-! ## Events -/

/-- The address of the low byte of the request register. -/
def flagsLow : Word := 0x04000202#32

/-- The address of the high byte of the request register. -/
def flagsHigh : Word := 0x04000203#32

/-- The sources that the low byte of a request register names. -/
def lowSources (v : Byte) : SourceSet := v.setWidth 14

/-- The sources that the high byte of a request register names. -/
def highSources (v : Byte) : SourceSet := v.setWidth 14 <<< 8

/-- What a stored byte does to the requests. -/
def byteEvents (b : Bus) (a : Word) (v : Byte) : List Event :=
  if a = flagsLow then [.cleared (lowSources v)]
  else if a = flagsHigh then [.cleared (highSources v)]
  else if Region.of? a = some .save ∧ Cartridge.saveOffset a < b.cartridge.save.size then
    [.raised Source.gamePak.bit]
  else []

/-- What an action does to the requests. -/
def events (b : Bus) : Action → List Event
  | .raise k => [.raised k.bit]
  | .press k => [.raised (b.keypad.press k).2]
  | .release k => [.raised (b.keypad.release k).2]
  | .advanceLine => [.raised b.video.advanceLine.2]
  | .request k => [.requested k]
  | .deliver => [.delivered]
  | .storeByte a v => b.byteEvents a v
  | .storeHalf a v =>
    let s := a.alignHalf
    b.byteEvents s v.low ++ b.byteEvents (s + 1) v.high
  | .storeWord a v =>
    let s := a.alignWord
    b.byteEvents s (v.byte 0) ++ b.byteEvents (s + 1) (v.byte 1) ++ b.byteEvents (s + 2) (v.byte 2)
      ++ b.byteEvents (s + 3) (v.byte 3)

/-- The requests that are open. -/
def requests (b : Bus) : Requests := ⟨b.queue, b.interrupts.flagged⟩

variable (b : Bus)

/-! ## Stores to the save memory -/

/-- A byte of the save memory raises the cartridge's interrupt if the memory reaches that far. -/
theorem byteEvents_of_save {a : Word} (h : Region.of? a = some .save) (v : Byte) :
    b.byteEvents a v = if Cartridge.saveOffset a < b.cartridge.save.size then
      [.raised Source.gamePak.bit] else [] := by
  have hl : a ≠ flagsLow := by rintro rfl; exact absurd h (by decide)
  have hh : a ≠ flagsHigh := by rintro rfl; exact absurd h (by decide)
  rw [byteEvents, if_neg hl, if_neg hh]
  simp only [h, true_and]

theorem requests_storeSave {a : Word} (h : Region.of? a = some .save) (v : Byte) :
    (b.storeSave a v).requests = b.requests.applyAll (b.byteEvents a v) := by
  rw [byteEvents_of_save b h]
  unfold storeSave Cartridge.writeSave
  by_cases hs : Cartridge.saveOffset a < b.cartridge.save.size
  · rw [dif_pos hs, if_pos hs]
    rfl
  · rw [dif_neg hs, if_neg hs]
    exact Requests.ext (BitVec.or_zero ..) rfl

/-- The save memory keeps its size, so what stores to it raise does not depend on their order. -/
theorem byteEvents_storeSave (a c : Word) (v w : Byte) :
    (b.storeSave a v).byteEvents c w = b.byteEvents c w := by
  have hs : (b.storeSave a v).cartridge.save.size = b.cartridge.save.size := by
    unfold storeSave Cartridge.writeSave
    by_cases h : Cartridge.saveOffset a < b.cartridge.save.size
    · rw [dif_pos h]
      exact Array.size_set h
    · rw [dif_neg h]
  rw [byteEvents, byteEvents, hs]

/-! ## Stores to the device registers -/

/-- The sources of a halfword are those of its bytes. -/
theorem ofHalf_ofBytes (l h : Byte) :
    SourceSet.ofHalf (Half.ofBytes l h) = lowSources l ||| highSources h := by
  apply BitVec.eq_of_getLsbD_eq
  intro i hi
  simp only [SourceSet.ofHalf, Half.ofBytes, lowSources, highSources, BitVec.getLsbD_setWidth,
    BitVec.getLsbD_append, BitVec.getLsbD_or, BitVec.getLsbD_shiftLeft]
  by_cases h8 : i < 8
  · simp [h8, hi]
  · simp [h8, hi, BitVec.getLsbD_of_ge l i (by omega), show i - 8 < 14 by omega]

theorem ofHalf_and_low (l h : Byte) :
    SourceSet.ofHalf (Half.ofBytes l h &&& 0x00FF#16) = lowSources l := by
  have hm : ∀ i : Fin 14, (0x00FF#16).getLsbD i = decide (i.val < 8) := by decide
  apply BitVec.eq_of_getLsbD_eq
  intro i hi
  simp only [SourceSet.ofHalf, Half.ofBytes, lowSources, BitVec.getLsbD_setWidth,
    BitVec.getLsbD_append, BitVec.getLsbD_and, hm ⟨i, hi⟩]
  by_cases h8 : i < 8
  · simp [h8]
  · simp [h8, BitVec.getLsbD_of_ge l i (by omega)]

theorem ofHalf_and_high (l h : Byte) :
    SourceSet.ofHalf (Half.ofBytes l h &&& 0xFF00#16) = highSources h := by
  have hm : ∀ i : Fin 14, (0xFF00#16).getLsbD i = decide (8 ≤ i.val) := by decide
  apply BitVec.eq_of_getLsbD_eq
  intro i hi
  simp only [SourceSet.ofHalf, Half.ofBytes, highSources, BitVec.getLsbD_setWidth,
    BitVec.getLsbD_append, BitVec.getLsbD_and, BitVec.getLsbD_shiftLeft, hm ⟨i, hi⟩]
  by_cases h8 : i < 8
  · simp [h8, show ¬8 ≤ i by omega]
  · simp [h8, hi, show 8 ≤ i by omega, show i - 8 < 14 by omega]

/-- A write to the request register clears the flags of its ones. -/
theorem requests_writeRegister_of_eq {o : Word} (h : o.alignHalf = Controller.flagsAddress)
    (v mask : Half) : (b.writeRegister o v mask).requests
      = b.requests.applyAll [.cleared (SourceSet.ofHalf (v &&& mask))] := by
  unfold writeRegister
  rw [h]
  rfl

/-- A write to another register leaves the requests alone. -/
theorem requests_writeRegister_of_ne {o : Word} (h : o.alignHalf ≠ Controller.flagsAddress)
    (v mask : Half) : (b.writeRegister o v mask).requests = b.requests := by
  unfold writeRegister
  dsimp only
  split
  case h_7 =>
    refine Requests.ext rfl ?_
    change (b.interrupts.write o.alignHalf v mask).flagged = b.interrupts.flagged
    unfold Controller.write
    simp only [h, if_false]
    split
    · rfl
    · split
      · split <;> rfl
      · split
        · split <;> split <;> rfl
        · rfl
  all_goals rfl

/-- A byte among the registers is an event if it goes to the flags. -/
theorem byteEvents_of_registers {a : Word} (h : Region.of? a = some .registers) (v : Byte) :
    b.byteEvents a v = if a = flagsLow then [.cleared (lowSources v)]
      else if a = flagsHigh then [.cleared (highSources v)] else [] := by
  simp [byteEvents, h]

/-- Writing another register changes nothing about what a byte does. -/
theorem byteEvents_writeRegister {a : Word} (h : Region.of? a = some .registers) (v : Byte)
    (o : Word) (w mask : Half) : (b.writeRegister o w mask).byteEvents a v = b.byteEvents a v := by
  rw [byteEvents_of_registers _ h, byteEvents_of_registers _ h]

/-- A byte anywhere else is no event. -/
theorem byteEvents_of_other {a : Word} (hr : Region.of? a ≠ some .registers)
    (hs : Region.of? a ≠ some .save) (v : Byte) : b.byteEvents a v = [] := by
  have hl : a ≠ flagsLow := by rintro rfl; exact hr (by decide)
  have hh : a ≠ flagsHigh := by rintro rfl; exact hr (by decide)
  rw [byteEvents, if_neg hl, if_neg hh, if_neg fun h => hs h.1]

/-- Where the request register lies among all addresses. -/
theorem alignHalf_registerOffset_eq_iff (a : Word) :
    (Region.registerOffset a).alignHalf = Controller.flagsAddress ↔ a.alignHalf = flagsLow := by
  rw [← BitVec.toNat_inj, ← BitVec.toNat_inj, Word.toNat_alignHalf, Word.toNat_alignHalf,
    Region.toNat_registerOffset, show Controller.flagsAddress.toNat = 0x202 from rfl,
    show flagsLow.toNat = 0x04000202 from rfl]
  have := a.isLt
  omega

/-- The two bytes of the request register. -/
theorem alignHalf_eq_flagsLow_iff (a : Word) :
    a.alignHalf = flagsLow ↔ a = flagsLow ∨ a = flagsHigh := by
  rw [← BitVec.toNat_inj, ← BitVec.toNat_inj, ← BitVec.toNat_inj, Word.toNat_alignHalf,
    show flagsLow.toNat = 0x04000202 from rfl, show flagsHigh.toNat = 0x04000203 from rfl]
  omega

/-- A byte of another device register does nothing to the requests. -/
theorem byteEvents_of_alignHalf_ne {a : Word} (h : Region.of? a = some .registers)
    (hf : a.alignHalf ≠ flagsLow) (v : Byte) : b.byteEvents a v = [] := by
  obtain ⟨hl, hh⟩ := not_or.mp (mt (alignHalf_eq_flagsLow_iff a).mpr hf)
  rw [byteEvents_of_registers b h, if_neg hl, if_neg hh]

/-- A byte written among the registers leaves the requests that its events leave. -/
theorem requests_writeRegisterByte {a : Word} (h : Region.of? a = some .registers) (v : Byte) :
    (b.writeRegisterByte (Region.registerOffset a) v).requests
      = b.requests.applyAll (b.byteEvents a v) := by
  rw [writeRegisterByte, Region.getLsbD_zero_registerOffset]
  by_cases hf : a.alignHalf = flagsLow
  · have ho := (alignHalf_registerOffset_eq_iff a).mpr hf
    rw [byteEvents_of_registers b h]
    rcases (alignHalf_eq_flagsLow_iff a).mp hf with rfl | rfl
    · rw [if_neg (by decide), if_pos rfl, requests_writeRegister_of_eq b ho, ofHalf_and_low]
    · rw [if_pos (by decide), if_neg (by decide), if_pos rfl, requests_writeRegister_of_eq b ho,
        ofHalf_and_high]
  · have ho := mt (alignHalf_registerOffset_eq_iff a).mp hf
    rw [byteEvents_of_alignHalf_ne b h hf]
    split
    · exact requests_writeRegister_of_ne b ho _ _
    · exact requests_writeRegister_of_ne b ho _ _

/-- The bytes of a halfword in the device registers, as it is written at once. -/
theorem requests_writeRegister_half {a : Word} (h : Region.of? a = some .registers) (v : Half) :
    (b.writeRegister (Region.registerOffset a) v 0xFFFF#16).requests
      = b.requests.applyAll
          (b.byteEvents a.alignHalf v.low ++ b.byteEvents (a.alignHalf + 1) v.high) := by
  have hv : SourceSet.ofHalf (v &&& 0xFFFF#16) = lowSources v.low ||| highSources v.high := by
    rw [← ofHalf_ofBytes, Half.ofBytes_low_high]
    exact congrArg SourceSet.ofHalf (BitVec.and_allOnes ..)
  have h₀ := (Region.of?_alignHalf a).trans h
  have h₁ := (Region.of?_alignHalf_add a (i := 1) (by decide)).trans h
  by_cases hf : a.alignHalf = flagsLow
  · have ho := (alignHalf_registerOffset_eq_iff a).mpr hf
    rw [byteEvents_of_registers b h₀, byteEvents_of_registers b h₁,
      requests_writeRegister_of_eq b ho, hv, Requests.applyAll_cleared_or, hf, if_pos rfl,
      if_neg (by decide), if_pos (by decide)]
  · have ho := mt (alignHalf_registerOffset_eq_iff a).mp hf
    rw [byteEvents_of_alignHalf_ne b h₀ (by rwa [Word.alignHalf_alignHalf]),
      byteEvents_of_alignHalf_ne b h₁ (by rwa [Word.alignHalf_alignHalf_add _ (by decide)])]
    exact requests_writeRegister_of_ne b ho _ _

/-! ## Stores -/

/-- **A stored byte leaves the requests that its events leave**, wherever its address leads. -/
theorem requests_storeByte (a : Word) (v : Byte) :
    (b.storeByte a v).requests = b.requests.applyAll (b.byteEvents a v) := by
  unfold storeByte
  cases h : Region.of? a with
  | none => rw [byteEvents_of_other b (by simp [h]) (by simp [h])]; rfl
  | some region =>
    cases region with
    | registers => exact requests_writeRegisterByte b h v
    | save => exact requests_storeSave b h v
    | _ => rw [byteEvents_of_other b (by simp [h]) (by simp [h])]; rfl

/-- Elsewhere a stored halfword does nothing to the requests. -/
theorem events_storeHalf_of_other {a : Word} (hr : Region.of? a ≠ some .registers)
    (hs : Region.of? a ≠ some .save) (v : Half) : b.events (.storeHalf a v) = [] := by
  have h₀ := Region.of?_alignHalf a
  have h₁ := Region.of?_alignHalf_add a (i := 1) (by decide)
  rw [events, byteEvents_of_other b (h₀ ▸ hr) (h₀ ▸ hs), byteEvents_of_other b (h₁ ▸ hr) (h₁ ▸ hs)]
  rfl

/-- A stored halfword leaves the requests that its two bytes leave. -/
theorem requests_storeHalf (a : Word) (v : Half) :
    (b.storeHalf a v).requests = b.requests.applyAll (b.events (.storeHalf a v)) := by
  unfold storeHalf
  cases h : Region.of? a with
  | none => rw [events_storeHalf_of_other b (by simp [h]) (by simp [h])]; rfl
  | some region =>
    cases region with
    | registers => exact requests_writeRegister_half b h v
    | save =>
      dsimp only
      rw [requests_storeSave _ ((Region.of?_alignHalf_add a (by decide)).trans h),
        requests_storeSave _ ((Region.of?_alignHalf a).trans h), byteEvents_storeSave,
        ← Requests.applyAll_append]
      rfl
    | _ => rw [events_storeHalf_of_other b (by simp [h]) (by simp [h])]; rfl

/-- Elsewhere a stored word does nothing to the requests. -/
theorem events_storeWord_of_other {a : Word} (hr : Region.of? a ≠ some .registers)
    (hs : Region.of? a ≠ some .save) (v : Word) : b.events (.storeWord a v) = [] := by
  have h₀ := Region.of?_alignWord a
  have h₁ := Region.of?_alignWord_add a (i := 1) (by decide)
  have h₂ := Region.of?_alignWord_add a (i := 2) (by decide)
  have h₃ := Region.of?_alignWord_add a (i := 3) (by decide)
  rw [events, byteEvents_of_other b (h₀ ▸ hr) (h₀ ▸ hs), byteEvents_of_other b (h₁ ▸ hr) (h₁ ▸ hs),
    byteEvents_of_other b (h₂ ▸ hr) (h₂ ▸ hs), byteEvents_of_other b (h₃ ▸ hr) (h₃ ▸ hs)]
  rfl

/-- A stored word leaves the requests that its four bytes leave. -/
theorem requests_storeWord (a v : Word) :
    (b.storeWord a v).requests = b.requests.applyAll (b.events (.storeWord a v)) := by
  unfold storeWord
  cases h : Region.of? a with
  | none => rw [events_storeWord_of_other b (by simp [h]) (by simp [h])]; rfl
  | some region =>
    cases region with
    | registers =>
      have h₂ : Region.of? (a.alignWord + 2) = some .registers :=
        (Region.of?_alignWord_add a (by decide)).trans h
      have h₃ : Region.of? (a.alignWord + 3) = some .registers :=
        (Region.of?_alignWord_add a (by decide)).trans h
      have e₃ : a.alignWord + 2 + 1 = a.alignWord + 3 := by bv_omega
      dsimp only
      rw [Region.alignWord_registerOffset, Region.registerOffset_add,
        requests_writeRegister_half _ h₂,
        requests_writeRegister_half _ ((Region.of?_alignWord a).trans h),
        Word.alignHalf_alignWord, Word.alignHalf_alignWord_add_two, e₃,
        Word.low_lowHalf, Word.high_lowHalf, Word.low_highHalf, Word.high_highHalf,
        byteEvents_writeRegister b h₂, byteEvents_writeRegister b h₃, ← Requests.applyAll_append,
        ← List.append_assoc]
      rfl
    | save =>
      dsimp only
      rw [requests_storeSave _ ((Region.of?_alignWord_add a (by decide)).trans h),
        requests_storeSave _ ((Region.of?_alignWord_add a (by decide)).trans h),
        requests_storeSave _ ((Region.of?_alignWord_add a (by decide)).trans h),
        requests_storeSave _ ((Region.of?_alignWord a).trans h)]
      simp only [byteEvents_storeSave, ← Requests.applyAll_append]
      rfl
    | _ => rw [events_storeWord_of_other b (by simp [h]) (by simp [h])]; rfl

/-! ## Every action -/

/-- After some requests in a row a source is flagged if it was or was among them. -/
theorem has_flagged_foldl_request (c : Controller) (ks : List Source) (k : Source) :
    SourceSet.has (ks.foldl Controller.request c).flagged k
      = (SourceSet.has c.flagged k || decide (k ∈ ks)) := by
  induction ks generalizing c with
  | nil => simp
  | cons l ks ih =>
    rw [List.foldl_cons, ih]
    simp [Controller.request, Bool.or_assoc, eq_comm]

/-- **Delivering flags what was queued.** -/
theorem requests_deliver : b.deliver.requests = b.requests.apply .delivered := by
  refine Requests.ext rfl (SourceSet.ext fun k => ?_)
  refine (has_flagged_foldl_request b.interrupts _ k).trans ?_
  simp [Requests.apply, requests, Source.mem_all]

/-- **An action changes the requests as its events do.** -/
theorem requests_perform (x : Action) :
    (b.perform x).requests = b.requests.applyAll (b.events x) := by
  cases x with
  | raise k => rfl
  | press k => rfl
  | release k => rfl
  | advanceLine => rfl
  | request k => rfl
  | deliver => exact b.requests_deliver
  | storeByte a v => exact b.requests_storeByte a v
  | storeHalf a v => exact b.requests_storeHalf a v
  | storeWord a v => exact b.requests_storeWord a v

end Handheld.Bus

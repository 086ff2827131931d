import Handheld.Proofs.Bus.Actions
import Handheld.Proofs.Bus.Stores

/-!
# Proofs/Bus/Protection — what no store can do

A program reaches everything by stores, but each device keeps what belongs to the host from it:
stores leave the start-up code, the program, the line counter, the three status bits and the keys
alone.  To the interrupt controller they can clear flags, end the service of a cleared source and
halt, and of the marks and the queue they reach what a byte of the save memory sets.  One byte does
no more than that (`protected_storeByte`), so neither do any stores (`protected_storeAll`).
-/

namespace Handheld

namespace Region

variable {a r : Word}

/-- The low byte of the register at `r`. -/
theorem alignHalf_registerOffset_of_even (ha : a.toNat % 2 = 0) :
    (registerOffset a).alignHalf = r ↔ a = 0x04000000#32 + r := by
  rw [← BitVec.toNat_inj, ← BitVec.toNat_inj, Word.toNat_alignHalf, toNat_registerOffset,
    BitVec.toNat_add, show (0x04000000#32).toNat = 0x04000000 from rfl]
  have := a.isLt
  have := r.isLt
  omega

/-- The high byte of the register at `r`. -/
theorem alignHalf_registerOffset_of_odd (ha : a.toNat % 2 = 1) (hr : r.toNat % 2 = 0) :
    (registerOffset a).alignHalf = r ↔ a = 0x04000001#32 + r := by
  rw [← BitVec.toNat_inj, ← BitVec.toNat_inj, Word.toNat_alignHalf, toNat_registerOffset,
    BitVec.toNat_add, show (0x04000001#32).toNat = 0x04000001 from rfl]
  have := a.isLt
  have := r.isLt
  omega

end Region

/-! ## The interrupt controller -/

namespace Controller

/-- What writes can make of a controller: the flags of a set are cleared, the service of a source in
it has ended, and the processor may have been halted. -/
structure Curbed (c' c : Controller) (cleared : SourceSet) (halting : Bool) : Prop where
  /-- The flags of the set are cleared, and no flag is set. -/
  flagged : c'.flagged = c.flagged &&& ~~~cleared
  /-- A service goes on unless its source is in the set. -/
  servicing : c'.servicing = c.servicing.filter fun k => !SourceSet.has cleared k
  /-- A halt does not end. -/
  halted : c'.halted = (c.halted || halting)

variable {c c' c'' : Controller} {s t : SourceSet} {h g : Bool}

/-- What changes none of the requests is curbed without clearing or halting. -/
theorem Curbed.of_eq (hf : c'.flagged = c.flagged) (hs : c'.servicing = c.servicing)
    (hh : c'.halted = c.halted) : c'.Curbed c 0#14 false := by
  refine ⟨?_, ?_, ?_⟩
  · rw [hf, BitVec.not_zero, BitVec.and_allOnes]
  · rw [hs]
    cases c.servicing
    all_goals simp [Option.filter]
  · rw [hh, Bool.or_false]

/-- Two curbed changes are curbed together, by what either may clear or halt. -/
theorem Curbed.trans (h₂ : c''.Curbed c' t g) (h₁ : c'.Curbed c s h) :
    c''.Curbed c (s ||| t) (h || g) := by
  refine ⟨?_, ?_, ?_⟩
  · rw [h₂.flagged, h₁.flagged, BitVec.and_assoc, ← BitVec.not_or]
  · rw [h₂.servicing, h₁.servicing, Option.filter_filter]
    simp
  · rw [h₂.halted, h₁.halted, Bool.or_assoc]

/-- The flags that a write to a register clears. -/
def writeClears (a : Word) (value mask : Half) : SourceSet :=
  if a = flagsAddress then SourceSet.ofHalf (value &&& mask) else 0#14

/-- A write to a register halts the processor. -/
def writeHalts (a : Word) (value mask : Half) : Bool :=
  a = postFlagAddress && !(mask.high = 0#8 || value.getLsbD 15)

/-- A write that touches no request may halt at its end. -/
theorem Curbed.of_eq_of_halt (hf : c'.flagged = c.flagged) (hs : c'.servicing = c.servicing)
    (hh : c'.halted = c.halted) (running : Bool) :
    (if running then c' else c'.halt).Curbed c 0#14 (!running) := by
  have hc := Curbed.of_eq hf hs hh
  cases running with
  | true => exact hc
  | false => exact ⟨hc.flagged, hc.servicing, (Bool.or_true _).symm⟩

/-- **A write clears the flags of its ones in the request register, and nothing else ends or begins
but a halt.** -/
theorem curbed_write (c : Controller) (a : Word) (value mask : Half) :
    (c.write a value mask).Curbed c (writeClears a value mask) (writeHalts a value mask) := by
  by_cases hf : a = flagsAddress
  · subst hf
    exact ⟨rfl, rfl, (Bool.or_false _).symm⟩
  · rw [writeClears, if_neg hf, write, if_neg hf]
    by_cases hp : a = postFlagAddress
    · subst hp
      rw [if_neg (by decide), if_neg (by decide), if_pos rfl]
      refine .of_eq_of_halt ?_ ?_ ?_ _
      all_goals
        split
        all_goals rfl
    · have hh : writeHalts a value mask = false := by simp [writeHalts, hp]
      rw [hh, if_neg hp]
      split
      · exact .of_eq rfl rfl rfl
      · split
        · split
          all_goals exact .of_eq rfl rfl rfl
        · exact .of_eq rfl rfl rfl

end Controller

/-! ## The video unit -/

/-- A write leaves the registers at other addresses alone. -/
theorem RegisterBlock.cells_write_of_ne {base : Word} {n : Nat} (b : RegisterBlock base n)
    {a : Word} {i : Fin n} (h : index? base n a ≠ some i) (value mask : Half) :
    (b.write a value mask).cells.get i = b.cells.get i := by
  unfold write
  cases hj : index? base n a with
  | none => rfl
  | some j =>
    have hji : j.val ≠ i.val := fun he => h (hj.trans (congrArg some (Fin.ext he)))
    exact Vector.getElem_set_ne j.isLt _ hji

namespace Video

/-- The status of the picture is the only register at its address. -/
theorem index?_ne_status {a : Word} (ha : a.toNat % 2 = 0) (hs : a ≠ statusAddress) :
    RegisterBlock.index? 0#32 48 a ≠ some 2 := by
  rw [RegisterBlock.index?]
  intro h
  split at h
  · have hi : (a - 0#32).toNat / 2 = 2 := congrArg Fin.val (Option.some.inj h)
    rw [BitVec.sub_zero] at hi
    apply hs
    rw [← BitVec.toNat_inj, show statusAddress.toNat = 4 from rfl]
    omega
  · cases h

/-- No write moves the line counter. -/
theorem line_write (d : Video) (a : Word) (value mask : Half) :
    (d.write a value mask).line = d.line := by
  unfold write
  split
  · rfl
  · split
    all_goals rfl

/-- The status bits are out of reach of a merge that leaves them out of its mask. -/
theorem merge_and_statusBits (old value mask : Half) :
    Half.merge old value (mask &&& ~~~statusBits) &&& statusBits = old &&& statusBits := by
  apply BitVec.eq_of_getLsbD_eq
  intro i hi
  simp only [Half.merge, BitVec.getLsbD_and, BitVec.getLsbD_or, BitVec.getLsbD_not, hi,
    decide_true, Bool.true_and]
  cases statusBits.getLsbD i
  all_goals simp

/-- **A program cannot write the status bits.** -/
theorem status_write (d : Video) {a : Word} (ha : a.toNat % 2 = 0) (value mask : Half) :
    (d.write a value mask).status &&& statusBits = d.status &&& statusBits := by
  unfold write
  by_cases hl : a = lineAddress
  · rw [if_pos hl]
  · by_cases hs : a = statusAddress
    · rw [if_neg hl, if_pos hs, status_setStatus, merge_and_statusBits]
    · rw [if_neg hl, if_neg hs]
      exact congrArg (· &&& statusBits)
        (d.registers.cells_write_of_ne (index?_ne_status ha hs) value mask)

end Video

/-! ## The keys and the cartridge -/

theorem Keypad.released_write (d : Keypad) (a : Word) (value mask : Half) :
    (d.write a value mask).released = d.released := by
  unfold write
  split
  all_goals rfl

namespace Cartridge

variable (d : Cartridge) (a : Word) (value mask : Half)

theorem rom_write : (d.write a value mask).rom = d.rom := by
  unfold write
  split
  · rfl
  · split
    all_goals rfl

/-- No write changes the size of the save memory. -/
theorem size_save_write : (d.write a value mask).save.size = d.save.size := by
  unfold write
  split
  · rfl
  · split
    all_goals rfl

/-- A write sets no mark. -/
theorem changed_of_changed_write {i : Nat}
    (h : (d.write a value mask).changed.getLsbD i = true) : d.changed.getLsbD i = true := by
  unfold write at h
  split at h
  · exact h
  · split at h
    · rw [BitVec.getLsbD_and, Bool.and_eq_true] at h
      exact h.1
    · exact h

end Cartridge

namespace Bus

variable (b : Bus)

/-! ## What belongs to the host -/

/-- What only the host can change. -/
structure Sealed where
  /-- The start-up code. -/
  bios : Ram 14
  /-- The program. -/
  rom : Array Byte
  /-- The current line. -/
  line : Half
  /-- The three status bits of the video unit. -/
  status : Half
  /-- The released keys. -/
  released : BitVec 10

/-- What only the host can change, on this bus. -/
def kept : Sealed where
  bios := b.bios
  rom := b.cartridge.rom
  line := b.video.line
  status := b.video.status &&& Video.statusBits
  released := b.keypad.released

/-- It is part of the frame. -/
theorem kept_congr {b b' : Bus} (h : b'.frame = b.frame ∨ b'.frame = b.frame.saveChanged) :
    b'.kept = b.kept := by
  have hk (f : Frame) (hf : f = b.frame ∨ f = b.frame.saveChanged) :
      (⟨f.bios, f.rom, f.line, f.videoRegisters.cells[2] &&& Video.statusBits,
        f.keypad.released⟩ : Sealed) = b.kept := by
    rcases hf with rfl | rfl
    all_goals rfl
  exact hk b'.frame h

/-- Writing a register keeps all that is protected. -/
theorem kept_writeRegister (o : Word) (value mask : Half) :
    (b.writeRegister o value mask).kept = b.kept := by
  have ho : o.alignHalf.toNat % 2 = 0 := by
    rw [Word.toNat_alignHalf]
    omega
  unfold writeRegister
  dsimp only
  cases owner? o.alignHalf with
  | none => rfl
  | some owner =>
    cases owner with
    | video => simp only [kept, b.video.line_write, b.video.status_write ho]
    | keypad => simp only [kept, Keypad.released_write]
    | cartridge => simp only [kept, Cartridge.rom_write]
    | _ => rfl

/-! ## What a byte does -/

/-- The address of the byte that halts the processor. -/
def haltAddress : Word := 0x04000301#32

/-- The flags that a stored byte clears. -/
def clears (p : Word × Byte) : SourceSet :=
  if p.1 = flagsLow then lowSources p.2 else if p.1 = flagsHigh then highSources p.2 else 0#14

/-- A stored byte halts the processor. -/
def halts (p : Word × Byte) : Bool := p.1 = haltAddress && !p.2.msb

/-- A stored byte lies in the save memory. -/
def marks (p : Word × Byte) : Bool :=
  Region.of? p.1 = some .save ∧ Cartridge.saveOffset p.1 < b.cartridge.save.size

/-- The flags that some stored bytes clear. -/
def cleared (ps : List (Word × Byte)) : SourceSet := ps.foldr (fun p s => clears p ||| s) 0#14

/-- What is left of a bus after some bytes were stored. -/
structure Protected (b' b : Bus) (ps : List (Word × Byte)) : Prop where
  /-- What belongs to the host is as it was. -/
  kept : b'.kept = b.kept
  /-- The controller has lost the flags written as ones and the service of a source among them, and
  the processor has been halted if a byte halts it. -/
  controller : b'.interrupts.Curbed b.interrupts (cleared ps) (ps.any halts)
  /-- The save memory is as large as it was. -/
  saveSize : b'.cartridge.save.size = b.cartridge.save.size
  /-- No mark is set but the lowest, and that one by a byte of the save memory. -/
  marked : ∀ i, b'.cartridge.changed.getLsbD i = true →
    b.cartridge.changed.getLsbD i = true ∨ i = 0 ∧ ps.any b.marks = true
  /-- Nothing is queued but the cartridge, and that by a byte of the save memory. -/
  queue : b'.queue = if ps.any b.marks then b.queue ||| Source.gamePak.bit else b.queue

/-- Writing a register of the controller clears and halts what its lanes say. -/
theorem interrupts_writeRegister (o : Word) (value mask : Half) :
    (b.writeRegister o value mask).interrupts.Curbed b.interrupts
      (Controller.writeClears o.alignHalf value mask)
      (Controller.writeHalts o.alignHalf value mask) := by
  by_cases ho : owner? o.alignHalf = some .interrupts
  · unfold writeRegister
    dsimp only
    rw [ho]
    exact b.interrupts.curbed_write _ _ _
  · have hf : o.alignHalf ≠ Controller.flagsAddress := fun h => ho (h ▸ by decide)
    have hp : o.alignHalf ≠ Controller.postFlagAddress := fun h => ho (h ▸ by decide)
    have hw : (b.writeRegister o value mask).interrupts = b.interrupts := by
      unfold writeRegister
      dsimp only
      split
      case h_7 h => exact (ho h).elim
      all_goals rfl
    rw [Controller.writeClears, if_neg hf, Controller.writeHalts, decide_eq_false hp, hw]
    exact .of_eq rfl rfl rfl

theorem interrupts_writeRegisterByte (a : Word) (v : Byte) :
    (b.writeRegisterByte (Region.registerOffset a) v).interrupts.Curbed b.interrupts
      (clears (a, v)) (halts (a, v)) := by
  have hl : flagsLow.toNat % 2 = 0 := by decide
  have hh : flagsHigh.toNat % 2 = 1 := by decide
  have hp : haltAddress.toNat % 2 = 1 := by decide
  rw [writeRegisterByte, Region.getLsbD_zero_registerOffset]
  rcases Nat.mod_two_eq_zero_or_one a.toNat with ha | ha
  · -- A low byte may be that of the request register, and halts nothing.
    have hw := b.interrupts_writeRegister (Region.registerOffset a) (Half.ofBytes v 0#8) 0x00FF#16
    have hc : Controller.writeClears (Region.registerOffset a).alignHalf (Half.ofBytes v 0#8)
        0x00FF#16 = clears (a, v) := by
      have hne : a ≠ flagsHigh := by rintro rfl; omega
      rw [Controller.writeClears, ofHalf_and_low, clears, if_neg hne]
      exact if_congr (Region.alignHalf_registerOffset_of_even ha) rfl rfl
    have hs : Controller.writeHalts (Region.registerOffset a).alignHalf (Half.ofBytes v 0#8)
        0x00FF#16 = halts (a, v) := by
      have hne : a ≠ haltAddress := by rintro rfl; omega
      rw [Controller.writeHalts, halts, decide_eq_false hne]
      simp [show Half.high 0x00FF#16 = 0#8 by decide]
    rw [hc, hs] at hw
    rwa [if_neg (by simp [ha])]
  · -- A high byte may be that of the request register or the one that halts.
    have hw := b.interrupts_writeRegister (Region.registerOffset a) (Half.ofBytes 0#8 v) 0xFF00#16
    have hc : Controller.writeClears (Region.registerOffset a).alignHalf (Half.ofBytes 0#8 v)
        0xFF00#16 = clears (a, v) := by
      have hne : a ≠ flagsLow := by rintro rfl; omega
      rw [Controller.writeClears, ofHalf_and_high, clears, if_neg hne]
      exact if_congr (Region.alignHalf_registerOffset_of_odd ha (by decide)) rfl rfl
    have hs : Controller.writeHalts (Region.registerOffset a).alignHalf (Half.ofBytes 0#8 v)
        0xFF00#16 = halts (a, v) := by
      have hm : (Half.ofBytes 0#8 v).getLsbD 15 = v.msb := by
        rw [Half.getLsbD_ofBytes, if_neg (by decide), BitVec.msb_eq_getLsbD_last]
      have hr : (Region.registerOffset a).alignHalf = Controller.postFlagAddress
          ↔ a = haltAddress := Region.alignHalf_registerOffset_of_odd ha (by decide)
      rw [Controller.writeHalts, halts, hm, decide_eq_decide.mpr hr]
      rfl
    rw [hc, hs] at hw
    rwa [if_pos (by simp [ha])]

/-- A cartridge is written as by one of its registers, or not at all. -/
theorem cartridge_writeRegister (o : Word) (value mask : Half) :
    (b.writeRegister o value mask).cartridge = b.cartridge
      ∨ ∃ r, (b.writeRegister o value mask).cartridge = b.cartridge.write r value mask := by
  unfold writeRegister
  dsimp only
  split
  case h_8 => exact .inr ⟨_, rfl⟩
  all_goals exact .inl rfl

theorem queue_writeRegister (o : Word) (value mask : Half) :
    (b.writeRegister o value mask).queue = b.queue := by
  unfold writeRegister
  dsimp only
  split
  all_goals rfl

/-- A byte of a device register. -/
theorem protected_writeRegisterByte {a : Word} (h : Region.of? a = some .registers) (v : Byte) :
    (b.writeRegisterByte (Region.registerOffset a) v).Protected b [(a, v)] := by
  obtain ⟨value, mask, hw⟩ : ∃ value mask, b.writeRegisterByte (Region.registerOffset a) v
      = b.writeRegister (Region.registerOffset a) value mask := by
    unfold writeRegisterByte
    split
    all_goals exact ⟨_, _, rfl⟩
  have hmarks : [(a, v)].any b.marks = false := by simp [marks, h]
  refine ⟨?_, ?_, ?_, fun i hi => .inl ?_, ?_⟩
  · rw [hw, kept_writeRegister]
  · have hc := b.interrupts_writeRegisterByte a v
    simpa [cleared] using hc
  · rw [hw]
    obtain hc | ⟨r, hc⟩ := b.cartridge_writeRegister (Region.registerOffset a) value mask
    · rw [hc]
    · rw [hc, Cartridge.size_save_write]
  · rw [hw] at hi
    obtain hc | ⟨r, hc⟩ := b.cartridge_writeRegister (Region.registerOffset a) value mask
    · rwa [hc] at hi
    · rw [hc] at hi
      exact b.cartridge.changed_of_changed_write r value mask hi
  · rw [hw, queue_writeRegister, hmarks]
    rfl

/-- The bytes that mark the save memory are those of its cells. -/
theorem marks_eq (p : Word × Byte) : b.marks p = (b.cell? p.1).any (·.block = .save) := by
  rw [marks, cell?_eq]
  cases Region.of? p.1 with
  | none => rfl
  | some region =>
    cases region with
    | save =>
      rw [Option.bind_some, regionCell?]
      split
      all_goals simp [*]
    | _ => simp [regionCell?]

/-- A byte anywhere else leaves the frame alone, but for the mark of the save memory. -/
theorem protected_of_frame {b b' : Bus} {p : Word × Byte} (hr : Region.of? p.1 ≠ some .registers)
    (hf : b'.frame = if b.marks p then b.frame.saveChanged else b.frame) : b'.Protected b [p] := by
  have hc : cleared [p] = 0#14 := by
    have hl : p.1 ≠ flagsLow := fun h => hr (h ▸ by decide)
    have hh : p.1 ≠ flagsHigh := fun h => hr (h ▸ by decide)
    simp [cleared, clears, hl, hh]
  have hh : [p].any halts = false := by
    have hp : p.1 ≠ haltAddress := fun h => hr (h ▸ by decide)
    simp [halts, hp]
  have hm : [p].any b.marks = b.marks p := by simp
  have hcontroller {c : Controller} (h : c = b.interrupts) :
      c.Curbed b.interrupts (cleared [p]) ([p].any halts) := by
    rw [hc, hh, h]
    exact .of_eq rfl rfl rfl
  cases hp : b.marks p with
  | true =>
    rw [hp, if_pos rfl] at hf
    have hchanged : b'.cartridge.changed = b.cartridge.changed ||| 1#16 :=
      congrArg Frame.changed hf
    refine ⟨kept_congr (.inr hf), hcontroller (congrArg Frame.interrupts hf),
      congrArg Frame.saveSize hf, fun i hi => ?_, ?_⟩
    · rw [hchanged, BitVec.getLsbD_or, Bool.or_eq_true, BitVec.getLsbD_one] at hi
      rw [hm]
      exact hi.imp_right fun h => ⟨by simpa using h, hp⟩
    · rw [hm, hp]
      exact congrArg Frame.queue hf
  | false =>
    rw [hp, if_neg Bool.false_ne_true] at hf
    have hchanged : b'.cartridge.changed = b.cartridge.changed := congrArg Frame.changed hf
    refine ⟨kept_congr (.inl hf), hcontroller (congrArg Frame.interrupts hf),
      congrArg Frame.saveSize hf, fun i hi => .inl (hchanged ▸ hi), ?_⟩
    rw [hm, hp]
    exact congrArg Frame.queue hf

/-- **One byte, whatever its address.** -/
theorem protected_storeByte (a : Word) (v : Byte) : (b.storeByte a v).Protected b [(a, v)] := by
  by_cases h : Region.of? a = some .registers
  · rw [storeByte, h]
    exact b.protected_writeRegisterByte h v
  · refine protected_of_frame h ((b.frame_storeByte h v).trans ?_)
    rw [marks_eq, Frame.afterByte]

/-! ## What stores do -/

theorem cleared_cons (p : Word × Byte) (ps : List (Word × Byte)) :
    cleared (p :: ps) = cleared [p] ||| cleared ps := by
  simp [cleared]

/-- What is protected stays so when more bytes are stored. -/
theorem Protected.cons {b b' b'' : Bus} {p : Word × Byte} {ps : List (Word × Byte)}
    (h₁ : b'.Protected b [p]) (h₂ : b''.Protected b' ps) : b''.Protected b (p :: ps) := by
  have hm : b'.marks = b.marks := by
    funext q
    rw [marks, h₁.saveSize, marks]
  have hany (f : Word × Byte → Bool) : (p :: ps).any f = ([p].any f || ps.any f) := by simp
  refine ⟨h₂.kept.trans h₁.kept, ?_, h₂.saveSize.trans h₁.saveSize, fun i hi => ?_, ?_⟩
  · rw [cleared_cons, hany]
    exact h₂.controller.trans h₁.controller
  · rw [hany, Bool.or_eq_true]
    have hi := h₂.marked i hi
    rw [hm] at hi
    rcases hi with hi | ⟨h0, hps⟩
    · exact (h₁.marked i hi).imp_right fun h => ⟨h.1, .inl h.2⟩
    · exact .inr ⟨h0, .inr hps⟩
  · rw [h₂.queue, h₁.queue, hm, hany]
    cases [p].any b.marks
    all_goals cases ps.any b.marks
    all_goals simp [BitVec.or_assoc]

/-- **Bytes keep what is protected**, one after the other. -/
theorem protected_storeBytes (ps : List (Word × Byte)) : (b.storeBytes ps).Protected b ps := by
  induction ps generalizing b with
  | nil => exact ⟨rfl, .of_eq rfl rfl rfl, rfl, fun _ => .inl, rfl⟩
  | cons p ps ih => exact (b.protected_storeByte p.1 p.2).cons (ih (b.storeByte p.1 p.2))

/-- The address of the enable register. -/
def enableRegister : Word := 0x04000200#32

/-- The enable register names sources only. -/
theorem loadHalf_enableRegister_le : (b.loadHalf enableRegister).toNat ≤ 0x3FFF := by
  change (SourceSet.toHalf b.interrupts.enabled).toNat ≤ 0x3FFF
  have := b.interrupts.enabled.isLt
  rw [SourceSet.toHalf, BitVec.toNat_setWidth]
  omega

/-- **No store reaches what belongs to the host.**  After any stores of any widths to any addresses
the start-up code, the program, the line counter, the status bits and the keys are as they were, the
enable register still names sources only, the flags have lost exactly what was written as ones to
their two bytes and gained nothing, a halted processor is still halted, the service goes on unless
its source is among the flags that were cleared, and no mark was set and nothing queued but by a
byte inside the save memory. -/
theorem protected_storeAll (xs : List Store) :
    (b.storeAll xs).Protected b (xs.flatMap Store.bytes)
      ∧ ((b.storeAll xs).loadHalf enableRegister).toNat ≤ 0x3FFF := by
  rw [storeAll_eq_bytes]
  exact ⟨b.protected_storeBytes _, loadHalf_enableRegister_le _⟩

end Bus

end Handheld

import Handheld.Proofs.Bus.Bytes
import Handheld.Proofs.Checked.Execution
import Handheld.Proofs.Execution.Cases
import Handheld.Proofs.Shifter

/-!
# Proofs/Bus/Loads — a load instruction is its byte loads

Alignment is partly the processor's work and partly the memory's: a misaligned word is loaded around
its address and rotated, a misaligned halfword too, and with a sign it is the byte alone.  What
comes out is stated by the bytes on the bus (`Bus.loaded`), so that it does not matter who aligns,
in which region; the byte at the address is always the low one.
-/

namespace Handheld

namespace Word

/-! ## Bytes of a word -/

/-- Rotating a word by bytes moves every byte down, around the end. -/
theorem byte_rotateRight (w : Word) (k : Nat) {i : Nat} (hi : i < 4) :
    byte (w.rotateRight (8 * k)) i = w.byte ((k + i) % 4) := by
  apply BitVec.eq_of_getLsbD_eq
  intro j hj
  rw [getLsbD_byte _ _ hj, getLsbD_byte _ _ hj, getLsbD_rotateRight_word w _ (by omega)]
  exact congrArg w.getLsbD (by omega)

/-- A halfword extended with zeros. -/
theorem setWidth_ofBytes (b₀ b₁ : Byte) :
    (Half.ofBytes b₀ b₁).setWidth 32 = ofBytes b₀ b₁ 0#8 0#8 := by
  apply BitVec.eq_of_getLsbD_eq
  intro i hi
  rw [Half.ofBytes, ofBytes, BitVec.getLsbD_setWidth]
  simp only [BitVec.getLsbD_append, BitVec.getLsbD_zero, hi, decide_true, Bool.true_and]
  split
  · rfl
  · split
    · rfl
    · rw [BitVec.getLsbD_of_ge b₁ (i - 8) (by omega), ite_self]

/-- Rotating four bytes by one byte. -/
theorem rotateRight_ofBytes (b₀ b₁ b₂ b₃ : Byte) :
    BitVec.rotateRight (ofBytes b₀ b₁ b₂ b₃) 8 = ofBytes b₁ b₂ b₃ b₀ := by
  let f (i : Nat) : Byte := [b₀, b₁, b₂, b₃].getD i 0#8
  apply eq_of_byte
  intro i hi
  refine (byte_rotateRight _ 1 hi).trans ?_
  refine (byte_ofBytes f (Nat.mod_lt _ (by decide))).trans ?_
  exact (byte_ofBytes (fun i => f ((1 + i) % 4)) hi).symm

/-- The two low bits of an address are what is left of it modulo four. -/
theorem toNat_and_three (a : Word) : (a &&& 3#32).toNat = a.toNat % 4 := by
  rw [BitVec.toNat_and]
  exact Nat.and_two_pow_sub_one_eq_mod a.toNat 2

/-- An aligned address and low bits do not meet. -/
theorem alignWord_or_and_three (a x : Word) :
    a.alignWord ||| (x &&& 3#32) = a.alignWord + BitVec.ofNat 32 (x.toNat % 4) := by
  have hx : x &&& 3#32 = BitVec.ofNat 32 (x.toNat % 4) := by
    rw [← toNat_and_three, BitVec.ofNat_toNat, BitVec.setWidth_eq]
  have h : a.alignWord &&& (x &&& 3#32) = 0#32 := by
    rw [alignWord, BitVec.and_comm x, BitVec.and_assoc, ← BitVec.and_assoc (~~~3#32),
      BitVec.and_comm (~~~3#32), BitVec.and_not_self]
    exact (congrArg (a &&& ·) BitVec.zero_and).trans BitVec.and_zero
  rw [← BitVec.add_eq_or_of_and_eq_zero _ _ h, hx]

theorem alignHalf_of_even {a : Word} (h : a.getLsbD 0 = false) : a.alignHalf = a := by
  rw [BitVec.getLsbD, Nat.testBit_zero, decide_eq_false_iff_not] at h
  rw [alignHalf_eq_self_iff]
  omega

theorem alignHalf_of_odd {a : Word} (h : a.getLsbD 0 = true) : a.alignHalf = a - 1 := by
  rw [BitVec.getLsbD, Nat.testBit_zero, decide_eq_true_iff] at h
  rw [← BitVec.toNat_inj, toNat_alignHalf, BitVec.toNat_sub, show (1 : Word).toNat = 1 from rfl]
  omega

/-- Extending a value keeps its low byte. -/
theorem byte_zero_setWidth {n : Nat} (v : BitVec n) :
    byte (v.setWidth 32) 0 = v.extractLsb' 0 8 := by
  apply BitVec.eq_of_getLsbD_eq
  intro i hi
  rw [getLsbD_byte _ _ hi, BitVec.getLsbD_setWidth, BitVec.getLsbD_extractLsb']
  simp [hi, show i < 32 by omega]

/-- The low byte of a value extended with its sign is its own. -/
theorem byte_zero_signExtend {n : Nat} (hn : 8 ≤ n) (v : BitVec n) :
    byte (v.signExtend 32) 0 = v.extractLsb' 0 8 := by
  apply BitVec.eq_of_getLsbD_eq
  intro i hi
  rw [getLsbD_byte _ _ hi, BitVec.getLsbD_signExtend, BitVec.getLsbD_extractLsb']
  simp [hi, show i < 32 by omega, show i < n by omega]

end Word

namespace Bus

/-- The byte of the word around an address that lies `i` bytes past the address, around the end of
the word. -/
def byteAround (b : Bus) (a : Word) (i : Nat) : Byte :=
  b.loadByte (a.alignWord ||| ((a + BitVec.ofNat 32 i) &&& 3#32))

/-- What a load gives, by the bytes on the bus.  A halfword at an odd address comes with its bytes
apart, the one at the address lowest and the one before it highest. -/
def loaded (b : Bus) (kind : LoadKind) (a : Word) : Word :=
  match kind with
  | .word =>
    Word.ofBytes (b.byteAround a 0) (b.byteAround a 1) (b.byteAround a 2) (b.byteAround a 3)
  | .byte => (b.loadByte a).setWidth 32
  | .half =>
    if a.getLsbD 0 then Word.ofBytes (b.loadByte a) 0#8 0#8 (b.loadByte (a - 1))
    else (Half.ofBytes (b.loadByte a) (b.loadByte (a + 1))).setWidth 32
  | .signedByte => (b.loadByte a).signExtend 32
  | .signedHalf =>
    if a.getLsbD 0 then (b.loadByte a).signExtend 32
    else (Half.ofBytes (b.loadByte a) (b.loadByte (a + 1))).signExtend 32

variable (b : Bus) (a : Word)

/-! ## Words -/

/-- The bytes of a word are those from its aligned address up. -/
theorem byte_loadWord {i : Nat} (hi : i < 4) :
    (b.loadWord a).byte i = b.loadByte (a.alignWord + BitVec.ofNat 32 i) := by
  have h := Word.byte_ofBytes (fun i => b.loadByte (a.alignWord + BitVec.ofNat 32 i)) hi
  rw [BitVec.add_zero] at h
  rw [loadWord_eq_bytes]
  exact h

/-- The word around an address, rotated, is its bytes from the address on. -/
theorem loadWord_rotateRight :
    (b.loadWord a.alignWord).rotateRight (8 * (a &&& 3#32).toNat) = b.loaded .word a := by
  apply Word.eq_of_byte
  intro i hi
  rw [loaded, Word.byte_ofBytes (b.byteAround a) hi, byteAround, Word.alignWord_or_and_three,
    Word.byte_rotateRight _ _ hi, byte_loadWord _ _ (Nat.mod_lt _ (by decide)),
    Word.alignWord_alignWord, Word.toNat_and_three, BitVec.toNat_add, BitVec.toNat_ofNat]
  exact congrArg (fun n => b.loadByte (a.alignWord + BitVec.ofNat 32 n)) (by omega)

/-! ## Halfwords -/

/-- A halfword at an even address starts there. -/
theorem loadHalf_of_even {a : Word} (h : a.getLsbD 0 = false) :
    b.loadHalf a = Half.ofBytes (b.loadByte a) (b.loadByte (a + 1)) := by
  rw [loadHalf_eq_bytes, Word.alignHalf_of_even h]

/-- A halfword around an odd address starts one byte before it. -/
theorem loadHalf_of_odd {a : Word} (h : a.getLsbD 0 = true) :
    b.loadHalf a = Half.ofBytes (b.loadByte (a - 1)) (b.loadByte a) := by
  rw [loadHalf_eq_bytes, Word.alignHalf_of_odd h, BitVec.sub_add_cancel]

end Bus

namespace Context

/-- What a load asks of the bus, by the bytes there. -/
theorem loadKind_eq_loaded (c : Context Bus) (kind : LoadKind) (a : Word) :
    c.loadKind kind a = (c.memory.loaded kind a, c) := by
  cases kind with
  | word => exact congrArg (·, c) (c.memory.loadWord_rotateRight a)
  | byte => rfl
  | signedByte => rfl
  | half =>
    change (((c.memory.loadHalf a).setWidth 32).rotateRight (if a.getLsbD 0 then 8 else 0), c) = _
    rw [Bus.loaded]
    cases h : a.getLsbD 0
    · rw [if_neg nofun, if_neg nofun, Bus.loadHalf_of_even _ h]
      exact congrArg (·, c) (ShiftKind.ror.shift_zero _)
    · rw [if_pos rfl, if_pos rfl, Bus.loadHalf_of_odd _ h, Word.setWidth_ofBytes,
        Word.rotateRight_ofBytes]
  | signedHalf =>
    rw [loadKind, Bus.loaded]
    cases h : a.getLsbD 0
    · rw [if_neg nofun, if_neg nofun, ← Bus.loadHalf_of_even _ h]
      rfl
    · rw [if_pos rfl, if_pos rfl]
      rfl

end Context

/-! ## The low byte -/

namespace Bus

/-- The first byte around an address is the byte there. -/
theorem byteAround_zero (b : Bus) (a : Word) : b.byteAround a 0 = b.loadByte a := by
  have h : a.alignWord + BitVec.ofNat 32 (a.toNat % 4) = a := by
    have := a.isLt
    rw [← BitVec.toNat_inj, BitVec.toNat_add, Word.toNat_alignWord, BitVec.toNat_ofNat]
    omega
  rw [byteAround, BitVec.add_zero, Word.alignWord_or_and_three, h]

/-- The byte at the address is the low byte of what is loaded, however wide. -/
theorem byte_zero_loaded (b : Bus) (kind : LoadKind) (a : Word) :
    (b.loaded kind a).byte 0 = b.loadByte a := by
  have hbyte (v : Byte) : v.extractLsb' 0 8 = v := BitVec.extractLsb'_eq_self
  have hlow (b₀ b₁ : Byte) : (Half.ofBytes b₀ b₁).extractLsb' 0 8 = b₀ := Half.low_ofBytes b₀ b₁
  cases kind with
  | word => exact (Word.byte_ofBytes (b.byteAround a) (by decide)).trans (b.byteAround_zero a)
  | byte => rw [loaded, Word.byte_zero_setWidth, hbyte]
  | signedByte => rw [loaded, Word.byte_zero_signExtend (by decide), hbyte]
  | half =>
    rw [loaded]
    split
    · exact Word.byte_ofBytes (fun i => [b.loadByte a, 0#8, 0#8, b.loadByte (a - 1)].getD i 0#8)
        (by decide)
    · rw [Word.byte_zero_setWidth, hlow]
  | signedHalf =>
    rw [loaded]
    split
    · rw [Word.byte_zero_signExtend (by decide), hbyte]
    · rw [Word.byte_zero_signExtend (by decide), hlow]

end Bus

/-! ## Load instructions -/

/-- **A load instruction agrees with loads of bytes.**  If it does not load the program counter or
move it as its base, it loads from the base, moved before the access if it is indexed early, what
the bytes there make; the base is moved if it is indexed late or writes back, and then the
destination is written, so that a base that is also the destination ends with what was loaded.  The
offset is that of before any write, nothing else changes, and the low byte is always the byte at the
address.  The execution that checks each rotation and goes to each region in the width of the load
succeeds, with the same outcome. -/
theorem load_bytewise (hook? : Option (Hook Bus)) (i : Instruction) (r : Registers) (b : Bus)
    (holds : i.condition.holds r.flags = true) {kind : LoadKind} {mode : Addressing} {rd : Register}
    {offset : Operand} (hi : i.operation = .load kind mode rd offset) (hd : rd ≠ .pc)
    (hb : (!mode.early || mode.writeBack) = true → mode.base ≠ .pc) :
    let c := Context.start r b
    let base := c.read mode.base
    let moved := if mode.up then base + (c.operand offset).1 else base - (c.operand offset).1
    let a := if mode.early then moved else base
    let outcome : Outcome Bus :=
      ⟨(if !mode.early || mode.writeBack then r.write mode.base moved else r).write rd
        (b.loaded kind a), b, .ok ⟨i.operation.cycles, false⟩⟩
    execute hook? i r b = outcome
    ∧ checkedExecute hook? i r b = .ok outcome
    ∧ (b.loaded kind a).byte 0 = b.loadByte a := by
  intro c base moved a outcome
  suffices h : execute hook? i r b = outcome from
    ⟨h, (checkedExecute_eq_ok hook? i r b).trans (congrArg Except.ok h), b.byte_zero_loaded kind a⟩
  change execute hook? i r b = ⟨_, b, .ok ⟨i.operation.cycles, false⟩⟩
  rw [execute_of_operation holds hi nofun, hi]
  have hl : (c.loadKind kind a) = (b.loaded kind a, c) := c.loadKind_eq_loaded kind a
  change (((c.loadKind kind a).2.writeBack mode moved).write rd (c.loadKind kind a).1).retire _ = _
  rw [hl]
  dsimp only
  rw [Context.write, if_neg hd, Context.writeBack]
  split
  · next h =>
    rw [Context.write, if_neg (hb h)]
    rfl
  · rfl

/-- The instruction `LDRH r1, [r0], #2`. -/
def loadHalfPast : Instruction := ⟨.al, .load .half ⟨.r0, true, false, false⟩ .r1 (.immediate 2#32)⟩

/-- Registers with an odd address in r0. -/
def oddAddress : Registers := Registers.initial.write .r0 0x08000001#32

/-- A halfword at an odd address, past the end of the program, has its two bytes apart. -/
theorem oddAddress_bytewise :
    loadHalfPast.condition.holds oddAddress.flags = true ∧ Register.r1 ≠ .pc ∧ Register.r0 ≠ .pc
      ∧ execute none loadHalfPast oddAddress (Bus.new (.new #[] 0))
        = ⟨(oddAddress.write .r0 0x08000003#32).write .r1 0xFF0000FF#32, Bus.new (.new #[] 0),
          .ok ⟨3, false⟩⟩
      ∧ checkedExecute none loadHalfPast oddAddress (Bus.new (.new #[] 0))
        = .ok ⟨(oddAddress.write .r0 0x08000003#32).write .r1 0xFF0000FF#32, Bus.new (.new #[] 0),
          .ok ⟨3, false⟩⟩ := by
  have h := load_bytewise none loadHalfPast oddAddress (Bus.new (.new #[] 0)) rfl rfl (by decide)
    fun _ => by decide
  exact ⟨rfl, by decide, by decide, h.1, h.2.1⟩

end Handheld

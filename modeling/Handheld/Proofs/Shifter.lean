import Mathlib.Logic.Function.Iterate
import Handheld.Encoding.Narrow
import Handheld.Encoding.Wide
import Handheld.Execution.Context
import Handheld.Proofs.Checked.Registers

/-!
# Proofs/Shifter — a shift is that many single-bit shifts

A barrel shifter moves a word by any distance at once, with regimes of its own at zero, at the width
and beyond it.  Its reference is the shift by one bit, which moves the last bit out into the carry
(`ShiftKind.step`): shifting by `n` is that step `n` times, in every regime
(`apply_eq_iterate`).  So it does not matter where the distance comes from, and shifts add up
(`shifts_iterate`).
-/

namespace Handheld

/-- Moves a word right by one bit under a new top bit; the bit moved out becomes the carry. -/
def shiftIn (v : Word) (top : Bool) : Word × Bool :=
  ((BitVec.cons top v).extractLsb' 1 32, v.getLsbD 0)

/-- One place further down, with the given bit on top. -/
theorem getLsbD_shiftIn (v : Word) (top : Bool) {i : Nat} (hi : i < 32) :
    (shiftIn v top).1.getLsbD i = if i = 31 then top else v.getLsbD (i + 1) := by
  rw [shiftIn, BitVec.getLsbD_extractLsb', BitVec.getLsbD_cons, Nat.add_comm 1 i]
  simp [hi, show (i + 1 = 32) = (i = 31) by simp]

/-- A word that moved right under a top bit, bit by bit. -/
theorem eq_shiftIn {v w : Word} {top carry : Bool}
    (below : ∀ i, i < 31 → w.getLsbD i = v.getLsbD (i + 1)) (above : w.getLsbD 31 = top)
    (out : carry = v.getLsbD 0) : shiftIn v top = (w, carry) := by
  refine Prod.ext ?_ out.symm
  apply BitVec.eq_of_getLsbD_eq
  intro i hi
  rw [getLsbD_shiftIn v top hi]
  by_cases h : i = 31
  · rw [if_pos h, h, above]
  · rw [if_neg h, below i (by omega)]

/-- A rotation moves every bit down, around the end. -/
theorem getLsbD_rotateRight_word (v : Word) (n : Nat) {i : Nat} (hi : i < 32) :
    (v.rotateRight n).getLsbD i = v.getLsbD ((n + i) % 32) := by
  rw [BitVec.getLsbD_rotateRight]
  by_cases h : i < 32 - n % 32
  · simp [h, show (n + i) % 32 = n % 32 + i by omega]
  · simp [h, hi, show (n + i) % 32 = i - (32 - n % 32) by omega]

/-- Rotating word and carry together moves the carry in. -/
theorem rotateThroughCarry_eq_shiftIn (v : Word) (carry : Bool) :
    rotateThroughCarry v carry = shiftIn v carry := by
  symm
  apply eq_shiftIn
  · intro i hi
    rw [BitVec.getLsbD_append, if_pos hi, BitVec.getLsbD_extractLsb', Nat.add_comm 1 i]
    simp [hi]
  · rw [BitVec.getLsbD_append, if_neg (by omega), BitVec.getLsbD_ofBool]
    rfl
  · rfl

/-- With its carry on top, a word that moved right is the 33 bits of both rotated by one. -/
theorem cons_shiftIn (v : Word) (top : Bool) :
    BitVec.cons (shiftIn v top).2 (shiftIn v top).1 = (BitVec.cons top v).rotateRight 1 := by
  apply BitVec.eq_of_getLsbD_eq
  intro i hi
  rw [BitVec.getLsbD_rotateRight, BitVec.getLsbD_cons]
  by_cases h : i = 32
  · subst h
    change v.getLsbD 0 = (BitVec.cons top v).getLsbD 0
    rw [BitVec.getLsbD_cons]
    rfl
  · rw [if_neg h, getLsbD_shiftIn v top (by omega), BitVec.getLsbD_cons]
    simp [show i < 32 by omega, Nat.add_comm 1 i]

namespace ShiftKind

/-! ## One bit -/

/-- The shift by one bit of a word, and the carry after it. -/
def step (k : ShiftKind) (s : Word × Bool) : Word × Bool :=
  match k with
  | lsl => (s.1 <<< 1, s.1.getLsbD 31)
  | lsr => shiftIn s.1 false
  | asr => shiftIn s.1 (s.1.getLsbD 31)
  | ror => shiftIn s.1 (s.1.getLsbD 0)

theorem shift_zero (k : ShiftKind) (v : Word) : k.shift v 0 = v := by
  cases k <;> simp [shift, BitVec.rotateRight_def]

theorem fst_apply (k : ShiftKind) (v : Word) (n : Nat) (carry : Bool) :
    (k.apply v n carry).1 = k.shift v n := by
  unfold apply
  split
  · next h => rw [h, shift_zero]
  · rfl

section Step

variable (v : Word) (n : Nat) (carry : Bool)

/-- One place further left from `n` places on. -/
theorem step_lsl : step lsl (v <<< n, carry) = (lsl.shift v (n + 1), lsl.carryOut v (n + 1)) := by
  refine Prod.ext (BitVec.shiftLeft_add v n 1).symm ?_
  change (v <<< n).getLsbD 31 = (decide (n + 1 ≤ 32) && v.getLsbD (32 - (n + 1)))
  rw [BitVec.getLsbD_shiftLeft, show 32 - (n + 1) = 31 - n by omega]
  by_cases h : n + 1 ≤ 32
  · simp [h, show ¬31 < n by omega]
  · simp [h, show 31 < n by omega]

/-- One place further right from `n` places on, filled with zero. -/
theorem step_lsr : step lsr (v >>> n, carry) = (lsr.shift v (n + 1), lsr.carryOut v (n + 1)) := by
  apply eq_shiftIn
  · intro i _
    simp only [shift, BitVec.getLsbD_ushiftRight]
    rw [Nat.add_assoc, Nat.add_comm 1 i]
  · simp only [shift, BitVec.getLsbD_ushiftRight]
    exact BitVec.getLsbD_of_ge v _ (by omega)
  · simp [carryOut]

/-- One place further right from `n` places on, filled with the sign. -/
theorem step_asr :
    step asr (v.sshiftRight n, carry) = (asr.shift v (n + 1), asr.carryOut v (n + 1)) := by
  have bit (m : Nat) {i : Nat} (hi : i < 32) :
      (v.sshiftRight m).getLsbD i = v.getLsbD (min (m + i) 31) := by
    rw [BitVec.getLsbD_sshiftRight, BitVec.msb_eq_getLsbD_last]
    by_cases h : m + i < 32
    · simp [h, show ¬32 ≤ i by omega, show min (m + i) 31 = m + i by omega]
    · simp [h, show ¬32 ≤ i by omega, show min (m + i) 31 = 31 by omega]
  apply eq_shiftIn
  · intro i hi
    rw [shift, bit _ (by omega), bit _ (by omega), Nat.add_right_comm, Nat.add_assoc]
  · rw [shift, bit _ (by omega), bit _ (by omega)]
    congr 1
    omega
  · rw [bit _ (by omega)]
    rfl

/-- One place further around from `n` places on. -/
theorem step_ror :
    step ror (v.rotateRight n, carry) = (ror.shift v (n + 1), ror.carryOut v (n + 1)) := by
  apply eq_shiftIn
  · intro i hi
    rw [shift, getLsbD_rotateRight_word _ _ (by omega), getLsbD_rotateRight_word _ _ (by omega),
      Nat.add_right_comm, Nat.add_assoc]
  · rw [shift, getLsbD_rotateRight_word _ _ (by omega), getLsbD_rotateRight_word _ _ (by omega)]
    congr 1
    omega
  · rw [carryOut, BitVec.msb_eq_getLsbD_last, getLsbD_rotateRight_word _ _ (by omega),
      getLsbD_rotateRight_word _ _ (by omega)]
    congr 1
    omega

end Step

/-- Shifting by one bit more is one step more. -/
theorem step_shift (k : ShiftKind) (v : Word) (n : Nat) (carry : Bool) :
    k.step (k.shift v n, carry) = (k.shift v (n + 1), k.carryOut v (n + 1)) := by
  cases k with
  | lsl => exact step_lsl v n carry
  | lsr => exact step_lsr v n carry
  | asr => exact step_asr v n carry
  | ror => exact step_ror v n carry

/-! ## Any distance -/

/-- A shift by one more is one more step. -/
theorem apply_succ (k : ShiftKind) (v : Word) (n : Nat) (carry : Bool) :
    k.apply v (n + 1) carry = k.step (k.apply v n carry) := by
  have h := k.step_shift v n (k.apply v n carry).2
  rw [← fst_apply k v n carry] at h
  exact h.symm

/-- Shifting by `n` is shifting by one bit `n` times. -/
theorem apply_eq_iterate (k : ShiftKind) (v : Word) (n : Nat) (carry : Bool) :
    k.apply v n carry = k.step^[n] (v, carry) := by
  induction n with
  | zero => rfl
  | succ n ih => rw [apply_succ, ih, Function.iterate_succ_apply']

/-- Shifting the word and the carry of a shift goes on shifting. -/
theorem apply_apply (k : ShiftKind) (v : Word) (n m : Nat) (carry : Bool) :
    k.apply (k.apply v n carry).1 m (k.apply v n carry).2 = k.apply v (n + m) carry := by
  rw [apply_eq_iterate k _ m, Prod.eta, apply_eq_iterate, apply_eq_iterate, Nat.add_comm n m,
    Function.iterate_add_apply]

/-! ## Operands -/

/-- The distance that a field of five bits stands for: a zero asks a right shift for the width. -/
def distance (k : ShiftKind) (field : Nat) : Nat :=
  match k with
  | lsl | ror => field
  | lsr | asr => if field = 0 then 32 else field

end ShiftKind

/-- A shifted register as its word encodes it: a field of zero asks a rotation for the carry. -/
theorem Wide.shiftedRegister_eq (w : Word) : Wide.shiftedRegister w
    = if ShiftKind.ofCode (w.extractLsb' 5 2) = .ror ∧ (w.extractLsb' 7 5).toNat = 0 then
        .throughCarry (register w 0)
      else .shifted (register w 0) (ShiftKind.ofCode (w.extractLsb' 5 2))
        ((ShiftKind.ofCode (w.extractLsb' 5 2)).distance (w.extractLsb' 7 5).toNat) := by
  unfold Wide.shiftedRegister
  generalize ShiftKind.ofCode (w.extractLsb' 5 2) = kind
  cases kind with
  | lsl => simp [ShiftKind.distance]
  | lsr => simp [ShiftKind.distance]
  | asr => simp [ShiftKind.distance]
  | ror => simp [ShiftKind.distance]

/-- A narrow shift moves the shifted register, and does not rotate. -/
theorem Narrow.shiftOrAdd_eq {h : Half} (hk : h.extractLsb' 11 2 ≠ 0b11#2) : Narrow.shiftOrAdd h
    = .move .mov true (low h 0) (.fixed (.shifted (low h 3) (ShiftKind.ofCode (h.extractLsb' 11 2))
      ((ShiftKind.ofCode (h.extractLsb' 11 2)).distance (h.extractLsb' 6 5).toNat))) := by
  unfold Narrow.shiftOrAdd
  generalize h.extractLsb' 11 2 = code at hk ⊢
  have hcode : code = 0b00#2 ∨ code = 0b01#2 ∨ code = 0b10#2 := by
    revert code
    decide
  rcases hcode with rfl | rfl | rfl
  all_goals rfl

namespace Context

variable {M : Type}

/-- The word that a shift by a register starts from. -/
def shiftedByRegister (c : Context M) (n : Register) : Word :=
  if n = .pc then c.pc + 4 else c.read n

/-- The shifter starts from a register and the carry. -/
theorem operand_shiftedRegister (c : Context M) (w : Word) : c.operand (Wide.shiftedRegister w)
    = if ShiftKind.ofCode (w.extractLsb' 5 2) = .ror ∧ (w.extractLsb' 7 5).toNat = 0 then
        rotateThroughCarry (c.read (Wide.register w 0)) c.flags.carry
      else (ShiftKind.ofCode (w.extractLsb' 5 2)).step^[
          (ShiftKind.ofCode (w.extractLsb' 5 2)).distance (w.extractLsb' 7 5).toNat]
        (c.read (Wide.register w 0), c.flags.carry) := by
  rw [Wide.shiftedRegister_eq]
  split
  · rfl
  · exact ShiftKind.apply_eq_iterate _ _ _ _

/-- **The barrel shifter is that many single-bit shifts.**  Word and carry of a shift by `n` are `n`
steps from the word and the carry before, whatever `n`, and they are the same where each range of
distances has a case of its own with its shifts checked (`ShiftKind.checkedApply`).  So they are for
a register shifted by the low byte of another, and for one whose distance stands in the instruction,
wide or narrow, where a field of zero is a distance of zero for a left shift, of the width for a
right shift, and turns a rotation into one step of the rotation of word and carry together.  Both
forms of an operand agree, and shifting on adds up. -/
theorem shifts_iterate (c : Context M) :
    (∀ (k : ShiftKind) v n carry, k.apply v n carry = k.step^[n] (v, carry))
    ∧ (∀ (k : ShiftKind) v n carry, k.checkedApply v n carry = .ok (k.step^[n] (v, carry)))
    ∧ (∀ n k d, c.operand (.shifted n k d) = k.step^[d] (c.read n, c.flags.carry))
    ∧ (∀ n k d, c.dataOperand (.byRegister n k d)
        = k.step^[((c.read d).byte 0).toNat] (c.shiftedByRegister n, c.flags.carry))
    ∧ (∀ w, c.operand (Wide.shiftedRegister w)
        = if ShiftKind.ofCode (w.extractLsb' 5 2) = .ror ∧ (w.extractLsb' 7 5).toNat = 0 then
            rotateThroughCarry (c.read (Wide.register w 0)) c.flags.carry
          else (ShiftKind.ofCode (w.extractLsb' 5 2)).step^[
              (ShiftKind.ofCode (w.extractLsb' 5 2)).distance (w.extractLsb' 7 5).toNat]
            (c.read (Wide.register w 0), c.flags.carry))
    ∧ (∀ h, h.extractLsb' 11 2 ≠ 0b11#2 → ∃ operand,
        Narrow.shiftOrAdd h = .move .mov true (Narrow.low h 0) (.fixed operand)
          ∧ c.operand operand = (ShiftKind.ofCode (h.extractLsb' 11 2)).step^[
              (ShiftKind.ofCode (h.extractLsb' 11 2)).distance (h.extractLsb' 6 5).toNat]
            (c.read (Narrow.low h 3), c.flags.carry))
    ∧ (∀ v carry, BitVec.cons (rotateThroughCarry v carry).2 (rotateThroughCarry v carry).1
        = (BitVec.cons carry v).rotateRight 1)
    ∧ (∀ v carry, checkedRotateThroughCarry v carry = .ok (rotateThroughCarry v carry))
    ∧ (∀ n k d, n ≠ .pc → c.dataOperand (.byRegister n k d)
        = c.operand (.shifted n k ((c.read d).byte 0).toNat))
    ∧ ∀ (k : ShiftKind) v n m carry,
        k.apply (k.apply v n carry).1 m (k.apply v n carry).2 = k.apply v (n + m) carry := by
  refine ⟨ShiftKind.apply_eq_iterate, ?_, ?_, ?_, c.operand_shiftedRegister, ?_, ?_,
    checkedRotateThroughCarry_eq_ok, ?_, ShiftKind.apply_apply⟩
  · intro k v n carry
    rw [ShiftKind.checkedApply_eq_ok, ShiftKind.apply_eq_iterate]
  · intro n k d
    exact ShiftKind.apply_eq_iterate k (c.read n) d c.flags.carry
  · intro n k d
    exact ShiftKind.apply_eq_iterate k (c.shiftedByRegister n) _ _
  · intro h hk
    exact ⟨_, Narrow.shiftOrAdd_eq hk, ShiftKind.apply_eq_iterate _ _ _ _⟩
  · intro v carry
    rw [rotateThroughCarry_eq_shiftIn, cons_shiftIn]
  · intro n k d hn
    simp only [dataOperand, operand, if_neg hn]

/-- A context with something to rotate, by more than the width of a word. -/
def rotating : Context Unit :=
  start ((Registers.initial.write .r1 0x80000001#32).write .r2 0xABCDEF21#32) ()

/-- A rotation by 33 places, by a register and by a number, and a narrow one decoded from its
bits. -/
theorem rotating_agrees : Register.r1 ≠ .pc
    ∧ rotating.dataOperand (.byRegister .r1 .ror .r2) = (0xC0000000#32, true)
    ∧ rotating.operand (.shifted .r1 .ror 33) = (0xC0000000#32, true)
    ∧ ∃ operand, Narrow.shiftOrAdd 0x1048#16 = .move .mov true .r0 (.fixed operand)
        ∧ rotating.operand operand = (0xC0000000#32, true) := by
  obtain ⟨-, -, -, -, -, hnarrow, -, -, hagree, -⟩ := rotating.shifts_iterate
  obtain ⟨operand, hmove, hoperand⟩ := hnarrow 0x1048#16 (by decide)
  refine ⟨by decide, (hagree .r1 .ror .r2 (by decide)).trans ?_, ?_, operand, hmove,
    hoperand.trans ?_⟩
  all_goals decide

end Context

end Handheld

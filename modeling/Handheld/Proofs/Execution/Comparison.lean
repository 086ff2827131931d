import Handheld.Proofs.Execution.Arithmetic

/-!
# Proofs/Execution/Comparison — conditions tell how words compare

A comparison subtracts and drops the difference, and the conditions read its flags.  Without sign
the carry tells the order, since a subtraction sets it if nothing was borrowed.  With sign the order
is the sign of the exact difference, which the sign of the result tells unless the subtraction has
overflowed: overflow and sign together give the sign of the exact result of every addition and
subtraction (`ArithmeticOp.negative_bne_overflow`).
-/

namespace Handheld

/-! ## What conditions tell -/

/-- The signed conditions compare a number with zero. -/
structure Flags.TellsSign (f : Flags) (u : Int) : Prop where
  ge : Condition.ge.holds f = true ↔ 0 ≤ u
  lt : Condition.lt.holds f = true ↔ u < 0
  gt : Condition.gt.holds f = true ↔ 0 < u
  le : Condition.le.holds f = true ↔ u ≤ 0

/-- The conditions compare two words: for equality, without sign, and with sign. -/
structure Flags.TellsOrder (f : Flags) (a b : Word) : Prop where
  eq : Condition.eq.holds f = true ↔ a = b
  ne : Condition.ne.holds f = true ↔ a ≠ b
  cs : Condition.cs.holds f = true ↔ b.toNat ≤ a.toNat
  cc : Condition.cc.holds f = true ↔ a.toNat < b.toNat
  hi : Condition.hi.holds f = true ↔ b.toNat < a.toNat
  ls : Condition.ls.holds f = true ↔ a.toNat ≤ b.toNat
  ge : Condition.ge.holds f = true ↔ b.toInt ≤ a.toInt
  lt : Condition.lt.holds f = true ↔ a.toInt < b.toInt
  gt : Condition.gt.holds f = true ↔ b.toInt < a.toInt
  le : Condition.le.holds f = true ↔ a.toInt ≤ b.toInt

namespace ArithmeticOp

variable (k : ArithmeticOp) (carry : Bool) (a b : Word)

/-! ## The sign of the exact result -/

/-- Read with or without sign, two words have the same result. -/
theorem result_eq_ofInt_toInt :
    k.result carry a b = BitVec.ofInt 32 (k.exact carry a.toInt b.toInt) := by
  have ha : (a.toNat : Int) = a.toInt ∨ (a.toNat : Int) = a.toInt + 2 ^ 32 := by
    rw [BitVec.toInt_eq_toNat_cond]
    split <;> omega
  have hb : (b.toNat : Int) = b.toInt ∨ (b.toNat : Int) = b.toInt + 2 ^ 32 := by
    rw [BitVec.toInt_eq_toNat_cond]
    split <;> omega
  apply BitVec.eq_of_toNat_eq
  rw [result, BitVec.toNat_ofInt, BitVec.toNat_ofInt]
  cases k <;> simp only [exact] <;> omega

/-- An exact result with sign is less than the modulus away from zero, or the modulus below it. -/
theorem exact_toInt_bounds : -0x100000000 ≤ k.exact carry a.toInt b.toInt
    ∧ k.exact carry a.toInt b.toInt < 0x100000000 := by
  have := a.toInt_lt
  have := a.le_toInt
  have := b.toInt_lt
  have := b.le_toInt
  have := carry.toNat_le
  cases k <;> simp only [exact, coe_carry] <;> omega

variable (f : Flags)

/-- The result is zero if the exact result is, or is the modulus below zero. -/
theorem resultFlags_zero : (k.resultFlags a b f).zero = true
    ↔ k.exact f.carry a.toInt b.toInt = 0 ∨ k.exact f.carry a.toInt b.toInt = -0x100000000 := by
  have hu := k.exact_toInt_bounds f.carry a b
  change decide (k.result f.carry a b = 0#32) = true ↔ _
  rw [decide_eq_true_iff, result_eq_ofInt_toInt, ← BitVec.toNat_inj, BitVec.toNat_ofInt,
    BitVec.toNat_ofNat]
  omega

/-- **Sign and overflow together are the sign of the exact result.**  Without overflow the result is
exact, and with it the result is the modulus away and so on the other side of zero. -/
theorem negative_bne_overflow :
    ((k.resultFlags a b f).negative != (k.resultFlags a b f).overflow) = true
      ↔ k.exact f.carry a.toInt b.toInt < 0 := by
  have hu := k.exact_toInt_bounds f.carry a b
  have hn : (k.resultFlags a b f).negative
      = decide (0x80000000 ≤ (k.exact f.carry a.toInt b.toInt % 0x100000000).toNat) := by
    change (k.result f.carry a b).msb = _
    rw [result_eq_ofInt_toInt, BitVec.msb_eq_decide, BitVec.toNat_ofInt]
    rfl
  have ho : (k.resultFlags a b f).overflow = decide (k.exact f.carry a.toInt b.toInt < -0x80000000
      ∨ 0x80000000 ≤ k.exact f.carry a.toInt b.toInt) := rfl
  rw [hn, ho, bne_iff_ne, ne_eq, decide_eq_decide]
  omega

/-- The signed conditions compare the exact result with zero. -/
theorem tellsSign_resultFlags :
    (k.resultFlags a b f).TellsSign (k.exact f.carry a.toInt b.toInt) := by
  have hz := k.resultFlags_zero a b f
  have hs := k.negative_bne_overflow a b f
  have hnot (x y : Bool) : (x == y) = true ↔ ¬(x != y) = true := by
    cases x <;> cases y <;> decide
  constructor
  · change ((k.resultFlags a b f).negative == (k.resultFlags a b f).overflow) = true ↔ _
    rw [hnot, hs]
    omega
  · exact hs
  · change (!(k.resultFlags a b f).zero
      && (k.resultFlags a b f).negative == (k.resultFlags a b f).overflow) = true ↔ _
    rw [Bool.and_eq_true, Bool.not_eq_true', ← Bool.not_eq_true, hnot, hz, hs]
    omega
  · change ((k.resultFlags a b f).zero
      || (k.resultFlags a b f).negative != (k.resultFlags a b f).overflow) = true ↔ _
    rw [Bool.or_eq_true, hz, hs]
    omega

/-- **After a subtraction the conditions compare its operands.** -/
theorem tellsOrder_resultFlags : (sub.resultFlags a b f).TellsOrder a b := by
  have he : sub.exact f.carry a.toInt b.toInt = a.toInt - b.toInt := rfl
  have hs := sub.tellsSign_resultFlags a b f
  have hz := sub.resultFlags_zero a b f
  rw [he] at hs hz
  have hz : (sub.resultFlags a b f).zero = true ↔ a = b := by
    have := a.le_toInt
    have := b.toInt_lt
    rw [hz, ← BitVec.toInt_inj]
    omega
  have hc : (sub.resultFlags a b f).carry = true ↔ b.toNat ≤ a.toNat := by
    change decide (0 ≤ (a.toNat : Int) - b.toNat) = true ↔ _
    rw [decide_eq_true_iff]
    omega
  have hn : a = b ↔ a.toNat = b.toNat := BitVec.toNat_inj.symm
  refine ⟨hz, ?_, hc, ?_, ?_, ?_, hs.ge.trans sub_nonneg, hs.lt.trans sub_neg,
    hs.gt.trans sub_pos, hs.le.trans sub_nonpos⟩
  · change (!(sub.resultFlags a b f).zero) = true ↔ _
    rw [Bool.not_eq_true', ← Bool.not_eq_true, hz]
  · change (!(sub.resultFlags a b f).carry) = true ↔ _
    rw [Bool.not_eq_true', ← Bool.not_eq_true, hc, Nat.not_le]
  · change ((sub.resultFlags a b f).carry && !(sub.resultFlags a b f).zero) = true ↔ _
    rw [Bool.and_eq_true, Bool.not_eq_true', ← Bool.not_eq_true, hc, hz, hn]
    omega
  · change (!(sub.resultFlags a b f).carry || (sub.resultFlags a b f).zero) = true ↔ _
    rw [Bool.or_eq_true, Bool.not_eq_true', ← Bool.not_eq_true, hc, hz, hn]
    omega

end ArithmeticOp

/-! ## Every comparison -/

section Execute

variable {M : Type} [Memory M] {hook? : Option (Hook M)} {i : Instruction} {r : Registers}

/-- A comparison leaves the flags of the operation whose result it drops. -/
theorem execute_test (holds : i.condition.holds r.flags = true) {op : TestOp} {rn : Register}
    {operand : DataOperand} (hi : i.operation = .test op rn operand) (m : M) :
    execute hook? i r m
      = ⟨r.setFlags (op.binary.eval ((Context.start r m).read rn)
          ((Context.start r m).dataOperand operand).1
          ((Context.start r m).dataOperand operand).2 r.flags).2,
        m, .ok ⟨i.operation.cycles, false⟩⟩ := by
  rw [execute_of_operation holds hi nofun, hi]
  rfl

end Execute

/-- **Comparisons and conditions agree with the order of numbers.**  After a comparison of two
words, or a subtraction that sets flags and does not write the program counter, whatever the flags
were before and whether the instruction is wide or narrow, the conditions compare the words: for
equality, as numbers without sign, and as numbers with sign.  After a comparison with the negative
the signed conditions compare the exact sum with zero, and after a test of bits or of equality the
first condition tells whether the words share a bit or are equal. -/
theorem comparisons_order {M : Type} [Memory M] (hook? : Option (Hook M)) (i : Instruction)
    (r : Registers) (m : M) (holds : i.condition.holds r.flags = true) (rn : Register)
    (operand : DataOperand) :
    let a := (Context.start r m).read rn
    let b := ((Context.start r m).dataOperand operand).1
    let after := execute hook? i r m
    let flags := after.registers.flags
    (i.operation = .test .cmp rn operand
        ∨ (∃ rd, rd ≠ .pc ∧ i.operation = .binary .sub true rd rn operand) →
      after.result = .ok ⟨i.operation.cycles, false⟩ ∧ flags.TellsOrder a b)
    ∧ (i.operation = .test .cmn rn operand →
      after.result = .ok ⟨i.operation.cycles, false⟩ ∧ flags.TellsSign (a.toInt + b.toInt))
    ∧ (i.operation = .test .tst rn operand →
      after.result = .ok ⟨i.operation.cycles, false⟩
        ∧ (Condition.eq.holds flags = true ↔ a &&& b = 0#32))
    ∧ (i.operation = .test .teq rn operand →
      after.result = .ok ⟨i.operation.cycles, false⟩
        ∧ (Condition.eq.holds flags = true ↔ a = b)) := by
  intro a b after flags
  refine ⟨?_, fun hi => ?_, fun hi => ?_, fun hi => ?_⟩
  · rintro (hi | ⟨rd, hd, hi⟩)
    · have h : after = _ := execute_comparison (k := .sub) holds hi rfl m
      have hf : flags = ArithmeticOp.sub.resultFlags a b r.flags := congrArg (·.registers.flags) h
      exact ⟨congrArg Outcome.result h, hf ▸ ArithmeticOp.tellsOrder_resultFlags a b r.flags⟩
    · have h : after = _ := execute_arithmetic (k := .sub) holds hi hd m
      have hf : flags = ArithmeticOp.sub.resultFlags a b r.flags := congrArg (·.registers.flags) h
      exact ⟨congrArg Outcome.result h, hf ▸ ArithmeticOp.tellsOrder_resultFlags a b r.flags⟩
  · have h : after = _ := execute_comparison (k := .add) holds hi rfl m
    have hf : flags = ArithmeticOp.add.resultFlags a b r.flags := congrArg (·.registers.flags) h
    exact ⟨congrArg Outcome.result h, hf ▸ ArithmeticOp.add.tellsSign_resultFlags a b r.flags⟩
  · have h : after = _ := execute_test holds hi m
    have hz : flags.zero = (a &&& b == 0#32) := congrArg (·.registers.flags.zero) h
    refine ⟨congrArg Outcome.result h, ?_⟩
    change flags.zero = true ↔ _
    rw [hz, beq_iff_eq]
  · have h : after = _ := execute_test holds hi m
    have hz : flags.zero = (a ^^^ b == 0#32) := congrArg (·.registers.flags.zero) h
    refine ⟨congrArg Outcome.result h, ?_⟩
    change flags.zero = true ↔ _
    rw [hz, beq_iff_eq, BitVec.xor_eq_zero_iff]

/-- The instruction `CMP r0, r1`. -/
def compareFirst : Instruction := ⟨.al, .test .cmp .r0 (.plain .r1)⟩

/-- Registers with the least signed word in r0 and one in r1. -/
def compared : Registers := (Registers.initial.write .r0 0x80000000#32).write .r1 1#32

/-- The least signed word is above one without sign, and with sign it is below. -/
theorem compared_order :
    compareFirst.condition.holds compared.flags = true
      ∧ (execute none compareFirst compared blankBus).registers.flags.TellsOrder 0x80000000#32 1#32
      ∧ (0x80000000#32 : Word).toInt < (1#32 : Word).toInt := by
  have h := (comparisons_order none compareFirst compared blankBus rfl .r0 (.plain .r1)).1
  exact ⟨rfl, (h (.inl rfl)).2, by decide⟩

end Handheld

import Mathlib.Tactic.LinearCombination
import Handheld.Proofs.Execution.Cases
import Handheld.Bus.Access

/-!
# Proofs/Execution/Arithmetic — additions and subtractions are exact

The result of an addition or subtraction is the exact one reduced to a word, and carry and overflow
say whether it fits, without and with sign (`eval_exact`).  The key is one equation of the adder:
its value, with the carry as the next digit, is the sum.  A chain of such instructions over the
limbs of two long numbers, each with the carry that the one before left, therefore adds or subtracts
the numbers (`Chain.equation`).
-/

namespace Handheld

/-- The additions and subtractions among the operations. -/
inductive ArithmeticOp where
  | add
  | adc
  | sub
  | sbc
  | rsb
  | rsc
  deriving DecidableEq

namespace ArithmeticOp

/-- The operation of an instruction. -/
def toBinary : ArithmeticOp → BinaryOp
  | add => .add
  | adc => .adc
  | sub => .sub
  | sbc => .sbc
  | rsb => .rsb
  | rsc => .rsc

/-- The operation subtracts. -/
def subtracts : ArithmeticOp → Bool
  | add | adc => false
  | sub | sbc | rsb | rsc => true

/-- The operation that goes on with the next limb. -/
def continued : ArithmeticOp → ArithmeticOp
  | add | adc => adc
  | sub | sbc => sbc
  | rsb | rsc => rsc

/-- What a carry asks of the next limb: one more for a sum, and for a difference one less if it is
clear. -/
def pending (k : ArithmeticOp) (carry : Bool) : Int :=
  if k.subtracts then carry.toInt - 1 else carry.toInt

/-- The exact result on two numbers and a carry. -/
def exact (k : ArithmeticOp) (carry : Bool) (a b : Int) : Int :=
  match k with
  | add => a + b
  | adc => a + b + carry.toInt
  | sub => a - b
  | sbc => a - b - (1 - carry.toInt)
  | rsb => b - a
  | rsc => b - a - (1 - carry.toInt)

/-- The carry that an exact result of digits below `modulus` leaves: of a sum that it exceeds the
digits, of a difference that nothing was borrowed. -/
def carries (k : ArithmeticOp) (modulus u : Int) : Bool :=
  if k.subtracts then decide (0 ≤ u) else decide (modulus ≤ u)

/-- The exact result on two words, reduced to a word. -/
def result (k : ArithmeticOp) (carry : Bool) (a b : Word) : Word :=
  BitVec.ofInt 32 (k.exact carry a.toNat b.toNat)

/-- The flags that the exact results on two words, without and with sign, ask for. -/
def resultFlags (k : ArithmeticOp) (a b : Word) (f : Flags) : Flags :=
  { f with
    negative := (k.result f.carry a b).getLsbD 31
    zero := decide (k.result f.carry a b = 0#32)
    carry := k.carries 0x100000000 (k.exact f.carry a.toNat b.toNat)
    overflow := decide (k.exact f.carry a.toInt b.toInt < -0x80000000
      ∨ 0x80000000 ≤ k.exact f.carry a.toInt b.toInt) }

end ArithmeticOp

/-! ## The adder -/

/-- The value of a sum, with its carry as the next digit, is the exact sum. -/
theorem toNat_addWithCarry (a b : Word) (carry : Bool) :
    (addWithCarry a b carry).value.toNat + 0x100000000 * (addWithCarry a b carry).carry.toNat
      = a.toNat + b.toNat + carry.toNat := by
  have ha := a.isLt
  have hb := b.isLt
  have hc := carry.toNat_le
  simp only [addWithCarry, BitVec.msb_eq_decide, BitVec.toNat_setWidth, BitVec.toNat_add,
    BitVec.toNat_ofBool]
  by_cases h : 2 ^ 32 ≤ a.toNat + b.toNat + carry.toNat
  · rw [decide_eq_true (by omega), Bool.toNat_true]
    omega
  · rw [decide_eq_false (by omega), Bool.toNat_false]
    omega

/-- A sum overflows exactly if it does not fit a signed word. -/
theorem overflow_addWithCarry (a b : Word) (carry : Bool) :
    (addWithCarry a b carry).overflow = true
      ↔ a.toInt + b.toInt + carry.toNat < -0x80000000
        ∨ 0x80000000 ≤ a.toInt + b.toInt + carry.toNat := by
  have hv := toNat_addWithCarry a b carry
  have hc := carry.toNat_le
  have hd := (addWithCarry a b carry).carry.toNat_le
  have ho : (addWithCarry a b carry).overflow
    = (a.msb == b.msb && a.msb != (addWithCarry a b carry).value.msb) := rfl
  rw [ho]
  generalize (addWithCarry a b carry).value = v at hv
  have := a.isLt
  have := b.isLt
  have := v.isLt
  simp only [BitVec.msb_eq_decide, BitVec.toInt_eq_toNat_cond, Bool.and_eq_true, beq_iff_eq,
    bne_iff_ne, decide_eq_decide, ne_eq]
  split <;> split <;> omega

/-- The value of a difference, with what its carry borrows, is the exact difference. -/
theorem toNat_subWithCarry (a b : Word) (carry : Bool) :
    ((subWithCarry a b carry).value.toNat : Int) = a.toNat - b.toNat - (1 - carry.toNat)
      - 0x100000000 * ((subWithCarry a b carry).carry.toNat - 1) := by
  have h := toNat_addWithCarry a (~~~b) carry
  have hb := b.isLt
  rw [BitVec.toNat_not] at h
  rw [subWithCarry]
  omega

/-- A difference overflows exactly if it does not fit a signed word. -/
theorem overflow_subWithCarry (a b : Word) (carry : Bool) :
    (subWithCarry a b carry).overflow = true
      ↔ a.toInt - b.toInt - (1 - carry.toNat) < -0x80000000
        ∨ 0x80000000 ≤ a.toInt - b.toInt - (1 - carry.toNat) := by
  have hn : (~~~b).toInt = -1 - b.toInt := by
    have hb := b.isLt
    rw [BitVec.toInt_eq_toNat_cond, BitVec.toInt_eq_toNat_cond, BitVec.toNat_not]
    split <;> split <;> omega
  rw [subWithCarry, overflow_addWithCarry, hn,
    show a.toInt + (-1 - b.toInt) + (carry.toNat : Int) = a.toInt - b.toInt - (1 - carry.toNat) by
      omega]

namespace ArithmeticOp

/-- The sum that an operation takes of the adder. -/
def sum (k : ArithmeticOp) (carry : Bool) (a b : Word) : Sum :=
  match k with
  | add => addWithCarry a b false
  | adc => addWithCarry a b carry
  | sub => subWithCarry a b true
  | sbc => subWithCarry a b carry
  | rsb => subWithCarry b a true
  | rsc => subWithCarry b a carry

/-- Each of the eight operations evaluates to its sum, whatever the shifter carries out. -/
theorem eval_toBinary (k : ArithmeticOp) (a b : Word) (shifter : Bool) (f : Flags) :
    k.toBinary.eval a b shifter f = arithmetic (k.sum f.carry a b) f := by
  cases k <;> rfl

theorem coe_carry (c : Bool) : c.toInt = (c.toNat : Int) := by
  cases c <;> rfl

section Sum

variable (k : ArithmeticOp) (carry : Bool) (a b : Word)

/-- The value of a result, with what its carry asks of the next limb, is the exact result. -/
theorem toNat_value_sum : ((k.sum carry a b).value.toNat : Int)
    = k.exact carry a.toNat b.toNat - 0x100000000 * k.pending (k.sum carry a b).carry := by
  have add (c : Bool) : ((addWithCarry a b c).value.toNat : Int)
      = a.toNat + b.toNat + c.toNat - 0x100000000 * (addWithCarry a b c).carry.toNat := by
    have h := toNat_addWithCarry a b c
    omega
  cases k with
  | add => simpa [sum, exact, pending, subtracts, coe_carry] using add false
  | adc => simpa [sum, exact, pending, subtracts, coe_carry] using add carry
  | sub => simpa [sum, exact, pending, subtracts, coe_carry] using toNat_subWithCarry a b true
  | sbc => simpa [sum, exact, pending, subtracts, coe_carry] using toNat_subWithCarry a b carry
  | rsb => simpa [sum, exact, pending, subtracts, coe_carry] using toNat_subWithCarry b a true
  | rsc => simpa [sum, exact, pending, subtracts, coe_carry] using toNat_subWithCarry b a carry

/-- A sum overflows exactly where the signed result does not fit. -/
theorem overflow_sum : (k.sum carry a b).overflow
    = decide (k.exact carry a.toInt b.toInt < -0x80000000
      ∨ 0x80000000 ≤ k.exact carry a.toInt b.toInt) := by
  rw [Bool.eq_iff_iff, decide_eq_true_iff]
  cases k with
  | add => simpa [sum, exact, coe_carry] using overflow_addWithCarry a b false
  | adc => simpa [sum, exact, coe_carry] using overflow_addWithCarry a b carry
  | sub => simpa [sum, exact, coe_carry] using overflow_subWithCarry a b true
  | sbc => simpa [sum, exact, coe_carry] using overflow_subWithCarry a b carry
  | rsb => simpa [sum, exact, coe_carry] using overflow_subWithCarry b a true
  | rsc => simpa [sum, exact, coe_carry] using overflow_subWithCarry b a carry

end Sum

/-- Digits and a carry that together are an exact result are its remainder and its carry. -/
theorem digits_unique {k : ArithmeticOp} {v modulus u : Int} {carry : Bool} (low : 0 ≤ v)
    (high : v < modulus) (h : v = u - modulus * k.pending carry) :
    v = u % modulus ∧ carry = k.carries modulus u := by
  have hr : u % modulus = v := by
    rw [show u = v + modulus * k.pending carry by omega, Int.add_mul_emod_self_left]
    exact Int.emod_eq_of_lt low high
  refine ⟨hr.symm, ?_⟩
  rw [Bool.eq_iff_iff]
  cases hk : k.subtracts <;> cases carry <;>
    simp [carries, pending, hk, Bool.toInt] at h ⊢ <;> omega

/-- **A sum is exact**: the wrapped result, the carry of the unsigned one and the overflow of the
signed one. -/
theorem sum_exact (k : ArithmeticOp) (carry : Bool) (a b : Word) : k.sum carry a b
    = ⟨k.result carry a b, k.carries 0x100000000 (k.exact carry a.toNat b.toNat),
        decide (k.exact carry a.toInt b.toInt < -0x80000000
          ∨ 0x80000000 ≤ k.exact carry a.toInt b.toInt)⟩ := by
  obtain ⟨hv, hc⟩ := digits_unique (k := k) (Int.natCast_nonneg _)
    (Int.ofNat_lt.mpr (k.sum carry a b).value.isLt) (k.toNat_value_sum carry a b)
  have hr : (k.sum carry a b).value = k.result carry a b := by
    apply BitVec.eq_of_toNat_eq
    rw [result, BitVec.toNat_ofInt]
    omega
  rw [← hr, ← overflow_sum]
  exact congrArg (fun c => (⟨_, c, _⟩ : Sum)) hc

/-- A result, with what its carry asks of the next limb, is exact. -/
theorem toNat_result (k : ArithmeticOp) (carry : Bool) (a b : Word) :
    ((k.result carry a b).toNat : Int) = k.exact carry a.toNat b.toNat
      - 0x100000000 * k.pending (k.carries 0x100000000 (k.exact carry a.toNat b.toNat)) := by
  have h := k.toNat_value_sum carry a b
  rw [sum_exact] at h
  exact h

/-- The result of an operation is the exact one reduced to a word, and the flags are those that the
exact results ask for. -/
theorem eval_exact (k : ArithmeticOp) (a b : Word) (shifter : Bool) (f : Flags) :
    k.toBinary.eval a b shifter f = (k.result f.carry a b, k.resultFlags a b f) := by
  rw [eval_toBinary, sum_exact]
  rfl

/-- An addition without a carry adds. -/
theorem add_result (carry : Bool) (a b : Word) : add.result carry a b = a + b := by
  apply BitVec.eq_of_toNat_eq
  rw [result, exact, BitVec.toNat_ofInt, BitVec.toNat_add]
  omega

end ArithmeticOp

/-! ## One instruction -/

section Execute

variable {M : Type} [Memory M] {hook? : Option (Hook M)} {i : Instruction} {r : Registers}

/-- An addition or subtraction that does not write the program counter leaves its result and, if
asked to, its flags. -/
theorem execute_arithmetic (holds : i.condition.holds r.flags = true) {k : ArithmeticOp}
    {setFlags : Bool} {rd rn : Register} {operand : DataOperand}
    (hi : i.operation = .binary k.toBinary setFlags rd rn operand) (hd : rd ≠ .pc) (m : M) :
    execute hook? i r m
      = ⟨(r.write rd (k.result r.flags.carry ((Context.start r m).read rn)
            ((Context.start r m).dataOperand operand).1)).setFlags
          (if setFlags then k.resultFlags ((Context.start r m).read rn)
            ((Context.start r m).dataOperand operand).1 r.flags else r.flags),
        m, .ok ⟨i.operation.cycles, false⟩⟩ := by
  rw [execute_performed holds (by rw [hi]; rintro ⟨w, hw⟩; cases hw), hi]
  simp only [Context.perform, Context.binary, ArithmeticOp.eval_exact, Context.writeResult,
    if_neg hd]
  unfold Context.write
  rw [if_neg hd]
  cases setFlags <;> rfl

/-- A comparison leaves the flags of the addition or subtraction whose result it drops. -/
theorem execute_comparison (holds : i.condition.holds r.flags = true) {k : ArithmeticOp}
    {op : TestOp} {rn : Register} {operand : DataOperand} (hi : i.operation = .test op rn operand)
    (hk : op.binary = k.toBinary) (m : M) :
    execute hook? i r m
      = ⟨r.setFlags (k.resultFlags ((Context.start r m).read rn)
          ((Context.start r m).dataOperand operand).1 r.flags),
        m, .ok ⟨i.operation.cycles, false⟩⟩ := by
  rw [execute_performed holds (by rw [hi]; rintro ⟨w, hw⟩; cases hw), hi]
  simp only [Context.perform, Context.test, hk, ArithmeticOp.eval_exact]
  rfl

/-- An addition to the program counter leaves its result. -/
theorem execute_addToPc (holds : i.condition.holds r.flags = true) {rd : Register} {offset : Word}
    (hi : i.operation = .addToPc rd offset) (hd : rd ≠ .pc) (m : M) :
    execute hook? i r m
      = ⟨r.write rd (ArithmeticOp.add.result r.flags.carry (Context.start r m).pc.alignWord offset),
        m, .ok ⟨i.operation.cycles, false⟩⟩ := by
  rw [execute_performed holds (by rw [hi]; rintro ⟨w, hw⟩; cases hw), hi, ArithmeticOp.add_result]
  simp only [Context.perform, Context.addToPc]
  unfold Context.write
  rw [if_neg hd]
  rfl

end Execute

/-! ## One limb after another -/

/-- The number of a list of limbs, the lowest first. -/
def number : List Word → Nat
  | [] => 0
  | w :: rest => w.toNat + 0x100000000 * number rest

/-- A limb of two long numbers and of what an instruction makes of them. -/
structure Limb where
  /-- Of the first operand. -/
  left : Word
  /-- Of the second operand. -/
  right : Word
  /-- Of the result. -/
  result : Word

section Chain

variable {M : Type} [Memory M] (hook? : Option (Hook M))

/-- The limb that an instruction takes from its operands and leaves in its destination. -/
def Limb.taken (i : Instruction) (r : Registers) (m : M) (rd rn : Register)
    (operand : DataOperand) : Limb where
  left := (Context.start r m).read rn
  right := ((Context.start r m).dataOperand operand).1
  result := (execute hook? i r m).registers.read rd

/-- An instruction executes that sets flags: with a carry it takes a limb, and leaves a carry. -/
inductive Yields (k : ArithmeticOp) : Bool → Limb → Bool → Prop
  | intro (i : Instruction) (r : Registers) (m : M) (rd rn : Register) (operand : DataOperand)
      (holds : i.condition.holds r.flags = true)
      (operation : i.operation = .binary k.toBinary true rd rn operand) (keeps : rd ≠ .pc) :
      Yields k r.flags.carry (Limb.taken hook? i r m rd rn operand)
        (execute hook? i r m).registers.flags.carry

/-- Instructions execute for one limb after another, each with the carry of the one before.  What
else happens between them does not matter as long as it keeps the carry. -/
inductive Chain : ArithmeticOp → Bool → List Limb → Bool → Prop
  | nil (k : ArithmeticOp) (carry : Bool) : Chain k carry [] carry
  | cons {k : ArithmeticOp} {before between after : Bool} {l : Limb} {rest : List Limb}
      (head : Yields hook? k before l between) (tail : Chain k.continued between rest after) :
      Chain k before (l :: rest) after

variable {hook?}

/-- What one instruction makes of a limb. -/
theorem Yields.equation {k : ArithmeticOp} {before after : Bool} {l : Limb}
    (h : Yields hook? k before l after) : (l.result.toNat : Int)
      = k.exact before l.left.toNat l.right.toNat - 0x100000000 * k.pending after := by
  cases h with
  | intro i r m rd rn operand holds hi hd =>
    simp only [Limb.taken]
    rw [execute_arithmetic holds hi hd, if_pos rfl]
    change ((((r.write rd _).setFlags _).read rd).toNat : Int) = _
    rw [show ∀ (r : Registers) f, (r.setFlags f).read rd = r.read rd from fun _ _ => rfl,
      Registers.read_write_self]
    exact k.toNat_result _ _ _

/-- The number of the first operand. -/
def leftNumber (limbs : List Limb) : Nat := number (limbs.map Limb.left)

/-- The number of the second operand. -/
def rightNumber (limbs : List Limb) : Nat := number (limbs.map Limb.right)

/-- The number of the result. -/
def resultNumber (limbs : List Limb) : Nat := number (limbs.map Limb.result)

/-- How many numbers have so many limbs. -/
def limbModulus (n : Nat) : Nat := 1 <<< (32 * n)

/-- One limb more is one word more. -/
theorem limbModulus_succ (n : Nat) : limbModulus (n + 1) = 0x100000000 * limbModulus n := by
  simp only [limbModulus, Nat.shiftLeft_eq, Nat.mul_add, Nat.pow_add]
  omega

/-- The number of some limbs fits in as many words. -/
theorem resultNumber_lt (limbs : List Limb) : resultNumber limbs < limbModulus limbs.length := by
  induction limbs with
  | nil => decide
  | cons l rest ih =>
    have := l.result.isLt
    rw [List.length_cons, limbModulus_succ]
    simp only [resultNumber, List.map_cons, number] at ih ⊢
    omega

/-- The exact result on two long numbers is that on their lowest limbs, and that on the other limbs
but for the carry between them. -/
theorem ArithmeticOp.exact_limb (k : ArithmeticOp) (before between : Bool) (a b x y : Int) :
    k.exact before (a + 0x100000000 * x) (b + 0x100000000 * y) = k.exact before a b
      + 0x100000000 * (k.continued.exact between x y - k.pending between) := by
  cases k <;> simp only [exact, continued, pending, subtracts, if_true, Bool.false_eq_true,
    if_false] <;> omega

/-- One limb more. -/
theorem Yields.cons_equation {k : ArithmeticOp} {before between after : Bool} {l : Limb}
    {rest : List Limb} (head : Yields hook? k before l between)
    (tail : (resultNumber rest : Int)
      = k.continued.exact between (leftNumber rest) (rightNumber rest)
        - limbModulus rest.length * k.pending after) :
    (resultNumber (l :: rest) : Int)
      = k.exact before (leftNumber (l :: rest)) (rightNumber (l :: rest))
        - limbModulus (l :: rest).length * k.pending after := by
  have hl := k.exact_limb before between l.left.toNat l.right.toNat (leftNumber rest)
    (rightNumber rest)
  have hh := head.equation
  have number_cons (f : Limb → Word) : (number ((l :: rest).map f) : Int)
      = (f l).toNat + 0x100000000 * number (rest.map f) := by
    rw [List.map_cons, number]
    push_cast
    rfl
  rw [List.length_cons, limbModulus_succ]
  simp only [resultNumber, leftNumber, rightNumber, number_cons] at tail hl ⊢
  rw [hl]
  push_cast
  linear_combination hh + 0x100000000 * tail

/-- An operation that goes on with the carry takes it up at the lowest limb. -/
theorem Chain.continued_equation {k : ArithmeticOp} {before after : Bool} {limbs : List Limb}
    (h : Chain hook? k before limbs after) (hk : k.continued = k) : (resultNumber limbs : Int)
      = k.exact before (leftNumber limbs) (rightNumber limbs)
        - limbModulus limbs.length * k.pending after := by
  induction h with
  | nil k carry =>
    change (0 : Int) = k.exact carry 0 0 - 1 * k.pending carry
    cases k <;> simp [ArithmeticOp.exact, ArithmeticOp.pending, ArithmeticOp.subtracts,
      ArithmeticOp.continued] at hk ⊢
  | @cons k before between after l rest head tail ih =>
    rw [hk] at ih
    refine head.cons_equation ?_
    rw [hk]
    exact ih hk

/-- **The limbs of a chain make up one exact result**, but for the carry that is left. -/
theorem Chain.equation {k : ArithmeticOp} {before after : Bool} {l : Limb} {rest : List Limb}
    (h : Chain hook? k before (l :: rest) after) : (resultNumber (l :: rest) : Int)
      = k.exact before (leftNumber (l :: rest)) (rightNumber (l :: rest))
        - limbModulus (l :: rest).length * k.pending after := by
  cases h with
  | cons head tail =>
    refine head.cons_equation ((tail.continued_equation ?_).trans ?_)
    · cases k <;> rfl
    · cases k <;> rfl

end Chain

/-! ## Exactness -/

/-- **Additions and subtractions are exact.**  An instruction that adds or subtracts and whose
condition holds leaves in its destination the exact result reduced to a word, and if it is to set
flags, or is a comparison, the flags that the exact results without and with sign ask for: sign,
vanishing, a carry out of the word or the absence of a borrow, and overflow.  Nothing else changes.
Instructions that set flags, one limb of two long numbers after another, each with the carry that
the one before left, leave the limbs of the exact result of the whole numbers, and its carry. -/
theorem arithmetic_exact {M : Type} [Memory M] (hook? : Option (Hook M)) :
    (∀ (i : Instruction) (r : Registers) (m : M), i.condition.holds r.flags = true →
      (∀ (k : ArithmeticOp) setFlags rd rn operand,
        i.operation = .binary k.toBinary setFlags rd rn operand → rd ≠ .pc →
        let a := (Context.start r m).read rn
        let b := ((Context.start r m).dataOperand operand).1
        execute hook? i r m
          = ⟨(r.write rd (k.result r.flags.carry a b)).setFlags
              (if setFlags then k.resultFlags a b r.flags else r.flags),
            m, .ok ⟨i.operation.cycles, false⟩⟩)
      ∧ (∀ (k : ArithmeticOp) op rn operand, i.operation = .test op rn operand →
        op.binary = k.toBinary →
        let a := (Context.start r m).read rn
        let b := ((Context.start r m).dataOperand operand).1
        execute hook? i r m
          = ⟨r.setFlags (k.resultFlags a b r.flags), m, .ok ⟨i.operation.cycles, false⟩⟩)
      ∧ ∀ rd offset, i.operation = .addToPc rd offset → rd ≠ .pc →
        let a := (Context.start r m).pc.alignWord
        execute hook? i r m
          = ⟨r.write rd (ArithmeticOp.add.result r.flags.carry a offset), m,
            .ok ⟨i.operation.cycles, false⟩⟩)
    ∧ ∀ k before l rest after, Chain hook? k before (l :: rest) after →
      let modulus : Int := limbModulus (l :: rest).length
      let exact := k.exact before (leftNumber (l :: rest)) (rightNumber (l :: rest))
      (resultNumber (l :: rest) : Int) = exact % modulus ∧ after = k.carries modulus exact := by
  constructor
  · intro i r m holds
    refine ⟨?_, ?_, ?_⟩
    · intro k setFlags rd rn operand hi hd
      exact execute_arithmetic holds hi hd m
    · intro k op rn operand hi hk
      exact execute_comparison holds hi hk m
    · intro rd offset hi hd
      exact execute_addToPc holds hi hd m
  · intro k before l rest after h
    exact ArithmeticOp.digits_unique (Int.natCast_nonneg _)
      (Int.ofNat_lt.mpr (resultNumber_lt (l :: rest))) h.equation

/-- The instruction `ADDS r0, r0, r2`. -/
def addLow : Instruction := ⟨.al, .binary .add true .r0 .r0 (.plain .r2)⟩

/-- The instruction `ADCS r1, r1, r3`. -/
def addHigh : Instruction := ⟨.al, .binary .adc true .r1 .r1 (.plain .r3)⟩

/-- Registers with the greatest signed double in r0 and r1, and one in r2 and r3. -/
def addends : Registers :=
  ((Registers.initial.write .r0 0xFFFFFFFF#32).write .r1 0x7FFFFFFF#32).write .r2 1#32

/-- A bus without a program. -/
def blankBus : Bus := Bus.new (.new #[] 0)

/-- The registers after the low limbs. -/
def addendsBetween : Registers := (execute none addLow addends blankBus).registers

/-- The limbs of the sum of the two doubles. -/
def addendLimbs : List Limb :=
  [.taken none addLow addends blankBus .r0 .r0 (.plain .r2),
    .taken none addHigh addendsBetween blankBus .r1 .r1 (.plain .r3)]

/-- Two limbs that are added with a carry between them. -/
theorem chain_addends : Chain (none : Option (Hook Bus)) .add false addendLimbs false := by
  have low : Yields (none : Option (Hook Bus)) .add false
      (.taken none addLow addends blankBus .r0 .r0 (.plain .r2)) true :=
    .intro addLow addends blankBus .r0 .r0 (.plain .r2) rfl rfl (by decide)
  have high : Yields (none : Option (Hook Bus)) .adc true
      (.taken none addHigh addendsBetween blankBus .r1 .r1 (.plain .r3)) false :=
    .intro addHigh addendsBetween blankBus .r1 .r1 (.plain .r3) rfl rfl (by decide)
  exact .cons low (.cons high (.nil _ _))

/-- The low limbs wrap to zero, and their carry is the one that the high limbs add. -/
theorem addends_exact :
    addLow.condition.holds addends.flags = true ∧ Register.r0 ≠ .pc
      ∧ addendsBetween = (addends.write .r0 0#32).setFlags { zero := true, carry := true }
      ∧ resultNumber addendLimbs = 0x8000000000000000 := by
  have h := arithmetic_exact (none : Option (Hook Bus))
  have low := (h.1 addLow addends blankBus rfl).1 .add true .r0 .r0 (.plain .r2) rfl (by decide)
  have long := h.2 .add false _ _ false chain_addends
  refine ⟨rfl, by decide, (congrArg Outcome.registers low).trans ?_, ?_⟩
  · decide
  · exact Int.ofNat_inj.mp (long.1.trans (by decide))

end Handheld

import Handheld.Proofs.Execution.Arithmetic

/-!
# Proofs/Execution/Products — products are exact, whichever registers they share

Words are numbers, without or with sign, and a product is the product of numbers reduced to a word
or a double (`execute_multiply`, `execute_multiplyLong`).  All operands are read before a result is
written, so these equations hold whether or not a destination is an operand.  A double is wide
enough for every product of words (`value_ofInt_product`), and its low word is the product of one
word (`products_exact`).
-/

namespace Handheld

/-! ## Numbers -/

/-- The number that a word stands for, without or with sign. -/
def Word.value (signed : Bool) (w : Word) : Int := if signed then w.toInt else w.toNat

/-- The number that a double stands for, without or with sign. -/
def Double.value (signed : Bool) (d : Double) : Int := if signed then d.toInt else d.toNat

/-- The flags of a product that stands for a number: its sign and its vanishing. -/
def Flags.ofProduct (f : Flags) (n : Int) : Flags :=
  { f with
    negative := decide (n < 0)
    zero := decide (n = 0) }

/-- The double in two registers. -/
def Registers.double (r : Registers) (high low : Register) : Double :=
  Double.ofWords (r.read low) (r.read high)

/-- A word without a sign is extended as the number that it is. -/
theorem setWidth_eq_ofInt (w : Word) : w.setWidth 64 = BitVec.ofInt 64 w.toNat := by
  apply BitVec.eq_of_toNat_eq
  have := w.isLt
  rw [BitVec.toNat_setWidth, BitVec.toNat_ofInt]
  omega

/-- A double with the value of a word, whichever way the value is read. -/
theorem extended_eq_ofInt {M : Type} (c : Context M) (signed : Bool) (n : Register) :
    c.extended signed n = BitVec.ofInt 64 ((c.read n).value signed) := by
  unfold Context.extended Word.value
  cases signed
  · exact setWidth_eq_ofInt (c.read n)
  · rfl

/-- The low word of a double is what is left of it modulo the words. -/
theorem Double.lowWord_ofInt (n : Int) :
    Double.lowWord (BitVec.ofInt 64 n) = BitVec.ofInt 32 n := by
  apply BitVec.eq_of_toNat_eq
  rw [Double.lowWord, ← BitVec.setWidth_eq_extractLsb' (by decide), BitVec.toNat_setWidth,
    BitVec.toNat_ofInt, BitVec.toNat_ofInt]
  omega

/-- The low word of two is the low one. -/
theorem Double.lowWord_ofWords (w₀ w₁ : Word) : Double.lowWord (Double.ofWords w₀ w₁) = w₀ := by
  unfold Double.ofWords Double.lowWord
  apply BitVec.eq_of_getLsbD_eq
  intro i hi
  rw [BitVec.getLsbD_extractLsb', BitVec.getLsbD_append]
  simp [hi]

/-- The low half of a double that was written to two registers. -/
theorem Registers.read_low_pair (r : Registers) {high low : Register} (hne : high ≠ low)
    (v : Double) (f : Flags) :
    (((r.write low (Double.lowWord v)).write high (Double.highWord v)).setFlags f).read low
      = Double.lowWord v :=
  (read_write_of_ne _ hne _).trans (read_write_self _ _ _)

/-- A double that was written to two registers is read from them. -/
theorem Registers.double_pair (r : Registers) {high low : Register} (hne : high ≠ low)
    (v : Double) (f : Flags) :
    (((r.write low (Double.lowWord v)).write high (Double.highWord v)).setFlags f).double high low
      = v := by
  have hhigh : (((r.write low (Double.lowWord v)).write high (Double.highWord v)).setFlags f).read
      high = Double.highWord v := read_write_self _ _ _
  rw [double, read_low_pair r hne, hhigh, Double.ofWords_low_high]

theorem ofInt_toNat {w : Nat} (v : BitVec w) : BitVec.ofInt w v.toNat = v := by
  rw [BitVec.ofInt_natCast, BitVec.ofNat_toNat, BitVec.setWidth_eq]

/-- A word is what is left of its value, with a sign or without. -/
theorem ofInt_value (signed : Bool) (w : Word) : BitVec.ofInt 32 (w.value signed) = w := by
  unfold Word.value
  cases signed
  · exact ofInt_toNat w
  · exact BitVec.ofInt_toInt

/-- **A double holds every product of words.** -/
theorem value_ofInt_product (signed : Bool) (a b : Word) :
    Double.value signed (BitVec.ofInt 64 (a.value signed * b.value signed))
      = a.value signed * b.value signed := by
  unfold Word.value Double.value
  cases signed with
  | false =>
    have hlt : a.toNat * b.toNat < 2 ^ 32 * 2 ^ 32 := Nat.mul_lt_mul'' a.isLt b.isLt
    simp only [Bool.false_eq_true, if_false]
    rw [BitVec.toNat_ofInt, ← Int.natCast_mul]
    omega
  | true =>
    have hle : a.toInt * b.toInt ≤ 2 ^ 62 := BitVec.toInt_mul_toInt_le
    have hge : -2 ^ 62 ≤ a.toInt * b.toInt := BitVec.le_toInt_mul_toInt
    simp only [if_true]
    rw [BitVec.toInt_ofInt, Int.bmod_eq_of_le (by omega) (by omega)]

/-- The low word of a product of two words is the product of one. -/
theorem lowWord_product (signed accumulate : Bool) (a b : Word) (former : Double) :
    Double.lowWord (BitVec.ofInt 64 (a.value signed * b.value signed
      + if accumulate then (former.toNat : Int) else 0))
      = a * b + if accumulate then Double.lowWord former else 0#32 := by
  have hformer : BitVec.ofInt 32 (if accumulate then (former.toNat : Int) else 0)
      = if accumulate then Double.lowWord former else 0#32 := by
    cases accumulate with
    | false => rfl
    | true => rw [if_pos rfl, if_pos rfl, ← Double.lowWord_ofInt, ofInt_toNat]
  rw [Double.lowWord_ofInt, BitVec.ofInt_add, BitVec.ofInt_mul, ofInt_value, ofInt_value, hformer]

/-! ## Execution -/

section Execute

variable {M : Type}

/-- The flags that a product is asked to set are those of its number. -/
theorem setProductFlags_eq {w : Nat} (c : Context M) (setFlags : Bool) (v : BitVec w) :
    c.setProductFlags setFlags v.msb (v == 0)
      = c.setFlags (if setFlags then c.flags.ofProduct v.toInt else c.flags) := by
  have hn : v.msb = decide (v.toInt < 0) := BitVec.msb_eq_toInt
  have hz : (v == 0) = decide (v.toInt = 0) := by
    rw [Bool.eq_iff_iff, beq_iff_eq, decide_eq_true_iff, ← BitVec.toInt_inj]
    simp
  rw [hn, hz]
  cases setFlags <;> rfl

/-- A product is written before its flags are. -/
theorem multiply_eq (c : Context M) (setFlags : Bool) (rd rs rm : Register)
    (addend : Option Register) :
    let v := c.read rm * c.read rs + addend.elim 0#32 c.read
    c.multiply setFlags rd rs rm addend
      = (c.write rd v).setProductFlags setFlags v.msb (v == 0) := by
  cases addend <;> rfl

variable [Memory M] (hook? : Option (Hook M)) {i : Instruction} {r : Registers}

/-- **What a multiplication to one word leaves.** -/
theorem execute_multiply (holds : i.condition.holds r.flags = true) {setFlags : Bool}
    {rd rs rm : Register} {addend : Option Register}
    (hi : i.operation = .multiply setFlags rd rs rm addend)
    (below : ∀ n ∈ rd :: rs :: rm :: addend.toList, n ≠ .pc) (m : M) :
    let v : Word := r.read rm * r.read rs + addend.elim 0#32 r.read
    execute hook? i r m
      = ⟨(r.write rd v).setFlags (if setFlags then r.flags.ofProduct v.toInt else r.flags), m,
        .ok ⟨i.operation.cycles, false⟩⟩ := by
  have hread : ∀ n ∈ rd :: rs :: rm :: addend.toList, (Context.start r m).read n = r.read n :=
    fun n hn => Context.read_of_ne_pc _ (below n hn)
  have hadd : addend.elim 0#32 (Context.start r m).read = addend.elim 0#32 r.read := by
    cases addend with
    | none => rfl
    | some rn => exact hread rn (by simp)
  rw [execute_of_operation holds hi (by simp), hi]
  simp only [Context.perform]
  rw [multiply_eq, hadd, hread rm (by simp), hread rs (by simp),
    Context.write_of_ne_pc _ (below rd (by simp)), setProductFlags_eq]
  rfl

/-- **What a multiplication to two words leaves.** -/
theorem execute_multiplyLong (holds : i.condition.holds r.flags = true)
    {signed accumulate setFlags : Bool} {high low rs rm : Register}
    (hi : i.operation = .multiplyLong signed accumulate setFlags high low rs rm)
    (below : ∀ n ∈ [high, low, rs, rm], n ≠ .pc) (m : M) :
    let v : Double := BitVec.ofInt 64 ((r.read rm).value signed * (r.read rs).value signed
      + if accumulate then ((r.double high low).toNat : Int) else 0)
    execute hook? i r m
      = ⟨((r.write low (Double.lowWord v)).write high (Double.highWord v)).setFlags
          (if setFlags then r.flags.ofProduct v.toInt else r.flags), m,
        .ok ⟨i.operation.cycles, false⟩⟩ := by
  have hread : ∀ n ∈ [high, low, rs, rm], (Context.start r m).read n = r.read n :=
    fun n hn => Context.read_of_ne_pc _ (below n hn)
  have hformer : (if accumulate then Double.ofWords ((Context.start r m).read low)
      ((Context.start r m).read high) else 0#64)
      = BitVec.ofInt 64 (if accumulate then ((r.double high low).toNat : Int) else 0) := by
    rw [hread low (by simp), hread high (by simp)]
    cases accumulate with
    | false => rfl
    | true => exact (ofInt_toNat (r.double high low)).symm
  rw [execute_of_operation holds hi (by simp), hi]
  simp only [Context.perform, Context.multiplyLong]
  rw [hformer, extended_eq_ofInt, extended_eq_ofInt, hread rm (by simp), hread rs (by simp),
    ← BitVec.ofInt_mul, ← BitVec.ofInt_add, Context.write_of_ne_pc _ (below low (by simp)),
    Context.write_of_ne_pc _ (below high (by simp)), setProductFlags_eq]
  rfl

end Execute

/-- **Products are exact.**  A multiplication whose condition holds leaves the product of its
operands, plus the addend if it has one, reduced to a word or to a double in two registers, where
operands and destinations may be the same registers.  A double holds the product itself if nothing
is added.  If flags are to be set, sign and vanishing are those of the whole result; nothing else
changes.  The low word of a double is what a multiplication to one word gives, plus the former low
word if the former content was added. -/
theorem products_exact {M : Type} [Memory M] (hook? : Option (Hook M)) (i : Instruction)
    (r : Registers) (m : M) (holds : i.condition.holds r.flags = true) :
    (∀ setFlags rd rs rm addend, i.operation = .multiply setFlags rd rs rm addend →
      (∀ n ∈ rd :: rs :: rm :: addend.toList, n ≠ .pc) →
      ∃ v : Word,
        v.toNat = ((r.read rm).toNat * (r.read rs).toNat
          + addend.elim 0 fun rn => (r.read rn).toNat) % 0x100000000
        ∧ execute hook? i r m
          = ⟨(r.write rd v).setFlags (if setFlags then r.flags.ofProduct v.toInt else r.flags), m,
            .ok ⟨i.operation.cycles, false⟩⟩)
    ∧ ∀ signed accumulate setFlags high low rs rm,
      i.operation = .multiplyLong signed accumulate setFlags high low rs rm → high ≠ low →
      (∀ n ∈ [high, low, rs, rm], n ≠ .pc) →
      let o := execute hook? i r m
      let product := (r.read rm).value signed * (r.read rs).value signed
      ∃ v : Double,
        (v.toNat : Int) = (product + if accumulate then ((r.double high low).toNat : Int) else 0)
          % 0x10000000000000000
        ∧ (accumulate = false → v.value signed = product)
        ∧ o.registers.double high low = v
        ∧ o = ⟨((r.write low (Double.lowWord v)).write high (Double.highWord v)).setFlags
            (if setFlags then r.flags.ofProduct v.toInt else r.flags), m,
          .ok ⟨i.operation.cycles, false⟩⟩
        ∧ ∀ (j : Instruction) setFlags' rd, j.condition.holds r.flags = true →
          j.operation = .multiply setFlags' rd rs rm none → rd ≠ .pc →
          o.registers.read low
            = (execute hook? j r m).registers.read rd
              + if accumulate then r.read low else 0#32 := by
  constructor
  · intro setFlags rd rs rm addend hi below
    refine ⟨_, ?_, execute_multiply hook? holds hi below m⟩
    cases addend <;> simp [BitVec.toNat_add, BitVec.toNat_mul]
  · intro signed accumulate setFlags high low rs rm hi hne below
    have ho := execute_multiplyLong hook? holds hi below m
    dsimp only at ho ⊢
    rw [ho]
    generalize hv : BitVec.ofInt 64 ((r.read rm).value signed * (r.read rs).value signed
      + if accumulate then ((r.double high low).toNat : Int) else 0) = v at ho
    refine ⟨v, ?_, ?_, Registers.double_pair r hne v _, rfl, ?_⟩
    · rw [← hv, BitVec.toNat_ofInt]
      omega
    · rintro rfl
      rw [← hv, if_neg (by decide), Int.add_zero]
      exact value_ofInt_product signed _ _
    · intro j setFlags' rd hj hmul hd
      have hbelow : ∀ n ∈ rd :: rs :: rm :: (none : Option Register).toList, n ≠ .pc := by
        simpa [hd] using ⟨below rs (by simp), below rm (by simp)⟩
      have hword := execute_multiply hook? hj hmul hbelow m
      dsimp only at hword
      rw [hword, Registers.read_low_pair r hne, ← hv, lowWord_product, Registers.double,
        Double.lowWord_ofWords]
      exact congrArg (· + if accumulate then r.read low else 0#32)
        ((BitVec.add_zero _).symm.trans (Registers.read_write_self r rd _).symm)

/-- The instruction `SMLALS r0, r1, r0, r1`, whose destinations are its operands. -/
def multiplyOntoOperands : Instruction := ⟨.al, .multiplyLong true true true .r1 .r0 .r1 .r0⟩

/-- Registers with the number -2 as a double in r0 and r1. -/
def negativePair : Registers :=
  (Registers.initial.write .r0 0xFFFFFFFE#32).write .r1 0xFFFFFFFF#32

/-- A product onto its own operands is taken of what they were. -/
theorem multiplyOntoOperands_exact :
    multiplyOntoOperands.condition.holds negativePair.flags = true
      ∧ (∀ n ∈ [Register.r1, .r0, .r1, .r0], n ≠ .pc)
      ∧ (execute none multiplyOntoOperands negativePair blankBus).registers
        = ((negativePair.write .r0 0#32).write .r1 0#32).setFlags { zero := true } := by
  have below : ∀ n ∈ [Register.r1, .r0, .r1, .r0], n ≠ .pc := by decide
  obtain ⟨v, hv, -, -, ho, -⟩ :=
    (products_exact none multiplyOntoOperands negativePair blankBus rfl).2
      true true true .r1 .r0 .r1 .r0 rfl (by decide) below
  have hzero : v = 0#64 := by
    apply BitVec.eq_of_toNat_eq
    exact Int.ofNat_inj.mp (hv.trans (by decide))
  refine ⟨rfl, below, (congrArg Outcome.registers ho).trans ?_⟩
  rw [hzero]
  decide

end Handheld

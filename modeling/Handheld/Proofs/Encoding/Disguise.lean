import Handheld.Execution.Basic
import Handheld.Proofs.Encoding.Assembly

/-!
# Proofs/Encoding/Disguise — narrow instructions are wide ones in disguise

All narrow instructions but the five that read the program counter in a way of their own are forms
of wide instructions: the operations of every group are well-formed, so that they have wide words.
The one exception is a large offset to the stack pointer, which wide code has to rotate into place.
The rotation shows in the carry of the shifter only, and a sum that sets no flags does not look at
it.
-/

namespace Handheld

/-! ## Disguises -/

/-- An operation of narrow code and the one that wide code has for it. -/
inductive Operation.Disguise : Operation → Operation → Prop
  /-- The same operation. -/
  | same (op : Operation) : Disguise op op
  /-- A number too large for its field, added to the stack pointer or subtracted from it, is rotated
  into place. -/
  | stack (op : BinaryOp) (rd : Register) (value : Word) (hop : op = .add ∨ op = .sub)
      (hvalue : 255 < value.toNat) :
    Disguise (.binary op false rd .sp (.immediate value))
      (.binary op false rd .sp (.fixed (.rotated value)))

/-- Wide code can express the operation. -/
def Operation.HasWide (op : Operation) : Prop := ∃ op', op.Disguise op' ∧ op'.WellFormed

/-- A well-formed operation is its own wide form. -/
theorem Operation.WellFormed.hasWide {op : Operation} (h : op.WellFormed) : op.HasWide :=
  ⟨op, .same op, h⟩

/-! ## Disguises execute alike -/

/-- The carry of the shifter shows in the flags only. -/
theorem BinaryOp.eval_fst (op : BinaryOp) (a b : Word) (s s' : Bool) (f : Flags) :
    (op.eval a b s f).1 = (op.eval a b s' f).1 := by
  cases op
  all_goals rfl

theorem Context.writeResult_false {M : Type} (c : Context M) (rd : Register)
    (result : Word × Flags) : c.writeResult false rd result = c.write rd result.1 := by
  unfold Context.writeResult
  split
  all_goals rfl

section Execution

variable {M : Type} [Memory M] {op op' : Operation}

/-- **A disguise has the effect of what it hides**, in every context. -/
theorem Operation.Disguise.perform_eq (h : op.Disguise op') (c : Context M)
    (hook? : Option (Hook M)) : c.perform hook? op = c.perform hook? op' := by
  cases h with
  | same => rfl
  | stack op rd value =>
    change c.writeResult false rd _ = c.writeResult false rd _
    rw [Context.writeResult_false, Context.writeResult_false]
    exact congrArg (c.write rd) (op.eval_fst ..)

/-- A disguise executes as what it hides. -/
theorem Operation.Disguise.execute_eq (h : op.Disguise op') (condition : Condition)
    (hook? : Option (Hook M)) (r : Registers) (m : M) :
    execute hook? ⟨condition, op⟩ r m = execute hook? ⟨condition, op'⟩ r m := by
  cases h with
  | same => rfl
  | stack op rd value hop hvalue =>
    have hperform := (Operation.Disguise.stack op rd value hop hvalue).perform_eq
      (Context.start r m) hook?
    simp only [execute, hperform]
    rfl

end Execution

/-! ## Numbers -/

namespace Narrow

variable {h : Half} {op : Operation}

/-- A number of a few bits, scaled, has that many bits more. -/
theorem toNat_number_lt {start width scale : Nat} (hw : width + scale ≤ 32) :
    (number h start width scale).toNat < 1 <<< (width + scale) := by
  have hfield := (h.extractLsb' start width).isLt
  rw [number, BitVec.toNat_shiftLeft, Nat.one_shiftLeft, Nat.shiftLeft_eq,
    BitVec.toNat_setWidth_of_le (by omega), Nat.pow_add]
  exact Nat.lt_of_le_of_lt (Nat.mod_le _ _)
    (Nat.mul_lt_mul_of_pos_right hfield (Nat.two_pow_pos scale))

/-- A byte multiplied by four is that byte rotated right by thirty. -/
theorem isRotatedByte_number {start width : Nat} (hw : width ≤ 8) :
    IsRotatedByte 1 (number h start width 2) := by
  refine ⟨(h.extractLsb' start width).setWidth 8, 15, by decide, by decide, ?_⟩
  apply BitVec.eq_of_getLsbD_eq
  intro i hi
  rw [number, BitVec.getLsbD_shiftLeft, BitVec.getLsbD_rotateRight]
  by_cases h2 : i < 2
  · simp [h2]
    omega
  · by_cases hfield : i - 2 < width
    · simp [h2, hfield, show i - 2 < 8 by omega]
    · simp [h2, hfield]

/-! ## The groups -/

theorem zero_fits : ShiftKind.lsl.Fits 0 := Nat.zero_lt_succ 31

/-- Shifts and sums on low registers are well-formed. -/
theorem wellFormed_shiftOrAdd : (shiftOrAdd h).WellFormed := by
  have hdistance : (h.extractLsb' 6 5).toNat < 32 := (h.extractLsb' 6 5).isLt
  have hright : 0 < (if (h.extractLsb' 6 5).toNat = 0 then 32 else (h.extractLsb' 6 5).toNat)
      ∧ (if (h.extractLsb' 6 5).toNat = 0 then 32 else (h.extractLsb' 6 5).toNat) ≤ 32 := by
    split
    all_goals omega
  unfold shiftOrAdd
  split
  · exact hdistance
  · exact hright
  · exact hright
  · change DataOperand.Fits _
    split
    · exact Nat.lt_of_lt_of_le (toNat_number_lt (by decide)) (by decide)
    · exact zero_fits

theorem wellFormed_withByte : (withByte h).WellFormed := by
  have hnumber : (number h 0 8 0).toNat < 256 := toNat_number_lt (by decide)
  unfold withByte
  split
  all_goals exact hnumber

theorem wellFormed_registerOffset : (registerOffset h).WellFormed := by
  unfold registerOffset
  split
  case h_2 | h_4 | h_6 | h_8 => exact ⟨rfl, rfl⟩
  all_goals exact zero_fits

theorem wellFormed_anyRegister? (hop : anyRegister? h = some op) : op.WellFormed := by
  unfold anyRegister? at hop
  split at hop
  case h_4 =>
    split at hop
    · cases hop
    · cases hop
      exact id
  all_goals
    cases hop
    exact zero_fits

/-- Operations on two low registers are well-formed. -/
theorem wellFormed_withRegister : (withRegister h).WellFormed := by
  unfold withRegister
  split
  case h_3 | h_4 | h_5 | h_8 => trivial
  case h_10 => exact Nat.zero_lt_succ 255
  case h_14 => exact id
  all_goals exact zero_fits

theorem wellFormed_wordOrByte : (wordOrByte h).WellFormed := by
  unfold wordOrByte
  split
  all_goals exact Nat.lt_of_lt_of_le (toNat_number_lt (by decide)) (by decide)

theorem wellFormed_halfOrStack : (halfOrStack h).WellFormed := by
  unfold halfOrStack
  split
  all_goals
    split
    all_goals exact Nat.lt_of_lt_of_le (toNat_number_lt (by decide)) (by decide)

theorem wellFormed_pushOrPop : (pushOrPop h).WellFormed := by
  have hsp : Register.sp ≠ .pc := by decide
  unfold pushOrPop
  split
  all_goals exact hsp

theorem wellFormed_block : (block h).WellFormed := by
  have hlow : ∀ v : BitVec 3, (v.setWidth 4).toFin ≠ Register.pc := by decide
  unfold block
  split
  all_goals exact hlow _

/-- A large offset to the stack pointer is rotated into place. -/
theorem hasWide_stack {kind : BinaryOp} {rd : Register} {start width : Nat}
    (hkind : kind = .add ∨ kind = .sub) (hw : width ≤ 8) :
    (Operation.binary kind false rd .sp (.immediate (number h start width 2))).HasWide := by
  by_cases hvalue : 255 < (number h start width 2).toNat
  · exact ⟨_, .stack kind rd _ hkind hvalue, isRotatedByte_number hw⟩
  · exact Operation.WellFormed.hasWide (Nat.lt_succ_of_le (Nat.le_of_not_lt hvalue))

/-- Operations on registers have wide forms, the narrow ones apart. -/
theorem hasWide_of_registers? (hop : registers? h = some op) (hn : ¬op.IsNarrowOnly) :
    op.HasWide := by
  unfold registers? at hop
  split at hop
  · cases hop
    exact wellFormed_registerOffset.hasWide
  · split at hop
    · cases hop
      exact (hn trivial).elim
    · split at hop
      · exact (wellFormed_anyRegister? hop).hasWide
      · cases hop
        exact wellFormed_withRegister.hasWide

/-- Operations on the stack have wide forms, with the stack pointer as their base. -/
theorem hasWide_of_stack? (hop : stack? h = some op) (hn : ¬op.IsNarrowOnly) : op.HasWide := by
  unfold stack? at hop
  split at hop
  · split at hop
    case h_1 =>
      cases hop
      refine hasWide_stack ?_ (by decide)
      split
      · exact .inr rfl
      · exact .inl rfl
    case h_6 => cases hop
    all_goals
      cases hop
      exact wellFormed_pushOrPop.hasWide
  · split at hop
    · cases hop
      exact hasWide_stack (.inl rfl) (by decide)
    · cases hop
      exact (hn trivial).elim

theorem hasWide_of_conditional? {i : Instruction} (hi : conditional? h = some i)
    (hn : ¬i.operation.IsNarrowOnly) : i.condition = .al ∧ i.operation.HasWide := by
  unfold conditional? at hi
  split at hi
  · cases hi
    exact ⟨rfl, Operation.WellFormed.hasWide id⟩
  · cases hi
  · cases hi
    exact (hn trivial).elim

/-- The halves of a long call and the narrow branch have no wide form. -/
theorem isNarrowOnly_of_branch? (hop : branch? h = some op) : op.IsNarrowOnly := by
  unfold branch? at hop
  split at hop
  case h_2 => cases hop
  all_goals
    cases hop
    trivial

/-- **A narrow instruction has a wide form**, unless it is one of the five kinds that exist in
narrow code only, and always takes effect. -/
theorem hasWide_of_decode? {i : Instruction} (hi : decode? h = some i)
    (hn : ¬i.operation.IsNarrowOnly) : i.condition = .al ∧ i.operation.HasWide := by
  unfold decode? at hi
  split at hi
  · cases hi
    exact ⟨rfl, wellFormed_shiftOrAdd.hasWide⟩
  · cases hi
    exact ⟨rfl, wellFormed_withByte.hasWide⟩
  · obtain ⟨op, hop, rfl⟩ := Option.map_eq_some_iff.mp hi
    exact ⟨rfl, hasWide_of_registers? hop hn⟩
  · cases hi
    exact ⟨rfl, wellFormed_wordOrByte.hasWide⟩
  · cases hi
    exact ⟨rfl, wellFormed_halfOrStack.hasWide⟩
  · obtain ⟨op, hop, rfl⟩ := Option.map_eq_some_iff.mp hi
    exact ⟨rfl, hasWide_of_stack? hop hn⟩
  · split at hi
    · exact hasWide_of_conditional? hi hn
    · cases hi
      exact ⟨rfl, wellFormed_block.hasWide⟩
  · obtain ⟨op, hop, rfl⟩ := Option.map_eq_some_iff.mp hi
    exact (hn (isNarrowOnly_of_branch? hop)).elim

end Narrow

/-! ## Narrow words and wide words -/

/-- **Every narrow instruction is a wide instruction in disguise**, but for the five kinds that
exist in narrow code only: some wide word, whose condition always holds, decodes to the same
instruction, or to a sum with the stack pointer whose number is rotated into place, and both execute
alike on all registers, all memories and with all handlers of software interrupts. -/
theorem decode_narrow_is_wide {w : Word} {i : Instruction} (h : decode true w = .ok i)
    (hn : ¬i.operation.IsNarrowOnly) :
    ∃ v i', v.extractLsb' 28 4 = Condition.al.code ∧ decode false v = .ok i'
      ∧ i'.condition = i.condition ∧ i.operation.Disguise i'.operation
      ∧ ∀ (M : Type) [Memory M] (hook? : Option (Hook M)) (r : Registers) (m : M),
        execute hook? i r m = execute hook? i' r m := by
  obtain ⟨hal, op', hdisguise, hop'⟩ := Narrow.hasWide_of_decode? (decode_eq_ok_iff.mp h) hn
  obtain ⟨condition, op⟩ := i
  cases hal
  refine ⟨(⟨.al, op'⟩ : Instruction).assemble, ⟨.al, op'⟩, ?_, decode_assemble hop', rfl,
    hdisguise, ?_⟩
  · simp [Instruction.assemble, BitVec.extractLsb'_or]
  · intro M _ hook? r m
    exact hdisguise.execute_eq .al hook? r m

/-- An offset of 1020 to the stack pointer, which does not fit the field of a wide word. -/
theorem decode_narrow_is_wide_stack :
    decode true 0xA8FF#32 = .ok ⟨.al, .binary .add false .r0 .sp (.immediate 1020#32)⟩
      ∧ ∃ v i', v.extractLsb' 28 4 = Condition.al.code ∧ decode false v = .ok i'
        ∧ i'.condition = .al
        ∧ (Operation.binary .add false .r0 .sp (.immediate 1020#32)).Disguise i'.operation
        ∧ ∀ (M : Type) [Memory M] (hook? : Option (Hook M)) (r : Registers) (m : M),
          execute hook? ⟨.al, .binary .add false .r0 .sp (.immediate 1020#32)⟩ r m
            = execute hook? i' r m :=
  ⟨rfl, decode_narrow_is_wide (w := 0xA8FF#32) rfl id⟩

end Handheld

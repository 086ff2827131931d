import Handheld.Proofs.Execution.Arithmetic
import Handheld.Encoding.Basic

/-!
# Proofs/Execution/PcOperands — how far ahead data operations read the program counter

A data operation reads the program counter eight ahead of its own address, and the register that it
shifts by another register twelve ahead (`execute_data`).  Its first operand does not follow: it
reads eight ahead there too, so the operands of one instruction agree on the program counter exactly
if none is shifted by a register or the first is another register (`pc_read_exactly`).
-/

namespace Handheld

/-! ## Data operations by their operands -/

/-- A data operation without its operands. -/
inductive DataOperation where
  /-- Combines two values into a register. -/
  | binary (op : BinaryOp) (setFlags : Bool) (rd : Register)
  /-- Compares two values. -/
  | test (op : TestOp)
  /-- Moves the second value into a register. -/
  | move (op : MoveOp) (setFlags : Bool) (rd : Register)

namespace DataOperation

/-- The operation on a first register and a second operand. -/
def toOperation (o : DataOperation) (rn : Register) (operand : DataOperand) : Operation :=
  match o with
  | binary op setFlags rd => .binary op setFlags rd rn operand
  | test op => .test op rn operand
  | move op setFlags rd => .move op setFlags rd operand

/-- The operation has a first operand. -/
def takesFirst : DataOperation → Bool
  | binary .. | test _ => true
  | move .. => false

end DataOperation

namespace BinaryOp

/-- The operands can be exchanged. -/
def commutes : BinaryOp → Bool
  | and | eor | add | adc | orr => true
  | sub | rsb | sbc | rsc | bic => false

end BinaryOp

/-- The operands of a data operation can be exchanged. -/
def DataOperation.commutes : DataOperation → Bool
  | binary op .. => op.commutes
  | test op => op.binary.commutes
  | move .. => false

/-! ## Views of the registers -/

/-- The registers with the program counter some way ahead of the instruction. -/
def Registers.ahead (r : Registers) (distance : Word) (n : Register) : Word :=
  if n = .pc then r.pc + distance else r.read n

/-- Only the program counter reads ahead. -/
theorem Registers.ahead_of_ne (r : Registers) (distance : Word) {n : Register} (h : n ≠ .pc) :
    r.ahead distance n = r.read n := if_neg h

/-- The value of an operand in a view of the registers, and the carry of its shifter. -/
def Operand.seen (see : Register → Word) (carry : Bool) : Operand → Word × Bool
  | immediate v => (v, carry)
  | rotated v => (v, v.msb)
  | shifted n kind distance => kind.apply (see n) distance carry
  | throughCarry n => rotateThroughCarry (see n) carry

namespace DataOperand

/-- The value of an operand in a view of the registers, and the carry of its shifter. -/
def seen (see : Register → Word) (carry : Bool) : DataOperand → Word × Bool
  | fixed o => o.seen see carry
  | byRegister n kind distance => kind.apply (see n) ((see distance).byte 0).toNat carry

/-- How far ahead an operand reads the program counter. -/
def lead : DataOperand → Word
  | fixed _ => 8#32
  | byRegister .. => 12#32

theorem byRegister_ne_of_ne {d : Register} (h : d ≠ .pc) (n : Register) (kind : ShiftKind)
    (n' : Register) (kind' : ShiftKind) : byRegister n kind d ≠ byRegister n' kind' .pc :=
  fun e => h (byRegister.inj e).2.2

end DataOperand

section Execute

variable {M : Type}

/-- Ends a data operation on a first value and on a second one with the carry of its shifter. -/
def Context.finish (c : Context M) (o : DataOperation) (a : Word) (b : Word × Bool) : Context M :=
  match o with
  | .binary op setFlags rd => c.writeResult setFlags rd (op.eval a b.1 b.2 c.flags)
  | .test op => c.setFlags (op.binary.eval a b.1 b.2 c.flags).2
  | .move op setFlags rd => c.writeResult setFlags rd (op.eval b.1 b.2 c.flags)

/-- What a data operation leaves if its first operand is read in one view of the registers and its
second operand in another. -/
def DataOperation.outcome (o : DataOperation) (rn : Register) (operand : DataOperand)
    (first second : Register → Word) (r : Registers) (m : M) : Outcome M :=
  ((Context.start r m).finish o (first rn) (operand.seen second r.flags.carry)).retire
    (o.toOperation rn operand).cycles

variable {r : Registers}

/-- In wide code the program counter is read eight bytes ahead. -/
theorem pc_start (h : r.flags.thumb = false) (m : M) : (Context.start r m).pc = r.pc + 8#32 := by
  change r.pc + (r.flags.instructionSize + r.flags.instructionSize) = _
  rw [Flags.instructionSize, h]
  rfl

theorem read_start (h : r.flags.thumb = false) (m : M) (n : Register) :
    (Context.start r m).read n = r.ahead 8#32 n := by
  rw [Context.read, Registers.ahead, pc_start h]
  rfl

/-- An operand is evaluated with the program counter ahead. -/
theorem operand_start (h : r.flags.thumb = false) (m : M) (operand : Operand) :
    (Context.start r m).operand operand = operand.seen (r.ahead 8#32) r.flags.carry := by
  cases operand with
  | shifted n kind distance | throughCarry n =>
    simp only [Context.operand, read_start h]
    rfl
  | _ => rfl

/-- The second operand reads the program counter as far ahead as its lead. -/
theorem dataOperand_start (h : r.flags.thumb = false) (m : M) {operand : DataOperand}
    (hd : ∀ n kind, operand ≠ .byRegister n kind .pc) :
    (Context.start r m).dataOperand operand
      = operand.seen (r.ahead operand.lead) r.flags.carry := by
  cases operand with
  | fixed operand => exact operand_start h m operand
  | byRegister n kind distance =>
    have hne : distance ≠ .pc := fun e => hd n kind (by rw [e])
    have hdistance : r.ahead 12#32 distance = r.read distance := r.ahead_of_ne _ hne
    have hvalue : (if n = .pc then (Context.start r m).pc + 4 else (Context.start r m).read n)
        = r.ahead 12#32 n := by
      unfold Registers.ahead
      split
      · rw [pc_start h, BitVec.add_assoc]
        rfl
      · next hn => exact Context.read_of_ne_pc _ hn
    simp only [Context.dataOperand, hvalue, DataOperand.seen, DataOperand.lead, hdistance,
      Context.read_of_ne_pc _ hne]
    rfl

variable [Memory M] {hook? : Option (Hook M)} {c : Condition}

/-- **What a data operation leaves**: its first operand reads the program counter eight ahead. -/
theorem execute_data (h : r.flags.thumb = false) (holds : c.holds r.flags = true)
    (o : DataOperation) (rn : Register) {operand : DataOperand}
    (hd : ∀ n kind, operand ≠ .byRegister n kind .pc) (m : M) :
    execute hook? ⟨c, o.toOperation rn operand⟩ r m
      = o.outcome rn operand (r.ahead 8#32) (r.ahead operand.lead) r m := by
  have hop : ∀ word, o.toOperation rn operand ≠ .coprocessor word := by
    cases o <;> simp [DataOperation.toOperation]
  rw [execute_of_operation holds rfl hop, DataOperation.outcome, ← read_start h m,
    ← dataOperand_start h m hd]
  cases o <;> rfl

/-- Both operands read the program counter as far ahead as the second one does. -/
def ReadsConsistently (hook? : Option (Hook M)) (m : M) (o : DataOperation) (rn : Register)
    (operand : DataOperand) : Prop :=
  ∀ (c : Condition) (r : Registers), r.flags.thumb = false → c.holds r.flags = true →
    execute hook? ⟨c, o.toOperation rn operand⟩ r m
      = o.outcome rn operand (r.ahead operand.lead) (r.ahead operand.lead) r m

end Execute

/-! ## Two operands that disagree -/

section Results

variable {M : Type} (c : Context M) {setFlags : Bool} {rd : Register} {result : Word × Flags}

/-- A result is found in its destination. -/
theorem read_writeResult (hd : rd ≠ .pc) :
    (c.writeResult setFlags rd result).registers.read rd = result.1 := by
  rw [Context.writeResult, if_neg hd, c.write_of_ne_pc hd]
  cases setFlags <;> exact Registers.read_write_self _ _ _

/-- A result in the program counter is aligned, if no status is restored. -/
theorem pc_writeResult (hm : c.registers.mode.savesStatus = false)
    (ht : c.registers.flags.thumb = false) :
    (c.writeResult setFlags .pc result).registers.pc = result.1.alignWord := by
  have hs : c.registers.writeStatus c.registers.savedStatus = c.registers := by
    rw [Registers.savedStatus, if_neg (by simp [hm]), Registers.writeStatus_status]
  have hr : (if setFlags then c.restoreStatus else c).registers = c.registers := by
    cases setFlags with
    | false => rfl
    | true => exact hs
  rw [Context.writeResult, if_pos rfl, Context.write, if_pos rfl]
  refine (Registers.read_write_self _ .pc _).trans ?_
  rw [hr, ht]
  rfl

/-- A result can be told from the registers, up to the bits that a jump clears. -/
theorem writeResult_ne (hm : c.registers.mode.savesStatus = false)
    (ht : c.registers.flags.thumb = false) {result' : Word × Flags}
    (h : result.1.alignWord ≠ result'.1.alignWord) :
    (c.writeResult setFlags rd result).registers
      ≠ (c.writeResult setFlags rd result').registers := by
  intro he
  refine h ?_
  by_cases hd : rd = .pc
  · subst hd
    rw [← pc_writeResult c hm ht, he, pc_writeResult c hm ht]
  · rw [← read_writeResult c hd, he, read_writeResult c hd]

end Results

/-- Registers that all hold the address twelve ahead.  Its low byte is zero, so that it shifts by
nothing, and its sign is not that of the address eight ahead, so that every comparison tells the
two apart. -/
def levelRegisters : Registers :=
  { Registers.initial with visible := Vector.replicate 16 0x80000000#32 }.setPc 0x7FFFFFF4#32

theorem ahead_levelRegisters (n : Register) : levelRegisters.ahead 12#32 n = 0x80000000#32 := by
  revert n
  decide

theorem read_levelRegisters {n : Register} (h : n ≠ .pc) :
    levelRegisters.read n = 0x80000000#32 := by
  rw [← levelRegisters.ahead_of_ne 12#32 h, ahead_levelRegisters]

/-- On those registers a shift by register shifts by nothing. -/
theorem seen_levelRegisters (n : Register) (kind : ShiftKind) (distance : Register)
    (carry : Bool) :
    (DataOperand.byRegister n kind distance).seen (levelRegisters.ahead 12#32) carry
      = (0x80000000#32, carry) := by
  rw [DataOperand.seen, ahead_levelRegisters, ahead_levelRegisters]
  rfl

/-- An operation tells apart first operands that are four apart. -/
theorem finish_levelRegisters_ne {M : Type} (m : M) {o : DataOperation}
    (h : o.takesFirst = true) :
    ((Context.start levelRegisters m).finish o 0x7FFFFFFC#32 (0x80000000#32, false)).registers
      ≠ ((Context.start levelRegisters m).finish o 0x80000000#32 (0x80000000#32, false)).registers
      := by
  cases o with
  | binary op setFlags rd =>
    refine writeResult_ne _ rfl rfl ?_
    change (op.eval 0x7FFFFFFC#32 0x80000000#32 false {}).1.alignWord
      ≠ (op.eval 0x80000000#32 0x80000000#32 false {}).1.alignWord
    cases op <;> decide
  | test op =>
    have hne : (op.binary.eval 0x7FFFFFFC#32 0x80000000#32 false {}).2
        ≠ (op.binary.eval 0x80000000#32 0x80000000#32 false {}).2 := by
      cases op <;> decide
    exact fun he => hne (congrArg Registers.flags he)
  | move op setFlags rd => cases h

/-! ## Operands exchanged -/

/-- A sum does not depend on the order of its operands. -/
theorem addWithCarry_comm (a b : Word) (carry : Bool) :
    addWithCarry a b carry = addWithCarry b a carry := by
  have hsum : a.setWidth 33 + b.setWidth 33 = b.setWidth 33 + a.setWidth 33 := BitVec.add_comm _ _
  simp only [addWithCarry, hsum, Sum.mk.injEq, true_and]
  cases ha : a.msb <;> cases hb : b.msb <;> rfl

/-- The value and the flags of a commutative operation do not depend on the order of its
operands. -/
theorem BinaryOp.eval_comm {op : BinaryOp} (h : op.commutes = true) (a b : Word) (carry : Bool)
    (f : Flags) : op.eval a b carry f = op.eval b a carry f := by
  cases op with
  | and => rw [eval, eval, BitVec.and_comm]
  | eor => rw [eval, eval, BitVec.xor_comm]
  | orr => rw [eval, eval, BitVec.or_comm]
  | add | adc => rw [eval, eval, addWithCarry_comm]
  | _ => cases h

theorem Context.finish_comm {M : Type} (c : Context M) {o : DataOperation}
    (h : o.commutes = true) (a b : Word) (carry : Bool) :
    c.finish o a (b, carry) = c.finish o b (a, carry) := by
  cases o with
  | binary op setFlags rd => rw [finish, finish, BinaryOp.eval_comm h]
  | test op => rw [finish, finish, BinaryOp.eval_comm h]
  | move => cases h

/-- Every commutative operation has a first operand. -/
theorem DataOperation.takesFirst_of_commutes {o : DataOperation} (h : o.commutes = true) :
    o.takesFirst = true := by
  cases o with
  | move => cases h
  | _ => rfl

section Exchange

variable {M : Type} {r : Registers}

/-- A shift by nothing leaves the view as it is. -/
theorem DataOperand.seen_of_byte {see : Register → Word} {d : Register}
    (h : (see d).byte 0 = 0#8) (n : Register) (kind : ShiftKind) (carry : Bool) :
    (DataOperand.byRegister n kind d).seen see carry = (see n, carry) := by
  rw [seen, h]
  rfl

variable [Memory M] {hook? : Option (Hook M)} {c : Condition}

/-- What an operation on an unshifted register leaves. -/
theorem execute_unshifted (h : r.flags.thumb = false) (holds : c.holds r.flags = true)
    (o : DataOperation) (n k : Register) (kind : ShiftKind) {d : Register} (hd : d ≠ .pc)
    (hb : (r.read d).byte 0 = 0#8) (m : M) :
    execute hook? ⟨c, o.toOperation n (.byRegister k kind d)⟩ r m
      = ((Context.start r m).finish o (r.ahead 8#32 n) (r.ahead 12#32 k, r.flags.carry)).retire
          (o.toOperation n (.byRegister k kind d)).cycles := by
  have hsee : (r.ahead 12#32 d).byte 0 = 0#8 := by rwa [r.ahead_of_ne _ hd]
  rw [execute_data h holds o n (DataOperand.byRegister_ne_of_ne hd k kind),
    DataOperation.outcome, DataOperand.lead, DataOperand.seen_of_byte hsee]

/-- The registers after an operation that always executes, on registers of one content. -/
theorem execute_levelRegisters (o : DataOperation) (n k : Register) (kind : ShiftKind)
    {d : Register} (hd : d ≠ .pc) (m : M) :
    (execute hook? ⟨.al, o.toOperation n (.byRegister k kind d)⟩ levelRegisters m).registers
      = ((Context.start levelRegisters m).finish o (levelRegisters.ahead 8#32 n)
          (0x80000000#32, false)).registers := by
  have hb : (levelRegisters.read d).byte 0 = 0#8 := by
    rw [read_levelRegisters hd]
    rfl
  rw [execute_unshifted rfl rfl o n k kind hd hb m, ahead_levelRegisters]
  rfl

/-- The operands of an operation can be exchanged if a third register shifts the second by
nothing. -/
def Exchanges (hook? : Option (Hook M)) (m : M) (o : DataOperation) (n k : Register)
    (kind : ShiftKind) (d : Register) : Prop :=
  ∀ (c : Condition) (r : Registers), r.flags.thumb = false → c.holds r.flags = true →
    (r.read d).byte 0 = 0#8 →
    execute hook? ⟨c, o.toOperation n (.byRegister k kind d)⟩ r m
      = execute hook? ⟨c, o.toOperation k (.byRegister n kind d)⟩ r m

/-- Exchanging the operands is symmetric. -/
theorem Exchanges.symm {m : M} {o : DataOperation} {n k : Register} {kind : ShiftKind}
    {d : Register} (h : Exchanges hook? m o n k kind d) : Exchanges hook? m o k n kind d :=
  fun c r ht holds hb => (h c r ht holds hb).symm

/-- **The program counter cannot be exchanged with another register.** -/
theorem not_exchanges_pc {o : DataOperation} (h : o.commutes = true) {k : Register} (hk : k ≠ .pc)
    (kind : ShiftKind) {d : Register} (hd : d ≠ .pc) (m : M) :
    ¬Exchanges hook? m o .pc k kind d := by
  intro he
  have hpc : levelRegisters.ahead 8#32 .pc = 0x7FFFFFFC#32 := rfl
  have hlevel := congrArg Outcome.registers (he .al levelRegisters rfl rfl (by
    rw [read_levelRegisters hd]
    rfl))
  rw [execute_levelRegisters o .pc k kind hd, execute_levelRegisters o k .pc kind hd, hpc,
    levelRegisters.ahead_of_ne _ hk, read_levelRegisters hk] at hlevel
  exact finish_levelRegisters_ne m (DataOperation.takesFirst_of_commutes h) hlevel

/-- Registers other than the program counter can be exchanged. -/
theorem exchanges_of_ne {o : DataOperation} (h : o.commutes = true) {n k : Register} (hn : n ≠ .pc)
    (hk : k ≠ .pc) (kind : ShiftKind) {d : Register} (hd : d ≠ .pc) (m : M) :
    Exchanges hook? m o n k kind d := by
  intro c r ht holds hb
  have hcycles : (o.toOperation n (.byRegister k kind d)).cycles
      = (o.toOperation k (.byRegister n kind d)).cycles := by
    cases o <;> rfl
  rw [execute_unshifted ht holds o n k kind hd hb m, execute_unshifted ht holds o k n kind hd hb m,
    hcycles, Context.finish_comm _ h]
  simp only [r.ahead_of_ne _ hn, r.ahead_of_ne _ hk]

/-- Two operands can be exchanged exactly if both are the program counter or neither is. -/
theorem exchanges_iff {o : DataOperation} (h : o.commutes = true) (n k : Register)
    (kind : ShiftKind) {d : Register} (hd : d ≠ .pc) (m : M) :
    Exchanges hook? m o n k kind d ↔ (n = .pc ↔ k = .pc) := by
  constructor
  · intro he
    constructor
    · rintro rfl
      by_contra hk
      exact not_exchanges_pc h hk kind hd m he
    · rintro rfl
      by_contra hn
      exact not_exchanges_pc h hn kind hd m he.symm
  · intro hiff
    by_cases hn : n = .pc
    · rw [hn, hiff.mp hn]
      exact fun _ _ _ _ _ => rfl
    · exact exchanges_of_ne h hn (fun hk => hn (hiff.mpr hk)) kind hd m

end Exchange

/-! ## Where the operands agree -/

section Agreement

variable {M : Type} [Memory M] (hook? : Option (Hook M)) (m : M)

/-- The program counter is read alike unless it is the first operand beside a shift by a
register. -/
theorem readsConsistently_iff (o : DataOperation) (rn : Register) {operand : DataOperand}
    (hd : ∀ n kind, operand ≠ .byRegister n kind .pc) :
    ReadsConsistently hook? m o rn operand
      ↔ (∃ x, operand = .fixed x) ∨ rn ≠ .pc ∨ o.takesFirst = false := by
  constructor
  · intro hc
    cases operand with
    | fixed x => exact .inl ⟨x, rfl⟩
    | byRegister n kind d =>
      -- A first operand that is the program counter would have to read the same eight ahead.
      refine .inr (not_and_or.mp ?_ |>.imp id Bool.eq_false_of_not_eq_true)
      rintro ⟨rfl, hfirst⟩
      have hlevel := hc .al levelRegisters rfl rfl
      rw [execute_data rfl rfl o .pc hd, DataOperation.outcome, DataOperation.outcome,
        DataOperand.lead, seen_levelRegisters] at hlevel
      exact finish_levelRegisters_ne m hfirst (congrArg Outcome.registers hlevel)
  · intro hcase c r ht holds
    have hsame : operand.lead = 8#32 ∨ rn ≠ .pc ∨ o.takesFirst = false := by
      refine hcase.imp_left ?_
      rintro ⟨x, rfl⟩
      rfl
    rw [execute_data ht holds o rn hd]
    obtain hlead | hrn | hfirst := hsame
    · rw [hlead]
    · simp only [DataOperation.outcome, r.ahead_of_ne _ hrn]
    · cases o with
      | move => rfl
      | _ => cases hfirst

/-- **How far ahead data operations read the program counter**: a first operand eight, a second one
as far as its lead.  The two are the same exactly where no register shifts the second operand or the
first is not the program counter, and operands can be exchanged exactly where the program counter
is both of them or neither. -/
theorem pc_read_exactly :
    (∀ (o : DataOperation) (rn : Register) (operand : DataOperand),
      (∀ n kind, operand ≠ .byRegister n kind .pc) →
      (∀ (c : Condition) (r : Registers), r.flags.thumb = false → c.holds r.flags = true →
        execute hook? ⟨c, o.toOperation rn operand⟩ r m
          = o.outcome rn operand (r.ahead 8#32) (r.ahead operand.lead) r m)
      ∧ (ReadsConsistently hook? m o rn operand
          ↔ (∃ x, operand = .fixed x) ∨ rn ≠ .pc ∨ o.takesFirst = false))
    ∧ ∀ (o : DataOperation) (n k : Register) (kind : ShiftKind) (d : Register),
      o.commutes = true → d ≠ .pc →
      (Exchanges hook? m o n k kind d ↔ (n = .pc ↔ k = .pc)) := by
  refine ⟨fun o rn operand hd => ⟨fun c r ht holds => execute_data ht holds o rn hd m, ?_⟩, ?_⟩
  · exact readsConsistently_iff hook? m o rn hd
  · exact fun o n k kind d h hd => exchanges_iff h n k kind hd m

end Agreement

/-- The sum of the program counter and an unshifted register mixes its views; that of the register
and the program counter does not. -/
theorem sumOfPc_mixed :
    ¬ReadsConsistently none blankBus (.binary .add false .r0) .pc (.byRegister .r1 .lsl .r2)
      ∧ ReadsConsistently none blankBus (.binary .add false .r0) .r1 (.byRegister .pc .lsl .r2)
      ∧ ¬Exchanges none blankBus (.binary .add false .r0) .pc .r1 .lsl .r2 := by
  have h := pc_read_exactly none blankBus
  have hd : Register.r2 ≠ .pc := by decide
  refine ⟨fun hc => ?_, ?_, fun he => ?_⟩
  · obtain ⟨x, hx⟩ | hpc | hfirst :=
      (h.1 _ .pc _ (DataOperand.byRegister_ne_of_ne hd .r1 .lsl)).2.mp hc
    · cases hx
    · exact hpc rfl
    · cases hfirst
  · exact (h.1 _ .r1 _ (DataOperand.byRegister_ne_of_ne hd .pc .lsl)).2.mpr
      (.inr (.inl (by decide)))
  · exact absurd ((h.2 _ .pc .r1 .lsl .r2 rfl (by decide)).mp he) (by decide)

/-! ## A sum of the program counter -/

/-- Registers at an address, all clear but the stack pointer. -/
def sumRegisters : Registers := Registers.initial.setPc 0x1000#32

/-- `ADD r0, pc, r1, LSL r2` with nothing to add or to shift by gives an address eight ahead,
`ADD r0, r1, pc, LSL r2` one twelve ahead. -/
theorem sumOfPc_differs :
    decode? false 0xE08F0211#32
        = some ⟨.al, DataOperation.toOperation (.binary .add false .r0) .pc
            (.byRegister .r1 .lsl .r2)⟩
      ∧ decode? false 0xE081021F#32
        = some ⟨.al, DataOperation.toOperation (.binary .add false .r0) .r1
            (.byRegister .pc .lsl .r2)⟩
      ∧ (execute none ⟨.al, DataOperation.toOperation (.binary .add false .r0) .pc
          (.byRegister .r1 .lsl .r2)⟩ sumRegisters blankBus).registers.read .r0 = 0x1008#32
      ∧ (execute none ⟨.al, DataOperation.toOperation (.binary .add false .r0) .r1
          (.byRegister .pc .lsl .r2)⟩ sumRegisters blankBus).registers.read .r0 = 0x100C#32
      ∧ ¬ReadsConsistently none blankBus (.binary .add false .r0) .pc (.byRegister .r1 .lsl .r2)
      ∧ ¬Exchanges none blankBus (.binary .add false .r0) .pc .r1 .lsl .r2 := by
  refine ⟨by decide, by decide, rfl, rfl, fun hc => ?_, fun he => ?_⟩
  · have hread := congrArg (fun o => o.registers.read .r0) (hc .al sumRegisters rfl rfl)
    exact absurd hread (show (0x1008#32 : Word) ≠ 0x100C#32 by decide)
  · have hread := congrArg (fun o => o.registers.read .r0) (he .al sumRegisters rfl rfl rfl)
    exact absurd hread (show (0x1008#32 : Word) ≠ 0x100C#32 by decide)

end Handheld

import Handheld.Proofs.Interrupt.Delivery
import Handheld.Proofs.Machine.Failure
import Handheld.Proofs.Machine.Return

/-!
# Proofs/Machine/LongCall — a narrow call takes two steps and is one call

Between its two steps a call's target is half in the link register.  Interrupts that come there keep
that register in the bank of the interrupted program, so that a handler which returns by
`ADDS pc, lr, #4` finds the call where it was (`Waits.resumes`).  With or without them the call
leaves the return address in the link register and nothing else behind it, and `BX lr` goes back
(`longCall_once`).
-/

namespace Handheld

/-! ## The two halves of a call -/

/-- The first instruction of a call. -/
def callHigh (high : BitVec 11) : Half := 0b11110#5 ++ high

/-- The second instruction of a call. -/
def callLow (low : BitVec 11) : Half := 0b11111#5 ++ low

/-- How far a call goes from where its first instruction reads the program counter. -/
def callOffset (high low : BitVec 11) : Word := (high ++ low ++ 0b0#1).signExtend 32

/-- The first half of a call is decoded with its part of the offset, sign and all. -/
theorem decode?_callHigh (high : BitVec 11) : Narrow.decode? (callHigh high)
    = some ⟨.al, .linkHigh ((high ++ 0#12).signExtend 32)⟩ := by
  have hgroup : (callHigh high).extractLsb' 13 3 = 0b111#3 :=
    BitVec.extractLsb'_append_eq_of_le (by decide)
  have hkind : (callHigh high).extractLsb' 11 2 = 0b10#2 :=
    BitVec.extractLsb'_append_eq_of_le (by decide)
  have hpart : (callHigh high).extractLsb' 0 11 = high := by
    rw [callHigh, BitVec.extractLsb'_append_eq_of_add_le (by decide), BitVec.extractLsb'_eq_self]
  simp only [Narrow.decode?, hgroup, Narrow.branch?, hkind, hpart]
  rfl

/-- The second half of a call is decoded with its part of the offset, in halfwords. -/
theorem decode?_callLow (low : BitVec 11) : Narrow.decode? (callLow low)
    = some ⟨.al, .linkLow (low.setWidth 32 <<< 1)⟩ := by
  have hgroup : (callLow low).extractLsb' 13 3 = 0b111#3 :=
    BitVec.extractLsb'_append_eq_of_le (by decide)
  have hkind : (callLow low).extractLsb' 11 2 = 0b11#2 :=
    BitVec.extractLsb'_append_eq_of_le (by decide)
  have hpart : (callLow low).extractLsb' 0 11 = low := by
    rw [callLow, BitVec.extractLsb'_append_eq_of_add_le (by decide), BitVec.extractLsb'_eq_self]
  simp only [Narrow.decode?, hgroup, Narrow.branch?, hkind, Narrow.number, hpart]
  rfl

theorem callHigh_top (high : BitVec 11) : (callHigh high).getLsbD 15 = true := by
  rw [callHigh, BitVec.getLsbD_append]
  rfl

theorem callLow_top (low : BitVec 11) : (callLow low).getLsbD 15 = true := by
  rw [callLow, BitVec.getLsbD_append]
  rfl

/-- **The parts of an offset do not overlap**, and the sign of the first is that of the whole. -/
theorem add_callParts (high low : BitVec 11) :
    (high ++ 0#12).signExtend 32 + low.setWidth 32 <<< 1 = callOffset high low := by
  have hapart : (high ++ 0#12).signExtend 32 &&& low.setWidth 32 <<< 1 = 0#32 := by
    apply BitVec.eq_of_getLsbD_eq
    intro i hi
    simp only [BitVec.getLsbD_and, BitVec.getLsbD_signExtend, BitVec.getLsbD_shiftLeft,
      BitVec.getLsbD_setWidth, BitVec.getLsbD_append, BitVec.getLsbD_zero]
    grind
  rw [BitVec.add_eq_or_of_and_eq_zero _ _ hapart, callOffset]
  apply BitVec.eq_of_getLsbD_eq
  intro i hi
  simp only [BitVec.getLsbD_or, BitVec.getLsbD_signExtend, BitVec.getLsbD_shiftLeft,
    BitVec.getLsbD_setWidth, BitVec.getLsbD_append, BitVec.getLsbD_zero, BitVec.msb_append]
  grind

theorem even_callOffset (high low : BitVec 11) : (callOffset high low).toNat % 2 = 0 := by
  have hbit : (callOffset high low).getLsbD 0 = false := by
    rw [callOffset, BitVec.getLsbD_signExtend, BitVec.getLsbD_append]
    rfl
  rw [BitVec.getLsbD, Nat.testBit_zero] at hbit
  simpa using hbit

/-! ## What a call leaves -/

namespace Registers

/-- The registers between the two halves of a call. -/
def halfCalled (r : Registers) (high : BitVec 11) : Registers :=
  (r.write .link (r.pc + 4#32 + (high ++ 0#12).signExtend 32)).setPc (r.pc + 2#32)

/-- The registers after a call. -/
def called (r : Registers) (offset : Word) : Registers :=
  (r.write .link ((r.pc + 4#32) ||| 1#32)).setPc (r.pc + 4#32 + offset)

/-- The registers after a call that was interrupted. -/
structure Calls (r' r : Registers) (offset : Word) : Prop where
  /-- The status is as it was. -/
  status : r'.status = r.status
  /-- The program goes on at the target. -/
  pc : r'.pc = r.pc + 4#32 + offset
  /-- The link register has the return address. -/
  link : r'.read .link = (r.pc + 4#32) ||| 1#32
  /-- Every other cell is as it was, save those that keep an interrupted program. -/
  physical : ∀ c, c ≠ .pc → c ≠ .link r.mode.bank → c ≠ .link Mode.interrupt.bank →
    some c ≠ Cell.saved? .interrupt → r'.physical c = r.physical c

variable {r r' : Registers} {high low : BitVec 11}

theorem pc_halfCalled (r : Registers) (high : BitVec 11) : (r.halfCalled high).pc = r.pc + 2#32 :=
  read_write_self _ .pc _

theorem link_halfCalled (r : Registers) (high : BitVec 11) :
    (r.halfCalled high).read .link = r.pc + 4#32 + (high ++ 0#12).signExtend 32 :=
  (read_write_of_ne _ (by decide) _).trans (read_write_self _ .link _)

/-- The target of a call is where narrow code can stand. -/
theorem target_aligned (even : r.pc.toNat % 2 = 0) (high low : BitVec 11) :
    (r.pc + 4#32 + (high ++ 0#12).signExtend 32 + low.setWidth 32 <<< 1).alignHalf
      = r.pc + 4#32 + callOffset high low := by
  rw [BitVec.add_assoc (r.pc + 4#32), add_callParts, Word.alignHalf_eq_self_iff]
  have hoffset := even_callOffset high low
  bv_omega

/-- The registers that the second half of a call leaves. -/
def completed (r : Registers) (low : BitVec 11) : Registers :=
  (r.write .link ((r.pc + 2#32) ||| 1#32)).setPc (r.read .link + low.setWidth 32 <<< 1).alignHalf

/-- **The second half completes the call.** -/
theorem completed_halfCalled (even : r.pc.toNat % 2 = 0) (high low : BitVec 11) :
    (r.halfCalled high).completed low = r.called (callOffset high low) := by
  have hreturn : r.pc + 2#32 + 2#32 = r.pc + 4#32 := by
    rw [BitVec.add_assoc]
    rfl
  rw [completed, pc_halfCalled, link_halfCalled, hreturn, target_aligned even, halfCalled, setPc,
    setPc, write_comm (r.write .link _) (by decide), write_write, write_write, called, setPc]

/-- **The second half completes a call that was interrupted.** -/
theorem Resumes.completed (other : r.mode ≠ .interrupt) (even : r.pc.toNat % 2 = 0)
    {high : BitVec 11} (h : r'.Resumes (r.halfCalled high) .interrupt (r.halfCalled high).pc)
    (low : BitVec 11) : (r'.completed low).Calls r (callOffset high low) := by
  have hbank : r.mode.bank ≠ Mode.interrupt.bank := by
    cases hm : r.mode with
    | interrupt => exact (other hm).elim
    | _ => decide
  have hmode : r'.mode = r.mode := mode_of_status (r := r.halfCalled high) h.status
  have hpc : r'.pc = r.pc + 2#32 := h.pc.trans (pc_halfCalled r high)
  have hlink : r'.read .link = r.pc + 4#32 + (high ++ 0#12).signExtend 32 :=
    (h.link hbank).trans (link_halfCalled r high)
  have hreturn : r'.pc + 2#32 = r.pc + 4#32 := by
    rw [hpc, BitVec.add_assoc]
    rfl
  refine ⟨h.status, ?_, ?_, fun c hc hl hli hs => ?_⟩
  · rw [← target_aligned even, ← hlink]
    exact read_write_self _ .pc _
  · rw [← hreturn]
    exact (read_write_of_ne _ (by decide) _).trans (read_write_self _ .link _)
  · rw [Registers.completed, physical_setPc, Function.update_of_ne hc, physical_write, hmode,
      Cell.of_link, Function.update_of_ne hl, h.physical c hc hli hs, halfCalled, physical_setPc,
      Function.update_of_ne hc, physical_write, Cell.of_link, Function.update_of_ne hl]

end Registers

/-! ## Code and deliveries -/

/-- A delivery changes no register but the one of the requests, whose top bit is always clear. -/
theorem Controller.read_requestAll (c : Controller) (s : SourceSet) {a : Word}
    (h : (c.read a).getLsbD 15 = true) : (c.requestAll s).read a = c.read a := by
  unfold Controller.read at h ⊢
  split
  · rfl
  · next henable =>
    rw [if_neg henable] at h
    split
    · next hflags =>
      rw [if_pos hflags, SourceSet.toHalf, BitVec.getLsbD_setWidth, BitVec.getLsbD_of_ge _ _
        (by decide)] at h
      cases h
    · rfl

/-- Delivering requests changes no register with its top bit. -/
theorem Bus.readRegister_deliver (b : Bus) {offset : Word}
    (h : (b.readRegister offset).getLsbD 15 = true) :
    b.deliver.readRegister offset = b.readRegister offset := by
  rw [Bus.deliver_eq]
  by_cases howner : owner? offset.alignHalf = some .interrupts
  · simp only [Bus.readRegister, howner] at h ⊢
    exact b.interrupts.read_requestAll b.queue h
  · simp only [Bus.readRegister]
    split
    all_goals first
      | rfl
      | exact (howner ‹_›).elim

/-- **A delivery leaves both halves of a call in place**, wherever they stand. -/
theorem Bus.loadHalf_deliver (b : Bus) {a : Word} (h : (b.loadHalf a).getLsbD 15 = true) :
    b.deliver.loadHalf a = b.loadHalf a := by
  by_cases hregion : Region.of? a = some .registers
  · simp only [Bus.loadHalf, hregion] at h ⊢
    exact b.readRegister_deliver h
  · simp only [Bus.loadHalf]
    split
    all_goals first
      | rfl
      | exact (hregion ‹_›).elim

/-! ## The steps -/

theorem Context.jump_narrow {M : Type} {c : Context M} (a : Word)
    (thumb : c.registers.flags.thumb = true) :
    c.jump a = { c.mapRegisters (fun r => r.setPc a.alignHalf) with branched := true } := by
  simp only [Context.jump, mapRegisters, thumb, if_true]

namespace Machine

variable {m : Machine}

/-- The step that executes a halfword which a delivery leaves in place. -/
theorem step_narrow (h : m.deliver.Executes) (thumb : m.registers.flags.thumb = true) {code : Half}
    (hcode : m.bus.loadHalf m.registers.pc = code) (top : code.getLsbD 15 = true) :
    m.step = m.deliver.executeWord (code.setWidth 32) := by
  have hload : m.bus.deliver.loadHalf m.registers.pc = code := by
    rw [Bus.loadHalf_deliver _ (by rwa [hcode]), hcode]
  have hfetch : m.deliver.fetch = code.setWidth 32 := by
    rw [fetch, if_pos (show m.deliver.registers.flags.thumb = true from thumb)]
    exact congrArg (BitVec.setWidth 32) hload
  rw [step_of_executes h, hfetch]

theorem decoded?_narrow (thumb : m.registers.flags.thumb = true) (code : Half) :
    m.decoded? (code.setWidth 32) = Narrow.decode? code := by
  have hlow : Word.lowHalf (code.setWidth 32) = code := by
    apply BitVec.eq_of_getLsbD_eq
    intro i hi
    simp [Word.lowHalf, hi, Nat.lt_trans hi]
  rw [decoded?, decode?, if_pos thumb, hlow]

/-- **The first half** leaves the high part of the target in the link register. -/
theorem executeWord_callHigh (thumb : m.registers.flags.thumb = true) (high : BitVec 11) :
    m.executeWord ((callHigh high).setWidth 32) = (.ok 1,
      { m with registers := m.registers.halfCalled high }.advance 1) := by
  have hsize : m.registers.flags.instructionSize = 2#32 := by
    rw [Flags.instructionSize, if_pos thumb]
  have hd := (decoded?_narrow thumb (callHigh high)).trans (decode?_callHigh high)
  rw [executeWord_of_operation hd rfl nofun]
  simp only [conclude, Context.perform, Context.linkHigh, Context.pc, Context.start, hsize]
  rfl

/-- **The second half** jumps to the target and puts the return address into the link register. -/
theorem executeWord_callLow (thumb : m.registers.flags.thumb = true) (low : BitVec 11) :
    m.executeWord ((callLow low).setWidth 32) = (.ok 3,
      { m with registers := m.registers.completed low }.advance 3) := by
  have hd := (decoded?_narrow thumb (callLow low)).trans (decode?_callLow low)
  rw [executeWord_of_operation hd rfl nofun]
  simp only [Context.perform, Context.linkLow]
  rw [Context.jump_narrow _ thumb]
  rfl

/-- The instruction `BX lr`, narrow or wide. -/
def exchangeReturn (narrow : Bool) : Word := if narrow then 0x4770#32 else 0xE12FFF1E#32

theorem decode?_exchangeReturn (narrow : Bool) :
    decode? narrow (exchangeReturn narrow) = some ⟨.al, .branchExchange .link⟩ := by
  cases narrow
  all_goals decide

/-- A return to an odd address goes on with narrow code. -/
theorem executeWord_exchangeReturn (odd : (m.registers.read .link).getLsbD 0 = true) :
    m.executeWord (exchangeReturn m.registers.flags.thumb) = (.ok 3,
      { m with
        registers := (m.registers.setFlags { m.registers.flags with thumb := true }).setPc
          (m.registers.read .link).alignHalf
      }.advance 3) := by
  have hread : (Context.start m.registers m.bus).read .link = m.registers.read .link := rfl
  rw [executeWord_of_operation (decode?_exchangeReturn m.registers.flags.thumb) rfl nofun]
  simp only [Context.perform, Context.branchExchange, hread, odd]
  rw [Context.jump_narrow _ (by rfl)]
  rfl

/-! ## Interrupts between two steps -/

/-- Machines at which a program stands still.  The host may do anything that leaves the registers
alone, and interrupts may be taken, whose handlers put back what they change and return by
`ADDS pc, lr, #4`. -/
inductive Waits (s : Machine) : Machine → Prop
  /-- Nothing has happened. -/
  | here : Waits s s
  /-- The host has acted. -/
  | acted {a b : Machine} (waits : Waits s a) (same : b.registers = a.registers) : Waits s b
  /-- An interrupt was taken, and its handler has returned. -/
  | interrupted {a b : Machine} {k : Source} (waits : Waits s a) (taken : a.taken? = some k)
    (restored : b.registers.Restored a.step.2.registers) (executes : b.deliver.Executes)
    (returns : b.deliver.fetch = addReturn) : Waits s b.step.2

/-- A handler that has put back what it changed resumes the program. -/
theorem resumes_of_restored {a b : Machine} {k : Source} (taken : a.taken? = some k)
    (restored : b.registers.Restored a.step.2.registers) (executes : b.deliver.Executes)
    (returns : b.deliver.fetch = addReturn) (aligned : a.registers.Aligned a.registers.pc) :
    b.step.2.registers.Resumes a.registers .interrupt a.registers.pc := by
  have hentered : a.step.2.registers
      = a.registers.startHandler .interrupt (a.registers.pc - 4) interruptVector := by
    rw [step_interrupt taken]
    exact registers_interrupt_deliver a
  rw [hentered] at restored
  have hwide : b.deliver.registers.flags.thumb = false := restored.thumb
  -- What the entry subtracts from the address the handler's return adds again.
  have hlink : b.registers.read .link + 4 = a.registers.pc := by
    rw [restored.link, Registers.read_link_startHandler]
    bv_omega
  have hstart := a.registers.handles_startHandler (show Mode.interrupt.savesStatus = true from rfl)
    (a.registers.pc - 4) interruptVector
  have hsaved : b.registers.savedStatus = a.registers.status :=
    (restored.savedStatus (by rw [hstart.mode]; rfl)).trans hstart.saved
  have hback : b.step.2.registers = b.registers.returnTo a.registers.pc := by
    rw [step_of_executes executes, returns, executeWord_addReturn hwide, ← hlink]
    rfl
  rw [hback]
  refine Registers.resumes_returnTo hsaved aligned fun c hpc hl hs => ?_
  rw [restored.physical c hpc, Registers.startHandler, Registers.physical_setPc,
    Function.update_of_ne hpc, Registers.physical_enterException _ _ _ hl hs]

/-- **However often it is interrupted, a program finds its registers as it left them**, save those
that keep an interrupted program. -/
theorem Waits.resumes {s e : Machine} (h : s.Waits e)
    (aligned : s.registers.Aligned s.registers.pc) :
    e.registers.Resumes s.registers .interrupt s.registers.pc := by
  induction h with
  | here => exact .refl _ _
  | acted _ same ih => rwa [same]
  | @interrupted a b k _ taken restored executes returns ih =>
    have haligned : a.registers.Aligned a.registers.pc := by
      rw [Registers.Aligned, Registers.flags_of_status ih.status, ih.pc]
      exact aligned
    exact (resumes_of_restored taken restored executes returns haligned).trans ih

/-! ## One call -/

section Call

variable {high low : BitVec 11}

/-- The first half of a call links to its part of the target. -/
theorem step_callHigh (executes : m.deliver.Executes) (thumb : m.registers.flags.thumb = true)
    (first : m.bus.loadHalf m.registers.pc = callHigh high) :
    m.step
      = (.ok 1, ⟨m.registers.halfCalled high, m.bus.deliver, m.hook?, m.cycles + 1#64⟩) := by
  rw [step_narrow executes thumb first (callHigh_top high)]
  exact executeWord_callHigh (m := m.deliver) thumb high

/-- The second half of a call jumps, and links behind itself. -/
theorem step_callLow (executes : m.deliver.Executes) (thumb : m.registers.flags.thumb = true)
    (second : m.bus.loadHalf m.registers.pc = callLow low) :
    m.step
      = (.ok 3, ⟨m.registers.completed low, m.bus.deliver, m.hook?, m.cycles + 3#64⟩) := by
  rw [step_narrow executes thumb second (callLow_top low)]
  exact executeWord_callLow (m := m.deliver) thumb low

/-- The second half follows the first at once if nobody acts between them. -/
theorem run_call (executes : m.deliver.Executes) (thumb : m.registers.flags.thumb = true)
    (even : m.registers.pc.toNat % 2 = 0)
    (first : m.bus.loadHalf m.registers.pc = callHigh high)
    (second : m.bus.loadHalf (m.registers.pc + 2#32) = callLow low) :
    m.run 2 = ([.ok 1, .ok 3], ⟨m.registers.called (callOffset high low), m.bus.deliver, m.hook?,
      m.cycles + 4#64⟩) := by
  have hfirst := step_callHigh executes thumb first
  -- The first step has delivered the queue, so that nothing can come before the second.
  have hsettled : m.step.2.deliver = m.step.2 := by
    rw [hfirst]
    exact deliver_of_queue_empty rfl
  have hexecutes : m.step.2.deliver.Executes := by
    rw [hsettled, hfirst]
    exact executes
  have hthumb : m.step.2.registers.flags.thumb = true := by
    rw [hfirst]
    exact thumb
  have hsecond : m.step.2.bus.loadHalf m.step.2.registers.pc = callLow low := by
    rw [hfirst, Registers.pc_halfCalled, Bus.loadHalf_deliver _ (by rw [second, callLow_top]),
      second]
  have hbus : m.step.2.bus.deliver = m.bus.deliver := by
    rw [show m.step.2.bus.deliver = m.step.2.bus from congrArg Machine.bus hsettled, hfirst]
  have hrun : m.run 2 = ([m.step.1, m.step.2.step.1], m.step.2.step.2) := rfl
  rw [hrun, step_callLow hexecutes hthumb hsecond, hbus, hfirst,
    Registers.completed_halfCalled even, BitVec.add_assoc]
  rfl

/-- **The second half follows the first after any number of interrupts.** -/
theorem Waits.calls {s e : Machine} (h : s.Waits e)
    (halfway : s.registers = m.registers.halfCalled high)
    (thumb : m.registers.flags.thumb = true) (other : m.registers.mode ≠ .interrupt)
    (even : m.registers.pc.toNat % 2 = 0) (executes : e.deliver.Executes)
    (second : e.bus.loadHalf (m.registers.pc + 2#32) = callLow low) :
    e.step.1 = .ok 3 ∧ e.step.2.registers.Calls m.registers (callOffset high low) := by
  have haligned : s.registers.Aligned s.registers.pc := by
    rw [halfway, Registers.pc_halfCalled, Registers.Aligned,
      if_pos (show (m.registers.halfCalled high).flags.thumb = true from thumb),
      Word.alignHalf_eq_self_iff]
    bv_omega
  have hresumes := h.resumes haligned
  rw [halfway] at hresumes
  have hpc : e.registers.pc = m.registers.pc + 2#32 :=
    hresumes.pc.trans (Registers.pc_halfCalled _ _)
  have hthumb : e.registers.flags.thumb = true := by
    rw [Registers.flags_of_status hresumes.status]
    exact thumb
  rw [step_callLow executes hthumb (by rw [hpc, second])]
  exact ⟨rfl, hresumes.completed other even low⟩

/-- A return to an address with its low bit set goes on with narrow code there. -/
theorem step_exchangeReturn {next : Word} (executes : m.deliver.Executes)
    (returns : m.deliver.fetch = exchangeReturn m.registers.flags.thumb)
    (even : next.toNat % 2 = 0) (link : m.registers.read .link = next ||| 1#32) :
    m.step = (.ok 3, ⟨(m.registers.setFlags { m.registers.flags with thumb := true }).setPc next,
      m.bus.deliver, m.hook?, m.cycles + 3#64⟩) := by
  have hodd : (m.deliver.registers.read .link).getLsbD 0 = true := by
    change (m.registers.read .link).getLsbD 0 = true
    rw [link, BitVec.getLsbD_or]
    exact Bool.or_true _
  have hnext : (m.registers.read .link).alignHalf = next := by
    rw [link]
    exact Word.alignHalf_or_one even
  rw [step_of_executes executes, returns, ← hnext]
  exact executeWord_exchangeReturn (m := m.deliver) hodd

/-- **A narrow call is one call.**  Its two halves, executed at once, cost four cycles, leave the
return address in the link register and go on at the target, and change nothing else.  The same
holds if a host has acted between them; and if interrupts were taken there, whose handlers put back
what they changed and returned by `ADDS pc, lr, #4`, nothing else differs but the two cells that
keep an interrupted program.  From the return address in its link register `BX lr` goes back. -/
theorem longCall_once (m : Machine) (high low : BitVec 11)
    (thumb : m.registers.flags.thumb = true) (other : m.registers.mode ≠ .interrupt)
    (even : m.registers.pc.toNat % 2 = 0)
    (first : m.bus.loadHalf m.registers.pc = callHigh high)
    (second : m.bus.loadHalf (m.registers.pc + 2#32) = callLow low)
    (executes : m.deliver.Executes) :
    m.run 2 = ([.ok 1, .ok 3], ⟨m.registers.called (callOffset high low), m.bus.deliver, m.hook?,
        m.cycles + 4#64⟩)
    ∧ (∀ e : Machine, e.bus.loadHalf (m.registers.pc + 2#32) = callLow low →
        e.deliver.Executes →
        (e.registers = m.step.2.registers →
          e.step.1 = .ok 3 ∧ e.step.2.registers = m.registers.called (callOffset high low))
        ∧ (m.step.2.Waits e →
          e.step.1 = .ok 3 ∧ e.step.2.registers.Calls m.registers (callOffset high low)))
    ∧ ∀ x : Machine, x.registers.read .link = (m.registers.pc + 4#32) ||| 1#32 →
        x.deliver.Executes → x.deliver.fetch = exchangeReturn x.registers.flags.thumb →
        x.step.1 = .ok 3 ∧ x.step.2.registers
          = (x.registers.setFlags { x.registers.flags with thumb := true }).setPc
            (m.registers.pc + 4#32) := by
  have hhalf : m.step.2.registers = m.registers.halfCalled high := by
    rw [step_callHigh executes thumb first]
  refine ⟨run_call executes thumb even first second,
    fun e hcode he => ⟨fun hsame => ?_, fun hw => ?_⟩, fun x hlink hx hfetch => ?_⟩
  · have hregisters : e.registers = m.registers.halfCalled high := hsame.trans hhalf
    have hstep := step_callLow he (by rw [hregisters]; exact thumb)
      (by rw [hregisters, Registers.pc_halfCalled, hcode])
    rw [hstep, hregisters, Registers.completed_halfCalled even]
    exact ⟨rfl, rfl⟩
  · exact hw.calls hhalf thumb other even he hcode
  · rw [step_exchangeReturn hx hfetch (by bv_omega) hlink]
    exact ⟨rfl, rfl⟩

end Call

/-- A console whose start-up code has a handler of interrupts that returns at once, and a program
that calls backwards, to a function that returns at once, too. -/
def callerBus : Bus :=
  (Bus.new (.new #[0x70#8, 0x47#8, 0x00#8, 0x00#8, 0xFF#8, 0xF7#8, 0xFC#8, 0xFF#8] 0)).loadBios
    (List.replicate 24 0x00#8 ++ [0x04#8, 0xF0#8, 0x9E#8, 0xE2#8])

/-- A machine that is about to call and can be interrupted. -/
def caller : Machine where
  registers := (Registers.initial.setPc 0x08000004#32).setFlags { thumb := true }
  bus := (callerBus.storeHalf 0x04000200#32 1#16).storeHalf 0x04000208#32 1#16
  hook? := none
  cycles := 0#64

/-- The same machine with the call begun and the picture about to interrupt it. -/
def callerHalfway : Machine := { caller.step.2 with bus := caller.step.2.bus.raise .vBlank }

/-- The same machine with the call begun, interrupted and resumed. -/
def callerResumed : Machine := callerHalfway.step.2.step.2

/-- A call backwards, in two steps or with an interrupt between them. -/
theorem caller_calls_once :
    caller.run 2 = ([.ok 1, .ok 3], ⟨caller.registers.called 0xFFFFFFF8#32, caller.bus.deliver,
        none, 4#64⟩)
      ∧ callerHalfway.taken? = some .vBlank
      ∧ callerResumed.step.2.registers.Calls caller.registers 0xFFFFFFF8#32
      ∧ callerResumed.step.2.step.2.registers.pc = 0x08000008#32 := by
  have hexecutes : caller.deliver.Executes := ⟨by decide +kernel, by decide +kernel⟩
  have htaken : callerHalfway.taken? = some .vBlank := by decide +kernel
  have hraised : caller.step.2.Waits callerHalfway := .acted .here rfl
  have hwaits : caller.step.2.Waits callerResumed :=
    .interrupted hraised htaken ⟨rfl, rfl, fun _ _ => rfl⟩
      ⟨by decide +kernel, by decide +kernel⟩ (by decide +kernel)
  obtain ⟨hrun, hbetween, hreturn⟩ := longCall_once caller 0x7FF#11 0x7FC#11 rfl (by decide)
    (by decide) (by decide +kernel) (by decide +kernel) hexecutes
  obtain ⟨-, hcalls⟩ :=
    (hbetween callerResumed (by decide +kernel) ⟨by decide +kernel, by decide +kernel⟩).2 hwaits
  have hback := (hreturn callerResumed.step.2 hcalls.link ⟨by decide +kernel, by decide +kernel⟩
    (by decide +kernel)).2
  refine ⟨hrun, htaken, hcalls, ?_⟩
  rw [hback]
  exact Registers.read_write_self _ .pc _

end Machine

end Handheld

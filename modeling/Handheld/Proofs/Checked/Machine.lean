import Handheld.Proofs.Checked.Execution
import Handheld.Proofs.Checked.Line
import Handheld.Proofs.Checked.Narrow
import Handheld.Proofs.Checked.Wide
import Handheld.Proofs.Machine.Restore

/-!
# Proofs/Checked/Machine — a machine on which nothing can go wrong

A machine is switched on, and a host asks things of it, with every operation checked.  One request
goes well in every state whose line counter is below its limit (`checkedServe_eq_ok`), and leads to
such a state again, so a run goes well whatever the program, the start-up code, the snapshots and
the requests are (`checkedRun_eq_ok`).
-/

namespace Handheld

open Checked

/-! ## Decoding -/

/-- The instruction that a word encodes, if it encodes one. -/
def checkedDecode? (narrow : Bool) (w : Word) : Checked (Option Instruction) :=
  if narrow then Narrow.checkedDecode? w.lowHalf else Wide.checkedDecode? w

/-- Both decoders take what is fetched. -/
@[simp] theorem checkedDecode?_eq_ok (narrow : Bool) (w : Word) :
    checkedDecode? narrow w = .ok (decode? narrow w) := by
  cases narrow with
  | true => exact Narrow.checkedDecode?_eq_ok w.lowHalf
  | false => exact Wide.checkedDecode?_eq_ok w

/-! ## Setting up -/

namespace Bus

/-- Copies start-up code in, as much as there is room for. -/
def checkedLoadBios (b : Bus) (code : List Byte) : Checked Bus := do
  let bios ← (code.take (Ram.size 14)).zipIdx.foldlM
    (fun r (v, i) => r.checkedStoreByte (BitVec.ofNat 32 i) v) b.bios
  return { b with bios }

/-- A BIOS that is too long is cut off. -/
@[simp] theorem checkedLoadBios_eq_ok (b : Bus) (code : List Byte) :
    b.checkedLoadBios code = .ok (b.loadBios code) := by
  have hstep : ∀ p ∈ (code.take (Ram.size 14)).zipIdx, ∀ r : Ram 14,
      r.checkedStoreByte (BitVec.ofNat 32 p.2) p.1
        = .ok (r.storeByte (BitVec.ofNat 32 p.2) p.1) :=
    fun p _ r => r.checkedStoreByte_eq_ok _ _
  rw [checkedLoadBios, foldlM_eq_ok hstep, ok_bind, pure_eq_ok]
  rfl

end Bus

namespace Registers

/-- Replaces the stack pointer of a mode. -/
def checkedSetBankedSp (r : Registers) (m : Mode) (v : Word) : Checked Registers :=
  if m.bank = r.mode.bank then return r.write .sp v
  else r.checkedMapBank m fun b => { b with sp := v }

/-- The bank of a mode takes a stack pointer whether the mode is active or not. -/
@[simp] theorem checkedSetBankedSp_eq_ok (r : Registers) (m : Mode) (v : Word) :
    r.checkedSetBankedSp m v = .ok (r.setBankedSp m v) := by
  unfold checkedSetBankedSp setBankedSp
  split
  · rfl
  · exact r.checkedMapBank_eq_ok m _

end Registers

namespace Machine

/-- The registers that the start-up code leaves to a program. -/
def checkedSkipStartUp (r : Registers) (entry : Word) : Checked Registers := do
  let r ← r.checkedSetBankedSp .supervisor supervisorSp
  let r ← r.checkedSetBankedSp .interrupt interruptSp
  return r.setPc entry

/-- A machine that was just switched on. -/
def checkedStart (s : Setup) : Checked Machine := do
  let r ← match s.entry? with
    | some entry => checkedSkipStartUp .initial entry
    | none => pure .initial
  let r := match s.initialSp? with
    | some sp => r.write .sp sp
    | none => r
  return { registers := r, bus := s.bus, hook? := s.hook?, cycles := 0#64 }

/-- **Every setup makes a machine.** -/
@[simp] theorem checkedStart_eq_ok (s : Setup) : checkedStart s = .ok (start s) := by
  obtain ⟨bus, hook?, initialSp?, entry?⟩ := s
  cases entry? with
  | none => rfl
  | some entry =>
    simp only [checkedStart, checkedSkipStartUp, Registers.checkedSetBankedSp_eq_ok, ok_bind,
      pure_eq_ok]
    rfl

/-! ## Steps -/

/-- Time passes. -/
def checkedAdvance (m : Machine) (cycles : Nat) : Checked Machine := do
  let cycles ← add m.cycles (BitVec.ofNat 64 cycles)
  return { m with cycles }

/-- The word or halfword at the program counter. -/
def checkedFetch (m : Machine) : Checked Word :=
  if m.registers.flags.thumb then (m.bus.checkedLoadHalf m.registers.pc).map (·.setWidth 32)
  else m.bus.checkedLoadWord m.registers.pc

/-- The registers when the handler of interrupts starts. -/
def checkedEnterInterrupt (r : Registers) : Checked Registers := do
  let r ← r.checkedEnterException .interrupt (r.pc - 4)
  return r.setPc interruptVector

/-- Takes an instruction's outcome over, and moves on to the next one unless it jumped. -/
def checkedConclude (m : Machine) (o : Outcome Bus) : Checked (Except Fault Nat × Machine) :=
  match o.result with
  | .error fault => return (.error fault, { m with registers := o.registers, bus := o.memory })
  | .ok retired => do
    let r := if retired.branched then o.registers
      else o.registers.setPc (m.registers.pc + m.registers.flags.instructionSize)
    let m ← checkedAdvance { m with registers := r, bus := o.memory } retired.cycles
    return (.ok retired.cycles, m)

/-- Writes the instruction at the program counter to the log and executes it. -/
def checkedExecuteNext (m : Machine) : Checked (Except Fault Nat × Machine) := do
  let word ← m.checkedFetch
  match ← checkedDecode? m.registers.flags.thumb word with
  | none => return (.error (.undefined m.registers.pc word), m)
  | some i => do
    let _ ← i.checkedText
    let o ← checkedExecute m.hook? i m.registers m.bus
    m.checkedConclude o

/-- One step: takes an interrupt, idles, or executes an instruction. -/
def checkedStep (m : Machine) : Checked (Except Fault Nat × Machine) := do
  let bus ← m.bus.checkedDeliver
  let m := { m with bus }
  match ← m.bus.interrupts.checkedAcknowledge with
  | (some _, controller) => do
    let registers ← checkedEnterInterrupt m.registers
    let bus := m.bus.mapInterrupts fun _ => controller
    let m ← checkedAdvance { m with registers, bus } interruptCycles
    return (.ok interruptCycles, m)
  | (none, _) =>
    if m.bus.interrupts.halted then do
      let m ← m.checkedAdvance haltCycles
      return (.ok haltCycles, m)
    else m.checkedExecuteNext

/-- Looks at a machine. -/
def checkedInspect (m : Machine) : Checked Inspection := do
  let nextWord ← m.checkedFetch
  let next? ← checkedDecode? m.registers.flags.thumb nextWord
  return {
    registers := m.registers
    interrupts := m.bus.interrupts.state
    cycles := m.cycles
    nextWord
    next? }

variable {m : Machine}

/-- Counting cycles goes well as long as the counter has room for them. -/
theorem checkedAdvance_eq_ok {cycles : Nat} (h : m.cycles.toNat + cycles < 1 <<< 64) :
    m.checkedAdvance cycles = .ok (m.advance cycles) := by
  have hn : (BitVec.ofNat 64 cycles).toNat = cycles := Nat.mod_eq_of_lt (by omega)
  rw [checkedAdvance, add_eq_ok (by rwa [hn]), ok_bind, pure_eq_ok, advance]

variable (m)

/-- The word or halfword at the program counter is fetched wherever that points. -/
@[simp] theorem checkedFetch_eq_ok : m.checkedFetch = .ok m.fetch := by
  unfold checkedFetch fetch
  split
  · rw [Bus.checkedLoadHalf_eq_ok, map_ok]
  · rw [Bus.checkedLoadWord_eq_ok]

/-- The entry into the handler of interrupts goes well in every mode. -/
@[simp] theorem checkedEnterInterrupt_eq_ok (r : Registers) :
    checkedEnterInterrupt r = .ok (enterInterrupt r) := by
  rw [checkedEnterInterrupt, Registers.checkedEnterException_eq_ok, ok_bind, pure_eq_ok,
    enterInterrupt]

/-- Whatever a machine is about to do can be shown. -/
@[simp] theorem checkedInspect_eq_ok : m.checkedInspect = .ok m.inspect := by
  rw [checkedInspect, checkedFetch_eq_ok, ok_bind, checkedDecode?_eq_ok, ok_bind, pure_eq_ok]
  rfl

variable {m}

/-- What an instruction leaves is taken over, and its cycles are counted if there is room. -/
theorem checkedConclude_eq_ok {o : Outcome Bus}
    (h : ∀ n, (m.conclude o).1 = .ok n → m.cycles.toNat + n < 1 <<< 64) :
    m.checkedConclude o = .ok (m.conclude o) := by
  obtain ⟨r, bus, fault | retired⟩ := o
  · rfl
  · have hn : m.cycles.toNat + retired.cycles < 1 <<< 64 := h retired.cycles rfl
    dsimp only [checkedConclude]
    rw [checkedAdvance_eq_ok (by exact hn)]
    rfl

/-- An instruction is executed if there is room for its cycles. -/
theorem checkedExecuteNext_eq_ok
    (h : ∀ n, (m.executeWord m.fetch).1 = .ok n → m.cycles.toNat + n < 1 <<< 64) :
    m.checkedExecuteNext = .ok (m.executeWord m.fetch) := by
  rw [checkedExecuteNext, checkedFetch_eq_ok, ok_bind, checkedDecode?_eq_ok, ok_bind]
  revert h
  unfold executeWord decoded?
  cases decode? m.registers.flags.thumb m.fetch with
  | none => exact fun _ => rfl
  | some i =>
    intro h
    dsimp only at h ⊢
    rw [Instruction.checkedText_eq_ok, ok_bind, checkedExecute_eq_ok, ok_bind,
      checkedConclude_eq_ok h]

/-- **A step goes well** if the cycle counter holds the cycles that pass. -/
theorem checkedStep_eq_ok (h : ∀ n, m.step.1 = .ok n → m.cycles.toNat + n < 1 <<< 64) :
    m.checkedStep = .ok m.step := by
  rw [checkedStep, Bus.checkedDeliver_eq_ok, ok_bind]
  dsimp only
  rw [Controller.checkedAcknowledge_eq_ok, ok_bind]
  cases ht : m.taken? with
  | some k =>
    have ha : m.bus.deliver.interrupts.acknowledge
        = (some k, m.deliver.bus.interrupts.acknowledge.2) := Prod.ext ht rfl
    rw [step_interrupt ht] at h ⊢
    rw [ha]
    dsimp only
    rw [checkedEnterInterrupt_eq_ok, ok_bind, checkedAdvance_eq_ok (by exact h _ rfl)]
    rfl
  | none =>
    have ha : m.bus.deliver.interrupts.acknowledge
        = (none, m.deliver.bus.interrupts.acknowledge.2) := Prod.ext ht rfl
    rw [ha]
    dsimp only
    cases hh : m.deliver.bus.interrupts.halted with
    | true =>
      rw [step_idle ht hh] at h ⊢
      rw [if_pos (by exact hh), checkedAdvance_eq_ok (by exact h _ rfl)]
      rfl
    | false =>
      rw [step_execute ht hh] at h ⊢
      rw [if_neg (by rw [show m.bus.deliver.interrupts.halted = false from hh]; decide)]
      exact checkedExecuteNext_eq_ok (m := m.deliver) h

/-! ## Requests of a host -/

/-- What a host asks of a machine, at any time. -/
inductive Request where
  /-- A command. -/
  | command (x : Command)
  /-- Copies start-up code in. -/
  | loadBios (code : List Byte)

/-- Carries a request out. -/
def serve (m : Machine) : Request → Answer × Machine
  | .command x => m.operate x
  | .loadBios code => (.done, { m with bus := m.bus.loadBios code })

/-- Carries some requests out. -/
def serveAll (m : Machine) : List Request → List Answer × Machine
  | [] => ([], m)
  | x :: xs =>
    let (answer, m) := m.serve x
    let (answers, m) := m.serveAll xs
    (answer :: answers, m)

/-- Carries a command out.  Those that are left out here compare and copy, and compute nothing. -/
def checkedOperate (m : Machine) : Command → Checked (Answer × Machine)
  | .step => do
    let (result, m) ← m.checkedStep
    return (.stepped result, m)
  | .bus x => do
    let bus ← m.bus.checkedPerform x
    return (.done, { m with bus })
  | .read w a => do
    let v ← m.bus.checkedLoad w a
    return (.value v, m)
  | .acknowledge => do
    let (k?, controller) ← m.bus.interrupts.checkedAcknowledge
    return (.taken k?, { m with bus := m.bus.mapInterrupts fun _ => controller })
  | .inspect => do
    let i ← m.checkedInspect
    return (.shown i, m)
  | x => return m.operate x

/-- Carries a request out. -/
def checkedServe (m : Machine) : Request → Checked (Answer × Machine)
  | .command x => m.checkedOperate x
  | .loadBios code => do
    let bus ← m.bus.checkedLoadBios code
    return (.done, { m with bus })

/-- Carries some requests out. -/
def checkedServeAll (m : Machine) : List Request → Checked (List Answer × Machine)
  | [] => return ([], m)
  | x :: xs => do
    let (answer, m) ← m.checkedServe x
    let (answers, m) ← m.checkedServeAll xs
    return (answer :: answers, m)

/-- The cycle counter holds the cycles of a request. -/
def CyclesFit (m : Machine) : Request → Prop
  | .command .step => ∀ n, m.step.1 = .ok n → m.cycles.toNat + n < 1 <<< 64
  | _ => True

/-- The cycle counter never overflows during some requests. -/
def CyclesFitAll (m : Machine) : List Request → Prop
  | [] => True
  | x :: xs => m.CyclesFit x ∧ (m.serve x).2.CyclesFitAll xs

/-- A counter that is not just below its end holds the cycles of any request. -/
theorem cyclesFit_of_lt (h : m.cycles.toNat + 20 < 1 <<< 64) (x : Request) : m.CyclesFit x := by
  have hstep : ∀ n, m.step.1 = .ok n → m.cycles.toNat + n < 1 <<< 64 := by
    intro n hn
    by_cases hf : ∃ f, m.deliver.Faults f
    · obtain ⟨f, hf⟩ := hf
      rw [step_of_faults hf] at hn
      cases hn
    · obtain ⟨c, -, hle, hc, -⟩ := step_of_not_faults fun f hf' => hf ⟨f, hf'⟩
      rw [hc] at hn
      cases hn
      omega
  cases x with
  | loadBios code => trivial
  | command x =>
    cases x with
    | step => exact hstep
    | _ => trivial

/-- **Every command goes well** while the line counter is below its limit and the cycles fit. -/
theorem checkedOperate_eq_ok (h : m.bus.Paced) {x : Command} (hx : m.CyclesFit (.command x)) :
    m.checkedOperate x = .ok (m.operate x) := by
  cases x with
  | step =>
    rw [checkedOperate, checkedStep_eq_ok hx, ok_bind]
    rfl
  | bus x =>
    rw [checkedOperate, Bus.checkedPerform_eq_ok _ h, ok_bind, pure_eq_ok]
    rfl
  | read w a =>
    rw [checkedOperate, Bus.checkedLoad_eq_ok, ok_bind, pure_eq_ok]
    cases w <;> rfl
  | acknowledge =>
    rw [checkedOperate, Controller.checkedAcknowledge_eq_ok, ok_bind]
    rfl
  | inspect =>
    rw [checkedOperate, checkedInspect_eq_ok, ok_bind, pure_eq_ok]
    rfl
  | _ => rfl

/-- **A request goes well** in every state whose line counter is below its limit. -/
theorem checkedServe_eq_ok (h : m.bus.Paced) {x : Request} (hx : m.CyclesFit x) :
    m.checkedServe x = .ok (m.serve x) := by
  cases x with
  | command x => exact checkedOperate_eq_ok h hx
  | loadBios code =>
    rw [checkedServe, Bus.checkedLoadBios_eq_ok, ok_bind, pure_eq_ok]
    rfl

/-! ## Runs -/

/-- The line counter is below its limit, and the host's handler keeps it there. -/
structure Steady (m : Machine) : Prop where
  /-- The line counter is below its limit. -/
  paced : m.bus.Paced
  /-- The handler of the host, if there is one, keeps it there. -/
  hook : ∀ hook ∈ m.hook?, hook.Paces

variable {n : Machine}

/-- Being steady is a matter of the line counter and the handler of the host. -/
theorem Steady.of_eq (h : m.Steady) (hl : n.bus.video.line = m.bus.video.line)
    (hh : n.hook? = m.hook?) : n.Steady := by
  refine ⟨?_, hh ▸ h.hook⟩
  rw [Bus.Paced, hl]
  exact h.paced

/-- A snapshot holds neither the line counter nor the handler of the host. -/
theorem Steady.load (h : m.Steady) {s : Snapshot} (hs : m.load s = .ok n) : n.Steady := by
  unfold Machine.load at hs
  cases hr : s.registers? with
  | error e => rw [hr] at hs; cases hs
  | ok registers => rw [hr] at hs; cases hs; exact h.of_eq rfl rfl

theorem Steady.adopt (h : m.Steady) {r : Except Refusal Machine}
    (hr : ∀ n, r = .ok n → n.Steady) : (m.adopt r).2.Steady := by
  cases r with
  | error why => exact h
  | ok n => exact hr n rfl

theorem Steady.restore (h : m.Steady) (s : Snapshot) :
    (m.adopt ((m.load s).mapError .rejected)).2.Steady := by
  refine h.adopt fun n hn => ?_
  cases hs : m.load s with
  | error e => rw [hs] at hn; cases hn
  | ok n' => rw [hs] at hn; cases hn; exact h.load hs

/-- **A command leaves a steady machine steady.** -/
theorem Steady.operate (h : m.Steady) (x : Command) : (m.operate x).2.Steady := by
  cases x with
  | step => exact ⟨paced_step h.paced h.hook, hook?_perform m .step ▸ h.hook⟩
  | bus x => exact ⟨h.paced.perform x, h.hook⟩
  | read w a => cases w <;> exact h.of_eq rfl rfl
  | load s => exact h.restore s
  | loadBytes bytes =>
    change (m.adopt (m.loadBytes bytes)).2.Steady
    unfold Machine.loadBytes
    cases Snapshot.ofBytes bytes with
    | error fault => exact h
    | ok s => exact h.restore s
  | _ => exact h.of_eq rfl rfl

/-- **A request leaves the line counter below its limit.** -/
theorem Steady.serve (h : m.Steady) (x : Request) : (m.serve x).2.Steady := by
  cases x with
  | command x => exact h.operate x
  | loadBios code => exact h.of_eq rfl rfl

/-- **Any requests go well, one after the other.** -/
theorem checkedServeAll_eq_ok (h : m.Steady) {xs : List Request} (hxs : m.CyclesFitAll xs) :
    m.checkedServeAll xs = .ok (m.serveAll xs) := by
  induction xs generalizing m with
  | nil => rfl
  | cons x xs ih =>
    rw [checkedServeAll, checkedServe_eq_ok h.paced hxs.1, ok_bind]
    dsimp only
    rw [ih (h.serve x) hxs.2, ok_bind]
    rfl

/-! ## Machines from their parts -/

/-- What a machine is put together from. -/
structure Parts where
  /-- The program. -/
  rom : Array Byte
  /-- The size of the save memory. -/
  saveSize : Nat
  /-- The start-up code. -/
  bios : List Byte
  /-- The host's handler of software interrupts, if there is one. -/
  hook? : Option (Hook Bus)
  /-- Where the stack of the first program starts, if not where a reset puts it. -/
  initialSp? : Option Word
  /-- Where to start instead of running the start-up code. -/
  entry? : Option Word

namespace Parts

variable (p : Parts)

/-- The machine, switched on. -/
def machine : Machine := start {
  bus := (Bus.new (.new p.rom p.saveSize)).loadBios p.bios
  hook? := p.hook?
  initialSp? := p.initialSp?
  entry? := p.entry? }

/-- Puts the machine together and switches it on. -/
def checkedMachine : Checked Machine := do
  let bus ← (Bus.new (.new p.rom p.saveSize)).checkedLoadBios p.bios
  checkedStart { bus, hook? := p.hook?, initialSp? := p.initialSp?, entry? := p.entry? }

/-- Every program that a host can set up makes a machine. -/
theorem checkedMachine_eq_ok : p.checkedMachine = .ok p.machine := by
  rw [checkedMachine, Bus.checkedLoadBios_eq_ok, ok_bind, checkedStart_eq_ok, machine]

/-- A machine that was just set up is steady if the handler of its host is. -/
theorem steady_machine (h : ∀ hook ∈ p.hook?, hook.Paces) : p.machine.Steady :=
  ⟨Bus.paced_new (.new p.rom p.saveSize), h⟩

/-- Puts the machine together, switches it on and carries some requests out. -/
def checkedRun (xs : List Request) : Checked (List Answer × Machine) := do
  let m ← p.checkedMachine
  m.checkedServeAll xs

end Parts

/-- **Nothing that a program or a host does makes a machine go wrong.**  Put together from any
program, size of the save memory, start-up code, entry and stack, it carries out any steps, actions
and accesses of any width at any address, loads of any snapshots, and looks and snapshots, and every
index on the way is inside its array, every distance and every bit number below its width, and every
sum, difference and product inside its type.  The answers are those of the machine without checks.
The handler of software interrupts is the host's, and the cycle counter is taken to be large
enough. -/
theorem checkedRun_eq_ok (p : Parts) (hhook : ∀ hook ∈ p.hook?, hook.Paces) (xs : List Request)
    (hcycles : p.machine.CyclesFitAll xs) : p.checkedRun xs = .ok (p.machine.serveAll xs) := by
  rw [Parts.checkedRun, p.checkedMachine_eq_ok, ok_bind,
    checkedServeAll_eq_ok (p.steady_machine hhook) hcycles]

/-- A snapshot that fills what it can: every register and every source of the controller. -/
def brimful : Snapshot where
  version := Snapshot.currentVersion
  registers := .replicate 16 0xFFFFFFFF#32
  status := 0xFFFFFF91#32
  banks := .replicate 6 {}
  mode := .fastInterrupt
  thumb := false
  cycles := 0xFFFFFFFFFFFFFFEB#64
  interrupts := { enable := 0xFFFF#16, flags := 0xFFFF#16, master := true }
  halted := true

/-- A machine without a program, with three bytes of save memory, whose host moves on a line at each
software interrupt. -/
def spare : Parts where
  rom := #[]
  saveSize := 3
  bios := []
  hook? := some (Host.hook fun _ _ => (⟨0#32, 0#32, 0#32⟩, [.advanceLine]))
  initialSp? := some 0xFFFFFFFF#32
  entry? := some 0x08000000#32

/-- Requests at the edges of what there is. -/
def edges : List Request := [
  .command (.load brimful),
  .command .step,
  .command (.bus (.storeWord 0x0E00FFFF#32 0#32)),
  .command (.bus .advanceLine),
  .command (.read .word 0x0407FFFF#32),
  .command .inspect]

theorem checkedRun_spare :
    (∀ hook ∈ spare.hook?, hook.Paces) ∧ spare.machine.CyclesFitAll edges
      ∧ spare.checkedRun edges = .ok (spare.machine.serveAll edges) := by
  have hhook : ∀ hook ∈ spare.hook?, hook.Paces := by
    rintro hook ⟨⟩
    exact Host.paces_hook _
  have hcycles : (spare.machine.serve (.command (.load brimful))).2.cycles
      = 0xFFFFFFFFFFFFFFEB#64 := rfl
  have hfit : spare.machine.CyclesFitAll edges :=
    ⟨trivial, cyclesFit_of_lt (by rw [hcycles]; decide) _, trivial, trivial, trivial, trivial,
      trivial⟩
  exact ⟨hhook, hfit, checkedRun_eq_ok spare hhook edges hfit⟩

end Machine

end Handheld

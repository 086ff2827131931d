import Handheld.Bus.Access
import Handheld.Execution.Basic
import Handheld.Encoding.Basic

/-!
# Machine/Basic — the processor in its console, step by step

A step first delivers the queued interrupts.  Then it takes a waiting interrupt, or idles while the
processor is halted, or executes the instruction at the program counter.  An instruction that cannot
be executed leaves the machine as it was after the delivery.
-/

namespace Handheld

/-- The processor and its console. -/
structure Machine where
  /-- The registers. -/
  registers : Registers
  /-- The memories and devices. -/
  bus : Bus
  /-- The host's handler of software interrupts, if there is one. -/
  hook? : Option (Hook Bus)
  /-- The cycles since the start. -/
  cycles : Double

/-- How a machine is set up before it starts. -/
structure Setup where
  /-- The memories and devices. -/
  bus : Bus
  /-- The host's handler of software interrupts, if there is one. -/
  hook? : Option (Hook Bus) := none
  /-- Where the stack of the first program starts, if not where a reset puts it. -/
  initialSp? : Option Word := none
  /-- Where to start instead of running the start-up code. -/
  entry? : Option Word := none

namespace Machine

/-! ## Setting up -/

/-- The stack pointer that the start-up code leaves to supervisor mode. -/
def supervisorSp : Word := 0x03007FE0#32

/-- The stack pointer that the start-up code leaves to interrupt handlers. -/
def interruptSp : Word := 0x03007FA0#32

/-- The registers that the start-up code leaves to a program. -/
def skipStartUp (r : Registers) (entry : Word) : Registers :=
  ((r.setBankedSp .supervisor supervisorSp).setBankedSp .interrupt interruptSp).setPc entry

/-- A machine that was just switched on. -/
def start (s : Setup) : Machine :=
  let r := match s.entry? with
    | some entry => skipStartUp .initial entry
    | none => .initial
  let r := match s.initialSp? with
    | some sp => r.write .sp sp
    | none => r
  { registers := r, bus := s.bus, hook? := s.hook?, cycles := 0#64 }

/-! ## Interrupts -/

/-- Where the handler of interrupts starts. -/
def interruptVector : Word := 0x18#32

/-- The cycles that taking an interrupt costs. -/
def interruptCycles : Nat := 3

/-- The cycles that a step of a halted processor costs. -/
def haltCycles : Nat := 1

/-- Requests an interrupt from the controller at once. -/
def request (m : Machine) (k : Source) : Machine :=
  { m with bus := m.bus.mapInterrupts fun c => c.request k }

/-- The registers when the handler of interrupts starts. -/
def enterInterrupt (r : Registers) : Registers :=
  (r.enterException .interrupt (r.pc - 4)).setPc interruptVector

/-! ## Steps -/

/-- The word or halfword at the program counter. -/
def fetch (m : Machine) : Word :=
  if m.registers.flags.thumb then (m.bus.loadHalf m.registers.pc).setWidth 32
  else m.bus.loadWord m.registers.pc

/-- Executes the instruction at the program counter and moves on to the next, unless it jumped. -/
def executeNext (m : Machine) : Except Fault Nat × Machine :=
  let word := m.fetch
  let ⟨r, bus, hook?, cycles⟩ := m
  match decode? r.flags.thumb word with
  | none => (.error (.undefined r.pc word), ⟨r, bus, hook?, cycles⟩)
  | some i =>
    let next := r.pc + r.flags.instructionSize
    let ⟨r, bus, result⟩ := execute hook? i r bus
    match result with
    | .error fault => (.error fault, ⟨r, bus, hook?, cycles⟩)
    | .ok retired =>
      let r := if retired.branched then r else r.setPc next
      (.ok retired.cycles, ⟨r, bus, hook?, cycles + BitVec.ofNat 64 retired.cycles⟩)

/-- One step: takes an interrupt, idles, or executes an instruction.  Gives the cycles that passed,
or why the instruction cannot be executed. -/
def step (m : Machine) : Except Fault Nat × Machine :=
  let m := { m with bus := m.bus.deliver }
  match m.bus.interrupts.acknowledge with
  | (some _, controller) =>
    (.ok interruptCycles,
      { m with
        registers := enterInterrupt m.registers
        bus := m.bus.mapInterrupts fun _ => controller
        cycles := m.cycles + BitVec.ofNat 64 interruptCycles })
  | (none, _) =>
    if m.bus.interrupts.halted then
      (.ok haltCycles, { m with cycles := m.cycles + BitVec.ofNat 64 haltCycles })
    else m.executeNext

end Machine

end Handheld

import Handheld.Machine.Basic
import Handheld.Snapshot.Basic

/-!
# Machine/State — saving, loading and looking at a machine

A snapshot that is not accepted changes nothing.  One that is accepted replaces the registers, the
cycle counter and the controller, and forgets the interrupts that were raised and not delivered.
-/

namespace Handheld.Machine

/-- The state of the processor. -/
def save (m : Machine) : Snapshot where
  version := Snapshot.currentVersion
  registers := m.registers.visible
  status := m.registers.status.toWord
  banks := m.registers.banks
  mode := m.registers.mode
  thumb := m.registers.flags.thumb
  cycles := m.cycles
  interrupts := m.bus.interrupts.image
  halted := m.bus.interrupts.halted

/-- Puts the processor into the state of a snapshot. -/
def load (m : Machine) (s : Snapshot) : Except Snapshot.Rejection Machine :=
  match s.registers? with
  | .error e => .error e
  | .ok registers =>
    .ok
      { m with
        registers
        bus := (m.bus.mapInterrupts fun _ => .ofImage s.interrupts s.halted).clearQueue
        cycles := s.cycles }

/-- What a debugger shows of a machine. -/
structure Inspection where
  /-- The registers and the status. -/
  registers : Registers
  /-- What the interrupt controller is doing. -/
  interrupts : Controller.State
  /-- The cycles since the start. -/
  cycles : Double
  /-- The word or halfword at the program counter. -/
  nextWord : Word
  /-- The instruction there, if there is one. -/
  next? : Option Instruction

/-- Looks at a machine. -/
def inspect (m : Machine) : Inspection where
  registers := m.registers
  interrupts := m.bus.interrupts.state
  cycles := m.cycles
  nextWord := m.fetch
  next? := decode? m.registers.flags.thumb m.fetch

end Handheld.Machine

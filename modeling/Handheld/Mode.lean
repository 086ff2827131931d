/-!
# Mode — the seven processor modes

A mode is encoded in the five low bits of a program status word.  Most modes have their own stack
pointer, link register and saved status; user and system mode share one set and save no status.
-/

namespace Handheld

/-- What the processor is doing, and with which privileges. -/
inductive Mode where
  /-- Unprivileged programs. -/
  | user
  /-- Handling a fast interrupt. -/
  | fastInterrupt
  /-- Handling an interrupt. -/
  | interrupt
  /-- Handling a software interrupt. -/
  | supervisor
  /-- Handling a failed memory access. -/
  | abort
  /-- Handling an undefined instruction. -/
  | undefined
  /-- Privileged programs, on the registers of user mode. -/
  | system
  deriving DecidableEq, Inhabited

namespace Mode

/-- Every mode, in the order in which a snapshot numbers them. -/
def all : List Mode :=
  [user, fastInterrupt, interrupt, supervisor, abort, undefined, system]

/-- The five bits that encode a mode. -/
def code : Mode → BitVec 5
  | user => 0x10#5
  | fastInterrupt => 0x11#5
  | interrupt => 0x12#5
  | supervisor => 0x13#5
  | abort => 0x17#5
  | undefined => 0x1B#5
  | system => 0x1F#5

/-- The mode that five bits encode, if they encode one. -/
def ofCode? (bits : BitVec 5) : Option Mode := all.find? fun m => m.code == bits

/-- The register bank that a mode uses. -/
def bank : Mode → Fin 6
  | user | system => 0
  | fastInterrupt => 1
  | interrupt => 2
  | supervisor => 3
  | abort => 4
  | undefined => 5

/-- The modes that are entered by an exception save the status of the interrupted program. -/
def savesStatus : Mode → Bool
  | user | system => false
  | _ => true

/-- The customary three letters. -/
def name : Mode → String
  | user => "USR"
  | fastInterrupt => "FIQ"
  | interrupt => "IRQ"
  | supervisor => "SVC"
  | abort => "ABT"
  | undefined => "UND"
  | system => "SYS"

@[simp] theorem ofCode?_code (m : Mode) : ofCode? m.code = some m := by cases m <;> rfl

theorem code_of_ofCode? {bits : BitVec 5} {m : Mode} (h : ofCode? bits = some m) :
    m.code = bits := by
  simpa using List.find?_some h

end Mode

end Handheld

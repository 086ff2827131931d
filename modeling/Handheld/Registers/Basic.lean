import Handheld.Status

/-!
# Registers/Basic — the sixteen visible registers and the banks behind them

Sixteen registers are visible at a time.  Each mode has its own stack pointer and link register, and
fast interrupts their own r8–r12 too; the copies that are not visible lie in six banks, one per mode
with user and system mode sharing one.  `switchMode` stores the visible copies of the old mode and
fetches those of the new one, so between two switches the bank of the current mode is out of date,
its saved status excepted.

The mode is kept as a mode and the flags as flags; the mode bits of the status are those of the
mode.  `RegisterFile` keeps them too, and nothing that is done to it makes them differ.
-/

namespace Handheld

/-- The number of a visible register. -/
abbrev Register := Fin 16

namespace Register

/-- The first register. -/
abbrev r0 : Register := 0

/-- The second register. -/
abbrev r1 : Register := 1

/-- The third register. -/
abbrev r2 : Register := 2

/-- The fourth register. -/
abbrev r3 : Register := 3

/-- The stack pointer. -/
abbrev sp : Register := 13

/-- The link register, which holds return addresses. -/
abbrev link : Register := 14

/-- The program counter. -/
abbrev pc : Register := 15

end Register

/-- The registers of a mode while another mode is active. -/
structure Bank where
  /-- r8–r12; used in the bank of fast interrupts and, while these are handled, in that of user
  mode. -/
  high : Vector Word 5 := Vector.replicate 5 0#32
  /-- The stack pointer. -/
  sp : Word := 0#32
  /-- The link register. -/
  link : Word := 0#32
  /-- The status of the interrupted program. -/
  savedStatus : Word := 0#32
  deriving DecidableEq, Inhabited

/-- All registers of the processor. -/
structure Registers where
  /-- The registers of the current mode. -/
  visible : Vector Word 16
  /-- The flags of the current status. -/
  flags : Flags
  /-- The current mode. -/
  mode : Mode
  /-- The registers of the other modes, by `Mode.bank`. -/
  banks : Vector Bank 6
  deriving DecidableEq

namespace Registers

/-- Where the stack starts after a reset. -/
def resetSp : Word := 0x03007F00#32

/-- After a reset: system mode, every flag clear, every register zero but the stack pointer. -/
def initial : Registers where
  visible := (Vector.replicate 16 0#32).set Register.sp resetSp
  flags := {}
  mode := .system
  banks := Vector.replicate 6 {}

instance : Inhabited Registers := ⟨initial⟩

/-! ## The visible registers -/

/-- The content of a visible register. -/
def read (r : Registers) (n : Register) : Word := r.visible[n]

/-- Replaces the content of a visible register. -/
def write (r : Registers) (n : Register) (v : Word) : Registers :=
  { r with visible := r.visible.set n v }

theorem read_write (r : Registers) (m n : Register) (v : Word) :
    (r.write m v).read n = if m = n then v else r.read n := by
  simp only [read, write, Fin.getElem_fin, Vector.getElem_set, Fin.ext_iff]

@[simp] theorem read_write_self (r : Registers) (n : Register) (v : Word) :
    (r.write n v).read n = v := by
  simp [read_write]

theorem read_write_of_ne (r : Registers) {m n : Register} (h : m ≠ n) (v : Word) :
    (r.write m v).read n = r.read n := by
  simp [read_write, h]

/-- The program counter: the address of the next instruction. -/
def pc (r : Registers) : Word := r.read .pc

/-- Moves the program counter. -/
def setPc (r : Registers) (a : Word) : Registers := r.write .pc a

/-- The visible r8–r12. -/
def high (r : Registers) : Vector Word 5 := Vector.ofFn fun i => r.visible[8 + i.val]

/-- Replaces the visible r8–r12. -/
def setHigh (r : Registers) (values : Vector Word 5) : Registers :=
  { r with
    visible := Vector.ofFn fun n =>
      if h : 8 ≤ n.val ∧ n.val < 13 then values[n.val - 8] else r.visible[n] }

/-! ## Modes -/

/-- Changes one bank. -/
def mapBank (r : Registers) (i : Fin 6) (f : Bank → Bank) : Registers :=
  { r with banks := r.banks.set i (f r.banks[i]) }

/-- Stores the visible registers that the mode to come would hide. -/
def stash (r : Registers) (next : Mode) : Registers :=
  let r := r.mapBank r.mode.bank fun b => { b with sp := r.read .sp, link := r.read .link }
  if r.mode = .fastInterrupt then
    r.mapBank Mode.fastInterrupt.bank fun b => { b with high := r.high }
  else if next = .fastInterrupt then
    r.mapBank Mode.user.bank fun b => { b with high := r.high }
  else r

/-- Makes the stored registers of a mode visible, coming from the mode `old`. -/
def fetch (r : Registers) (old next : Mode) : Registers :=
  let r := (r.write .sp r.banks[next.bank].sp).write .link r.banks[next.bank].link
  if next = .fastInterrupt then r.setHigh r.banks[Mode.fastInterrupt.bank].high
  else if old = .fastInterrupt then r.setHigh r.banks[Mode.user.bank].high
  else r

/-- Makes the registers of a mode visible.  Staying in a mode changes nothing. -/
def switchMode (r : Registers) (next : Mode) : Registers :=
  if next = r.mode then r else { (r.stash next).fetch r.mode next with mode := next }

/-! ## The status -/

/-- The current status. -/
def status (r : Registers) : Psr := { r.flags with modeBits := r.mode.code }

/-- Replaces the flags. -/
def setFlags (r : Registers) (f : Flags) : Registers := { r with flags := f }

/-- Replaces the flags that `mask` selects; the mode stays. -/
def mergeFlags (r : Registers) (mask values : Flags) : Registers :=
  r.setFlags (r.flags.merge mask values)

/-- Replaces the whole status and switches to its mode.  Bits that encode no mode keep the mode. -/
def writeStatus (r : Registers) (p : Psr) : Registers :=
  (match p.mode? with
    | some m => r.switchMode m
    | none => r).setFlags p.toFlags

/-- The status saved for the current mode; a mode that saves none reads the current status. -/
def savedStatus (r : Registers) : Psr :=
  if r.mode.savesStatus then Psr.ofWord r.banks[r.mode.bank].savedStatus else r.status

/-- Replaces the status saved for the current mode, if it saves one. -/
def writeSavedStatus (r : Registers) (p : Psr) : Registers :=
  if r.mode.savesStatus then
    r.mapBank r.mode.bank fun b => { b with savedStatus := p.toWord }
  else r

@[simp] theorem mode?_status (r : Registers) : r.status.mode? = some r.mode :=
  Mode.ofCode?_code r.mode

/-- The status that is current can be written without effect. -/
@[simp] theorem writeStatus_status (r : Registers) : r.writeStatus r.status = r := by
  rw [writeStatus, mode?_status]
  simp [switchMode, setFlags, status]

/-! ## Other modes' registers -/

/-- The content of a register as user mode sees it. -/
def readUser (r : Registers) (n : Register) : Word :=
  let user := r.banks[Mode.user.bank]
  if r.mode.bank ≠ Mode.user.bank ∧ n = .sp then user.sp
  else if r.mode.bank ≠ Mode.user.bank ∧ n = .link then user.link
  else if h : r.mode = .fastInterrupt ∧ 8 ≤ n.val ∧ n.val < 13 then user.high[n.val - 8]
  else r.read n

/-- Replaces the content of a register as user mode sees it. -/
def writeUser (r : Registers) (n : Register) (v : Word) : Registers :=
  if r.mode.bank ≠ Mode.user.bank ∧ n = .sp then
    r.mapBank Mode.user.bank fun b => { b with sp := v }
  else if r.mode.bank ≠ Mode.user.bank ∧ n = .link then
    r.mapBank Mode.user.bank fun b => { b with link := v }
  else if h : r.mode = .fastInterrupt ∧ 8 ≤ n.val ∧ n.val < 13 then
    r.mapBank Mode.user.bank fun b => { b with high := b.high.set (n.val - 8) v }
  else r.write n v

/-- Sets the stack pointer of a mode, whether that mode is active or not. -/
def setBankedSp (r : Registers) (m : Mode) (v : Word) : Registers :=
  if m.bank = r.mode.bank then r.write .sp v else r.mapBank m.bank fun b => { b with sp := v }

/-- The registers with these contents, if the status encodes a mode. -/
def ofParts? (visible : Vector Word 16) (p : Psr) (banks : Vector Bank 6) : Option Registers :=
  p.mode?.map fun mode => { visible, flags := p.toFlags, mode, banks }

end Registers

end Handheld

import Handheld.Registers.Exception
import Handheld.Proofs.Word
import Handheld.Proofs.Registers.Flat

/-!
# Proofs/Registers/Return — an exception and the return from it

Entering a handler replaces two cells, the handler's link register and its saved status
(`physical_enterException`); returning replaces none.  The saved status is that of the interrupted
program, so a return to an aligned address resumes the program as it was (`resumes_startHandler`),
from whichever mode the handler was entered.  A handler may do its work in between, if it puts back
what it changes (`Restored`).
-/

namespace Handheld.Registers

/-- Returns from a handler: restores the saved status, then jumps to an address, aligned to the
instructions then in force. -/
def returnTo (r : Registers) (a : Word) : Registers :=
  let r := r.writeStatus r.savedStatus
  r.setPc (if r.flags.thumb then a.alignHalf else a.alignWord)

/-- Enters a handler at its vector. -/
def startHandler (r : Registers) (handler : Mode) (link vector : Word) : Registers :=
  (r.enterException handler link).setPc vector

/-- The registers at the start of the handler of an interrupted program. -/
structure Handles (r' r : Registers) (handler : Mode) : Prop where
  /-- The handler's mode is current. -/
  mode : r'.mode = handler
  /-- Interrupts are masked, instructions are wide, and the other flags are the program's. -/
  flags : r'.flags = { r.flags with maskInterrupt := true, thumb := false }
  /-- The program's status is saved. -/
  saved : r'.savedStatus = r.status

/-- The registers at the vector of a handler, with the address to return to in its link register. -/
structure Starts (r' r : Registers) (handler : Mode) (link vector : Word) : Prop
    extends Handles r' r handler where
  /-- The handler starts at its vector. -/
  pc : r'.pc = vector
  /-- Its link register tells where to return to. -/
  link : r'.read .link = link
  /-- Every other cell is as it was, save the handler's saved status. -/
  physical : ∀ c, c ≠ .pc → c ≠ .link handler.bank → some c ≠ Cell.saved? handler →
    r'.physical c = r.physical c

/-- The registers of a program that a handler has returned to at an address. -/
structure Resumes (r' r : Registers) (handler : Mode) (next : Word) : Prop where
  /-- The status is as it was. -/
  status : r'.status = r.status
  /-- The program goes on at the address. -/
  pc : r'.pc = next
  /-- Every cell is as it was, save the handler's link register and saved status. -/
  physical : ∀ c, c ≠ .pc → c ≠ .link handler.bank → some c ≠ Cell.saved? handler →
    r'.physical c = r.physical c

/-- The registers of a handler that has put back whatever it changed, the conditions apart. -/
structure Restored (r' r : Registers) : Prop where
  /-- The mode is the handler's. -/
  mode : r'.mode = r.mode
  /-- Instructions are as wide as the handler's. -/
  thumb : r'.flags.thumb = r.flags.thumb
  /-- Every cell but the program counter is as the handler found it. -/
  physical : ∀ c, c ≠ .pc → r'.physical c = r.physical c

/-- An address at which instructions of the width in force can start. -/
def Aligned (r : Registers) (a : Word) : Prop :=
  (if r.flags.thumb then a.alignHalf else a.alignWord) = a

variable {r : Registers}

/-- The instruction after an aligned one is aligned. -/
theorem Aligned.add_instructionSize {a : Word} (h : r.Aligned a) :
    r.Aligned (a + r.flags.instructionSize) := by
  unfold Aligned Flags.instructionSize at *
  cases ht : r.flags.thumb
  · simp only [ht, Bool.false_eq_true, if_false, Word.alignWord_eq_self_iff] at h ⊢
    bv_omega
  · simp only [ht, if_true, Word.alignHalf_eq_self_iff] at h ⊢
    bv_omega

/-- The status word tells the mode. -/
theorem mode_of_status {r' : Registers} (h : r'.status = r.status) : r'.mode = r.mode := by
  have hm := congrArg Psr.mode? h
  rw [mode?_status, mode?_status] at hm
  exact Option.some.inj hm

theorem flags_of_status {r' : Registers} (h : r'.status = r.status) : r'.flags = r.flags :=
  congrArg Psr.toFlags h

/-! ## Entering -/

/-- A saved status that was written is read, in a mode that saves one. -/
theorem savedStatus_writeSavedStatus {r : Registers} (h : r.mode.savesStatus = true) (p : Psr) :
    (r.writeSavedStatus p).savedStatus = p := by
  rw [writeSavedStatus, if_pos h, savedStatus, if_pos (by exact h)]
  change Psr.ofWord ((r.mapBank r.mode.bank _).banks.get r.mode.bank).savedStatus = p
  rw [get_mapBank, if_pos rfl, Psr.ofWord_toWord]

/-- In a mode that saves a status neither registers nor flags have to do with it. -/
theorem savedStatus_write_setFlags {r : Registers} (h : r.mode.savesStatus = true) (n : Register)
    (v : Word) (f : Flags) : ((r.write n v).setFlags f).savedStatus = r.savedStatus := by
  rw [savedStatus, savedStatus, if_pos h, if_pos (by exact h)]
  rfl

/-- **Entering a handler replaces its saved status and its link register.** -/
theorem physical_enterException (r : Registers) (handler : Mode) (link : Word) {c : Cell}
    (hlink : c ≠ .link handler.bank) (hsaved : some c ≠ Cell.saved? handler) :
    (r.enterException handler link).physical c = r.physical c := by
  have hs := (r.switchMode handler).physical_writeSavedStatus r.status
  rw [mode_switchMode, physical_switchMode] at hs
  have hm : ((r.switchMode handler).writeSavedStatus r.status).mode = handler := by simp
  rw [enterException, physical_setFlags, physical_write, hm, Cell.of_link,
    Function.update_of_ne hlink, hs]
  split
  · next d hd => rw [Function.update_of_ne fun e => hsaved (by rw [e, hd])]
  · rfl

/-- **Entering a handler saves the status** and masks interrupts in the handler's mode. -/
theorem handles_enterException (r : Registers) {handler : Mode} (h : handler.savesStatus = true)
    (link : Word) : (r.enterException handler link).Handles r handler := by
  have hm : ((r.switchMode handler).writeSavedStatus r.status).mode = handler := by simp
  refine ⟨hm, ?_, ?_⟩
  · change ((r.switchMode handler).writeSavedStatus r.status).flags.onException = _
    rw [flags_writeSavedStatus, flags_switchMode, Flags.onException]
  · have hs : ((r.switchMode handler).writeSavedStatus r.status).mode.savesStatus = true := by
      rw [hm, h]
    rw [enterException, savedStatus_write_setFlags hs, savedStatus_writeSavedStatus (by simpa)]

/-- A handler finds the way back in its link register. -/
theorem read_link_enterException (r : Registers) (handler : Mode) (link : Word) :
    (r.enterException handler link).read .link = link :=
  read_write_self _ .link link

/-! ## Returning -/

/-- **A return resumes the interrupted program** at an aligned address, if the handler has kept the
program's status and cells. -/
theorem resumes_returnTo {r' : Registers} {handler : Mode} (saved : r'.savedStatus = r.status)
    {a : Word} (ha : r.Aligned a)
    (kept : ∀ c, c ≠ .pc → c ≠ .link handler.bank → some c ≠ Cell.saved? handler →
      r'.physical c = r.physical c) :
    (r'.returnTo a).Resumes r handler a := by
  have hs : (r'.writeStatus r'.savedStatus).status = r.status := by
    rw [saved, status_writeStatus, mode?_status]
    rfl
  have hf : (r'.writeStatus r'.savedStatus).flags = r.flags := flags_of_status hs
  refine ⟨hs, ?_, fun c hpc hlink hsaved => ?_⟩
  · rw [returnTo, hf]
    exact (read_write_self _ .pc _).trans ha
  · rw [returnTo, physical_setPc, Function.update_of_ne hpc, physical_writeStatus]
    exact kept c hpc hlink hsaved

/-! ## Entering and returning -/

/-- A handler that starts has saved the status that it interrupted. -/
theorem handles_startHandler (r : Registers) {handler : Mode} (h : handler.savesStatus = true)
    (link vector : Word) : (r.startHandler handler link vector).Handles r handler := by
  obtain ⟨hm, hf, hs⟩ := r.handles_enterException h link
  exact ⟨hm, hf, hs⟩

theorem read_link_startHandler (r : Registers) (handler : Mode) (link vector : Word) :
    (r.startHandler handler link vector).read .link = link := by
  rw [startHandler, setPc, read_write_of_ne _ (by decide), read_link_enterException]

/-- A handler that starts has moved the program counter, its link register and its saved status, and
no other cell. -/
theorem physical_startHandler (r : Registers) (handler : Mode) (link vector : Word) {c : Cell}
    (hpc : c ≠ .pc) (hlink : c ≠ .link handler.bank) (hsaved : some c ≠ Cell.saved? handler) :
    (r.startHandler handler link vector).physical c = r.physical c := by
  rw [startHandler, physical_setPc, Function.update_of_ne hpc,
    physical_enterException r handler link hlink hsaved]

/-- **A handler starts at its vector, in its mode**, and finds the program's registers. -/
theorem starts_startHandler (r : Registers) {handler : Mode} (h : handler.savesStatus = true)
    (link vector : Word) :
    (r.startHandler handler link vector).Starts r handler link vector where
  toHandles := r.handles_startHandler h link vector
  pc := read_write_self _ .pc vector
  link := r.read_link_startHandler handler link vector
  physical _ := r.physical_startHandler handler link vector

/-- **A handler that returns at once changes nothing** for the program. -/
theorem resumes_startHandler {handler : Mode} (h : handler.savesStatus = true)
    (link vector : Word) {a : Word} (ha : r.Aligned a) :
    ((r.startHandler handler link vector).returnTo a).Resumes r handler a := by
  have hs := (r.handles_startHandler h link vector).saved
  exact resumes_returnTo hs ha fun c => r.physical_startHandler handler link vector

/-! ## Programs that were resumed -/

/-- What has done nothing can resume. -/
theorem Resumes.refl (r : Registers) (handler : Mode) : r.Resumes r handler r.pc :=
  ⟨rfl, rfl, fun _ _ _ _ => rfl⟩

/-- What resumes after each of two parts resumes after both. -/
theorem Resumes.trans {r'' r' : Registers} {handler : Mode}
    (h' : r''.Resumes r' handler r'.pc) (h : r'.Resumes r handler r.pc) :
    r''.Resumes r handler r.pc where
  status := h'.status.trans h.status
  pc := h'.pc.trans h.pc
  physical c hpc hlink hsaved :=
    (h'.physical c hpc hlink hsaved).trans (h.physical c hpc hlink hsaved)

/-- A mode that was resumed finds its link register, unless it is the handler's. -/
theorem Resumes.link {r' : Registers} {handler : Mode} {next : Word}
    (h : r'.Resumes r handler next) (hb : r.mode.bank ≠ handler.bank) :
    r'.read .link = r.read .link := by
  rw [read_eq_physical, read_eq_physical, mode_of_status h.status, Cell.of_link]
  refine h.physical _ (by simp) (fun e => hb (Cell.link.inj e)) fun e => ?_
  unfold Cell.saved? at e
  split at e
  all_goals cases e

/-- A status that a handler has not written is still saved. -/
theorem Restored.savedStatus {r' : Registers} (h : r'.Restored r) (hs : r.mode.savesStatus = true) :
    r'.savedStatus = r.savedStatus := by
  have hsaved : Cell.saved? r.mode = some (.saved ⟨r.mode, hs⟩) := dif_pos hs
  rw [← Psr.ofWord_toWord r'.savedStatus, ← Psr.ofWord_toWord r.savedStatus,
    savedStatus_eq_physical, savedStatus_eq_physical, h.mode, hsaved]
  exact congrArg Psr.ofWord (h.physical _ (by simp))

/-- Restored registers have the link register from before. -/
theorem Restored.link {r' : Registers} (h : r'.Restored r) : r'.read .link = r.read .link := by
  rw [read_eq_physical, read_eq_physical, h.mode]
  exact h.physical _ (by rw [Cell.of_link]; simp)

end Handheld.Registers

import Handheld.Registers.Exception
import Handheld.Proofs.Registers.Flat

/-!
# Proofs/Registers/File — the register file with a mode beside its status word

The status word holds the mode in its low bits, and the register file keeps the mode once more, as a
field of its own.  `RegisterFile` has both, and each operation writes either of them by itself: a
switch of modes removes and inserts mode bits, a write to the status takes over the flags and keeps
the mode bits that it finds, and flags are merged under a mask that has lost its mode bits.

Nothing in the type makes the two agree.  A file agrees exactly if it is `Registers.file` of some
registers (`agrees_iff`), and every operation on registers is that of their file (`file_apply`).
Hence agreement lasts through every run (`Agrees.run`), and with it the laws of the flat machine
(`run_refines_cells`).
-/

namespace Handheld

/-! ## Status words as sets of bits -/

namespace Psr

/-- The bits of `p` that `q` does not have. -/
def remove (p q : Psr) : Psr := ofWord (p.toWord &&& ~~~q.toWord)

/-- The bits that `p` and `q` have in common. -/
def inter (p q : Psr) : Psr := ofWord (p.toWord &&& q.toWord)

/-- The bits of `p` and those of `q`. -/
def union (p q : Psr) : Psr := ofWord (p.toWord ||| q.toWord)

/-- The mode bits and nothing else. -/
def modeField : Psr := { modeBits := 0x1F#5 }

/-- Every bit that there is. -/
def all : Psr := ofWord present

/-- Removes the mode bits and inserts those of a mode. -/
def setMode (p : Psr) (m : Mode) : Psr :=
  (p.remove modeField).union (ofWord (m.code.setWidth 32))

/-- A status is told by its word. -/
theorem toWord_injective {p q : Psr} (h : p.toWord = q.toWord) : p = q := by
  rw [← ofWord_toWord p, h, ofWord_toWord]

/-- What two statuses have in common are the common bits of their words. -/
@[simp] theorem toWord_inter (p q : Psr) : (p.inter q).toWord = p.toWord &&& q.toWord := by
  rw [inter, toWord_ofWord, BitVec.and_assoc, toWord_and_present]

/-- The bits of two statuses are the bits of their words. -/
@[simp] theorem toWord_union (p q : Psr) : (p.union q).toWord = p.toWord ||| q.toWord := by
  have distrib (a b c : Word) : (a ||| b) &&& c = a &&& c ||| b &&& c := by
    apply BitVec.eq_of_getLsbD_eq
    intro i _
    simp [Bool.and_or_distrib_right]
  rw [union, toWord_ofWord, distrib, toWord_and_present, toWord_and_present]

/-- Removing bits of a status removes them from its word. -/
@[simp] theorem toWord_remove (p q : Psr) : (p.remove q).toWord = p.toWord &&& ~~~q.toWord := by
  rw [remove, toWord_ofWord, BitVec.and_assoc, BitVec.and_comm (~~~q.toWord), ← BitVec.and_assoc,
    toWord_and_present]

/-- The mode bits are the five low ones. -/
@[simp] theorem toWord_modeField : modeField.toWord = modeMask := by decide

/-- The word of a mode has no bits but the mode bits. -/
theorem toWord_ofWord_code (m : Mode) :
    (ofWord (m.code.setWidth 32)).toWord = m.code.setWidth 32 := by
  cases m <;> decide

/-- Removing the mode bits of a status and inserting others leaves the flags. -/
theorem setMode_eq (p : Psr) (m : Mode) : p.setMode m = { p with modeBits := m.code } := by
  apply toWord_injective
  rw [setMode, toWord_union, toWord_remove, toWord_modeField, toWord_ofWord_code]
  exact (p.toWord_withModeBits m.code).symm

/-- The flags of one status with the mode bits of another. -/
theorem union_remove_modeField (p q : Psr) :
    (p.remove modeField).union (q.inter modeField) = { p with modeBits := q.modeBits } := by
  apply toWord_injective
  rw [toWord_union, toWord_remove, toWord_inter, toWord_modeField, toWord_and_modeMask]
  exact (p.toWord_withModeBits q.modeBits).symm

/-- Merging under a mask that has lost its mode bits merges the flags. -/
theorem union_remove_merge (p mask values : Psr) :
    (p.remove (mask.remove modeField)).union (values.inter (mask.remove modeField))
      = { p.toFlags.merge mask.toFlags values.toFlags with modeBits := p.modeBits } := by
  apply toWord_injective
  rw [toWord_union, toWord_remove, toWord_inter, toWord_remove, toWord_modeField, toWord_merge]

end Psr

/-! ## The register file -/

/-- All registers of the processor, with the mode both in the status and beside it. -/
structure RegisterFile where
  /-- The registers of the current mode. -/
  visible : Vector Word 16
  /-- The current status. -/
  status : Psr
  /-- The current mode. -/
  mode : Mode
  /-- The registers of the other modes, by `Mode.bank`. -/
  banks : Vector Bank 6
  deriving DecidableEq

namespace RegisterFile

/-- The registers without the mode bits of the status. -/
def view (f : RegisterFile) : Registers := ⟨f.visible, f.status.toFlags, f.mode, f.banks⟩

/-- Takes over registers but for their mode: an operation that switches no mode writes neither the
field nor the mode bits. -/
def adopt (f : RegisterFile) (r : Registers) : RegisterFile where
  visible := r.visible
  status := { r.flags with modeBits := f.status.modeBits }
  mode := f.mode
  banks := r.banks

/-- After a reset: system mode, in the field and in an empty status, and every register zero but the
stack pointer. -/
def initial : RegisterFile where
  visible := Registers.initial.visible
  status := Psr.setMode {} .system
  mode := .system
  banks := Vector.replicate 6 {}

/-- The register file with these contents, if the status encodes a mode. -/
def ofParts? (visible : Vector Word 16) (status : Psr) (banks : Vector Bank 6) :
    Option RegisterFile :=
  status.mode?.map fun mode => { visible, status, mode, banks }

/-! ### Reading -/

/-- The content of a visible register. -/
def read (f : RegisterFile) (n : Register) : Word := f.visible.get n

/-- The program counter. -/
def pc (f : RegisterFile) : Word := f.read .pc

/-- The status saved for the current mode; a mode that saves none reads the status word. -/
def savedStatus (f : RegisterFile) : Psr :=
  if f.mode.savesStatus then Psr.ofWord f.banks[f.mode.bank].savedStatus else f.status

/-- The content of a register as user mode sees it. -/
def readUser (f : RegisterFile) (n : Register) : Word := f.view.readUser n

/-! ### Writing -/

/-- Replaces the content of a visible register. -/
def write (f : RegisterFile) (n : Register) (v : Word) : RegisterFile :=
  { f with visible := (f.view.write n v).visible }

/-- Moves the program counter. -/
def setPc (f : RegisterFile) (a : Word) : RegisterFile := f.write .pc a

/-- Makes the registers of a mode visible, and writes the mode to its field and to the status. -/
def switchMode (f : RegisterFile) (next : Mode) : RegisterFile :=
  if next = f.mode then f
  else
    let moved := (f.view.stash next).fetch f.mode next
    { visible := moved.visible, status := f.status.setMode next, mode := next,
      banks := moved.banks }

/-- Replaces the bits of the status, but for the mode bits that it has. -/
def replaceFlags (f : RegisterFile) (p : Psr) : RegisterFile :=
  { f with status := (p.remove Psr.modeField).union (f.status.inter Psr.modeField) }

/-- Switches to the mode of a status, if it encodes one, and takes over its flags.  The mode bits
are those that are there after the switch. -/
def writeStatus (f : RegisterFile) (p : Psr) : RegisterFile :=
  (match p.mode? with
    | some m => f.switchMode m
    | none => f).replaceFlags p

/-- Replaces the status saved for the current mode, if it saves one. -/
def writeSavedStatus (f : RegisterFile) (p : Psr) : RegisterFile :=
  if f.mode.savesStatus then
    { f with
      banks := f.banks.set f.mode.bank { f.banks[f.mode.bank] with savedStatus := p.toWord } }
  else f

/-- Replaces the bits of the status that `mask` selects, mode bits excepted. -/
def setFlags (f : RegisterFile) (mask values : Psr) : RegisterFile :=
  let mask := mask.remove Psr.modeField
  { f with status := (f.status.remove mask).union (values.inter mask) }

/-- Replaces the content of a register as user mode sees it. -/
def writeUser (f : RegisterFile) (n : Register) (v : Word) : RegisterFile :=
  f.adopt (f.view.writeUser n v)

/-- Sets the stack pointer of a mode, whether that mode is active or not. -/
def setBankedSp (f : RegisterFile) (m : Mode) (v : Word) : RegisterFile :=
  f.adopt (f.view.setBankedSp m v)

/-- Enters the mode of a handler, to return to `link`: interrupts masked, instructions wide. -/
def enterException (f : RegisterFile) (handler : Mode) (link : Word) : RegisterFile :=
  let interrupted := f.status
  (((f.switchMode handler).writeSavedStatus interrupted).write .link link).setFlags
    { maskInterrupt := true, thumb := true } { maskInterrupt := true }

/-- The operations on a register file. -/
def apply (f : RegisterFile) : Registers.Update → RegisterFile
  | .write n v => f.write n v
  | .setPc a => f.setPc a
  | .switchMode m => f.switchMode m
  | .writeStatus p => f.writeStatus p
  | .writeSavedStatus p => f.writeSavedStatus p
  | .mergeFlags mask values => f.setFlags mask values
  | .writeUser n v => f.writeUser n v
  | .setBankedSp m v => f.setBankedSp m v

/-- A sequence of operations. -/
def run (f : RegisterFile) (us : List Registers.Update) : RegisterFile := us.foldl apply f

/-- The cells, the active ones taken from the visible registers, and the status word. -/
def flat (f : RegisterFile) : Flat := ⟨f.view.physical, f.status.toWord⟩

/-- The mode bits of the status encode the mode. -/
def Agrees (f : RegisterFile) : Prop := f.status.mode? = some f.mode

instance (f : RegisterFile) : Decidable f.Agrees :=
  inferInstanceAs (Decidable (f.status.mode? = some f.mode))

/-- The register file was built anew, or from parts. -/
def Built (f : RegisterFile) : Prop :=
  f = initial ∨ ∃ visible status banks, ofParts? visible status banks = some f

end RegisterFile

/-! ## Agreeing files -/

/-- Registers with their mode written into the status. -/
def Registers.file (r : Registers) : RegisterFile := ⟨r.visible, r.status, r.mode, r.banks⟩

namespace RegisterFile

@[simp] theorem view_file (r : Registers) : r.file.view = r := rfl

/-- The mode of registers is written into their status. -/
theorem agrees_file (r : Registers) : r.file.Agrees := r.mode?_status

/-- A file that agrees with itself is that of its registers. -/
theorem Agrees.file_view {f : RegisterFile} (h : f.Agrees) : f.view.file = f := by
  have hbits : f.mode.code = f.status.modeBits := Mode.code_of_ofCode? h
  rw [Registers.file, Registers.status, view, hbits]

/-- **The files that agree are those of registers.** -/
theorem agrees_iff {f : RegisterFile} : f.Agrees ↔ ∃ r : Registers, r.file = f := by
  constructor
  · exact fun h => ⟨f.view, h.file_view⟩
  · rintro ⟨r, rfl⟩
    exact agrees_file r

/-- A file starts as that of the registers after a reset. -/
theorem initial_eq : initial = Registers.initial.file := by
  rw [initial, Psr.setMode_eq]
  rfl

/-- A file built from parts agrees, since its mode is read off its status. -/
theorem agrees_of_ofParts? {visible : Vector Word 16} {status : Psr} {banks : Vector Bank 6}
    {f : RegisterFile} (h : ofParts? visible status banks = some f) : f.Agrees := by
  obtain ⟨m, hm, rfl⟩ := Option.map_eq_some_iff.mp h
  exact hm

/-- However a file was built, it agrees with itself. -/
theorem Built.agrees {f : RegisterFile} (h : f.Built) : f.Agrees := by
  rcases h with rfl | ⟨_, _, _, h⟩
  · rw [initial_eq]
    exact agrees_file _
  · exact agrees_of_ofParts? h

end RegisterFile

/-! ## One square for each operation -/

namespace Registers

variable (r : Registers)

@[simp] theorem status_file : r.file.status = r.status := rfl

/-- Taking over registers of the same mode gives their file. -/
theorem file_adopt {r' : Registers} (h : r'.mode = r.mode) : r.file.adopt r' = r'.file := by
  rw [RegisterFile.adopt, file, file, status, status, h]

theorem file_write (n : Register) (v : Word) : (r.write n v).file = r.file.write n v := rfl

theorem file_setPc (a : Word) : (r.setPc a).file = r.file.setPc a := rfl

/-- A switch writes the mode bits where it writes the mode, so the file stays that of registers. -/
theorem file_switchMode (m : Mode) : (r.switchMode m).file = r.file.switchMode m := by
  by_cases h : m = r.mode
  · rw [switchMode, if_pos h, RegisterFile.switchMode, if_pos (by exact h)]
  · have hflags : ((r.stash m).fetch r.mode m).flags = r.flags :=
      (flags_fetch _ _ _).trans (flags_stash _ _)
    rw [switchMode, if_neg h, RegisterFile.switchMode, if_neg (by exact h), Psr.setMode_eq, file,
      status, hflags]
    rfl

/-- Taking over flags under the mode bits that are there is taking over the flags. -/
theorem file_setFlags (p : Psr) : (r.setFlags p.toFlags).file = r.file.replaceFlags p := by
  rw [RegisterFile.replaceFlags, Psr.union_remove_modeField]
  rfl

/-- **A new status, mode bits and all**: the switch writes those of its mode, and the flags go
around them. -/
theorem file_writeStatus (p : Psr) : (r.writeStatus p).file = r.file.writeStatus p := by
  rw [writeStatus, RegisterFile.writeStatus, file_setFlags]
  cases p.mode? with
  | none => rfl
  | some m => exact congrArg (·.replaceFlags p) (r.file_switchMode m)

/-- The mode beside the status tells which bank saves a status. -/
theorem file_writeSavedStatus (p : Psr) :
    (r.writeSavedStatus p).file = r.file.writeSavedStatus p := by
  rw [writeSavedStatus, RegisterFile.writeSavedStatus]
  by_cases h : r.mode.savesStatus = true
  · rw [if_pos h, if_pos (by exact h)]
    rfl
  · rw [if_neg h, if_neg (by exact h)]

/-- Merging under a mask without mode bits is merging flags. -/
theorem file_mergeFlags (mask values : Psr) :
    (r.mergeFlags mask.toFlags values.toFlags).file = r.file.setFlags mask values := by
  rw [RegisterFile.setFlags, Psr.union_remove_merge]
  rfl

/-- A write as user mode sees the registers leaves mode and status. -/
theorem file_writeUser (n : Register) (v : Word) :
    (r.writeUser n v).file = r.file.writeUser n v :=
  (r.file_adopt (r.mode_writeUser n v)).symm

@[simp] theorem mode_setBankedSp (m : Mode) (v : Word) : (r.setBankedSp m v).mode = r.mode := by
  unfold setBankedSp
  split <;> rfl

theorem file_setBankedSp (m : Mode) (v : Word) :
    (r.setBankedSp m v).file = r.file.setBankedSp m v :=
  (r.file_adopt (r.mode_setBankedSp m v)).symm

/-- The entry into a handler saves the whole status, with the mode bits of what is interrupted. -/
theorem file_enterException (handler : Mode) (link : Word) :
    (r.enterException handler link).file = r.file.enterException handler link := by
  rw [RegisterFile.enterException, status_file, ← file_switchMode, ← file_writeSavedStatus,
    ← file_write, ← file_mergeFlags]
  rfl

/-- **Each operation on registers is that of their file.** -/
theorem file_apply (u : Update) : (r.apply u).file = r.file.apply u := by
  cases u with
  | write n v => exact r.file_write n v
  | setPc a => exact r.file_setPc a
  | switchMode m => exact r.file_switchMode m
  | writeStatus p => exact r.file_writeStatus p
  | writeSavedStatus p => exact r.file_writeSavedStatus p
  | mergeFlags mask values => exact r.file_mergeFlags mask values
  | writeUser n v => exact r.file_writeUser n v
  | setBankedSp m v => exact r.file_setBankedSp m v

/-- **A run on the file of registers is the file of the run.** -/
theorem file_run (us : List Update) : (r.run us).file = r.file.run us := by
  induction us generalizing r with
  | nil => rfl
  | cons u us ih =>
    change ((r.apply u).run us).file = (r.file.apply u).run us
    rw [ih, file_apply]

end Registers

/-! ## Every run -/

namespace RegisterFile

@[simp] theorem flat_file (r : Registers) : r.file.flat = r.flat := rfl

variable {f : RegisterFile}

/-- **No operation parts the mode from the status.** -/
theorem Agrees.apply (h : f.Agrees) (u : Registers.Update) : (f.apply u).Agrees := by
  obtain ⟨r, rfl⟩ := agrees_iff.mp h
  rw [← Registers.file_apply]
  exact agrees_file _

/-- **No run parts the mode from the status.** -/
theorem Agrees.run (h : f.Agrees) (us : List Registers.Update) : (f.run us).Agrees := by
  induction us generalizing f with
  | nil => exact h
  | cons u us ih => exact ih (h.apply u)

/-- **A register file refines a set of cells and a status word.**  However it was built and whatever
is done to it, its status encodes the mode that stands beside it, and its cells and its status word
are those of the flat machine after the same operations.  A switch of modes replaces the mode bits
alone, and every write one cell alone, that of the current mode, of user mode or of the mode named,
where the saved status has no cell in a mode that saves none; what can be read are those cells.  The
registers without mode bits go through the same run. -/
theorem run_refines_cells (hf : f.Built) (us : List Registers.Update) :
    let s := f.run us
    s.status.mode? = some s.mode
    ∧ s.flat = f.flat.run us
    ∧ s.flat.mode? = some s.mode
    ∧ (∀ m, (s.switchMode m).flat = s.flat.setMode m)
    ∧ (∀ n v, (s.write n v).flat = s.flat.set (.of s.mode n) v)
    ∧ (∀ n v, (s.writeUser n v).flat = s.flat.set (.of .user n) v)
    ∧ (∀ m v, (s.setBankedSp m v).flat = s.flat.set (.of m .sp) v)
    ∧ (∀ p, (s.writeSavedStatus p).flat = s.flat.set? (Cell.saved? s.mode) p.toWord)
    ∧ (∀ p, (s.writeStatus p).flat = s.flat.apply (.writeStatus p))
    ∧ (∀ mask values, (s.setFlags mask values).flat = s.flat.apply (.mergeFlags mask values))
    ∧ (∀ n, s.read n = s.flat.cells (.of s.mode n))
    ∧ (∀ n, s.readUser n = s.flat.cells (.of .user n))
    ∧ s.savedStatus.toWord = ((Cell.saved? s.mode).map s.flat.cells).getD s.flat.status
    ∧ s = (f.view.run us).file := by
  intro s
  have agrees : s.Agrees := hf.agrees.run us
  -- The file is that of some registers before the run and after it, so every law is theirs.
  obtain ⟨r, rfl⟩ := agrees_iff.mp hf.agrees
  obtain ⟨hflat, -, hmode, hswitch, hwrite, huser, hsp, hsaved, hread, hreadUser, hstatus⟩ :=
    r.run_refines_flat us
  have hs : s = (r.run us).file := (r.file_run us).symm
  clear_value s
  subst hs
  rw [flat_file, flat_file, view_file]
  refine ⟨agrees, hflat, hmode, fun m => ?_, hwrite, fun n v => ?_, fun m v => ?_, fun p => ?_,
    fun p => ?_, fun mask values => ?_, hread, hreadUser, hstatus, rfl⟩
  · rw [← Registers.file_switchMode, flat_file]
    exact hswitch m
  · rw [← Registers.file_writeUser, flat_file]
    exact huser n v
  · rw [← Registers.file_setBankedSp, flat_file]
    exact hsp m v
  · rw [← Registers.file_writeSavedStatus, flat_file]
    exact hsaved p
  · rw [← Registers.file_writeStatus, flat_file]
    exact (r.run us).flat_writeStatus p
  · rw [← Registers.file_mergeFlags, flat_file]
    exact (r.run us).flat_mergeFlags mask values

/-- Into the handler of fast interrupts with registers of its own, then a status that encodes no
mode: the mode stays, in the field and in the status, and the flags are taken. -/
theorem fast_refines_cells :
    let us := [.write .sp 5#32, .switchMode .fastInterrupt, .write 8 6#32, .writeUser .sp 7#32,
      .writeStatus (.ofWord 0x40000005#32)]
    let s := initial.run us
    s.status.mode? = some s.mode ∧ s.mode = .fastInterrupt ∧ s.status.toWord = 0x40000011#32
      ∧ s.flat.cells (.of .system 8) = 0#32 ∧ s.flat.cells (.of .system .sp) = 7#32 := by
  intro us s
  obtain ⟨hmode, -⟩ := run_refines_cells (.inl rfl : initial.Built) us
  refine ⟨hmode, ?_, ?_, ?_, ?_⟩
  all_goals decide +kernel

end RegisterFile

end Handheld

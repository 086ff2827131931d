import Mathlib.Tactic.SplitIfs
import Handheld.Proofs.Registers.Physical

/-!
# Proofs/Registers/Flat — the register file as a machine without banks

`Flat` keeps a word for every cell and one status word, and nothing else: which mode is current is
read off the status word, and an operation replaces the cell that this mode, or user mode, or a
named mode sees.  Reading the cells off a register file (`Registers.flat`) carries each operation
of the register file to that of the flat machine (`flat_apply`), hence every sequence of operations
(`flat_run`); the stale banks and the copying between them are invisible.
-/

namespace Handheld

/-! ## Status words -/

namespace Psr

/-- The bits of a status word that encode the mode. -/
def modeMask : Word := 0x1F#32

theorem getLsbD_modeMask (i : Nat) : modeMask.getLsbD i = decide (i < 5) := by
  change (BitVec.ofNat 32 (2 ^ 5 - 1)).getLsbD i = _
  rw [BitVec.getLsbD_ofNat, Nat.testBit_two_pow_sub_one]
  by_cases h : i < 5
  · simp [h, show i < 32 by omega]
  · simp [h]

/-- Other mode bits in a status are other mode bits in its word. -/
theorem toWord_withModeBits (p : Psr) (bits : BitVec 5) :
    ({ p with modeBits := bits } : Psr).toWord
      = (p.toWord &&& ~~~modeMask) ||| bits.setWidth 32 := by
  apply BitVec.eq_of_getLsbD_eq
  intro i hi
  simp only [getLsbD_toWord, BitVec.getLsbD_or, BitVec.getLsbD_and, BitVec.getLsbD_not,
    BitVec.getLsbD_setWidth, getLsbD_modeMask, hi]
  by_cases h : i < 5
  · simp [h]
  · simp [h, BitVec.getLsbD_of_ge bits i (by omega)]

/-- The mode bits of a status word are those of the status. -/
theorem toWord_and_modeMask (p : Psr) : p.toWord &&& modeMask = p.modeBits.setWidth 32 := by
  apply BitVec.eq_of_getLsbD_eq
  intro i hi
  simp only [getLsbD_toWord, BitVec.getLsbD_and, BitVec.getLsbD_setWidth, getLsbD_modeMask, hi]
  by_cases h : i < 5
  · simp [h]
  · simp [h, BitVec.getLsbD_of_ge p.modeBits i (by omega)]

/-- Merging flags replaces the bits of a status word that the mask selects, mode bits excepted. -/
theorem toWord_merge (p mask values : Psr) :
    ({ p.toFlags.merge mask.toFlags values.toFlags with modeBits := p.modeBits } : Psr).toWord
      = (p.toWord &&& ~~~(mask.toWord &&& ~~~modeMask))
        ||| (values.toWord &&& (mask.toWord &&& ~~~modeMask)) := by
  apply BitVec.eq_of_getLsbD_eq
  intro i hi
  have select (m v o : Bool) : (if m then v else o) = (o && !m || v && m) := by
    cases m <;> cases v <;> cases o <;> rfl
  simp only [getLsbD_toWord, BitVec.getLsbD_or, BitVec.getLsbD_and, BitVec.getLsbD_not,
    getLsbD_modeMask, hi, Flags.merge, select]
  by_cases h : i < 5
  · simp [h]
  · simp only [h, if_false, decide_false, Bool.not_false, decide_true, Bool.and_true,
      Bool.true_and]
    split_ifs <;> rfl

end Psr

/-! ## The flat machine -/

/-- An operation on the registers. -/
inductive Registers.Update where
  /-- Writes a register of the current mode. -/
  | write (n : Register) (v : Word)
  /-- Moves the program counter. -/
  | setPc (a : Word)
  /-- Switches the mode. -/
  | switchMode (m : Mode)
  /-- Writes the whole status. -/
  | writeStatus (p : Psr)
  /-- Writes the status saved for the current mode. -/
  | writeSavedStatus (p : Psr)
  /-- Writes the bits of the status that a mask selects. -/
  | mergeFlags (mask values : Psr)
  /-- Writes a register of user mode. -/
  | writeUser (n : Register) (v : Word)
  /-- Writes the stack pointer of a mode. -/
  | setBankedSp (m : Mode) (v : Word)

/-- Every register of the processor once, and the status word. -/
@[ext] structure Flat where
  /-- The content of each cell. -/
  cells : Cell → Word
  /-- The status word, which tells the current mode. -/
  status : Word

namespace Flat

/-- The current mode, if the status word encodes one. -/
def mode? (f : Flat) : Option Mode := Mode.ofCode? (f.status.extractLsb' 0 5)

/-- Replaces the content of one cell. -/
def set (f : Flat) (c : Cell) (v : Word) : Flat := { f with cells := Function.update f.cells c v }

/-- Replaces the content of a cell, if there is one. -/
def set? (f : Flat) (c? : Option Cell) (v : Word) : Flat :=
  match c? with
  | some c => f.set c v
  | none => f

/-- Replaces the bits of the status word that encode the mode. -/
def setMode (f : Flat) (m : Mode) : Flat :=
  { f with status := (f.status &&& ~~~Psr.modeMask) ||| m.code.setWidth 32 }

/-- The operations on the flat machine.  A status that encodes no mode leaves the mode bits, and
the mode bits are not flags. -/
def apply (f : Flat) : Registers.Update → Flat
  | .write n v => f.set? (f.mode?.map fun m => .of m n) v
  | .setPc a => f.set .pc a
  | .switchMode m => f.setMode m
  | .writeStatus p =>
    { f with
      status :=
        if p.mode?.isSome then p.toWord
        else (p.toWord &&& ~~~Psr.modeMask) ||| (f.status &&& Psr.modeMask) }
  | .writeSavedStatus p => f.set? (f.mode?.bind Cell.saved?) p.toWord
  | .mergeFlags mask values =>
    let mask := mask.toWord &&& ~~~Psr.modeMask
    { f with status := (f.status &&& ~~~mask) ||| (values.toWord &&& mask) }
  | .writeUser n v => f.set (.of .user n) v
  | .setBankedSp m v => f.set (.sp m.bank) v

/-- A sequence of operations. -/
def run (f : Flat) (us : List Registers.Update) : Flat := us.foldl apply f

end Flat

namespace Registers

/-- The same operations on a register file. -/
def apply (r : Registers) : Update → Registers
  | .write n v => r.write n v
  | .setPc a => r.setPc a
  | .switchMode m => r.switchMode m
  | .writeStatus p => r.writeStatus p
  | .writeSavedStatus p => r.writeSavedStatus p
  | .mergeFlags mask values => r.mergeFlags mask.toFlags values.toFlags
  | .writeUser n v => r.writeUser n v
  | .setBankedSp m v => r.setBankedSp m v

/-- A sequence of operations. -/
def run (r : Registers) (us : List Update) : Registers := us.foldl apply r

/-- The flat state of a register file. -/
def flat (r : Registers) : Flat := ⟨r.physical, r.status.toWord⟩

variable (r : Registers)

/-- **The status word encodes the current mode.** -/
theorem mode?_flat : r.flat.mode? = some r.mode := by
  change Psr.mode? (Psr.ofWord r.status.toWord) = _
  rw [Psr.ofWord_toWord, mode?_status]

/-! ## One square for each operation -/

/-- A write changes the cell of the current mode. -/
theorem flat_write (n : Register) (v : Word) : (r.write n v).flat = r.flat.set (.of r.mode n) v :=
  Flat.ext (r.physical_write n v) rfl

/-- **A switch of modes changes the mode bits alone**: no cell is moved by copying the banks. -/
theorem flat_switchMode (m : Mode) : (r.switchMode m).flat = r.flat.setMode m := by
  refine Flat.ext (r.physical_switchMode m) ?_
  rw [flat, status, flags_switchMode, mode_switchMode]
  exact Psr.toWord_withModeBits r.status m.code

theorem flat_setPc (a : Word) : (r.setPc a).flat = r.flat.set .pc a := r.flat_write .pc a

/-- A write as user mode sees the registers changes the cell of user mode. -/
theorem flat_writeUser (n : Register) (v : Word) :
    (r.writeUser n v).flat = r.flat.set (.of .user n) v := by
  refine Flat.ext (r.physical_writeUser n v) ?_
  rw [flat, flat, Flat.set, status, status, mode_writeUser, flags_writeUser]

/-- The stack pointer of any mode has a cell, active or not. -/
theorem flat_setBankedSp (m : Mode) (v : Word) :
    (r.setBankedSp m v).flat = r.flat.set (.sp m.bank) v := by
  refine Flat.ext (r.physical_setBankedSp m v) ?_
  unfold setBankedSp
  split <;> rfl

/-- The saved status of a mode that saves one has a cell. -/
theorem flat_writeSavedStatus (p : Psr) :
    (r.writeSavedStatus p).flat = r.flat.set? (Cell.saved? r.mode) p.toWord := by
  have hs : (r.writeSavedStatus p).status = r.status := by simp [status]
  have hc := r.physical_writeSavedStatus p
  cases h : Cell.saved? r.mode with
  | none =>
    rw [h] at hc
    exact Flat.ext hc (congrArg Psr.toWord hs)
  | some c =>
    rw [h] at hc
    exact Flat.ext hc (congrArg Psr.toWord hs)

/-- Merged flags change the status word under the mask, mode bits excepted. -/
theorem flat_mergeFlags (mask values : Psr) : (r.mergeFlags mask.toFlags values.toFlags).flat
    = r.flat.apply (.mergeFlags mask values) :=
  Flat.ext rfl (Psr.toWord_merge r.status mask values)

/-- A status that encodes a mode is taken whole; of any other one the mode bits are not. -/
theorem status_writeStatus (p : Psr) : (r.writeStatus p).status
    = if p.mode?.isSome then p else { p with modeBits := r.mode.code } := by
  unfold writeStatus
  cases h : p.mode? with
  | none => rfl
  | some m =>
    have hm : m.code = p.modeBits := Mode.code_of_ofCode? h
    simp [status, setFlags, hm]

/-- A new status switches to its mode, if it encodes one, and takes its flags. -/
theorem flat_writeStatus (p : Psr) : (r.writeStatus p).flat = r.flat.apply (.writeStatus p) := by
  refine Flat.ext (r.physical_writeStatus p) ?_
  rw [flat, status_writeStatus]
  by_cases h : p.mode?.isSome = true
  · simp only [Flat.apply, h, if_true]
  · simp only [Flat.apply, h]
    exact (Psr.toWord_withModeBits p r.mode.code).trans
      (congrArg (_ ||| ·) (Psr.toWord_and_modeMask r.status).symm)

/-! ## Every sequence of operations -/

/-- **Each operation of the register file is that of the flat machine.** -/
theorem flat_apply (u : Update) : (r.apply u).flat = r.flat.apply u := by
  cases u with
  | write n v =>
    rw [Flat.apply, mode?_flat]
    exact r.flat_write n v
  | setPc a => exact r.flat_setPc a
  | switchMode m => exact r.flat_switchMode m
  | writeStatus p => exact r.flat_writeStatus p
  | writeSavedStatus p =>
    rw [Flat.apply, mode?_flat]
    exact r.flat_writeSavedStatus p
  | mergeFlags mask values => exact r.flat_mergeFlags mask values
  | writeUser n v => exact r.flat_writeUser n v
  | setBankedSp m v => exact r.flat_setBankedSp m v

/-- **A run of the register file is the run of the flat machine.** -/
theorem flat_run (us : List Update) : (r.run us).flat = r.flat.run us := by
  induction us generalizing r with
  | nil => rfl
  | cons u us ih =>
    change ((r.apply u).run us).flat = (r.flat.apply u).run us
    rw [ih, flat_apply]

/-- Building a register file from parts keeps the status that it is given. -/
theorem status_ofParts? {visible : Vector Word 16} {p : Psr} {banks : Vector Bank 6}
    (h : ofParts? visible p banks = some r) : r.status = p := by
  obtain ⟨m, hm, rfl⟩ := Option.map_eq_some_iff.mp h
  rw [status, Mode.code_of_ofCode? hm]

/-- **A register file refines a set of cells and a status word.**  Whatever register file it starts
from and whatever is done to it, its flat state is that of the flat machine after the same
operations; the status word encodes the mode; a switch of modes replaces the mode bits alone, and
every write one cell alone, that of the current mode, of user mode or of the mode named, where the
saved status has no cell in a mode that saves none; and what can be read are those cells. -/
theorem run_refines_flat (us : List Update) :
    let s := r.run us
    s.flat = r.flat.run us
    ∧ (∀ visible p banks, ofParts? visible p banks = some r → r.flat.status = p.toWord)
    ∧ s.flat.mode? = some s.mode
    ∧ (∀ m, (s.switchMode m).flat = s.flat.setMode m)
    ∧ (∀ n v, (s.write n v).flat = s.flat.set (.of s.mode n) v)
    ∧ (∀ n v, (s.writeUser n v).flat = s.flat.set (.of .user n) v)
    ∧ (∀ m v, (s.setBankedSp m v).flat = s.flat.set (.of m .sp) v)
    ∧ (∀ p, (s.writeSavedStatus p).flat = s.flat.set? (Cell.saved? s.mode) p.toWord)
    ∧ (∀ n, s.read n = s.flat.cells (.of s.mode n))
    ∧ (∀ n, s.readUser n = s.flat.cells (.of .user n))
    ∧ s.savedStatus.toWord = ((Cell.saved? s.mode).map s.flat.cells).getD s.flat.status := by
  intro s
  refine ⟨r.flat_run us, fun _ _ _ h => ?_, s.mode?_flat, s.flat_switchMode, s.flat_write,
    s.flat_writeUser, s.flat_setBankedSp, s.flat_writeSavedStatus, s.read_eq_physical,
    s.readUser_eq_physical, ?_⟩
  · exact congrArg Psr.toWord (r.status_ofParts? h)
  · rw [savedStatus_eq_physical]
    cases Cell.saved? s.mode <;> rfl

end Registers

end Handheld

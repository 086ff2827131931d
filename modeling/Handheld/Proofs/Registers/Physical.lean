import Mathlib.Tactic.SplitIfs
import Handheld.Proofs.Registers.Cell

/-!
# Proofs/Registers/Physical — what a register file holds in each cell

The current mode's cells are in the visible registers and all others in the banks
(`Registers.physical`).  Each operation on a register file replaces one cell or none, and switching
the mode replaces none (`physical_switchMode`): it only moves contents between the visible registers
and the banks.
-/

namespace Handheld

/-- A status word has no bits but those that there are. -/
theorem Psr.toWord_and_present (p : Psr) : p.toWord &&& present = p.toWord := by
  rw [← toWord_ofWord, ofWord_toWord]

namespace Registers

/-- The content of a cell: the visible one if the current mode sees the cell, and else the one in
the banks. -/
def physical (r : Registers) (c : Cell) : Word :=
  match c.number? r.mode with
  | some n => r.read n
  | none => c.stored r.banks

variable (r : Registers)

/-- What is visible in the current mode is read off the visible registers. -/
theorem physical_of_number? {c : Cell} {n : Register} (h : c.number? r.mode = some n) :
    r.physical c = r.read n := by
  rw [physical, h]

/-- What is hidden in the current mode is read off the banks. -/
theorem physical_of_hidden {c : Cell} (h : c.number? r.mode = none) :
    r.physical c = c.stored r.banks := by
  rw [physical, h]

/-- A register reads as the cell that the current mode sees under its number. -/
theorem read_eq_physical (n : Register) : r.read n = r.physical (.of r.mode n) :=
  (r.physical_of_number? (Cell.number?_of r.mode n)).symm

/-! ## The content of each kind of cell -/

/-- The five registers of a bank are r8–r12. -/
theorem get_high (i : Fin 5) : r.high.get i = r.read ⟨8 + i.val, Register.eight_add_lt i⟩ := by
  change (Vector.ofFn _)[i.val] = _
  rw [Vector.getElem_ofFn]
  rfl

/-- The stack pointer of a bank is the visible one if the bank is that of the current mode. -/
theorem physical_sp (b : Fin 6) :
    r.physical (.sp b) = if b = r.mode.bank then r.read .sp else (r.banks.get b).sp := by
  by_cases h : b = r.mode.bank
  · rw [if_pos h, r.physical_of_number? (by rw [Cell.number?, if_pos h])]
  · rw [if_neg h, r.physical_of_hidden (by rw [Cell.number?, if_neg h])]
    rfl

/-- The link register of a bank is the visible one if the bank is that of the current mode. -/
theorem physical_link (b : Fin 6) :
    r.physical (.link b) = if b = r.mode.bank then r.read .link else (r.banks.get b).link := by
  by_cases h : b = r.mode.bank
  · rw [if_pos h, r.physical_of_number? (by rw [Cell.number?, if_pos h])]
  · rw [if_neg h, r.physical_of_hidden (by rw [Cell.number?, if_neg h])]
    rfl

/-- There are two sets of r8–r12, and fast interrupts see the one, every other mode the other. -/
theorem physical_high (fast : Bool) (i : Fin 5) : r.physical (.high fast i)
    = if fast = decide (r.mode = .fastInterrupt) then r.high.get i
      else (r.banks.get (if fast then Mode.fastInterrupt.bank else Mode.user.bank)).high.get i := by
  by_cases h : fast = decide (r.mode = .fastInterrupt)
  · rw [if_pos h, r.physical_of_number? (by rw [Cell.number?, if_pos h]), get_high]
  · rw [if_neg h, r.physical_of_hidden (by rw [Cell.number?, if_neg h])]
    rfl

/-! ## Writing a visible register -/

@[simp] theorem banks_write (n : Register) (v : Word) : (r.write n v).banks = r.banks := rfl

/-- The later of two writes to a register counts. -/
theorem write_write (n : Register) (v w : Word) : (r.write n v).write n w = r.write n w := by
  simp only [write, Vector.set_set]

/-- Writes to two registers can change places. -/
theorem write_comm {n k : Register} (h : n ≠ k) (v w : Word) :
    (r.write n v).write k w = (r.write k w).write n v := by
  simp only [write]
  rw [Vector.set_comm _ _ (fun e => h (Fin.ext e))]

/-- **Writing a register replaces the cell that the current mode sees**, and no other. -/
theorem physical_write (n : Register) (v : Word) :
    (r.write n v).physical = Function.update r.physical (.of r.mode n) v := by
  funext c
  cases h : c.number? r.mode with
  | some k =>
    obtain rfl := Cell.number?_eq_some_iff.mp h
    rw [physical_of_number? _ (by exact h), read_write]
    by_cases hk : n = k
    · rw [if_pos hk, hk, Function.update_self]
    · rw [if_neg hk, Function.update_of_ne fun e => hk (Cell.of_injective _ e).symm,
        physical_of_number? _ h]
  | none =>
    have hne : c ≠ .of r.mode n := fun e => by simp [e, Cell.number?_of] at h
    rw [Function.update_of_ne hne, physical_of_hidden _ h, physical_of_hidden _ (by exact h),
      banks_write]

/-- Moving the program counter changes one cell. -/
theorem physical_setPc (a : Word) : (r.setPc a).physical = Function.update r.physical .pc a :=
  r.physical_write .pc a

theorem physical_setFlags (f : Flags) : (r.setFlags f).physical = r.physical := rfl

/-! ## Writing into the banks -/

@[simp] theorem mode_mapBank (b : Fin 6) (f : Bank → Bank) : (r.mapBank b f).mode = r.mode := rfl

@[simp] theorem read_mapBank (b : Fin 6) (f : Bank → Bank) (n : Register) :
    (r.mapBank b f).read n = r.read n := rfl

@[simp] theorem high_mapBank (b : Fin 6) (f : Bank → Bank) : (r.mapBank b f).high = r.high := rfl

/-- A change to one bank leaves the others. -/
theorem get_mapBank (i j : Fin 6) (f : Bank → Bank) :
    (r.mapBank i f).banks.get j = if i = j then f (r.banks.get i) else r.banks.get j :=
  Cell.get_set r.banks i j _

/-- **Replacing a hidden cell in its bank replaces that cell**, and no other. -/
theorem physical_mapBank {c : Cell} {b : Fin 6} (hidden : c.number? r.mode = none)
    (hb : c.bank? = some b) (v : Word) (hv : c.part (c.replace v (r.banks.get b)) = v) :
    (r.mapBank b fun x => c.replace v x).physical = Function.update r.physical c v := by
  have hs := Cell.stored_set_replace r.banks hb v hv
  funext d
  cases hd : d.number? r.mode with
  | some n =>
    have hne : d ≠ c := fun e => by simp [e, hidden] at hd
    rw [Function.update_of_ne hne, physical_of_number? _ hd, physical_of_number? _ (by exact hd),
      read_mapBank]
  | none =>
    rw [physical_of_hidden _ (by exact hd)]
    change Cell.stored (r.banks.set b (c.replace v (r.banks.get b)) b.isLt) d = _
    rw [hs]
    by_cases e : d = c
    · rw [e, Function.update_self, Function.update_self]
    · rw [Function.update_of_ne e, Function.update_of_ne e, physical_of_hidden _ hd]

/-- **Setting a stack pointer replaces the stack pointer of that mode's bank**, active or not. -/
theorem physical_setBankedSp (m : Mode) (v : Word) :
    (r.setBankedSp m v).physical = Function.update r.physical (.sp m.bank) v := by
  unfold setBankedSp
  split
  · next h => rw [physical_write, h]; rfl
  · next h => exact r.physical_mapBank (c := .sp m.bank) (by simp [Cell.number?, h]) rfl v rfl

/-! ## The user's view -/

/-- **The user's view of a register is the cell that user mode sees** under its number. -/
theorem readUser_eq_physical (n : Register) : r.readUser n = r.physical (.of .user n) := by
  unfold readUser
  split
  · next h =>
    obtain ⟨hb, rfl⟩ := h
    rw [physical_of_hidden _ (Cell.number?_sp_of_ne hb)]
    rfl
  · next hsp =>
    split
    · next h =>
      obtain ⟨hb, rfl⟩ := h
      rw [physical_of_hidden _ (Cell.number?_link_of_ne hb)]
      rfl
    · next hlink =>
      split
      · next h =>
        obtain ⟨hm, hn⟩ := h
        rw [physical_of_hidden _ (by rw [hm, Cell.number?_high_user hn]), Cell.of_high _ hn]
        rfl
      · next hhigh =>
        rw [read_eq_physical, Cell.of_user_of_shared hsp hlink hhigh]

/-- **Writing a register as user mode sees it replaces the cell that user mode sees.** -/
theorem physical_writeUser (n : Register) (v : Word) :
    (r.writeUser n v).physical = Function.update r.physical (.of .user n) v := by
  unfold writeUser
  split
  · next h =>
    obtain ⟨hb, rfl⟩ := h
    exact r.physical_mapBank (Cell.number?_sp_of_ne hb) rfl v rfl
  · next hsp =>
    split
    · next h =>
      obtain ⟨hb, rfl⟩ := h
      exact r.physical_mapBank (Cell.number?_link_of_ne hb) rfl v rfl
    · next hlink =>
      split
      · next h =>
        obtain ⟨hm, hn⟩ := h
        have hidden : (Cell.of .user n).number? r.mode = none := by
          rw [hm, Cell.number?_high_user hn]
        rw [Cell.of_high _ hn] at hidden ⊢
        exact r.physical_mapBank hidden rfl v
          (by rw [Cell.part, Cell.replace, Cell.get_set, if_pos rfl])
      · next hhigh =>
        rw [physical_write, Cell.of_user_of_shared hsp hlink hhigh]

@[simp] theorem mode_writeUser (n : Register) (v : Word) : (r.writeUser n v).mode = r.mode := by
  unfold writeUser
  split_ifs <;> rfl

@[simp] theorem flags_writeUser (n : Register) (v : Word) :
    (r.writeUser n v).flags = r.flags := by
  unfold writeUser
  split_ifs <;> rfl

/-! ## The saved status -/

/-- The saved status reads as its cell, and as the current status in a mode that saves none. -/
theorem savedStatus_eq_physical : r.savedStatus.toWord = match Cell.saved? r.mode with
    | some c => r.physical c
    | none => r.status.toWord := by
  unfold savedStatus Cell.saved?
  by_cases h : r.mode.savesStatus = true
  · rw [if_pos h, dif_pos h, Psr.toWord_ofWord]
    rfl
  · rw [if_neg h, dif_neg h]

/-- **Writing the saved status replaces its cell**, and nothing in a mode that saves none. -/
theorem physical_writeSavedStatus (p : Psr) :
    (r.writeSavedStatus p).physical = match Cell.saved? r.mode with
      | some c => Function.update r.physical c p.toWord
      | none => r.physical := by
  unfold writeSavedStatus Cell.saved?
  by_cases h : r.mode.savesStatus = true
  · rw [if_pos h, dif_pos h]
    exact r.physical_mapBank (c := .saved ⟨r.mode, h⟩) rfl rfl p.toWord p.toWord_and_present
  · rw [if_neg h, dif_neg h]

@[simp] theorem mode_writeSavedStatus (p : Psr) : (r.writeSavedStatus p).mode = r.mode := by
  unfold writeSavedStatus
  split <;> rfl

@[simp] theorem flags_writeSavedStatus (p : Psr) : (r.writeSavedStatus p).flags = r.flags := by
  unfold writeSavedStatus
  split <;> rfl

/-! ## Switching the mode -/

/-- Replacing r8–r12 leaves the other registers. -/
theorem read_setHigh (values : Vector Word 5) (n : Register) :
    (r.setHigh values).read n
      = if h : 8 ≤ n.val ∧ n.val < 13 then values.get ⟨n.val - 8, Register.sub_eight_lt h⟩
        else r.read n := by
  simp [setHigh, read]
  rfl

@[simp] theorem flags_setHigh (values : Vector Word 5) : (r.setHigh values).flags = r.flags := by
  rw [setHigh]

@[simp] theorem banks_setHigh (values : Vector Word 5) : (r.setHigh values).banks = r.banks := by
  rw [setHigh]

/-- Storing the outgoing registers changes none of the visible ones. -/
@[simp] theorem visible_stash (next : Mode) : (r.stash next).visible = r.visible := by
  unfold stash
  dsimp only
  split
  · rfl
  · split <;> rfl

@[simp] theorem flags_stash (next : Mode) : (r.stash next).flags = r.flags := by
  unfold stash
  dsimp only
  split
  · rfl
  · split <;> rfl

@[simp] theorem flags_fetch (old next : Mode) : (r.fetch old next).flags = r.flags := by
  unfold fetch
  dsimp only
  split
  · rw [flags_setHigh]
    rfl
  · split
    · rw [flags_setHigh]
      rfl
    · rfl

@[simp] theorem banks_fetch (old next : Mode) : (r.fetch old next).banks = r.banks := by
  unfold fetch
  dsimp only
  split
  · rw [banks_setHigh]
    rfl
  · split
    · rw [banks_setHigh]
      rfl
    · rfl

/-- The bank of the outgoing mode gets its stack pointer. -/
theorem sp_stash (next : Mode) (b : Fin 6) : ((r.stash next).banks.get b).sp
    = if b = r.mode.bank then r.read .sp else (r.banks.get b).sp := by
  unfold stash
  dsimp only
  grind [get_mapBank]

/-- The bank of the outgoing mode gets its link register. -/
theorem link_stash (next : Mode) (b : Fin 6) : ((r.stash next).banks.get b).link
    = if b = r.mode.bank then r.read .link else (r.banks.get b).link := by
  unfold stash
  dsimp only
  grind [get_mapBank]

/-- Storing the outgoing registers overwrites no saved status. -/
theorem savedStatus_stash (next : Mode) (b : Fin 6) :
    ((r.stash next).banks.get b).savedStatus = (r.banks.get b).savedStatus := by
  unfold stash
  dsimp only
  grind [get_mapBank]

/-- Stashing puts r8–r12 into the bank of fast interrupts if these end, and into that of user mode
if these begin. -/
theorem high_stash (next : Mode) (b : Fin 6) : ((r.stash next).banks.get b).high
    = if r.mode = .fastInterrupt ∧ b = Mode.fastInterrupt.bank
        ∨ r.mode ≠ .fastInterrupt ∧ next = .fastInterrupt ∧ b = Mode.user.bank then r.high
      else (r.banks.get b).high := by
  unfold stash
  dsimp only [mode_mapBank, high_mapBank]
  grind [get_mapBank]

/-- Fetching writes two registers, and r8–r12 where fast interrupts are entered or left. -/
theorem fetch_eq (old next : Mode) : r.fetch old next
    = let r' := (r.write .sp (r.banks.get next.bank).sp).write .link (r.banks.get next.bank).link
      if next = .fastInterrupt then r'.setHigh (r.banks.get Mode.fastInterrupt.bank).high
      else if old = .fastInterrupt then r'.setHigh (r.banks.get Mode.user.bank).high
      else r' :=
  rfl

/-- What is read after fetching comes from the bank of the new mode, from the set of r8–r12 that it
sees, or is as before. -/
theorem read_fetch (old next : Mode) (n : Register) : (r.fetch old next).read n
    = if n = .sp then (r.banks.get next.bank).sp
      else if n = .link then (r.banks.get next.bank).link
      else if h : 8 ≤ n.val ∧ n.val < 13 then
        if next = .fastInterrupt then
          (r.banks.get Mode.fastInterrupt.bank).high.get ⟨n.val - 8, Register.sub_eight_lt h⟩
        else if old = .fastInterrupt then
          (r.banks.get Mode.user.bank).high.get ⟨n.val - 8, Register.sub_eight_lt h⟩
        else r.read n
      else r.read n := by
  rw [fetch_eq]
  dsimp only
  grind [read_setHigh, read_write]

@[simp] theorem read_stash (next : Mode) (n : Register) : (r.stash next).read n = r.read n := by
  rw [read, visible_stash, read]

/-- After stashing, the banks hold every cell that the mode to come hides. -/
theorem stored_stash {next : Mode} (hne : next ≠ r.mode) {c : Cell}
    (hidden : c.number? next = none) : c.stored (r.stash next).banks = r.physical c := by
  cases c with
  | low i => cases hidden
  | pc => cases hidden
  | saved m => exact congrArg (· &&& Psr.present) (r.savedStatus_stash next m.val.bank)
  | sp b => rw [physical_sp, ← sp_stash r next]; rfl
  | link b => rw [physical_link, ← link_stash r next]; rfl
  | high fast i =>
    change ((r.stash next).banks.get
      (if fast then Mode.fastInterrupt.bank else Mode.user.bank)).high.get i = _
    rw [high_stash, physical_high]
    cases fast with
    | true =>
      have hn : next ≠ .fastInterrupt := by simpa [Cell.number?] using hidden
      by_cases hm : r.mode = .fastInterrupt <;> simp [hm, hn]
    | false =>
      have hn : next = .fastInterrupt := by simpa [Cell.number?] using hidden
      have hm : r.mode ≠ .fastInterrupt := fun h => hne (hn.trans h.symm)
      simp [hm, hn]

/-- Fetching makes every cell visible that the mode to come sees. -/
theorem read_fetch_stash {next : Mode} (hne : next ≠ r.mode) (n : Register) :
    ((r.stash next).fetch r.mode next).read n = r.physical (.of next n) := by
  rw [read_fetch]
  by_cases hsp : n = .sp
  · rw [if_pos hsp, hsp, sp_stash, Cell.of_sp, physical_sp]
  rw [if_neg hsp]
  by_cases hlink : n = .link
  · rw [if_pos hlink, hlink, link_stash, Cell.of_link, physical_link]
  rw [if_neg hlink]
  by_cases hhigh : 8 ≤ n.val ∧ n.val < 13
  · rw [dif_pos hhigh, Cell.of_high _ hhigh, physical_high]
    by_cases hn : next = .fastInterrupt
    · have hm : r.mode ≠ .fastInterrupt := fun h => hne (hn.trans h.symm)
      rw [if_pos hn, high_stash, if_neg (by simp [hm, Mode.bank])]
      simp [hn, hm]
    · rw [if_neg hn]
      by_cases hm : r.mode = .fastInterrupt
      · rw [if_pos hm, high_stash, if_neg (by simp [hm, Mode.bank])]
        simp [hn, hm]
      · rw [if_neg hm, if_pos (by simp [hn, hm]), get_high, read_stash]
        congr 1
        exact Fin.ext (by simp; omega)
  · rw [dif_neg hhigh, read_stash, read_eq_physical]
    exact congrArg r.physical (Cell.of_eq_of (absurd · hsp) (absurd · hlink) (absurd · hhigh))

/-- After a switch the new mode is the current one, also if it was before. -/
@[simp] theorem mode_switchMode (next : Mode) : (r.switchMode next).mode = next := by
  unfold switchMode
  split
  · next h => exact h.symm
  · rfl

/-- A switch of modes keeps the flags. -/
@[simp] theorem flags_switchMode (next : Mode) : (r.switchMode next).flags = r.flags := by
  unfold switchMode
  split
  · rfl
  · exact (flags_fetch _ _ _).trans (flags_stash _ _)

/-- **Switching the mode replaces no cell.** -/
theorem physical_switchMode (next : Mode) : (r.switchMode next).physical = r.physical := by
  by_cases hne : next = r.mode
  · rw [switchMode, if_pos hne]
  rw [switchMode, if_neg hne]
  funext c
  cases h : c.number? next with
  | some n =>
    rw [physical_of_number? _ (by exact h), Cell.number?_eq_some_iff.mp h]
    exact r.read_fetch_stash hne n
  | none =>
    rw [physical_of_hidden _ (by exact h), ← r.stored_stash hne h]
    exact congrArg (c.stored ·) (banks_fetch _ _ _)

/-- Writing the status replaces no cell either. -/
theorem physical_writeStatus (p : Psr) : (r.writeStatus p).physical = r.physical := by
  unfold writeStatus
  rw [physical_setFlags]
  split
  · exact r.physical_switchMode _
  · rfl

end Registers

end Handheld

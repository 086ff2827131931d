import Handheld.Proofs.Execution.Arithmetic
import Handheld.Proofs.Execution.Footprint
import Handheld.Proofs.Memory.Words

/-!
# Proofs/Execution/Block — what a block transfer asks of the memory and does to the registers

A block of `n` words starts at the lowest address that the addressing gives (`Addressing.lowest`),
and its words are asked for in ascending order, one for each listed register.  A load writes its
words to the cells that the mode of before sees, or user mode: a return from an exception switches
the mode only before the program counter, which comes last and which every mode sees.  So all that
the registers end up with can be said of cells (`Registers.LoadsBlock`), whatever modes meet.
-/

namespace Handheld

/-! ## Addresses and values -/

namespace Addressing

/-- The lowest address of a block of `n` words, from its base. -/
def lowest (mode : Addressing) (base : Word) (n : Nat) : Word :=
  match mode.up, mode.early with
  | true, false => base
  | true, true => base + 4
  | false, false => base - BitVec.ofNat 32 (4 * n) + 4
  | false, true => base - BitVec.ofNat 32 (4 * n)

/-- The base moved over a block of `n` words. -/
def moved (mode : Addressing) (base : Word) (n : Nat) : Word :=
  if mode.up then base + BitVec.ofNat 32 (4 * n) else base - BitVec.ofNat 32 (4 * n)

/-- The addresses of a block of `n` words, the lowest first. -/
def words (mode : Addressing) (base : Word) (n : Nat) : List Word :=
  (mode.lowest base n).wordsFrom n

/-- A register list takes one word each. -/
theorem length_words (mode : Addressing) (base : Word) (n : Nat) :
    (mode.words base n).length = n := Word.length_wordsFrom _ n

end Addressing

/-- No register is listed twice. -/
theorem nodup_listed (list : Half) : (listed list).Nodup := (List.nodup_finRange 16).filter _

namespace Registers

/-- The mode whose registers a block transfer uses. -/
def blockMode (r : Registers) (user : Bool) : Mode := if user then .user else r.mode

/-- What a block store finds in a register; the program counter reads two instructions and four
bytes ahead. -/
def blockWord (r : Registers) (user : Bool) (n : Register) : Word :=
  if n = .pc then r.pc + (if r.flags.thumb then 8 else 12)
  else r.physical (.of (r.blockMode user) n)

/-- The registers of a mode hold some words, the first register the first word.  The program counter
is aligned to the instructions in force. -/
structure Holds (r : Registers) (m : Mode) (list : List Register) (values : List Word) : Prop where
  /-- A register holds its word. -/
  physical : ∀ p ∈ list.zip values, p.1 ≠ .pc → r.physical (.of m p.1) = p.2
  /-- The program counter holds its word but for the low bits. -/
  pc : ∀ v, (Register.pc, v) ∈ list.zip values →
    r.pc = if r.flags.thumb then v.alignHalf else v.alignWord

/-- What registers have become by a load of a list, given the words loaded, the first for the lowest
register.  With the user mark a list without the program counter names registers of user mode, and
one with it returns from an exception. -/
structure LoadsBlock (r' r : Registers) (mode : Addressing) (list : Half) (user : Bool)
    (values : List Word) : Prop
    extends Holds r' (r.blockMode (user && !list.getLsbD 15)) (listed list) values where
  /-- The base is moved, unless it was loaded. -/
  base : mode.writeBack = true →
    (∀ n ∈ listed list,
      Cell.of r.mode mode.base ≠ .of (r.blockMode (user && !list.getLsbD 15)) n) →
    r'.physical (.of r.mode mode.base) = mode.moved (r.read mode.base) (listed list).length
  /-- Every other register is as it was, whichever modes see it. -/
  others : ∀ x, (∀ n ∈ listed list, x ≠ .of (r.blockMode (user && !list.getLsbD 15)) n) →
    (mode.writeBack = true → x ≠ .of r.mode mode.base) → r'.physical x = r.physical x
  /-- A return from an exception restores the saved status, but for mode bits that encode no mode;
  anything else keeps the status. -/
  status : r'.status =
    if user && list.getLsbD 15 then
      if r.savedStatus.mode?.isSome then r.savedStatus
      else { r.savedStatus with modeBits := r.mode.code }
    else r.status

end Registers

namespace Context

variable {M : Type}

/-- The addresses of a register list start at the lowest, whichever way it goes. -/
theorem blockAddresses_eq (c : Context M) {mode : Addressing} (h : mode.base ≠ .pc) (n : Nat) :
    c.blockAddresses mode n
      = (mode.lowest (c.registers.read mode.base) n,
        mode.moved (c.registers.read mode.base) n) := by
  rw [blockAddresses, c.read_of_ne_pc h]
  obtain ⟨base, up, early, writeBack⟩ := mode
  cases up <;> cases early <;> rfl

variable [Memory M]

/-! ## Stores -/

/-- What a block store takes from a register. -/
def transferred (c : Context M) (user : Bool) (n : Register) : Word :=
  if user && n ≠ .pc then c.readUser n else c.stored n

omit [Memory M] in
theorem transferred_start (r : Registers) (m : M) (user : Bool) (n : Register) :
    (start r m).transferred user n = r.blockWord user n := by
  rw [transferred, Registers.blockWord, stored]
  by_cases hn : n = .pc
  · rw [if_neg (by simp [hn]), if_pos hn, if_pos hn]
    change r.pc + (r.flags.instructionSize + r.flags.instructionSize) + 4 = _
    rw [BitVec.add_assoc]
    congr 1
    unfold Flags.instructionSize
    split
    all_goals rfl
  · rw [if_neg hn, if_neg hn]
    cases user with
    | true =>
      rw [if_pos (by simp [hn]), readUser, if_neg hn]
      exact r.readUser_eq_physical n
    | false =>
      rw [if_neg (by simp), read_of_ne_pc _ hn]
      exact r.read_eq_physical n

/-- A block store stores the values of before, each to its address. -/
theorem storeRegisters_eq (c : Context M) (user : Bool) (list : List Register) (a : Word) :
    storeRegisters user list a c = { c with
      memory := Memory.storeWords c.memory
        ((a.wordsFrom list.length).zip (list.map (c.transferred user))) } := by
  induction list generalizing c a with
  | nil => rfl
  | cons n rest ih =>
    rw [storeRegisters, ih, List.length_cons, Word.wordsFrom_succ]
    rfl

/-- A register list is stored as words in ascending order, with the values from before the base was
moved. -/
theorem storeMultiple_eq (c : Context M) {mode : Addressing} (h : mode.base ≠ .pc) (list : Half)
    (user : Bool) : c.storeMultiple mode list user = { c with
      registers :=
        if mode.writeBack then
          c.registers.write mode.base (mode.moved (c.registers.read mode.base) (listed list).length)
        else c.registers
      memory := Memory.storeWords c.memory
        ((mode.words (c.registers.read mode.base) (listed list).length).zip
          ((listed list).map (c.transferred user))) } := by
  rw [storeMultiple, c.blockAddresses_eq h]
  dsimp only
  rw [storeRegisters_eq, write_of_ne_pc _ h]
  cases mode.writeBack
  all_goals rfl

/-! ## Loads -/

/-- Writes a register of the current mode, or of user mode. -/
def writeAs (c : Context M) (user : Bool) (n : Register) (v : Word) : Context M :=
  if user then c.writeUser n v else c.write n v

section

omit [Memory M]

variable (c : Context M) (user : Bool)

theorem memory_writeAs (n : Register) (v : Word) : (c.writeAs user n v).memory = c.memory := by
  cases user
  · exact c.memory_write n v
  · exact c.memory_writeUser n v

/-- A write counts as a jump if it is one. -/
theorem branched_writeAs (n : Register) (v : Word) :
    (c.writeAs user n v).branched = true ↔ c.branched = true ∨ n = .pc := by
  by_cases hn : n = .pc
  · subst hn
    refine iff_of_true ?_ (.inr rfl)
    cases user
    all_goals rfl
  · rw [or_iff_left hn]
    cases user
    · change (c.write n v).branched = true ↔ _
      rw [write_of_ne_pc _ hn]
      rfl
    · change (c.writeUser n v).branched = true ↔ _
      rw [writeUser, if_neg hn]
      rfl

/-- A loaded word changes one cell, that of the current mode or of user mode. -/
theorem steady_writeAs (n : Register) (v : Word) :
    (c.writeAs user n v).Steady [.of (c.registers.blockMode user) n] c := by
  cases user
  · exact steady_write (List.mem_singleton_self _) v
  · exact steady_writeUser (List.mem_singleton_self _) v

/-- A loaded word is found in its cell. -/
theorem physical_writeAs_self {n : Register} (h : n ≠ .pc) (v : Word) :
    (c.writeAs user n v).registers.physical (.of (c.registers.blockMode user) n) = v := by
  cases user
  · change (c.write n v).registers.physical _ = v
    rw [write_of_ne_pc _ h]
    exact (congrFun (c.registers.physical_write n v) _).trans (Function.update_self _ _ _)
  · change (c.writeUser n v).registers.physical _ = v
    rw [writeUser, if_neg h]
    exact (congrFun (c.registers.physical_writeUser n v) _).trans (Function.update_self _ _ _)

end

/-- Loading some registers is loading the first and then the rest, four bytes on. -/
theorem loadRegisters_cons (user restore : Bool) (n : Register) (rest : List Register) (a : Word)
    (c : Context M) : loadRegisters user restore (n :: rest) a c
      = loadRegisters user restore rest (a + 4)
        ((if restore && n = .pc then (c.loadWord a.alignWord).2.restoreStatus
          else (c.loadWord a.alignWord).2).writeAs user n (c.loadWord a.alignWord).1) :=
  rfl

/-- A block load loads the words from the lowest address up. -/
theorem memory_loadRegisters_eq (user restore : Bool) (list : List Register) (a : Word)
    (c : Context M) : (loadRegisters user restore list a c).memory
      = (Memory.loadWords (a.wordsFrom list.length) c.memory).2 := by
  induction list generalizing a c with
  | nil => rfl
  | cons n rest ih =>
    have hr (d : Context M) :
        (if restore && n = .pc then d.restoreStatus else d).memory = d.memory := by
      split
      all_goals rfl
    rw [loadRegisters_cons, ih, memory_writeAs, hr, List.length_cons, Word.wordsFrom_succ]
    rfl

/-- A block load jumps if it loads the program counter. -/
theorem branched_loadRegisters (user restore : Bool) (list : List Register) (a : Word)
    (c : Context M) : (loadRegisters user restore list a c).branched = true
      ↔ c.branched = true ∨ .pc ∈ list := by
  induction list generalizing a c with
  | nil => exact (or_iff_left List.not_mem_nil).symm
  | cons n rest ih =>
    have hr (d : Context M) :
        (if restore && n = .pc then d.restoreStatus else d).branched = d.branched := by
      split
      all_goals rfl
    rw [loadRegisters_cons, ih, branched_writeAs, hr, List.mem_cons, or_assoc,
      eq_comm (a := Register.pc)]
    rfl

/-- Each register of a list without the program counter ends up with its word: what is loaded after
it goes to other cells. -/
theorem physical_loadRegisters {user restore : Bool} {list : List Register} (hpc : .pc ∉ list)
    (hlist : list.Nodup) (a : Word) (c : Context M) :
    ∀ p ∈ list.zip (Memory.loadWords (a.wordsFrom list.length) c.memory).1,
      (loadRegisters user restore list a c).registers.physical
        (.of (c.registers.blockMode user) p.1) = p.2 := by
  induction list generalizing a c with
  | nil => exact nofun
  | cons n rest ih =>
    obtain ⟨hn, hrest⟩ := List.nodup_cons.mp hlist
    have hne : n ≠ .pc := fun e => hpc (e ▸ List.mem_cons_self)
    have hpc' : .pc ∉ rest := fun h => hpc (List.mem_cons_of_mem _ h)
    have hkeep : ¬(restore && decide (n = .pc)) = true := by simp [hne]
    rw [loadRegisters_cons, if_neg hkeep, List.length_cons, Word.wordsFrom_succ]
    intro p hp
    let d : Context M := (c.loadWord a.alignWord).2
    let v : Word := (c.loadWord a.alignWord).1
    have hs : (d.writeAs user n v).Steady [.of (c.registers.blockMode user) n] c :=
      (d.steady_writeAs user n v).trans (steady_of_registers rfl rfl)
    have hmode : (d.writeAs user n v).registers.blockMode user = c.registers.blockMode user := by
      rw [Registers.blockMode, hs.mode, Registers.blockMode]
    -- The first word stays where it is while the others are loaded, and those follow by induction.
    rcases List.mem_cons.mp hp with rfl | hp
    · have hlast : (loadRegisters user restore rest (a + 4) (d.writeAs user n v)).Steady
          (rest.map (.of (c.registers.blockMode user))) (d.writeAs user n v) :=
        steady_loadRegisters (fun k hk => hmode ▸ List.mem_map_of_mem hk) (fun _ => hpc') _
      have hother : Cell.of (c.registers.blockMode user) n
          ∉ rest.map (.of (c.registers.blockMode user)) := by
        intro h
        obtain ⟨k, hk, e⟩ := List.mem_map.mp h
        exact hn (Cell.of_injective _ e ▸ hk)
      exact (hlast.physical _ hother).trans (d.physical_writeAs_self user hne v)
    · rw [← hmode]
      refine ih hpc' hrest (a + 4) (d.writeAs user n v) p ?_
      rw [memory_writeAs]
      exact hp

/-! ## The program counter, which comes last -/

/-- Loading the program counter changes its cell alone, also where it restores a status. -/
theorem within_loadPc (restore : Bool) (a : Word) (c : Context M) :
    (loadRegisters false restore [.pc] a c).Within [.pc] c := by
  have hload : (c.loadWord a.alignWord).2.Steady [.pc] c := steady_of_registers rfl rfl
  have hpc : Cell.pc ∈ [Cell.pc] := List.mem_singleton_self _
  cases restore
  · exact (within_jump hpc _ _).trans hload.toWithin
  · exact (within_jump hpc _ _).trans ((within_restoreStatus _ _).trans hload.toWithin)

/-- Loading the program counter aligns it to the width of instructions, perhaps a restored one. -/
theorem pc_loadPc (restore : Bool) (a : Word) (c : Context M) :
    let d := (loadRegisters false restore [.pc] a c).registers
    let v := (Memory.loadWord c.memory a.alignWord).1
    d.pc = if d.flags.thumb then v.alignHalf else v.alignWord := by
  cases restore
  all_goals exact Registers.read_write_self _ .pc _

/-! ## The whole list -/

/-- Registers other than the program counter each get their word, and keep the status. -/
theorem loadRegisters_withoutPc (user restore : Bool) {list : List Register} (hpc : .pc ∉ list)
    (hlist : list.Nodup) (a : Word) (c : Context M) :
    let d := (loadRegisters user restore list a c).registers
    d.Holds (c.registers.blockMode user) list
        (Memory.loadWords (a.wordsFrom list.length) c.memory).1
      ∧ ∀ x, (∀ n ∈ list, x ≠ .of (c.registers.blockMode user) n) →
        d.physical x = c.registers.physical x := by
  have hs : (loadRegisters user restore list a c).Steady
      (list.map (.of (c.registers.blockMode user))) c :=
    steady_loadRegisters (fun n hn => List.mem_map_of_mem hn) (fun _ => hpc) a
  refine ⟨⟨fun p hp _ => physical_loadRegisters hpc hlist a c p hp,
    fun v hv => (hpc (List.of_mem_zip hv).1).elim⟩, fun x hx => hs.physical x fun h => ?_⟩
  obtain ⟨n, hn, rfl⟩ := List.mem_map.mp h
  exact hx n hn rfl

/-- With the program counter last, the others get their words before it is loaded. -/
theorem loadRegisters_withPc (restore : Bool) {list : List Register} (hpc : .pc ∉ list)
    (hlist : list.Nodup) (a : Word) (c : Context M) :
    let d := (loadRegisters false restore (list ++ [.pc]) a c).registers
    d.Holds c.registers.mode (list ++ [.pc])
        (Memory.loadWords (a.wordsFrom (list ++ [Register.pc]).length) c.memory).1
      ∧ ∀ x, (∀ n ∈ list ++ [.pc], x ≠ .of c.registers.mode n) →
        d.physical x = c.registers.physical x := by
  obtain ⟨hheld, hothers⟩ := loadRegisters_withoutPc false restore hpc hlist a c
  have hmemory := memory_loadRegisters_eq false restore list a c
  have hlength : list.length = (Memory.loadWords (a.wordsFrom list.length) c.memory).1.length := by
    rw [Memory.length_loadWords, Word.length_wordsFrom]
  rw [loadRegisters_append, List.length_append, List.length_singleton, Word.wordsFrom_concat,
    Memory.loadWords_append, ← hmemory]
  generalize a + BitVec.ofNat 32 (4 * list.length) = b
  generalize loadRegisters false restore list a c = d at hheld hothers ⊢
  have hlast := within_loadPc restore b d
  have hkeep (x : Cell) (hx : x ≠ .pc) :
      (loadRegisters false restore [.pc] b d).registers.physical x = d.registers.physical x :=
    hlast.physical x fun h => hx (List.mem_singleton.mp h)
  refine ⟨⟨fun p hp hne => ?_, fun v hv => ?_⟩, fun x hx => ?_⟩
  · rw [List.zip_append hlength] at hp
    rcases List.mem_append.mp hp with hp | hp
    · exact (hkeep _ (Cell.of_eq_pc_iff.not.mpr hne)).trans (hheld.physical p hp hne)
    · exact (hne (congrArg Prod.fst (List.mem_singleton.mp hp))).elim
  · rw [List.zip_append hlength] at hv
    rcases List.mem_append.mp hv with hv | hv
    · exact (hpc (List.of_mem_zip hv).1).elim
    · obtain rfl : v = _ := congrArg Prod.snd (List.mem_singleton.mp hv)
      exact pc_loadPc restore b d
  · have hx' : x ≠ .pc := hx .pc (List.mem_append_right _ (List.mem_singleton_self _))
    exact (hkeep x hx').trans (hothers x fun n hn => hx n (List.mem_append_left _ hn))

/-- A load of a list ends with its registers holding their words, and writes no others.  With the
program counter in the list the user mark does not mean user mode. -/
theorem loadRegisters_listed (list : Half) (user : Bool) (a : Word) (c : Context M) :
    let m := c.registers.blockMode (user && !list.getLsbD 15)
    let d := (loadRegisters (user && !list.getLsbD 15) user (listed list) a c).registers
    d.Holds m (listed list) (Memory.loadWords (a.wordsFrom (listed list).length) c.memory).1
      ∧ ∀ x, (∀ n ∈ listed list, x ≠ .of m n) → d.physical x = c.registers.physical x := by
  have hnodup := nodup_listed list
  cases hpc : list.getLsbD 15 with
  | false =>
    have hnot : .pc ∉ listed list := by
      rw [mem_listed]
      exact fun h => Bool.false_ne_true (hpc.symm.trans h)
    exact loadRegisters_withoutPc _ user hnot hnodup a c
  | true =>
    obtain ⟨xs, hxs, hnot⟩ := listed_eq_append hpc
    rw [hxs] at hnodup ⊢
    rw [Bool.not_true, Bool.and_false]
    exact loadRegisters_withPc user hnot (List.nodup_append.mp hnodup).1 a c

/-- The status after a block load. -/
theorem status_loadMultiple (c : Context M) (mode : Addressing) (list : Half) (user : Bool) :
    (c.loadMultiple mode list user).registers.status =
      if user && list.getLsbD 15 then
        if c.registers.savedStatus.mode?.isSome then c.registers.savedStatus
        else { c.registers.savedStatus with modeBits := c.registers.mode.code }
      else c.registers.status := by
  cases hr : user && list.getLsbD 15 with
  | false => exact (c.steady_loadMultiple mode hr).status
  | true =>
    have h := (c.loadMultiple_stays false mode list user).2
    change if (user && list.getLsbD 15) = true then _ else _ at h
    rw [hr] at h
    exact h

/-- A register list jumps if it has the program counter. -/
theorem branched_loadMultiple (c : Context M) {mode : Addressing} (h : mode.base ≠ .pc)
    (list : Half) (user : Bool) :
    (c.loadMultiple mode list user).branched = (c.branched || list.getLsbD 15) := by
  rw [Bool.eq_iff_iff, Bool.or_eq_true, loadMultiple_eq, branched_loadRegisters, mem_listed,
    write_of_ne_pc _ h]
  cases mode.writeBack
  all_goals rfl

/-- **A block load loads its words and no others**, and its registers end up with them. -/
theorem loadMultiple_spec (c : Context M) {mode : Addressing} (h : mode.base ≠ .pc) (list : Half)
    (user : Bool) :
    let loaded := Memory.loadWords
      (mode.words (c.registers.read mode.base) (listed list).length) c.memory
    (c.loadMultiple mode list user).memory = loaded.2
      ∧ (c.loadMultiple mode list user).registers.LoadsBlock c.registers mode list user
        loaded.1 := by
  intro loaded
  let n := (listed list).length
  have hstays := (c.loadMultiple_stays false mode list user).1
  have hstatus := c.status_loadMultiple mode list user
  have hbase := c.steady_loadBase mode list user (mode.moved (c.registers.read mode.base) n)
  have hmemory := c.memory_moveBase mode mode.writeBack (mode.moved (c.registers.read mode.base) n)
  have hmoved (hw : mode.writeBack = true) :
      (if mode.writeBack then c.write mode.base (mode.moved (c.registers.read mode.base) n)
        else c).registers.physical (.of c.registers.mode mode.base)
        = mode.moved (c.registers.read mode.base) n := by
    rw [if_pos hw]
    exact c.physical_writeAs_self false h _
  rw [loadMultiple_eq, c.blockAddresses_eq h] at hstays hstatus ⊢
  dsimp only at hstays hstatus ⊢
  -- The words are loaded from here on: the base is moved, and still in the mode of before.
  generalize (if mode.writeBack then _ else c : Context M) = d
    at hbase hmemory hmoved hstays hstatus ⊢
  have hmode (b : Bool) : d.registers.blockMode b = c.registers.blockMode b := by
    rw [Registers.blockMode, hbase.mode, Registers.blockMode]
  obtain ⟨hholds, hothers⟩ :=
    loadRegisters_listed list user (mode.lowest (c.registers.read mode.base) n) d
  rw [hmode, hmemory] at hholds
  rw [hmode] at hothers
  refine ⟨?_, hholds, fun hw hx => (hothers _ hx).trans (hmoved hw), fun x hx hw => ?_, hstatus⟩
  · rw [memory_loadRegisters_eq, hmemory]
    rfl
  · refine hstays.physical x fun hmem => ?_
    rcases List.mem_append.mp hmem with hmem | hmem
    · unfold Addressing.cells at hmem
      split at hmem
      · next hwrite => exact hw hwrite (List.mem_singleton.mp hmem)
      · cases hmem
    · obtain ⟨k, hk, e⟩ := List.mem_map.mp hmem
      exact hx k hk e.symm

end Context

/-! ## Every block transfer -/

section Execute

variable {M : Type} [Memory M] (hook? : Option (Hook M)) {i : Instruction} {r : Registers}
  {mode : Addressing} {list : Half} {user : Bool}

/-- A store of a register list is words from the lowest address up, and a move of the base. -/
theorem execute_storeMultiple (holds : i.condition.holds r.flags = true)
    (hi : i.operation = .storeMultiple mode list user) (h : mode.base ≠ .pc) (m : M) :
    execute hook? i r m = ⟨
      if mode.writeBack then
        r.write mode.base (mode.moved (r.read mode.base) (listed list).length)
      else r,
      Memory.storeWords m ((mode.words (r.read mode.base) (listed list).length).zip
        ((listed list).map (r.blockWord user))),
      .ok ⟨(listed list).length + 1, false⟩⟩ := by
  have hv : (Context.start r m).transferred user = r.blockWord user :=
    funext (Context.transferred_start r m user)
  rw [execute_of_operation holds hi nofun, Context.perform, Context.storeMultiple_eq _ h, hv]
  rfl

/-- A load of a register list gives each cell its word, and the memory as the words were loaded from
it. -/
theorem execute_loadMultiple (holds : i.condition.holds r.flags = true)
    (hi : i.operation = .loadMultiple mode list user) (h : mode.base ≠ .pc) (m : M) :
    let after := execute hook? i r m
    let loaded := Memory.loadWords (mode.words (r.read mode.base) (listed list).length) m
    after.registers.LoadsBlock r mode list user loaded.1 ∧ after.memory = loaded.2
      ∧ after.result = .ok ⟨i.operation.cycles, list.getLsbD 15⟩ := by
  intro after loaded
  have he : after = ((Context.start r m).loadMultiple mode list user).retire _ :=
    execute_of_operation holds hi nofun m
  obtain ⟨hmemory, hloads⟩ := (Context.start r m).loadMultiple_spec h list user
  have hbranched := (Context.start r m).branched_loadMultiple h list user
  rw [he, hi]
  exact ⟨hloads, hmemory, congrArg (fun b => Except.ok (Retired.mk _ b)) hbranched⟩

end Execute

/-- **A block transfer touches exactly its words.**  It asks the memory for one word for each listed
register, in ascending order from the lowest address, the lowest register first, and for nothing
else.  A store stores the values of before, then moves the base.  A load leaves the registers as
`Registers.LoadsBlock` says: the listed ones hold the words, the base is moved unless it was loaded,
and a return from an exception writes the registers of the mode of before, none of the mode it
returns to. -/
theorem block_transfer_exact {M : Type} [Memory M] (hook? : Option (Hook M)) (i : Instruction)
    (r : Registers) (m : M) (holds : i.condition.holds r.flags = true) (mode : Addressing)
    (hbase : mode.base ≠ .pc) (list : Half) (user : Bool) :
    let count := (listed list).length
    let addresses := mode.words (r.read mode.base) count
    let after := execute none i r (⟨m, []⟩ : Journal M)
    (i.operation = .storeMultiple mode list user →
      execute hook? i r m = ⟨after.registers, after.memory.memory, after.result⟩
        ∧ after.memory.calls
          = List.zipWith (.store .word) addresses ((listed list).map (r.blockWord user))
        ∧ after.registers =
          (if mode.writeBack then r.write mode.base (mode.moved (r.read mode.base) count) else r)
        ∧ after.result = .ok ⟨count + 1, false⟩)
    ∧ (i.operation = .loadMultiple mode list user →
      execute hook? i r m = ⟨after.registers, after.memory.memory, after.result⟩
        ∧ after.result = .ok ⟨i.operation.cycles, list.getLsbD 15⟩
        ∧ ∃ values : List Word, values.length = count
          ∧ after.memory.calls = List.zipWith (.load .word) addresses values
          ∧ after.registers.LoadsBlock r mode list user values) := by
  intro count addresses after
  have hmemory : execute none i r m = ⟨after.registers, after.memory.memory, after.result⟩ :=
    Journal.execute_journal i r ⟨m, []⟩
  refine ⟨fun hi => ?_, fun hi => ?_⟩
  · have hhook := execute_hooked hook? (r := r) (by rw [hi]; exact nofun) m
    have hafter : after = _ := execute_storeMultiple none holds hi hbase _
    refine ⟨hhook.trans hmemory, ?_, congrArg Outcome.registers hafter,
      congrArg Outcome.result hafter⟩
    rw [congrArg Outcome.memory hafter, Journal.calls_storeWords, List.nil_append,
      List.map_zip_eq_zipWith]
    rfl
  · have hhook := execute_hooked hook? (r := r) (by rw [hi]; exact nofun) m
    obtain ⟨hloads, hcalls, hresult⟩ := execute_loadMultiple none holds hi hbase
      (⟨m, []⟩ : Journal M)
    refine ⟨hhook.trans hmemory, hresult, _, ?_, ?_, hloads⟩
    · rw [Memory.length_loadWords, Addressing.length_words]
    · rw [show after.memory = _ from hcalls, Journal.calls_loadWords]
      rfl

/-- The instruction `LDMIA sp!, {r0, pc}^`, which returns from a handler. -/
def returnFromStack : Instruction := ⟨.al, .loadMultiple ⟨.sp, true, false, true⟩ 0x8001#16 true⟩

/-- Registers at the start of an interrupt handler that interrupts system mode. -/
def handling : Registers := Registers.initial.enterException .interrupt 0x08000008#32

/-- The return moves the stack pointer of the handler's mode, although it leaves that mode, and
keeps that of the mode it returns to. -/
theorem returnFromStack_exact :
    let after := execute none returnFromStack handling (⟨blankBus, []⟩ : Journal Bus)
    after.memory.calls.length = 2 ∧ after.registers.status = Registers.initial.status
      ∧ after.registers.physical (.sp Mode.interrupt.bank) = 8#32
      ∧ after.registers.physical (.sp Mode.system.bank) = Registers.resetSp := by
  intro after
  obtain ⟨-, -, values, hlength, hcalls, hloads⟩ := (block_transfer_exact none returnFromStack
    handling blankBus rfl ⟨.sp, true, false, true⟩ (by decide) 0x8001#16 true).2 rfl
  have hbase := hloads.base rfl (by decide)
  have hothers := hloads.others (.sp Mode.system.bank) (by decide) (by decide)
  have hstatus := hloads.status
  refine ⟨?_, hstatus.trans ?_, hbase.trans ?_, hothers.trans ?_⟩
  · rw [hcalls, List.length_zipWith, Addressing.length_words, hlength]
    decide
  · decide
  · decide
  · decide

end Handheld

import Mathlib.Data.List.Sort
import Handheld.Encoding.Basic
import Handheld.Proofs.Execution.Block
import Handheld.Proofs.Machine.Failure
import Handheld.Proofs.Memory.Flat

/-!
# Proofs/Execution/Spill — what a block store saves, the matching block load restores

A block store and the load that goes back over its words (`Addressing.opposite`) ask for the same
words, so on a memory that repeats nowhere the load finds what was stored.  It does not matter what
has become of the listed registers in between, as long as the base still tells where the words are:
the base comes back by moving it the other way, or by its stored value if it is in the list.
-/

namespace Handheld

/-! ## Going back over a block -/

namespace Addressing

/-- The addressing that goes back over a block. -/
def opposite (mode : Addressing) : Addressing := { mode with up := !mode.up, early := !mode.early }

variable (mode : Addressing) (base : Word) (n : Nat)

/-- The opposite way of addressing moves the base back. -/
theorem moved_opposite : mode.opposite.moved (mode.moved base n) n = base := by
  obtain ⟨b, up, early, writeBack⟩ := mode
  cases up
  · exact BitVec.sub_add_cancel base _
  · exact BitVec.add_sub_cancel base _

/-- The opposite way of addressing starts from the same lowest address. -/
theorem lowest_opposite : mode.opposite.lowest (mode.moved base n) n = mode.lowest base n := by
  obtain ⟨b, up, early, writeBack⟩ := mode
  cases up <;> cases early
  · rfl
  · rfl
  · exact BitVec.add_sub_cancel base _
  · exact congrArg (· + 4) (BitVec.add_sub_cancel base _)

/-- The opposite way of addressing names the same words. -/
theorem words_opposite : mode.opposite.words (mode.moved base n) n = mode.words base n := by
  rw [words, lowest_opposite, words]

end Addressing

namespace Registers

/-- The registers that a block transfer of a list names, the base excepted. -/
def blockCells (r : Registers) (mode : Addressing) (list : Half) (user : Bool) : List Cell :=
  ((listed list).map (.of (r.blockMode user))).filter (· ≠ .of r.mode mode.base)

/-- What a program may make of registers: it changes some of them, and its program counter moves
on, but its status is as it was. -/
structure Clobbered (r' r : Registers) (cells : List Cell) : Prop where
  /-- The mode is as it was. -/
  mode : r'.mode = r.mode
  /-- The flags are as they were. -/
  flags : r'.flags = r.flags
  /-- The other registers are as they were, whichever modes see them. -/
  physical : ∀ x, x ∉ cells → x ≠ .pc → r'.physical x = r.physical x

/-- The mode and the flags of clobbered registers are those from before. -/
theorem Clobbered.status {r' r : Registers} {cells : List Cell} (h : r'.Clobbered r cells) :
    r'.status = r.status := by
  rw [Registers.status, Registers.status, h.mode, h.flags]

/-- A write clobbers its own cell. -/
theorem clobbered_write {r : Registers} {cells : List Cell} {n : Register}
    (h : .of r.mode n ∈ cells) (v : Word) : (r.write n v).Clobbered r cells := by
  refine ⟨rfl, rfl, fun x hx _ => ?_⟩
  have hne : x ≠ .of r.mode n := fun e => hx (e ▸ h)
  rw [physical_write, Function.update_of_ne hne]

end Registers

/-! ## What a load takes back -/

/-- A load of `list'` that goes back over the words of a store of `list` takes back what it loads:
each word goes where it came from, or into the program counter. -/
structure Reloads (mode : Addressing) (list list' : Half) (user : Bool) : Prop where
  /-- The base is a register. -/
  base : mode.base ≠ .pc
  /-- The store moves the base. -/
  writeBack : mode.writeBack = true
  /-- The user mark means the registers of user mode. -/
  plain : (user && !list'.getLsbD 15) = user
  /-- As many words are loaded as were stored. -/
  length : (listed list').length = (listed list).length
  /-- Each register gets the word that it has stored. -/
  words : ∀ n ∈ listed list', n ≠ .pc → ∀ f : Register → Word,
    (n, f n) ∈ (listed list').zip ((listed list).map f)

namespace Reloads

variable {r r' r'' : Registers} {mode : Addressing} {list list' : Half} {user : Bool}
  (hreloads : Reloads mode list list' user)
include hreloads

/-- The base was moved, and what has been done since leaves it. -/
theorem read_base {v : Word}
    (h : r'.Clobbered (r.write mode.base v) (r.blockCells mode list user)) :
    r'.read mode.base = v := by
  have hcell : Cell.of r.mode mode.base ∉ r.blockCells mode list user := fun hmem =>
    absurd rfl (of_decide_eq_true (List.mem_filter.mp hmem).2)
  have hpc : Cell.of r.mode mode.base ≠ .pc := Cell.of_eq_pc_iff.not.mpr hreloads.base
  have hmode : r'.mode = r.mode := h.mode
  rw [r'.read_eq_physical, hmode, h.physical _ hcell hpc, Registers.physical_write,
    Function.update_self]

/-- **A register that is loaded with what it held, or that nothing has changed, is as it was**, and
so is the base, which is moved back. -/
theorem physical
    (h : r'.Clobbered (r.write mode.base (mode.moved (r.read mode.base) (listed list).length))
      (r.blockCells mode list user))
    (hloads : r''.LoadsBlock r' mode.opposite list' user ((listed list).map (r.blockWord user)))
    {x : Cell} (hpc : x ≠ .pc)
    (hx : x ∈ r.blockCells mode list user → ∃ n ∈ listed list', x = .of (r.blockMode user) n) :
    r''.physical x = r.physical x := by
  have hmode : r'.mode = r.mode := h.mode
  have hblock : r'.blockMode (user && !list'.getLsbD 15) = r.blockMode user := by
    rw [hreloads.plain, Registers.blockMode, hmode, Registers.blockMode]
  -- A base that is in the list counts as loaded: its stored value is the one of before the store.
  by_cases hloaded : ∃ n ∈ listed list', x = .of (r.blockMode user) n
  · obtain ⟨n, hn, rfl⟩ := hloaded
    have hne : n ≠ .pc := Cell.of_eq_pc_iff.not.mp hpc
    rw [← hblock, hloads.physical _ (hreloads.words n hn hne _) hne, Registers.blockWord,
      if_neg hne, hblock]
  have hnot : ∀ n ∈ listed list', x ≠ .of (r'.blockMode (user && !list'.getLsbD 15)) n := by
    rw [hblock]
    exact fun n hn e => hloaded ⟨n, hn, e⟩
  have hother : x ∉ r.blockCells mode list user := fun hmem => hloaded (hx hmem)
  by_cases hb : x = .of r'.mode mode.base
  · subst hb
    have hback := hloads.base hreloads.writeBack hnot
    have hread : r'.read mode.opposite.base
        = mode.moved (r.read mode.base) (listed list).length := hreloads.read_base h
    rw [hread, hreloads.length, mode.moved_opposite] at hback
    exact hback.trans ((r.read_eq_physical mode.base).trans (by rw [hmode]))
  · rw [hloads.others x hnot fun _ => hb, h.physical x hother hpc, Registers.physical_write,
      Function.update_of_ne (hmode ▸ hb)]

/-- **The load finds the words that the store has stored**, and restores what it loads. -/
theorem restores {i j : Instruction} (hook? hook?' : Option (Hook (Ram 32))) (m : Ram 32)
    (hi : i.operation = .storeMultiple mode list user)
    (hj : j.operation = .loadMultiple mode.opposite list' user)
    (holds : i.condition.holds r.flags = true) (holds' : j.condition.holds r.flags = true)
    (h : r'.Clobbered (execute hook? i r m).registers (r.blockCells mode list user)) :
    let after := execute hook?' j r' (execute hook? i r m).memory
    after.result = .ok ⟨j.operation.cycles, list'.getLsbD 15⟩
      ∧ after.registers.status = r.status
      ∧ after.registers.LoadsBlock r' mode.opposite list' user
        ((listed list).map (r.blockWord user))
      ∧ ∀ x, x ≠ .pc →
        (x ∈ r.blockCells mode list user → ∃ n ∈ listed list', x = .of (r.blockMode user) n) →
        after.registers.physical x = r.physical x := by
  intro after
  have hstored := execute_storeMultiple hook? holds hi hreloads.base m
  rw [if_pos hreloads.writeBack] at hstored
  have hmemory := congrArg Outcome.memory hstored
  rw [hstored] at h
  have hflags : r'.flags = r.flags := h.flags
  obtain ⟨hloads, -, hresult⟩ := execute_loadMultiple hook?' (hflags ▸ holds') hj hreloads.base
    (execute hook? i r m).memory
  have hread : r'.read mode.opposite.base
      = mode.moved (r.read mode.base) (listed list).length := hreloads.read_base h
  have hfound : (Memory.loadWords (mode.words (r.read mode.base) (listed list).length)
      (execute hook? i r m).memory).1 = (listed list).map (r.blockWord user) := by
    rw [hmemory]
    refine m.loadWords_storeWords ?_ (Word.nodup_wordsFrom _ ?_)
      fun a => Word.alignWord_of_mem_wordsFrom _
    · rw [List.length_map, Addressing.length_words]
    · exact Nat.le_trans (length_listed_le list) (by decide)
  rw [hread, hreloads.length, mode.words_opposite, hfound] at hloads
  have hstatus := hloads.status
  have hkeeps : (user && list'.getLsbD 15) = false := by
    have := hreloads.plain
    cases user
    · rfl
    · exact (Bool.not_eq_true' _).mp this
  rw [hkeeps, if_neg Bool.false_ne_true] at hstatus
  exact ⟨hresult, hstatus.trans h.status, hloads, fun x => hreloads.physical h hloads⟩

end Reloads

/-- Each register of a list is paired with its word. -/
theorem mem_zip_map {list : List Register} {n : Register} (h : n ∈ list) (f : Register → Word) :
    (n, f n) ∈ list.zip (list.map f) := by
  have hzip : list.zip (list.map f) = list.map fun k => (k, f k) := by
    simpa only [List.map_id, id] using List.zip_map' (f := id) (g := f) (l := list)
  rw [hzip]
  exact List.mem_map_of_mem h

/-- A load of the list that was stored takes all of it back. -/
theorem reloads_self {mode : Addressing} {list : Half} (hbase : mode.base ≠ .pc)
    (hwrite : mode.writeBack = true) (hlist : list.getLsbD 15 = false) (user : Bool) :
    Reloads mode list list user :=
  ⟨hbase, hwrite, by rw [hlist, Bool.not_false, Bool.and_true], rfl, fun _ hn _ => mem_zip_map hn⟩

/-! ## Lists -/

/-- A register above all those of a list comes last when it is added. -/
theorem listed_or {list bit : Half} {n : Register}
    (hbit : ∀ k : Register, bit.getLsbD k = true ↔ k = n) (hlist : ∀ k ∈ listed list, k < n) :
    listed (list ||| bit) = listed list ++ [n] := by
  have hsorted (l : Half) : (listed l).Pairwise (· < ·) :=
    (List.sortedLT_finRange 16).pairwise.filter _
  refine (hsorted _).eq_of_mem_iff ?_ fun k => ?_
  · refine List.pairwise_append.mpr ⟨hsorted list, List.pairwise_singleton _ _, fun k hk j hj => ?_⟩
    rw [List.mem_singleton.mp hj]
    exact hlist k hk
  · rw [List.mem_append, List.mem_singleton, mem_listed, mem_listed, BitVec.getLsbD_or,
      Bool.or_eq_true, hbit]

/-- Eight bits list the low registers only. -/
theorem lt_of_mem_listed_setWidth {low : Byte} {k : Register}
    (h : k ∈ listed (low.setWidth 16)) : k.val < 8 := by
  rw [mem_listed, BitVec.getLsbD_setWidth, Bool.and_eq_true] at h
  exact BitVec.lt_of_getLsbD h.2

/-! ## Narrow pushes and pops -/

namespace Narrow

/-- The fields of a halfword of two bytes are those of the bytes. -/
theorem extract_high (high low : Byte) {start width : Nat} (h : 8 ≤ start) :
    (high ++ low : Half).extractLsb' start width = high.extractLsb' (start - 8) width :=
  BitVec.extractLsb'_append_eq_of_le h

theorem extract_low (high low : Byte) : (high ++ low : Half).extractLsb' 0 8 = low := by
  rw [BitVec.extractLsb'_append_eq_of_add_le (by decide)]
  exact BitVec.extractLsb'_eq_self

theorem bit_high (high low : Byte) {i : Nat} (h : 8 ≤ i) :
    bit (high ++ low) i = high.getLsbD (i - 8) := by
  rw [bit, BitVec.getLsbD_append, if_neg (by omega)]

/-- The list that a push with the link register stores. -/
def pushed (low : Byte) : Half := low.setWidth 16 ||| 0x4000#16

/-- The list that a pop with the program counter loads. -/
def popped (low : Byte) : Half := low.setWidth 16 ||| 0x8000#16

/-- A push lists the link register behind the low ones. -/
theorem listed_pushed (low : Byte) :
    listed (pushed low) = listed (low.setWidth 16) ++ [.link] := by
  refine listed_or (by decide) fun k hk => ?_
  have := lt_of_mem_listed_setWidth hk
  rw [Fin.lt_def]
  exact Nat.lt_trans this (by decide)

/-- A pop lists the program counter behind the low ones. -/
theorem listed_popped (low : Byte) :
    listed (popped low) = listed (low.setWidth 16) ++ [.pc] := by
  refine listed_or (by decide) fun k hk => ?_
  have := lt_of_mem_listed_setWidth hk
  rw [Fin.lt_def]
  exact Nat.lt_trans this (by decide)

theorem getLsbD_popped (low : Byte) : (popped low).getLsbD 15 = true := by
  have h : .pc ∈ listed (popped low) :=
    listed_popped low ▸ List.mem_append_right _ (List.mem_singleton_self _)
  exact (mem_listed (popped low) .pc).mp h

/-- A push of low registers and the link register. -/
def push (low : Byte) : Instruction := ⟨.al, .storeMultiple (descending .sp) (pushed low) false⟩

/-- A pop of low registers and the program counter. -/
def pop (low : Byte) : Instruction := ⟨.al, .loadMultiple (ascending .sp) (popped low) false⟩

/-- Two leading bytes stand for a push and a pop with the eight bits of the low registers behind
them. -/
theorem decode?_pushOrPop {high : Byte} (hgroup : high.extractLsb' 5 3 = 0b101#3)
    (hstack : high.getLsbD 4 = true)
    (hkind : high.extractLsb' 0 4 = 0b0101#4 ∨ high.extractLsb' 0 4 = 0b1101#4) (low : Byte) :
    decode? (high ++ low) = some ⟨.al, pushOrPop (high ++ low)⟩ := by
  have hbit : bit (high ++ low) 12 = true := (bit_high high low (by decide)).trans hstack
  rw [decode?, extract_high high low (by decide), hgroup]
  change (stack? (high ++ low)).map (Instruction.mk .al) = _
  rw [stack?, if_pos hbit, extract_high high low (by decide)]
  rcases hkind with hkind | hkind
  all_goals
    rw [hkind]
    rfl

theorem decode?_push (low : Byte) : decode? (0xB5#8 ++ low) = some (push low) := by
  rw [decode?_pushOrPop (by decide) (by decide) (.inl (by decide)), pushOrPop, extract_low,
    bit_high _ _ (by decide), bit_high _ _ (by decide)]
  rfl

theorem decode?_pop (low : Byte) : decode? (0xBD#8 ++ low) = some (pop low) := by
  rw [decode?_pushOrPop (by decide) (by decide) (.inr (by decide)), pushOrPop, extract_low,
    bit_high _ _ (by decide), bit_high _ _ (by decide)]
  rfl

/-- A pop takes back what a push has stored, but for the link register. -/
theorem reloads_popped (low : Byte) :
    Reloads (descending .sp) (pushed low) (popped low) false := by
  refine ⟨by decide, rfl, rfl, ?_, fun n hn hpc f => ?_⟩
  · rw [listed_popped, listed_pushed, List.length_append, List.length_append]
    rfl
  · rw [listed_popped] at hn ⊢
    rw [listed_pushed, List.map_append, List.zip_append (List.length_map f).symm]
    rcases List.mem_append.mp hn with hn | hn
    · exact List.mem_append_left _ (mem_zip_map hn f)
    · exact (hpc (List.mem_singleton.mp hn)).elim

/-- A pop puts the link register's word into the program counter. -/
theorem pc_mem_zip_popped (low : Byte) (f : Register → Word) :
    (Register.pc, f .link) ∈ (listed (popped low)).zip ((listed (pushed low)).map f) := by
  rw [listed_popped, listed_pushed, List.map_append, List.zip_append (List.length_map f).symm]
  exact List.mem_append_right _ (List.mem_singleton_self _)

end Narrow

/-! ## Spilling and reloading -/

/-- **A block store followed by the matching block load restores the registers.**  On a memory that
repeats nowhere, whatever a program has made of the registers of a list, the base excepted, a load
that goes back over the words of a store with write-back gives all registers of all modes back as
they were, and the base too, even if it is in the list.  A narrow push with the link register, and
the pop of the same list with the program counter, give the list and the stack pointer back, and
the program goes on where the link register pointed. -/
theorem reload_restores (hook? hook?' : Option (Hook (Ram 32))) (r : Registers) (m : Ram 32) :
    (∀ (i j : Instruction) (mode : Addressing) (list : Half) (user : Bool),
      i.operation = .storeMultiple mode list user →
      j.operation = .loadMultiple mode.opposite list user →
      i.condition.holds r.flags = true → j.condition.holds r.flags = true →
      mode.base ≠ .pc → mode.writeBack = true → list.getLsbD 15 = false →
      let stored := execute hook? i r m
      stored.result = .ok ⟨i.operation.cycles, false⟩
        ∧ ∀ r' : Registers, r'.Clobbered stored.registers (r.blockCells mode list user) →
          let after := execute hook?' j r' stored.memory
          after.result = .ok ⟨j.operation.cycles, false⟩
            ∧ after.registers.status = r.status ∧ after.registers.pc = r'.pc
            ∧ ∀ x, x ≠ .pc → after.registers.physical x = r.physical x)
    ∧ ∀ low : Byte, r.flags.thumb = true →
      let push := Narrow.push low
      let pop := Narrow.pop low
      let stored := execute hook? push r m
      Narrow.decode? (0xB5#8 ++ low) = some push ∧ Narrow.decode? (0xBD#8 ++ low) = some pop
        ∧ stored.result = .ok ⟨push.operation.cycles, false⟩
        ∧ ∀ r' : Registers, r'.Clobbered stored.registers
            (r.blockCells (Narrow.descending .sp) (Narrow.pushed low) false) →
          let after := execute hook?' pop r' stored.memory
          after.result = .ok ⟨pop.operation.cycles, true⟩
            ∧ after.registers.status = r.status
            ∧ after.registers.pc = (r.read .link).alignHalf
            ∧ ∀ x, x ≠ .pc → x ≠ .of r.mode .link →
              after.registers.physical x = r.physical x := by
  refine ⟨fun i j mode list user hi hj holds holds' hbase hwrite hlist => ?_, fun low hthumb => ?_⟩
  · have hstored := execute_storeMultiple hook? holds hi hbase m
    refine ⟨?_, fun r' h => ?_⟩
    · rw [congrArg Outcome.result hstored, hi]
      rfl
    obtain ⟨hresult, hstatus, hloads, hkept⟩ :=
      (reloads_self hbase hwrite hlist user).restores hook? hook?' m hi hj holds holds' h
    rw [hlist] at hresult
    refine ⟨hresult, hstatus, hloads.others .pc (fun n hn e => ?_) (fun _ e => ?_),
      fun x hx => hkept x hx fun hmem => ?_⟩
    · rw [Cell.of_eq_pc_iff.mp e.symm, mem_listed] at hn
      exact Bool.false_ne_true (hlist.symm.trans hn)
    · exact hbase (Cell.of_eq_pc_iff.mp e.symm)
    · obtain ⟨n, hn, e⟩ := List.mem_map.mp (List.mem_filter.mp hmem).1
      exact ⟨n, hn, e.symm⟩
  · have hstored : execute hook? (Narrow.push low) r m = _ :=
      execute_storeMultiple hook? rfl rfl (by decide) m
    refine ⟨Narrow.decode?_push low, Narrow.decode?_pop low, congrArg Outcome.result hstored,
      fun r' h => ?_⟩
    obtain ⟨hresult, hstatus, hloads, hkept⟩ := (Narrow.reloads_popped low).restores hook? hook?' m
      (show (Narrow.push low).operation = _ from rfl)
      (show (Narrow.pop low).operation = _ from rfl) rfl rfl h
    have hthumb' : (execute hook?' (Narrow.pop low) r'
        (execute hook? (Narrow.push low) r m).memory).registers.flags.thumb = true :=
      (congrArg (fun p : Psr => p.thumb) hstatus).trans hthumb
    have hlink : r.blockWord false .link = r.read .link := (r.read_eq_physical .link).symm
    have hpc := hloads.pc _ (Narrow.pc_mem_zip_popped low _)
    rw [Narrow.getLsbD_popped] at hresult
    rw [if_pos hthumb', hlink] at hpc
    refine ⟨hresult, hstatus, hpc, fun x hx hx' => hkept x hx fun hmem => ?_⟩
    obtain ⟨n, hn, rfl⟩ := List.mem_map.mp (List.mem_filter.mp hmem).1
    rw [Narrow.listed_pushed] at hn
    rcases List.mem_append.mp hn with hn | hn
    · exact ⟨n, Narrow.listed_popped low ▸ List.mem_append_left _ hn, rfl⟩
    · exact (hx' (List.mem_singleton.mp hn ▸ rfl)).elim

/-- The instruction `STMDB sp!, {r0, sp}`. -/
def spillFirst : Instruction := ⟨.al, .storeMultiple ⟨.sp, false, true, true⟩ 0x2001#16 false⟩

/-- The instruction `LDMIA sp!, {r0, sp}`. -/
def reloadFirst : Instruction := ⟨.al, .loadMultiple ⟨.sp, true, false, true⟩ 0x2001#16 false⟩

/-- Registers at the start of a narrow function, with a number in r0. -/
def called : Registers :=
  ((Registers.initial.setFlags { thumb := true }).write .r0 0x12345678#32).write .link 0x08000101#32

/-- Overwritten after it was spilled, r0 has its number back, and so has the stack pointer, which is
in the list; with a push and a pop the function returns. -/
theorem called_restored :
    (let stored := execute none spillFirst called (Ram.zeros 32)
      let after := execute none reloadFirst (stored.registers.write .r0 0#32) stored.memory
      after.registers.physical (.low 0) = 0x12345678#32
        ∧ after.registers.physical (.sp Mode.system.bank) = Registers.resetSp)
    ∧ (let stored := execute none (Narrow.push 0x01#8) called (Ram.zeros 32)
      let after := execute none (Narrow.pop 0x01#8) (stored.registers.write .r0 0#32) stored.memory
      after.registers.physical (.low 0) = 0x12345678#32
        ∧ after.registers.pc = 0x08000100#32) := by
  obtain ⟨hblock, hnarrow⟩ := reload_restores none none called (Ram.zeros 32)
  have hclobbered {r : Registers} {cells : List Cell} (h : .low 0 ∈ cells) :
      (r.write .r0 0#32).Clobbered r cells := Registers.clobbered_write h _
  obtain ⟨-, hstored⟩ := hblock spillFirst reloadFirst ⟨.sp, false, true, true⟩ 0x2001#16 false
    rfl rfl rfl rfl (by decide) rfl (by decide)
  obtain ⟨-, -, -, hafter⟩ := hstored _ (hclobbered (by decide))
  obtain ⟨-, -, -, hpushed⟩ := hnarrow 0x01#8 rfl
  obtain ⟨-, -, hpc, hpopped⟩ := hpushed _ (hclobbered (by decide))
  exact ⟨⟨(hafter _ (by decide)).trans (by decide), (hafter _ (by decide)).trans (by decide)⟩,
    (hpopped _ (by decide) (by decide)).trans (by decide), hpc.trans (by decide)⟩

end Handheld

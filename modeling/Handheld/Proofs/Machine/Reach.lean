import Handheld.Proofs.Bus.Stores
import Handheld.Proofs.Execution.Footprint
import Handheld.Proofs.Machine.Failure

/-!
# Proofs/Machine/Reach — the stores of one instruction lie close together

An instruction stores nothing, or one value, or a list of registers to ascending words.  As sixteen
registers are sixteen words, all that one instruction stores lies within sixteen words
(`storesNear_execute`), unless it is a software interrupt that a host handles.  So no instruction
reaches two device registers that are further apart.
-/

namespace Handheld

/-! ## Bytes close together -/

/-- The bytes lie among the `n` bytes from `base`. -/
def Near (base : Word) (n : Nat) (ps : List (Word × Byte)) : Prop :=
  ∀ p ∈ ps, (p.1 - base).toNat < n

theorem near_nil (base : Word) (n : Nat) : Near base n [] := nofun

theorem Near.mono {base : Word} {n k : Nat} {ps : List (Word × Byte)} (h : Near base n ps)
    (hk : n ≤ k) : Near base k ps := fun p hp => Nat.lt_of_lt_of_le (h p hp) hk

/-- Bytes near an address, and more bytes near it, are all near it. -/
theorem Near.append {base : Word} {n : Nat} {ps qs : List (Word × Byte)} (hp : Near base n ps)
    (hq : Near base n qs) : Near base n (ps ++ qs) := by
  intro p h
  rcases List.mem_append.mp h with h | h
  · exact hp p h
  · exact hq p h

/-- What lies near the next word lies near this one. -/
theorem Near.next {base : Word} {n : Nat} {ps : List (Word × Byte)} (h : Near (base + 4) n ps)
    (hn : n ≤ 64) : Near base (n + 4) ps := by
  intro p hp
  have := h p hp
  rw [show p.1 - base = p.1 - (base + 4) + 4 by bv_omega, BitVec.toNat_add,
    show (4 : Word).toNat = 4 from rfl]
  omega

namespace Bus

/-- The bytes of a store lie in the word around its address. -/
theorem Store.near_bytes (x : Store) : Near x.address.alignWord 4 x.bytes := by
  obtain ⟨width, a, v⟩ := x
  have hword (s : Word) (h : s.alignWord = a.alignWord) : (s - a.alignWord).toNat < 4 :=
    h ▸ s.toNat_sub_alignWord_lt
  intro p hp
  apply hword
  cases width with
  | byte =>
    obtain rfl := List.mem_singleton.mp hp
    rfl
  | half =>
    simp only [Store.bytes, List.mem_cons, List.not_mem_nil, or_false] at hp
    obtain rfl | rfl := hp
    · simpa using a.alignWord_alignHalf_add (i := 0#32) (by decide)
    · exact a.alignWord_alignHalf_add (by decide)
  | word =>
    simp only [Store.bytes, List.mem_cons, List.not_mem_nil, or_false] at hp
    obtain rfl | rfl | rfl | rfl := hp
    · exact a.alignWord_alignWord
    all_goals exact a.alignWord_alignWord_add (by decide)

/-- All that was stored lies within sixteen words. -/
def StoresNear (b' b : Bus) : Prop := ∃ base ps, Near base 64 ps ∧ b' = b.storeBytes ps

theorem StoresNear.refl (b : Bus) : b.StoresNear b := ⟨0, [], near_nil 0 64, rfl⟩

theorem storesNear_store (b : Bus) (x : Store) : (b.store x).StoresNear b :=
  ⟨_, x.bytes, x.near_bytes.mono (by decide), b.store_eq_bytes x⟩

end Bus

namespace Context

variable {c : Context Bus}

/-! ## Operations -/

/-- Loads store nothing. -/
theorem memory_loadKind (c : Context Bus) (kind : LoadKind) (a : Word) :
    (c.loadKind kind a).2.memory = c.memory := by
  cases kind with
  | signedHalf =>
    rw [loadKind]
    split
    all_goals rfl
  | _ => rfl

/-- Loading registers leaves the memory of the bus alone. -/
theorem memory_loadRegisters (user restore : Bool) (list : List Register) (a : Word)
    (c : Context Bus) : (loadRegisters user restore list a c).memory = c.memory := by
  induction list generalizing a c with
  | nil => rfl
  | cons n rest ih =>
    rw [loadRegisters]
    dsimp only
    rw [ih]
    have hr (c : Context Bus) :
        (if restore && n = .pc then c.restoreStatus else c).memory = c.memory := by
      split
      all_goals rfl
    cases user
    · exact (memory_write _ n _).trans (hr _)
    · exact (memory_writeUser _ n _).trans (hr _)

/-- A list is stored word by word from its first address. -/
theorem near_storeRegisters (user : Bool) {list : List Register} (hlist : list.length ≤ 16)
    (a : Word) (c : Context Bus) : ∃ ps, Near a.alignWord (4 * list.length) ps
      ∧ (storeRegisters user list a c).memory = c.memory.storeBytes ps := by
  induction list generalizing a c with
  | nil => exact ⟨[], near_nil _ _, rfl⟩
  | cons n rest ih =>
    rw [List.length_cons] at hlist
    obtain ⟨ps, hps, he⟩ := ih (by omega) (a + 4)
      (c.storeWord a.alignWord (if user && n ≠ .pc then c.readUser n else c.stored n))
    let x : Bus.Store := ⟨.word, a.alignWord, if user && n ≠ .pc then c.readUser n else c.stored n⟩
    have hx := x.near_bytes
    rw [show x.address.alignWord = a.alignWord from a.alignWord_alignWord] at hx
    rw [Word.alignWord_add_four] at hps
    refine ⟨x.bytes ++ ps, .append (hx.mono ?_) ((hps.next (by omega)).mono ?_), he.trans ?_⟩
    · rw [List.length_cons]
      omega
    · rw [List.length_cons]
      omega
    · rw [Bus.storeBytes_append, ← Bus.store_eq_bytes]
      rfl

theorem storesNear_storeKind (c : Context Bus) (kind : StoreKind) (a v : Word) :
    (c.storeKind kind a v).memory.StoresNear c.memory := by
  cases kind with
  | word => exact c.memory.storesNear_store ⟨.word, a.alignWord, v⟩
  | byte => exact c.memory.storesNear_store ⟨.byte, a, v⟩
  | half => exact c.memory.storesNear_store ⟨.half, a.alignHalf, v⟩

/-- **All that one operation stores lies within sixteen words.** -/
theorem storesNear_perform (c : Context Bus) (op : Operation) :
    (c.perform none op).memory.StoresNear c.memory := by
  cases op with
  | swap byte base rd rm =>
    cases byte
    · change (((c.loadRotated (c.read base)).2.storeWord (c.read base) (c.read rm)).write rd
        _).memory.StoresNear c.memory
      rw [memory_write]
      exact c.memory.storesNear_store ⟨.word, c.read base, c.read rm⟩
    · change (((c.loadByte (c.read base)).2.storeByte (c.read base) ((c.read rm).byte 0)).write rd
        _).memory.StoresNear c.memory
      rw [memory_write]
      exact c.memory.storesNear_store ⟨.byte, c.read base, c.read rm⟩
  | load kind mode rd offset =>
    have h : (c.load kind mode rd offset).memory = c.memory :=
      (memory_write _ rd _).trans ((memory_moveBase _ mode _ _).trans (c.memory_loadKind kind _))
    rw [perform, h]
    exact .refl c.memory
  | store kind mode rd offset =>
    have h : (c.store kind mode rd offset).memory = (c.storeKind kind
        (c.transferAddresses mode (c.operand offset).1).1 (c.stored rd)).memory :=
      memory_moveBase _ mode _ _
    rw [perform, h]
    exact c.storesNear_storeKind kind _ _
  | loadFromPc rd offset =>
    rw [perform, show (c.loadFromPc rd offset).memory = c.memory from memory_write _ rd _]
    exact .refl c.memory
  | loadMultiple mode list user =>
    rw [perform, loadMultiple_eq, memory_loadRegisters, memory_moveBase]
    exact .refl c.memory
  | storeMultiple mode list user =>
    obtain ⟨ps, hps, he⟩ := near_storeRegisters user (length_listed_le list)
      (c.blockAddresses mode (listed list).length).1 c
    refine ⟨_, ps, hps.mono ?_, (memory_moveBase _ mode _ _).trans he⟩
    have := length_listed_le list
    omega
  | _ =>
    rw [c.memory_perform none rfl]
    exact .refl c.memory

end Context

/-- **All that one instruction stores lies within sixteen words**, unless a host handles it. -/
theorem storesNear_execute {hook? : Option (Hook Bus)} {i : Instruction} {m : Machine}
    (h : i.CallsSupervisor m.registers.flags → hook? = none) :
    (execute hook? i m.registers m.bus).memory.StoresNear m.bus := by
  cases hc : i.condition.holds m.registers.flags with
  | false =>
    rw [execute_skipped hc]
    exact .refl m.bus
  | true =>
    by_cases hp : i.operation.IsCoprocessor
    · rw [execute_refused hc hp, Machine.refuse_start]
      exact .refl m.bus
    · have hnone : (Context.start m.registers m.bus).perform hook? i.operation
          = (Context.start m.registers m.bus).perform none i.operation := by
        by_cases hi : ∃ comment, i.operation = .softwareInterrupt comment
        · rw [h ⟨hc, hi⟩]
        · exact Operation.perform_hooked (fun comment he => hi ⟨comment, he⟩) _ hook?
      rw [execute_performed hc hp, hnone]
      exact (Context.start m.registers m.bus).storesNear_perform i.operation

end Handheld

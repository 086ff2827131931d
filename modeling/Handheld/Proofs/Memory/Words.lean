import Mathlib.Data.List.Nodup
import Handheld.Memory.Basic
import Handheld.Proofs.Execution.Map
import Handheld.Proofs.Word

/-!
# Proofs/Memory/Words — words in a row, and what a memory is asked for

A block of words has ascending addresses, each aligned (`Word.wordsFrom`); as long as it does not go
around the whole address space, no two of its words are the same.  A memory that is asked for some
words answers them one after the other (`Memory.loadWords`, `Memory.storeWords`).  A `Journal` is a
memory that writes down what it is asked, so that an execution tells its memory accesses.
-/

namespace Handheld

/-! ## Ascending addresses -/

namespace Word

/-- The addresses of `n` words in a row, the first around `a`, each aligned. -/
def wordsFrom (a : Word) (n : Nat) : List Word :=
  (List.range n).map fun k => (a + BitVec.ofNat 32 (4 * k)).alignWord

variable (a : Word)

@[simp] theorem length_wordsFrom (n : Nat) : (a.wordsFrom n).length = n := by
  rw [wordsFrom, List.length_map, List.length_range]

theorem wordsFrom_succ (n : Nat) : a.wordsFrom (n + 1) = a.alignWord :: (a + 4).wordsFrom n := by
  rw [wordsFrom, List.range_succ_eq_map, List.map_cons, List.map_map, BitVec.add_zero]
  congr 1
  refine List.map_congr_left fun k _ => ?_
  have h : a + BitVec.ofNat 32 (4 * (k + 1)) = a + 4 + BitVec.ofNat 32 (4 * k) := by
    rw [Nat.mul_succ, Nat.add_comm, BitVec.ofNat_add, BitVec.add_assoc]
    rfl
  exact congrArg alignWord h

theorem wordsFrom_concat (n : Nat) :
    a.wordsFrom (n + 1) = a.wordsFrom n ++ [(a + BitVec.ofNat 32 (4 * n)).alignWord] := by
  rw [wordsFrom, List.range_succ, List.map_append]
  rfl

theorem alignWord_of_mem_wordsFrom {n : Nat} {b : Word} (h : b ∈ a.wordsFrom n) :
    b.alignWord = b := by
  obtain ⟨k, -, rfl⟩ := List.mem_map.mp h
  exact alignWord_alignWord _

/-- A block that does not go around the address space has no word twice. -/
theorem nodup_wordsFrom {n : Nat} (hn : n ≤ 0x40000000) : (a.wordsFrom n).Nodup := by
  refine List.Nodup.map_on (fun j hj k hk h => ?_) List.nodup_range
  have hj := List.mem_range.mp hj
  have hk := List.mem_range.mp hk
  rw [← BitVec.toNat_inj, toNat_alignWord, toNat_alignWord, BitVec.toNat_add, BitVec.toNat_add,
    BitVec.toNat_ofNat, BitVec.toNat_ofNat] at h
  omega

end Word

/-! ## Some words, one after the other -/

namespace Memory

variable {M : Type} [Memory M]

/-- Loads some words, one after the other. -/
def loadWords : List Word → M → List Word × M
  | [], m => ([], m)
  | a :: rest, m =>
    let (v, m) := loadWord m a
    let (vs, m) := loadWords rest m
    (v :: vs, m)

/-- Stores some words, one after the other. -/
def storeWords (m : M) (ps : List (Word × Word)) : M :=
  ps.foldl (fun m p => storeWord m p.1 p.2) m

theorem length_loadWords (as : List Word) (m : M) : (loadWords as m).1.length = as.length := by
  induction as generalizing m with
  | nil => rfl
  | cons a rest ih => exact congrArg Nat.succ (ih _)

/-- Words in two parts are loaded part by part. -/
theorem loadWords_append (as bs : List Word) (m : M) :
    loadWords (as ++ bs) m = ((loadWords as m).1 ++ (loadWords bs (loadWords as m).2).1,
      (loadWords bs (loadWords as m).2).2) := by
  induction as generalizing m with
  | nil => rfl
  | cons a rest ih =>
    have h := ih (loadWord m a).2
    simp only [List.cons_append, loadWords, h]

end Memory

/-! ## A memory that writes down what it is asked -/

/-- What a memory is asked: to load, with its answer, or to store. -/
inductive Memory.Call where
  /-- A load, and the answer extended with zeros. -/
  | load (w : Width) (a v : Word)
  /-- A store, of the low bits of the value. -/
  | store (w : Width) (a v : Word)
  deriving DecidableEq

/-- A memory and what it has been asked. -/
structure Journal (M : Type) where
  /-- The memory. -/
  memory : M
  /-- What it has been asked, the first call first. -/
  calls : List Memory.Call

namespace Journal

variable {M : Type} [Memory M]

instance : Memory (Journal M) where
  loadByte j a :=
    let (v, m) := Memory.loadByte j.memory a
    (v, ⟨m, j.calls ++ [.load .byte a (v.setWidth 32)]⟩)
  loadHalf j a :=
    let (v, m) := Memory.loadHalf j.memory a
    (v, ⟨m, j.calls ++ [.load .half a (v.setWidth 32)]⟩)
  loadWord j a :=
    let (v, m) := Memory.loadWord j.memory a
    (v, ⟨m, j.calls ++ [.load .word a v]⟩)
  storeByte j a v := ⟨Memory.storeByte j.memory a v, j.calls ++ [.store .byte a (v.setWidth 32)]⟩
  storeHalf j a v := ⟨Memory.storeHalf j.memory a v, j.calls ++ [.store .half a (v.setWidth 32)]⟩
  storeWord j a v := ⟨Memory.storeWord j.memory a v, j.calls ++ [.store .word a v]⟩

/-- The journal changes neither loads nor stores. -/
theorem respects_memory : Memory.Respects (Journal.memory : Journal M → M) :=
  ⟨fun _ _ => rfl, fun _ _ => rfl, fun _ _ => rfl, fun _ _ _ => rfl, fun _ _ _ => rfl,
    fun _ _ _ => rfl⟩

/-- Keeping a journal does not change what an instruction does. -/
theorem execute_journal (i : Instruction) (r : Registers) (j : Journal M) :
    execute none i r j.memory = ⟨(execute none i r j).registers, (execute none i r j).memory.memory,
      (execute none i r j).result⟩ :=
  execute_map respects_memory .none i r j

theorem calls_loadWords (as : List Word) (j : Journal M) :
    (Memory.loadWords as j).2.calls
      = j.calls ++ List.zipWith (.load .word) as (Memory.loadWords as j).1 := by
  induction as generalizing j with
  | nil => exact (List.append_nil _).symm
  | cons a rest ih =>
    refine (ih _).trans ?_
    exact List.append_assoc _ _ _

theorem calls_storeWords (ps : List (Word × Word)) (j : Journal M) :
    (Memory.storeWords j ps).calls = j.calls ++ ps.map fun p => .store .word p.1 p.2 := by
  induction ps generalizing j with
  | nil => exact (List.append_nil _).symm
  | cons p rest ih =>
    refine (ih _).trans ?_
    exact List.append_assoc _ _ _

end Journal

end Handheld

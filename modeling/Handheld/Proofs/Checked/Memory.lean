import Handheld.Device.RegisterBlock
import Handheld.Memory.Ram
import Handheld.Proofs.Checked.Arithmetic
import Handheld.Proofs.Word

/-!
# Proofs/Checked/Memory — memories and register blocks with every index checked

A block of memory keeps the low bits of an address as an index and counts on from there for a wide
access; only the power of two in its size and the alignment of the access keep the last byte inside.
A register block subtracts its base and halves, once its device has found the address to be its own.
-/

namespace Handheld

open Checked

/-! ## Memories that repeat -/

namespace Ram

variable {k : Nat}

/-- The index of an address: its bits below the size of the block. -/
def checkedIndex (k : Nat) (a : Word) : Checked Word := do
  let mask ← sub (BitVec.ofNat 32 (size k)) 1
  return a &&& mask

/-- Loads the byte `j` after an index. -/
def checkedGet (r : Ram k) (i j : Word) : Checked Byte := do
  let i ← add i j
  get r.cells i.toNat

/-- Stores the byte `j` after an index. -/
def checkedSet (r : Ram k) (i j : Word) (v : Byte) : Checked (Ram k) := do
  let i ← add i j
  (set r.cells i.toNat v).map Ram.mk

/-- The `count` bytes from an index on lie inside the block. -/
def checkedRange (k : Nat) (i count : Word) : Checked Unit := do
  let last ← add i count
  slice i.toNat last.toNat (size k)

/-- Loads a byte. -/
def checkedLoadByte (r : Ram k) (a : Word) : Checked Byte := do
  let i ← checkedIndex k a
  get r.cells i.toNat

/-- Stores a byte. -/
def checkedStoreByte (r : Ram k) (a : Word) (v : Byte) : Checked (Ram k) := do
  let i ← checkedIndex k a
  (set r.cells i.toNat v).map Ram.mk

/-- Loads the halfword around an address. -/
def checkedLoadHalf (r : Ram k) (a : Word) : Checked Half := do
  let i ← checkedIndex k a.alignHalf
  let b₀ ← r.checkedGet i 0#32
  let b₁ ← r.checkedGet i 1#32
  return Half.ofBytes b₀ b₁

/-- Stores the halfword around an address. -/
def checkedStoreHalf (r : Ram k) (a : Word) (v : Half) : Checked (Ram k) := do
  let i ← checkedIndex k a.alignHalf
  checkedRange k i 2#32
  let r ← r.checkedSet i 0#32 v.low
  r.checkedSet i 1#32 v.high

/-- Loads the word around an address. -/
def checkedLoadWord (r : Ram k) (a : Word) : Checked Word := do
  let i ← checkedIndex k a.alignWord
  let b₀ ← r.checkedGet i 0#32
  let b₁ ← r.checkedGet i 1#32
  let b₂ ← r.checkedGet i 2#32
  let b₃ ← r.checkedGet i 3#32
  return Word.ofBytes b₀ b₁ b₂ b₃

/-- Stores the word around an address. -/
def checkedStoreWord (r : Ram k) (a v : Word) : Checked (Ram k) := do
  let i ← checkedIndex k a.alignWord
  checkedRange k i 4#32
  let r ← r.checkedSet i 0#32 (v.byte 0)
  let r ← r.checkedSet i 1#32 (v.byte 1)
  let r ← r.checkedSet i 2#32 (v.byte 2)
  r.checkedSet i 3#32 (v.byte 3)

/-- A block of so many address bits can be indexed by words, and wide accesses fit into it. -/
class Indexable (k : Nat) : Prop where
  two_le : 2 ≤ k
  lt : k < 32

instance : Indexable 10 := ⟨by decide, by decide⟩

instance : Indexable 14 := ⟨by decide, by decide⟩

instance : Indexable 15 := ⟨by decide, by decide⟩

instance : Indexable 17 := ⟨by decide, by decide⟩

instance : Indexable 18 := ⟨by decide, by decide⟩

/-- The offset of an address as a word. -/
def index (k : Nat) (a : Word) : Word := BitVec.ofNat 32 (a.toNat % size k)

variable [hk : Indexable k] (r : Ram k) (a : Word)

omit r a in
/-- A memory has fewer bytes than there are addresses. -/
theorem size_lt : size k < 1 <<< 32 := by
  rw [size, Nat.one_shiftLeft, Nat.one_shiftLeft]
  exact Nat.pow_lt_pow_right (by decide) hk.lt

/-- The index of an address is what is left of it modulo the size. -/
theorem toNat_index : (index k a).toNat = a.toNat % size k := by
  have := size_lt (k := k)
  have := Nat.mod_lt a.toNat (size_pos k)
  rw [index, BitVec.toNat_ofNat, Nat.mod_eq_of_lt (by omega)]

/-- The mask of a size is computed without going below zero. -/
theorem checkedIndex_eq_ok : checkedIndex k a = .ok (index k a) := by
  have hp := size_pos k
  have hn : (BitVec.ofNat 32 (size k)).toNat = size k := Nat.mod_eq_of_lt size_lt
  have hsub : (1 : Word).toNat ≤ (BitVec.ofNat 32 (size k)).toNat := by
    rw [hn]
    exact hp
  rw [checkedIndex, sub_eq_ok hsub, ok_bind, pure_eq_ok]
  refine congrArg _ (BitVec.eq_of_toNat_eq ?_)
  rw [BitVec.toNat_and, BitVec.toNat_sub_of_le (BitVec.le_def.mpr hsub), hn, toNat_index, size,
    Nat.one_shiftLeft]
  exact Nat.and_two_pow_sub_one_eq_mod a.toNat k

/-- The bytes of an aligned word lie side by side in the block: the size is a multiple of four. -/
theorem index_add {j : Nat} (h : a.toNat % 4 + j ≤ 4) : (index k a).toNat + j ≤ size k := by
  have hd : 4 ∣ size k := by
    rw [size, Nat.one_shiftLeft]
    exact Nat.pow_dvd_pow 2 hk.two_le
  have hlt : a.toNat % size k < size k := Nat.mod_lt _ (size_pos k)
  have hmod : a.toNat % size k % 4 = a.toNat % 4 := Nat.mod_mod_of_dvd _ hd
  rw [toNat_index]
  omega

/-- Within an aligned word the index counts on without reaching the end of the memory. -/
theorem add_index {j : Word} (h : a.toNat % 4 + j.toNat < 4) :
    add (index k a) j = .ok (index k (a + j)) := by
  have hin := index_add (k := k) a (j := j.toNat + 1) (by omega)
  have hs := size_lt (k := k)
  have ha := a.isLt
  rw [add_eq_ok (by omega)]
  refine congrArg _ (BitVec.eq_of_toNat_eq ?_)
  rw [BitVec.toNat_add_of_lt (by omega)]
  rw [toNat_index] at hin ⊢
  have hj : j.toNat % size k = j.toNat := Nat.mod_eq_of_lt (by omega)
  have hsum : (a.toNat % size k + j.toNat) % size k = a.toNat % size k + j.toNat :=
    Nat.mod_eq_of_lt (by omega)
  rw [toNat_index, BitVec.toNat_add_of_lt (by omega), Nat.add_mod, hj, hsum]

/-- A range within an aligned word ends within the memory. -/
theorem checkedRange_index {count : Word} (h : a.toNat % 4 + count.toNat ≤ 4) :
    checkedRange k (index k a) count = .ok () := by
  have hin := index_add (k := k) a h
  have hs := size_lt (k := k)
  rw [checkedRange, add_eq_ok (by omega), ok_bind, slice_eq_ok]
  rw [BitVec.toNat_add_of_lt (by omega)]
  omega

/-- The index of an address finds the byte there. -/
theorem get_index : get r.cells (index k a).toNat = .ok (r.loadByte a) := by
  have h := Nat.mod_lt a.toNat (size_pos k)
  simp only [toNat_index, get_eq_ok h]
  rfl

/-- The index of an address is where a byte is stored. -/
theorem set_index (v : Byte) :
    (set r.cells (index k a).toNat v).map Ram.mk = .ok (r.storeByte a v) := by
  have h := Nat.mod_lt a.toNat (size_pos k)
  simp only [toNat_index, set_eq_ok h]
  rfl

/-- Counting on from the index finds the byte at the address counted on. -/
theorem checkedGet_index {j : Word} (h : a.toNat % 4 + j.toNat < 4) :
    r.checkedGet (index k a) j = .ok (r.loadByte (a + j)) := by
  rw [checkedGet, add_index a h, ok_bind, get_index]

/-- Counting on from the index stores at the address counted on. -/
theorem checkedSet_index {j : Word} (h : a.toNat % 4 + j.toNat < 4) (v : Byte) :
    r.checkedSet (index k a) j v = .ok (r.storeByte (a + j) v) := by
  rw [checkedSet, add_index a h, ok_bind, set_index]

@[simp] theorem checkedLoadByte_eq_ok : r.checkedLoadByte a = .ok (r.loadByte a) := by
  rw [checkedLoadByte, checkedIndex_eq_ok, ok_bind, get_index]

@[simp] theorem checkedStoreByte_eq_ok (v : Byte) :
    r.checkedStoreByte a v = .ok (r.storeByte a v) := by
  rw [checkedStoreByte, checkedIndex_eq_ok, ok_bind, set_index]

/-! ## Wide accesses -/

/-- The bytes of an aligned halfword lie in one word. -/
theorem alignHalf_add_lt {j : Nat} (h : j < 2) : a.alignHalf.toNat % 4 + j < 4 := by
  rw [Word.toNat_alignHalf]
  omega

/-- The bytes of an aligned word lie in one word. -/
theorem alignWord_add_lt {j : Nat} (h : j < 4) : a.alignWord.toNat % 4 + j < 4 := by
  rw [Word.toNat_alignWord]
  omega

theorem checkedGet_alignHalf {j : Word} (h : j.toNat < 2) :
    r.checkedGet (index k a.alignHalf) j = .ok (r.loadByte (a.alignHalf + j)) :=
  checkedGet_index r _ (alignHalf_add_lt a h)

theorem checkedGet_alignWord {j : Word} (h : j.toNat < 4) :
    r.checkedGet (index k a.alignWord) j = .ok (r.loadByte (a.alignWord + j)) :=
  checkedGet_index r _ (alignWord_add_lt a h)

theorem checkedSet_alignHalf {j : Word} (h : j.toNat < 2) (v : Byte) :
    r.checkedSet (index k a.alignHalf) j v = .ok (r.storeByte (a.alignHalf + j) v) :=
  checkedSet_index r _ (alignHalf_add_lt a h) v

theorem checkedSet_alignWord {j : Word} (h : j.toNat < 4) (v : Byte) :
    r.checkedSet (index k a.alignWord) j v = .ok (r.storeByte (a.alignWord + j) v) :=
  checkedSet_index r _ (alignWord_add_lt a h) v

theorem checkedRange_alignHalf : checkedRange k (index k a.alignHalf) 2#32 = .ok () :=
  checkedRange_index _ (alignHalf_add_lt a (j := 1) (by decide))

theorem checkedRange_alignWord : checkedRange k (index k a.alignWord) 4#32 = .ok () :=
  checkedRange_index _ (alignWord_add_lt a (j := 3) (by decide))

/-- The range of an aligned halfword is its two bytes. -/
@[simp] theorem checkedLoadHalf_eq_ok : r.checkedLoadHalf a = .ok (r.loadHalf a) := by
  simp (disch := decide) only [checkedLoadHalf, checkedIndex_eq_ok, checkedGet_alignHalf, ok_bind,
    pure_eq_ok, BitVec.add_zero]
  rfl

/-- The range of an aligned word is its four bytes. -/
@[simp] theorem checkedLoadWord_eq_ok : r.checkedLoadWord a = .ok (r.loadWord a) := by
  simp (disch := decide) only [checkedLoadWord, checkedIndex_eq_ok, checkedGet_alignWord, ok_bind,
    pure_eq_ok, BitVec.add_zero]
  rfl

/-- Writing the range of an aligned halfword stores its two bytes. -/
@[simp] theorem checkedStoreHalf_eq_ok (v : Half) :
    r.checkedStoreHalf a v = .ok (r.storeHalf a v) := by
  simp (disch := decide) only [checkedStoreHalf, checkedIndex_eq_ok, checkedRange_alignHalf,
    ok_bind, checkedSet_alignHalf, BitVec.add_zero]
  rfl

/-- Writing the range of an aligned word stores its four bytes. -/
@[simp] theorem checkedStoreWord_eq_ok (v : Word) :
    r.checkedStoreWord a v = .ok (r.storeWord a v) := by
  simp (disch := decide) only [checkedStoreWord, checkedIndex_eq_ok, checkedRange_alignWord,
    ok_bind, checkedSet_alignWord, BitVec.add_zero]
  rfl

end Ram

/-! ## Register blocks -/

namespace RegisterBlock

variable {base : Word} {n : Nat}

/-- The number of the register at an address that is not below the base. -/
def checkedNumber (base a : Word) : Checked Nat := do
  let distance ← sub a base
  return distance.toNat / 2

/-- Reads the register at an address, if the device takes the address for its own. -/
def checkedRead (b : RegisterBlock base n) (own : Bool) (a : Word) : Checked Half :=
  if own then do
    let i ← checkedNumber base a
    get b.cells i
  else return 0#16

/-- Writes the bits that `mask` selects of the register at an address, if the device takes the
address for its own. -/
def checkedWrite (b : RegisterBlock base n) (own : Bool) (a : Word) (value mask : Half) :
    Checked (RegisterBlock base n) :=
  if own then do
    let i ← checkedNumber base a
    let old ← get b.cells i
    (set b.cells i (Half.merge old value mask)).map mk
  else return b

/-- A block has a register at the address. -/
def Holds (base : Word) (n : Nat) (a : Word) : Prop := base ≤ a ∧ (a - base).toNat / 2 < n

instance (base : Word) (n : Nat) (a : Word) : Decidable (Holds base n a) :=
  inferInstanceAs (Decidable (_ ∧ _))

/-- Reads the register at an address of a device that asks its block. -/
def checkedReadHeld (b : RegisterBlock base n) (a : Word) : Checked Half :=
  b.checkedRead (Holds base n a) a

/-- Writes the bits that `mask` selects of the register at an address of a device that asks its
block. -/
def checkedWriteHeld (b : RegisterBlock base n) (a : Word) (value mask : Half) :
    Checked (RegisterBlock base n) :=
  b.checkedWrite (Holds base n a) a value mask

/-- An address that a block holds has the number of its halfword. -/
theorem index?_of_holds {a : Word} (h : Holds base n a) :
    index? base n a = some ⟨(a - base).toNat / 2, h.2⟩ :=
  dif_pos h

theorem index?_of_not_holds {a : Word} (h : ¬Holds base n a) : index? base n a = none := dif_neg h

/-- The number of a register is computed from its block's start on. -/
theorem checkedNumber_eq_ok {a : Word} (h : Holds base n a) :
    checkedNumber base a = .ok ((a - base).toNat / 2) := by
  rw [checkedNumber, sub_eq_ok (BitVec.le_def.mp h.1), ok_bind, pure_eq_ok]

variable (b : RegisterBlock base n) {own : Bool} {a : Word}

/-- A block that is asked for its own addresses only finds the register, and one that is not reads
zero. -/
theorem checkedRead_eq_ok (h : own = true ↔ Holds base n a) :
    b.checkedRead own a = .ok (b.read a) := by
  unfold checkedRead read
  by_cases hh : Holds base n a
  · rw [if_pos (h.mpr hh), checkedNumber_eq_ok hh, ok_bind, get_eq_ok hh.2, index?_of_holds hh]
    rfl
  · rw [if_neg (mt h.mp hh), index?_of_not_holds hh, pure_eq_ok]

/-- A block that is asked for its own addresses only writes the register, and one that is not writes
nothing. -/
theorem checkedWrite_eq_ok (h : own = true ↔ Holds base n a) (value mask : Half) :
    b.checkedWrite own a value mask = .ok (b.write a value mask) := by
  unfold checkedWrite write
  by_cases hh : Holds base n a
  · rw [if_pos (h.mpr hh), checkedNumber_eq_ok hh, ok_bind, get_eq_ok hh.2, ok_bind,
      set_eq_ok hh.2, index?_of_holds hh]
    rfl
  · rw [if_neg (mt h.mp hh), index?_of_not_holds hh, pure_eq_ok]

@[simp] theorem checkedReadHeld_eq_ok (a : Word) : b.checkedReadHeld a = .ok (b.read a) :=
  b.checkedRead_eq_ok decide_eq_true_iff

@[simp] theorem checkedWriteHeld_eq_ok (a : Word) (value mask : Half) :
    b.checkedWriteHeld a value mask = .ok (b.write a value mask) :=
  b.checkedWrite_eq_ok decide_eq_true_iff value mask

end RegisterBlock

end Handheld

import Handheld.Word

/-!
# Memory/Ram — blocks of memory that repeat over the address space

A block that decodes `k` address bits answers at every address, repeating with its size.  Wide
accesses cover the aligned addresses around the one given.
-/

namespace Handheld

/-- The number of bytes in a block of `k` address bits. -/
def Ram.size (k : Nat) : Nat := 1 <<< k

theorem Ram.size_pos (k : Nat) : 0 < Ram.size k := by
  rw [Ram.size, Nat.shiftLeft_eq, Nat.one_mul]
  exact Nat.two_pow_pos k

/-- A block of memory that decodes `k` address bits. -/
structure Ram (k : Nat) where
  /-- The bytes, by offset. -/
  cells : Vector Byte (Ram.size k)

namespace Ram

variable {k : Nat}

/-- A block of zeros. -/
def zeros (k : Nat) : Ram k := ⟨Vector.replicate (size k) 0#8⟩

/-- The offset of an address in a block that repeats. -/
def offset (k : Nat) (a : Word) : Fin (size k) := ⟨a.toNat % size k, Nat.mod_lt _ (size_pos k)⟩

/-- The bytes from the lowest offset up. -/
def toList (r : Ram k) : List Byte := r.cells.toList

/-- Loads a byte. -/
def loadByte (r : Ram k) (a : Word) : Byte := r.cells[offset k a]

/-- Stores a byte. -/
def storeByte (r : Ram k) (a : Word) (v : Byte) : Ram k := ⟨r.cells.set (offset k a) v⟩

/-- Loads the halfword around an address. -/
def loadHalf (r : Ram k) (a : Word) : Half :=
  let b := a.alignHalf
  Half.ofBytes (r.loadByte b) (r.loadByte (b + 1))

/-- Stores the halfword around an address. -/
def storeHalf (r : Ram k) (a : Word) (v : Half) : Ram k :=
  let b := a.alignHalf
  (r.storeByte b v.low).storeByte (b + 1) v.high

/-- Loads the word around an address. -/
def loadWord (r : Ram k) (a : Word) : Word :=
  let b := a.alignWord
  Word.ofBytes (r.loadByte b) (r.loadByte (b + 1)) (r.loadByte (b + 2)) (r.loadByte (b + 3))

/-- Stores the word around an address. -/
def storeWord (r : Ram k) (a v : Word) : Ram k :=
  let b := a.alignWord
  (((r.storeByte b (v.byte 0)).storeByte (b + 1) (v.byte 1)).storeByte (b + 2)
    (v.byte 2)).storeByte (b + 3) (v.byte 3)

/-! ## Bytes read back -/

/-- A byte stored at an address is read at every address with the same offset, and nowhere else. -/
theorem loadByte_storeByte (r : Ram k) (a b : Word) (v : Byte) :
    (r.storeByte a v).loadByte b = if offset k a = offset k b then v else r.loadByte b := by
  simp only [loadByte, storeByte, Fin.getElem_fin, Vector.getElem_set, Fin.ext_iff]

@[simp] theorem loadByte_zeros (a : Word) : (zeros k).loadByte a = 0#8 := by
  simp [loadByte, zeros]

end Ram

end Handheld

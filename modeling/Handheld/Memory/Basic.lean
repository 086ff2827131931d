import Handheld.Word

/-!
# Memory/Basic — what the processor asks of a memory

A memory answers loads and takes stores of bytes, halfwords and words at any address.  Accesses
never fail.  A wide access covers the aligned addresses around the one it is given; aligning is the
memory's part.  A load may change the memory, so that a memory can count or record its accesses.
-/

namespace Handheld

/-- The width of an access. -/
inductive Width where
  /-- Eight bits. -/
  | byte
  /-- Sixteen bits. -/
  | half
  /-- Thirty-two bits. -/
  | word
  deriving DecidableEq, Inhabited

/-- Something that can be loaded from and stored to. -/
class Memory (M : Type) where
  /-- Loads a byte. -/
  loadByte : M → Word → Byte × M
  /-- Loads the halfword around an address. -/
  loadHalf : M → Word → Half × M
  /-- Loads the word around an address. -/
  loadWord : M → Word → Word × M
  /-- Stores a byte. -/
  storeByte : M → Word → Byte → M
  /-- Stores the halfword around an address. -/
  storeHalf : M → Word → Half → M
  /-- Stores the word around an address. -/
  storeWord : M → Word → Word → M

namespace Memory

variable {M : Type} [Memory M]

/-- Loads a value of any width, extended with zeros. -/
def load (m : M) (w : Width) (a : Word) : Word × M :=
  match w with
  | .byte => let (v, m) := loadByte m a; (v.setWidth 32, m)
  | .half => let (v, m) := loadHalf m a; (v.setWidth 32, m)
  | .word => loadWord m a

/-- Stores the low bits of a value. -/
def store (m : M) (w : Width) (a v : Word) : M :=
  match w with
  | .byte => storeByte m a (v.byte 0)
  | .half => storeHalf m a v.lowHalf
  | .word => storeWord m a v

end Memory

end Handheld

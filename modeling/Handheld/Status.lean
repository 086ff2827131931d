import Handheld.Word
import Handheld.Mode

/-!
# Status — condition flags, control flags and the program status word

A status word holds the four condition flags in its top bits, three control flags and the mode in
its low byte; the twenty bits between do not exist and read as zero.  `Psr` is the word taken apart,
and `Psr.toWord` puts it together again.
-/

namespace Handheld

/-- The seven flags of the processor. -/
structure Flags where
  /-- The last result was negative. -/
  negative : Bool := false
  /-- The last result was zero. -/
  zero : Bool := false
  /-- The last operation carried out, or did not borrow. -/
  carry : Bool := false
  /-- The last signed operation overflowed. -/
  overflow : Bool := false
  /-- Interrupts are masked. -/
  maskInterrupt : Bool := false
  /-- Fast interrupts are masked. -/
  maskFast : Bool := false
  /-- Instructions are narrow. -/
  thumb : Bool := false
  deriving DecidableEq, Inhabited

namespace Flags

/-- Takes the flags that `mask` selects from `values` and keeps the others. -/
def merge (old mask values : Flags) : Flags where
  negative := if mask.negative then values.negative else old.negative
  zero := if mask.zero then values.zero else old.zero
  carry := if mask.carry then values.carry else old.carry
  overflow := if mask.overflow then values.overflow else old.overflow
  maskInterrupt := if mask.maskInterrupt then values.maskInterrupt else old.maskInterrupt
  maskFast := if mask.maskFast then values.maskFast else old.maskFast
  thumb := if mask.thumb then values.thumb else old.thumb

/-- Records the sign and the vanishing of a result. -/
def setResult (f : Flags) (negative zero : Bool) : Flags :=
  { f with negative, zero }

/-- Records the result of a logical operation and the carry of its shifter. -/
def setLogical (f : Flags) (result : Word) (carry : Bool) : Flags :=
  { f with negative := result.msb, zero := result == 0, carry }

/-- Records the result of an addition or subtraction. -/
def setArithmetic (f : Flags) (result : Word) (carry overflow : Bool) : Flags :=
  { f with negative := result.msb, zero := result == 0, carry, overflow }

/-- How flags stand on taking an exception: interrupts masked, wide instructions. -/
def onException (f : Flags) : Flags := { f with maskInterrupt := true, thumb := false }

/-- The size in bytes of the instructions being executed. -/
def instructionSize (f : Flags) : Word := if f.thumb then 2#32 else 4#32

end Flags

/-- A program status word taken apart.  The mode is kept as bits, since a saved status can hold bits
that encode no mode. -/
structure Psr extends Flags where
  /-- The encoded mode. -/
  modeBits : BitVec 5 := 0#5
  deriving DecidableEq, Inhabited

namespace Psr

/-- The bits of a word that a status word has. -/
def present : Word := 0xF00000FF#32

/-- Reads a word as a status word, forgetting the bits that do not exist. -/
def ofWord (w : Word) : Psr where
  negative := w.getLsbD 31
  zero := w.getLsbD 30
  carry := w.getLsbD 29
  overflow := w.getLsbD 28
  maskInterrupt := w.getLsbD 7
  maskFast := w.getLsbD 6
  thumb := w.getLsbD 5
  modeBits := w.extractLsb' 0 5

/-- The word that holds a status. -/
def toWord (p : Psr) : Word :=
  BitVec.ofBool p.negative ++ BitVec.ofBool p.zero ++ BitVec.ofBool p.carry ++
    BitVec.ofBool p.overflow ++ 0#20 ++ BitVec.ofBool p.maskInterrupt ++
    BitVec.ofBool p.maskFast ++ BitVec.ofBool p.thumb ++ p.modeBits

/-- The word of a status, bit by bit. -/
theorem getLsbD_toWord (p : Psr) (i : Nat) :
    p.toWord.getLsbD i =
      if i < 5 then p.modeBits.getLsbD i
      else if i = 5 then p.thumb
      else if i = 6 then p.maskFast
      else if i = 7 then p.maskInterrupt
      else if i < 28 then false
      else if i = 28 then p.overflow
      else if i = 29 then p.carry
      else if i = 30 then p.zero
      else if i = 31 then p.negative
      else false := by
  simp only [toWord, BitVec.getLsbD_append, BitVec.getLsbD_ofBool, BitVec.getLsbD_zero]
  have h : i < 8 ∨ 8 ≤ i ∧ i < 28 ∨ i = 28 ∨ i = 29 ∨ i = 30 ∨ i = 31 ∨ 32 ≤ i := by omega
  rcases h with h | h | rfl | rfl | rfl | rfl | h
  · grind
  · grind
  · rfl
  · rfl
  · rfl
  · rfl
  · simp only [show ¬i < 5 by omega, show i ≠ 5 by omega, show i ≠ 6 by omega,
      show i ≠ 7 by omega, show ¬i < 28 by omega, show i ≠ 28 by omega, show i ≠ 29 by omega,
      show i ≠ 30 by omega, show i ≠ 31 by omega, if_false]
    grind

@[simp] theorem ofWord_toWord (p : Psr) : ofWord p.toWord = p := by
  obtain ⟨⟨n, z, c, v, i, f, t⟩, m⟩ := p
  simp only [ofWord, getLsbD_toWord, Psr.mk.injEq]
  refine ⟨rfl, ?_⟩
  apply BitVec.eq_of_getLsbD_eq
  intro i hi
  rw [BitVec.getLsbD_extractLsb', getLsbD_toWord]
  simp [hi]

theorem toWord_ofWord (w : Word) : (ofWord w).toWord = w &&& present := by
  apply BitVec.eq_of_getLsbD_eq
  intro i hi
  have hp : ∀ j : Fin 32, present.getLsbD j = decide (j.val < 8 ∨ 28 ≤ j.val) := by decide
  have h : i < 8 ∨ 8 ≤ i ∧ i < 28 ∨ i = 28 ∨ i = 29 ∨ i = 30 ∨ i = 31 := by omega
  rw [getLsbD_toWord, BitVec.getLsbD_and, hp ⟨i, hi⟩]
  simp only [ofWord, BitVec.getLsbD_extractLsb']
  rcases h with h | h | rfl | rfl | rfl | rfl <;> grind

/-- The encoded mode, if the bits encode one. -/
def mode? (p : Psr) : Option Mode := Mode.ofCode? p.modeBits

/-- Replaces the bits that `mask` selects by those of `data`. -/
def patch (p : Psr) (mask data : Word) : Psr :=
  ofWord ((data &&& mask) ||| (p.toWord &&& ~~~mask))

/-- Every bit of `bits` is set. -/
def contains (p bits : Psr) : Bool := p.toWord &&& bits.toWord == bits.toWord

end Psr

end Handheld

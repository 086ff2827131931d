import Handheld.Registers.Basic

/-!
# Proofs/Checked/Arithmetic — operations that can go wrong

Sums of bit vectors wrap, distances of shifts are any number and an index carries its bound, so no
operation of the processor can fail.  Here are the operations for which this is not understood: they
fail with a `Panic` when a sum, difference or product leaves its type, when a distance or the number
of a bit reaches the width, and when an index reaches the length.  Each has one equation that says
when it succeeds and with what.

What is decided before anything runs is not asked again: halves and bytes of a word, masks, and
sums that are meant to wrap stay as they are.
-/

namespace Handheld

/-- What can go wrong in an operation. -/
inductive Panic where
  /-- An index is not inside its array, or a range not inside its slice. -/
  | index
  /-- A distance of a shift or the number of a bit is not below the width. -/
  | shift
  /-- A result does not fit its type. -/
  | overflow
  deriving DecidableEq

/-- A computation that stops at the first operation that goes wrong. -/
abbrev Checked (α : Type) := Except Panic α

namespace Checked

variable {α β : Type} {w n : Nat}

/-- What has succeeded goes on with its value. -/
@[simp] theorem ok_bind (x : α) (f : α → Checked β) : (Except.ok x >>= f : Checked β) = f x := rfl

@[simp] theorem map_ok (f : α → β) (x : α) : Except.map f (.ok x : Checked α) = .ok (f x) := rfl

@[simp] theorem pure_eq_ok (x : α) : (pure x : Checked α) = .ok x := rfl

/-! ## Numbers -/

/-- A sum that has to fit. -/
def add (a b : BitVec w) : Checked (BitVec w) :=
  if a.toNat + b.toNat < 1 <<< w then .ok (a + b) else .error .overflow

/-- A difference that has to fit. -/
def sub (a b : BitVec w) : Checked (BitVec w) :=
  if b.toNat ≤ a.toNat then .ok (a - b) else .error .overflow

/-- A product that has to fit. -/
def mul (a b : BitVec w) : Checked (BitVec w) :=
  if a.toNat * b.toNat < 1 <<< w then .ok (a * b) else .error .overflow

/-- A sum below the limit of the width is the sum that wraps. -/
theorem add_eq_ok {a b : BitVec w} (h : a.toNat + b.toNat < 1 <<< w) : add a b = .ok (a + b) :=
  if_pos h

/-- A difference that is not negative is the difference that wraps. -/
theorem sub_eq_ok {a b : BitVec w} (h : b.toNat ≤ a.toNat) : sub a b = .ok (a - b) := if_pos h

/-- A product below the limit of the width is the product that wraps. -/
theorem mul_eq_ok {a b : BitVec w} (h : a.toNat * b.toNat < 1 <<< w) : mul a b = .ok (a * b) :=
  if_pos h

/-! ## Bits -/

/-- A shift to the left by less than the width. -/
def shiftLeft (a : BitVec w) (d : Nat) : Checked (BitVec w) :=
  if d < w then .ok (a <<< d) else .error .shift

/-- A shift to the right by less than the width. -/
def shiftRight (a : BitVec w) (d : Nat) : Checked (BitVec w) :=
  if d < w then .ok (a >>> d) else .error .shift

/-- A shift to the right, filling with the sign, by less than the width. -/
def signedShiftRight (a : BitVec w) (d : Nat) : Checked (BitVec w) :=
  if d < w then .ok (a.sshiftRight d) else .error .shift

/-- A bit below the width. -/
def testBit (a : BitVec w) (i : Nat) : Checked Bool :=
  if i < w then .ok (a.getLsbD i) else .error .shift

/-- A shift by less than the width goes well. -/
theorem shiftLeft_eq_ok {a : BitVec w} {d : Nat} (h : d < w) : shiftLeft a d = .ok (a <<< d) :=
  if_pos h

theorem shiftRight_eq_ok {a : BitVec w} {d : Nat} (h : d < w) : shiftRight a d = .ok (a >>> d) :=
  if_pos h

/-- A shift that keeps the sign goes well by less than the width. -/
theorem signedShiftRight_eq_ok {a : BitVec w} {d : Nat} (h : d < w) :
    signedShiftRight a d = .ok (a.sshiftRight d) :=
  if_pos h

/-- The bit at a place below the width is there. -/
theorem testBit_eq_ok {a : BitVec w} {i : Nat} (h : i < w) : testBit a i = .ok (a.getLsbD i) :=
  if_pos h

/-! ## Arrays -/

/-- The entry of an array at an index. -/
def get (xs : Vector α n) (i : Nat) : Checked α :=
  if h : i < n then .ok xs[i] else .error .index

/-- The array with the entry at an index replaced. -/
def set (xs : Vector α n) (i : Nat) (x : α) : Checked (Vector α n) :=
  if h : i < n then .ok (xs.set i x) else .error .index

/-- The range from `first` up to `last` lies inside an array of `n` entries. -/
def slice (first last n : Nat) : Checked Unit :=
  if first ≤ last ∧ last ≤ n then .ok () else .error .index

/-- The visible register with a number. -/
def register (i : Nat) : Checked Register :=
  if h : i < 16 then .ok ⟨i, h⟩ else .error .index

/-- An index below the length finds its element. -/
theorem get_eq_ok {xs : Vector α n} {i : Nat} (h : i < n) : get xs i = .ok xs[i] := dif_pos h

theorem set_eq_ok {xs : Vector α n} {i : Nat} {x : α} (h : i < n) :
    set xs i x = .ok (xs.set i x) :=
  dif_pos h

/-- A range that ends within the length, and not before it starts, can be taken. -/
theorem slice_eq_ok {first last : Nat} (h : first ≤ last ∧ last ≤ n) :
    slice first last n = .ok () :=
  if_pos h

theorem register_eq_ok {i : Nat} (h : i < 16) : register i = .ok ⟨i, h⟩ := dif_pos h

/-! ## Fields -/

/-- The `l` bits of a word from `start` on, by a shift. -/
def field (a : BitVec w) (start l : Nat) : Checked (BitVec l) := do
  let shifted ← shiftRight a start
  return shifted.setWidth l

/-- The register that the bits of `mask` name after a shift by `start`. -/
def registerField (a : BitVec w) (start : Nat) (mask : BitVec w) : Checked Register := do
  let shifted ← shiftRight a start
  register (shifted &&& mask).toNat

/-- Shifting a field down and masking it takes out the field. -/
theorem field_eq_ok {a : BitVec w} {start l : Nat} (h : start < w) :
    field a start l = .ok (a.extractLsb' start l) := by
  rw [field, shiftRight_eq_ok h, ok_bind, pure_eq_ok]
  refine congrArg _ (BitVec.eq_of_getLsbD_eq fun i hi => ?_)
  rw [BitVec.getLsbD_setWidth, BitVec.getLsbD_ushiftRight, BitVec.getLsbD_extractLsb']

/-- A mask of at most four bits names a register. -/
theorem registerField_eq_ok {a mask : BitVec w} {start l : Nat} (h : start < w) (hl : l ≤ 4)
    (hm : mask.toNat = 1 <<< l - 1) :
    registerField a start mask = .ok ((a.extractLsb' start l).setWidth 4).toFin := by
  have hle : 2 ^ l ≤ 2 ^ 4 := Nat.pow_le_pow_right (by decide) hl
  have hmod := Nat.mod_lt (a.toNat >>> start) (Nat.two_pow_pos l)
  have hv : (a >>> start &&& mask).toNat = a.toNat >>> start % 2 ^ l := by
    rw [BitVec.toNat_and, hm, Nat.one_shiftLeft, Nat.and_two_pow_sub_one_eq_mod,
      BitVec.toNat_ushiftRight]
  rw [registerField, shiftRight_eq_ok h, ok_bind, register_eq_ok (by omega)]
  refine congrArg _ (Fin.ext ?_)
  rw [BitVec.val_toFin, BitVec.toNat_setWidth, BitVec.extractLsb'_toNat, ← hv]
  exact (Nat.mod_eq_of_lt (by omega)).symm

/-! ## Repetition -/

/-- Repeating a step that succeeds on every element. -/
theorem foldlM_eq_ok {f : β → α → Checked β} {g : β → α → β} {xs : List α}
    (h : ∀ x ∈ xs, ∀ y, f y x = .ok (g y x)) (y : β) : xs.foldlM f y = .ok (xs.foldl g y) := by
  induction xs generalizing y with
  | nil => rfl
  | cons x xs ih =>
    rw [List.foldlM_cons, h x List.mem_cons_self, ok_bind, List.foldl_cons]
    exact ih (fun z hz => h z (List.mem_cons_of_mem x hz)) _

end Checked

end Handheld

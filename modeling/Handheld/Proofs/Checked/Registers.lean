import Handheld.Proofs.Checked.Arithmetic
import Handheld.Registers.Exception
import Handheld.Shifter

/-!
# Proofs/Checked/Registers — the registers and the shifter with every operation checked

The banks are an array that a mode's number indexes, r8–r12 are a range of the visible registers
here and an array of their own in a bank, and the shifter shifts only by distances below the width
and computes the place of the bit it shifts out.  None of it goes wrong for any register, mode or
distance.
-/

namespace Handheld

open Checked

/-! ## The shifter -/

namespace ShiftKind

/-- The bit of a word that is `back` places before the place `n`. -/
def checkedBitBefore (v : Word) (n back : Word) : Checked Bool := do
  let place ← sub n back
  testBit v place.toNat

/-- The shifted word and the carry after the shift, by a distance of one to 31. -/
def checkedNear (k : ShiftKind) (v : Word) (n : Nat) : Checked (Word × Bool) := do
  match k with
  | lsl =>
    let out ← checkedBitBefore v 32#32 (BitVec.ofNat 32 n)
    let shifted ← shiftLeft v n
    return (shifted, out)
  | lsr =>
    let out ← checkedBitBefore v (BitVec.ofNat 32 n) 1#32
    let shifted ← shiftRight v n
    return (shifted, out)
  | asr =>
    let out ← checkedBitBefore v (BitVec.ofNat 32 n) 1#32
    let shifted ← signedShiftRight v n
    return (shifted, out)
  | ror =>
    let rotated := v.rotateRight n
    let out ← testBit rotated 31
    return (rotated, out)

/-- The shifted word and the carry after the shift, by a distance of 32 or more. -/
def checkedFar (k : ShiftKind) (v : Word) (n : Nat) : Checked (Word × Bool) :=
  match k with
  | lsl => do
    let out ← testBit v 0
    return (0#32, n = 32 && out)
  | lsr => do
    let out ← testBit v 31
    return (0#32, n = 32 && out)
  | asr => do
    let out ← testBit v 31
    let shifted ← signedShiftRight v 31
    return (shifted, out)
  | ror => do
    let rotated := v.rotateRight (n % 32)
    let out ← testBit rotated 31
    return (rotated, out)

/-- The shifted word and the carry after the shift. -/
def checkedApply (k : ShiftKind) (v : Word) (n : Nat) (carry : Bool) : Checked (Word × Bool) :=
  if n = 0 then return (v, carry)
  else if n < 32 then k.checkedNear v n
  else k.checkedFar v n

variable (v : Word) {n : Nat}

/-- A place that is not below zero and lies in the word holds a bit. -/
theorem checkedBitBefore_eq_ok {m back : Word} (h : back ≤ m) (hb : m.toNat - back.toNat < 32) :
    checkedBitBefore v m back = .ok (v.getLsbD (m.toNat - back.toNat)) := by
  rw [checkedBitBefore, sub_eq_ok (BitVec.le_def.mp h), ok_bind, BitVec.toNat_sub_of_le h,
    testBit_eq_ok hb]

/-- By one to 31 places every shift is within its width, and the place of the bit shifted out is
too. -/
theorem checkedNear_eq_ok (k : ShiftKind) (h₀ : n ≠ 0) (h : n < 32) :
    k.checkedNear v n = .ok (k.shift v n, k.carryOut v n) := by
  have hn : (BitVec.ofNat 32 n).toNat = n := Nat.mod_eq_of_lt (by omega)
  have h₃₂ : (32#32).toNat = 32 := rfl
  have h₁ : (1#32).toNat = 1 := rfl
  have hleft : BitVec.ofNat 32 n ≤ 32#32 := BitVec.le_def.mpr (by omega)
  have hright : 1#32 ≤ BitVec.ofNat 32 n := BitVec.le_def.mpr (by omega)
  cases k with
  | lsl =>
    rw [checkedNear, checkedBitBefore_eq_ok v hleft (by omega), ok_bind, shiftLeft_eq_ok h, ok_bind,
      pure_eq_ok, hn, h₃₂]
    simp [shift, carryOut, Nat.le_of_lt h]
  | lsr =>
    rw [checkedNear, checkedBitBefore_eq_ok v hright (by omega), ok_bind, shiftRight_eq_ok h,
      ok_bind, pure_eq_ok, hn, h₁]
    rfl
  | asr =>
    rw [checkedNear, checkedBitBefore_eq_ok v hright (by omega), ok_bind, signedShiftRight_eq_ok h,
      ok_bind, pure_eq_ok, hn, h₁]
    simp [shift, carryOut, Nat.min_eq_left (show n - 1 ≤ 31 by omega)]
  | ror =>
    rw [checkedNear, testBit_eq_ok (by decide), ok_bind, pure_eq_ok, shift, carryOut,
      BitVec.msb_eq_getLsbD_last]

/-- From 31 places on a shift that keeps the sign leaves nothing but signs. -/
theorem sshiftRight_of_ge (h : 31 ≤ n) : v.sshiftRight n = v.sshiftRight 31 := by
  apply BitVec.eq_of_getLsbD_eq
  intro i hi
  simp only [BitVec.getLsbD_sshiftRight, BitVec.msb_eq_getLsbD_last]
  grind

/-- By 32 places or more what is left is a constant, the sign, or a rotation by the rest modulo
32. -/
theorem checkedFar_eq_ok (k : ShiftKind) (h : 32 ≤ n) :
    k.checkedFar v n = .ok (k.shift v n, k.carryOut v n) := by
  cases k with
  | lsl =>
    rw [checkedFar, testBit_eq_ok (by decide), ok_bind, pure_eq_ok, shift, carryOut,
      BitVec.shiftLeft_eq_zero h]
    refine congrArg (fun out => Except.ok (0#32, out)) ?_
    grind
  | lsr =>
    rw [checkedFar, testBit_eq_ok (by decide), ok_bind, pure_eq_ok, shift, carryOut,
      BitVec.ushiftRight_eq_zero h]
    refine congrArg (fun out => Except.ok (0#32, out)) ?_
    grind
  | asr =>
    rw [checkedFar, testBit_eq_ok (by decide), ok_bind, signedShiftRight_eq_ok (by decide), ok_bind,
      pure_eq_ok, shift, carryOut, sshiftRight_of_ge v (n := n) (by omega),
      Nat.min_eq_right (show 31 ≤ n - 1 by omega)]
  | ror =>
    rw [checkedFar, testBit_eq_ok (by decide), ok_bind, pure_eq_ok, shift, carryOut,
      BitVec.msb_eq_getLsbD_last, BitVec.rotateRight_mod_eq_rotateRight]

/-- **A shift goes well by every distance**, with the word and the carry that it should give. -/
@[simp] theorem checkedApply_eq_ok (k : ShiftKind) (n : Nat) (carry : Bool) :
    k.checkedApply v n carry = .ok (k.apply v n carry) := by
  unfold checkedApply apply
  split
  · rfl
  · split
    · exact checkedNear_eq_ok v k ‹_› ‹_›
    · exact checkedFar_eq_ok v k (by omega)

end ShiftKind

/-- One step of the rotation of word and carry together. -/
def checkedRotateThroughCarry (v : Word) (carry : Bool) : Checked (Word × Bool) := do
  let top ← shiftLeft ((BitVec.ofBool carry).setWidth 32) 31
  let shifted ← shiftRight v 1
  let out ← testBit v 0
  return (shifted ||| top, out)

/-- The carry comes in at the top and the low bit goes out. -/
@[simp] theorem checkedRotateThroughCarry_eq_ok (v : Word) (carry : Bool) :
    checkedRotateThroughCarry v carry = .ok (rotateThroughCarry v carry) := by
  rw [checkedRotateThroughCarry, shiftLeft_eq_ok (by decide), ok_bind, shiftRight_eq_ok (by decide),
    ok_bind, testBit_eq_ok (by decide), ok_bind, pure_eq_ok]
  refine congrArg (fun w => Except.ok (w, v.getLsbD 0)) (BitVec.eq_of_getLsbD_eq fun i hi => ?_)
  rw [BitVec.getLsbD_or, BitVec.getLsbD_ushiftRight, BitVec.getLsbD_shiftLeft,
    BitVec.getLsbD_setWidth, BitVec.getLsbD_append]
  grind

/-! ## Banks -/

namespace Registers

variable (r : Registers)

/-- The stored registers of a mode. -/
def checkedBank (m : Mode) : Checked Bank := get r.banks m.bank

/-- Changes the stored registers of a mode. -/
def checkedMapBank (m : Mode) (f : Bank → Bank) : Checked Registers := do
  let bank ← r.checkedBank m
  let banks ← set r.banks m.bank (f bank)
  return { r with banks }

/-- The visible r8–r12. -/
def checkedHigh : Checked (Vector Word 5) := do
  slice 8 13 16
  return r.high

/-- Replaces the visible r8–r12. -/
def checkedSetHigh (values : Vector Word 5) : Checked Registers := do
  slice 8 13 16
  return r.setHigh values

/-- The bank of every mode is one of the six. -/
@[simp] theorem checkedBank_eq_ok (m : Mode) : r.checkedBank m = .ok (r.banks.get m.bank) :=
  get_eq_ok m.bank.isLt

/-- A change to the bank of a mode writes within the six banks. -/
@[simp] theorem checkedMapBank_eq_ok (m : Mode) (f : Bank → Bank) :
    r.checkedMapBank m f = .ok (r.mapBank m.bank f) := by
  rw [checkedMapBank, checkedBank_eq_ok, ok_bind, set_eq_ok m.bank.isLt, ok_bind, pure_eq_ok]
  rfl

/-- The range of r8–r12 lies in the visible registers. -/
@[simp] theorem checkedHigh_eq_ok : r.checkedHigh = .ok r.high := rfl

/-- The range of r8–r12 has the length of what is copied there. -/
@[simp] theorem checkedSetHigh_eq_ok (values : Vector Word 5) :
    r.checkedSetHigh values = .ok (r.setHigh values) :=
  rfl

/-! ## Modes -/

/-- Stores the visible registers that the mode to come would hide. -/
def checkedStash (next : Mode) : Checked Registers := do
  let r ← r.checkedMapBank r.mode fun b => { b with sp := r.read .sp, link := r.read .link }
  if r.mode = .fastInterrupt then do
    let high ← r.checkedHigh
    r.checkedMapBank .fastInterrupt fun b => { b with high }
  else if next = .fastInterrupt then do
    let high ← r.checkedHigh
    r.checkedMapBank .user fun b => { b with high }
  else return r

/-- Makes the stored registers of a mode visible, coming from the mode `old`. -/
def checkedFetch (old next : Mode) : Checked Registers := do
  let bank ← r.checkedBank next
  let r := (r.write .sp bank.sp).write .link bank.link
  if next = .fastInterrupt then r.checkedSetHigh bank.high
  else if old = .fastInterrupt then do
    let user ← r.checkedBank .user
    r.checkedSetHigh user.high
  else return r

/-- Makes the registers of a mode visible. -/
def checkedSwitchMode (next : Mode) : Checked Registers :=
  if next = r.mode then return r
  else do
    let stashed ← r.checkedStash next
    let fetched ← stashed.checkedFetch r.mode next
    return { fetched with mode := next }

/-- Storing the outgoing registers finds every bank and every range. -/
@[simp] theorem checkedStash_eq_ok (next : Mode) : r.checkedStash next = .ok (r.stash next) := by
  simp only [checkedStash, stash, checkedMapBank_eq_ok, checkedHigh_eq_ok, ok_bind, pure_eq_ok]
  split
  · rfl
  · split <;> rfl

/-- Fetching the incoming registers finds every bank and every range. -/
@[simp] theorem checkedFetch_eq_ok (old next : Mode) :
    r.checkedFetch old next = .ok (r.fetch old next) := by
  simp only [checkedFetch, fetch, checkedBank_eq_ok, checkedSetHigh_eq_ok, ok_bind, pure_eq_ok]
  split
  · next h => subst h; rfl
  · split <;> rfl

/-- **A switch between any two modes goes well.** -/
@[simp] theorem checkedSwitchMode_eq_ok (next : Mode) :
    r.checkedSwitchMode next = .ok (r.switchMode next) := by
  simp only [checkedSwitchMode, switchMode, checkedStash_eq_ok, checkedFetch_eq_ok, ok_bind,
    pure_eq_ok]
  split <;> rfl

/-! ## The status -/

/-- Replaces the whole status and switches to its mode. -/
def checkedWriteStatus (p : Psr) : Checked Registers := do
  let r ← match p.mode? with
    | some m => r.checkedSwitchMode m
    | none => pure r
  return r.setFlags p.toFlags

/-- The status saved for the current mode. -/
def checkedSavedStatus : Checked Psr :=
  if r.mode.savesStatus then do
    let bank ← r.checkedBank r.mode
    return Psr.ofWord bank.savedStatus
  else return r.status

/-- Replaces the status saved for the current mode, if it saves one. -/
def checkedWriteSavedStatus (p : Psr) : Checked Registers :=
  if r.mode.savesStatus then
    r.checkedMapBank r.mode fun b => { b with savedStatus := p.toWord }
  else return r

/-- Enters the mode of a handler, to return to `link`. -/
def checkedEnterException (handler : Mode) (link : Word) : Checked Registers := do
  let entered ← r.checkedSwitchMode handler
  let r ← entered.checkedWriteSavedStatus r.status
  return (r.write .link link).setFlags r.flags.onException

/-- A new status goes well also when it encodes no mode. -/
@[simp] theorem checkedWriteStatus_eq_ok (p : Psr) :
    r.checkedWriteStatus p = .ok (r.writeStatus p) := by
  unfold checkedWriteStatus writeStatus
  cases p.mode? with
  | some m => simp only [checkedSwitchMode_eq_ok, ok_bind, pure_eq_ok]
  | none => rfl

/-- The saved status of a mode that saves one is in its bank. -/
@[simp] theorem checkedSavedStatus_eq_ok : r.checkedSavedStatus = .ok r.savedStatus := by
  unfold checkedSavedStatus savedStatus
  split
  · rw [checkedBank_eq_ok, ok_bind, pure_eq_ok]
    rfl
  · rfl

@[simp] theorem checkedWriteSavedStatus_eq_ok (p : Psr) :
    r.checkedWriteSavedStatus p = .ok (r.writeSavedStatus p) := by
  unfold checkedWriteSavedStatus writeSavedStatus
  split
  · exact r.checkedMapBank_eq_ok r.mode _
  · rfl

/-- The entry into a handler is a switch of modes and two writes. -/
@[simp] theorem checkedEnterException_eq_ok (handler : Mode) (link : Word) :
    r.checkedEnterException handler link = .ok (r.enterException handler link) := by
  simp only [checkedEnterException, checkedSwitchMode_eq_ok, checkedWriteSavedStatus_eq_ok, ok_bind,
    pure_eq_ok]
  rfl

/-! ## The registers of user mode -/

/-- The number of one of r8–r12 among the five that a bank holds. -/
def checkedHighIndex (n : Register) : Checked Nat := do
  let i ← sub (BitVec.ofNat 32 n) 8#32
  return i.toNat

/-- The content of a register as user mode sees it. -/
def checkedReadUser (n : Register) : Checked Word := do
  let user ← r.checkedBank .user
  if r.mode.bank ≠ Mode.user.bank ∧ n = .sp then return user.sp
  else if r.mode.bank ≠ Mode.user.bank ∧ n = .link then return user.link
  else if r.mode = .fastInterrupt ∧ 8 ≤ n.val ∧ n.val < 13 then do
    let i ← checkedHighIndex n
    get user.high i
  else return r.read n

/-- Replaces the content of a register as user mode sees it. -/
def checkedWriteUser (n : Register) (v : Word) : Checked Registers :=
  if r.mode.bank ≠ Mode.user.bank ∧ n = .sp then
    r.checkedMapBank .user fun b => { b with sp := v }
  else if r.mode.bank ≠ Mode.user.bank ∧ n = .link then
    r.checkedMapBank .user fun b => { b with link := v }
  else if r.mode = .fastInterrupt ∧ 8 ≤ n.val ∧ n.val < 13 then do
    let i ← checkedHighIndex n
    let user ← r.checkedBank .user
    let high ← set user.high i v
    r.checkedMapBank .user fun b => { b with high }
  else return r.write n v

/-- An index from r8 on is an index into the five registers of a bank. -/
theorem checkedHighIndex_eq_ok {n : Register} (h : 8 ≤ n.val) :
    checkedHighIndex n = .ok (n.val - 8) := by
  have hn : (BitVec.ofNat 32 n).toNat = n := Nat.mod_eq_of_lt (by omega)
  have hle : (8#32).toNat ≤ (BitVec.ofNat 32 n).toNat := by
    rw [hn]
    exact h
  rw [checkedHighIndex, sub_eq_ok hle, ok_bind, BitVec.toNat_sub_of_le (BitVec.le_def.mpr hle), hn]
  rfl

/-- Every register is found in user mode, visible or in the bank of users. -/
@[simp] theorem checkedReadUser_eq_ok (n : Register) :
    r.checkedReadUser n = .ok (r.readUser n) := by
  rw [checkedReadUser, checkedBank_eq_ok, ok_bind, readUser]
  split
  · rfl
  · split
    · rfl
    · split
      · next h =>
        rw [checkedHighIndex_eq_ok h.2.1, ok_bind, get_eq_ok (by omega)]
        rfl
      · rfl

/-- Every register can be written as user mode sees it, visible or in the bank of users. -/
@[simp] theorem checkedWriteUser_eq_ok (n : Register) (v : Word) :
    r.checkedWriteUser n v = .ok (r.writeUser n v) := by
  unfold checkedWriteUser writeUser
  split
  · exact r.checkedMapBank_eq_ok .user _
  · split
    · exact r.checkedMapBank_eq_ok .user _
    · split
      · next h =>
        rw [checkedHighIndex_eq_ok h.2.1, ok_bind, checkedBank_eq_ok, ok_bind,
          set_eq_ok (by omega), ok_bind, checkedMapBank_eq_ok]
        rfl
      · rfl

end Registers

end Handheld

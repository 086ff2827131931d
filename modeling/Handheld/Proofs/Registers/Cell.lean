import Mathlib.Logic.Function.Basic
import Handheld.Registers.Basic

/-!
# Proofs/Registers/Cell — the registers that the modes share out

A `Cell` is a register as the circuit has it, whichever modes see it: r8–r12 exist twice, stack
pointer and link register once for each bank, and a saved status once for each mode that saves one.
`Cell.of` is the cell that a mode sees under a number and `Cell.number?` its inverse
(`number?_eq_some_iff`); `Cell.stored` reads a cell in the banks, where it is one part of one bank.
-/

namespace Handheld

/-! ## Cells as modes see them -/

/-- A register of the processor, whichever modes see it. -/
inductive Cell where
  /-- r0–r7, which every mode sees. -/
  | low (i : Fin 8)
  /-- r8–r12, those of fast interrupts or those of all other modes. -/
  | high (fast : Bool) (i : Fin 5)
  /-- The stack pointer of a bank. -/
  | sp (bank : Fin 6)
  /-- The link register of a bank. -/
  | link (bank : Fin 6)
  /-- The program counter, which every mode sees. -/
  | pc
  /-- The status that a mode has saved. -/
  | saved (m : { m : Mode // m.savesStatus = true })
  deriving DecidableEq

/-- Two modes that save a status share no bank. -/
theorem Mode.eq_of_bank_eq {m k : Mode} (hm : m.savesStatus = true) (hk : k.savesStatus = true)
    (h : m.bank = k.bank) : m = k := by
  revert hm hk h
  cases m <;> cases k <;> decide

namespace Register

theorem eight_add_lt (i : Fin 5) : 8 + i.val < 16 := by omega

theorem sub_eight_lt {n : Register} (h : 8 ≤ n.val ∧ n.val < 13) : n.val - 8 < 5 := by omega

end Register

namespace Cell

/-- The cell that a mode sees under a register number. -/
def of (m : Mode) (n : Register) : Cell :=
  if h : n.val < 8 then .low ⟨n.val, h⟩
  else if h : n.val < 13 then .high (m = .fastInterrupt) ⟨n.val - 8, by omega⟩
  else if n = .sp then .sp m.bank
  else if n = .link then .link m.bank
  else .pc

/-- The cell that holds the status saved for a mode, if the mode saves one. -/
def saved? (m : Mode) : Option Cell :=
  if h : m.savesStatus = true then some (.saved ⟨m, h⟩) else none

/-- The number under which a mode sees a cell, if it sees it. -/
def number? (m : Mode) : Cell → Option Register
  | low i => some ⟨i.val, by omega⟩
  | high fast i =>
    if fast = decide (m = .fastInterrupt) then some ⟨8 + i.val, Register.eight_add_lt i⟩ else none
  | sp b => if b = m.bank then some .sp else none
  | link b => if b = m.bank then some .link else none
  | pc => some .pc
  | saved _ => none

/-- A mode sees a register through the cell that it has for it. -/
theorem number?_of (m : Mode) (n : Register) : (of m n).number? m = some n := by
  unfold of
  split
  · rfl
  · split
    · simp only [number?, if_true, Option.some.injEq, Fin.ext_iff]
      omega
    · split
      · next h => simp [number?, h]
      · split
        · next h => simp [number?, h]
        · next h₁ h₂ h₃ h₄ =>
          simp only [number?, Option.some.injEq, Fin.ext_iff]
          simp only [Fin.ext_iff] at h₃ h₄
          have := n.isLt
          change 15 = n.val
          change ¬n.val = 13 at h₃
          change ¬n.val = 14 at h₄
          omega

/-- What a mode sees through a cell is the register that has it. -/
theorem of_eq_of_number? {m : Mode} {c : Cell} {n : Register} (h : c.number? m = some n) :
    of m n = c := by
  cases c with
  | low i =>
    obtain rfl := Option.some.inj h
    simp [of]
  | high fast i =>
    simp only [number?, Option.ite_none_right_eq_some, Option.some.injEq] at h
    obtain ⟨rfl, rfl⟩ := h
    simp [of, show ¬8 + i.val < 8 by omega, show 8 + i.val < 13 by omega]
  | sp b =>
    simp only [number?, Option.ite_none_right_eq_some, Option.some.injEq] at h
    obtain ⟨rfl, rfl⟩ := h
    rfl
  | link b =>
    simp only [number?, Option.ite_none_right_eq_some, Option.some.injEq] at h
    obtain ⟨rfl, rfl⟩ := h
    rfl
  | pc =>
    obtain rfl := Option.some.inj h
    rfl
  | saved m' => cases h

/-- **A mode sees a cell under the number of which it is the cell**, and under no other. -/
theorem number?_eq_some_iff {m : Mode} {c : Cell} {n : Register} :
    c.number? m = some n ↔ c = of m n :=
  ⟨fun h => (of_eq_of_number? h).symm, fun h => h ▸ number?_of m n⟩

/-- A mode has one cell for each register. -/
theorem of_injective (m : Mode) {n k : Register} (h : of m n = of m k) : n = k := by
  have := number?_of m n
  rw [h, number?_of] at this
  exact (Option.some.inj this).symm

/-- Every mode has the same program counter, and it has a cell to itself. -/
theorem of_eq_pc_iff {m : Mode} {n : Register} : of m n = .pc ↔ n = .pc :=
  ⟨fun e => of_injective m (e.trans rfl), fun e => e ▸ rfl⟩

/-! ## What user mode sees -/

theorem of_sp (m : Mode) : of m .sp = .sp m.bank := rfl

theorem of_link (m : Mode) : of m .link = .link m.bank := rfl

theorem of_high (m : Mode) {n : Register} (h : 8 ≤ n.val ∧ n.val < 13) :
    of m n = .high (m = .fastInterrupt) ⟨n.val - 8, Register.sub_eight_lt h⟩ := by
  unfold of
  rw [dif_neg (by omega), dif_pos h.2]

/-- The stack pointer of another bank is hidden. -/
theorem number?_sp_of_ne {m k : Mode} (h : k.bank ≠ m.bank) :
    (of m .sp).number? k = none := by
  rw [of_sp, number?, if_neg (Ne.symm h)]

/-- The link register of another bank is hidden. -/
theorem number?_link_of_ne {m k : Mode} (h : k.bank ≠ m.bank) :
    (of m .link).number? k = none := by
  rw [of_link, number?, if_neg (Ne.symm h)]

/-- Fast interrupts hide the r8–r12 of the other modes. -/
theorem number?_high_user {n : Register} (h : 8 ≤ n.val ∧ n.val < 13) :
    (of .user n).number? .fastInterrupt = none := by
  rw [of_high _ h, number?, if_neg (by decide)]

/-- Two modes see the same cell under a number unless a bank keeps them apart. -/
theorem of_eq_of {m k : Mode} {n : Register} (hsp : n = .sp → m.bank = k.bank)
    (hlink : n = .link → m.bank = k.bank)
    (hhigh : 8 ≤ n.val ∧ n.val < 13 → (k = .fastInterrupt ↔ m = .fastInterrupt)) :
    of m n = of k n := by
  unfold of
  split
  · rfl
  · next h =>
    split
    · next h' => simp only [hhigh ⟨by omega, h'⟩]
    · split
      · next e => rw [hsp e]
      · split
        · next e => rw [hlink e]
        · rfl

/-- A register that a mode does not have for itself is that of user mode. -/
theorem of_user_of_shared {m : Mode} {n : Register} (hsp : ¬(m.bank ≠ Mode.user.bank ∧ n = .sp))
    (hlink : ¬(m.bank ≠ Mode.user.bank ∧ n = .link))
    (hhigh : ¬(m = .fastInterrupt ∧ 8 ≤ n.val ∧ n.val < 13)) : of .user n = of m n := by
  refine of_eq_of (fun e => ?_) (fun e => ?_) fun h => ⟨fun e => absurd ⟨e, h⟩ hhigh, nofun⟩
  · exact (Classical.byContradiction fun hb => hsp ⟨hb, e⟩).symm
  · exact (Classical.byContradiction fun hb => hlink ⟨hb, e⟩).symm

/-! ## Cells in the banks -/

theorem get_set {α : Type} {k : Nat} (xs : Vector α k) (i j : Fin k) (v : α) :
    (xs.set i v i.isLt).get j = if i = j then v else xs.get j := by
  change (xs.set i v i.isLt)[j] = if i = j then v else xs[j]
  simp only [Fin.getElem_fin, Vector.getElem_set, Fin.ext_iff]

/-- The bank that holds a cell while no mode that sees the cell is current. -/
def bank? : Cell → Option (Fin 6)
  | low _ | pc => none
  | high fast _ => some (if fast then Mode.fastInterrupt.bank else Mode.user.bank)
  | sp b | link b => some b
  | saved m => some m.val.bank

/-- The content of a cell in the bank that holds it. -/
def part (x : Bank) : Cell → Word
  | low _ | pc => 0#32
  | high _ i => x.high.get i
  | sp _ => x.sp
  | link _ => x.link
  | saved _ => x.savedStatus &&& Psr.present

/-- Replaces the content of a cell in the bank that holds it. -/
def replace (v : Word) (x : Bank) : Cell → Bank
  | low _ | pc => x
  | high _ i => { x with high := x.high.set i v i.isLt }
  | sp _ => { x with sp := v }
  | link _ => { x with link := v }
  | saved _ => { x with savedStatus := v }

/-- What the banks hold for a cell; of r0–r7 and the program counter they hold nothing. -/
def stored (banks : Vector Bank 6) (c : Cell) : Word :=
  match c.bank? with
  | some b => c.part (banks.get b)
  | none => 0#32

/-- Two cells of one bank are different parts of it. -/
theorem part_replace_of_ne {c d : Cell} (h : d ≠ c) (hb : d.bank? = c.bank?) (v : Word)
    (x : Bank) : d.part (c.replace v x) = d.part x := by
  cases c with
  | low i => rfl
  | pc => rfl
  | high fast i =>
    cases d with
    | high fast' i' =>
      have hi : i ≠ i' := by
        rintro rfl
        cases fast <;> cases fast' <;> simp_all [bank?, Mode.bank]
      rw [part, replace, get_set, if_neg hi, part]
    | _ => rfl
  | sp b =>
    cases d with
    | sp b' => exact absurd (congrArg Cell.sp (Option.some.inj hb)) h
    | _ => rfl
  | link b =>
    cases d with
    | link b' => exact absurd (congrArg Cell.link (Option.some.inj hb)) h
    | _ => rfl
  | saved m =>
    cases d with
    | saved m' =>
      have hm := Mode.eq_of_bank_eq m'.property m.property (Option.some.inj hb)
      exact absurd (congrArg Cell.saved (Subtype.ext hm)) h
    | _ => rfl

/-- A bank in which one part is replaced changes one stored cell. -/
theorem stored_set_replace (banks : Vector Bank 6) {c : Cell} {b : Fin 6} (hb : c.bank? = some b)
    (v : Word) (hv : c.part (c.replace v (banks.get b)) = v) :
    stored (banks.set b (c.replace v (banks.get b)) b.isLt)
      = Function.update (stored banks) c v := by
  funext d
  by_cases hd : d = c
  · subst hd
    rw [Function.update_self, stored, hb]
    dsimp only
    rw [get_set, if_pos rfl, hv]
  · rw [Function.update_of_ne hd, stored, stored]
    cases hdb : d.bank? with
    | none => rfl
    | some b' =>
      dsimp only
      rw [get_set]
      split
      · next e =>
        rw [← e] at hdb ⊢
        exact part_replace_of_ne hd (hdb.trans hb.symm) v (banks.get b)
      · rfl

end Cell

end Handheld

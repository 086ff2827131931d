import Handheld.Memory.Ram
import Handheld.Proofs.Memory.Words

/-!
# Proofs/Memory/Flat — a block that repeats nowhere

A block that decodes all bits of an address repeats nowhere, so a word that is stored is read back
from its own place (`loadWord_storeWord`), and words stored to different places are all read back
(`loadWords_storeWords`).
-/

namespace Handheld.Ram

instance (k : Nat) : Memory (Ram k) where
  loadByte m a := (m.loadByte a, m)
  loadHalf m a := (m.loadHalf a, m)
  loadWord m a := (m.loadWord a, m)
  storeByte := storeByte
  storeHalf := storeHalf
  storeWord := storeWord

theorem offset_flat_inj {a b : Word} : offset 32 a = offset 32 b ↔ a = b := by
  have ha : a.toNat % size 32 = a.toNat := Nat.mod_eq_of_lt a.isLt
  have hb : b.toNat % size 32 = b.toNat := Nat.mod_eq_of_lt b.isLt
  rw [offset, offset, Fin.mk.injEq, ha, hb, BitVec.toNat_inj]

variable (m : Ram 32)

/-! ## One word -/

theorem loadByte_storeWord_of_ne {a b : Word} (h : b.alignWord ≠ a.alignWord) (v : Word) :
    (m.storeWord a v).loadByte b = m.loadByte b := by
  have hne {i : Word} (hi : i.toNat < 4) : ¬offset 32 (a.alignWord + i) = offset 32 b := by
    intro e
    rw [offset_flat_inj] at e
    exact h (e ▸ a.alignWord_alignWord_add hi)
  have hfirst : ¬offset 32 a.alignWord = offset 32 b := by
    rw [← BitVec.add_zero a.alignWord]
    exact hne (by decide)
  rw [storeWord, loadByte_storeByte, if_neg (hne (by decide)), loadByte_storeByte,
    if_neg (hne (by decide)), loadByte_storeByte, if_neg (hne (by decide)), loadByte_storeByte,
    if_neg hfirst]

/-- A stored word is read back. -/
theorem loadWord_storeWord_self (a v : Word) : (m.storeWord a v).loadWord a = v := by
  simp [loadWord, storeWord, loadByte_storeByte, offset_flat_inj, Word.ofBytes_byte]

/-- **A word that is stored is read back** from its own place, and nowhere else. -/
theorem loadWord_storeWord (a b v : Word) : (m.storeWord a v).loadWord b
    = if b.alignWord = a.alignWord then v else m.loadWord b := by
  split
  · next h =>
    rw [loadWord, h]
    exact m.loadWord_storeWord_self a v
  · next h =>
    have hother {i : Word} (hi : i.toNat < 4) :
        (m.storeWord a v).loadByte (b.alignWord + i) = m.loadByte (b.alignWord + i) :=
      m.loadByte_storeWord_of_ne (by rwa [b.alignWord_alignWord_add hi]) v
    have hfirst : (m.storeWord a v).loadByte b.alignWord = m.loadByte b.alignWord :=
      m.loadByte_storeWord_of_ne (by rwa [b.alignWord_alignWord]) v
    rw [loadWord, loadWord, hfirst, hother (by decide), hother (by decide), hother (by decide)]

/-! ## Words in a row -/

theorem loadWords_eq (as : List Word) : Memory.loadWords as m = (as.map m.loadWord, m) := by
  induction as with
  | nil => rfl
  | cons a rest ih =>
    have h : Memory.loadWord m a = (m.loadWord a, m) := rfl
    rw [Memory.loadWords, h]
    dsimp only
    rw [ih, List.map_cons]

/-- Words that are stored elsewhere leave a word as it is. -/
theorem loadWord_storeWords_of_notMem {ps : List (Word × Word)} {b : Word}
    (h : ∀ p ∈ ps, b.alignWord ≠ p.1.alignWord) :
    (Memory.storeWords m ps).loadWord b = m.loadWord b := by
  induction ps generalizing m with
  | nil => rfl
  | cons p rest ih =>
    refine (ih (m.storeWord p.1 p.2) fun q hq => h q (List.mem_cons_of_mem _ hq)).trans ?_
    rw [loadWord_storeWord, if_neg (h p List.mem_cons_self)]

/-- **Words that are stored to different places are all read back.** -/
theorem loadWords_storeWords {as vs : List Word} (hlength : vs.length = as.length)
    (hnodup : as.Nodup) (haligned : ∀ a ∈ as, a.alignWord = a) :
    (Memory.loadWords as (Memory.storeWords m (as.zip vs))).1 = vs := by
  rw [loadWords_eq]
  induction as generalizing m vs with
  | nil => exact (List.eq_nil_of_length_eq_zero hlength).symm
  | cons a rest ih =>
    obtain _ | ⟨v, vs⟩ := vs
    · cases hlength
    obtain ⟨ha, hrest⟩ := List.nodup_cons.mp hnodup
    have hrest' (b : Word) (hb : b ∈ rest) : b.alignWord = b :=
      haligned b (List.mem_cons_of_mem _ hb)
    have hhead : (Memory.storeWords (m.storeWord a v) (rest.zip vs)).loadWord a = v := by
      rw [loadWord_storeWords_of_notMem, loadWord_storeWord_self]
      intro p hp e
      have hmem : p.1 ∈ rest := (List.of_mem_zip hp).1
      rw [haligned a List.mem_cons_self, hrest' p.1 hmem] at e
      exact ha (e ▸ hmem)
    exact congrArg₂ List.cons hhead (ih (m.storeWord a v) (Nat.succ.inj hlength) hrest hrest')

end Handheld.Ram

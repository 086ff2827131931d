import Handheld.Proofs.Encoding.Spaces

/-!
# Proofs/Encoding/Grammar — which words encode nothing

A wide word is refused in four places: in the gap of the extensions, if it is none of them; among
the comparisons that set no flags, if it does not concern the status words; where a transfer's
offset would be shifted by a register; and where a register list would be transferred relative to
the program counter.  A narrow one is refused in three ranges and in a part of a fourth.
-/

namespace Handheld

/-- A list of patterns refuses what its first pattern does not fit and the others refuse. -/
theorem some_else_eq_none_iff {α : Type} {p : Prop} [Decidable p] {a : α} {others : Option α} :
    (if p then some a else others) = none ↔ ¬p ∧ others = none := by
  split
  · next h => exact iff_of_false (Option.some_ne_none a) fun hn => hn.1 h
  · next h => exact (and_iff_right h).symm

namespace Wide

variable {w : Word}

/-! ## The refusals of each space -/

/-- In the gap of the extensions: no product and no exchange, and no load or store that exists. -/
def RefusedExtension (w : Word) : Prop :=
  w.extractLsb' 25 3 = 0b000#3 ∧ bit w 7 = true ∧ bit w 4 = true
    ∧ ¬(w.extractLsb' 22 6 = 0b000000#6 ∧ w.extractLsb' 4 4 = 0b1001#4)
    ∧ ¬(w.extractLsb' 23 5 = 0b00001#5 ∧ w.extractLsb' 4 4 = 0b1001#4)
    ∧ ¬(w.extractLsb' 23 5 = 0b00010#5 ∧ w.extractLsb' 20 2 = 0b00#2
      ∧ w.extractLsb' 4 8 = 0b00001001#8)
    ∧ (w.extractLsb' 5 2 = 0b00#2
      ∨ bit w 20 = false ∧ (w.extractLsb' 5 2 = 0b10#2 ∨ w.extractLsb' 5 2 = 0b11#2))

/-- Among the comparisons that set no flags: no jump to a register, and no read or write of a status
word. -/
def RefusedStatus (w : Word) : Prop :=
  w.extractLsb' 26 2 = 0b00#2 ∧ w.extractLsb' 23 2 = 0b10#2 ∧ bit w 20 = false
    ∧ ¬(bit w 25 = false ∧ bit w 7 = true ∧ bit w 4 = true)
    ∧ w.extractLsb' 4 24 ≠ 0x12FFF1#24
    ∧ ¬(w.extractLsb' 23 5 = 0b00010#5 ∧ w.extractLsb' 16 6 = 0b001111#6
      ∧ w.extractLsb' 0 12 = 0#12)
    ∧ ¬(bit w 21 = true ∧ w.extractLsb' 12 4 = 0b1111#4
      ∧ (bit w 25 = true ∨ w.extractLsb' 4 8 = 0#8))

/-- A transfer whose offset a register would shift. -/
def RefusedTransfer (w : Word) : Prop := w.extractLsb' 25 3 = 0b011#3 ∧ bit w 4 = true

/-- A transfer of a register list relative to the program counter. -/
def RefusedBlock (w : Word) : Prop :=
  w.extractLsb' 25 3 = 0b100#3 ∧ w.extractLsb' 16 4 = 0b1111#4

/-- The wide words that encode nothing, whatever their condition. -/
def Refused (w : Word) : Prop :=
  RefusedExtension w ∨ RefusedStatus w ∨ RefusedTransfer w ∨ RefusedBlock w

/-- A short transfer is refused without a kind, and a signed store is refused. -/
theorem halfwordTransfer?_eq_none_iff : halfwordTransfer? w = none ↔
    w.extractLsb' 5 2 = 0b00#2
      ∨ bit w 20 = false ∧ (w.extractLsb' 5 2 = 0b10#2 ∨ w.extractLsb' 5 2 = 0b11#2) := by
  unfold halfwordTransfer?
  generalize bit w 20 = load
  rcases two_bits_cases (w.extractLsb' 5 2) with h | h | h | h
  all_goals
    rw [h]
    cases load
    all_goals simp

theorem writeStatus?_eq_none_iff :
    writeStatus? w = none ↔ ¬(bit w 25 = true ∨ w.extractLsb' 4 8 = 0#8) := by
  rw [writeStatus?, some_else_eq_none_iff, some_else_eq_none_iff, not_or, and_iff_left rfl]

theorem blockTransfer?_eq_none_iff :
    blockTransfer? w = none ↔ w.extractLsb' 16 4 = 0b1111#4 := by
  have hbase : register w 16 = .pc ↔ w.extractLsb' 16 4 = 0b1111#4 := by
    rw [register, ← BitVec.toFin_inj]
    rfl
  rw [blockTransfer?, ← hbase, ite_eq_left_iff, some_else_eq_none_iff]
  simp

/-- The gap among data operations is refused where none of its classes is told. -/
theorem extension?_eq_none_iff (h : InGap w) : extension? w = none ↔ RefusedExtension w := by
  rw [extension?, some_else_eq_none_iff, some_else_eq_none_iff, some_else_eq_none_iff,
    halfwordTransfer?_eq_none_iff, RefusedExtension, and_iff_right h.1, and_iff_right h.2.1,
    and_iff_right h.2.2]

/-- Comparisons that set no flags are refused where they are no transfer of a status. -/
theorem status?_eq_none_iff (h : w.extractLsb' 26 2 = 0b00#2) (hgap : ¬InGap w)
    (hs : IsSilentComparison w) : status? w = none ↔ RefusedStatus w := by
  have hgap' : ¬(bit w 25 = false ∧ bit w 7 = true ∧ bit w 4 = true) := fun hm =>
    hgap ⟨space_eq_iff.mpr ⟨h, hm.1⟩, hm.2⟩
  have hwrite : IsWriteStatus w ↔ bit w 21 = true ∧ w.extractLsb' 12 4 = 0b1111#4 := by
    refine ⟨fun hm => ⟨bit_of_field hm.2.2.1 1 (by decide), hm.2.2.2⟩,
      fun hm => ⟨h, hs.1, ?_, hm.2⟩⟩
    rw [field_eq_iff]
    intro i hi
    match i with
    | 0 => exact hs.2
    | 1 => exact hm.1
  rw [status?, some_else_eq_none_iff, some_else_eq_none_iff, ite_eq_right_iff,
    writeStatus?_eq_none_iff, hwrite, RefusedStatus, and_iff_right h, and_iff_right hs.1,
    and_iff_right hs.2, and_iff_right hgap', ← not_and, and_assoc]

/-! ## The grammar of wide words -/

/-- Among data operations there are two reasons to refuse. -/
theorem refused_of_data (h : w.extractLsb' 26 2 = 0b00#2) :
    Refused w ↔ RefusedExtension w ∨ RefusedStatus w := by
  have htransfer : ¬RefusedTransfer w := fun hr =>
    absurd (h.symm.trans (space_eq_iff.mp hr.1).1) (by decide)
  have hblock : ¬RefusedBlock w := fun hr =>
    absurd (h.symm.trans (space_eq_iff.mp hr.1).1) (by decide)
  rw [Refused, or_iff_left hblock, or_iff_left htransfer]

/-- Elsewhere there are two reasons to refuse. -/
theorem refused_of_upper (h : w.extractLsb' 26 2 ≠ 0b00#2) :
    Refused w ↔ RefusedTransfer w ∨ RefusedBlock w := by
  have hextension : ¬RefusedExtension w := fun hr => h (space_eq_iff.mp hr.1).1
  have hstatus : ¬RefusedStatus w := fun hr => h hr.1
  rw [Refused, or_iff_right hextension, or_iff_right hstatus]

/-- **A wide word encodes nothing exactly if it is refused.** -/
theorem operation?_eq_none_iff : operation? w = none ↔ Refused w := by
  rcases two_bits_cases (w.extractLsb' 26 2) with h | h | h | h
  · rw [operation?_of_data h, refused_of_data h]
    by_cases hgap : InGap w
    · have hstatus : ¬RefusedStatus w := fun hr => hr.2.2.2.1 ⟨(space_eq_iff.mp hgap.1).2, hgap.2⟩
      rw [if_pos hgap, extension?_eq_none_iff hgap, or_iff_left hstatus]
    · have hextension : ¬RefusedExtension w := fun hr => hgap ⟨hr.1, hr.2.1, hr.2.2.1⟩
      rw [if_neg hgap, or_iff_right hextension]
      by_cases hs : IsSilentComparison w
      · rw [if_pos hs, status?_eq_none_iff h hgap hs]
      · have hgap' : ¬(bit w 25 = false ∧ bit w 4 = true ∧ bit w 7 = true) := fun hm =>
          hgap ⟨space_eq_iff.mpr ⟨h, hm.1⟩, hm.2.2, hm.2.1⟩
        rw [if_neg hs, dataOperation?_eq_none_iff, or_iff_right hgap']
        exact iff_of_false hs fun hr => hs ⟨hr.2.1, hr.2.2.1⟩
  · rw [operation?_of_transfer h, refused_of_upper (by rw [h]; decide), RefusedTransfer,
      RefusedBlock, space_eq_iff, space_eq_iff, h]
    simp
  · rw [operation?_of_block h, refused_of_upper (by rw [h]; decide), RefusedTransfer,
      RefusedBlock, space_eq_iff, space_eq_iff, h, some_else_eq_none_iff,
      blockTransfer?_eq_none_iff]
    simp
  · rw [operation?_of_call h, refused_of_upper (by rw [h]; decide), RefusedTransfer,
      RefusedBlock, space_eq_iff, space_eq_iff, h]
    simp [some_else_eq_none_iff]

end Wide

namespace Narrow

variable {h : Half}

/-! ## The grammar of narrow words -/

/-- The narrow words that encode nothing: jumps to a register that link, branches that never take
effect, the second half of a call to wide code, and what is left of the stack operations. -/
def Refused (h : Half) : Prop :=
  (0x4780#16 ≤ h ∧ h ≤ 0x47FF#16)
    ∨ (0xDE00#16 ≤ h ∧ h ≤ 0xDEFF#16)
    ∨ (0xE800#16 ≤ h ∧ h ≤ 0xEFFF#16)
    ∨ (0xB000#16 ≤ h ∧ h ≤ 0xBFFF#16
      ∧ h.extractLsb' 8 4 ∉ [0b0000#4, 0b0100#4, 0b0101#4, 0b1100#4, 0b1101#4])

/-- The words between two bounds are those with some upper bits. -/
theorem between_iff {lo hi : Half} {s l : Nat} {v : BitVec l} (hsl : s + l = 16)
    (hlo : lo.toNat = v.toNat <<< s) (hhi : hi.toNat + 1 = (v.toNat + 1) <<< s) :
    lo ≤ h ∧ h ≤ hi ↔ h.extractLsb' s l = v := by
  have hpow : h.toNat >>> s < 2 ^ l := by
    rw [Nat.shiftRight_eq_div_pow, Nat.div_lt_iff_lt_mul (Nat.two_pow_pos s), ← Nat.pow_add,
      Nat.add_comm l s, hsl]
    exact h.isLt
  rw [← BitVec.toNat_inj, BitVec.extractLsb'_toNat, Nat.mod_eq_of_lt hpow,
    Nat.shiftRight_eq_div_pow, Nat.div_eq_iff (Nat.two_pow_pos s), BitVec.le_def, BitVec.le_def,
    hlo]
  rw [Nat.shiftLeft_eq] at hhi ⊢
  rw [Nat.add_mul, Nat.one_mul] at hhi
  omega

theorem anyRegister?_eq_none_iff : anyRegister? h = none ↔ h.extractLsb' 7 3 = 0b111#3 := by
  rw [field_succ_iff]
  unfold anyRegister?
  rcases two_bits_cases (h.extractLsb' 8 2) with hk | hk | hk | hk
  all_goals
    rw [hk]
    simp

/-- Operations on registers are refused for one pattern of six bits. -/
theorem registers?_eq_none_iff : registers? h = none ↔ h.extractLsb' 7 6 = 0b001111#6 := by
  have hgroup : h.extractLsb' 10 3 = 0b001#3 ↔
      bit h 10 = true ∧ bit h 11 = false ∧ bit h 12 = false := by
    simp [field_succ_iff]
  have hparts : h.extractLsb' 7 6 = 0b001111#6 ↔
      h.extractLsb' 7 3 = 0b111#3 ∧ h.extractLsb' 10 3 = 0b001#3 := field_eq_iff_parts 3 (by decide)
  rw [hparts, hgroup, ← anyRegister?_eq_none_iff, registers?, some_else_eq_none_iff,
    some_else_eq_none_iff]
  cases bit h 10
  all_goals simp [and_comm, and_assoc]

/-- Where bit 12 is set, five of sixteen groups are operations on the stack. -/
theorem stack?_eq_none_iff : stack? h = none ↔ bit h 12 = true ∧
    h.extractLsb' 8 4 ∉ [0b0000#4, 0b0100#4, 0b0101#4, 0b1100#4, 0b1101#4] := by
  unfold stack?
  cases bit h 12
  · cases bit h 11
    all_goals simp
  · simp only [if_true, true_and]
    split
    all_goals simp_all

theorem conditional?_eq_none_iff : conditional? h = none ↔ h.extractLsb' 8 4 = 0b1110#4 := by
  unfold conditional?
  split
  all_goals simp_all

theorem branch?_eq_none_iff : branch? h = none ↔ h.extractLsb' 11 2 = 0b01#2 := by
  unfold branch?
  rcases two_bits_cases (h.extractLsb' 11 2) with hk | hk | hk | hk
  all_goals
    rw [hk]
    simp

/-- The refusals, sorted by the three bits that select a group. -/
theorem refused_iff : Refused h ↔
    (h.extractLsb' 13 3 = 0b010#3 ∧ registers? h = none)
      ∨ (h.extractLsb' 13 3 = 0b110#3 ∧ bit h 12 = true ∧ conditional? h = none)
      ∨ (h.extractLsb' 13 3 = 0b111#3 ∧ branch? h = none)
      ∨ (h.extractLsb' 13 3 = 0b101#3 ∧ stack? h = none) := by
  have hlink : 0x4780#16 ≤ h ∧ h ≤ 0x47FF#16 ↔
      h.extractLsb' 7 6 = 0b001111#6 ∧ h.extractLsb' 13 3 = 0b010#3 :=
    (between_iff (v := 0b010001111#9) rfl rfl rfl).trans (field_eq_iff_parts 6 (by decide))
  have hnever : 0xDE00#16 ≤ h ∧ h ≤ 0xDEFF#16 ↔
      h.extractLsb' 8 4 = 0b1110#4 ∧ h.extractLsb' 12 4 = 0b1101#4 :=
    (between_iff (v := 0b11011110#8) rfl rfl rfl).trans (field_eq_iff_parts 4 (by decide))
  have hbranch : h.extractLsb' 12 4 = 0b1101#4 ↔
      bit h 12 = true ∧ h.extractLsb' 13 3 = 0b110#3 := field_succ_iff
  have hcall : 0xE800#16 ≤ h ∧ h ≤ 0xEFFF#16 ↔
      h.extractLsb' 11 2 = 0b01#2 ∧ h.extractLsb' 13 3 = 0b111#3 :=
    (between_iff (v := 0b11101#5) rfl rfl rfl).trans (field_eq_iff_parts 2 (by decide))
  have hstack : 0xB000#16 ≤ h ∧ h ≤ 0xBFFF#16 ↔
      bit h 12 = true ∧ h.extractLsb' 13 3 = 0b101#3 :=
    (between_iff (v := 0b1011#4) rfl rfl rfl).trans field_succ_iff
  rw [Refused, ← @and_assoc (0xB000#16 ≤ h), hlink, hnever, hbranch, hcall, hstack,
    registers?_eq_none_iff, conditional?_eq_none_iff, branch?_eq_none_iff, stack?_eq_none_iff]
  simp only [and_comm, and_left_comm, and_assoc]

/-- **A narrow word encodes nothing exactly if it is refused.** -/
theorem decode?_eq_none_iff : decode? h = none ↔ Refused h := by
  rw [refused_iff]
  unfold decode?
  rcases three_bits_cases (h.extractLsb' 13 3) with hg | hg | hg | hg | hg | hg | hg | hg
  all_goals
    rw [hg]
    cases bit h 12
    all_goals simp

end Narrow

/-! ## Reports -/

/-- Decoding succeeds exactly with what there is to decode. -/
theorem decode_eq_ok_iff {narrow : Bool} {w : Word} {i : Instruction} :
    decode narrow w = .ok i ↔ decode? narrow w = some i := by
  unfold decode
  split
  · next h => rw [h, Except.ok.injEq, Option.some.injEq]
  · next h => simp [h]

/-- Decoding fails exactly where there is nothing to decode, and tells the word. -/
theorem decode_eq_error_iff {narrow : Bool} {w : Word} {u : Unrecognised} :
    decode narrow w = .error u ↔ decode? narrow w = none ∧ u.word = w := by
  unfold decode
  split
  · next h => simp [h]
  · next h =>
    rw [and_iff_right h, Except.error.injEq]
    exact ⟨fun hu => hu ▸ rfl, fun hu => hu ▸ rfl⟩

/-- **The decoder accepts exactly its grammar**, in words of both widths, and its report of a word
that encodes nothing holds the whole word. -/
theorem decode_refuses_exactly (w : Word) (u : Unrecognised) :
    (decode false w = .error u ↔ Wide.Refused w ∧ u.word = w)
      ∧ (decode true w = .error u ↔ Narrow.Refused w.lowHalf ∧ u.word = w) := by
  constructor
  · have hwide : decode? false w = none ↔ Wide.Refused w := by
      change (Wide.operation? w).map _ = none ↔ _
      rw [Option.map_eq_none_iff, Wide.operation?_eq_none_iff]
    rw [decode_eq_error_iff, hwide]
  · have hnarrow : decode? true w = none ↔ Narrow.Refused w.lowHalf := Narrow.decode?_eq_none_iff
    rw [decode_eq_error_iff, hnarrow]

end Handheld

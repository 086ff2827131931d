import Mathlib.Data.List.Pairwise
import Handheld.Instruction.Text

/-!
# Proofs/Instruction/Runs — the runs of a register list are its maximal runs

The runs of an ascending list, written out one after the other, are the list
(`flatMap_numbers_runs`), and between two of them a number is missing (`pairwise_runs`).  Both
together say that the runs are exactly the maximal ones (`mem_runs_iff`).  The text of a register
list can be written in one pass over the registers, which holds back the last register until it
is known whether its run goes on (`close_foldl_write`).
-/

namespace Handheld

/-- A run covers a number. -/
def Covers (r : Nat × Nat) (n : Nat) : Prop := r.1 ≤ n ∧ n ≤ r.2

/-- A run of numbers with a property that can be made longer at neither end. -/
structure MaximalRun (p : Nat → Prop) (r : Nat × Nat) : Prop where
  /-- It covers a number. -/
  le : r.1 ≤ r.2
  /-- What it covers has the property. -/
  covered : ∀ n, Covers r n → p n
  /-- The number before does not. -/
  before : ∀ n, n + 1 = r.1 → ¬p n
  /-- The number after does not. -/
  after : ¬p (r.2 + 1)

namespace MaximalRun

variable {p : Nat → Prop} {r s : Nat × Nat} {n : Nat}

/-- Of two maximal runs with a number in common neither starts later. -/
theorem first_le (hr : MaximalRun p r) (hs : MaximalRun p s) (hrn : Covers r n)
    (hsn : Covers s n) : r.1 ≤ s.1 := by
  by_contra hlt
  refine hr.before (r.1 - 1) (by omega) (hs.covered _ ⟨by omega, ?_⟩)
  have := hrn.1
  have := hsn.2
  omega

theorem last_le (hr : MaximalRun p r) (hs : MaximalRun p s) (hrn : Covers r n)
    (hsn : Covers s n) : s.2 ≤ r.2 := by
  by_contra hlt
  refine hr.after (hs.covered _ ⟨?_, by omega⟩)
  have := hrn.2
  have := hsn.1
  omega

/-- Maximal runs that cover a common number are the same. -/
theorem eq_of_covers (hr : MaximalRun p r) (hs : MaximalRun p s) (hrn : Covers r n)
    (hsn : Covers s n) : r = s :=
  Prod.ext (Nat.le_antisymm (hr.first_le hs hrn hsn) (hs.first_le hr hsn hrn))
    (Nat.le_antisymm (hs.last_le hr hsn hrn) (hr.last_le hs hrn hsn))

end MaximalRun

/-! ## The runs of a list -/

/-- The numbers that a run covers. -/
def numbers (r : Nat × Nat) : List Nat := List.range' r.1 (r.2 + 1 - r.1)

variable {xs : List Nat} {r : Nat × Nat} {n : Nat}

theorem mem_numbers : n ∈ numbers r ↔ Covers r n := by
  rw [numbers, List.mem_range'_1, Covers]
  omega

theorem mem_flatMap_numbers {rs : List (Nat × Nat)} :
    n ∈ rs.flatMap numbers ↔ ∃ r ∈ rs, Covers r n := by
  simp only [List.mem_flatMap, mem_numbers]

theorem numbers_self (n : Nat) : numbers (n, n) = [n] := by
  rw [numbers, Nat.add_sub_cancel_left]
  rfl

/-- A run is its first number and the run of the others. -/
theorem numbers_succ {last : Nat} (h : n + 1 ≤ last) :
    numbers (n, last) = n :: numbers (n + 1, last) := by
  rw [numbers, numbers, show last + 1 - n = (last + 1 - (n + 1)) + 1 by omega, List.range'_succ]

/-- A number either starts the run that comes next one number earlier, or is a run of its own. -/
theorem runs_cons_cases (n : Nat) (rest : List Nat) :
    (∃ last more, runs rest = (n + 1, last) :: more ∧ runs (n :: rest) = (n, last) :: more)
      ∨ (∀ r ∈ (runs rest).head?, n + 1 ≠ r.1) ∧ runs (n :: rest) = (n, n) :: runs rest := by
  rw [runs]
  cases runs rest with
  | nil => exact .inr ⟨nofun, rfl⟩
  | cons head more =>
    obtain ⟨first, last⟩ := head
    dsimp only
    split
    case isTrue hnext => exact .inl ⟨last, more, by rw [hnext], rfl⟩
    case isFalse hgap =>
      refine .inr ⟨fun r hr => ?_, rfl⟩
      rwa [← Option.some.inj hr]

theorem exists_runs_cons (n : Nat) (rest : List Nat) :
    ∃ last more, runs (n :: rest) = (n, last) :: more := by
  obtain ⟨last, more, -, hruns⟩ | ⟨-, hruns⟩ := runs_cons_cases n rest
  · exact ⟨last, more, hruns⟩
  · exact ⟨n, runs rest, hruns⟩

theorem le_of_mem_runs (h : r ∈ runs xs) : r.1 ≤ r.2 := by
  induction xs generalizing r with
  | nil => cases h
  | cons n rest ih =>
    obtain ⟨last, more, hrest, hruns⟩ | ⟨-, hruns⟩ := runs_cons_cases n rest
    all_goals
      rw [hruns] at h
      rcases List.mem_cons.mp h with rfl | h
    · have hlast : n + 1 ≤ last := ih (hrest ▸ List.mem_cons_self)
      exact Nat.le_of_succ_le hlast
    · exact ih (hrest ▸ List.mem_cons_of_mem _ h)
    · exact Nat.le_refl n
    · exact ih h

/-- **The runs of a list, written out, are the list.** -/
theorem flatMap_numbers_runs (xs : List Nat) : (runs xs).flatMap numbers = xs := by
  induction xs with
  | nil => rfl
  | cons n rest ih =>
    obtain ⟨last, more, hrest, hruns⟩ | ⟨-, hruns⟩ := runs_cons_cases n rest
    · have hlast : n + 1 ≤ last := le_of_mem_runs (hrest ▸ List.mem_cons_self)
      rw [hrest] at ih
      rw [hruns, List.flatMap_cons, numbers_succ hlast, List.cons_append, ← List.flatMap_cons, ih]
    · rw [hruns, List.flatMap_cons, numbers_self, ih, List.singleton_append]

/-- The runs cover the numbers and nothing else. -/
theorem mem_iff_covers : n ∈ xs ↔ ∃ r ∈ runs xs, Covers r n := by
  rw [← mem_flatMap_numbers, flatMap_numbers_runs]

/-- **Between two runs a number is missing.** -/
theorem pairwise_runs (h : xs.Pairwise (· < ·)) :
    (runs xs).Pairwise fun r s => r.2 + 1 < s.1 := by
  induction xs with
  | nil => exact .nil
  | cons n rest ih =>
    obtain ⟨hn, hrest⟩ := List.pairwise_cons.mp h
    have hpairs := ih hrest
    obtain ⟨last, more, hcases, hruns⟩ | ⟨hgap, hruns⟩ := runs_cons_cases n rest
    · rw [hcases] at hpairs
      rw [hruns]
      exact .cons (fun s hs => List.rel_of_pairwise_cons hpairs hs) hpairs.of_cons
    · rw [hruns]
      have hfirst (s) (hs : s ∈ runs rest) : n < s.1 :=
        hn _ (mem_iff_covers.mpr ⟨s, hs, Nat.le_refl _, le_of_mem_runs hs⟩)
      refine .cons (fun s hs => ?_) hpairs
      -- Only the run that comes next could start right after `n`; the others are behind it.
      cases hcases : runs rest with
      | nil => rw [hcases] at hs; cases hs
      | cons head more =>
        have hhead : n < head.1 ∧ n + 1 ≠ head.1 ∧ head.1 ≤ head.2 :=
          ⟨hfirst _ (hcases ▸ List.mem_cons_self), hgap head (by rw [hcases]; rfl),
            le_of_mem_runs (hcases ▸ List.mem_cons_self)⟩
        rw [hcases] at hs hpairs
        change n + 1 < s.1
        rcases List.mem_cons.mp hs with rfl | hs
        · omega
        · have := List.rel_of_pairwise_cons hpairs hs
          omega

/-- A number is missing between two runs. -/
def Apart (r s : Nat × Nat) : Prop := r.2 + 1 < s.1 ∨ s.2 + 1 < r.1

instance : Std.Symm Apart := ⟨fun _ _ => Or.symm⟩

/-- **The runs of ascending numbers are maximal.** -/
theorem maximalRun_of_mem_runs (h : xs.Pairwise (· < ·)) (hr : r ∈ runs xs) :
    MaximalRun (· ∈ xs) r := by
  have hle := le_of_mem_runs hr
  have hapart : (runs xs).Pairwise Apart := (pairwise_runs h).imp Or.inl
  -- A number next to the run lies in no run: not in this one, and the others are apart from it.
  have hnext (n : Nat) (hn : ¬Covers r n) (hbeside : r.1 ≤ n + 1 ∧ n ≤ r.2 + 1) : n ∉ xs := by
    intro hmem
    obtain ⟨s, hs, hfrom, hto⟩ := mem_iff_covers.mp hmem
    obtain rfl | hne := eq_or_ne r s
    · exact hn ⟨hfrom, hto⟩
    · have := hapart.forall hr hs hne
      rw [Apart] at this
      omega
  refine ⟨hle, fun n hn => mem_iff_covers.mpr ⟨r, hr, hn⟩, fun n hn => hnext n ?_ (by omega),
    hnext _ ?_ (by omega)⟩
  all_goals
    rw [Covers]
    omega

/-- **The runs of an ascending list are exactly the maximal runs of its numbers.** -/
theorem mem_runs_iff (h : xs.Pairwise (· < ·)) : r ∈ runs xs ↔ MaximalRun (· ∈ xs) r := by
  refine ⟨maximalRun_of_mem_runs h, fun hr => ?_⟩
  have hfirst : Covers r r.1 := ⟨Nat.le_refl _, hr.le⟩
  obtain ⟨s, hs, hsn⟩ := mem_iff_covers.mp (hr.covered r.1 hfirst)
  rwa [hr.eq_of_covers (maximalRun_of_mem_runs h hs) hfirst hsn]

/-! ## Register lists -/

/-- The runs of a register list. -/
def listRuns (list : Half) : List (Nat × Nat) := runs ((listed list).map Fin.val)

theorem mem_map_val_listed (list : Half) (n : Nat) :
    n ∈ (listed list).map Fin.val ↔ list.getLsbD n = true := by
  rw [List.mem_map]
  constructor
  · rintro ⟨k, hk, rfl⟩
    exact (mem_listed list k).mp hk
  · intro hn
    exact ⟨⟨n, BitVec.lt_of_getLsbD hn⟩, (mem_listed list _).mpr hn, rfl⟩

/-- Registers are listed in ascending order. -/
theorem pairwise_listed (list : Half) : ((listed list).map Fin.val).Pairwise (· < ·) :=
  List.pairwise_map.mpr ((List.pairwise_lt_finRange 16).filter _)

theorem mem_listRuns_iff (list : Half) :
    r ∈ listRuns list ↔ MaximalRun (fun n => list.getLsbD n = true) r := by
  rw [listRuns, mem_runs_iff (pairwise_listed list)]
  simp only [mem_map_val_listed]

theorem covers_listRuns_iff (list : Half) :
    (∃ r ∈ listRuns list, Covers r n) ↔ list.getLsbD n = true := by
  rw [listRuns, ← mem_iff_covers, mem_map_val_listed]

/-- A register list is told by its runs. -/
theorem listRuns_injective {list list' : Half} (h : listRuns list = listRuns list') :
    list = list' := by
  apply BitVec.eq_of_getLsbD_eq
  intro i _
  rw [Bool.eq_iff_iff, ← covers_listRuns_iff, h, covers_listRuns_iff]

/-! ## Writing a list in one pass -/

/-- A register list that is being written: the text so far, the register that was met last, and
whether the text stops before it, because a run that started earlier has come to it. -/
structure ListWriter where
  /-- The text so far. -/
  text : String := ""
  /-- The register that was met last. -/
  last? : Option Nat := none
  /-- The run has more than one register. -/
  isOpen : Bool := false

namespace ListWriter

/-- The text once the run that is being written ends. -/
def close (w : ListWriter) : String :=
  match w.last? with
  | some last => w.text ++ Text.optional w.isOpen ("-R" ++ toString last)
  | none => w.text

/-- Goes on with the next register. -/
def write (w : ListWriter) (n : Nat) : ListWriter :=
  match w.last? with
  | none => { text := w.text ++ "R" ++ toString n, last? := some n }
  | some last =>
    if last + 1 = n then { w with last? := some n, isOpen := true }
    else { text := w.close ++ ",R" ++ toString n, last? := some n }

/-- In a run that started at `first` and has come to `last`, after some text. -/
def within (text : String) (first last : Nat) : ListWriter :=
  { text := text ++ "R" ++ toString first, last? := some last, isOpen := first ≠ last }

theorem close_within (text : String) (first last : Nat) :
    (within text first last).close = text ++ runText (first, last) := by
  simp only [within, close, runText, Text.optional, String.append_assoc]
  by_cases h : first = last
  · simp [h]
  · simp [h]

theorem write_new (n : Nat) : ({} : ListWriter).write n = within "" n n := by
  simp [within, write]

/-- The number after the last extends the run. -/
theorem write_within_next (text : String) {first last : Nat} (h : first ≤ last) :
    (within text first last).write (last + 1) = within text first (last + 1) := by
  have hopen : first ≠ last + 1 := by omega
  simp [within, write, hopen]

/-- A number further on ends the run and begins another. -/
theorem write_within_gap (text : String) (first : Nat) {last n : Nat} (h : last + 1 ≠ n) :
    (within text first last).write n = within (text ++ runText (first, last) ++ ",") n n := by
  have hwrite : (within text first last).write n
      = { text := (within text first last).close ++ ",R" ++ toString n, last? := some n } :=
    if_neg h
  rw [hwrite, close_within, within]
  simp [String.append_assoc]

/-- What is written from within a run on: that run, wherever it ends, and the runs behind it. -/
theorem close_foldl_write_within {text : String} {first last final : Nat} {xs : List Nat}
    {more : List (Nat × Nat)} (h : first ≤ last)
    (hruns : runs (last :: xs) = (last, final) :: more) :
    (xs.foldl write (within text first last)).close
      = text ++ ",".intercalate (((first, final) :: more).map runText) := by
  induction xs generalizing text first last final more with
  | nil =>
    obtain ⟨rfl, rfl⟩ : last = final ∧ [] = more := by simpa [runs] using hruns
    rw [List.foldl_nil, close_within, List.map_singleton, String.intercalate_singleton]
  | cons n xs ih =>
    obtain ⟨final', more', hn⟩ := exists_runs_cons n xs
    rw [List.foldl_cons]
    obtain ⟨final'', more'', hrest, hcons⟩ | ⟨hgap, hcons⟩ := runs_cons_cases last (n :: xs)
    all_goals rw [hcons] at hruns
    · obtain ⟨rfl, rfl⟩ : final'' = final ∧ more'' = more := by simpa using hruns
      obtain rfl : n = last + 1 := by
        rw [hn] at hrest
        exact (Prod.mk.inj (List.cons.inj hrest).1).1
      rw [write_within_next text h, ih (Nat.le_succ_of_le h) hrest]
    · obtain ⟨rfl, rfl⟩ : last = final ∧ (n, final') :: more' = more := by
        simpa [hn] using hruns
      have hn' : last + 1 ≠ n := hgap (n, final') (by rw [hn]; rfl)
      rw [write_within_gap text first hn', ih (Nat.le_refl n) hn, List.map_cons, List.map_cons,
        List.map_cons, String.intercalate_cons_cons]
      simp only [String.append_assoc]

end ListWriter

/-- **A register list can be written in one pass**, from the lowest register to the highest. -/
theorem close_foldl_write (list : Half) :
    (((listed list).map Fin.val).foldl ListWriter.write {}).close = listText list := by
  rw [listText]
  cases (listed list).map Fin.val with
  | nil => rfl
  | cons n xs =>
    obtain ⟨final, more, hruns⟩ := exists_runs_cons n xs
    rw [List.foldl_cons, ListWriter.write_new,
      ListWriter.close_foldl_write_within (Nat.le_refl n) hruns, hruns, String.empty_append]

end Handheld

import Mathlib.Data.List.Basic
import Mathlib.Data.List.TakeWhile
import Handheld.Encoding.Basic
import Handheld.Proofs.Instruction.Runs

/-!
# Proofs/Instruction/BlockText — a block transfer can be read back from its text

The text of a block transfer is cut in one way only: at the blank, after the digits of the base and
at the braces.  What stands before the blank ends in two letters that tell the addressing, and
begins with three that tell the operation, so the condition is what is left, even if it is nothing.
The list is cut at its commas, and each piece tells its run.
-/

namespace Handheld

/-! ## Cutting a text -/

/-- A text does not go on with a character that `p` allows. -/
def Stops (p : Char → Bool) (t : List Char) : Prop := ∀ c ∈ t.head?, p c = false

variable {s s' t t' : List Char} {p : Char → Bool}

theorem stops_nil (p : Char → Bool) : Stops p [] := fun _ h => absurd h (Option.not_mem_none _)

theorem stops_cons {c : Char} (h : p c = false) (t : List Char) : Stops p (c :: t) := fun _ he =>
  Option.some.inj he ▸ h

theorem Stops.takeWhile_eq_nil (h : Stops p t) : t.takeWhile p = [] := by
  cases t with
  | nil => rfl
  | cons c t => rw [List.takeWhile_cons_of_neg (by rw [h c rfl]; exact Bool.false_ne_true)]

/-- **A text is cut in one way only** into characters that `p` allows and a rest that stops them. -/
theorem append_inj_of_stops (hs : ∀ c ∈ s, p c = true) (hs' : ∀ c ∈ s', p c = true)
    (ht : Stops p t) (ht' : Stops p t') (h : s ++ t = s' ++ t') : s = s' ∧ t = t' := by
  have hcut : s = s' := by
    have htake := congrArg (List.takeWhile p) h
    rwa [List.takeWhile_append_of_pos hs, List.takeWhile_append_of_pos hs', ht.takeWhile_eq_nil,
      ht'.takeWhile_eq_nil, List.append_nil, List.append_nil] at htake
  exact ⟨hcut, List.append_cancel_left (hcut ▸ h)⟩

/-- Numbers are read off their digits, up to where the digits stop. -/
theorem toDigits_append_inj {m n : Nat} (ht : Stops Char.isDigit t) (ht' : Stops Char.isDigit t')
    (h : Nat.toDigits 10 m ++ t = Nat.toDigits 10 n ++ t') : m = n ∧ t = t' := by
  have hdigits (k : Nat) : ∀ c ∈ Nat.toDigits 10 k, c.isDigit = true := fun _ =>
    Nat.isDigit_of_mem_toDigits (by decide) (by decide)
  obtain ⟨hcut, hrest⟩ := append_inj_of_stops (hdigits m) (hdigits n) ht ht' h
  have hread := congrArg (Nat.ofDigitChars 10 · 0) hcut
  simp only [Nat.ofDigitChars_toDigits (show 1 < 10 by decide) (show 10 ≤ 10 by decide)] at hread
  exact ⟨hread, hrest⟩

/-! ## Register lists -/

/-- What the text of a run adds to its first register. -/
def runEnd (r : Nat × Nat) : List Char :=
  if r.1 = r.2 then [] else '-' :: 'R' :: Nat.toDigits 10 r.2

theorem toList_runText (r : Nat × Nat) :
    (runText r).toList = 'R' :: (Nat.toDigits 10 r.1 ++ runEnd r) := by
  obtain ⟨first, last⟩ := r
  rw [runText, runEnd]
  dsimp only
  split
  · simp
  · simp

theorem stops_runEnd (r : Nat × Nat) : Stops Char.isDigit (runEnd r) := by
  rw [runEnd]
  split
  · exact stops_nil _
  · exact stops_cons rfl _

/-- The end of a run is empty, or it names the last register. -/
theorem snd_eq_of_runEnd_eq {r s : Nat × Nat} (hfirst : r.1 = s.1) (h : runEnd r = runEnd s) :
    r.2 = s.2 := by
  rw [runEnd, runEnd] at h
  by_cases hr : r.1 = r.2
  · by_cases hs : s.1 = s.2
    · rw [← hr, ← hs, hfirst]
    · rw [if_pos hr, if_neg hs] at h
      cases h
  · by_cases hs : s.1 = s.2
    · rw [if_neg hr, if_pos hs] at h
      cases h
    · rw [if_neg hr, if_neg hs] at h
      have hdigits : Nat.toDigits 10 r.2 ++ [] = Nat.toDigits 10 s.2 ++ [] := by
        rw [(List.cons.inj (List.cons.inj h).2).2]
      exact (toDigits_append_inj (stops_nil _) (stops_nil _) hdigits).1

/-- The text of a run tells its ends, since digits stop where the second register begins. -/
theorem runText_injective : Function.Injective runText := by
  intro r s h
  have hchars := congrArg String.toList h
  rw [toList_runText, toList_runText] at hchars
  obtain ⟨hfirst, hend⟩ :=
    toDigits_append_inj (stops_runEnd r) (stops_runEnd s) (List.cons.inj hchars).2
  exact Prod.ext hfirst (snd_eq_of_runEnd_eq hfirst hend)

theorem comma_notMem_runText (r : Nat × Nat) : ',' ∉ (runText r).toList := by
  have hdigits (n : Nat) : ',' ∉ Nat.toDigits 10 n := fun h =>
    absurd (Nat.isDigit_of_mem_toDigits (by decide) (by decide) h) (by decide)
  rw [toList_runText, runEnd]
  split
  · simp [hdigits]
  · simp [hdigits]

/-- Where there is a run, there is a text. -/
theorem intercalate_runText_ne_empty (r : Nat × Nat) (rs : List (Nat × Nat)) :
    (",".intercalate ((r :: rs).map runText)).toList ≠ [] := by
  rw [String.toList_intercalate]
  cases rs with
  | nil => simp [toList_runText]
  | cons s rs => simp [toList_runText]

/-- The pieces between the commas are the texts of the runs. -/
theorem splitOn_comma (r : Nat × Nat) (rs : List (Nat × Nat)) :
    (",".intercalate ((r :: rs).map runText)).toList.splitOn ','
      = (r :: rs).map fun r => (runText r).toList := by
  rw [String.toList_intercalate, List.map_map]
  refine List.splitOn_intercalate ',' (fun piece hpiece => ?_) (List.cons_ne_nil _ _)
  obtain ⟨r, -, rfl⟩ := List.mem_map.mp hpiece
  exact comma_notMem_runText r

/-- **Runs can be read back from the text of a list.** -/
theorem intercalate_runText_injective :
    Function.Injective fun rs : List (Nat × Nat) => ",".intercalate (rs.map runText) := by
  intro rs ss h
  have hchars := congrArg String.toList h
  cases rs with
  | nil =>
    cases ss with
    | nil => rfl
    | cons s ss => exact absurd hchars.symm (intercalate_runText_ne_empty s ss)
  | cons r rs =>
    cases ss with
    | nil => exact absurd hchars (intercalate_runText_ne_empty r rs)
    | cons s ss =>
      have hpieces : (r :: rs).map (fun r => (runText r).toList)
          = (s :: ss).map fun s => (runText s).toList := by
        rw [← splitOn_comma, ← splitOn_comma]
        exact congrArg (List.splitOn ',') hchars
      exact List.map_injective_iff.mpr
        (fun _ _ he => runText_injective (String.toList_injective he)) hpieces

/-- **A register list can be read back from its text.** -/
theorem listText_injective : Function.Injective listText := fun _ _ h =>
  listRuns_injective (intercalate_runText_injective h)

/-! ## What stands before the blank -/

/-- No two conditions have the same suffix. -/
theorem Condition.suffix_injective : Function.Injective Condition.suffix := by
  have hcodes : ∀ m n : BitVec 4,
      (ofCode m).suffix = (ofCode n).suffix → ofCode m = ofCode n := by decide +kernel
  intro c d h
  rw [← ofCode_code c, ← ofCode_code d] at h ⊢
  exact hcodes _ _ h

theorem Condition.blank_notMem_suffix (c : Condition) : ' ' ∉ c.suffix.toList := by
  cases c
  all_goals decide

namespace Addressing

theorem blockName_inj {mode mode' : Addressing} (h : mode.blockName = mode'.blockName) :
    mode.up = mode'.up ∧ mode.early = mode'.early := by
  have hnames : ∀ up early up' early' : Bool,
      blockName ⟨0, up, early, false⟩ = blockName ⟨0, up', early', false⟩
        → up = up' ∧ early = early' := by decide
  exact hnames _ _ _ _ h

/-- The addressing is told by two letters. -/
theorem blockName_letters (mode : Addressing) :
    mode.blockName.toList.length = 2 ∧ ' ' ∉ mode.blockName.toList := by
  have hnames : ∀ up early : Bool, (blockName ⟨0, up, early, false⟩).toList.length = 2
      ∧ ' ' ∉ (blockName ⟨0, up, early, false⟩).toList := by decide
  exact hnames _ _

end Addressing

/-- The mnemonic of a block transfer. -/
def blockMnemonic (load : Bool) : String := if load then "LDM" else "STM"

/-- The operation is told by three letters. -/
theorem blockMnemonic_letters (load : Bool) :
    (blockMnemonic load).toList.length = 3 ∧ ' ' ∉ (blockMnemonic load).toList := by
  cases load
  all_goals decide

/-- What stands before the blank. -/
def blockHead (load : Bool) (c : Condition) (mode : Addressing) : List Char :=
  (blockMnemonic load).toList ++ (c.suffix.toList ++ mode.blockName.toList)

variable {load load' : Bool} {c c' : Condition} {mode mode' : Addressing}

theorem blank_notMem_blockHead (load : Bool) (c : Condition) (mode : Addressing) :
    ' ' ∉ blockHead load c mode := by
  rw [blockHead, List.mem_append, List.mem_append]
  rintro (h | h | h)
  · exact (blockMnemonic_letters load).2 h
  · exact c.blank_notMem_suffix h
  · exact mode.blockName_letters.2 h

/-- The first three letters and the last two are cut off; the condition is what is left. -/
theorem blockHead_inj (h : blockHead load c mode = blockHead load' c' mode') :
    load = load' ∧ c = c' ∧ mode.up = mode'.up ∧ mode.early = mode'.early := by
  obtain ⟨hmnemonic, h⟩ := List.append_inj h
    ((blockMnemonic_letters load).1.trans (blockMnemonic_letters load').1.symm)
  obtain ⟨hsuffix, hname⟩ := List.append_inj' h
    (mode.blockName_letters.1.trans mode'.blockName_letters.1.symm)
  refine ⟨?_, Condition.suffix_injective (String.toList_injective hsuffix),
    Addressing.blockName_inj (String.toList_injective hname)⟩
  have hmnemonics : ∀ load load' : Bool,
      blockMnemonic load = blockMnemonic load' → load = load' := by decide
  exact hmnemonics _ _ (String.toList_injective hmnemonic)

/-! ## The whole text -/

variable {list list' : Half} {user user' : Bool}

/-- What stands behind the base: its mark, the list, and the mark of the user bank. -/
def blockTail (writeBack : Bool) (list : Half) (user : Bool) : List Char :=
  (Text.optional writeBack "!").toList
    ++ ',' :: '\x7b' :: ((listText list).toList ++ '\x7d' :: (Text.optional user "^").toList)

theorem toList_blockText (load : Bool) (c : Condition) (mode : Addressing) (list : Half)
    (user : Bool) :
    (blockText (blockMnemonic load) c.suffix mode list user).toList
      = blockHead load c mode ++ ' ' :: 'R' ::
        (Nat.toDigits 10 mode.base.val ++ blockTail mode.writeBack list user) := by
  simp [blockText, blockHead, blockTail, Register.text]

theorem stops_blockTail (writeBack : Bool) (list : Half) (user : Bool) :
    Stops Char.isDigit (blockTail writeBack list user) := by
  cases writeBack
  all_goals exact stops_cons rfl _

/-- What follows the base tells the write-back, the list and the mark of user mode. -/
theorem blockTail_inj {writeBack writeBack' : Bool}
    (h : blockTail writeBack list user = blockTail writeBack' list' user') :
    writeBack = writeBack' ∧ list = list' ∧ user = user' := by
  obtain rfl : writeBack = writeBack' := by
    cases writeBack
    all_goals cases writeBack'
    all_goals first | rfl | exact absurd (List.cons.inj h).1 (by decide)
  have hrest := (List.cons.inj (List.cons.inj (List.append_cancel_left h)).2).2
  -- The mark is read off the last character; then the list is what is left.
  have hlast := congrArg List.getLast? hrest
  obtain rfl : user = user' := by
    cases user
    all_goals cases user'
    all_goals first | rfl | exact absurd hlast (by simp [Text.optional])
  exact ⟨rfl, listText_injective (String.toList_injective (List.append_cancel_right hrest)), rfl⟩

/-- **The text of a block transfer tells all of it.** -/
theorem blockText_inj
    (h : blockText (blockMnemonic load) c.suffix mode list user
      = blockText (blockMnemonic load') c'.suffix mode' list' user') :
    load = load' ∧ c = c' ∧ mode = mode' ∧ list = list' ∧ user = user' := by
  have hchars := congrArg String.toList h
  rw [toList_blockText, toList_blockText] at hchars
  have hblank (load : Bool) (c : Condition) (mode : Addressing) :
      ∀ l ∈ blockHead load c mode, (l != ' ') = true := fun l hl =>
    bne_iff_ne.mpr fun he => blank_notMem_blockHead load c mode (he ▸ hl)
  obtain ⟨hhead, hrest⟩ := append_inj_of_stops (p := (· != ' ')) (hblank _ _ _) (hblank _ _ _)
    (stops_cons rfl _) (stops_cons rfl _) hchars
  obtain ⟨hload, hc, hup, hearly⟩ := blockHead_inj hhead
  obtain ⟨hbase, htail⟩ := toDigits_append_inj (stops_blockTail _ _ _) (stops_blockTail _ _ _)
    (List.cons.inj (List.cons.inj hrest).2).2
  obtain ⟨hwriteBack, hlist, huser⟩ := blockTail_inj htail
  refine ⟨hload, hc, ?_, hlist, huser⟩
  cases mode
  cases mode'
  rw [Addressing.mk.injEq]
  exact ⟨Fin.ext hbase, hup, hearly, hwriteBack⟩

/-! ## Block transfers -/

/-- A block transfer. -/
def Operation.block (load : Bool) (mode : Addressing) (list : Half) (user : Bool) : Operation :=
  if load then .loadMultiple mode list user else .storeMultiple mode list user

theorem Operation.exists_block {o : Operation} (h : o.category = .blockTransfer) :
    ∃ load mode list user, o = .block load mode list user := by
  cases o with
  | loadMultiple mode list user => exact ⟨true, mode, list, user, rfl⟩
  | storeMultiple mode list user => exact ⟨false, mode, list, user, rfl⟩
  | load kind => cases kind <;> cases h
  | store kind => cases kind <;> cases h
  | _ => cases h

theorem Operation.text_block (c : String) (load : Bool) (mode : Addressing) (list : Half)
    (user : Bool) :
    (block load mode list user).text c = blockText (blockMnemonic load) c mode list user := by
  cases load
  all_goals rfl

/-- **Two transfers of register lists with the same text are the same instruction.** -/
theorem Instruction.eq_of_text_eq {i j : Instruction} (hi : i.operation.category = .blockTransfer)
    (hj : j.operation.category = .blockTransfer) (h : i.text = j.text) : i = j := by
  obtain ⟨load, mode, list, user, hi⟩ := Operation.exists_block hi
  obtain ⟨load', mode', list', user', hj⟩ := Operation.exists_block hj
  obtain ⟨c, o⟩ := i
  obtain ⟨c', o'⟩ := j
  dsimp only at hi hj
  rw [hi, hj] at h ⊢
  have htext : blockText (blockMnemonic load) c.suffix mode list user
      = blockText (blockMnemonic load') c'.suffix mode' list' user' := by
    rw [← Operation.text_block, ← Operation.text_block]
    exact h
  obtain ⟨rfl, rfl, rfl, rfl, rfl⟩ := blockText_inj htext
  rfl

/-- **A block transfer is written faithfully.**  The text of a register list has one piece for each
maximal run of its registers, in ascending order and with a register missing between two of them: a
run of one register is its number, a longer one its first and its last.  So the runs written out
give back the list, and the text is what one pass over the registers writes.  Two block transfers
with the same text are the same instruction. -/
theorem block_text_faithful :
    (∀ list : Half,
      let rs := listRuns list
      listText list = ",".intercalate (rs.map fun r =>
          if r.1 = r.2 then "R" ++ toString r.1 else "R" ++ toString r.1 ++ "-R" ++ toString r.2)
        ∧ (rs.Pairwise fun r s => r.2 + 1 < s.1)
        ∧ (∀ r, r ∈ rs ↔ MaximalRun (fun n => list.getLsbD n = true) r)
        ∧ (∀ n, n ∈ rs.flatMap numbers ↔ list.getLsbD n = true)
        ∧ (((listed list).map Fin.val).foldl ListWriter.write {}).close = listText list)
      ∧ ∀ i j : Instruction, i.operation.category = .blockTransfer →
        j.operation.category = .blockTransfer → i.text = j.text → i = j := by
  refine ⟨fun list => ?_, fun i j => Instruction.eq_of_text_eq⟩
  intro rs
  refine ⟨?_, pairwise_runs (pairwise_listed list), fun r => mem_listRuns_iff list, fun n => ?_,
    close_foldl_write list⟩
  · refine congrArg (String.intercalate "," <| List.map · rs) (funext fun r => ?_)
    obtain ⟨first, last⟩ := r
    rw [runText]
    split
    · exact String.append_empty
    · exact (String.append_assoc).symm
  · rw [mem_flatMap_numbers]
    exact covers_listRuns_iff list

/-- A push of two registers has the same text in wide and in narrow code. -/
theorem push_text_faithful :
    let wide := (Wide.decode? 0xE92D4010#32).getD default
    let narrow := (Narrow.decode? 0xB510#16).getD default
    wide.text = "STMDB R13!,\x7bR4,R14\x7d" ∧ narrow.text = "STMDB R13!,\x7bR4,R14\x7d"
      ∧ wide = narrow := by
  intro wide narrow
  have hwide : wide.text = "STMDB R13!,\x7bR4,R14\x7d" := by decide +kernel
  have hnarrow : narrow.text = "STMDB R13!,\x7bR4,R14\x7d" := by decide +kernel
  exact ⟨hwide, hnarrow, block_text_faithful.2 wide narrow (by decide +kernel) (by decide +kernel)
    (hwide.trans hnarrow.symm)⟩

end Handheld

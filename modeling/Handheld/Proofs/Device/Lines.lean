import Mathlib.Data.List.Rotate
import Handheld.Proofs.Bus.Protection

/-!
# Proofs/Device/Lines — the lines of a frame, whatever a program writes between them

A line sets the two status bits and raises interrupts by a rule that looks at nothing but its number
and the settings (`has_advanceLine`), and no write touches the counter or a status bit.  The lines
that a run enters are counted through modulo the length of a frame, so a window of that length
enters each line of a frame once: it is a frame, rotated (`map_has_raised`).  Counting over a window
is therefore counting over a frame.
-/

namespace Handheld

/-- The high byte of a halfword as a number. -/
theorem Half.toNat_high (h : Half) : h.high.toNat = (h >>> 8).toNat := by
  rw [high, BitVec.extractLsb'_toNat, BitVec.toNat_ushiftRight, Nat.shiftRight_eq_div_pow]
  have := h.isLt
  omega

namespace Video

/-! ## Runs -/

/-- What happens to a video unit. -/
inductive Action where
  /-- The next line starts. -/
  | advance
  /-- A program writes the bits that `mask` selects of the register around an address. -/
  | write (a : Word) (value mask : Half)

/-- Carries an action out. -/
def perform (v : Video) : Action → Video
  | .advance => v.advanceLine.1
  | .write a value mask => v.write a.alignHalf value mask

/-- Carries some actions out. -/
def performAll (v : Video) (xs : List Action) : Video := xs.foldl perform v

/-- How many lines start. -/
def advances : List Action → Nat
  | [] => 0
  | .advance :: xs => advances xs + 1
  | .write .. :: xs => advances xs

/-- The interrupts that each line raises, in the order of the lines. -/
def raised (v : Video) : List Action → List SourceSet
  | [] => []
  | .advance :: xs => v.advanceLine.2 :: (v.perform .advance).raised xs
  | .write a value mask :: xs => (v.perform (.write a value mask)).raised xs

/-- The bits of the status register that a program can write. -/
def settings (v : Video) : Half := v.status &&& ~~~statusBits

/-- Whenever a line starts, the settings are these. -/
def Keeps (v : Video) (s : Half) (xs : List Action) : Prop :=
  ∀ before after, xs = before ++ .advance :: after → (v.performAll before).settings = s

variable {v : Video} {s : Half} {xs ys : List Action} {x : Action}

theorem Keeps.head (h : v.Keeps s (.advance :: xs)) : v.settings = s := h [] xs rfl

theorem Keeps.tail (h : v.Keeps s (x :: xs)) : (v.perform x).Keeps s xs :=
  fun before after he => h (x :: before) after (congrArg (x :: ·) he)

/-! ## One line -/

/-- Whether a line raises a source: the first one below the picture, every one, and the one asked
for, each if the settings enable it. -/
def raises (s : Half) (line : Nat) : Source → Bool
  | .vBlank => line = 160 && s.getLsbD 3
  | .hBlank => s.getLsbD 4
  | .vCount => line = s.high.toNat && s.getLsbD 5
  | _ => false

/-- The line counter goes round after 228 lines. -/
theorem toNat_line_advanceLine (v : Video) (h : v.line.toNat < 228) :
    v.advanceLine.1.line.toNat = (v.line.toNat + 1) % 228 := by
  have hnext : (v.line + 1).toNat = v.line.toNat + 1 :=
    BitVec.toNat_add_of_lt (by rw [show (1 : Half).toNat = 1 from rfl]; omega)
  change ((v.line + 1) % totalLines).toNat = _
  rw [BitVec.toNat_umod, hnext]
  rfl

/-- The line asked for is the high byte of the settings. -/
theorem eq_asked_iff (v : Video) (line : Half) :
    line = v.settings >>> 8 ↔ line.toNat = v.settings.high.toNat := by
  rw [Half.toNat_high, BitVec.toNat_inj]

/-- **A line raises what its number and the settings say**, and nothing else. -/
theorem has_advanceLine (v : Video) (k : Source) :
    SourceSet.has v.advanceLine.2 k = raises v.settings v.advanceLine.1.line.toNat k := by
  have hraised (on : Bool) (l : Source) :
      SourceSet.has (if on then l.bit else 0#14) k = (on && decide (l = k)) := by
    cases on
    all_goals simp
  have hbelow : v.advanceLine.1.line = visibleLines ↔ v.advanceLine.1.line.toNat = 160 :=
    BitVec.toNat_inj.symm
  change SourceSet.has
    ((if decide (v.advanceLine.1.line = visibleLines) && v.settings.getLsbD 3
        then Source.vBlank.bit else 0#14)
      ||| (if v.settings.getLsbD 4 then Source.hBlank.bit else 0#14)
      ||| (if decide (v.advanceLine.1.line = v.settings >>> 8) && v.settings.getLsbD 5
        then Source.vCount.bit else 0#14)) k = _
  rw [SourceSet.has_or, SourceSet.has_or, hraised, hraised, hraised]
  cases k
  all_goals simp [raises, hbelow, eq_asked_iff]

/-- The status register after a line: the settings, and the two bits that the line sets. -/
theorem status_eq (v : Video) : v.advanceLine.1.status = v.settings
    ||| (if decide (visibleLines ≤ v.advanceLine.1.line) && v.advanceLine.1.line < totalLines - 1
      then 1#16 else 0#16)
    ||| (if decide (v.advanceLine.1.line = v.settings >>> 8) then 4#16 else 0#16) :=
  v.status_setStatus _

/-- A line changes none of the settings. -/
theorem settings_advanceLine (v : Video) : v.advanceLine.1.settings = v.settings := by
  have hbit (on : Bool) (bit : Half) (hb : bit &&& ~~~statusBits = 0#16) :
      (if on then bit else 0#16) &&& ~~~statusBits = 0#16 := by
    cases on
    · exact BitVec.zero_and
    · exact hb
  have hsettings : v.settings &&& ~~~statusBits = v.settings := by
    rw [settings, BitVec.and_assoc, BitVec.and_self]
  rw [settings, status_eq, BitVec.and_or_distrib_right, BitVec.and_or_distrib_right, hsettings,
    hbit _ _ (by decide), hbit _ _ (by decide), BitVec.or_zero, BitVec.or_zero]

/-- The settings that a line compares with are in the high byte of the status. -/
theorem high_settings (v : Video) : v.settings.high = v.status.high := by
  apply BitVec.eq_of_getLsbD_eq
  intro i hi
  have hfree : ∀ j : Fin 8, (~~~statusBits).getLsbD (8 + j) = true := by decide
  rw [Half.high, Half.high, BitVec.getLsbD_extractLsb', BitVec.getLsbD_extractLsb', settings,
    BitVec.getLsbD_and, hfree ⟨i, hi⟩, Bool.and_true]

/-- **A line sets the status bits by its number**, and by the number asked for. -/
theorem status_advanceLine (v : Video) :
    (v.advanceLine.1.status.getLsbD 0 = true
        ↔ 160 ≤ v.advanceLine.1.line.toNat ∧ v.advanceLine.1.line.toNat ≤ 226)
      ∧ v.advanceLine.1.status.getLsbD 1 = false
      ∧ (v.advanceLine.1.status.getLsbD 2 = true
        ↔ v.advanceLine.1.line.toNat = v.advanceLine.1.status.high.toNat) := by
  have hclear (i : Nat) (hi : (~~~statusBits).getLsbD i = false) :
      v.settings.getLsbD i = false := by
    rw [settings, BitVec.getLsbD_and, hi, Bool.and_false]
  have hbit (on : Bool) (bit : Half) (i : Nat) :
      (if on then bit else 0#16).getLsbD i = (on && bit.getLsbD i) := by
    cases on
    · exact BitVec.getLsbD_zero
    · rfl
  rw [← high_settings, settings_advanceLine, ← eq_asked_iff, status_eq]
  simp only [BitVec.getLsbD_or, hbit]
  rw [hclear 0 (by decide), hclear 1 (by decide), hclear 2 (by decide)]
  refine ⟨?_, by simp, by simp⟩
  have hvisible : visibleLines ≤ v.advanceLine.1.line ↔ 160 ≤ v.advanceLine.1.line.toNat :=
    BitVec.le_def
  have hlast : v.advanceLine.1.line < totalLines - 1 ↔ v.advanceLine.1.line.toNat < 227 :=
    BitVec.lt_def
  rw [show (1#16).getLsbD 0 = true from rfl, show (4#16).getLsbD 0 = false from rfl]
  simp only [Bool.false_or, Bool.and_true, Bool.and_false, Bool.or_false, Bool.and_eq_true,
    decide_eq_true_eq, hvisible, hlast]
  omega

/-! ## Runs of lines -/

/-- After some actions the line counter has moved on by the number of advances. -/
theorem line_performAll (v : Video) (h : v.line.toNat < 228) (xs : List Action) :
    (v.performAll xs).line.toNat = (v.line.toNat + advances xs) % 228 := by
  induction xs generalizing v with
  | nil => exact (Nat.mod_eq_of_lt h).symm
  | cons x xs ih =>
    cases x with
    | write a value mask =>
      have hline := v.line_write a.alignHalf value mask
      refine (ih _ (by rw [perform, hline]; exact h)).trans ?_
      rw [perform, hline, advances]
    | advance =>
      have hline := v.toNat_line_advanceLine h
      refine (ih _ (by rw [perform, hline]; omega)).trans ?_
      rw [perform, hline, advances]
      omega

/-- Without an advance no action changes the status bits. -/
theorem statusBits_performAll (v : Video) (h : advances xs = 0) :
    (v.performAll xs).status &&& statusBits = v.status &&& statusBits := by
  induction xs generalizing v with
  | nil => rfl
  | cons x xs ih =>
    cases x with
    | advance => exact absurd h (Nat.succ_ne_zero _)
    | write a value mask =>
      have heven : a.alignHalf.toNat % 2 = 0 := by
        rw [Word.toNat_alignHalf]
        omega
      exact (ih _ h).trans (v.status_write heven value mask)

/-- **The lines that a run enters are counted through**, and each raises by the rule. -/
theorem map_has_raised (h : v.line.toNat < 228) (hs : v.Keeps s xs) (k : Source) :
    (v.raised xs).map (SourceSet.has · k)
      = (List.range (advances xs)).map fun i => raises s ((i + (v.line.toNat + 1)) % 228) k := by
  induction xs generalizing v with
  | nil => rfl
  | cons x xs ih =>
    cases x with
    | write a value mask =>
      have hline := v.line_write a.alignHalf value mask
      have hbound : (v.perform (.write a value mask)).line.toNat < 228 := by
        rw [perform, hline]
        exact h
      have hrest := ih hbound hs.tail
      rw [perform, hline] at hrest
      exact hrest
    | advance =>
      have hline := v.toNat_line_advanceLine h
      have hbound : (v.perform .advance).line.toNat < 228 := by
        rw [perform, hline]
        omega
      have hrest := ih hbound hs.tail
      rw [raised, advances, List.range_succ_eq_map, List.map_cons, List.map_cons, hrest,
        List.map_map, has_advanceLine, hs.head, hline, Nat.zero_add, perform, hline]
      congr 1
      apply List.map_congr_left
      intro i _
      simp only [Function.comp_apply]
      congr 1
      omega

/-- A frame, started at any line, has the lines of a frame. -/
theorem perm_frame (n : Nat) :
    ((List.range 228).map fun i => (i + n) % 228).Perm (List.range 228) := by
  have hrotate : ((List.range 228).map fun i => (i + n) % 228) = (List.range 228).rotate n := by
    apply List.ext_getElem
    · simp
    · intro i hi hi'
      simp [List.getElem_rotate]
  rw [hrotate]
  exact List.rotate_perm _ n

/-- **A window of a frame's length raises what a frame raises.** -/
theorem countP_raised (h : v.line.toNat < 228) (hs : v.Keeps s xs) (hn : advances xs = 228)
    (k : Source) :
    (v.raised xs).countP (SourceSet.has · k) = (List.range 228).countP (raises s · k) := by
  calc (v.raised xs).countP (SourceSet.has · k)
      = ((v.raised xs).map (SourceSet.has · k)).countP id := by rw [List.countP_map]; rfl
    _ = ((List.range 228).map fun i => (i + (v.line.toNat + 1)) % 228).countP (raises s · k) := by
        rw [map_has_raised h hs, hn, List.countP_map, List.countP_map]
        rfl
    _ = (List.range 228).countP (raises s · k) := (perm_frame _).countP_eq _

/-- How often a line of a frame comes, if it comes only when something else holds. -/
theorem countP_frame (line : Nat) (on : Bool) :
    (List.range 228).countP (fun l => l = line && on)
      = if on = true ∧ line < 228 then 1 else 0 := by
  cases on with
  | false => simp
  | true =>
    have hcount : (List.range 228).count line = if line < 228 then 1 else 0 := by
      simp only [List.nodup_range.count, List.mem_range]
    simp only [Bool.and_true, true_and]
    exact hcount

/-- **The lines of a frame come when they are due, and so do their interrupts.**  After any run from
the start, with any writes between the lines, the line counter is the number of lines that have
started, modulo 228.  The next line sets the first status bit exactly from line 160 to line 226 and
the third exactly at the line that the high byte of the status register names, and until another
line starts no write changes a status bit.  No line raises anything but the three interrupts of the
picture.  In a window of 228 lines that all find the same settings, the first interrupt is raised
once, on entering line 160, if bit 3 is set and else never, the second at every line if bit 4 is
set and else never, and the third once if bit 5 is set and the high byte names a line, and else
never. -/
theorem frames_timed (xs : List Action) :
    let v := initial.performAll xs
    let next := v.advanceLine.1
    v.line.toNat = advances xs % 228
      ∧ (next.status.getLsbD 0 = true ↔ 160 ≤ next.line.toNat ∧ next.line.toNat ≤ 226)
      ∧ (next.status.getLsbD 2 = true ↔ next.line.toNat = next.status.high.toNat)
      ∧ (∀ ys, advances ys = 0 →
        (v.performAll ys).status &&& statusBits = v.status &&& statusBits)
      ∧ (∀ k, SourceSet.has v.advanceLine.2 k = raises v.settings next.line.toNat k)
      ∧ ∀ s ys, advances ys = 228 → v.Keeps s ys →
        let times k := (v.raised ys).countP (SourceSet.has · k)
        times .vBlank = (if s.getLsbD 3 then 1 else 0)
          ∧ times .hBlank = (if s.getLsbD 4 then 228 else 0)
          ∧ times .vCount = (if s.getLsbD 5 = true ∧ s.high.toNat ≤ 227 then 1 else 0)
          ∧ ∀ k, k ≠ .vBlank → k ≠ .hBlank → k ≠ .vCount → times k = 0 := by
  intro v next
  have hline : v.line.toNat = advances xs % 228 := by
    have hrun := initial.line_performAll (by decide) xs
    rwa [show initial.line.toNat = 0 from rfl, Nat.zero_add] at hrun
  obtain ⟨hbelow, -, hreached⟩ := v.status_advanceLine
  refine ⟨hline, hbelow, hreached, fun ys => v.statusBits_performAll, v.has_advanceLine, ?_⟩
  intro s ys hn hs times
  have htimes (k : Source) : times k = (List.range 228).countP (raises s · k) :=
    countP_raised (by omega) hs hn k
  refine ⟨?_, ?_, ?_, fun k hv hh hc => ?_⟩
  · rw [htimes]
    exact (countP_frame 160 _).trans (by simp)
  · rw [htimes]
    change (List.range 228).countP (fun _ => s.getLsbD 4) = _
    cases s.getLsbD 4
    all_goals simp
  · rw [htimes]
    exact (countP_frame s.high.toNat _).trans (by simp [Nat.lt_succ_iff])
  · rw [htimes]
    cases k
    all_goals simp [raises] at hv hh hc ⊢

/-- Where no action changes the settings, every line finds those of the start. -/
theorem keeps_settings (h : ∀ x ∈ ys, ∀ v : Video, (v.perform x).settings = v.settings) :
    v.Keeps v.settings ys := by
  intro before after he
  rw [he] at h
  clear he
  induction before generalizing v with
  | nil => rfl
  | cons x before ih =>
    refine (ih (v := v.perform x) fun y hy => h y (List.mem_cons_of_mem x hy)).trans ?_
    exact h x List.mem_cons_self v

/-- All three interrupts are enabled, the third at line 100, and two lines have started. -/
def threeEnabled : List Action := [.write 0x005#32 0x6438#16 0xFFFF#16, .advance, .advance]

/-- With all three interrupts enabled, a whole frame raises each as often as it should. -/
theorem threeEnabled_timed :
    let v := initial.performAll threeEnabled
    let ys := .write lineAddress 0xFFFF#16 0xFFFF#16 :: List.replicate 228 .advance
    v.Keeps 0x6438#16 ys
      ∧ (v.raised ys).countP (SourceSet.has · .vBlank) = 1
      ∧ (v.raised ys).countP (SourceSet.has · .hBlank) = 228
      ∧ (v.raised ys).countP (SourceSet.has · .vCount) = 1 := by
  intro v ys
  have hn : advances ys = 228 := by decide +kernel
  have hset : v.settings = 0x6438#16 := by decide +kernel
  have hs : v.Keeps 0x6438#16 ys := by
    rw [← hset]
    refine keeps_settings fun x hx v => ?_
    rcases List.mem_cons.mp hx with rfl | hx
    · rfl
    · rw [List.eq_of_mem_replicate hx]
      exact v.settings_advanceLine
  obtain ⟨-, -, -, -, -, hwindow⟩ := frames_timed threeEnabled
  obtain ⟨hv, hh, hc, -⟩ := hwindow _ ys hn hs
  exact ⟨hs, hv, hh, hc⟩

end Video

end Handheld

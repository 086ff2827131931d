import Mathlib.Data.List.Induction
import Handheld.Proofs.Interrupt.Source

/-!
# Proofs/Interrupt/Requests — the requests that a history leaves open

A source that is raised waits in the queue until a delivery flags it, and it stays flagged until its
service starts or a program clears its flag.  `Requests` is these two sets and nothing else, and
`Requests.replay` what a history of events makes of them.  Which sources it leaves in either set can
be read off the history itself: those that entered the set and have not left it since
(`has_queue_replay_iff`, `has_flagged_replay_iff`).
-/

namespace Handheld

/-! ## Events and histories -/

/-- What happens to the requests for interrupts. -/
inductive Event where
  /-- A set of sources is raised. -/
  | raised (s : SourceSet)
  /-- The raised sources are delivered. -/
  | delivered
  /-- A source is requested at once. -/
  | requested (k : Source)
  /-- A program writes ones to the flags of a set. -/
  | cleared (s : SourceSet)
  /-- A step services a source. -/
  | serviced (k : Source)

namespace Event

/-- The event raises a source. -/
def Raises (k : Source) : Event → Prop
  | raised s => SourceSet.has s k = true
  | _ => False

/-- The event takes a source out of the flags. -/
def Settles (k : Source) : Event → Prop
  | cleared s => SourceSet.has s k = true
  | serviced l => l = k
  | _ => False

end Event

/-- Something has begun in a history and not ended since.  Whether an event begins it may depend on
what happened before. -/
def Since (begins : List Event → Event → Prop) (ends : Event → Prop) (h : List Event) : Prop :=
  ∃ before e after, h = before ++ e :: after ∧ begins before e ∧ ∀ e' ∈ after, ¬ends e'

/-- A source was raised after the last delivery. -/
def Raised (k : Source) (h : List Event) : Prop :=
  Since (fun _ e => e.Raises k) (fun e => e = .delivered) h

/-- An event flags a source: it requests the source, or delivers it from the queue. -/
def Flagging (k : Source) (before : List Event) (e : Event) : Prop :=
  e = .requested k ∨ e = .delivered ∧ Raised k before

/-- A source was flagged after it was last serviced and its flag last cleared. -/
def Flagged (k : Source) (h : List Event) : Prop := Since (Flagging k) (Event.Settles k) h

theorem not_since_nil (begins : List Event → Event → Prop) (ends : Event → Prop) :
    ¬Since begins ends [] := by
  rintro ⟨before, e, after, h, -⟩
  simp at h

/-- **The last event decides**, unless it neither begins nor ends anything. -/
theorem since_concat_iff {begins : List Event → Event → Prop} {ends : Event → Prop}
    {h : List Event} {e : Event} :
    Since begins ends (h ++ [e]) ↔ begins h e ∨ Since begins ends h ∧ ¬ends e := by
  constructor
  · rintro ⟨before, x, after, heq, hb, ha⟩
    rcases List.eq_nil_or_concat after with rfl | ⟨after, y, rfl⟩
    · obtain ⟨rfl, hx⟩ := List.append_inj' heq rfl
      obtain rfl := List.singleton_inj.mp hx
      exact .inl hb
    · rw [List.concat_eq_append] at heq ha
      rw [← List.cons_append, ← List.append_assoc] at heq
      obtain ⟨rfl, hy⟩ := List.append_inj' heq rfl
      obtain rfl := List.singleton_inj.mp hy
      exact .inr ⟨⟨before, x, after, rfl, hb, fun e' he => ha e' (by simp [he])⟩,
        ha e (by simp)⟩
  · rintro (hb | ⟨⟨before, x, after, rfl, hb, ha⟩, he⟩)
    · exact ⟨h, e, [], rfl, hb, by simp⟩
    · refine ⟨before, x, after ++ [e], by simp, hb, fun e' he' => ?_⟩
      rcases List.mem_append.mp he' with he' | he'
      · exact ha e' he'
      · rwa [List.mem_singleton.mp he']

/-! ## The two sets -/

/-- The sources that were raised and those that are flagged. -/
@[ext] structure Requests where
  /-- The raised sources. -/
  queue : SourceSet := 0#14
  /-- The flagged sources. -/
  flagged : SourceSet := 0#14

namespace Requests

/-- What an event does to the requests. -/
def apply (r : Requests) : Event → Requests
  | .raised s => { r with queue := r.queue ||| s }
  | .delivered => ⟨0#14, r.flagged ||| r.queue⟩
  | .requested k => { r with flagged := r.flagged.insert k }
  | .cleared s => { r with flagged := r.flagged &&& ~~~s }
  | .serviced k => { r with flagged := SourceSet.erase r.flagged k }

/-- What some events do to the requests. -/
def applyAll (r : Requests) (h : List Event) : Requests := h.foldl apply r

/-- The requests that a history leaves open. -/
def replay (h : List Event) : Requests := applyAll {} h

theorem applyAll_append (r : Requests) (h h' : List Event) :
    r.applyAll (h ++ h') = (r.applyAll h).applyAll h' := List.foldl_append

/-- A history goes on from where its first part leads. -/
theorem replay_append (h h' : List Event) : replay (h ++ h') = (replay h).applyAll h' :=
  applyAll_append {} h h'

/-- Clearing two sets at once is clearing one after the other. -/
theorem applyAll_cleared_or (r : Requests) (s t : SourceSet) :
    r.applyAll [.cleared (s ||| t)] = r.applyAll ([.cleared s] ++ [.cleared t]) :=
  Requests.ext rfl (SourceSet.ext fun k => by simp [applyAll, apply, Bool.and_assoc])

/-- **A source is in the queue exactly if it was raised after the last delivery.** -/
theorem has_queue_replay_iff (h : List Event) (k : Source) :
    SourceSet.has (replay h).queue k = true ↔ Raised k h := by
  induction h using List.reverseRecOn with
  | nil => exact iff_of_false (by simp [replay, applyAll]) (not_since_nil _ _)
  | append_singleton h e ih =>
    rw [Raised, since_concat_iff, ← Raised, ← ih, replay_append]
    cases e <;> simp [applyAll, apply, Event.Raises, or_comm]

/-- **A source is flagged exactly if it was delivered or requested after it was last serviced and
cleared.** -/
theorem has_flagged_replay_iff (h : List Event) (k : Source) :
    SourceSet.has (replay h).flagged k = true ↔ Flagged k h := by
  induction h using List.reverseRecOn with
  | nil => exact iff_of_false (by simp [replay, applyAll]) (not_since_nil _ _)
  | append_singleton h e ih =>
    rw [Flagged, since_concat_iff, ← Flagged, ← ih, replay_append]
    have hq := has_queue_replay_iff h k
    cases e <;> simp [applyAll, apply, Flagging, Event.Settles, hq, or_comm]

end Requests

end Handheld

import Handheld.Bus.Basic
import Handheld.Proofs.Interrupt.Source

/-!
# Proofs/Interrupt/Delivery — requests that are made together

Requesting sources one after the other is requesting their set at once: they are all flagged, and a
halt ends if one of them is enabled (`foldl_request`).  So the order in which a queue is delivered
does not matter, and a delivery requests the queue as a set (`deliver_eq`).
-/

namespace Handheld

namespace SourceSet

/-- The set of the sources in a list. -/
def ofList (ks : List Source) : SourceSet := ks.foldr (fun k s => k.bit ||| s) 0#14

theorem ofList_cons (k : Source) (ks : List Source) : ofList (k :: ks) = k.bit ||| ofList ks := rfl

@[simp] theorem has_ofList (ks : List Source) (k : Source) :
    has (ofList ks) k = decide (k ∈ ks) := by
  induction ks with
  | nil => simp [ofList]
  | cons l ks ih => simp [ofList_cons, ih, eq_comm]

theorem ofList_append (ks ls : List Source) : ofList (ks ++ ls) = ofList ks ||| ofList ls :=
  ext fun k => by simp

theorem ofList_filter_has (s : SourceSet) : ofList (Source.all.filter (has s)) = s :=
  ext fun k => by simp [Source.mem_all]

end SourceSet

namespace Controller

/-- No source of a set is enabled. -/
def Ignores (c : Controller) (s : SourceSet) : Prop := c.enabled &&& s = 0#14

/-- Requests all sources of a set. -/
def requestAll (c : Controller) (s : SourceSet) : Controller :=
  { c with flagged := c.flagged ||| s, halted := c.halted && c.enabled &&& s == 0#14 }

variable {c : Controller} {s t : SourceSet}

/-- Some sources are ignored exactly if none of them is enabled. -/
theorem ignores_iff :
    c.Ignores s ↔ ∀ k, SourceSet.has s k = true → SourceSet.has c.enabled k = false := by
  rw [Ignores, SourceSet.eq_empty_iff]
  refine forall_congr' fun k => ?_
  rw [SourceSet.has_and]
  cases SourceSet.has s k
  all_goals simp

theorem ignores_empty : c.Ignores 0#14 := BitVec.and_zero

theorem ignores_or_iff : c.Ignores (s ||| t) ↔ c.Ignores s ∧ c.Ignores t := by
  rw [ignores_iff, ignores_iff, ignores_iff, ← forall_and]
  refine forall_congr' fun k => ?_
  rw [SourceSet.has_or, Bool.or_eq_true, or_imp]

theorem not_ignores_iff : ¬c.Ignores s
    ↔ ∃ k, SourceSet.has s k = true ∧ SourceSet.has c.enabled k = true := by
  simp [ignores_iff]

theorem requestAll_empty (c : Controller) : c.requestAll 0#14 = c := by
  simp [requestAll]

theorem requestAll_requestAll (c : Controller) (s t : SourceSet) :
    (c.requestAll s).requestAll t = c.requestAll (s ||| t) := by
  have hs : c.enabled &&& (s ||| t) = 0#14 ↔ c.enabled &&& s = 0#14 ∧ c.enabled &&& t = 0#14 :=
    ignores_or_iff
  simp only [requestAll, Controller.mk.injEq, BitVec.or_assoc, true_and, and_true]
  rw [Bool.and_assoc, Bool.eq_iff_iff]
  simp only [Bool.and_eq_true, beq_iff_eq, hs]

/-- A request is a request of its source alone. -/
theorem request_eq_requestAll (c : Controller) (k : Source) : c.request k = c.requestAll k.bit := by
  have hk : (c.enabled &&& k.bit == 0#14) = !SourceSet.has c.enabled k := by
    rw [Bool.eq_iff_iff, beq_iff_eq, ← Ignores, ignores_iff]
    simp
  rw [request, requestAll, hk]
  rfl

/-- **Requesting sources one after the other is requesting their set.** -/
theorem foldl_request (c : Controller) (ks : List Source) :
    ks.foldl request c = c.requestAll (SourceSet.ofList ks) := by
  induction ks generalizing c with
  | nil => exact c.requestAll_empty.symm
  | cons k ks ih =>
    rw [List.foldl_cons, ih, request_eq_requestAll, requestAll_requestAll, SourceSet.ofList_cons]

/-- Requests that no enabled source makes are flagged and change nothing else. -/
theorem requestAll_of_ignores (h : c.Ignores s) :
    c.requestAll s = { c with flagged := c.flagged ||| s } := by
  rw [requestAll, h]
  simp

/-- Ignored requests make nothing pending. -/
theorem pending_requestAll_of_ignores (h : c.Ignores s) : (c.requestAll s).pending = c.pending := by
  have hready : c.enabled &&& (c.flagged ||| s) = c.ready := by
    rw [BitVec.and_or_distrib_left, h, BitVec.or_zero, ready]
  rw [requestAll_of_ignores h, pending, pending, ready, hready]

/-- **An enabled source ends a halt.** -/
theorem halted_requestAll_of_not_ignores (h : ¬c.Ignores s) :
    (c.requestAll s).halted = false := by
  rw [requestAll, beq_eq_false_iff_ne.mpr h, Bool.and_false]

end Controller

namespace Bus

/-- **A delivery requests the queue as a set.** -/
theorem deliver_eq (b : Bus) :
    b.deliver = { b with interrupts := b.interrupts.requestAll b.queue, queue := 0#14 } := by
  rw [deliver, Controller.foldl_request, SourceSet.ofList_filter_has]

end Bus

end Handheld

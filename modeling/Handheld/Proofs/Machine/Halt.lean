import Handheld.Proofs.Interrupt.Delivery
import Handheld.Proofs.Machine.Failure

/-!
# Proofs/Machine/Halt — a halted processor sleeps until an enabled source asks for it

A request reaches the console by the queue or at once; either way it has been made when the next
step looks at the controller (`deliver_arrive`).  While no enabled source is among the requests a
step of a halted processor flags them and lets one cycle pass, and so does every step of a run
(`runAmid_of_asleep`).  The first enabled source ends the halt in the step before which it arrives,
whether interrupts are on or not (`halt_freezes`).
-/

namespace Handheld

/-! ## Arrivals -/

/-- How a request reaches the console. -/
inductive Arrival where
  /-- It is raised and waits for the next step. -/
  | raised (k : Source)
  /-- It is requested from the controller at once. -/
  | requested (k : Source)

namespace Arrival

/-- Who requests. -/
def source : Arrival → Source
  | raised k | requested k => k

/-- The arrival as an action on the bus. -/
def action : Arrival → Bus.Action
  | raised k => .raise k
  | requested k => .request k

/-- The sources of some arrivals. -/
def sources (xs : List Arrival) : SourceSet := SourceSet.ofList (xs.map source)

theorem has_sources_iff {xs : List Arrival} {k : Source} :
    SourceSet.has (sources xs) k = true ↔ ∃ x ∈ xs, x.source = k := by
  rw [sources, SourceSet.has_ofList, decide_eq_true_iff, List.mem_map]

theorem sources_append (xs ys : List Arrival) :
    sources (xs ++ ys) = sources xs ||| sources ys := by
  rw [sources, List.map_append, SourceSet.ofList_append, sources, sources]

end Arrival

/-- **Which way a request arrives does not matter to the next step.** -/
theorem Bus.deliver_performAll_arrivals (b : Bus) (xs : List Arrival) :
    (b.performAll (xs.map Arrival.action)).deliver = { b with
      interrupts := b.interrupts.requestAll (b.queue ||| Arrival.sources xs)
      queue := 0#14 } := by
  induction xs generalizing b with
  | nil =>
    rw [show Arrival.sources [] = 0#14 from rfl, BitVec.or_zero]
    exact b.deliver_eq
  | cons x xs ih =>
    refine (ih (b.perform x.action)).trans ?_
    have hx : Arrival.sources (x :: xs) = x.source.bit ||| Arrival.sources xs := rfl
    rw [hx]
    cases x with
    | raised k =>
      change { b with
        interrupts := b.interrupts.requestAll (b.queue ||| k.bit ||| Arrival.sources xs)
        queue := 0#14 } = _
      rw [BitVec.or_assoc]
      rfl
    | requested k =>
      change { b with
        interrupts := (b.interrupts.request k).requestAll (b.queue ||| Arrival.sources xs)
        queue := 0#14 } = _
      rw [Controller.request_eq_requestAll, Controller.requestAll_requestAll, ← BitVec.or_assoc,
        BitVec.or_comm k.bit, BitVec.or_assoc]
      rfl

namespace Machine

/-- Requests arrive. -/
def arrive (m : Machine) (xs : List Arrival) : Machine :=
  { m with bus := m.bus.performAll (xs.map Arrival.action) }

/-- Some steps in a row, before each of which requests arrive, and their results. -/
def runAmid (m : Machine) : List (List Arrival) → List (Except Fault Nat) × Machine
  | [] => ([], m)
  | xs :: xss =>
    let (result, m) := (m.arrive xs).step
    let (results, m) := m.runAmid xss
    (result :: results, m)

/-- The processor is halted, and no interrupt waits to be taken. -/
structure Asleep (m : Machine) : Prop where
  /-- It is halted. -/
  halted : m.bus.interrupts.halted = true
  /-- No interrupt waits. -/
  pending : m.bus.interrupts.pending = false

/-- The machine when it has slept for some cycles and a set of sources was flagged meanwhile. -/
def slept (m : Machine) (s : SourceSet) (cycles : Nat) : Machine :=
  { m with
    bus := { m.bus with
      interrupts := { m.bus.interrupts with flagged := m.bus.interrupts.flagged ||| s }
      queue := 0#14 }
    cycles := m.cycles + BitVec.ofNat 64 cycles }

/-- To sleep and sleep on is to sleep for the sum. -/
theorem slept_slept (m : Machine) (s t : SourceSet) (c d : Nat) :
    (m.slept s c).slept t d = m.slept (s ||| t) (c + d) := by
  simp only [slept, BitVec.or_assoc, BitVec.add_assoc, BitVec.ofNat_add]

variable {m : Machine}

theorem deliver_arrive (m : Machine) (xs : List Arrival) : (m.arrive xs).deliver = { m with
    bus := { m.bus with
      interrupts := m.bus.interrupts.requestAll (m.bus.queue ||| Arrival.sources xs)
      queue := 0#14 } } :=
  congrArg (fun b => { m with bus := b }) (m.bus.deliver_performAll_arrivals xs)

/-! ## Sleeping on -/

/-- A step of a sleeping processor to which no enabled source arrives. -/
theorem step_of_asleep (h : m.Asleep) {xs : List Arrival}
    (hs : m.bus.interrupts.Ignores (m.bus.queue ||| Arrival.sources xs)) :
    (m.arrive xs).step
      = (.ok haltCycles, m.slept (m.bus.queue ||| Arrival.sources xs) haltCycles) := by
  have hd := m.deliver_arrive xs
  have ht : (m.arrive xs).taken? = none := by
    rw [taken?_eq_none_iff, hd]
    exact (Controller.pending_requestAll_of_ignores hs).trans h.pending
  rw [Controller.requestAll_of_ignores hs] at hd
  have hh : (m.arrive xs).deliver.bus.interrupts.halted = true := by
    rw [hd]
    exact h.halted
  rw [step_idle ht hh, hd]
  rfl

theorem Asleep.slept (h : m.Asleep) {s : SourceSet} (hs : m.bus.interrupts.Ignores s)
    (cycles : Nat) : (m.slept s cycles).Asleep := by
  refine ⟨h.halted, ?_⟩
  rw [← h.pending, ← Controller.pending_requestAll_of_ignores hs,
    Controller.requestAll_of_ignores hs]
  rfl

/-- **A sleeping processor sleeps on** as long as no enabled source arrives. -/
theorem runAmid_of_asleep (h : m.Asleep) (xs : List Arrival) (xss : List (List Arrival))
    (hq : m.bus.interrupts.Ignores m.bus.queue)
    (hs : m.bus.interrupts.Ignores (Arrival.sources (xs :: xss).flatten)) :
    m.runAmid (xs :: xss) = (List.replicate (xs :: xss).length (.ok haltCycles),
      m.slept (m.bus.queue ||| Arrival.sources (xs :: xss).flatten) (xs :: xss).length) := by
  -- The first step delivers the queue, so the steps after it start from an empty one.
  induction xss generalizing m xs with
  | nil =>
    rw [List.flatten_singleton] at hs ⊢
    have hstep := step_of_asleep h (Controller.ignores_or_iff.mpr ⟨hq, hs⟩)
    simp only [runAmid, hstep]
    rfl
  | cons ys xss ih =>
    rw [List.flatten_cons, Arrival.sources_append, Controller.ignores_or_iff] at hs
    have hxs := Controller.ignores_or_iff.mpr ⟨hq, hs.1⟩
    have hrest := ih (h.slept hxs haltCycles) ys Controller.ignores_empty hs.2
    rw [slept_slept, show (m.slept _ haltCycles).bus.queue = 0#14 from rfl, BitVec.zero_or,
      BitVec.or_assoc, ← Arrival.sources_append, ← List.flatten_cons, haltCycles, Nat.add_comm]
      at hrest
    rw [runAmid, step_of_asleep h hxs]
    dsimp only [haltCycles]
    rw [hrest]
    rfl

/-! ## Waking -/

/-- Some requests end a halt before the next step does anything else.  With interrupts on it then
services the first of the sources that are enabled and flagged, and with interrupts off it executes
the instruction at the program counter. -/
structure WokenBy (m : Machine) (xs : List Arrival) : Prop where
  /-- The delivery ends the halt. -/
  awake : (m.arrive xs).deliver.bus.interrupts.halted = false
  /-- With interrupts on a source is serviced. -/
  services : m.bus.interrupts.master = true → ∃ k, (m.arrive xs).Services k
  /-- With interrupts off the program goes on where it was. -/
  executes : m.bus.interrupts.master = false →
    (m.arrive xs).step = (m.arrive xs).deliver.executeNext
      ∧ (m.arrive xs).deliver.Executed (m.arrive xs).step
      ∧ (m.arrive xs).deliver.registers = m.registers

/-- **An enabled source wakes the processor**, whether interrupts are on or not. -/
theorem wokenBy_of_enabled {xs : List Arrival} {x : Arrival} (hx : x ∈ xs)
    (hk : SourceSet.has m.bus.interrupts.enabled x.source = true) : m.WokenBy xs := by
  have hd : (m.arrive xs).deliver.bus.interrupts
      = m.bus.interrupts.requestAll (m.bus.queue ||| Arrival.sources xs) :=
    congrArg (fun m => m.bus.interrupts) (m.deliver_arrive xs)
  have harrived : SourceSet.has (m.bus.queue ||| Arrival.sources xs) x.source = true := by
    rw [SourceSet.has_or, Arrival.has_sources_iff.mpr ⟨x, hx, rfl⟩, Bool.or_true]
  have hawake : (m.arrive xs).deliver.bus.interrupts.halted = false := by
    refine (congrArg Controller.halted hd).trans ?_
    exact Controller.halted_requestAll_of_not_ignores
      (Controller.not_ignores_iff.mpr ⟨x.source, harrived, hk⟩)
  have hmaster : (m.arrive xs).deliver.bus.interrupts.master = m.bus.interrupts.master := by
    rw [hd]
    rfl
  have hready : SourceSet.has (m.arrive xs).deliver.bus.interrupts.ready x.source = true := by
    refine (congrArg (fun c => SourceSet.has c.ready x.source) hd).trans ?_
    simp [Controller.requestAll, Controller.ready, hk, harrived]
  refine ⟨hawake, fun hon => ?_, fun hoff => ?_⟩
  · have hne : (m.arrive xs).deliver.bus.interrupts.ready ≠ 0#14 := fun h => by
      rw [SourceSet.eq_empty_iff.mp h] at hready
      cases hready
    obtain ⟨k, ht⟩ := Option.isSome_iff_exists.mp
      (taken?_isSome_iff.mpr ⟨hmaster.trans hon, hne⟩)
    exact ⟨k, services_of_taken? ht⟩
  · have ht : (m.arrive xs).taken? = none := by
      rw [taken?_eq_none_iff, Controller.pending, hmaster, hoff]
      rfl
    refine ⟨?_, executed_step ht hawake, rfl⟩
    rw [step_execute ht hawake, executeNext_eq]

/-- **A halt lasts until an enabled source asks for the processor.**  While a processor is halted,
no interrupt waits and no enabled source is queued or arrives, every step costs one cycle, and after
some steps nothing has changed but the flags, which have gained exactly the sources that were queued
or have arrived, and the counter of cycles.  The next step before which an enabled source arrives
leaves the halt. -/
theorem halt_freezes (m : Machine) (h : m.Asleep) (hq : m.bus.interrupts.Ignores m.bus.queue)
    (xss : List (List Arrival))
    (hs : m.bus.interrupts.Ignores (Arrival.sources xss.flatten)) :
    let asleep := (m.runAmid xss).2
    (m.runAmid xss).1 = List.replicate xss.length (.ok haltCycles)
      ∧ (xss ≠ [] →
        asleep = m.slept (m.bus.queue ||| Arrival.sources xss.flatten) xss.length)
      ∧ asleep.bus.interrupts.halted = true
      ∧ ∀ xs x, x ∈ xs → SourceSet.has m.bus.interrupts.enabled x.source = true →
        asleep.WokenBy xs := by
  intro asleep
  cases xss with
  | nil => exact ⟨rfl, fun hne => (hne rfl).elim, h.halted, fun _ _ => wokenBy_of_enabled⟩
  | cons xs xss =>
    have hrun := runAmid_of_asleep h xs xss hq hs
    have hasleep : asleep = m.slept _ _ := congrArg Prod.snd hrun
    refine ⟨congrArg Prod.fst hrun, fun _ => hasleep, ?_, ?_⟩
    all_goals rw [hasleep]
    · exact h.halted
    · exact fun _ _ hx hk => wokenBy_of_enabled hx hk

/-- A machine that waits for the picture, with interrupts on. -/
def waiting : Machine where
  registers := .initial
  bus := { Bus.new (.new #[] 0) with
    interrupts := { enabled := Source.vBlank.bit, master := true, halted := true } }
  hook? := none
  cycles := 0#64

/-- Sources that are not enabled go by; the first that is wakes the machine. -/
theorem waiting_freezes :
    waiting.Asleep
      ∧ waiting.runAmid [[.raised .timer1], [], [.requested .keypad]]
        = ([.ok 1, .ok 1, .ok 1], waiting.slept (Source.timer1.bit ||| Source.keypad.bit) 3)
      ∧ (waiting.runAmid [[.raised .timer1], [], [.requested .keypad]]).2.WokenBy
        [.raised .vBlank] := by
  have h : waiting.Asleep := ⟨rfl, rfl⟩
  have hq : waiting.bus.interrupts.Ignores waiting.bus.queue := Controller.ignores_empty
  obtain ⟨hresults, hasleep, -, hwoken⟩ := halt_freezes waiting h hq
    [[.raised .timer1], [], [.requested .keypad]] (by rw [Controller.Ignores]; decide)
  refine ⟨h, Prod.ext hresults ?_, hwoken _ _ (List.mem_singleton_self _) (by decide)⟩
  refine (hasleep (List.cons_ne_nil _ _)).trans (congrArg (waiting.slept · 3) ?_)
  decide

end Machine

end Handheld

import Handheld.Proofs.Bus.Protection

/-!
# Proofs/Interrupt/Service — how long a source is being serviced

A source is being serviced from its acknowledgement until a program writes a one to its flag, or
another acknowledgement succeeds.  So the running service is what the history of a controller has
left of it (`servicing_performAll`), and it can be read off the history itself
(`service_replay_iff`): the last acknowledgement that gave a source gave this one, and its flag was
not cleared since.
-/

namespace Handheld

/-! ## Histories -/

namespace Event

/-- The event ends the service of a source: a service starts, or a program clears its flag. -/
def EndsService (k : Source) : Event → Prop
  | serviced _ => True
  | cleared s => SourceSet.has s k = true
  | _ => False

/-- The service that runs after an event. -/
def service (running : Option Source) : Event → Option Source
  | serviced k => some k
  | cleared s => running.filter fun k => !SourceSet.has s k
  | _ => running

end Event

/-- The last source whose service started is this one, and its flag was not cleared since. -/
def BeingServiced (k : Source) (h : List Event) : Prop :=
  Since (fun _ e => e = .serviced k) (Event.EndsService k) h

/-- **The service that a history leaves running** is the last one that started, unless its flag was
cleared. -/
theorem service_replay_iff (h : List Event) (k : Source) :
    h.foldl Event.service none = some k ↔ BeingServiced k h := by
  induction h using List.reverseRecOn with
  | nil => exact iff_of_false nofun (not_since_nil _ _)
  | append_singleton h e ih =>
    rw [BeingServiced, since_concat_iff, ← BeingServiced, ← ih, List.foldl_append]
    cases e with
    | serviced l => simp [Event.service, Event.EndsService]
    | cleared s => simp [Event.service, Event.EndsService, Option.filter_eq_some_iff]
    | _ => simp [Event.service, Event.EndsService]

namespace Controller

/-! ## Runs -/

/-- What happens to a controller. -/
inductive Action where
  /-- A source requests. -/
  | request (k : Source)
  /-- The processor asks for the waiting source. -/
  | acknowledge
  /-- The processor halts. -/
  | halt
  /-- A program writes the bits that `mask` selects of a register. -/
  | write (a : Word) (value mask : Half)

/-- Carries an action out. -/
def perform (c : Controller) : Action → Controller
  | .request k => c.request k
  | .acknowledge => c.acknowledge.2
  | .halt => c.halt
  | .write a value mask => c.write a value mask

/-- Carries some actions out. -/
def performAll (c : Controller) (xs : List Action) : Controller := xs.foldl perform c

/-- What an action has done to the requests and the service.  An acknowledgement that gives no
source has done nothing, and neither has a halt. -/
def events (c : Controller) : Action → List Event
  | .request k => [.requested k]
  | .acknowledge => (c.acknowledge.1.map Event.serviced).toList
  | .halt => []
  | .write a value mask => [.cleared (writeClears a value mask)]

/-- What some actions have done, in their order. -/
def history (c : Controller) : List Action → List Event
  | [] => []
  | x :: xs => c.events x ++ (c.perform x).history xs

variable {c : Controller} {k : Source}

/-! ## Acknowledgements -/

/-- Where nothing can be acknowledged nothing changes. -/
theorem acknowledge_of_none (h : c.acknowledge.1 = none) : c.acknowledge.2 = c := by
  unfold acknowledge at h ⊢
  split at h
  · cases h
  · rfl

/-- What is acknowledged loses its flag, ends a halt and is being serviced. -/
theorem acknowledge_of_some (h : c.acknowledge.1 = some k) : c.acknowledge.2 = { c with
    flagged := SourceSet.erase c.flagged k, halted := false, servicing := some k } := by
  unfold acknowledge at h ⊢
  split at h
  · obtain rfl := Option.some.inj h
    rfl
  · cases h

/-- **An acknowledgement gives a source exactly if an interrupt waits.** -/
theorem isSome_acknowledge (c : Controller) : c.acknowledge.1.isSome = c.pending := by
  have hfirst : (SourceSet.first? c.ready).isSome = (c.ready != 0#14) := by
    rw [Bool.eq_iff_iff, bne_iff_ne, ne_eq, ← SourceSet.first?_eq_none_iff,
      Option.isSome_iff_ne_none]
  rw [pending, acknowledge, ← hfirst]
  cases c.master with
  | false => rfl
  | true =>
    rw [if_pos rfl, Bool.true_and]
    cases SourceSet.first? c.ready
    all_goals rfl

/-! ## The running service -/

/-- **An action changes the service as its events say.** -/
theorem servicing_perform (c : Controller) (x : Action) :
    (c.perform x).servicing = (c.events x).foldl Event.service c.servicing := by
  cases x with
  | request k => rfl
  | halt => rfl
  | write a value mask => exact (c.curbed_write a value mask).servicing
  | acknowledge =>
    rw [perform, events]
    cases h : c.acknowledge.1 with
    | none => rw [acknowledge_of_none h]; rfl
    | some k => rw [acknowledge_of_some h]; rfl

/-- **The running service is a fold of the history.** -/
theorem servicing_performAll (c : Controller) (xs : List Action) :
    (c.performAll xs).servicing = (c.history xs).foldl Event.service c.servicing := by
  induction xs generalizing c with
  | nil => rfl
  | cons x xs ih =>
    rw [history, List.foldl_append, ← servicing_perform]
    exact ih (c.perform x)

/-- A write that clears no flag of the running service leaves it running. -/
theorem servicing_write {a : Word} {value mask : Half}
    (h : ∀ k, c.servicing = some k → SourceSet.has (writeClears a value mask) k = false) :
    (c.write a value mask).servicing = c.servicing := by
  rw [(c.curbed_write a value mask).servicing]
  cases hs : c.servicing with
  | none => rfl
  | some k => rw [Option.filter_some, h k hs]; rfl

/-! ## What a controller is doing -/

/-- An interrupt waits: interrupts are on, and some source is enabled and flagged. -/
def Waits (c : Controller) : Prop :=
  c.master = true ∧ ∃ k, SourceSet.has c.enabled k = true ∧ SourceSet.has c.flagged k = true

theorem pending_iff_waits : c.pending = true ↔ c.Waits := by
  have hready : c.ready ≠ 0#14
      ↔ ∃ k, SourceSet.has c.enabled k = true ∧ SourceSet.has c.flagged k = true := by
    rw [ne_eq, SourceSet.eq_empty_iff]
    simp [ready]
  rw [pending, Bool.and_eq_true, bne_iff_ne, hready, Waits]

/-- What a controller is doing, told by its parts: a halt counts first, then a service, then a
waiting interrupt. -/
def Does (c : Controller) : State → Prop
  | .halted => c.halted = true
  | .servicing => c.halted = false ∧ c.servicing ≠ none
  | .pending => c.halted = false ∧ c.servicing = none ∧ c.Waits
  | .idle => c.halted = false ∧ c.servicing = none ∧ ¬c.Waits

/-- A controller does exactly one thing, and its state says which. -/
theorem state_eq_iff (c : Controller) (s : State) : c.state = s ↔ c.Does s := by
  unfold state
  cases hh : c.halted with
  | true =>
    rw [if_pos rfl]
    cases s
    all_goals simp [Does, hh]
  | false =>
    rw [if_neg Bool.false_ne_true]
    cases hs : c.servicing with
    | some k =>
      rw [if_pos Option.isSome_some]
      cases s
      all_goals simp [Does, hh, hs]
    | none =>
      rw [if_neg (by decide)]
      have hwaits := @pending_iff_waits c
      cases hp : c.pending
      all_goals
        rw [hp] at hwaits
        cases s
        all_goals simp [Does, hh, hs, ← hwaits]

/-- **A service lasts from an acknowledgement to the next, or to the write that clears its flag.**
After any actions on a new controller a source is being serviced exactly if the last acknowledgement
that gave a source gave this one, and no write to the request register has since had a one for it in
the bits that are written.  An acknowledgement that gives no source, a request, a halt and every
other write leave the service as it is.  What the controller is doing follows from its parts, and
an acknowledgement gives a source exactly if an interrupt waits. -/
theorem service_lasts (xs : List Action) :
    let c := performAll {} xs
    (∀ k, c.servicing = some k ↔ BeingServiced k (history {} xs))
      ∧ (c.acknowledge.1 = none → c.acknowledge.2.servicing = c.servicing)
      ∧ (∀ k, (c.request k).servicing = c.servicing)
      ∧ c.halt.servicing = c.servicing
      ∧ (∀ a value mask,
        (∀ k, c.servicing = some k → SourceSet.has (writeClears a value mask) k = false) →
          (c.write a value mask).servicing = c.servicing)
      ∧ (∀ s, c.state = s ↔ c.Does s)
      ∧ (c.acknowledge.1.isSome = true ↔ c.pending = true) := by
  intro c
  refine ⟨fun k => ?_, fun h => ?_, fun _ => rfl, rfl, fun _ _ _ => servicing_write,
    c.state_eq_iff, ?_⟩
  · rw [← service_replay_iff]
    exact iff_of_eq (congrArg (· = some k) (servicing_performAll {} xs))
  · rw [acknowledge_of_none h]
  · rw [isSome_acknowledge]

/-- The handler of one source is interrupted by another, and writes its own flag only then. -/
def nested : List Action :=
  [.write enableAddress 0x0003#16 0xFFFF#16, .write masterAddress 0x0001#16 0xFFFF#16,
    .request .hBlank, .acknowledge, .acknowledge, .request .vBlank, .acknowledge,
    .write flagsAddress 0x0002#16 0xFFFF#16, .request .vBlank]

/-- The service that interrupted another lasts, and a write that misses its flag does not end it. -/
theorem nested_lasts :
    BeingServiced .vBlank (history {} nested) ∧ ¬BeingServiced .hBlank (history {} nested)
      ∧ ((performAll {} nested).write flagsAddress 0x0001#16 0xFF00#16).servicing
        = some .vBlank := by
  obtain ⟨hservice, -, -, -, hwrite, -, -⟩ := service_lasts nested
  have hrunning : (performAll {} nested).servicing = some .vBlank := by decide
  refine ⟨(hservice _).mp hrunning, fun h => ?_, ?_⟩
  · exact absurd ((hservice _).mpr h) (by decide)
  · rw [hwrite flagsAddress 0x0001#16 0xFF00#16 fun k _ => by cases k <;> decide, hrunning]

end Controller

end Handheld

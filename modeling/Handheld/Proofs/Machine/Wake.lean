import Handheld.Proofs.Bus.Protection
import Handheld.Proofs.Machine.Halt
import Handheld.Proofs.Machine.Reach

/-!
# Proofs/Machine/Wake — which requests a halt sleeps through

A halt is ended by the next request of an enabled source and not by one that was flagged before, so
the order of the two decides.  The registers that enable sources and turn interrupts on are out of
reach of the instruction that halts, so it enables nothing, and with interrupts on it is not reached
while a source is enabled and flagged: a step leaves no such source behind a halt (`halts_step`).
With interrupts off the halt sleeps through what was flagged before it (`dozing_sleeps_through`),
and through nothing that arrives later (`wakes_on_arrival`).
-/

namespace Handheld

/-! ## What may interrupt -/

namespace Controller

/-- The enabled sources, and whether interrupts are on. -/
def permits (c : Controller) : SourceSet × Bool := (c.enabled, c.master)

/-- Only the registers of the two change them. -/
theorem permits_write (c : Controller) {a : Word} (he : a ≠ enableAddress)
    (hm : a ≠ masterAddress) (value mask : Half) :
    (c.write a value mask).permits = c.permits := by
  rw [write, if_neg he, if_neg hm]
  split
  · rfl
  · split
    · dsimp only
      split
      all_goals
        split
        all_goals rfl
    · rfl

/-- Clearing flags makes no source ready. -/
theorem ready_of_permits {c c' : Controller} {s : SourceSet} {k : Source}
    (hp : c'.permits = c.permits) (hf : c'.flagged = c.flagged &&& ~~~s)
    (hk : SourceSet.has c'.ready k = true) : SourceSet.has c.ready k = true := by
  have he : c'.enabled = c.enabled := congrArg Prod.fst hp
  rw [ready, SourceSet.has_and, he, hf, SourceSet.has_and] at hk
  rw [ready, SourceSet.has_and]
  simp only [Bool.and_eq_true] at hk ⊢
  exact ⟨hk.1, hk.2.1⟩

end Controller

namespace Bus

/-- The address of the register that turns interrupts on. -/
def masterRegister : Word := 0x04000208#32

/-- The address lies in the enable register or in the one that turns interrupts on. -/
def Governs (a : Word) : Prop := a.alignHalf = enableRegister ∨ a.alignHalf = masterRegister

variable (b : Bus)

theorem permits_writeRegister {o : Word} (he : o.alignHalf ≠ Controller.enableAddress)
    (hm : o.alignHalf ≠ Controller.masterAddress) (value mask : Half) :
    (b.writeRegister o value mask).interrupts.permits = b.interrupts.permits := by
  unfold writeRegister
  dsimp only
  split
  case h_7 => exact b.interrupts.permits_write he hm value mask
  all_goals rfl

/-- A byte that does not go to the enabling registers permits no more and no less. -/
theorem permits_storeByte {a : Word} (h : ¬Governs a) (v : Byte) :
    (b.storeByte a v).interrupts.permits = b.interrupts.permits := by
  by_cases hr : Region.of? a = some .registers
  · have hne (r : Word) (hg : a.alignHalf ≠ 0x04000000#32 + r) :
        (Region.registerOffset a).alignHalf ≠ r := by
      rw [Region.alignHalf_registerOffset, Region.registerOffset]
      bv_omega
    have he := hne Controller.enableAddress fun hg => h (.inl hg)
    have hm := hne Controller.masterAddress fun hg => h (.inr hg)
    rw [storeByte, hr]
    dsimp only
    rw [writeRegisterByte]
    split
    all_goals exact b.permits_writeRegister he hm _ _
  · have hf := congrArg Frame.interrupts (b.frame_storeByte hr v)
    have hi : (b.frame.afterByte (b.cell? a)).interrupts = b.interrupts := by
      unfold Frame.afterByte
      split
      all_goals rfl
    exact congrArg Controller.permits (hf.trans hi)

theorem permits_storeBytes {ps : List (Word × Byte)} (h : ∀ p ∈ ps, ¬Governs p.1) :
    (b.storeBytes ps).interrupts.permits = b.interrupts.permits := by
  induction ps generalizing b with
  | nil => rfl
  | cons p ps ih =>
    obtain ⟨hp, hps⟩ := List.forall_mem_cons.mp h
    exact (ih (b.storeByte p.1 p.2) hps).trans (b.permits_storeByte hp p.2)

/-- What is stored near the byte that halts does not govern interrupts. -/
theorem not_governs_of_near {base : Word} {ps : List (Word × Byte)} (h : Near base 64 ps)
    {p q : Word × Byte} (hp : p ∈ ps) (hhalt : p.1 = haltAddress) (hq : q ∈ ps) :
    ¬Governs q.1 := by
  have hp := h p hp
  have hq := h q hq
  rw [hhalt, haltAddress] at hp
  rw [Governs, ← BitVec.toNat_inj, ← BitVec.toNat_inj, Word.toNat_alignHalf,
    show enableRegister.toNat = 0x04000200 from rfl,
    show masterRegister.toNat = 0x04000208 from rfl]
  bv_omega

/-- **What an instruction stores leaves no more ready than was, if it halts the processor.** -/
theorem halts_of_storesNear {b' b : Bus} (h : b'.StoresNear b)
    (hawake : b.interrupts.halted = false) (hhalted : b'.interrupts.halted = true) :
    b'.interrupts.master = b.interrupts.master
      ∧ ∀ k, SourceSet.has b'.interrupts.ready k = true →
        SourceSet.has b.interrupts.ready k = true := by
  obtain ⟨base, ps, hnear, rfl⟩ := h
  have hc := (b.protected_storeBytes ps).controller
  rw [hc.halted, hawake, Bool.false_or, List.any_eq_true] at hhalted
  obtain ⟨p, hp, hhalt⟩ := hhalted
  rw [halts, Bool.and_eq_true, decide_eq_true_iff] at hhalt
  have hpermits := b.permits_storeBytes fun q hq => not_governs_of_near hnear hp hhalt.1 hq
  exact ⟨congrArg Prod.snd hpermits, fun k => Controller.ready_of_permits hpermits hc.flagged⟩

end Bus

namespace Machine

variable {m : Machine}

/-! ## One step -/

/-- The next step lets the host handle a software interrupt. -/
def CallsHost (m : Machine) : Prop :=
  m.hook? ≠ none ∧ m.taken? = none ∧ m.deliver.bus.interrupts.halted = false
    ∧ ∃ i, m.decoded? m.deliver.fetch = some i ∧ i.CallsSupervisor m.registers.flags

/-- What a step leaves enabled and flagged was so before it did anything but deliver, and with
interrupts on it leaves none. -/
structure LeavesNoneNew (m : Machine) : Prop where
  /-- With interrupts on no source is enabled and flagged. -/
  master : m.step.2.bus.interrupts.master = true → m.step.2.bus.interrupts.ready = 0#14
  /-- No source is newly enabled and flagged. -/
  ready : ∀ k, SourceSet.has m.step.2.bus.interrupts.ready k = true →
    SourceSet.has m.deliver.bus.interrupts.ready k = true

/-- With interrupts on, none is ready that was not taken. -/
theorem ready_of_not_taken (h : m.taken? = none)
    (hm : m.deliver.bus.interrupts.master = true) : m.deliver.bus.interrupts.ready = 0#14 := by
  rw [taken?_eq_none_iff, Controller.pending, hm, Bool.true_and, bne_eq_false_iff_eq] at h
  exact h

theorem halted_interrupt {k : Source} (h : m.taken? = some k) :
    m.deliver.interrupt.bus.interrupts.halted = false := by
  change m.deliver.bus.interrupts.acknowledge.2.halted = false
  rw [acknowledge_of_taken? h]

theorem storesNear_executeWord {word : Word}
    (h : ∀ i, m.decoded? word = some i → i.CallsSupervisor m.registers.flags → m.hook? = none) :
    (m.executeWord word).2.bus.StoresNear m.bus := by
  rw [executeWord]
  cases hd : m.decoded? word with
  | none => exact .refl m.bus
  | some i =>
    dsimp only
    rw [bus_conclude]
    exact storesNear_execute (h i hd)

/-- **A step that leaves the processor halted leaves nothing new to wake it**, and nothing at all
with interrupts on, unless a host handles the instruction. -/
theorem halts_step (hn : ¬m.CallsHost) (h : m.step.2.bus.interrupts.halted = true) :
    m.LeavesNoneNew := by
  cases ht : m.taken? with
  | some k =>
    rw [step_interrupt ht] at h
    exact absurd (h.symm.trans (halted_interrupt ht)) (by decide)
  | none =>
    cases hh : m.deliver.bus.interrupts.halted with
    | true =>
      refine ⟨?_, ?_⟩
      all_goals rw [step_idle ht hh]
      · exact ready_of_not_taken ht
      · exact fun k => id
    | false =>
      have hnear : m.step.2.bus.StoresNear m.deliver.bus := by
        rw [step_execute ht hh]
        refine storesNear_executeWord fun i hi hc => ?_
        by_contra hk
        exact hn ⟨hk, ht, hh, i, hi, hc⟩
      obtain ⟨hmaster, hready⟩ := Bus.halts_of_storesNear hnear hh h
      refine ⟨fun hm => SourceSet.eq_empty_iff.mpr fun k => ?_, hready⟩
      rw [← Bool.not_eq_true]
      intro hk
      have hk := hready k hk
      rw [ready_of_not_taken ht (hmaster.symm.trans hm)] at hk
      simp at hk

/-! ## Sleeping through -/

/-- Requests arrive and steps follow, and the processor is halted all the while. -/
def SleepsThrough (m : Machine) : List (List Arrival) → Prop
  | [] => m.bus.interrupts.halted = true
  | xs :: xss => (m.arrive xs).deliver.bus.interrupts.halted = true
      ∧ (m.arrive xs).step.2.SleepsThrough xss

/-- A halt goes on exactly if it was there and nothing that arrives is enabled. -/
theorem halted_deliver_arrive_iff {xs : List Arrival} :
    (m.arrive xs).deliver.bus.interrupts.halted = true ↔ m.bus.interrupts.halted = true
      ∧ m.bus.interrupts.Ignores (m.bus.queue ||| Arrival.sources xs) := by
  rw [deliver_arrive, Controller.requestAll, Bool.and_eq_true, beq_iff_eq, Controller.Ignores]

theorem SleepsThrough.halted {xss : List (List Arrival)} (h : m.SleepsThrough xss) :
    m.bus.interrupts.halted = true := by
  cases xss with
  | nil => exact h
  | cons xs xss => exact (halted_deliver_arrive_iff.mp h.1).1

/-- A step that finds and leaves the processor halted is one of sleep. -/
theorem asleep_of_halted {xs : List Arrival}
    (hd : (m.arrive xs).deliver.bus.interrupts.halted = true)
    (hs : (m.arrive xs).step.2.bus.interrupts.halted = true) :
    m.Asleep ∧ m.bus.interrupts.Ignores (m.bus.queue ||| Arrival.sources xs) := by
  obtain ⟨hh, hi⟩ := halted_deliver_arrive_iff.mp hd
  refine ⟨⟨hh, ?_⟩, hi⟩
  cases ht : (m.arrive xs).taken? with
  | some k =>
    rw [step_interrupt ht] at hs
    exact absurd (hs.symm.trans (halted_interrupt ht)) (by decide)
  | none =>
    rw [taken?_eq_none_iff, deliver_arrive] at ht
    exact (Controller.pending_requestAll_of_ignores hi).symm.trans ht

/-- **A halt is slept through exactly if no interrupt waits to be taken and no enabled source is
queued or arrives.** -/
theorem sleepsThrough_iff (m : Machine) (xs : List Arrival) (xss : List (List Arrival)) :
    m.SleepsThrough (xs :: xss) ↔ m.Asleep ∧ m.bus.interrupts.Ignores
      (m.bus.queue ||| Arrival.sources (xs :: xss).flatten) := by
  induction xss generalizing m xs with
  | nil =>
    rw [List.flatten_singleton]
    refine ⟨fun h => asleep_of_halted h.1 h.2, fun ⟨h, hi⟩ => ⟨?_, ?_⟩⟩
    · exact halted_deliver_arrive_iff.mpr ⟨h.halted, hi⟩
    · rw [step_of_asleep h hi]
      exact h.halted
  | cons ys xss ih =>
    -- The first step has emptied the queue, and the controller has only gained flags.
    have hnext (h : m.Asleep)
        (hi : m.bus.interrupts.Ignores (m.bus.queue ||| Arrival.sources xs)) :
        (m.arrive xs).step.2.SleepsThrough (ys :: xss)
          ↔ m.bus.interrupts.Ignores (Arrival.sources (ys :: xss).flatten) := by
      rw [step_of_asleep h hi, ih, show (m.slept _ haltCycles).bus.queue = 0#14 from rfl,
        BitVec.zero_or]
      exact and_iff_right (h.slept hi haltCycles)
    rw [List.flatten_cons, Arrival.sources_append, ← BitVec.or_assoc, Controller.ignores_or_iff]
    refine ⟨fun h => ?_, fun ⟨h, hi, hrest⟩ => ⟨?_, (hnext h hi).mpr hrest⟩⟩
    · obtain ⟨h', hi⟩ := asleep_of_halted h.1 h.2.halted
      exact ⟨h', hi, (hnext h' hi).mp h.2⟩
    · exact halted_deliver_arrive_iff.mpr ⟨h.halted, hi⟩

/-! ## The order of halt and request -/

/-- **With interrupts on an enabled and flagged source is serviced at once**, halted or not. -/
theorem services_of_ready (hm : m.bus.interrupts.master = true)
    (hr : m.bus.interrupts.ready ≠ 0#14) :
    (∃ k, m.Services k) ∧ m.step.2.bus.interrupts.halted = false := by
  have hd : m.deliver.bus.interrupts = m.bus.interrupts.requestAll m.bus.queue :=
    congrArg Bus.interrupts m.bus.deliver_eq
  have hready : m.deliver.bus.interrupts.ready ≠ 0#14 := by
    rw [ne_eq, SourceSet.eq_empty_iff, not_forall] at hr ⊢
    obtain ⟨k, hk⟩ := hr
    refine ⟨k, ?_⟩
    rw [Bool.not_eq_false, Controller.ready, SourceSet.has_and, Bool.and_eq_true] at hk
    rw [hd]
    simp [Controller.requestAll, Controller.ready, hk.1, hk.2]
  have hmaster : m.deliver.bus.interrupts.master = true := by
    rw [hd]
    exact hm
  obtain ⟨k, ht⟩ := Option.isSome_iff_exists.mp (taken?_isSome_iff.mpr ⟨hmaster, hready⟩)
  refine ⟨⟨k, services_of_taken? ht⟩, ?_⟩
  rw [step_interrupt ht]
  exact halted_interrupt ht

/-- A program that enables the first source and later halts, with interrupts off. -/
def dozing : Setup where
  bus := .new (.new #[
    0x01#8, 0x03#8, 0xA0#8, 0xE3#8, 0x02#8, 0x2C#8, 0x80#8, 0xE2#8, 0x01#8, 0x10#8, 0xA0#8, 0xE3#8,
    0xB0#8, 0x10#8, 0xC2#8, 0xE1#8, 0x00#8, 0x30#8, 0xA0#8, 0xE3#8, 0x01#8, 0x33#8, 0xC0#8, 0xE5#8]
    0)
  entry? := some 0x08000000#32

/-- **With interrupts off a halt sleeps through what was flagged before it.** -/
theorem dozing_sleeps_through :
    ¬∀ (s : Setup) (xs : List Action) (c : Nat), s.hook? = none →
      (∀ x ∈ xs, x = .step ∨ ∃ k, x = .bus (.request k) ∨ x = .bus (.raise k)) →
      ((start s).performAll xs).step.1 = .ok c →
      ((start s).performAll xs).step.2.bus.interrupts.halted = true →
      ((start s).performAll xs).step.2.bus.interrupts.ready = 0#14 := by
  intro h
  have hready := h dozing [.step, .step, .step, .step, .step, .bus (.request .vBlank)] 2 rfl
    (by simp) (by decide +kernel) (by decide +kernel)
  revert hready
  decide +kernel

/-- **A halt is ended by every request of an enabled source that comes after it.**  A step that
leaves the processor halted leaves no source enabled and flagged with interrupts on, and with
interrupts off none but those that were so when the step began, unless a host handles the
instruction.  The processor sleeps through some steps exactly if no interrupt waits to be taken when
they begin and no enabled source is queued or arrives.  An enabled source that arrives finds or
makes the processor awake: with interrupts on the next step services a source, before any
instruction, and with interrupts off it executes the next instruction.  Whatever a host has done, a
source that is enabled and flagged with interrupts on is serviced by the next step. -/
theorem wakes_on_arrival (m : Machine) :
    (¬m.CallsHost → m.step.2.bus.interrupts.halted = true → m.LeavesNoneNew)
      ∧ (∀ xs xss, m.SleepsThrough (xs :: xss) ↔ m.Asleep ∧ m.bus.interrupts.Ignores
        (m.bus.queue ||| Arrival.sources (xs :: xss).flatten))
      ∧ (∀ xs x, x ∈ xs → SourceSet.has m.bus.interrupts.enabled x.source = true → m.WokenBy xs)
      ∧ (m.bus.interrupts.master = true → m.bus.interrupts.ready ≠ 0#14 →
        (∃ k, m.Services k) ∧ m.step.2.bus.interrupts.halted = false) :=
  ⟨halts_step, m.sleepsThrough_iff, fun _ _ => wokenBy_of_enabled, services_of_ready⟩

/-- A machine that waits for the picture and is about to halt, with interrupts on. -/
def drowsy : Machine where
  registers := (Registers.initial.write .r0 0x04000000#32).setPc 0x08000000#32
  bus := { Bus.new (.new #[0x01#8, 0x33#8, 0xC0#8, 0xE5#8] 0) with
    interrupts := { enabled := Source.vBlank.bit, master := true } }
  hook? := none
  cycles := 0#64

/-- A machine that halts itself wakes on an arrival that is enabled; one that waits sleeps through
an arrival that is not, and not through one that is. -/
theorem drowsy_wakes_on_arrival :
    drowsy.step.2.bus.interrupts.halted = true
      ∧ drowsy.step.2.bus.interrupts.ready = 0#14
      ∧ drowsy.WokenBy [.requested .vBlank]
      ∧ (∃ k, (drowsy.request .vBlank).Services k)
      ∧ waiting.SleepsThrough [[.raised .timer1], []]
      ∧ ¬waiting.SleepsThrough [[.raised .timer1], [.raised .vBlank]] := by
  have hh : drowsy.step.2.bus.interrupts.halted = true := by decide +kernel
  have hm : drowsy.step.2.bus.interrupts.master = true := by decide +kernel
  obtain ⟨hstep, -, hwoken, -⟩ := wakes_on_arrival drowsy
  obtain ⟨-, -, -, hservices⟩ := wakes_on_arrival (drowsy.request .vBlank)
  obtain ⟨-, hsleeps, -⟩ := wakes_on_arrival waiting
  refine ⟨hh, (hstep (fun h => h.1 rfl) hh).master hm, ?_, ?_, ?_, ?_⟩
  · exact hwoken _ _ (List.mem_singleton_self _) (by decide)
  · exact (hservices rfl (by decide)).1
  · refine (hsleeps _ _).mpr ⟨⟨rfl, rfl⟩, ?_⟩
    rw [Controller.Ignores]
    decide
  · intro h
    have hi := ((hsleeps _ _).mp h).2
    rw [Controller.Ignores] at hi
    revert hi
    decide

end Machine

end Handheld

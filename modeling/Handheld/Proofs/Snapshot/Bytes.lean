import Handheld.Proofs.Interrupt.Source
import Handheld.Proofs.Snapshot.Reader

/-!
# Proofs/Snapshot/Bytes — one written form for every snapshot

The parts of a snapshot follow one another, and the reader takes them in the same order.  So it
takes back every snapshot that was written, whatever follows, and everything it takes is written as
some snapshot is (`run_eq_ok_iff`): no snapshot has two forms, and none begins with another.

All of it is about the layout assumed in `Snapshot/Bytes`, which an external serializer determines.
-/

namespace Handheld

/-! ## Modes and sources -/

namespace Mode

/-- A mode is written as its place among all of them. -/
theorem getElem?_idxOf_all (m : Mode) : all[all.idxOf m]? = some m := by
  cases m
  all_goals rfl

/-- Each place is that of one mode. -/
theorem idxOf_all {i : Nat} {m : Mode} (h : all[i]? = some m) : all.idxOf m = i := by
  obtain ⟨hi, rfl⟩ := List.getElem?_eq_some_iff.mp h
  exact List.Nodup.idxOf_getElem (by decide) i hi

/-- A written mode is read back. -/
theorem takes (m : Mode) : (Reader.oneOf all).Takes m.toBytes m := by
  refine Reader.takes_oneOf m.getElem?_idxOf_all ?_
  cases m
  all_goals decide

theorem canonical : (Reader.oneOf all).Canonical toBytes :=
  Reader.canonical_oneOf fun _ _ => idxOf_all

end Mode

namespace Source

/-- The place of a source among all of them is its number. -/
theorem index_of_getElem? {i : Nat} {k : Source} (h : all[i]? = some k) : k.index = i := by
  obtain ⟨hi, -⟩ := List.getElem?_eq_some_iff.mp h
  obtain ⟨l, rfl⟩ := exists_index hi
  exact congrArg index (Option.some.inj (h.symm.trans l.ofIndex?_index))

/-- The service that may be going on is read back, or that there is none. -/
theorem takes (k? : Option Source) :
    (Reader.optional (.oneOf all)).Takes (optionBytes k?) k? := by
  cases k? with
  | none => exact Reader.takes_none _
  | some k =>
    refine Reader.takes_some (Reader.takes_oneOf k.ofIndex?_index ?_)
    exact Nat.lt_trans k.index_lt (by decide)

theorem canonical : (Reader.optional (.oneOf all)).Canonical optionBytes := by
  intro input k? rest h
  rw [Reader.canonical_optional (Reader.canonical_oneOf fun _ _ => index_of_getElem?) h]
  cases k?
  all_goals rfl

end Source

/-! ## Banks and the interrupt controller -/

namespace Bank

/-- A written bank is read back. -/
theorem takes (b : Bank) : reader.Takes b.toBytes b := by
  unfold toBytes
  simp only [List.append_assoc]
  exact (Reader.takes_vector Reader.takes_word b.high).bind
    ((Reader.takes_word b.sp).bind ((Reader.takes_word b.link).bind
      ((Reader.takes_word b.savedStatus).last (Reader.takes_pure b))))

/-- A bank that was read is written as it was. -/
theorem canonical : reader.Canonical toBytes := by
  intro input b rest h
  obtain ⟨high, _, hh, h⟩ := Reader.run_bind_eq_ok h
  obtain ⟨sp, _, hs, h⟩ := Reader.run_bind_eq_ok h
  obtain ⟨link, _, hl, h⟩ := Reader.run_bind_eq_ok h
  obtain ⟨savedStatus, _, hv, h⟩ := Reader.run_bind_eq_ok h
  obtain ⟨rfl, rfl⟩ := Reader.run_pure_eq_ok h
  rw [Reader.canonical_vector Reader.canonical_word 5 hh, Reader.canonical_word hs,
    Reader.canonical_word hl, Reader.canonical_word hv]
  simp only [toBytes, List.append_assoc]

end Bank

namespace Controller.Image

/-- The written registers of a controller are read back. -/
theorem takes (i : Image) : reader.Takes i.toBytes i := by
  unfold toBytes
  simp only [List.append_assoc]
  exact (Reader.takes_half i.enable).bind ((Reader.takes_half i.flags).bind
    ((Reader.takes_truth i.master).bind ((Reader.takes_byte i.postFlag).bind
      ((Source.takes i.servicing).last (Reader.takes_pure i)))))

/-- The registers of a controller that were read are written as they were. -/
theorem canonical : reader.Canonical toBytes := by
  intro input i rest h
  obtain ⟨enable, _, he, h⟩ := Reader.run_bind_eq_ok h
  obtain ⟨flags, _, hf, h⟩ := Reader.run_bind_eq_ok h
  obtain ⟨master, _, hm, h⟩ := Reader.run_bind_eq_ok h
  obtain ⟨postFlag, _, hp, h⟩ := Reader.run_bind_eq_ok h
  obtain ⟨servicing, _, hs, h⟩ := Reader.run_bind_eq_ok h
  obtain ⟨rfl, rfl⟩ := Reader.run_pure_eq_ok h
  rw [Reader.canonical_half he, Reader.canonical_half hf, Reader.canonical_truth hm,
    Reader.canonical_byte hp, Source.canonical hs]
  simp only [toBytes, List.append_assoc]

end Controller.Image

/-! ## Snapshots -/

namespace Snapshot

/-- The version is a text whose length can be written in eight bytes, as that of every text in a
computer's memory can. -/
def Fits (s : Snapshot) : Prop := (Utf8.encode s.version).length < 1 <<< 64

/-- **A written snapshot is read back**, whatever follows it. -/
theorem takes {s : Snapshot} (h : s.Fits) : reader.Takes s.toBytes s := by
  unfold toBytes
  simp only [List.append_assoc]
  exact (Reader.takes_text h).bind
    ((Reader.takes_vector Reader.takes_word s.registers).bind
      ((Reader.takes_word s.status).bind
        ((Reader.takes_vector Bank.takes s.banks).bind
          (s.mode.takes.bind ((Reader.takes_truth s.thumb).bind
            ((Reader.takes_double s.cycles).bind (s.interrupts.takes.bind
              ((Reader.takes_truth s.halted).last (Reader.takes_pure s)))))))))

/-- **A snapshot that was read is written as it was**, and its version fits the length before it. -/
theorem run_eq_ok {bytes rest : List Byte} {s : Snapshot} (h : reader.run bytes = .ok (s, rest)) :
    s.Fits ∧ bytes = s.toBytes ++ rest := by
  obtain ⟨version, _, hv, h⟩ := Reader.run_bind_eq_ok h
  obtain ⟨registers, _, hr, h⟩ := Reader.run_bind_eq_ok h
  obtain ⟨status, _, hs, h⟩ := Reader.run_bind_eq_ok h
  obtain ⟨banks, _, hb, h⟩ := Reader.run_bind_eq_ok h
  obtain ⟨mode, _, hm, h⟩ := Reader.run_bind_eq_ok h
  obtain ⟨thumb, _, ht, h⟩ := Reader.run_bind_eq_ok h
  obtain ⟨cycles, _, hc, h⟩ := Reader.run_bind_eq_ok h
  obtain ⟨interrupts, _, hi, h⟩ := Reader.run_bind_eq_ok h
  obtain ⟨halted, _, hh, h⟩ := Reader.run_bind_eq_ok h
  obtain ⟨rfl, rfl⟩ := Reader.run_pure_eq_ok h
  obtain ⟨hfits, rfl⟩ := Reader.run_text_eq_ok hv
  refine ⟨hfits, ?_⟩
  rw [Reader.canonical_vector Reader.canonical_word 16 hr, Reader.canonical_word hs,
    Reader.canonical_vector Bank.canonical 6 hb, Mode.canonical hm, Reader.canonical_truth ht,
    Reader.canonical_double hc, Controller.Image.canonical hi, Reader.canonical_truth hh]
  simp only [toBytes, List.append_assoc]

/-- **The bytes that the reader takes determine the snapshot, and the snapshot the bytes.** -/
theorem run_eq_ok_iff {bytes rest : List Byte} {s : Snapshot} :
    reader.run bytes = .ok (s, rest) ↔ s.Fits ∧ bytes = s.toBytes ++ rest := by
  refine ⟨run_eq_ok, ?_⟩
  rintro ⟨h, rfl⟩
  exact (takes h).run rest

/-- Bytes hold a snapshot exactly if they begin with its written form. -/
theorem ofBytes_eq_ok_iff {bytes : List Byte} {s : Snapshot} :
    ofBytes bytes = .ok s ↔ s.Fits ∧ s.toBytes <+: bytes := by
  rw [ofBytes]
  constructor
  · intro h
    cases hr : reader.run bytes with
    | error e =>
      rw [hr] at h
      cases h
    | ok p =>
      rw [hr] at h
      cases h
      obtain ⟨hfits, hb⟩ := run_eq_ok hr
      exact ⟨hfits, p.2, hb.symm⟩
  · rintro ⟨h, rest, rfl⟩
    rw [(takes h).run]
    rfl

/-- **Snapshots are written in one way, and none begins with another.**  A snapshot is read back,
whatever follows it; bytes from which one is read begin with what it is written as; and anything
shorter ends too early.  So a snapshot that is written as another one begins is that one, and the
bytes that are read determine the snapshot as it determines them. -/
theorem bytes_prefix_free :
    (∀ s : Snapshot, s.Fits → ∀ rest, ofBytes (s.toBytes ++ rest) = .ok s)
      ∧ (∀ bytes s, ofBytes bytes = .ok s → s.toBytes <+: bytes)
      ∧ (∀ s : Snapshot, s.Fits → ∀ part, part <+: s.toBytes → part ≠ s.toBytes →
          ofBytes part = .error .ended)
      ∧ (∀ s t : Snapshot, s.Fits → t.Fits → s.toBytes <+: t.toBytes → s = t)
      ∧ ∀ bytes rest (s : Snapshot),
          reader.run bytes = .ok (s, rest) ↔ s.Fits ∧ bytes = s.toBytes ++ rest := by
  refine ⟨fun s h rest => ?_, fun bytes s h => (ofBytes_eq_ok_iff.mp h).2,
    fun s h part hp hne => ?_, fun s t hs ht hp => ?_, fun bytes rest s => run_eq_ok_iff⟩
  · exact ofBytes_eq_ok_iff.mpr ⟨h, List.prefix_append _ _⟩
  · rw [ofBytes, (takes h).ended part hp hne]
    rfl
  · have hs' : ofBytes t.toBytes = .ok s := ofBytes_eq_ok_iff.mpr ⟨hs, hp⟩
    have ht' : ofBytes t.toBytes = .ok t := ofBytes_eq_ok_iff.mpr ⟨ht, List.prefix_rfl⟩
    exact Except.ok.inj (hs'.symm.trans ht')

/-- A snapshot with a version of its own, taken while the cartridge's interrupt is serviced. -/
def foreign : Snapshot where
  version := "2.é"
  registers := Vector.replicate 16 0x01020304#32
  status := 0x600000D2#32
  banks := Vector.replicate 6 {}
  mode := .interrupt
  thumb := false
  cycles := 0x0123456789ABCDEF#64
  interrupts := { enable := 0x2001#16, master := true, servicing := some .gamePak }
  halted := true

/-- A snapshot of another version is read back before a byte that is not its own, has no other
snapshot at its front, and ends too early if it is cut off. -/
theorem foreign_prefix_free :
    foreign.Fits
      ∧ ofBytes (foreign.toBytes ++ [0xFF#8]) = .ok foreign
      ∧ foreign.toBytes <+: foreign.toBytes ++ [0xFF#8]
      ∧ (∀ s : Snapshot, s.Fits → s.toBytes <+: foreign.toBytes → s = foreign)
      ∧ foreign.toBytes.take 100 ≠ foreign.toBytes
      ∧ ofBytes (foreign.toBytes.take 100) = .error .ended
      ∧ reader.run (foreign.toBytes ++ [0xFF#8]) = .ok (foreign, [0xFF#8]) := by
  obtain ⟨hread, hprefix, hended, hsame, hrun⟩ := bytes_prefix_free
  have hf : foreign.Fits := by
    rw [Fits]
    decide +kernel
  have hne : foreign.toBytes.take 100 ≠ foreign.toBytes := by decide +kernel
  exact ⟨hf, hread _ hf _, hprefix _ _ (hread _ hf _), fun s hs => hsame s _ hs hf, hne,
    hended _ hf _ (List.take_prefix _ _) hne, (hrun _ _ _).mpr ⟨hf, rfl⟩⟩

end Snapshot

end Handheld

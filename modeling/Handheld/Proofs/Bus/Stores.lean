import Mathlib.Data.List.Induction
import Handheld.Proofs.Bus.Cells

/-!
# Proofs/Bus/Stores — what stores leave in memories that repeat

A store of any width is the bytes it writes, each at its address, and some stores in a row are all
their bytes in a row.  So a cell holds the byte that was last stored to it, whichever of its
addresses and whatever width was used (`memories_mirrored`), and what no byte goes to is left alone.
The stores that index a memory once for each width leave the same (`checkedStoreAll_eq_ok`).
-/

namespace Handheld.Bus

variable (b : Bus)

/-! ## Stores in a row -/

/-- A store of any width. -/
structure Store where
  /-- The width. -/
  width : Width
  /-- The address. -/
  address : Word
  /-- The value, of which the low bits are stored. -/
  value : Word

/-- The bytes of a store, where each goes. -/
def Store.bytes (x : Store) : List (Word × Byte) :=
  match x.width with
  | .byte => [(x.address, x.value.byte 0)]
  | .half =>
    let s := x.address.alignHalf
    [(s, x.value.byte 0), (s + 1, x.value.byte 1)]
  | .word =>
    let s := x.address.alignWord
    [(s, x.value.byte 0), (s + 1, x.value.byte 1), (s + 2, x.value.byte 2), (s + 3, x.value.byte 3)]

/-- Carries a store out. -/
def store (b : Bus) (x : Store) : Bus := Memory.store b x.width x.address x.value

/-- Carries some stores out. -/
def storeAll (b : Bus) (xs : List Store) : Bus := xs.foldl store b

/-- Stores some bytes. -/
def storeBytes (b : Bus) (ps : List (Word × Byte)) : Bus :=
  ps.foldl (fun b p => b.storeByte p.1 p.2) b

/-- Carries a store out, with every operation checked. -/
def checkedStore (b : Bus) (x : Store) : Checked Bus :=
  match x.width with
  | .byte => b.checkedStoreByte x.address (x.value.byte 0)
  | .half => b.checkedStoreHalf x.address x.value.lowHalf
  | .word => b.checkedStoreWord x.address x.value

/-- Carries some stores out, with every operation checked. -/
def checkedStoreAll (b : Bus) (xs : List Store) : Checked Bus := xs.foldlM checkedStore b

/-- A store of each width goes well. -/
theorem checkedStore_eq_ok (x : Store) : b.checkedStore x = .ok (b.store x) := by
  obtain ⟨width, a, v⟩ := x
  cases width with
  | byte => exact b.checkedStoreByte_eq_ok a (v.byte 0)
  | half => exact b.checkedStoreHalf_eq_ok a v.lowHalf
  | word => exact b.checkedStoreWord_eq_ok a v

/-- Stores in a row go well. -/
theorem checkedStoreAll_eq_ok (xs : List Store) : b.checkedStoreAll xs = .ok (b.storeAll xs) :=
  Checked.foldlM_eq_ok (fun x _ b => b.checkedStore_eq_ok x) b

theorem storeBytes_append (ps qs : List (Word × Byte)) :
    b.storeBytes (ps ++ qs) = (b.storeBytes ps).storeBytes qs := List.foldl_append

/-- A store is its bytes. -/
theorem store_eq_bytes (x : Store) : b.store x = b.storeBytes x.bytes := by
  obtain ⟨width, a, v⟩ := x
  cases width with
  | byte => rfl
  | half =>
    refine (b.storeHalf_eq_bytes a v.lowHalf).trans ?_
    rw [Word.low_lowHalf, Word.high_lowHalf]
    rfl
  | word => exact b.storeWord_eq_bytes a v

/-- Stores in a row are all their bytes in a row. -/
theorem storeAll_eq_bytes (xs : List Store) :
    b.storeAll xs = b.storeBytes (xs.flatMap Store.bytes) := by
  induction xs generalizing b with
  | nil => rfl
  | cons x xs ih =>
    rw [List.flatMap_cons, storeBytes_append, ← store_eq_bytes]
    exact ih (b.store x)

/-! ## The last byte of a cell -/

/-- The byte that was last among some to go to a cell. -/
def lastByte? (b : Bus) (c : Cell) (ps : List (Word × Byte)) : Option Byte :=
  (ps.filter fun p => b.cell? p.1 = some c).getLast?.map Prod.snd

/-- No store moves the cells. -/
theorem cell?_storeBytes (ps : List (Word × Byte)) : (b.storeBytes ps).cell? = b.cell? := by
  induction ps generalizing b with
  | nil => rfl
  | cons p ps ih => exact (ih _).trans (b.cell?_storeByte p.1 p.2)

/-- **A cell holds the byte last stored to it.** -/
theorem content_storeBytes (ps : List (Word × Byte)) (c : Cell) :
    (b.storeBytes ps).content c = (b.lastByte? c ps).getD (b.content c) := by
  -- From the end of the list: the last byte either is the cell's or leaves the cell alone.
  induction ps using List.reverseRecOn with
  | nil => rfl
  | append_singleton ps p ih =>
    rw [storeBytes_append]
    change ((b.storeBytes ps).storeByte p.1 p.2).content c = _
    rw [content_storeByte, cell?_storeBytes, lastByte?, List.filter_append]
    by_cases hp : b.cell? p.1 = some c
    · simp [hp]
    · rw [List.filter_cons_of_neg (by simpa using hp), List.filter_nil, List.append_nil]
      refine Eq.trans ?_ ih
      cases hc : b.cell? p.1 with
      | none => rfl
      | some c' =>
        refine Function.update_of_ne ?_ _ _
        rintro rfl
        exact hp hc

/-! ## What a store covers -/

/-- The cells of some bytes. -/
def cells (b : Bus) (ps : List (Word × Byte)) : List Cell := ps.filterMap fun p => b.cell? p.1

/-- The cells that a store covers. -/
def covered (b : Bus) (x : Store) : List Cell := b.cells x.bytes

/-- A cell that no byte goes to holds what it held. -/
theorem content_storeBytes_of_notMem {ps : List (Word × Byte)} {c : Cell} (h : c ∉ b.cells ps) :
    (b.storeBytes ps).content c = b.content c := by
  have hnone : ps.filter (fun p => b.cell? p.1 = some c) = [] := by
    rw [List.filter_eq_nil_iff]
    intro p hp hc
    exact h (List.mem_filterMap.mpr ⟨p, hp, of_decide_eq_true hc⟩)
  rw [content_storeBytes, lastByte?, hnone]
  rfl

/-- Outside the registers, bytes leave all but the cells alone, save that those of the save memory
mark it as changed. -/
theorem frame_storeBytes {ps : List (Word × Byte)}
    (h : ∀ p ∈ ps, Region.of? p.1 ≠ some .registers) :
    (b.storeBytes ps).frame
      = if ∃ c ∈ b.cells ps, c.block = .save then b.frame.saveChanged else b.frame := by
  induction ps generalizing b with
  | nil => simp [storeBytes, cells]
  | cons p ps ih =>
    obtain ⟨hp, hps⟩ := List.forall_mem_cons.mp h
    refine (ih (b.storeByte p.1 p.2) hps).trans ?_
    have hcells : (b.storeByte p.1 p.2).cells ps = b.cells ps := by
      rw [cells, cell?_storeByte, cells]
    rw [hcells, frame_storeByte b hp]
    unfold Frame.afterByte cells
    rw [List.filterMap_cons]
    cases hc : b.cell? p.1 with
    | none => rfl
    | some c =>
      by_cases hs : c.block = .save
      · simp [hs]
      · simp only [List.mem_cons, exists_eq_or_imp, hs, false_or, Option.any_some, decide_false,
          Bool.false_eq_true, if_false]

/-- The bytes of a store lie in one region. -/
theorem Store.region_of_mem_bytes {x : Store} {p : Word × Byte} (h : p ∈ x.bytes) :
    Region.of? p.1 = Region.of? x.address := by
  obtain ⟨width, a, v⟩ := x
  cases width with
  | byte =>
    obtain rfl := List.mem_singleton.mp h
    rfl
  | half =>
    simp only [Store.bytes, List.mem_cons, List.not_mem_nil, or_false] at h
    rcases h with rfl | rfl
    · exact Region.of?_alignHalf a
    · exact Region.of?_alignHalf_add a (by decide)
  | word =>
    simp only [Store.bytes, List.mem_cons, List.not_mem_nil, or_false] at h
    rcases h with rfl | rfl | rfl | rfl
    · exact Region.of?_alignWord a
    all_goals exact Region.of?_alignWord_add a (by decide)

/-! ## Every store -/

/-- **The memories repeat, and nothing else does.**  After any stores an address with a cell reads
the byte last stored to an address of that cell, or what it read before if there was none.  A store
changes no cell but those of its bytes; outside the device registers it changes nothing else
either, but that a byte of the save memory marks it as changed and raises the cartridge's interrupt,
and it changes nothing at all if its bytes have no cell.  All of this is what the stores and loads
do that go to each region in their own width, with every index checked. -/
theorem memories_mirrored (xs : List Store) :
    (∀ a c, b.cell? a = some c → (b.storeAll xs).loadByte a
      = (b.lastByte? c (xs.flatMap Store.bytes)).getD (b.loadByte a))
    ∧ (∀ x c, c ∉ b.covered x → (b.store x).content c = b.content c)
    ∧ (∀ x : Store, Region.of? x.address ≠ some .registers → (b.store x).frame
        = if ∃ c ∈ b.covered x, c.block = .save then b.frame.saveChanged else b.frame)
    ∧ (∀ x : Store, Region.of? x.address ≠ some .registers → b.covered x = [] → b.store x = b)
    ∧ (∀ x, b.checkedStore x = .ok (b.store x))
    ∧ b.checkedStoreAll xs = .ok (b.storeAll xs)
    ∧ ∀ a, (b.storeAll xs).checkedLoadByte a = .ok ((b.storeAll xs).loadByte a) := by
  have hframe (x : Store) (hx : Region.of? x.address ≠ some .registers) : (b.store x).frame
      = if ∃ c ∈ b.covered x, c.block = .save then b.frame.saveChanged else b.frame := by
    rw [store_eq_bytes]
    refine b.frame_storeBytes fun p hp => ?_
    rwa [Store.region_of_mem_bytes hp]
  have hcontent (x : Store) (c : Cell) (hc : c ∉ b.covered x) :
      (b.store x).content c = b.content c := by
    rw [store_eq_bytes]
    exact b.content_storeBytes_of_notMem hc
  refine ⟨fun a c hc => ?_, hcontent, hframe, fun x hx hnone => ext_frame_content ?_ ?_,
    b.checkedStore_eq_ok, b.checkedStoreAll_eq_ok xs, (b.storeAll xs).checkedLoadByte_eq_ok⟩
  · have hc' : (b.storeAll xs).cell? a = some c := by
      rw [storeAll_eq_bytes, cell?_storeBytes, hc]
    rw [loadByte_of_cell? _ hc', loadByte_of_cell? _ hc, storeAll_eq_bytes, content_storeBytes]
  · rw [hframe x hx, hnone, if_neg (by simp)]
  · funext c
    exact hcontent x c (by simp [hnone])

/-- Two aliases of a byte, one of them behind the fold, then the save memory, and a store where
nothing can be stored. -/
theorem fresh_memories_mirrored :
    let b := Bus.new (.new #[] 4)
    let word : Store := ⟨.word, 0x06018002#32, 0x44332211#32⟩
    let byte : Store := ⟨.byte, 0x06030001#32, 0xAA#32⟩
    let save : Store := ⟨.half, 0x0F010002#32, 0x6655#32⟩
    let program : Store := ⟨.word, 0x08000000#32, 7#32⟩
    b.cell? 0x06010001#32 = some ⟨.vram, 0x10001⟩
      ∧ (b.storeAll [word, byte]).loadByte 0x06010001#32 = 0xAA#8
      ∧ ⟨.vram, 0x10002⟩ ∉ b.covered byte
      ∧ (b.store byte).content ⟨.vram, 0x10002⟩ = b.content ⟨.vram, 0x10002⟩
      ∧ Region.of? save.address ≠ some .registers
      ∧ (b.store save).frame = b.frame.saveChanged
      ∧ Region.of? program.address ≠ some .registers
      ∧ b.covered program = []
      ∧ b.store program = b
      ∧ b.checkedStore program = .ok b := by
  intro b word byte save program
  obtain ⟨hload, hcontent, hframe, hnone, hchecked, -, -⟩ := memories_mirrored b [word, byte]
  have hc : b.cell? 0x06010001#32 = some ⟨.vram, 0x10001⟩ := by decide +kernel
  have hl : b.lastByte? ⟨.vram, 0x10001⟩ ([word, byte].flatMap Store.bytes) = some 0xAA#8 := by
    decide +kernel
  have hb : ⟨.vram, 0x10002⟩ ∉ b.covered byte := by decide +kernel
  have hr : Region.of? save.address ≠ some .registers := by decide +kernel
  have hs : ∃ c ∈ b.covered save, c.block = .save := by decide +kernel
  have hp : Region.of? program.address ≠ some .registers := by decide +kernel
  have hn : b.covered program = [] := by decide +kernel
  refine ⟨hc, ?_, hb, hcontent _ _ hb, hr, ?_, hp, hn, hnone _ hp hn,
    (hchecked program).trans (congrArg Except.ok (hnone _ hp hn))⟩
  · rw [hload _ _ hc, hl]
    rfl
  · rw [hframe _ hr, if_pos hs]

end Handheld.Bus

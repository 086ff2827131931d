import Handheld.Bus.Access
import Handheld.Proofs.Execution.Alignment
import Handheld.Proofs.Execution.Cases

/-!
# Proofs/Execution/Footprint — what an instruction leaves alone

Of the registers of all modes an operation writes the cells of its destinations, of a base that it
moves and of the link it leaves, as the mode sees them (`Operation.cells`).  Of the status it writes
the flags that it computes (`Operation.flagMask`), unless it transfers, restores or saves a status
(`Operation.StatusEffect`).  All else is as it was (`execute_footprint`).

An operation is put together from a few writes and at most one jump, so it is enough that each of
them stays `Within` some cells, and that all but the flags of the end are `Steady`.
-/

namespace Handheld

/-! ## Footprints -/

/-- The flags of a sum or a logical result. -/
def BinaryOp.flagMask : BinaryOp → Flags
  | and | eor | orr | bic => { negative := true, zero := true, carry := true }
  | sub | rsb | add | adc | sbc | rsc =>
    { negative := true, zero := true, carry := true, overflow := true }

/-- The cell of a base register that a transfer moves. -/
def Addressing.cells (mode : Addressing) (moves : Bool) (m : Mode) : List Cell :=
  if moves then [.of m mode.base] else []

namespace Operation

/-- The flags that an operation computes. -/
def flagMask : Operation → Flags
  | test op _ _ => op.binary.flagMask
  | binary op true rd _ _ => if rd = .pc then {} else op.flagMask
  | move _ true rd _ => if rd = .pc then {} else BinaryOp.and.flagMask
  | multiply true _ _ _ _ | multiplyLong _ _ true _ _ _ _ => { negative := true, zero := true }
  | branchExchange _ => { thumb := true }
  | _ => {}

/-- The operation returns from an exception: it writes the program counter and is asked to set
flags, or loads it with the user mark. -/
def restoresStatus : Operation → Bool
  | binary _ setFlags rd _ _ | move _ setFlags rd _ => setFlags && decide (rd = .pc)
  | loadMultiple _ list user => user && list.getLsbD 15
  | _ => false

/-- The cells that an operation may write in a mode, with or without a host that handles software
interrupts. -/
def cells (hooked : Bool) (m : Mode) : Operation → List Cell
  | softwareInterrupt _ =>
    if hooked then [.of m .r0, .of m .r1, .of m .r3]
    else [.link Mode.supervisor.bank, .saved ⟨.supervisor, rfl⟩, .pc]
  | coprocessor _ | test .. => []
  | branch _ | branchNarrow _ | branchExchange _ => [.pc]
  | branchLink _ | linkLow _ => [.of m .link, .pc]
  | linkHigh _ => [.of m .link]
  | swap _ _ rd _ | loadFromPc rd _ | binary _ _ rd _ _ | move _ _ rd _ | addToPc rd _
  | multiply _ rd _ _ _ | readStatus _ rd => [.of m rd]
  | multiplyLong _ _ _ high low _ _ => [.of m high, .of m low]
  | load _ mode rd _ => .of m rd :: mode.cells (!mode.early || mode.writeBack) m
  | store _ mode _ _ => mode.cells (!mode.early || mode.writeBack) m
  | loadMultiple mode list user =>
    mode.cells mode.writeBack m
      ++ (listed list).map (.of (if user && !list.getLsbD 15 then .user else m))
  | storeMultiple mode _ _ => mode.cells mode.writeBack m
  | writeStatus saved _ _ => if saved then (Cell.saved? m).toList else []

/-- The operation may use the memory. -/
def usesMemory (hooked : Bool) : Operation → Bool
  | softwareInterrupt _ => hooked
  | swap .. | load .. | store .. | loadFromPc .. | loadMultiple .. | storeMultiple .. => true
  | _ => false

/-- What an operation may do to the status: a call of the supervisor enters its mode, interrupts
masked and instructions wide; a write to the status changes bits of its mask, but not the width of
instructions, and in user mode the condition flags only; a return from an exception replaces the
status by the saved one, but for mode bits that encode no mode; anything else writes the flags that
it computes. -/
def StatusEffect (hooked : Bool) (r r' : Registers) : Operation → Prop
  | softwareInterrupt _ =>
    if hooked then r'.status = r.status
    else r'.mode = .supervisor ∧ r'.flags = { r.flags with maskInterrupt := true, thumb := false }
  | writeStatus false mask _ =>
    ∀ i, r'.status.toWord.getLsbD i ≠ r.status.toWord.getLsbD i →
      mask.getLsbD i = true ∧ i ≠ 5 ∧ (r.mode = .user → 28 ≤ i)
  | operation =>
    if operation.restoresStatus then
      r'.status = if r.savedStatus.mode?.isSome then r.savedStatus
        else { r.savedStatus with modeBits := r.mode.code }
    else r'.mode = r.mode ∧ r'.flags = r.flags.merge operation.flagMask r'.flags

end Operation

/-- A saved status is no register that a mode sees. -/
theorem Cell.saved?_ne_of {k m : Mode} {x : Cell} (h : Cell.saved? k = some x) (n : Register) :
    x ≠ .of m n := by
  rintro rfl
  have hn := Cell.number?_of m n
  unfold Cell.saved? at h
  split at h
  · rw [← Option.some.inj h] at hn
    cases hn
  · cases h

/-- To merge flags with themselves changes none. -/
theorem Flags.merge_self (f mask : Flags) : f.merge mask f = f := by
  unfold Flags.merge
  simp only [ite_self]

namespace Psr

/-- A patch keeps the bits that its mask leaves out. -/
theorem getLsbD_patch (p : Psr) {mask : Word} (v : Word) {i : Nat}
    (hi : mask.getLsbD i = false) : (p.patch mask v).toWord.getLsbD i = p.toWord.getLsbD i := by
  have hp : (p.toWord.getLsbD i && present.getLsbD i) = p.toWord.getLsbD i := by
    rw [← BitVec.getLsbD_and, toWord_and_present]
  by_cases h : i < 32
  · rw [patch, toWord_ofWord, BitVec.getLsbD_and, BitVec.getLsbD_or, BitVec.getLsbD_and,
      BitVec.getLsbD_and, BitVec.getLsbD_not, hi]
    simp only [Bool.and_false, Bool.false_or, Bool.not_false, Bool.and_true, h, decide_true]
    exact hp
  · rw [BitVec.getLsbD_of_ge _ i (by omega), BitVec.getLsbD_of_ge _ i (by omega)]

/-- Other mode bits change the five low bits of the word. -/
theorem getLsbD_withModeBits (p : Psr) (bits : BitVec 5) (i : Nat) :
    ({ p with modeBits := bits } : Psr).toWord.getLsbD i
      = if i < 5 then bits.getLsbD i else p.toWord.getLsbD i := by
  rw [getLsbD_toWord, getLsbD_toWord]
  by_cases h : i < 5
  · simp only [if_pos h]
  · simp only [if_neg h]

/-- No instruction may write the width of instructions, and in user mode none may write more than
the condition flags. -/
theorem of_getLsbD_writable {m : Mode} {i : Nat} (h : (writable m).getLsbD i = true) :
    i ≠ 5 ∧ (m = .user → 28 ≤ i) := by
  have hi : i < 32 := BitVec.lt_of_getLsbD h
  have hw : ∀ j : Fin 32, (writable m).getLsbD j = true →
      j.val ≠ 5 ∧ (m = .user → 28 ≤ j.val) := by
    cases m
    all_goals decide
  exact hw ⟨i, hi⟩ h

end Psr

/-- The program counter comes last in a list. -/
theorem listed_eq_append {list : Half} (h : list.getLsbD 15 = true) :
    ∃ xs, listed list = xs ++ [.pc] ∧ .pc ∉ xs := by
  refine ⟨((List.finRange 15).map Fin.castSucc).filter fun n : Register => list.getLsbD n, ?_, ?_⟩
  · rw [listed, List.finRange_succ_last, List.filter_append]
    congr 1
    exact List.filter_cons_of_pos h
  · intro hp
    obtain ⟨k, -, hk⟩ := List.mem_map.mp (List.mem_filter.mp hp).1
    exact absurd hk (Fin.ne_of_lt (Fin.castSucc_lt_last k))

namespace Context

variable {M : Type} {c c' c'' : Context M} {cells : List Cell}

/-! ## Staying within cells -/

/-- Only the given cells have changed, and the program counter only by a jump. -/
structure Within (cells : List Cell) (c' c : Context M) : Prop where
  /-- The other cells are as they were. -/
  physical : ∀ x, x ∉ cells → c'.registers.physical x = c.registers.physical x
  /-- Without a jump the program counter is as it was. -/
  pc : c'.branched = false → c.branched = false ∧ c'.registers.pc = c.registers.pc

/-- To do nothing stays within any cells. -/
theorem Within.refl (cells : List Cell) (c : Context M) : c.Within cells c :=
  ⟨fun _ _ => rfl, fun h => ⟨h, rfl⟩⟩

/-- Two parts that stay within cells stay within them together. -/
theorem Within.trans (h₂ : c''.Within cells c') (h₁ : c'.Within cells c) : c''.Within cells c := by
  refine ⟨fun x hx => (h₂.physical x hx).trans (h₁.physical x hx), fun hb => ?_⟩
  obtain ⟨hb', hp'⟩ := h₂.pc hb
  obtain ⟨hb'', hp''⟩ := h₁.pc hb'
  exact ⟨hb'', hp'.trans hp''⟩

/-- A jump changes the program counter alone. -/
theorem within_jump (hpc : .pc ∈ cells) (c : Context M) (a : Word) :
    (c.jump a).Within cells c := by
  refine ⟨fun x hx => ?_, nofun⟩
  have hne : x ≠ .pc := fun e => hx (e ▸ hpc)
  exact (congrFun (c.registers.physical_setPc _) x).trans (Function.update_of_ne hne _ _)

/-- Replacing one cell that is not the program counter. -/
theorem within_update {x : Cell} (hx : x ∈ cells) {r : Registers} {v : Word}
    (hr : r.physical = Function.update c.registers.physical x v) (hpc : r.pc = c.registers.pc)
    (m : M) : Within cells ⟨r, m, c.address, c.size, c.branched⟩ c := by
  refine ⟨fun y hy => ?_, fun hb => ⟨hb, hpc⟩⟩
  have hne : y ≠ x := fun e => hy (e ▸ hx)
  exact (congrFun hr y).trans (Function.update_of_ne hne _ _)

/-- A write changes the cell that the current mode sees, and counts as a jump if that is the program
counter. -/
theorem within_write {n : Register} (hn : .of c.registers.mode n ∈ cells) (v : Word) :
    (c.write n v).Within cells c := by
  rw [write]
  split
  · next h =>
    subst h
    exact within_jump hn c v
  · next h =>
    exact within_update hn (c.registers.physical_write n v) (c.registers.pc_write_of_ne h v) _

/-- A write as user mode sees the registers changes a cell of user mode. -/
theorem within_writeUser {n : Register} (hn : .of .user n ∈ cells) (v : Word) :
    (c.writeUser n v).Within cells c := by
  rw [writeUser]
  split
  · next h =>
    subst h
    exact within_jump hn c v
  · next h =>
    exact within_update hn (c.registers.physical_writeUser n v)
      (c.registers.pc_writeUser_of_ne h v) _

/-- The flags are in no cell. -/
theorem within_setFlags (cells : List Cell) (c : Context M) (f : Flags) :
    (c.setFlags f).Within cells c := ⟨fun _ _ => rfl, fun h => ⟨h, rfl⟩⟩

theorem within_setProductFlags (cells : List Cell) (c : Context M)
    (setFlags negative zero : Bool) :
    (c.setProductFlags setFlags negative zero).Within cells c := by
  cases setFlags
  · exact .refl cells c
  · exact within_setFlags cells c _

/-- A restored status switches modes, which moves no cell. -/
theorem within_restoreStatus (cells : List Cell) (c : Context M) :
    c.restoreStatus.Within cells c :=
  ⟨fun x _ => congrFun (c.registers.physical_writeStatus _) x,
    fun h => ⟨h, c.registers.pc_writeStatus _⟩⟩

/-! ## Keeping the status -/

/-- Only the given cells have changed, and of the status nothing. -/
structure Steady (cells : List Cell) (c' c : Context M) : Prop extends Within cells c' c where
  /-- The mode is as it was. -/
  mode : c'.registers.mode = c.registers.mode
  /-- The flags are as they were. -/
  flags : c'.flags = c.flags

/-- To do nothing keeps the status. -/
theorem Steady.refl (cells : List Cell) (c : Context M) : c.Steady cells c :=
  ⟨.refl cells c, rfl, rfl⟩

/-- Two parts that keep the status keep it together. -/
theorem Steady.trans (h₂ : c''.Steady cells c') (h₁ : c'.Steady cells c) : c''.Steady cells c :=
  ⟨h₂.toWithin.trans h₁.toWithin, h₂.mode.trans h₁.mode, h₂.flags.trans h₁.flags⟩

/-- A jump keeps the status. -/
theorem steady_jump (hpc : .pc ∈ cells) (c : Context M) (a : Word) : (c.jump a).Steady cells c :=
  ⟨within_jump hpc c a, rfl, rfl⟩

/-- A write keeps the status. -/
theorem steady_write {n : Register} (hn : .of c.registers.mode n ∈ cells) (v : Word) :
    (c.write n v).Steady cells c := by
  refine ⟨within_write hn v, ?_, ?_⟩
  all_goals
    rw [write]
    split
    all_goals rfl

/-- A write as user mode sees the registers keeps the status. -/
theorem steady_writeUser {n : Register} (hn : .of .user n ∈ cells) (v : Word) :
    (c.writeUser n v).Steady cells c := by
  refine ⟨within_writeUser hn v, ?_, ?_⟩
  · rw [writeUser]
    split
    · rfl
    · exact c.registers.mode_writeUser n v
  · rw [writeUser]
    split
    · rfl
    · exact c.registers.flags_writeUser n v

/-- A write after a part that kept the status. -/
theorem Steady.write (h : c'.Steady cells c) {n : Register} (hn : .of c.registers.mode n ∈ cells)
    (v : Word) : (c'.write n v).Steady cells c :=
  (steady_write (h.mode ▸ hn) v).trans h

theorem Steady.writeUser (h : c'.Steady cells c) {n : Register} (hn : .of .user n ∈ cells)
    (v : Word) : (c'.writeUser n v).Steady cells c :=
  (steady_writeUser hn v).trans h

theorem Steady.jump (h : c'.Steady cells c) (hpc : .pc ∈ cells) (a : Word) :
    (c'.jump a).Steady cells c :=
  (steady_jump hpc c' a).trans h

/-- Memory accesses reach no register. -/
theorem steady_of_registers (hr : c'.registers = c.registers) (hb : c'.branched = c.branched) :
    c'.Steady cells c :=
  ⟨⟨fun x _ => congrArg (fun r => r.physical x) hr, fun h => ⟨hb ▸ h, congrArg Registers.pc hr⟩⟩,
    congrArg Registers.mode hr, congrArg Registers.flags hr⟩

/-- The base register of a transfer is moved if the addressing asks for it. -/
theorem Steady.moveBase (h : c'.Steady cells c) {mode : Addressing} {moves : Bool}
    (hc : ∀ x ∈ mode.cells moves c.registers.mode, x ∈ cells) (moved : Word) :
    (if moves then c'.write mode.base moved else c').Steady cells c := by
  cases moves
  · exact h
  · exact h.write (hc _ (by simp [Addressing.cells])) moved

/-- An operation that keeps the status has the effect on it of one that computes no flags. -/
theorem Steady.kept (h : c'.Steady cells c) (mask : Flags) :
    c'.registers.mode = c.registers.mode
      ∧ c'.registers.flags = c.registers.flags.merge mask c'.registers.flags := by
  have hf : c'.registers.flags = c.registers.flags := h.flags
  rw [hf, Flags.merge_self]
  exact ⟨h.mode, rfl⟩

/-- With the mode and the flags, the status word is kept. -/
theorem Steady.status (h : c'.Steady cells c) : c'.registers.status = c.registers.status := by
  rw [Registers.status, Registers.status, h.mode]
  exact congrArg (fun f => ({ f with modeBits := c.registers.mode.code } : Psr)) h.flags

/-- A product that was written may set two flags. -/
theorem Steady.productFlags (h : c'.Steady cells c) (setFlags negative zero : Bool) :
    (c'.setProductFlags setFlags negative zero).Within cells c
      ∧ (c'.setProductFlags setFlags negative zero).registers.mode = c.registers.mode
      ∧ (c'.setProductFlags setFlags negative zero).registers.flags = c.registers.flags.merge
        (if setFlags then { negative := true, zero := true } else {})
        (c'.setProductFlags setFlags negative zero).registers.flags := by
  refine ⟨(within_setProductFlags cells c' setFlags negative zero).trans h.toWithin, ?_⟩
  cases setFlags
  · exact h.kept _
  · refine ⟨h.mode, ?_⟩
    change c'.flags.setResult negative zero = _
    rw [h.flags]
    rfl

section Memory

variable [Memory M]

/-- A load reaches no register, whatever its kind. -/
theorem steady_loadKind (kind : LoadKind) (a : Word) : (c.loadKind kind a).2.Steady cells c := by
  cases kind with
  | signedHalf =>
    rw [loadKind]
    split
    all_goals exact steady_of_registers rfl rfl
  | _ => exact steady_of_registers rfl rfl

/-- A store reaches no register, whatever its kind. -/
theorem steady_storeKind (kind : StoreKind) (a v : Word) :
    (c.storeKind kind a v).Steady cells c := by
  cases kind
  all_goals exact steady_of_registers rfl rfl

/-- Storing a register list reaches no register. -/
theorem steady_storeRegisters (user : Bool) (list : List Register) (a : Word) :
    (storeRegisters user list a c).Steady cells c := by
  induction list generalizing c a with
  | nil => exact .refl cells c
  | cons n rest ih => exact ih _ |>.trans (steady_of_registers rfl rfl)

/-- Loading registers writes their cells, and keeps the status if the program counter is not
among those that restore it. -/
theorem steady_loadRegisters {user restore : Bool} {list : List Register}
    (hn : ∀ n ∈ list, .of (if user then .user else c.registers.mode) n ∈ cells)
    (hr : restore = true → .pc ∉ list) (a : Word) :
    (loadRegisters user restore list a c).Steady cells c := by
  induction list generalizing c a with
  | nil => exact .refl cells c
  | cons n rest ih =>
    have hload : (c.loadWord a.alignWord).2.Steady cells c := steady_of_registers rfl rfl
    have hkeep : ¬(restore && decide (n = .pc)) = true := by
      intro h
      simp only [Bool.and_eq_true, decide_eq_true_eq] at h
      exact hr h.1 (h.2 ▸ List.mem_cons_self)
    have hhead := hn n List.mem_cons_self
    have hwrite : (if user then (c.loadWord a.alignWord).2.writeUser n (c.loadWord a.alignWord).1
        else (c.loadWord a.alignWord).2.write n (c.loadWord a.alignWord).1).Steady cells c := by
      cases user
      · exact hload.write hhead _
      · exact hload.writeUser hhead _
    rw [loadRegisters]
    dsimp only
    rw [if_neg hkeep]
    refine (ih (fun k hk => ?_) (fun h hp => hr h (List.mem_cons_of_mem _ hp)) _).trans hwrite
    rw [hwrite.mode]
    exact hn k (List.mem_cons_of_mem _ hk)

/-- A register list can be loaded in two parts, the second behind the first. -/
theorem loadRegisters_append (user restore : Bool) (xs ys : List Register) (a : Word) :
    loadRegisters user restore (xs ++ ys) a c = loadRegisters user restore ys
      (a + BitVec.ofNat 32 (4 * xs.length)) (loadRegisters user restore xs a c) := by
  induction xs generalizing c a with
  | nil => rw [List.nil_append, List.length_nil, Nat.mul_zero, BitVec.add_zero, loadRegisters]
  | cons n xs ih =>
    have h : a + BitVec.ofNat 32 (4 * (xs.length + 1))
        = a + 4 + BitVec.ofNat 32 (4 * xs.length) := by
      rw [Nat.mul_succ, Nat.add_comm, BitVec.ofNat_add, BitVec.add_assoc]
      rfl
    rw [List.length_cons, h]
    exact ih _

end Memory

/-! ## The saved status -/

/-- The status that a return from an exception leaves. -/
theorem Steady.status_restoreStatus (h : c'.Steady cells c)
    (hs : ∀ x, Cell.saved? c.registers.mode = some x → x ∉ cells) :
    c'.restoreStatus.registers.status
      = if c.registers.savedStatus.mode?.isSome then c.registers.savedStatus
        else { c.registers.savedStatus with modeBits := c.registers.mode.code } := by
  have hsaved : c'.registers.savedStatus = c.registers.savedStatus := by
    rw [← Psr.ofWord_toWord c'.registers.savedStatus, ← Psr.ofWord_toWord c.registers.savedStatus,
      Registers.savedStatus_eq_physical, Registers.savedStatus_eq_physical, h.mode, h.status]
    split
    · next x hx => rw [h.physical x (hs x hx)]
    · rfl
  change (c'.registers.writeStatus c'.registers.savedStatus).status = _
  rw [Registers.status_writeStatus, hsaved, h.mode]

/-! ## Results of data operations -/

/-- A result goes to one cell; that the status may have been restored before moves no cell. -/
theorem within_writeResult (c : Context M) (setFlags : Bool) (rd : Register)
    (result : Word × Flags) :
    (c.writeResult setFlags rd result).Within [.of c.registers.mode rd] c := by
  have hd : Cell.of c.registers.mode rd ∈ [Cell.of c.registers.mode rd] := List.mem_singleton_self _
  unfold writeResult
  by_cases hpc : rd = .pc
  · subst hpc
    rw [if_pos rfl]
    cases setFlags
    · exact within_write hd _
    · exact (within_jump hd _ _).trans (within_restoreStatus _ c)
  · rw [if_neg hpc]
    cases setFlags
    · exact within_write hd _
    · exact (within_setFlags _ _ _).trans (within_write hd _)

/-- A data operation writes the flags that it computes, and returns from an exception if it writes
the program counter. -/
theorem status_writeResult (c : Context M) (setFlags : Bool) (rd : Register)
    {result : Word × Flags} {mask : Flags} (hf : result.2 = c.flags.merge mask result.2) :
    if setFlags && decide (rd = .pc) then
      (c.writeResult setFlags rd result).registers.status
        = if c.registers.savedStatus.mode?.isSome then c.registers.savedStatus
          else { c.registers.savedStatus with modeBits := c.registers.mode.code }
    else (c.writeResult setFlags rd result).registers.mode = c.registers.mode
      ∧ (c.writeResult setFlags rd result).flags = c.flags.merge
        (if setFlags then if rd = .pc then {} else mask else {})
        (c.writeResult setFlags rd result).flags := by
  have hw := steady_write (List.mem_singleton_self (Cell.of c.registers.mode rd)) result.1
  unfold writeResult
  by_cases hpc : rd = .pc
  · subst hpc
    cases setFlags
    · exact ⟨hw.mode, hw.flags⟩
    · exact (Steady.refl [] c).status_restoreStatus nofun
  · rw [if_neg hpc]
    cases setFlags
    · simp only [hpc, decide_false, Bool.and_false, Bool.false_eq_true, if_false]
      exact ⟨hw.mode, hw.flags⟩
    · simp only [hpc, decide_false, Bool.and_false, Bool.false_eq_true, if_false, if_true]
      exact ⟨hw.mode, hf⟩

/-- An operation leaves the flags alone that are not among those it computes. -/
theorem flags_binary (op : BinaryOp) (a b : Word) (shifter : Bool) (f : Flags) :
    (op.eval a b shifter f).2 = f.merge op.flagMask (op.eval a b shifter f).2 := by
  cases op
  all_goals rfl

theorem flags_move (op : MoveOp) (v : Word) (shifter : Bool) (f : Flags) :
    (op.eval v shifter f).2 = f.merge BinaryOp.and.flagMask (op.eval v shifter f).2 := by
  cases op
  all_goals rfl

/-! ## Software interrupts -/

/-- A host's answer goes to three registers. -/
theorem steady_callHook (c : Context M) (hook : Hook M) (comment : Word) :
    (c.callHook hook comment).Steady
      [.of c.registers.mode .r0, .of c.registers.mode .r1, .of c.registers.mode .r3] c := by
  have h (v₀ v₁ v₃ : Word) : (((c.write .r0 v₀).write .r1 v₁).write .r3 v₃).Steady
      [.of c.registers.mode .r0, .of c.registers.mode .r1, .of c.registers.mode .r3] c :=
    ((steady_write (by simp) v₀).write (by simp) v₁).write (by simp) v₃
  have hr : ∃ v₀ v₁ v₃, (c.callHook hook comment).registers
        = (((c.write .r0 v₀).write .r1 v₁).write .r3 v₃).registers :=
    ⟨_, _, _, rfl⟩
  obtain ⟨v₀, v₁, v₃, hr⟩ := hr
  exact (steady_of_registers hr rfl).trans (h v₀ v₁ v₃)

/-- Entering supervisor mode writes its link register and its saved status, and jumps. -/
theorem within_enterSupervisor (c : Context M) : c.enterSupervisor.Within
    [.link Mode.supervisor.bank, .saved ⟨.supervisor, rfl⟩, .pc] c := by
  have hp (x : Cell) (hl : x ≠ .link Mode.supervisor.bank) (hs : x ≠ .saved ⟨.supervisor, rfl⟩) :
      (c.registers.enterException .supervisor (c.address + c.size)).physical x
        = c.registers.physical x :=
    c.registers.physical_enterException .supervisor _ hl fun e => hs (Option.some.inj e)
  have henter : (c.mapRegisters fun r => r.enterException .supervisor (c.address + c.size)).Within
      [.link Mode.supervisor.bank, .saved ⟨.supervisor, rfl⟩, .pc] c := by
    refine ⟨fun x hx => ?_, fun hb => ⟨hb, ?_⟩⟩
    · simp only [List.mem_cons, not_or] at hx
      exact hp x hx.1 hx.2.1
    · rw [Registers.pc_eq_physical, Registers.pc_eq_physical]
      exact hp .pc nofun nofun
  exact (within_jump (by simp) _ _).trans henter

/-! ## Writing a status -/

/-- A write to the saved status replaces its cell, and one to the status changes bits that the mask
selects and the mode may write. -/
theorem writeStatus_stays (c : Context M) (hooked saved : Bool) (mask : Word) (data : Operand) :
    (c.writeStatus saved mask data).Within
        ((Operation.writeStatus saved mask data).cells hooked c.registers.mode) c
      ∧ (Operation.writeStatus saved mask data).StatusEffect hooked c.registers
        (c.writeStatus saved mask data).registers := by
  cases saved with
  | true =>
    have hp := c.registers.physical_writeSavedStatus
      (c.registers.savedStatus.patch mask (c.operand data).1)
    have h : (c.writeStatus true mask data).Steady
        ((Operation.writeStatus true mask data).cells hooked c.registers.mode) c := by
      refine ⟨⟨fun x hx => ?_, fun hb => ⟨hb, ?_⟩⟩, ?_, ?_⟩
      · change x ∉ (Cell.saved? c.registers.mode).toList at hx
        cases hs : Cell.saved? c.registers.mode with
        | none =>
          rw [hs] at hp
          exact congrFun hp x
        | some y =>
          rw [hs] at hp hx
          have hne : x ≠ y := fun e => hx (by simp [e])
          exact (congrFun hp x).trans (Function.update_of_ne hne _ _)
      · exact c.registers.pc_writeSavedStatus _
      · exact c.registers.mode_writeSavedStatus _
      · exact c.registers.flags_writeSavedStatus _
    exact ⟨h.toWithin, h.kept _⟩
  | false =>
    refine ⟨⟨fun x _ => congrFun (c.registers.physical_writeStatus _) x,
      fun hb => ⟨hb, c.registers.pc_writeStatus _⟩⟩, fun i hne => ?_⟩
    have hw : (mask &&& Psr.writable c.registers.mode).getLsbD i = true := by
      by_contra hw
      refine hne ?_
      have hp := Psr.getLsbD_patch c.registers.status (c.operand data).1
        (Bool.not_eq_true _ ▸ hw)
      change (c.registers.writeStatus (c.registers.status.patch
        (mask &&& Psr.writable c.registers.mode) (c.operand data).1)).status.toWord.getLsbD i = _
      rw [Registers.status_writeStatus]
      split
      · exact hp
      · rw [Psr.getLsbD_withModeBits, hp, Psr.getLsbD_toWord]
        split
        all_goals rfl
    rw [BitVec.getLsbD_and, Bool.and_eq_true] at hw
    exact ⟨hw.1, Psr.of_getLsbD_writable hw.2⟩

/-! ## Transfers -/

/-- The base of a register list is moved, if at all, within the cells of the list. -/
theorem steady_loadBase (c : Context M) (mode : Addressing) (list : Half) (user : Bool)
    (moved : Word) : (if mode.writeBack then c.write mode.base moved else c).Steady
      ((Operation.loadMultiple mode list user).cells false c.registers.mode) c :=
  (Steady.refl _ c).moveBase (fun _ hx => List.mem_append_left _ hx) moved

/-- A list with the program counter may change its cell. -/
theorem pc_mem_loadMultiple {list : Half} (hpc : list.getLsbD 15 = true) (mode : Addressing)
    (user : Bool) (m : Mode) : .pc ∈ (Operation.loadMultiple mode list user).cells false m := by
  refine List.mem_append_right _ (List.mem_map.mpr ⟨.pc, (mem_listed list .pc).mpr hpc, ?_⟩)
  rfl

/-- A saved status is not among the cells that a list is loaded to. -/
theorem saved_not_mem_loadMultiple {k m : Mode} {x : Cell} (hx : Cell.saved? k = some x)
    (mode : Addressing) (list : Half) (user : Bool) :
    x ∉ (Operation.loadMultiple mode list user).cells false m := by
  intro h
  rcases List.mem_append.mp h with h | h
  · unfold Addressing.cells at h
    split at h
    · exact Cell.saved?_ne_of hx _ (List.mem_singleton.mp h)
    · cases h
  · obtain ⟨n, -, rfl⟩ := List.mem_map.mp h
    exact Cell.saved?_ne_of hx n rfl

section Perform

variable [Memory M]

/-- A swap writes one register. -/
theorem steady_swap (c : Context M) (byte : Bool) (base rd rm : Register) :
    (c.swap byte base rd rm).Steady [.of c.registers.mode rd] c := by
  have hd : Cell.of c.registers.mode rd ∈ [Cell.of c.registers.mode rd] := List.mem_singleton_self _
  cases byte
  · have h : ((c.loadRotated (c.read base)).2.storeWord (c.read base) (c.read rm)).Steady
        [.of c.registers.mode rd] c := steady_of_registers rfl rfl
    exact h.write hd _
  · have h : ((c.loadByte (c.read base)).2.storeByte (c.read base) ((c.read rm).byte 0)).Steady
        [.of c.registers.mode rd] c := steady_of_registers rfl rfl
    exact h.write hd _

/-- A load writes its destination and perhaps its base. -/
theorem steady_load (c : Context M) (kind : LoadKind) (mode : Addressing) (rd : Register)
    (offset : Operand) : (c.load kind mode rd offset).Steady
      ((Operation.load kind mode rd offset).cells false c.registers.mode) c := by
  have hload : (c.loadKind kind (c.transferAddresses mode (c.operand offset).1).1).2.Steady
      ((Operation.load kind mode rd offset).cells false c.registers.mode) c :=
    steady_loadKind kind _
  exact (hload.moveBase (fun _ hx => List.mem_cons_of_mem _ hx) _).write List.mem_cons_self _

theorem steady_store (c : Context M) (kind : StoreKind) (mode : Addressing) (rd : Register)
    (offset : Operand) : (c.store kind mode rd offset).Steady
      ((Operation.store kind mode rd offset).cells false c.registers.mode) c :=
  (steady_storeKind kind _ _).moveBase (fun _ hx => hx) _

theorem steady_loadFromPc (c : Context M) (rd : Register) (offset : Word) :
    (c.loadFromPc rd offset).Steady [.of c.registers.mode rd] c := by
  have h : (c.loadWord (c.pc.alignWord + offset)).2.Steady [.of c.registers.mode rd] c :=
    steady_of_registers rfl rfl
  exact h.write (List.mem_singleton_self _) _

/-- Storing a register list moves the base at most. -/
theorem steady_storeMultiple (c : Context M) (mode : Addressing) (list : Half) (user : Bool) :
    (c.storeMultiple mode list user).Steady (mode.cells mode.writeBack c.registers.mode) c :=
  (steady_storeRegisters user (listed list) _).moveBase (fun _ hx => hx) _

/-- A register list is loaded from its lowest address up, after the base was moved. -/
theorem loadMultiple_eq (c : Context M) (mode : Addressing) (list : Half) (user : Bool) :
    c.loadMultiple mode list user
      = loadRegisters (user && !list.getLsbD 15) user (listed list)
        (c.blockAddresses mode (listed list).length).1
        (if mode.writeBack then c.write mode.base (c.blockAddresses mode (listed list).length).2
          else c) :=
  rfl

/-- Without a return from an exception, loading a list keeps the status. -/
theorem steady_loadMultiple (c : Context M) (mode : Addressing) {list : Half} {user : Bool}
    (hr : (user && list.getLsbD 15) = false) :
    (c.loadMultiple mode list user).Steady
      ((Operation.loadMultiple mode list user).cells false c.registers.mode) c := by
  have hbase := c.steady_loadBase mode list user (c.blockAddresses mode (listed list).length).2
  rw [loadMultiple_eq]
  refine (steady_loadRegisters (fun n hn => ?_) (fun hu hp => ?_) _).trans hbase
  · rw [hbase.mode]
    exact List.mem_append_right _ (List.mem_map_of_mem hn)
  · have hpc : list.getLsbD 15 = true := (mem_listed list .pc).mp hp
    rw [hu, hpc] at hr
    cases hr

/-- With one, it keeps the status until just before it writes the program counter. -/
theorem loadMultiple_restores (c : Context M) (mode : Addressing) {list : Half}
    (hpc : list.getLsbD 15 = true) :
    ∃ c' : Context M, ∃ a,
      c'.Steady ((Operation.loadMultiple mode list true).cells false c.registers.mode) c
        ∧ c.loadMultiple mode list true = c'.restoreStatus.jump a := by
  have hbase := c.steady_loadBase mode list true (c.blockAddresses mode (listed list).length).2
  rw [loadMultiple_eq, hpc]
  obtain ⟨xs, hxs, hp⟩ := listed_eq_append hpc
  generalize (if mode.writeBack then _ else c : Context M) = c₁ at hbase ⊢
  generalize (c.blockAddresses mode (listed list).length).1 = a
  rw [hxs]
  have hb := loadRegisters_append (c := c₁) false true xs [.pc] a
  generalize a + BitVec.ofNat 32 (4 * xs.length) = b at hb
  have hload : (loadRegisters false true xs a c₁).Steady
      ((Operation.loadMultiple mode list true).cells false c.registers.mode) c₁ := by
    refine steady_loadRegisters (fun n hn => ?_) (fun _ => hp) a
    rw [hbase.mode]
    refine List.mem_append_right _ ?_
    rw [hpc, hxs]
    exact List.mem_map_of_mem (List.mem_append_left _ hn)
  generalize loadRegisters false true xs a c₁ = c₂ at hb hload
  have hlast : (c₂.loadWord b.alignWord).2.Steady
      ((Operation.loadMultiple mode list true).cells false c.registers.mode) c₂ :=
    steady_of_registers rfl rfl
  exact ⟨_, (c₂.loadWord b.alignWord).1, hlast.trans (hload.trans hbase), hb⟩

/-- Loading a list writes its cells, and returns from an exception if it is to load the program
counter and the user mark is set. -/
theorem loadMultiple_stays (c : Context M) (hooked : Bool) (mode : Addressing) (list : Half)
    (user : Bool) : (c.loadMultiple mode list user).Within
        ((Operation.loadMultiple mode list user).cells hooked c.registers.mode) c
      ∧ (Operation.loadMultiple mode list user).StatusEffect hooked c.registers
        (c.loadMultiple mode list user).registers := by
  cases hr : user && list.getLsbD 15 with
  | false =>
    have h := c.steady_loadMultiple mode hr
    refine ⟨h.toWithin, ?_⟩
    change if (user && list.getLsbD 15) = true then _ else _
    rw [hr, if_neg nofun]
    exact h.kept _
  | true =>
    obtain ⟨rfl, hpc⟩ := Bool.and_eq_true_iff.mp hr
    obtain ⟨c', a, h, e⟩ := c.loadMultiple_restores mode hpc
    rw [e]
    refine ⟨(within_jump (pc_mem_loadMultiple hpc mode true _) _ a).trans
      ((within_restoreStatus _ c').trans h.toWithin), ?_⟩
    change if (true && list.getLsbD 15) = true then _ else _
    rw [hr, if_pos rfl]
    exact h.status_restoreStatus fun x hx => saved_not_mem_loadMultiple hx mode list true

/-! ## Every operation -/

/-- **Every operation stays inside its footprint.** -/
theorem perform_stays (c : Context M) (hook? : Option (Hook M)) (op : Operation) :
    (c.perform hook? op).Within (op.cells hook?.isSome c.registers.mode) c
      ∧ op.StatusEffect hook?.isSome c.registers (c.perform hook? op).registers := by
  have hd (n : Register) : Cell.of c.registers.mode n ∈ [Cell.of c.registers.mode n] :=
    List.mem_singleton_self _
  have hcall (n : Register) : Cell.of c.registers.mode n ∈ [Cell.of c.registers.mode n, .pc] :=
    List.mem_cons_self
  have hcall' (n : Register) : .pc ∈ [Cell.of c.registers.mode n, .pc] :=
    List.mem_cons_of_mem _ (List.mem_singleton_self _)
  have hpair₀ (n k : Register) :
      Cell.of c.registers.mode n ∈ [Cell.of c.registers.mode n, .of c.registers.mode k] :=
    List.mem_cons_self
  have hpair₁ (n k : Register) :
      Cell.of c.registers.mode k ∈ [Cell.of c.registers.mode n, .of c.registers.mode k] :=
    List.mem_cons_of_mem _ (List.mem_singleton_self _)
  cases op with
  | softwareInterrupt comment =>
    cases hook? with
    | none =>
      have h : (c.registers.enterException .supervisor (c.address + c.size)).Handles c.registers
        .supervisor := c.registers.handles_enterException rfl _
      exact ⟨c.within_enterSupervisor, h.mode, h.flags⟩
    | some hook =>
      have h := c.steady_callHook hook (comment.setWidth 32)
      exact ⟨h.toWithin, h.status⟩
  | coprocessor => exact ⟨.refl _ c, (Steady.refl [] c).kept _⟩
  | branch offset | branchNarrow offset =>
    have h := steady_jump (hd .pc) c (c.pc + offset)
    exact ⟨h.toWithin, h.kept _⟩
  | branchLink offset =>
    have h := (steady_write (hcall .link) (c.address - 4)).jump (hcall' .link) (c.pc + offset)
    exact ⟨h.toWithin, h.kept _⟩
  | linkHigh offset =>
    have h := steady_write (hd .link) (c.pc + offset)
    exact ⟨h.toWithin, h.kept _⟩
  | linkLow offset =>
    have h := (steady_write (hcall .link) ((c.address + 2) ||| 1#32)).jump (hcall' .link)
      (c.read .link + offset)
    exact ⟨h.toWithin, h.kept _⟩
  | branchExchange n =>
    exact ⟨(within_jump (hd .pc) _ _).trans (within_setFlags _ c _), rfl, rfl⟩
  | swap byte base rd rm =>
    have h := c.steady_swap byte base rd rm
    exact ⟨h.toWithin, h.kept _⟩
  | load kind mode rd offset =>
    have h := c.steady_load kind mode rd offset
    exact ⟨h.toWithin, h.kept _⟩
  | store kind mode rd offset =>
    have h := c.steady_store kind mode rd offset
    exact ⟨h.toWithin, h.kept _⟩
  | loadFromPc rd offset =>
    have h := c.steady_loadFromPc rd offset
    exact ⟨h.toWithin, h.kept _⟩
  | loadMultiple mode list user => exact c.loadMultiple_stays hook?.isSome mode list user
  | storeMultiple mode list user =>
    have h := c.steady_storeMultiple mode list user
    exact ⟨h.toWithin, h.kept _⟩
  | binary op setFlags rd rn operand =>
    have h := c.status_writeResult setFlags rd (flags_binary op (c.read rn)
      (c.dataOperand operand).1 (c.dataOperand operand).2 c.flags)
    refine ⟨c.within_writeResult setFlags rd _, ?_⟩
    cases setFlags
    all_goals exact h
  | test op rn operand =>
    exact ⟨within_setFlags _ c _, rfl, flags_binary op.binary _ _ _ _⟩
  | move op setFlags rd operand =>
    have h := c.status_writeResult setFlags rd (flags_move op (c.dataOperand operand).1
      (c.dataOperand operand).2 c.flags)
    refine ⟨c.within_writeResult setFlags rd _, ?_⟩
    cases setFlags
    all_goals exact h
  | addToPc rd offset =>
    have h := steady_write (hd rd) (c.pc.alignWord + offset)
    exact ⟨h.toWithin, h.kept _⟩
  | multiply setFlags rd rs rm addend =>
    have h (v : Word) := (steady_write (hd rd) v).productFlags setFlags v.msb (v == 0)
    refine ⟨(h _).1, ?_⟩
    cases setFlags
    all_goals exact (h _).2
  | multiplyLong signed accumulate setFlags high low rs rm =>
    have h (v : Double) := ((steady_write (hpair₁ high low) (Double.lowWord v)).write
      (hpair₀ high low) (Double.highWord v)).productFlags setFlags v.msb (v == 0)
    refine ⟨(h _).1, ?_⟩
    cases setFlags
    all_goals exact (h _).2
  | writeStatus saved mask data => exact c.writeStatus_stays hook?.isSome saved mask data
  | readStatus saved rd =>
    have h := steady_write (hd rd)
      (if saved then c.registers.savedStatus else c.registers.status).toWord
    exact ⟨h.toWithin, h.kept _⟩

/-! ## The memory -/

omit [Memory M] in
/-- A write to a register leaves the memory alone. -/
theorem memory_write (c : Context M) (n : Register) (v : Word) :
    (c.write n v).memory = c.memory := by
  unfold write
  split
  all_goals rfl

omit [Memory M] in
theorem memory_writeUser (c : Context M) (n : Register) (v : Word) :
    (c.writeUser n v).memory = c.memory := by
  unfold writeUser
  split
  all_goals rfl

omit [Memory M] in
theorem memory_moveBase (c : Context M) (mode : Addressing) (moves : Bool) (moved : Word) :
    (if moves then c.write mode.base moved else c).memory = c.memory := by
  cases moves
  · rfl
  · exact c.memory_write mode.base moved

omit [Memory M] in
theorem memory_writeResult (c : Context M) (setFlags : Bool) (rd : Register)
    (result : Word × Flags) : (c.writeResult setFlags rd result).memory = c.memory := by
  unfold writeResult
  split
  all_goals
    cases setFlags
    all_goals exact memory_write _ rd result.1

omit [Memory M] in
theorem memory_setProductFlags (c : Context M) (setFlags negative zero : Bool) :
    (c.setProductFlags setFlags negative zero).memory = c.memory := by
  cases setFlags
  all_goals rfl

/-- **An operation that does not use the memory leaves it alone**, one case each. -/
theorem memory_perform (c : Context M) (hook? : Option (Hook M)) {op : Operation}
    (h : op.usesMemory hook?.isSome = false) : (c.perform hook? op).memory = c.memory := by
  cases op with
  | softwareInterrupt comment =>
    cases hook? with
    | none => rfl
    | some hook => cases h
  | coprocessor | branch | branchNarrow | branchExchange | test | writeStatus => rfl
  | branchLink | linkHigh | linkLow | addToPc | readStatus => exact memory_write c _ _
  | swap | load | store | loadFromPc | loadMultiple | storeMultiple => cases h
  | binary op setFlags rd => exact c.memory_writeResult setFlags rd _
  | move op setFlags rd => exact c.memory_writeResult setFlags rd _
  | multiply setFlags rd =>
    exact (memory_setProductFlags _ setFlags _ _).trans (c.memory_write rd _)
  | multiplyLong signed accumulate setFlags high low =>
    exact (memory_setProductFlags _ setFlags _ _).trans
      ((memory_write _ high _).trans (c.memory_write low _))

end Perform

end Context

/-! ## Every instruction -/

/-- **Every instruction stays inside its footprint.**  If its condition fails it does nothing and
takes one cycle.  Otherwise, if it can be executed, the program counter changes only if a jump is
reported, the status as the operation computes, transfers, restores or saves it, of the registers of
all modes only those that the operation names, and the memory only by an operation that uses it.
The status always encodes the mode. -/
theorem execute_footprint {M : Type} [Memory M] (hook? : Option (Hook M)) (i : Instruction)
    (r : Registers) (m : M) {retired : Retired}
    (ok : (execute hook? i r m).result = .ok retired) :
    let after := execute hook? i r m
    (i.condition.holds r.flags = false →
      retired = ⟨1, false⟩ ∧ after.registers = r ∧ after.memory = m)
    ∧ (retired.branched = false → after.registers.pc = r.pc)
    ∧ (i.condition.holds r.flags = true →
      i.operation.StatusEffect hook?.isSome r after.registers)
    ∧ (∀ x, x ∉ i.operation.cells hook?.isSome r.mode →
      after.registers.physical x = r.physical x)
    ∧ (i.operation.usesMemory hook?.isSome = false → after.memory = m)
    ∧ after.registers.status.mode? = some after.registers.mode := by
  dsimp only
  cases hc : i.condition.holds r.flags with
  | false =>
    rw [execute_skipped hc] at ok ⊢
    exact ⟨fun _ => ⟨(Except.ok.inj ok).symm, rfl, rfl⟩, fun _ => rfl, nofun, fun _ _ => rfl,
      fun _ => rfl, r.mode?_status⟩
  | true =>
    by_cases hp : i.operation.IsCoprocessor
    · rw [execute_refused hc hp] at ok
      cases ok
    · rw [execute_performed hc hp] at ok ⊢
      obtain ⟨hw, hs⟩ := (Context.start r m).perform_stays hook? i.operation
      refine ⟨nofun, fun hb => ?_, fun _ => hs, hw.physical,
        (Context.start r m).memory_perform hook?, Registers.mode?_status _⟩
      rw [← Except.ok.inj ok] at hb
      exact (hw.pc hb).2

/-- A call of the supervisor. -/
def supervisorCall : Instruction := ⟨.al, .softwareInterrupt 0#24⟩

/-- A call of the supervisor out of system mode keeps the stack pointer of system mode. -/
theorem supervisorCall_footprint :
    let after := execute none supervisorCall Registers.initial (Bus.new (.new #[] 0))
    after.result = .ok ⟨3, true⟩ ∧ after.registers.mode = .supervisor
      ∧ after.registers.physical (.sp Mode.system.bank) = Registers.resetSp := by
  have ok : (execute none supervisorCall Registers.initial (Bus.new (.new #[] 0))).result
    = .ok ⟨3, true⟩ := rfl
  have h := execute_footprint none supervisorCall Registers.initial (Bus.new (.new #[] 0)) ok
  exact ⟨ok, (h.2.2.1 rfl).1, h.2.2.2.1 (.sp Mode.system.bank) (by decide)⟩

end Handheld

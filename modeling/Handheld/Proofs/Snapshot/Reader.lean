import Handheld.Snapshot.Bytes

/-!
# Proofs/Snapshot/Reader — readers that take what was written, and nothing else

A value is written as some bytes.  A reader `Takes` it if it gives the value and the rest for every
bytes that go on after these, and finds that anything shorter ends too early.  It is `Canonical` if
the bytes it takes are those that its value is written as, so that a value has one written form.
Both pass from the parts of a reader to the whole.
-/

namespace Handheld

/-- One byte more holds 256 times as many numbers. -/
theorem shiftLeft_bytes_succ (count : Nat) :
    1 <<< (8 * (count + 1)) = 256 * (1 <<< (8 * count)) := by
  rw [Nat.mul_add, Nat.add_comm, Nat.shiftLeft_add, Nat.shiftLeft_eq, Nat.shiftLeft_eq,
    Nat.shiftLeft_eq]
  omega

/-! ## Texts as bytes -/

namespace Utf8

/-- A text is read back from its bytes. -/
theorem decode?_encode (s : String) : decode? (encode s) = some s := by
  have hb : (⟨((encode s).map UInt8.ofBitVec).toArray⟩ : ByteArray) = s.toByteArray := by
    simp [encode, Function.comp_def]
  rw [decode?, hb, String.fromUTF8?, dif_pos s.isValidUTF8]
  rfl

/-- Bytes that are a text are the bytes of that text. -/
theorem encode_of_decode? {bytes : List Byte} {s : String} (h : decode? bytes = some s) :
    encode s = bytes := by
  unfold decode? String.fromUTF8? at h
  split at h
  · obtain rfl := Option.some.inj h
    simp [encode, String.fromUTF8, Function.comp_def]
  · contradiction

end Utf8

namespace Reader

variable {α β : Type}

/-! ## Readers that take a written value -/

/-- The reader takes a value that was written as some bytes, whatever follows, and finds that
anything shorter ends too early. -/
structure Takes (r : Reader α) (written : List Byte) (x : α) : Prop where
  /-- The value is taken off the front, whatever comes behind it. -/
  run : ∀ rest, r.run (written ++ rest) = .ok (x, rest)
  /-- Less than the whole ends too early. -/
  ended : ∀ part, part <+: written → part ≠ written → r.run part = .error .ended

theorem takes_pure (x : α) : Takes (pure x) [] x where
  run _ := rfl
  ended _ hp hne := absurd (List.prefix_nil.mp hp) hne

/-- What is written in two parts is taken in two steps, and ends too early in either. -/
theorem Takes.bind {r : Reader α} {f : α → Reader β} {w v : List Byte} {x : α} {y : β}
    (h : r.Takes w x) (h' : (f x).Takes v y) : (r >>= f).Takes (w ++ v) y where
  run rest := by
    rw [StateT.run_bind, List.append_assoc, h.run]
    exact h'.run rest
  ended part hp hne := by
    rw [StateT.run_bind]
    -- The part ends inside the second value, after all of the first, or inside the first.
    by_cases hw : w <+: part
    · obtain ⟨part, rfl⟩ := hw
      rw [h.run]
      refine h'.ended part ((List.prefix_append_right_inj w).mp hp) ?_
      rintro rfl
      exact hne rfl
    · have hp' : part <+: w :=
        (List.prefix_or_prefix_of_prefix hp (List.prefix_append w v)).resolve_right hw
      have hne' : part ≠ w := by
        rintro rfl
        exact hw List.prefix_rfl
      rw [h.ended part hp' hne']
      rfl

/-- What comes after the value takes nothing more. -/
theorem Takes.last {r : Reader α} {f : α → Reader β} {w : List Byte} {x : α} {y : β}
    (h : r.Takes w x) (h' : (f x).Takes [] y) : (r >>= f).Takes w y := by
  have ht := h.bind h'
  rwa [List.append_nil] at ht

/-- A value can be changed after it was taken. -/
theorem Takes.map {r : Reader α} {w : List Byte} {x : α} (h : r.Takes w x) (f : α → β) :
    Takes (f <$> r) w (f x) where
  run rest := by
    rw [StateT.run_map, h.run]
    rfl
  ended part hp hne := by
    rw [StateT.run_map, h.ended part hp hne]
    rfl

/-! ## Readers of one written form -/

/-- The bytes that the reader takes are those that its value is written as. -/
def Canonical (r : Reader α) (write : α → List Byte) : Prop :=
  ∀ ⦃bytes x rest⦄, r.run bytes = .ok (x, rest) → bytes = write x ++ rest

/-- Two steps succeed only if both do, the second on what the first left. -/
theorem run_bind_eq_ok {r : Reader α} {f : α → Reader β} {bytes : List Byte} {p : β × List Byte}
    (h : (r >>= f).run bytes = .ok p) :
    ∃ x rest, r.run bytes = .ok (x, rest) ∧ (f x).run rest = .ok p := by
  rw [StateT.run_bind] at h
  cases hr : r.run bytes with
  | error e =>
    rw [hr] at h
    cases h
  | ok q =>
    rw [hr] at h
    exact ⟨q.1, q.2, rfl, h⟩

theorem run_map_eq_ok {r : Reader α} {f : α → β} {bytes rest : List Byte} {y : β}
    (h : (f <$> r).run bytes = .ok (y, rest)) :
    ∃ x, r.run bytes = .ok (x, rest) ∧ f x = y := by
  rw [StateT.run_map] at h
  cases hr : r.run bytes with
  | error e =>
    rw [hr] at h
    cases h
  | ok q =>
    rw [hr] at h
    cases h
    exact ⟨q.1, rfl, rfl⟩

theorem run_pure_eq_ok {x y : α} {bytes rest : List Byte}
    (h : (pure x : Reader α).run bytes = .ok (y, rest)) : x = y ∧ bytes = rest := by
  cases h
  exact ⟨rfl, rfl⟩

/-! ## Bytes and numbers -/

/-- A byte is taken as it is. -/
theorem takes_byte (b : Byte) : byte.Takes [b] b where
  run _ := rfl
  ended part hp hne := by
    rcases List.prefix_cons_iff.mp hp with rfl | ⟨part, rfl, hn⟩
    · rfl
    · obtain rfl := List.prefix_nil.mp hn
      exact absurd rfl hne

theorem canonical_byte : byte.Canonical fun b => [b] := by
  rintro (_ | ⟨b, bytes⟩) x rest h
  · cases h
  · cases h
    rfl

/-- As many bytes as there are are taken as they are. -/
theorem takes_bytes (w : List Byte) : (bytes w.length).Takes w w where
  run rest := by
    have hl : w.length ≤ (w ++ rest).length := by simp
    change (if _ then _ else _) = _
    rw [if_pos hl, List.splitAt_eq, List.take_left, List.drop_left]
  ended part hp hne := by
    have hl : ¬w.length ≤ part.length := by
      intro hle
      exact hne (hp.eq_of_length_le hle)
    exact if_neg hl

theorem run_bytes_eq_ok {count : Nat} {input w rest : List Byte}
    (h : (bytes count).run input = .ok (w, rest)) : w.length = count ∧ input = w ++ rest := by
  change (if _ then _ else _) = _ at h
  split at h
  · next hl =>
    rw [List.splitAt_eq] at h
    cases h
    exact ⟨List.length_take_of_le hl, (List.take_append_drop ..).symm⟩
  · cases h

/-- A number below the limit of its bytes is taken back from them. -/
theorem takes_number (count : Nat) {n : Nat} (h : n < 1 <<< (8 * count)) :
    (number count).Takes (numberBytes count n) n := by
  induction count generalizing n with
  | zero =>
    obtain rfl : n = 0 := Nat.lt_one_iff.mp h
    exact takes_pure 0
  | succ count ih =>
    rw [shiftLeft_bytes_succ] at h
    have hn : (BitVec.ofNat 8 n).toNat + 256 * (n / 256) = n := by
      rw [BitVec.toNat_ofNat]
      omega
    have hp : Takes (pure ((BitVec.ofNat 8 n).toNat + 256 * (n / 256))) [] n := by
      rw [hn]
      exact takes_pure n
    exact (takes_byte (BitVec.ofNat 8 n)).bind ((ih (by omega)).last hp)

/-- Bytes that were taken as a number are those of the number. -/
theorem run_number_eq_ok {count n : Nat} {input rest : List Byte}
    (h : (number count).run input = .ok (n, rest)) :
    n < 1 <<< (8 * count) ∧ input = numberBytes count n ++ rest := by
  induction count generalizing n input with
  | zero =>
    obtain ⟨rfl, rfl⟩ := run_pure_eq_ok h
    exact ⟨Nat.one_pos, rfl⟩
  | succ count ih =>
    obtain ⟨b, mid, hb, h⟩ := run_bind_eq_ok h
    obtain ⟨higher, mid', hh, h⟩ := run_bind_eq_ok h
    obtain ⟨rfl, rfl⟩ := run_pure_eq_ok h
    obtain ⟨hlt, rfl⟩ := ih hh
    obtain rfl := canonical_byte hb
    have := b.isLt
    have hq : (b.toNat + 256 * higher) / 256 = higher := by omega
    have hm : BitVec.ofNat 8 (b.toNat + 256 * higher) = b := by
      rw [← BitVec.toNat_inj, BitVec.toNat_ofNat]
      omega
    rw [shiftLeft_bytes_succ, numberBytes, hq, hm]
    exact ⟨by omega, rfl⟩

/-! ## Halfwords, words and doubles -/

/-- Bits that fill some bytes are taken back from them. -/
theorem takes_bits (count : Nat) (x : BitVec (8 * count)) :
    Takes (BitVec.ofNat (8 * count) <$> number count) (numberBytes count x.toNat) x := by
  have hx : x.toNat < 1 <<< (8 * count) := by
    rw [Nat.one_shiftLeft]
    exact x.isLt
  have ht := (takes_number count hx).map (BitVec.ofNat (8 * count))
  rwa [BitVec.ofNat_toNat, BitVec.setWidth_eq] at ht

theorem canonical_bits (count : Nat) :
    Canonical (BitVec.ofNat (8 * count) <$> number count) fun x => numberBytes count x.toNat := by
  intro input x rest h
  obtain ⟨n, hn, rfl⟩ := run_map_eq_ok h
  obtain ⟨hlt, hi⟩ := run_number_eq_ok hn
  rw [Nat.one_shiftLeft] at hlt
  dsimp only
  rw [hi, BitVec.toNat_ofNat, Nat.mod_eq_of_lt hlt]

theorem takes_half (h : Half) : half.Takes (numberBytes 2 h.toNat) h := takes_bits 2 h

theorem takes_word (w : Word) : word.Takes (wordBytes w) w := takes_bits 4 w

theorem takes_double (d : Double) : double.Takes (numberBytes 8 d.toNat) d := takes_bits 8 d

theorem canonical_half : half.Canonical fun h => numberBytes 2 h.toNat := canonical_bits 2

theorem canonical_word : word.Canonical wordBytes := canonical_bits 4

theorem canonical_double : double.Canonical fun d => numberBytes 8 d.toNat := canonical_bits 8

/-! ## Texts -/

/-- A text is taken back by its length, which has to fit in front of it. -/
theorem takes_text {s : String} (h : (Utf8.encode s).length < 1 <<< 64) :
    text.Takes (textBytes s) s := by
  refine (takes_number 8 h).bind ((takes_bytes (Utf8.encode s)).last ?_)
  rw [Utf8.decode?_encode]
  exact takes_pure s

/-- Bytes that were taken as a text are its length and its own. -/
theorem run_text_eq_ok {input rest : List Byte} {s : String}
    (h : text.run input = .ok (s, rest)) :
    (Utf8.encode s).length < 1 <<< 64 ∧ input = textBytes s ++ rest := by
  obtain ⟨length, _, hn, hr⟩ := run_bind_eq_ok h
  obtain ⟨encoded, mid, hb, hs⟩ := run_bind_eq_ok hr
  obtain ⟨hlt, hi⟩ := run_number_eq_ok hn
  obtain ⟨rfl, rfl⟩ := run_bytes_eq_ok hb
  cases hd : Utf8.decode? encoded with
  | none =>
    rw [hd] at hs
    cases hs
  | some t =>
    rw [hd] at hs
    obtain ⟨rfl, rfl⟩ := run_pure_eq_ok hs
    obtain rfl := Utf8.encode_of_decode? hd
    exact ⟨hlt, hi.trans (List.append_assoc ..).symm⟩

/-! ## Truth values, alternatives and values that may be missing -/

/-- A truth value is taken back from its byte. -/
theorem takes_truth (b : Bool) : truth.Takes [truthByte b] b := by
  cases b with
  | false => exact (takes_byte 0#8).bind (takes_pure false)
  | true => exact (takes_byte 1#8).bind (takes_pure true)

theorem canonical_truth : truth.Canonical fun b => [truthByte b] := by
  intro input x rest h
  obtain ⟨b, mid, hb, hx⟩ := run_bind_eq_ok h
  rw [canonical_byte hb]
  split at hx
  · next h0 =>
    obtain ⟨rfl, rfl⟩ := run_pure_eq_ok hx
    rw [h0]
    rfl
  · split at hx
    · next h1 =>
      obtain ⟨rfl, rfl⟩ := run_pure_eq_ok hx
      rw [h1]
      rfl
    · cases hx

/-- One of some alternatives is taken back from its place among them. -/
theorem takes_oneOf {all : List α} {i : Nat} {x : α} (hx : all[i]? = some x)
    (hi : i < 1 <<< 32) : (oneOf all).Takes (numberBytes 4 i) x := by
  refine (takes_number 4 hi).last ?_
  rw [hx]
  exact takes_pure x

/-- Alternatives with one place each have one written form. -/
theorem canonical_oneOf {all : List α} {index : α → Nat}
    (hindex : ∀ i x, all[i]? = some x → index x = i) :
    (oneOf all).Canonical fun x => numberBytes 4 (index x) := by
  intro input x rest h
  obtain ⟨i, mid, hn, hs⟩ := run_bind_eq_ok h
  obtain ⟨-, hi⟩ := run_number_eq_ok hn
  cases hx : all[i]? with
  | none =>
    rw [hx] at hs
    cases hs
  | some y =>
    rw [hx] at hs
    obtain ⟨rfl, rfl⟩ := run_pure_eq_ok hs
    obtain rfl := hindex i y hx
    exact hi

theorem takes_none (item : Reader α) : (optional item).Takes [0#8] none :=
  (takes_byte 0#8).bind (takes_pure none)

/-- A value that is there is taken back behind its mark. -/
theorem takes_some {item : Reader α} {w : List Byte} {x : α} (h : item.Takes w x) :
    (optional item).Takes (1#8 :: w) (some x) :=
  (takes_byte 1#8).bind (h.map some)

/-- The marks of being there and of being missing cannot be mistaken for each other. -/
theorem canonical_optional {item : Reader α} {write : α → List Byte} (h : item.Canonical write) :
    (optional item).Canonical fun x? => x?.elim [0#8] fun x => 1#8 :: write x := by
  intro input x? rest hr
  obtain ⟨b, mid, hb, hx⟩ := run_bind_eq_ok hr
  rw [canonical_byte hb]
  split at hx
  · next h0 =>
    obtain ⟨rfl, rfl⟩ := run_pure_eq_ok hx
    rw [h0]
    rfl
  · split at hx
    · next h1 =>
      obtain ⟨x, hitem, rfl⟩ := run_map_eq_ok hx
      rw [h1, h hitem]
      rfl
    · cases hx

/-! ## Values one after the other -/

/-- Values in a row are taken back one after the other. -/
theorem takes_vector {item : Reader α} {write : α → List Byte}
    (h : ∀ x, item.Takes (write x) x) {n : Nat} (v : Vector α n) :
    (vector item n).Takes (v.toList.flatMap write) v := by
  induction n with
  | zero =>
    obtain rfl := v.eq_empty
    exact takes_pure _
  | succ n ih =>
    obtain ⟨v, x, rfl⟩ := v.exists_push
    rw [Vector.toList_push, List.flatMap_append, List.flatMap_singleton]
    exact (ih v).bind ((h x).last (takes_pure (v.push x)))

/-- Values in a row have one written form if each has. -/
theorem canonical_vector {item : Reader α} {write : α → List Byte} (h : item.Canonical write)
    (n : Nat) : (vector item n).Canonical fun v => v.toList.flatMap write := by
  induction n with
  | zero =>
    intro input v rest hr
    obtain ⟨rfl, rfl⟩ := run_pure_eq_ok hr
    rfl
  | succ n ih =>
    intro input v' rest hr
    obtain ⟨v, mid, hv, hr⟩ := run_bind_eq_ok hr
    obtain ⟨x, mid', hx, hr⟩ := run_bind_eq_ok hr
    obtain ⟨rfl, rfl⟩ := run_pure_eq_ok hr
    dsimp only
    rw [ih hv, h hx, Vector.toList_push, List.flatMap_append, List.flatMap_singleton,
      List.append_assoc]

end Reader

end Handheld

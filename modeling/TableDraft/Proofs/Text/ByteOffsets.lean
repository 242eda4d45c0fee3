import TableDraft.Proofs.Text.LowerCase

/-!
# Byte offsets

The bytes of a text are those of its characters in UTF-8. An offset counts bytes, and a text can be cut
at an offset where a character starts, or at its end; elsewhere the cut fails.

* `byte`, `le_of_mem_encode`: an ASCII character is one byte, and every byte of another one is above
  them all; so `head?_bytes`: **a byte of an ASCII character is that character**;
* `cutAt_eq_some_iff`: cutting at an offset, and
  **`isSome_cutAt_iff`: it fails elsewhere than at the positions of the text**;
* `findBytes_append`, `findBytes_eq_none`: the offset of the first place of a text in another one;
* `take_lowerByte`: a word in any case, read from the bytes.
-/

namespace TableDraft.Text

open Unicode

/-! ## 1. Bytes -/

/-- The bytes of a text. -/
def bytes (s : List Char) : List UInt8 := s.flatMap String.utf8EncodeChar

/-- The number of bytes of a text. -/
def size (s : List Char) : Nat := (bytes s).length

/-- The byte of an ASCII character. -/
def byte (c : Char) : UInt8 := UInt8.ofNat c.toNat

@[simp] theorem bytes_nil : bytes [] = [] := rfl

theorem bytes_cons (c : Char) (s : List Char) :
    bytes (c :: s) = String.utf8EncodeChar c ++ bytes s := rfl

theorem bytes_append (s t : List Char) : bytes (s ++ t) = bytes s ++ bytes t := List.flatMap_append

@[simp] theorem size_nil : size [] = 0 := rfl

@[simp] theorem size_cons (c : Char) (s : List Char) : size (c :: s) = c.utf8Size + size s := by
  rw [size, bytes_cons, List.length_append, String.length_utf8EncodeChar, size]

@[simp] theorem size_append (s t : List Char) : size (s ++ t) = size s + size t := by
  rw [size, bytes_append, List.length_append, size, size]

theorem size_eq_zero_iff {s : List Char} : size s = 0 ↔ s = [] := by
  cases s with
  | nil => simp
  | cons c s =>
      have := c.utf8Size_pos
      simp
      omega

theorem utf8EncodeChar_of_ascii {c : Char} (h : isAscii c = true) :
    String.utf8EncodeChar c = [byte c] := by
  have hle : c.val.toNat ≤ 0x7f := by
    have hlt : c.toNat < 128 := by simpa [isAscii] using h
    exact Nat.le_of_lt_succ hlt
  unfold String.utf8EncodeChar
  exact if_pos hle

theorem utf8Size_of_ascii {c : Char} (h : isAscii c = true) : c.utf8Size = 1 := by
  rw [← String.length_utf8EncodeChar, utf8EncodeChar_of_ascii h]
  rfl

theorem bytes_ascii {c : Char} (h : isAscii c = true) (s : List Char) :
    bytes (c :: s) = byte c :: bytes s := by
  rw [bytes_cons, utf8EncodeChar_of_ascii h]
  rfl

theorem toNat_byte {c : Char} (h : isAscii c = true) : (byte c).toNat = c.toNat := by
  have hlt : c.toNat < 128 := by simpa [isAscii] using h
  exact UInt8.toNat_ofNat_of_lt' (Nat.lt_trans hlt (by decide))

theorem toNat_byte_lt {c : Char} (h : isAscii c = true) : (byte c).toNat < 128 := by
  rw [toNat_byte h]
  simpa [isAscii] using h

/-- Every byte of a character that is not ASCII is above those that are. -/
theorem le_of_mem_encode {c : Char} (h : isAscii c = false) {b : UInt8}
    (hb : b ∈ String.utf8EncodeChar c) : 128 ≤ b.toNat := by
  have hlt : ¬ c.val.toNat ≤ 0x7f := by
    have hc : ¬ c.toNat < 128 := by simpa [isAscii] using h
    exact fun hle => hc (Nat.lt_succ_of_le hle)
  have hmark : ∀ n, 128 ≤ n → n < 256 → 128 ≤ (UInt8.ofNat n).toNat := by
    intro n hn hlt
    rwa [UInt8.toNat_ofNat_of_lt' hlt]
  unfold String.utf8EncodeChar at hb
  dsimp only at hb
  rw [if_neg hlt] at hb
  split at hb
  · simp only [List.mem_cons, List.not_mem_nil, or_false] at hb
    rcases hb with rfl | rfl <;> exact hmark _ (by omega) (by omega)
  · split at hb
    · simp only [List.mem_cons, List.not_mem_nil, or_false] at hb
      rcases hb with rfl | rfl | rfl <;> exact hmark _ (by omega) (by omega)
    · simp only [List.mem_cons, List.not_mem_nil, or_false] at hb
      rcases hb with rfl | rfl | rfl | rfl <;> exact hmark _ (by omega) (by omega)

theorem byte_inj {c k : Char} (hc : isAscii c = true) (hk : isAscii k = true) :
    byte c = byte k ↔ c = k := by
  rw [← UInt8.toNat_inj, toNat_byte hc, toNat_byte hk, Char.toNat_inj]

/-- **The first byte of a text is that of an ASCII character exactly if the text starts with it.** -/
theorem head?_bytes {k : Char} (hk : isAscii k = true) {s : List Char} :
    (bytes s).head? = some (byte k) ↔ s.head? = some k := by
  cases s with
  | nil => simp
  | cons c s =>
      cases hc : isAscii c with
      | true =>
          rw [bytes_ascii hc, List.head?_cons, List.head?_cons, Option.some.injEq, Option.some.injEq,
            byte_inj hc hk]
      | false =>
          refine iff_of_false (fun h => ?_) fun h => ?_
          · have hmem : byte k ∈ String.utf8EncodeChar c := by
              rw [bytes_cons, List.head?_append_of_ne_nil _ String.utf8EncodeChar_ne_nil] at h
              exact List.mem_of_head? h
            have hle := le_of_mem_encode hc hmem
            have hlt := toNat_byte_lt hk
            omega
          · obtain rfl := Option.some.inj h
            rw [hc] at hk
            cases hk

/-- The bytes behind a part of a text are those of the rest. -/
theorem getElem?_bytes_append (p r : List Char) (j : Nat) :
    (bytes (p ++ r))[size p + j]? = (bytes r)[j]? := by
  have hle : (bytes p).length ≤ size p + j := Nat.le_add_right (bytes p).length j
  rw [bytes_append, List.getElem?_append_right hle]
  exact congrArg (fun n => (bytes r)[n]?) (Nat.add_sub_cancel_left (bytes p).length j)

/-! ## 2. Cutting at an offset -/

/-- The text before an offset and the text from it on; none if no character starts there and it is not
the end. -/
def cutAt : List Char → Nat → Option (List Char × List Char)
  | s, 0 => some ([], s)
  | [], _ + 1 => none
  | c :: s, n + 1 =>
    if c.utf8Size ≤ n + 1 then (cutAt s (n + 1 - c.utf8Size)).map fun (p, r) => (c :: p, r) else none

/-- The text before an offset. -/
def toByte (s : List Char) (n : Nat) : Option (List Char) := (cutAt s n).map Prod.fst

/-- The text from an offset on. -/
def fromByte (s : List Char) (n : Nat) : Option (List Char) := (cutAt s n).map Prod.snd

/-- The text between two offsets. -/
def sliceBytes (s : List Char) (i j : Nat) : Option (List Char) :=
  if i ≤ j then (fromByte s i).bind (toByte · (j - i)) else none

theorem cutAt_append : ∀ (p r : List Char), cutAt (p ++ r) (size p) = some (p, r)
  | [], r => by rw [List.nil_append, size_nil, cutAt]
  | c :: p, r => by
      obtain ⟨n, hn⟩ : ∃ n, size (c :: p) = n + 1 :=
        Nat.exists_eq_succ_of_ne_zero fun h => by simpa using size_eq_zero_iff.mp h
      have hle : c.utf8Size ≤ n + 1 := by rw [← hn, size_cons]; omega
      have hrest : n + 1 - c.utf8Size = size p := by rw [← hn, size_cons]; omega
      rw [List.cons_append, hn, cutAt, if_pos hle, hrest, cutAt_append p r]
      rfl

theorem cutAt_eq_some : ∀ {s p r : List Char} {n : Nat}, cutAt s n = some (p, r) →
    s = p ++ r ∧ size p = n
  | s, p, r, 0, h => by
      rw [cutAt] at h
      cases h
      exact ⟨rfl, rfl⟩
  | [], _, _, _ + 1, h => by cases h
  | c :: s, p, r, n + 1, h => by
      rw [cutAt] at h
      split at h
      · obtain ⟨⟨p', r'⟩, hcut, heq⟩ := Option.map_eq_some_iff.mp h
        cases heq
        obtain ⟨rfl, hsize⟩ := cutAt_eq_some hcut
        exact ⟨rfl, by rw [size_cons, hsize]; omega⟩
      · cases h

/-- **A text is cut between two parts of it.** -/
theorem cutAt_eq_some_iff {s p r : List Char} {n : Nat} :
    cutAt s n = some (p, r) ↔ s = p ++ r ∧ size p = n :=
  ⟨cutAt_eq_some, fun ⟨hs, hn⟩ => by rw [hs, ← hn, cutAt_append]⟩

theorem toByte_append (p r : List Char) : toByte (p ++ r) (size p) = some p := by
  rw [toByte, cutAt_append]
  rfl

theorem fromByte_append (p r : List Char) : fromByte (p ++ r) (size p) = some r := by
  rw [fromByte, cutAt_append]
  rfl

theorem sliceBytes_append (p q r : List Char) :
    sliceBytes (p ++ (q ++ r)) (size p) (size (p ++ q)) = some q := by
  have hle : size p ≤ size (p ++ q) := by rw [size_append]; omega
  have hsize : size (p ++ q) - size p = size q := by rw [size_append]; omega
  rw [sliceBytes, if_pos hle, fromByte_append, Option.bind_some, hsize, toByte_append]

theorem size_eq_utf8ByteSize (s : List Char) : size s = (String.ofList s).utf8ByteSize := by
  simp [size, bytes, String.utf8ByteSize, List.utf8Encode]

/-- **Cutting fails elsewhere than at the positions of the text.** -/
theorem isSome_cutAt_iff {s : List Char} {n : Nat} :
    (cutAt s n).isSome = true ↔ (String.Pos.Raw.mk n).IsValid (String.ofList s) := by
  rw [String.Pos.Raw.isValid_ofList, Option.isSome_iff_exists]
  constructor
  · rintro ⟨⟨p, r⟩, h⟩
    obtain ⟨rfl, rfl⟩ := cutAt_eq_some h
    exact ⟨p.length, by rw [List.take_left', ← size_eq_utf8ByteSize]; rfl⟩
  · rintro ⟨i, hi⟩
    refine ⟨(s.take i, s.drop i), cutAt_eq_some_iff.mpr ⟨(List.take_append_drop i s).symm, ?_⟩⟩
    rw [size_eq_utf8ByteSize, ← hi]

/-! ## 3. Looking for a text -/

/-- The offset of the first place of a text in another one. -/
def findBytes (needle : List Char) : List Char → Option Nat
  | [] => if needle.isEmpty then some 0 else none
  | c :: s =>
    if needle.isPrefixOf (c :: s) then some 0 else (findBytes needle s).map (c.utf8Size + ·)

/-- Nothing is found where there is nothing. -/
theorem findBytes_eq_none {needle : List Char} : ∀ {s : List Char}, ¬ needle <:+: s →
    findBytes needle s = none
  | [], h => by
      rw [findBytes, if_neg]
      rw [List.isEmpty_iff]
      rintro rfl
      exact h List.nil_infix
  | c :: s, h => by
      have hpre : ¬ needle.isPrefixOf (c :: s) = true := fun hp =>
        h (List.isPrefixOf_iff_prefix.mp hp).isInfix
      rw [findBytes, if_neg hpre,
        findBytes_eq_none fun hs => h (hs.trans (List.suffix_cons c s).isInfix)]
      rfl

/-- **The first place is found**: the text comes after `p`, and at no place before. -/
theorem findBytes_append {needle t : List Char} (hn : needle ≠ []) : ∀ {p : List Char},
    (∀ u v, p = u ++ v → v ≠ [] → ¬ needle <+: v ++ (needle ++ t)) →
    findBytes needle (p ++ (needle ++ t)) = some (size p)
  | [], _ => by
      obtain ⟨a, l, rfl⟩ := List.exists_cons_of_ne_nil hn
      rw [List.nil_append, List.cons_append, findBytes, if_pos]
      · rfl
      · rw [← List.cons_append]
        exact List.isPrefixOf_iff_prefix.mpr (List.prefix_append _ t)
  | c :: p, h => by
      have hpre : ¬ needle.isPrefixOf (c :: (p ++ (needle ++ t))) = true := fun hp =>
        h [] (c :: p) rfl (List.cons_ne_nil c p) (List.isPrefixOf_iff_prefix.mp hp)
      rw [List.cons_append, findBytes, if_neg hpre,
        findBytes_append hn fun u v hp => h (c :: u) v (by rw [hp]; rfl), Option.map_some, size_cons]

/-! ## 4. Words in any case -/

/-- A byte, in lower case if it is an ASCII letter. -/
def lowerByte (b : UInt8) : UInt8 := if 65 ≤ b.toNat ∧ b.toNat ≤ 90 then b + 32 else b

theorem lowerByte_byte {c : Char} (hc : isAscii c = true) : lowerByte (byte c) = byte c.toLower :=
  forall_ascii (p := fun c => lowerByte (byte c) = byte c.toLower) (by decide +kernel) hc

/-- **The bytes at the start of a text are those of a word in any case exactly if the word is there.** -/
theorem take_lowerByte : ∀ {k s : List Char}, (∀ a ∈ k, isAscii a = true) →
    (((bytes s).take k.length).map lowerByte = k.map byte ↔
      ∃ w t, s = w ++ t ∧ w.map Char.toLower = k)
  | [], s, _ => by simp
  | a :: k, [], _ => by
      simp
  | a :: k, c :: s, hk => by
      have ha : isAscii a = true := hk a List.mem_cons_self
      have hcons : (∃ w t, c :: s = w ++ t ∧ w.map Char.toLower = a :: k) ↔
          c.toLower = a ∧ ∃ w t, s = w ++ t ∧ w.map Char.toLower = k := by
        constructor
        · rintro ⟨w, t, hs, hw⟩
          cases w with
          | nil => cases hw
          | cons d w =>
              obtain ⟨rfl, rfl⟩ := List.cons.inj hs
              obtain ⟨hd, hw⟩ := List.cons.inj hw
              exact ⟨hd, w, t, rfl, hw⟩
        · rintro ⟨rfl, w, t, rfl, rfl⟩
          exact ⟨c :: w, t, rfl, rfl⟩
      rw [hcons]
      cases hc : isAscii c with
      | true =>
          rw [bytes_ascii hc, List.length_cons, List.take_succ_cons, List.map_cons, List.map_cons,
            List.cons.injEq, take_lowerByte fun b hb => hk b (List.mem_cons_of_mem a hb),
            lowerByte_byte hc, byte_inj (isAscii_toLower hc) ha]
      | false =>
          refine iff_of_false (fun h => ?_) ?_
          · obtain ⟨b, bs, hb⟩ := List.exists_cons_of_ne_nil (String.utf8EncodeChar_ne_nil (c := c))
            rw [bytes_cons, hb, List.cons_append, List.length_cons, List.take_succ_cons, List.map_cons,
              List.map_cons, List.cons.injEq] at h
            have hle : 128 ≤ b.toNat := le_of_mem_encode hc (hb ▸ List.mem_cons_self)
            have hlower : lowerByte b = b := if_neg (by omega)
            have hlt := toNat_byte_lt ha
            rw [← h.1, hlower] at hlt
            omega
          · rintro ⟨rfl, -⟩
            rw [isAscii_of_toLower ha] at hc
            cases hc

/-- A word in any case has a byte for each letter. -/
theorem size_of_lower : ∀ {w k : List Char}, (∀ a ∈ k, isAscii a = true) → w.map Char.toLower = k →
    size w = k.length
  | [], _, _, rfl => rfl
  | c :: w, _, hk, rfl => by
      have hc : isAscii c = true := isAscii_of_toLower (hk c.toLower List.mem_cons_self)
      have ih : size w = (w.map Char.toLower).length :=
        size_of_lower (fun a ha => hk a (List.mem_cons_of_mem _ ha)) rfl
      rw [size_cons, utf8Size_of_ascii hc, ih, List.map_cons, List.length_cons, Nat.add_comm]

end TableDraft.Text

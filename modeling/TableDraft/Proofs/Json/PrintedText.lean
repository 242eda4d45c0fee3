import Mathlib.Data.List.Basic
import TableDraft.Json.Decode

/-!
# Printed values read back

**A printed value is read as the document of that value, and nothing is left of the text**
(`ofText_compact`), if its numbers fit 64 bits (`Json.Fits`). A reader stops where the text of the value
ends: at the quote that closes a string, and for a number at a character that cannot go on with it
(`EndsNumber`). `Codec.read_render` takes this to whole texts.
-/

namespace TableDraft.Json

/-- The number fits 64 bits, with a sign or without. -/
def FitsInt (n : Int) : Prop := Int64.minValue.toInt ≤ n ∧ n < UInt64.size

mutual

/-- The numbers in the value fit 64 bits. -/
def Fits : Json → Prop
  | .int n => FitsInt n
  | .array items => FitsItems items
  | .object members => FitsMembers members
  | _ => True

/-- The numbers in the items fit 64 bits. -/
def FitsItems : List Json → Prop
  | [] => True
  | j :: items => Fits j ∧ FitsItems items

/-- The numbers in the members fit 64 bits. -/
def FitsMembers : List (String × Json) → Prop
  | [] => True
  | (_, j) :: members => Fits j ∧ FitsMembers members

end

namespace Document

/-! ## 1. Strings -/

theorem hexValue?_hexDigit : ∀ n < 16, hexValue? (hexDigit n) = some n := by decide

section Characters

variable {c : Char} (text rest : List Char)

theorem readString_escaped {e : Char} (he : e ≠ 'u') (h : escaped? e = some c) :
    readString (.ok text) (.plain none) ('\\' :: e :: rest) =
      readString (.ok (c :: text)) (.plain none) rest := by
  simp [readString, he, h, dropHalf, Collected.push, Except.map]

theorem readString_control (hc : c.toNat < 32) :
    readString (.ok text) (.plain none) ('\\' :: 'u' :: '0' :: '0' :: hexDigit (c.toNat / 16) ::
        hexDigit (c.toNat % 16) :: rest) =
      readString (.ok (c :: text)) (.plain none) rest := by
  have hhigh := hexValue?_hexDigit (c.toNat / 16) (by omega)
  have hlow := hexValue?_hexDigit (c.toNat % 16) (by omega)
  have hzero : hexValue? '0' = some 0 := rfl
  have hcode : endCode (.ok text) none (16 * (c.toNat / 16) + c.toNat % 16) =
      (.ok (c :: text), none) := by
    rw [Nat.div_add_mod, endCode, Char.ofNat_toNat]
    rw [if_neg (by rw [Bool.and_eq_true, decide_eq_true_iff, decide_eq_true_iff]; omega),
      if_neg (by rw [Bool.and_eq_true, decide_eq_true_iff, decide_eq_true_iff]; omega)]
    rfl
  simp [readString, hzero, hhigh, hlow, hcode]

theorem readString_plain (hquote : c ≠ '"') (hescape : c ≠ '\\') (hc : ¬ c.toNat < 32) :
    readString (.ok text) (.plain none) (c :: rest) =
      readString (.ok (c :: text)) (.plain none) rest := by
  simp [readString, hquote, hescape, hc, dropHalf, Collected.push, Except.map]

/-- **A character is read as it is written.** -/
theorem readString_writeChar (c : Char) : readString (.ok text) (.plain none) (writeChar c ++ rest) =
    readString (.ok (c :: text)) (.plain none) rest := by
  have hshort : ∀ {k e : Char}, (c == k) = true → e ≠ 'u' → escaped? e = some k →
      readString (.ok text) (.plain none) (['\\', e] ++ rest) =
        readString (.ok (c :: text)) (.plain none) rest := by
    intro k e h he hk
    rw [beq_iff_eq.mp h]
    exact readString_escaped text rest he hk
  have hpoint : ∀ {k : Char}, (c.toNat == k.toNat) = true → (c == k) = true := by
    intro k hk
    rw [beq_iff_eq, ← Char.ofNat_toNat c, beq_iff_eq.mp hk, Char.ofNat_toNat]
  unfold writeChar
  split_ifs with hquote hescape hback htab hline hpage hreturn hcontrol
  · exact hshort hquote (by decide) rfl
  · exact hshort hescape (by decide) rfl
  · exact hshort (hpoint hback : (c == '\x08') = true) (by decide) rfl
  · exact hshort htab (by decide) rfl
  · exact hshort hline (by decide) rfl
  · exact hshort (hpoint hpage : (c == '\x0c') = true) (by decide) rfl
  · exact hshort hreturn (by decide) rfl
  · exact readString_control text rest hcontrol
  · rw [beq_iff_eq] at hquote hescape
    exact readString_plain text rest hquote hescape hcontrol

end Characters

/-- **A string is read up to the quote that closes it.** -/
theorem readString_write (rest : List Char) : ∀ (s text : List Char),
    readString (.ok text) (.plain none) (s.flatMap writeChar ++ '"' :: rest) =
      (.ok (text.reverse ++ s), .ok rest)
  | [], text => by
      simp only [List.flatMap_nil, List.nil_append, List.append_nil]
      rfl
  | c :: s, text => by
      have ih := readString_write rest s (c :: text)
      rw [List.flatMap_cons, List.append_assoc, readString_writeChar, ih]
      simp

theorem readStringValue_write (s : String) (rest : List Char) :
    readStringValue (s.toList.flatMap writeChar ++ '"' :: rest) = (string s, some rest) := by
  rw [readStringValue, readString_write]
  simp

/-! ## 2. Numbers -/

/-- The text cannot go on with a number. -/
def EndsNumber (s : List Char) : Prop :=
  ∀ c ∈ s.head?, c.isDigit = false ∧ c ≠ '.' ∧ c ≠ 'e' ∧ c ≠ 'E'

theorem endsNumber_cons {c : Char} (h : c.isDigit = false ∧ c ≠ '.' ∧ c ≠ 'e' ∧ c ≠ 'E')
    (s : List Char) : EndsNumber (c :: s) := fun _ hd => Option.some.inj hd ▸ h

theorem isDigit_of_mem {n : Nat} : ∀ c ∈ Nat.toDigits 10 n, c.isDigit = true :=
  fun _ hc => Nat.isDigit_of_mem_toDigits (by decide) (by decide) hc

theorem head_toDigits : ∀ n : Nat, 0 < n → (Nat.toDigits 10 n).head? ≠ some '0'
  | n, hn => by
      by_cases hsmall : n < 10
      · have hdigit : ∀ n < 10, 0 < n → n.digitChar ≠ '0' := by decide
        rw [Nat.toDigits_of_lt_base hsmall]
        exact fun h => hdigit n hsmall hn (Option.some.inj h)
      · rw [Nat.toDigits_of_base_le (by decide) (Nat.le_of_not_lt hsmall),
          List.head?_append_of_ne_nil _ Nat.toDigits_ne_nil]
        exact head_toDigits (n / 10) (by omega)

/-- Only zero is written with a zero in front. -/
theorem toDigits_ne_zero_cons (n : Nat) (c : Char) (s : List Char) :
    Nat.toDigits 10 n ≠ '0' :: c :: s := by
  intro h
  rcases Nat.eq_zero_or_pos n with rfl | hn
  · exact absurd h (by simp)
  · exact head_toDigits n hn (by rw [h]; rfl)

theorem le_foldl_digits : ∀ (s : List Char) (m : Nat),
    m ≤ s.foldl (fun n c => 10 * n + (c.toNat - 48)) m
  | [], _ => Nat.le_refl _
  | c :: s, m => by
      have ih := le_foldl_digits s (10 * m + (c.toNat - 48))
      rw [List.foldl_cons]
      omega

/-- All digits are taken if the number that they write fits. -/
theorem takeDigits_eq : ∀ (s : List Char) (m count : Nat),
    s.foldl (fun n c => 10 * n + (c.toNat - 48)) m ≤ maxWhole →
    takeDigits m count s = (s.foldl (fun n c => 10 * n + (c.toNat - 48)) m, count + s.length)
  | [], _, _, _ => rfl
  | c :: s, m, count, h => by
      rw [List.foldl_cons] at h ⊢
      have hle := le_foldl_digits s (10 * m + (c.toNat - 48))
      rw [takeDigits, if_pos (Nat.le_trans hle h), takeDigits_eq s _ _ h, List.length_cons, Nat.add_assoc,
        Nat.add_comm 1]

theorem takeDigits_toDigits {n : Nat} (h : n ≤ maxWhole) :
    takeDigits 0 0 (Nat.toDigits 10 n) = (n, (Nat.toDigits 10 n).length) := by
  have hvalue : (Nat.toDigits 10 n).foldl (fun n c => 10 * n + (c.toNat - 48)) 0 = n :=
    Nat.ofDigitChars_toDigits (by decide) (by decide)
  have htake := takeDigits_eq (Nat.toDigits 10 n) 0 0
  rw [hvalue] at htake
  rw [htake h, Nat.zero_add]

/-- **The digits of a number are read up to what cannot go on with it.** -/
theorem readNumber_toDigits {n : Nat} (hn : n ≤ maxWhole) {rest : List Char} (hrest : EndsNumber rest)
    (lead : Char) (negative : Bool) :
    readNumber lead negative (Nat.toDigits 10 n ++ rest) = (wholeValue lead negative n, some rest) := by
  have hstop : rest.takeWhile Char.isDigit = [] := by
    cases rest with
    | nil => rfl
    | cons c r => rw [List.takeWhile_cons_of_neg (by rw [(hrest c rfl).1]; exact Bool.false_ne_true)]
  have hdigits : (Nat.toDigits 10 n ++ rest).takeWhile Char.isDigit = Nat.toDigits 10 n := by
    rw [List.takeWhile_append_of_pos isDigit_of_mem, hstop, List.append_nil]
  have htake := takeDigits_toDigits hn
  have hzero := toDigits_ne_zero_cons n
  have hne : Nat.toDigits 10 n ≠ [] := Nat.toDigits_ne_nil
  unfold readNumber
  simp only [hdigits, List.drop_left, htake]
  split
  · exact absurd rfl (hrest '.' rfl).2.1
  · rw [if_neg]
    rw [Bool.or_eq_true, Bool.or_eq_true, decide_eq_true_iff, beq_iff_eq, beq_iff_eq]
    rintro ((h | h) | h)
    · exact absurd h (Nat.lt_irrefl _)
    · exact (hrest 'e' h).2.2.1 rfl
    · exact (hrest 'E' h).2.2.2 rfl

/-! ## 3. Values -/

theorem skipSpace_cons {c : Char} (h : isSpace c = false) (s : List Char) :
    skipSpace (c :: s) = c :: s := by
  rw [skipSpace, List.dropWhile_cons_of_neg (by rw [h]; exact Bool.false_ne_true)]

theorem ne_of_isDigit {c k : Char} (hc : c.isDigit = true) (hk : k.isDigit = false) : c ≠ k := by
  rintro rfl
  rw [hc] at hk
  cases hk

theorem isSpace_of_isDigit {c : Char} (hc : c.isDigit = true) : isSpace c = false := by
  have hne : ∀ k : Char, k.isDigit = false → (c == k) = false := fun k hk =>
    beq_false_of_ne (ne_of_isDigit hc hk)
  simp only [isSpace, hne ' ' rfl, hne '\n' rfl, hne '\t' rfl, hne '\r' rfl, Bool.or_false]

theorem readValue_toDigits {n : Nat} (hn : n ≤ maxWhole) {rest : List Char} (hrest : EndsNumber rest)
    (fuel : Nat) : readValue (fuel + 1) (Nat.toDigits 10 n ++ rest) = (int n, some rest) := by
  cases h : Nat.toDigits 10 n with
  | nil => exact absurd h Nat.toDigits_ne_nil
  | cons d ds =>
      have hd : d.isDigit = true := isDigit_of_mem d (h ▸ List.mem_cons_self)
      have hne : ∀ {k : Char}, k.isDigit = false → (d == k) = false := fun hk =>
        beq_false_of_ne (ne_of_isDigit hd hk)
      have hread := readNumber_toDigits hn hrest d false
      rw [h, List.cons_append] at hread
      rw [List.cons_append, readValue, skipSpace_cons (isSpace_of_isDigit hd)]
      simp only [@hne 'n' rfl, @hne 't' rfl, @hne 'f' rfl, @hne '"' rfl, @hne '-' rfl, hd, hread]
      rfl

/-- **A whole number is read as it is written.** -/
theorem readValue_writeInt {m : Int} (hm : FitsInt m) {rest : List Char} (hrest : EndsNumber rest)
    (fuel : Nat) : readValue (fuel + 1) (writeInt m ++ rest) = (int m, some rest) := by
  have hmax : maxWhole + 1 = UInt64.size := rfl
  have hmin : Int64.minValue.toInt = -(twoPow 63) := by decide
  have hhalf : twoPow 63 ≤ maxWhole := by decide
  obtain ⟨hlow, hhigh⟩ := hm
  unfold writeInt
  by_cases hneg : m < 0
  · rw [if_pos hneg, List.cons_append, readValue, skipSpace_cons rfl]
    have hread := readNumber_toDigits (n := m.natAbs) (by omega) hrest '-' true
    have hvalue : wholeValue '-' true m.natAbs = int m := by
      have hfit : (m.natAbs ≠ 0 && m.natAbs ≤ twoPow 63) = true := by
        rw [Bool.and_eq_true, decide_eq_true_iff, decide_eq_true_iff]
        omega
      rw [wholeValue, if_neg (by decide), if_pos hfit]
      exact congrArg int (by omega)
    rw [hvalue] at hread
    exact hread
  · rw [if_neg hneg, readValue_toDigits (by omega) hrest]
    exact congrArg (fun k => (int k, some rest)) (by omega)

/-- The items after the first, with the commas before them. -/
def itemsTail : List Json → List Char
  | [] => []
  | j :: items => ',' :: compactItems (j :: items)

theorem compactItems_cons (j : Json) (items : List Json) :
    compactItems (j :: items) = j.compact ++ itemsTail items := by
  cases items with
  | nil => rw [compactItems, itemsTail, List.append_nil]
  | cons k items => rw [compactItems, itemsTail]

/-- The members after the first, with the commas before them. -/
def membersTail : List (String × Json) → List Char
  | [] => []
  | m :: members => ',' :: compactMembers (m :: members)

theorem compactMembers_cons (k : String) (j : Json) (members : List (String × Json)) :
    compactMembers ((k, j) :: members) =
      '"' :: (k.toList.flatMap writeChar ++ '"' :: ':' :: (j.compact ++ membersTail members)) := by
  cases members with
  | nil => simp [compactMembers, membersTail, writeString]
  | cons m members => simp [compactMembers, membersTail, writeString]

theorem endsNumber_itemsTail (items : List Json) (rest : List Char) :
    EndsNumber (itemsTail items ++ ']' :: rest) := by
  cases items with
  | nil => exact endsNumber_cons (by decide) _
  | cons _ _ => exact endsNumber_cons (by decide) _

theorem endsNumber_membersTail (members : List (String × Json)) (rest : List Char) :
    EndsNumber (membersTail members ++ '\x7d' :: rest) := by
  cases members with
  | nil => exact endsNumber_cons (by decide) _
  | cons _ _ => exact endsNumber_cons (by decide) _

/-- A printed value starts with a character that neither is a blank nor closes a list. -/
theorem exists_head (j : Json) : ∃ c t, j.compact = c :: t ∧ isSpace c = false ∧ c ≠ ']' := by
  cases j with
  | null => exact ⟨_, _, rfl, rfl, by decide⟩
  | bool b =>
      cases b with
      | false => exact ⟨_, _, rfl, rfl, by decide⟩
      | true => exact ⟨_, _, rfl, rfl, by decide⟩
  | int n =>
      unfold compact writeInt
      split
      · exact ⟨_, _, rfl, rfl, by decide⟩
      · cases h : Nat.toDigits 10 n.natAbs with
        | nil => exact absurd h Nat.toDigits_ne_nil
        | cons d ds =>
            have hd : d.isDigit = true := isDigit_of_mem d (h ▸ List.mem_cons_self)
            exact ⟨d, ds, rfl, isSpace_of_isDigit hd, ne_of_isDigit hd rfl⟩
  | string s => exact ⟨_, _, rfl, rfl, by decide⟩
  | array items => exact ⟨_, _, rfl, rfl, by decide⟩
  | object members => exact ⟨_, _, rfl, rfl, by decide⟩

section Steps

variable {fuel : Nat} {s mid rest : List Char} {d : Document}

/-- The first item of a list. -/
theorem readItems_first {c : Char} {t : List Char} {items : List Document} (hs : s = c :: t)
    (hspace : isSpace c = false) (hclose : c ≠ ']') (hvalue : readValue fuel s = (d, some mid))
    (hitems : readItems fuel false mid = (items, none, some rest)) :
    readItems (fuel + 1) true s = (d :: items, none, some rest) := by
  subst hs
  rw [readItems, skipSpace_cons hspace]
  simp only [beq_false_of_ne hclose, hvalue, hitems]
  rfl

/-- An item behind a comma. -/
theorem readItems_next {c : Char} {t : List Char} {items : List Document} (hs : s = c :: t)
    (hspace : isSpace c = false) (hclose : c ≠ ']') (hvalue : readValue fuel s = (d, some mid))
    (hitems : readItems fuel false mid = (items, none, some rest)) :
    readItems (fuel + 1) false (',' :: s) = (d :: items, none, some rest) := by
  subst hs
  have hcomma : skipSpace (',' :: c :: t) = ',' :: c :: t := skipSpace_cons rfl _
  rw [readItems, hcomma]
  simp only [skipSpace_cons hspace, beq_false_of_ne hclose, hvalue, hitems]
  rfl

/-- The first member of an object. -/
theorem readMembers_first {k : String} {members : List (Document × Document)}
    (hvalue : readValue fuel s = (d, some mid))
    (hmembers : readMembers fuel false mid = (members, none, some rest)) :
    readMembers (fuel + 1) true ('"' :: (k.toList.flatMap writeChar ++ '"' :: ':' :: s)) =
      ((string k, d) :: members, none, some rest) := by
  have hquote : ∀ t, skipSpace ('"' :: t) = '"' :: t := skipSpace_cons rfl
  have hcolon : ∀ t, skipSpace (':' :: t) = ':' :: t := skipSpace_cons rfl
  rw [readMembers, hquote]
  simp only [readStringValue_write, hcolon, hvalue, hmembers]
  rfl

/-- A member behind a comma. -/
theorem readMembers_next {k : String} {members : List (Document × Document)}
    (hvalue : readValue fuel s = (d, some mid))
    (hmembers : readMembers fuel false mid = (members, none, some rest)) :
    readMembers (fuel + 1) false (',' :: '"' :: (k.toList.flatMap writeChar ++ '"' :: ':' :: s)) =
      ((string k, d) :: members, none, some rest) := by
  have hcomma : ∀ t, skipSpace (',' :: t) = ',' :: t := skipSpace_cons rfl
  have hquote : ∀ t, skipSpace ('"' :: t) = '"' :: t := skipSpace_cons rfl
  have hcolon : ∀ t, skipSpace (':' :: t) = ':' :: t := skipSpace_cons rfl
  rw [readMembers, hcomma]
  simp only [hquote, readStringValue_write, hcolon, hvalue, hmembers]
  rfl

theorem readValue_list {items : List Document} (h : readItems fuel true s = (items, none, some rest)) :
    readValue (fuel + 1) ('[' :: s) = (array items none, some rest) := by
  rw [readValue, skipSpace_cons rfl]
  simp only [h]
  rfl

theorem readValue_object {members : List (Document × Document)}
    (h : readMembers fuel true s = (members, none, some rest)) :
    readValue (fuel + 1) ('{' :: s) = (object members none, some rest) := by
  rw [readValue, skipSpace_cons rfl]
  simp only [h]
  rfl

end Steps

theorem readWord_append (d : Document) (lead : Char) (rest : List Char) : ∀ word : List Char,
    readWord d lead word (word ++ rest) = (d, some rest)
  | [] => rfl
  | c :: word => by
      have hsame : (c == c) = true := beq_self_eq_true c
      rw [List.cons_append, readWord, if_pos hsame, readWord_append d lead rest word]

/-! The count of a reading is enough if it is more than the length of the text, since each level and
each item takes a character. -/

mutual

/-- **A printed value is read as its document, up to where it ends.** -/
theorem readValue_compact : ∀ (j : Json), Fits j → ∀ {fuel : Nat} {rest : List Char},
    j.compact.length < fuel → EndsNumber rest →
    readValue fuel (j.compact ++ rest) = (ofJson j, some rest)
  | .null, _, fuel + 1, rest, _, _ => readWord_append null 'n' rest "ull".toList
  | .bool true, _, fuel + 1, rest, _, _ => readWord_append (bool true) 't' rest "rue".toList
  | .bool false, _, fuel + 1, rest, _, _ => readWord_append (bool false) 'f' rest "alse".toList
  | .int n, hfits, fuel + 1, rest, _, hrest => readValue_writeInt hfits hrest fuel
  | .string s, _, fuel + 1, rest, _, _ => by
      have htext : (Json.string s).compact ++ rest =
          '"' :: (s.toList.flatMap writeChar ++ '"' :: rest) := by
        simp [compact, writeString]
      rw [htext, readValue, skipSpace_cons rfl]
      exact readStringValue_write s rest
  | .array items, hfits, fuel + 1, rest, hfuel, _ => by
      rw [compact] at hfuel ⊢
      rw [List.length_append, List.length_cons, List.length_singleton] at hfuel
      rw [List.append_assoc]
      exact readValue_list (readItems_compact items hfits rest (by omega))
  | .object members, hfits, fuel + 1, rest, hfuel, _ => by
      rw [compact] at hfuel ⊢
      rw [List.length_append, List.length_cons, List.length_singleton] at hfuel
      rw [List.append_assoc]
      exact readValue_object (readMembers_compact members hfits rest (by omega))

theorem readItems_compact : ∀ (items : List Json), FitsItems items → ∀ {fuel : Nat} (rest : List Char),
    (compactItems items).length + 1 < fuel →
    readItems fuel true (compactItems items ++ ']' :: rest) = (ofItems items, none, some rest)
  | [], _, fuel + 1, rest, _ => rfl
  | j :: items, hfits, fuel + 1, rest, hfuel => by
      obtain ⟨c, t, hc, hspace, hclose⟩ := exists_head j
      have hlength := congrArg List.length hc
      rw [compactItems_cons, List.length_append] at hfuel
      rw [List.length_cons] at hlength
      rw [compactItems_cons, List.append_assoc]
      refine readItems_first (by rw [hc]; rfl) hspace hclose ?_
        (readItems_tail items hfits.2 rest (by omega))
      exact readValue_compact j hfits.1 (by omega) (endsNumber_itemsTail items rest)

theorem readItems_tail : ∀ (items : List Json), FitsItems items → ∀ {fuel : Nat} (rest : List Char),
    (itemsTail items).length + 1 < fuel →
    readItems fuel false (itemsTail items ++ ']' :: rest) = (ofItems items, none, some rest)
  | [], _, fuel + 1, rest, _ => rfl
  | j :: items, hfits, fuel + 1, rest, hfuel => by
      obtain ⟨c, t, hc, hspace, hclose⟩ := exists_head j
      rw [itemsTail, compactItems_cons, List.length_cons, List.length_append] at hfuel
      rw [itemsTail, compactItems_cons, List.cons_append, List.append_assoc]
      refine readItems_next (by rw [hc]; rfl) hspace hclose ?_
        (readItems_tail items hfits.2 rest (by omega))
      exact readValue_compact j hfits.1 (by omega) (endsNumber_itemsTail items rest)

theorem readMembers_compact : ∀ (members : List (String × Json)), FitsMembers members →
    ∀ {fuel : Nat} (rest : List Char), (compactMembers members).length + 1 < fuel →
    readMembers fuel true (compactMembers members ++ '\x7d' :: rest) =
      (ofMembers members, none, some rest)
  | [], _, fuel + 1, rest, _ => rfl
  | (k, j) :: members, hfits, fuel + 1, rest, hfuel => by
      rw [compactMembers_cons] at hfuel ⊢
      simp only [List.length_cons, List.length_append] at hfuel
      simp only [List.cons_append, List.append_assoc]
      refine readMembers_first ?_ (readMembers_tail members hfits.2 rest (by omega))
      exact readValue_compact j hfits.1 (by omega) (endsNumber_membersTail members rest)

theorem readMembers_tail : ∀ (members : List (String × Json)), FitsMembers members →
    ∀ {fuel : Nat} (rest : List Char), (membersTail members).length + 1 < fuel →
    readMembers fuel false (membersTail members ++ '\x7d' :: rest) =
      (ofMembers members, none, some rest)
  | [], _, fuel + 1, rest, _ => rfl
  | (k, j) :: members, hfits, fuel + 1, rest, hfuel => by
      rw [membersTail, compactMembers_cons] at hfuel ⊢
      simp only [List.length_cons, List.length_append] at hfuel
      simp only [List.cons_append, List.append_assoc]
      refine readMembers_next ?_ (readMembers_tail members hfits.2 rest (by omega))
      exact readValue_compact j hfits.1 (by omega) (endsNumber_membersTail members rest)

end

/-- **A printed value is read as the document of that value, and nothing is left of the text.** -/
theorem ofText_compact {j : Json} (h : Fits j) : ofText j.compact = (ofJson j, false) := by
  have hend : EndsNumber [] := fun c hc => by cases hc
  have hread := readValue_compact j h (by omega : j.compact.length < 2 * j.compact.length + 2) hend
  rw [List.append_nil] at hread
  rw [ofText, hread]
  rfl

end Document

/-- **What is given back as a document is given back as a text.** -/
theorem Codec.read_render {α : Type} {c : Codec α} {a : α} (hfits : Fits (c.encode a))
    (h : c.decode (Document.ofJson (c.encode a)) = .ok a) : c.read (c.encode a).render = .ok a := by
  rw [Codec.read, Json.render, String.toList_ofList, Document.ofText_compact hfits]
  simp only [h]
  rfl

end TableDraft.Json

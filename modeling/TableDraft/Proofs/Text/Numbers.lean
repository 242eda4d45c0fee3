import TableDraft.Proofs.Text.UpperCase
import TableDraft.Text.Number

/-!
# Numbers in decimal

`Writes s n` says that the text `s` is decimal digits of `n`, perhaps behind a plus sign. **A number is
read from a text exactly if the text writes it** (`readUInt32?_eq_some_iff`), so that a number is read
back as it is written (`readUInt32?_writeUInt32`), and letter case does not matter
(`readUInt32?_upper`).
-/

namespace TableDraft.Text

open Unicode

/-- The text has digits, at least one, of which the number is the value; a plus sign may stand before
them. -/
def Writes (s : List Char) (n : UInt32) : Prop :=
  ∃ digits, (s = digits ∨ s = '+' :: digits) ∧ digits ≠ [] ∧ (∀ c ∈ digits, c.isDigit = true) ∧
    digitsValue digits = n.toNat

/-- The text behind a plus sign. -/
def unsigned : List Char → List Char
  | '+' :: r => r
  | s => s

theorem unsigned_cases (s : List Char) : s = unsigned s ∨ s = '+' :: unsigned s := by
  unfold unsigned
  split
  · exact Or.inr rfl
  · exact Or.inl rfl

/-- No digit is a plus sign. -/
theorem unsigned_eq {s digits : List Char} (hs : s = digits ∨ s = '+' :: digits)
    (hdigits : ∀ c ∈ digits, c.isDigit = true) : unsigned s = digits := by
  rcases hs with rfl | rfl
  · unfold unsigned
    split
    · exact absurd (hdigits '+' List.mem_cons_self) (by decide)
    · rfl
  · rfl

theorem readUInt32?_eq (s : List Char) : readUInt32? s =
    if (unsigned s).isEmpty || !(unsigned s).all Char.isDigit ||
      digitsValue (unsigned s) ≥ UInt32.size then none
    else some (UInt32.ofNat (digitsValue (unsigned s))) := rfl

/-- **A number is read from the texts that write it, and from no others.** -/
theorem readUInt32?_eq_some_iff {s : List Char} {n : UInt32} :
    readUInt32? s = some n ↔ Writes s n := by
  rw [readUInt32?_eq]
  constructor
  · intro h
    split at h
    · cases h
    · rename_i hok
      simp only [Bool.or_eq_true, not_or, List.isEmpty_iff, Bool.not_eq_true', Bool.not_eq_false,
        decide_eq_true_eq, Nat.not_le, List.all_eq_true] at hok
      obtain ⟨⟨hne, hall⟩, hlt⟩ := hok
      obtain rfl := Option.some.inj h
      exact ⟨_, unsigned_cases s, hne, hall, (UInt32.toNat_ofNat_of_lt' hlt).symm⟩
  · rintro ⟨digits, hs, hne, hall, hvalue⟩
    have hlt : digitsValue digits < UInt32.size := hvalue ▸ n.toNat_lt_size
    rw [unsigned_eq hs hall, if_neg, hvalue, UInt32.ofNat_toNat]
    simp [hne, List.all_eq_true.mpr hall, hlt]

theorem writes_writeUInt32 (n : UInt32) : Writes (writeUInt32 n) n :=
  ⟨_, Or.inl rfl, Nat.toDigits_ne_nil,
    fun _ hc => Nat.isDigit_of_mem_toDigits (by decide) (by decide) hc,
    Nat.ofDigitChars_toDigits (by decide) (by decide)⟩

/-- **A number is read back as it is written.** -/
theorem readUInt32?_writeUInt32 (n : UInt32) : readUInt32? (writeUInt32 n) = some n :=
  readUInt32?_eq_some_iff.mpr (writes_writeUInt32 n)

/-! ## Characters of numbers -/

/-- A written number holds only digits and a plus sign. -/
theorem Writes.mem {s : List Char} {n : UInt32} (h : Writes s n) {c : Char} (hc : c ∈ s) :
    c.isDigit = true ∨ c = '+' := by
  obtain ⟨digits, hs | hs, -, hall, -⟩ := h
  · exact Or.inl (hall c (hs ▸ hc))
  · rw [hs, List.mem_cons] at hc
    exact hc.symm.imp_left (hall c)

theorem comma_notMem_writeUInt32 (n : UInt32) : ',' ∉ writeUInt32 n := by
  intro h
  rcases (writes_writeUInt32 n).mem h with h | h <;> cases h

theorem isAscii_of_isDigit {c : Char} (h : c.isDigit = true) : isAscii c = true := by
  have hrange : 48 ≤ c.toNat ∧ c.toNat ≤ 57 := Char.isDigit_iff_toNat.mp h
  simp only [isAscii, decide_eq_true_eq]
  omega

/-- Digits and signs are no letters. -/
theorem Writes.steady {s : List Char} {n : UInt32} (h : Writes s n) {c : Char} (hc : c ∈ s) :
    Steady c := by
  rcases h.mem hc with hdigit | rfl
  · have hletter : ∀ n < 128, (Char.ofNat n).isDigit = true → (Char.ofNat n).isAlpha = false := by
      decide
    have hascii := isAscii_of_isDigit hdigit
    exact steady_of_ascii hascii
      (forall_ascii (p := fun c => c.isDigit = true → c.isAlpha = false) hletter hascii hdigit)
  · exact steady_of_ascii (by decide) (by decide)

/-- **Numbers are read without regard to letter case**: upper case makes no digits. -/
theorem readUInt32?_upper (s : List Char) : readUInt32? (upper s) = readUInt32? s := by
  refine Option.ext fun n => ?_
  rw [readUInt32?_eq_some_iff, readUInt32?_eq_some_iff]
  constructor
  · intro h
    rwa [upper_eq_self_of_steady fun c hc => h.steady hc] at h
  · intro h
    rwa [upper_of_high fun c hc => (h.steady hc).self]

/-- A written number neither starts nor ends in a blank. -/
theorem Writes.trimmed {s : List Char} {n : UInt32} (h : Writes s n) : trim s = s := by
  have hno : ∀ c ∈ s, isBlank c = false := by
    intro c hc
    rw [← Bool.not_eq_true]
    intro hb
    rcases h.mem hc with hdigit | rfl
    · have hpoint := toNat_mem_blankPoints hb
      have hrange : 48 ≤ c.toNat ∧ c.toNat ≤ 57 := Char.isDigit_iff_toNat.mp hdigit
      have hout : ∀ n ∈ blankPoints, n < 48 ∨ 57 < n := by decide
      have := hout _ hpoint
      omega
    · cases hb
  exact trim_eq_self (fun c hc => hno c (List.mem_of_head? hc))
    fun c hc => hno c (List.mem_of_getLast? hc)

end TableDraft.Text

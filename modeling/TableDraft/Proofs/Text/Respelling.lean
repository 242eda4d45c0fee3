import TableDraft.Naming
import TableDraft.Proofs.Text.LowerCase

/-!
# The same text in another spelling

A text is respelled by changing the case of ASCII letters and by putting blanks to its ends or taking
them away, any number of times. Neither step shows in the normal form of a name:

* `lower_recased`: **texts that differ in ASCII letter case alone have the same lower case**, the forms
  of the sigma included, since the case of its neighbours does not matter (`meetsCased_recased`);
* `trim_map_toLower`: letter case does not matter for trimming;
* **`normalize_respelled`: a respelled name has the same normal form**, and so the same markers of a
  name that identifies its row (`markers_respelled`).
-/

namespace TableDraft.Text

open Unicode

/-! ## 1. Letter case in ASCII -/

/-- The test has the same answer for both cases of an ASCII letter. -/
def CaseBlind (p : Char → Bool) : Prop := ∀ c, p c.toLower = p c

theorem caseBlind_of_ascii {p : Char → Bool}
    (h : ∀ n < 128, p (Char.ofNat n).toLower = p (Char.ofNat n)) : CaseBlind p := by
  intro c
  cases ha : isAscii c with
  | true => exact forall_ascii (p := fun c => p c.toLower = p c) h ha
  | false => rw [toLower_of_not_ascii ha]

theorem caseBlind_isBlank : CaseBlind isBlank := caseBlind_of_ascii (by decide)

theorem caseBlind_isCased : CaseBlind isCased := caseBlind_of_ascii (by decide)

theorem caseBlind_isCaseIgnorable : CaseBlind isCaseIgnorable := caseBlind_of_ascii (by decide)

theorem caseBlind_isSigma : CaseBlind (· == 'Σ') := caseBlind_of_ascii (by decide)

theorem lowerChar_toLower (c : Char) : lowerChar c.toLower = lowerChar c := by
  cases ha : isAscii c with
  | true =>
      have hall : ∀ n < 128, lowerChar (Char.ofNat n).toLower = lowerChar (Char.ofNat n) := by
        decide +kernel
      exact forall_ascii (p := fun c => lowerChar c.toLower = lowerChar c) hall ha
  | false => rw [toLower_of_not_ascii ha]

theorem dropWhile_map_toLower {p : Char → Bool} (h : CaseBlind p) (s : List Char) :
    (s.map Char.toLower).dropWhile p = (s.dropWhile p).map Char.toLower := by
  rw [List.dropWhile_map, show p ∘ Char.toLower = p from funext h]

/-! ## 2. Lower case -/

/-- The case of the letters around a sigma does not matter, only that they are letters. -/
theorem meetsCased_recased (s : List Char) : meetsCased (s.map Char.toLower) = meetsCased s := by
  unfold meetsCased
  rw [dropWhile_map_toLower caseBlind_isCaseIgnorable]
  cases s.dropWhile isCaseIgnorable with
  | nil => rfl
  | cons c r => exact caseBlind_isCased c

theorem lowerBetween_recased (before : List Char) (c : Char) (after : List Char) :
    lowerBetween (before.map Char.toLower) c.toLower (after.map Char.toLower) =
      lowerBetween before c after := by
  have hsigma : lowerSigma (before.map Char.toLower) (after.map Char.toLower) =
      lowerSigma before after := by
    rw [lowerSigma, lowerSigma, meetsCased_recased, meetsCased_recased]
  have hc : (c.toLower == 'Σ') = (c == 'Σ') := caseBlind_isSigma c
  rw [lowerBetween, lowerBetween, hsigma, lowerChar_toLower, hc]

theorem lowerAfter_recased (before : List Char) : ∀ s : List Char,
    lowerAfter (before.map Char.toLower) (s.map Char.toLower) = lowerAfter before s
  | [] => rfl
  | c :: s => by
      have ih := lowerAfter_recased (c :: before) s
      rw [List.map_cons] at ih
      rw [List.map_cons, lowerAfter_cons, lowerAfter_cons, lowerBetween_recased, ih]

/-- **Texts that differ in ASCII letter case alone have the same lower case.** -/
theorem lower_recased {s t : List Char} (h : sameIgnoringAsciiCase s t = true) : lower s = lower t := by
  have hmap : s.map Char.toLower = t.map Char.toLower := beq_iff_eq.mp h
  have hs : lower (s.map Char.toLower) = lower s := lowerAfter_recased [] s
  have ht : lower (t.map Char.toLower) = lower t := lowerAfter_recased [] t
  rw [← hs, ← ht, hmap]

/-! ## 3. Blanks at the ends -/

theorem isBlankText_map_toLower (s : List Char) :
    isBlankText (s.map Char.toLower) = isBlankText s := by
  rw [isBlankText, List.all_map, show isBlank ∘ Char.toLower = isBlank from funext caseBlind_isBlank]
  rfl

theorem isBlankText_recased {s t : List Char} (h : sameIgnoringAsciiCase s t = true) :
    isBlankText s = isBlankText t := by
  rw [← isBlankText_map_toLower s, ← isBlankText_map_toLower t, beq_iff_eq.mp h]

theorem trim_map_toLower (s : List Char) : trim (s.map Char.toLower) = (trim s).map Char.toLower := by
  unfold trim trimStart trimEnd
  rw [dropWhile_map_toLower caseBlind_isBlank, ← List.map_reverse,
    dropWhile_map_toLower caseBlind_isBlank, List.map_reverse]

/-! ## 4. Respelling -/

/-- The second text comes from the first one by changes of the case of ASCII letters, and by blanks
that are put to its ends or taken from there. -/
inductive Respelled : List Char → List Char → Prop
  | recased {s t : List Char} (h : sameIgnoringAsciiCase s t = true) : Respelled s t
  | padded {x y : List Char} (s : List Char) (hx : isBlankText x = true) (hy : isBlankText y = true) :
      Respelled s (x ++ s ++ y)
  | bared {x y : List Char} (s : List Char) (hx : isBlankText x = true) (hy : isBlankText y = true) :
      Respelled (x ++ s ++ y) s
  | trans {s t u : List Char} (h : Respelled s t) (h' : Respelled t u) : Respelled s u

/-- **A text is respelled exactly if it is the same between its blanks but for ASCII letter case.** -/
theorem respelled_iff {s t : List Char} :
    Respelled s t ↔ sameIgnoringAsciiCase (trim s) (trim t) = true := by
  have hsame : ∀ {s t : List Char}, sameIgnoringAsciiCase (trim s) (trim t) = true ↔
      (trim s).map Char.toLower = (trim t).map Char.toLower := beq_iff_eq
  constructor
  · intro h
    rw [hsame]
    induction h with
    | recased h => rw [← trim_map_toLower, ← trim_map_toLower, beq_iff_eq.mp h]
    | padded s hx hy => rw [trim_between hx hy]
    | bared s hx hy => rw [trim_between hx hy]
    | trans _ _ ih ih' => exact ih.trans ih'
  · intro h
    obtain ⟨x, y, hx, hy, hs⟩ := exists_trim s
    obtain ⟨x', y', hx', hy', ht⟩ := exists_trim t
    have hbare : Respelled s (trim s) := by
      conv => arg 1; rw [hs]
      exact .bared (trim s) hx hy
    have hpad : Respelled (trim t) t := by
      conv => arg 2; rw [ht]
      exact .padded (trim t) hx' hy'
    exact (hbare.trans (.recased h)).trans hpad

/-- The normal form does not change. -/
theorem Respelled.lower_trim {s t : List Char} (h : Respelled s t) :
    lower (trim s) = lower (trim t) := lower_recased (respelled_iff.mp h)

end TableDraft.Text

namespace TableDraft.Naming

open Text

/-- **A respelled name has the same normal form.** -/
theorem normalize_respelled {name name' : String} (h : Respelled name.toList name'.toList) :
    normalize name' = normalize name := by
  rw [normalize, normalize, h.lower_trim]

/-- A respelled name has the same markers. -/
theorem markers_respelled {name name' : String} (h : Respelled name.toList name'.toList) :
    isIdentifierCode name' = isIdentifierCode name ∧ isGenericId name' = isGenericId name := by
  have hcode : isIdentifierCode name' = isIdentifierCode name := by
    rw [isIdentifierCode, isIdentifierCode, normalize_respelled h]
  exact ⟨hcode, by rw [isGenericId, isGenericId, normalize_respelled h, hcode]⟩

end TableDraft.Naming

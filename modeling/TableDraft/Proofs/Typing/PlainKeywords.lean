import Mathlib.Data.Bool.AllAny
import TableDraft.Proofs.Pattern.PlainText
import TableDraft.Proofs.Select.Operations
import TableDraft.Proofs.Text.Caseless
import TableDraft.Typing.Rule

/-!
# Plain keywords in the three match modes

A keyword is compared with the whole text, looked for as a part, or read as a pattern. The first two put
it to lower case, the last one lets the letter case of both sides vary.

* `admits_literal`: on a text of ASCII without capitals a keyword that is plain as a pattern says the
  same as one that is looked for as a part;
* `admits_whole`: between the two edges it says the same as one that is compared;
* **`plain_modes_agree`: both, for keywords of letters, digits and underscores, with any engine that
  reads plain text as it is meant.**

Such an engine also finds the letters beyond ASCII that have an ASCII one as a letter case, which are their
own lower case; that is why the text is one of ASCII.
-/

namespace TableDraft.MatchMode

open Pattern Text Unicode

/-! ## 1. Keywords that stand for themselves -/

theorem lower_of_literal {s : List Char} (hs : s.all isLiteral = true) : lower s = s.map Char.toLower := by
  refine lower_of_ascii (List.all_eq_true.mpr fun c hc => ?_)
  exact (isLiteral_iff.mp (List.all_eq_true.mp hs c hc)).1

theorem isSimple_of_literal {s : List Char} (hs : s.all isLiteral = true) : s.all isSimple = true := by
  refine List.all_eq_true.mpr fun c hc => ?_
  obtain ⟨hascii, hatom, -⟩ := isLiteral_iff.mp (List.all_eq_true.mp hs c hc)
  rw [isSimple, hascii, hatom, Bool.and_true]

section Literal

variable [PatternEngine] {TooLarge : String → Prop} (hengine : ReadsPlainText TooLarge) {text : String}
  (htext : ∀ c ∈ text.toList, isAscii c = true ∧ c.isUpper = false)
include hengine htext

/-- **A keyword that stands for itself is looked for as a part.** -/
theorem admits_literal {k : String} (hk : k.toList.all isLiteral = true) (hsize : ¬ TooLarge k) :
    MatchMode.regex.admits text k = MatchMode.contains.admits text k := by
  obtain ⟨occursIn, hread⟩ := hengine.reads (isSimple_of_literal hk) hsize
  have hoccurs : occursIn text = Text.contains (lower k.toList) text.toList := by
    rw [Bool.eq_iff_iff, hengine.occurs (isSimple_of_literal hk) hread, occurs_literal htext hk,
      contains_iff, lower_of_literal hk]
  simp only [admits, hread, hoccurs]

/-- **Between the edges of the text it is compared with the whole text.** -/
theorem admits_whole {k : String} (hk : k.toList.all isLiteral = true)
    (hblank : isBlankText k.toList = false) (hsize : ¬ TooLarge ("^" ++ k ++ "$")) :
    MatchMode.regex.admits text ("^" ++ k ++ "$") = MatchMode.equals.admits text k := by
  have hlist : ("^" ++ k ++ "$").toList = '^' :: (k.toList ++ ['$']) := by
    simp
  have hsimple : ("^" ++ k ++ "$").toList.all isSimple = true := by
    rw [hlist, List.all_cons, List.all_append, isSimple_of_literal hk]
    rfl
  obtain ⟨occursIn, hread⟩ := hengine.reads hsimple hsize
  have hoccurs : occursIn text = (text == lowered k) := by
    rw [Bool.eq_iff_iff, hengine.occurs hsimple hread, hlist, occurs_whole htext hk, beq_iff_eq, lowered,
      lower_of_literal hk, eq_comm, ← String.toList_inj, String.toList_ofList]
  have hnotBlank : isBlankText ("^" ++ k ++ "$").toList = false := by
    rw [hlist]
    rfl
  simp only [admits, hread, hoccurs, hblank, hnotBlank]

end Literal

/-! ## 2. Keywords of letters, digits and underscores -/

theorem isLiteral_of_isPlain {c : Char} (h : Select.isPlain c = true) : isLiteral c = true := by
  have hall : ∀ n < 128, Select.isPlain (Char.ofNat n) = true → isLiteral (Char.ofNat n) = true := by
    decide +kernel
  exact forall_ascii (p := fun c => Select.isPlain c = true → isLiteral c = true) hall
    (Select.isAscii_of_isPlain h) h

theorem solid_of_plain {k : String} (hk : k ≠ "") (hplain : k.toList.all Select.isPlain = true) :
    isBlankText k.toList = false := by
  obtain ⟨c, hc⟩ := List.exists_mem_of_ne_nil k.toList fun h => hk (String.toList_eq_nil_iff.mp h)
  rw [← Bool.not_eq_true]
  intro hblank
  have hsolid := (Select.tests_of_isPlain (List.all_eq_true.mp hplain c hc)).blank
  rw [isBlankText_iff.mp hblank c hc] at hsolid
  cases hsolid

/-- **The match modes agree on plain keywords.** In a text of ASCII without capitals a keyword of ASCII
letters, digits and underscores is found as a pattern exactly where it is a part, and as a pattern
between the edges exactly in the text that it is equal to. This holds with any engine that reads plain
text as it is meant, provided that the pattern is not too large for it. -/
theorem plain_modes_agree [PatternEngine] {TooLarge : String → Prop} (hengine : ReadsPlainText TooLarge)
    {k text : String} (hk : k ≠ "") (hplain : k.toList.all Select.isPlain = true)
    (htext : ∀ c ∈ text.toList, isAscii c = true ∧ c.isUpper = false) :
    (¬ TooLarge k → MatchMode.regex.admits text k = MatchMode.contains.admits text k) ∧
    (¬ TooLarge ("^" ++ k ++ "$") →
      MatchMode.regex.admits text ("^" ++ k ++ "$") = MatchMode.equals.admits text k) := by
  have hliteral : k.toList.all isLiteral = true :=
    List.all_eq_true.mpr fun c hc => isLiteral_of_isPlain (List.all_eq_true.mp hplain c hc)
  exact ⟨admits_literal hengine htext hliteral,
    admits_whole hengine htext hliteral (solid_of_plain hk hplain)⟩

/-- A part of a longer name, in capitals of its own, is found, and is not equal to the name. -/
theorem plain_modes_agree_amount :
    MatchMode.regex.admits "credit_amt_1" "Amt_1" = MatchMode.contains.admits "credit_amt_1" "Amt_1" ∧
    MatchMode.contains.admits "credit_amt_1" "Amt_1" = true ∧
    MatchMode.regex.admits "credit_amt_1" ("^" ++ "Amt_1" ++ "$") =
      MatchMode.equals.admits "credit_amt_1" "Amt_1" ∧
    MatchMode.equals.admits "credit_amt_1" "Amt_1" = false := by
  have htext : ∀ c ∈ "credit_amt_1".toList, isAscii c = true ∧ c.isUpper = false :=
    List.all_iff_forall_prop.mp (by decide)
  obtain ⟨hpart, hwhole⟩ :=
    plain_modes_agree readsPlainText_engine (by decide : "Amt_1" ≠ "") (by decide) htext
  exact ⟨hpart (not_not.mpr (fits_of_length (by decide) (by decide))), by decide +kernel,
    hwhole (not_not.mpr (fits_of_length (by decide) (by decide))), by decide +kernel⟩

/-- The long s is a letter case of `s`, and is its own lower case. -/
example : MatchMode.regex.admits "\u017f" "s" = true ∧ MatchMode.contains.admits "\u017f" "s" = false := by
  decide +kernel

end TableDraft.MatchMode

import TableDraft.Proofs.Text.LowerCase
import TableDraft.Text.Search

/-!
# Text that case leaves alone

`contains` is the infix relation (`contains_iff`). A caseless character is its own lower case and comes
from no other one, so that **a text of caseless characters stands in the lower case of another text
only where it stands in that text itself** (`infix_of_infix_lower`).
-/

namespace TableDraft.Text

open Unicode

/-! ## 1. Substrings -/

/-- **A text holds another one that is an infix of it, and no other.** -/
theorem contains_iff {needle : List Char} : ∀ {s : List Char},
    contains needle s = true ↔ needle <:+: s
  | [] => by rw [contains, List.isEmpty_iff, List.infix_nil]
  | c :: s => by
      rw [contains, Bool.or_eq_true, List.isPrefixOf_iff_prefix, contains_iff, List.infix_cons_iff]

theorem trim_isInfix (s : List Char) : trim s <:+: s :=
  (trimEnd_isPrefix _).isInfix.trans (trimStart_isSuffix s).isInfix

/-! ## 2. Caseless characters -/

/-- The run does not give the code point. -/
def givesNot (n : Nat) (r : CaseRun) : Bool := n.blt (firstImage r) || (lastImage r).blt n

/-- The character comes from no other one by lower case. -/
def caseless (c : Char) : Bool :=
  !isAscii c && c != 'ς' && c != 'σ' && c != Char.ofNat 0x307 && lowerRuns.all (givesNot c.toNat)

/-- A caseless character in a lower case is all of it, and its own lower case. -/
theorem lowerBetween_of_mem {m c : Char} (h : caseless m = true) {before after : List Char}
    (hm : m ∈ lowerBetween before c after) : lowerBetween before c after = [m] ∧ c = m := by
  simp only [caseless, Bool.and_eq_true, Bool.not_eq_true', bne_iff_ne, List.all_eq_true] at h
  obtain ⟨⟨⟨⟨hascii, hfinal⟩, hsigma⟩, hdot⟩, hruns⟩ := h
  unfold lowerBetween at hm ⊢
  by_cases hc : (c == 'Σ') = true
  · rw [if_pos hc, List.mem_singleton] at hm
    unfold lowerSigma at hm
    split at hm <;> contradiction
  · rw [if_neg hc] at hm ⊢
    cases ha : isAscii c with
    | true =>
        rw [lowerChar_of_ascii ha, List.mem_singleton] at hm
        have hmascii := isAscii_toLower ha
        rw [← hm, hascii] at hmascii
        cases hmascii
    | false =>
        by_cases hi : c.toNat = 0x130
        · have hmem : m = 'i' ∨ m = Char.ofNat 0x307 := by
            simpa [lowerChar, ha, hi] using hm
          rcases hmem with rfl | rfl
          · cases hascii
          · exact absurd rfl hdot
        · cases hrun : lowerRuns.findSome? (·.image? c.toNat) with
          | some n =>
              obtain ⟨r, hr, him⟩ := List.exists_of_findSome?_eq_some hrun
              have hmn : m = Char.ofNat n := by
                simpa [lowerChar, ha, hi, hrun] using hm
              have hn : m.toNat = n := by
                rw [hmn]
                exact toNat_image hr him
              have hmiss := hruns r hr
              have hbetween := image_between him
              simp only [givesNot, Bool.or_eq_true, blt_iff] at hmiss
              omega
          | none =>
              have hself : lowerChar c = [c] := by
                simp [lowerChar, ha, hi, hrun]
              rw [hself, List.mem_singleton] at hm
              rw [hself, hm]
              exact ⟨rfl, rfl⟩

/-- Caseless text at the start of a lower case starts the text. -/
theorem prefix_of_prefix_lowerAfter : ∀ {needle : List Char}, (∀ m ∈ needle, caseless m = true) →
    ∀ {before s : List Char}, needle <+: lowerAfter before s → needle <+: s
  | [], _, _, _, _ => List.nil_prefix
  | m :: ms, _, _, [], h => absurd (List.prefix_nil.mp h) (List.cons_ne_nil m ms)
  | m :: ms, hall, before, c :: s, h => by
      rw [lowerAfter_cons] at h
      cases hblock : lowerBetween before c s with
      | nil => exact absurd hblock (lowerBetween_ne_nil before c s)
      | cons d ds =>
          rw [hblock, List.cons_append, List.cons_prefix_cons] at h
          obtain ⟨rfl, hrest⟩ := h
          have hm : m ∈ lowerBetween before c s := hblock ▸ List.mem_cons_self
          obtain ⟨hself, rfl⟩ := lowerBetween_of_mem (hall m List.mem_cons_self) hm
          obtain rfl : ds = [] := (List.cons.inj (hblock.symm.trans hself)).2
          have ih := prefix_of_prefix_lowerAfter (fun x hx => hall x (List.mem_cons_of_mem _ hx)) hrest
          exact List.cons_prefix_cons.mpr ⟨rfl, ih⟩

/-- What has nothing in common with the start of a text stands behind it. -/
theorem infix_of_infix_append {needle t : List Char} : ∀ {s : List Char}, needle <:+: s ++ t →
    (∀ c ∈ needle, c ∉ s) → needle <:+: t
  | [], h, _ => h
  | c :: s, h, hout => by
      rcases List.infix_cons_iff.mp h with hstart | hin
      · rcases List.prefix_cons_iff.mp hstart with rfl | ⟨r, rfl, -⟩
        · exact List.nil_infix
        · exact absurd List.mem_cons_self (hout c List.mem_cons_self)
      · exact infix_of_infix_append hin fun d hd hs => hout d hd (List.mem_cons_of_mem c hs)

theorem infix_of_infix_lowerAfter {needle : List Char} (hall : ∀ m ∈ needle, caseless m = true) :
    ∀ {before s : List Char}, needle <:+: lowerAfter before s → needle <:+: s
  | _, [], h => h
  | before, c :: s, h => by
      have hlater : needle <:+: lowerAfter (c :: before) s → needle <:+: c :: s :=
        fun h => List.infix_cons (infix_of_infix_lowerAfter hall h)
      by_cases hin : ∃ m ∈ needle, m ∈ lowerBetween before c s
      · obtain ⟨m, hm, hblock⟩ := hin
        have hself := (lowerBetween_of_mem (hall m hm) hblock).1
        have hcons := h
        rw [lowerAfter_cons, hself] at hcons
        rcases List.infix_cons_iff.mp hcons with hnow | hrest
        · have hstart : needle <+: lowerAfter before (c :: s) := by
            rw [lowerAfter_cons, hself]
            exact hnow
          exact (prefix_of_prefix_lowerAfter hall hstart).isInfix
        · exact hlater hrest
      · rw [lowerAfter_cons] at h
        exact hlater (infix_of_infix_append h fun m hm hblock => hin ⟨m, hm, hblock⟩)

/-- **Caseless text in a lower case stands in the text.** -/
theorem infix_of_infix_lower {needle s : List Char} (hall : ∀ m ∈ needle, caseless m = true)
    (h : needle <:+: lower s) : needle <:+: s := infix_of_infix_lowerAfter hall h

end TableDraft.Text

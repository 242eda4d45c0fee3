import TableDraft.Proofs.Select.PrintedSelect

/-!
# What other blanks do not change

`Respaced s t` says that `t` is `s` with other blanks for some of its runs of blanks, line breaks among
them. Such texts have the same words (`Respaced.words_eq`), and what the scans ask of an expression is a
matter of its words:

* `unbroken_congr`: parentheses and commas are no blanks;
* `free_iff_words`: a mark stands within a word, as a keyword does (`afterWord_eq_none_iff_words`), and FROM is
  a word (`exists_fromAt_iff_word`);
* **`Item.Readable.respaced`: an expression stays readable with other blanks in it**.
-/

namespace TableDraft.Select

open Text Remark

/-! ## 1. Other blanks -/

/-- The second text is the first with other blanks for some of its runs of blanks. -/
inductive Respaced : List Char → List Char → Prop where
  | nil : Respaced [] []
  | solid {c : Char} {s t : List Char} : isBlank c = false → Respaced s t →
      Respaced (c :: s) (c :: t)
  | blanks {x y s t : List Char} : isBlankText x = true → x ≠ [] → isBlankText y = true → y ≠ [] →
      Respaced s t → Respaced (x ++ s) (y ++ t)

namespace Respaced

theorem word {s t w : List Char} (hw : NoBlank w) (h : Respaced s t) : Respaced (w ++ s) (w ++ t) := by
  induction w with
  | nil => exact h
  | cons c w ih =>
      exact .solid (hw c List.mem_cons_self) (ih fun d hd => hw d (List.mem_cons_of_mem c hd))

variable {s t : List Char} (h : Respaced s t)
include h

/-- A word before both texts grows by the same characters. -/
theorem words_append {w : List Char} (hw : NoBlank w) : words (w ++ s) = words (w ++ t) := by
  induction h generalizing w with
  | nil => rfl
  | @solid c s t hc _ ih =>
      rw [List.append_cons w c s, List.append_cons w c t]
      exact ih (hw.append (List.forall_mem_singleton.mpr hc))
  | @blanks x y s t hx hxne hy hyne _ ih =>
      have hrest : words s = words t := ih (w := []) nofun
      rw [words_append_between hx hxne, words_append_between hy hyne, hrest]

/-- **Other blanks make no other words.** -/
theorem words_eq : words s = words t := h.words_append (w := []) nofun

theorem eq_nil_iff : s = [] ↔ t = [] := by
  cases h with
  | nil => exact Iff.rfl
  | solid => exact iff_of_false (List.cons_ne_nil _ _) (List.cons_ne_nil _ _)
  | blanks _ hxne _ hyne =>
      exact iff_of_false (List.append_ne_nil_of_left_ne_nil hxne _)
        (List.append_ne_nil_of_left_ne_nil hyne _)

theorem head_solid (hs : ∀ c ∈ s.head?, isBlank c = false) : ∀ c ∈ t.head?, isBlank c = false := by
  intro c hc
  cases h with
  | nil => cases hc
  | solid hb => exact Option.some.inj hc ▸ hb
  | @blanks x y s t hx hxne =>
      obtain ⟨b, x, rfl⟩ := List.exists_cons_of_ne_nil hxne
      rw [isBlankText_cons, Bool.and_eq_true, hs b rfl] at hx
      cases hx.1

theorem last_solid (hs : ∀ c ∈ s.getLast?, isBlank c = false) :
    ∀ c ∈ t.getLast?, isBlank c = false := by
  induction h with
  | nil => exact hs
  | @solid b s t hb hrest ih =>
      by_cases ht : t = []
      · intro c hc
        rw [ht] at hc
        exact Option.some.inj hc ▸ hb
      · have hsne : s ≠ [] := fun hnil => ht (hrest.eq_nil_iff.mp hnil)
        rw [← List.singleton_append, List.getLast?_append_of_ne_nil _ hsne] at hs
        rw [← List.singleton_append, List.getLast?_append_of_ne_nil _ ht]
        exact ih hs
  | @blanks x y s t hx hxne hy hyne hrest ih =>
      by_cases hnil : s = []
      · -- then the first text would end in a blank
        have hlast := List.getLast?_eq_some_getLast hxne
        rw [hnil, List.append_nil] at hs
        have hsolid := hs _ hlast
        rw [isBlankText_iff.mp hx _ (List.getLast_mem hxne)] at hsolid
        cases hsolid
      · have ht : t ≠ [] := fun ht => hnil (hrest.eq_nil_iff.mpr ht)
        rw [List.getLast?_append_of_ne_nil _ hnil] at hs
        rw [List.getLast?_append_of_ne_nil _ ht]
        exact ih hs

/-- A trimmed text stays trimmed. -/
theorem trimmed (hs : trim s = s) : trim t = t := by
  refine trim_eq_self (h.head_solid fun c hc => ?_) (h.last_solid fun c hc => ?_)
  · rw [← hs] at hc
    exact head_of_trim c hc
  · rw [← hs] at hc
    exact last_of_trim c hc

end Respaced

/-! ## 2. What words decide -/

theorem balancedFrom_solids (s : List Char) {d : Int} (hd : 0 ≤ d) :
    balancedFrom d (solids s) = balancedFrom d s := by
  induction s generalizing d with
  | nil => rfl
  | cons c s ih =>
      cases hc : isBlank c with
      | true =>
          rw [solids_blank hc, balancedFrom, depthStep_blank hc, Int.add_zero, decide_eq_true hd,
            Bool.true_and, ih hd]
      | false =>
          rw [solids_solid hc, balancedFrom, balancedFrom]
          by_cases hstep : 0 ≤ d + depthStep c
          · rw [ih hstep]
          · rw [decide_eq_false hstep, Bool.false_and, Bool.false_and]

theorem whole_solids (s : List Char) (d : Int) : Whole d (solids s) ↔ Whole d s := by
  induction s generalizing d with
  | nil => exact Iff.rfl
  | cons c s ih =>
      cases hc : isBlank c with
      | true =>
          have hcomma : c ≠ ',' := ne_of_isBlank hc (by decide)
          rw [solids_blank hc, whole_cons, depthStep_blank hc, Int.add_zero, ih,
            and_iff_right fun h => hcomma h.1]
      | false => rw [solids_solid hc, whole_cons, whole_cons, ih]

theorem solids_congr {s t : List Char} (h : words s = words t) : solids s = solids t := by
  rw [← flatten_words, ← flatten_words, h]

/-- **Blanks are neither parentheses nor commas.** -/
theorem unbroken_congr {s t : List Char} (h : words s = words t) : Unbroken s ↔ Unbroken t := by
  have hbalanced : ∀ u, Balanced u ↔ Balanced (solids u) := by
    intro u
    rw [← balanced_iff, ← balanced_iff, balanced, balanced, balancedFrom_solids u (Int.le_refl 0)]
  have hiff : ∀ u, Unbroken u ↔ Balanced (solids u) ∧ Whole 0 (solids u) := by
    intro u
    rw [whole_solids, ← hbalanced]
    exact ⟨fun hu => ⟨hu.balanced, hu.whole⟩, fun hu => ⟨hu.1, hu.2⟩⟩
  rw [hiff, hiff, solids_congr h]

/-- **A mark stands within a word.** -/
theorem free_iff_words {a b : Char} (ha : isBlank a = false) (hb : isBlank b = false)
    (s : List Char) : Free a b s ↔ ∀ w ∈ words s, Free a b w := by
  induction s using wordInduction with
  | nil => exact iff_of_true free_nil nofun
  | blank c t hc ih =>
      have hca : c ≠ a := ne_of_isBlank hc ha
      rw [words_blank_cons hc, ← ih, free_cons, and_iff_right fun h => hca h.1]
  | word w t hw hne ht ih =>
      have hapart : ¬ (w.getLast? = some a ∧ t.head? = some b) := by
        intro h
        rw [ht b h.2] at hb
        cases hb
      rw [words_word hw hne ht, List.forall_mem_cons, ← ih, free_append, and_iff_left hapart]

/-! ## 3. Readable expressions -/

/-- **An expression stays readable with other blanks in it.** -/
theorem Item.Readable.respaced {e e' c : List Char} (h : (Item.mk e c).Readable)
    (hr : Respaced e e') : (Item.mk e' c).Readable where
  trimmed := hr.trimmed h.trimmed
  ne_nil := fun hnil => h.ne_nil (hr.eq_nil_iff.mpr hnil)
  unbroken := (unbroken_congr hr.words_eq).mp h.unbroken
  noLine := by
    have hfree := h.noLine
    rw [free_iff_words (by decide) (by decide)] at hfree ⊢
    exact hr.words_eq ▸ hfree
  noBlock := by
    have hfree := h.noBlock
    rw [free_iff_words (by decide) (by decide)] at hfree ⊢
    exact hr.words_eq ▸ hfree
  noSelect := by
    have hselect := h.noSelect
    rw [holdsWord_eq_false_iff, afterWord_eq_none_iff_words solid_select] at hselect ⊢
    exact hr.words_eq ▸ hselect
  noFrom := by
    intro p q hfrom
    obtain ⟨w, hw, hletters⟩ := exists_fromAt_iff_word.mp ⟨p, q, hfrom⟩
    rw [← hr.words_eq] at hw
    obtain ⟨p', q', hfrom'⟩ := exists_fromAt_iff_word.mpr ⟨w, hw, hletters⟩
    exact h.noFrom p' q' hfrom'
  remark_oneLine := h.remark_oneLine

theorem Item.Remarked.respaced {e e' c : List Char} (h : (Item.mk e c).Remarked)
    (hr : Respaced e e') : (Item.mk e' c).Remarked :=
  { h.toReadable.respaced hr with
    remark_trimmed := h.remark_trimmed
    remark_ne_nil := h.remark_ne_nil }

end TableDraft.Select

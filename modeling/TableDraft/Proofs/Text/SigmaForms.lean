import Mathlib.Data.List.Forall2
import TableDraft.Proofs.Text.LowerCase

/-!
# The lower case of a part of a text

Lower case is taken character by character but for the capital sigma, which has a form of its own at
the end of a word. So a part of a text has its own lower case there unless a sigma in it has another
form in the text than in the part alone.

* `lower_parts`: the lower case of a text in three parts, where `lowerWithin` is that of the middle one;
* **`lowerWithin_eq_iff`: the part has its own lower case in the text exactly if every sigma in it keeps
  its form**;
* `hasOpenSigma`: the part has a sigma whose form hangs on what stands around the part, since there is
  no letter between it and one of the ends;
* **`infix_lower_iff`: the lower case of every text around a part holds that of the part exactly if the
  part has no open sigma**.
-/

namespace TableDraft.Text

open Unicode

/-! ## 1. What a sigma meets -/

theorem meetsCased_of_ignored {s : List Char} (h : s.all isCaseIgnorable = true) :
    meetsCased s = false := by
  unfold meetsCased
  rw [List.dropWhile_eq_nil_iff.mpr (List.all_eq_true.mp h)]

/-- A search that steps over all of a text goes on behind it. -/
theorem meetsCased_append_of_ignored {s : List Char} (h : s.all isCaseIgnorable = true) (t : List Char) :
    meetsCased (s ++ t) = meetsCased t := by
  unfold meetsCased
  rw [List.dropWhile_append_of_pos (List.all_eq_true.mp h)]

/-- A search that stops in a text does not see what stands behind it. -/
theorem meetsCased_append {s : List Char} (h : s.all isCaseIgnorable = false) (t : List Char) :
    meetsCased (s ++ t) = meetsCased s := by
  unfold meetsCased
  cases hs : s.dropWhile isCaseIgnorable with
  | nil =>
      rw [List.all_eq_true.mpr (List.dropWhile_eq_nil_iff.mp hs)] at h
      cases h
  | cons c r =>
      rw [List.dropWhile_append, hs]
      rfl

/-- A letter behind a text is met unless something else in the text is. -/
theorem meetsCased_append_letter (s : List Char) :
    meetsCased (s ++ ['x']) = (s.all isCaseIgnorable || meetsCased s) := by
  cases h : s.all isCaseIgnorable with
  | true =>
      rw [meetsCased_append_of_ignored h, Bool.true_or]
      decide
  | false => rw [meetsCased_append h, Bool.false_or]

/-- A full stop behind a text makes no difference. -/
theorem meetsCased_append_stop (s : List Char) : meetsCased (s ++ ['.']) = meetsCased s := by
  cases h : s.all isCaseIgnorable with
  | true =>
      rw [meetsCased_append_of_ignored h, meetsCased_of_ignored h]
      decide
  | false => exact meetsCased_append h _

/-! ## 2. A part of a text -/

/-- The lower case of a part of a text, between what stands before it, in reverse, and after it. -/
def lowerWithin (before after : List Char) : List Char → List Char
  | [] => []
  | c :: s => lowerBetween before c (s ++ after) ++ lowerWithin (c :: before) after s

theorem lowerAfter_append (t : List Char) : ∀ before s : List Char,
    lowerAfter before (s ++ t) = lowerWithin before t s ++ lowerAfter (s.reverse ++ before) t
  | _, [] => rfl
  | before, c :: s => by
      rw [List.cons_append, lowerAfter_cons, lowerAfter_append t (c :: before) s, lowerWithin,
        List.append_assoc, List.reverse_cons, List.append_assoc, List.singleton_append]

/-- The lower case of a text in three parts. -/
theorem lower_parts (p k q : List Char) : lower (p ++ k ++ q) =
    lowerWithin [] (k ++ q) p ++ lowerWithin p.reverse q k ++ lowerAfter (k.reverse ++ p.reverse) q := by
  rw [lower, List.append_assoc p k q, lowerAfter_append, List.append_nil, lowerAfter_append,
    List.append_assoc]

theorem length_lowerBetween (before before' : List Char) (c : Char) (after after' : List Char) :
    (lowerBetween before c after).length = (lowerBetween before' c after').length := by
  unfold lowerBetween
  split <;> rfl

theorem lowerWithin_eq_lowerAfter_iff (p q : List Char) : ∀ before k : List Char,
    lowerWithin (before ++ p) q k = lowerAfter before k ↔
      ∀ u v, k = u ++ 'Σ' :: v →
        lowerSigma (u.reverse ++ before ++ p) (v ++ q) = lowerSigma (u.reverse ++ before) v
  | _, [] => iff_of_true rfl fun _ _ h => absurd h.symm (List.append_ne_nil_of_right_ne_nil _ nofun)
  | before, c :: k => by
      have ih := lowerWithin_eq_lowerAfter_iff p q (c :: before) k
      rw [lowerWithin, lowerAfter_cons]
      constructor
      · intro h u v hk
        obtain ⟨hblock, hrest⟩ := List.append_inj h (length_lowerBetween ..)
        cases u with
        | nil =>
            obtain ⟨rfl, rfl⟩ := List.cons.inj hk
            exact List.singleton_inj.mp hblock
        | cons d u =>
            obtain ⟨rfl, rfl⟩ := List.cons.inj hk
            have hlater := ih.mp hrest u v rfl
            rw [List.reverse_cons, List.append_assoc u.reverse]
            exact hlater
      · intro h
        have hblock : lowerBetween (before ++ p) c (k ++ q) = lowerBetween before c k := by
          by_cases hc : c = 'Σ'
          · subst hc
            exact congrArg (fun x => [x]) (h [] k rfl)
          · have hno : (c == 'Σ') = false := beq_false_of_ne hc
            rw [lowerBetween, lowerBetween, hno]
            rfl
        have hrest : lowerWithin (c :: before ++ p) q k = lowerAfter (c :: before) k := by
          refine ih.mpr fun u v hk => ?_
          have hlater := h (c :: u) v (congrArg (c :: ·) hk)
          rw [List.reverse_cons, List.append_assoc u.reverse] at hlater
          exact hlater
        exact congrArg₂ (· ++ ·) hblock hrest

/-- Every sigma in the middle part has the form in the text that it has in the part alone. -/
def KeepsSigmas (p k q : List Char) : Prop :=
  ∀ u v, k = u ++ 'Σ' :: v → lowerSigma (u.reverse ++ p.reverse) (v ++ q) = lowerSigma u.reverse v

/-- **A part of a text has its own lower case there exactly if every sigma in it keeps its form.** -/
theorem lowerWithin_eq_iff {p k q : List Char} :
    lowerWithin p.reverse q k = lower k ↔ KeepsSigmas p k q := by
  have h := lowerWithin_eq_lowerAfter_iff p.reverse q [] k
  simp only [List.nil_append, List.append_nil] at h
  exact h

/-- The lower case of a part whose sigmas keep their forms stands in that of the text. -/
theorem KeepsSigmas.infix_lower {p k q : List Char} (h : KeepsSigmas p k q) :
    lower k <:+: lower (p ++ k ++ q) := by
  rw [lower_parts, lowerWithin_eq_iff.mpr h]
  exact List.infix_append _ _ _

/-! ## 3. Open sigmas -/

/-- The form of a sigma between the two texts hangs on what stands around them: it would see a letter
before them, or one after them. -/
def openSigma (before after : List Char) : Bool :=
  before.all isCaseIgnorable && !meetsCased after || meetsCased before && after.all isCaseIgnorable

theorem lowerSigma_append {before after : List Char} (h : openSigma before after = false)
    (p q : List Char) : lowerSigma (before ++ p) (after ++ q) = lowerSigma before after := by
  unfold lowerSigma
  cases hbefore : before.all isCaseIgnorable with
  | true =>
      have hmeets : meetsCased after = true := by
        simpa [openSigma, hbefore, meetsCased_of_ignored hbefore] using h
      have hafter : after.all isCaseIgnorable = false := by
        rw [← Bool.not_eq_true]
        intro hall
        rw [meetsCased_of_ignored hall] at hmeets
        cases hmeets
      rw [meetsCased_append hafter, hmeets, Bool.not_true, Bool.and_false, Bool.and_false]
  | false =>
      rw [meetsCased_append hbefore]
      cases hmeets : meetsCased before with
      | false => rfl
      | true =>
          have hafter : after.all isCaseIgnorable = false := by
            simpa [openSigma, hbefore, hmeets] using h
          rw [meetsCased_append hafter]

/-- A text that follows the given characters, which come in reverse, has an open sigma. -/
def openAfter (before : List Char) : List Char → Bool
  | [] => false
  | c :: s => c == 'Σ' && openSigma before s || openAfter (c :: before) s

/-- The text has a sigma whose form hangs on what stands around the text. -/
def hasOpenSigma (s : List Char) : Bool := openAfter [] s

theorem openAfter_iff : ∀ {before s : List Char}, openAfter before s = true ↔
    ∃ u v, s = u ++ 'Σ' :: v ∧ openSigma (u.reverse ++ before) v = true
  | before, [] => by simp [openAfter]
  | before, c :: s => by
      rw [openAfter, Bool.or_eq_true, Bool.and_eq_true, beq_iff_eq, openAfter_iff]
      constructor
      · rintro (⟨rfl, h⟩ | ⟨u, v, rfl, h⟩)
        · exact ⟨[], s, rfl, h⟩
        · refine ⟨c :: u, v, rfl, ?_⟩
          rw [List.reverse_cons, List.append_assoc]
          exact h
      · rintro ⟨u, v, hs, h⟩
        cases u with
        | nil =>
            obtain ⟨rfl, rfl⟩ := List.cons.inj hs
            exact Or.inl ⟨rfl, h⟩
        | cons d u =>
            obtain ⟨rfl, rfl⟩ := List.cons.inj hs
            rw [List.reverse_cons, List.append_assoc] at h
            exact Or.inr ⟨u, v, rfl, h⟩

theorem hasOpenSigma_iff {s : List Char} : hasOpenSigma s = true ↔
    ∃ u v, s = u ++ 'Σ' :: v ∧ openSigma u.reverse v = true := by
  rw [hasOpenSigma, openAfter_iff]
  simp only [List.append_nil]

/-- A text without open sigmas keeps all of them, whatever stands around it. -/
theorem keepsSigmas_of_closed {k : List Char} (h : hasOpenSigma k = false) (p q : List Char) :
    KeepsSigmas p k q := by
  intro u v hk
  refine lowerSigma_append ?_ p.reverse q
  rw [← Bool.not_eq_true]
  intro hopen
  rw [hasOpenSigma_iff.mpr ⟨u, v, hk, hopen⟩] at h
  cases h

/-- A text without capital sigmas has no open one. -/
theorem hasOpenSigma_of_notMem {k : List Char} (h : 'Σ' ∉ k) : hasOpenSigma k = false := by
  rw [← Bool.not_eq_true, hasOpenSigma_iff]
  rintro ⟨u, v, rfl, -⟩
  exact h (List.mem_append_right u List.mem_cons_self)

/-! ## 4. Around an open sigma -/

/-- The second character is the first one, or stands in place of the given one. -/
def Replaces (a x y : Char) : Prop := y = x ∨ x = a ∧ y ≠ a

/-- Replacing some of the characters leaves fewer of them, unless none is replaced. -/
theorem count_of_replaces {a : Char} {l l' : List Char} (h : List.Forall₂ (Replaces a) l l') :
    l' = l ∨ l'.count a < l.count a := by
  have hcount : l'.count a ≤ l.count a ∧ (l' = l ∨ l'.count a < l.count a) := by
    induction h with
    | nil => exact ⟨Nat.le_refl _, Or.inl rfl⟩
    | @cons x y l l' hxy _ ih =>
        obtain ⟨hle, hcases⟩ := ih
        rcases hxy with rfl | ⟨rfl, hy⟩
        · rw [List.count_cons, List.count_cons]
          refine ⟨by omega, ?_⟩
          rcases hcases with rfl | hlt
          · exact Or.inl rfl
          · exact Or.inr (by omega)
        · rw [List.count_cons_self, List.count_cons_of_ne hy]
          omega
  exact hcount.2

theorem forall₂_lowerWithin {R : Char → Char → Prop} (hrefl : ∀ c, R c c) {p q : List Char}
    (hsigma : ∀ before after, R (lowerSigma before after) (lowerSigma (before ++ p) (after ++ q))) :
    ∀ before k : List Char, List.Forall₂ R (lowerAfter before k) (lowerWithin (before ++ p) q k)
  | _, [] => .nil
  | before, c :: k => by
      rw [lowerAfter_cons, lowerWithin]
      refine List.rel_append ?_ (forall₂_lowerWithin hrefl hsigma (c :: before) k)
      unfold lowerBetween
      split
      · exact .cons (hsigma before k) .nil
      · exact List.forall₂_same.mpr fun x _ => hrefl x

/-- A text between two ASCII characters whose lower case is not held by that of the whole: one of the
forms of the sigma is replaced, and the two characters bring none. -/
theorem not_infix_of_replaces {a x y : Char} {k : List Char} (hx : isAscii x = true)
    (hy : isAscii y = true) (ha : isAscii a = false)
    (hsigma : ∀ before after,
      Replaces a (lowerSigma before after) (lowerSigma (before ++ [x]) (after ++ [y])))
    (hchanged : ¬ KeepsSigmas [x] k [y]) : ¬ lower k <:+: lower ([x] ++ k ++ [y]) := by
  have hplain : ∀ {c : Char} (_ : isAscii c = true) (before after : List Char),
      (lowerBetween before c after).count a = 0 := by
    intro c hc before after
    rw [List.count_eq_zero]
    intro hmem
    have hc' : (c == 'Σ') = false := by
      rw [beq_eq_false_iff_ne]
      rintro rfl
      cases hc
    rw [lowerBetween, hc', if_neg Bool.false_ne_true, lowerChar_of_ascii hc, List.mem_singleton] at hmem
    rw [hmem, isAscii_toLower hc] at ha
    cases ha
  have hreplaced := forall₂_lowerWithin (fun c => Or.inl rfl) hsigma [] k
  have hless : (lowerWithin [x] [y] k).count a < (lower k).count a :=
    (count_of_replaces hreplaced).resolve_left fun h => hchanged (lowerWithin_eq_iff.mp h)
  intro hinfix
  have hle := hinfix.sublist.count_le a
  rw [lower_parts, List.count_append, List.count_append, lowerWithin, lowerWithin, lowerAfter_cons,
    lowerAfter, List.append_nil, List.append_nil, hplain hx, hplain hy] at hle
  simp only [List.reverse_singleton] at hle
  omega

/-- An open sigma shows its other form between a letter and a full stop, or the other way round. -/
theorem exists_around_open {k : List Char} (h : hasOpenSigma k = true) :
    ∃ x y : Char, isBlank x = false ∧ isBlank y = false ∧ ¬ lower k <:+: lower ([x] ++ k ++ [y]) := by
  obtain ⟨u, v, rfl, hopen⟩ := hasOpenSigma_iff.mp h
  rw [openSigma, Bool.or_eq_true, Bool.and_eq_true, Bool.and_eq_true, Bool.not_eq_true'] at hopen
  rcases hopen with ⟨hbefore, hafter⟩ | ⟨hbefore, hafter⟩
  · refine ⟨'x', '.', by decide, by decide, not_infix_of_replaces (a := 'σ') rfl rfl rfl ?_ ?_⟩
    · intro before after
      unfold lowerSigma
      rw [meetsCased_append_letter, meetsCased_append_stop]
      cases before.all isCaseIgnorable <;> cases meetsCased before <;> cases meetsCased after <;>
        simp [Replaces]
    · intro hkeeps
      have hform := hkeeps u v rfl
      rw [lowerSigma, lowerSigma, List.reverse_singleton, meetsCased_append_letter,
        meetsCased_append_stop, hbefore, hafter, meetsCased_of_ignored hbefore] at hform
      exact absurd hform (by decide)
  · refine ⟨'.', 'x', by decide, by decide, not_infix_of_replaces (a := 'ς') rfl rfl rfl ?_ ?_⟩
    · intro before after
      unfold lowerSigma
      rw [meetsCased_append_letter, meetsCased_append_stop]
      cases after.all isCaseIgnorable <;> cases meetsCased before <;> cases meetsCased after <;>
        simp [Replaces]
    · intro hkeeps
      have hform := hkeeps u v rfl
      rw [lowerSigma, lowerSigma, List.reverse_singleton, meetsCased_append_letter,
        meetsCased_append_stop, hbefore, hafter, meetsCased_of_ignored hafter] at hform
      exact absurd hform (by decide)

/-- **The lower case of every trimmed text around a part holds that of the part exactly if the part has
no open sigma.** -/
theorem infix_lower_iff {k : List Char} :
    (∀ s, trim s = s → k <:+: s → lower k <:+: lower s) ↔ hasOpenSigma k = false := by
  constructor
  · intro h
    rw [← Bool.not_eq_true]
    intro hopen
    obtain ⟨x, y, hx, hy, hno⟩ := exists_around_open hopen
    refine hno (h _ (trim_eq_self ?_ ?_) (List.infix_append _ _ _))
    · intro c hc
      exact Option.some.inj hc ▸ hx
    · intro c hc
      rw [List.getLast?_concat] at hc
      exact Option.some.inj hc ▸ hy
  · rintro h s - ⟨p, q, rfl⟩
    exact (keepsSigmas_of_closed h p q).infix_lower

end TableDraft.Text

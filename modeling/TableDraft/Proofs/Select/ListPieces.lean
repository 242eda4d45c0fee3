import Mathlib.Data.List.Infix
import TableDraft.Proofs.Text.Trimming
import TableDraft.Select.Pieces

/-!
# The pieces of a list that is put together from parts

* `depthAfter_append`, `depthAfter_eq_add`: depth in parentheses along a text;
* **`balanced_iff`: the running test is the declarative property** `Balanced`, with
  `Balanced.append` and `Balanced.flatMap` to build balanced texts;
* **`cut_append_whole`: a part with no comma at depth zero stays in one piece** with what comes
  before the next comma;
* `pieces_separated`: expressions that are written with commas and blanks between them are the
  pieces of the text;
* `pieces_blank_append`: blanks before a list change no piece.
-/

namespace TableDraft.Select

open Text

/-! ## 1. Depth -/

@[simp] theorem depthAfter_nil (d : Int) : depthAfter d [] = d := rfl

@[simp] theorem depthAfter_cons (d : Int) (c : Char) (s : List Char) :
    depthAfter d (c :: s) = depthAfter (d + depthStep c) s := rfl

@[simp] theorem depthAfter_append (d : Int) (s t : List Char) :
    depthAfter d (s ++ t) = depthAfter (depthAfter d s) t := List.foldl_append

/-- The depth a text starts at is carried through to its end. -/
theorem depthAfter_eq_add : ∀ (d : Int) (s : List Char), depthAfter d s = d + depthAfter 0 s
  | d, [] => by simp
  | d, c :: s => by
      rw [depthAfter_cons, depthAfter_cons, depthAfter_eq_add (d + depthStep c) s,
        depthAfter_eq_add (0 + depthStep c) s]
      omega

/-- Neither parenthesis occurs in the text. -/
def NoParen (s : List Char) : Prop := '(' ∉ s ∧ ')' ∉ s

theorem depthStep_eq_zero {c : Char} (ho : c ≠ '(') (hc : c ≠ ')') : depthStep c = 0 := by
  simp [depthStep, ho, hc]

/-- A blank is no parenthesis. -/
theorem depthStep_blank {c : Char} (hc : isBlank c = true) : depthStep c = 0 :=
  depthStep_eq_zero (ne_of_isBlank hc (by decide)) (ne_of_isBlank hc (by decide))

theorem depthAfter_noParen : ∀ {s : List Char}, NoParen s → ∀ d, depthAfter d s = d
  | [], _, d => rfl
  | c :: s, h, d => by
      obtain ⟨ho, hc⟩ := h
      rw [List.mem_cons, not_or] at ho hc
      rw [depthAfter_cons, depthStep_eq_zero (Ne.symm ho.1) (Ne.symm hc.1), Int.add_zero]
      exact depthAfter_noParen ⟨ho.2, hc.2⟩ d

theorem noParen_of_blank {s : List Char} (hs : isBlankText s = true) : NoParen s :=
  ⟨notMem_of_blank hs (by decide), notMem_of_blank hs (by decide)⟩

/-! ## 2. Balance -/

theorem balancedFrom_iff : ∀ {s : List Char} {d : Int}, 0 ≤ d →
    (balancedFrom d s = true ↔ (∀ p, p <+: s → 0 ≤ depthAfter d p) ∧ depthAfter d s = 0)
  | [], d, hd => by
      simp only [balancedFrom, beq_iff_eq, List.prefix_nil, forall_eq, depthAfter_nil]
      exact ⟨fun h => ⟨hd, h⟩, fun h => h.2⟩
  | c :: s, d, hd => by
      simp only [balancedFrom, Bool.and_eq_true, decide_eq_true_eq, depthAfter_cons]
      constructor
      · rintro ⟨hc, hs⟩
        obtain ⟨hpre, hend⟩ := (balancedFrom_iff hc).mp hs
        refine ⟨fun p hp => ?_, hend⟩
        rcases List.prefix_cons_iff.mp hp with rfl | ⟨q, rfl, hq⟩
        · exact hd
        · exact hpre q hq
      · rintro ⟨hpre, hend⟩
        have hc : 0 ≤ d + depthStep c := hpre [c] ⟨s, rfl⟩
        refine ⟨hc, (balancedFrom_iff hc).mpr ⟨fun q hq => ?_, hend⟩⟩
        exact hpre (c :: q) (List.cons_prefix_cons.mpr ⟨rfl, hq⟩)

/-- **The running test is the declarative property.** -/
theorem balanced_iff {s : List Char} : balanced s = true ↔ Balanced s :=
  balancedFrom_iff (Int.le_refl 0)

instance decidableBalanced (s : List Char) : Decidable (Balanced s) :=
  decidable_of_iff _ balanced_iff

theorem balanced_noParen {s : List Char} (h : NoParen s) : Balanced s := by
  refine ⟨fun p hp => ?_, depthAfter_noParen h 0⟩
  have hnp : NoParen p := ⟨fun hm => h.1 (hp.subset hm), fun hm => h.2 (hp.subset hm)⟩
  exact Int.le_of_eq (depthAfter_noParen hnp 0).symm

theorem Balanced.append {s t : List Char} (hs : Balanced s) (ht : Balanced t) :
    Balanced (s ++ t) := by
  refine ⟨fun p hp => ?_, ?_⟩
  · rcases List.prefix_or_prefix_of_prefix hp (List.prefix_append s t) with h | ⟨q, rfl⟩
    · exact hs.1 p h
    · rw [depthAfter_append, hs.2]
      exact ht.1 q ((List.prefix_append_right_inj s).mp hp)
  · rw [depthAfter_append, hs.2]
    exact ht.2

theorem Balanced.flatMap {α : Type} {f : α → List Char} : ∀ {l : List α},
    (∀ a ∈ l, Balanced (f a)) → Balanced (l.flatMap f)
  | [], _ => balanced_noParen ⟨List.not_mem_nil, List.not_mem_nil⟩
  | a :: l, h => by
      rw [List.flatMap_cons]
      exact (h a List.mem_cons_self).append (.flatMap fun b hb => h b (List.mem_cons_of_mem a hb))

theorem balanced_blank_append {x : List Char} (hx : isBlankText x = true) (s : List Char) :
    balanced (x ++ s) = balanced s := by
  induction x with
  | nil => rfl
  | cons c x ih =>
      rw [isBlankText_cons, Bool.and_eq_true] at hx
      unfold balanced at ih ⊢
      rw [List.cons_append, balancedFrom, depthStep_blank hx.1, Int.add_zero, ih hx.2]
      rfl

/-! ## 3. Cutting at commas -/

theorem cut_ne_nil : ∀ (d : Int) (s : List Char), cut d s ≠ []
  | _, [] => List.cons_ne_nil _ _
  | d, c :: s => by
      unfold cut
      split
      · exact List.cons_ne_nil _ _
      · split <;> exact List.cons_ne_nil _ _

theorem cut_comma (s : List Char) : cut 0 (',' :: s) = [] :: cut 0 s := rfl

theorem cut_cons {d : Int} {c : Char} (h : ¬ (c = ',' ∧ d = 0)) (s : List Char) :
    cut d (c :: s) = (cut (d + depthStep c) s).modifyHead (c :: ·) := by
  have hc : ¬ (c == ',' && d == 0) = true := by
    rw [Bool.and_eq_true, beq_iff_eq, beq_iff_eq]
    exact h
  rw [cut, if_neg hc]
  cases hcut : cut (d + depthStep c) s with
  | nil => exact absurd hcut (cut_ne_nil _ _)
  | cons p ps => rfl

/-- Starting at the depth, the text has no comma at depth zero. -/
def Whole (d : Int) (s : List Char) : Prop :=
  ∀ p q, s = p ++ ',' :: q → depthAfter d p ≠ 0

theorem whole_cons {d : Int} {c : Char} {s : List Char} :
    Whole d (c :: s) ↔ ¬ (c = ',' ∧ d = 0) ∧ Whole (d + depthStep c) s := by
  constructor
  · intro h
    refine ⟨?_, fun p q hs => ?_⟩
    · rintro ⟨rfl, rfl⟩
      exact h [] s rfl rfl
    · exact h (c :: p) q (by rw [hs]; rfl)
  · rintro ⟨hc, hs⟩ p q hpq
    cases p with
    | nil =>
        obtain ⟨rfl, rfl⟩ := List.cons.inj hpq
        exact fun hd => hc ⟨rfl, hd⟩
    | cons b p =>
        obtain ⟨rfl, hs'⟩ := List.cons.inj hpq
        exact hs p q hs'

instance decidableWhole : ∀ (d : Int) (s : List Char), Decidable (Whole d s)
  | _, [] => isTrue fun p q hs => by cases p <;> cases hs
  | d, c :: s =>
      have := decidableWhole (d + depthStep c) s
      decidable_of_iff _ whole_cons.symm

theorem whole_noComma {s : List Char} (h : ',' ∉ s) (d : Int) : Whole d s := by
  rintro p q rfl
  exact absurd (List.mem_append_right p List.mem_cons_self) h

theorem Whole.append {d : Int} {s t : List Char} (hs : Whole d s) (ht : Whole (depthAfter d s) t) :
    Whole d (s ++ t) := by
  intro p q hpq
  rcases List.append_eq_append_iff.mp hpq with ⟨u, rfl, hu⟩ | ⟨u, hs', hu⟩
  · rw [depthAfter_append]
    exact ht u q hu
  · cases u with
    | nil =>
        have hp : s = p := by simpa using hs'
        subst hp
        exact ht [] q (by simpa using hu.symm)
    | cons b u =>
        obtain ⟨rfl, -⟩ := List.cons.inj hu
        exact hs p u hs'

/-- **A part with no comma at depth zero stays in one piece.** -/
theorem cut_append_whole (t : List Char) : ∀ {s : List Char} {d : Int}, Whole d s →
    cut d (s ++ t) = (cut (depthAfter d s) t).modifyHead (s ++ ·)
  | [], d, _ => by
      cases h : cut d t with
      | nil => exact absurd h (cut_ne_nil d t)
      | cons p ps => simp [h]
  | c :: s, d, h => by
      rw [whole_cons] at h
      rw [List.cons_append, cut_cons h.1, cut_append_whole t h.2, depthAfter_cons]
      cases cut (depthAfter (d + depthStep c) s) t with
      | nil => rfl
      | cons p ps => rfl

theorem cut_whole {d : Int} {s : List Char} (h : Whole d s) : cut d s = [s] := by
  have h' := cut_append_whole [] h
  rw [List.append_nil] at h'
  rw [h', cut, List.modifyHead_cons, List.append_nil]

/-! ## 4. Pieces -/

/-- The list is kept when its last member is not empty. -/
theorem dropEmptyLast_eq_self : ∀ {l : List (List Char)}, (∀ p ∈ l.getLast?, p ≠ []) →
    dropEmptyLast l = l
  | [], _ => rfl
  | [p], h => by
      have hp : p.isEmpty = false := by
        rw [List.isEmpty_eq_false_iff]
        exact h p rfl
      rw [dropEmptyLast, hp]
      rfl
  | p :: q :: l, h => by
      rw [dropEmptyLast, dropEmptyLast_eq_self (l := q :: l) fun r hr => h r hr]

theorem cut_blank_append {x : List Char} (hx : isBlankText x = true) (s : List Char) :
    cut 0 (x ++ s) = (cut 0 s).modifyHead (x ++ ·) := by
  have hcomma : ',' ∉ x := notMem_of_blank hx (by decide)
  rw [cut_append_whole s (whole_noComma hcomma 0), depthAfter_noParen (noParen_of_blank hx)]

/-- **Blanks before a list change no piece.** -/
theorem pieces_blank_append {x : List Char} (hx : isBlankText x = true) (s : List Char) :
    pieces (x ++ s) = pieces s := by
  unfold pieces
  rw [cut_blank_append hx]
  cases h : cut 0 s with
  | nil => exact absurd h (cut_ne_nil 0 s)
  | cons p ps => rw [List.modifyHead_cons, List.map_cons, List.map_cons, trim_blank_append hx]

theorem pieces_of_blank {s : List Char} (hs : isBlankText s = true) : pieces s = [] := by
  have h := pieces_blank_append hs []
  rw [List.append_nil] at h
  exact h

/-- One expression of a list: balanced, and in one piece. -/
structure Unbroken (e : List Char) : Prop where
  balanced : Balanced e
  whole : Whole 0 e

/-- Expressions written one after another, with blanks and a comma between them. -/
def separated (before after : List Char) (e : List Char) (es : List (List Char)) : List Char :=
  e ++ before ++ es.flatMap fun f => after ++ ',' :: (f ++ before)

section Separated

variable {before after : List Char} (hb : isBlankText before = true)
  (ha : isBlankText after = true)
include hb ha

theorem cut_separated : ∀ {e : List Char} {es : List (List Char)}, Unbroken e →
    (∀ f ∈ es, Unbroken f) →
    (cut 0 (separated before after e es)).map trim = trim e :: es.map trim
  | e, [], he, _ => by
      have hcomma : ',' ∉ before := notMem_of_blank hb (by decide)
      have hw : Whole 0 (e ++ before) := he.whole.append (whole_noComma hcomma _)
      simp only [separated, List.flatMap_nil, List.append_nil]
      rw [cut_whole hw, List.map_cons, trim_append_blank hb, List.map_nil]
  | e, f :: es, he, hes => by
      have ih := cut_separated (hes f List.mem_cons_self)
        fun g hg => hes g (List.mem_cons_of_mem f hg)
      have hblank : isBlankText (before ++ after) = true := by
        rw [isBlankText_append, hb, ha]
        rfl
      have hcomma : ',' ∉ before ++ after := notMem_of_blank hblank (by decide)
      have hw : Whole 0 (e ++ (before ++ after)) := he.whole.append (whole_noComma hcomma _)
      have hdepth : depthAfter 0 (e ++ (before ++ after)) = 0 := by
        rw [depthAfter_append, he.balanced.2, depthAfter_noParen (noParen_of_blank hblank)]
      have hsplit : separated before after e (f :: es) =
          (e ++ (before ++ after)) ++ ',' :: separated before after f es := by
        simp [separated]
      rw [hsplit, cut_append_whole _ hw, hdepth, cut_comma, List.modifyHead_cons, List.map_cons,
        List.append_nil, trim_append_blank hblank, ih, List.map_cons]

/-- **Expressions written with commas and blanks between them are the pieces of the text.** -/
theorem pieces_separated {e : List Char} {es : List (List Char)}
    (h : ∀ f ∈ e :: es, Unbroken f ∧ trim f = f ∧ f ≠ []) :
    pieces (separated before after e es) = e :: es := by
  have hmap : (e :: es).map trim = e :: es := by
    conv_rhs => rw [← List.map_id (e :: es)]
    exact List.map_congr_left fun f hf => (h f hf).2.1
  have hcut := cut_separated hb ha (h e List.mem_cons_self).1
    fun f hf => (h f (List.mem_cons_of_mem e hf)).1
  rw [← List.map_cons, hmap] at hcut
  rw [pieces, hcut]
  exact dropEmptyLast_eq_self fun f hf => (h f (List.mem_of_getLast? hf)).2.2

theorem balanced_separated {e : List Char} {es : List (List Char)}
    (h : ∀ f ∈ e :: es, Balanced f) : Balanced (separated before after e es) := by
  have hbal : ∀ x, isBlankText x = true → Balanced x :=
    fun x hx => balanced_noParen (noParen_of_blank hx)
  have hcomma : Balanced [','] := by decide
  refine ((h e List.mem_cons_self).append (hbal _ hb)).append (.flatMap fun f hf => ?_)
  rw [← List.singleton_append]
  exact (hbal _ ha).append (hcomma.append ((h f (List.mem_cons_of_mem e hf)).append (hbal _ hb)))

end Separated

end TableDraft.Select

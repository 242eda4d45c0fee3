import Mathlib.Logic.Function.Iterate
import Mathlib.Order.Basic
import TableDraft.Pattern.Basic

/-!
# The places that a pattern runs between

A pattern is a relation between the places of a text (`Runs`): it can run from one place to another.
Search moves a whole set of places at once, kept as one mark for each place. Here the two are brought
together:

* `Follows`: a step on marks marks the places that a relation leads to from the marked ones. Such steps
  compose (`Follows.seq`), unite (`Follows.union`), and go on round by round (`Follows.times`,
  `Follows.grow`);
* **growing ends by itself**: after as many rounds as there are unmarked places another one adds none
  (`widen_grow`), so that rounds for all places stand for any number of them (`Follows.growAll`);
* **`reach_follows`: search marks exactly the places that the pattern runs to**, by one case for each
  form of a pattern;
* `occursIn_iff`: a pattern occurs in a text if it runs from some place of it.
-/

namespace TableDraft.Pattern

/-! ## 1. From place to place -/

/-- So many steps of a relation lead from one place to another. -/
def Steps (r : Nat → Nat → Prop) : Nat → Nat → Nat → Prop
  | 0, i, j => i = j
  | n + 1, i, k => ∃ j, r i j ∧ Steps r n j k

/-- The character before a place of a text that follows the given character. -/
def before? (first : Option Char) (text : List Char) : Nat → Option Char
  | 0 => first
  | i + 1 => text[i]?

/-- The pattern can run from one place of the text to another. -/
def Runs (text : List Char) : Pattern → Nat → Nat → Prop
  | empty, i, j => i = j
  | one s, i, j => j = i + 1 ∧ ∃ c, text[i]? = some c ∧ s.mem c = true
  | anchor a, i, j => i = j ∧ a.holds (before? none text i) text[i]? = true
  | seq p q, i, k => ∃ j, Runs text p i j ∧ Runs text q j k
  | alt p q, i, j => Runs text p i j ∨ Runs text q i j
  | repeated p least most, i, j =>
    ∃ more, (∀ m ∈ most, more ≤ m - least) ∧ Steps (Runs text p) (least + more) i j

section Steps

variable {r : Nat → Nat → Prop}

theorem steps_add : ∀ {m n i k : Nat},
    Steps r (m + n) i k ↔ ∃ j, Steps r m i j ∧ Steps r n j k
  | 0, n, i, k => by simp [Steps]
  | m + 1, n, i, k => by
      rw [Nat.succ_add, Steps]
      simp only [steps_add (m := m), Steps]
      constructor
      · rintro ⟨a, hr, b, hm, hn⟩
        exact ⟨b, ⟨a, hr, hm⟩, hn⟩
      · rintro ⟨b, ⟨a, hr, hm⟩, hn⟩
        exact ⟨a, hr, b, hm, hn⟩

/-- Steps that may also stay are at most so many steps. -/
theorem steps_stay_iff : ∀ {n i k : Nat},
    Steps (fun i j => i = j ∨ r i j) n i k ↔ ∃ m ≤ n, Steps r m i k
  | 0, i, k => by simp [Steps]
  | n + 1, i, k => by
      simp only [Steps, steps_stay_iff (n := n)]
      constructor
      · rintro ⟨j, hj, m, hm, hs⟩
        rcases hj with rfl | hr
        · exact ⟨m, Nat.le_succ_of_le hm, hs⟩
        · exact ⟨m + 1, Nat.succ_le_succ hm, j, hr, hs⟩
      · rintro ⟨m, hm, hs⟩
        cases m with
        | zero => exact ⟨i, Or.inl rfl, 0, n.zero_le, hs⟩
        | succ m =>
            obtain ⟨j, hr, hs⟩ := hs
            exact ⟨j, Or.inr hr, m, Nat.le_of_succ_le_succ hm, hs⟩

end Steps

/-! ## 2. Steps on marks -/

/-- The place is marked. -/
def Marked (marks : List Bool) (i : Nat) : Prop := marks[i]? = some true

/-- On marks for so many places, the step marks the places that the relation leads to from marked
ones. -/
structure Follows (places : Nat) (step : List Bool → List Bool) (r : Nat → Nat → Prop) : Prop where
  length : ∀ {marks}, marks.length = places → (step marks).length = places
  marked : ∀ {marks}, marks.length = places → ∀ j,
    Marked (step marks) j ↔ ∃ i, Marked marks i ∧ r i j

/-- The marks and those that a step leads to. -/
def widen (step : List Bool → List Bool) (marks : List Bool) : List Bool :=
  List.zipWith (· || ·) marks (step marks)

/-- A mark of two united sets is a mark of one of them. -/
theorem marked_zipWith {a b : List Bool} (h : a.length = b.length) (j : Nat) :
    Marked (List.zipWith (· || ·) a b) j ↔ Marked a j ∨ Marked b j := by
  unfold Marked
  rw [List.getElem?_zipWith]
  by_cases hj : j < a.length
  · have hb : j < b.length := h ▸ hj
    rw [List.getElem?_eq_getElem hj, List.getElem?_eq_getElem hb]
    simp
  · have hb : ¬ j < b.length := h ▸ hj
    rw [List.getElem?_eq_none (Nat.le_of_not_lt hj), List.getElem?_eq_none (Nat.le_of_not_lt hb)]
    simp

/-- Stopping at a round that changes nothing leaves out rounds that would change nothing either. -/
theorem times_eq_iterate (step : List Bool → List Bool) : ∀ (n : Nat) (marks : List Bool),
    times step n marks = step^[n] marks
  | 0, _ => rfl
  | n + 1, marks => by
      rw [times, Function.iterate_succ_apply]
      by_cases h : step marks = marks
      · rw [if_pos (beq_iff_eq.mpr h), h, Function.iterate_fixed h]
      · rw [if_neg (by simpa using h), times_eq_iterate step n]

theorem grow_eq_iterate (step : List Bool → List Bool) : ∀ (n : Nat) (marks : List Bool),
    grow step n marks = (widen step)^[n] marks
  | 0, _ => rfl
  | n + 1, marks => by
      rw [grow, Function.iterate_succ_apply, ← widen]
      by_cases h : widen step marks = marks
      · rw [if_pos (beq_iff_eq.mpr h), h, Function.iterate_fixed h]
      · rw [if_neg (by simpa using h), grow_eq_iterate step n]

namespace Follows

variable {places : Nat} {step step' : List Bool → List Bool} {r r' : Nat → Nat → Prop}

theorem congr (h : Follows places step r) (hr : ∀ i j, r i j ↔ r' i j) : Follows places step r' :=
  ⟨h.length, fun hm j => by simp only [h.marked hm, hr]⟩

theorem of_eq (h : Follows places step r)
    (heq : ∀ marks, marks.length = places → step' marks = step marks) : Follows places step' r :=
  ⟨fun hm => heq _ hm ▸ h.length hm, fun hm j => heq _ hm ▸ h.marked hm j⟩

theorem stay : Follows places id (fun i j => i = j) := ⟨id, fun _ j => by simp⟩

theorem seq (h : Follows places step r) (h' : Follows places step' r') :
    Follows places (fun marks => step' (step marks)) (fun i k => ∃ j, r i j ∧ r' j k) := by
  refine ⟨fun hm => h'.length (h.length hm), fun hm k => ?_⟩
  simp only [h'.marked (h.length hm), h.marked hm]
  constructor
  · rintro ⟨j, ⟨i, hi, hr⟩, hr'⟩
    exact ⟨i, hi, j, hr, hr'⟩
  · rintro ⟨i, hi, j, hr, hr'⟩
    exact ⟨j, ⟨i, hi, hr⟩, hr'⟩

theorem union (h : Follows places step r) (h' : Follows places step' r') :
    Follows places (fun marks => List.zipWith (· || ·) (step marks) (step' marks))
      (fun i j => r i j ∨ r' i j) := by
  refine ⟨fun hm => by rw [List.length_zipWith, h.length hm, h'.length hm, Nat.min_self],
    fun hm j => ?_⟩
  rw [marked_zipWith ((h.length hm).trans (h'.length hm).symm), h.marked hm, h'.marked hm,
    ← exists_or]
  simp only [← and_or_left]

theorem widen (h : Follows places step r) :
    Follows places (widen step) (fun i j => i = j ∨ r i j) := stay.union h

theorem iterate (h : Follows places step r) : ∀ n, Follows places (step^[n]) (Steps r n)
  | 0 => stay
  | n + 1 => h.seq (h.iterate n)

theorem times (h : Follows places step r) (n : Nat) : Follows places (times step n) (Steps r n) := by
  rw [funext (times_eq_iterate step n)]
  exact h.iterate n

theorem grow (h : Follows places step r) (n : Nat) :
    Follows places (grow step n) (fun i j => ∃ m ≤ n, Steps r m i j) := by
  rw [funext (grow_eq_iterate step n)]
  exact (h.widen.iterate n).congr fun i j => steps_stay_iff

end Follows

/-! ## 3. Growing ends -/

/-- Uniting marks with others changes nothing, or leaves fewer places unmarked. -/
theorem count_zipWith : ∀ {a b : List Bool}, a.length = b.length →
    List.zipWith (· || ·) a b = a ∨ (List.zipWith (· || ·) a b).count false < a.count false
  | [], [], _ => Or.inl rfl
  | m :: a, n :: b, h => by
      have ih := count_zipWith (a := a) (b := b) (Nat.succ.inj h)
      have hle : (List.zipWith (· || ·) a b).count false ≤ a.count false := by
        rcases ih with heq | hlt
        · exact Nat.le_of_eq (congrArg (List.count false) heq)
        · exact Nat.le_of_lt hlt
      rcases ih with heq | hlt
      · cases m <;> cases n <;> simp [heq]
      · cases m <;> cases n <;> simp <;> omega

section Growing

variable {places : Nat} {step : List Bool → List Bool} {r : Nat → Nat → Prop}
  (h : Follows places step r)
include h

/-- **After as many rounds as there are unmarked places another round adds none.** -/
theorem widen_grow : ∀ {n : Nat} {marks : List Bool}, marks.length = places →
    marks.count false ≤ n → widen step (grow step n marks) = grow step n marks
  | 0, marks, hm, hn => by
      refine (count_zipWith (hm.trans (h.length hm).symm)).resolve_right fun hlt => ?_
      omega
  | n + 1, marks, hm, hn => by
      rw [grow, ← widen]
      by_cases heq : widen step marks = marks
      · rw [if_pos (beq_iff_eq.mpr heq), heq]
      · rw [if_neg (by simpa using heq)]
        have hlt := (count_zipWith (hm.trans (h.length hm).symm)).resolve_left heq
        refine widen_grow (h.widen.length hm) ?_
        unfold widen
        omega

/-- Marks that a round adds nothing to are closed under the steps of the relation. -/
theorem marked_of_steps {marks : List Bool} (hm : marks.length = places)
    (hfix : widen step marks = marks) {j : Nat} : ∀ {m i : Nat},
    Marked marks i → Steps r m i j → Marked marks j
  | 0, _, hi, hs => hs ▸ hi
  | m + 1, i, hi, hs => by
      obtain ⟨k, hr, hs⟩ := hs
      refine marked_of_steps hm hfix ?_ hs
      rw [← hfix]
      exact (h.widen.marked hm k).mpr ⟨i, hi, Or.inr hr⟩

/-- Rounds for all places stand for any number of rounds. -/
theorem Follows.growAll :
    Follows places (Pattern.grow step places) (fun i j => ∃ m, Steps r m i j) := by
  have hgrow := h.grow places
  refine ⟨hgrow.length, fun {marks} hm j => ⟨fun hj => ?_, ?_⟩⟩
  · obtain ⟨i, hi, m, -, hs⟩ := (hgrow.marked hm j).mp hj
    exact ⟨i, hi, m, hs⟩
  · rintro ⟨i, hi, m, hs⟩
    have hfix := widen_grow h hm (n := places) (hm ▸ List.count_le_length)
    have hkept : Marked (Pattern.grow step places marks) i :=
      (hgrow.marked hm i).mpr ⟨i, hi, 0, Nat.zero_le _, rfl⟩
    exact marked_of_steps h (hgrow.length hm) hfix hkept hs

end Growing

/-! ## 4. Search -/

theorem length_neighbours : ∀ (first : Option Char) (text : List Char),
    (neighbours first text).length = text.length + 1
  | _, [] => rfl
  | _, c :: text => by rw [neighbours, List.length_cons, length_neighbours, List.length_cons]

/-- The neighbours of a place are the character before it and the one after it. -/
theorem getElem?_neighbours : ∀ (first : Option Char) (text : List Char) (i : Nat),
    (neighbours first text)[i]? =
      if i ≤ text.length then some (before? first text i, text[i]?) else none
  | _, [], 0 => rfl
  | _, [], i + 1 => rfl
  | _, c :: text, 0 => rfl
  | first, c :: text, i + 1 => by
      rw [neighbours, List.getElem?_cons_succ, getElem?_neighbours (some c) text i]
      cases i <;> simp [before?]

/-- **Search marks the places that the pattern runs to.** -/
theorem reach_follows (text : List Char) : ∀ p : Pattern,
    Follows (text.length + 1) (reach text p) (Runs text p)
  | empty => Follows.stay
  | one s => by
      refine ⟨fun hm => by simp [reach, hm], fun {marks} hm j => ?_⟩
      cases j with
      | zero => simp [Marked, reach, Runs]
      | succ j =>
          simp only [Marked, reach, Runs, List.getElem?_cons_succ, List.getElem?_zipWith_eq_some]
          constructor
          · rintro ⟨m, c, hj, hc, hmem⟩
            obtain ⟨rfl, hs⟩ := Bool.and_eq_true_iff.mp hmem
            exact ⟨j, hj, rfl, c, hc, hs⟩
          · rintro ⟨i, hi, hij, c, hc, hs⟩
            obtain rfl := Nat.succ.inj hij
            exact ⟨true, c, hi, hc, hs⟩
  | anchor a => by
      refine ⟨fun hm => by simp [reach, hm, length_neighbours], fun {marks} hm j => ?_⟩
      simp only [Marked, reach, Runs, List.getElem?_zipWith_eq_some, getElem?_neighbours]
      constructor
      · rintro ⟨m, ⟨b, d⟩, hj, hn, hholds⟩
        obtain ⟨rfl, ha⟩ := Bool.and_eq_true_iff.mp hholds
        split at hn
        · cases hn
          exact ⟨j, hj, rfl, ha⟩
        · cases hn
      · rintro ⟨i, hi, rfl, ha⟩
        have hle : i ≤ text.length := by
          have hlt := (List.getElem?_eq_some_iff.mp hi).1
          omega
        exact ⟨true, _, hi, if_pos hle, ha⟩
  | seq p q => (reach_follows text p).seq (reach_follows text q)
  | alt p q => (reach_follows text p).union (reach_follows text q)
  | repeated p least most => by
      have hp := reach_follows text p
      have hstart := hp.times least
      cases most with
      | none =>
          refine ((hstart.seq hp.growAll).congr fun i j => ?_).of_eq fun marks hm => by
            simp only [reach, hm]
          simp only [Runs, steps_add]
          constructor
          · rintro ⟨k, hk, m, hs⟩
            exact ⟨m, fun _ h => (Option.not_mem_none _ h).elim, k, hk, hs⟩
          · rintro ⟨m, _, k, hk, hs⟩
            exact ⟨k, hk, m, hs⟩
      | some most =>
          refine (hstart.seq (hp.grow (most - least))).congr fun i j => ?_
          simp only [Runs, steps_add]
          constructor
          · rintro ⟨k, hk, m, hm, hs⟩
            exact ⟨m, fun n hn => Option.mem_some.mp hn ▸ hm, k, hk, hs⟩
          · rintro ⟨m, hm, k, hk, hs⟩
            exact ⟨k, hk, m, hm most rfl, hs⟩

/-- The pattern runs from some place of the text. -/
def Occurs (text : List Char) (p : Pattern) : Prop := ∃ i j, i ≤ text.length ∧ Runs text p i j

/-- **A pattern is found in a text exactly if it occurs there.** -/
theorem occursIn_iff {p : Pattern} {text : List Char} : p.occursIn text = true ↔ Occurs text p := by
  have hall : (List.replicate (text.length + 1) true).length = text.length + 1 :=
    List.length_replicate
  have hmarked : ∀ i, Marked (List.replicate (text.length + 1) true) i ↔ i ≤ text.length := by
    intro i
    rw [Marked, List.getElem?_replicate, ← Nat.lt_succ_iff]
    simp
  have hany : p.occursIn text = true ↔
      ∃ j, Marked (p.reach text (List.replicate (text.length + 1) true)) j := by
    simp [occursIn, Marked, ← List.mem_iff_getElem?]
  simp only [hany, (reach_follows text p).marked hall, hmarked]
  exact exists_comm.trans Iff.rfl

end TableDraft.Pattern

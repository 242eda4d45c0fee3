import Mathlib.Data.List.DropRight
import Mathlib.Data.List.TakeWhile
import TableDraft.Text.Blank
import TableDraft.Unicode.Property

/-!
# What trimming takes away

The laws of `trimStart`, `trimEnd` and `trim` that the proofs about query text rest on:

* a blank text goes and a text with something in it stays, at either end (`trimStart_append`,
  `trimEnd_append`);
* **every text is its trimmed text between two blank ones** (`exists_trim`), and blanks put around
  a text do not show after trimming (`trim_between`);
* a text whose first and last characters are no blanks is trimmed already (`trim_eq_self`), and
  every trimmed text is of that kind (`head_of_trim`, `last_of_trim`);
* no blank is a word character (`isWord_of_isBlank`).
-/

namespace TableDraft.Text

open Unicode

/-! ## 1. Blank texts -/

theorem isBlankText_iff {s : List Char} : isBlankText s = true ↔ ∀ c ∈ s, isBlank c = true :=
  List.all_eq_true

@[simp] theorem isBlankText_nil : isBlankText [] = true := rfl

@[simp] theorem isBlankText_cons (c : Char) (s : List Char) :
    isBlankText (c :: s) = (isBlank c && isBlankText s) := rfl

@[simp] theorem isBlankText_append (s t : List Char) :
    isBlankText (s ++ t) = (isBlankText s && isBlankText t) := List.all_append

theorem isBlankText_of_subset {s t : List Char} (h : s ⊆ t) (ht : isBlankText t = true) :
    isBlankText s = true :=
  isBlankText_iff.mpr fun c hc => isBlankText_iff.mp ht c (h hc)

theorem ne_of_isBlank {c k : Char} (hc : isBlank c = true) (hk : isBlank k = false) : c ≠ k := by
  rintro rfl
  rw [hc] at hk
  cases hk

/-- A blank text holds no other characters. -/
theorem notMem_of_blank {k : Char} {s : List Char} (hs : isBlankText s = true)
    (hk : isBlank k = false) : k ∉ s :=
  fun h => ne_of_isBlank (isBlankText_iff.mp hs k h) hk rfl

/-- The code points of the blanks. -/
def blankPoints : List Nat :=
  [9, 10, 11, 12, 13, 32, 0x85, 0xA0, 0x1680, 0x2000, 0x2001, 0x2002, 0x2003, 0x2004, 0x2005, 0x2006,
   0x2007, 0x2008, 0x2009, 0x200A, 0x2028, 0x2029, 0x202F, 0x205F, 0x3000]

theorem toNat_mem_blankPoints {c : Char} (h : isBlank c = true) : c.toNat ∈ blankPoints := by
  simp only [isBlank, Bool.or_eq_true, Bool.and_eq_true, decide_eq_true_eq, beq_iff_eq] at h
  simp only [blankPoints, List.mem_cons, List.not_mem_nil, or_false]
  omega

/-- A fact about the finitely many blanks is a fact about every blank. -/
theorem forall_blank (p : Char → Prop) (hp : ∀ n ∈ blankPoints, p (Char.ofNat n)) {c : Char}
    (h : isBlank c = true) : p c := by
  have hc := hp c.toNat (toNat_mem_blankPoints h)
  rwa [Char.ofNat_toNat] at hc

/-- **No blank is a word character.** -/
theorem isWord_of_isBlank {c : Char} (h : isBlank c = true) : isWord c = false := by
  have hp : ∀ n ∈ blankPoints, isWord (Char.ofNat n) = false := by decide +kernel
  exact forall_blank (isWord · = false) hp h

/-! ## 2. One end -/

theorem trimStart_append {s : List Char} (hs : isBlankText s = false) (t : List Char) :
    trimStart (s ++ t) = trimStart s ++ t := by
  unfold trimStart
  rw [List.dropWhile_append, if_neg]
  rw [List.isEmpty_iff, List.dropWhile_eq_nil_iff, ← isBlankText_iff, hs]
  exact Bool.false_ne_true

theorem trimStart_blank_append {s : List Char} (hs : isBlankText s = true) (t : List Char) :
    trimStart (s ++ t) = trimStart t :=
  List.dropWhile_append_of_pos (isBlankText_iff.mp hs)

theorem trimStart_of_blank {s : List Char} (hs : isBlankText s = true) : trimStart s = [] :=
  List.dropWhile_eq_nil_iff.mpr (isBlankText_iff.mp hs)

theorem trimStart_cons {c : Char} (hc : isBlank c = false) (s : List Char) :
    trimStart (c :: s) = c :: s := by
  unfold trimStart
  rw [List.dropWhile_cons, hc]
  rfl

theorem trimEnd_append {t : List Char} (ht : isBlankText t = false) (s : List Char) :
    trimEnd (s ++ t) = s ++ trimEnd t := by
  unfold trimEnd
  rw [List.reverse_append, List.dropWhile_append, if_neg, List.reverse_append, List.reverse_reverse]
  rw [List.isEmpty_iff, List.dropWhile_eq_nil_iff]
  intro h
  have hb : isBlankText t = true := isBlankText_iff.mpr fun c hc => h c (List.mem_reverse.mpr hc)
  rw [ht] at hb
  exact Bool.false_ne_true hb

theorem trimEnd_append_blank {t : List Char} (ht : isBlankText t = true) (s : List Char) :
    trimEnd (s ++ t) = trimEnd s := by
  unfold trimEnd
  rw [List.reverse_append, List.dropWhile_append_of_pos]
  intro c hc
  exact isBlankText_iff.mp ht c (List.mem_reverse.mp hc)

theorem trimEnd_of_blank {s : List Char} (hs : isBlankText s = true) : trimEnd s = [] :=
  trimEnd_append_blank hs []

theorem trimEnd_cons {c : Char} (hc : isBlank c = false) (s : List Char) :
    trimEnd (c :: s) = c :: trimEnd s := by
  cases hs : isBlankText s with
  | false => exact trimEnd_append hs [c]
  | true =>
      have h := trimEnd_append_blank hs [c]
      rw [trimEnd_of_blank hs, ← List.singleton_append, h]
      unfold trimEnd
      simp [hc]

theorem trimEnd_isPrefix (s : List Char) : trimEnd s <+: s := List.rdropWhile_prefix isBlank s

theorem trimEnd_trimEnd (s : List Char) : trimEnd (trimEnd s) = trimEnd s :=
  List.rdropWhile_idempotent isBlank s

theorem trimEnd_trim (s : List Char) : trimEnd (trim s) = trim s := trimEnd_trimEnd _

theorem head_trimEnd {c : Char} {s : List Char} : ∀ d ∈ (trimEnd (c :: s)).head?, c = d := by
  intro d hd
  obtain ⟨t, ht⟩ := trimEnd_isPrefix (c :: s)
  have hhead : (c :: s).head? = some d := by
    rw [← ht, List.head?_append, Option.mem_def.mp hd]
    rfl
  exact Option.some.inj hhead

theorem trimStart_isSuffix (s : List Char) : trimStart s <:+ s := List.dropWhile_suffix isBlank

/-- What trimming the start takes away is blank. -/
theorem exists_trimStart (s : List Char) : ∃ x, isBlankText x = true ∧ s = x ++ trimStart s :=
  ⟨s.takeWhile isBlank, isBlankText_iff.mpr fun _ hc => List.mem_takeWhile_imp hc,
    List.takeWhile_append_dropWhile.symm⟩

/-- What trimming the end takes away is blank. -/
theorem exists_trimEnd (s : List Char) : ∃ y, isBlankText y = true ∧ s = trimEnd s ++ y := by
  obtain ⟨x, hx, h⟩ := exists_trimStart s.reverse
  refine ⟨x.reverse, ?_, ?_⟩
  · rw [isBlankText_iff] at hx ⊢
    exact fun c hc => hx c (List.mem_reverse.mp hc)
  · have h' := congrArg List.reverse h
    rw [List.reverse_reverse, List.reverse_append] at h'
    exact h'

/-! ## 3. Both ends -/

theorem trim_eq_nil_iff {s : List Char} : trim s = [] ↔ isBlankText s = true := by
  constructor
  · intro h
    obtain ⟨x, hx, hs⟩ := exists_trimStart s
    obtain ⟨y, hy, ht⟩ := exists_trimEnd (trimStart s)
    have hy' : trimStart s = y := by
      rw [show trimEnd (trimStart s) = [] from h] at ht
      exact ht
    rw [hs, hy', isBlankText_append, hx, hy]
    rfl
  · intro h
    unfold trim
    rw [trimStart_of_blank h]
    rfl

theorem trim_of_blank {s : List Char} (hs : isBlankText s = true) : trim s = [] :=
  trim_eq_nil_iff.mpr hs

/-- **A text is its trimmed text between two blank ones.** -/
theorem exists_trim (s : List Char) :
    ∃ x y, isBlankText x = true ∧ isBlankText y = true ∧ s = x ++ trim s ++ y := by
  obtain ⟨x, hx, hs⟩ := exists_trimStart s
  obtain ⟨y, hy, ht⟩ := exists_trimEnd (trimStart s)
  refine ⟨x, y, hx, hy, ?_⟩
  rw [List.append_assoc]
  exact hs.trans (congrArg (x ++ ·) ht)

theorem trim_sublist (s : List Char) : (trim s).Sublist s :=
  (trimEnd_isPrefix _).sublist.trans (trimStart_isSuffix s).sublist

/-- A character that is no blank survives trimming. -/
theorem mem_trim {c : Char} {s : List Char} (hm : c ∈ s) (hc : isBlank c = false) : c ∈ trim s := by
  obtain ⟨x, y, hx, hy, hs⟩ := exists_trim s
  have hno : ∀ {t : List Char}, isBlankText t = true → c ∉ t := by
    intro t ht hmem
    rw [isBlankText_iff.mp ht c hmem] at hc
    cases hc
  rw [hs] at hm
  rcases List.mem_append.mp hm with hm | hm
  · exact (List.mem_append.mp hm).resolve_left (hno hx)
  · exact absurd hm (hno hy)

theorem trim_blank_append {x : List Char} (hx : isBlankText x = true) (s : List Char) :
    trim (x ++ s) = trim s := by
  unfold trim
  rw [trimStart_blank_append hx]

theorem trim_append_blank {y : List Char} (hy : isBlankText y = true) (s : List Char) :
    trim (s ++ y) = trim s := by
  cases hs : isBlankText s with
  | true => rw [trim_blank_append hs, trim_of_blank hy, trim_of_blank hs]
  | false =>
      unfold trim
      rw [trimStart_append hs, trimEnd_append_blank hy]

/-- **Blanks around a text do not show after trimming.** -/
theorem trim_between {x y : List Char} (hx : isBlankText x = true) (hy : isBlankText y = true)
    (s : List Char) : trim (x ++ s ++ y) = trim s := by
  rw [trim_append_blank hy, trim_blank_append hx]

/-- A text is trimmed when its first and its last character are no blanks. -/
theorem trim_eq_self {s : List Char} (hh : ∀ c ∈ s.head?, isBlank c = false)
    (hl : ∀ c ∈ s.getLast?, isBlank c = false) : trim s = s := by
  have hstart : trimStart s = s := by
    cases s with
    | nil => rfl
    | cons c r => exact trimStart_cons (hh c rfl) r
  unfold trim
  rw [hstart]
  refine List.rdropWhile_eq_self_iff.mpr fun hne => ?_
  rw [hl _ (List.getLast?_eq_some_getLast hne)]
  exact Bool.false_ne_true

/-- A text that neither starts nor ends in a blank stays whole before whatever comes after it. -/
theorem trim_append {s : List Char} (hne : s ≠ []) (hh : ∀ c ∈ s.head?, isBlank c = false)
    (hl : ∀ c ∈ s.getLast?, isBlank c = false) (t : List Char) : trim (s ++ t) = s ++ trimEnd t := by
  have hstart : trimStart (s ++ t) = s ++ t := by
    cases s with
    | nil => exact absurd rfl hne
    | cons c r => exact trimStart_cons (hh c rfl) (r ++ t)
  unfold trim
  rw [hstart]
  cases ht : isBlankText t with
  | false => exact trimEnd_append ht s
  | true =>
      have hs := trim_eq_self hh hl
      rw [trimEnd_append_blank ht, trimEnd_of_blank ht, List.append_nil]
      unfold trim at hs
      cases s with
      | nil => exact absurd rfl hne
      | cons c r =>
          rw [trimStart_cons (hh c rfl)] at hs
          exact hs

theorem head_of_dropWhile {p : Char → Bool} {s : List Char} :
    ∀ c ∈ (s.dropWhile p).head?, p c = false := by
  intro c hc
  have hdrop := List.head?_dropWhile_not p s
  rw [Option.mem_def.mp hc] at hdrop
  simpa using hdrop

/-- A text that was cut at both ends starts in a character that stays. -/
theorem head_of_dropEnds {p : Char → Bool} {s : List Char} :
    ∀ c ∈ ((s.dropWhile p).rdropWhile p).head?, p c = false := by
  intro c hc
  obtain ⟨t, ht⟩ := List.rdropWhile_prefix p (s.dropWhile p)
  refine head_of_dropWhile (s := s) c ?_
  rw [← ht, List.head?_append, Option.mem_def.mp hc]
  rfl

theorem last_of_dropEnds {p : Char → Bool} {s : List Char} :
    ∀ c ∈ (s.rdropWhile p).getLast?, p c = false := by
  intro c hc
  have hne : s.rdropWhile p ≠ [] := by
    intro h
    rw [h] at hc
    cases hc
  have hlast : ¬ p ((s.rdropWhile p).getLast hne) = true := List.rdropWhile_last_not p s hne
  rw [List.getLast?_eq_some_getLast hne] at hc
  obtain rfl : (s.rdropWhile p).getLast hne = c := Option.some.inj hc
  simpa using hlast

theorem head_of_trimStart {s : List Char} : ∀ c ∈ (trimStart s).head?, isBlank c = false :=
  head_of_dropWhile

theorem head_of_trim {s : List Char} : ∀ c ∈ (trim s).head?, isBlank c = false := head_of_dropEnds

theorem last_of_trim {s : List Char} : ∀ c ∈ (trim s).getLast?, isBlank c = false := last_of_dropEnds

theorem trim_trim (s : List Char) : trim (trim s) = trim s := trim_eq_self head_of_trim last_of_trim

end TableDraft.Text

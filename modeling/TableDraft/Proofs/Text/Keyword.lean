import TableDraft.Proofs.Text.Words
import TableDraft.Text.Search

/-!
# Keywords in a text

What reading a keyword finds, and how it depends on the text around it:

* `dropKeyword_eq_some_iff`: a keyword is read where the letters of the text are its letters;
* `exists_of_afterWord`: what a search finds follows the letters of the keyword;
* `afterWord_append_break`: a character that is neither a word character nor a letter of the
  keyword cuts the search in two, **the first half decides and then the second**;
* `afterWord_eq_none_iff_trim`, `holdsWord_trim`: blanks around a text neither hide a keyword nor make one;
* `afterWord_of_tail`: what follows a keyword that was found may be exchanged without moving it;
* `holdsWord_iff`: a text holds a keyword where it stands in it as a word of its own (`WordIn`);
* `Solid.mem_words`: a keyword between blanks is one of the words of the text, and
  `afterWord_eq_none_iff_words`: a keyword anywhere stands within one of them.

`endsIn` carries the character before a place: `endsIn isWord false p` says that a text `p` at the
start of a line ends in a word character.
-/

namespace TableDraft.Text

open Unicode

/-! ## 1. The character before a place -/

/-- The last character of the text passes the test; for an empty text, what was before it. -/
def endsIn (test : Char → Bool) (before : Bool) : List Char → Bool
  | [] => before
  | c :: r => endsIn test (test c) r

@[simp] theorem endsIn_nil (test : Char → Bool) (b : Bool) : endsIn test b [] = b := rfl

@[simp] theorem endsIn_cons (test : Char → Bool) (b : Bool) (c : Char) (r : List Char) :
    endsIn test b (c :: r) = endsIn test (test c) r := rfl

@[simp] theorem endsIn_append (test : Char → Bool) : ∀ (b : Bool) (s t : List Char),
    endsIn test b (s ++ t) = endsIn test (endsIn test b s) t
  | _, [], _ => rfl
  | _, c :: s, t => endsIn_append test (test c) s t

theorem endsIn_eq_getLast {test : Char → Bool} {b : Bool} {s : List Char} (hne : s ≠ []) :
    endsIn test b s = test (s.getLast hne) := by
  conv_lhs => rw [← List.dropLast_append_getLast hne]
  rw [endsIn_append]
  rfl

/-! ## 2. Reading a keyword -/

/-- **A keyword is read where the letters of the text are its letters.** -/
theorem dropKeyword_eq_some_iff : ∀ {k s r : List Char},
    dropKeyword k s = some r ↔ ∃ w, s = w ++ r ∧ w.map letter = k
  | [], s, r => by
      simp only [dropKeyword, Option.some.injEq, List.map_eq_nil_iff]
      constructor
      · rintro rfl
        exact ⟨[], rfl, rfl⟩
      · rintro ⟨w, rfl, rfl⟩
        rfl
  | a :: k, [], r => by
      simp only [dropKeyword, reduceCtorEq, false_iff]
      rintro ⟨w, hs, hw⟩
      obtain ⟨rfl, -⟩ := List.nil_eq_append_iff.mp hs
      cases hw
  | a :: k, c :: s, r => by
      simp only [dropKeyword, beq_iff_eq]
      split
      · rename_i hc
        rw [dropKeyword_eq_some_iff]
        constructor
        · rintro ⟨w, rfl, rfl⟩
          exact ⟨c :: w, rfl, by rw [List.map_cons, hc]⟩
        · rintro ⟨w, hs, hw⟩
          cases w with
          | nil => cases hw
          | cons c' w =>
              obtain ⟨rfl, rfl⟩ := List.cons.inj hs
              exact ⟨w, rfl, (List.cons.inj hw).2⟩
      · rename_i hc
        simp only [reduceCtorEq, false_iff]
        rintro ⟨w, hs, hw⟩
        cases w with
        | nil => cases hw
        | cons c' w =>
            obtain ⟨rfl, rfl⟩ := List.cons.inj hs
            exact hc (List.cons.inj hw).1

theorem dropKeyword_append_self (w r : List Char) : dropKeyword (w.map letter) (w ++ r) = some r :=
  dropKeyword_eq_some_iff.mpr ⟨w, rfl, rfl⟩

/-- A keyword never reaches over a character that is no letter of it. -/
theorem dropKeyword_append_break {c : Char} (t : List Char) : ∀ {k : List Char}, letter c ∉ k →
    ∀ s, dropKeyword k (s ++ c :: t) = (dropKeyword k s).map (· ++ c :: t)
  | [], _, s => rfl
  | a :: k, hc, [] => by
      have hca : (letter c == a) = false := beq_false_of_ne fun e => hc (e ▸ List.mem_cons_self)
      simp [dropKeyword, hca]
  | a :: k, hc, b :: s => by
      have ih := dropKeyword_append_break t (fun h => hc (List.mem_cons_of_mem a h)) s
      simp only [List.cons_append, dropKeyword]
      split
      · exact ih
      · rfl

/-- The keyword has a letter, and none of its letters is a blank. -/
structure Solid (k : List Char) : Prop where
  ne_nil : k ≠ []
  no_blank : ∀ a ∈ k, isBlank a = false

theorem Solid.of_all {k : List Char} (hne : k ≠ []) (h : k.all (fun a => !isBlank a) = true) :
    Solid k :=
  ⟨hne, fun a ha => by simpa using List.all_eq_true.mp h a ha⟩

theorem solid_select : Solid "select".toList := .of_all (by decide) (by decide)

theorem solid_from : Solid "from".toList := .of_all (by decide) (by decide)

/-- A blank stands for no letter but itself. -/
theorem letter_of_isBlank {c : Char} (h : isBlank c = true) : letter c = c :=
  forall_blank (fun c => letter c = c) (by decide +kernel) h

theorem Solid.letter_notMem {k : List Char} (hk : Solid k) {c : Char} (hc : isBlank c = true) :
    letter c ∉ k := by
  rw [letter_of_isBlank hc]
  intro hmem
  rw [hk.no_blank c hmem] at hc
  exact Bool.false_ne_true hc

/-! ## 3. Whole words -/

theorem dropWord_append_break {k : List Char} {c : Char} (hc : letter c ∉ k)
    (hw : isWord c = false) (w : Bool) (s t : List Char) :
    dropWord k w (s ++ c :: t) = (dropWord k w s).map (· ++ c :: t) := by
  unfold dropWord
  split
  · rfl
  · rw [dropKeyword_append_break t hc s]
    cases dropKeyword k s with
    | none => rfl
    | some r =>
        have hr : startsInWord (r ++ c :: t) = startsInWord r := by
          cases r with
          | nil => exact hw
          | cons d r => rfl
        simp only [Option.map_some, Option.filter_some, hr]
        split <;> rfl

theorem dropWord_nil {k : List Char} (hk : k ≠ []) (w : Bool) : dropWord k w [] = none := by
  cases k with
  | nil => exact absurd rfl hk
  | cons a k => simp [dropWord, dropKeyword]

/-- **A break cuts the search for a word in two**: what the text before it holds decides, and
otherwise what the text after it holds. -/
theorem afterWord_append_break {k : List Char} (hk : k ≠ []) {c : Char} (hc : letter c ∉ k)
    (hw : isWord c = false) (t : List Char) : ∀ (w : Bool) (s : List Char),
    afterWord k w (s ++ c :: t) = ((afterWord k w s).map (· ++ c :: t)).or (afterWord k false t)
  | w, [] => by
      have h := dropWord_append_break hc hw w [] t
      rw [dropWord_nil hk, List.nil_append] at h
      simp [afterWord, h, hw]
  | w, b :: s => by
      have h := dropWord_append_break hc hw w (b :: s) t
      have ih := afterWord_append_break hk hc hw t (isWord b) s
      rw [List.cons_append] at h ⊢
      simp only [afterWord, h]
      cases dropWord k w (b :: s) with
      | some r => rfl
      | none => exact ih

section Blanks

variable {k : List Char} (hk : Solid k)
include hk

theorem afterWord_of_blank : ∀ {y : List Char}, isBlankText y = true → ∀ w, afterWord k w y = none
  | [], _, _ => rfl
  | c :: y, hy, w => by
      rw [isBlankText_cons, Bool.and_eq_true] at hy
      have h := afterWord_append_break hk.ne_nil (hk.letter_notMem hy.1)
        (isWord_of_isBlank hy.1) y w []
      rw [List.nil_append, afterWord_of_blank hy.2] at h
      exact h

theorem afterWord_append_blank {y : List Char} (hy : isBlankText y = true) (w : Bool)
    (s : List Char) : afterWord k w (s ++ y) = (afterWord k w s).map (· ++ y) := by
  cases y with
  | nil => simp
  | cons c y =>
      rw [isBlankText_cons, Bool.and_eq_true] at hy
      rw [afterWord_append_break hk.ne_nil (hk.letter_notMem hy.1) (isWord_of_isBlank hy.1),
        afterWord_of_blank hk hy.2, Option.or_none]

theorem afterWord_blank_append : ∀ {x : List Char}, isBlankText x = true → ∀ s,
    afterWord k false (x ++ s) = afterWord k false s
  | [], _, s => rfl
  | c :: x, hx, s => by
      rw [isBlankText_cons, Bool.and_eq_true] at hx
      have h := afterWord_append_break hk.ne_nil (hk.letter_notMem hx.1)
        (isWord_of_isBlank hx.1) (x ++ s) false []
      rw [afterWord_blank_append hx.2] at h
      exact h

/-- What follows a word in a text follows it in the trimmed text, but for the blanks at the end. -/
theorem exists_afterWord_trim (s : List Char) : ∃ y, isBlankText y = true ∧
    afterWord k false s = (afterWord k false (trim s)).map (· ++ y) := by
  obtain ⟨x, y, hx, hy, hs⟩ := exists_trim s
  refine ⟨y, hy, ?_⟩
  conv_lhs => rw [hs]
  rw [List.append_assoc, afterWord_blank_append hk hx, afterWord_append_blank hk hy]

/-- **Blanks around a text neither hide a keyword nor make one.** -/
theorem afterWord_eq_none_iff_trim (s : List Char) :
    afterWord k false s = none ↔ afterWord k false (trim s) = none := by
  obtain ⟨y, -, h⟩ := exists_afterWord_trim hk s
  rw [h, Option.map_eq_none_iff]

end Blanks

theorem holdsWord_eq_false_iff {k s : List Char} :
    holdsWord k s = false ↔ afterWord k false s = none := by
  rw [holdsWord, Option.isSome_eq_false_iff, Option.isNone_iff_eq_none]

theorem holdsWord_trim {k : List Char} (hk : Solid k) (s : List Char) :
    holdsWord k (trim s) = false ↔ holdsWord k s = false := by
  rw [holdsWord_eq_false_iff, holdsWord_eq_false_iff, ← afterWord_eq_none_iff_trim hk]

/-! ## 4. What follows a word -/

/-- A text that starts with the keyword as a whole word. -/
theorem afterWord_append_self {w r : List Char} (hw : w ≠ []) (hr : startsInWord r = false) :
    afterWord (w.map letter) false (w ++ r) = some r := by
  have h : dropWord (w.map letter) false (w ++ r) = some r := by
    simp [dropWord, dropKeyword_append_self, hr]
  cases w with
  | nil => exact absurd rfl hw
  | cons c w =>
      rw [List.cons_append] at h ⊢
      simp only [afterWord, h]

theorem dropWord_eq_some_iff {k s r : List Char} {w : Bool} : dropWord k w s = some r ↔
    w = false ∧ (∃ v, s = v ++ r ∧ v.map letter = k) ∧ startsInWord r = false := by
  unfold dropWord
  cases w with
  | true => simp
  | false =>
      simp only [Bool.false_eq_true, if_false, Option.filter_eq_some_iff,
        dropKeyword_eq_some_iff, Bool.not_eq_true', true_and]

/-- **What was found follows the letters of the keyword** somewhere in the text. -/
theorem exists_of_afterWord {k : List Char} : ∀ {w : Bool} {s r : List Char},
    afterWord k w s = some r → ∃ u v, s = u ++ v ++ r ∧ v.map letter = k
  | _, [], _, h => by cases h
  | w, c :: s, r, h => by
      unfold afterWord at h
      split at h
      · rename_i rest hd
        obtain rfl := Option.some.inj h
        obtain ⟨-, ⟨v, hs, hv⟩, -⟩ := dropWord_eq_some_iff.mp hd
        exact ⟨[], v, hs, hv⟩
      · obtain ⟨u, v, rfl, hv⟩ := exists_of_afterWord h
        exact ⟨c :: u, v, rfl, hv⟩

section Found

variable {k s r : List Char} {w : Bool} (h : afterWord k w s = some r)
include h

theorem length_of_afterWord : k.length + r.length ≤ s.length := by
  obtain ⟨u, v, rfl, rfl⟩ := exists_of_afterWord h
  rw [List.length_append, List.length_append, List.length_map]
  omega

theorem afterWord_isSuffix : r <:+ s := by
  obtain ⟨u, v, rfl, -⟩ := exists_of_afterWord h
  exact List.suffix_append (u ++ v) r

end Found

/-- No keyword is read before the one that was found, whatever follows that one: it would end within
the text before the rest, and so be read with the old rest too. -/
theorem dropWord_eq_none_of_tail {k h r r' : List Char} {w : Bool} (hlen : k.length ≤ h.length)
    (hd : dropWord k w (h ++ r) = none) (hr : startsInWord r' = startsInWord r) :
    dropWord k w (h ++ r') = none := by
  rw [Option.eq_none_iff_forall_ne_some] at hd ⊢
  intro z hz
  obtain ⟨hw, ⟨v, hs, hv⟩, hz'⟩ := dropWord_eq_some_iff.mp hz
  obtain ⟨u, rfl⟩ : v <+: h := by
    have hvs : v <+: h ++ r' := ⟨z, hs.symm⟩
    refine List.prefix_of_prefix_length_le hvs (List.prefix_append h r') ?_
    rw [← hv, List.length_map] at hlen
    exact hlen
  have hzu : z = u ++ r' := by
    rw [List.append_assoc] at hs
    exact (List.append_cancel_left hs).symm
  refine hd (u ++ r) (dropWord_eq_some_iff.mpr ⟨hw, ⟨v, List.append_assoc v u r, hv⟩, ?_⟩)
  cases u with
  | nil =>
      rw [hzu] at hz'
      exact hr.symm.trans hz'
  | cons d u =>
      rw [hzu] at hz'
      exact hz'

/-- **What follows the keyword that was found may be exchanged**: with another rest after it, the
search stops at the same place, provided both rests agree on whether a word goes on. -/
theorem afterWord_of_tail {k : List Char} (hk : k ≠ []) {r r' : List Char}
    (hr : startsInWord r' = startsInWord r) : ∀ {w : Bool} (h : List Char),
    afterWord k w (h ++ r) = some r → afterWord k w (h ++ r') = some r'
  | w, [], hf => by
      have hlen := length_of_afterWord hf
      have : 0 < k.length := List.length_pos_iff.mpr hk
      rw [List.nil_append] at hlen
      omega
  | w, c :: h, hf => by
      have hlen := length_of_afterWord hf
      rw [List.length_append] at hlen
      rw [List.cons_append] at hf ⊢
      unfold afterWord at hf ⊢
      split at hf
      · rename_i rest hd
        obtain rfl := Option.some.inj hf
        obtain ⟨hw, ⟨v, hs, hv⟩, hrest⟩ := dropWord_eq_some_iff.mp hd
        obtain rfl : c :: h = v := List.append_cancel_right hs
        have hd' : dropWord k w (c :: (h ++ r')) = some r' :=
          dropWord_eq_some_iff.mpr ⟨hw, ⟨c :: h, rfl, hv⟩, hr.trans hrest⟩
        rw [hd']
      · rename_i hd
        have hd' : dropWord k w (c :: h ++ r') = none :=
          dropWord_eq_none_of_tail (by omega) hd hr
        rw [List.cons_append] at hd'
        rw [hd']
        exact afterWord_of_tail hk hr h hf

/-! ## 5. Where a word stands -/

/-- The keyword stands in the text as a word of its own; `before` says that a word character is before
the text. -/
def WordIn (k : List Char) (before : Bool) (s : List Char) : Prop :=
  ∃ x w y, s = x ++ (w ++ y) ∧ w.map letter = k ∧ endsIn isWord before x = false ∧
    startsInWord y = false

theorem isSome_afterWord_iff {k : List Char} (hk : k ≠ []) : ∀ {s : List Char} {before : Bool},
    (afterWord k before s).isSome = true ↔ WordIn k before s
  | [], before => by
      refine iff_of_false Bool.false_ne_true ?_
      rintro ⟨x, w, y, hs, rfl, -⟩
      obtain ⟨-, hw⟩ := List.nil_eq_append_iff.mp hs
      rw [(List.append_eq_nil_iff.mp hw).1] at hk
      exact hk rfl
  | c :: s, before => by
      rw [afterWord]
      split
      · rename_i r hd
        obtain ⟨hbefore, ⟨v, hs, hv⟩, hr⟩ := dropWord_eq_some_iff.mp hd
        exact iff_of_true rfl ⟨[], v, r, hs, hv, hbefore, hr⟩
      · rename_i hd
        rw [isSome_afterWord_iff hk]
        constructor
        · rintro ⟨x, w, y, rfl, hw, hx, hy⟩
          exact ⟨c :: x, w, y, rfl, hw, hx, hy⟩
        · rintro ⟨x, w, y, hs, hw, hx, hy⟩
          cases x with
          | nil =>
              -- the word would have been read at the start
              have hread : dropWord k before (c :: s) = some y :=
                dropWord_eq_some_iff.mpr ⟨hx, ⟨w, hs, hw⟩, hy⟩
              rw [hread] at hd
              cases hd
          | cons d x =>
              obtain ⟨rfl, rfl⟩ := List.cons.inj hs
              exact ⟨x, w, y, rfl, hw, hx, hy⟩

/-- **A text holds a keyword where it stands in it as a word of its own.** -/
theorem holdsWord_iff {k s : List Char} (hk : k ≠ []) :
    holdsWord k s = true ↔ WordIn k false s :=
  isSome_afterWord_iff hk

theorem holdsWord_eq_false_iff_not {k s : List Char} (hk : k ≠ []) :
    holdsWord k s = false ↔ ¬ WordIn k false s := by
  rw [← holdsWord_iff hk, Bool.not_eq_true]

/-! ## 6. Keywords and the words of a text -/

section Letters

variable {k w : List Char} (hk : Solid k) (hw : w.map letter = k)
include hk hw

theorem Solid.ne_nil_of_letters : w ≠ [] := by
  rintro rfl
  exact hk.ne_nil hw.symm

theorem Solid.noBlank_of_letters : NoBlank w := by
  intro c hc
  rw [← Bool.not_eq_true]
  intro hb
  exact hk.letter_notMem hb (hw ▸ List.mem_map_of_mem hc)

/-- **A keyword between blanks is one of the words of the text.** -/
theorem Solid.mem_words {p q : List Char} (h : Between p q) : w ∈ words (p ++ (w ++ q)) :=
  mem_words_between (hk.noBlank_of_letters hw) (hk.ne_nil_of_letters hw) h

end Letters

theorem afterWord_blank_cons {k : List Char} (hk : Solid k) {b : Char} (hb : isBlank b = true)
    (s : List Char) : afterWord k false (b :: s) = afterWord k false s :=
  afterWord_blank_append hk (x := [b]) (isBlankText_iff.mpr (List.forall_mem_singleton.mpr hb)) s

/-- **A keyword stands within a word.** -/
theorem afterWord_eq_none_iff_words {k : List Char} (hk : Solid k) (s : List Char) :
    afterWord k false s = none ↔ ∀ w ∈ words s, afterWord k false w = none := by
  induction s using wordInduction with
  | nil => exact iff_of_true rfl nofun
  | blank c t hc ih =>
      rw [words_blank_cons hc, ← ih, afterWord_blank_cons hk hc]
  | word w t hw hne ht ih =>
      rw [words_word hw hne ht, List.forall_mem_cons, ← ih]
      cases t with
      | nil =>
          rw [List.append_nil]
          exact (and_iff_left rfl).symm
      | cons c t =>
          have hc : isBlank c = true := ht c rfl
          rw [afterWord_append_break hk.ne_nil (hk.letter_notMem hc) (isWord_of_isBlank hc),
            Option.or_eq_none_iff, Option.map_eq_none_iff, afterWord_blank_cons hk hc]

end TableDraft.Text

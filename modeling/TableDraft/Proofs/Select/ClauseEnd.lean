import TableDraft.Proofs.Select.FieldReading

/-!
# Where the list of a query without FROM ends

* `apart_blank`, `apart_break`: no keyword of a later clause reaches into the blanks after a text, or over
  a comma or a dash;
* **`beforeClause_eq_self`: a text is kept whole exactly if no such keyword starts in it**, and
  `beforeClause_append`: what follows it is met only then;
* `NoClause.blank_cons`, `NoClause.of_append_blank`: blanks around a text make no keyword.

`forall_splits_iff` turns a property of all ways to split a text into finitely many checks, so that
`NoClause`, `Quiet` and `Whole` can be decided.
-/

namespace TableDraft.Select

open Text Unicode

/-! ## 1. Splits of a text -/

theorem forall_splits_iff {s : List Char} {P : List Char → List Char → Prop} :
    (∀ p q, s = p ++ q → P p q) ↔ ∀ n < s.length + 1, P (s.take n) (s.drop n) := by
  constructor
  · intro h n _
    exact h _ _ (List.take_append_drop n s).symm
  · rintro h p q rfl
    have hp := h p.length (by rw [List.length_append]; omega)
    rwa [List.take_left, List.drop_left] at hp

instance decidableSplits {s : List Char} {P : List Char → List Char → Prop}
    [∀ p q, Decidable (P p q)] : Decidable (∀ p q, s = p ++ q → P p q) :=
  decidable_of_iff _ forall_splits_iff.symm

instance decidableQuiet (d : Int) (ab : Bool) (s : List Char) : Decidable (Quiet d ab s) :=
  inferInstanceAs (Decidable (∀ p q, s = p ++ q → _ → _ → _))

instance decidableNested (s : List Char) : Decidable (∀ p q, FromAt s p q → depthAfter 0 p ≠ 0) :=
  decidable_of_iff _ quiet_iff

theorem noFrom_iff {s : List Char} :
    (∀ p r, s = p ++ r → ¬ (endsIn isBlank true p = true ∧ startsFrom r = true)) ↔
      ∀ p q, ¬ FromAt s p q := by
  constructor
  · intro h p q hf
    obtain ⟨r, hs, hr⟩ := exists_fromAt_iff.mp ⟨q, hf⟩
    exact h p r hs hr
  · intro h p r hs hr
    obtain ⟨q, hf⟩ := exists_fromAt_iff.mpr ⟨r, hs, hr⟩
    exact h p q hf

instance decidableNoFrom (s : List Char) : Decidable (∀ p q, ¬ FromAt s p q) :=
  decidable_of_iff _ noFrom_iff

/-! ## 2. Keywords before blanks, and before a break -/

/-- The words that the keywords of later clauses are made of. -/
def clauseWords : List String := ["where", "having", "limit", "union", "group", "order", "by"]

theorem solid_clauseWord {k : String} (hk : k ∈ clauseWords) : Solid k.toList := by
  have hall : ∀ k ∈ clauseWords, k.toList ≠ [] ∧ k.toList.all (fun a => !isBlank a) = true := by
    decide
  exact .of_all (hall k hk).1 (hall k hk).2

/-- Texts of which each word alone, and each word before BY, is read alike start the same keywords. -/
theorem startsClause_congr {s s' : List Char}
    (hone : ∀ k ∈ clauseWords, (dropWord k.toList false s).isSome = (dropWord k.toList false s').isSome)
    (htwo : ∀ k ∈ clauseWords,
      startsTwoWords k.toList "by".toList s = startsTwoWords k.toList "by".toList s') (w : Bool) :
    startsClause w s = startsClause w s' := by
  unfold startsClause
  rw [htwo "group" (by decide), htwo "order" (by decide)]
  simp only [List.any_cons, List.any_nil, hone "where" (by decide), hone "having" (by decide),
    hone "limit" (by decide), hone "union" (by decide)]

/-- No keyword reaches from a text before it into this one. -/
def Apart (r : List Char) : Prop := ∀ (w : Bool) (s : List Char),
  startsClause w (s ++ r) = startsClause w s

section Blanks

variable {y : List Char} (hy : isBlankText y = true)
include hy

theorem dropWord_append_blank {k : List Char} (hk : Solid k) (w : Bool) (s : List Char) :
    dropWord k w (s ++ y) = (dropWord k w s).map (· ++ y) := by
  cases y with
  | nil => simp
  | cons c y =>
      rw [isBlankText_cons, Bool.and_eq_true] at hy
      exact dropWord_append_break (hk.letter_notMem hy.1) (isWord_of_isBlank hy.1) w s y

theorem dropKeyword_append_blank {k : List Char} (hk : Solid k) (s : List Char) :
    dropKeyword k (s ++ y) = (dropKeyword k s).map (· ++ y) := by
  cases y with
  | nil => simp
  | cons c y =>
      rw [isBlankText_cons, Bool.and_eq_true] at hy
      exact dropKeyword_append_break y (hk.letter_notMem hy.1) s

theorem startsInWord_append_blank (s : List Char) : startsInWord (s ++ y) = startsInWord s := by
  cases s with
  | cons c s => rfl
  | nil =>
      cases y with
      | nil => rfl
      | cons c y =>
          rw [isBlankText_cons, Bool.and_eq_true] at hy
          exact isWord_of_isBlank hy.1

/-- A second keyword is read behind blanks with or without the blanks at the end. -/
theorem dropBlanks_append_blank {k : List Char} (hk : Solid k) (s : List Char) :
    (dropBlanks (s ++ y)).bind (dropKeyword k) =
      ((dropBlanks s).bind (dropKeyword k)).map (· ++ y) := by
  have hnil : dropKeyword k [] = none := by
    cases k with
    | nil => exact absurd rfl hk.ne_nil
    | cons a k => rfl
  cases s with
  | nil =>
      cases y with
      | nil => rfl
      | cons c y =>
          rw [isBlankText_cons, Bool.and_eq_true] at hy
          simp only [List.nil_append, dropBlanks, hy.1, if_true, trimStart_of_blank hy.2,
            Option.bind_some, hnil, Option.bind_none, Option.map_none]
  | cons b s =>
      rw [List.cons_append, dropBlanks, dropBlanks]
      split
      · rw [Option.bind_some, Option.bind_some]
        cases hs : isBlankText s with
        | true =>
            rw [trimStart_blank_append hs, trimStart_of_blank hy, trimStart_of_blank hs, hnil]
            rfl
        | false => rw [trimStart_append hs, dropKeyword_append_blank hy hk]
      · rfl

theorem startsTwoWords_append_blank {first second : List Char} (hf : Solid first)
    (hs : Solid second) (s : List Char) :
    startsTwoWords first second (s ++ y) = startsTwoWords first second s := by
  unfold startsTwoWords
  rw [dropKeyword_append_blank hy hf]
  cases dropKeyword first s with
  | none => rfl
  | some r =>
      rw [Option.map_some, Option.bind_some, Option.bind_some, dropBlanks_append_blank hy hs]
      cases (dropBlanks r).bind (dropKeyword second) with
      | none => rfl
      | some u => simp only [Option.map_some, startsInWord_append_blank hy]

/-- **Blanks after a text neither make nor hide a keyword** of a later clause. -/
theorem apart_blank : Apart y := by
  intro w s
  refine startsClause_congr (fun k hk => ?_) (fun k hk => ?_) w
  · rw [dropWord_append_blank hy (solid_clauseWord hk), Option.isSome_map]
  · exact startsTwoWords_append_blank hy (solid_clauseWord hk) (solid_clauseWord (by decide)) s

end Blanks

/-- A character at which every keyword ends: neither a blank nor a word character, and no letter of a
keyword. -/
structure Break (c : Char) : Prop where
  notBlank : isBlank c = false
  notWord : isWord c = false
  notLetter : ∀ k ∈ clauseWords, letter c ∉ k.toList

theorem break_comma : Break ',' := ⟨by decide, by decide +kernel, by decide⟩

theorem break_dash : Break '-' := ⟨by decide, by decide +kernel, by decide⟩

section Break

variable {c : Char} (hc : Break c) (t : List Char)
include hc

theorem dropBlanks_append_break (s : List Char) :
    dropBlanks (s ++ c :: t) = (dropBlanks s).map (· ++ c :: t) := by
  cases s with
  | nil =>
      simp only [List.nil_append, dropBlanks, hc.notBlank, Bool.false_eq_true, if_false,
        Option.map_none]
  | cons b s =>
      rw [List.cons_append, dropBlanks, dropBlanks]
      split
      · rw [Option.map_some, Option.some.injEq]
        cases hs : isBlankText s with
        | true =>
            rw [trimStart_blank_append hs, trimStart_cons hc.notBlank, trimStart_of_blank hs]
            rfl
        | false => exact trimStart_append hs _
      · rfl

theorem startsTwoWords_append_break {first second : List Char} (hf : letter c ∉ first)
    (hs : letter c ∉ second) (s : List Char) :
    startsTwoWords first second (s ++ c :: t) = startsTwoWords first second s := by
  unfold startsTwoWords
  rw [dropKeyword_append_break t hf]
  cases dropKeyword first s with
  | none => rfl
  | some r =>
      rw [Option.map_some, Option.bind_some, Option.bind_some, dropBlanks_append_break hc]
      cases dropBlanks r with
      | none => rfl
      | some u =>
          rw [Option.map_some, Option.bind_some, Option.bind_some, dropKeyword_append_break t hs]
          cases dropKeyword second u with
          | none => rfl
          | some v =>
              cases v with
              | nil => simp only [Option.map_some, List.nil_append, startsInWord, hc.notWord]
              | cons d v => rfl

/-- **No keyword reaches over a break.** -/
theorem apart_break : Apart (c :: t) := by
  intro w s
  refine startsClause_congr (fun k hk => ?_) (fun k hk => ?_) w
  · rw [dropWord_append_break (hc.notLetter k hk) hc.notWord, Option.isSome_map]
  · exact startsTwoWords_append_break hc t (hc.notLetter k hk) (hc.notLetter "by" (by decide)) s

/-- Nor does one with blanks before it. -/
theorem apart_blank_break {y : List Char} (hy : isBlankText y = true) : Apart (y ++ c :: t) := by
  intro w s
  rw [← List.append_assoc, apart_break hc t, apart_blank hy]

end Break

/-! ## 3. Texts without keywords -/

/-- At no place of the text does a keyword of a later clause start. -/
def NoClause (s : List Char) : Prop :=
  ∀ p q, s = p ++ q → startsClause (endsIn isWord false p) q = false

instance decidableNoClause (s : List Char) : Decidable (NoClause s) :=
  inferInstanceAs (Decidable (∀ p q, s = p ++ q → _))

theorem startsClause_nil (w : Bool) : startsClause w [] = false := by
  cases w <;> rfl

theorem beforeClause_eq_self_iff : ∀ {s : List Char} {w : Bool}, beforeClause w s = s ↔
    ∀ p q, s = p ++ q → startsClause (endsIn isWord w p) q = false
  | [], w => by
      refine iff_of_true rfl fun p q hpq => ?_
      obtain ⟨rfl, rfl⟩ := List.nil_eq_append_iff.mp hpq
      exact startsClause_nil w
  | c :: s, w => by
      rw [beforeClause]
      split
      · rename_i hc
        refine iff_of_false (by simp) fun h => ?_
        have hno : startsClause w (c :: s) = false := h [] (c :: s) rfl
        rw [hno] at hc
        cases hc
      · rename_i hc
        rw [List.cons.injEq, and_iff_right rfl, beforeClause_eq_self_iff]
        constructor
        · intro h p q hpq
          cases p with
          | nil =>
              obtain rfl : c :: s = q := hpq
              exact Bool.eq_false_iff.mpr hc
          | cons d p =>
              obtain ⟨rfl, rfl⟩ := List.cons.inj hpq
              exact h p q rfl
        · exact fun h p q hpq => h (c :: p) q (by rw [hpq]; rfl)

/-- **A text is kept whole exactly if no keyword starts in it.** -/
theorem beforeClause_eq_self {s : List Char} : beforeClause false s = s ↔ NoClause s :=
  beforeClause_eq_self_iff

/-- **Of a text and one apart from it, the second is met only behind a first that is kept whole.** -/
theorem beforeClause_append {r : List Char} (hr : Apart r) : ∀ (w : Bool) (s : List Char),
    beforeClause w (s ++ r) =
      if beforeClause w s = s then s ++ beforeClause (endsIn isWord w s) r else beforeClause w s
  | w, [] => by rw [List.nil_append, beforeClause, if_pos rfl, List.nil_append, endsIn_nil]
  | w, c :: s => by
      have hc : startsClause w (c :: (s ++ r)) = startsClause w (c :: s) := hr w (c :: s)
      rw [List.cons_append, beforeClause, beforeClause, hc]
      split
      · rw [if_neg (by simp)]
      · rw [beforeClause_append hr (isWord c) s]
        by_cases hs : beforeClause (isWord c) s = s
        · rw [if_pos hs, if_pos (congrArg (c :: ·) hs)]
          rfl
        · rw [if_neg hs, if_neg fun h => hs (List.cons.inj h).2]

theorem beforeClause_cons {c : Char} {w : Bool} {s : List Char} (h : startsClause w (c :: s) = false) :
    beforeClause w (c :: s) = c :: beforeClause (isWord c) s := by
  rw [beforeClause, h]
  rfl

theorem beforeClause_break {c : Char} (hc : Break c) (w : Bool) (t : List Char) :
    beforeClause w (c :: t) = c :: beforeClause false t := by
  have h : startsClause w (c :: t) = startsClause w [] := apart_break hc t w []
  rw [beforeClause_cons (h.trans (startsClause_nil w)), hc.notWord]

/-- The letters that the keywords start with. -/
def clauseLetters : List Char := ['w', 'h', 'l', 'u', 'g', 'o']

theorem mem_of_dropKeyword {k s r l : List Char} {c : Char} (hk : k.head?.any l.contains = true)
    (h : dropKeyword k (c :: s) = some r) : letter c ∈ l := by
  obtain ⟨w, hw, rfl⟩ := dropKeyword_eq_some_iff.mp h
  cases w with
  | nil => cases hk
  | cons d w =>
      obtain ⟨rfl, -⟩ := List.cons.inj hw
      exact List.contains_iff_mem.mp hk

/-- **A keyword starts with one of few letters.** -/
theorem letter_of_startsClause {w : Bool} {c : Char} {s : List Char}
    (h : startsClause w (c :: s) = true) : letter c ∈ clauseLetters := by
  have hone : ∀ k ∈ ["where", "having", "limit", "union"],
      k.toList.head?.any clauseLetters.contains = true := by decide
  have htwo : ∀ first : String, first.toList.head?.any clauseLetters.contains = true →
      startsTwoWords first.toList "by".toList (c :: s) = true → letter c ∈ clauseLetters := by
    intro first hf hstart
    unfold startsTwoWords at hstart
    split at hstart
    · rename_i r hr
      obtain ⟨v, hv, -⟩ := Option.bind_eq_some_iff.mp hr
      obtain ⟨u, hu, -⟩ := Option.bind_eq_some_iff.mp hv
      exact mem_of_dropKeyword hf hu
    · cases hstart
  unfold startsClause at h
  rw [Bool.and_eq_true, Bool.or_eq_true, Bool.or_eq_true, List.any_eq_true] at h
  rcases h.2 with (⟨k, hk, hd⟩ | hgroup) | horder
  · obtain ⟨r, hr⟩ := Option.isSome_iff_exists.mp hd
    obtain ⟨-, hread, -⟩ := dropWord_eq_some_iff.mp hr
    exact mem_of_dropKeyword (hone k hk) (dropKeyword_eq_some_iff.mpr hread)
  · exact htwo "group" (by decide) hgroup
  · exact htwo "order" (by decide) horder

theorem noClause_of_letters {s : List Char} (h : ∀ c ∈ s, letter c ∉ clauseLetters) :
    NoClause s := by
  rintro p q rfl
  cases q with
  | nil => cases endsIn isWord false p <;> rfl
  | cons c q =>
      rw [← Bool.not_eq_true]
      intro hq
      exact h c (List.mem_append_right p List.mem_cons_self) (letter_of_startsClause hq)

/-- No keyword starts with a blank. -/
theorem startsClause_blank {c : Char} (hc : isBlank c = true) (w : Bool) (s : List Char) :
    startsClause w (c :: s) = false := by
  rw [← Bool.not_eq_true]
  intro h
  exact (Solid.of_all (by decide) (by decide)).letter_notMem hc (letter_of_startsClause h)

theorem beforeClause_blank {c : Char} (hc : isBlank c = true) (w : Bool) (t : List Char) :
    beforeClause w (c :: t) = c :: beforeClause false t := by
  rw [beforeClause_cons (startsClause_blank hc w t), isWord_of_isBlank hc]

/-- **Blanks before a text make no keyword**, and those after it none either. -/
theorem NoClause.blank_cons {c : Char} {s : List Char} (hc : isBlank c = true) (h : NoClause s) :
    NoClause (c :: s) := by
  intro p q hs
  cases p with
  | nil =>
      rw [List.nil_append] at hs
      rw [← hs]
      exact startsClause_blank hc false s
  | cons d p =>
      obtain ⟨rfl, hs'⟩ := List.cons.inj hs
      rw [endsIn_cons, isWord_of_isBlank hc]
      exact h p q hs'

theorem NoClause.of_append_blank {s y : List Char} (hy : isBlankText y = true)
    (h : NoClause (s ++ y)) : NoClause s := by
  rintro p q rfl
  rw [← apart_blank hy]
  exact h p (q ++ y) (List.append_assoc p q y)

end TableDraft.Select

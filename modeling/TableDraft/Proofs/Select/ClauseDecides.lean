import TableDraft.Proofs.Select.Counters

/-!
# What the select list of a query decides

When a query has a FROM, its select list decides the answer as long as it yields a field or does not
balance its parentheses; what comes after the FROM may then be anything. When it yields no field, the
other shapes are tried, and these read on behind the FROM.

* `exists_fromCut`, `FromCut.of_tail`: where the FROM of the list stands, and that **it stays there when
  the text after it is exchanged**;
* `parseFields_unbalanced`, `parseFields_skipped`: the list fails, or yields no field;
* **`list_decides`: the answer for every text that differs only after the FROM**;
* `empty_list_undecided`: a list without fields decides nothing.
-/

namespace TableDraft.Select

open Text Remark

/-! ## 1. The place of the FROM -/

/-- A query cut at the FROM of its list: the text through SELECT, the list, the FROM, and the text
after it. -/
structure FromCut (s start list word after : List Char) : Prop where
  text : s = start ++ (list ++ (word ++ after))
  select : afterSelect s = some (list ++ (word ++ after))
  scan : beforeFrom .code 0 false (list ++ (word ++ after)) = some list
  isFrom : sameIgnoringAsciiCase word "from".toList = true
  blank : ∀ c ∈ after.head?, isBlank c = true

theorem FromCut.selectFromClause_eq {s start list word after : List Char}
    (h : FromCut s start list word after) : selectFromClause s = some (trim list) := by
  rw [selectFromClause, h.select, Option.bind_some, h.scan]
  rfl

theorem exists_fromCut {s clause : List Char} (h : selectFromClause s = some clause) :
    ∃ start list word after, FromCut s start list word after ∧ clause = trim list := by
  obtain ⟨list, hlist, rfl⟩ := Option.map_eq_some_iff.mp h
  obtain ⟨a, ha, hscan⟩ := Option.bind_eq_some_iff.mp hlist
  obtain ⟨q, rfl, hq, -⟩ := beforeFrom_spec hscan
  obtain ⟨word, after, rfl, hword, hafter⟩ := startsFrom_iff.mp hq
  obtain ⟨start, hstart⟩ := afterWord_isSuffix ha
  exact ⟨start, list, word, after,
    ⟨hstart.symm, ha, hscan, map_letter_eq_from.mp hword, hafter⟩, rfl⟩

/-- **The cut stays where it is when the text after the FROM is exchanged.** -/
theorem FromCut.of_tail {s start list word after after' : List Char}
    (h : FromCut s start list word after) (hafter' : ∀ c ∈ after'.head?, isBlank c = true) :
    FromCut (start ++ (list ++ (word ++ after'))) start list word after' := by
  obtain ⟨q, -, -, hblank⟩ := beforeFrom_spec h.scan
  -- the list ends in a blank, so it is the list that the word SELECT is followed by
  have hstart : startsInWord (list ++ (word ++ after')) = startsInWord (list ++ (word ++ after)) := by
    cases list with
    | nil => cases hblank
    | cons c list => rfl
  have hselect := h.select
  rw [h.text] at hselect
  exact {
    text := rfl
    select := afterWord_of_tail (by decide) hstart start hselect
    scan := beforeFrom_of_tail (map_letter_eq_from.mpr h.isFrom) hafter' h.scan
    isFrom := h.isFrom
    blank := hafter' }

/-! ## 2. Lists that yield no field -/

section Clause

variable {sql : String} {clause : List Char} (hc : selectFromClause (trim sql.toList) = some clause)
include hc

/-- A list that does not balance its parentheses is the error. -/
theorem parseFields_unbalanced (hb : ¬ Balanced (strip clause)) : parseFields sql =
    .error (.unbalancedParentheses (String.ofList (trim (strip clause)))) := by
  have happly : Shape.selectFrom.apply (trim sql.toList) =
      .error (.unbalancedParentheses (String.ofList (trim (strip clause)))) := by
    rw [apply_selectFrom hc, readClause, readList_unbalanced hb]
    rfl
  rw [parseFields_eq (ne_nil_of_selectFromClause hc), Shape.all, firstFields_error happly]

/-- After a list that yields no field, the text is read as the other shapes. -/
theorem parseFields_skipped {o : Outcome} (ho : readClause clause = .ok o) (hnil : o.fields = []) :
    parseFields sql =
      firstFields (trim sql.toList) (decide (0 < o.candidates)) [.selectOnly, .fieldList] := by
  have happly : Shape.selectFrom.apply (trim sql.toList) = .ok (some o) := by
    rw [apply_selectFrom hc, ho]
    rfl
  rw [parseFields_eq (ne_nil_of_selectFromClause hc), Shape.all, firstFields_skipped happly hnil]
  rfl

end Clause

/-! ## 3. The answer -/

/-- **The list of a query with a FROM decides the answer when it yields a field or does not balance
its parentheses, whatever stands behind the FROM.** When it yields no field, the answer is that of the
other shapes, and the text is not called unparsable after a candidate. With fewer than two to the power
of 31 parentheses no counter of them overflows. -/
theorem list_decides {sql : String} {clause : List Char}
    (h : selectFromClause (trim sql.toList) = some clause) :
    ∃ start list word after, FromCut (trim sql.toList) start list word after ∧ clause = trim list ∧
      ∀ (sql' : String) (after' : List Char),
        trim sql'.toList = start ++ (list ++ (word ++ after')) →
        (∀ c ∈ after'.head?, isBlank c = true) →
        (¬ Balanced (strip clause) → parseFields sql' =
          .error (.unbalancedParentheses (String.ofList (trim (strip clause))))) ∧
        (Balanced (strip clause) → ∃ o, readClause clause = .ok o ∧
          (o.fields ≠ [] → parseFields sql' = .ok o.fields) ∧
          (o.fields = [] → parseFields sql' =
              firstFields (trim sql'.toList) (decide (0 < o.candidates)) [.selectOnly, .fieldList] ∧
            (0 < o.candidates → parseFields sql' ≠ .error .unparsableSql))) ∧
        (parens sql'.toList < counterLimit → CountersFit sql') := by
  obtain ⟨start, list, word, after, hcut, rfl⟩ := exists_fromCut h
  refine ⟨start, list, word, after, hcut, rfl, fun sql' after' htext hafter' => ?_⟩
  have hclause : selectFromClause (trim sql'.toList) = some (trim list) := by
    rw [htext]
    exact (hcut.of_tail hafter').selectFromClause_eq
  refine ⟨parseFields_unbalanced hclause, fun hb => ?_, countersFit_of_parens⟩
  have hread := readList_balanced hb (some (RemarkTable.ofClause (trim list)))
  refine ⟨_, hread, parseFields_selectFrom hclause hread, fun hnil => ?_⟩
  have hskip := parseFields_skipped hclause hread hnil
  refine ⟨hskip, fun hpos => ?_⟩
  rw [hskip, decide_eq_true hpos]
  exact firstFields_seen _ _

/-- Text behind the FROM that looks like more of the list changes nothing. -/
theorem list_decides_tail :
    selectFromClause (trim "SELECT a, (b) AS x FROM t, (c".toList) = some "a, (b) AS x".toList ∧
      parseFields "SELECT a, (b) AS x FROM t, (c" =
        .ok [⟨"a", none, "a"⟩, ⟨"x", some "x", "x"⟩] := by
  have h : selectFromClause (trim "SELECT a, (b) AS x FROM t, (c".toList) =
      some "a, (b) AS x".toList := rfl
  obtain ⟨start, list, word, after, hcut, -, hall⟩ := list_decides h
  obtain ⟨o, ho, hfields, -⟩ := (hall _ after hcut.text hcut.blank).2.1 (by decide)
  have hread : readClause "a, (b) AS x".toList =
      .ok ⟨2, [⟨"a", none, "a"⟩, ⟨"x", some "x", "x"⟩]⟩ := rfl
  obtain rfl := Except.ok.inj (ho.symm.trans hread)
  exact ⟨h, hfields (by decide)⟩

/-- **A list without fields decides nothing**: with no candidate or only nested queries in the list,
a field may come from behind the FROM. -/
theorem empty_list_undecided :
    (selectFromClause (trim "SELECT FROM t".toList) = some [] ∧ readClause [] = .ok ⟨0, []⟩ ∧
      parseFields "SELECT FROM t" = .ok [⟨"t", some "t", "t"⟩]) ∧
    (selectFromClause (trim "SELECT (SELECT 1) FROM t, u".toList) = some "(SELECT 1)".toList ∧
      readClause "(SELECT 1)".toList = .ok ⟨1, []⟩ ∧
      parseFields "SELECT (SELECT 1) FROM t, u" = .ok [⟨"u", none, "u"⟩]) ∧
    ¬ ∃ answer : List Char → Except DraftError (List Field), ∀ (sql : String) (clause : List Char),
      selectFromClause (trim sql.toList) = some clause → parseFields sql = answer clause := by
  have ht : parseFields "SELECT FROM t" = .ok [⟨"t", some "t", "t"⟩] := rfl
  have hu : parseFields "SELECT FROM u" = .ok [⟨"u", some "u", "u"⟩] := rfl
  refine ⟨⟨rfl, rfl, ht⟩, ⟨rfl, rfl, rfl⟩, ?_⟩
  rintro ⟨answer, h⟩
  have ht' := h "SELECT FROM t" [] rfl
  have hu' := h "SELECT FROM u" [] rfl
  rw [ht] at ht'
  rw [hu, ← ht'] at hu'
  exact absurd (Except.ok.inj hu') (by decide)

end TableDraft.Select

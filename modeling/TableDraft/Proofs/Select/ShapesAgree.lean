import TableDraft.Proofs.Select.ClauseEnd
import TableDraft.Proofs.Select.Counters

/-!
# The shapes agree on a bare list

`BareList s` says that a text of expressions holds no word or mark that a query is made of: no
remark, no SELECT, no free FROM at depth zero, no keyword of a later clause. Such a text may be
written alone, after SELECT, or between SELECT and FROM:

* `selectFromClause_list`: between SELECT and FROM, it is what is cut out, whatever comes after;
* `selectClauses_list`: after SELECT alone, the scan finds no FROM and the cut leaves all of it;
* **`parseFields_bareList`: all three shapes have the same fields**.
-/

namespace TableDraft.Select

open Text Remark

/-- A text of expressions that holds no word or mark that a query is made of. -/
structure BareList (s : List Char) : Prop where
  noLine : Free '-' '-' s
  noBlock : Free '/' '*' s
  noSelect : holdsWord "select".toList s = false
  noFrom : ∀ p q, FromAt s p q → depthAfter 0 p ≠ 0
  noClause : NoClause s

/-! ## 1. Blanks at the end -/

theorem FromAt.append_blank {s p q y : List Char} (h : FromAt s p q) (hy : isBlankText y = true) :
    FromAt (s ++ y) p (q ++ y) := by
  obtain ⟨⟨w, hw, rfl⟩, hbefore, hafter⟩ := h
  refine ⟨⟨w, hw, List.append_assoc (p ++ w) q y⟩, hbefore, fun c hc => ?_⟩
  cases q with
  | nil => exact isBlankText_iff.mp hy c (List.mem_of_head? hc)
  | cons d q => exact hafter c hc

/-- **Without the blanks at its end a bare list is bare.** -/
theorem BareList.of_append_blank {s y : List Char} (hy : isBlankText y = true)
    (h : BareList (s ++ y)) : BareList s where
  noLine := h.noLine.mono (List.prefix_append s y).isInfix
  noBlock := h.noBlock.mono (List.prefix_append s y).isInfix
  noSelect := by
    rw [← holdsWord_trim solid_select, ← trim_append_blank hy, holdsWord_trim solid_select]
    exact h.noSelect
  noFrom := fun p q hf => h.noFrom p (q ++ y) (hf.append_blank hy)
  noClause := h.noClause.of_append_blank hy

/-! ## 2. Cutting a bare list out -/

theorem BareList.quiet {s : List Char} (h : BareList s) (ab : Bool) : Quiet 0 ab (' ' :: s) := by
  have hblank : isBlankText [' '] = true := rfl
  have hq := quiet_between (noLetter_of_blank hblank) (noParen_of_blank hblank)
    (y := []) (fun c hc => absurd hc List.not_mem_nil) h.noFrom ab
  rwa [List.append_nil] at hq

theorem BareList.free_cons {s : List Char} (h : BareList s) :
    Free '-' '-' (' ' :: s) ∧ Free '/' '*' (' ' :: s) :=
  ⟨Remark.free_cons.mpr ⟨by simp, h.noLine⟩, Remark.free_cons.mpr ⟨by simp, h.noBlock⟩⟩

/-- **Between SELECT and FROM, a bare list is what is cut out**, whatever comes after. -/
theorem selectFromClause_list {s : List Char} (h : BareList s) (hd : depthAfter 0 s = 0)
    {r : List Char} (hr : ∀ c ∈ r.head?, isBlank c = true) :
    selectFromClause ("SELECT".toList ++ ' ' :: (s ++ ' ' :: ("FROM".toList ++ r))) =
      some (trim s) := by
  have hscan : beforeFrom .code 0 false ((' ' :: s) ++ ' ' :: ("FROM".toList ++ r)) =
      some ((' ' :: s) ++ [' ']) := by
    have hdepth : depthAfter 0 (' ' :: s) = 0 := hd
    rw [beforeFrom_append_blank (b := ' ') rfl _ h.free_cons.1 h.free_cons.2 (h.quiet false),
      hdepth, beforeFrom_stop (by decide) hr]
    rfl
  rw [selectFromClause, afterSelect_word rfl, Option.bind_some, ← List.cons_append, hscan,
    Option.map_some, ← List.singleton_append, trim_between rfl rfl]

/-- After SELECT alone, the scan finds no FROM in a bare list, and all of it is cut out. -/
theorem selectClauses_list {s : List Char} (h : BareList s) :
    selectFromClause ("SELECT".toList ++ ' ' :: s) = none ∧
      selectOnlyClause ("SELECT".toList ++ ' ' :: s) = some (trim s) := by
  constructor
  · rw [selectFromClause, afterSelect_word rfl, Option.bind_some,
      beforeFrom_quiet h.free_cons.1 h.free_cons.2 (h.quiet false)]
    rfl
  · rw [selectOnlyClause, afterSelect_word rfl, Option.map_some,
      beforeClause_eq_self.mpr (NoClause.blank_cons rfl h.noClause), ← List.singleton_append,
      trim_blank_append rfl]

theorem trim_selectFrom (s t : List Char) :
    trim ("SELECT".toList ++ ' ' :: (s ++ ' ' :: ("FROM".toList ++ ' ' :: t))) =
      "SELECT".toList ++ ' ' :: (s ++ ' ' :: ("FROM".toList ++ trimEnd (' ' :: t))) := by
  have hlast : ∀ c ∈ (("SELECT".toList ++ ' ' :: s) ++ " FROM".toList).getLast?,
      isBlank c = false := by
    intro c hc
    rw [List.getLast?_append_of_ne_nil _ (by decide)] at hc
    obtain rfl := Option.some.inj hc
    decide
  have hhead : ∀ c ∈ (("SELECT".toList ++ ' ' :: s) ++ " FROM".toList).head?,
      isBlank c = false := by
    intro c hc
    obtain rfl := Option.some.inj hc
    decide
  have h := trim_append (by simp) hhead hlast (' ' :: t)
  simp only [List.append_assoc, List.cons_append] at h
  exact h

theorem trim_select {s : List Char} (hs : isBlankText s = false) :
    trim ("SELECT".toList ++ ' ' :: s) = "SELECT".toList ++ ' ' :: trimEnd s := by
  have hhead : ∀ c ∈ "SELECT".toList.head?, isBlank c = false :=
    fun c hc => Option.some.inj hc ▸ rfl
  have hlast : ∀ c ∈ "SELECT".toList.getLast?, isBlank c = false :=
    fun c hc => Option.some.inj hc ▸ rfl
  rw [trim_append (by decide) hhead hlast, ← List.singleton_append, trimEnd_append hs]
  rfl

/-- The fields of a bare list are the fields of the select list that it makes. -/
theorem readClause_of_parseFields {list : String} {fs : List Field} (h : BareList list.toList)
    (hfs : parseFields list = .ok fs) :
    fs ≠ [] ∧ depthAfter 0 list.toList = 0 ∧ ∃ n, readClause (trim list.toList) = .ok ⟨n, fs⟩ := by
  have hselect : afterSelect (trim list.toList) = none := by
    rw [afterSelect, ← holdsWord_eq_false_iff, holdsWord_trim solid_select]
    exact h.noSelect
  obtain ⟨hne, n, hread⟩ := readList_of_parseFields hselect hfs
  obtain ⟨x, y, hx, hy, hs⟩ := exists_trim list.toList
  have hin : trim list.toList <:+: list.toList := ⟨x, y, hs.symm⟩
  have hbal : Balanced (trim list.toList) := by
    have hb := balanced_of_readList hread
    rwa [strip_free (h.noLine.mono hin) (h.noBlock.mono hin)] at hb
  refine ⟨hne, ?_, n, ?_⟩
  · rw [hs, depthAfter_append, depthAfter_append, depthAfter_noParen (noParen_of_blank hx), hbal.2,
      depthAfter_noParen (noParen_of_blank hy)]
  · rw [readClause_free (h.noLine.mono hin)]
    exact hread

/-! ## 3. The three shapes -/

/-- Between SELECT and FROM, a bare list has the fields that it has alone, whatever comes after. -/
theorem parseFields_between {list : String} {fs : List Field} (h : BareList list.toList)
    (hfs : parseFields list = .ok fs) (tail : String) :
    parseFields ("SELECT " ++ list ++ " FROM " ++ tail) = .ok fs := by
  obtain ⟨hne, hdepth, n, hread⟩ := readClause_of_parseFields h hfs
  have htext : ("SELECT " ++ list ++ " FROM " ++ tail).toList =
      "SELECT".toList ++ ' ' :: (list.toList ++ ' ' :: ("FROM".toList ++ ' ' :: tail.toList)) := by
    simp [String.toList_append]
  have hhead : ∀ c ∈ (trimEnd (' ' :: tail.toList)).head?, isBlank c = true := by
    intro c hc
    obtain rfl := head_trimEnd c hc
    rfl
  have hclause : selectFromClause (trim ("SELECT " ++ list ++ " FROM " ++ tail).toList) =
      some (trim list.toList) := by
    rw [htext, trim_selectFrom]
    exact selectFromClause_list h hdepth hhead
  exact parseFields_selectFrom hclause hread hne

/-- After SELECT, a bare list has the fields that it has alone. -/
theorem parseFields_after {list : String} {fs : List Field} (h : BareList list.toList)
    (hfs : parseFields list = .ok fs) : parseFields ("SELECT " ++ list) = .ok fs := by
  obtain ⟨hne, -, n, hread⟩ := readClause_of_parseFields h hfs
  obtain ⟨y, hy, hs⟩ := exists_trimEnd list.toList
  have hblank : isBlankText list.toList = false := by
    rw [← Bool.not_eq_true]
    intro hb
    rw [parseFields_blank (trim_of_blank hb)] at hfs
    cases hfs
  have htext : ("SELECT " ++ list).toList = "SELECT".toList ++ ' ' :: list.toList := by
    simp [String.toList_append]
  have hbare : BareList (trimEnd list.toList) := by
    refine BareList.of_append_blank hy ?_
    rw [← hs]
    exact h
  have hclause : trim (trimEnd list.toList) = trim list.toList := by
    conv_rhs => rw [hs]
    rw [trim_append_blank hy]
  have hcut := selectClauses_list hbare
  rw [← trim_select hblank, ← htext, hclause] at hcut
  exact parseFields_selectOnly hcut.1 hcut.2 hread hne

/-- **A bare list has the same fields alone, after SELECT, and between SELECT and FROM**, whatever
follows the FROM. With fewer than two to the power of 31 parentheses no counter of them overflows in any
of the three. -/
theorem parseFields_bareList {list : String} {fs : List Field} (h : BareList list.toList)
    (hfs : parseFields list = .ok fs) :
    (∀ tail : String, parseFields ("SELECT " ++ list ++ " FROM " ++ tail) = .ok fs) ∧
      parseFields ("SELECT " ++ list) = .ok fs ∧
      ∀ tail : String, parens (list ++ tail).toList < counterLimit →
        CountersFit list ∧ CountersFit ("SELECT " ++ list) ∧
          CountersFit ("SELECT " ++ list ++ " FROM " ++ tail) := by
  refine ⟨parseFields_between h hfs, parseFields_after h hfs, fun tail hfew => ?_⟩
  have hselect : parens "SELECT ".toList = 0 := by decide
  have hfrom : parens " FROM ".toList = 0 := by decide
  rw [String.toList_append, parens_append] at hfew
  refine ⟨countersFit_of_parens (by omega), countersFit_of_parens ?_, countersFit_of_parens ?_⟩
  · rw [String.toList_append, parens_append, hselect]
    omega
  · simp only [String.toList_append, parens_append, hselect, hfrom]
    omega

/-- A nested FROM is none of the query's, whatever else comes after the list. -/
theorem parseFields_bareList_nested :
    BareList "a AS x, day(b from c) , d ".toList ∧
      (∀ tail : String,
        parseFields ("SELECT " ++ "a AS x, day(b from c) , d " ++ " FROM " ++ tail) =
          .ok [⟨"x", some "x", "x"⟩, ⟨"d", none, "d"⟩]) ∧
      parseFields ("SELECT " ++ "a AS x, day(b from c) , d ") =
        .ok [⟨"x", some "x", "x"⟩, ⟨"d", none, "d"⟩] := by
  have h : BareList "a AS x, day(b from c) , d ".toList := {
    noLine := by decide
    noBlock := by decide
    noSelect := by decide +kernel
    noFrom := by decide +kernel
    noClause := by decide +kernel }
  obtain ⟨hbetween, hafter, -⟩ := parseFields_bareList h rfl
  exact ⟨h, hbetween, hafter⟩

end TableDraft.Select

import Mathlib.Data.List.Forall2
import TableDraft.Proofs.Select.ListCuts
import TableDraft.Proofs.Select.PrintedSelect

/-!
# Reading a printed query without FROM

Where a query has no FROM, its list ends before the first keyword of a later clause, and the search for
it looks into remarks too. A printed query without a FROM is therefore read up to the first remark with
such a keyword in it, and the expressions on the lines after that one are lost.

* `readList_trim`, `selectOnlyClause_trim`, `selectFromClause_trim`: blanks around a list or a query
  change nothing;
* `untilKeyword`, **`exists_beforeClause_body`: the list ends in the first remark with a keyword**;
* `readClause_body_shown`: the names and aliases of a printed list are those of its expressions;
* **`parseFields_printOnly`: the fields are the expressions up to that remark**, and so all of them exactly
  if no remark but the last holds a keyword;
* `parseFields_printOnly_cut`: a query that loses a column.
-/

namespace TableDraft.Select

open Text Remark

/-! ## 1. Blanks around a query -/

theorem readList_append_blank {y : List Char} (hy : isBlankText y = true) (t : Option RemarkTable)
    (s : List Char) : readList t (s ++ y) = readList t s := by
  obtain ⟨z, hz, hstrip⟩ := strip_append_blank hy s
  have hiff : Balanced (strip (s ++ y)) ↔ Balanced (strip s) := by
    rw [hstrip]
    exact balanced_append_blank hz
  by_cases hb : Balanced (strip s)
  · rw [readList_balanced (hiff.mpr hb), readList_balanced hb, hstrip, pieces_append_blank hz]
  · rw [readList_unbalanced (fun h => hb (hiff.mp h)), readList_unbalanced hb, hstrip,
      trim_append_blank hz]

theorem readList_blank_append {x : List Char} (hx : isBlankText x = true) (t : Option RemarkTable)
    (s : List Char) : readList t (x ++ s) = readList t s :=
  readList_of_strip hx (strip_blank_append hx s) t

theorem readList_trim (t : Option RemarkTable) (s : List Char) :
    readList t (trim s) = readList t s := by
  obtain ⟨x, y, hx, hy, hs⟩ := exists_trim s
  conv_rhs => rw [hs]
  rw [readList_append_blank hy, readList_blank_append hx]

theorem beforeClause_of_blank : ∀ {y : List Char}, isBlankText y = true → ∀ w, beforeClause w y = y
  | [], _, _ => rfl
  | c :: y, hy, w => by
      rw [isBlankText_cons, Bool.and_eq_true] at hy
      rw [beforeClause_blank hy.1, beforeClause_of_blank hy.2]

/-- Blanks after a text leave blanks after what is before its first keyword, or nothing. -/
theorem trim_beforeClause {y : List Char} (hy : isBlankText y = true) (w : Bool) (s : List Char) :
    trim (beforeClause w (s ++ y)) = trim (beforeClause w s) := by
  rw [beforeClause_append (apart_blank hy), beforeClause_of_blank hy]
  split
  · rename_i hs
    rw [trim_append_blank hy, hs]
  · rfl

theorem selectOnlyClause_trim (s : List Char) : selectOnlyClause (trim s) = selectOnlyClause s := by
  obtain ⟨y, hy, h⟩ := exists_afterWord_trim solid_select s
  have hafter : afterSelect s = (afterSelect (trim s)).map (· ++ y) := h
  rw [selectOnlyClause, selectOnlyClause, hafter, Option.map_map]
  refine congrArg (fun f => (afterSelect (trim s)).map f) (funext fun r => ?_)
  exact (trim_beforeClause hy false r).symm

theorem selectFromClause_trim {s : List Char} (h : selectFromClause s = none) :
    selectFromClause (trim s) = none := by
  obtain ⟨y, hy, hselect⟩ := exists_afterWord_trim solid_select s
  have hafter : afterSelect s = (afterSelect (trim s)).map (· ++ y) := hselect
  rw [selectFromClause, hafter, Option.map_eq_none_iff, Option.bind_map] at h
  rw [selectFromClause, Option.map_eq_none_iff, Option.eq_none_iff_forall_ne_some]
  intro p hp
  obtain ⟨r, hr, hscan⟩ := Option.bind_eq_some_iff.mp hp
  rw [hr, Option.bind_some, Function.comp_apply, beforeFrom_append_blanks hy hscan] at h
  cases h

/-! ## 2. The end of a printed list -/

/-- A query without FROM with the items as its list. -/
def printOnly (i : Item) (is : List Item) : List Char := "SELECT\n ".toList ++ printBody i is

/-- The items up to the first whose remark holds a keyword of a later clause. -/
def untilKeyword : List Item → List Item
  | [] => []
  | i :: is => if NoClause i.remark then i :: untilKeyword is else [i]

theorem untilKeyword_isPrefix : ∀ l : List Item, untilKeyword l <+: l
  | [] => List.prefix_rfl
  | i :: is => by
      rw [untilKeyword]
      split
      · exact List.cons_prefix_cons.mpr ⟨rfl, untilKeyword_isPrefix is⟩
      · exact List.cons_prefix_cons.mpr ⟨rfl, List.nil_prefix⟩

/-- All items are left if no remark but the last holds a keyword. -/
theorem untilKeyword_eq_self_iff : ∀ {l : List Item},
    untilKeyword l = l ↔ ∀ j ∈ l.dropLast, NoClause j.remark
  | [] => iff_of_true rfl nofun
  | [i] => by
      refine iff_of_true ?_ nofun
      rw [untilKeyword]
      split <;> rfl
  | i :: j :: js => by
      rw [untilKeyword, List.dropLast_cons_cons, List.forall_mem_cons]
      split
      · rename_i hi
        rw [List.cons.injEq, and_iff_right rfl, and_iff_right hi]
        exact untilKeyword_eq_self_iff
      · rename_i hi
        exact iff_of_false (by simp) fun h => hi h.1

/-- The item with its remark cut before the first keyword in it. -/
def Item.cutRemark (i : Item) : Item := { i with remark := beforeClause false i.remark }

theorem Item.Legible.cutRemark {i : Item} (h : i.Legible) : i.cutRemark.Legible :=
  { h with remark_oneLine := fun hm => h.remark_oneLine ((beforeClause_isPrefix _ _).subset hm) }

/-- No keyword starts before the text of a remark. -/
theorem beforeClause_line {e : List Char} (he : NoClause e) (t : List Char) :
    beforeClause false (e ++ " -- ".toList ++ t) = e ++ " -- ".toList ++ beforeClause false t := by
  have hblank : isBlankText [' '] = true := rfl
  have hexpr : beforeClause false (e ++ [' ']) = e ++ [' '] := by
    rw [beforeClause_append (apart_blank hblank), if_pos (beforeClause_eq_self.mpr he),
      beforeClause_of_blank hblank]
  have hsplit : ∀ u, e ++ " -- ".toList ++ u = (e ++ [' ']) ++ '-' :: '-' :: ' ' :: u := by
    intro u
    simp
  rw [hsplit, hsplit, beforeClause_append (apart_break break_dash _), if_pos hexpr,
    beforeClause_break break_dash, beforeClause_break break_dash, beforeClause_blank rfl]

/-- **The list ends in the first remark with a keyword**: what is before it is a printed list with the
expressions up to there. -/
theorem exists_beforeClause_body : ∀ {i : Item} {is : List Item},
    (∀ j ∈ i :: is, j.Legible ∧ NoClause j.expr) → ∃ j js,
      beforeClause false (printBody i is) = printBody j js ∧ (∀ k ∈ j :: js, k.Legible) ∧
      (j :: js).map Item.expr = (untilKeyword (i :: is)).map Item.expr
  | i, [], h => by
      obtain ⟨hi, hexpr⟩ := h i List.mem_cons_self
      refine ⟨i.cutRemark, [], ?_, List.forall_mem_singleton.mpr hi.cutRemark, ?_⟩
      · have hone : ∀ k : Item, printBody k [] = k.line := fun k => List.append_nil k.line
        rw [hone, hone]
        exact beforeClause_line hexpr i.remark
      · rw [untilKeyword]
        split <;> rfl
  | i, j :: js, h => by
      obtain ⟨hi, hexpr⟩ := h i List.mem_cons_self
      have hblank : isBlankText "\n ".toList = true := by decide
      have hsplit : ∀ k ks r, i.expr ++ " -- ".toList ++ r ++ '\n' :: (" ,".toList ++ printBody k ks) =
          i.expr ++ " -- ".toList ++ (r ++ ("\n ".toList ++ ',' :: printBody k ks)) := by
        intro k ks r
        simp
      rw [printBody_cons, Item.line, hsplit, beforeClause_line hexpr,
        beforeClause_append (apart_blank_break break_comma _ hblank), untilKeyword]
      by_cases hremark : NoClause i.remark
      · -- the keyword is in a later remark, or nowhere
        obtain ⟨k, ks, hbody, hlegible, hexprs⟩ :=
          exists_beforeClause_body fun k hk => h k (List.mem_cons_of_mem i hk)
        refine ⟨i, k :: ks, ?_, List.forall_mem_cons.mpr ⟨hi, hlegible⟩, ?_⟩
        · have hcomma : ∀ w, beforeClause w ("\n ".toList ++ ',' :: printBody j js) =
              "\n ".toList ++ ',' :: printBody k ks := by
            intro w
            have hlead : "\n ".toList = ['\n', ' '] := by decide
            simp only [hlead, List.cons_append, List.nil_append]
            rw [beforeClause_blank rfl, beforeClause_blank rfl, beforeClause_break break_comma, hbody]
          rw [if_pos (beforeClause_eq_self.mpr hremark), hcomma, printBody_cons, Item.line, hsplit]
        · rw [if_pos hremark, List.map_cons, hexprs, List.map_cons]
      · refine ⟨i.cutRemark, [], ?_, List.forall_mem_singleton.mpr hi.cutRemark, ?_⟩
        · rw [if_neg (mt beforeClause_eq_self.mp hremark)]
          exact (List.append_nil _).symm
        · rw [if_neg hremark]
          rfl

theorem afterSelect_printOnly (i : Item) (is : List Item) (t : List Char) :
    afterSelect (printOnly i is ++ t) = some ('\n' :: (" ".toList ++ printBody i is ++ t)) := by
  have hstart : "SELECT\n ".toList = "SELECT".toList ++ '\n' :: " ".toList := by decide
  have hsplit : printOnly i is ++ t =
      "SELECT".toList ++ '\n' :: (" ".toList ++ printBody i is ++ t) := by
    unfold printOnly
    generalize printBody i is = body
    rw [hstart]
    simp only [List.append_assoc, List.cons_append]
  rw [hsplit, afterSelect_word rfl]

section Clauses

variable {i : Item} {is : List Item}

/-- Nothing is found behind the last line, and so no FROM at all. -/
theorem selectFromClause_printOnly (h : ∀ j ∈ i :: is, j.Legible) :
    selectFromClause (trim (printOnly i is)) = none := by
  rw [← trim_append_blank (y := ['\n']) rfl]
  refine selectFromClause_trim ?_
  rw [selectFromClause, afterSelect_printOnly, Option.bind_some, beforeFrom_newline (Or.inl rfl),
    beforeFrom_lines [] (fun j hj => (h j hj).readable) lead_blank]
  rfl

theorem exists_selectOnlyClause_printOnly (h : ∀ j ∈ i :: is, j.Legible ∧ NoClause j.expr) :
    ∃ j js, selectOnlyClause (trim (printOnly i is)) = some (trim (printBody j js)) ∧
      (∀ k ∈ j :: js, k.Legible) ∧
      (j :: js).map Item.expr = (untilKeyword (i :: is)).map Item.expr := by
  obtain ⟨j, js, hbody, hlegible, hexprs⟩ := exists_beforeClause_body h
  refine ⟨j, js, ?_, hlegible, hexprs⟩
  have hafter := afterSelect_printOnly i is []
  rw [List.append_nil, List.append_nil] at hafter
  have hstart : '\n' :: (" ".toList ++ printBody i is) = '\n' :: ' ' :: printBody i is := rfl
  rw [selectOnlyClause_trim, selectOnlyClause, hafter, Option.map_some, hstart,
    beforeClause_blank rfl, beforeClause_blank rfl, hbody]
  exact congrArg some (trim_blank_append (x := ['\n', ' ']) rfl _)

end Clauses

/-! ## 3. Names and aliases -/

/-- The name and the alias of the field are those that the expression has without any remark. -/
def Shown (e : List Char) (f : Field) : Prop :=
  ∃ g, Field.ofExpression? none e = some g ∧ f.name = g.name ∧ f.alias? = g.alias?

/-- **Remarks change neither the name nor the alias.** -/
theorem shown_of_ofExpression? {t : Option RemarkTable} {e : List Char} {f : Field}
    (h : Field.ofExpression? t e = some f) : Shown e f := by
  obtain ⟨-, rfl⟩ := Field.eq_ofSource h
  exact ⟨_, Field.ofExpression?_of_some h none, rfl, rfl⟩

theorem readClause_body_shown {i : Item} {is : List Item} (h : ∀ j ∈ i :: is, j.Legible) :
    ∃ n fs, readClause (trim (printBody i is)) = .ok ⟨n, fs⟩ ∧
      List.Forall₂ Shown ((i :: is).map Item.expr) fs := by
  rw [readClause, readList_trim, readList_body fun j hj => (h j hj).readable]
  refine ⟨_, _, rfl, List.forall₂_map_left_iff.mpr (forall₂_filterMap fun j hj => ?_)⟩
  obtain ⟨f, hf⟩ := Option.isSome_iff_exists.mp ((h j hj).readable.isSome_ofExpression? _)
  exact ⟨f, hf, shown_of_ofExpression? hf⟩

/-! ## 4. Reading a printed query without FROM -/

section Reading

variable {i : Item} {is : List Item} (h : ∀ j ∈ i :: is, j.Legible ∧ NoClause j.expr)
include h

theorem exists_fields_printOnly : ∃ fs, parseFields (String.ofList (printOnly i is)) = .ok fs ∧
    List.Forall₂ Shown ((untilKeyword (i :: is)).map Item.expr) fs := by
  obtain ⟨j, js, hclause, hlegible, hexprs⟩ := exists_selectOnlyClause_printOnly h
  obtain ⟨n, fs, hread, hall⟩ := readClause_body_shown hlegible
  have hnone := selectFromClause_printOnly fun k hk => (h k hk).1
  have htext : (String.ofList (printOnly i is)).toList = printOnly i is := String.toList_ofList
  rw [← htext] at hclause hnone
  refine ⟨fs, parseFields_selectOnly hnone hclause hread ?_, hexprs ▸ hall⟩
  rintro rfl
  cases hall

/-- **A printed query without FROM is read up to the first remark that holds a keyword of a later
clause**: its fields are the expressions up to there, in order, by name and alias. So it is read in full
exactly if no remark but the last holds one. -/
theorem parseFields_printOnly :
    (∃ fs, parseFields (String.ofList (printOnly i is)) = .ok fs ∧
      List.Forall₂ Shown ((untilKeyword (i :: is)).map Item.expr) fs) ∧
    ((∃ fs, parseFields (String.ofList (printOnly i is)) = .ok fs ∧
        List.Forall₂ Shown ((i :: is).map Item.expr) fs) ↔
      ∀ j ∈ (i :: is).dropLast, NoClause j.remark) := by
  have hread := exists_fields_printOnly h
  refine ⟨hread, ?_⟩
  rw [← untilKeyword_eq_self_iff]
  constructor
  · rintro ⟨fs, hfs, hall⟩
    obtain ⟨fs', hfs', hall'⟩ := hread
    obtain rfl := Except.ok.inj (hfs.symm.trans hfs')
    have hlen := hall'.length_eq.trans hall.length_eq.symm
    rw [List.length_map, List.length_map] at hlen
    exact (untilKeyword_isPrefix _).eq_of_length hlen
  · intro hself
    rw [hself] at hread
    exact hread

end Reading

/-- A query whose remarks hold FROM, marks and a parenthesis, and a keyword only at the end, is read in
full. -/
theorem parseFields_printOnly_full :
    (∀ j ∈ [Item.mk "a".toList "FROM t, ( /*".toList, Item.mk "f(x, y) AS b".toList "order by x".toList],
      j.Legible ∧ NoClause j.expr) ∧
    ∃ fs, parseFields "SELECT\n a -- FROM t, ( /*\n ,f(x, y) AS b -- order by x" = .ok fs ∧
      List.Forall₂ Shown ["a".toList, "f(x, y) AS b".toList] fs := by
  have h : ∀ j ∈ [Item.mk "a".toList "FROM t, ( /*".toList,
      Item.mk "f(x, y) AS b".toList "order by x".toList], j.Legible ∧ NoClause j.expr := by
    decide +kernel
  refine ⟨h, (parseFields_printOnly h).2.mpr ?_⟩
  rw [List.dropLast_cons_cons, List.dropLast_singleton, List.forall_mem_singleton]
  decide +kernel

/-- **A keyword in a remark costs the columns after it**: the column `b` is lost, though both expressions
are legible and without keywords. -/
theorem parseFields_printOnly_cut :
    (∀ j ∈ [Item.mk "a".toList "where".toList, Item.mk "b".toList "c".toList],
      j.Legible ∧ NoClause j.expr) ∧
    String.ofList (printOnly ⟨"a".toList, "where".toList⟩ [⟨"b".toList, "c".toList⟩]) =
      "SELECT\n a -- where\n ,b -- c" ∧
    parseFields "SELECT\n a -- where\n ,b -- c" = .ok [⟨"a", none, "a"⟩] ∧
    ¬ ∃ fs, parseFields "SELECT\n a -- where\n ,b -- c" = .ok fs ∧
      List.Forall₂ Shown ["a".toList, "b".toList] fs := by
  have hread : parseFields "SELECT\n a -- where\n ,b -- c" = .ok [⟨"a", none, "a"⟩] := rfl
  refine ⟨?_, by decide, hread, ?_⟩
  · decide +kernel
  · rintro ⟨fs, hfs, hall⟩
    obtain rfl := Except.ok.inj (hfs.symm.trans hread)
    exact absurd hall.length_eq (by decide)

end TableDraft.Select

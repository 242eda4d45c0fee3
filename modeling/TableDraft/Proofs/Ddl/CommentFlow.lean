import Mathlib.Data.List.Find
import TableDraft.Ddl.Draft
import TableDraft.Pattern.Engine
import TableDraft.Proofs.Ddl.CommentLiterals
import TableDraft.Proofs.Text.Caseless

/-!
# Where comments go

A comment stands in its literal, and it has a say in the type of its column in two ways only
(`infer_congr`): a rule that looks at comments, and the mark of a currency code. **Without these, fields
with the same names have the same types, the same key column and the same statement outside of the
literals of their comments** (`same_outside_comments`).
-/

namespace TableDraft

open Text

/-! ## 1. Types -/

namespace Inference

/-- **The two ways in which a comment has a say**: where every rule answers the same for two comments,
and both or none have the mark of a currency code, the type is the same. -/
theorem infer_congr [PatternEngine] {name comment comment' : String} {rules : List TypeRule}
    (hrules : ∀ r ∈ rules, r.admits (Naming.normalize name) (Naming.normalize comment) =
      r.admits (Naming.normalize name) (Naming.normalize comment'))
    (hmark : contains currencyMark.toList (Naming.normalize comment).toList =
      contains currencyMark.toList (Naming.normalize comment').toList) :
    infer name comment rules = infer name comment' rules := by
  have hfind : findRule? (Naming.normalize name) (Naming.normalize comment) rules =
      findRule? (Naming.normalize name) (Naming.normalize comment') rules := by
    refine List.find?_congr fun r hr => hrules r.1 ?_
    have hplace := List.mem_zipIdx' ((List.mergeSort_perm ..).mem_iff.mp hr)
    exact hplace.2 ▸ List.getElem_mem hplace.1
  have hmarks : byMarks (Naming.normalize name) (Naming.normalize comment) =
      byMarks (Naming.normalize name) (Naming.normalize comment') := by
    simp only [byMarks, hmark]
  rw [infer, infer, hfind, hmarks]

/-- A comment in lower case has the mark only if the comment has. -/
theorem contains_mark {comment : String} (h : ¬ currencyMark.toList <:+: comment.toList) :
    contains currencyMark.toList (Naming.normalize comment).toList = false := by
  rw [← Bool.not_eq_true, contains_iff, Naming.normalize, String.toList_ofList]
  intro hin
  have hcaseless : currencyMark.toList.all caseless = true := by decide +kernel
  exact h ((infix_of_infix_lower (List.all_eq_true.mp hcaseless) hin).trans (trim_isInfix _))

/-- Without rules for comments and without the mark, the name alone decides. -/
theorem infer_of_name [PatternEngine] {rules : List TypeRule} (hrules : ∀ r ∈ rules, r.target = .name)
    {comment : String} (hmark : ¬ currencyMark.toList <:+: comment.toList) (name : String) :
    infer name comment rules = infer name "" rules := by
  refine infer_congr (fun r hr => ?_) ?_
  · rw [TypeRule.admits, TypeRule.admits, hrules r hr]
  · rw [contains_mark hmark, contains_mark (by decide)]

end Inference

/-! ## 2. Statements -/

namespace Ddl

open Select

/-- The parts of the statement for the fields. -/
def draftParts [PatternEngine] (fields : List Field) (rules : List TypeRule) (id : String)
    (options : TableOptions) : List Part :=
  let d := Dialect.resolve id
  statementParts d.conventions (resolveColumns fields rules d) (primaryKey? fields) options

theorem textOf_draftParts [PatternEngine] (fields : List Field) (rules : List TypeRule) (id : String)
    (options : TableOptions) :
    textOf (draftParts fields rules id options) = (draft fields rules id options).toList :=
  textOf_statementParts ..

theorem commentsOn_draftParts [PatternEngine] (fields : List Field) (rules : List TypeRule) (id : String)
    (options : TableOptions) : commentsOn .column (draftParts fields rules id options) =
      fields.map (·.comment.toList) := by
  rw [draftParts, (commentsOn_statementParts ..).2, resolveColumns, List.map_map]
  rfl

/-- The key column depends on the names only. -/
theorem primaryKey?_congr {fields fields' : List Field}
    (h : fields.map (·.name) = fields'.map (·.name)) : primaryKey? fields = primaryKey? fields' := by
  have hnames : ∀ fs : List Field, primaryKey? fs =
      (((fs.map (·.name)).find? Naming.isIdentifierCode).or
        ((fs.map (·.name)).find? Naming.isGenericId)).or (fs.map (·.name)).head? := by
    intro fs
    simp only [primaryKey?, List.find?_map, List.head?_map, Option.map_or, Function.comp_def]
  rw [hnames, hnames, h]

section NameRules

variable [PatternEngine] {rules : List TypeRule} (hrules : ∀ r ∈ rules, r.target = .name)
include hrules

/-- Names and types, where the name alone decides on the type. -/
theorem typed_resolveColumns {fields : List Field}
    (hmark : ∀ f ∈ fields, ¬ Inference.currencyMark.toList <:+: f.comment.toList) (d : Dialect) :
    (resolveColumns fields rules d).map Column.typed =
      (fields.map (·.name)).map (fun n => (n, (Inference.infer n "" rules).columnType d)) := by
  rw [resolveColumns, List.map_map, List.map_map]
  refine List.map_congr_left fun f hf => ?_
  have htype := Inference.infer_of_name hrules (hmark f hf) f.name
  simp only [Function.comp_apply, Column.typed, htype]

/-- **Fields with the same names have the same types, the same key column and the same statement
outside of the literals of their comments**, if no rule looks at comments and no comment has the mark
of a currency code. -/
theorem same_outside_comments {fields fields' : List Field}
    (hnames : fields.map (·.name) = fields'.map (·.name))
    (hmark : ∀ f ∈ fields ++ fields', ¬ Inference.currencyMark.toList <:+: f.comment.toList) :
    (∀ d, (resolveColumns fields rules d).map Column.typed =
      (resolveColumns fields' rules d).map Column.typed) ∧
    primaryKey? fields = primaryKey? fields' ∧
    ∀ id options,
      let ps := draftParts fields rules id options
      let ps' := draftParts fields' rules id options
      (draft fields rules id options).toList = textOf ps ∧
      (draft fields' rules id options).toList = textOf ps' ∧
      commentsOn .column ps = fields.map (·.comment.toList) ∧
      commentsOn .column ps' = fields'.map (·.comment.toList) ∧
      ps.map (Part.outside [.column]) = ps'.map (Part.outside [.column]) := by
  rw [List.forall_mem_append] at hmark
  have htyped : ∀ d, (resolveColumns fields rules d).map Column.typed =
      (resolveColumns fields' rules d).map Column.typed := by
    intro d
    rw [typed_resolveColumns hrules hmark.1, typed_resolveColumns hrules hmark.2, hnames]
  have hkey := primaryKey?_congr hnames
  refine ⟨htyped, hkey, fun id options => ⟨(textOf_draftParts ..).symm, (textOf_draftParts ..).symm,
    commentsOn_draftParts .., commentsOn_draftParts .., ?_⟩⟩
  rw [draftParts, draftParts, hkey]
  exact outside_statementParts List.mem_cons_self (htyped _) _ _ rfl (Or.inr rfl)

end NameRules

/-- Two comments on an amount, one with a quote in it, make one type and differ in the literal only. -/
theorem same_outside_comments_of_amount :
    (resolveColumns [⟨"amt", none, "it's"⟩] [TypeRule.ofKeywords ["x"] "DATE"] .mySql).map
        Column.typed =
      (resolveColumns [⟨"amt", some "amt", ""⟩] [TypeRule.ofKeywords ["x"] "DATE"] .mySql).map
        Column.typed ∧
    (draftParts [⟨"amt", none, "it's"⟩] [TypeRule.ofKeywords ["x"] "DATE"] "mysql" .default).map
        (Part.outside [.column]) =
      (draftParts [⟨"amt", some "amt", ""⟩] [TypeRule.ofKeywords ["x"] "DATE"] "mysql" .default).map
        (Part.outside [.column]) := by
  have hrules : ∀ r ∈ [TypeRule.ofKeywords ["x"] "DATE"], r.target = .name := by decide
  have hnames : [(⟨"amt", none, "it's"⟩ : Field)].map (·.name) =
      [(⟨"amt", some "amt", ""⟩ : Field)].map (·.name) := rfl
  have hsame := same_outside_comments hrules hnames (by decide)
  exact ⟨hsame.1 .mySql, (hsame.2.2 "mysql" .default).2.2.2.2⟩

end Ddl

end TableDraft

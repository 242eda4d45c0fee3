import TableDraft.Proofs.Select.FieldReading

/-!
# The parts of a field

What can be said of every field, from the two ways to an alias and from the dropping of DISTINCT:

* `name_of_alias?_eq_some`, `name_of_alias?_eq_none`: the name is the alias, or else the expression without
  DISTINCT;
* `name_ne_empty`: no field is without a name, since none of these is empty;
* `comment_ofSource`: the comment is the name or one of the remarks;
* `ofExpression?_decided` puts these together, and says which expressions are no fields.
-/

namespace TableDraft.Select

open Text

namespace Field

theorem exists_of_remarkOn? {table : RemarkTable} {source name : List Char}
    {alias? : Option (List Char)} {r : String} (h : remarkOn? table source name alias? = some r) :
    ∃ x, table.get? x = some r := by
  rw [remarkOn?, Option.or_eq_some_iff, Option.or_eq_some_iff] at h
  rcases h with (h | ⟨-, h⟩) | ⟨-, h⟩
  · exact ⟨source, h⟩
  · exact ⟨name, h⟩
  · obtain ⟨a, -, ha⟩ := Option.bind_eq_some_iff.mp h
    exact ⟨a, ha⟩

section Source

variable {t : Option RemarkTable} {s : List Char}

theorem name_of_alias?_eq_some {a : String} (h : (ofSource t s).alias? = some a) :
    (ofSource t s).name = a ∧ Unquoted a.toList := by
  unfold ofSource at h ⊢
  rcases splitAlias_cases (trim (dropDistinct s)) with hsplit | ⟨name, b, hsplit, -, hb⟩
  · rw [hsplit] at h
    cases h
  · rw [hsplit] at h ⊢
    obtain rfl := Option.some.inj h
    exact ⟨rfl, by rwa [String.toList_ofList]⟩

theorem name_of_alias?_eq_none (ht : trim s = s) (h : (ofSource t s).alias? = none) :
    WithoutDistinct s (ofSource t s).name.toList := by
  unfold ofSource at h ⊢
  rcases splitAlias_cases (trim (dropDistinct s)) with hsplit | ⟨name, b, hsplit, -⟩
  · rw [hsplit]
    show WithoutDistinct s (String.ofList (trim (dropDistinct s))).toList
    rw [String.toList_ofList]
    exact withoutDistinct_dropDistinct ht
  · rw [hsplit] at h
    cases h

/-- **A field has a name**: neither an alias nor an expression without DISTINCT is empty. -/
theorem name_ne_empty (ht : trim s = s) (hne : s ≠ []) : (ofSource t s).name ≠ "" := by
  rw [Ne, ← String.toList_eq_nil_iff]
  cases h : (ofSource t s).alias? with
  | none => exact (name_of_alias?_eq_none ht h).ne_nil ht hne
  | some a =>
      obtain ⟨hname, ha⟩ := name_of_alias?_eq_some h
      rw [hname]
      exact ha.ne_nil

/-- The comment is the name or a remark of the table. -/
theorem comment_ofSource : (ofSource t s).comment = (ofSource t s).name ∨
    ∃ table x, t = some table ∧ table.get? x = some (ofSource t s).comment := by
  have hcomment : (ofSource t s).comment = (t.bind fun table => remarkOn? table s
      (splitAlias (trim (dropDistinct s))).1 (splitAlias (trim (dropDistinct s))).2).getD
      (ofSource t s).name := rfl
  rw [hcomment]
  cases hremark : t.bind fun table => remarkOn? table s (splitAlias (trim (dropDistinct s))).1
      (splitAlias (trim (dropDistinct s))).2 with
  | none => exact Or.inl rfl
  | some r =>
      obtain ⟨table, rfl, hr⟩ := Option.bind_eq_some_iff.mp hremark
      obtain ⟨x, hx⟩ := exists_of_remarkOn? hr
      exact Or.inr ⟨table, x, rfl, hx⟩

end Source

/-- **What is read from an expression.** It is no field exactly if it is blank, holds the word SELECT or
holds FROM between blanks. A field has a name; its alias, if there is one, is the name and is unquoted;
without an alias the name is the expression without DISTINCT; and its comment is the name or one of the
remarks. -/
theorem ofExpression?_decided (t : Option RemarkTable) (e : List Char) :
    (ofExpression? t e = none ↔
      trim e = [] ∨ WordIn "select".toList false (trim e) ∨ FromBetween (trim e)) ∧
    ∀ f, ofExpression? t e = some f → f.name ≠ "" ∧
      (∀ a, f.alias? = some a → f.name = a ∧ Unquoted a.toList) ∧
      (f.alias? = none → WithoutDistinct (trim e) f.name.toList) ∧
      (f.comment = f.name ∨ ∃ table x, t = some table ∧ table.get? x = some f.comment) := by
  refine ⟨ofExpression?_eq_none_iff, fun f h => ?_⟩
  obtain ⟨hne, rfl⟩ := eq_ofSource h
  exact ⟨name_ne_empty (trim_trim e) hne, fun a => name_of_alias?_eq_some,
    name_of_alias?_eq_none (trim_trim e), comment_ofSource⟩

/-- Two quotes with nothing in between are no alias, so AS stays in the name; DISTINCT does not. -/
theorem ofExpression?_decided_quotes :
    ofExpression? none "Distinct x AS ''".toList = some (ofName "x AS ''") ∧
    WithoutDistinct "Distinct x AS ''".toList "x AS ''".toList := by
  have hread : ofExpression? none "Distinct x AS ''".toList = some (ofName "x AS ''") := by
    decide +kernel
  have htrim : trim "Distinct x AS ''".toList = "Distinct x AS ''".toList := by decide
  obtain ⟨-, -, hname, -⟩ := (ofExpression?_decided none "Distinct x AS ''".toList).2 _ hread
  rw [htrim] at hname
  exact ⟨hread, hname rfl⟩

end Field

end TableDraft.Select

import TableDraft.Proofs.Select.FieldParts
import TableDraft.Proofs.Select.RemarkHistory
import TableDraft.Proofs.Select.ShapeOrder

/-!
# Line breaks in fields

What every field of a query has in common, however it is written: its name is not empty, and **its
comment holds a line break only if its name does**, since it is the name or a remark, which ends with
its line (`field_of_parseFields`). A query that can be read has a field (`ne_nil_of_parseFields`).
-/

namespace TableDraft.Select

open Text

/-! ## 1. Remarks -/

theorem notMem_of_mem_splitOn {x : Char} : ∀ {s l : List Char}, l ∈ s.splitOn x → x ∉ l
  | [], l, h => by
      rw [List.splitOn_nil, List.mem_singleton] at h
      rw [h]
      exact List.not_mem_nil
  | c :: s, l, h => by
      rw [List.splitOn_cons_eq_if_modifyHead] at h
      split at h
      · rcases List.mem_cons.mp h with rfl | h
        · exact List.not_mem_nil
        · exact notMem_of_mem_splitOn h
      · rename_i hc
        cases hs : s.splitOn x with
        | nil => exact absurd hs (List.splitOn_ne_nil x s)
        | cons m ms =>
            have hm : ∀ k ∈ m :: ms, x ∉ k := fun k hk => notMem_of_mem_splitOn (hs ▸ hk)
            rw [hs, List.modifyHead_cons] at h
            rcases List.mem_cons.mp h with rfl | h
            · rw [List.mem_cons, not_or]
              exact ⟨fun hxc => hc (beq_iff_eq.mpr hxc.symm), hm m List.mem_cons_self⟩
            · exact hm l (List.mem_cons_of_mem m h)

namespace RemarkTable

/-- A remark is a part of its line. -/
theorem Noted.subset {line e : List Char} {r : String} (h : Noted line e r) : r.toList ⊆ line := by
  obtain ⟨before, after, rfl, -, -, -, rfl⟩ := h
  rw [String.toList_ofList]
  intro x hx
  have hafter : x ∈ after := (trim_sublist after).subset hx
  exact List.mem_append_right before (List.mem_cons_of_mem _ (List.mem_cons_of_mem _ hafter))

/-- **A remark is on one line.** -/
theorem newline_notMem_of_get? {clause x : List Char} {r : String}
    (h : (ofClause clause).get? x = some r) : '\n' ∉ r.toList := by
  rw [ofClause_eq] at h
  obtain ⟨before, e, after, hnotes, -⟩ := (get?_insertAll_iff _).mp h
  have hmem : (e, r) ∈ notes clause := by
    rw [hnotes]
    exact List.mem_append_right before List.mem_cons_self
  obtain ⟨line, hline, hentry⟩ := List.mem_filterMap.mp hmem
  exact fun hin => notMem_of_mem_splitOn hline ((entryOfLine?_eq_some_iff.mp hentry).subset hin)

end RemarkTable

/-! ## 2. Queries -/

theorem exists_read_of_apply {sql : List Char} {shape : Shape} {o : Outcome}
    (h : shape.apply sql = .ok (some o)) :
    (∃ clause, readClause clause = .ok o) ∨ readList none sql = .ok o := by
  have hmap : ∀ {r : Except DraftError Outcome}, r.map some = .ok (some o) → r = .ok o := by
    intro r hr
    cases r with
    | error e => cases hr
    | ok o' => exact congrArg Except.ok (Option.some.inj (Except.ok.inj hr))
  cases shape with
  | selectFrom =>
      cases hc : selectFromClause sql with
      | none =>
          rw [apply_selectFrom_none hc] at h
          cases h
      | some clause =>
          rw [apply_selectFrom hc] at h
          exact Or.inl ⟨clause, hmap h⟩
  | selectOnly =>
      cases hc : selectOnlyClause sql with
      | none =>
          rw [apply_selectOnly_none hc] at h
          cases h
      | some clause =>
          rw [apply_selectOnly hc] at h
          exact Or.inl ⟨clause, hmap h⟩
  | fieldList => exact Or.inr (hmap h)

/-- The fields of a text are those of one of its shapes, and there are some. -/
theorem exists_apply_of_firstFields {sql : List Char} {fs : List Field} :
    ∀ {shapes : List Shape} {seen : Bool}, firstFields sql seen shapes = .ok fs →
    fs ≠ [] ∧ ∃ shape ∈ shapes, ∃ o, shape.apply sql = .ok (some o) ∧ o.fields = fs
  | [], seen, h => by cases h
  | shape :: shapes, seen, h => by
      rcases firstFields_cases sql seen shape shapes with ⟨e, -, he⟩ | ⟨o, ha, hne, ho⟩ | ⟨seen', -, hs⟩
      · rw [he] at h
        cases h
      · rw [ho] at h
        obtain rfl := Except.ok.inj h
        exact ⟨hne, shape, List.mem_cons_self, o, ha, rfl⟩
      · rw [hs] at h
        obtain ⟨hne, sh, hmem, o, ho⟩ := exists_apply_of_firstFields h
        exact ⟨hne, sh, List.mem_cons_of_mem shape hmem, o, ho⟩

section Parsed

variable {sql : String} {fs : List Field} (h : parseFields sql = .ok fs)
include h

theorem exists_apply_of_parseFields : fs ≠ [] ∧
    ∃ (shape : Shape) (o : Outcome), shape.apply (trim sql.toList) = .ok (some o) ∧ o.fields = fs := by
  have hsql : trim sql.toList ≠ [] := by
    intro hnil
    rw [parseFields_blank hnil] at h
    cases h
  rw [parseFields_eq hsql] at h
  obtain ⟨hne, shape, -, o, ho⟩ := exists_apply_of_firstFields h
  exact ⟨hne, shape, o, ho⟩

/-- A query that can be read has a field. -/
theorem ne_nil_of_parseFields : fs ≠ [] := (exists_apply_of_parseFields h).1

/-- **A field has a name, and its comment holds a line break only if the name does.** -/
theorem field_of_parseFields {f : Field} (hf : f ∈ fs) :
    f.name.toList ≠ [] ∧ ('\n' ∈ f.comment.toList → '\n' ∈ f.name.toList) := by
  have hread : ∀ {t s o}, readList t s = .ok o → ∀ f ∈ o.fields, f.name.toList ≠ [] ∧
      (f.comment = f.name ∨ ∃ table x, t = some table ∧ table.get? x = some f.comment) := by
    intro t s o hr f hf
    rw [readList_balanced (balanced_of_readList hr)] at hr
    obtain rfl := Except.ok.inj hr
    obtain ⟨e, -, he⟩ := List.mem_filterMap.mp hf
    obtain ⟨hne, rfl⟩ := Field.eq_ofSource he
    exact ⟨String.toList_eq_nil_iff.not.mpr (Field.name_ne_empty (trim_trim e) hne),
      Field.comment_ofSource⟩
  obtain ⟨-, shape, o, ha, rfl⟩ := exists_apply_of_parseFields h
  rcases exists_read_of_apply ha with ⟨clause, hr⟩ | hr
  · obtain ⟨hname, hcomment | ⟨table, x, ht, hget⟩⟩ := hread hr f hf
    · exact ⟨hname, hcomment ▸ id⟩
    · obtain rfl := Option.some.inj ht
      exact ⟨hname, fun hin => absurd hin (RemarkTable.newline_notMem_of_get? hget)⟩
  · obtain ⟨hname, hcomment | ⟨table, x, ht, -⟩⟩ := hread hr f hf
    · exact ⟨hname, hcomment ▸ id⟩
    · cases ht

end Parsed

end TableDraft.Select

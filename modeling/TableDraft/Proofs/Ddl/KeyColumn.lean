import TableDraft.Proofs.Ddl.ColumnList

/-!
# The key column

The name of a field puts it into one of three classes: identifier codes, other identifiers, and the
rest. The key column is that of the first field of the lowest class.

* `exists_leads_of_find?`: a search for the lowest class that occurs finds the least field by class and
  place;
* **`primaryKey?_eq_some_iff`: the key is the name of the least field**, and there is one unless there
  are no fields;
* `isKeyLine_columnLine`: the line of a column with its comment ends in a quote, so that it is never
  taken for that of the key;
* `key_of_columns`: the column list of MySQL ends in one line for the key, which names a column.
-/

namespace TableDraft.Ddl

open Select Text

/-! ## 1. The least field -/

/-- The class of a name: 0 for identifier codes, 1 for other identifiers, 2 for the rest. -/
def keyClass (name : String) : Nat :=
  let n := (Naming.normalize name).toList
  if "icode".toList.isSuffixOf n then 0 else if "id".toList.isSuffixOf n then 1 else 2

theorem keyClass_eq_zero_iff {name : String} :
    Naming.isIdentifierCode name = true ↔ keyClass name = 0 := by
  simp only [keyClass, Naming.isIdentifierCode]
  cases "icode".toList.isSuffixOf (Naming.normalize name).toList <;>
    cases "id".toList.isSuffixOf (Naming.normalize name).toList <;> decide

theorem keyClass_eq_one_iff {name : String} :
    Naming.isGenericId name = true ↔ keyClass name = 1 := by
  simp only [keyClass, Naming.isGenericId, Naming.isIdentifierCode]
  cases "icode".toList.isSuffixOf (Naming.normalize name).toList <;>
    cases "id".toList.isSuffixOf (Naming.normalize name).toList <;> decide

theorem keyClass_le_two (name : String) : keyClass name ≤ 2 := by
  unfold keyClass
  dsimp only
  split
  · decide
  · split <;> decide

/-- The field at its place is the least one by class and place. -/
structure Leads (fields : List Field) (place : Nat) (f : Field) : Prop where
  here : fields[place]? = some f
  least : ∀ place' (h : place' < fields.length), keyClass f.name < keyClass fields[place'].name ∨
    keyClass f.name = keyClass fields[place'].name ∧ place ≤ place'

/-- There is only one least field. -/
theorem Leads.unique {fields : List Field} {place place' : Nat} {f f' : Field}
    (h : Leads fields place f) (h' : Leads fields place' f') : f = f' := by
  obtain ⟨hlt, rfl⟩ := List.getElem?_eq_some_iff.mp h.here
  obtain ⟨hlt', rfl⟩ := List.getElem?_eq_some_iff.mp h'.here
  have hle := h.least place' hlt'
  have hle' := h'.least place hlt
  have hplace : place = place' := by omega
  subst hplace
  rfl

/-- **A search for the lowest class that occurs finds the least field.** -/
theorem exists_leads_of_find? {fields : List Field} {p : Field → Bool} {n : Nat} {f : Field}
    (hp : ∀ g, p g = true ↔ keyClass g.name = n) (hn : ∀ g ∈ fields, n ≤ keyClass g.name)
    (h : fields.find? p = some f) : ∃ place, Leads fields place f := by
  obtain ⟨hf, place, hlt, rfl, hbefore⟩ := List.find?_eq_some_iff_getElem.mp h
  refine ⟨place, List.getElem?_eq_getElem hlt, fun place' hlt' => ?_⟩
  rw [(hp _).mp hf]
  rcases Nat.lt_or_eq_of_le (hn _ (List.getElem_mem hlt')) with hclass | hclass
  · exact Or.inl hclass
  · refine Or.inr ⟨hclass, ?_⟩
    by_contra hno
    have hskipped := hbefore place' (Nat.lt_of_not_le hno)
    rw [(hp _).mpr hclass.symm] at hskipped
    cases hskipped

theorem le_of_find?_eq_none {fields : List Field} {p : Field → Bool} {n : Nat}
    (hp : ∀ g, p g = true ↔ keyClass g.name = n) (hn : ∀ g ∈ fields, n ≤ keyClass g.name)
    (h : fields.find? p = none) : ∀ g ∈ fields, n + 1 ≤ keyClass g.name := by
  intro g hg
  have hclass : keyClass g.name ≠ n := fun he => List.find?_eq_none.mp h g hg ((hp g).mpr he)
  have hle := hn g hg
  omega

/-- The key is the name of the least field. -/
theorem exists_leads {fields : List Field} {k : String} (h : primaryKey? fields = some k) :
    ∃ place f, Leads fields place f ∧ f.name = k := by
  obtain ⟨f, hf, rfl⟩ := Option.map_eq_some_iff.mp h
  have hcode : ∀ g : Field, Naming.isIdentifierCode g.name = true ↔ keyClass g.name = 0 :=
    fun g => keyClass_eq_zero_iff
  have hid : ∀ g : Field, Naming.isGenericId g.name = true ↔ keyClass g.name = 1 :=
    fun g => keyClass_eq_one_iff
  have hzero : ∀ g ∈ fields, 0 ≤ keyClass g.name := fun g _ => Nat.zero_le _
  suffices hleads : ∃ place, Leads fields place f by
    obtain ⟨place, hleads⟩ := hleads
    exact ⟨place, f, hleads, rfl⟩
  rw [Option.or_eq_some_iff, Option.or_eq_some_iff] at hf
  rcases hf with (hf | ⟨hnone, hf⟩) | ⟨hnone, hf⟩
  · exact exists_leads_of_find? hcode hzero hf
  · exact exists_leads_of_find? hid (le_of_find?_eq_none hcode hzero hnone) hf
  · -- without identifiers all fields are of the last class, and the first field is the least
    obtain ⟨hnone, hnone'⟩ := Option.or_eq_none_iff.mp hnone
    have hlast := le_of_find?_eq_none hid (le_of_find?_eq_none hcode hzero hnone) hnone'
    have hclass : ∀ g ∈ fields, keyClass g.name = 2 :=
      fun g hg => Nat.le_antisymm (keyClass_le_two g.name) (hlast g hg)
    refine ⟨0, List.head?_eq_getElem? ▸ hf, fun place' hlt => Or.inr ⟨?_, Nat.zero_le _⟩⟩
    rw [hclass f (List.mem_of_head? hf), hclass _ (List.getElem_mem hlt)]

theorem primaryKey?_eq_none_iff {fields : List Field} : primaryKey? fields = none ↔ fields = [] := by
  constructor
  · intro h
    by_contra hne
    exact primaryKey?_ne_none hne h
  · rintro rfl
    rfl

/-- **The key is the name of the least field by class and place.** -/
theorem primaryKey?_eq_some_iff {fields : List Field} {k : String} :
    primaryKey? fields = some k ↔ ∃ place f, Leads fields place f ∧ f.name = k := by
  refine ⟨exists_leads, ?_⟩
  rintro ⟨place, f, hleads, rfl⟩
  cases hkey : primaryKey? fields with
  | none =>
      have hhere := hleads.here
      rw [primaryKey?_eq_none_iff.mp hkey] at hhere
      cases hhere
  | some k' =>
      obtain ⟨place', f', hleads', rfl⟩ := exists_leads hkey
      rw [hleads'.unique hleads]

/-! ## 2. The line of the key -/

/-- The line of the key column. -/
def keyLine (k : String) : List Char := keyStart ++ k.toList ++ [')']

/-- The line starts and ends as that of the key column does. -/
def isKeyLine (l : List Char) : Bool := keyStart.isPrefixOf l && [')'].isSuffixOf l

theorem isKeyLine_keyLine (k : String) : isKeyLine (keyLine k) = true := by
  rw [isKeyLine, Bool.and_eq_true, List.isPrefixOf_iff_prefix, List.isSuffixOf_iff_suffix, keyLine]
  exact ⟨(List.prefix_append _ _).trans (List.prefix_append _ _), List.suffix_append _ _⟩

/-- The line of a column with its comment ends in a quote. -/
theorem isKeyLine_columnLine (width : Nat) (first : Bool) (c : Column) :
    isKeyLine (columnLine .inline width first c) = false := by
  rw [← Bool.not_eq_true, isKeyLine, Bool.and_eq_true, List.isSuffixOf_iff_suffix]
  rintro ⟨-, t, ht⟩
  have hlast : (columnLine .inline width first c).getLast? = some '\'' := by
    rw [columnLine_inline, literal, List.cons_append, ← List.append_assoc, ← List.append_assoc,
      List.getLast?_append_cons, List.getLast?_cons, List.getLast?_concat]
    rfl
  rw [← ht, List.getLast?_concat] at hlast
  cases hlast

/-- **Of the lines of a column list with comments, one is that of the key.** -/
theorem countP_isKeyLine (columns : List Column) (k : String) :
    (columnLines .inline columns ++ [keyLine k]).countP isKeyLine = 1 := by
  have hcolumns : (columnLines .inline columns).countP isKeyLine = 0 := by
    rw [List.countP_eq_zero]
    intro l hl
    obtain ⟨first, c, -, rfl⟩ := mem_columnLines hl
    rw [isKeyLine_columnLine]
    exact Bool.false_ne_true
  rw [List.countP_append, hcolumns, List.countP_singleton, isKeyLine_keyLine]
  rfl

/-! ## 3. The list of MySQL -/

theorem keyLines_mySql (k : String) : keyLines Dialect.mySql.conventions (some k) = [keyLine k] := rfl

/-- **Which column is the key, and where the statement says so.** The key is the name of the least field
by class and place, and there is none exactly if there are no fields. In the column list of MySQL, the
lines of the columns are followed by a single one for the key, which names one of the columns, and this
by the line that closes the list. -/
theorem key_of_columns [PatternEngine] (fields : List Field) :
    (primaryKey? fields = none ↔ fields = []) ∧
    (∀ k, primaryKey? fields = some k ↔ ∃ place f, Leads fields place f ∧ f.name = k) ∧
    ∀ (rules : List TypeRule) (id : String) (options : TableOptions), fields ≠ [] →
      (∀ f ∈ fields, '\n' ∉ f.name.toList ∧ '\n' ∉ f.comment.toList) →
      (∀ r ∈ rules, '\n' ∉ r.dataType.toList) → '\n' ∉ options.tableName.toList →
      Dialect.ofId? id = some .mySql →
        let columns := resolveColumns fields rules .mySql
        let text := (draft fields rules id options).toList
        ∃ k ∈ columns.map (·.name), primaryKey? fields = some k ∧
          listLines text = columnLines .inline columns ++ [keyLine k] ∧
          (listLines text).countP isKeyLine = 1 ∧
          ∃ rest, text.splitOn '\n' =
            openingLine Dialect.mySql.conventions options :: listLines text ++ [')'] :: rest := by
  refine ⟨primaryKey?_eq_none_iff, fun k => primaryKey?_eq_some_iff, ?_⟩
  intro rules id options hne hfields hrules htable hid columns text
  obtain ⟨k, hk⟩ := Option.ne_none_iff_exists'.mp (primaryKey?_ne_none hne)
  obtain ⟨f, hf, hfk⟩ := mem_primaryKey? hk
  have hcolumns := newline_notMem_columns hfields hrules .mySql
  have hkey := newline_notMem_key hfields
  rw [hk] at hkey
  have htext : text = (render Dialect.mySql.conventions columns (some k) options).toList := by
    have hdialect : Dialect.resolve id = .mySql := by
      rw [Dialect.resolve, hid]
      rfl
    rw [← hk]
    change (draft fields rules id options).toList = _
    rw [draft, hdialect]
  have hlist : listLines text = columnLines .inline columns ++ [keyLine k] := by
    rw [htext, listLines_render (newline_notMem_opening .mySql) htable hcolumns hkey, keyLines_mySql]
    rfl
  have hclosing : closingLines Dialect.mySql.conventions columns options =
      [')'] :: (closingLines Dialect.mySql.conventions columns options).tail := rfl
  have hsplit := splitOn_render (newline_notMem_opening .mySql) htable hcolumns hkey hclosing
    (by decide) (List.cons_ne_nil _ _)
  refine ⟨k, ?_, hk, hlist, ?_, ?_⟩
  · rw [← hfk]
    exact List.mem_map_of_mem (List.mem_map_of_mem hf)
  · rw [hlist, countP_isKeyLine]
  · rw [hlist, htext, hsplit, keyLines_mySql]
    exact ⟨_, rfl⟩

/-- Of two identifier codes the first is the key, in capitals and behind a column that looks like the
line of a key. -/
theorem key_of_columns_code :
    let fields : List Field := [⟨"PRIMARY KEY (", none, ")"⟩, ⟨"org_id", none, ""⟩,
      ⟨" Cust_ICODE", none, "it's"⟩, ⟨"b_icode", none, ""⟩]
    primaryKey? fields = some " Cust_ICODE" ∧
      (listLines (draft fields [] " MySQL" .default).toList).countP isKeyLine = 1 := by
  intro fields
  obtain ⟨-, hkey, hlist⟩ := key_of_columns fields
  obtain ⟨k, -, -, -, hcount, -⟩ := hlist [] " MySQL" .default (by decide) (by decide) (by decide)
    (by decide) (by decide +kernel)
  refine ⟨(hkey _).mpr ⟨2, ⟨" Cust_ICODE", none, "it's"⟩, ⟨rfl, ?_⟩, rfl⟩, hcount⟩
  decide +kernel

end TableDraft.Ddl

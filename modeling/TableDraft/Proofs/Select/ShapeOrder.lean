import TableDraft.Proofs.Select.FieldReading
import TableDraft.Select.Statement

/-!
# The order of the shapes

How the answer about a whole text comes from the answers about its shapes.

* `readList_balanced`, `readList_unbalanced`: what a list gives, and that it depends on what
  stripping leaves of it (`readList_of_strip`);
* `readClause_free`: **a list without line remarks is read as if there were no remarks**;
* `firstFields_absent`, `firstFields_found`, `firstFields_skipped`, `firstFields_error`: one step
  from a shape to the next;
* `exists_apply_of_error`: an error about parentheses **is the error of some shape**;
* `firstFields_seen`: after a candidate was seen, a text is never called unparsable;
* `isReadingError_of_parseFields`: what can be wrong with a text at all;
* `exists_prefix_of_apply_error`: a list that fails is cut from what follows the first SELECT, or is
  the whole text.
-/

namespace TableDraft.Select

open Text Remark

/-! ## 1. One list -/

theorem readList_balanced {s : List Char} (h : Balanced (strip s)) (t : Option RemarkTable) :
    readList t s =
      .ok ⟨(pieces (strip s)).length, (pieces (strip s)).filterMap (Field.ofExpression? t)⟩ := by
  rw [readList, splitFields, if_pos (balanced_iff.mpr h)]
  rfl

theorem readList_unbalanced {s : List Char} (h : ¬ Balanced (strip s)) (t : Option RemarkTable) :
    readList t s = .error (.unbalancedParentheses (String.ofList (trim (strip s)))) := by
  rw [readList, splitFields, if_neg (fun hb => h (balanced_iff.mp hb))]
  rfl

/-- A list fails for its parentheses or not at all. -/
theorem eq_of_readList_error {s : List Char} {t : Option RemarkTable} {e : DraftError}
    (h : readList t s = .error e) : e = .unbalancedParentheses (String.ofList (trim (strip s))) := by
  by_cases hb : Balanced (strip s)
  · rw [readList_balanced hb] at h
    cases h
  · rw [readList_unbalanced hb] at h
    exact (Except.error.inj h).symm

theorem text_of_readList {s : List Char} {t : Option RemarkTable} {m : String}
    (h : readList t s = .error (.unbalancedParentheses m)) : m = String.ofList (trim (strip s)) :=
  DraftError.unbalancedParentheses.inj (eq_of_readList_error h)

theorem balanced_of_readList {s : List Char} {t : Option RemarkTable} {o : Outcome}
    (h : readList t s = .ok o) : Balanced (strip s) := by
  by_contra hb
  rw [readList_unbalanced hb] at h
  cases h

/-- What a list gives does not change when blanks are put before what stripping leaves of it. -/
theorem readList_of_strip {x s s' : List Char} (hx : isBlankText x = true)
    (h : strip s = x ++ strip s') (t : Option RemarkTable) : readList t s = readList t s' := by
  have hbal : Balanced (strip s) ↔ Balanced (strip s') := by
    rw [h, ← balanced_iff, balanced_blank_append hx, balanced_iff]
  by_cases hb : Balanced (strip s')
  · rw [readList_balanced hb, readList_balanced (hbal.mpr hb), h, pieces_blank_append hx]
  · rw [readList_unbalanced hb, readList_unbalanced (fun h' => hb (hbal.mp h')), h,
      trim_blank_append hx]

theorem readList_empty (s : List Char) : readList (some RemarkTable.empty) s = readList none s := by
  have h : Field.ofExpression? (some RemarkTable.empty) = Field.ofExpression? none :=
    funext Field.ofExpression?_empty
  rw [readList, readList, h]

/-- **A list without line remarks is read as if there were no remarks.** -/
theorem readClause_free {s : List Char} (h : Free '-' '-' s) : readClause s = readList none s := by
  rw [readClause, RemarkTable.ofClause_free h, readList_empty]

/-- A list of which nothing is left has no candidates. -/
theorem readList_blank {s : List Char} (h : isBlankText (strip s) = true)
    (t : Option RemarkTable) : readList t s = .ok ⟨0, []⟩ := by
  rw [readList_balanced (balanced_noParen (noParen_of_blank h)), pieces_of_blank h]
  rfl

/-! ## 2. One shape -/

/-- The word SELECT at the start of a text, with a blank after it. -/
theorem afterSelect_word {c : Char} (hc : isBlank c = true) (s : List Char) :
    afterSelect ("SELECT".toList ++ c :: s) = some (c :: s) :=
  afterWord_append_self (w := "SELECT".toList) (r := c :: s) (by decide) (isWord_of_isBlank hc)

theorem mapM_readClause (clause : List Char) :
    (some clause).mapM readClause = (readClause clause).map some := rfl

theorem apply_selectFrom {sql clause : List Char} (h : selectFromClause sql = some clause) :
    Shape.selectFrom.apply sql = (readClause clause).map some := by
  rw [Shape.apply, h, mapM_readClause]

theorem apply_selectFrom_none {sql : List Char} (h : selectFromClause sql = none) :
    Shape.selectFrom.apply sql = .ok none := by
  rw [Shape.apply, h]
  rfl

theorem apply_selectOnly {sql clause : List Char} (h : selectOnlyClause sql = some clause) :
    Shape.selectOnly.apply sql = (readClause clause).map some := by
  rw [Shape.apply, h, mapM_readClause]

theorem apply_selectOnly_none {sql : List Char} (h : selectOnlyClause sql = none) :
    Shape.selectOnly.apply sql = .ok none := by
  rw [Shape.apply, h]
  rfl

/-- Without the word SELECT there is no select list. -/
theorem clauses_none {sql : List Char} (h : afterSelect sql = none) :
    selectFromClause sql = none ∧ selectOnlyClause sql = none := by
  rw [selectFromClause, selectOnlyClause, h]
  exact ⟨rfl, rfl⟩

theorem beforeClause_isPrefix : ∀ (w : Bool) (s : List Char), beforeClause w s <+: s
  | _, [] => List.prefix_rfl
  | w, c :: s => by
      unfold beforeClause
      split
      · exact List.nil_prefix
      · exact List.cons_prefix_cons.mpr ⟨rfl, beforeClause_isPrefix _ s⟩

/-- **The list of a query is cut from what follows its first SELECT.** -/
theorem exists_prefix_of_apply_error {sql : List Char} {shape : Shape} {e : DraftError}
    (h : shape.apply sql = .error e) :
    (∃ a p, afterSelect sql = some a ∧ p <+: a ∧ readClause (trim p) = .error e) ∨
      readList none sql = .error e := by
  have hmap : ∀ {r : Except DraftError Outcome}, r.map some = .error e → r = .error e := by
    intro r hr
    cases r with
    | error e' => exact congrArg Except.error (Except.error.inj hr)
    | ok o => cases hr
  cases shape with
  | selectFrom =>
      cases hc : selectFromClause sql with
      | none =>
          rw [apply_selectFrom_none hc] at h
          cases h
      | some clause =>
          rw [apply_selectFrom hc] at h
          obtain ⟨p, hp, rfl⟩ := Option.map_eq_some_iff.mp hc
          obtain ⟨a, ha, hscan⟩ := Option.bind_eq_some_iff.mp hp
          exact Or.inl ⟨a, p, ha, beforeFrom_isPrefix hscan, hmap h⟩
  | selectOnly =>
      cases hc : selectOnlyClause sql with
      | none =>
          rw [apply_selectOnly_none hc] at h
          cases h
      | some clause =>
          rw [apply_selectOnly hc] at h
          obtain ⟨a, ha, rfl⟩ := Option.map_eq_some_iff.mp hc
          exact Or.inl ⟨a, _, ha, beforeClause_isPrefix false a, hmap h⟩
  | fieldList => exact Or.inr (hmap h)

/-! ## 3. One shape after another -/

section Steps

variable {sql : List Char} {seen : Bool} {shape : Shape} {rest : List Shape}

theorem firstFields_absent (h : shape.apply sql = .ok none) :
    firstFields sql seen (shape :: rest) = firstFields sql seen rest := by
  rw [firstFields, h]
  rfl

theorem firstFields_error {e : DraftError} (h : shape.apply sql = .error e) :
    firstFields sql seen (shape :: rest) = .error e := by
  rw [firstFields, h]
  rfl

theorem firstFields_found {o : Outcome} (h : shape.apply sql = .ok (some o)) (ho : o.fields ≠ []) :
    firstFields sql seen (shape :: rest) = .ok o.fields := by
  have hne : o.fields.isEmpty = false := List.isEmpty_eq_false_iff.mpr ho
  rw [firstFields, h]
  simp only [bind, Except.bind, hne]
  rfl

theorem firstFields_skipped {o : Outcome} (h : shape.apply sql = .ok (some o))
    (ho : o.fields = []) : firstFields sql seen (shape :: rest) =
      firstFields sql (seen || decide (o.candidates > 0)) rest := by
  rw [firstFields, h]
  simp only [bind, Except.bind, ho]
  rfl

/-- What taking a text as a shape gives, with what it means for the answer. -/
theorem firstFields_cases (sql : List Char) (seen : Bool) (shape : Shape) (rest : List Shape) :
    (∃ e, shape.apply sql = .error e ∧ firstFields sql seen (shape :: rest) = .error e) ∨
    (∃ o, shape.apply sql = .ok (some o) ∧ o.fields ≠ [] ∧
      firstFields sql seen (shape :: rest) = .ok o.fields) ∨
    ∃ seen', (seen = true → seen' = true) ∧
      firstFields sql seen (shape :: rest) = firstFields sql seen' rest := by
  cases h : shape.apply sql with
  | error e => exact Or.inl ⟨e, rfl, firstFields_error h⟩
  | ok answer =>
      refine Or.inr ?_
      cases answer with
      | none => exact Or.inr ⟨seen, id, firstFields_absent h⟩
      | some o =>
          by_cases ho : o.fields = []
          · exact Or.inr ⟨_, fun hs => by rw [hs]; rfl, firstFields_skipped h ho⟩
          · exact Or.inl ⟨o, rfl, ho, firstFields_found h ho⟩

end Steps

/-- Two texts that every shape answers alike have the same fields. -/
theorem firstFields_congr {s s' : List Char} : ∀ {shapes : List Shape} (seen : Bool),
    (∀ shape ∈ shapes, shape.apply s = shape.apply s') →
    firstFields s seen shapes = firstFields s' seen shapes
  | [], _, _ => rfl
  | shape :: shapes, seen, h => by
      have ih : ∀ seen', firstFields s seen' shapes = firstFields s' seen' shapes := fun seen' =>
        firstFields_congr seen' fun sh hsh => h sh (List.mem_cons_of_mem shape hsh)
      rw [firstFields, firstFields, h shape List.mem_cons_self]
      refine bind_congr fun answer => ?_
      cases answer with
      | none => exact ih seen
      | some o =>
          dsimp only
          split
          · exact ih _
          · rfl

/-- An error about parentheses is the error of some shape. -/
theorem exists_apply_of_error {sql : List Char} {m : String} : ∀ {shapes : List Shape} {seen : Bool},
    firstFields sql seen shapes = .error (.unbalancedParentheses m) →
    ∃ shape ∈ shapes, shape.apply sql = .error (.unbalancedParentheses m)
  | [], seen, h => by
      cases seen <;> cases h
  | shape :: shapes, seen, h => by
      rcases firstFields_cases sql seen shape shapes with ⟨e, ha, he⟩ | ⟨o, -, -, ho⟩ | ⟨seen', -, hs⟩
      · rw [he] at h
        rw [Except.error.inj h] at ha
        exact ⟨shape, List.mem_cons_self, ha⟩
      · rw [ho] at h
        cases h
      · rw [hs] at h
        obtain ⟨sh, hmem, hsh⟩ := exists_apply_of_error h
        exact ⟨sh, List.mem_cons_of_mem shape hmem, hsh⟩

/-- A shape fails for its parentheses or not at all. -/
theorem eq_of_apply_error {sql : List Char} {shape : Shape} {e : DraftError}
    (h : shape.apply sql = .error e) : ∃ m, e = .unbalancedParentheses m := by
  rcases exists_prefix_of_apply_error h with ⟨a, p, -, -, hp⟩ | hl
  · exact ⟨_, eq_of_readList_error hp⟩
  · exact ⟨_, eq_of_readList_error hl⟩

theorem apply_ne_unparsable (sql : List Char) (shape : Shape) :
    shape.apply sql ≠ .error .unparsableSql := by
  intro h
  obtain ⟨m, hm⟩ := eq_of_apply_error h
  cases hm

/-- **After a candidate was seen, a text is never called unparsable.** -/
theorem firstFields_seen (sql : List Char) : ∀ shapes : List Shape,
    firstFields sql true shapes ≠ .error .unparsableSql
  | [] => fun h => by cases h
  | shape :: shapes => by
      rcases firstFields_cases sql true shape shapes with ⟨e, ha, he⟩ | ⟨o, -, -, ho⟩ | ⟨seen', ht, hs⟩
      · rw [he]
        intro h
        rw [Except.error.inj h] at ha
        exact apply_ne_unparsable sql shape ha
      · rw [ho]
        intro h
        cases h
      · rw [hs, ht rfl]
        exact firstFields_seen sql shapes

/-- What can be wrong with a text: no shape has a candidate, no candidate is a field, or a list does
not balance its parentheses. -/
def IsReadingError (e : DraftError) : Prop :=
  e = .unparsableSql ∨ e = .noFieldsRecognized ∨ ∃ m, e = .unbalancedParentheses m

theorem isReadingError_of_firstFields {sql : List Char} {e : DraftError} :
    ∀ {shapes : List Shape} {seen : Bool}, firstFields sql seen shapes = .error e → IsReadingError e
  | [], false, h => Or.inl (Except.error.inj h).symm
  | [], true, h => Or.inr (Or.inl (Except.error.inj h).symm)
  | shape :: shapes, seen, h => by
      rcases firstFields_cases sql seen shape shapes with ⟨e', ha, he⟩ | ⟨o, -, -, ho⟩ | ⟨seen', -, hs⟩
      · rw [he] at h
        rw [Except.error.inj h] at ha
        exact Or.inr (Or.inr (eq_of_apply_error ha))
      · rw [ho] at h
        cases h
      · rw [hs] at h
        exact isReadingError_of_firstFields h

/-! ## 4. Whole texts -/

theorem parseFields_eq {sql : String} (h : trim sql.toList ≠ []) :
    parseFields sql = firstFields (trim sql.toList) false Shape.all := by
  rw [parseFields]
  exact if_neg fun hnil => h (List.isEmpty_iff.mp hnil)

theorem parseFields_blank {sql : String} (h : trim sql.toList = []) :
    parseFields sql = .error .unparsableSql := by
  rw [parseFields]
  exact if_pos (List.isEmpty_iff.mpr h)

/-- **A text that cannot be read has one of three things wrong with it.** -/
theorem isReadingError_of_parseFields {sql : String} {e : DraftError}
    (h : parseFields sql = .error e) : IsReadingError e := by
  by_cases hsql : trim sql.toList = []
  · rw [parseFields_blank hsql] at h
    exact Or.inl (Except.error.inj h).symm
  · rw [parseFields_eq hsql] at h
    exact isReadingError_of_firstFields h

theorem ne_nil_of_selectFromClause {s clause : List Char} (h : selectFromClause s = some clause) :
    s ≠ [] := by
  rintro rfl
  cases h

/-- A query with a FROM whose list has a field has the fields of its list. -/
theorem parseFields_selectFrom {sql : String} {clause : List Char} {o : Outcome}
    (hc : selectFromClause (trim sql.toList) = some clause) (ho : readClause clause = .ok o)
    (hne : o.fields ≠ []) : parseFields sql = .ok o.fields := by
  have happly : Shape.selectFrom.apply (trim sql.toList) = .ok (some o) := by
    rw [apply_selectFrom hc, ho]
    rfl
  rw [parseFields_eq (ne_nil_of_selectFromClause hc)]
  exact firstFields_found happly hne

/-- A query without a FROM whose list has a field has the fields of its list. -/
theorem parseFields_selectOnly {sql : String} {clause : List Char} {o : Outcome}
    (hf : selectFromClause (trim sql.toList) = none)
    (hc : selectOnlyClause (trim sql.toList) = some clause) (ho : readClause clause = .ok o)
    (hne : o.fields ≠ []) : parseFields sql = .ok o.fields := by
  have happly : Shape.selectOnly.apply (trim sql.toList) = .ok (some o) := by
    rw [apply_selectOnly hc, ho]
    rfl
  have hsql : trim sql.toList ≠ [] := by
    intro hnil
    rw [hnil] at hc
    cases hc
  rw [parseFields_eq hsql, Shape.all, firstFields_absent (apply_selectFrom_none hf)]
  exact firstFields_found happly hne

/-- The fields of a text without the word SELECT are those of the text as a list. -/
theorem readList_of_parseFields {sql : String} {fs : List Field}
    (hs : afterSelect (trim sql.toList) = none) (h : parseFields sql = .ok fs) :
    fs ≠ [] ∧ ∃ n, readList none (trim sql.toList) = .ok ⟨n, fs⟩ := by
  have hsql : trim sql.toList ≠ [] := by
    intro hnil
    rw [parseFields_blank hnil] at h
    cases h
  rw [parseFields_eq hsql, Shape.all, firstFields_absent (apply_selectFrom_none (clauses_none hs).1),
    firstFields_absent (apply_selectOnly_none (clauses_none hs).2)] at h
  rcases firstFields_cases (trim sql.toList) false .fieldList [] with
    ⟨e, -, he⟩ | ⟨o, ha, hne, ho⟩ | ⟨seen, -, hskip⟩
  · rw [he] at h
    cases h
  · rw [ho] at h
    obtain rfl := Except.ok.inj h
    refine ⟨hne, o.candidates, ?_⟩
    unfold Shape.apply at ha
    cases hr : readList none (trim sql.toList) with
    | error e =>
        rw [hr] at ha
        cases ha
    | ok o' =>
        rw [hr] at ha
        exact congrArg Except.ok (Option.some.inj (Except.ok.inj ha))
  · rw [hskip] at h
    cases seen <;> cases h

end TableDraft.Select

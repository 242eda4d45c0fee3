import TableDraft.Proofs.Ddl.Identifiers
import TableDraft.Proofs.Select.ShapeOrder
import TableDraft.Request

/-!
# What a request is answered with

The query text alone decides whether a request fails, and only the identifiers that name a dialect
decide what else it is answered with.

* `generate_eq`: the statements of a request, and how it fails;
* **`error_iff`: the error of a request is that of its query text**, and is one that other query text
  can mend (`isInputError_of_error`);
* `drafts_dialects`: the statements are those of the identifiers that are asked for;
* **`filterMap_of_padded`: identifiers that ask for nothing may stand anywhere in the list**;
* `answer_decided`: what a request is answered with, and which of the two forms the answer has.
-/

namespace TableDraft.Request

open Ddl Select Text

/-! ## 1. Requests that fail -/

/-- The statements of a request, or what is wrong with its query text. -/
theorem generate_eq [PatternEngine] (r : Request) : r.generate =
    if isBlankText r.sql.toList = true then .error .emptySql
    else (parseFields r.sql).map fun fields =>
      drafts fields r.rulesByDatabase r.dialects r.options := by
  unfold generate
  split
  · rfl
  · cases parseFields r.sql <;> rfl

theorem isInputError_of_isReadingError {e : DraftError} (h : IsReadingError e) :
    e.isInputError = true := by
  rcases h with rfl | rfl | ⟨m, rfl⟩ <;> rfl

section Failing

variable [PatternEngine] {r : Request} {e : DraftError}

theorem process_blank (h : isBlankText r.sql.toList = true) : r.process = .error .emptySql := by
  rw [process, generate_eq, if_pos h]
  rfl

/-- The answer to a request with query text. -/
theorem process_eq (h : ¬ isBlankText r.sql.toList = true) : r.process =
    (parseFields r.sql).map fun fields =>
      Response.ofDrafts (drafts fields r.rulesByDatabase r.dialects r.options) := by
  rw [process, generate_eq, if_neg h]
  cases parseFields r.sql <;> rfl

/-- **The error of a request is that of its query text**: there is none, or it cannot be read. -/
theorem error_iff : r.process = .error e ↔
    (isBlankText r.sql.toList = true ∧ e = .emptySql) ∨
      (¬ isBlankText r.sql.toList = true ∧ parseFields r.sql = .error e) := by
  by_cases hblank : isBlankText r.sql.toList = true
  · rw [process_blank hblank]
    simp [hblank, eq_comm]
  · rw [process_eq hblank]
    cases hfields : parseFields r.sql with
    | error e' => simp [hblank, Except.map]
    | ok fields => simp [hblank, Except.map]

/-- Other query text can mend every error of a request. -/
theorem isInputError_of_error (h : r.process = .error e) : e.isInputError = true := by
  rcases error_iff.mp h with ⟨-, rfl⟩ | ⟨-, hread⟩
  · rfl
  · exact isInputError_of_isReadingError (isReadingError_of_parseFields hread)

/-- A request is told that it has no query text exactly if it has none. -/
theorem emptySql_iff : r.process = .error .emptySql ↔ isBlankText r.sql.toList = true := by
  rw [error_iff]
  refine ⟨?_, fun h => Or.inl ⟨h, rfl⟩⟩
  rintro (⟨hblank, -⟩ | ⟨-, hread⟩)
  · exact hblank
  · -- reading a text never answers that there is none
    rcases isReadingError_of_parseFields hread with h | h | ⟨m, h⟩ <;> cases h

end Failing

/-! ## 2. The identifiers asked for -/

/-- The identifiers of a request, or the default one when all of them are blank. -/
def asked (r : Request) : List String :=
  if r.databaseTypes.all (fun id => isBlankText id.toList) then [Dialect.default.id]
  else r.databaseTypes

/-- The identifier names a dialect. -/
def isKnown (id : String) : Bool := (Dialect.ofId? id).isSome

theorem trimmed_eq_empty_iff {id : String} : trimmed id = "" ↔ isBlankText id.toList = true := by
  rw [trimmed, ← String.toList_inj, String.toList_ofList, ← trim_eq_nil_iff]
  rfl

theorem ofId?_trimmed (id : String) : Dialect.ofId? (trimmed id) = Dialect.ofId? id := by
  rw [Dialect.ofId?, trimmed, String.toList_ofList, trim_trim, ← Dialect.ofId?]

/-- Nothing but blanks names no dialect. -/
theorem ofId?_blank {id : String} (h : isBlankText id.toList = true) :
    Dialect.ofId? id = none := by
  have hempty : Dialect.ofNormalId? (String.ofList (lower [])) = none := by decide
  rw [Dialect.ofId?, trim_of_blank h, hempty]

theorem dialects_of_blank {r : Request}
    (h : r.databaseTypes.all (fun id => isBlankText id.toList) = true) :
    r.dialects = [Dialect.default.id] := by
  refine if_pos (List.isEmpty_iff.mpr (List.filter_eq_nil_iff.mpr fun id hid => ?_))
  obtain ⟨id', hmem, rfl⟩ := List.mem_map.mp hid
  simp [trimmed_eq_empty_iff.mpr (List.all_eq_true.mp h id' hmem)]

theorem dialects_of_not_blank {r : Request}
    (h : ¬ r.databaseTypes.all (fun id => isBlankText id.toList) = true) :
    r.dialects = (r.databaseTypes.map trimmed).filter (fun id => !id.isEmpty) := by
  refine if_neg fun hempty => h (List.all_eq_true.mpr fun id hid => ?_)
  have hno := List.filter_eq_nil_iff.mp (List.isEmpty_iff.mp hempty) _ (List.mem_map_of_mem hid)
  exact trimmed_eq_empty_iff.mp (by simpa using hno)

section Statements

variable [PatternEngine] (fields : List Field) (rules : RuleSet) (options : TableOptions)

/-- The statement for an identifier as a request gives it; none when it names no dialect. -/
def draftFor (id : String) : Option Draft :=
  (Dialect.ofId? id).map fun d =>
    ⟨trimmed id, d.label, draft fields (rules.get (trimmed id)) d.id options⟩

theorem isSome_draftFor (id : String) : (draftFor fields rules options id).isSome = isKnown id :=
  Option.isSome_map

theorem draftFor_eq (id : String) : draftFor fields rules options id =
    (Dialect.ofId? (trimmed id)).map fun _ => ⟨trimmed id, Dialect.labelOf (trimmed id),
      draft fields (rules.get (trimmed id)) (trimmed id) options⟩ := by
  rw [draftFor, ← ofId?_trimmed id]
  cases h : Dialect.ofId? (trimmed id) with
  | none => rw [Option.map_none, Option.map_none]
  | some d => rw [Option.map_some, Option.map_some, labelOf_eq h, draft_eq h]

theorem draftFor_blank {id : String} (h : isBlankText id.toList = true) :
    draftFor fields rules options id = none := by
  rw [draftFor, ofId?_blank h, Option.map_none]

/-- **The statements of a request are those of the identifiers that are asked for.** -/
theorem drafts_dialects (r : Request) : drafts fields rules r.dialects options =
    r.asked.filterMap (draftFor fields rules options) := by
  by_cases hall : r.databaseTypes.all (fun id => isBlankText id.toList) = true
  · have htrimmed : trimmed Dialect.default.id = Dialect.default.id := by decide
    rw [dialects_of_blank hall, asked, if_pos hall, drafts]
    refine List.filterMap_congr fun id hid => ?_
    obtain rfl := List.mem_singleton.mp hid
    rw [draftFor_eq, htrimmed]
  · rw [dialects_of_not_blank hall, asked, if_neg hall, drafts, List.filterMap_filter,
      List.filterMap_map]
    refine List.filterMap_congr fun id _ => ?_
    rw [Function.comp_apply, ← draftFor_eq]
    by_cases hid : isBlankText id.toList = true
    · rw [trimmed_eq_empty_iff.mpr hid, draftFor_blank _ _ _ hid]
      rfl
    · have hne : (trimmed id).isEmpty = false := by
        rw [← Bool.not_eq_true, String.isEmpty_iff, trimmed_eq_empty_iff]
        exact hid
      rw [hne]
      rfl

theorem length_drafts (r : Request) :
    (drafts fields rules r.dialects options).length = r.asked.countP isKnown := by
  rw [drafts_dialects, List.length_filterMap_eq_countP]
  exact congrArg (List.countP · r.asked) (funext (isSome_draftFor fields rules options))

end Statements

/-! ## 3. Identifiers that ask for nothing -/

/-- The identifier asks for nothing: it is blank, or it names no dialect. -/
def Idle (id : String) : Prop := isBlankText id.toList = true ∨ Dialect.ofId? id = none

instance decidableIdle (id : String) : Decidable (Idle id) :=
  inferInstanceAs (Decidable (_ ∨ _))

theorem Idle.isKnown_eq_false {id : String} (h : Idle id) : isKnown id = false := by
  rcases h with h | h
  · rw [isKnown, ofId?_blank h]
    rfl
  · rw [isKnown, h]
    rfl

/-- The second list has the members of the first in their order, and idle identifiers anywhere
between them. -/
inductive Padded : List String → List String → Prop
  | nil : Padded [] []
  | keep (id : String) {ids ids' : List String} (h : Padded ids ids') : Padded (id :: ids) (id :: ids')
  | put {id : String} {ids ids' : List String} (hid : Idle id) (h : Padded ids ids') :
      Padded ids (id :: ids')

/-- **Identifiers that ask for nothing may stand anywhere in the list.** -/
theorem filterMap_of_padded {α : Type} {f : String → Option α} (hf : ∀ id, (f id).isSome = isKnown id)
    {ids ids' : List String} (h : Padded ids ids') : ids'.filterMap f = ids.filterMap f := by
  induction h with
  | nil => rfl
  | keep id _ ih => rw [List.filterMap_cons, List.filterMap_cons, ih]
  | @put id ids ids' hid _ ih =>
      have hnone : f id = none := by
        rw [← Option.isSome_eq_false_iff.trans Option.isNone_iff_eq_none, hf, hid.isKnown_eq_false]
      rw [List.filterMap_cons, hnone, ih]

theorem Padded.subset {ids ids' : List String} (h : Padded ids ids') : ids ⊆ ids' := by
  induction h with
  | nil => exact List.Subset.refl []
  | keep id _ ih => exact List.cons_subset_cons id ih
  | put _ _ ih => exact fun x hx => List.mem_cons_of_mem _ (ih hx)

/-- A list in which an identifier names a dialect is asked for as it is. -/
theorem asked_eq {r : Request} (h : ∃ id ∈ r.databaseTypes, isKnown id = true) :
    r.asked = r.databaseTypes := by
  obtain ⟨id, hmem, hid⟩ := h
  refine if_neg fun hall => ?_
  rw [isKnown, ofId?_blank (List.all_eq_true.mp hall id hmem)] at hid
  cases hid

/-! ## 4. The answer -/

theorem single_iff_length (ds : List Draft) :
    (∃ ddl, Response.ofDrafts ds = .single ddl) ↔ ds.length = 1 := by
  match ds with
  | [] => simp [Response.ofDrafts]
  | [d] => simp [Response.ofDrafts]
  | _ :: _ :: _ => simp [Response.ofDrafts]

section Answer

variable [PatternEngine] {r : Request}

/-- Identifiers that ask for nothing change no answer, once an identifier names a dialect. -/
theorem process_of_padded {ids : List String} (hr : ∃ id ∈ r.databaseTypes, isKnown id = true)
    (h : Padded r.databaseTypes ids) : { r with databaseTypes := ids }.process = r.process := by
  have hids : ∃ id ∈ ids, isKnown id = true := by
    obtain ⟨id, hmem, hid⟩ := hr
    exact ⟨id, h.subset hmem, hid⟩
  have hdrafts : ∀ fields, drafts fields r.rulesByDatabase { r with databaseTypes := ids }.dialects
      r.options = drafts fields r.rulesByDatabase r.dialects r.options := by
    intro fields
    rw [drafts_dialects, drafts_dialects, asked_eq hr, asked_eq hids]
    exact filterMap_of_padded (isSome_draftFor fields _ _) h
  by_cases hblank : isBlankText r.sql.toList = true
  · rw [process_blank hblank, process_blank (r := { r with databaseTypes := ids }) hblank]
  · rw [process_eq hblank, process_eq (r := { r with databaseTypes := ids }) hblank]
    exact congrArg (Except.map · (parseFields r.sql))
      (funext fun fields => congrArg Response.ofDrafts (hdrafts fields))

/-- An answer is a single statement exactly if one identifier that is asked for names a dialect. -/
theorem single_iff {answer : Response} (h : r.process = .ok answer) :
    (∃ ddl, answer = .single ddl) ↔ r.asked.countP isKnown = 1 := by
  by_cases hblank : isBlankText r.sql.toList = true
  · rw [process_blank hblank] at h
    cases h
  · rw [process_eq hblank] at h
    cases hfields : parseFields r.sql with
    | error e =>
        rw [hfields] at h
        cases h
    | ok fields =>
        rw [hfields] at h
        obtain rfl := Except.ok.inj h
        rw [single_iff_length, length_drafts]

end Answer

/-- **What a request is answered with.** It fails exactly if its query text is blank or cannot be read,
with that error, whatever else it holds, and other query text can mend it. Identifiers that ask for
nothing change no answer once one of the identifiers names a dialect. The answer is a single statement
exactly if one of those that are asked for does. -/
theorem answer_decided [PatternEngine] (r : Request) :
    (r.process = .error .emptySql ↔ isBlankText r.sql.toList = true) ∧
    (¬ isBlankText r.sql.toList = true →
      ∀ e, r.process = .error e ↔ parseFields r.sql = .error e) ∧
    (∀ (r' : Request) e, r'.sql = r.sql → (r'.process = .error e ↔ r.process = .error e)) ∧
    (∀ e, r.process = .error e → e.isInputError = true) ∧
    (∀ ids, (∃ id ∈ r.databaseTypes, isKnown id = true) → Padded r.databaseTypes ids →
      { r with databaseTypes := ids }.process = r.process) ∧
    ∀ answer, r.process = .ok answer →
      ((∃ ddl, answer = .single ddl) ↔ r.asked.countP isKnown = 1) := by
  refine ⟨emptySql_iff, fun hblank e => ?_, fun r' e hsql => ?_, fun e => isInputError_of_error,
    fun ids => process_of_padded, fun answer => single_iff⟩
  · rw [error_iff]
    simp [hblank]
  · rw [error_iff, error_iff, hsql]

/-- A request for one dialect among blank and unknown identifiers, and two whose list does not balance
its parentheses. -/
theorem answer_decided_padded :
    (∃ ddl, (Request.mk "a" ["", " MySQL ", "oracle"] .empty none none).process = .ok (.single ddl)) ∧
    (Request.mk "a" ["", " MySQL ", "oracle"] .empty none none).process =
      (Request.mk "a" [" MySQL "] .empty none none).process ∧
    (Request.mk "a)" ["oracle"] .empty none none).process =
      .error (.unbalancedParentheses "a)") ∧
    (Request.mk "a)" ["mysql"] .empty none none).process =
      .error (.unbalancedParentheses "a)") ∧
    (DraftError.unbalancedParentheses "a)").isInputError = true := by
  have hsame := (answer_decided (.mk "a" [" MySQL "] .empty none none)).2.2.2.2.1 ["", " MySQL ", "oracle"]
    ⟨" MySQL ", by decide, by decide +kernel⟩
    (.put (by decide +kernel) (.keep _ (.put (by decide +kernel) .nil)))
  have hrefused : (Request.mk "a)" ["oracle"] .empty none none).process =
      .error (.unbalancedParentheses "a)") :=
    ((answer_decided (.mk "a)" ["oracle"] .empty none none)).2.1 (by decide) _).mpr rfl
  refine ⟨?_, hsame, hrefused, ?_, ?_⟩
  · have hprocess := process_eq (r := .mk "a" ["", " MySQL ", "oracle"] .empty none none) (by decide)
    rw [show parseFields "a" = .ok [⟨"a", none, "a"⟩] from rfl] at hprocess
    obtain ⟨ddl, hddl⟩ := ((answer_decided _).2.2.2.2.2 _ hprocess).mpr (by decide +kernel)
    exact ⟨ddl, hprocess.trans (congrArg Except.ok hddl)⟩
  · exact ((answer_decided _).2.2.1 (.mk "a)" ["mysql"] .empty none none) _ rfl).mpr hrefused
  · exact (answer_decided _).2.2.2.1 _ hrefused

end TableDraft.Request

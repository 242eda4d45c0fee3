import TableDraft.Ddl.Draft
import TableDraft.Proofs.Typing.RuleLookup
import TableDraft.Proofs.Typing.RuleOrder

/-!
# Identifiers of one dialect

A dialect answers to every spelling of its identifier, and PostgreSQL to a short one too. The rules of
a statement are looked up by identifier, which is more particular than the reading of identifiers.

* `mem_drafts_iff`: a statement is drafted for each identifier that names a dialect, with the label of
  the dialect and the rules that the identifier finds;
* **`sameText_iff`: two identifiers of one dialect always give the same text exactly if the lookup of
  rules takes them for one**;
* `sameText_of_ascii`: ASCII spellings do, but for the two names of PostgreSQL.
-/

namespace TableDraft.Ddl

open Select Text

/-! ## 1. What an identifier decides -/

theorem ofNormalId?_eq_some {id : String} {d : Dialect} (h : Dialect.ofNormalId? id = some d) :
    id = d.id ∨ d = .postgreSql := by
  unfold Dialect.ofNormalId? at h
  by_cases hshort : id = "postgres"
  · rw [if_pos hshort] at h
    exact Or.inr (Option.some.inj h).symm
  · rw [if_neg hshort] at h
    have hid := List.find?_some h
    exact Or.inl (eq_of_beq hid).symm

section Entry

variable {id : String} {d : Dialect}

theorem labelOf_eq (h : Dialect.ofId? id = some d) : Dialect.labelOf id = d.label := by
  simp [Dialect.labelOf, h]

/-- The text depends on an identifier only through the dialect that it names. -/
theorem draft_eq [PatternEngine] (h : Dialect.ofId? id = some d) (fields : List Field)
    (rules : List TypeRule) (options : TableOptions) : draft fields rules id options = draft fields rules d.id options := by
  simp [draft, Dialect.resolve, h, Dialect.ofId?_id]

end Entry

/-- **There is a statement for each identifier that names a dialect**, with the label of the dialect
and the rules that are found under the identifier. -/
theorem mem_drafts_iff [PatternEngine] {fields : List Field} {rules : RuleSet} {ids : List String}
    {options : TableOptions} {e : Draft} : e ∈ drafts fields rules ids options ↔
    ∃ id ∈ ids, ∃ d, Dialect.ofId? id = some d ∧
      e = ⟨id, d.label, draft fields (rules.get id) d.id options⟩ := by
  unfold drafts
  rw [List.mem_filterMap]
  refine exists_congr fun id => and_congr_right fun _ => ?_
  rw [Option.map_eq_some_iff]
  refine exists_congr fun d => and_congr_right fun h => ?_
  rw [labelOf_eq h, draft_eq h, eq_comm]

/-- The statement for an identifier of a known dialect. -/
theorem eq_of_mem_drafts [PatternEngine] {fields : List Field} {rules : RuleSet} {ids : List String}
    {options : TableOptions} {e : Draft} (he : e ∈ drafts fields rules ids options) {d : Dialect}
    (h : Dialect.ofId? e.databaseType = some d) :
    e = ⟨e.databaseType, d.label, draft fields (rules.get e.databaseType) d.id options⟩ := by
  obtain ⟨id, -, d', hd', rfl⟩ := mem_drafts_iff.mp he
  obtain rfl := Option.some.inj (hd'.symm.trans h)
  rfl

/-! ## 2. Two identifiers -/

/-- Whatever is drafted, the statements for the two identifiers have the same text. -/
def SameText [PatternEngine] (a b : String) : Prop :=
  ∀ (fields : List Field) (rules : RuleSet) (ids ids' : List String) (options : TableOptions),
    ∀ e ∈ drafts fields rules ids options, ∀ e' ∈ drafts fields rules ids' options,
      e.databaseType = a → e'.databaseType = b → e.ddl = e'.ddl

/-- A rule that gives a date to every name with an x in it. -/
def dateRule : TypeRule := TypeRule.ofKeywords ["x"] "DATE"

theorem normalize_x : Naming.normalize "x" = "x" := by decide +kernel

theorem infer_dateRule [PatternEngine] : Inference.infer "x" "x" [dateRule] = .date := by
  rw [Inference.infer_singleton, normalize_x]
  rfl

theorem infer_without_rules [PatternEngine] : Inference.infer "x" "x" [] = .string := by
  rw [Inference.infer_nil, normalize_x]
  decide +kernel

/-- In every dialect, a rule may change the statement. -/
theorem draft_dateRule [PatternEngine] (d : Dialect) : draft [⟨"x", none, "x"⟩] [dateRule] d.id .default ≠
    draft [⟨"x", none, "x"⟩] [] d.id .default := by
  simp only [draft, resolveColumns, List.map_cons, List.map_nil, infer_dateRule, infer_without_rules]
  cases d <;> decide +kernel

section Pair

variable [PatternEngine] {a b : String} {d : Dialect} (ha : Dialect.ofId? a = some d)
  (hb : Dialect.ofId? b = some d)
include ha hb

/-- The same rules make the same statement. -/
theorem ddl_eq_of_get {fields : List Field} {rules : RuleSet} {ids ids' : List String}
    {options : TableOptions} {e e' : Draft} (he : e ∈ drafts fields rules ids options)
    (he' : e' ∈ drafts fields rules ids' options) (hea : e.databaseType = a)
    (heb : e'.databaseType = b) :
    e.label = e'.label ∧ (rules.get a = rules.get b → e.ddl = e'.ddl) := by
  subst hea heb
  rw [eq_of_mem_drafts he ha, eq_of_mem_drafts he' hb]
  exact ⟨rfl, fun hget => by simp only [hget]⟩

/-- **Two identifiers of one dialect always give the same text exactly if the lookup of rules takes
them for one.** -/
theorem sameText_iff : SameText a b ↔ RuleSet.sameId a b = true := by
  constructor
  · intro h
    by_contra hno
    have hget : (RuleSet.mk [(a, [dateRule])]).get a = [dateRule] := by
      simp [RuleSet.get, RuleSet.sameId_refl]
    have hget' : (RuleSet.mk [(a, [dateRule])]).get b = [] := by
      simp [RuleSet.get, hno]
    have hdraft := h [⟨"x", none, "x"⟩] ⟨[(a, [dateRule])]⟩ [a] [b] .default
      _ (mem_drafts_iff.mpr ⟨a, List.mem_cons_self, d, ha, rfl⟩)
      _ (mem_drafts_iff.mpr ⟨b, List.mem_cons_self, d, hb, rfl⟩) rfl rfl
    simp only [hget, hget'] at hdraft
    exact draft_dateRule d hdraft
  · intro hsame fields rules ids ids' options e he e' he' hea heb
    exact (ddl_eq_of_get ha hb he he' hea heb).2 (RuleSet.get_congr hsame rules)

/-- ASCII spellings of one identifier always give the same text. -/
theorem sameText_of_ascii (hasciia : RuleSet.AsciiId a) (hasciib : RuleSet.AsciiId b)
    (hd : d ≠ .postgreSql) : SameText a b := by
  have hna : RuleSet.normalId a = d.id := (ofNormalId?_eq_some ha).resolve_right hd
  have hnb : RuleSet.normalId b = d.id := (ofNormalId?_eq_some hb).resolve_right hd
  have hsa := RuleSet.sameId_normalId hasciia
  have hsb := RuleSet.sameId_normalId hasciib
  rw [hna] at hsa
  rw [hnb] at hsb
  exact (sameText_iff ha hb).mpr (RuleSet.sameId_trans (RuleSet.sameId_symm hsa) hsb)

/-- **How far the identifiers of one dialect can stand for one another**: each gets a statement, under
the same label, and with the same text where the two find the same rules. The texts are the same for
all rules exactly if the lookup of rules takes the two for one, as it does for ASCII identifiers of
every dialect but PostgreSQL, which has two names. -/
theorem drafts_for_identifiers :
    (∀ (fields : List Field) (rules : RuleSet) (ids ids' : List String) (options : TableOptions),
      (a ∈ ids → ∃ e ∈ drafts fields rules ids options, e.databaseType = a) ∧
      ∀ e ∈ drafts fields rules ids options, ∀ e' ∈ drafts fields rules ids' options,
        e.databaseType = a → e'.databaseType = b →
          e.label = e'.label ∧ (rules.get a = rules.get b → e.ddl = e'.ddl)) ∧
    (SameText a b ↔ RuleSet.sameId a b = true) ∧
    (RuleSet.AsciiId a → RuleSet.AsciiId b → d ≠ .postgreSql → SameText a b) := by
  refine ⟨fun fields rules ids ids' options => ⟨fun hmem => ?_, ?_⟩, sameText_iff ha hb,
    sameText_of_ascii ha hb⟩
  · exact ⟨_, mem_drafts_iff.mpr ⟨a, hmem, d, ha, rfl⟩, rfl⟩
  · exact fun e he e' he' hea heb => ddl_eq_of_get ha hb he he' hea heb

end Pair

/-- Capitals and blanks make no difference to what is drafted. -/
theorem drafts_for_spaced_identifier :
    Dialect.ofId? " MySQL " = some .mySql ∧ SameText " MySQL " "mysql" := by
  have hid : Dialect.ofId? " MySQL " = some .mySql := by decide +kernel
  have hfacts := drafts_for_identifiers hid (Dialect.ofId?_id .mySql)
  exact ⟨hid, hfacts.2.2 (by decide) (by decide) (by decide)⟩

/-- **The short name of PostgreSQL does not find the rules under the long one**, and the Kelvin sign,
whose lower case is a plain letter, makes a spelling that finds no rules either: two identifiers of one
dialect may give different texts. -/
theorem identifiers_not_interchangeable :
    (Dialect.ofId? "postgres" = some .postgreSql ∧ Dialect.ofId? "postgresql" = some .postgreSql ∧
      ¬ SameText "postgres" "postgresql") ∧
    (Dialect.ofId? "spar\u212A" = some .spark ∧ Dialect.ofId? "spark" = some .spark ∧
      ¬ SameText "spar\u212A" "spark") := by
  have hshort : Dialect.ofId? "postgres" = some .postgreSql := by decide +kernel
  have hkelvin : Dialect.ofId? "spar\u212A" = some .spark := by decide +kernel
  have hlong := Dialect.ofId?_id .postgreSql
  have hspark := Dialect.ofId?_id .spark
  refine ⟨⟨hshort, hlong, ?_⟩, ⟨hkelvin, hspark, ?_⟩⟩
  · intro h
    have hsame := (sameText_iff hshort hlong).mp h
    revert hsame
    decide +kernel
  · intro h
    have hsame := (sameText_iff hkelvin hspark).mp h
    revert hsame
    decide +kernel

end TableDraft.Ddl

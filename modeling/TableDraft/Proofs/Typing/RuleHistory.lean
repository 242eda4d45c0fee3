import TableDraft.Proofs.Typing.RuleDocuments

/-!
# Histories of rule sets

A rule set is built from nothing by insertions and by loading documents, some of which cannot be read
(`Operation`, `runAll`):

* `Stored`: **what an operation keeps**: identifiers are in order and in the form in which they are
  stored (`stored_run`), so that this holds after every history (`stored_runAll`);
* `at?_runAll`: under an identifier are the rules of the last operation that names it;
* `get_of_stored`, `isEmpty_iff`: a lookup by an ASCII identifier reads what is under its stored form,
  and a set is empty when every lookup is;
* `history_decides` puts these together.
-/

namespace TableDraft.RuleSet

open Text

/-! ## 1. Operations -/

/-- What can be done to a rule set. -/
inductive Operation where
  /-- Rules are set for an identifier. -/
  | insert (id : String) (rules : List TypeRule)
  /-- The rules of a document are added. -/
  | load (text : String)

namespace Operation

/-- The set after an operation, whether it succeeds or not. -/
def run (s : RuleSet) : Operation → RuleSet
  | insert id rules => s.insert id rules
  | load text => (s.load text).2

/-- The operation succeeds and names an identifier with the stored form, to which it gives the rules:
in a document, those of the last such identifier in order. -/
def Sets (key : String) (rules : List TypeRule) : Operation → Prop
  | insert id r => normalId id = key ∧ r = rules
  | load text => ∃ doc, Exchange.ruleSet.read text = .ok doc ∧
      ∃ id, (id, rules) ∈ doc.entries ∧ normalId id = key ∧
        ∀ id' r, (id', r) ∈ doc.entries → normalId id' = key → id' ≤ id

/-- The rules that the operation gives to an identifier in stored form. -/
def rules? (key : String) : Operation → Option (List TypeRule)
  | insert id rules => if normalId id = key then some rules else none
  | load text =>
    match Exchange.ruleSet.read text with
    | .ok doc => lastUnder key doc.entries
    | .error _ => none

end Operation

/-- The set after a history of operations on the empty one. -/
def runAll (ops : List Operation) : RuleSet := ops.foldl Operation.run empty

section Load

variable {text : String} {doc : RuleSet} {f : Json.Fault}

theorem run_of_ok (h : Exchange.ruleSet.read text = .ok doc) (s : RuleSet) :
    (Operation.load text).run s = s.insertAll doc := by
  simp [Operation.run, load_of_ok h]

theorem run_of_error (h : Exchange.ruleSet.read text = .error f) (s : RuleSet) :
    (Operation.load text).run s = s := by
  simp [Operation.run, load_of_error h]

/-- **A load that fails leaves the set as it is.** -/
theorem load_fails {s : RuleSet} {e : DraftError} (h : (s.load text).1 = .error e) :
    (s.load text).2 = s := by
  cases hread : Exchange.ruleSet.read text with
  | error f => rw [load_of_error hread]
  | ok doc =>
      rw [load_of_ok hread] at h
      cases h

end Load

/-! ## 2. Documents -/

theorem exists_of_lastUnder {key : String} {rules : List TypeRule} :
    ∀ {l : List (String × List TypeRule)}, l.Pairwise (fun a b => a.1 < b.1) →
    lastUnder key l = some rules → ∃ id, (id, rules) ∈ l ∧ normalId id = key ∧
      ∀ id' r, (id', r) ∈ l → normalId id' = key → id' ≤ id
  | [], _, h => by cases h
  | (k, r₀) :: l, hs, h => by
      obtain ⟨hk, hl⟩ := List.pairwise_cons.mp hs
      rcases Option.or_eq_some_iff.mp h with hrest | ⟨hrest, hhead⟩
      · obtain ⟨id, hid, hkey, hmax⟩ := exists_of_lastUnder hl hrest
        refine ⟨id, List.mem_cons_of_mem _ hid, hkey, fun id' r hmem hn => ?_⟩
        rcases List.mem_cons.mp hmem with heq | hmem
        · rw [(Prod.mk.inj heq).1]
          exact (hk _ hid).le
        · exact hmax id' r hmem hn
      · have hnone := lastUnder_eq_none_iff.mp hrest
        by_cases hkey : normalId k = key
        · simp only [hkey, if_true, Option.some.injEq] at hhead
          subst hhead
          refine ⟨k, List.mem_cons_self, hkey, fun id' r hmem hn => ?_⟩
          rcases List.mem_cons.mp hmem with heq | hmem
          · exact (Prod.mk.inj heq).1.le
          · exact (hnone (id', r) hmem hn).elim
        · simp [hkey] at hhead

/-- In an ordered list of entries, the last one under a stored form has the greatest identifier. -/
theorem lastUnder_eq_some_iff {key : String} {rules : List TypeRule}
    {l : List (String × List TypeRule)} (hs : l.Pairwise (fun a b => a.1 < b.1)) :
    lastUnder key l = some rules ↔ ∃ id, (id, rules) ∈ l ∧ normalId id = key ∧
      ∀ id' r, (id', r) ∈ l → normalId id' = key → id' ≤ id := by
  refine ⟨exists_of_lastUnder hs, ?_⟩
  rintro ⟨id, hid, hkey, hmax⟩
  cases hlast : lastUnder key l with
  | none => exact (lastUnder_eq_none_iff.mp hlast (id, rules) hid hkey).elim
  | some r =>
      obtain ⟨id', hid', hkey', hmax'⟩ := exists_of_lastUnder hs hlast
      have heq : id' = id := le_antisymm (hmax id' r hid' hkey') (hmax' id rules hid hkey)
      rw [heq, mem_iff_lookup hs] at hid'
      rw [mem_iff_lookup hs, hid'] at hid
      exact hid

theorem Operation.sets_iff {op : Operation} {key : String} {rules : List TypeRule} :
    op.Sets key rules ↔ op.rules? key = some rules := by
  cases op with
  | insert id r => by_cases h : normalId id = key <;> simp [Sets, rules?, h]
  | load text =>
      cases hread : Exchange.ruleSet.read text with
      | error f => simp [Sets, rules?, hread]
      | ok doc => simp [Sets, rules?, hread, lastUnder_eq_some_iff (sorted_of_read hread)]

/-! ## 3. One operation -/

/-- The identifiers are in order and in the form in which they are stored. -/
structure Stored (s : RuleSet) : Prop where
  sorted : s.Sorted
  normal : ∀ key rules, s.at? key = some rules → Normal key

theorem stored_empty : Stored empty := ⟨sorted_empty, fun _ _ h => by cases h⟩

theorem at?_insert (s : RuleSet) (id key : String) (rules : List TypeRule) :
    (s.insert id rules).at? key = if key = normalId id then some rules else s.at? key :=
  at?_put s (normalId id) key rules

/-- **Under an identifier are the rules that the operation gives it, or else those from before.** -/
theorem at?_run (s : RuleSet) (op : Operation) (key : String) :
    (op.run s).at? key = (op.rules? key).or (s.at? key) := by
  cases op with
  | insert id rules =>
      rw [Operation.run, at?_insert, Operation.rules?]
      by_cases h : normalId id = key
      · simp [h]
      · simp [h, Ne.symm h]
  | load text =>
      cases hread : Exchange.ruleSet.read text with
      | error f => simp [run_of_error hread, Operation.rules?, hread]
      | ok doc => simp [run_of_ok hread, Operation.rules?, hread, at?_insertAll]

/-- **An operation keeps the identifiers in order and in stored form.** -/
theorem stored_run {s : RuleSet} (h : Stored s) (op : Operation) : Stored (op.run s) := by
  refine ⟨?_, fun key rules hk => ?_⟩
  · cases op with
    | insert id rules => exact sorted_insert h.sorted id rules
    | load text =>
        cases hread : Exchange.ruleSet.read text with
        | error f =>
            rw [run_of_error hread]
            exact h.sorted
        | ok doc =>
            rw [run_of_ok hread]
            exact sorted_insertAll h.sorted doc
  · rw [at?_run] at hk
    rcases Option.or_eq_some_iff.mp hk with hop | ⟨-, hs⟩
    · cases op with
      | insert id r =>
          obtain ⟨rfl, -⟩ := Operation.sets_iff.mpr hop
          exact normal_normalId id
      | load text =>
          obtain ⟨doc, -, id, -, rfl, -⟩ := Operation.sets_iff.mpr hop
          exact normal_normalId id
    · exact h.normal key rules hs

/-! ## 4. A history -/

theorem runAll_append (l l' : List Operation) : runAll (l ++ l') = l'.foldl Operation.run (runAll l) :=
  List.foldl_append

/-- **After every history the identifiers are in order and in stored form.** -/
theorem stored_runAll (ops : List Operation) : Stored (runAll ops) := by
  have hfold : ∀ (l : List Operation) {s : RuleSet}, Stored s → Stored (l.foldl Operation.run s) := by
    intro l
    induction l with
    | nil => exact fun h => h
    | cons op l ih => exact fun h => ih (stored_run h op)
  exact hfold ops stored_empty

theorem at?_fold_of_none {key : String} : ∀ {l : List Operation} {s : RuleSet},
    (∀ op ∈ l, op.rules? key = none) → (l.foldl Operation.run s).at? key = s.at? key
  | [], _, _ => rfl
  | op :: l, s, h => by
      have hrest := at?_fold_of_none (l := l) (s := op.run s)
        fun o ho => h o (List.mem_cons_of_mem op ho)
      rw [List.foldl_cons, hrest, at?_run, h op List.mem_cons_self, Option.none_or]

/-- **Under an identifier are the rules of the last operation that gives it some.** -/
theorem at?_runAll {key : String} {rules : List TypeRule} {l l' : List Operation} {op : Operation}
    (hop : op.Sets key rules) (hl' : ∀ o ∈ l', ∀ r, ¬ o.Sets key r) :
    (runAll (l ++ op :: l')).at? key = some rules := by
  have hnone : ∀ o ∈ l', o.rules? key = none := fun o ho =>
    Option.eq_none_iff_forall_ne_some.mpr fun r hr => hl' o ho r (Operation.sets_iff.mpr hr)
  rw [runAll_append, List.foldl_cons, at?_fold_of_none hnone, at?_run,
    Operation.sets_iff.mp hop, Option.some_or]

/-- A history without operations on an identifier leaves nothing under it. -/
theorem at?_runAll_none {key : String} {ops : List Operation}
    (h : ∀ o ∈ ops, ∀ r, ¬ o.Sets key r) : (runAll ops).at? key = none := by
  have hnone : ∀ o ∈ ops, o.rules? key = none := fun o ho =>
    Option.eq_none_iff_forall_ne_some.mpr fun r hr => h o ho r (Operation.sets_iff.mpr hr)
  rw [runAll, at?_fold_of_none hnone, at?_empty]

/-! ## 5. What the answers say -/

/-- Under stored identifiers only the equal one agrees with an ASCII identifier. -/
theorem get_of_stored {s : RuleSet} (h : Stored s) {id : String} (hid : AsciiId id) :
    s.get id = (s.at? (normalId id)).getD [] := by
  cases hat : s.at? (normalId id) with
  | some rules =>
      refine get_eq h.sorted ⟨hat, sameId_normalId hid, fun k r hk hsame => ?_⟩
      rw [eq_normalId (h.normal k r hk) hid hsame]
  | none =>
      refine get_eq_nil h.sorted fun k r hk => ?_
      rw [← Bool.not_eq_true]
      intro hsame
      rw [eq_normalId (h.normal k r hk) hid hsame, hat] at hk
      cases hk

/-- A stored identifier finds its own rules. -/
theorem get_of_held {s : RuleSet} (h : Stored s) {key : String} {rules : List TypeRule}
    (hk : s.at? key = some rules) : s.get key = rules := by
  refine get_eq h.sorted ⟨hk, sameId_refl key, fun k r hk' hsame => ?_⟩
  rw [eq_of_sameId (h.normal k r hk') (h.normal key rules hk) hsame]

/-- **A set has no rules when no lookup finds any.** -/
theorem isEmpty_iff {s : RuleSet} (h : Stored s) : s.isEmpty = true ↔ ∀ id, s.get id = [] := by
  have hentries : s.isEmpty = true ↔ ∀ key rules, s.at? key = some rules → rules = [] := by
    simp only [isEmpty, List.all_eq_true, List.isEmpty_iff]
    constructor
    · exact fun hall key rules hk => hall (key, rules) ((mem_entries_iff h.sorted).mpr hk)
    · exact fun hall e he => hall e.1 e.2 ((mem_entries_iff h.sorted).mp he)
  rw [hentries]
  constructor
  · intro hall id
    rcases exists_first h.sorted id with ⟨hget, -⟩ | ⟨key, rules, hfirst, hget⟩
    · exact hget
    · rw [hget, hall key rules hfirst.held]
  · intro hall key rules hk
    rw [← get_of_held h hk, hall key]

/-- **What every history of insertions and loads, some of which fail, leaves**: identifiers that are
trimmed and in lower case; the set that it leaves without a load that fails; for an ASCII identifier
the rules of the last operation that names it, and none if there is no such operation; and a set that
is empty exactly if every lookup is. -/
theorem history_decides (ops : List Operation) :
    (∀ e ∈ (runAll ops).entries, trim e.1.toList = e.1.toList ∧ lower e.1.toList = e.1.toList) ∧
    (∀ l text l' f, ops = l ++ .load text :: l' → ((runAll l).load text).1 = .error f →
      runAll ops = runAll (l ++ l')) ∧
    (∀ id, AsciiId id →
      (∀ l op l' rules, ops = l ++ op :: l' → op.Sets (normalId id) rules →
        (∀ o ∈ l', ∀ r, ¬ o.Sets (normalId id) r) → (runAll ops).get id = rules) ∧
      ((∀ o ∈ ops, ∀ r, ¬ o.Sets (normalId id) r) → (runAll ops).get id = [])) ∧
    ((runAll ops).isEmpty = true ↔ ∀ id, (runAll ops).get id = []) := by
  have hstored := stored_runAll ops
  refine ⟨fun e he => ?_, ?_, fun id hid => ⟨?_, fun hnone => ?_⟩, isEmpty_iff hstored⟩
  · have hn := hstored.normal e.1 e.2 ((mem_entries_iff hstored.sorted).mp he)
    exact ⟨hn.trimmed, hn.lowered⟩
  · rintro l text l' f rfl hload
    have hrun : (Operation.load text).run (runAll l) = runAll l := load_fails hload
    rw [runAll_append, runAll_append, List.foldl_cons, hrun]
  · rintro l op l' rules rfl hop hl'
    rw [get_of_stored hstored hid, at?_runAll hop hl', Option.getD_some]
  · rw [get_of_stored hstored hid, at?_runAll_none hnone, Option.getD_none]

/-- Rules that were inserted are found after a load that failed, as if it had not been tried. -/
theorem history_decides_failed :
    (runAll [.insert " MySQL " [TypeRule.ofKeywords ["x"] "DATE"], .load "["]).get "mysql" =
      [TypeRule.ofKeywords ["x"] "DATE"] ∧
    runAll [.insert " MySQL " [TypeRule.ofKeywords ["x"] "DATE"], .load "["] =
      runAll [.insert " MySQL " [TypeRule.ofKeywords ["x"] "DATE"]] := by
  obtain ⟨f, hread⟩ : ∃ f, Exchange.ruleSet.read "[" = .error f := by
    have hnone : (Exchange.ruleSet.read "[").toOption = none := by decide +kernel
    cases hread : Exchange.ruleSet.read "[" with
    | error f => exact ⟨f, rfl⟩
    | ok d =>
        rw [hread] at hnone
        cases hnone
  obtain ⟨-, hload, hget, -⟩ := history_decides
    [.insert " MySQL " [TypeRule.ofKeywords ["x"] "DATE"], .load "["]
  refine ⟨(hget "mysql" (by decide)).1 [] _ _ _ rfl ⟨by decide +kernel, rfl⟩ ?_, ?_⟩
  · simp [Operation.Sets, hread]
  · exact hload [_] "[" [] _ rfl (congrArg Prod.fst (load_of_error hread _))

end TableDraft.RuleSet

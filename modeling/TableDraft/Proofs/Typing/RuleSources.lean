import Mathlib.Data.List.Nodup
import TableDraft.Proofs.Json.SkippedFaults
import TableDraft.Proofs.Json.WrittenRecords
import TableDraft.Proofs.Typing.RuleHistory

/-!
# One document, two ways to load it

A rules document can be loaded by itself or be given as the rules of a request.

* `rules_of_carried`: **the rules of a request are those of the document that it carries**, and every
  rules document is carried by some request (`exists_request`);
* `get_of_either`: the set loaded from a document and the rules of a request that carries it find the
  same for an ASCII identifier exactly if the last identifier of the document with its stored form and
  the first one that agrees with it have the same rules (`Agreed`). Identifiers of ASCII characters
  whose stored forms differ leave no room for a difference (`agreed_of_namesOnce`).
-/

namespace TableDraft

open Json Text

/-! ## 1. Rules in a request -/

namespace Exchange

theorem strict_need {σ α : Type} {name : String} {read : Document → Except Fault α}
    {put : α → σ → σ} (h : Strict read) : (need name read put).Strict :=
  fun _ _ _ hput => Document.Strict.map h hput

theorem strict_may {σ α : Type} {name : String} {read : Document → Except Fault α}
    {put : α → σ → σ} (h : Strict read) : (may name read put).Strict :=
  fun _ _ _ hput => Document.Strict.map h hput

theorem strict_also {σ : Type} {m : Member σ} (h : m.Strict) (other : String) :
    (also m other).Strict := h

theorem strict_typeRule : Strict typeRule.decode := by
  refine Record.strict_read ?_
  simp only [List.forall_mem_cons]
  refine ⟨strict_need (Document.strict_asList Document.strict_asString),
    strict_also (strict_may (Document.strict_asWord _)) _,
    strict_also (strict_may (Document.strict_asWord _)) _,
    strict_also (strict_need Document.strict_asString) _, strict_may Document.strict_asInt64,
    strict_may ?_, strict_may ?_, strict_may ?_, fun m hm => absurd hm List.not_mem_nil⟩
  all_goals exact Document.strict_asOption Document.strict_asUInt32

/-- **Rules are read only from documents without a fault for who skips them.** -/
theorem strict_ruleSet : Strict ruleSet.decode := fun _ _ h =>
  Document.Strict.map (Document.strict_asEntries (Document.strict_asList strict_typeRule)) h

/-- The document of a request has the document as its rules, in an object or in a list. -/
inductive Carried (d : Document) : Document → Prop
  | member {members : List (Document × Document)} {stop : Option Stop} :
      (.string "rulesByDatabase", d) ∈ members → Carried d (.object members stop)
  | item {items : List Document} {stop : Option Stop} :
      items[2]? = some d → Carried d (.array items stop)

/-- **The rules of a request are those of the document that it carries.** -/
theorem rules_of_carried {d whole : Document} {doc : RuleSet} {r : Request} (h : Carried d whole)
    (hdoc : ruleSet.decode d = .ok doc) (hr : request.decode whole = .ok r) :
    r.rulesByDatabase = doc := by
  let m : Member Request :=
    may "rulesByDatabase" ruleSet.decode (fun v r => { r with rulesByDatabase := v })
  refine Record.read_sets (p := fun r : Request => r.rulesByDatabase = doc) (m := m) (d := d)
    ?holds ?set ?keep (by decide) hr
  case holds =>
    cases h with
    | member hmem => exact .member rfl hmem
    | item hitem => exact .item [_, _] _ rfl hitem
  case set =>
    intro value value' hput
    have hread : (ruleSet.decode d).map (fun v => { value with rulesByDatabase := v }) =
        .ok value' := hput
    rw [hdoc] at hread
    rw [← Except.ok.inj hread]
  case keep =>
    simp only [List.forall_mem_cons]
    refine ⟨fun _ => ?_, fun _ => ?_, fun hother => absurd rfl hother, fun _ => ?_, fun _ => ?_,
      fun m hm => absurd hm List.not_mem_nil⟩
    all_goals exact RuleSet.keeps_may fun _ _ _ _ hrules => hrules

end Exchange

/-! ## 2. A request for every document -/

namespace RuleSet

/-- The document that a text starts with. -/
def documentOf (text : String) : Document := (Document.ofText text.toList).1

/-- The text of a request has the document of a text as its rules. -/
def Carries (requestText text : String) : Prop :=
  Exchange.Carried (documentOf text) (documentOf requestText)

/-- A request with rules and nothing else. -/
def requestWith (text : String) : String := "\x7b\"rulesByDatabase\":" ++ text ++ "\x7d"

theorem skipSpace_close {blanks : List Char} (h : Document.skipSpace blanks = []) :
    Document.skipSpace (blanks ++ ['\x7d']) = ['\x7d'] := by
  unfold Document.skipSpace at h ⊢
  rw [List.dropWhile_append, h]
  rfl

/-- **The document of a text stands in the request with that text.** -/
theorem ofText_requestWith {text : String} {d : Document}
    (hread : Document.ofText text.toList = (d, false)) (hfault : d.skipFault? = none) :
    Document.ofText (requestWith text).toList =
      (.object [(.string "rulesByDatabase", d)] none, false) := by
  have hlead : "\x7b\"rulesByDatabase\":".toList =
      '{' :: '"' :: ("rulesByDatabase".toList.flatMap Json.writeChar ++ ['"', ':']) := by decide +kernel
  have hlist : (requestWith text).toList = '{' :: '"' ::
      ("rulesByDatabase".toList.flatMap Json.writeChar ++ '"' :: ':' :: (text.toList ++ ['\x7d'])) := by
    have hclose : "\x7d".toList = ['\x7d'] := by decide
    unfold requestWith
    rw [String.toList_append, String.toList_append, hlead, hclose]
    generalize "rulesByDatabase".toList.flatMap Json.writeChar = key
    simp only [List.cons_append, List.append_assoc, List.nil_append]
  have hlength : text.toList.length + 1 ≤ (requestWith text).toList.length := by
    rw [hlist]
    simp only [List.length_cons, List.length_append]
    omega
  obtain ⟨n, hn⟩ : ∃ n, 2 * (requestWith text).toList.length + 2 = n + 3 :=
    ⟨2 * (requestWith text).toList.length - 1, by omega⟩
  have hends : Document.EndsNumber ['\x7d'] := Document.endsNumber_cons (by decide) []
  obtain ⟨blanks, hblanks, hvalue⟩ :=
    Document.readValue_of_ofText hread hfault hends (by omega : _ ≤ n + 1)
  have hmembers : Document.readMembers (n + 1) false (blanks ++ ['\x7d']) = ([], none, some []) := by
    rw [Document.readMembers_succ, skipSpace_close hblanks]
    rfl
  have hwhole := Document.readValue_object
    (Document.readMembers_first (k := "rulesByDatabase") hvalue hmembers)
  rw [← hlist, ← hn] at hwhole
  rw [Document.ofText, hwhole]
  rfl

/-- What is read from a text is what its document stands for, and nothing follows it. -/
theorem ofText_of_read {α : Type} {c : Codec α} {text : String} {a : α} (h : c.read text = .ok a) :
    c.decode (documentOf text) = .ok a ∧ Document.ofText text.toList = (documentOf text, false) := by
  unfold Codec.read at h
  dsimp only at h
  split at h
  · cases h
  · rename_i a' hdecode
    split at h
    · cases h
    · rename_i hmore
      rw [Bool.not_eq_true] at hmore
      exact ⟨Except.ok.inj h ▸ hdecode, Prod.ext rfl hmore⟩

/-- A request with rules and nothing else is read. -/
theorem request_of_rules {d : Document} {doc : RuleSet} (h : Exchange.ruleSet.decode d = .ok doc) :
    Exchange.request.decode (.object [(.string "rulesByDatabase", d)] none) =
      .ok { Request.ofSql "" with rulesByDatabase := doc } := by
  have hput : (Exchange.may "rulesByDatabase" Exchange.ruleSet.decode
      (fun v (r : Request) => { r with rulesByDatabase := v })).put d (Request.ofSql "") =
        .ok { Request.ofSql "" with rulesByDatabase := doc } := by
    unfold Exchange.may
    dsimp only
    rw [h]
    rfl
  unfold Exchange.request
  dsimp only [Record.read, Record.ofMembers]
  rw [Record.putMembers_cons rfl hput List.not_mem_nil]
  rfl

section Sources

variable {text : String} {doc : RuleSet} (hdoc : Exchange.ruleSet.read text = .ok doc)
include hdoc

/-- **Every rules document is carried by a request that can be read.** -/
theorem exists_request : (∃ r, Request.ofText (requestWith text) = .ok r) ∧
    Carries (requestWith text) text := by
  obtain ⟨hdecode, hread⟩ := ofText_of_read hdoc
  have hwhole := ofText_requestWith hread (Exchange.strict_ruleSet _ doc hdecode)
  constructor
  · refine ⟨{ Request.ofSql "" with rulesByDatabase := doc }, ?_⟩
    have hrequest : Exchange.request.read (requestWith text) =
        .ok { Request.ofSql "" with rulesByDatabase := doc } := by
      rw [Codec.read, hwhole]
      simp only [request_of_rules hdecode]
      rfl
    rw [Request.ofText, hrequest]
  · have hdocument : documentOf (requestWith text) =
        .object [(.string "rulesByDatabase", documentOf text)] none := congrArg Prod.fst hwhole
    rw [Carries, hdocument]
    exact .member List.mem_cons_self

/-- The rules of a request that carries a document are those of the document. -/
theorem rules_of_carries {requestText : String} {r : Request} (hcarries : Carries requestText text)
    (hr : Request.ofText requestText = .ok r) : r.rulesByDatabase = doc := by
  unfold Request.ofText at hr
  split at hr
  · cases hr
  · rename_i r' hread
    obtain rfl := Except.ok.inj hr
    exact Exchange.rules_of_carried hcarries (ofText_of_read hdoc).1 (ofText_of_read hread).1

end Sources

/-! ## 3. What the two find -/

/-- The identifier is in the set, has the stored form of the one asked for, and is the last that
does. -/
structure Last (s : RuleSet) (id key : String) (rules : List TypeRule) : Prop where
  held : s.at? key = some rules
  form : normalId key = normalId id
  greatest : ∀ k r, s.at? k = some r → normalId k = normalId id → k ≤ key

/-- The last identifier with the stored form has the rules of the first that agrees, or none if no
identifier agrees. -/
def Agreed (s : RuleSet) (id : String) : Prop :=
  ∀ key rules, Last s id key rules → (∃ k, First s id k rules) ∨
    (rules = [] ∧ ∀ k r, s.at? k = some r → sameId k id = false)

theorem lastUnder_eq_some_iff_last {s : RuleSet} (hs : s.Sorted) {id : String}
    {rules : List TypeRule} :
    lastUnder (normalId id) s.entries = some rules ↔ ∃ key, Last s id key rules := by
  rw [lastUnder_eq_some_iff hs]
  constructor
  · rintro ⟨key, hmem, hform, hmax⟩
    exact ⟨key, (mem_entries_iff hs).mp hmem, hform,
      fun k r hk => hmax k r ((mem_entries_iff hs).mpr hk)⟩
  · rintro ⟨key, hlast⟩
    exact ⟨key, (mem_entries_iff hs).mpr hlast.held, hlast.form,
      fun k r hk => hlast.greatest k r ((mem_entries_iff hs).mp hk)⟩

/-- The set that is loaded from a document and from nothing else. -/
theorem stored_insertAll (doc : RuleSet) : Stored (empty.insertAll doc) where
  sorted := sorted_insertAll sorted_empty doc
  normal key rules hk := by
    rw [at?_insertAll, at?_empty, Option.or_none] at hk
    exact normal_of_lastUnder hk

/-- **A set that is built up from another one by insertions finds what that one finds exactly if its last
and its first identifiers agree.** -/
theorem get_insertAll_iff {doc : RuleSet} (hs : doc.Sorted) {id : String} (hid : AsciiId id) :
    (empty.insertAll doc).get id = doc.get id ↔ Agreed doc id := by
  have hget : (empty.insertAll doc).get id = (lastUnder (normalId id) doc.entries).getD [] := by
    rw [get_of_stored (stored_insertAll doc) hid, at?_insertAll, at?_empty, Option.or_none]
  rw [hget]
  cases hlast : lastUnder (normalId id) doc.entries with
  | none =>
      have hnone : ∀ k r, doc.at? k = some r → normalId k ≠ normalId id := fun k r hk =>
        lastUnder_eq_none_iff.mp hlast (k, r) ((mem_entries_iff hs).mpr hk)
      have hdoc : doc.get id = [] := get_eq_nil hs fun k r hk => by
        rw [← Bool.not_eq_true]
        exact fun hsame => hnone k r hk (normalId_eq hid hsame)
      rw [hdoc]
      exact ⟨fun _ key rules hkey => absurd hkey.form (hnone key rules hkey.held), fun _ => rfl⟩
  | some rules =>
      obtain ⟨key, hkey⟩ := (lastUnder_eq_some_iff_last hs).mp hlast
      rw [Option.getD_some]
      constructor
      · intro heq key' rules' hkey'
        have hsame := (lastUnder_eq_some_iff_last hs).mpr ⟨key', hkey'⟩
        rw [hlast, heq] at hsame
        obtain rfl := Option.some.inj hsame
        rcases exists_first hs id with ⟨hnil, hnone⟩ | ⟨k, r, hfirst, rfl⟩
        · exact Or.inr ⟨hnil, hnone⟩
        · exact Or.inl ⟨k, hfirst⟩
      · intro h
        rcases h key rules hkey with ⟨k, hfirst⟩ | ⟨rfl, hnone⟩
        · exact (get_eq hs hfirst).symm
        · exact (get_eq_nil hs hnone).symm

/-- **ASCII identifiers whose stored forms differ leave no room for a difference.** -/
theorem agreed_of_namesOnce {doc : RuleSet} (hs : doc.Sorted) (hone : NamesOnce doc)
    (hascii : ∀ e ∈ doc.entries, AsciiId e.1) {id : String} (hid : AsciiId id) : Agreed doc id := by
  intro key rules hlast
  have hmem := (mem_entries_iff hs).mpr hlast.held
  have hsame : sameId key id = true := by
    refine sameId_trans (sameId_symm (sameId_normalId (hascii _ hmem))) ?_
    rw [hlast.form]
    exact sameId_normalId hid
  refine Or.inl ⟨key, hlast.held, hsame, fun k r hk hkid => ?_⟩
  have hform : normalId k = normalId key := (normalId_eq hid hkid).trans hlast.form.symm
  have heq := List.inj_on_of_nodup_map hone ((mem_entries_iff hs).mpr hk) hmem hform
  exact (Prod.mk.inj heq).1.ge

/-- **The set loaded from a document, and the rules of any request that carries it, find the same for an
ASCII identifier exactly if the last identifier with its stored form and the first one that agrees with
it have the same rules.** Every rules document is carried by some request. -/
theorem get_of_either {text : String} {s : RuleSet} (h : ofText text = .ok s) :
    ∃ doc, Exchange.ruleSet.read text = .ok doc ∧
      ((∃ r, Request.ofText (requestWith text) = .ok r) ∧ Carries (requestWith text) text) ∧
      ∀ requestText r, Carries requestText text → Request.ofText requestText = .ok r →
        ∀ id, AsciiId id → (s.get id = r.rulesByDatabase.get id ↔ Agreed doc id) := by
  unfold ofText at h
  cases hdoc : Exchange.ruleSet.read text with
  | error f =>
      rw [load_of_error hdoc] at h
      cases h
  | ok doc =>
    obtain rfl := Except.ok.inj ((setOfText_of_ok hdoc).symm.trans h)
    refine ⟨doc, rfl, exists_request hdoc, fun requestText r hcarries hr id hid => ?_⟩
    rw [rules_of_carries hdoc hcarries hr]
    exact get_insertAll_iff (sorted_of_read hdoc) hid

/-- Blanks and capitals around one dialect do not matter. -/
theorem get_of_either_spaced :
    ∃ s r, ofText "\x7b\" MySQL\": [\x7b\"keywords\": [\"x\"], \"dataType\": \"DATE\"\x7d]\x7d" = .ok s ∧
      Request.ofText (requestWith
        "\x7b\" MySQL\": [\x7b\"keywords\": [\"x\"], \"dataType\": \"DATE\"\x7d]\x7d") = .ok r ∧
      s.get "MYSQL " = r.rulesByDatabase.get "MYSQL " ∧
      s.get "MYSQL " = [TypeRule.ofKeywords ["x"] "DATE"] := by
  have hread : Exchange.ruleSet.read
      "\x7b\" MySQL\": [\x7b\"keywords\": [\"x\"], \"dataType\": \"DATE\"\x7d]\x7d" =
      .ok ⟨[(" MySQL", [TypeRule.ofKeywords ["x"] "DATE"])]⟩ := by decide +kernel
  obtain ⟨doc, hdoc, ⟨⟨r, hr⟩, hcarries⟩, hsame⟩ := get_of_either (setOfText_of_ok hread)
  obtain rfl := Except.ok.inj (hread.symm.trans hdoc)
  have hagreed := agreed_of_namesOnce (sorted_of_read hread) (by decide +kernel) (by decide)
    (by decide : AsciiId "MYSQL ")
  exact ⟨_, r, setOfText_of_ok hread, hr, (hsame _ r hcarries hr _ (by decide)).mpr hagreed,
    by decide +kernel⟩

/-- A document with rules under two spellings of one dialect. -/
def twoSpellings : String :=
  "\x7b\"MYSQL\": [\x7b\"keywords\": [\"x\"], \"dataType\": \"DATE\"\x7d], " ++
    "\"mysql\": [\x7b\"keywords\": [\"x\"], \"dataType\": \"TIMESTAMP\"\x7d]\x7d"

/-- **Of two spellings of one dialect the loaded set has the last rules, and a request finds the first
ones.** -/
theorem sources_differ :
    (∃ s r, ofText twoSpellings = .ok s ∧ Request.ofText (requestWith twoSpellings) = .ok r ∧
      s.get "mysql" = [TypeRule.ofKeywords ["x"] "TIMESTAMP"] ∧
      r.rulesByDatabase.get "mysql" = [TypeRule.ofKeywords ["x"] "DATE"]) ∧
    ¬ ∀ (text requestText : String) (s : RuleSet) (r : Request), ofText text = .ok s →
      Carries requestText text → Request.ofText requestText = .ok r →
      ∀ id, AsciiId id → s.get id = r.rulesByDatabase.get id := by
  have hread : Exchange.ruleSet.read twoSpellings =
      .ok ⟨[("MYSQL", [TypeRule.ofKeywords ["x"] "DATE"]),
        ("mysql", [TypeRule.ofKeywords ["x"] "TIMESTAMP"])]⟩ := by decide +kernel
  obtain ⟨⟨r, hr⟩, hcarries⟩ := exists_request hread
  have hrules := rules_of_carries hread hcarries hr
  have hloaded : (empty.insertAll ⟨[("MYSQL", [TypeRule.ofKeywords ["x"] "DATE"]),
      ("mysql", [TypeRule.ofKeywords ["x"] "TIMESTAMP"])]⟩).get "mysql" =
        [TypeRule.ofKeywords ["x"] "TIMESTAMP"] := by decide +kernel
  have hgiven : r.rulesByDatabase.get "mysql" = [TypeRule.ofKeywords ["x"] "DATE"] := by
    rw [hrules]
    decide +kernel
  refine ⟨⟨_, r, setOfText_of_ok hread, hr, hloaded, hgiven⟩, fun h => ?_⟩
  have hsame := h _ _ _ r (setOfText_of_ok hread) hcarries hr "mysql" (by decide)
  rw [hloaded, hgiven] at hsame
  exact absurd hsame (by decide)

end RuleSet

end TableDraft

import TableDraft.Proofs.Json.RecordReading
import TableDraft.Proofs.Typing.RuleLookup
import TableDraft.Request

/-!
# Rules from documents

Rules come from two kinds of documents. A request keeps identifiers as they are written, and a rules
document is loaded under their stored forms.

* `sorted_of_read`, `sorted_of_request`: the rules of either document have their identifiers in order;
* `load_of_ok`, `load_of_error`: a rules document is loaded as a whole, or leaves the set as it is;
* `first_insertAll`, `first_insertAll_of_shadow`: what a lookup meets first in a set after loading;
* **`get_load`: the loaded rules of an ASCII identifier are found unless the request has an agreeing
  identifier that comes before its stored form**; then the rules of the request are found as before.
-/

namespace TableDraft.RuleSet

open Json Text

/-! ## 1. The two documents -/

theorem sorted_of_decode {d : Document} {s : RuleSet} (h : Exchange.ruleSet.decode d = .ok s) :
    s.Sorted := by
  unfold Exchange.ruleSet at h
  simp only at h
  cases hentries : Document.asEntries (Document.asList Exchange.typeRule.decode) d with
  | error f => simp [hentries, Except.map] at h
  | ok entries =>
      rw [hentries] at h
      exact Except.ok.inj h ▸ sorted_ofEntries entries

/-- The rules of a document have their identifiers in order. -/
theorem sorted_of_read {text : String} {s : RuleSet} (h : Exchange.ruleSet.read text = .ok s) :
    s.Sorted := by
  obtain ⟨d, hd⟩ := Codec.exists_decode h
  exact sorted_of_decode hd

/-- A member that may be left out keeps what its value keeps. -/
theorem keeps_may {σ α : Type} {p : σ → Prop} {name : String} {read : Document → Except Fault α}
    {put : α → σ → σ} (h : ∀ d v value, read d = .ok v → p value → p (put v value)) :
    (Exchange.may name read put).Keeps p := by
  intro d value value' hv hput
  unfold Exchange.may at hput
  simp only at hput
  cases hr : read d with
  | error f => simp [hr, Except.map] at hput
  | ok v =>
      rw [hr] at hput
      exact Except.ok.inj hput ▸ h d v value hr hv

/-- **The rules of a request have their identifiers in order.** -/
theorem sorted_of_request {text : String} {r : Request} (h : Request.ofText text = .ok r) :
    r.rulesByDatabase.Sorted := by
  unfold Request.ofText at h
  split at h
  · cases h
  · rename_i r' hread
    obtain rfl := Except.ok.inj h
    obtain ⟨d, hd⟩ := Codec.exists_decode hread
    refine Record.read_keeps (p := fun r : Request => r.rulesByDatabase.Sorted) ?_ sorted_empty hd
    -- only one member touches the rules, and it puts in what was decoded
    simp only [List.forall_mem_cons]
    refine ⟨?sql, ?databaseTypes, ?rules, ?tableName, ?tableComment,
      fun m hm => absurd hm List.not_mem_nil⟩
    case rules => exact keeps_may fun _ _ _ hdecode _ => sorted_of_decode hdecode
    all_goals exact keeps_may fun _ _ _ _ hsorted => hsorted

section Load

variable {text : String} {doc : RuleSet} {f : Fault}

theorem load_of_ok (h : Exchange.ruleSet.read text = .ok doc) (s : RuleSet) :
    s.load text = (.ok (), s.insertAll doc) := by
  rw [load, h]

/-- A document that cannot be read leaves the set as it is. -/
theorem load_of_error (h : Exchange.ruleSet.read text = .error f) (s : RuleSet) :
    s.load text = (.error (.invalidRules f.message), s) := by
  rw [load, h]

theorem setOfText_of_ok (h : Exchange.ruleSet.read text = .ok doc) :
    ofText text = .ok (empty.insertAll doc) := by
  rw [ofText, load_of_ok h]

end Load

/-! ## 2. A document that names each dialect once -/

/-- No two identifiers of the set have the same stored form. -/
def NamesOnce (d : RuleSet) : Prop := (d.entries.map (fun e => normalId e.1)).Nodup

instance decidableNamesOnce (d : RuleSet) : Decidable (NamesOnce d) :=
  inferInstanceAs (Decidable (List.Nodup _))

theorem lastUnder_of_namesOnce {d : RuleSet} (hd : NamesOnce d) {e : String × List TypeRule}
    (he : e ∈ d.entries) : lastUnder (normalId e.1) d.entries = some e.2 := by
  obtain ⟨l, l', hl⟩ := List.append_of_mem he
  rw [NamesOnce, hl, List.map_append, List.map_cons, List.nodup_append] at hd
  have hbehind := (List.nodup_cons.mp hd.2.1).1
  rw [hl]
  refine lastUnder_append rfl (fun f hf hn => hbehind ?_) l
  rw [← hn]
  exact List.mem_map_of_mem hf

/-- What a document adds is under stored forms. -/
theorem normal_of_lastUnder {key : String} {rules : List TypeRule}
    {l : List (String × List TypeRule)} (h : lastUnder key l = some rules) : Normal key := by
  by_cases hall : ∀ e ∈ l, normalId e.1 ≠ key
  · rw [lastUnder_eq_none_iff.mpr hall] at h
    cases h
  · push Not at hall
    obtain ⟨e, -, rfl⟩ := hall
    exact normal_normalId e.1

section Shadow

variable {s d : RuleSet} (hs : s.Sorted) {e : String × List TypeRule} (hid : AsciiId e.1)
  {id : String} (hsame : sameId id e.1 = true)
include hid hsame

/-- Of the loaded identifiers only the stored form agrees. -/
theorem at?_of_insertAll {k : String} {r : List TypeRule} (hk : (s.insertAll d).at? k = some r)
    (hkid : sameId k id = true) : k = normalId e.1 ∨ s.at? k = some r := by
  rw [at?_insertAll] at hk
  rcases Option.or_eq_some_iff.mp hk with hlast | ⟨-, hold⟩
  · exact Or.inl (eq_normalId (normal_of_lastUnder hlast) hid (sameId_trans hkid hsame))
  · exact Or.inr hold

include hs in
/-- The loaded rules are met first, unless an identifier before their stored form agrees. -/
theorem first_insertAll (hd : NamesOnce d) (he : e ∈ d.entries)
    (hno : ∀ k ∈ s.entries, sameId k.1 e.1 = true → normalId e.1 ≤ k.1) :
    First (s.insertAll d) id (normalId e.1) e.2 := by
  refine ⟨?_, sameId_trans (sameId_normalId hid) (sameId_symm hsame), fun k r hk hkid => ?_⟩
  · rw [at?_insertAll, lastUnder_of_namesOnce hd he, Option.some_or]
  · rcases at?_of_insertAll hid hsame hk hkid with rfl | hold
    · exact le_rfl
    · exact hno (k, r) ((mem_entries_iff hs).mpr hold) (sameId_trans hkid hsame)

/-- An identifier before the stored form that was met first is met first after loading too. -/
theorem first_insertAll_of_shadow {key : String} {rules : List TypeRule}
    (hfirst : First s id key rules) (hlt : key < normalId e.1) :
    First (s.insertAll d) id key rules := by
  refine ⟨?_, hfirst.same, fun k r hk hkid => ?_⟩
  · cases hlast : lastUnder key d.entries with
    | none => rw [at?_insertAll, hlast, Option.none_or, hfirst.held]
    | some r =>
        have heq := eq_normalId (normal_of_lastUnder hlast) hid (sameId_trans hfirst.same hsame)
        exact absurd heq hlt.ne
  · rcases at?_of_insertAll hid hsame hk hkid with rfl | hold
    · exact hlt.le
    · exact hfirst.least k r hold hkid

end Shadow

/-! ## 3. Loading rules after a request -/

/-- **Loading a document that names each dialect once makes its rules those of every ASCII identifier
that it names, however spelled, exactly unless the request has an agreeing identifier before the
stored form**: the rules of such an identifier are found before and after. -/
theorem get_load {text rulesText : String} {r : Request} {d : RuleSet}
    (hr : Request.ofText text = .ok r) (hd : Exchange.ruleSet.read rulesText = .ok d)
    (hone : NamesOnce d) :
    ∃ s, r.rulesByDatabase.load rulesText = (.ok (), s) ∧
      ∀ e ∈ d.entries, AsciiId e.1 → ∀ id, sameId id e.1 = true →
        ((∀ k ∈ r.rulesByDatabase.entries, sameId k.1 e.1 = true → normalId e.1 ≤ k.1) →
          s.get id = e.2) ∧
        ((∃ k ∈ r.rulesByDatabase.entries, sameId k.1 e.1 = true ∧ k.1 < normalId e.1) →
          s.get id = r.rulesByDatabase.get id) := by
  have hs := sorted_of_request hr
  have hs' := sorted_insertAll hs d
  refine ⟨_, load_of_ok hd _, fun e he hascii id hid => ⟨fun hno => ?_, ?_⟩⟩
  · exact get_eq hs' (first_insertAll hs hascii hid hone he hno)
  · rintro ⟨k, hk, hkid, hlt⟩
    have hheld := (mem_entries_iff hs).mp hk
    have hagree : sameId k.1 id = true := sameId_trans hkid (sameId_symm hid)
    rcases exists_first hs id with ⟨-, hnone⟩ | ⟨key, rules, hfirst, hget⟩
    · rw [hnone k.1 k.2 hheld] at hagree
      cases hagree
    · have hkey : key < normalId e.1 := (hfirst.least k.1 k.2 hheld hagree).trans_lt hlt
      rw [hget]
      exact get_eq hs' (first_insertAll_of_shadow hascii hid hfirst hkey)

/-- A request may have its own rules under a spelling that comes after the stored form. -/
theorem get_load_spaced :
    ∃ r d s, Request.ofText "\x7b\"rulesByDatabase\": \x7b\"mysql \": []\x7d\x7d" = .ok r ∧
      Exchange.ruleSet.read "\x7b\" MySQL\": [\x7b\"keywords\": [\"x\"], \"dataType\": \"DATE\"\x7d]\x7d" =
        .ok d ∧
      r.rulesByDatabase.load
        "\x7b\" MySQL\": [\x7b\"keywords\": [\"x\"], \"dataType\": \"DATE\"\x7d]\x7d" =
        (.ok (), s) ∧
      s.get "mysql" = [TypeRule.ofKeywords ["x"] "DATE"] := by
  have hr : Request.ofText "\x7b\"rulesByDatabase\": \x7b\"mysql \": []\x7d\x7d" =
      .ok { Request.ofSql "" with rulesByDatabase := ⟨[("mysql ", [])]⟩ } := by decide +kernel
  have hd : Exchange.ruleSet.read
      "\x7b\" MySQL\": [\x7b\"keywords\": [\"x\"], \"dataType\": \"DATE\"\x7d]\x7d" =
      .ok ⟨[(" MySQL", [TypeRule.ofKeywords ["x"] "DATE"])]⟩ := by decide +kernel
  obtain ⟨s, hs, hget⟩ := get_load hr hd (by decide +kernel)
  refine ⟨_, _, s, hr, hd, hs, ?_⟩
  refine (hget _ List.mem_cons_self (by decide) "mysql" (by decide +kernel)).1 ?_
  simp only [List.forall_mem_singleton]
  intro _
  decide +kernel

/-- **Rules of a request under an identifier in capitals hide the loaded ones**, and so loading does
not always replace what is there. -/
theorem loaded_rules_hidden :
    (∃ r s, Request.ofText ("\x7b\"rulesByDatabase\": \x7b\"MYSQL\": " ++
        "[\x7b\"keywords\": [\"x\"], \"dataType\": \"DATE\"\x7d]\x7d\x7d") = .ok r ∧
      Exchange.ruleSet.read "\x7b\"mysql\": []\x7d" = .ok ⟨[("mysql", [])]⟩ ∧
      r.rulesByDatabase.load "\x7b\"mysql\": []\x7d" = (.ok (), s) ∧
      s.get "mysql" = [TypeRule.ofKeywords ["x"] "DATE"]) ∧
    ¬ ∀ (text rulesText : String) (r : Request) (d s : RuleSet), Request.ofText text = .ok r →
      Exchange.ruleSet.read rulesText = .ok d → NamesOnce d →
      r.rulesByDatabase.load rulesText = (.ok (), s) →
      ∀ e ∈ d.entries, AsciiId e.1 → ∀ id, sameId id e.1 = true → s.get id = e.2 := by
  have hr : Request.ofText ("\x7b\"rulesByDatabase\": \x7b\"MYSQL\": " ++
      "[\x7b\"keywords\": [\"x\"], \"dataType\": \"DATE\"\x7d]\x7d\x7d") =
      .ok { Request.ofSql "" with
        rulesByDatabase := ⟨[("MYSQL", [TypeRule.ofKeywords ["x"] "DATE"])]⟩ } := by decide +kernel
  have hd : Exchange.ruleSet.read "\x7b\"mysql\": []\x7d" = .ok ⟨[("mysql", [])]⟩ := by decide +kernel
  have hget : (insertAll ⟨[("MYSQL", [TypeRule.ofKeywords ["x"] "DATE"])]⟩ ⟨[("mysql", [])]⟩).get
      "mysql" = [TypeRule.ofKeywords ["x"] "DATE"] := by decide +kernel
  refine ⟨⟨_, _, hr, hd, load_of_ok hd _, hget⟩, fun h => ?_⟩
  have hnone := h _ _ _ _ _ hr hd (by decide +kernel) (load_of_ok hd _) ("mysql", [])
    List.mem_cons_self (by decide) "mysql" (sameId_refl _)
  rw [hget] at hnone
  cases hnone

end TableDraft.RuleSet

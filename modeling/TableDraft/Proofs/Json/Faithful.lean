import TableDraft.Proofs.Json.PrintedText
import TableDraft.Proofs.Json.WrittenRecords
import TableDraft.Proofs.Typing.RuleLookup
import TableDraft.Request

/-!
# Written documents are given back

What is written of a field, a rule, a type, a set of rules, a statement, the options of a table, a
request, a response or an error reads back as itself: member by member (`puts_read`,
`puts_optional`), a list of statements is not taken for a single one (`readObject?_not_single`), and
as the numbers fit (`Fits`) the text reads as the document does. Rules are read alike under both
spellings of their keys (`typeRule_respelled`) and refused under both at once (`typeRule_refused`).
**`documents_given_back`** says this of all documents.
-/

namespace TableDraft.Exchange

open Json Select Ddl

/-! ## 1. Members -/

section Members

variable {σ α : Type} {v out : σ} {ms : List (Member σ)} {l : List (String × Json)}

/-- A member that is written. -/
theorem puts_read {m : Member σ} {read : Document → Except Fault α} {set : α → σ → σ} {j : Json} {a : α}
    (hput : m.put = fun d s => (read d).map (set · s)) (hread : read (Document.ofJson j) = .ok a)
    (hrest : Record.Puts (set a v) ms l out) : Record.Puts v (m :: ms) ((m.name, j) :: l) out := by
  refine .put ?_ hrest
  simp only [hput, hread]
  rfl

/-- A member that is written if it is set. -/
theorem puts_optional {name : String} {write : α → Json} {read : Document → Except Fault α}
    {set : Option α → σ → σ} {o : Option α} (hwrite : ∀ a, write a ≠ .null)
    (hread : ∀ a, read (Document.ofJson (write a)) = .ok a) (hnone : set none v = v)
    (hrest : Record.Puts (set o v) ms l out) :
    Record.Puts v (may name (Document.asOption read) set :: ms) (optional name write o ++ l) out := by
  cases o with
  | none =>
      rw [hnone] at hrest
      exact .skip rfl hrest
  | some a => exact puts_read rfl (Document.asOption_ofJson (hwrite a) (hread a)) hrest

theorem string_ne_null (s : String) : Json.string s ≠ .null := fun h => by cases h

theorem number_ne_null (n : UInt32) : number n ≠ .null := fun h => by cases h

end Members

theorem word_matchModes (mode : MatchMode) :
    Document.asWord matchModes (Document.ofJson (word matchModes mode)) = .ok mode := by
  cases mode <;> rfl

theorem word_ruleTargets (target : RuleTarget) :
    Document.asWord ruleTargets (Document.ofJson (word ruleTargets target)) = .ok target := by
  cases target <;> rfl

theorem asStrings_ofJson (l : List String) :
    Document.asList Document.asString (Document.ofJson (.array (l.map .string))) = .ok l :=
  Document.asList_ofJson fun _ _ => rfl

/-! ## 2. Codecs -/

theorem field_faithful : field.Faithful := by
  intro f
  refine Record.read_of_puts (by decide) ?_
  rw [List.append_assoc]
  exact puts_read rfl rfl <| puts_optional string_ne_null (fun _ => rfl) rfl <| puts_read rfl rfl .nil

theorem abstractType_faithful : abstractType.Faithful := by
  intro t
  refine Record.read_of_puts (by decide) ?_
  -- `puts_optional` is about a member before others, so nothing is put behind the last one.
  rw [← List.append_nil (optional "length" number t.length)]
  simp only [List.append_assoc]
  exact puts_read rfl rfl <| puts_optional number_ne_null Document.asUInt32_int rfl <|
    puts_optional number_ne_null Document.asUInt32_int rfl <|
    puts_optional number_ne_null Document.asUInt32_int rfl .nil

theorem typeRule_faithful : typeRule.Faithful := by
  intro r
  refine Record.read_of_puts (by decide) ?_
  rw [← List.append_nil (optional "length" number r.length)]
  simp only [List.append_assoc]
  exact puts_read rfl (asStrings_ofJson r.keywords) <|
    puts_read rfl (word_matchModes r.matchMode) <|
    puts_read rfl (word_ruleTargets r.target) <|
    puts_read rfl rfl <|
    puts_read rfl (Document.asInt64_int r.priority) <|
    puts_optional number_ne_null Document.asUInt32_int rfl <|
    puts_optional number_ne_null Document.asUInt32_int rfl <|
    puts_optional number_ne_null Document.asUInt32_int rfl .nil

/-- A set of rules is given back: its identifiers are in order, each once. -/
theorem ruleSet_faithful {s : RuleSet} (hs : s.Sorted) :
    ruleSet.decode (Document.ofJson (ruleSet.encode s)) = .ok s := by
  have hentries : Document.asEntries (Document.asList typeRule.decode)
      (Document.ofJson (ruleSet.encode s)) = .ok s.entries :=
    @Document.asEntries_ofJson _ _ (fun rules => .array (rules.map typeRule.encode)) s.entries
      fun e _ => Document.asList_ofJson fun r _ => typeRule_faithful r
  simp only [ruleSet] at hentries ⊢
  rw [hentries]
  exact congrArg Except.ok (RuleSet.ofEntries_of_sorted hs)

theorem tableOptions_faithful : tableOptions.Faithful := by
  intro o
  refine Record.read_of_puts (by decide) ?_
  exact puts_read rfl rfl <| puts_read rfl rfl .nil

theorem draft_faithful : draft.Faithful := by
  intro d
  refine Record.read_of_puts (by decide) ?_
  exact puts_read rfl rfl <| puts_read rfl rfl <| puts_read rfl rfl .nil

theorem request_faithful {r : Request} (hr : r.rulesByDatabase.Sorted) :
    request.decode (Document.ofJson (request.encode r)) = .ok r := by
  refine Record.read_of_puts (by decide) ?_
  rw [← List.append_nil (optional "tableComment" .string r.tableComment)]
  simp only [List.append_assoc]
  exact puts_read rfl rfl <| puts_read rfl (asStrings_ofJson r.databaseTypes) <|
    puts_read rfl (ruleSet_faithful hr) <|
    puts_optional string_ne_null (fun _ => rfl) rfl <|
    puts_optional string_ne_null (fun _ => rfl) rfl .nil

theorem errorBody_faithful : errorBody.Faithful := by
  intro e
  refine Record.read_of_puts (by decide) ?_
  exact puts_read rfl rfl .nil

/-! ## 3. Responses -/

theorem readObject?_of_read {σ : Type} {r : Record σ} {members : List (String × Json)} {v : σ}
    (h : r.read (Document.ofJson (.object members)) = .ok v) :
    r.readObject? (Document.ofJson (.object members)) = some v := by
  rw [Document.ofJson, Record.read] at h
  rw [Document.ofJson, Record.readObject?, h]
  rfl

theorem readObject?_single (ddl : String) :
    singleRecord.readObject? (Document.ofJson (response.encode (.single ddl))) = some ddl :=
  readObject?_of_read (Record.read_of_puts (by decide) (puts_read rfl rfl .nil))

theorem readObject?_multiple (ddls : List Draft) :
    multipleRecord.readObject? (Document.ofJson (response.encode (.multiple ddls))) = some ddls :=
  readObject?_of_read (Record.read_of_puts (by decide)
    (puts_read rfl (Document.asList_ofJson fun d _ => draft_faithful d) .nil))

/-- A list of statements is not taken for one statement. -/
theorem readObject?_not_single (ddls : List Draft) :
    singleRecord.readObject? (Document.ofJson (response.encode (.multiple ddls))) = none := by
  have hskip := Document.skipFault?_ofJson (.array (ddls.map draft.encode))
  have hfind : singleRecord.find? "ddls" = none := rfl
  simp only [response, Document.ofJson, Document.ofMembers, Record.readObject?, Record.ofMembers,
    Record.putMembers, Document.keyOf, bind, Except.bind, hfind] at hskip ⊢
  rw [hskip]
  rfl

/-- No response nests too deeply to be read as a whole. -/
theorem useFault?_response (r : Response) :
    (Document.ofJson (response.encode r)).useFault? maxLevels = none := by
  cases r with
  | single ddl => rfl
  | multiple ddls =>
      have hitems : ∀ l : List Draft,
          Document.itemsUseFault? 125 (Document.ofItems (l.map draft.encode)) = none := by
        intro l
        induction l with
        | nil => rfl
        | cons d l ih =>
            rw [List.map_cons, Document.ofItems, Document.itemsUseFault?, ih]
            rfl
      simp only [response, Document.ofJson, Document.ofMembers, maxLevels, Document.useFault?,
        Document.membersUseFault?, Document.keyOf, hitems]
      rfl

/-- **A response of either shape is read as that shape.** -/
theorem response_faithful : response.Faithful := by
  intro r
  have huse := useFault?_response r
  cases r with
  | single ddl =>
      have hsingle := readObject?_single ddl
      simp only [response] at huse hsingle ⊢
      rw [huse, hsingle]
      rfl
  | multiple ddls =>
      have hnot := readObject?_not_single ddls
      have hmultiple := readObject?_multiple ddls
      simp only [response] at huse hnot hmultiple ⊢
      rw [huse, hnot, hmultiple]
      rfl

/-! ## 4. Texts -/

theorem fits_string (s : String) : Fits (.string s) := trivial

theorem fits_number (n : UInt32) : Fits (number n) := by
  have hn := n.toNat_lt
  change FitsInt n.toNat
  constructor
  · exact Int.le_trans (by decide) (Int.natCast_nonneg _)
  · exact_mod_cast Nat.lt_trans hn (by decide : 2 ^ 32 < UInt64.size)

theorem fits_priority (n : Int64) : FitsInt n.toInt :=
  ⟨n.minValue_le_toInt, Int.lt_of_le_of_lt n.toInt_le (by decide)⟩

theorem fitsMembers_append : ∀ {l l' : List (String × Json)}, FitsMembers l → FitsMembers l' →
    FitsMembers (l ++ l')
  | [], _, _, h => h
  | (_, _) :: _, _, h, h' => ⟨h.1, fitsMembers_append h.2 h'⟩

theorem fits_optional {α : Type} {name : String} {write : α → Json} (h : ∀ a, Fits (write a))
    (o : Option α) : FitsMembers (optional name write o) := by
  cases o with
  | none => trivial
  | some a => exact ⟨h a, trivial⟩

theorem fitsItems_map {α : Type} {write : α → Json} (h : ∀ a, Fits (write a)) :
    ∀ l : List α, FitsItems (l.map write)
  | [] => trivial
  | a :: l => ⟨h a, fitsItems_map h l⟩

theorem fits_strings (l : List String) : Fits (.array (l.map .string)) :=
  fitsItems_map fits_string l

theorem fits_field (f : Field) : Fits (field.encode f) :=
  fitsMembers_append (fitsMembers_append ⟨trivial, trivial⟩ (fits_optional fits_string _))
    ⟨trivial, trivial⟩

theorem fits_abstractType (t : AbstractType) : Fits (abstractType.encode t) :=
  fitsMembers_append (fitsMembers_append (fitsMembers_append ⟨trivial, trivial⟩
    (fits_optional fits_number _)) (fits_optional fits_number _)) (fits_optional fits_number _)

theorem fits_typeRule (r : TypeRule) : Fits (typeRule.encode r) := by
  have hmode : Fits (word matchModes r.matchMode) := by
    cases r.matchMode <;> trivial
  have htarget : Fits (word ruleTargets r.target) := by
    cases r.target <;> trivial
  refine fitsMembers_append (fitsMembers_append (fitsMembers_append ?_ (fits_optional fits_number _))
    (fits_optional fits_number _)) (fits_optional fits_number _)
  exact ⟨fits_strings r.keywords, hmode, htarget, trivial, fits_priority r.priority, trivial⟩

theorem fits_ruleSet (s : RuleSet) : Fits (ruleSet.encode s) := by
  have hentries : ∀ l : List (String × List TypeRule),
      FitsMembers (l.map fun e => (e.1, .array (e.2.map typeRule.encode))) := by
    intro l
    induction l with
    | nil => trivial
    | cons e l ih => exact ⟨fitsItems_map fits_typeRule e.2, ih⟩
  exact hentries s.entries

theorem fits_tableOptions (o : TableOptions) : Fits (tableOptions.encode o) :=
  ⟨trivial, trivial, trivial⟩

theorem fits_draft (d : Draft) : Fits (draft.encode d) := ⟨trivial, trivial, trivial, trivial⟩

theorem fits_request (r : Request) : Fits (request.encode r) := by
  refine fitsMembers_append (fitsMembers_append ?_ (fits_optional fits_string _))
    (fits_optional fits_string _)
  exact ⟨trivial, fits_strings r.databaseTypes, fits_ruleSet r.rulesByDatabase, trivial⟩

theorem fits_response (r : Response) : Fits (response.encode r) := by
  cases r with
  | single ddl => exact ⟨trivial, trivial⟩
  | multiple ddls => exact ⟨fitsItems_map fits_draft ddls, trivial⟩

/-- What is written of a value reads back as that value, from its document and from its text. -/
def GivenBack {α : Type} (c : Codec α) (a : α) : Prop :=
  c.decode (Document.ofJson (c.encode a)) = .ok a ∧ c.read (c.encode a).render = .ok a

theorem givenBack {α : Type} {c : Codec α} {a : α} (hfits : Fits (c.encode a))
    (h : c.decode (Document.ofJson (c.encode a)) = .ok a) : GivenBack c a :=
  ⟨h, Codec.read_render hfits h⟩

/-! ## 5. Two spellings -/

/-- The keys of a rule that have two spellings. -/
def ruleSpellings : List (String × String) :=
  [("matchType", "match_type"), ("targetField", "target_field"), ("dataType", "data_type")]

/-- The same member of an object, but perhaps under the second spelling of its key. -/
def SecondSpelling (e e' : Document × Document) : Prop :=
  e.2 = e'.2 ∧ (e.1 = e'.1 ∨ ∃ p ∈ ruleSpellings, e.1 = .string p.1 ∧ e'.1 = .string p.2)

/-- Rules are read as a structure in which two spellings are those of one member. -/
theorem exists_ruleRecord : ∃ r : Record TypeRule, typeRule.decode = r.read ∧ r.Distinct ∧
    ∀ p ∈ ruleSpellings, p.1 ≠ p.2 ∧
      ∃ m ∈ r.members, p.1 ∈ m.spellings ∧ p.2 ∈ m.spellings := by
  refine ⟨_, rfl, by decide, fun p hp => ?_⟩
  simp only [ruleSpellings, List.mem_cons, List.not_mem_nil, or_false] at hp
  rcases hp with rfl | rfl | rfl
  · exact ⟨by decide, _, .tail _ (.head _), by decide, by decide⟩
  · exact ⟨by decide, _, .tail _ (.tail _ (.head _)), by decide, by decide⟩
  · exact ⟨by decide, _, .tail _ (.tail _ (.tail _ (.head _))), by decide, by decide⟩

/-- **A rule is read alike under both spellings of its keys.** -/
theorem typeRule_respelled {l l' : List (Document × Document)}
    (h : List.Forall₂ SecondSpelling l l') (stop : Option Stop) :
    typeRule.decode (.object l stop) = typeRule.decode (.object l' stop) := by
  obtain ⟨r, hr, hd, hspell⟩ := exists_ruleRecord
  have hrespelled : ∀ e e', SecondSpelling e e' → r.Respelled e e' := by
    rintro e e' ⟨hvalue, hkey⟩
    refine ⟨hvalue, hkey.imp_right ?_⟩
    rintro ⟨p, hp, hfirst, hsecond⟩
    obtain ⟨-, m, hm, h1, h2⟩ := hspell p hp
    exact ⟨m, hm, p.1, h1, p.2, h2, hfirst, hsecond⟩
  rw [hr]
  exact Record.ofMembers_respelled hd (h.imp hrespelled) stop

/-- **A rule that has a key in both spellings is not read.** -/
theorem typeRule_refused {p : String × String} (hp : p ∈ ruleSpellings)
    {l : List (Document × Document)} {d d' : Document} (hin : (.string p.1, d) ∈ l)
    (hin' : (.string p.2, d') ∈ l) (stop : Option Stop) :
    ∃ f, typeRule.decode (.object l stop) = .error f := by
  obtain ⟨r, hr, hd, hspell⟩ := exists_ruleRecord
  obtain ⟨hne, m, hm, h1, h2⟩ := hspell p hp
  cases h : typeRule.decode (.object l stop) with
  | error f => exact ⟨f, rfl⟩
  | ok v =>
      rw [hr] at h
      exact absurd h (Record.ofMembers_ne_ok_of_twice hd hm h1 h2 hne hin hin' stop v)

/-! ## 6. All documents -/

/-- **What is written of a value reads back as that value**, whatever is unset in it and whichever shape
it has. A set of rules has its identifiers in order, as every set that is put together or read has. A
rule may be written with its keys in either spelling, but not in both. -/
theorem documents_given_back :
    ((∀ f, GivenBack field f) ∧ (∀ r, GivenBack typeRule r) ∧ (∀ t, GivenBack abstractType t) ∧
      (∀ s : RuleSet, s.Sorted → GivenBack ruleSet s) ∧ (∀ o, GivenBack tableOptions o) ∧
      (∀ d, GivenBack draft d) ∧
      (∀ r : Request, r.rulesByDatabase.Sorted → GivenBack request r) ∧
      (∀ r, GivenBack response r) ∧ ∀ e, GivenBack errorBody e) ∧
    (∀ l l' stop, List.Forall₂ SecondSpelling l l' →
      typeRule.decode (.object l stop) = typeRule.decode (.object l' stop)) ∧
    ∀ p ∈ ruleSpellings, ∀ l d d' stop, (.string p.1, d) ∈ l → (.string p.2, d') ∈ l →
      ∃ f, typeRule.decode (.object l stop) = .error f := by
  refine ⟨⟨?_, ?_, ?_, ?_, ?_, ?_, ?_, ?_, ?_⟩, ?_, ?_⟩
  · exact fun f => givenBack (fits_field f) (field_faithful f)
  · exact fun r => givenBack (fits_typeRule r) (typeRule_faithful r)
  · exact fun t => givenBack (fits_abstractType t) (abstractType_faithful t)
  · exact fun s hs => givenBack (fits_ruleSet s) (ruleSet_faithful hs)
  · exact fun o => givenBack (fits_tableOptions o) (tableOptions_faithful o)
  · exact fun d => givenBack (fits_draft d) (draft_faithful d)
  · exact fun r hr => givenBack (fits_request r) (request_faithful hr)
  · exact fun r => givenBack (fits_response r) (response_faithful r)
  · exact fun e => givenBack ⟨trivial, trivial⟩ (errorBody_faithful e)
  · exact fun l l' stop h => typeRule_respelled h stop
  · exact fun p hp l d d' stop hin hin' => typeRule_refused hp hin hin' stop

/-- Rules under two identifiers, alone and in a request; a rule with a key in its second spelling, and
one with that key in both. -/
theorem documents_given_back_hive :
    let rule : TypeRule := ⟨["id"], .equals, .name, "bigint", -1, none, none, some 3⟩
    let rules : RuleSet := ⟨[("hive", [rule, rule]), ("spark", [])]⟩
    let keywords : Document × Document := (.string "keywords", .array [.string "id"] none)
    let first : Document × Document := (.string "dataType", .string "bigint")
    let second : Document × Document := (.string "data_type", .string "bigint")
    GivenBack ruleSet rules ∧ GivenBack request ⟨"id", [], rules, none, some "keys"⟩ ∧
      typeRule.decode (.object [keywords, first] none) = typeRule.decode (.object [keywords, second] none) ∧
      ∃ f, typeRule.decode (.object [keywords, first, second] none) = .error f := by
  intro rule rules keywords first second
  have hsorted : rules.Sorted := List.pairwise_pair.mpr (by decide)
  have hspelled : List.Forall₂ SecondSpelling [keywords, first] [keywords, second] :=
    .cons ⟨rfl, .inl rfl⟩ (.cons ⟨rfl, .inr ⟨("dataType", "data_type"), by decide, rfl, rfl⟩⟩ .nil)
  obtain ⟨⟨-, -, -, hrules, -, -, hrequest, -, -⟩, hsame, hboth⟩ := documents_given_back
  refine ⟨hrules rules hsorted, hrequest _ hsorted, hsame _ _ none hspelled, ?_⟩
  exact hboth ("dataType", "data_type") (by decide) _ (.string "bigint") (.string "bigint") none
    (.tail _ (.head _)) (.tail _ (.tail _ (.head _)))

end TableDraft.Exchange

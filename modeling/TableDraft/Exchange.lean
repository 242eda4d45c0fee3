import TableDraft.Ddl.Draft
import TableDraft.Error
import TableDraft.Json.Decode

/-!
# The documents of the domain

How fields, rules, types, options and statements are written as JSON and read from it. Members that
are unset are not written. The names of members join words by capitals (`dataType`); rules are also
read with the words joined by underscores.
-/

namespace TableDraft.Exchange

open Json Select Ddl

/-! ## Members -/

/-- A member that has to be there. -/
def need {σ α : Type} (name : String) (read : Document → Except Fault α) (put : α → σ → σ) : Member σ :=
  ⟨name, [], true, fun d s => (read d).map (put · s)⟩

/-- A member that may be left out. -/
def may {σ α : Type} (name : String) (read : Document → Except Fault α) (put : α → σ → σ) : Member σ :=
  ⟨name, [], false, fun d s => (read d).map (put · s)⟩

/-- The member under another spelling too. -/
def also {σ : Type} (m : Member σ) (other : String) : Member σ := { m with aliases := other :: m.aliases }

/-- A member that is written only if it is set. -/
def optional {α : Type} (name : String) (write : α → Json) (value : Option α) : List (String × Json) :=
  (value.map (fun v => (name, write v))).toList

/-- A number of 32 bits. -/
def number (n : UInt32) : Json := .int n.toNat

/-! ## Words -/

/-- The words for the modes of comparison. -/
def matchModes : List (String × MatchMode) :=
  [("equals", .equals), ("contains", .contains), ("regex", .regex)]

/-- The words for what rules look at. -/
def ruleTargets : List (String × RuleTarget) := [("name", .name), ("comment", .comment)]

/-- The words for the dialects: their identifiers. -/
def dialects : List (String × Dialect) := Dialect.all.map (fun d => (d.id, d))

/-- The words for the places of comments. -/
def commentStyles : List (String × CommentStyle) := [("INLINE", .inline), ("SEPARATE", .separate)]

/-- The word for a value. -/
def word {α : Type} [BEq α] (known : List (String × α)) (a : α) : Json :=
  match known.find? (fun e => e.2 == a) with
  | some e => .string e.1
  | none => .null

/-- A choice of words. -/
def wordCodec {α : Type} [BEq α] (known : List (String × α)) : Codec α :=
  ⟨word known, Document.asWord known⟩

/-! ## Fields and types -/

/-- Fields. -/
def field : Codec Field where
  encode f :=
    .object ([("name", .string f.name)] ++ optional "alias" .string f.alias? ++
      [("comment", .string f.comment)])
  decode := Record.read {
    title := "Field"
    blank := ⟨"", none, ""⟩
    members := [
      need "name" Document.asString (fun v f => { f with name := v }),
      may "alias" (Document.asOption Document.asString) (fun v f => { f with alias? := v }),
      need "comment" Document.asString (fun v f => { f with comment := v })] }

/-- Abstract types. -/
def abstractType : Codec AbstractType where
  encode t :=
    .object ([("dataType", .string t.dataType)] ++ optional "precision" number t.precision ++
      optional "scale" number t.scale ++ optional "length" number t.length)
  decode := Record.read {
    title := "InferredType"
    blank := ⟨"", none, none, none⟩
    members := [
      need "dataType" Document.asString (fun v t => { t with dataType := v }),
      may "precision" (Document.asOption Document.asUInt32) (fun v t => { t with precision := v }),
      may "scale" (Document.asOption Document.asUInt32) (fun v t => { t with scale := v }),
      may "length" (Document.asOption Document.asUInt32) (fun v t => { t with length := v })] }

/-! ## Rules -/

/-- Rules. -/
def typeRule : Codec TypeRule where
  encode r :=
    .object ([("keywords", .array (r.keywords.map .string)),
      ("matchType", word matchModes r.matchMode), ("targetField", word ruleTargets r.target),
      ("dataType", .string r.dataType), ("priority", .int r.priority.toInt)] ++
      optional "precision" number r.precision ++ optional "scale" number r.scale ++
      optional "length" number r.length)
  decode := Record.read {
    title := "TypeRule"
    blank := ⟨[], .contains, .name, "", 0, none, none, none⟩
    members := [
      need "keywords" (Document.asList Document.asString) (fun v r => { r with keywords := v }),
      also (may "matchType" (Document.asWord matchModes) (fun v r => { r with matchMode := v })) "match_type",
      also (may "targetField" (Document.asWord ruleTargets) (fun v r => { r with target := v })) "target_field",
      also (need "dataType" Document.asString (fun v r => { r with dataType := v })) "data_type",
      may "priority" Document.asInt64 (fun v r => { r with priority := v }),
      may "precision" (Document.asOption Document.asUInt32) (fun v r => { r with precision := v }),
      may "scale" (Document.asOption Document.asUInt32) (fun v r => { r with scale := v }),
      may "length" (Document.asOption Document.asUInt32) (fun v r => { r with length := v })] }

/-- Rule sets. Identifiers are kept as they are written, and of a repeated one the last counts. -/
def ruleSet : Codec RuleSet where
  encode s := .object (s.entries.map (fun e => (e.1, .array (e.2.map typeRule.encode))))
  decode d := (Document.asEntries (Document.asList typeRule.decode) d).map RuleSet.ofEntries

/-! ## Statements -/

/-- What is said about a table. -/
def tableOptions : Codec TableOptions where
  encode o :=
    .object [("tableName", .string o.tableName), ("tableComment", .string o.tableComment)]
  decode := Record.read {
    title := "DdlOptions"
    blank := TableOptions.default
    members := [
      may "tableName" Document.asString (fun v o => { o with tableName := v }),
      may "tableComment" Document.asString (fun v o => { o with tableComment := v })] }

/-- Statements. -/
def draft : Codec Draft where
  encode d :=
    .object [("databaseType", .string d.databaseType), ("label", .string d.label),
      ("ddl", .string d.ddl)]
  decode := Record.read {
    title := "GeneratedDdl"
    blank := ⟨"", "", ""⟩
    members := [
      need "databaseType" Document.asString (fun v d => { d with databaseType := v }),
      need "label" Document.asString (fun v d => { d with label := v }),
      need "ddl" Document.asString (fun v d => { d with ddl := v })] }

end TableDraft.Exchange

namespace TableDraft.RuleSet

open Json

/-- Adds the rules of a document, in place of those of the dialects that it names: whether it could be
read, and the set afterwards. -/
def load (s : RuleSet) (text : String) : Except DraftError Unit × RuleSet :=
  match Exchange.ruleSet.read text with
  | .error f => (.error (.invalidRules f.message), s)
  | .ok other => (.ok (), s.insertAll other)

/-- The rules of a document. -/
def ofText (text : String) : Except DraftError RuleSet :=
  match empty.load text with
  | (.error e, _) => .error e
  | (.ok (), s) => .ok s

end TableDraft.RuleSet

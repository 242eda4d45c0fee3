import TableDraft.Exchange
import TableDraft.Select.Statement

/-!
# Requests and responses

A request holds query text, the dialects to draft for, rules by dialect, and perhaps a name and a
comment for the table. Its response is a single statement, or a list of them when there is not
exactly one; a request that fails is answered with the wording of the error.
-/

namespace TableDraft

open Json Ddl Select

/-- What is asked for. -/
structure Request where
  sql : String
  /-- The identifiers of dialects; none stands for the default one. -/
  databaseTypes : List String
  rulesByDatabase : RuleSet
  tableName : Option String
  tableComment : Option String
deriving DecidableEq

/-- The statements that answer a request. -/
inductive Response where
  /-- Exactly one. -/
  | single (ddl : String)
  /-- None or several, in the order asked for. -/
  | multiple (ddls : List Draft)
deriving DecidableEq, Repr

/-- The answer to a request that fails. -/
structure ErrorBody where
  error : String
deriving DecidableEq, Repr

namespace Response

/-- The response with some statements. -/
def ofDrafts : List Draft → Response
  | [d] => single d.ddl
  | ds => multiple ds

end Response

/-- The answer that reports an error. -/
def DraftError.body (e : DraftError) : ErrorBody := ⟨e.message⟩

namespace Request

/-- A request for query text and nothing else. -/
def ofSql (sql : String) : Request := ⟨sql, [], .empty, none, none⟩

/-- The identifiers asked for, trimmed and without blank ones; that of the default dialect when there
is none. -/
def dialects (r : Request) : List String :=
  let ids := (r.databaseTypes.map Text.trimmed).filter (fun id => !id.isEmpty)
  if ids.isEmpty then [Dialect.default.id] else ids

/-- What is said about the table: a name that is unset or blank is the default one. -/
def options (r : Request) : TableOptions :=
  let name := ((r.tableName.map Text.trimmed).filter (fun n => !n.isEmpty)).getD TableOptions.default.tableName
  ⟨name, r.tableComment.getD TableOptions.default.tableComment⟩

/-- The statements asked for. -/
def generate [PatternEngine] (r : Request) : Except DraftError (List Draft) := do
  if Text.isBlankText r.sql.toList then throw .emptySql
  let fields ← parseFields r.sql
  return drafts fields r.rulesByDatabase r.dialects r.options

/-- The response to a request. -/
def process [PatternEngine] (r : Request) : Except DraftError Response := r.generate.map Response.ofDrafts

end Request

namespace Exchange

/-- Requests; every member may be left out. -/
def request : Codec Request where
  encode r :=
    .object ([("sql", .string r.sql), ("databaseTypes", .array (r.databaseTypes.map .string)),
      ("rulesByDatabase", ruleSet.encode r.rulesByDatabase)] ++
      optional "tableName" .string r.tableName ++ optional "tableComment" .string r.tableComment)
  decode := Record.read {
    title := "GenerateRequest"
    blank := Request.ofSql ""
    members := [
      may "sql" Document.asString (fun v r => { r with sql := v }),
      may "databaseTypes" (Document.asList Document.asString) (fun v r => { r with databaseTypes := v }),
      may "rulesByDatabase" ruleSet.decode (fun v r => { r with rulesByDatabase := v }),
      may "tableName" (Document.asOption Document.asString) (fun v r => { r with tableName := v }),
      may "tableComment" (Document.asOption Document.asString) (fun v r => { r with tableComment := v })] }

/-- The members of a response with one statement. -/
def singleRecord : Record String where
  title := "Single"
  blank := ""
  members := [need "ddl" Document.asString (fun v _ => v)]

/-- The members of a response with a list of statements. -/
def multipleRecord : Record (List Draft) where
  title := "Multiple"
  blank := []
  members := [need "ddls" (Document.asList draft.decode) (fun v _ => v)]

/-- How deeply a document may nest whose shape is only known at its end. -/
def maxLevels : Nat := 127

/-- Responses: the document is read as a whole, and the first shape that fits it counts. -/
def response : Codec Response where
  encode
    | .single ddl => .object [("ddl", .string ddl)]
    | .multiple ddls => .object [("ddls", .array (ddls.map draft.encode))]
  decode d :=
    match d.useFault? maxLevels with
    | some f => .error f
    | none =>
      match (singleRecord.readObject? d).map Response.single with
      | some r => .ok r
      | none =>
        match (multipleRecord.readObject? d).map Response.multiple with
        | some r => .ok r
        | none => .error (.noVariant "GenerateResponse")

/-- Answers to requests that fail. -/
def errorBody : Codec ErrorBody where
  encode e := .object [("error", .string e.error)]
  decode := Record.read {
    title := "ErrorResponse"
    blank := ⟨""⟩
    members := [need "error" Document.asString (fun v _ => ⟨v⟩)] }

end Exchange

/-- The request that a text writes. -/
def Request.ofText (text : String) : Except DraftError Request :=
  match Exchange.request.read text with
  | .error f => .error (.invalidRequest f.message)
  | .ok r => .ok r

end TableDraft

import TableDraft.Command.Options
import TableDraft.Command.Run
import TableDraft.Ddl.Draft
import TableDraft.Ddl.Grammar
import TableDraft.Ddl.Layout
import TableDraft.Ddl.Literal
import TableDraft.Ddl.Token
import TableDraft.Dialect
import TableDraft.Error
import TableDraft.Exchange
import TableDraft.Json.Basic
import TableDraft.Json.Decode
import TableDraft.Json.Document
import TableDraft.Json.Fault
import TableDraft.Json.Shortest
import TableDraft.Main
import TableDraft.Naming
import TableDraft.Output.Disk
import TableDraft.Output.FileTree
import TableDraft.Output.Host
import TableDraft.Output.Writer
import TableDraft.Pattern.Basic
import TableDraft.Pattern.CharSet
import TableDraft.Pattern.Engine
import TableDraft.Pattern.Reader
import TableDraft.Proofs.Basic
import TableDraft.Proofs.Command.Arguments
import TableDraft.Proofs.Command.Checking
import TableDraft.Proofs.Ddl.ColumnList
import TableDraft.Proofs.Ddl.CommentFlow
import TableDraft.Proofs.Ddl.CommentLiterals
import TableDraft.Proofs.Ddl.Identifiers
import TableDraft.Proofs.Ddl.KeyColumn
import TableDraft.Proofs.Json.Embedding
import TableDraft.Proofs.Json.Faithful
import TableDraft.Proofs.Json.PrintedText
import TableDraft.Proofs.Json.RecordReading
import TableDraft.Proofs.Json.SkippedFaults
import TableDraft.Proofs.Json.WrittenRecords
import TableDraft.Proofs.Json.WrittenValues
import TableDraft.Proofs.Output.FileContents
import TableDraft.Proofs.Output.FilePlaces
import TableDraft.Proofs.Output.MadeDirectories
import TableDraft.Proofs.Output.WrittenFiles
import TableDraft.Proofs.Pattern.Places
import TableDraft.Proofs.Pattern.PlainText
import TableDraft.Proofs.Request.Answers
import TableDraft.Proofs.Select.ClauseDecides
import TableDraft.Proofs.Select.ClauseEnd
import TableDraft.Proofs.Select.Counters
import TableDraft.Proofs.Select.ExplicitAlias
import TableDraft.Proofs.Select.FieldLines
import TableDraft.Proofs.Select.FieldParts
import TableDraft.Proofs.Select.FieldReading
import TableDraft.Proofs.Select.FromOffset
import TableDraft.Proofs.Select.FromPlace
import TableDraft.Proofs.Select.FromScan
import TableDraft.Proofs.Select.JoinedMarks
import TableDraft.Proofs.Select.LeadingRemark
import TableDraft.Proofs.Select.ListAnswers
import TableDraft.Proofs.Select.ListCuts
import TableDraft.Proofs.Select.ListPieces
import TableDraft.Proofs.Select.Operations
import TableDraft.Proofs.Select.PrintedOnly
import TableDraft.Proofs.Select.PrintedSelect
import TableDraft.Proofs.Select.RemarkHistory
import TableDraft.Proofs.Select.RemarkLookup
import TableDraft.Proofs.Select.RemarkParts
import TableDraft.Proofs.Select.RemarksAgree
import TableDraft.Proofs.Select.Respacing
import TableDraft.Proofs.Select.ShapeOrder
import TableDraft.Proofs.Select.ShapesAgree
import TableDraft.Proofs.Select.Strip
import TableDraft.Proofs.Select.WrappedExpression
import TableDraft.Proofs.Text.ByteOffsets
import TableDraft.Proofs.Text.CaseVariants
import TableDraft.Proofs.Text.Caseless
import TableDraft.Proofs.Text.Keyword
import TableDraft.Proofs.Text.LowerCase
import TableDraft.Proofs.Text.Numbers
import TableDraft.Proofs.Text.Respelling
import TableDraft.Proofs.Text.SigmaForms
import TableDraft.Proofs.Text.Trimming
import TableDraft.Proofs.Text.UpperCase
import TableDraft.Proofs.Text.Words
import TableDraft.Proofs.Typing.ArgumentPlaces
import TableDraft.Proofs.Typing.KeywordParts
import TableDraft.Proofs.Typing.PlainKeywords
import TableDraft.Proofs.Typing.RespelledRules
import TableDraft.Proofs.Typing.RuleDocuments
import TableDraft.Proofs.Typing.RuleHistory
import TableDraft.Proofs.Typing.RuleLookup
import TableDraft.Proofs.Typing.RuleOrder
import TableDraft.Proofs.Typing.RuleSources
import TableDraft.Proofs.Typing.StableTypes
import TableDraft.Proofs.Typing.TokenGrammar
import TableDraft.Proofs.Typing.TypeText
import TableDraft.Request
import TableDraft.Select.Clause
import TableDraft.Select.Field
import TableDraft.Select.Pieces
import TableDraft.Select.Remark
import TableDraft.Select.RemarkTable
import TableDraft.Select.Statement
import TableDraft.Text.Blank
import TableDraft.Text.Escaped
import TableDraft.Text.LetterCase
import TableDraft.Text.Number
import TableDraft.Text.Search
import TableDraft.Typing.AbstractType
import TableDraft.Typing.ColumnType
import TableDraft.Typing.Inference
import TableDraft.Typing.Rule
import TableDraft.Typing.RuleSet
import TableDraft.Unicode.CaseMapping
import TableDraft.Unicode.Category
import TableDraft.Unicode.Lookup
import TableDraft.Unicode.Property
import TableDraft.Unicode.RangeTable
import TableDraft.Unicode.Script

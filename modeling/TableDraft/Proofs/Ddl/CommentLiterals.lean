import TableDraft.Ddl.Layout
import TableDraft.Proofs.Text.Trimming

/-!
# Comments in a statement

A statement is a row of parts: text as it stands, and the literals of the comments on the table and on
the columns. `statementParts` takes the layout apart in this way, and

* `textOf_statementParts`: the parts, one after another, are the statement;
* **`closeLiteral_literal`: who reads a literal from its opening quote stops at its closing quote and
  has the comment**, if no quote comes next, as in a statement none does (`apart_statementParts`);
* `outside_statementParts`: what stands outside of the literals is the same for all comments;
* **`eq_of_textOf_eq`: rows that differ in their comments only are equal if their texts are**, and so
  are statements (`eq_of_render`).

`comments_of_render` says all this of a rendered statement.
-/

namespace TableDraft.Ddl

open Text

/-! ## 1. Reading a literal -/

/-- The text does not go on with a quote. -/
def NoQuote (s : List Char) : Prop := ∀ c ∈ s.head?, c ≠ '\''

theorem noQuote_nil : NoQuote [] := fun _ hc => by cases hc

theorem noQuote_cons {c : Char} (h : c ≠ '\'') (s : List Char) : NoQuote (c :: s) :=
  fun _ hd => Option.some.inj hd ▸ h

/-- **Reading a literal stops at its closing quote and gives its text.** -/
theorem closeLiteral_literal {rest : List Char} (h : NoQuote rest) : ∀ s : List Char,
    closeLiteral (doubleQuotes s ++ '\'' :: rest) = some (s, rest)
  | [] => by
      cases rest with
      | nil => rfl
      | cons d r =>
          have hd : (d == '\'') = false := beq_false_of_ne (h d rfl)
          simp [doubleQuotes, closeLiteral, hd]
  | c :: s => by
      have ih := closeLiteral_literal h s
      by_cases hc : c = '\''
      · subst hc
        simp [doubleQuotes, closeLiteral, ih]
      · simp [doubleQuotes, closeLiteral, hc, ih]

/-- A literal ends in its closing quote, so that trimming keeps it. -/
theorem trimEnd_append_literal (s comment : List Char) :
    trimEnd (s ++ literal comment) = s ++ literal comment := by
  have hquote : isBlankText ['\''] = false := by decide
  have hlast : trimEnd ['\''] = ['\''] := by decide
  rw [literal, ← List.append_assoc, trimEnd_append hquote, hlast]

/-! ## 2. Rows of parts -/

/-- What a comment is about. -/
inductive Subject where
  | table
  | column
deriving DecidableEq

/-- A part of a statement. -/
inductive Part where
  /-- Text that stands as it is. -/
  | plain (s : List Char)
  /-- The literal of a comment. -/
  | comment (on : Subject) (s : List Char)

namespace Part

/-- A part as it is written. -/
def text : Part → List Char
  | plain s => s
  | comment _ s => literal s

/-- The comment on a subject, if the part is its literal. -/
def commentOn? (subject : Subject) : Part → Option (List Char)
  | plain _ => none
  | comment on s => if on = subject then some s else none

/-- What is left of a part without the comment on one of some subjects. -/
def outside (hidden : List Subject) : Part → Part
  | plain s => plain s
  | comment on s => comment on (if on ∈ hidden then [] else s)

end Part

/-- The text of a row of parts. -/
def textOf (ps : List Part) : List Char := ps.flatMap Part.text

@[simp] theorem textOf_nil : textOf [] = [] := rfl

@[simp] theorem textOf_plain (s : List Char) (ps : List Part) :
    textOf (.plain s :: ps) = s ++ textOf ps := rfl

@[simp] theorem textOf_comment (on : Subject) (s : List Char) (ps : List Part) :
    textOf (.comment on s :: ps) = literal s ++ textOf ps := rfl

@[simp] theorem textOf_append (ps qs : List Part) : textOf (ps ++ qs) = textOf ps ++ textOf qs :=
  List.flatMap_append

/-- No literal of the row is followed by a quote. -/
def Apart : List Part → Prop
  | [] => True
  | .plain _ :: ps => Apart ps
  | .comment _ _ :: ps => NoQuote (textOf ps) ∧ Apart ps

theorem NoQuote.append {s t : List Char} (hs : NoQuote s) (ht : NoQuote t) : NoQuote (s ++ t) := by
  cases s with
  | nil => exact ht
  | cons c s => exact hs

theorem Apart.append : ∀ {ps qs : List Part}, Apart ps → Apart qs → NoQuote (textOf qs) →
    Apart (ps ++ qs)
  | [], _, _, hq, _ => hq
  | .plain _ :: ps, qs, hp, hq, hno => @Apart.append ps qs hp hq hno
  | .comment _ _ :: ps, qs, hp, hq, hno => by
      have hnext : NoQuote (textOf (ps ++ qs)) := by
        rw [textOf_append]
        exact hp.1.append hno
      exact ⟨hnext, Apart.append hp.2 hq hno⟩

theorem Apart.noQuote_after {on : Subject} {s : List Char} {after : List Part} :
    ∀ {before : List Part}, Apart (before ++ .comment on s :: after) → NoQuote (textOf after)
  | [], h => h.1
  | .plain _ :: before, h => @Apart.noQuote_after on s after before h
  | .comment _ _ :: _, h => Apart.noQuote_after h.2

/-- **Reading the text from behind the opening quote of a literal gives the comment, and what is left
is the text behind the literal.** -/
theorem closeLiteral_part {before after : List Part} {on : Subject} {s : List Char}
    (h : Apart (before ++ .comment on s :: after)) :
    textOf (before ++ .comment on s :: after) =
      textOf before ++ '\'' :: (doubleQuotes s ++ '\'' :: textOf after) ∧
    closeLiteral (doubleQuotes s ++ '\'' :: textOf after) = some (s, textOf after) := by
  refine ⟨?_, closeLiteral_literal h.noQuote_after s⟩
  rw [textOf_append, textOf_comment, literal]
  simp

/-- Two literals that are read at one place have the same comment and the same text behind them. -/
theorem eq_of_literal_append {s t x y : List Char} (hx : NoQuote x) (hy : NoQuote y)
    (h : literal s ++ x = literal t ++ y) : s = t ∧ x = y := by
  have htail : doubleQuotes s ++ '\'' :: x = doubleQuotes t ++ '\'' :: y := by
    simpa [literal] using h
  have hread := closeLiteral_literal hx s
  rw [htail, closeLiteral_literal hy t] at hread
  obtain ⟨hst, hxy⟩ := Prod.mk.inj (Option.some.inj hread)
  exact ⟨hst.symm, hxy.symm⟩

/-- **Rows that differ in comments only are equal if their texts are.** -/
theorem eq_of_textOf_eq {hidden : List Subject} : ∀ {ps qs : List Part}, Apart ps → Apart qs →
    ps.map (Part.outside hidden) = qs.map (Part.outside hidden) → textOf ps = textOf qs → ps = qs
  | [], [], _, _, _, _ => rfl
  | [], _ :: _, _, _, h, _ => by cases h
  | _ :: _, [], _, _, h, _ => by cases h
  | .plain s :: ps, .plain t :: qs, hp, hq, h, ht => by
      obtain ⟨hst, hout⟩ := List.cons.inj h
      obtain rfl := Part.plain.inj hst
      rw [textOf_plain, textOf_plain] at ht
      rw [@eq_of_textOf_eq hidden ps qs hp hq hout (List.append_cancel_left ht)]
  | .plain _ :: _, .comment _ _ :: _, _, _, h, _ => by cases (List.cons.inj h).1
  | .comment _ _ :: _, .plain _ :: _, _, _, h, _ => by cases (List.cons.inj h).1
  | .comment on s :: ps, .comment on' t :: qs, hp, hq, h, ht => by
      obtain ⟨hst, hout⟩ := List.cons.inj h
      obtain ⟨rfl, -⟩ := Part.comment.inj hst
      obtain ⟨rfl, hrest⟩ := eq_of_literal_append hp.1 hq.1 ht
      rw [eq_of_textOf_eq hp.2 hq.2 hout hrest]

/-! ## 3. The parts of a statement -/

/-- The parts of the line of a column. -/
def columnParts (style : CommentStyle) (width : Nat) (first : Bool) (c : Column) : List Part :=
  let named := lead first ++ pad width c.name.toList ++ [' ']
  match style with
  | .separate => [.plain (trimEnd (named ++ c.dataType.toList))]
  | .inline =>
    [.plain (named ++ pad typeWidth c.dataType.toList ++ " COMMENT ".toList),
      .comment .column c.comment.toList]

/-- The parts of the lines of the columns. -/
def columnRows (style : CommentStyle) (columns : List Column) : List (List Part) :=
  match columns with
  | [] => []
  | c :: r =>
    columnParts style (nameWidth columns) true c :: r.map (columnParts style (nameWidth columns) false)

/-- The parts of a statement that comments on something. -/
def commentParts (on : Subject) (words comment : List Char) : List Part :=
  [.plain words, .comment on comment, .plain [';']]

/-- The parts of the lines after the column list. -/
def closingRows (conv : Conventions) (columns : List Column) (options : TableOptions) :
    List (List Part) :=
  match conv.commentStyle with
  | .separate =>
    [[.plain ");".toList], [.plain []],
      commentParts .table ("COMMENT ON TABLE ".toList ++ options.tableName.toList ++ " IS ".toList)
        options.tableComment.toList] ++
    columns.map (fun c => commentParts .column ("COMMENT ON COLUMN ".toList ++
      options.tableName.toList ++ '.' :: c.name.toList ++ " IS ".toList) c.comment.toList)
  | .inline =>
    [[.plain [')']]] ++ (if conv.addEngineClause then [[.plain (' ' :: engineClause.toList)]] else []) ++
    [[.plain " COMMENT ".toList, .comment .table options.tableComment.toList]]

/-- The parts of the lines of a statement. -/
def statementRows (conv : Conventions) (columns : List Column) (primaryKey : Option String)
    (options : TableOptions) : List (List Part) :=
  [[.plain (conv.opening.toList ++ ' ' :: options.tableName.toList ++ " (".toList)]] ++
  columnRows conv.commentStyle columns ++ (keyLines conv primaryKey).map (fun l => [.plain l]) ++
  closingRows conv columns options

/-- The parts of a statement. -/
def statementParts (conv : Conventions) (columns : List Column) (primaryKey : Option String)
    (options : TableOptions) : List Part :=
  ((statementRows conv columns primaryKey options).intersperse [.plain ['\n']]).flatten

theorem textOf_columnParts (style : CommentStyle) (width : Nat) (first : Bool) (c : Column) :
    textOf (columnParts style width first c) = columnLine style width first c := by
  cases style with
  | «inline» =>
      rw [columnParts, textOf_plain, textOf_comment, textOf_nil, List.append_nil]
      exact (trimEnd_append_literal _ _).symm
  | separate => exact List.append_nil _

theorem textOf_columnRows (style : CommentStyle) (columns : List Column) :
    (columnRows style columns).map textOf = columnLines style columns := by
  cases columns with
  | nil => rfl
  | cons c r =>
      simp only [columnRows, columnLines, List.map_cons, List.map_map, textOf_columnParts,
        Function.comp_def]

theorem textOf_commentParts (on : Subject) (words comment : List Char) :
    textOf (commentParts on words comment) = words ++ literal comment ++ [';'] := by
  simp [commentParts]

theorem textOf_closingRows (conv : Conventions) (columns : List Column) (options : TableOptions) :
    (closingRows conv columns options).map textOf = closingLines conv columns options := by
  unfold closingRows closingLines
  cases conv.commentStyle with
  | «inline» =>
      cases conv.addEngineClause <;>
        simp only [List.map_append, List.map_cons, List.map_nil, textOf_plain, textOf_comment,
          textOf_nil, List.append_nil, if_true, if_false, Bool.false_eq_true]
  | separate =>
      simp only [List.map_append, List.map_cons, List.map_nil, List.map_map, textOf_commentParts,
        textOf_plain, textOf_nil, List.append_nil, Function.comp_def]
      rfl

theorem textOf_statementRows (conv : Conventions) (columns : List Column) (primaryKey : Option String)
    (options : TableOptions) : (statementRows conv columns primaryKey options).map textOf =
      lines conv columns primaryKey options := by
  simp only [statementRows, lines, List.map_append, List.map_cons, List.map_nil, List.map_map,
    textOf_columnRows, textOf_closingRows, textOf_plain, textOf_nil, List.append_nil,
    Function.comp_def, List.map_id']

/-- What is gathered from the parts of rows with a line break between them is gathered row by row. -/
theorem flatMap_rows {β : Type} (g : Part → List β) (sep : List Part) : ∀ rows : List (List Part),
    ((rows.intersperse sep).flatten).flatMap g =
      ((rows.map (·.flatMap g)).intersperse (sep.flatMap g)).flatten
  | [] => rfl
  | [r] => by simp
  | r :: r' :: rows => by
      have ih := flatMap_rows g sep (r' :: rows)
      rw [List.map_cons] at ih
      simp [ih]

/-- **The parts of a statement, one after another, are the statement.** -/
theorem textOf_statementParts (conv : Conventions) (columns : List Column) (primaryKey : Option String)
    (options : TableOptions) : textOf (statementParts conv columns primaryKey options) =
      (render conv columns primaryKey options).toList := by
  have hrows := textOf_statementRows conv columns primaryKey options
  rw [textOf, statementParts, flatMap_rows, render, String.toList_ofList, ← hrows]
  rfl

/-! ## 4. The comments of a statement -/

theorem apart_rows : ∀ {rows : List (List Part)}, (∀ r ∈ rows, Apart r) →
    Apart ((rows.intersperse [.plain ['\n']]).flatten)
  | [], _ => trivial
  | [r], h => by
      simpa using h r List.mem_cons_self
  | r :: r' :: rows, h => by
      have ih := apart_rows fun s hs => h s (List.mem_cons_of_mem r hs)
      have hrest : Apart (.plain ['\n'] :: ((r' :: rows).intersperse [.plain ['\n']]).flatten) := ih
      have hbreak : NoQuote
          (textOf (.plain ['\n'] :: ((r' :: rows).intersperse [.plain ['\n']]).flatten)) :=
        noQuote_cons (by decide) _
      exact (h r List.mem_cons_self).append hrest hbreak

theorem apart_commentParts (on : Subject) (words comment : List Char) :
    Apart (commentParts on words comment) := ⟨noQuote_cons (by decide) [], trivial⟩

theorem apart_columnParts (style : CommentStyle) (width : Nat) (first : Bool) (c : Column) :
    Apart (columnParts style width first c) := by
  cases style with
  | «inline» => exact ⟨noQuote_nil, trivial⟩
  | separate => exact trivial

theorem apart_columnRows (style : CommentStyle) : ∀ columns : List Column,
    ∀ r ∈ columnRows style columns, Apart r
  | [] => fun r hr => by cases hr
  | c :: cs => by
      rw [columnRows, List.forall_mem_cons, List.forall_mem_map]
      exact ⟨apart_columnParts _ _ _ _, fun c' _ => apart_columnParts _ _ _ _⟩

theorem apart_closingRows (conv : Conventions) (columns : List Column) (options : TableOptions) :
    ∀ r ∈ closingRows conv columns options, Apart r := by
  unfold closingRows
  cases conv.commentStyle with
  | «inline» =>
      have hlast : Apart [.plain " COMMENT ".toList, .comment .table options.tableComment.toList] :=
        ⟨noQuote_nil, trivial⟩
      rw [List.forall_mem_append, List.forall_mem_append, List.forall_mem_singleton,
        List.forall_mem_singleton]
      refine ⟨⟨trivial, fun r hr => ?_⟩, hlast⟩
      split at hr
      · rw [List.mem_singleton.mp hr]
        exact trivial
      · cases hr
  | separate =>
      rw [List.forall_mem_append, List.forall_mem_map, List.forall_mem_cons, List.forall_mem_cons,
        List.forall_mem_singleton]
      exact ⟨⟨trivial, trivial, apart_commentParts _ _ _⟩, fun c _ => apart_commentParts _ _ _⟩

/-- **No literal of a statement is followed by a quote.** -/
theorem apart_statementParts (conv : Conventions) (columns : List Column) (primaryKey : Option String)
    (options : TableOptions) : Apart (statementParts conv columns primaryKey options) := by
  apply apart_rows
  unfold statementRows
  rw [List.forall_mem_append, List.forall_mem_append, List.forall_mem_append,
    List.forall_mem_singleton, List.forall_mem_map]
  exact ⟨⟨⟨trivial, apart_columnRows _ _⟩, fun _ _ => trivial⟩, apart_closingRows _ _ _⟩

/-- The comments on a subject in a row of parts, in order. -/
def commentsOn (subject : Subject) (ps : List Part) : List (List Char) :=
  ps.flatMap fun p => (p.commentOn? subject).toList

@[simp] theorem commentsOn_nil (subject : Subject) : commentsOn subject [] = [] := rfl

@[simp] theorem commentsOn_plain (subject : Subject) (s : List Char) (ps : List Part) :
    commentsOn subject (.plain s :: ps) = commentsOn subject ps := rfl

@[simp] theorem commentsOn_comment (subject on : Subject) (s : List Char) (ps : List Part) :
    commentsOn subject (.comment on s :: ps) =
      if on = subject then s :: commentsOn subject ps else commentsOn subject ps := by
  by_cases h : on = subject <;> simp [commentsOn, Part.commentOn?, h]

theorem flatten_intersperse_nil {β : Type} : ∀ l : List (List β),
    (l.intersperse []).flatten = l.flatten
  | [] => rfl
  | [a] => rfl
  | a :: b :: l => by
      have ih := flatten_intersperse_nil (b :: l)
      simp [ih]

/-- Line breaks hold no comment. -/
theorem commentsOn_rows (subject : Subject) (rows : List (List Part)) :
    commentsOn subject ((rows.intersperse [.plain ['\n']]).flatten) =
      rows.flatMap (commentsOn subject) := by
  rw [commentsOn, flatMap_rows]
  exact (flatten_intersperse_nil _).trans (List.flatMap_def ..).symm

theorem commentsOn_commentParts (subject on : Subject) (words comment : List Char) :
    commentsOn subject (commentParts on words comment) = if on = subject then [comment] else [] := by
  simp [commentParts]

theorem commentsOn_columnParts (subject : Subject) (style : CommentStyle) (width : Nat) (first : Bool)
    (c : Column) : commentsOn subject (columnParts style width first c) =
      if style = .inline ∧ .column = subject then [c.comment.toList] else [] := by
  cases style <;> simp [columnParts]

/-- The comments on the lines of the columns. -/
theorem commentsOn_columnRows (subject : Subject) (style : CommentStyle) (columns : List Column) :
    (columnRows style columns).flatMap (commentsOn subject) =
      if style = .inline ∧ .column = subject then columns.map (·.comment.toList) else [] := by
  cases columns with
  | nil => simp [columnRows]
  | cons c cs =>
      simp only [columnRows, List.flatMap_cons, List.flatMap_map, commentsOn_columnParts]
      split
      · rw [List.map_cons, List.map_eq_flatMap]
        rfl
      · simp

/-- The comments after the column list. -/
theorem commentsOn_closingRows (subject : Subject) (conv : Conventions) (columns : List Column)
    (options : TableOptions) : (closingRows conv columns options).flatMap (commentsOn subject) =
      (if .table = subject then [options.tableComment.toList] else []) ++
      (if conv.commentStyle = .separate ∧ .column = subject then columns.map (·.comment.toList)
        else []) := by
  unfold closingRows
  cases conv.commentStyle with
  | «inline» => cases conv.addEngineClause <;> simp
  | separate =>
      simp only [List.flatMap_append, List.flatMap_cons, List.flatMap_nil, List.flatMap_map,
        commentsOn_commentParts, commentsOn_plain, commentsOn_nil, List.nil_append, List.append_nil,
        true_and]
      congr 1
      split
      · rw [List.map_eq_flatMap]
      · simp

/-- **The comments in a statement are those on the table and on the columns**, each once, those on the
columns in order. -/
theorem commentsOn_statementParts (conv : Conventions) (columns : List Column)
    (primaryKey : Option String) (options : TableOptions) :
    commentsOn .table (statementParts conv columns primaryKey options) =
      [options.tableComment.toList] ∧
    commentsOn .column (statementParts conv columns primaryKey options) =
      columns.map (·.comment.toList) := by
  have hkey : ∀ subject, ((keyLines conv primaryKey).map fun l => [Part.plain l]).flatMap
      (commentsOn subject) = [] := by
    intro subject
    simp [List.flatMap_map]
  rw [statementParts, commentsOn_rows, commentsOn_rows]
  simp only [statementRows, List.flatMap_append, commentsOn_columnRows, commentsOn_closingRows, hkey]
  cases conv.commentStyle <;> simp

/-! ## 5. What stands outside of the literals -/

/-- The name and the type of a column. -/
def Column.typed (c : Column) : String × String := (c.name, c.dataType)

/-- What depends on names and types only is the same for columns with the same names and types. -/
theorem map_eq_of_typed {β : Type} {f : Column → β} (hf : ∀ c, f c = f { c with comment := "" })
    {columns columns' : List Column} (h : columns.map Column.typed = columns'.map Column.typed) :
    columns.map f = columns'.map f := by
  have hfactor : f = (fun t : String × String => f ⟨t.1, t.2, ""⟩) ∘ Column.typed := funext hf
  rw [hfactor, ← List.map_map, h, List.map_map]

theorem nameWidth_of_typed {columns columns' : List Column}
    (h : columns.map Column.typed = columns'.map Column.typed) :
    nameWidth columns = nameWidth columns' := by
  rw [nameWidth, nameWidth, map_eq_of_typed (fun c => rfl) h]

section Outside

variable {hidden : List Subject} (hcolumn : .column ∈ hidden) {columns columns' : List Column}
  (h : columns.map Column.typed = columns'.map Column.typed)
include hcolumn h

theorem outside_columnRows (style : CommentStyle) :
    (columnRows style columns).map (·.map (Part.outside hidden)) =
      (columnRows style columns').map (·.map (Part.outside hidden)) := by
  have hparts : ∀ width first (c : Column),
      (columnParts style width first c).map (Part.outside hidden) =
        (columnParts style width first { c with comment := "" }).map (Part.outside hidden) := by
    intro width first c
    cases style <;> simp [columnParts, Part.outside, hcolumn]
  have hwidth := nameWidth_of_typed h
  cases columns with
  | nil =>
      cases columns' with
      | nil => rfl
      | cons c' cs' => cases h
  | cons c cs =>
      cases columns' with
      | nil => cases h
      | cons c' cs' =>
          simp only [columnRows, List.map_cons, List.map_map, hwidth]
          have hhead := map_eq_of_typed (hparts (nameWidth (c' :: cs')) true) h
          have htail := map_eq_of_typed (hparts (nameWidth (c' :: cs')) false) h
          rw [List.map_cons, List.map_cons] at hhead htail
          exact List.cons_eq_cons.mpr ⟨(List.cons.inj hhead).1, (List.cons.inj htail).2⟩

theorem outside_closingRows (conv : Conventions) {options options' : TableOptions}
    (htable : options.tableName = options'.tableName)
    (hcomment : .table ∈ hidden ∨ options.tableComment = options'.tableComment) :
    (closingRows conv columns options).map (·.map (Part.outside hidden)) =
      (closingRows conv columns' options').map (·.map (Part.outside hidden)) := by
  have hone : Part.outside hidden (.comment .table options.tableComment.toList) =
      Part.outside hidden (.comment .table options'.tableComment.toList) := by
    rcases hcomment with hmem | heq
    · simp [Part.outside, hmem]
    · rw [heq]
  unfold closingRows
  cases conv.commentStyle with
  | «inline» => simp only [List.map_append, List.map_cons, List.map_nil, hone]
  | separate =>
      simp only [List.map_append, List.map_cons, List.map_nil, commentParts, List.map_map, hone, htable]
      congr 1
      exact map_eq_of_typed (fun c => by simp [Part.outside, hcolumn]) h

/-- **What stands outside of the literals is the same for all comments.** -/
theorem outside_statementParts (conv : Conventions) (primaryKey : Option String)
    {options options' : TableOptions} (htable : options.tableName = options'.tableName)
    (hcomment : .table ∈ hidden ∨ options.tableComment = options'.tableComment) :
    (statementParts conv columns primaryKey options).map (Part.outside hidden) =
      (statementParts conv columns' primaryKey options').map (Part.outside hidden) := by
  have hrows : (statementRows conv columns primaryKey options).map (·.map (Part.outside hidden)) =
      (statementRows conv columns' primaryKey options').map (·.map (Part.outside hidden)) := by
    simp only [statementRows, List.map_append, outside_columnRows hcolumn h,
      outside_closingRows hcolumn h conv htable hcomment, htable]
  simp only [List.map_eq_flatMap (f := Part.outside hidden)] at hrows ⊢
  rw [statementParts, statementParts, flatMap_rows, flatMap_rows, hrows]

end Outside

theorem eq_of_typed : ∀ {columns columns' : List Column},
    columns.map Column.typed = columns'.map Column.typed →
    columns.map (·.comment.toList) = columns'.map (·.comment.toList) → columns = columns'
  | [], [], _, _ => rfl
  | [], _ :: _, h, _ => by cases h
  | _ :: _, [], h, _ => by cases h
  | ⟨n, t, c⟩ :: cs, ⟨n', t', c'⟩ :: cs', h, hc => by
      obtain ⟨hhead, htail⟩ := List.cons.inj h
      obtain ⟨hcomment, hcomments⟩ := List.cons.inj hc
      have hname : n = n' := (Prod.mk.inj hhead).1
      have htype : t = t' := (Prod.mk.inj hhead).2
      have htext : c = c' := String.toList_inj.mp hcomment
      rw [hname, htype, htext, eq_of_typed htail hcomments]

/-- **Two statements that differ in comments only are the same only if all comments are.** -/
theorem eq_of_render {conv : Conventions} {columns columns' : List Column} {primaryKey : Option String}
    {options options' : TableOptions} (htyped : columns.map Column.typed = columns'.map Column.typed)
    (htable : options.tableName = options'.tableName)
    (h : render conv columns primaryKey options = render conv columns' primaryKey options') :
    columns = columns' ∧ options = options' := by
  have htext : textOf (statementParts conv columns primaryKey options) =
      textOf (statementParts conv columns' primaryKey options') := by
    rw [textOf_statementParts, textOf_statementParts, h]
  have hparts := eq_of_textOf_eq (apart_statementParts ..) (apart_statementParts ..)
    (outside_statementParts (by decide : Subject.column ∈ [.table, .column]) htyped conv primaryKey
      htable (Or.inl (by decide))) htext
  have hcomments := commentsOn_statementParts conv columns primaryKey options
  rw [hparts] at hcomments
  have hcomments' := commentsOn_statementParts conv columns' primaryKey options'
  have htableComment : [options.tableComment.toList] = [options'.tableComment.toList] :=
    hcomments.1.symm.trans hcomments'.1
  refine ⟨eq_of_typed htyped (hcomments.2.symm.trans hcomments'.2), ?_⟩
  obtain ⟨name, comment⟩ := options
  obtain ⟨name', comment'⟩ := options'
  obtain rfl : name = name' := htable
  obtain rfl : comment = comment' := String.toList_inj.mp (List.singleton_inj.mp htableComment)
  rfl

/-- **Each comment of a statement stands in a literal of its own, and nothing gets out of it.** The
statement is a row of parts; who reads a literal from behind its opening quote stops at its closing
quote and has the comment; with other comments the parts are the same but for what the literals hold;
and statements that differ in comments only are equal only if all comments are. -/
theorem comments_of_render (conv : Conventions) (columns : List Column) (primaryKey : Option String)
    (options : TableOptions) :
    let ps := statementParts conv columns primaryKey options
    (render conv columns primaryKey options).toList = textOf ps ∧
    commentsOn .table ps = [options.tableComment.toList] ∧
    commentsOn .column ps = columns.map (·.comment.toList) ∧
    (∀ before on s after, ps = before ++ .comment on s :: after →
      textOf ps = textOf before ++ '\'' :: (doubleQuotes s ++ '\'' :: textOf after) ∧
      closeLiteral (doubleQuotes s ++ '\'' :: textOf after) = some (s, textOf after)) ∧
    ∀ (columns' : List Column) (options' : TableOptions),
      columns.map Column.typed = columns'.map Column.typed → options.tableName = options'.tableName →
      ps.map (Part.outside [.table, .column]) =
        (statementParts conv columns' primaryKey options').map (Part.outside [.table, .column]) ∧
      (render conv columns primaryKey options = render conv columns' primaryKey options' →
        columns = columns' ∧ options = options') := by
  intro ps
  have hcomments := commentsOn_statementParts conv columns primaryKey options
  have hapart := apart_statementParts conv columns primaryKey options
  refine ⟨(textOf_statementParts ..).symm, hcomments.1, hcomments.2, ?_, ?_⟩
  · intro before on s after hps
    have hrow : Apart (before ++ .comment on s :: after) := hps ▸ hapart
    rw [hps]
    exact closeLiteral_part hrow
  · intro columns' options' htyped htable
    have hout : ps.map (Part.outside [.table, .column]) =
        (statementParts conv columns' primaryKey options').map (Part.outside [.table, .column]) :=
      outside_statementParts (by decide) htyped conv primaryKey htable (Or.inl (by decide))
    exact ⟨hout, eq_of_render htyped htable⟩

/-- A comment that looks like the end of its literal and another statement stays in its literal: the
statement is not that of two comments. -/
theorem comments_of_render_wild :
    [(⟨"a", "TEXT", "x';\nCOMMENT ON COLUMN t.b IS 'y"⟩ : Column), ⟨"b", "TEXT", "''"⟩].map
        Column.typed = [(⟨"a", "TEXT", "x"⟩ : Column), ⟨"b", "TEXT", "y"⟩].map Column.typed ∧
    render Dialect.postgreSql.conventions
        [⟨"a", "TEXT", "x';\nCOMMENT ON COLUMN t.b IS 'y"⟩, ⟨"b", "TEXT", "''"⟩] none ⟨"t", "'"⟩ ≠
      render Dialect.postgreSql.conventions [⟨"a", "TEXT", "x"⟩, ⟨"b", "TEXT", "y"⟩] none ⟨"t", "'"⟩ := by
  refine ⟨rfl, fun h => ?_⟩
  have hparts := (comments_of_render Dialect.postgreSql.conventions
    [⟨"a", "TEXT", "x';\nCOMMENT ON COLUMN t.b IS 'y"⟩, ⟨"b", "TEXT", "''"⟩] none ⟨"t", "'"⟩).2.2.2.2
    [⟨"a", "TEXT", "x"⟩, ⟨"b", "TEXT", "y"⟩] ⟨"t", "'"⟩ rfl rfl
  exact absurd (hparts.2 h).1 (by decide)

end TableDraft.Ddl

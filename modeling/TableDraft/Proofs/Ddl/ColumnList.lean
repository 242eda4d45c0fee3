import Mathlib.Data.List.Forall2
import TableDraft.Ddl.Draft
import TableDraft.Proofs.Ddl.CommentLiterals
import TableDraft.Proofs.Select.FieldLines
import TableDraft.Proofs.Typing.RuleOrder
import TableDraft.Proofs.Typing.TypeText

/-!
# The lines of a column list

`listLines` takes the lines of a statement between the one that opens the column list and the one that
closes it. `ListsFields` says of some lines that there is one for each name, in order, which starts with
the name behind its lead, and one more for the key column where the dialect asks for it.

* `listLines_render`: if no name holds a line break, the lines of the list are those laid out;
* `start_isPrefix_columnLine_iff`: a line starts with its name unless trimming the line trims the name,
  as it does where a name that ends in a blank has a blank type and no comment behind it;
* **`listsFields_iff`: the column list of a query lists its fields exactly if no name holds a line break
  and no name is trimmed.**

Both happen: an expression that is wrapped is named by its text with the line break in it, and an alias
between quotes may end in blanks (`columnList_broken`).
-/

namespace TableDraft.Ddl

open Select Text

/-! ## 1. The lines between two others -/

/-- The line opens a column list. -/
def opensList (l : List Char) : Bool := " (".toList.isSuffixOf l

/-- The line closes a column list. -/
def closesList (l : List Char) : Bool := l == [')'] || l == ");".toList

/-- The lines of a text after the first that opens a column list and before one that closes it. -/
def listLines (text : List Char) : List (List Char) :=
  ((text.splitOn '\n').dropWhile (!opensList ·)).tail.takeWhile (!closesList ·)

/-- What the lines of some names start with. -/
def starts : List (List Char) → List (List Char)
  | [] => []
  | n :: ns => (lead true ++ n) :: ns.map (lead false ++ ·)

/-- What the line of a key column starts with. -/
def keyStart : List Char := "   ,PRIMARY KEY (".toList

/-- There is a line for each name, in order, that starts with its lead and the name, and after these
one line for the key column if asked for. -/
def ListsFields (withKey : Bool) (names ls : List (List Char)) : Prop :=
  ∃ rows keyRows, ls = rows ++ keyRows ∧ List.Forall₂ (· <+: ·) (starts names) rows ∧
    keyRows.length = (if withKey then 1 else 0) ∧ ∀ l ∈ keyRows, keyStart <+: l

/-- What starts a row stands in it. -/
theorem exists_row {s : List Char} : ∀ {ss rows : List (List Char)},
    List.Forall₂ (· <+: ·) ss rows → s ∈ ss → ∃ row ∈ rows, s <+: row
  | _, _, .nil, hs => absurd hs List.not_mem_nil
  | _, _, .cons hhead hrest, hs => by
      rcases List.mem_cons.mp hs with rfl | hs
      · exact ⟨_, List.mem_cons_self, hhead⟩
      · obtain ⟨row, hrow, h⟩ := exists_row hrest hs
        exact ⟨row, List.mem_cons_of_mem _ hrow, h⟩

theorem newline_notMem_listLines {text l : List Char} (h : l ∈ listLines text) : '\n' ∉ l :=
  notMem_of_mem_splitOn <| (List.dropWhile_suffix _).subset <| List.mem_of_mem_tail <|
    (List.takeWhile_prefix _).subset h

/-- Names on the lines of a text hold no line breaks. -/
theorem newline_notMem_of_listsFields {withKey : Bool} {names : List (List Char)} {text : List Char}
    (h : ListsFields withKey names (listLines text)) : ∀ n ∈ names, '\n' ∉ n := by
  obtain ⟨rows, keyRows, hls, hstarts, -, -⟩ := h
  have hstart : ∀ s ∈ starts names, '\n' ∉ s := by
    intro s hs
    obtain ⟨row, hrow, hin⟩ := exists_row hstarts hs
    have hmem : row ∈ listLines text := hls ▸ List.mem_append_left keyRows hrow
    exact fun hbreak => newline_notMem_listLines hmem (hin.subset hbreak)
  intro n hn hin
  cases names with
  | nil => cases hn
  | cons m ms =>
      rcases List.mem_cons.mp hn with rfl | hn
      · exact hstart _ List.mem_cons_self (List.mem_append_right _ hin)
      · exact hstart _ (List.mem_cons_of_mem _ (List.mem_map_of_mem hn)) (List.mem_append_right _ hin)

/-! ## 2. The lines laid out -/

theorem splitOn_lines_append (rest : List Char) : ∀ {ls : List (List Char)}, (∀ l ∈ ls, '\n' ∉ l) →
    (ls.flatMap (· ++ ['\n']) ++ rest).splitOn '\n' = ls ++ rest.splitOn '\n'
  | [], _ => rfl
  | l :: ls, h => by
      have ih := splitOn_lines_append rest fun k hk => h k (List.mem_cons_of_mem l hk)
      have hl : (l ++ ['\n']) ++ ls.flatMap (· ++ ['\n']) ++ rest =
          l ++ '\n' :: (ls.flatMap (· ++ ['\n']) ++ rest) := by
        simp
      rw [List.flatMap_cons, hl, List.splitOn_append_cons_self, ih,
        List.splitOn_eq_singleton (h l List.mem_cons_self), List.singleton_append, List.cons_append]

theorem flatten_intersperse_append (sep : List Char) {more : List (List Char)} (hmore : more ≠ []) :
    ∀ ls : List (List Char), ((ls ++ more).intersperse sep).flatten =
      ls.flatMap (· ++ sep) ++ (more.intersperse sep).flatten
  | [] => rfl
  | l :: ls => by
      have ih := flatten_intersperse_append sep hmore ls
      cases hrest : ls ++ more with
      | nil => exact absurd (List.append_eq_nil_iff.mp hrest).2 hmore
      | cons m ms =>
          rw [hrest] at ih
          rw [List.cons_append, hrest, List.intersperse_cons_cons, List.flatten_cons, List.flatten_cons,
            ih, List.flatMap_cons, List.append_assoc, List.append_assoc]

/-- The lines laid out are the lines of the text, up to one with more behind it. -/
theorem splitOn_layout {ls more : List (List Char)} (hlines : ∀ l ∈ ls, '\n' ∉ l) (hmore : more ≠ []) :
    (((ls ++ more).intersperse ['\n']).flatten).splitOn '\n' =
      ls ++ (more.intersperse ['\n']).flatten.splitOn '\n' := by
  rw [flatten_intersperse_append _ hmore, splitOn_lines_append _ hlines]

/-- What comes between a line that opens a list and the next that closes it is the list. -/
theorem listLines_eq {text opening closing : List Char} {ls rest : List (List Char)}
    (htext : text.splitOn '\n' = opening :: ls ++ closing :: rest) (hopens : opensList opening = true)
    (hcloses : closesList closing = true) (hinside : ∀ l ∈ ls, closesList l = false) :
    listLines text = ls := by
  have htake : (ls ++ closing :: rest).takeWhile (!closesList ·) = ls := by
    rw [List.takeWhile_append_of_pos fun l hl => by rw [hinside l hl]; rfl, List.takeWhile_cons_of_neg,
      List.append_nil]
    rw [hcloses]
    exact Bool.false_ne_true
  rw [listLines, htext, List.cons_append, List.dropWhile_cons_of_neg, List.tail_cons, htake]
  rw [hopens]
  exact Bool.false_ne_true

theorem mem_doubleQuotes {c : Char} : ∀ {s : List Char}, c ∈ doubleQuotes s → c ∈ s
  | [], h => h
  | d :: s, h => by
      unfold doubleQuotes at h
      split at h
      · rename_i hd
        rw [beq_iff_eq.mp hd, List.mem_cons]
        rcases List.mem_cons.mp h with h | h
        · exact Or.inl h
        · exact (List.mem_cons.mp h).imp_right mem_doubleQuotes
      · exact List.mem_cons.mpr ((List.mem_cons.mp h).imp_right mem_doubleQuotes)

theorem newline_notMem_literal {s : List Char} (h : '\n' ∉ s) : '\n' ∉ literal s := by
  have hquotes : '\n' ∉ doubleQuotes s := fun hin => h (mem_doubleQuotes hin)
  simp [literal, hquotes]

theorem newline_notMem_lead (first : Bool) : '\n' ∉ lead first := by
  cases first <;> decide

theorem newline_notMem_pad {width : Nat} {s : List Char} (h : '\n' ∉ s) : '\n' ∉ pad width s := by
  simp [pad, h]

/-- The column keeps its name when its line is trimmed: the name is followed by a type or a comment, or
does not end in a blank. -/
def KeepsName (style : CommentStyle) (c : Column) : Prop :=
  style = .separate → isBlankText c.dataType.toList = true →
    ∀ x ∈ c.name.toList.getLast?, isBlank x = false

section Column

variable {style : CommentStyle} {width : Nat} {first : Bool} {c : Column}

/-- The line of a column is one line if its name, its type and its comment are. -/
theorem newline_notMem_columnLine (hname : '\n' ∉ c.name.toList) (htype : '\n' ∉ c.dataType.toList)
    (hcomment : '\n' ∉ c.comment.toList) : '\n' ∉ columnLine style width first c := by
  have hword : '\n' ∉ " COMMENT ".toList := by decide
  intro h
  have hin := (trimEnd_isPrefix _).subset h
  cases style with
  | «inline» =>
      simp only [List.mem_append, newline_notMem_lead, newline_notMem_pad hname,
        newline_notMem_pad htype, newline_notMem_literal hcomment, hword, or_false, false_or,
        List.mem_singleton] at hin
      exact absurd hin (by decide)
  | separate =>
      simp only [List.mem_append, newline_notMem_lead, newline_notMem_pad hname, htype, or_false,
        false_or, List.mem_singleton] at hin
      exact absurd hin (by decide)

theorem head_of_closesList {l : List Char} (h : closesList l = true) : l.head? = some ')' := by
  rw [closesList, Bool.or_eq_true, beq_iff_eq, beq_iff_eq] at h
  rcases h with rfl | rfl
  · rfl
  · rfl

/-- The line of a column does not close the list. -/
theorem closesList_columnLine : closesList (columnLine style width first c) = false := by
  have hlead : ∃ t, lead first = ' ' :: t := by
    cases first
    · exact ⟨_, rfl⟩
    · exact ⟨_, rfl⟩
  obtain ⟨t, ht⟩ := hlead
  have hhead : ∀ d ∈ (columnLine style width first c).head?, ' ' = d := by
    unfold columnLine
    cases style with
    | «inline» =>
        simp only [ht, List.cons_append]
        exact head_trimEnd
    | separate =>
        simp only [ht, List.cons_append]
        exact head_trimEnd
  rw [← Bool.not_eq_true]
  intro h
  exact absurd (hhead ')' (head_of_closesList h)) (by decide)

/-- A text starts what is left of it after trimming only if trimming leaves it whole. -/
theorem isPrefix_trimEnd_iff {s : List Char} (hs : s ≠ []) :
    s <+: trimEnd s ↔ ∀ x ∈ s.getLast?, isBlank x = false := by
  have hwhole : s <+: trimEnd s ↔ trimEnd s = s :=
    ⟨fun h => (trimEnd_isPrefix s).eq_of_length_le h.length_le, fun h => h.symm ▸ List.prefix_rfl⟩
  have hlast : ∀ x ∈ s.getLast?, x = s.getLast hs := by
    intro x hx
    rw [List.getLast?_eq_some_getLast hs] at hx
    exact (Option.some.inj hx).symm
  rw [hwhole, trimEnd, ← List.rdropWhile, List.rdropWhile_eq_self_iff]
  constructor
  · intro h x hx
    rw [hlast x hx, ← Bool.not_eq_true]
    exact h hs
  · intro h _
    rw [h _ (List.getLast?_eq_some_getLast hs)]
    exact Bool.false_ne_true

theorem start_isPrefix_named (t : List Char) : lead first ++ c.name.toList <+:
    lead first ++ pad width c.name.toList ++ [' '] ++ t := by
  rw [pad]
  simp only [List.append_assoc]
  exact (List.prefix_append_right_inj _).mpr (List.prefix_append _ _)

/-- The line of a column with its comment. -/
theorem columnLine_inline : columnLine .inline width first c =
    lead first ++ pad width c.name.toList ++ [' '] ++
      (pad typeWidth c.dataType.toList ++ " COMMENT ".toList ++ literal c.comment.toList) := by
  unfold columnLine
  dsimp only
  rw [trimEnd_append_literal]
  simp only [List.append_assoc]

/-- **The line of a column starts with its name exactly if the column keeps it.** -/
theorem start_isPrefix_columnLine_iff (hname : c.name.toList ≠ []) :
    lead first ++ c.name.toList <+: columnLine style width first c ↔ KeepsName style c := by
  cases style with
  | «inline» =>
      refine iff_of_true ?_ (fun h => by cases h)
      rw [columnLine_inline]
      exact start_isPrefix_named _
  | separate =>
      unfold columnLine
      dsimp only
      cases htype : isBlankText c.dataType.toList with
      | false =>
          rw [trimEnd_append htype]
          exact iff_of_true (start_isPrefix_named _) fun _ h => absurd (htype.symm.trans h) Bool.false_ne_true
      | true =>
          have hspaces : isBlankText (List.replicate (width - c.name.toList.length) ' ' ++ [' ']) =
              true := by
            rw [isBlankText_append, isBlankText_iff.mpr fun x hx => List.eq_of_mem_replicate hx ▸ rfl]
            rfl
          have hline : trimEnd (lead first ++ pad width c.name.toList ++ [' '] ++ c.dataType.toList) =
              trimEnd (lead first ++ c.name.toList) := by
            rw [trimEnd_append_blank htype, pad, ← List.append_assoc, List.append_assoc _ _ [' '],
              trimEnd_append_blank hspaces]
          rw [hline, isPrefix_trimEnd_iff (List.append_ne_nil_of_right_ne_nil _ hname),
            List.getLast?_append_of_ne_nil _ hname]
          exact ⟨fun h _ _ => h, fun h => h rfl htype⟩

end Column

/-! ## 3. The list as a whole -/

theorem mem_columnLines {style : CommentStyle} {l : List Char} : ∀ {columns : List Column},
    l ∈ columnLines style columns →
    ∃ first, ∃ c ∈ columns, l = columnLine style (nameWidth columns) first c
  | [], h => absurd h List.not_mem_nil
  | c :: cs, h => by
      rcases List.mem_cons.mp h with rfl | h
      · exact ⟨true, c, List.mem_cons_self, rfl⟩
      · obtain ⟨c', hc', rfl⟩ := List.mem_map.mp h
        exact ⟨false, c', List.mem_cons_of_mem c hc', rfl⟩

/-- **The lines of the columns start with their names exactly if every column keeps its name.** -/
theorem forall₂_starts_iff {style : CommentStyle} {columns : List Column}
    (hnames : ∀ c ∈ columns, c.name.toList ≠ []) :
    List.Forall₂ (· <+: ·) (starts (columns.map (·.name.toList))) (columnLines style columns) ↔
      ∀ c ∈ columns, KeepsName style c := by
  cases columns with
  | nil => exact iff_of_true .nil (fun _ hc => absurd hc List.not_mem_nil)
  | cons c cs =>
      have hhead : lead true ++ c.name.toList <+: columnLine style (nameWidth (c :: cs)) true c ↔
          KeepsName style c := start_isPrefix_columnLine_iff (hnames c List.mem_cons_self)
      simp only [List.map_cons, starts, columnLines, List.map_map, List.forall₂_cons,
        List.forall₂_map_left_iff, List.forall₂_map_right_iff, List.forall₂_same,
        List.forall_mem_cons]
      refine and_congr hhead (forall₂_congr fun c' hc' => ?_)
      exact start_isPrefix_columnLine_iff (hnames c' (List.mem_cons_of_mem c hc'))

section Layout

variable {conv : Conventions} {columns : List Column} {key : Option String} {options : TableOptions}

theorem length_keyLines (hkey : key ≠ none) :
    (keyLines conv key).length = if conv.addPrimaryKey then 1 else 0 := by
  obtain ⟨k, rfl⟩ := Option.ne_none_iff_exists'.mp hkey
  unfold keyLines
  cases conv.addPrimaryKey <;> rfl

theorem mem_keyLines {l : List Char} (h : l ∈ keyLines conv key) :
    ∃ k, key = some k ∧ l = keyStart ++ k.toList ++ [')'] := by
  unfold keyLines at h
  split at h
  · rw [Option.mem_toList, Option.map_eq_some_iff] at h
    obtain ⟨k, hk, rfl⟩ := h
    exact ⟨k, hk, rfl⟩
  · cases h

theorem closesList_keyLines {l : List Char} (h : l ∈ keyLines conv key) : closesList l = false := by
  obtain ⟨k, -, rfl⟩ := mem_keyLines h
  rfl

/-- The list is closed, and more follows. -/
theorem exists_closing (conv : Conventions) (columns : List Column) (options : TableOptions) :
    ∃ closing more, closingLines conv columns options = closing :: more ∧
      closesList closing = true ∧ '\n' ∉ closing ∧ more ≠ [] := by
  unfold closingLines
  cases conv.commentStyle with
  | «inline» =>
      refine ⟨[')'], _, List.cons_append.trans rfl, rfl, by decide, ?_⟩
      simp
  | separate => exact ⟨_, _, rfl, by decide, by decide, List.cons_ne_nil _ _⟩

/-- The line that opens the column list. -/
def openingLine (conv : Conventions) (options : TableOptions) : List Char :=
  conv.opening.toList ++ ' ' :: options.tableName.toList ++ " (".toList

theorem opensList_openingLine (conv : Conventions) (options : TableOptions) :
    opensList (openingLine conv options) = true :=
  List.isSuffixOf_iff_suffix.mpr (List.suffix_append _ _)

theorem closesList_inside {l : List Char}
    (h : l ∈ columnLines conv.commentStyle columns ++ keyLines conv key) : closesList l = false := by
  rcases List.mem_append.mp h with h | h
  · obtain ⟨first, c, -, rfl⟩ := mem_columnLines h
    exact closesList_columnLine
  · exact closesList_keyLines h

section OneLine

variable (hopening : '\n' ∉ conv.opening.toList) (htable : '\n' ∉ options.tableName.toList)
  (hcolumns : ∀ c ∈ columns, '\n' ∉ c.name.toList ∧ '\n' ∉ c.dataType.toList ∧ '\n' ∉ c.comment.toList)
  (hkey : ∀ k ∈ key, '\n' ∉ k.toList)
include hopening htable hcolumns hkey

/-- **If no name, no type and no comment holds a line break, the statement has the lines laid out** up to
the one that closes the list. -/
theorem splitOn_render {closing : List Char} {more : List (List Char)}
    (hclosing : closingLines conv columns options = closing :: more) (hline : '\n' ∉ closing)
    (hmore : more ≠ []) :
    (render conv columns key options).toList.splitOn '\n' = openingLine conv options ::
      (columnLines conv.commentStyle columns ++ keyLines conv key) ++
      closing :: (more.intersperse ['\n']).flatten.splitOn '\n' := by
  have hlines : ∀ l ∈ openingLine conv options ::
      (columnLines conv.commentStyle columns ++ keyLines conv key) ++ [closing], '\n' ∉ l := by
    rw [List.forall_mem_append, List.forall_mem_cons, List.forall_mem_append, List.forall_mem_singleton]
    refine ⟨⟨by simp [openingLine, hopening, htable], fun l hl => ?_, fun l hl => ?_⟩, hline⟩
    · obtain ⟨first, c, hc, rfl⟩ := mem_columnLines hl
      obtain ⟨hname, htype, hcomment⟩ := hcolumns c hc
      exact newline_notMem_columnLine hname htype hcomment
    · obtain ⟨k, hk, rfl⟩ := mem_keyLines hl
      have hstart : '\n' ∉ keyStart := by decide
      have hend : '\n' ∉ [')'] := by decide
      rw [List.mem_append, List.mem_append, not_or, not_or]
      exact ⟨⟨hstart, hkey k hk⟩, hend⟩
  have hlayout : lines conv columns key options = (openingLine conv options ::
      (columnLines conv.commentStyle columns ++ keyLines conv key) ++ [closing]) ++ more := by
    simp [lines, openingLine, hclosing]
  rw [render, String.toList_ofList, hlayout, splitOn_layout hlines hmore, List.append_assoc]
  rfl

/-- **The lines of the column list are then those of the columns and that of the key.** -/
theorem listLines_render : listLines (render conv columns key options).toList =
    columnLines conv.commentStyle columns ++ keyLines conv key := by
  obtain ⟨closing, more, hclosing, hcloses, hline, hmore⟩ :=
    exists_closing conv columns options
  exact listLines_eq (splitOn_render hopening htable hcolumns hkey hclosing hline hmore)
    (opensList_openingLine conv options) hcloses fun l hl => closesList_inside hl

end OneLine

theorem listsFields_layout_iff (conv : Conventions) (hnames : ∀ c ∈ columns, c.name.toList ≠ [])
    (hkey : key ≠ none) :
    ListsFields conv.addPrimaryKey (columns.map (·.name.toList))
        (columnLines conv.commentStyle columns ++ keyLines conv key) ↔
      ∀ c ∈ columns, KeepsName conv.commentStyle c := by
  rw [← forall₂_starts_iff hnames]
  constructor
  · rintro ⟨rows, keyRows, hls, hstarts, hlength, -⟩
    have hrows : (columnLines conv.commentStyle columns).length = rows.length := by
      have hall := congrArg List.length hls
      rw [List.length_append, List.length_append, length_keyLines hkey, hlength] at hall
      omega
    rw [(List.append_inj hls hrows).1]
    exact hstarts
  · intro hstarts
    refine ⟨_, _, rfl, hstarts, length_keyLines hkey, fun l hl => ?_⟩
    obtain ⟨k, -, rfl⟩ := mem_keyLines hl
    rw [List.append_assoc]
    exact List.prefix_append _ _

end Layout

/-! ## 4. The list of a query -/

theorem resolve_id (d : Dialect) : Dialect.resolve d.id = d := by
  rw [Dialect.resolve, Dialect.ofId?_id]
  rfl

theorem newline_notMem_opening (d : Dialect) : '\n' ∉ d.conventions.opening.toList := by
  cases d <;> decide

/-- The key column is one of the fields, if there are any. -/
theorem mem_primaryKey? {fields : List Field} {k : String} (h : primaryKey? fields = some k) :
    ∃ f ∈ fields, f.name = k := by
  obtain ⟨f, hf, rfl⟩ := Option.map_eq_some_iff.mp h
  refine ⟨f, ?_, rfl⟩
  rw [Option.or_eq_some_iff, Option.or_eq_some_iff] at hf
  rcases hf with (hf | ⟨-, hf⟩) | ⟨-, hf⟩
  · exact List.mem_of_find?_eq_some hf
  · exact List.mem_of_find?_eq_some hf
  · exact List.mem_of_head? hf

theorem primaryKey?_ne_none {fields : List Field} (h : fields ≠ []) : primaryKey? fields ≠ none := by
  obtain ⟨f, fs, rfl⟩ := List.exists_cons_of_ne_nil h
  simp [primaryKey?]

theorem newline_notMem_columnType [PatternEngine] {rules : List TypeRule}
    (hrules : ∀ r ∈ rules, '\n' ∉ r.dataType.toList) (name comment : String) (d : Dialect) :
    '\n' ∉ ((Inference.infer name comment rules).columnType d).toList := by
  intro h
  obtain ⟨r, hr, hin⟩ := Inference.newline_mem_of_infer (AbstractType.newline_mem_of_columnType h)
  exact hrules r hr hin

section Fields

variable {fields : List Field}
  (hfields : ∀ f ∈ fields, '\n' ∉ f.name.toList ∧ '\n' ∉ f.comment.toList)

include hfields

/-- Columns of fields on one line are on one line, if the rules name no type with a line break. -/
theorem newline_notMem_columns [PatternEngine] {rules : List TypeRule}
    (hrules : ∀ r ∈ rules, '\n' ∉ r.dataType.toList) (d : Dialect) :
    ∀ c ∈ resolveColumns fields rules d, '\n' ∉ c.name.toList ∧ '\n' ∉ c.dataType.toList ∧
      '\n' ∉ c.comment.toList := by
  intro c hc
  obtain ⟨f, hf, rfl⟩ := List.mem_map.mp hc
  obtain ⟨hname, hcomment⟩ := hfields f hf
  exact ⟨hname, newline_notMem_columnType hrules f.name f.comment d, hcomment⟩

theorem newline_notMem_key : ∀ k ∈ primaryKey? fields, '\n' ∉ k.toList := by
  intro k hk
  obtain ⟨f, hf, rfl⟩ := mem_primaryKey? hk
  exact (hfields f hf).1

end Fields

/-- The lines of the column list of a query whose names are on one line each. -/
theorem listLines_draft [PatternEngine] {sql : String} {fs : List Field} (h : parseFields sql = .ok fs)
    {rules : List TypeRule} (hrules : ∀ r ∈ rules, '\n' ∉ r.dataType.toList) (id : String)
    {options : TableOptions} (htable : '\n' ∉ options.tableName.toList)
    (hbreak : ∀ f ∈ fs, '\n' ∉ f.name.toList) :
    let d := Dialect.resolve id
    listLines (draft fs rules id options).toList =
      columnLines d.conventions.commentStyle (resolveColumns fs rules d) ++
        keyLines d.conventions (primaryKey? fs) := by
  intro d
  have hfields : ∀ f ∈ fs, '\n' ∉ f.name.toList ∧ '\n' ∉ f.comment.toList :=
    fun f hf => ⟨hbreak f hf, fun hin => hbreak f hf ((field_of_parseFields h hf).2 hin)⟩
  exact listLines_render (newline_notMem_opening d) htable (newline_notMem_columns hfields hrules d)
    (newline_notMem_key hfields)

/-- **The column list of a query lists its fields, each on a line of its own behind its lead, and then
the key column if the dialect asks for it, exactly if no name holds a line break and every column keeps
its name when its line is trimmed.** -/
theorem listsFields_iff [PatternEngine] {sql : String} {fs : List Field} (h : parseFields sql = .ok fs)
    {rules : List TypeRule} (hrules : ∀ r ∈ rules, '\n' ∉ r.dataType.toList) (id : String)
    {options : TableOptions} (htable : '\n' ∉ options.tableName.toList) :
    let d := Dialect.resolve id
    ListsFields d.conventions.addPrimaryKey (fs.map (·.name.toList))
        (listLines (draft fs rules id options).toList) ↔
      (∀ f ∈ fs, '\n' ∉ f.name.toList) ∧
      ∀ c ∈ resolveColumns fs rules d, KeepsName d.conventions.commentStyle c := by
  intro d
  have hnames : fs.map (·.name.toList) = (resolveColumns fs rules d).map (·.name.toList) := by
    rw [resolveColumns, List.map_map]
    rfl
  have hnonempty : ∀ c ∈ resolveColumns fs rules d, c.name.toList ≠ [] := by
    intro c hc
    obtain ⟨f, hf, rfl⟩ := List.mem_map.mp hc
    exact (field_of_parseFields h hf).1
  have hlayout := listsFields_layout_iff d.conventions hnonempty
    (primaryKey?_ne_none (ne_nil_of_parseFields h))
  constructor
  · intro hlists
    have hbreak : ∀ f ∈ fs, '\n' ∉ f.name.toList := fun f hf =>
      newline_notMem_of_listsFields hlists _ (List.mem_map_of_mem hf)
    rw [listLines_draft h hrules id htable hbreak, hnames] at hlists
    exact ⟨hbreak, hlayout.mp hlists⟩
  · rintro ⟨hbreak, hkeeps⟩
    rw [listLines_draft h hrules id htable hbreak, hnames]
    exact hlayout.mpr hkeeps

/-- Two fields of MySQL make three lines, the last for the key column. -/
theorem listsFields_two :
    parseFields "SELECT a + b AS n, user_id FROM t" =
      .ok [⟨"n", some "n", "n"⟩, ⟨"user_id", none, "user_id"⟩] ∧
    ListsFields true ["n".toList, "user_id".toList]
      (listLines (draft [⟨"n", some "n", "n"⟩, ⟨"user_id", none, "user_id"⟩] [] "mysql"
        .default).toList) := by
  have hparse : parseFields "SELECT a + b AS n, user_id FROM t" =
      .ok [⟨"n", some "n", "n"⟩, ⟨"user_id", none, "user_id"⟩] := rfl
  refine ⟨hparse, ?_⟩
  have hrules : ∀ r ∈ ([] : List TypeRule), '\n' ∉ r.dataType.toList := by decide
  have htable : '\n' ∉ TableOptions.default.tableName.toList := by decide
  have hlists := listsFields_iff hparse hrules "mysql" htable
  rw [show Dialect.resolve "mysql" = .mySql from resolve_id .mySql] at hlists
  exact hlists.mpr ⟨by decide, fun c _ hstyle => by cases hstyle⟩

/-- A rule that gives a blank type to every name with a y in it. -/
def blankRule : TypeRule := TypeRule.ofKeywords ["y"] ""

theorem infer_blankRule [PatternEngine] : Inference.infer "y " "y " [blankRule] = .ofToken "" := by
  have hname : Naming.normalize "y " = "y" := by decide +kernel
  rw [Inference.infer_singleton, hname]
  rfl

/-- **A wrapped expression without an alias takes two lines, neither of which starts with its name**;
and where comments stand apart and the type is blank, the blank at the end of a quoted alias is lost. -/
theorem columnList_broken :
    (parseFields "SELECT a +\nb FROM t" = .ok [⟨"a +\nb", none, "a +\nb"⟩] ∧
      ¬ ListsFields false ["a +\nb".toList]
        (listLines (draft [⟨"a +\nb", none, "a +\nb"⟩] [] "spark" .default).toList)) ∧
    (parseFields "SELECT x AS \"y \" FROM t" = .ok [⟨"y ", some "y ", "y "⟩] ∧
      ¬ ListsFields false ["y ".toList]
        (listLines (draft [⟨"y ", some "y ", "y "⟩] [blankRule] "postgresql" .default).toList)) := by
  refine ⟨⟨rfl, fun h => ?_⟩, rfl, fun h => ?_⟩
  · exact newline_notMem_of_listsFields h _ List.mem_cons_self (by decide)
  · have hcolumns : resolveColumns [⟨"y ", some "y ", "y "⟩] [blankRule] .postgreSql =
        [⟨"y ", "", "y "⟩] := by
      rw [resolveColumns, List.map_singleton, infer_blankRule]
      decide +kernel
    have hdraft : draft [⟨"y ", some "y ", "y "⟩] [blankRule] "postgresql" .default =
        render Dialect.postgreSql.conventions [⟨"y ", "", "y "⟩] (some "y ") .default := by
      rw [draft, show Dialect.resolve "postgresql" = .postgreSql from resolve_id .postgreSql,
        hcolumns]
      rfl
    rw [hdraft, listLines_render (by decide) (by decide) (by decide) (by decide)] at h
    have hnames : ∀ c ∈ [(⟨"y ", "", "y "⟩ : Column)], c.name.toList ≠ [] := by decide
    have hkeeps := (listsFields_layout_iff Dialect.postgreSql.conventions hnames
      (Option.some_ne_none "y ")).mp h
    have hlast := hkeeps _ List.mem_cons_self rfl rfl ' ' rfl
    cases hlast

end TableDraft.Ddl

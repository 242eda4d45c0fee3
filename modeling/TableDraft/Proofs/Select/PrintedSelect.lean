import TableDraft.Proofs.Select.ClauseEnd
import TableDraft.Proofs.Select.Counters

/-!
# Reading a printed query

`printSelect` writes a query with one expression a line and a remark behind each. Reading it gives
the expressions back as fields and the remarks as their comments, whatever the remarks hold:

* `Item.Legible`: what the scans ask of a line, and nothing of what its remark holds; `Item.Readable`: the
  same of an expression that may go over lines;
* `beforeFrom_lines`: the scan for FROM passes the lines of a printed list;
* `get?_body`: each remark is found under its expression;
* `strip_body`, `readList_body`: without its remarks the list is the expressions with commas between, and
  these are its pieces;
* **`parseFields_printSelect`: the fields are the expressions in order, each with its remark as its
  comment**.
-/

namespace TableDraft.Select

open Text Remark

/-- An expression of a select list with a remark on it. -/
structure Item where
  /-- The text of the expression. -/
  expr : List Char
  /-- The text of the remark. -/
  remark : List Char

namespace Item

/-- The line of the item, without the line break and what stands before the expression. -/
def line (i : Item) : List Char := i.expr ++ " -- ".toList ++ i.remark

/-- The item without its remark. -/
def field? (i : Item) : Option Field := Field.ofExpression? none i.expr

end Item

/-- The lines of a list, with a comma before each expression but the first. -/
def printBody (i : Item) (is : List Item) : List Char :=
  i.line ++ is.flatMap fun j => '\n' :: (" ,".toList ++ j.line)

/-- A query with the items as its list. -/
def printSelect (i : Item) (is : List Item) : List Char :=
  "SELECT\n ".toList ++ printBody i is ++ "\nFROM t".toList

/-- What an item must be like to be read back: an expression on one line, trimmed and in one piece,
without marks of remarks and with neither the word SELECT nor a free FROM; and a remark on one line,
trimmed and not empty. -/
structure Item.Plain (i : Item) : Prop where
  trimmed : trim i.expr = i.expr
  ne_nil : i.expr ≠ []
  oneLine : '\n' ∉ i.expr
  unbroken : Unbroken i.expr
  noLine : Free '-' '-' i.expr
  noBlock : Free '/' '*' i.expr
  noSelect : holdsWord "select".toList i.expr = false
  noFrom : ∀ p q, ¬ FromAt i.expr p q
  remark_trimmed : trim i.remark = i.remark
  remark_ne_nil : i.remark ≠ []
  remark_oneLine : '\n' ∉ i.remark

/-- What the scans ask of an item: that of its remark they only see where it ends. -/
structure Item.Legible (i : Item) : Prop where
  trimmed : trim i.expr = i.expr
  ne_nil : i.expr ≠ []
  oneLine : '\n' ∉ i.expr
  unbroken : Unbroken i.expr
  noLine : Free '-' '-' i.expr
  noBlock : Free '/' '*' i.expr
  noSelect : holdsWord "select".toList i.expr = false
  noFrom : ∀ p q, ¬ FromAt i.expr p q
  remark_oneLine : '\n' ∉ i.remark

instance decidableLegible (i : Item) : Decidable i.Legible :=
  decidable_of_iff (trim i.expr = i.expr ∧ i.expr ≠ [] ∧ '\n' ∉ i.expr ∧ Balanced i.expr ∧
      Whole 0 i.expr ∧ Free '-' '-' i.expr ∧ Free '/' '*' i.expr ∧
      holdsWord "select".toList i.expr = false ∧ (∀ p q, ¬ FromAt i.expr p q) ∧ '\n' ∉ i.remark)
    ⟨fun ⟨ht, hne, ho, hb, hw, hl, hk, hs, hf, hr⟩ => ⟨ht, hne, ho, ⟨hb, hw⟩, hl, hk, hs, hf, hr⟩,
      fun ⟨ht, hne, ho, hu, hl, hk, hs, hf, hr⟩ =>
        ⟨ht, hne, ho, hu.balanced, hu.whole, hl, hk, hs, hf, hr⟩⟩

theorem Item.Plain.legible {i : Item} (h : i.Plain) : i.Legible :=
  { h with }

/-- What is left to ask of an item whose expression may go over lines. -/
structure Item.Readable (i : Item) : Prop where
  trimmed : trim i.expr = i.expr
  ne_nil : i.expr ≠ []
  unbroken : Unbroken i.expr
  noLine : Free '-' '-' i.expr
  noBlock : Free '/' '*' i.expr
  noSelect : holdsWord "select".toList i.expr = false
  noFrom : ∀ p q, ¬ FromAt i.expr p q
  remark_oneLine : '\n' ∉ i.remark

theorem Item.Legible.readable {i : Item} (h : i.Legible) : i.Readable :=
  { h with }

/-- A readable item whose remark is read back as it is. -/
structure Item.Remarked (i : Item) : Prop extends Item.Readable i where
  remark_trimmed : trim i.remark = i.remark
  remark_ne_nil : i.remark ≠ []

theorem Item.Plain.remarked {i : Item} (h : i.Plain) : i.Remarked :=
  { h with }

/-! ## 1. One line -/

/-- What may stand before the expression on a line. -/
structure Lead (s : List Char) : Prop where
  noLetter : NoLetter s
  noParen : NoParen s
  noDash : '-' ∉ s
  noSlash : '/' ∉ s

theorem lead_blank : Lead " ".toList :=
  ⟨noLetter_of_blank rfl, noParen_of_blank rfl, by decide, by decide⟩

theorem lead_comma : Lead " ,".toList := by
  refine ⟨fun c hc => ?_, ⟨by decide, by decide⟩, by decide, by decide⟩
  have hc' : c = ' ' ∨ c = ',' := by simpa using hc
  rcases hc' with rfl | rfl
  · decide
  · decide

theorem Item.Legible.line_oneLine {i : Item} (h : i.Legible) : '\n' ∉ i.line := by
  intro hm
  rcases List.mem_append.mp hm with hm | hm
  · rcases List.mem_append.mp hm with hm | hm
    · exact h.oneLine hm
    · exact absurd hm (by decide)
  · exact h.remark_oneLine hm

namespace Item.Readable

variable {i : Item} (h : i.Readable)
include h

/-- What follows the mark is on one line. -/
theorem after_mark : '\n' ∉ ' ' :: i.remark := by
  rw [List.mem_cons, not_or]
  exact ⟨by decide, h.remark_oneLine⟩

/-- Before the remark there is no mark. -/
theorem free_expr : Free '-' '-' (i.expr ++ [' ']) ∧ Free '/' '*' (i.expr ++ [' ']) :=
  ⟨free_append.mpr ⟨h.noLine, by decide, by simp⟩, free_append.mpr ⟨h.noBlock, by decide, by simp⟩⟩

/-- Stripping takes the remark off the line. -/
theorem dropLines_line : dropLines false i.line = i.expr ++ [' '] := by
  have hfree : Free '-' '-' ((i.expr ++ [' ']) ++ ['-']) :=
    free_append.mpr ⟨h.free_expr.1, by decide, by simp⟩
  have hsplit : i.line = (i.expr ++ [' ']) ++ '-' :: '-' :: ' ' :: i.remark := by
    simp [Item.line]
  rw [hsplit, dropLines_append_free hfree, dropLines_remark h.after_mark, List.append_nil]

/-- **The scan passes the line of an item**, whatever its remark holds. -/
theorem beforeFrom_line {lead : List Char} (hl : Lead lead) (t : List Char) :
    beforeFrom .code 0 true (lead ++ i.line ++ '\n' :: t) =
      (beforeFrom .code 0 true t).map (lead ++ i.line ++ '\n' :: ·) := by
  have hquiet : Quiet 0 true (lead ++ i.expr) := by
    have hq := quiet_between hl.noLetter hl.noParen (y := [])
      (fun c hc => absurd hc List.not_mem_nil) (fun p q hf => absurd hf (h.noFrom p q)) true
    rwa [List.append_nil] at hq
  have hdepth : depthAfter 0 (lead ++ i.expr) = 0 := by
    rw [depthAfter_append, depthAfter_noParen hl.noParen, h.unbroken.balanced.2]
  have hsplit : lead ++ i.line ++ '\n' :: t =
      (lead ++ i.expr) ++ ' ' :: '-' :: '-' :: ((' ' :: i.remark) ++ '\n' :: t) := by
    simp [Item.line]
  rw [hsplit, beforeFrom_append_blank (b := ' ') rfl _ (h.noLine.after hl.noDash)
    (h.noBlock.after hl.noSlash) hquiet, hdepth, beforeFrom_remark h.after_mark,
    beforeFrom_newline (Or.inr rfl)]
  cases beforeFrom .code 0 true t with
  | none => rfl
  | some p => simp [Item.line]

/-- **A readable expression is a field.** -/
theorem isSome_ofExpression? (t : Option RemarkTable) :
    (Field.ofExpression? t i.expr).isSome = true := by
  refine Field.isSome_ofExpression? t ?_ ?_
  · rw [h.trimmed]
    exact h.ne_nil
  · rw [h.trimmed, looksNested, h.noSelect, holdsFrom_eq_false h.noFrom]
    rfl

end Item.Readable

namespace Item.Plain

variable {i : Item} (h : i.Plain)
include h

theorem entry_line : RemarkTable.entryOfLine? i.line = some (i.expr, String.ofList i.remark) := by
  obtain ⟨hline, hblock⟩ := h.legible.readable.free_expr
  exact RemarkTable.entryOfLine?_printed hline
    (RemarkTable.subject?_expr h.unbroken h.trimmed h.ne_nil rfl hline hblock)
    h.remark_trimmed h.remark_ne_nil

theorem entry_comma : RemarkTable.entryOfLine? (" ,".toList ++ i.line) =
    some (i.expr, String.ofList i.remark) := by
  obtain ⟨hline, hblock⟩ := h.legible.readable.free_expr
  have hfree : Free '-' '-' ((" ,".toList ++ i.expr) ++ [' ']) := by
    rw [List.append_assoc]
    exact free_append.mpr ⟨by decide, hline, by simp⟩
  have hsubject : RemarkTable.subject? ((" ,".toList ++ i.expr) ++ [' ']) = some i.expr := by
    have hcomma := RemarkTable.subject?_comma (x := [' ']) rfl hline hblock
    rw [RemarkTable.subject?_expr h.unbroken h.trimmed h.ne_nil rfl hline hblock] at hcomma
    exact hcomma
  have hentry := RemarkTable.entryOfLine?_printed hfree hsubject h.remark_trimmed h.remark_ne_nil
  rw [List.append_assoc, List.append_assoc] at hentry
  rw [Item.line, List.append_assoc]
  exact hentry

end Item.Plain

/-! ## 2. The whole list -/

theorem printBody_cons (i j : Item) (js : List Item) :
    printBody i (j :: js) = i.line ++ '\n' :: (" ,".toList ++ printBody j js) := by
  simp [printBody]

theorem printBody_eq_lines (i : Item) (is : List Item) : printBody i is =
    i.line ++ (is.map fun j => " ,".toList ++ j.line).flatMap ('\n' :: ·) := by
  rw [printBody, List.flatMap_map]

theorem printBody_ne_nil (i : Item) (is : List Item) : printBody i is ≠ [] := by
  simp [printBody, Item.line]

/-- **The scan passes the lines of a printed list** and goes on behind the last line break. -/
theorem beforeFrom_lines (t : List Char) : ∀ {i : Item} {is : List Item} {lead : List Char},
    (∀ j ∈ i :: is, j.Readable) → Lead lead →
    beforeFrom .code 0 true (lead ++ printBody i is ++ '\n' :: t) =
      (beforeFrom .code 0 true t).map (lead ++ printBody i is ++ '\n' :: ·)
  | i, [], lead, h, hl => by
      have hbody : printBody i [] = i.line := List.append_nil i.line
      rw [hbody]
      exact (h i List.mem_cons_self).beforeFrom_line hl t
  | i, j :: js, lead, h, hl => by
      have ih := beforeFrom_lines t (fun k hk => h k (List.mem_cons_of_mem i hk)) lead_comma
      have hsplit : lead ++ printBody i (j :: js) ++ '\n' :: t =
          lead ++ i.line ++ '\n' :: (" ,".toList ++ printBody j js ++ '\n' :: t) := by
        simp [printBody_cons]
      rw [hsplit, (h i List.mem_cons_self).beforeFrom_line hl, ih]
      cases beforeFrom .code 0 true t with
      | none => rfl
      | some p => simp [printBody_cons]

theorem last_body : ∀ {i : Item} {is : List Item}, (∀ j ∈ i :: is, j.Remarked) →
    ∀ c ∈ (printBody i is).getLast?, isBlank c = false
  | i, [], h => by
      have hi := h i List.mem_cons_self
      rw [printBody, List.flatMap_nil, List.append_nil, Item.line,
        List.getLast?_append_of_ne_nil _ hi.remark_ne_nil, ← hi.remark_trimmed]
      exact last_of_trim
  | i, j :: js, h => by
      have ih : ∀ c ∈ (printBody j js).getLast?, isBlank c = false :=
        last_body fun k hk => h k (List.mem_cons_of_mem i hk)
      rw [printBody_cons, ← List.cons_append, ← List.append_assoc,
        List.getLast?_append_of_ne_nil _ (printBody_ne_nil j js)]
      exact ih

/-- A printed list is trimmed: it starts in an expression and ends in a remark. -/
theorem trim_body {i : Item} {is : List Item} (h : ∀ j ∈ i :: is, j.Remarked) :
    trim (printBody i is) = printBody i is := by
  refine trim_eq_self (fun c hc => ?_) (last_body h)
  have hi := h i List.mem_cons_self
  rw [printBody, Item.line, List.append_assoc, List.append_assoc,
    List.head?_append_of_ne_nil _ hi.ne_nil, ← hi.trimmed] at hc
  exact head_of_trim c hc

/-- **The list between SELECT and FROM is what is cut out.** -/
theorem selectFromClause_body {b : Char} (hb : isBlank b = true) {lead : List Char} (hl : Lead lead)
    (hblank : isBlankText lead = true) {i : Item} {is : List Item} (h : ∀ j ∈ i :: is, j.Remarked) :
    selectFromClause ("SELECT".toList ++ b :: (lead ++ printBody i is ++ '\n' :: "FROM t".toList)) =
      some (printBody i is) := by
  have hstart : ∀ t, beforeFrom .code 0 false (b :: t) =
      (beforeFrom .code 0 true t).map (b :: ·) := fun t =>
    beforeFrom_append_blank (s := []) hb t free_nil free_nil
      (quiet_of_noLetter (noLetter_of_blank rfl) 0 false)
  have hstop : beforeFrom .code 0 true "FROM t".toList = some [] := by
    have hfrom : "FROM t".toList = "FROM".toList ++ " t".toList := by decide
    rw [hfrom]
    exact beforeFrom_stop (by decide) fun c hc => Option.some.inj hc ▸ rfl
  have hscan : beforeFrom .code 0 false (b :: (lead ++ printBody i is ++ '\n' :: "FROM t".toList)) =
      some ((b :: lead) ++ printBody i is ++ "\n".toList) := by
    rw [hstart, beforeFrom_lines _ (fun j hj => (h j hj).toReadable) hl, hstop]
    rfl
  have hbefore : isBlankText (b :: lead) = true := by
    rw [isBlankText_cons, hb, hblank]
    rfl
  rw [selectFromClause, afterSelect_word hb, Option.bind_some, hscan, Option.map_some,
    trim_between hbefore (by decide), trim_body h]

theorem selectFromClause_printSelect {i : Item} {is : List Item} (h : ∀ j ∈ i :: is, j.Plain) :
    selectFromClause (printSelect i is) = some (printBody i is) := by
  have hsplit : printSelect i is =
      "SELECT".toList ++ '\n' :: (" ".toList ++ printBody i is ++ '\n' :: "FROM t".toList) := by
    unfold printSelect
    generalize printBody i is = body
    have hstart : "SELECT\n ".toList = "SELECT".toList ++ '\n' :: " ".toList := by decide
    have hend : "\nFROM t".toList = '\n' :: "FROM t".toList := by decide
    rw [hstart, hend]
    simp only [List.append_assoc, List.cons_append]
  rw [hsplit]
  exact selectFromClause_body (by decide) lead_blank (by decide) fun j hj => (h j hj).remarked

/-! ## 3. Remarks and expressions -/

/-- **Each remark is found under its expression.** -/
theorem get?_body {i : Item} {is : List Item} (h : ∀ j ∈ i :: is, j.Plain)
    (hd : (i :: is).Pairwise fun a b => words a.expr ≠ words b.expr) {j : Item} (hj : j ∈ i :: is) :
    (RemarkTable.ofClause (printBody i is)).get? j.expr = some (String.ofList j.remark) := by
  have hlines : ∀ l ∈ i.line :: is.map (fun j => " ,".toList ++ j.line), '\n' ∉ l := by
    intro l hl
    rcases List.mem_cons.mp hl with rfl | hl
    · exact (h i List.mem_cons_self).legible.line_oneLine
    · obtain ⟨k, hk, rfl⟩ := List.mem_map.mp hl
      rw [List.mem_append, not_or]
      exact ⟨by decide, (h k (List.mem_cons_of_mem i hk)).legible.line_oneLine⟩
  have hentries : (i.line :: is.map fun j => " ,".toList ++ j.line).filterMap
      RemarkTable.entryOfLine? = (i :: is).map fun j => (j.expr, String.ofList j.remark) := by
    rw [List.filterMap_cons_some (h i List.mem_cons_self).entry_line, List.filterMap_map,
      List.map_cons, ← List.filterMap_eq_map]
    exact congrArg _ (List.filterMap_congr fun k hk => (h k (List.mem_cons_of_mem i hk)).entry_comma)
  rw [printBody_eq_lines, RemarkTable.ofClause_lines hlines, hentries]
  refine RemarkTable.get?_insertAll_of_pairwise (List.pairwise_map.mpr hd) ?_
  exact List.mem_map_of_mem hj

/-- No block starts in expressions without one, written with blanks and commas between. -/
theorem free_separated : ∀ {e : List Char} {es : List (List Char)},
    (∀ f ∈ e :: es, Free '/' '*' f) → Free '/' '*' (separated " ".toList "\n ".toList e es)
  | e, [], h => by
      have he := h e List.mem_cons_self
      simp only [separated, List.flatMap_nil, List.append_nil]
      exact free_append.mpr ⟨he, by decide, by simp⟩
  | e, f :: es, h => by
      have he := h e List.mem_cons_self
      have ih := free_separated fun g hg => h g (List.mem_cons_of_mem e hg)
      have hsplit : separated " ".toList "\n ".toList e (f :: es) =
          e ++ (" \n ,".toList ++ separated " ".toList "\n ".toList f es) := by
        simp [separated]
      rw [hsplit]
      exact free_append.mpr ⟨he, ih.after (by decide), by simp⟩

/-- **Without its remarks a printed list is its expressions with commas between.** -/
theorem strip_body {i : Item} {is : List Item} (h : ∀ j ∈ i :: is, j.Readable) :
    strip (printBody i is) = separated " ".toList "\n ".toList i.expr (is.map Item.expr) := by
  have hline : ∀ j ∈ is, '\n' :: dropLines false (" ,".toList ++ j.line) =
      "\n ".toList ++ ',' :: (j.expr ++ " ".toList) := by
    intro j hj
    rw [dropLines_append_notMem (by decide), (h j (List.mem_cons_of_mem i hj)).dropLines_line]
    rfl
  have hlines : dropLines false (printBody i is) =
      separated " ".toList "\n ".toList i.expr (is.map Item.expr) := by
    rw [printBody_eq_lines, dropLines_lines, (h i List.mem_cons_self).dropLines_line, separated, List.flatMap_map,
      List.flatMap_map, List.flatMap_congr hline]
    rfl
  rw [strip, hlines]
  refine dropBlocks_free (free_separated fun f hf => ?_)
  rw [← List.map_cons] at hf
  obtain ⟨j, hj, rfl⟩ := List.mem_map.mp hf
  exact (h j hj).noBlock

/-! ## 4. Reading a printed query -/

theorem forall₂_filterMap {α β : Type} {R : α → β → Prop} {f : α → Option β} : ∀ {l : List α},
    (∀ a ∈ l, ∃ b, f a = some b ∧ R a b) → List.Forall₂ R l (l.filterMap f)
  | [], _ => List.Forall₂.nil
  | a :: l, h => by
      obtain ⟨b, hb, hr⟩ := h a List.mem_cons_self
      rw [List.filterMap_cons_some hb]
      exact List.Forall₂.cons hr (forall₂_filterMap fun c hc => h c (List.mem_cons_of_mem a hc))

/-- The field is what the item's expression gives, with the item's remark as its comment. -/
def Item.Gives (i : Item) (f : Field) : Prop :=
  ∃ g, i.field? = some g ∧ f = g.withComment (String.ofList i.remark)

/-- **The pieces of a printed list are its expressions**, whatever the remarks are taken for. -/
theorem readList_body {i : Item} {is : List Item} (h : ∀ j ∈ i :: is, j.Readable)
    (t : Option RemarkTable) : readList t (printBody i is) =
      .ok ⟨(i :: is).length, (i :: is).filterMap fun j => Field.ofExpression? t j.expr⟩ := by
  have hexprs : ∀ f ∈ i.expr :: is.map Item.expr, Unbroken f ∧ trim f = f ∧ f ≠ [] := by
    rw [← List.map_cons]
    intro f hf
    obtain ⟨j, hj, rfl⟩ := List.mem_map.mp hf
    exact ⟨(h j hj).unbroken, (h j hj).trimmed, (h j hj).ne_nil⟩
  have hbal : Balanced (strip (printBody i is)) := by
    rw [strip_body h]
    exact balanced_separated (by decide) (by decide) fun f hf => (hexprs f hf).1.balanced
  rw [readList_balanced hbal, strip_body h, pieces_separated (by decide) (by decide) hexprs,
    ← List.map_cons, List.length_map, List.filterMap_map]
  rfl

theorem readClause_body {i : Item} {is : List Item} (h : ∀ j ∈ i :: is, j.Plain)
    (hd : (i :: is).Pairwise fun a b => words a.expr ≠ words b.expr) :
    ∃ n fs, readClause (printBody i is) = .ok ⟨n, fs⟩ ∧ List.Forall₂ Item.Gives (i :: is) fs := by
  refine ⟨_, _, readList_body (fun j hj => (h j hj).legible.readable) _, forall₂_filterMap fun j hj => ?_⟩
  obtain ⟨g, hg⟩ := Option.isSome_iff_exists.mp ((h j hj).legible.readable.isSome_ofExpression? none)
  refine ⟨g.withComment (String.ofList j.remark), ?_, g, hg, rfl⟩
  have hremark : (RemarkTable.ofClause (printBody i is)).get? (trim j.expr) =
      some (String.ofList j.remark) := by
    rw [(h j hj).trimmed]
    exact get?_body h hd hj
  rw [Field.ofExpression?_withComment hremark]
  exact congrArg (Option.map _) hg

/-- A query that starts in a word and ends in FROM and a word is trimmed. -/
theorem trim_query {s : List Char} (hne : s ≠ []) (h : ∀ c ∈ s.head?, isBlank c = false)
    (body : List Char) : trim (s ++ body ++ "\nFROM t".toList) = s ++ body ++ "\nFROM t".toList := by
  refine trim_eq_self (fun c hc => ?_) (fun c hc => ?_)
  · rw [List.append_assoc, List.head?_append_of_ne_nil _ hne] at hc
    exact h c hc
  · rw [List.getLast?_append_of_ne_nil _ (by decide)] at hc
    obtain rfl := Option.some.inj hc
    decide

theorem trim_printSelect (i : Item) (is : List Item) :
    trim (printSelect i is) = printSelect i is :=
  trim_query (s := "SELECT\n ".toList) (by decide) (fun c hc => Option.some.inj hc ▸ rfl) _

/-- **Reading a printed query gives its expressions as fields, in order, each with its remark as its
comment**, whatever the remarks hold. With fewer than two to the power of 31 parentheses no counter of
them overflows. -/
theorem parseFields_printSelect {i : Item} {is : List Item} (h : ∀ j ∈ i :: is, j.Plain)
    (hd : (i :: is).Pairwise fun a b => words a.expr ≠ words b.expr) :
    (∃ fs, parseFields (String.ofList (printSelect i is)) = .ok fs ∧
      List.Forall₂ Item.Gives (i :: is) fs) ∧
    (parens (printSelect i is) < counterLimit → CountersFit (String.ofList (printSelect i is))) := by
  obtain ⟨n, fs, hread, hfs⟩ := readClause_body h hd
  refine ⟨⟨fs, ?_, hfs⟩, fun hfew => countersFit_of_parens (by rwa [String.toList_ofList])⟩
  have hclause : selectFromClause (trim (String.ofList (printSelect i is)).toList) =
      some (printBody i is) := by
    rw [String.toList_ofList, trim_printSelect]
    exact selectFromClause_printSelect h
  refine parseFields_selectFrom hclause hread ?_
  rintro rfl
  cases hfs

/-- Remarks that hold keywords, marks, parentheses and commas are read back as they are. -/
theorem parseFields_printSelect_wild :
    (∀ j ∈ [Item.mk "f(a, b) AS x".toList "SELECT one, (FROM t -- /*".toList,
      Item.mk "d".toList "*/ from , )".toList], j.Plain) ∧
    parseFields "SELECT\n f(a, b) AS x -- SELECT one, (FROM t -- /*\n ,d -- */ from , )\nFROM t" =
      .ok [⟨"x", some "x", "SELECT one, (FROM t -- /*"⟩, ⟨"d", none, "*/ from , )"⟩] ∧
    List.Forall₂ Item.Gives [Item.mk "f(a, b) AS x".toList "SELECT one, (FROM t -- /*".toList,
      Item.mk "d".toList "*/ from , )".toList]
      [⟨"x", some "x", "SELECT one, (FROM t -- /*"⟩, ⟨"d", none, "*/ from , )"⟩] := by
  have h : ∀ j ∈ [Item.mk "f(a, b) AS x".toList "SELECT one, (FROM t -- /*".toList,
      Item.mk "d".toList "*/ from , )".toList], j.Plain := by
    rw [List.forall_mem_cons, List.forall_mem_singleton]
    constructor
    · exact ⟨by decide, by decide, by decide, ⟨by decide, by decide⟩, by decide, by decide,
        by decide +kernel, by decide +kernel, by decide, by decide, by decide⟩
    · exact ⟨by decide, by decide, by decide, ⟨by decide, by decide⟩, by decide, by decide,
        by decide +kernel, by decide +kernel, by decide, by decide, by decide⟩
  have hread : parseFields
      "SELECT\n f(a, b) AS x -- SELECT one, (FROM t -- /*\n ,d -- */ from , )\nFROM t" =
      .ok [⟨"x", some "x", "SELECT one, (FROM t -- /*"⟩, ⟨"d", none, "*/ from , )"⟩] := rfl
  obtain ⟨⟨fs, hfs, hgives⟩, -⟩ := parseFields_printSelect h (by decide)
  obtain rfl := Except.ok.inj (hfs.symm.trans hread)
  exact ⟨h, hread, hgives⟩

end TableDraft.Select

import Mathlib.Data.Finset.Card
import TableDraft.Proofs.Select.RemarkLookup
import TableDraft.Proofs.Text.Words

/-!
# Histories of remarks

A table of remarks is filled from the lines of a select list and then by hand. What it answers depends on
the history of what was put in alone:

* `Noted`, `NotesOf`: what one line of a list puts in, and what its lines put in together, which is one
  history (`notesOf_iff`);
* **`get?_insertAll_iff`: the table answers with the last remark under the words of an expression**, by
  `get?_insert` for one step; if those words are there once, with the remark on them
  (`get?_insertAll_of_pairwise`);
* `size_insertAll`: it has as many entries as there are expressions with different words;
* `mirrors_byText`: **a hash map whose keys are texts, the words with one space between, gives the same
  answers**, as different words make different texts;
* `last_remark_stays` puts these together.
-/

namespace TableDraft.Select.RemarkTable

open Text Remark

/-! ## 1. What a line puts in -/

/-- The expression that a remark behind the text is about: of the pieces of the text without its remarks,
the last one that is not empty. -/
def LastPiece (before e : List Char) : Prop :=
  ∃ front back, pieces (strip before) = front ++ e :: back ∧ e ≠ [] ∧ ∀ p ∈ back, p = []

/-- The line has the remark on the expression: more than blanks follows its first mark, and is the remark;
and before that mark is the expression. -/
def Noted (line e : List Char) (remark : String) : Prop :=
  ∃ before after, line = before ++ '-' :: '-' :: after ∧ Free '-' '-' (before ++ ['-']) ∧
    LastPiece before e ∧ isBlankText after = false ∧ remark = String.ofList (trim after)

/-- What the lines put in, in order; a line without a remark, or with a remark on nothing, puts nothing
in. -/
inductive NotesOf : List (List Char) → List (List Char × String) → Prop where
  | nil : NotesOf [] []
  | noted {line e : List Char} {remark : String} {lines : List (List Char)}
      {h : List (List Char × String)} :
      Noted line e remark → NotesOf lines h → NotesOf (line :: lines) ((e, remark) :: h)
  | silent {line : List Char} {lines : List (List Char)} {h : List (List Char × String)} :
      (∀ e remark, ¬ Noted line e remark) → NotesOf lines h → NotesOf (line :: lines) h

/-- **The mark at which a line is cut is the first one.** -/
theorem cutAtMark_eq_some_iff {s before after : List Char} : cutAtMark s = some (before, after) ↔
    s = before ++ '-' :: '-' :: after ∧ Free '-' '-' (before ++ ['-']) := by
  constructor
  · intro h
    induction s generalizing before with
    | nil => cases h
    | cons c s ih =>
        rw [cutAtMark] at h
        split at h
        · rename_i hc
          rw [Bool.and_eq_true, beq_iff_eq, beq_iff_eq] at hc
          obtain ⟨rfl, rfl⟩ := Prod.mk.inj (Option.some.inj h)
          obtain ⟨rfl, hs⟩ := hc
          rw [List.nil_append, List.nil_append, ← List.cons_head?_tail hs]
          exact ⟨rfl, by decide⟩
        · rename_i hc
          rw [Bool.and_eq_true, beq_iff_eq, beq_iff_eq] at hc
          obtain ⟨⟨p, a⟩, hcut, hp⟩ := Option.map_eq_some_iff.mp h
          obtain ⟨rfl, rfl⟩ := Prod.mk.inj hp
          obtain ⟨rfl, hfree⟩ := ih hcut
          refine ⟨rfl, free_cons.mpr ⟨?_, hfree⟩⟩
          cases p <;> exact hc
  · intro h
    obtain ⟨rfl, hfree⟩ := h
    exact cutAtMark_append after hfree

theorem subject?_eq_some_iff {before e : List Char} :
    subject? before = some e ↔ LastPiece before e := by
  rw [subject?, List.find?_eq_some_iff_append]
  constructor
  · intro h
    obtain ⟨he, as, bs, hrev, has⟩ := h
    refine ⟨bs.reverse, as.reverse, ?_, by simpa using he, fun p hp => ?_⟩
    · rw [← List.reverse_reverse (pieces (strip before)), hrev, List.reverse_append,
        List.reverse_cons, List.append_assoc, List.singleton_append]
    · simpa using has p (List.mem_reverse.mp hp)
  · intro h
    obtain ⟨front, back, hpieces, he, hback⟩ := h
    refine ⟨by simpa using he, back.reverse, front.reverse, ?_, fun p hp => ?_⟩
    · rw [hpieces, List.reverse_append, List.reverse_cons, List.append_assoc, List.singleton_append]
    · simpa using hback p (List.mem_reverse.mp hp)

/-- **What is read from a line is what it has noted.** -/
theorem entryOfLine?_eq_some_iff {line e : List Char} {remark : String} :
    entryOfLine? line = some (e, remark) ↔ Noted line e remark := by
  constructor
  · intro h
    unfold entryOfLine? at h
    split at h
    · cases h
    · rename_i before after hcut
      split at h
      · cases h
      · rename_i hblank
        obtain ⟨e', he, hp⟩ := Option.map_eq_some_iff.mp h
        obtain ⟨rfl, rfl⟩ := Prod.mk.inj hp
        obtain ⟨hline, hfree⟩ := cutAtMark_eq_some_iff.mp hcut
        exact ⟨before, after, hline, hfree, subject?_eq_some_iff.mp he, Bool.not_eq_true _ ▸ hblank, rfl⟩
  · intro h
    obtain ⟨before, after, hline, hfree, he, hblank, rfl⟩ := h
    rw [entryOfLine?, cutAtMark_eq_some_iff.mpr ⟨hline, hfree⟩]
    simp [hblank, subject?_eq_some_iff.mpr he]

/-- **The lines put in one history**, the one that is read from them. -/
theorem notesOf_iff {lines : List (List Char)} {h : List (List Char × String)} :
    NotesOf lines h ↔ h = lines.filterMap entryOfLine? := by
  constructor
  · intro hnotes
    induction hnotes with
    | nil => rfl
    | noted hnoted _ ih => rw [List.filterMap_cons_some (entryOfLine?_eq_some_iff.mpr hnoted), ih]
    | @silent line lines h hsilent _ ih =>
        have hnone : entryOfLine? line = none := by
          rw [Option.eq_none_iff_forall_ne_some]
          intro p hp
          exact hsilent p.1 p.2 (entryOfLine?_eq_some_iff.mp hp)
        rw [List.filterMap_cons_none hnone, ih]
  · intro heq
    subst heq
    induction lines with
    | nil => exact .nil
    | cons line lines ih =>
        cases hline : entryOfLine? line with
        | none =>
            rw [List.filterMap_cons_none hline]
            refine .silent (fun e remark hnoted => ?_) ih
            rw [entryOfLine?_eq_some_iff.mpr hnoted] at hline
            cases hline
        | some p =>
            rw [List.filterMap_cons_some hline]
            exact .noted (entryOfLine?_eq_some_iff.mp hline) ih

/-! ## 2. Lines -/

/-- A line without a carriage return at its end. -/
def dropReturn (line : List Char) : List Char :=
  if line.getLast? = some '\r' then line.dropLast else line

/-- The lines of a text. A line ends in a line feed, or in a carriage return and a line feed; behind the
last one there is another line unless it is empty. -/
def linesOf (s : List Char) : List (List Char) :=
  (s.splitOn '\n').dropLast.map dropReturn ++
    (s.splitOn '\n').getLast?.toList.filter fun l => !l.isEmpty

theorem cutAtMark_append_blank {y : List Char} (hy : isBlankText y = true) (line : List Char) :
    cutAtMark (line ++ y) = (cutAtMark line).map fun p => (p.1, p.2 ++ y) := by
  have hdash : '-' ∉ y := notMem_of_blank hy (by decide)
  cases h : cutAtMark line with
  | none =>
      have hfree : Free '-' '-' (line ++ y) :=
        free_append.mpr ⟨cutAtMark_eq_none_iff.mp h, free_of_notMem hdash,
          fun hends => hdash (List.mem_of_head? hends.2)⟩
      rw [cutAtMark_eq_none_iff.mpr hfree]
      rfl
  | some p =>
      obtain ⟨hline, hfree⟩ := cutAtMark_eq_some_iff.mp h
      have hsplit : line ++ y = p.1 ++ '-' :: '-' :: (p.2 ++ y) := by
        rw [hline, List.append_assoc]
        rfl
      exact cutAtMark_eq_some_iff.mpr ⟨hsplit, hfree⟩

/-- Blanks at the end of a line do not show, a carriage return among them. -/
theorem entryOfLine?_append_blank {y : List Char} (hy : isBlankText y = true) (line : List Char) :
    entryOfLine? (line ++ y) = entryOfLine? line := by
  rw [entryOfLine?, entryOfLine?, cutAtMark_append_blank hy]
  cases cutAtMark line with
  | none => rfl
  | some p => simp only [Option.map_some, isBlankText_append, hy, Bool.and_true, trim_append_blank hy]

theorem entryOfLine?_dropReturn (line : List Char) :
    entryOfLine? (dropReturn line) = entryOfLine? line := by
  unfold dropReturn
  split
  · rename_i h
    have hline : line = line.dropLast ++ ['\r'] := (List.dropLast_append_getLast? '\r' h).symm
    conv_rhs => rw [hline]
    rw [entryOfLine?_append_blank (by decide)]
  · rfl

/-- **What a list puts in is what its lines put in.** -/
theorem notes_eq (clause : List Char) : notes clause = (linesOf clause).filterMap entryOfLine? := by
  obtain ⟨ls, l, h⟩ := (List.eq_nil_or_concat' (clause.splitOn '\n')).resolve_left
    (List.splitOn_ne_nil '\n' clause)
  have hreturn : (ls.map dropReturn).filterMap entryOfLine? = ls.filterMap entryOfLine? := by
    rw [List.filterMap_map]
    exact List.filterMap_congr fun line _ => entryOfLine?_dropReturn line
  rw [notes, linesOf, h, List.dropLast_concat, List.getLast?_concat, List.filterMap_append,
    List.filterMap_append, hreturn]
  cases l <;> rfl

/-! ## 3. The last remark -/

/-- Of the remarks in a history this one is the last under the words. -/
def LastUnder (ws : List (List Char)) (remark : String) (h : List (List Char × String)) : Prop :=
  ∃ before e after, h = before ++ (e, remark) :: after ∧ words e = ws ∧ ∀ f ∈ after, words f.1 ≠ ws

theorem not_lastUnder_nil {ws : List (List Char)} {remark : String} : ¬ LastUnder ws remark [] := by
  intro h
  obtain ⟨before, e, after, hnil, -⟩ := h
  cases before <;> cases hnil

/-- One more remark is the last one under its words, and changes nothing under others. -/
theorem lastUnder_concat {ws : List (List Char)} {remark : String} {h : List (List Char × String)}
    {e : List Char × String} : LastUnder ws remark (h ++ [e]) ↔
      if ws = words e.1 then remark = e.2 else LastUnder ws remark h := by
  split
  · rename_i hws
    constructor
    · intro hlast
      obtain ⟨before, x, after, hsplit, -, hafter⟩ := hlast
      rcases List.eq_nil_or_concat' after with rfl | ⟨after, f, rfl⟩
      · obtain ⟨-, hx⟩ := List.append_inj' hsplit rfl
        rw [List.singleton_inj.mp hx]
      · -- then the remark that was put in last would be behind
        rw [← List.cons_append, ← List.append_assoc] at hsplit
        obtain ⟨-, hf⟩ := List.append_inj' hsplit rfl
        rw [← List.singleton_inj.mp hf] at hafter
        exact absurd hws.symm (hafter e (List.mem_append_right _ List.mem_cons_self))
    · intro heq
      exact ⟨h, e.1, [], by rw [heq], hws.symm, nofun⟩
  · rename_i hws
    constructor
    · intro hlast
      obtain ⟨before, x, after, hsplit, hx, hafter⟩ := hlast
      rcases List.eq_nil_or_concat' after with rfl | ⟨after, f, rfl⟩
      · obtain ⟨-, he⟩ := List.append_inj' hsplit rfl
        rw [List.singleton_inj.mp he] at hws
        exact absurd hx.symm hws
      · rw [← List.cons_append, ← List.append_assoc] at hsplit
        obtain ⟨rfl, -⟩ := List.append_inj' hsplit rfl
        exact ⟨before, x, after, rfl, hx, fun g hg => hafter g (List.mem_append_left _ hg)⟩
    · intro hlast
      obtain ⟨before, x, after, rfl, hx, hafter⟩ := hlast
      refine ⟨before, x, after ++ [e], by rw [List.append_assoc, List.cons_append], hx, ?_⟩
      exact List.forall_mem_append.mpr ⟨hafter, List.forall_mem_singleton.mpr (Ne.symm hws)⟩

theorem insertAll_append (t : RemarkTable) (h h' : List (List Char × String)) :
    t.insertAll (h ++ h') = (t.insertAll h).insertAll h' :=
  List.foldl_append

theorem insertAll_concat (t : RemarkTable) (h : List (List Char × String)) (e : List Char × String) :
    t.insertAll (h ++ [e]) = (t.insertAll h).insert e.1 e.2 :=
  insertAll_append t h [e]

/-- **The table answers with the last remark under the words of an expression.** -/
theorem get?_insertAll_iff {x : List Char} {remark : String} (h : List (List Char × String)) :
    (empty.insertAll h).get? x = some remark ↔ LastUnder (words x) remark h := by
  induction h using List.reverseRecOn with
  | nil => exact iff_of_false (fun hget => nomatch hget) not_lastUnder_nil
  | append_singleton h e ih =>
      rw [insertAll_concat, get?_insert, lastUnder_concat]
      split
      · rw [Option.some.injEq, eq_comm]
      · exact ih

theorem get?_insertAll_eq_none_iff {x : List Char} (h : List (List Char × String)) :
    (empty.insertAll h).get? x = none ↔ ∀ e ∈ h, words e.1 ≠ words x := by
  induction h using List.reverseRecOn with
  | nil => exact iff_of_true rfl nofun
  | append_singleton h e ih =>
      rw [insertAll_concat, get?_insert, List.forall_mem_append, List.forall_mem_singleton]
      split
      · rename_i hx
        exact iff_of_false (Option.some_ne_none _) fun hall => hall.2 hx.symm
      · rename_i hx
        rw [ih, and_iff_left (Ne.symm hx)]

/-- **Of remarks on expressions with distinct words, each is found again.** -/
theorem get?_insertAll_of_pairwise {x : List Char} {remark : String} {h : List (List Char × String)}
    (hp : h.Pairwise fun a b => words a.1 ≠ words b.1) (hm : (x, remark) ∈ h) :
    (empty.insertAll h).get? x = some remark := by
  obtain ⟨before, after, rfl⟩ := List.append_of_mem hm
  obtain ⟨-, hrest, -⟩ := List.pairwise_append.mp hp
  obtain ⟨hne, -⟩ := List.pairwise_cons.mp hrest
  exact (get?_insertAll_iff _).mpr ⟨before, x, after, rfl, rfl, fun f hf => (hne f hf).symm⟩

/-! ## 4. The number of entries -/

/-- The words under which the table has remarks. -/
def keys (t : RemarkTable) : List (List (List Char)) := t.entries.map Prod.fst

theorem size_eq (t : RemarkTable) : t.size = t.keys.length := (List.length_map _).symm

theorem keys_insert (t : RemarkTable) (e : List Char) (remark : String) :
    (t.insert e remark).keys = words e :: t.keys.filter (· != words e) := by
  unfold keys insert
  rw [List.map_cons, List.filter_map]
  rfl

theorem mem_keys_insert {t : RemarkTable} {e : List Char} {remark : String} {ws : List (List Char)} :
    ws ∈ (t.insert e remark).keys ↔ ws = words e ∨ ws ∈ t.keys := by
  rw [keys_insert, List.mem_cons, List.mem_filter, bne_iff_ne]
  by_cases h : ws = words e <;> simp [h]

theorem nodup_keys_insert {t : RemarkTable} (h : t.keys.Nodup) (e : List Char) (remark : String) :
    (t.insert e remark).keys.Nodup := by
  rw [keys_insert, List.nodup_cons]
  exact ⟨by simp, h.filter _⟩

theorem size_insert {t : RemarkTable} (h : t.keys.Nodup) (e : List Char) (remark : String) :
    (t.insert e remark).size = if words e ∈ t.keys then t.size else t.size + 1 := by
  rw [size_eq, size_eq, keys_insert, List.length_cons, ← h.erase_eq_filter]
  split
  · rename_i hmem
    have hpos : 0 < t.keys.length := List.length_pos_of_mem hmem
    rw [List.length_erase_of_mem hmem]
    omega
  · rename_i hmem
    rw [List.erase_of_not_mem hmem]

theorem isSome_get?_iff {t : RemarkTable} {x : List Char} :
    (t.get? x).isSome = true ↔ words x ∈ t.keys := by
  unfold get? keys
  induction t.entries with
  | nil => simp
  | cons e l ih =>
      rw [List.lookup_cons, List.map_cons, List.mem_cons]
      by_cases h : words x = e.1
      · simp [h]
      · simp [h, beq_false_of_ne h, ih]

/-- **No words are twice among the keys, and they are the words of what was put in.** -/
theorem keys_insertAll (h : List (List Char × String)) : (empty.insertAll h).keys.Nodup ∧
    ∀ ws, ws ∈ (empty.insertAll h).keys ↔ ∃ e ∈ h, words e.1 = ws := by
  induction h using List.reverseRecOn with
  | nil => exact ⟨List.nodup_nil, fun ws => iff_of_false List.not_mem_nil (by simp)⟩
  | append_singleton h e ih =>
      rw [insertAll_concat]
      refine ⟨nodup_keys_insert ih.1 e.1 e.2, fun ws => ?_⟩
      rw [mem_keys_insert, ih.2]
      constructor
      · intro hws
        rcases hws with rfl | ⟨f, hf, hws⟩
        · exact ⟨e, List.mem_append_right h List.mem_cons_self, rfl⟩
        · exact ⟨f, List.mem_append_left [e] hf, hws⟩
      · intro hws
        obtain ⟨f, hf, hws⟩ := hws
        rcases List.mem_append.mp hf with hf | hf
        · exact Or.inr ⟨f, hf, hws⟩
        · rw [List.mem_singleton.mp hf] at hws
          exact Or.inl hws.symm

/-- **The table has as many entries as there are expressions with different words.** -/
theorem size_insertAll (h : List (List Char × String)) :
    (empty.insertAll h).size = (h.map fun e => words e.1).toFinset.card := by
  obtain ⟨hnodup, hmem⟩ := keys_insertAll h
  rw [size_eq, ← List.toFinset_card_of_nodup hnodup]
  congr 1
  ext ws
  rw [List.mem_toFinset, hmem, List.mem_toFinset, List.mem_map]

/-! ## 5. Keys that are texts -/

/-- The text for the words of an expression. -/
def textKey (e : List Char) : String := String.ofList (unspaced e)

theorem textKey_eq_iff {x y : List Char} : textKey x = textKey y ↔ words x = words y := by
  rw [textKey, textKey, String.ofList_inj, unspaced_eq_iff]

/-- A history of remarks in a hash map with texts as its keys. -/
def byText (h : List (List Char × String)) : Std.HashMap String String :=
  h.foldl (fun m e => m.insert (textKey e.1) e.2) ∅

theorem byText_concat (h : List (List Char × String)) (e : List Char × String) :
    byText (h ++ [e]) = (byText h).insert (textKey e.1) e.2 := by
  rw [byText, List.foldl_append]
  rfl

/-- The table and the map give the same answers and are of one size. -/
structure Mirrors (t : RemarkTable) (m : Std.HashMap String String) : Prop where
  get : ∀ x, m[textKey x]? = t.get? x
  size : m.size = t.size

/-- Putting a remark into both keeps them alike, as the text of other words is another text. -/
theorem Mirrors.insert {t : RemarkTable} {m : Std.HashMap String String} (h : Mirrors t m)
    (ht : t.keys.Nodup) (e : List Char) (remark : String) :
    Mirrors (t.insert e remark) (m.insert (textKey e) remark) := by
  refine ⟨fun x => ?_, ?_⟩
  · rw [Std.HashMap.getElem?_insert, get?_insert, h.get]
    by_cases hx : words x = words e
    · rw [if_pos hx, if_pos (beq_iff_eq.mpr (textKey_eq_iff.mpr hx.symm))]
    · rw [if_neg hx, if_neg fun heq => hx (textKey_eq_iff.mp (beq_iff_eq.mp heq)).symm]
  · have hmem : textKey e ∈ m ↔ words e ∈ t.keys := by
      rw [← Std.HashMap.isSome_getElem?_iff_mem, h.get, isSome_get?_iff]
    rw [Std.HashMap.size_insert, size_insert ht, h.size]
    simp only [hmem]

/-- **A hash map with texts as its keys gives the same answers after every history.** -/
theorem mirrors_byText (h : List (List Char × String)) : Mirrors (empty.insertAll h) (byText h) := by
  induction h using List.reverseRecOn with
  | nil => exact ⟨fun x => Std.HashMap.getElem?_empty, Std.HashMap.size_empty⟩
  | append_singleton h e ih =>
      rw [insertAll_concat, byText_concat]
      exact ih.insert (keys_insertAll h).1 e.1 e.2

/-! ## 6. Every history -/

/-- **The last remark stays.** After a select list and any remarks put in by hand, the table answers with
the remark that came last under the words of the expression, and with none if there is none; it has an entry
for each expression with words of its own; and so does a hash map under the text of the words. -/
theorem last_remark_stays (clause expr : List Char) (later : List (List Char × String)) :
    ∃ noted, NotesOf (linesOf clause) noted ∧
      (∀ remark, ((ofClause clause).insertAll later).get? expr = some remark ↔
        LastUnder (words expr) remark (noted ++ later)) ∧
      (((ofClause clause).insertAll later).get? expr = none ↔
        ∀ e ∈ noted ++ later, words e.1 ≠ words expr) ∧
      ((ofClause clause).insertAll later).size =
        ((noted ++ later).map fun e => words e.1).toFinset.card ∧
      Mirrors ((ofClause clause).insertAll later) (byText (noted ++ later)) := by
  have htable : (ofClause clause).insertAll later = empty.insertAll (notes clause ++ later) := by
    rw [ofClause_eq, insertAll_append]
  refine ⟨notes clause, notesOf_iff.mpr (notes_eq clause), ?_⟩
  rw [htable]
  exact ⟨fun remark => get?_insertAll_iff _, get?_insertAll_eq_none_iff _, size_insertAll _,
    mirrors_byText _⟩

end TableDraft.Select.RemarkTable

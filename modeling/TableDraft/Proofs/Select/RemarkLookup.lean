import TableDraft.Proofs.Basic
import TableDraft.Proofs.Select.ListPieces
import TableDraft.Proofs.Select.Strip
import TableDraft.Select.RemarkTable

/-!
# Looking up remarks

* `get?_insert`: a table answers with the remark that was put in last under the same words;
* `cutAtMark_append`, `cutAtMark_eq_none_iff`: a line is cut at its first `--`, if it has one;
* `subject?_expr`, `subject?_comma`: the expression a remark is about, behind a comma or not;
* `entryOfLine?_printed`: a line `e -- c` has the remark `c` on the expression `e`;
* `notes`, `ofClause_lines`, `ofClause_free`: the table of a list is made line by line, and **a list
  without line remarks has the empty table**.
-/

namespace TableDraft.Select.RemarkTable

open Text Remark

/-! ## 1. Insertion -/

theorem get?_insert (t : RemarkTable) (e x : List Char) (r : String) :
    (t.insert e r).get? x = if words x = words e then some r else t.get? x :=
  lookup_replaced _ _ _ _

/-- Puts remarks in one after another. -/
def insertAll (t : RemarkTable) (l : List (List Char × String)) : RemarkTable :=
  l.foldl (fun t e => t.insert e.1 e.2) t

/-! ## 2. One line -/

theorem cutAtMark_append (t : List Char) : ∀ {s : List Char}, Free '-' '-' (s ++ ['-']) →
    cutAtMark (s ++ '-' :: '-' :: t) = some (s, t)
  | [], _ => rfl
  | c :: s, h => by
      rw [List.cons_append, free_cons] at h
      have hhead : (s ++ '-' :: '-' :: t).head? = (s ++ ['-']).head? := by
        cases s <;> rfl
      have hc : ¬ (c == '-' && (s ++ '-' :: '-' :: t).head? == some '-') = true := by
        rw [hhead, Bool.and_eq_true, beq_iff_eq, beq_iff_eq]
        exact h.1
      rw [List.cons_append, cutAtMark, if_neg hc, cutAtMark_append t h.2]
      rfl

theorem cutAtMark_eq_none_iff : ∀ {s : List Char}, cutAtMark s = none ↔ Free '-' '-' s
  | [] => iff_of_true rfl free_nil
  | c :: s => by
      rw [cutAtMark, free_cons, ← cutAtMark_eq_none_iff]
      split
      · rename_i hc
        rw [Bool.and_eq_true, beq_iff_eq, beq_iff_eq] at hc
        simp [hc]
      · rename_i hc
        rw [Bool.and_eq_true, beq_iff_eq, beq_iff_eq] at hc
        rw [Option.map_eq_none_iff]
        exact ⟨fun h => ⟨hc, h⟩, fun h => h.2⟩

/-- An expression with blanks after it is what a remark behind it is about. -/
theorem subject?_expr {e y : List Char} (he : Unbroken e) (ht : trim e = e) (hne : e ≠ [])
    (hy : isBlankText y = true) (hl : Free '-' '-' (e ++ y)) (hb : Free '/' '*' (e ++ y)) :
    subject? (e ++ y) = some e := by
  have hp : pieces (separated y [] e []) = [e] := by
    refine pieces_separated hy isBlankText_nil fun f hf => ?_
    rw [List.mem_singleton.mp hf]
    exact ⟨he, ht, hne⟩
  have hs : separated y [] e [] = e ++ y := by
    simp [separated]
  rw [hs] at hp
  rw [subject?, strip_free hl hb, hp]
  simp [hne]

/-- **A comma before the expression does not change what a remark is about.** -/
theorem subject?_comma {x s : List Char} (hx : isBlankText x = true) (hl : Free '-' '-' s)
    (hb : Free '/' '*' s) : subject? (x ++ ',' :: s) = subject? s := by
  have hfree : ∀ a b, a ≠ ',' → isBlank a = false → Free a b s → Free a b (x ++ ',' :: s) := by
    intro a b hcomma hblank h
    have hnot : a ∉ x ++ [','] := by
      rw [List.mem_append, List.mem_singleton, not_or]
      refine ⟨fun hm => ?_, hcomma⟩
      rw [isBlankText_iff.mp hx a hm] at hblank
      cases hblank
    rw [← List.singleton_append, ← List.append_assoc]
    exact h.after hnot
  have hcut : pieces (x ++ ',' :: s) = dropEmptyLast ([] :: (cut 0 s).map trim) := by
    rw [pieces, cut_blank_append hx, cut_comma, List.modifyHead_cons, List.map_cons, List.append_nil,
      trim_of_blank hx]
  rw [subject?, subject?, strip_free hl hb,
    strip_free (hfree '-' '-' (by decide) (by decide) hl)
      (hfree '/' '*' (by decide) (by decide) hb), hcut, pieces]
  cases h : (cut 0 s).map trim with
  | nil => rfl
  | cons p ps =>
      rw [dropEmptyLast, List.reverse_cons, List.find?_append]
      simp

/-- **A line `e -- c` has the remark `c` on the expression `e`.** -/
theorem entryOfLine?_printed {s e c : List Char} (hs : Free '-' '-' (s ++ [' ']))
    (he : subject? (s ++ [' ']) = some e) (hc : trim c = c) (hne : c ≠ []) :
    entryOfLine? (s ++ " -- ".toList ++ c) = some (e, String.ofList c) := by
  have hfree : Free '-' '-' ((s ++ [' ']) ++ ['-']) :=
    free_append.mpr ⟨hs, free_cons.mpr ⟨by simp, free_nil⟩, by simp⟩
  have hsplit : s ++ " -- ".toList ++ c = (s ++ [' ']) ++ '-' :: '-' :: (' ' :: c) := by
    simp
  have hafter : isBlankText (' ' :: c) = false := by
    rw [← Bool.not_eq_true, ← trim_eq_nil_iff, show ' ' :: c = [' '] ++ c from rfl,
      trim_blank_append rfl, hc]
    exact hne
  have htrim : trim (' ' :: c) = c := by
    rw [show ' ' :: c = [' '] ++ c from rfl, trim_blank_append rfl, hc]
  rw [hsplit, entryOfLine?, cutAtMark_append _ hfree]
  simp [hafter, he, htrim]

theorem entryOfLine?_free {s : List Char} (h : Free '-' '-' s) : entryOfLine? s = none := by
  rw [entryOfLine?, cutAtMark_eq_none_iff.mpr h]

/-! ## 3. All lines -/

theorem splitOn_lines : ∀ {l : List Char} {ls : List (List Char)}, (∀ x ∈ l :: ls, '\n' ∉ x) →
    (l ++ ls.flatMap ('\n' :: ·)).splitOn '\n' = l :: ls
  | l, [], h => by
      rw [List.flatMap_nil, List.append_nil, List.splitOn_eq_singleton (h l List.mem_cons_self)]
  | l, m :: ls, h => by
      have ih := splitOn_lines fun x hx => h x (List.mem_cons_of_mem l hx)
      rw [List.flatMap_cons, List.cons_append, List.splitOn_append_cons_self, ih,
        List.splitOn_eq_singleton (h l List.mem_cons_self), List.singleton_append]

theorem mem_intersperse (sep : List Char) {x : List Char} :
    ∀ {ls : List (List Char)}, x ∈ ls → x ∈ ls.intersperse sep
  | [_], h => h
  | l :: m :: ls, h => by
      rw [List.intersperse_cons_cons]
      rcases List.mem_cons.mp h with rfl | h
      · exact List.mem_cons_self
      · exact List.mem_cons_of_mem _ (List.mem_cons_of_mem _ (mem_intersperse sep h))

/-- The remarks on the lines of a list, each with the expression that it is about, in order. -/
def notes (clause : List Char) : List (List Char × String) :=
  (clause.splitOn '\n').filterMap entryOfLine?

theorem ofClause_eq (clause : List Char) : ofClause clause = empty.insertAll (notes clause) := rfl

theorem notes_append_newline (s t : List Char) : notes (s ++ '\n' :: t) = notes s ++ notes t := by
  rw [notes, List.splitOn_append_cons_self, List.filterMap_append]
  rfl

theorem notes_oneLine {l : List Char} (h : '\n' ∉ l) : notes l = (entryOfLine? l).toList := by
  rw [notes, List.splitOn_eq_singleton h]
  cases hl : entryOfLine? l with
  | none => rw [List.filterMap_cons_none hl]; rfl
  | some e => rw [List.filterMap_cons_some hl]; rfl

theorem notes_free {s : List Char} (h : Free '-' '-' s) : notes s = [] := by
  rw [notes, List.filterMap_eq_nil_iff]
  intro l hl
  refine entryOfLine?_free (h.mono ?_)
  have hin := List.infix_of_mem_flatten (mem_intersperse ['\n'] hl)
  have hs : ['\n'].intercalate (s.splitOn '\n') = s := List.intercalate_splitOn '\n'
  rw [← hs]
  exact hin

/-- The table of a list is made of the remarks on its lines. -/
theorem ofClause_lines {l : List Char} {ls : List (List Char)} (h : ∀ x ∈ l :: ls, '\n' ∉ x) :
    ofClause (l ++ ls.flatMap ('\n' :: ·)) = empty.insertAll ((l :: ls).filterMap entryOfLine?) := by
  rw [ofClause_eq, notes, splitOn_lines h]

/-- **A list without line remarks has the empty table.** -/
theorem ofClause_free {s : List Char} (h : Free '-' '-' s) : ofClause s = empty := by
  rw [ofClause_eq, notes_free h]
  rfl

end TableDraft.Select.RemarkTable

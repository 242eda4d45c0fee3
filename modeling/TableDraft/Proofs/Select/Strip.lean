import Mathlib.Data.List.Infix
import TableDraft.Proofs.Text.Trimming
import TableDraft.Select.Remark

/-!
# What stripping remarks leaves

`strip` takes line remarks out and then closed blocks. Here is how each pass goes through a text that
is put together from parts:

* **a line break ends a line remark**, so lines are stripped one by one
  (`dropLines_append_newline`);
* a part without a mark stays as it is, whatever comes after it (`dropLines_append_free`,
  `dropBlocks_append_free`), and so a text without marks is left alone (`strip_free`);
* text in which no block can close stays behind what a block may have taken
  (`dropBlocks_append_plain`);
* stripping only takes away (`strip_sublist`).

`Free a b s` says that `a` is nowhere followed by `b`; the marks `--` and `/*` are such pairs.
-/

namespace TableDraft.Select.Remark

open Text

/-! ## 1. Pairs of neighbours -/

/-- The first character is nowhere in the text followed by the second. -/
def Free (a b : Char) (s : List Char) : Prop := ¬ [a, b] <:+: s

variable {a b : Char}

instance decidableFree (s : List Char) : Decidable (Free a b s) :=
  inferInstanceAs (Decidable (¬ [a, b] <:+: s))

theorem free_nil : Free a b [] := fun h => by simpa using h.length_le

theorem free_cons {c : Char} {s : List Char} :
    Free a b (c :: s) ↔ ¬ (c = a ∧ s.head? = some b) ∧ Free a b s := by
  unfold Free
  rw [List.infix_cons_iff, not_or, List.cons_prefix_cons]
  refine and_congr_left fun _ => not_congr ?_
  rw [eq_comm (a := a)]
  refine and_congr_right fun _ => ?_
  cases s with
  | nil => simp
  | cons d s => simp [List.cons_prefix_cons, eq_comm]

theorem free_append {t : List Char} : ∀ {s : List Char},
    Free a b (s ++ t) ↔ Free a b s ∧ Free a b t ∧ ¬ (s.getLast? = some a ∧ t.head? = some b)
  | [] => by simp [free_nil]
  | c :: s => by
      rw [List.cons_append, free_cons, free_append, free_cons]
      cases s with
      | nil => simp [free_nil, and_comm]
      | cons d s => simp [and_assoc]

theorem free_of_notMem {s : List Char} (h : a ∉ s) : Free a b s :=
  fun hin => h (hin.subset List.mem_cons_self)

theorem Free.after {x s : List Char} (hs : Free a b s) (hx : a ∉ x) : Free a b (x ++ s) :=
  free_append.mpr ⟨free_of_notMem hx, hs, fun h => hx (List.mem_of_getLast? h.1)⟩

/-- Of a text that follows only the first character is met. -/
theorem head?_append_head (s t : List Char) : (s ++ t.head?.toList).head? = (s ++ t).head? := by
  cases s with
  | nil => cases t <;> rfl
  | cons c s => rfl

theorem Free.mono {s t : List Char} (h : Free a b t) (hst : s <:+: t) : Free a b s :=
  fun hin => h (hin.trans hst)

/-! ## 2. Line remarks -/

/-- **A line break ends a line remark**: the text after it is stripped on its own. -/
theorem dropLines_append_newline : ∀ (inRemark : Bool) (s t : List Char),
    dropLines inRemark (s ++ '\n' :: t) = dropLines inRemark s ++ '\n' :: dropLines false t
  | true, [], t => rfl
  | false, [], t => rfl
  | true, c :: s, t => by
      simp only [List.cons_append, dropLines, if_true]
      split
      · rw [dropLines_append_newline false s t]
        rfl
      · exact dropLines_append_newline true s t
  | false, c :: s, t => by
      have hhead : ((s ++ '\n' :: t).head? == some '-') = (s.head? == some '-') := by
        cases s <;> rfl
      simp only [List.cons_append, dropLines, Bool.false_eq_true, if_false, hhead]
      split
      · exact dropLines_append_newline true s t
      · rw [dropLines_append_newline false s t]
        rfl

/-- Lines are stripped one by one. -/
theorem dropLines_lines : ∀ (l : List Char) (ls : List (List Char)),
    dropLines false (l ++ ls.flatMap ('\n' :: ·)) =
      dropLines false l ++ ls.flatMap fun m => '\n' :: dropLines false m
  | l, [] => by simp
  | l, m :: ls => by
      rw [List.flatMap_cons, List.cons_append, dropLines_append_newline, dropLines_lines m ls]
      rfl

/-- A line remark takes all of its line. -/
theorem dropLines_inRemark : ∀ {s : List Char}, '\n' ∉ s → dropLines true s = []
  | [], _ => rfl
  | c :: s, h => by
      rw [List.mem_cons, not_or] at h
      have hc : (c == '\n') = false := beq_false_of_ne (Ne.symm h.1)
      simp only [dropLines, if_true, hc, Bool.false_eq_true, if_false]
      exact dropLines_inRemark h.2

/-- A text of the form `-- …` up to a line break. -/
theorem dropLines_remark {s : List Char} (h : '\n' ∉ s) : dropLines false ('-' :: '-' :: s) = [] :=
  dropLines_inRemark (s := '-' :: s) (by simpa using h)

/-- **A part without a line mark stays**, when it makes none with what comes after it. -/
theorem dropLines_append_free {t : List Char} : ∀ {s : List Char},
    Free '-' '-' (s ++ t.head?.toList) → dropLines false (s ++ t) = s ++ dropLines false t
  | [], _ => rfl
  | c :: s, h => by
      rw [List.cons_append, free_cons] at h
      have hc : ¬ (c == '-' && (s ++ t).head? == some '-') = true := by
        rw [← head?_append_head, Bool.and_eq_true, beq_iff_eq, beq_iff_eq]
        exact h.1
      simp only [List.cons_append, dropLines, Bool.false_eq_true, if_false, if_neg hc]
      rw [dropLines_append_free h.2]

theorem dropLines_free {s : List Char} (h : Free '-' '-' s) : dropLines false s = s := by
  have h' := dropLines_append_free (s := s) (t := []) (by simpa using h)
  rw [List.append_nil] at h'
  rw [h']
  exact List.append_nil s

theorem dropLines_append_notMem {x : List Char} (hx : '-' ∉ x) (s : List Char) :
    dropLines false (x ++ s) = x ++ dropLines false s := by
  refine dropLines_append_free (Free.after ?_ hx)
  cases s with
  | nil => exact free_nil
  | cons c s => exact free_cons.mpr ⟨by simp, free_nil⟩

theorem dropLines_blank_append {x : List Char} (hx : isBlankText x = true) (s : List Char) :
    dropLines false (x ++ s) = x ++ dropLines false s :=
  dropLines_append_notMem (notMem_of_blank hx (by decide)) s

theorem dropLines_sublist : ∀ (inRemark : Bool) (s : List Char), (dropLines inRemark s).Sublist s
  | _, [] => List.Sublist.refl []
  | true, c :: s => by
      simp only [dropLines, if_true]
      split
      · exact (dropLines_sublist false s).cons_cons c
      · exact (dropLines_sublist true s).cons c
  | false, c :: s => by
      simp only [dropLines, Bool.false_eq_true, if_false]
      split
      · exact (dropLines_sublist true s).cons c
      · exact (dropLines_sublist false s).cons_cons c

/-- Blanks after a text leave blanks after what is left of it. -/
theorem dropLines_append_blank {y : List Char} (hy : isBlankText y = true) :
    ∀ (inRemark : Bool) (s : List Char),
    ∃ z, isBlankText z = true ∧ dropLines inRemark (s ++ y) = dropLines inRemark s ++ z
  | inRemark, [] =>
      ⟨dropLines inRemark y, isBlankText_of_subset (dropLines_sublist inRemark y).subset hy, by
        cases inRemark <;> rfl⟩
  | true, c :: s => by
      simp only [List.cons_append, dropLines, if_true]
      split
      · obtain ⟨z, hz, h⟩ := dropLines_append_blank hy false s
        exact ⟨z, hz, by rw [h]; rfl⟩
      · exact dropLines_append_blank hy true s
  | false, c :: s => by
      have hhead : ((s ++ y).head? == some '-') = (s.head? == some '-') := by
        cases s with
        | cons d s => rfl
        | nil =>
            cases y with
            | nil => rfl
            | cons d y =>
                have hd : d ≠ '-' :=
                  ne_of_isBlank (isBlankText_iff.mp hy d List.mem_cons_self) (by decide)
                simpa using hd
      simp only [List.cons_append, dropLines, Bool.false_eq_true, if_false, hhead]
      split
      · exact dropLines_append_blank hy true s
      · obtain ⟨z, hz, h⟩ := dropLines_append_blank hy false s
        exact ⟨z, hz, by rw [h]; rfl⟩

/-! ## 3. Blocks -/

/-- **A part without a block mark stays**, when it makes none with what comes after it. -/
theorem dropBlocks_append_free {t : List Char} : ∀ {s : List Char},
    Free '/' '*' (s ++ t.head?.toList) →
    dropBlocks .outside (s ++ t) = s ++ dropBlocks .outside t
  | [], _ => rfl
  | c :: s, h => by
      rw [List.cons_append, free_cons] at h
      have hc : ¬ (c == '/' && (s ++ t).head? == some '*' && closes (s ++ t).tail) = true := by
        rw [← head?_append_head, Bool.and_eq_true, Bool.and_eq_true, beq_iff_eq, beq_iff_eq]
        exact fun hb => h.1 hb.1
      simp only [List.cons_append, dropBlocks, if_neg hc]
      rw [dropBlocks_append_free h.2]

theorem dropBlocks_free {s : List Char} (h : Free '/' '*' s) : dropBlocks .outside s = s := by
  have h' := dropBlocks_append_free (s := s) (t := []) (by simpa using h)
  rw [List.append_nil] at h'
  rw [h']
  exact List.append_nil s

/-- A text without a slash closes no block. -/
theorem closes_of_notMem : ∀ {s : List Char}, '/' ∉ s → closes s = false
  | [], _ => rfl
  | c :: s, h => by
      rw [List.mem_cons, not_or] at h
      have hhead : (s.head? == some '/') = false :=
        beq_false_of_ne fun e => h.2 (List.mem_of_head? e)
      rw [closes, hhead, Bool.and_false, Bool.false_or]
      exact closes_of_notMem h.2

theorem closes_append_plain {t : List Char} (ht : '/' ∉ t) : ∀ s : List Char,
    closes (s ++ t) = closes s
  | [] => closes_of_notMem ht
  | [c] => by
      have hhead : (t.head? == some '/') = false :=
        beq_false_of_ne fun e => ht (List.mem_of_head? e)
      simp [closes, closes_of_notMem ht, hhead]
  | c :: d :: s => by
      have ih := closes_append_plain ht (d :: s)
      rw [List.cons_append, closes, ih]
      rfl

/-- The block that a scan in the state stands in ends within the text. -/
def endsWithin : BlockState → List Char → Bool
  | .outside, _ => true
  | .opening, s => closes s.tail
  | .inside, s => closes s
  | .closing, s => !s.isEmpty

/-- **A text in which no block can close stays**, behind whatever blocks close before it. -/
theorem dropBlocks_append_plain {t : List Char} (ht : '/' ∉ t) : ∀ (st : BlockState)
    (s : List Char), endsWithin st s = true → dropBlocks st (s ++ t) = dropBlocks st s ++ t
  | .outside, [], _ => dropBlocks_free (free_of_notMem ht)
  | .opening, [], h => by cases h
  | .inside, [], h => by cases h
  | .closing, [], h => by cases h
  | .outside, c :: s, _ => by
      have hcond : (c == '/' && (s ++ t).head? == some '*' && closes (s ++ t).tail) =
          (c == '/' && s.head? == some '*' && closes s.tail) := by
        cases s with
        | nil =>
            have htail : closes t.tail = false :=
              closes_of_notMem fun h => ht (List.mem_of_mem_tail h)
            simp [htail]
        | cons d s =>
            rw [List.cons_append, List.tail_cons, List.tail_cons, closes_append_plain ht]
            rfl
      simp only [List.cons_append, dropBlocks, hcond]
      split
      · rename_i hb
        exact dropBlocks_append_plain ht .opening s (Bool.and_eq_true_iff.mp hb).2
      · rw [dropBlocks_append_plain ht .outside s rfl]
        rfl
  | .opening, c :: s, h => dropBlocks_append_plain ht .inside s h
  | .inside, c :: s, h => by
      have hcond : (c == '*' && (s ++ t).head? == some '/') = (c == '*' && s.head? == some '/') := by
        cases s with
        | nil =>
            have hhead : (t.head? == some '/') = false :=
              beq_false_of_ne fun e => ht (List.mem_of_head? e)
            simp [hhead]
        | cons d s => rfl
      simp only [List.cons_append, dropBlocks, hcond]
      split
      · rename_i hb
        refine dropBlocks_append_plain ht .closing s ?_
        cases s with
        | nil => simp at hb
        | cons d s => rfl
      · rename_i hb
        rw [endsWithin, closes, Bool.or_eq_true] at h
        exact dropBlocks_append_plain ht .inside s (h.resolve_left hb)
  | .closing, c :: s, _ => dropBlocks_append_plain ht .outside s rfl

theorem dropBlocks_sublist : ∀ (st : BlockState) (s : List Char),
    (dropBlocks st s).Sublist s
  | st, [] => by cases st <;> exact List.Sublist.refl []
  | .outside, c :: s => by
      simp only [dropBlocks]
      split
      · exact (dropBlocks_sublist .opening s).cons c
      · exact (dropBlocks_sublist .outside s).cons_cons c
  | .opening, c :: s => (dropBlocks_sublist .inside s).cons c
  | .inside, c :: s => by
      simp only [dropBlocks]
      split
      · exact (dropBlocks_sublist .closing s).cons c
      · exact (dropBlocks_sublist .inside s).cons c
  | .closing, c :: s => (dropBlocks_sublist .outside s).cons c

/-! ## 4. Both -/

/-- **A text without marks is left alone.** -/
theorem strip_free {s : List Char} (hl : Free '-' '-' s) (hb : Free '/' '*' s) : strip s = s := by
  unfold strip
  rw [dropLines_free hl, dropBlocks_free hb]

theorem strip_blank_append {x : List Char} (hx : isBlankText x = true) (s : List Char) :
    strip (x ++ s) = x ++ strip s := by
  have hslash : '/' ∉ x := notMem_of_blank hx (by decide)
  unfold strip
  rw [dropLines_blank_append hx, dropBlocks_append_free]
  refine Free.after ?_ hslash
  cases dropLines false s with
  | nil => exact free_nil
  | cons c r => exact free_cons.mpr ⟨by simp, free_nil⟩

/-- Blanks after a text leave blanks after what is left of it. -/
theorem strip_append_blank {y : List Char} (hy : isBlankText y = true) (s : List Char) :
    ∃ z, isBlankText z = true ∧ strip (s ++ y) = strip s ++ z := by
  obtain ⟨z, hz, hlines⟩ := dropLines_append_blank hy false s
  refine ⟨z, hz, ?_⟩
  rw [strip, hlines, dropBlocks_append_plain (notMem_of_blank hz (by decide)) .outside _ rfl]
  rfl

theorem strip_sublist (s : List Char) : (strip s).Sublist s :=
  (dropBlocks_sublist .outside _).trans (dropLines_sublist false s)

/-! ## 5. One step of the other reading -/

/-- In code, a character that starts no mark is code. -/
theorem step_code {c : Char} {s : List Char} (hl : ¬ (c = '-' ∧ s.head? = some '-'))
    (hb : ¬ (c = '/' ∧ s.head? = some '*')) : State.code.step c s = (true, .code) := by
  have hl' : ¬ (c == '-' && s.head? == some '-') = true := by
    rw [Bool.and_eq_true, beq_iff_eq, beq_iff_eq]
    exact hl
  have hb' : ¬ (c == '/' && s.head? == some '*') = true := by
    rw [Bool.and_eq_true, beq_iff_eq, beq_iff_eq]
    exact hb
  rw [State.step, if_neg hl', if_neg hb']

end TableDraft.Select.Remark

import TableDraft.Proofs.Select.ClauseEnd
import TableDraft.Proofs.Select.FromScan
import TableDraft.Proofs.Select.RemarkParts
import TableDraft.Select.Statement

/-!
# The two readings of remarks

Stripping takes out line remarks and then blocks; the scan for FROM reads both in one pass. A `--`
inside of a block is the one thing that they read differently.

* `BlockAt`, `ClosesInSight`: the blocks of a text, and that none of them has a `--` before its closing
  mark on the same line;
* `strip_eq_codeOf`: a text whose blocks close in sight is stripped to its code;
* **`agree_iff`: the readings agree on all beginnings of a text exactly if its blocks close in
  sight**;
* `exists_list_of_clause`: the scan for FROM stops where the parentheses of the code before it balance;
* `strip_agrees` puts these together, and `strip_disagrees` has texts on which the readings differ.
-/

namespace TableDraft.Select.Remark

open Text

/-! ## 1. Blocks -/

/-- Every block that is opened in code is closed. -/
def BlocksClose (s : List Char) : Prop := State.code.after s [] ≠ .block

instance decidableBlocksClose (s : List Char) : Decidable (BlocksClose s) :=
  inferInstanceAs (Decidable (_ ≠ _))

/-- A block with the text `b` stands in a text between `p` and `t`: it is opened in code, and `b` goes
on up to the first closing mark. -/
structure BlockAt (s p b t : List Char) : Prop where
  text : s = p ++ ('/' :: '*' :: (b ++ ['*', '/']) ++ t)
  inCode : State.code.after p ('/' :: '*' :: (b ++ ['*', '/']) ++ t) = .code
  first : Free '*' '/' b

/-- No block of the text has a line mark before its closing mark on the same line. -/
def ClosesInSight (s : List Char) : Prop :=
  ∀ p b t, BlockAt s p b t → Free '-' '-' (lastLine b)

theorem BlockAt.part {s p b t : List Char} (h : BlockAt s p b t) :
    Part ('/' :: '*' :: (b ++ ['*', '/'])) [] t := .block t h.first

/-- A block stays one behind a part. -/
theorem BlockAt.behind {x k s p b t : List Char} (hx : Part x k s) (h : BlockAt s p b t) :
    BlockAt (x ++ s) (x ++ p) b t := by
  refine ⟨by rw [h.text, List.append_assoc], ?_, h.first⟩
  rw [after_append, ← h.text, hx.scan.1, h.inCode]

/-- The blocks of a text that starts with a part: the part itself, and those of the rest. -/
theorem closesInSight_part {x k s : List Char} (hx : Part x k s) :
    ClosesInSight (x ++ s) ↔ Sighted x ∧ ClosesInSight s := by
  constructor
  · refine fun h => ⟨fun b hxb hb => ?_, fun p b t hblock => h _ b t (hblock.behind hx)⟩
    exact h [] b s ⟨by rw [hxb]; rfl, rfl, hb⟩
  · rintro ⟨hsight, h⟩ p b t hblock
    rcases hx.cut hblock.text hblock.inCode with rfl | ⟨q, rfl⟩
    · exact hsight b (hx.unique hblock.part hblock.text) hblock.first
    · have htext := hblock.text
      rw [List.append_assoc, List.append_cancel_left_eq] at htext
      have hcode := hblock.inCode
      rw [after_append, ← htext, hx.scan.1] at hcode
      exact h q b t ⟨htext, hcode, hblock.first⟩

theorem blocksClose_part {x k s : List Char} (hx : Part x k s) :
    BlocksClose (x ++ s) ↔ BlocksClose s := by
  rw [BlocksClose, BlocksClose, after_append, List.append_nil, hx.scan.1]

/-- In a line remark that does not end there is no block. -/
theorem closesInSight_lastLine {l : List Char} (hl : '\n' ∉ l) : ClosesInSight ('-' :: '-' :: l) := by
  intro p b t hblock
  rcases Part.behind_mark hblock.text (by simp [State.step]) hblock.inCode with rfl | ⟨q, rfl, hq⟩
  · cases hblock.text
  · have hin := (scan_line ('/' :: '*' :: (b ++ ['*', '/']) ++ t) (l := q)
      fun h => hl (hq ▸ List.mem_append_left _ h)).1
    have hcode : State.line.after q ('/' :: '*' :: (b ++ ['*', '/']) ++ t) = .code := hblock.inCode
    rw [hin] at hcode
    cases hcode

theorem not_blocksClose_openBlock {b : List Char} (hb : Free '*' '/' b) :
    ¬ BlocksClose ('/' :: '*' :: b) :=
  fun h => h (scan_block (r := []) (by simpa using hb)).1

/-- The state depends on what follows a text through its first character. -/
theorem after_congr {r r' : List Char} (h : r.head? = r'.head?) : ∀ (st : State) (p : List Char),
    st.after p r = st.after p r'
  | _, [] => rfl
  | st, c :: p => by
      have hhead : (p ++ r).head? = (p ++ r').head? := by
        cases p with
        | nil => exact h
        | cons d p => rfl
      rw [State.after, State.after, step_congr hhead, after_congr h _ p]

theorem ClosesInSight.of_isPrefix {s p : List Char} (h : ClosesInSight s) (hp : p <+: s) :
    ClosesInSight p := by
  obtain ⟨q, rfl⟩ := hp
  intro u b t hblock
  refine h u b (t ++ q) ⟨?_, ?_, hblock.first⟩
  · rw [hblock.text]
    simp
  · exact (after_congr (by simp) .code u).trans hblock.inCode

/-! ## 2. Where the readings agree -/

/-- **A text whose blocks close in sight is stripped to its code.** -/
theorem strip_eq_codeOf {s : List Char} (hs : BlocksClose s) (h : ClosesInSight s) :
    strip s = codeOf .code s := by
  induction parts s with
  | nil => rfl
  | @part x k s hx _ ih =>
      obtain ⟨hsight, hrest⟩ := (closesInSight_part hx).mp h
      rw [hx.strip hsight, codeOf_append, hx.scan.1, hx.scan.2,
        ih ((blocksClose_part hx).mp hs) hrest]
  | @lastLine l hl =>
      have hcode : codeOf .code ('-' :: '-' :: l) = codeOf .line l := rfl
      rw [strip_lastLine hl, hcode, ← codeWithin_nil, (scan_line [] hl).2]
  | openBlock hb => exact (not_blocksClose_openBlock hb hs).elim

/-- The readings agree on a text and all of its beginnings. -/
def Agree (s : List Char) : Prop := ∀ p, p <+: s → BlocksClose p → strip p = codeOf .code p

/-- If the readings agree on a part and on what follows it, the part closes in sight. -/
theorem Agree.sighted {x k s : List Char} (hx : Part x k s) (h : Agree (x ++ s)) : Sighted x := by
  rintro b rfl hb
  by_contra hhidden
  have hpart : Part ('/' :: '*' :: (b ++ ['*', '/'])) [] [] := .block [] hb
  have hscan := hpart.scan
  have hagree := h _ (List.prefix_append _ s) (by rw [BlocksClose, hscan.1]; decide)
  rw [strip_hidden hb hhidden, ← codeWithin_nil, hscan.2] at hagree
  cases hagree

theorem Agree.rest {x k s : List Char} (hx : Part x k s) (h : Agree (x ++ s)) : Agree s := by
  intro p hp hclose
  have hxp := hx.of_isPrefix hp
  have hagree := h (x ++ p) ((List.prefix_append_right_inj x).mpr hp)
    ((blocksClose_part hxp).mpr hclose)
  rw [hxp.strip (h.sighted hx), codeOf_append, hxp.scan.1, hxp.scan.2] at hagree
  exact List.append_cancel_left hagree

/-- **The readings agree on all beginnings of a text exactly if its blocks close in sight.** -/
theorem agree_iff {s : List Char} (hs : BlocksClose s) : Agree s ↔ ClosesInSight s := by
  constructor
  · intro h
    induction parts s with
    | nil =>
        intro p b t hblock
        have htext := hblock.text
        simp at htext
    | part hx _ ih =>
        exact (closesInSight_part hx).mpr
          ⟨h.sighted hx, ih ((blocksClose_part hx).mp hs) (h.rest hx)⟩
    | lastLine hl => exact closesInSight_lastLine hl
    | openBlock hb => exact (not_blocksClose_openBlock hb hs).elim
  · exact fun h p hp hclose => strip_eq_codeOf hclose (h.of_isPrefix hp)

/-! ## 3. The list that the scan for FROM found -/

/-- The text starts with no character of a mark, or is empty. -/
def Plain (r : List Char) : Prop := ∀ c ∈ r.head?, c ≠ '-' ∧ c ≠ '*' ∧ c ≠ '/'

theorem plain_of_blank {y : List Char} (hy : isBlankText y = true) : Plain y := by
  intro c hc
  have hblank := isBlankText_iff.mp hy c (List.mem_of_head? hc)
  refine ⟨?_, ?_, ?_⟩ <;> exact ne_of_isBlank hblank (by decide)

theorem plain_of_startsFrom {q : List Char} (hq : startsFrom q = true) : Plain q := by
  obtain ⟨w, t, rfl, hw, -⟩ := startsFrom_iff.mp hq
  intro c hc
  cases w with
  | nil => cases hw
  | cons d w =>
      obtain rfl : d = c := Option.some.inj hc
      have hd : letter d = 'f' := (List.cons.inj hw).1
      refine ⟨?_, ?_, ?_⟩ <;>
      · rintro rfl
        exact absurd hd (by decide)

/-- A text that starts with no character of a mark is kept apart from the one before it. -/
theorem scan_plain {r : List Char} (hr : Plain r) : ∀ (st : State) (p : List Char),
    st.after p r = st.after p [] ∧ codeWithin st p r = codeOf st p
  | _, [] => ⟨rfl, rfl⟩
  | st, c :: p => by
      have hstep : st.step c (p ++ r) = st.step c p := by
        cases p with
        | cons d p => exact step_congr (by simp) st c
        | nil =>
            cases r with
            | nil => rfl
            | cons d r =>
                obtain ⟨hl, hs, hb⟩ := hr d rfl
                cases st <;> simp [State.step, hl, hs, hb]
      obtain ⟨hafter, hcode⟩ := scan_plain hr (st.step c p).2 p
      rw [State.after, State.after, codeWithin, codeOf_cons, List.append_nil, hstep, hafter, hcode]
      exact ⟨rfl, rfl⟩

/-- Of the characters of code only a line break stands in another state. -/
theorem eq_code_of_step {st : State} {c : Char} {r : List Char} (h : (st.step c r).1 = true)
    (hc : c ≠ '\n') : st = .code := by
  cases st with
  | code => rfl
  | line => simp [State.step, hc] at h
  | opening => cases h
  | block => cases h
  | closing => cases h

/-- **The scan stops in code, at depth zero of the parentheses that are code.** -/
theorem beforeFrom_code : ∀ {p q : List Char} {st : State} {d : Int} {ab : Bool},
    beforeFrom st d ab (p ++ q) = some p →
    st.after p q = .code ∧ depthAfter d (codeWithin st p q) = 0
  | [], [], _, _, _, h => by cases h
  | [], c :: q, st, d, ab, h => by
      simp only [List.nil_append, beforeFrom] at h
      split at h
      · rename_i hstop
        simp only [Bool.and_eq_true, beq_iff_eq] at hstop
        obtain ⟨⟨⟨hcode, rfl⟩, -⟩, hstart⟩ := hstop
        have hc : c ≠ '\n' := by
          rintro rfl
          have hno : startsFrom ('\n' :: q) = false := startsFrom_append_blank (b := '\n') rfl [] q
          rw [hno] at hstart
          cases hstart
        exact ⟨eq_code_of_step hcode hc, rfl⟩
      · obtain ⟨p', -, hp'⟩ := Option.map_eq_some_iff.mp h
        cases hp'
  | c :: p, q, st, d, ab, h => by
      simp only [List.cons_append, beforeFrom] at h
      split at h
      · cases h
      · obtain ⟨p', hp', hcons⟩ := Option.map_eq_some_iff.mp h
        rw [(List.cons.inj hcons).2] at hp'
        obtain ⟨hafter, hdepth⟩ := beforeFrom_code hp'
        refine ⟨hafter, ?_⟩
        by_cases hcode : (st.step c (p ++ q)).1 = true
        · simpa [codeWithin, hcode] using hdepth
        · simpa [codeWithin, hcode] using hdepth

/-! ## 4. A select list and its code -/

theorem codeOf_sublist : ∀ (st : State) (s : List Char), (codeOf st s).Sublist s
  | _, [] => List.Sublist.refl []
  | st, c :: s => by
      rw [codeOf_cons]
      have ih := codeOf_sublist (st.step c s).2 s
      split
      · exact ih.cons_cons c
      · exact ih.cons c

/-- Blanks in code are code. -/
theorem scan_blank : ∀ {x : List Char}, isBlankText x = true → ∀ r,
    State.code.after x r = .code ∧ codeWithin .code x r = x
  | [], _, _ => ⟨rfl, rfl⟩
  | c :: x, hx, r => by
      rw [isBlankText_cons, Bool.and_eq_true] at hx
      have hstep : State.code.step c (x ++ r) = (true, .code) :=
        step_code (fun h => ne_of_isBlank hx.1 (by decide) h.1)
          (fun h => ne_of_isBlank hx.1 (by decide) h.1)
      obtain ⟨hafter, hcode⟩ := scan_blank hx.2 r
      simp [State.after, codeWithin, hstep, hafter, hcode]

/-- Blanks around a text are, but for those that a line remark at its end takes in, blanks around its
code. -/
theorem codeOf_between {x y : List Char} (hx : isBlankText x = true) (hy : isBlankText y = true)
    (s : List Char) :
    ∃ z, isBlankText z = true ∧ codeOf .code (x ++ s ++ y) = x ++ codeOf .code s ++ z := by
  obtain ⟨hafter, hcode⟩ := scan_blank hx (s ++ y)
  refine ⟨codeOf (State.code.after s y) y,
    isBlankText_of_subset (codeOf_sublist _ y).subset hy, ?_⟩
  rw [List.append_assoc, codeOf_append, hafter, hcode, codeOf_append,
    (scan_plain (plain_of_blank hy) .code s).2, List.append_assoc]

/-- Blanks after a text close no block. -/
theorem blocksClose_of_blank {x s y q : List Char} (hx : isBlankText x = true)
    (hy : isBlankText y = true) (hq : Plain q) (h : State.code.after (x ++ s ++ y) q = .code) :
    BlocksClose s := by
  intro hopen
  have hyq : Plain (y ++ q) := by
    cases y with
    | nil => exact hq
    | cons c y => exact plain_of_blank (y := c :: y) hy
  have hfree : Free '*' '/' (y ++ q.head?.toList) := by
    refine free_of_notMem fun hstar => ?_
    rcases List.mem_append.mp hstar with hstar | hstar
    · exact notMem_of_blank hy (by decide) hstar
    · exact (hq '*' (Option.mem_toList.mp hstar)).2.1 rfl
  rw [List.append_assoc, after_append, (scan_blank hx _).1, after_append, (scan_plain hyq .code s).1,
    hopen, (scan_block hfree).1] at h
  cases h

/-- **The scan for FROM stops where the parentheses of the code before it balance**, and no block is
open there. -/
theorem exists_list_of_clause {sql clause : List Char} (h : selectFromClause sql = some clause) :
    ∃ list rest, afterSelect sql = some (list ++ rest) ∧
      beforeFrom .code 0 false (list ++ rest) = some list ∧ clause = trim list ∧
      depthAfter 0 (codeOf .code list) = 0 ∧ BlocksClose clause := by
  obtain ⟨list, hlist, rfl⟩ := Option.map_eq_some_iff.mp h
  obtain ⟨a, ha, hscan⟩ := Option.bind_eq_some_iff.mp hlist
  obtain ⟨rest, rfl, hrest, -⟩ := beforeFrom_spec hscan
  have hplain := plain_of_startsFrom hrest
  obtain ⟨hafter, hdepth⟩ := beforeFrom_code hscan
  rw [(scan_plain hplain .code list).2] at hdepth
  obtain ⟨x, y, hx, hy, hlist⟩ := exists_trim list
  refine ⟨list, rest, ha, hscan, rfl, hdepth, ?_⟩
  rw [hlist] at hafter
  exact blocksClose_of_blank hx hy hplain hafter

/-! ## 5. Both readings -/

/-- **Stripping and the one-pass scan agree as far as blocks close in sight.** On a text whose blocks
are closed, and on all its beginnings, they agree exactly if no block has a `--` before its closing
mark on the same line. If the text is what the scan for FROM found, its blocks are closed; then it is
stripped, but for blanks at the ends, to the code in which the scan counted parentheses, and these
balance. -/
theorem strip_agrees (s : List Char) :
    (BlocksClose s →
      ((∀ p, p <+: s → BlocksClose p → strip p = codeOf .code p) ↔ ClosesInSight s)) ∧
    (∀ sql, selectFromClause sql = some s → BlocksClose s ∧ ∃ list rest,
      afterSelect sql = some (list ++ rest) ∧ beforeFrom .code 0 false (list ++ rest) = some list ∧
      s = trim list ∧ depthAfter 0 (codeOf .code list) = 0 ∧
      (ClosesInSight s → ∃ x z, isBlankText x = true ∧ isBlankText z = true ∧
        codeOf .code list = x ++ strip s ++ z)) := by
  refine ⟨agree_iff, fun sql h => ?_⟩
  obtain ⟨list, rest, hselect, hscan, hclause, hdepth, hclose⟩ := exists_list_of_clause h
  refine ⟨hclose, list, rest, hselect, hscan, hclause, hdepth, fun hsight => ?_⟩
  obtain ⟨x, y, hx, hy, hlist⟩ := exists_trim list
  obtain ⟨z, hz, hcode⟩ := codeOf_between hx hy (trim list)
  refine ⟨x, z, hx, hz, ?_⟩
  rw [strip_eq_codeOf hclose hsight, hclause, ← hcode, ← hlist]

theorem closesInSight_iff {s : List Char} : ClosesInSight s ↔
    ∀ p r, s = p ++ r → r.take 2 = ['/', '*'] → State.code.after p r = .code →
      ∀ b t, r.drop 2 = b ++ t → t.take 2 = ['*', '/'] → Free '*' '/' b →
        Free '-' '-' (lastLine b) := by
  constructor
  · intro h p r hs hr hcode b t hb ht hfree
    have htext : r = '/' :: '*' :: (b ++ ['*', '/']) ++ t.drop 2 := by
      rw [← List.take_append_drop 2 r, hr, hb, ← List.take_append_drop 2 t, ht]
      simp
    exact h p b (t.drop 2) ⟨htext ▸ hs, htext ▸ hcode, hfree⟩
  · intro h p b t hblock
    exact h p _ hblock.text rfl hblock.inCode b ('*' :: '/' :: t) (by simp) rfl hblock.first

instance decidableClosesInSight (s : List Char) : Decidable (ClosesInSight s) :=
  decidable_of_iff _ closesInSight_iff.symm

/-- Marks of one kind may stand inside of remarks of the other kind. -/
theorem strip_agrees_nested :
    strip "a -- /* x\n/* -- y\n*/, b".toList = codeOf .code "a -- /* x\n/* -- y\n*/, b".toList ∧
    ∃ list x z, beforeFrom .code 0 false " a -- (\n, /* ( */ f(b) -- z\nFROM t".toList = some list ∧
      depthAfter 0 (codeOf .code list) = 0 ∧ isBlankText x = true ∧ isBlankText z = true ∧
      codeOf .code list = x ++ strip "a -- (\n, /* ( */ f(b) -- z".toList ++ z := by
  refine ⟨?_, ?_⟩
  · exact ((strip_agrees _).1 (by decide +kernel)).mpr (by decide +kernel) _ List.prefix_rfl
      (by decide +kernel)
  · obtain ⟨-, list, rest, hselect, hscan, -, hdepth, hcode⟩ :=
      (strip_agrees "a -- (\n, /* ( */ f(b) -- z".toList).2
        "SELECT a -- (\n, /* ( */ f(b) -- z\nFROM t".toList (by decide +kernel)
    obtain ⟨x, z, hx, hz, hlist⟩ := hcode (by decide +kernel)
    have htext : list ++ rest = " a -- (\n, /* ( */ f(b) -- z\nFROM t".toList := by
      refine Option.some.inj (hselect.symm.trans ?_)
      decide +kernel
    exact ⟨list, x, z, htext ▸ hscan, hdepth, hx, hz, hlist⟩

/-- **A `--` inside of a block hides its closing mark from one of the readings**, and a query may lose
a column for it. -/
theorem strip_disagrees :
    strip "/* -- */ x".toList = "/* ".toList ∧ codeOf .code "/* -- */ x".toList = " x".toList ∧
    parseFields "SELECT a /* -- x */, b FROM t" = .ok [⟨"/*", some "/*", "x */, b"⟩] ∧
    ¬ ∀ s, BlocksClose s → strip s = codeOf .code s := by
  refine ⟨by decide +kernel, by decide +kernel, by decide +kernel, fun h => ?_⟩
  have hagree := h "/* -- */ x".toList (by decide +kernel)
  revert hagree
  decide +kernel

end TableDraft.Select.Remark

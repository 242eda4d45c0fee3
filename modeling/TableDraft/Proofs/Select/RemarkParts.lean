import TableDraft.Proofs.Select.Strip

/-!
# The parts of a text with remarks

A text that starts in code goes on with one character of code, with a line remark, or with a block
remark (`Part`); every text is a row of such parts, of which the last may be a remark that the text
does not end (`parts`). A part is judged with the text after it at hand, so that parts compose:

* `State.after`, `codeWithin`: where the one-pass scan stands after a text that another one follows,
  and which characters of the text are code;
* **`Part.scan`: the scan is in code again after a part**, and `Part.cut`: at no place in between;
* **`Part.strip`: a part is stripped by itself, provided that a block shows its closing mark to a
  reader of lines** (`Sighted`);
* `strip_hidden`: a block that does not is not stripped at all.
-/

namespace TableDraft.Select.Remark

open Text

/-! ## 1. Where the scan stands -/

/-- The state of the scan after a text that another one follows. -/
def State.after : State → List Char → List Char → State
  | st, [], _ => st
  | st, c :: p, r => State.after (st.step c (p ++ r)).2 p r

/-- The characters of a text that are code when another one follows. -/
def codeWithin : State → List Char → List Char → List Char
  | _, [], _ => []
  | st, c :: p, r =>
    (if (st.step c (p ++ r)).1 then [c] else []) ++ codeWithin (st.step c (p ++ r)).2 p r

theorem after_append : ∀ (st : State) (p q r : List Char),
    st.after (p ++ q) r = (st.after p (q ++ r)).after q r
  | _, [], _, _ => rfl
  | st, c :: p, q, r => by
      rw [List.cons_append, State.after, State.after, after_append _ p q r, List.append_assoc]

theorem codeOf_cons (st : State) (c : Char) (r : List Char) :
    codeOf st (c :: r) = (if (st.step c r).1 then [c] else []) ++ codeOf (st.step c r).2 r := by
  by_cases h : (st.step c r).1 = true <;> simp [codeOf, h]

theorem codeWithin_append : ∀ (st : State) (p q r : List Char),
    codeWithin st (p ++ q) r = codeWithin st p (q ++ r) ++ codeWithin (st.after p (q ++ r)) q r
  | _, [], _, _ => rfl
  | st, c :: p, q, r => by
      rw [List.cons_append, codeWithin, codeWithin, State.after, List.append_assoc,
        codeWithin_append _ p q r, List.append_assoc]

/-- The code of a text by itself. -/
theorem codeWithin_nil : ∀ (st : State) (p : List Char), codeWithin st p [] = codeOf st p
  | _, [] => rfl
  | st, c :: p => by
      rw [codeWithin, codeOf_cons, List.append_nil, codeWithin_nil _ p]

theorem codeOf_append (st : State) (p r : List Char) :
    codeOf st (p ++ r) = codeWithin st p r ++ codeOf (st.after p r) r := by
  have h := codeWithin_append st p r []
  rwa [codeWithin_nil, codeWithin_nil, List.append_nil] at h

/-- A line remark goes on to the line break. -/
theorem scan_line (r : List Char) : ∀ {l : List Char}, '\n' ∉ l →
    State.line.after l r = .line ∧ codeWithin .line l r = []
  | [], _ => ⟨rfl, rfl⟩
  | c :: l, h => by
      rw [List.mem_cons, not_or] at h
      have hstep : State.line.step c (l ++ r) = (false, .line) := by
        simp [State.step, Ne.symm h.1]
      simpa [State.after, codeWithin, hstep] using scan_line r h.2

/-- A block goes on to the closing mark. -/
theorem scan_block {r : List Char} : ∀ {b : List Char}, Free '*' '/' (b ++ r.head?.toList) →
    State.block.after b r = .block ∧ codeWithin .block b r = []
  | [], _ => ⟨rfl, rfl⟩
  | c :: b, h => by
      rw [List.cons_append, free_cons] at h
      have hclose : (c == '*' && (b ++ r).head? == some '/') = false := by
        rw [← Bool.not_eq_true, Bool.and_eq_true, beq_iff_eq, beq_iff_eq, ← head?_append_head]
        exact h.1
      have hstep : State.block.step c (b ++ r) = (false, .block) := by
        rw [State.step, hclose]
        rfl
      simpa [State.after, codeWithin, hstep] using scan_block h.2

/-! ## 2. Pairs in a text -/

section Pairs

variable {a b : Char}

/-- The first place of a pair. -/
theorem exists_first_pair : ∀ {s : List Char}, ¬ Free a b s →
    ∃ u t, s = u ++ a :: b :: t ∧ Free a b (u ++ [a])
  | [], h => (h free_nil).elim
  | c :: s, h => by
      rw [free_cons, not_and_or, not_not] at h
      by_cases hc : c = a ∧ s.head? = some b
      · obtain ⟨rfl, hs⟩ := hc
        obtain ⟨t, rfl⟩ := List.head?_eq_some_iff.mp hs
        exact ⟨[], t, rfl, free_cons.mpr ⟨by simp, free_nil⟩⟩
      · obtain ⟨u, t, rfl, hu⟩ := exists_first_pair (h.resolve_left hc)
        refine ⟨c :: u, t, rfl, free_cons.mpr ⟨?_, hu⟩⟩
        cases u <;> exact hc

/-- A text that has no pair makes none with the first character of the pair after it. -/
theorem free_append_singleton (hab : a ≠ b) {s : List Char} : Free a b (s ++ [a]) ↔ Free a b s := by
  rw [free_append]
  have hsingle : Free a b [a] := free_cons.mpr ⟨by simp, free_nil⟩
  simp [hsingle, hab]

end Pairs

/-- A text closes a block where a star is followed by a slash. -/
theorem closes_eq_false_iff : ∀ {s : List Char}, closes s = false ↔ Free '*' '/' s
  | [] => by simp [closes, free_nil]
  | c :: s => by
      rw [closes, free_cons, Bool.or_eq_false_iff, closes_eq_false_iff, ← Bool.not_eq_true,
        Bool.and_eq_true, beq_iff_eq, beq_iff_eq]

/-- What is left behind a line remark starts with the line break. -/
theorem head_dropLines_remark : ∀ {s : List Char} {c : Char},
    (dropLines true s).head? = some c → c = '\n'
  | [], _, h => by cases h
  | d :: s, c, h => by
      by_cases hd : d = '\n'
      · have hcd : d = c := by simpa [dropLines, hd] using h
        rw [← hcd, hd]
      · exact head_dropLines_remark (s := s) (by simpa [dropLines, hd] using h)

/-- What is left of a text starts as the text does, or with a line break. -/
theorem head_dropLines {s : List Char} {c : Char} (hc : c ≠ '\n')
    (h : (dropLines false s).head? = some c) : s.head? = some c := by
  cases s with
  | nil => exact h
  | cons d s =>
      simp only [dropLines, Bool.false_eq_true, if_false] at h
      split at h
      · exact (hc (head_dropLines_remark h)).elim
      · exact h

/-- Taking out line remarks brings no two characters together. -/
theorem free_dropLines {a b : Char} (hb : b ≠ '\n') : ∀ {m : Bool} {s : List Char}, Free a b s →
    Free a b (dropLines m s)
  | m, [], h => by cases m <;> exact h
  | m, c :: s, h => by
      obtain ⟨hc, hs⟩ := free_cons.mp h
      have hskip : Free a b (dropLines true s) := free_dropLines hb hs
      have hkeep : Free a b (c :: dropLines false s) :=
        free_cons.mpr ⟨fun hpair => hc ⟨hpair.1, head_dropLines hb hpair.2⟩, free_dropLines hb hs⟩
      unfold dropLines
      split_ifs <;> assumption

/-! ## 3. Parts -/

/-- A part of a text in code, what it leaves, and the text after it. -/
inductive Part : List Char → List Char → List Char → Prop
  /-- A character that starts no mark. -/
  | char {c : Char} {s : List Char} (hl : ¬ (c = '-' ∧ s.head? = some '-'))
      (hb : ¬ (c = '/' ∧ s.head? = some '*')) : Part [c] [c] s
  /-- A line remark with its line break, which is code. -/
  | line {l : List Char} (s : List Char) (hl : '\n' ∉ l) : Part ('-' :: '-' :: (l ++ ['\n'])) ['\n'] s
  /-- A block with its closing mark. -/
  | block {b : List Char} (s : List Char) (hb : Free '*' '/' b) :
      Part ('/' :: '*' :: (b ++ ['*', '/'])) [] s

/-- A row of parts. -/
inductive Parts : List Char → Prop
  | nil : Parts []
  | part {x k s : List Char} (h : Part x k s) (hs : Parts s) : Parts (x ++ s)
  /-- A line remark on the last line. -/
  | lastLine {l : List Char} (hl : '\n' ∉ l) : Parts ('-' :: '-' :: l)
  /-- A block that does not close. -/
  | openBlock {b : List Char} (hb : Free '*' '/' b) : Parts ('/' :: '*' :: b)

/-- **Every text is a row of parts.** -/
theorem parts : ∀ s : List Char, Parts s
  | [] => .nil
  | c :: s => by
      by_cases hl : c = '-' ∧ s.head? = some '-'
      · obtain ⟨rfl, hs⟩ := hl
        obtain ⟨s, rfl⟩ := List.head?_eq_some_iff.mp hs
        by_cases hn : '\n' ∈ s
        · obtain ⟨l, t, rfl, hl⟩ := List.eq_append_cons_of_mem hn
          have h := Parts.part (.line t hl) (parts t)
          simpa using h
        · exact .lastLine hn
      · by_cases hb : c = '/' ∧ s.head? = some '*'
        · obtain ⟨rfl, hs⟩ := hb
          obtain ⟨s, rfl⟩ := List.head?_eq_some_iff.mp hs
          by_cases hclose : Free '*' '/' s
          · exact .openBlock hclose
          · obtain ⟨b, t, rfl, hfirst⟩ := exists_first_pair hclose
            have h := Parts.part (.block t ((free_append_singleton (by decide)).mp hfirst)) (parts t)
            simpa using h
        · exact .part (.char hl hb) (parts s)
termination_by s => s.length

namespace Part

variable {x k s : List Char}

/-- A part stays one when the text after it is cut. -/
theorem of_isPrefix (h : Part x k s) {p : List Char} (hp : p <+: s) : Part x k p := by
  have hhead : ∀ c, p.head? = some c → s.head? = some c := by
    intro c hc
    obtain ⟨q, rfl⟩ := hp
    rw [List.head?_append, hc]
    rfl
  cases h with
  | char hl hb => exact .char (fun h => hl ⟨h.1, hhead _ h.2⟩) (fun h => hb ⟨h.1, hhead _ h.2⟩)
  | line s hl => exact .line p hl
  | block s hb => exact .block p hb

/-- **After a part the scan is in code again**, and what the part leaves is its code. -/
theorem scan (h : Part x k s) : State.code.after x s = .code ∧ codeWithin .code x s = k := by
  cases h with
  | char hl hb => simp [State.after, codeWithin, step_code hl hb]
  | @line l s hl =>
      obtain ⟨hafter, hcode⟩ := scan_line (['\n'] ++ s) hl
      have hopen : State.code.after ['-', '-'] (l ++ ['\n'] ++ s) = .line := rfl
      have hnone : codeWithin .code ['-', '-'] (l ++ ['\n'] ++ s) = [] := rfl
      rw [show '-' :: '-' :: (l ++ ['\n']) = ['-', '-'] ++ (l ++ ['\n']) from rfl, after_append,
        codeWithin_append, hopen, hnone, after_append, codeWithin_append, hafter, hcode]
      exact ⟨rfl, rfl⟩
  | @block b s hb =>
      obtain ⟨hafter, hcode⟩ := scan_block (r := ['*', '/'] ++ s)
        ((free_append_singleton (by decide)).mpr hb)
      have hopen : State.code.after ['/', '*'] (b ++ ['*', '/'] ++ s) = .block := rfl
      have hnone : codeWithin .code ['/', '*'] (b ++ ['*', '/'] ++ s) = [] := rfl
      rw [show '/' :: '*' :: (b ++ ['*', '/']) = ['/', '*'] ++ (b ++ ['*', '/']) from rfl,
        after_append, codeWithin_append, hopen, hnone, after_append, codeWithin_append, hafter, hcode]
      exact ⟨rfl, rfl⟩

/-- A text that goes on as a part with a last character does takes in the part, or ends before that
character. -/
theorem prefix_cases {l s p r : List Char} {c : Char} (h : l ++ [c] ++ s = p ++ r) :
    l ++ [c] <+: p ∨ p <+: l := by
  rcases List.prefix_or_prefix_of_prefix ⟨s, h⟩ (List.prefix_append p r) with hlp | hpl
  · exact Or.inl hlp
  · rcases List.prefix_concat_iff.mp hpl with rfl | hpl
    · exact Or.inl List.prefix_rfl
    · exact Or.inr hpl

/-- The scan is in a line remark until the line breaks. -/
theorem after_line_ne {l s p r : List Char} (hl : '\n' ∉ l) (h : l ++ ['\n'] ++ s = p ++ r)
    (hcode : State.line.after p r = .code) : l ++ ['\n'] <+: p := by
  refine (prefix_cases h).resolve_right fun hp => ?_
  rw [(scan_line r fun hn => hl (hp.subset hn)).1] at hcode
  cases hcode

/-- The scan is in a block until its closing mark ends. -/
theorem after_block_ne {b s p r : List Char} (hb : Free '*' '/' b)
    (h : b ++ ['*', '/'] ++ s = p ++ r) (hcode : State.block.after p r = .code) :
    b ++ ['*', '/'] <+: p := by
  have hmark : b ++ ['*', '/'] = b ++ ['*'] ++ ['/'] := List.append_cons b '*' ['/']
  rw [hmark] at h ⊢
  refine (prefix_cases h).resolve_right fun hp => ?_
  rcases List.prefix_concat_iff.mp hp with rfl | hpb
  · -- on the slash the scan is still about to leave the block
    rw [List.append_assoc, List.append_cancel_left_eq] at h
    have hin := (scan_block (r := ['*'] ++ r) ((free_append_singleton (by decide)).mpr hb)).1
    rw [after_append, hin, ← h] at hcode
    cases hcode
  · obtain ⟨v, rfl⟩ := hpb
    have hr : r = v ++ '*' :: '/' :: s := by simpa using h.symm
    have hhead : r.head?.toList <+: v ++ ['*'] := by
      rw [hr]
      cases v <;> simp
    have hfree : Free '*' '/' (p ++ r.head?.toList) := by
      refine ((free_append_singleton (by decide)).mpr hb).mono ?_
      rw [List.append_assoc]
      exact ((List.prefix_append_right_inj p).mpr hhead).isInfix
    rw [(scan_block hfree).1] at hcode
    cases hcode

/-- The scan is not in code between the characters of a mark. -/
theorem behind_mark {a b : Char} {t p r : List Char} (h : a :: b :: t = p ++ r)
    (hmark : (State.code.step a (b :: t)).2 ≠ .code) (hcode : State.code.after p r = .code) :
    p = [] ∨ ∃ q, p = a :: b :: q ∧ t = q ++ r := by
  cases p with
  | nil => exact Or.inl rfl
  | cons c p =>
      simp only [List.cons_append, List.cons.injEq] at h
      obtain ⟨rfl, h⟩ := h
      cases p with
      | nil =>
          rw [List.nil_append] at h
          subst h
          exact (hmark hcode).elim
      | cons d p =>
          simp only [List.cons_append, List.cons.injEq] at h
          obtain ⟨rfl, h⟩ := h
          exact Or.inr ⟨p, rfl, h⟩

/-- **Within a part the scan is not in code**, but at its start. -/
theorem cut (h : Part x k s) {p r : List Char} (hpr : x ++ s = p ++ r)
    (hcode : State.code.after p r = .code) : p = [] ∨ x <+: p := by
  cases h with
  | @char c s hl hb =>
      cases p with
      | nil => exact Or.inl rfl
      | cons d p =>
          obtain ⟨rfl, -⟩ := List.cons.inj hpr
          exact Or.inr ⟨p, rfl⟩
  | @line l s hl =>
      refine (behind_mark hpr (by simp [State.step]) hcode).imp_right ?_
      rintro ⟨q, rfl, hq⟩
      obtain ⟨v, rfl⟩ := after_line_ne hl hq hcode
      exact ⟨v, rfl⟩
  | @block b s hb =>
      refine (behind_mark hpr (by simp [State.step]) hcode).imp_right ?_
      rintro ⟨q, rfl, hq⟩
      obtain ⟨v, rfl⟩ := after_block_ne hb hq hcode
      exact ⟨v, rfl⟩

/-- There is one part at a place. -/
theorem unique (h : Part x k s) {x' k' s' : List Char} (h' : Part x' k' s')
    (heq : x ++ s = x' ++ s') : x = x' := by
  have hne : ∀ {x k s : List Char}, Part x k s → x ≠ [] := by
    rintro x k s h rfl
    cases h
  have hle := (h.cut heq h'.scan.1).resolve_left (hne h')
  have hge := (h'.cut heq.symm h.scan.1).resolve_left (hne h)
  exact hle.eq_of_length (hle.length_le.antisymm hge.length_le)

end Part

/-! ## 4. Stripping a part -/

/-- The last line of a text. -/
def lastLine (s : List Char) : List Char := s.rtakeWhile (· != '\n')

theorem exists_lastLine (s : List Char) :
    '\n' ∉ lastLine s ∧ (s = lastLine s ∨ ∃ u, s = u ++ '\n' :: lastLine s) := by
  refine ⟨fun h => by simpa using List.mem_rtakeWhile_imp h, ?_⟩
  have hsplit : s.rdropWhile (· != '\n') ++ lastLine s = s := List.rdropWhile_append_rtakeWhile
  by_cases hnil : s.rdropWhile (· != '\n') = []
  · rw [hnil, List.nil_append] at hsplit
    exact Or.inl hsplit.symm
  · have hlast := List.rdropWhile_last_not (· != '\n') s hnil
    have hbreak : (s.rdropWhile (· != '\n')).getLast hnil = '\n' := by simpa using hlast
    refine Or.inr ⟨(s.rdropWhile (· != '\n')).dropLast, ?_⟩
    have hconcat := List.dropLast_append_getLast hnil
    rw [hbreak] at hconcat
    rw [List.append_cons, hconcat, hsplit]

/-- **A closing mark in sight ends the lines of a block.** -/
theorem dropLines_block {b : List Char} (hb : Free '-' '-' (lastLine b)) (s : List Char) :
    dropLines false (b ++ '*' :: '/' :: s) = dropLines false b ++ '*' :: '/' :: dropLines false s := by
  have hline : ∀ {v : List Char}, Free '-' '-' v →
      dropLines false (v ++ '*' :: '/' :: s) = dropLines false v ++ '*' :: '/' :: dropLines false s := by
    intro v hv
    have hv' : Free '-' '-' (v ++ ['*']) := free_append.mpr ⟨hv, free_of_notMem (by decide), by simp⟩
    rw [dropLines_append_free (t := '*' :: '/' :: s) hv', dropLines_free hv]
    exact congrArg (v ++ ·) (dropLines_append_notMem (x := ['*', '/']) (by decide) s)
  obtain ⟨-, heq | ⟨u, heq⟩⟩ := exists_lastLine b
  · rw [heq]
    exact hline hb
  · rw [heq, List.append_assoc, List.cons_append, dropLines_append_newline, hline hb,
      dropLines_append_newline, List.append_assoc, List.cons_append]

/-- A closing mark behind a line mark goes with the line remark. -/
theorem dropLines_hidden {b : List Char} (hb : ¬ Free '-' '-' (lastLine b)) :
    dropLines false (b ++ ['*', '/']) = dropLines false b := by
  have hline : ∀ {v : List Char}, '\n' ∉ v → ¬ Free '-' '-' v →
      dropLines false (v ++ ['*', '/']) = dropLines false v := by
    intro v hn hv
    obtain ⟨u, t, rfl, hu⟩ := exists_first_pair hv
    have hremark : ∀ {w : List Char}, '\n' ∉ w → dropLines false (u ++ '-' :: '-' :: w) = u := by
      intro w hw
      rw [dropLines_append_free (t := '-' :: '-' :: w) hu, dropLines_remark hw, List.append_nil]
    have ht : '\n' ∉ t := fun h =>
      hn (List.mem_append_right u (List.mem_cons_of_mem _ (List.mem_cons_of_mem _ h)))
    rw [List.append_assoc, List.cons_append, List.cons_append, hremark ht, hremark]
    simpa using ht
  obtain ⟨hn, heq | ⟨u, heq⟩⟩ := exists_lastLine b
  · rw [heq]
    exact hline hn hb
  · rw [heq, List.append_assoc, List.cons_append, dropLines_append_newline, hline hn hb,
      dropLines_append_newline]

/-- A block goes up to its closing mark. -/
theorem dropBlocks_inside {u : List Char} : ∀ {d : List Char}, Free '*' '/' d →
    dropBlocks .inside (d ++ '*' :: '/' :: u) = dropBlocks .outside u
  | [], _ => rfl
  | c :: d, h => by
      rw [free_cons] at h
      have hc : ¬ (c == '*' && (d ++ '*' :: '/' :: u).head? == some '/') = true := by
        rw [Bool.and_eq_true, beq_iff_eq, beq_iff_eq]
        rintro ⟨rfl, hhead⟩
        cases d with
        | nil => cases hhead
        | cons e d => exact h.1 ⟨rfl, hhead⟩
      rw [List.cons_append, dropBlocks, if_neg hc, dropBlocks_inside h.2]

/-- Without a closing mark there is no block. -/
theorem dropBlocks_unclosed : ∀ {s : List Char}, Free '*' '/' s → dropBlocks .outside s = s
  | [], _ => rfl
  | c :: s, h => by
      have hs := (free_cons.mp h).2
      have htail : closes s.tail = false :=
        closes_eq_false_iff.mpr (hs.mono (List.tail_suffix s).isInfix)
      have hc : ¬ (c == '/' && s.head? == some '*' && closes s.tail) = true := by simp [htail]
      rw [dropBlocks, if_neg hc, dropBlocks_unclosed hs]

/-- A block shows its closing mark to a reader of lines: no line mark comes before it on its line. -/
def Sighted (x : List Char) : Prop :=
  ∀ b, x = '/' :: '*' :: (b ++ ['*', '/']) → Free '*' '/' b → Free '-' '-' (lastLine b)

theorem strip_lastLine {l : List Char} (hl : '\n' ∉ l) : strip ('-' :: '-' :: l) = [] := by
  rw [strip, dropLines_remark hl]
  rfl

/-- **A part is stripped by itself**, if it is not a block that hides its closing mark. -/
theorem Part.strip {x k s : List Char} (h : Part x k s) (hx : Sighted x) :
    Remark.strip (x ++ s) = k ++ Remark.strip s := by
  cases h with
  | @char c s hl hb =>
      have hfirst : ∀ {a b : Char} {t : List Char}, ¬ (c = a ∧ t.head? = some b) →
          Free a b ([c] ++ t.head?.toList) := by
        intro a b t hpair
        refine free_cons.mpr ⟨?_, ?_⟩
        · cases t <;> exact hpair
        · cases t with
          | nil => exact free_nil
          | cons d t => exact free_cons.mpr ⟨by simp, free_nil⟩
      have hblock : ¬ (c = '/' ∧ (dropLines false s).head? = some '*') :=
        fun h => hb ⟨h.1, head_dropLines (by decide) h.2⟩
      rw [Remark.strip, dropLines_append_free (hfirst hl), dropBlocks_append_free (hfirst hblock)]
      rfl
  | @line l s hl =>
      have hline := dropLines_append_newline false ('-' :: '-' :: l) s
      rw [dropLines_remark hl, List.nil_append] at hline
      rw [show '-' :: '-' :: (l ++ ['\n']) ++ s = '-' :: '-' :: l ++ '\n' :: s by simp,
        Remark.strip, hline]
      rfl
  | @block b s hb =>
      have hmark : closes (dropLines false b ++ '*' :: '/' :: dropLines false s) = true := by
        rw [← Bool.not_eq_false, closes_eq_false_iff]
        exact fun hfree => hfree ⟨dropLines false b, dropLines false s, by simp⟩
      rw [show '/' :: '*' :: (b ++ ['*', '/']) ++ s = ['/', '*'] ++ (b ++ '*' :: '/' :: s) by simp,
        Remark.strip, dropLines_append_notMem (by decide), dropLines_block (hx b rfl hb)]
      simp only [List.cons_append, List.nil_append, dropBlocks, List.head?_cons, List.tail_cons,
        hmark, beq_self_eq_true, Bool.and_self, if_true]
      exact dropBlocks_inside (free_dropLines (by decide) hb)

/-- **A block that hides its closing mark is not stripped.** -/
theorem strip_hidden {b : List Char} (hb : Free '*' '/' b) (hl : ¬ Free '-' '-' (lastLine b)) :
    strip ('/' :: '*' :: (b ++ ['*', '/'])) = '/' :: '*' :: dropLines false b := by
  have hrest : Free '*' '/' (dropLines false b) := free_dropLines (by decide) hb
  have hopen : dropLines false ('/' :: '*' :: (b ++ ['*', '/'])) = '/' :: '*' :: dropLines false b := by
    have h := dropLines_append_notMem (x := ['/', '*']) (by decide) (b ++ ['*', '/'])
    rwa [dropLines_hidden hl] at h
  have hclose : closes (dropLines false b) = false := closes_eq_false_iff.mpr hrest
  rw [strip, hopen]
  simp [dropBlocks, hclose, dropBlocks_unclosed hrest]

end TableDraft.Select.Remark

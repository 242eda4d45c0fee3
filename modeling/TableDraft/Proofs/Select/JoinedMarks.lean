import TableDraft.Proofs.Select.RemarkParts
import TableDraft.Select.Statement

/-!
# Marks that meet when remarks are taken out

Stripping takes out line remarks and then blocks, once each, and puts nothing in the place of a block. So
the characters on the two sides of a row of blocks come to stand next to each other, and may make a mark
that the text does not have (`Meet`). Line remarks bring nothing together, since their line break stays.

* `strip_eq_self_iff`: stripping leaves a text alone exactly if it has no line mark and no block;
* `exists_before`, `exists_head`, `leftAt`: what is left before and behind a place of the text;
* **`Meet.left`: what meets stands together, and `meet_of_left`: nothing else comes together**;
* **`strip_complete_iff`: stripping leaves a line mark, or a block, exactly if one meets so**, and
  stripping again changes nothing exactly if it leaves neither.

Both happen (`strip_incomplete`): a dash on either side of a block make a line mark.
-/

namespace TableDraft.Select.Remark

/-! ## 1. Texts that are left alone -/

/-- The character opens no block that closes. -/
def OpensNone (a : Char) (q : List Char) : Prop :=
  ¬ (a = '/' ∧ q.head? = some '*' ∧ closes q.tail = true)

theorem opensNone_of_ne {a : Char} (h : a ≠ '/') (q : List Char) : OpensNone a q := fun hopen => h hopen.1

/-- No opening mark of a block is followed by a closing one. -/
def NoBlock (s : List Char) : Prop := ∀ p r, s = p ++ '/' :: '*' :: r → Free '*' '/' r

theorem noBlock_cons {c : Char} {s : List Char} :
    NoBlock (c :: s) ↔ OpensNone c s ∧ NoBlock s := by
  constructor
  · refine fun h => ⟨?_, fun p r hs => h (c :: p) r (by rw [hs]; rfl)⟩
    rintro ⟨rfl, hstar, hclose⟩
    obtain ⟨r, rfl⟩ := List.head?_eq_some_iff.mp hstar
    rw [List.tail_cons, closes_eq_false_iff.mpr (h [] r rfl)] at hclose
    cases hclose
  · rintro ⟨hc, h⟩ p r hs
    cases p with
    | cons d p =>
        obtain ⟨-, rfl⟩ := List.cons.inj hs
        exact h p r rfl
    | nil =>
        obtain ⟨rfl, rfl⟩ := List.cons.inj hs
        rw [← closes_eq_false_iff, ← Bool.not_eq_true]
        exact fun hclose => hc ⟨rfl, rfl, hclose⟩

theorem noBlock_of_free {s : List Char} (h : Free '*' '/' s) : NoBlock s := by
  rintro p r rfl
  exact h.mono (((List.suffix_cons _ _).trans (List.suffix_cons _ _)).trans
    (List.suffix_append p _)).isInfix

/-- **No line mark is left**: what is taken out ends at a line break, which stays. -/
theorem free_mark_dropLines : ∀ (m : Bool) (s : List Char), Free '-' '-' (dropLines m s)
  | true, [] => free_nil
  | false, [] => free_nil
  | true, c :: s => by
      rw [dropLines, if_pos rfl]
      split
      · rename_i hc
        refine free_cons.mpr ⟨fun h => ?_, free_mark_dropLines false s⟩
        rw [h.1] at hc
        cases hc
      · exact free_mark_dropLines true s
  | false, c :: s => by
      rw [dropLines, if_neg Bool.false_ne_true]
      split
      · exact free_mark_dropLines true s
      · rename_i hc
        refine free_cons.mpr ⟨fun h => hc ?_, free_mark_dropLines false s⟩
        rw [h.1, head_dropLines (by decide) h.2]
        rfl

theorem dropLines_eq_self_iff {s : List Char} : dropLines false s = s ↔ Free '-' '-' s :=
  ⟨fun h => h ▸ free_mark_dropLines false s, dropLines_free⟩

theorem dropBlocks_eq_self_iff : ∀ {s : List Char}, dropBlocks .outside s = s ↔ NoBlock s
  | [] => by simp [dropBlocks, NoBlock]
  | c :: s => by
      simp only [noBlock_cons, dropBlocks, Bool.and_eq_true, beq_iff_eq, and_assoc]
      split
      · rename_i hopen
        refine ⟨fun h => ?_, fun h => (h.1 hopen).elim⟩
        have hle := (dropBlocks_sublist .opening s).length_le
        rw [h, List.length_cons] at hle
        omega
      · rename_i hopen
        rw [List.cons_inj_right, dropBlocks_eq_self_iff]
        exact ⟨fun h => ⟨hopen, h⟩, fun h => h.2⟩

/-- **A text that stripping leaves alone** holds no line mark and no block. -/
theorem strip_eq_self_iff {s : List Char} : strip s = s ↔ Free '-' '-' s ∧ NoBlock s := by
  constructor
  · intro h
    have hlines : dropLines false s = s := by
      refine (dropLines_sublist false s).antisymm ?_
      have hsub := dropBlocks_sublist .outside (dropLines false s)
      rwa [← strip, h] at hsub
    refine ⟨dropLines_eq_self_iff.mp hlines, dropBlocks_eq_self_iff.mp ?_⟩
    rwa [strip, hlines] at h
  · rintro ⟨hline, hblock⟩
    rw [strip, dropLines_free hline, dropBlocks_eq_self_iff.mpr hblock]

/-! ## 2. Blocks in a row -/

/-- The text consists of closed blocks. -/
inductive Blocks : List Char → Prop
  | nil : Blocks []
  | block {b x : List Char} (hb : Free '*' '/' b) (hx : Blocks x) :
      Blocks ('/' :: '*' :: (b ++ ['*', '/']) ++ x)

/-- The pass for blocks takes out a block. -/
theorem dropBlocks_block {b : List Char} (hb : Free '*' '/' b) (s : List Char) :
    dropBlocks .outside ('/' :: '*' :: (b ++ ['*', '/']) ++ s) = dropBlocks .outside s := by
  have hmark : closes (b ++ ['*', '/'] ++ s) = true := by
    rw [← Bool.not_eq_false, closes_eq_false_iff]
    exact fun hfree => hfree ⟨b, s, by simp⟩
  rw [List.cons_append, List.cons_append, dropBlocks, List.head?_cons, List.tail_cons, hmark]
  simp only [beq_self_eq_true, Bool.and_self, if_true, dropBlocks]
  rw [List.append_assoc]
  exact dropBlocks_inside hb

theorem dropBlocks_blocks {x : List Char} (hx : Blocks x) (s : List Char) :
    dropBlocks .outside (x ++ s) = dropBlocks .outside s := by
  induction hx with
  | nil => rfl
  | block hb _ ih => rw [List.append_assoc, dropBlocks_block hb, ih]

/-- Behind the slash of a block that does not close all is left. -/
theorem dropBlocks_star {b : List Char} (hb : Free '*' '/' b) :
    dropBlocks .outside ('*' :: b) = '*' :: b :=
  dropBlocks_eq_self_iff.mpr (noBlock_cons.mpr ⟨opensNone_of_ne (by decide) _, noBlock_of_free hb⟩)

theorem opensNone_of_open {a : Char} {b : List Char} (hb : Free '*' '/' b) : OpensNone a ('*' :: b) := by
  have hclose : closes b = false := closes_eq_false_iff.mpr hb
  simp [OpensNone, hclose]

theorem dropBlocks_openBlock {b : List Char} (hb : Free '*' '/' b) :
    dropBlocks .outside ('/' :: '*' :: b) = '/' :: '*' :: b :=
  dropBlocks_eq_self_iff.mpr
    (noBlock_cons.mpr ⟨opensNone_of_open hb, dropBlocks_eq_self_iff.mp (dropBlocks_star hb)⟩)

/-- A part without a line mark leaves the same to the pass for blocks. -/
theorem Part.dropBlocks {x k s : List Char} (h : Part x k s) (hfree : Free '-' '-' (x ++ s)) :
    Remark.dropBlocks .outside (x ++ s) = k ++ Remark.dropBlocks .outside s := by
  cases h with
  | @char c s hl hb =>
      have hc : ¬ (c == '/' && s.head? == some '*' && closes s.tail) = true := by
        rw [Bool.and_eq_true, Bool.and_eq_true, beq_iff_eq, beq_iff_eq]
        exact fun h => hb h.1
      rw [List.singleton_append, Remark.dropBlocks, if_neg hc]
      rfl
  | line s hl => exact (hfree ⟨[], _, rfl⟩).elim
  | block s hb => exact dropBlocks_block hb s

/-! ## 3. Where characters meet -/

/-- The first character that is left stands behind blocks. -/
theorem exists_head {t : List Char} (hfree : Free '-' '-' t) {b : Char} {w : List Char}
    (h : dropBlocks .outside t = b :: w) :
    ∃ x r, t = x ++ b :: r ∧ Blocks x ∧ dropBlocks .outside r = w := by
  induction parts t with
  | nil => cases h
  | @part x k s hx _ ih =>
      have hs : Free '-' '-' s := hfree.mono (List.suffix_append x s).isInfix
      rw [hx.dropBlocks hfree] at h
      cases hx with
      | char hl hb =>
          obtain ⟨rfl, hw⟩ := List.cons.inj h
          exact ⟨[], s, rfl, .nil, hw⟩
      | line s hl => exact (hfree ⟨[], _, rfl⟩).elim
      | block s hb =>
          obtain ⟨x, r, rfl, hx, hw⟩ := ih hs h
          exact ⟨_, r, (List.append_assoc _ _ _).symm, .block hb hx, hw⟩
  | lastLine hl => exact (hfree ⟨[], _, rfl⟩).elim
  | @openBlock v hv =>
      rw [dropBlocks_openBlock hv] at h
      obtain ⟨rfl, rfl⟩ := List.cons.inj h
      exact ⟨[], '*' :: v, rfl, .nil, dropBlocks_star hv⟩

/-- A place in code keeps what is left after it apart from what is left before it. -/
theorem exists_before {t : List Char} (hfree : Free '-' '-' t) : ∀ {p q : List Char}, t = p ++ q →
    State.code.after p q = .code → ∃ v, dropBlocks .outside t = v ++ dropBlocks .outside q := by
  induction parts t with
  | nil =>
      intro p q h _
      obtain ⟨rfl, rfl⟩ := List.nil_eq_append_iff.mp h
      exact ⟨[], rfl⟩
  | @part x k s hx _ ih =>
      intro p q h hcode
      have hs : Free '-' '-' s := hfree.mono (List.suffix_append x s).isInfix
      rcases hx.cut h hcode with rfl | ⟨p, rfl⟩
      · exact ⟨[], by rw [h]; rfl⟩
      · rw [List.append_assoc, List.append_cancel_left_eq] at h
        rw [after_append, ← h, hx.scan.1] at hcode
        obtain ⟨v, hv⟩ := ih hs h hcode
        exact ⟨k ++ v, by rw [hx.dropBlocks hfree, hv, List.append_assoc]⟩
  | lastLine hl => exact (hfree ⟨[], _, rfl⟩).elim
  | @openBlock b hb =>
      intro p q h hcode
      rcases Part.behind_mark h (by simp [State.step]) hcode with rfl | ⟨p, rfl, rfl⟩
      · exact ⟨[], by rw [h]; rfl⟩
      · have hin : State.block.after p q = .block := by
          refine (scan_block (hb.mono ?_)).1
          cases q with
          | nil => exact List.infix_rfl
          | cons d q => exact ⟨[], q, by simp⟩
        have hblock : State.block.after p q = .code := hcode
        rw [hin] at hblock
        cases hblock

/-- The character stands in code of the text and opens no block there, and `u` is what is left behind
it; or all of that is in a block that does not close. -/
def LeftAt (t : List Char) (a : Char) (u : List Char) : Prop :=
  (∃ p q, t = p ++ a :: q ∧ State.code.after p (a :: q) = .code ∧ OpensNone a q ∧
    dropBlocks .outside q = u) ∨
  (a :: u <:+ t ∧ Free '*' '/' u)

theorem LeftAt.behind {x k s : List Char} (hx : Part x k s) {a : Char} {u : List Char}
    (h : LeftAt s a u) : LeftAt (x ++ s) a u := by
  rcases h with ⟨p, q, rfl, hcode, hnone, hu⟩ | ⟨hsuf, hu⟩
  · refine Or.inl ⟨x ++ p, q, (List.append_assoc x p _).symm, ?_, hnone, hu⟩
    rw [after_append, hx.scan.1, hcode]
  · exact Or.inr ⟨hsuf.trans (List.suffix_append x s), hu⟩

/-- **Every character that is left comes of a place of the text.** -/
theorem leftAt {t : List Char} (hfree : Free '-' '-' t) {a : Char} {u : List Char} :
    ∀ {v : List Char}, dropBlocks .outside t = v ++ a :: u → LeftAt t a u := by
  induction parts t with
  | nil =>
      intro v h
      cases v <;> cases h
  | @part x k s hx _ ih =>
      intro v h
      have hs : Free '-' '-' s := hfree.mono (List.suffix_append x s).isInfix
      rw [hx.dropBlocks hfree] at h
      cases hx with
      | @char c s hl hb =>
          cases v with
          | nil =>
              obtain ⟨rfl, hu⟩ := List.cons.inj h
              exact Or.inl ⟨[], s, rfl, rfl, fun hopen => hb ⟨hopen.1, hopen.2.1⟩, hu⟩
          | cons d v => exact (ih hs (List.cons.inj h).2).behind (.char hl hb)
      | line s hl => exact (hfree ⟨[], _, rfl⟩).elim
      | block s hb => exact (ih hs h).behind (.block s hb)
  | lastLine hl => exact (hfree ⟨[], _, rfl⟩).elim
  | @openBlock b hb =>
      intro v h
      rw [dropBlocks_openBlock hb] at h
      cases v with
      | nil =>
          obtain ⟨rfl, rfl⟩ := List.cons.inj h
          exact Or.inl ⟨[], '*' :: b, rfl, rfl, opensNone_of_open hb, dropBlocks_star hb⟩
      | cons d v =>
          -- behind the opening mark there is no closing one
          have htail : '*' :: b = v ++ a :: u := (List.cons.inj h).2
          refine Or.inr ⟨⟨'/' :: v, by rw [htail]; rfl⟩, hb.mono ?_⟩
          cases v with
          | nil => exact (List.cons.inj htail).2 ▸ List.infix_rfl
          | cons e v => exact ⟨v ++ [a], [], by simp [(List.cons.inj htail).2]⟩

/-- Two characters of code stand on the two sides of a row of blocks. -/
structure Meet (a b : Char) (t p x r : List Char) : Prop where
  text : t = p ++ a :: (x ++ b :: r)
  inCode : State.code.after p (a :: (x ++ b :: r)) = .code
  blocks : Blocks x
  ne_nil : x ≠ []

/-- **What meets over blocks stands together when they are taken out.** -/
theorem Meet.left {a b : Char} {t p x r : List Char} (h : Meet a b t p x r) (hb : b ≠ '/')
    (hfree : Free '-' '-' t) : ∃ v, dropBlocks .outside t = v ++ a :: b :: dropBlocks .outside r := by
  obtain ⟨v, hv⟩ := exists_before hfree h.text h.inCode
  have hfirst : dropBlocks .outside (a :: (x ++ b :: r)) = a :: dropBlocks .outside (x ++ b :: r) := by
    cases h.blocks with
    | nil => exact (h.ne_nil rfl).elim
    | block hb hx => simp [dropBlocks]
  have hsecond : dropBlocks .outside (b :: r) = b :: dropBlocks .outside r := by
    simp [dropBlocks, hb]
  exact ⟨v, by rw [hv, hfirst, dropBlocks_blocks h.blocks, hsecond]⟩

/-- Two characters that are left next to each other are so in the text, or meet over blocks, or stand in
a block that does not close. -/
theorem meet_of_left {a b : Char} {t v w : List Char} (hfree : Free '-' '-' t)
    (h : dropBlocks .outside t = v ++ a :: b :: w) :
    (∃ p r, t = p ++ a :: b :: r ∧ OpensNone a (b :: r) ∧ dropBlocks .outside r = w) ∨
    (∃ p x r, Meet a b t p x r ∧ dropBlocks .outside r = w) ∨
    (a :: b :: w <:+ t ∧ Free '*' '/' (b :: w)) := by
  rcases leftAt hfree h with ⟨p, q, rfl, hcode, hnone, hq⟩ | hopen
  · have hfreeq : Free '-' '-' q := hfree.mono ((List.suffix_cons a q).trans (List.suffix_append p _)).isInfix
    obtain ⟨x, r, rfl, hx, hr⟩ := exists_head hfreeq hq
    by_cases hnil : x = []
    · subst hnil
      exact Or.inl ⟨p, r, rfl, hnone, hr⟩
    · exact Or.inr (Or.inl ⟨p, x, r, ⟨rfl, hcode, hx, hnil⟩, hr⟩)
  · exact Or.inr (Or.inr hopen)

/-! ## 4. Marks that are left -/

section Pass

variable {t : List Char} (hfree : Free '-' '-' t)
include hfree

/-- The pass for blocks leaves a line mark exactly if two dashes meet. -/
theorem free_dropBlocks_iff :
    Free '-' '-' (dropBlocks .outside t) ↔ ∀ p x r, ¬ Meet '-' '-' t p x r := by
  constructor
  · intro hleft p x r hmeet
    obtain ⟨v, hv⟩ := hmeet.left (by decide) hfree
    exact hleft ⟨v, dropBlocks .outside r, by rw [hv]; simp⟩
  · intro hmeet
    by_contra hpair
    obtain ⟨v, w, hv, -⟩ := exists_first_pair hpair
    rcases meet_of_left hfree hv with ⟨p, r, rfl, -⟩ | ⟨p, x, r, h, -⟩ | ⟨⟨p, rfl⟩, -⟩
    · exact hfree ⟨p, r, by simp⟩
    · exact hmeet p x r h
    · exact hfree ⟨p, w, by simp⟩

/-- It leaves a block exactly if a slash and a star meet before a closing mark that is left. -/
theorem noBlock_dropBlocks_iff :
    NoBlock (dropBlocks .outside t) ↔
      ∀ p x r, Meet '/' '*' t p x r → closes (dropBlocks .outside r) = false := by
  constructor
  · intro hleft p x r hmeet
    obtain ⟨v, hv⟩ := hmeet.left (by decide) hfree
    exact closes_eq_false_iff.mpr (hleft v _ hv)
  · intro hmeet v w hv
    rcases meet_of_left hfree hv with ⟨p, r, -, hnone, rfl⟩ | ⟨p, x, r, h, rfl⟩ | ⟨-, hw⟩
    · have hr : Free '*' '/' r := by
        rw [← closes_eq_false_iff, ← Bool.not_eq_true]
        exact fun hclose => hnone ⟨rfl, rfl, hclose⟩
      rwa [dropBlocks_unclosed hr]
    · exact closes_eq_false_iff.mp (hmeet p x r h)
    · exact (free_cons.mp hw).2

end Pass

/-- **When stripping is complete.** It leaves a line mark exactly if two dashes of code meet over blocks
when the line remarks are out, and a block exactly if a slash and a star meet so and a closing mark is left
behind them; stripping again changes nothing exactly if it leaves neither. -/
theorem strip_complete_iff (s : List Char) :
    (Free '-' '-' (strip s) ↔ ∀ p x r, ¬ Meet '-' '-' (dropLines false s) p x r) ∧
    (NoBlock (strip s) ↔ ∀ p x r, Meet '/' '*' (dropLines false s) p x r →
      closes (dropBlocks .outside r) = false) ∧
    (strip (strip s) = strip s ↔ Free '-' '-' (strip s) ∧ NoBlock (strip s)) := by
  have hfree := free_mark_dropLines false s
  exact ⟨free_dropBlocks_iff hfree, noBlock_dropBlocks_iff hfree, strip_eq_self_iff⟩

/-- **Stripping is not complete**: two dashes around a block are left as a line mark, which the name of a
column may hold, and a slash and a star around one as the start of a block. -/
theorem strip_incomplete :
    strip "-/**/-".toList = "--".toList ∧ strip "--".toList = [] ∧
    strip "//**/*x*/".toList = "/*x*/".toList ∧
    parseFields "SELECT a -/* x */- b FROM t" = .ok [⟨"a -- b", none, "a -- b"⟩] ∧
    (¬ ∀ s, Free '-' '-' (strip s)) ∧ (¬ ∀ s, NoBlock (strip s)) ∧ ¬ ∀ s, strip (strip s) = strip s := by
  have hdash : strip "-/**/-".toList = "--".toList := by decide +kernel
  have hblock : strip "//**/*x*/".toList = "/*x*/".toList := by decide +kernel
  refine ⟨hdash, by decide +kernel, hblock, by decide +kernel, fun h => ?_, fun h => ?_, fun h => ?_⟩
  · have hfree := h "-/**/-".toList
    rw [hdash] at hfree
    exact hfree ⟨[], [], rfl⟩
  · have hfree := h "//**/*x*/".toList [] "x*/".toList hblock
    exact hfree ⟨['x'], [], rfl⟩
  · have hagain := h "-/**/-".toList
    rw [hdash] at hagain
    revert hagain
    decide +kernel

end TableDraft.Select.Remark

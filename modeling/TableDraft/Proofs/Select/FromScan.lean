import TableDraft.Proofs.Select.ListPieces
import TableDraft.Proofs.Select.Strip
import TableDraft.Proofs.Text.Keyword
import TableDraft.Select.Clause

/-!
# The scan for FROM

`FromAt s p q` says that FROM, in any case, stands in `s` between `p` and `q` with a blank or an end
of the text on either side. `beforeFrom` looks for one that is code at depth zero:

* **a part in which no such FROM starts is passed** (`beforeFrom_append_blank`), and a text without
  one has no end of a select list (`beforeFrom_quiet`);
* line remarks are passed whatever they hold (`beforeFrom_remark`, `beforeFrom_newline`);
* what was found is followed by FROM and ends in a blank (`beforeFrom_spec`), and **what follows that
  FROM may be exchanged** (`beforeFrom_of_tail`);
* `quiet_between` carries the absence of a free FROM from an expression to its surroundings.
-/

namespace TableDraft.Select

open Text Remark

/-! ## 1. A free FROM -/

/-- FROM stands in the text after `p` and before `q`, with a blank or an end of the text on either
side. -/
structure FromAt (s p q : List Char) : Prop where
  parts : ∃ w, sameIgnoringAsciiCase w "from".toList = true ∧ s = p ++ w ++ q
  before : ∀ c ∈ p.getLast?, isBlank c = true
  after : ∀ c ∈ q.head?, isBlank c = true

/-- For the letters of FROM, folding a character is lowering its ASCII case. -/
theorem letter_eq_iff {c k : Char} (hk : k ∈ "from".toList) : letter c = k ↔ c.toLower = k := by
  unfold letter
  have hks : 's' ≠ k ∧ 'k' ≠ k ∧ '\u017f' ≠ k ∧ '\u212a' ≠ k := by
    have hk' : k = 'f' ∨ k = 'r' ∨ k = 'o' ∨ k = 'm' := by simpa using hk
    rcases hk' with rfl | rfl | rfl | rfl <;> decide
  split
  · rename_i hc
    rw [beq_iff_eq] at hc
    obtain rfl : c = '\u017f' := Char.toNat_inj.mp hc
    exact iff_of_false hks.1 hks.2.2.1
  · split
    · rename_i hc
      rw [beq_iff_eq] at hc
      obtain rfl : c = '\u212a' := Char.toNat_inj.mp hc
      exact iff_of_false hks.2.1 hks.2.2.2
    · exact Iff.rfl

theorem map_letter_eq_from {w : List Char} :
    w.map letter = "from".toList ↔ sameIgnoringAsciiCase w "from".toList = true := by
  have key : ∀ (l : List Char), (∀ k ∈ l, k ∈ "from".toList) → ∀ w : List Char,
      w.map letter = l ↔ w.map Char.toLower = l := by
    intro l
    induction l with
    | nil => intro _ w; rw [List.map_eq_nil_iff, List.map_eq_nil_iff]
    | cons k l ih =>
        intro hl w
        cases w with
        | nil => simp
        | cons c w =>
            rw [List.map_cons, List.map_cons, List.cons.injEq, List.cons.injEq,
              letter_eq_iff (hl k List.mem_cons_self),
              ih (fun a ha => hl a (List.mem_cons_of_mem k ha))]
  rw [sameIgnoringAsciiCase, beq_iff_eq]
  exact key _ (fun _ h => h) w

theorem startsFrom_iff {s : List Char} : startsFrom s = true ↔
    ∃ w q, s = w ++ q ∧ w.map letter = "from".toList ∧ ∀ c ∈ q.head?, isBlank c = true := by
  unfold startsFrom
  constructor
  · intro h
    cases hd : dropKeyword "from".toList s with
    | none =>
        rw [hd] at h
        cases h
    | some q =>
        rw [hd] at h
        obtain ⟨w, hs, hw⟩ := dropKeyword_eq_some_iff.mp hd
        refine ⟨w, q, hs, hw, fun c hc => ?_⟩
        cases q with
        | nil => cases hc
        | cons b q => exact Option.some.inj hc ▸ h
  · rintro ⟨w, q, rfl, hw, hq⟩
    rw [← hw, dropKeyword_append_self]
    cases q with
    | nil => rfl
    | cons c q => exact hq c rfl

/-- A free FROM stands where FROM starts after a blank or at the start of the text. -/
theorem exists_fromAt_iff {s p : List Char} : (∃ q, FromAt s p q) ↔
    ∃ r, s = p ++ r ∧ endsIn isBlank true p = true ∧ startsFrom r = true := by
  have hends : endsIn isBlank true p = true ↔ ∀ c ∈ p.getLast?, isBlank c = true := by
    by_cases hp : p = []
    · simp [hp]
    · simp [endsIn_eq_getLast hp, List.getLast?_eq_some_getLast hp]
  constructor
  · rintro ⟨q, ⟨w, hw, rfl⟩, hbefore, hafter⟩
    refine ⟨w ++ q, List.append_assoc p w q, hends.mpr hbefore, ?_⟩
    exact startsFrom_iff.mpr ⟨w, q, rfl, map_letter_eq_from.mpr hw, hafter⟩
  · rintro ⟨r, rfl, hp, hr⟩
    obtain ⟨w, q, rfl, hw, hafter⟩ := startsFrom_iff.mp hr
    exact ⟨q, ⟨w, map_letter_eq_from.mp hw, (List.append_assoc p w q).symm⟩, hends.mp hp, hafter⟩

/-- **A blank hides what comes after it**: FROM at a place before it is FROM with or without the
rest. -/
theorem startsFrom_append_blank {b : Char} (hb : isBlank b = true) (s t : List Char) :
    startsFrom (s ++ b :: t) = startsFrom s := by
  unfold startsFrom
  rw [dropKeyword_append_break t (solid_from.letter_notMem hb)]
  cases dropKeyword "from".toList s with
  | none => rfl
  | some r =>
      cases r with
      | nil => exact hb
      | cons c r => rfl

/-! ## 2. Quiet parts -/

/-- At no place of the text, started at a depth and after a blank or not, would the scan stop in
code. -/
def Quiet (d : Int) (afterBlank : Bool) (s : List Char) : Prop :=
  ∀ p q, s = p ++ q → depthAfter d p = 0 → endsIn isBlank afterBlank p = true →
    startsFrom q = false

theorem Quiet.tail {d : Int} {ab : Bool} {c : Char} {s : List Char} (h : Quiet d ab (c :: s)) :
    Quiet (d + depthStep c) (isBlank c) s :=
  fun p q hs => h (c :: p) q (by rw [hs]; rfl)

theorem Quiet.head {d : Int} {ab : Bool} {s : List Char} (h : Quiet d ab s) :
    (d == 0 && ab && startsFrom s) = false := by
  rw [Bool.and_eq_false_iff, Bool.and_eq_false_iff, beq_eq_false_iff_ne]
  by_cases hd : d = 0
  · cases hab : ab with
    | false => exact Or.inl (Or.inr rfl)
    | true => exact Or.inr (h [] s rfl hd hab)
  · exact Or.inl (Or.inl hd)

/-- The places where the scan would stop are those of a free FROM at the depth. -/
theorem quiet_iff {s : List Char} :
    Quiet 0 true s ↔ ∀ p q, FromAt s p q → depthAfter 0 p ≠ 0 := by
  constructor
  · intro h p q hf hdepth
    obtain ⟨r, hs, hp, hr⟩ := exists_fromAt_iff.mp ⟨q, hf⟩
    rw [h p r hs hdepth hp] at hr
    cases hr
  · intro h p r hs hdepth hp
    rw [← Bool.not_eq_true]
    intro hr
    obtain ⟨q, hf⟩ := exists_fromAt_iff.mpr ⟨r, hs, hp, hr⟩
    exact h p q hf hdepth

/-- In code, a character that starts no mark and no FROM is passed. -/
theorem beforeFrom_code_cons {d : Int} {ab : Bool} {c : Char} {s : List Char}
    (hl : ¬ (c = '-' ∧ s.head? = some '-')) (hb : ¬ (c = '/' ∧ s.head? = some '*'))
    (hf : (d == 0 && ab && startsFrom (c :: s)) = false) :
    beforeFrom .code d ab (c :: s) =
      (beforeFrom .code (d + depthStep c) (isBlank c) s).map (c :: ·) := by
  have hstep := step_code hl hb
  simp only [beforeFrom, hstep, Bool.true_and, hf, Bool.false_eq_true, if_false, if_true]

/-- **A quiet part without marks is passed** up to the blank after it. -/
theorem beforeFrom_append_blank {b : Char} (hblank : isBlank b = true) (t : List Char) :
    ∀ {s : List Char} {d : Int} {ab : Bool}, Free '-' '-' s → Free '/' '*' s → Quiet d ab s →
    beforeFrom .code d ab (s ++ b :: t) =
      (beforeFrom .code (depthAfter d s) true t).map (s ++ b :: ·)
  | [], d, ab, _, _, _ => by
      have hpar : b ≠ '(' ∧ b ≠ ')' ∧ b ≠ '-' ∧ b ≠ '/' := by
        refine ⟨?_, ?_, ?_, ?_⟩ <;> exact ne_of_isBlank hblank (by decide)
      have hf : startsFrom (b :: t) = false := startsFrom_append_blank hblank [] t
      have h : beforeFrom .code d ab (b :: t) =
          (beforeFrom .code (d + depthStep b) (isBlank b) t).map (b :: ·) :=
        beforeFrom_code_cons (fun h => hpar.2.2.1 h.1) (fun h => hpar.2.2.2 h.1)
          (by rw [hf, Bool.and_false])
      rw [depthStep_eq_zero hpar.1 hpar.2.1, Int.add_zero, hblank] at h
      exact h
  | c :: s, d, ab, hl, hb, hq => by
      rw [free_cons] at hl hb
      have hhead : ∀ k, isBlank k = false → (s ++ b :: t).head? = some k → s.head? = some k := by
        intro k hk hs
        cases s with
        | nil =>
            obtain rfl := Option.some.inj hs
            rw [hblank] at hk
            cases hk
        | cons e s => exact hs
      have hf : (d == 0 && ab && startsFrom (c :: (s ++ b :: t))) = false := by
        rw [← List.cons_append, startsFrom_append_blank hblank]
        exact hq.head
      have h := beforeFrom_code_cons (fun h => hl.1 ⟨h.1, hhead '-' (by decide) h.2⟩)
        (fun h => hb.1 ⟨h.1, hhead '*' (by decide) h.2⟩) hf
      rw [List.cons_append, h, beforeFrom_append_blank hblank t hl.2 hb.2 hq.tail, Option.map_map]
      rfl

/-- **A quiet text without marks has no end of a select list.** -/
theorem beforeFrom_quiet : ∀ {s : List Char} {d : Int} {ab : Bool}, Free '-' '-' s →
    Free '/' '*' s → Quiet d ab s → beforeFrom .code d ab s = none
  | [], _, _, _, _, _ => rfl
  | c :: s, d, ab, hl, hb, hq => by
      rw [free_cons] at hl hb
      rw [beforeFrom_code_cons hl.1 hb.1 hq.head, beforeFrom_quiet hl.2 hb.2 hq.tail]
      rfl

/-- The scan stops at FROM in code, at depth zero and after a blank. -/
theorem beforeFrom_stop {w t : List Char} (hw : sameIgnoringAsciiCase w "from".toList = true)
    (ht : ∀ c ∈ t.head?, isBlank c = true) : beforeFrom .code 0 true (w ++ t) = some [] := by
  rw [← map_letter_eq_from] at hw
  have hstart : startsFrom (w ++ t) = true := startsFrom_iff.mpr ⟨w, t, rfl, hw, ht⟩
  cases w with
  | nil => cases hw
  | cons c w =>
      have hc : letter c = 'f' := (List.cons.inj hw).1
      have hne : c ≠ '-' ∧ c ≠ '/' := by
        refine ⟨?_, ?_⟩ <;>
        · rintro rfl
          exact absurd hc (by decide)
      have hstep : State.code.step c (w ++ t) = (true, .code) := by
        simp [State.step, hne.1, hne.2]
      rw [List.cons_append] at hstart ⊢
      simp [beforeFrom, hstep, hstart]

/-! ## 3. Remarks -/

/-- What a step looks at: the state, the character and the one after it. -/
theorem step_congr {s t : List Char} (h : s.head? = t.head?) (st : State) (c : Char) :
    st.step c s = st.step c t := by
  cases st <;> simp only [State.step, h]

/-- A character that is no code is passed. -/
theorem beforeFrom_pass {st next : State} {c : Char} {s : List Char}
    (h : st.step c s = (false, next)) (d : Int) (ab : Bool) :
    beforeFrom st d ab (c :: s) = (beforeFrom next d (isBlank c) s).map (c :: ·) := by
  rw [beforeFrom, h]
  rfl

theorem beforeFrom_line : ∀ {s : List Char} (t : List Char) (d : Int) (ab : Bool), '\n' ∉ s →
    beforeFrom .line d ab (s ++ t) = (beforeFrom .line d (endsIn isBlank ab s) t).map (s ++ ·)
  | [], t, d, ab, _ => by simp
  | c :: s, t, d, ab, h => by
      rw [List.mem_cons, not_or] at h
      have hstep : State.line.step c (s ++ t) = (false, .line) := by
        rw [State.step, if_neg]
        rw [beq_iff_eq]
        exact Ne.symm h.1
      rw [List.cons_append, beforeFrom_pass hstep, beforeFrom_line t d (isBlank c) h.2,
        Option.map_map]
      rfl

/-- **A line remark is passed**, whatever it holds. -/
theorem beforeFrom_remark {s : List Char} (hs : '\n' ∉ s) (t : List Char) (d : Int) (ab : Bool) :
    beforeFrom .code d ab ('-' :: '-' :: (s ++ t)) =
      (beforeFrom .line d (endsIn isBlank false s) t).map ('-' :: '-' :: s ++ ·) := by
  have h := beforeFrom_line t d false (s := '-' :: s) (by simpa using hs)
  have hstep : State.code.step '-' ('-' :: (s ++ t)) = (false, .line) := rfl
  rw [beforeFrom_pass hstep, show isBlank '-' = false from rfl, ← List.cons_append, h,
    Option.map_map]
  rfl

/-- The line break after a remark, or in code, is code itself. -/
theorem beforeFrom_newline {st : State} (hst : st = .code ∨ st = .line) (d : Int) (ab : Bool)
    (t : List Char) :
    beforeFrom st d ab ('\n' :: t) = (beforeFrom .code d true t).map ('\n' :: ·) := by
  have hstep : st.step '\n' t = (true, .code) := by
    rcases hst with rfl | rfl <;> rfl
  have hf : startsFrom ('\n' :: t) = false := startsFrom_append_blank (b := '\n') rfl [] t
  simp only [beforeFrom, hstep, hf, Bool.and_false, Bool.false_eq_true, if_false, if_true]
  rw [show d + depthStep '\n' = d from Int.add_zero d]
  rfl

/-! ## 4. What the scan found -/

/-- **What was found is followed by FROM and ends in a blank.** -/
theorem beforeFrom_spec : ∀ {s : List Char} {st : State} {d : Int} {ab : Bool} {p : List Char},
    beforeFrom st d ab s = some p →
    ∃ q, s = p ++ q ∧ startsFrom q = true ∧ endsIn isBlank ab p = true
  | [], _, _, _, _, h => by cases h
  | c :: s, st, d, ab, p, h => by
      simp only [beforeFrom] at h
      split at h
      · rename_i hstop
        obtain rfl := Option.some.inj h
        simp only [Bool.and_eq_true] at hstop
        exact ⟨c :: s, rfl, hstop.2, hstop.1.2⟩
      · obtain ⟨p', hp', rfl⟩ := Option.map_eq_some_iff.mp h
        obtain ⟨q, rfl, hq, hblank⟩ := beforeFrom_spec hp'
        exact ⟨q, rfl, hq, hblank⟩

theorem beforeFrom_isPrefix {s p : List Char} {st : State} {d : Int} {ab : Bool}
    (h : beforeFrom st d ab s = some p) : p <+: s := by
  obtain ⟨q, hs, -⟩ := beforeFrom_spec h
  exact ⟨q, hs.symm⟩

/-- A text that ends in a blank, as what the scan found does, decides on every FROM in it. -/
theorem startsFrom_append_of_endsIn {s : List Char} {ab : Bool} (hne : s ≠ [])
    (h : endsIn isBlank ab s = true) (t : List Char) : startsFrom (s ++ t) = startsFrom s := by
  obtain ⟨r, b, rfl⟩ := (List.eq_nil_or_concat' s).resolve_left hne
  rw [endsIn_append] at h
  rw [List.append_assoc, List.singleton_append, startsFrom_append_blank h,
    startsFrom_append_blank (b := b) h r []]

theorem head?_middle {w : List Char} (hw : w ≠ []) (p t t' : List Char) :
    (p ++ (w ++ t)).head? = (p ++ (w ++ t')).head? := by
  cases p with
  | cons c p => rfl
  | nil =>
      cases w with
      | nil => exact absurd rfl hw
      | cons c w => rfl

/-- A scan that stops at a FROM stops there whatever follows the FROM. -/
theorem beforeFrom_stop_of_tail {w t t' : List Char} (hw : w.map letter = "from".toList)
    (ht' : ∀ c ∈ t'.head?, isBlank c = true) {st : State} {d : Int} {ab : Bool}
    (h : beforeFrom st d ab (w ++ t) = some []) : beforeFrom st d ab (w ++ t') = some [] := by
  have hstart : startsFrom (w ++ t') = true := startsFrom_iff.mpr ⟨w, t', rfl, hw, ht'⟩
  cases w with
  | nil => cases hw
  | cons c w =>
      have hwne : w ≠ [] := by
        rintro rfl
        simpa using congrArg List.length hw
      have hstep : st.step c (w ++ t') = st.step c (w ++ t) :=
        step_congr (head?_middle hwne [] t' t) st c
      rw [List.cons_append] at h hstart ⊢
      simp only [beforeFrom] at h
      split at h
      · rename_i hstop
        simp only [Bool.and_eq_true] at hstop
        simp [beforeFrom, hstep, hstart, hstop.1.1.1, hstop.1.1.2, hstop.1.2]
      · obtain ⟨p', -, hp'⟩ := Option.map_eq_some_iff.mp h
        cases hp'

/-- **What follows the FROM that was found may be exchanged** for any text that starts with a blank
or is empty. -/
theorem beforeFrom_of_tail {w t t' : List Char} (hw : w.map letter = "from".toList)
    (ht' : ∀ c ∈ t'.head?, isBlank c = true) :
    ∀ {p : List Char} {st : State} {d : Int} {ab : Bool},
    beforeFrom st d ab (p ++ (w ++ t)) = some p → beforeFrom st d ab (p ++ (w ++ t')) = some p
  | [], st, d, ab, h => beforeFrom_stop_of_tail hw ht' h
  | c :: p, st, d, ab, h => by
      obtain ⟨q, hs, hq, hblank⟩ := beforeFrom_spec h
      have hstep : st.step c (p ++ (w ++ t')) = st.step c (p ++ (w ++ t)) :=
        step_congr (head?_middle (solid_from.ne_nil_of_letters hw) p t' t) st c
      have hstart : startsFrom (c :: (p ++ (w ++ t'))) = startsFrom (c :: (p ++ (w ++ t))) := by
        have hne : c :: p ≠ [] := List.cons_ne_nil c p
        rw [← List.cons_append, ← List.cons_append, startsFrom_append_of_endsIn hne hblank,
          startsFrom_append_of_endsIn hne hblank]
      rw [List.cons_append] at h ⊢
      simp only [beforeFrom, hstep, hstart] at h ⊢
      split at h
      · cases h
      · rename_i hstop
        obtain ⟨p', hp', hcons⟩ := Option.map_eq_some_iff.mp h
        rw [(List.cons.inj hcons).2] at hp'
        rw [if_neg hstop, beforeFrom_of_tail hw ht' hp']
        rfl

/-- Blanks after a text do not move what was found. -/
theorem beforeFrom_append_blanks {s y p : List Char} (hy : isBlankText y = true) {st : State} {d : Int}
    {ab : Bool} (h : beforeFrom st d ab s = some p) : beforeFrom st d ab (s ++ y) = some p := by
  obtain ⟨q, rfl, hq, -⟩ := beforeFrom_spec h
  obtain ⟨w, t, rfl, hw, ht⟩ := startsFrom_iff.mp hq
  rw [List.append_assoc, List.append_assoc]
  refine beforeFrom_of_tail hw (fun c hc => ?_) h
  cases t with
  | nil => exact isBlankText_iff.mp hy c (List.mem_of_head? hc)
  | cons b t => exact ht c hc

/-! ## 5. From an expression to its surroundings -/

/-- A text of characters that are no letters of FROM, such as blanks and commas. -/
def NoLetter (s : List Char) : Prop := ∀ c ∈ s, letter c ∉ "from".toList

theorem noLetter_of_blank {s : List Char} (hs : isBlankText s = true) : NoLetter s :=
  fun c hc => solid_from.letter_notMem (isBlankText_iff.mp hs c hc)

theorem quiet_of_noLetter {s : List Char} (h : NoLetter s) (d : Int) (ab : Bool) :
    Quiet d ab s := by
  rintro p q rfl - -
  rw [← Bool.not_eq_true, startsFrom_iff]
  rintro ⟨w, r, rfl, hw, -⟩
  cases w with
  | nil => cases hw
  | cons c w =>
      refine h c ?_ ?_
      · exact List.mem_append_right p List.mem_cons_self
      · rw [← hw]
        exact List.mem_cons_self

/-- A word stands in the middle part of a text when the parts around have none of its characters. -/
theorem exists_between {x e y p w q : List Char} (hw : w ≠ []) (hx : ∀ c ∈ w, c ∉ x)
    (hy : ∀ c ∈ w, c ∉ y) (h : x ++ e ++ y = p ++ (w ++ q)) :
    ∃ p' q', p = x ++ p' ∧ q = q' ++ y ∧ e = p' ++ w ++ q' := by
  obtain ⟨p', rfl, hp'⟩ : ∃ p', p = x ++ p' ∧ e ++ y = p' ++ (w ++ q) := by
    rw [List.append_assoc] at h
    rcases List.append_eq_append_iff.mp h with ⟨u, hu, hu'⟩ | ⟨u, hu, hu'⟩
    · exact ⟨u, hu, hu'⟩
    · cases u with
      | nil => exact ⟨[], by simpa using hu.symm, by simpa using hu'.symm⟩
      | cons c u =>
          cases w with
          | nil => exact absurd rfl hw
          | cons d w =>
              obtain ⟨rfl, -⟩ := List.cons.inj hu'
              refine absurd ?_ (hx d List.mem_cons_self)
              rw [hu]
              exact List.mem_append_right p List.mem_cons_self
  rw [← List.append_assoc] at hp'
  rcases List.append_eq_append_iff.mp hp' with ⟨u, hu, hu'⟩ | ⟨u, hu, hu'⟩
  · rcases List.eq_nil_or_concat' u with rfl | ⟨v, c, rfl⟩
    · exact ⟨p', [], rfl, by simpa using hu'.symm, by simpa using hu.symm⟩
    · have hlast : w.getLast hw = c := by
        have h1 := congrArg List.getLast? hu
        rw [List.getLast?_append_of_ne_nil _ hw, List.getLast?_eq_some_getLast hw,
          ← List.append_assoc, List.getLast?_concat] at h1
        exact Option.some.inj h1
      refine absurd ?_ (hy c (hlast ▸ List.getLast_mem hw))
      rw [hu']
      exact List.mem_append_left q (List.mem_append_right v List.mem_cons_self)
  · exact ⟨p', u, rfl, hu', hu⟩

/-- **Where an expression has no free FROM at depth zero, its surroundings have none.** -/
theorem quiet_between {x e y : List Char} (hx : NoLetter x) (hxp : NoParen x) (hy : NoLetter y)
    (he : ∀ p q, FromAt e p q → depthAfter 0 p ≠ 0) (ab : Bool) : Quiet 0 ab (x ++ e ++ y) := by
  intro p s hs hdepth hblank
  rw [← Bool.not_eq_true, startsFrom_iff]
  rintro ⟨w, q, rfl, hw, hq⟩
  have hletter : ∀ c ∈ w, letter c ∈ "from".toList := fun c hc => hw ▸ List.mem_map_of_mem hc
  obtain ⟨p', q', rfl, rfl, rfl⟩ := exists_between (solid_from.ne_nil_of_letters hw)
    (fun c hc hcx => hx c hcx (hletter c hc)) (fun c hc hcy => hy c hcy (hletter c hc)) hs
  rw [depthAfter_append, depthAfter_noParen hxp] at hdepth
  refine he p' q' ⟨⟨w, map_letter_eq_from.mp hw, rfl⟩, fun c hc => ?_, fun c hc => ?_⟩ hdepth
  · have hne : p' ≠ [] := by
      rintro rfl
      cases hc
    rw [endsIn_append, endsIn_eq_getLast hne] at hblank
    rw [List.getLast?_eq_some_getLast hne] at hc
    exact Option.some.inj hc ▸ hblank
  · refine hq c ?_
    rw [List.head?_append, Option.mem_def.mp hc]
    rfl

end TableDraft.Select

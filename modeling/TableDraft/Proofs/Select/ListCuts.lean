import TableDraft.Proofs.Select.ListPieces
import TableDraft.Select.Statement

/-!
# Where a list is cut

A list is the texts between its commas at depth zero, with those commas, and the text after the last of
them. One pass over the list finds them, with the depth that it is at, the text since the last such
comma, and whether the depth has been below zero.

* `depthAfter_eq_count`, `balanced_iff_matched`: balance by counting parentheses, and
  `natAbs_depthAfter_le`: how many of them a depth takes;
* `AtCommas`, **`AtCommas.pieces_eq`: the pieces are the trimmed texts at such commas**, and
  `AtCommas.unique`: a text is cut in one way;
* `Pass.reads_step`, **`Pass.reads_run`: what the pass knows after each character**, and
  `Pass.outcome_run`: at the end it knows the pieces and the balance;
* `Expression`, `expression_of_mem_pieces`: what cutting a balanced list gives;
* `splitFields_cuts`: which lists are cut, where, and which lists are given back.
-/

namespace TableDraft.Select

open Text

/-! ## 1. Counting parentheses -/

/-- The depth is how many parentheses were opened and not closed. -/
theorem depthAfter_eq_count (s : List Char) :
    depthAfter 0 s = (s.count '(' : Int) - s.count ')' := by
  induction s with
  | nil => rfl
  | cons c s ih =>
      rw [depthAfter_cons, depthAfter_eq_add, ih, List.count_cons, List.count_cons]
      by_cases ho : c = '('
      · subst ho
        simp [depthStep]
        omega
      · by_cases hc : c = ')'
        · subst hc
          simp [depthStep]
          omega
        · simp [depthStep, ho, hc]

/-- No prefix has more closing than opening parentheses, and there are as many of both. -/
def Matched (s : List Char) : Prop :=
  (∀ p, p <+: s → p.count ')' ≤ p.count '(') ∧ s.count '(' = s.count ')'

theorem balanced_iff_matched {s : List Char} : Balanced s ↔ Matched s := by
  refine and_congr (forall_congr' fun p => imp_congr_right fun _ => ?_) ?_
  · rw [depthAfter_eq_count]
    omega
  · rw [depthAfter_eq_count]
    omega

instance decidableMatched (s : List Char) : Decidable (Matched s) :=
  decidable_of_iff _ balanced_iff_matched

/-- The number of parentheses of a text. -/
def parens (s : List Char) : Nat := s.count '(' + s.count ')'

theorem parens_append (s t : List Char) : parens (s ++ t) = parens s + parens t := by
  simp only [parens, List.count_append]
  omega

theorem parens_le_of_sublist {s t : List Char} (h : s.Sublist t) : parens s ≤ parens t :=
  Nat.add_le_add (h.count_le '(') (h.count_le ')')

/-- The depth of what is taken from a text is at most the text's number of parentheses. -/
theorem natAbs_depthAfter_le {p s : List Char} (h : p.Sublist s) : (depthAfter 0 p).natAbs ≤ parens s := by
  refine Nat.le_trans ?_ (parens_le_of_sublist h)
  rw [depthAfter_eq_count, parens]
  omega

/-- Two to the power of 31: a counter of 32 bits, with a sign, goes up to one less. -/
def counterLimit : Nat := 2147483648

/-- Such a counter holds the depth. -/
def Countable (d : Int) : Prop := -(counterLimit : Int) ≤ d ∧ d < counterLimit

instance decidableCountable (d : Int) : Decidable (Countable d) := inferInstanceAs (Decidable (_ ∧ _))

theorem countable_of_natAbs_lt {d : Int} (h : d.natAbs < counterLimit) : Countable d := by
  unfold Countable
  omega

theorem le_natAbs_of_not_countable {d : Int} (h : ¬ Countable d) : counterLimit ≤ d.natAbs :=
  Nat.not_lt.mp fun hlt => h (countable_of_natAbs_lt hlt)

/-! ## 2. The texts between the commas -/

/-- The text is these texts with a comma after each, and the last one: the commas are those at depth
zero. -/
structure AtCommas (s : List Char) (ps : List (List Char)) (last : List Char) : Prop where
  text : s = ps.flatMap (· ++ [',']) ++ last
  between : ∀ p ∈ ps, Whole 0 p ∧ depthAfter 0 p = 0
  rest : Whole 0 last

/-- What follows the last comma counts unless it is blank. -/
def ending (last : List Char) : List (List Char) := if isBlankText last then [] else [trim last]

theorem dropEmptyLast_concat_trim (last : List Char) : ∀ ps : List (List Char),
    dropEmptyLast (ps ++ [trim last]) = ps ++ ending last
  | [] => by
      rw [List.nil_append, List.nil_append, dropEmptyLast, ending]
      refine ite_congr (propext ?_) (fun _ => rfl) fun _ => rfl
      rw [List.isEmpty_iff, trim_eq_nil_iff]
  | p :: ps => by
      have hne : ps ++ [trim last] ≠ [] :=
        List.append_ne_nil_of_right_ne_nil ps (List.cons_ne_nil _ _)
      obtain ⟨q, r, hqr⟩ := List.exists_cons_of_ne_nil hne
      rw [List.cons_append, hqr, dropEmptyLast, ← hqr, dropEmptyLast_concat_trim last ps,
        List.cons_append]

namespace AtCommas

variable {last : List Char}

theorem cut_flatMap : ∀ {ps : List (List Char)}, (∀ p ∈ ps, Whole 0 p ∧ depthAfter 0 p = 0) →
    Whole 0 last → cut 0 (ps.flatMap (· ++ [',']) ++ last) = ps ++ [last]
  | [], _, hlast => cut_whole hlast
  | p :: ps, hps, hlast => by
      obtain ⟨hwhole, hdepth⟩ := hps p List.mem_cons_self
      have ih := cut_flatMap (fun q hq => hps q (List.mem_cons_of_mem p hq)) hlast
      rw [List.flatMap_cons, List.append_assoc, List.append_assoc, List.singleton_append,
        cut_append_whole _ hwhole, hdepth, cut_comma, ih, List.modifyHead_cons, List.append_nil,
        List.cons_append]

variable {s : List Char} {ps : List (List Char)}

theorem cut_eq (h : AtCommas s ps last) : cut 0 s = ps ++ [last] := by
  rw [h.text]
  exact cut_flatMap h.between h.rest

/-- A text is cut in one way. -/
theorem unique {ps' : List (List Char)} {last' : List Char} (h : AtCommas s ps last)
    (h' : AtCommas s ps' last') : ps = ps' ∧ last = last' := by
  have hcut : ps ++ [last] = ps' ++ [last'] := by rw [← h.cut_eq, h'.cut_eq]
  obtain ⟨hps, hlast⟩ := List.append_inj' hcut rfl
  exact ⟨hps, List.singleton_inj.mp hlast⟩

/-- **The pieces are the trimmed texts at the commas.** -/
theorem pieces_eq (h : AtCommas s ps last) : pieces s = ps.map trim ++ ending last := by
  rw [pieces, h.cut_eq, List.map_append, List.map_cons, List.map_nil, dropEmptyLast_concat_trim]

theorem depth_flatMap : ∀ {ps : List (List Char)}, (∀ p ∈ ps, Whole 0 p ∧ depthAfter 0 p = 0) →
    depthAfter 0 (ps.flatMap (· ++ [','])) = 0
  | [], _ => rfl
  | p :: ps, hps => by
      have hcomma : depthAfter 0 [','] = 0 := rfl
      rw [List.flatMap_cons, depthAfter_append, depthAfter_append, (hps p List.mem_cons_self).2,
        hcomma]
      exact depth_flatMap fun q hq => hps q (List.mem_cons_of_mem p hq)

/-- The depth is the one since the last comma. -/
theorem depth_eq (h : AtCommas s ps last) : depthAfter 0 s = depthAfter 0 last := by
  rw [h.text, depthAfter_append, depth_flatMap h.between]

/-- A character that is no comma at depth zero belongs to the last text. -/
theorem snoc {c : Char} (h : AtCommas s ps last) (hc : ¬ (c = ',' ∧ depthAfter 0 s = 0)) :
    AtCommas (s ++ [c]) ps (last ++ [c]) := by
  refine ⟨by rw [h.text, List.append_assoc], h.between, h.rest.append ?_⟩
  rw [← h.depth_eq, whole_cons]
  exact ⟨hc, whole_noComma List.not_mem_nil _⟩

/-- A comma at depth zero ends the last text. -/
theorem comma (h : AtCommas s ps last) (hdepth : depthAfter 0 s = 0) :
    AtCommas (s ++ [',']) (ps ++ [last]) [] := by
  refine ⟨?_, fun p hp => ?_, whole_noComma List.not_mem_nil 0⟩
  · rw [h.text, List.flatMap_append, List.flatMap_singleton, List.append_nil, List.append_assoc]
  · rcases List.mem_append.mp hp with hp | hp
    · exact h.between p hp
    · obtain rfl := List.mem_singleton.mp hp
      exact ⟨h.rest, h.depth_eq ▸ hdepth⟩

end AtCommas

/-! ## 3. One pass over a list -/

/-- What one pass over a list knows: the pieces up to the last comma at depth zero, the text since then,
the depth, and whether the depth was never below zero. -/
structure Pass where
  finished : List (List Char)
  pending : List Char
  depth : Int
  sound : Bool

namespace Pass

/-- Before the first character. -/
def start : Pass := ⟨[], [], 0, true⟩

/-- Reads a character. -/
def step (p : Pass) (c : Char) : Pass :=
  if c = '(' then { p with pending := p.pending ++ [c], depth := p.depth + 1 }
  else if c = ')' then
    { p with pending := p.pending ++ [c], depth := p.depth - 1, sound := p.sound && 0 ≤ p.depth - 1 }
  else if c = ',' ∧ p.depth = 0 then
    { p with finished := p.finished ++ [trim p.pending], pending := [] }
  else { p with pending := p.pending ++ [c] }

/-- Reads a list. -/
def run (s : List Char) : Pass := s.foldl step start

/-- The pieces at the end of the list, if its parentheses balance. -/
def outcome (p : Pass) : Option (List (List Char)) :=
  if p.sound && p.depth == 0 then some (p.finished ++ ending p.pending) else none

/-- What the pass knows is right for the text that it has read. -/
structure Reads (p : Pass) (s : List Char) : Prop where
  cuts : ∃ ps, AtCommas s ps p.pending ∧ p.finished = ps.map trim
  depth : p.depth = depthAfter 0 s
  sound : p.sound = true ↔ ∀ q, q <+: s → 0 ≤ depthAfter 0 q

theorem reads_start : start.Reads [] := by
  refine ⟨⟨[], ⟨rfl, fun p hp => absurd hp List.not_mem_nil, whole_noComma List.not_mem_nil 0⟩, rfl⟩,
    rfl, iff_of_true rfl fun q hq => ?_⟩
  rw [List.prefix_nil.mp hq]
  exact Int.le_refl 0

/-- The depth was never below zero if it was not before the last character, and is not now. -/
theorem forall_prefix_concat {s : List Char} {c : Char} :
    (∀ q, q <+: s ++ [c] → 0 ≤ depthAfter 0 q) ↔
      (∀ q, q <+: s → 0 ≤ depthAfter 0 q) ∧ 0 ≤ depthAfter 0 (s ++ [c]) := by
  constructor
  · exact fun h => ⟨fun q hq => h q (hq.trans (List.prefix_append s [c])), h _ List.prefix_rfl⟩
  · rintro ⟨hs, hc⟩ q hq
    rcases List.prefix_concat_iff.mp hq with rfl | hq
    · exact hc
    · exact hs q hq

/-- Reading a character that does not close a parenthesis leaves the depth as sound as it was. -/
theorem sound_of_le {s : List Char} {c : Char} (hc : 0 ≤ depthStep c) :
    (∀ q, q <+: s ++ [c] → 0 ≤ depthAfter 0 q) ↔ ∀ q, q <+: s → 0 ≤ depthAfter 0 q := by
  rw [forall_prefix_concat, and_iff_left_iff_imp]
  intro h
  have hs : 0 ≤ depthAfter 0 s := h s List.prefix_rfl
  rw [depthAfter_append, depthAfter_cons, depthAfter_nil]
  omega

/-- **What one more character tells the pass.** -/
theorem reads_step {p : Pass} {s : List Char} (h : p.Reads s) (c : Char) :
    (p.step c).Reads (s ++ [c]) := by
  obtain ⟨ps, hps, hfinished⟩ := h.cuts
  have hdepth : depthAfter 0 (s ++ [c]) = p.depth + depthStep c := by
    rw [depthAfter_append, h.depth]
    rfl
  unfold step
  split
  case isTrue ho =>
    subst ho
    refine ⟨⟨ps, hps.snoc (by simp), hfinished⟩, hdepth.symm, ?_⟩
    rw [sound_of_le (by decide)]
    exact h.sound
  split
  case isTrue hc =>
    subst hc
    refine ⟨⟨ps, hps.snoc (by simp), hfinished⟩, hdepth.symm, ?_⟩
    rw [forall_prefix_concat, hdepth, Bool.and_eq_true, decide_eq_true_eq]
    exact and_congr h.sound Iff.rfl
  case isFalse ho hc =>
  have hstep : depthStep c = 0 := depthStep_eq_zero ho hc
  have hsound : p.sound = true ↔ ∀ q, q <+: s ++ [c] → 0 ≤ depthAfter 0 q := by
    rw [sound_of_le (Int.le_of_eq hstep.symm)]
    exact h.sound
  rw [hstep, Int.add_zero] at hdepth
  split
  case isTrue hcomma =>
    obtain ⟨rfl, hzero⟩ := hcomma
    exact ⟨⟨ps ++ [p.pending], hps.comma (h.depth ▸ hzero), by simp [hfinished]⟩, hdepth.symm, hsound⟩
  case isFalse hcomma =>
    exact ⟨⟨ps, hps.snoc (h.depth ▸ hcomma), hfinished⟩, hdepth.symm, hsound⟩

theorem run_concat (s : List Char) (c : Char) : run (s ++ [c]) = (run s).step c := by
  rw [run, List.foldl_append]
  rfl

/-- **What the pass knows after a list.** -/
theorem reads_run (s : List Char) : (run s).Reads s := by
  induction s using List.reverseRecOn with
  | nil => exact reads_start
  | append_singleton s c ih =>
      rw [run_concat]
      exact reads_step ih c

/-- The pass finds the pieces of a list and whether its parentheses balance. -/
theorem outcome_run (s : List Char) :
    (run s).outcome = if balanced s = true then some (pieces s) else none := by
  obtain ⟨⟨ps, hps, hfinished⟩, hdepth, hsound⟩ := reads_run s
  have hbalanced : ((run s).sound && (run s).depth == 0) = true ↔ balanced s = true := by
    rw [Bool.and_eq_true, hsound, beq_iff_eq, hdepth, balanced_iff]
    rfl
  rw [outcome, hps.pieces_eq, hfinished]
  exact ite_congr (propext hbalanced) (fun _ => rfl) fun _ => rfl

end Pass

/-- Every text is cut somewhere. -/
theorem exists_atCommas (s : List Char) : ∃ ps last, AtCommas s ps last := by
  obtain ⟨ps, hps, -⟩ := (Pass.reads_run s).cuts
  exact ⟨ps, _, hps⟩

/-! ## 4. What cutting gives -/

theorem Balanced.of_append {s t : List Char} (h : Balanced (s ++ t)) (hs : depthAfter 0 s = 0) :
    Balanced s ∧ Balanced t := by
  have hend := h.2
  rw [depthAfter_append, hs] at hend
  refine ⟨⟨fun p hp => h.1 p (hp.trans (List.prefix_append s t)), hs⟩, fun p hp => ?_, hend⟩
  have hdepth := h.1 (s ++ p) ((List.prefix_append_right_inj s).mpr hp)
  rwa [depthAfter_append, hs] at hdepth

/-- **Blanks after a list change neither its balance nor a piece.** -/
theorem balanced_append_blank {y : List Char} (hy : isBlankText y = true) {s : List Char} :
    Balanced (s ++ y) ↔ Balanced s := by
  have hno : NoParen y := noParen_of_blank hy
  constructor
  · intro h
    have hend := h.2
    rw [depthAfter_append, depthAfter_noParen hno] at hend
    exact (h.of_append hend).1
  · exact fun h => h.append (balanced_noParen hno)

theorem pieces_append_blank {y : List Char} (hy : isBlankText y = true) (s : List Char) :
    pieces (s ++ y) = pieces s := by
  obtain ⟨ps, last, h⟩ := exists_atCommas s
  have hlonger : AtCommas (s ++ y) ps (last ++ y) := by
    refine ⟨by rw [h.text, List.append_assoc], h.between, h.rest.append ?_⟩
    exact whole_noComma (notMem_of_blank hy (by decide)) _
  rw [h.pieces_eq, hlonger.pieces_eq, ending, ending, trim_append_blank hy, isBlankText_append, hy,
    Bool.and_true]

/-- The texts between the commas of a balanced list are balanced, and in one piece. -/
theorem unbroken_of_flatMap {last : List Char} : ∀ {ps : List (List Char)},
    (∀ p ∈ ps, Whole 0 p ∧ depthAfter 0 p = 0) → Whole 0 last →
    Balanced (ps.flatMap (· ++ [',']) ++ last) → ∀ p ∈ ps ++ [last], Unbroken p
  | [], _, hlast, h, p, hp => by
      obtain rfl := List.mem_singleton.mp hp
      exact ⟨h, hlast⟩
  | q :: ps, hps, hlast, h, p, hp => by
      obtain ⟨hwhole, hdepth⟩ := hps q List.mem_cons_self
      rw [List.flatMap_cons, List.append_assoc, List.append_assoc] at h
      obtain ⟨hq, hrest⟩ := h.of_append hdepth
      rcases List.mem_cons.mp hp with rfl | hp
      · exact ⟨hq, hwhole⟩
      · have hps' : ∀ p ∈ ps, Whole 0 p ∧ depthAfter 0 p = 0 :=
          fun p hp => hps p (List.mem_cons_of_mem q hp)
        exact unbroken_of_flatMap hps' hlast (hrest.of_append (s := [',']) rfl).2 p hp

/-- Trimming an expression keeps it balanced, and in one piece. -/
theorem Unbroken.trim {e : List Char} (h : Unbroken e) : Unbroken (trim e) := by
  obtain ⟨x, y, hx, hy, he⟩ := exists_trim e
  have hdepth : depthAfter 0 x = 0 := depthAfter_noParen (noParen_of_blank hx) 0
  obtain ⟨hbalanced, hwhole⟩ := h
  rw [he, List.append_assoc] at hbalanced
  have hrest : Balanced (Text.trim e ++ y) := (hbalanced.of_append hdepth).2
  have htrim : depthAfter 0 (Text.trim e) = 0 := by
    have hend := hrest.2
    rwa [depthAfter_append, depthAfter_noParen (noParen_of_blank hy)] at hend
  refine ⟨(hrest.of_append htrim).1, fun p q hpq => ?_⟩
  have hcomma := hwhole (x ++ p) (q ++ y) (by rw [he, hpq]; simp)
  rwa [depthAfter_append, hdepth] at hcomma

/-- An expression of a list: trimmed, balanced, and in one piece. -/
structure Expression (e : List Char) : Prop where
  trimmed : trim e = e
  unbroken : Unbroken e

instance decidableExpression (e : List Char) : Decidable (Expression e) :=
  decidable_of_iff (trim e = e ∧ Balanced e ∧ Whole 0 e)
    ⟨fun h => ⟨h.1, h.2.1, h.2.2⟩, fun h => ⟨h.trimmed, h.unbroken.balanced, h.unbroken.whole⟩⟩

theorem Unbroken.expression {e : List Char} (h : Unbroken e) : Expression (Text.trim e) :=
  ⟨trim_trim e, h.trim⟩

theorem expression_of_mem_pieces {s : List Char} (hs : Balanced s) :
    ∀ e ∈ pieces s, Expression e := by
  obtain ⟨ps, last, h⟩ := exists_atCommas s
  have hs' := hs
  rw [h.text] at hs'
  have hunbroken := unbroken_of_flatMap h.between h.rest hs'
  intro e he
  rw [h.pieces_eq, List.mem_append] at he
  rcases he with he | he
  · obtain ⟨p, hp, rfl⟩ := List.mem_map.mp he
    exact (hunbroken p (List.mem_append_left _ hp)).expression
  · rw [ending] at he
    split at he
    · cases he
    · obtain rfl := List.mem_singleton.mp he
      exact (hunbroken last (List.mem_append_right _ (List.mem_singleton.mpr rfl))).expression

/-! ## 5. Cutting a list -/

section Cutting

variable {s : List Char}

theorem splitFields_of_balanced (h : Balanced s) : splitFields s = .ok (pieces s) :=
  if_pos (balanced_iff.mpr h)

theorem splitFields_of_not_balanced (h : ¬ Balanced s) :
    splitFields s = .error (.unbalancedParentheses (String.ofList (trim s))) :=
  if_neg fun hs => h (balanced_iff.mp hs)

theorem splitFields_eq_ok_iff {es : List (List Char)} :
    splitFields s = .ok es ↔ Balanced s ∧ es = pieces s := by
  by_cases h : Balanced s
  · rw [splitFields_of_balanced h, Except.ok.injEq, eq_comm, and_iff_right h]
  · rw [splitFields_of_not_balanced h]
    exact iff_of_false nofun fun hs => h hs.1

/-- A list is cut as one pass over it says. -/
theorem splitFields_run (s : List Char) : splitFields s =
    match (Pass.run s).outcome with
    | some es => .ok es
    | none => .error (.unbalancedParentheses (String.ofList (trim s))) := by
  rw [Pass.outcome_run, splitFields]
  split <;> rfl

end Cutting

/-- Expressions with a comma after each are given back. -/
theorem splitFields_flatMap {es : List (List Char)} (hes : ∀ e ∈ es, Expression e) :
    splitFields (es.flatMap (· ++ [','])) = .ok es := by
  have hbalanced : Balanced (es.flatMap (· ++ [','])) :=
    .flatMap fun e he => (hes e he).unbroken.balanced.append (by decide)
  have hcommas : AtCommas (es.flatMap (· ++ [','])) es [] :=
    ⟨(List.append_nil _).symm,
      fun e he => ⟨(hes e he).unbroken.whole, (hes e he).unbroken.balanced.2⟩,
      whole_noComma List.not_mem_nil 0⟩
  have hmap : es.map trim = es := by
    conv_rhs => rw [← List.map_id es]
    exact List.map_congr_left fun e he => (hes e he).trimmed
  have hending : ending [] = [] := rfl
  rw [splitFields_of_balanced hbalanced, hcommas.pieces_eq, hmap, hending, List.append_nil]

/-- **Which lists are cut, and where.** A list is cut exactly if its parentheses match, else it is
reported as it is, trimmed. It is cut at its commas at depth zero, into expressions; and expressions
with a comma after each are given back. One pass does it, at a depth of at most the number of
parentheses. -/
theorem splitFields_cuts (s : List Char) :
    ((∃ es, splitFields s = .ok es) ↔ Matched s) ∧
    (¬ Matched s → splitFields s = .error (.unbalancedParentheses (String.ofList (trim s)))) ∧
    (∀ es, splitFields s = .ok es →
      (∃ ps last, AtCommas s ps last ∧
        es = ps.map trim ++ if isBlankText last then [] else [trim last]) ∧
      ∀ e ∈ es, Expression e) ∧
    (∀ es : List (List Char), (∀ e ∈ es, Expression e) →
      splitFields (es.flatMap (· ++ [','])) = .ok es) ∧
    (splitFields s = match (Pass.run s).outcome with
      | some es => .ok es
      | none => .error (.unbalancedParentheses (String.ofList (trim s)))) ∧
    ∀ p, p <+: s → (Pass.run p).depth.natAbs ≤ s.count '(' + s.count ')' := by
  refine ⟨?_, fun h => ?_, fun es hes => ?_, fun es => splitFields_flatMap, splitFields_run s,
    fun p hp => ?_⟩
  · rw [← balanced_iff_matched]
    simp [splitFields_eq_ok_iff]
  · exact splitFields_of_not_balanced fun hs => h (balanced_iff_matched.mp hs)
  · obtain ⟨hs, rfl⟩ := splitFields_eq_ok_iff.mp hes
    obtain ⟨ps, last, h⟩ := exists_atCommas s
    exact ⟨⟨ps, last, h, h.pieces_eq⟩, expression_of_mem_pieces hs⟩
  · rw [(Pass.reads_run p).depth]
    exact natAbs_depthAfter_le hp.sublist

/-- An empty expression in the middle is given back, one at the end is not; a list that gets below depth
zero and back is refused. -/
theorem splitFields_cuts_nested :
    splitFields "a,,f(b,c),".toList = .ok ["a".toList, [], "f(b,c)".toList] ∧
    (∀ e ∈ ["a".toList, [], "f(b,c)".toList], Expression e) ∧
    splitFields " a)(b".toList = .error (.unbalancedParentheses "a)(b") ∧
    (Pass.run "f((".toList).depth.natAbs ≤ 3 := by
  have hback := (splitFields_cuts []).2.2.2.1 ["a".toList, [], "f(b,c)".toList] (by decide)
  have hdepth := (splitFields_cuts "f((b)".toList).2.2.2.2.2 "f((".toList ⟨"b)".toList, rfl⟩
  exact ⟨hback, ((splitFields_cuts _).2.2.1 _ hback).2,
    (splitFields_cuts " a)(b".toList).2.1 (by decide), hdepth⟩

end TableDraft.Select

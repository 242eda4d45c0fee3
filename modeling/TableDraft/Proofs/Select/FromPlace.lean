import TableDraft.Proofs.Select.ListCuts
import TableDraft.Proofs.Select.RemarksAgree

/-!
# The place of FROM

The running scan goes through a text with a state, a depth and the character before it. Where it stops
is told without it: behind whole parts of the text whose code has as many opening as closing
parentheses, after a blank, at FROM with a blank or the end behind it; and no such place is before.

* `Read`, **`read_iff`: the scan is in code behind whole parts**, and has passed their code;
* `Stops`, **`beforeFrom_eq_some_iff`: the scan finds the first place where it may stop**;
* `FromPlace`, **`beforeFrom_eq_some_iff_place`, `beforeFrom_eq_none_iff_place`**: the same for a scan
  from any place of a text, told without the scan.
-/

namespace TableDraft.Select

open Text Remark

/-! ## 1. Whole parts -/

/-- A text that another one follows is a row of whole parts, and this is their code. -/
inductive Read : List Char → List Char → List Char → Prop
  | nil (s : List Char) : Read [] [] s
  | part {x k p k' s : List Char} (h : Part x k (p ++ s)) (hp : Read p k' s) :
      Read (x ++ p) (k ++ k') s

theorem Read.scan {p k s : List Char} (h : Read p k s) :
    State.code.after p s = .code ∧ codeWithin .code p s = k := by
  induction h with
  | nil s => exact ⟨rfl, rfl⟩
  | part h _ ih =>
      obtain ⟨hafter, hcode⟩ := h.scan
      rw [after_append, codeWithin_append, hafter, hcode, ih.1, ih.2]
      exact ⟨rfl, rfl⟩

/-- In a line remark on the last line the scan is in code at its start only. -/
theorem eq_nil_of_lastLine {l p s : List Char} (hl : '\n' ∉ l) (h : '-' :: '-' :: l = p ++ s)
    (hcode : State.code.after p s = .code) : p = [] := by
  refine (Part.behind_mark h (by simp [State.step]) hcode).resolve_right ?_
  rintro ⟨q, rfl, rfl⟩
  have hline : State.line.after q s = .code := hcode
  rw [(scan_line s fun hn => hl (List.mem_append_left s hn)).1] at hline
  cases hline

/-- In a block that does not close the scan is in code at its start only. -/
theorem eq_nil_of_openBlock {b p s : List Char} (hb : Free '*' '/' b) (h : '/' :: '*' :: b = p ++ s)
    (hcode : State.code.after p s = .code) : p = [] := by
  refine (Part.behind_mark h (by simp [State.step]) hcode).resolve_right ?_
  rintro ⟨q, rfl, rfl⟩
  have hblock : State.block.after q s = .code := hcode
  have hhead : s.head?.toList <+: s := by cases s <;> simp
  have hfree : Free '*' '/' (q ++ s.head?.toList) :=
    hb.mono ((List.prefix_append_right_inj q).mpr hhead).isInfix
  rw [(scan_block hfree).1] at hblock
  cases hblock

theorem read_of_scan : ∀ {p s : List Char}, State.code.after p s = .code →
    Read p (codeWithin .code p s) s
  | [], s, _ => .nil s
  | c :: p, s, hcode => by
      have hne : c :: p ≠ [] := List.cons_ne_nil c p
      -- the text is a row of parts, of which the first ends within `c :: p`
      generalize htext : c :: p ++ s = t
      cases parts t with
      | nil => cases htext
      | lastLine hl => exact absurd (eq_nil_of_lastLine hl htext.symm hcode) hne
      | openBlock hb => exact absurd (eq_nil_of_openBlock hb htext.symm hcode) hne
      | @part x k s' hpart _ =>
          obtain ⟨p', hp'⟩ := (hpart.cut htext.symm hcode).resolve_left hne
          have hs' : s' = p' ++ s := by
            rw [← hp', List.append_assoc] at htext
            exact (List.append_cancel_left htext).symm
          subst hs'
          have hlt : p'.length < (c :: p).length := by
            have hx : x ≠ [] := by
              rintro rfl
              cases hpart
            rw [← hp', List.length_append]
            have := List.length_pos_iff.mpr hx
            omega
          obtain ⟨hafter, hk⟩ := hpart.scan
          rw [← hp', after_append, hafter] at hcode
          rw [← hp', codeWithin_append, hafter, hk]
          exact .part hpart (read_of_scan hcode)
termination_by p => p.length
decreasing_by exact hlt

/-- **Behind whole parts, and only there, the scan is in code.** -/
theorem read_iff {p k s : List Char} :
    Read p k s ↔ State.code.after p s = .code ∧ codeWithin .code p s = k :=
  ⟨Read.scan, fun ⟨hafter, hcode⟩ => hcode ▸ read_of_scan hafter⟩

theorem Read.sublist {p k s : List Char} (h : Read p k s) : k.Sublist p := by
  induction h with
  | nil s => exact List.Sublist.refl []
  | @part x k p k' s h _ ih =>
      refine List.Sublist.append ?_ ih
      cases h with
      | char => exact List.Sublist.refl _
      | line => exact (List.suffix_append ('-' :: '-' :: _) ['\n']).sublist
      | block => exact List.nil_sublist _

/-! ## 2. Where the scan may stop -/

/-- The scan may stop behind `p`: it is in code at depth zero, after a blank, and FROM follows. -/
def Stops (st : State) (d : Int) (ab : Bool) (s p : List Char) : Prop :=
  ∃ q, s = p ++ q ∧ st.after p q = .code ∧ depthAfter d (codeWithin st p q) = 0 ∧
    endsIn isBlank ab p = true ∧ startsFrom q = true

theorem stops_of_beforeFrom {st : State} {d : Int} {ab : Bool} {s p : List Char}
    (h : beforeFrom st d ab s = some p) : Stops st d ab s p := by
  obtain ⟨q, rfl, hq, hblank⟩ := beforeFrom_spec h
  obtain ⟨hafter, hdepth⟩ := beforeFrom_code h
  exact ⟨q, rfl, hafter, hdepth, hblank, hq⟩

/-- Where the scan may stop it stops, unless it has before. -/
theorem exists_beforeFrom_of_stops : ∀ {p s : List Char} {st : State} {d : Int} {ab : Bool},
    Stops st d ab s p → ∃ p', beforeFrom st d ab s = some p' ∧ p' <+: p
  | [], _, st, d, ab, ⟨q, rfl, hafter, hdepth, hblank, hstart⟩ => by
      obtain ⟨w, t, rfl, hw, ht⟩ := startsFrom_iff.mp hstart
      obtain rfl : st = .code := hafter
      obtain rfl : d = 0 := hdepth
      obtain rfl : ab = true := hblank
      refine ⟨[], ?_, List.prefix_rfl⟩
      rw [List.nil_append]
      exact beforeFrom_stop (map_letter_eq_from.mp hw) ht
  | c :: p, _, st, d, ab, ⟨q, rfl, hafter, hdepth, hblank, hstart⟩ => by
      rw [List.cons_append, beforeFrom]
      dsimp only
      split
      · exact ⟨[], rfl, List.nil_prefix⟩
      · have hnext : Stops (st.step c (p ++ q)).2
            (if (st.step c (p ++ q)).1 then d + depthStep c else d) (isBlank c) (p ++ q) p := by
          refine ⟨q, rfl, hafter, ?_, hblank, hstart⟩
          rw [codeWithin, depthAfter_append] at hdepth
          by_cases hcode : (st.step c (p ++ q)).1 = true
          · rw [if_pos hcode] at hdepth ⊢
            exact hdepth
          · rw [if_neg hcode] at hdepth ⊢
            exact hdepth
        obtain ⟨p', hp', hpre⟩ := exists_beforeFrom_of_stops hnext
        exact ⟨c :: p', by rw [hp']; rfl, List.cons_prefix_cons.mpr ⟨rfl, hpre⟩⟩

section Scan

variable {st : State} {d : Int} {ab : Bool} {s : List Char}

/-- **The scan finds the first place where it may stop.** -/
theorem beforeFrom_eq_some_iff {p : List Char} : beforeFrom st d ab s = some p ↔
    Stops st d ab s p ∧ ∀ p', Stops st d ab s p' → p <+: p' := by
  constructor
  · refine fun h => ⟨stops_of_beforeFrom h, fun p' hp' => ?_⟩
    obtain ⟨p'', hp'', hpre⟩ := exists_beforeFrom_of_stops hp'
    obtain rfl := Option.some.inj (h.symm.trans hp'')
    exact hpre
  · rintro ⟨hp, hleast⟩
    obtain ⟨p', hp', hpre⟩ := exists_beforeFrom_of_stops hp
    have hle := hleast p' (stops_of_beforeFrom hp')
    rw [hp', hpre.eq_of_length (hpre.length_le.antisymm hle.length_le)]

theorem beforeFrom_eq_none_iff : beforeFrom st d ab s = none ↔ ∀ p, ¬ Stops st d ab s p := by
  constructor
  · intro h p hp
    obtain ⟨p', hp', -⟩ := exists_beforeFrom_of_stops hp
    rw [h] at hp'
    cases hp'
  · intro h
    rw [Option.eq_none_iff_forall_ne_some]
    exact fun p hp => h p (stops_of_beforeFrom hp)

end Scan

/-! ## 3. The place, told without the scan -/

/-- In a text that follows another one, FROM stands behind `p`: in code, with as many opening as closing
parentheses in the code of `p`, after a blank, and with a blank or the end of the text behind it. -/
def FromPlace (before s p : List Char) : Prop :=
  ∃ k w t, s = p ++ (w ++ t) ∧ Read p k (w ++ t) ∧ k.count '(' = k.count ')' ∧
    sameIgnoringAsciiCase w "from".toList = true ∧
    (∃ c, (before ++ p).getLast? = some c ∧ isBlank c = true) ∧ ∀ c ∈ t.head?, isBlank c = true

theorem endsIn_eq_any (test : Char → Bool) (s : List Char) :
    endsIn test false s = s.getLast?.any test := by
  by_cases hs : s = []
  · rw [hs]
    rfl
  · rw [endsIn_eq_getLast hs, List.getLast?_eq_some_getLast hs, Option.any_some]

theorem depthAfter_eq_zero_iff {s : List Char} : depthAfter 0 s = 0 ↔ s.count '(' = s.count ')' := by
  rw [depthAfter_eq_count]
  omega

variable {before s p : List Char}

/-- The places of FROM are those where the scan may stop. -/
theorem stops_iff_fromPlace :
    Stops .code 0 (endsIn isBlank false before) s p ↔ FromPlace before s p := by
  constructor
  · rintro ⟨q, rfl, hafter, hdepth, hblank, hstart⟩
    obtain ⟨w, t, rfl, hw, ht⟩ := startsFrom_iff.mp hstart
    rw [← endsIn_append, endsIn_eq_any, Option.any_eq_true] at hblank
    exact ⟨_, w, t, rfl, read_iff.mpr ⟨hafter, rfl⟩, depthAfter_eq_zero_iff.mp hdepth,
      map_letter_eq_from.mp hw, hblank, ht⟩
  · rintro ⟨k, w, t, rfl, hread, hcount, hw, hblank, ht⟩
    obtain ⟨hafter, rfl⟩ := read_iff.mp hread
    refine ⟨w ++ t, rfl, hafter, depthAfter_eq_zero_iff.mpr hcount, ?_, ?_⟩
    · rw [← endsIn_append, endsIn_eq_any, Option.any_eq_true]
      exact hblank
    · exact startsFrom_iff.mpr ⟨w, t, rfl, map_letter_eq_from.mpr hw, ht⟩

/-- **The scan from any place of a text finds the first place of FROM.** -/
theorem beforeFrom_eq_some_iff_place :
    beforeFrom .code 0 (endsIn isBlank false before) s = some p ↔
      FromPlace before s p ∧ ∀ p', FromPlace before s p' → p <+: p' := by
  simp only [beforeFrom_eq_some_iff, stops_iff_fromPlace]

/-- **It finds none if there is none.** -/
theorem beforeFrom_eq_none_iff_place :
    beforeFrom .code 0 (endsIn isBlank false before) s = none ↔ ∀ p, ¬ FromPlace before s p := by
  simp only [beforeFrom_eq_none_iff, stops_iff_fromPlace]

end TableDraft.Select

import Mathlib.Data.List.Forall2
import TableDraft.Proofs.Select.Counters
import TableDraft.Proofs.Select.FieldLines

/-!
# The answers about a bare list

A text without the word SELECT is a list and nothing else, so what stripping leaves of it decides: a
blank list, one that does not balance, one of whose pieces none is a field, and one with fields are the
four cases, and no list is two of them.

* `Rejected`, `ofExpression?_eq_none_iff`: which expressions are no fields;
* `pieces_eq_nil_iff`: a list without pieces is blank, and `forall₂_kept`: the pieces that are not
  rejected are the fields, in order;
* `parseFields_blankList`, `parseFields_unbalancedList`, `parseFields_rejectedList`, `parseFields_keptList`:
  the answer in each case;
* `exists_of_unparsable`, `candidates_of_unparsable`: a text is called unparsable only when no shape has a
  candidate;
* **`parseFields_answers`: each answer is given exactly in its case**.
-/

namespace TableDraft.Select

open Text Remark

/-! ## 1. Rejected expressions -/

/-- A trimmed expression that is no field: nothing at all, or a text with FROM between blanks or with the
word SELECT. -/
def Rejected (e : List Char) : Prop := e = [] ∨ FromBetween e ∨ WordIn "select".toList false e

theorem rejected_iff {e : List Char} : Rejected e ↔ (e.isEmpty || looksNested e) = true := by
  rw [Rejected, Bool.or_eq_true, List.isEmpty_iff, looksNested_iff, or_comm (a := FromBetween e)]

instance decidableRejected (e : List Char) : Decidable (Rejected e) :=
  decidable_of_iff _ rejected_iff.symm

/-- **A trimmed expression is a field unless it is rejected.** -/
theorem ofExpression?_eq_none_iff {t : Option RemarkTable} {e : List Char} (he : trim e = e) :
    Field.ofExpression? t e = none ↔ Rejected e := by
  rw [Field.ofExpression?_eq_none_iff, he, Rejected, or_comm (a := FromBetween e)]

/-! ## 2. The pieces that are fields -/

theorem pieces_eq_nil_iff {s : List Char} : pieces s = [] ↔ isBlankText s = true := by
  refine ⟨fun h => ?_, pieces_of_blank⟩
  obtain ⟨ps, last, hcut⟩ := exists_atCommas s
  rw [hcut.pieces_eq, List.append_eq_nil_iff, List.map_eq_nil_iff] at h
  obtain ⟨rfl, hlast⟩ := h
  rw [hcut.text, List.flatMap_nil, List.nil_append]
  by_contra hblank
  rw [ending, if_neg hblank] at hlast
  cases hlast

/-- The trimmed texts at the commas of a list that are not rejected. -/
def kept (ps : List (List Char)) (last : List Char) : List (List Char) :=
  ((ps ++ [last]).map trim).filter fun e => ¬ Rejected e

theorem mem_kept {ps : List (List Char)} {last e : List Char} :
    e ∈ kept ps last ↔ (∃ p ∈ ps ++ [last], trim p = e) ∧ ¬ Rejected e := by
  rw [kept, List.mem_filter, List.mem_map, decide_eq_true_eq]

theorem kept_eq_nil_iff {ps : List (List Char)} {last : List Char} :
    kept ps last = [] ↔ ∀ p ∈ ps ++ [last], Rejected (trim p) := by
  rw [List.eq_nil_iff_forall_not_mem]
  constructor
  · intro h p hp
    by_contra hkept
    exact h (trim p) (mem_kept.mpr ⟨⟨p, hp, rfl⟩, hkept⟩)
  · intro h e he
    obtain ⟨⟨p, hp, rfl⟩, hkept⟩ := mem_kept.mp he
    exact hkept (h p hp)

/-- A blank text after the last comma is no piece, and is rejected. -/
theorem AtCommas.filter_pieces {s last : List Char} {ps : List (List Char)} (h : AtCommas s ps last) :
    (pieces s).filter (fun e => ¬ Rejected e) = kept ps last := by
  rw [h.pieces_eq, kept, List.map_append, List.filter_append, List.filter_append, ending]
  split
  · rename_i hblank
    have hnil : Rejected [] := Or.inl rfl
    rw [List.map_singleton, trim_of_blank hblank]
    simp [hnil]
  · rfl

/-- The members that give something, and what they give. -/
theorem forall₂_filterMap_filter {α β : Type} {f : α → Option β} {p : α → Bool} : ∀ {l : List α},
    (∀ a ∈ l, f a = none ↔ p a = false) →
    List.Forall₂ (fun a b => f a = some b) (l.filter p) (l.filterMap f)
  | [], _ => List.Forall₂.nil
  | a :: l, h => by
      have ih : List.Forall₂ (fun a b => f a = some b) (l.filter p) (l.filterMap f) :=
        forall₂_filterMap_filter fun c hc => h c (List.mem_cons_of_mem a hc)
      have ha := h a List.mem_cons_self
      cases hfa : f a with
      | none =>
          rw [List.filterMap_cons_none hfa, List.filter_cons_of_neg (by rw [ha.mp hfa]; decide)]
          exact ih
      | some b =>
          have hp : p a = true := by
            rw [← Bool.not_eq_false, ← ha, hfa]
            nofun
          rw [List.filterMap_cons_some hfa, List.filter_cons_of_pos hp]
          exact List.Forall₂.cons hfa ih

/-- **The pieces that are not rejected are the fields, in order.** -/
theorem forall₂_kept {s last : List Char} {ps : List (List Char)} (hs : Balanced s)
    (h : AtCommas s ps last) :
    List.Forall₂ (fun e f => Field.ofExpression? none e = some f) (kept ps last)
      ((pieces s).filterMap (Field.ofExpression? none)) := by
  rw [← h.filter_pieces]
  refine forall₂_filterMap_filter fun e he => ?_
  rw [ofExpression?_eq_none_iff (expression_of_mem_pieces hs e he).trimmed, decide_eq_false_iff_not,
    not_not]

/-! ## 3. Taking a text as a list -/

/-- What stripping leaves of the trimmed text. -/
def listOf (sql : String) : List Char := strip (trim sql.toList)

section List

variable {sql : String}

theorem trim_ne_nil_of_listOf (h : ¬ isBlankText (listOf sql) = true) : trim sql.toList ≠ [] := by
  intro hnil
  rw [listOf, hnil] at h
  exact h rfl

theorem apply_list_unbalanced (h : ¬ Balanced (listOf sql)) : Shape.fieldList.apply (trim sql.toList) =
    .error (.unbalancedParentheses (String.ofList (trim (listOf sql)))) := by
  rw [Shape.apply, readList_unbalanced h]
  rfl

/-- What the third shape gives: the pieces that are not rejected are its fields. -/
theorem exists_apply_list {ps : List (List Char)} {last : List Char} (hbal : Balanced (listOf sql))
    (hcut : AtCommas (listOf sql) ps last) :
    ∃ o, Shape.fieldList.apply (trim sql.toList) = .ok (some o) ∧
    o.candidates = (pieces (listOf sql)).length ∧
    List.Forall₂ (fun e f => Field.ofExpression? none e = some f) (kept ps last) o.fields := by
  have hread := readList_balanced hbal none
  have happly : Shape.fieldList.apply (trim sql.toList) = (readList none (trim sql.toList)).map some :=
    rfl
  rw [hread] at happly
  exact ⟨_, happly, rfl, forall₂_kept hbal hcut⟩

end List

/-! ## 4. A text without the word SELECT -/

theorem noSelect_iff {s : List Char} :
    ¬ WordIn "select".toList false s ↔ afterSelect (trim s) = none := by
  rw [← holdsWord_eq_false_iff_not (by decide), ← holdsWord_trim solid_select, holdsWord_eq_false_iff,
    afterSelect]

section NoSelect

variable {sql : String} (hs : ¬ WordIn "select".toList false sql.toList)
include hs

/-- Only the third shape is there. -/
theorem firstFields_noSelect (seen : Bool) : firstFields (trim sql.toList) seen Shape.all =
    firstFields (trim sql.toList) seen [.fieldList] := by
  obtain ⟨hfrom, honly⟩ := clauses_none (noSelect_iff.mp hs)
  rw [Shape.all, firstFields_absent (apply_selectFrom_none hfrom),
    firstFields_absent (apply_selectOnly_none honly)]

theorem parseFields_blankList (h : isBlankText (listOf sql) = true) :
    parseFields sql = .error .unparsableSql := by
  by_cases hsql : trim sql.toList = []
  · exact parseFields_blank hsql
  · have happly : Shape.fieldList.apply (trim sql.toList) = .ok (some ⟨0, []⟩) := by
      rw [Shape.apply, readList_blank h]
      rfl
    rw [parseFields_eq hsql, firstFields_noSelect hs, firstFields_skipped happly rfl]
    rfl

theorem parseFields_unbalancedList (h : ¬ Balanced (listOf sql)) :
    parseFields sql = .error (.unbalancedParentheses (String.ofList (trim (listOf sql)))) := by
  have hsql : trim sql.toList ≠ [] :=
    trim_ne_nil_of_listOf fun hblank => h (balanced_noParen (noParen_of_blank hblank))
  rw [parseFields_eq hsql, firstFields_noSelect hs, firstFields_error (apply_list_unbalanced h)]

section Cut

variable {ps : List (List Char)} {last : List Char} (hbal : Balanced (listOf sql))
  (hcut : AtCommas (listOf sql) ps last)
include hbal hcut

theorem parseFields_rejectedList (h : ¬ isBlankText (listOf sql) = true) (hno : kept ps last = []) :
    parseFields sql = .error .noFieldsRecognized := by
  obtain ⟨o, happly, hcount, hall⟩ := exists_apply_list hbal hcut
  rw [hno] at hall
  have hcandidates : o.candidates > 0 := by
    rw [hcount]
    exact List.length_pos_iff.mpr fun hnil => h (pieces_eq_nil_iff.mp hnil)
  rw [parseFields_eq (trim_ne_nil_of_listOf h), firstFields_noSelect hs,
    firstFields_skipped happly (List.forall₂_nil_left_iff.mp hall), decide_eq_true hcandidates]
  rfl

theorem parseFields_keptList (hkept : kept ps last ≠ []) :
    ∃ fs, parseFields sql = .ok fs ∧
      List.Forall₂ (fun e f => Field.ofExpression? none e = some f) (kept ps last) fs := by
  obtain ⟨o, happly, -, hall⟩ := exists_apply_list hbal hcut
  have hfields : o.fields ≠ [] := by
    intro hnil
    rw [hnil] at hall
    exact hkept (List.forall₂_nil_right_iff.mp hall)
  have hblank : ¬ isBlankText (listOf sql) = true := by
    intro hblank
    have hkeptNil := hcut.filter_pieces
    rw [pieces_of_blank hblank] at hkeptNil
    exact hkept hkeptNil.symm
  refine ⟨o.fields, ?_, hall⟩
  rw [parseFields_eq (trim_ne_nil_of_listOf hblank), firstFields_noSelect hs,
    firstFields_found happly hfields]

end Cut

end NoSelect

/-! ## 5. Every text -/

/-- A shape with which a text is still called unparsable is absent or has no candidates. -/
theorem exists_of_unparsable {sql : List Char} {seen : Bool} {shape : Shape} {rest : List Shape}
    (h : firstFields sql seen (shape :: rest) = .error .unparsableSql) :
    ∃ answer seen', shape.apply sql = .ok answer ∧ (∀ o ∈ answer, o.candidates = 0) ∧
      firstFields sql seen' rest = .error .unparsableSql := by
  cases ha : shape.apply sql with
  | error e =>
      rw [firstFields_error ha] at h
      exact absurd (ha.trans (congrArg Except.error (Except.error.inj h)))
        (apply_ne_unparsable sql shape)
  | ok answer =>
      cases answer with
      | none =>
          rw [firstFields_absent ha] at h
          exact ⟨none, seen, rfl, nofun, h⟩
      | some o =>
          by_cases ho : o.fields = []
          · rw [firstFields_skipped ha ho] at h
            refine ⟨some o, _, rfl, fun o' ho' => ?_, h⟩
            obtain rfl := Option.some.inj ho'
            by_contra hne
            rw [decide_eq_true (Nat.pos_of_ne_zero hne), Bool.or_true] at h
            exact firstFields_seen sql rest h
          · rw [firstFields_found ha ho] at h
            cases h

/-- **A text is called unparsable only when every shape is absent or has no candidates.** -/
theorem candidates_of_unparsable {sql : List Char} {shape : Shape} :
    ∀ {shapes : List Shape} {seen : Bool}, firstFields sql seen shapes = .error .unparsableSql →
    shape ∈ shapes → ∃ answer, shape.apply sql = .ok answer ∧ ∀ o ∈ answer, o.candidates = 0
  | sh :: shapes, seen, h, hmem => by
      obtain ⟨answer, seen', ha, hzero, hrest⟩ := exists_of_unparsable h
      rcases List.mem_cons.mp hmem with rfl | hmem
      · exact ⟨answer, ha, hzero⟩
      · exact candidates_of_unparsable hrest hmem

theorem blank_of_unparsable {sql : String} (h : parseFields sql = .error .unparsableSql) :
    isBlankText (listOf sql) = true := by
  by_contra hblank
  rw [parseFields_eq (trim_ne_nil_of_listOf hblank)] at h
  have hmem : Shape.fieldList ∈ Shape.all := by decide
  obtain ⟨answer, ha, hzero⟩ := candidates_of_unparsable h hmem
  by_cases hbal : Balanced (listOf sql)
  · obtain ⟨ps, last, hcut⟩ := exists_atCommas (listOf sql)
    obtain ⟨o, happly, hcount, -⟩ := exists_apply_list hbal hcut
    obtain rfl := Except.ok.inj (happly.symm.trans ha)
    have hlen : o.candidates = 0 := hzero o rfl
    rw [hcount] at hlen
    exact hblank (pieces_eq_nil_iff.mp (List.length_eq_zero_iff.mp hlen))
  · rw [apply_list_unbalanced hbal] at ha
    cases ha

/-! ## 6. Each answer in its case -/

section Answers

variable {sql : String} (hs : ¬ WordIn "select".toList false sql.toList) {ps : List (List Char)}
  {last : List Char} (hcut : AtCommas (listOf sql) ps last)
include hs hcut

/-- The four cases of a list, each with its answer. -/
theorem parseFields_cases :
    (isBlankText (listOf sql) = true ∧ parseFields sql = .error .unparsableSql) ∨
    (¬ Balanced (listOf sql) ∧
      parseFields sql = .error (.unbalancedParentheses (String.ofList (trim (listOf sql))))) ∨
    ((¬ isBlankText (listOf sql) = true ∧ Balanced (listOf sql) ∧ kept ps last = []) ∧
      parseFields sql = .error .noFieldsRecognized) ∨
    (kept ps last ≠ [] ∧ ∃ fs, parseFields sql = .ok fs) := by
  by_cases hblank : isBlankText (listOf sql) = true
  · exact Or.inl ⟨hblank, parseFields_blankList hs hblank⟩
  · by_cases hbal : Balanced (listOf sql)
    · by_cases hkept : kept ps last = []
      · exact Or.inr (Or.inr (Or.inl
          ⟨⟨hblank, hbal, hkept⟩, parseFields_rejectedList hs hbal hcut hblank hkept⟩))
      · obtain ⟨fs, hfs, -⟩ := parseFields_keptList hs hbal hcut hkept
        exact Or.inr (Or.inr (Or.inr ⟨hkept, fs, hfs⟩))
    · exact Or.inr (Or.inl ⟨hbal, parseFields_unbalancedList hs hbal⟩)

theorem unbalanced_iff (m : String) : parseFields sql = .error (.unbalancedParentheses m) ↔
    ¬ Balanced (listOf sql) ∧ m = String.ofList (trim (listOf sql)) := by
  constructor
  · intro h
    rcases parseFields_cases hs hcut with ⟨-, ha⟩ | ⟨hbal, ha⟩ | ⟨-, ha⟩ | ⟨-, fs, ha⟩
    · cases h.symm.trans ha
    · exact ⟨hbal, DraftError.unbalancedParentheses.inj (Except.error.inj (h.symm.trans ha))⟩
    · cases h.symm.trans ha
    · cases h.symm.trans ha
  · rintro ⟨hbal, rfl⟩
    exact parseFields_unbalancedList hs hbal

theorem noFields_iff : parseFields sql = .error .noFieldsRecognized ↔
    ¬ isBlankText (listOf sql) = true ∧ Balanced (listOf sql) ∧ kept ps last = [] := by
  constructor
  · intro h
    rcases parseFields_cases hs hcut with ⟨-, ha⟩ | ⟨-, ha⟩ | ⟨hall, -⟩ | ⟨-, fs, ha⟩
    · cases h.symm.trans ha
    · cases h.symm.trans ha
    · exact hall
    · cases h.symm.trans ha
  · rintro ⟨hblank, hbal, hkept⟩
    exact parseFields_rejectedList hs hbal hcut hblank hkept

end Answers

/-- **Which answer a text gets.** In a text with fewer than two to the power of 31 parentheses no counter
of them overflows. A text without the word SELECT is taken as a list, without its remarks. It is
unparsable exactly if nothing is left of it; its parentheses are reported, with the text, exactly if they
do not balance; it has no fields exactly if something is left, the parentheses balance and each text at
its commas is rejected; and otherwise its fields are the others, in order. Of any other text there is a
field too if there are fields, and it is unparsable only if nothing is left of it. -/
theorem parseFields_answers {sql : String} (hfew : parens sql.toList < counterLimit) :
    CountersFit sql ∧
    (¬ WordIn "select".toList false sql.toList →
      (parseFields sql = .error .unparsableSql ↔ isBlankText (listOf sql) = true) ∧
      (∀ m, parseFields sql = .error (.unbalancedParentheses m) ↔
        ¬ Balanced (listOf sql) ∧ m = String.ofList (trim (listOf sql))) ∧
      ∃ ps last, AtCommas (listOf sql) ps last ∧
        (parseFields sql = .error .noFieldsRecognized ↔ ¬ isBlankText (listOf sql) = true ∧
          Balanced (listOf sql) ∧ ∀ p ∈ ps ++ [last], Rejected (trim p)) ∧
        (Balanced (listOf sql) → (∃ p ∈ ps ++ [last], ¬ Rejected (trim p)) →
          ∃ fs, fs ≠ [] ∧ parseFields sql = .ok fs ∧
            List.Forall₂ (fun e f => Field.ofExpression? none e = some f) (kept ps last) fs)) ∧
    (∀ fs, parseFields sql = .ok fs → fs ≠ []) ∧
    (parseFields sql = .error .unparsableSql → isBlankText (listOf sql) = true) := by
  refine ⟨countersFit_of_parens hfew, fun hs => ?_, fun fs h => ne_nil_of_parseFields h,
    blank_of_unparsable⟩
  obtain ⟨ps, last, hcut⟩ := exists_atCommas (listOf sql)
  refine ⟨⟨blank_of_unparsable, parseFields_blankList hs⟩, unbalanced_iff hs hcut, ps, last, hcut, ?_,
    ?_⟩
  · rw [noFields_iff hs hcut, kept_eq_nil_iff]
  · rintro hbal ⟨p, hp, hkeep⟩
    have hne : kept ps last ≠ [] := fun hnil => hkeep (kept_eq_nil_iff.mp hnil p hp)
    obtain ⟨fs, hfs, hall⟩ := parseFields_keptList hs hbal hcut hne
    exact ⟨fs, ne_nil_of_parseFields hfs, hfs, hall⟩

/-- A list is read though one of its texts is empty and another is the word SELECT, which taking out a
remark has made; a list of such texts alone has no fields, and one of remarks alone is unparsable. -/
theorem parseFields_answers_joined :
    parseFields "a,,sel/**/ect,b-- ,c" = .ok [.ofName "a", .ofName "b"] ∧
    parseFields "x from y,,sel/**/ect," = .error .noFieldsRecognized ∧
    parseFields "/* a */ -- b" = .error .unparsableSql ∧
    parseFields "f(a)) -- (" = .error (.unbalancedParentheses "f(a))") := by
  have hfew : ∀ s ∈ ["a,,sel/**/ect,b-- ,c", "x from y,,sel/**/ect,", "/* a */ -- b", "f(a)) -- ("],
      parens s.toList < counterLimit := by decide
  have hno : ∀ s ∈ ["a,,sel/**/ect,b-- ,c", "x from y,,sel/**/ect,", "/* a */ -- b", "f(a)) -- ("],
      ¬ WordIn "select".toList false s.toList := by
    intro s hs
    rw [← holdsWord_eq_false_iff_not (by decide)]
    revert s
    decide +kernel
  refine ⟨?_, ?_, ?_, ?_⟩
  · obtain ⟨-, -, ps, last, hcut, -, hfields⟩ :=
      (parseFields_answers (hfew "a,,sel/**/ect,b-- ,c" (by decide))).2.1 (hno _ (by decide))
    have hcommas : AtCommas (listOf "a,,sel/**/ect,b-- ,c") ["a".toList, [], "select".toList]
        "b".toList := ⟨by decide +kernel, by decide, by decide⟩
    obtain ⟨rfl, rfl⟩ := hcut.unique hcommas
    obtain ⟨fs, -, hfs, hall⟩ := hfields (by decide +kernel) ⟨"b".toList, by decide, by decide +kernel⟩
    have hkept : kept ["a".toList, [], "select".toList] "b".toList = ["a".toList, "b".toList] := by
      decide +kernel
    rw [hkept] at hall
    rw [hfs]
    cases hall with
    | cons ha hall =>
        cases hall with
        | cons hb hnil =>
            cases hnil
            rw [← Option.some.inj ha, ← Option.some.inj hb]
            rfl
  · obtain ⟨-, -, ps, last, hcut, hnone, -⟩ :=
      (parseFields_answers (hfew "x from y,,sel/**/ect," (by decide))).2.1 (hno _ (by decide))
    have hcommas : AtCommas (listOf "x from y,,sel/**/ect,")
        ["x from y".toList, [], "select".toList] [] := ⟨by decide +kernel, by decide, by decide⟩
    obtain ⟨rfl, rfl⟩ := hcut.unique hcommas
    exact hnone.mpr ⟨by decide +kernel, by decide +kernel, by decide +kernel⟩
  · have hanswers := (parseFields_answers (hfew "/* a */ -- b" (by decide))).2.1 (hno _ (by decide))
    exact hanswers.1.mpr (by decide +kernel)
  · have hanswers := (parseFields_answers (hfew "f(a)) -- (" (by decide))).2.1 (hno _ (by decide))
    exact (hanswers.2.1 "f(a))").mpr ⟨by decide +kernel, by decide +kernel⟩

end TableDraft.Select

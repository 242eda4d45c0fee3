import Mathlib.Data.List.Forall2
import Mathlib.Data.List.Nodup
import TableDraft.Pattern.Engine
import TableDraft.Typing.Inference

/-!
# Which rule decides

The rules are sorted by priority, and the first one in that order that admits a name and a comment
decides on the type. Since the sort keeps the order of rules of one priority, that is the least rule by
priority and place.

* `filter_sortBy`: the sort keeps the order of rules of one priority, so that the sorted rules ascend by
  priority and place (`pairwise_inOrder`);
* `findRule?_eq_some_iff`: the rule that is found is the least one that admits;
* **`infer_eq`: the type depends only on what the admitting rules offer**, their types at their
  priorities;
* `offers_thinned`, `offers_of_keywords`, `sortBy_offers_perm`: what leaves the offers alone;
* `infer_decided`: which type is inferred, and which changes of the rules do not change it.
-/

namespace TableDraft

open Text

/-! ## 1. Leaving members out -/

/-- The second list is the first one with some of its idle members left out. -/
inductive Thinned {α : Type} (idle : α → Prop) : List α → List α → Prop
  | nil : Thinned idle [] []
  | keep (a : α) {l l' : List α} (h : Thinned idle l l') : Thinned idle (a :: l) (a :: l')
  | leave {a : α} {l l' : List α} (ha : idle a) (h : Thinned idle l l') : Thinned idle (a :: l) l'

/-- Members that do not pass a test may be left out before it. -/
theorem Thinned.filter_eq {α : Type} {idle : α → Prop} {p : α → Bool} (hp : ∀ a, idle a → p a = false)
    {l l' : List α} (h : Thinned idle l l') : l'.filter p = l.filter p := by
  induction h with
  | nil => rfl
  | keep a _ ih => rw [List.filter_cons, List.filter_cons, ih]
  | leave ha _ ih => rw [List.filter_cons_of_neg (Bool.eq_false_iff.mp (hp _ ha)), ih]

namespace Inference

/-! ## 2. The sort -/

section Sorting

variable {α : Type} (key : α → Int64)

/-- The members of a list by ascending keys. -/
def sortBy (l : List α) : List α := l.mergeSort fun a b => key a ≤ key b

theorem sortBy_perm (l : List α) : (sortBy key l).Perm l := List.mergeSort_perm ..

theorem key_trans (a b c : α) (hab : decide (key a ≤ key b) = true)
    (hbc : decide (key b ≤ key c) = true) : decide (key a ≤ key c) = true := by
  rw [decide_eq_true_eq] at hab hbc ⊢
  exact Int64.le_trans hab hbc

theorem key_total (a b : α) : (decide (key a ≤ key b) || decide (key b ≤ key a)) = true := by
  rw [Bool.or_eq_true, decide_eq_true_eq, decide_eq_true_eq]
  exact Int64.le_total (key a) (key b)

theorem pairwise_sortBy (l : List α) : (sortBy key l).Pairwise fun a b => key a ≤ key b := by
  have h := List.pairwise_mergeSort (key_trans key) (key_total key) l
  simp only [decide_eq_true_eq] at h
  exact h

/-- **Members with one key keep their order.** -/
theorem filter_sortBy (l : List α) (v : Int64) :
    (sortBy key l).filter (fun a => key a == v) = l.filter fun a => key a == v := by
  have hkey : ∀ a ∈ l.filter (fun a => key a == v), key a = v :=
    fun a ha => beq_iff_eq.mp (List.mem_filter.mp ha).2
  have hsorted : (l.filter fun a => key a == v).Pairwise fun a b => decide (key a ≤ key b) = true := by
    refine List.pairwise_of_forall_mem_list fun a ha b hb => ?_
    rw [hkey a ha, hkey b hb, decide_eq_true_eq]
    exact Int64.le_refl v
  have hsub := (List.sublist_mergeSort (key_trans key) (key_total key) hsorted
    List.filter_sublist).filter fun a => key a == v
  rw [List.filter_filter, List.filter_congr fun _ _ => Bool.and_self _] at hsub
  exact (hsub.eq_of_length ((sortBy_perm key l).filter _).length_eq.symm).symm

theorem map_sortBy {β : Type} (f : β → α) (l : List β) :
    (sortBy (fun b => key (f b)) l).map f = sortBy key (l.map f) :=
  List.map_mergeSort fun _ _ _ _ => rfl

/-- Lists with the same members and with different keys are sorted alike. -/
theorem sortBy_congr {l l' : List α} (h : l.Perm l') (hl : (l.map key).Nodup) :
    sortBy key l = sortBy key l' := by
  refine List.Perm.eq_of_pairwise (fun a b ha hb hab hba => ?_) (pairwise_sortBy key l)
    (pairwise_sortBy key l') ((sortBy_perm key l).trans (h.trans (sortBy_perm key l').symm))
  have ha' : a ∈ l := (sortBy_perm key l).mem_iff.mp ha
  have hb' : b ∈ l := h.mem_iff.mpr ((sortBy_perm key l').mem_iff.mp hb)
  exact List.inj_on_of_nodup_map hl ha' hb' (Int64.le_antisymm hab hba)

end Sorting

/-- The first rule comes before the second: by its priority, or by its place at the same priority. -/
def Before (a b : TypeRule × Nat) : Prop :=
  a.1.priority < b.1.priority ∨ a.1.priority = b.1.priority ∧ a.2 < b.2

theorem Before.asymm {a b : TypeRule × Nat} (h : Before a b) : ¬ Before b a := by
  rintro (h' | ⟨he', h'⟩)
  · rcases h with h | ⟨he, -⟩
    · exact Int64.lt_asymm h h'
    · rw [he] at h'
      exact Int64.lt_irrefl h'
  · rcases h with h | ⟨-, h⟩
    · rw [he'] at h
      exact Int64.lt_irrefl h
    · exact Nat.lt_asymm h h'

/-- **Rules that are sorted by priority ascend by priority and place.** -/
theorem pairwise_before {l : List (TypeRule × Nat)} (hl : l.Pairwise fun a b => a.2 < b.2) :
    (sortBy (fun a => a.1.priority) l).Pairwise Before := by
  rw [List.pairwise_iff_forall_sublist]
  intro a b hab
  have hle := List.pairwise_iff_forall_sublist.mp (pairwise_sortBy (fun a => a.1.priority) l) hab
  rcases Int64.lt_or_eq_of_le hle with hlt | heq
  · exact Or.inl hlt
  · -- the two are in the list of those of their priority, which the sort leaves alone
    have hsame := hab.filter fun c => c.1.priority == b.1.priority
    rw [filter_sortBy (fun a : TypeRule × Nat => a.1.priority), List.filter_eq_self.mpr] at hsame
    · exact Or.inr ⟨heq, List.pairwise_iff_forall_sublist.mp hl (hsame.trans List.filter_sublist)⟩
    · simp [heq]

theorem pairwise_zipIdx (rules : List TypeRule) : rules.zipIdx.Pairwise fun a b => a.2 < b.2 := by
  rw [← List.pairwise_map (f := Prod.snd) (R := (· < ·)), List.zipIdx_map_snd]
  exact List.pairwise_lt_range'

theorem pairwise_inOrder (rules : List TypeRule) : (inOrder rules).Pairwise Before :=
  pairwise_before (pairwise_zipIdx rules)

theorem mem_inOrder {rules : List TypeRule} {a : TypeRule × Nat} :
    a ∈ inOrder rules ↔ rules[a.2]? = some a.1 := by
  rw [inOrder, (List.mergeSort_perm ..).mem_iff, List.mem_zipIdx_iff_getElem?]

/-- Rules may be chosen before they are sorted. -/
theorem filter_inOrder (p : TypeRule × Nat → Bool) (rules : List TypeRule) :
    (inOrder rules).filter p = sortBy (fun a => a.1.priority) (rules.zipIdx.filter p) := by
  refine List.Perm.eq_of_pairwise (fun a b _ _ h h' => absurd h' h.asymm)
    ((pairwise_inOrder rules).filter p) (pairwise_before ((pairwise_zipIdx rules).filter p)) ?_
  exact ((sortBy_perm _ _).filter p).trans (sortBy_perm _ _).symm

/-! ## 3. The rule that is found -/

/-- In an ascending list the first hit is the least one. -/
theorem find?_eq_some_iff_least {α : Type} {R : α → α → Prop} {p : α → Bool} {a : α}
    (hR : ∀ {a b}, R a b → ¬ R b a) : ∀ {l : List α}, l.Pairwise R →
    (l.find? p = some a ↔ a ∈ l ∧ p a = true ∧ ∀ b ∈ l, p b = true → a = b ∨ R a b)
  | [], _ => by simp
  | c :: l, h => by
      obtain ⟨hc, hl⟩ := List.pairwise_cons.mp h
      cases hp : p c with
      | true =>
          rw [List.find?_cons_of_pos hp, Option.some.injEq]
          constructor
          · rintro rfl
            exact ⟨List.mem_cons_self, hp, fun b hb _ => (List.mem_cons.mp hb).imp Eq.symm (hc b)⟩
          · rintro ⟨ha, -, hleast⟩
            rcases List.mem_cons.mp ha with rfl | ha
            · rfl
            · rcases hleast c List.mem_cons_self hp with rfl | hac
              · rfl
              · exact absurd (hc a ha) (hR hac)
      | false =>
          rw [List.find?_cons_of_neg (Bool.eq_false_iff.mp hp), find?_eq_some_iff_least hR hl,
            List.forall_mem_cons, hp]
          have hne : p a = true → a ≠ c := by
            rintro ha rfl
            rw [hp] at ha
            cases ha
          simp only [List.mem_cons, Bool.false_eq_true, false_imp_iff, true_and]
          exact ⟨fun h => ⟨Or.inr h.1, h.2⟩, fun h => ⟨h.1.resolve_left (hne h.2.1), h.2⟩⟩

section Engine

variable [PatternEngine]

/-- The rule at its place admits the name and the comment, given in lower case, and is the least one by
priority and place that does. -/
structure Decides (rules : List TypeRule) (name comment : String) (r : TypeRule) (place : Nat) :
    Prop where
  here : rules[place]? = some r
  admits : r.admits name comment = true
  least : ∀ place' (h : place' < rules.length), rules[place'].admits name comment = true →
    r.priority < rules[place'].priority ∨ r.priority = rules[place'].priority ∧ place ≤ place'

section Found

variable {rules : List TypeRule} {name comment : String}

/-- **The rule that is found is the least one that admits.** -/
theorem findRule?_eq_some_iff {r : TypeRule} {place : Nat} :
    findRule? name comment rules = some (r, place) ↔ Decides rules name comment r place := by
  rw [findRule?, find?_eq_some_iff_least Before.asymm (pairwise_inOrder rules)]
  constructor
  · rintro ⟨hmem, hadmits, hleast⟩
    refine ⟨mem_inOrder.mp hmem, hadmits, fun place' h hadmits' => ?_⟩
    have hmem' : (rules[place'], place') ∈ inOrder rules :=
      mem_inOrder.mpr (List.getElem?_eq_getElem h)
    rcases hleast _ hmem' hadmits' with heq | hlt | ⟨hpriority, hlt⟩
    · obtain ⟨rfl, rfl⟩ := Prod.mk.inj heq
      exact Or.inr ⟨rfl, Nat.le_refl _⟩
    · exact Or.inl hlt
    · exact Or.inr ⟨hpriority, Nat.le_of_lt hlt⟩
  · intro hd
    refine ⟨mem_inOrder.mpr hd.here, hd.admits, ?_⟩
    rintro ⟨r', place'⟩ hmem' hadmits'
    have hget : rules[place']? = some r' := mem_inOrder.mp hmem'
    obtain ⟨h, rfl⟩ := List.getElem?_eq_some_iff.mp hget
    rcases hd.least place' h hadmits' with hlt | ⟨hpriority, hle⟩
    · exact Or.inr (Or.inl hlt)
    · rcases Nat.lt_or_eq_of_le hle with hlt | rfl
      · exact Or.inr (Or.inr ⟨hpriority, hlt⟩)
      · exact Or.inl (Prod.ext (Option.some.inj (hd.here.symm.trans (List.getElem?_eq_getElem h))) rfl)

/-- No rule is found exactly if none admits. -/
theorem findRule?_eq_none_iff :
    findRule? name comment rules = none ↔ ∀ r ∈ rules, r.admits name comment = false := by
  rw [findRule?, List.find?_eq_none]
  constructor
  · intro h r hr
    obtain ⟨place, hplace⟩ := List.getElem?_of_mem hr
    exact Bool.eq_false_iff.mpr (h (r, place) (mem_inOrder.mpr hplace))
  · intro h a ha
    exact Bool.eq_false_iff.mp (h a.1 (List.mem_of_getElem? (mem_inOrder.mp ha)))

end Found

/-! ## 4. What the rules offer -/

/-- What the rules that admit a name and a comment offer: their priorities and types, in the given
order. -/
def offers (name comment : String) (rules : List TypeRule) : List (Int64 × AbstractType) :=
  (rules.filter (·.admits name comment)).map fun r => (r.priority, r.type)

/-- The type of the rule that is found is that of the first offer by priority. -/
theorem findRule?_map_type (name comment : String) (rules : List TypeRule) :
    (findRule? name comment rules).map (·.1.type) =
      (sortBy Prod.fst (offers name comment rules)).head?.map (·.2) := by
  have hoffers : offers name comment rules =
      (rules.zipIdx.filter (·.1.admits name comment)).map fun a => (a.1.priority, a.1.type) := by
    conv_lhs => rw [offers, ← List.zipIdx_map_fst 0 rules, List.filter_map, List.map_map]
    rfl
  rw [findRule?, ← List.head?_filter, filter_inOrder, hoffers, ← map_sortBy, List.head?_map,
    Option.map_map]
  rfl

/-- The type without rules. -/
theorem infer_nil (name comment : String) :
    infer name comment [] = byMarks (Naming.normalize name) (Naming.normalize comment) := by
  have horder : inOrder [] = [] := by simp [inOrder]
  rw [infer, findRule?, horder]
  rfl

/-- The type by a single rule. -/
theorem infer_singleton (name comment : String) (r : TypeRule) : infer name comment [r] =
    if r.admits (Naming.normalize name) (Naming.normalize comment) then r.type
    else byMarks (Naming.normalize name) (Naming.normalize comment) := by
  have horder : inOrder [r] = [(r, 0)] := by simp [inOrder]
  rw [infer, findRule?, horder, List.find?_singleton]
  cases r.admits (Naming.normalize name) (Naming.normalize comment) <;> rfl

/-- **The type depends only on what the admitting rules offer.** -/
theorem infer_eq (name comment : String) (rules : List TypeRule) : infer name comment rules =
    ((sortBy Prod.fst (offers (Naming.normalize name) (Naming.normalize comment) rules)).head?.map
      (·.2)).getD
      (byMarks (Naming.normalize name) (Naming.normalize comment)) := by
  rw [← findRule?_map_type, infer]
  cases findRule? (Naming.normalize name) (Naming.normalize comment) rules <;> rfl

/-- The keyword matches nothing: it is blank, or the engine reads no pattern where one is asked for. -/
def IdleKeyword (mode : MatchMode) (keyword : String) : Prop :=
  isBlankText keyword.toList = true ∨
    mode = .regex ∧ PatternEngine.search? keyword = none

theorem IdleKeyword.admits_eq_false {mode : MatchMode} {keyword : String} (h : IdleKeyword mode keyword)
    (text : String) : mode.admits text keyword = false := by
  rcases h with h | ⟨rfl, h⟩
  · simp only [MatchMode.admits, h, Bool.not_true, Bool.false_and]
  · simp only [MatchMode.admits, h, Bool.and_false]

/-- The second rule is the first one with some of its idle keywords left out. -/
def KeywordsThinned (r r' : TypeRule) : Prop :=
  ∃ keywords, r' = { r with keywords } ∧ Thinned (IdleKeyword r.matchMode) r.keywords keywords

theorem KeywordsThinned.admits_eq {r r' : TypeRule} (h : KeywordsThinned r r') (name comment : String) :
    r'.admits name comment = r.admits name comment := by
  obtain ⟨keywords, rfl, hthinned⟩ := h
  have hany : ∀ text, keywords.any (r.matchMode.admits text) = r.keywords.any (r.matchMode.admits text) := by
    intro text
    have hfilter := hthinned.filter_eq (p := r.matchMode.admits text) fun k hk => hk.admits_eq_false text
    have h := congrArg (List.any · fun _ => true) hfilter
    simpa only [List.any_filter, Bool.and_true] using h
  exact hany _

section Offers

variable {name comment : String} {rules rules' : List TypeRule}

theorem infer_congr_offers (h : offers (Naming.normalize name) (Naming.normalize comment) rules' =
    offers (Naming.normalize name) (Naming.normalize comment) rules) :
    infer name comment rules' = infer name comment rules := by
  rw [infer_eq, infer_eq, h]

/-- A rule that does not admit offers nothing. -/
theorem offers_thinned (h : Thinned (fun r => r.admits name comment = false) rules rules') :
    offers name comment rules' = offers name comment rules := by
  rw [offers, offers, h.filter_eq fun _ hr => hr]

/-- The second rule is the first one with other keywords, and admits the name and the comment exactly if
the first one does. -/
def Rekeyed (name comment : String) (r r' : TypeRule) : Prop :=
  (∃ keywords, r' = { r with keywords }) ∧ r'.admits name comment = r.admits name comment

/-- **Keywords matter for the offers only through what they admit.** -/
theorem offers_of_rekeyed (h : List.Forall₂ (Rekeyed name comment) rules rules') :
    offers name comment rules' = offers name comment rules := by
  induction h with
  | nil => rfl
  | @cons r r' rules rules' hr _ ih =>
      obtain ⟨⟨keywords, hr'⟩, hadmits⟩ := hr
      have hoffer : (r'.priority, r'.type) = (r.priority, r.type) := by
        rw [hr']
        rfl
      unfold offers at ih ⊢
      rw [List.filter_cons, List.filter_cons, hadmits]
      split
      · rw [List.map_cons, List.map_cons, ih, hoffer]
      · exact ih

/-- An idle keyword changes no offer. -/
theorem offers_of_keywords (h : List.Forall₂ KeywordsThinned rules rules') :
    offers name comment rules' = offers name comment rules := by
  refine offers_of_rekeyed (h.imp fun r r' hr => ⟨?_, hr.admits_eq name comment⟩)
  obtain ⟨keywords, rfl, -⟩ := hr
  exact ⟨keywords, rfl⟩

/-- Rules of different priorities offer the same in any order. -/
theorem sortBy_offers_perm (h : rules.Perm rules')
    (hp : rules.Pairwise fun r r' => r.priority ≠ r'.priority) :
    sortBy Prod.fst (offers name comment rules) = sortBy Prod.fst (offers name comment rules') := by
  refine sortBy_congr Prod.fst ((h.filter _).map _) ?_
  rw [offers, List.map_map, List.Nodup, List.pairwise_map]
  exact hp.sublist List.filter_sublist

end Offers

/-! ## 5. The type that is inferred -/

/-- **Which rule decides on a type, and what does not matter for it**, with any engine for patterns. Of
the rules that admit, the least by priority and place is found, and none exactly if none admits; its type
is inferred as it is, and without it the marks decide. Rules that do not admit and idle keywords may be
left out, and rules of different priorities may come in any order. -/
theorem infer_decided (rules : List TypeRule) :
    (∀ name comment r place,
      findRule? name comment rules = some (r, place) ↔ Decides rules name comment r place) ∧
    (∀ name comment,
      findRule? name comment rules = none ↔ ∀ r ∈ rules, r.admits name comment = false) ∧
    ∀ name comment,
      let n := Naming.normalize name
      let c := Naming.normalize comment
      (∀ r place, Decides rules n c r place →
        infer name comment rules = ⟨r.dataType, r.precision, r.scale, r.length⟩) ∧
      ((∀ r ∈ rules, r.admits n c = false) → infer name comment rules = byMarks n c) ∧
      (∀ rules', Thinned (fun r => r.admits n c = false) rules rules' →
        infer name comment rules' = infer name comment rules) ∧
      (∀ rules', List.Forall₂ KeywordsThinned rules rules' →
        infer name comment rules' = infer name comment rules) ∧
      ∀ rules', rules.Perm rules' → rules.Pairwise (fun r r' => r.priority ≠ r'.priority) →
        infer name comment rules' = infer name comment rules := by
  refine ⟨fun _ _ _ _ => findRule?_eq_some_iff, fun _ _ => findRule?_eq_none_iff, fun name comment => ?_⟩
  refine ⟨fun r place hd => ?_, fun hnone => ?_, fun rules' h => ?_, fun rules' h => ?_,
    fun rules' h hp => ?_⟩
  · rw [infer]
    simp only [findRule?_eq_some_iff.mpr hd]
    rfl
  · rw [infer]
    simp only [findRule?_eq_none_iff.mpr hnone]
  · exact infer_congr_offers (offers_thinned h)
  · exact infer_congr_offers (offers_of_keywords h)
  · rw [infer_eq, infer_eq, sortBy_offers_perm h hp]

end Engine

/-- A rule with a blank keyword and one that is no pattern. -/
def patternRule : TypeRule :=
  ((TypeRule.ofKeywords ["(amt", " ", "^CREDIT"] "DATE").withMatchMode .regex).withPriority 7

/-- A rule of the lowest priority that there is. -/
def firstRule : TypeRule := (TypeRule.ofKeywords ["zzz"] "BIGINT").withPriority (-9223372036854775808)

/-- A rule for a whole name. -/
def wholeRule : TypeRule :=
  (((TypeRule.ofKeywords ["Credit_AMT"] "DECIMAL").withMatchMode .equals).withPriority (-3)).withPrecisionScale
    10 2

/-- A rule of the same priority. -/
def partRule : TypeRule := (TypeRule.ofKeywords ["amt"] "DOUBLE").withPriority (-3)

/-- Of two rules of one priority the first one decides, behind one that does not admit, and with or without
that one; idle keywords and the order of different priorities do not matter. -/
theorem infer_decided_tied :
    Decides [patternRule, firstRule, wholeRule, partRule] "credit_amt" "" wholeRule 2 ∧
    findRule? "credit_amt" "" [patternRule, firstRule, wholeRule, partRule] = some (wholeRule, 2) ∧
    infer " Credit_amt " "" [patternRule, firstRule, wholeRule, partRule] =
      ⟨"DECIMAL", some 10, some 2, none⟩ ∧
    infer " Credit_amt " "" [patternRule, wholeRule, partRule] =
      infer " Credit_amt " "" [patternRule, firstRule, wholeRule, partRule] ∧
    infer "credit" "" [{ patternRule with keywords := ["^CREDIT"] }] = infer "credit" "" [patternRule] ∧
    infer "credit" "" [wholeRule, patternRule] = infer "credit" "" [patternRule, wholeRule] := by
  have hdecides : Decides [patternRule, firstRule, wholeRule, partRule] "credit_amt" "" wholeRule 2 :=
    ⟨rfl, by decide +kernel, by decide +kernel⟩
  have hname : Naming.normalize " Credit_amt " = "credit_amt" := by decide +kernel
  have hcomment : Naming.normalize "" = "" := by decide +kernel
  have hall := infer_decided [patternRule, firstRule, wholeRule, partRule]
  refine ⟨hdecides, (hall.1 _ _ _ _).mpr hdecides, (hall.2.2 _ _).1 wholeRule 2 ?_,
    (hall.2.2 _ _).2.2.1 _ (.keep _ (.leave ?_ (.keep _ (.keep _ .nil)))), ?_, ?_⟩
  · rw [hname, hcomment]
    exact hdecides
  · decide +kernel
  · have hidle : Thinned (IdleKeyword .regex) ["(amt", " ", "^CREDIT"] ["^CREDIT"] :=
      .leave (Or.inr ⟨rfl, by decide +kernel⟩) (.leave (Or.inl (by decide)) (.keep _ .nil))
    exact ((infer_decided [patternRule]).2.2 _ _).2.2.2.1 _ (.cons ⟨_, rfl, hidle⟩ .nil)
  · exact ((infer_decided [patternRule, wholeRule]).2.2 _ _).2.2.2.2 _ (.swap ..) (by decide +kernel)

end Inference

end TableDraft

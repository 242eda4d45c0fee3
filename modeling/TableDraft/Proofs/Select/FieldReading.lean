import TableDraft.Proofs.Select.FromScan
import TableDraft.Proofs.Select.RemarkLookup
import TableDraft.Select.Field

/-!
# Reading one expression

* `holdsFrom_iff`: a text holds FROM where it stands between two blanks, and so an expression without a
  free FROM does not look like a nested query for its sake (`holdsFrom_eq_false`);
* `exists_fromAt_iff_word`: a free FROM is one of the words of the text;
* `splitAlias_cases`: an alias is `Unquoted` and has a name before it, and an expression without one is
  its own name, but for DISTINCT (`withoutDistinct_dropDistinct`);
* **`ofExpression?_eq`: no name is empty, so an expression with something in it that does not look like a
  nested query is a field**;
* `ofExpression?_withComment`: a remark under the whole expression is the comment of the field, and
  changes nothing else in it;
* `ofExpression?_empty`: no remarks are as good as no table.
-/

namespace TableDraft.Select

open Text

theorem dropBlanks_eq_some_iff {s r : List Char} :
    dropBlanks s = some r ↔ ∃ b t, s = b :: t ∧ isBlank b = true ∧ r = trimStart t := by
  cases s with
  | nil => simp [dropBlanks]
  | cons c u =>
      by_cases hc : isBlank c = true
      · rw [dropBlanks, if_pos hc, Option.some.injEq]
        constructor
        · intro h
          exact ⟨c, u, rfl, hc, h.symm⟩
        · rintro ⟨b, t, hs, -, rfl⟩
          rw [(List.cons.inj hs).2]
      · rw [dropBlanks, if_neg hc]
        refine iff_of_false (by simp) ?_
        rintro ⟨b, t, hs, hb, -⟩
        rw [← (List.cons.inj hs).1] at hb
        exact hc hb

/-! ## 1. Nested queries -/

theorem FromAt.cons {s p q : List Char} (h : FromAt s p q) (hp : p ≠ []) (c : Char) :
    FromAt (c :: s) (c :: p) q := by
  obtain ⟨⟨w, hw, rfl⟩, hbefore, hafter⟩ := h
  refine ⟨⟨w, hw, rfl⟩, fun b hb => hbefore b ?_, hafter⟩
  cases p with
  | nil => exact absurd rfl hp
  | cons d p => exact hb

/-- FROM stands in the text between two blanks. -/
def FromBetween (s : List Char) : Prop := ∃ p q, p ≠ [] ∧ q ≠ [] ∧ FromAt s p q

theorem FromBetween.cons {s : List Char} (h : FromBetween s) (c : Char) : FromBetween (c :: s) := by
  obtain ⟨p, q, hp, hq, hf⟩ := h
  exact ⟨c :: p, q, List.cons_ne_nil c p, hq, hf.cons hp c⟩

theorem FromBetween.of_holdsFrom : ∀ {s : List Char}, holdsFrom s = true → FromBetween s
  | [], h => by cases h
  | c :: s, h => by
      rw [holdsFrom, Bool.or_eq_true, Bool.and_eq_true] at h
      rcases h with ⟨hc, h⟩ | h
      · obtain ⟨r, hr⟩ := Option.isSome_iff_exists.mp h
        obtain ⟨u, hu, hblanks⟩ := Option.bind_eq_some_iff.mp hr
        obtain ⟨w, rfl, hw⟩ := dropKeyword_eq_some_iff.mp hu
        obtain ⟨b, t, rfl, hb, -⟩ := dropBlanks_eq_some_iff.mp hblanks
        refine ⟨[c], b :: t, List.cons_ne_nil c [], List.cons_ne_nil b t,
          ⟨w, map_letter_eq_from.mp hw, rfl⟩, ?_, ?_⟩
        · rintro d hd
          exact Option.some.inj hd ▸ hc
        · rintro d hd
          exact Option.some.inj hd ▸ hb
      · exact (FromBetween.of_holdsFrom h).cons c

theorem holdsFrom_of_fromAt : ∀ {p s q : List Char}, p ≠ [] → q ≠ [] → FromAt s p q →
    holdsFrom s = true
  | [], _, _, hp, _, _ => absurd rfl hp
  | [c], _, q, _, hq, ⟨⟨w, hw, rfl⟩, hbefore, hafter⟩ => by
      obtain ⟨b, t, rfl⟩ := List.exists_cons_of_ne_nil hq
      have hb : isBlank b = true := hafter b rfl
      have hc : isBlank c = true := hbefore c rfl
      have hread : dropKeyword "from".toList (w ++ b :: t) = some (b :: t) :=
        dropKeyword_eq_some_iff.mpr ⟨w, rfl, map_letter_eq_from.mpr hw⟩
      have hblanks : dropBlanks (b :: t) = some (trimStart t) :=
        dropBlanks_eq_some_iff.mpr ⟨b, t, rfl, hb, rfl⟩
      rw [List.append_assoc, List.singleton_append, holdsFrom, hread, Option.bind_some, hblanks, hc]
      rfl
  | c :: d :: p, _, q, _, hq, ⟨⟨w, hw, rfl⟩, hbefore, hafter⟩ => by
      have hrest : holdsFrom (d :: p ++ w ++ q) = true :=
        holdsFrom_of_fromAt (List.cons_ne_nil d p) hq ⟨⟨w, hw, rfl⟩, hbefore, hafter⟩
      rw [List.cons_append, List.cons_append, holdsFrom, hrest, Bool.or_true]

/-- **A text holds FROM where it stands between two blanks.** -/
theorem holdsFrom_iff {s : List Char} : holdsFrom s = true ↔ FromBetween s := by
  refine ⟨FromBetween.of_holdsFrom, ?_⟩
  rintro ⟨p, q, hp, hq, hf⟩
  exact holdsFrom_of_fromAt hp hq hf

theorem holdsFrom_eq_false {s : List Char} (h : ∀ p q, ¬ FromAt s p q) : holdsFrom s = false := by
  rw [← Bool.not_eq_true, holdsFrom_iff]
  rintro ⟨p, q, -, -, hf⟩
  exact h p q hf

/-- **A free FROM is one of the words of the text.** -/
theorem exists_fromAt_iff_word {s : List Char} :
    (∃ p q, FromAt s p q) ↔ ∃ w ∈ words s, w.map letter = "from".toList := by
  constructor
  · intro h
    obtain ⟨p, q, ⟨w, hw, rfl⟩, hbefore, hafter⟩ := h
    have hletters := map_letter_eq_from.mpr hw
    rw [List.append_assoc]
    exact ⟨w, solid_from.mem_words hletters ⟨hbefore, hafter⟩, hletters⟩
  · intro h
    obtain ⟨w, hmem, hw⟩ := h
    obtain ⟨-, p, q, rfl, hbefore, hafter⟩ := exists_of_mem_words hmem
    exact ⟨p, q, ⟨w, map_letter_eq_from.mp hw, (List.append_assoc p w q).symm⟩, hbefore, hafter⟩

theorem looksNested_iff {s : List Char} :
    looksNested s = true ↔ WordIn "select".toList false s ∨ FromBetween s := by
  rw [looksNested, Bool.or_eq_true, holdsWord_iff (by decide), holdsFrom_iff]

/-! ## 2. Names and aliases -/

theorem any_isParen_eq_false {s : List Char} : s.any isParen = false ↔ NoParen s := by
  rw [List.any_eq_false]
  constructor
  · exact fun h => ⟨fun ho => h _ ho rfl, fun hc => h _ hc rfl⟩
  · rintro ⟨ho, hc⟩ c hm hp
    rw [isParen, Bool.or_eq_true, beq_iff_eq, beq_iff_eq] at hp
    rcases hp with rfl | rfl
    · exact ho hm
    · exact hc hm

/-- What an alias is once its quotes are gone: something without parentheses and with no quote character
at its ends. -/
structure Unquoted (a : List Char) : Prop where
  ne_nil : a ≠ []
  noParen : NoParen a
  head : ∀ c ∈ a.head?, isQuote c = false
  last : ∀ c ∈ a.getLast?, isQuote c = false

theorem unquote_subset (s : List Char) : unquote s ⊆ s := fun _ hc =>
  (List.dropWhile_suffix isQuote).subset ((List.rdropWhile_prefix isQuote _).subset hc)

theorem unquoted_unquote {s : List Char} (hs : NoParen s) (hne : unquote s ≠ []) :
    Unquoted (unquote s) where
  ne_nil := hne
  noParen := ⟨fun h => hs.1 (unquote_subset s h), fun h => hs.2 (unquote_subset s h)⟩
  head := head_of_dropEnds
  last := last_of_dropEnds

theorem of_explicitAlias {e name a : List Char} (h : explicitAlias e = some (name, a)) :
    name ≠ [] ∧ Unquoted a := by
  unfold explicitAlias at h
  split at h
  · cases h
  · split at h
    · cases h
    · rename_i before token hcut hcond
      obtain ⟨rfl, rfl⟩ := Prod.mk.inj (Option.some.inj h)
      rw [Bool.or_eq_true, Bool.or_eq_true, not_or, not_or, List.isEmpty_iff, List.isEmpty_iff,
        Bool.not_eq_true, any_isParen_eq_false] at hcond
      obtain ⟨⟨hparen, hne⟩, hname⟩ := hcond
      exact ⟨hname, unquoted_unquote hparen hne⟩

theorem of_implicitAlias {e name a : List Char} (h : implicitAlias e = some (name, a)) :
    name ≠ [] ∧ Unquoted a := by
  unfold implicitAlias at h
  split at h
  · rename_i last before front hwords
    split at h
    · cases h
    · rename_i hcond
      obtain ⟨rfl, rfl⟩ := Prod.mk.inj (Option.some.inj h)
      rw [Bool.or_eq_true, Bool.or_eq_true, not_or, not_or, List.isEmpty_iff, Bool.not_eq_true,
        Bool.not_eq_true, any_isParen_eq_false] at hcond
      obtain ⟨⟨-, hparen⟩, hne⟩ := hcond
      refine ⟨fun hnil => ?_, unquoted_unquote hparen hne⟩
      have hmem : before ∈ words e := by
        rw [← List.mem_reverse, hwords]
        exact List.mem_cons_of_mem last List.mem_cons_self
      have hin : before ∈ (before :: front).reverse.intersperse [' '] :=
        RemarkTable.mem_intersperse _ (List.mem_reverse.mpr List.mem_cons_self)
      exact ne_nil_of_mem_words hmem (List.flatten_eq_nil_iff.mp hnil before hin)
  · cases h

/-- **An expression without an alias is its own name, and one with an alias has a name before it.** -/
theorem splitAlias_cases (e : List Char) : splitAlias e = (e, none) ∨
    ∃ name a, splitAlias e = (name, some a) ∧ name ≠ [] ∧ Unquoted a := by
  unfold splitAlias
  split
  · rename_i name a h
    exact Or.inr ⟨name, a, rfl, of_explicitAlias h⟩
  · split
    · rename_i name a h
      exact Or.inr ⟨name, a, rfl, of_implicitAlias h⟩
    · exact Or.inl rfl

/-! ## 3. DISTINCT -/

/-- What is left of a text without one DISTINCT at its start and the blanks after it, if it starts so. -/
inductive WithoutDistinct (s : List Char) : List Char → Prop where
  | dropped {w x n : List Char} : s = w ++ (x ++ n) → w.map letter = "distinct".toList →
      isBlankText x = true → x ≠ [] → (∀ c ∈ n.head?, isBlank c = false) → WithoutDistinct s n
  | kept : (∀ w b r, s = w ++ b :: r → w.map letter = "distinct".toList → isBlank b = false) →
      WithoutDistinct s s

section Trimmed

variable {s : List Char} (ht : trim s = s)
include ht

theorem withoutDistinct_dropDistinct : WithoutDistinct s (trim (dropDistinct s)) := by
  unfold dropDistinct
  cases h : (dropKeyword "distinct".toList s).bind dropBlanks with
  | none =>
      rw [Option.getD_none, ht]
      refine .kept fun w b r hs hw => ?_
      rw [← Bool.not_eq_true]
      intro hb
      have hread : dropKeyword "distinct".toList s = some (b :: r) :=
        dropKeyword_eq_some_iff.mpr ⟨w, hs, hw⟩
      rw [hread, Option.bind_some, dropBlanks_eq_some_iff.mpr ⟨b, r, rfl, hb, rfl⟩] at h
      cases h
  | some r =>
      obtain ⟨u, hu, hblanks⟩ := Option.bind_eq_some_iff.mp h
      obtain ⟨w, hs, hw⟩ := dropKeyword_eq_some_iff.mp hu
      obtain ⟨b, t, rfl, hb, rfl⟩ := dropBlanks_eq_some_iff.mp hblanks
      obtain ⟨x, hx, hxt⟩ := exists_trimStart t
      have hhead : ∀ c ∈ (trimStart t).head?, isBlank c = false := head_of_trimStart
      have htrim : trim (trimStart t) = trimStart t := by
        refine trim_eq_self hhead fun c hc => last_of_trim (s := s) c ?_
        have hne : trimStart t ≠ [] := by
          intro hnil
          rw [hnil] at hc
          cases hc
        rw [ht, hs, hxt, ← List.cons_append, ← List.append_assoc, List.getLast?_append_of_ne_nil _ hne]
        exact hc
      rw [Option.getD_some, htrim]
      refine .dropped (x := b :: x) ?_ hw ?_ (List.cons_ne_nil b x) hhead
      · rw [hs, List.cons_append, ← hxt]
      · rw [isBlankText_cons, hb, hx]
        rfl

/-- A trimmed expression is more than DISTINCT and blanks after it. -/
theorem WithoutDistinct.ne_nil (hne : s ≠ []) {n : List Char} (h : WithoutDistinct s n) : n ≠ [] := by
  rintro rfl
  cases h with
  | kept => exact hne rfl
  | @dropped w x _ hs _ hx hxne _ =>
      -- the expression would end in blanks
      have hnot := last_of_trim (s := s) (x.getLast hxne) (by
        rw [ht, hs, List.append_nil, List.getLast?_append_of_ne_nil w hxne,
          List.getLast?_eq_some_getLast hxne]
        rfl)
      rw [isBlankText_iff.mp hx _ (List.getLast_mem hxne)] at hnot
      cases hnot

end Trimmed

/-! ## 4. Fields -/

namespace Field

/-- The field that is read from a trimmed expression. -/
def ofSource (t : Option RemarkTable) (source : List Char) : Field :=
  let split := splitAlias (trim (dropDistinct source))
  let shown := String.ofList (split.2.getD split.1)
  let comment := (t.bind fun table => remarkOn? table source split.1 split.2).getD shown
  ⟨shown, split.2.map String.ofList, comment⟩

/-- **Every expression has a name that is not empty**, so one is a field unless it is blank or looks like
a nested query. -/
theorem ofExpression?_eq (t : Option RemarkTable) (e : List Char) : ofExpression? t e =
    if (trim e).isEmpty || looksNested (trim e) then none else some (ofSource t (trim e)) := by
  unfold ofExpression?
  dsimp only
  split
  · rfl
  · rename_i h
    have hne : trim e ≠ [] := by
      intro hnil
      exact h (by rw [hnil]; rfl)
    have hname : (splitAlias (trim (dropDistinct (trim e)))).1 ≠ [] := by
      rcases splitAlias_cases (trim (dropDistinct (trim e))) with hsplit | ⟨name, a, hsplit, hname, -⟩
      · rw [hsplit]
        exact (withoutDistinct_dropDistinct (trim_trim e)).ne_nil (trim_trim e) hne
      · rw [hsplit]
        exact hname
    rw [if_neg (List.isEmpty_iff.not.mpr hname)]
    rfl

theorem ofExpression?_eq_none_iff {t : Option RemarkTable} {e : List Char} : ofExpression? t e = none ↔
    trim e = [] ∨ WordIn "select".toList false (trim e) ∨ FromBetween (trim e) := by
  rw [ofExpression?_eq, ← looksNested_iff, ← List.isEmpty_iff, ← Bool.or_eq_true]
  split
  · rename_i h
    exact iff_of_true rfl h
  · rename_i h
    exact iff_of_false (Option.some_ne_none _) h

theorem eq_ofSource {t : Option RemarkTable} {e : List Char} {f : Field}
    (h : ofExpression? t e = some f) : trim e ≠ [] ∧ f = ofSource t (trim e) := by
  rw [ofExpression?_eq] at h
  split at h
  · cases h
  · rename_i hcond
    rw [Bool.or_eq_true, not_or, List.isEmpty_iff] at hcond
    exact ⟨hcond.1, (Option.some.inj h).symm⟩

/-- Whether an expression is a field does not depend on remarks. -/
theorem ofExpression?_of_some {t : Option RemarkTable} {e : List Char} {f : Field}
    (h : ofExpression? t e = some f) (t' : Option RemarkTable) :
    ofExpression? t' e = some (ofSource t' (trim e)) := by
  rw [ofExpression?_eq] at h ⊢
  split at h
  · cases h
  · rename_i hcond
    exact if_neg hcond

/-- **An expression with something in it that does not look like a nested query is a field.** -/
theorem isSome_ofExpression? (t : Option RemarkTable) {e : List Char} (hne : trim e ≠ [])
    (hn : looksNested (trim e) = false) : (ofExpression? t e).isSome = true := by
  simp [ofExpression?_eq, hne, hn]

/-- **A remark under the whole expression is the comment of the field.** -/
theorem ofExpression?_withComment {t : RemarkTable} {e : List Char} {c : String}
    (h : t.get? (trim e) = some c) :
    ofExpression? (some t) e = (ofExpression? none e).map (·.withComment c) := by
  rw [ofExpression?_eq, ofExpression?_eq]
  split
  · rfl
  · simp only [Option.map_some, ofSource, withComment, Option.bind_some, remarkOn?, h, Option.some_or,
      Option.getD_some]

/-- No remarks are as good as no table. -/
theorem ofExpression?_empty (e : List Char) :
    ofExpression? (some RemarkTable.empty) e = ofExpression? none e := by
  have h : ∀ source name alias?, remarkOn? RemarkTable.empty source name alias? = none := by
    intro source name alias?
    cases alias? <;> rfl
  simp only [ofExpression?_eq, ofSource, Option.bind_some, Option.bind_none, h]

end Field

end TableDraft.Select

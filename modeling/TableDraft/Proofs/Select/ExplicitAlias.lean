import TableDraft.Proofs.Select.FieldReading

/-!
# The alias after AS

An expression that ends in AS and an alias has that alias, whatever is before it: the name may itself hold
AS, open a quote or look like an expression with an alias.

* `Alias`, `Written`: the aliases, and the ways to write one down;
* `exists_of_aliasTokenAt`: what is read at a place as AS and an alias;
* **`aliasTokenAt_before`: nothing is read so from a place in the name**, since there are more words
  from there than AS, or the alias would hold a blank;
* `cutExplicitAlias_append`: the cut is at the first place from which AS and an alias are read;
* `splitAlias_written`: the name and the alias are found again, and **`ofExpression?_written`: so they are
  in the field**, with the remark on the expression, on the name or on the alias.
-/

namespace TableDraft.Select

open Text

/-! ## 1. Written aliases -/

/-- A text that can be an alias: something without quotes and parentheses. -/
structure Alias (a : List Char) : Prop where
  ne_nil : a ≠ []
  noQuote : ∀ c ∈ a, isQuote c = false
  noParen : NoParen a

/-- The ways to write an alias: between two quotes of one kind, or as one word without a comma. -/
inductive Written (a : List Char) : List Char → Prop where
  | quoted (q : Char) : isQuote q = true → Written a (q :: (a ++ [q]))
  | bare : (∀ c ∈ a, isBlank c = false ∧ c ≠ ',') → Written a a

theorem isBlank_of_isQuote {q : Char} (hq : isQuote q = true) : isBlank q = false := by
  rw [isQuote, Bool.or_eq_true, Bool.or_eq_true, beq_iff_eq, beq_iff_eq, beq_iff_eq] at hq
  rcases hq with (rfl | rfl) | rfl <;> decide

theorem isParen_of_isQuote {q : Char} (hq : isQuote q = true) : isParen q = false := by
  rw [isQuote, Bool.or_eq_true, Bool.or_eq_true, beq_iff_eq, beq_iff_eq, beq_iff_eq] at hq
  rcases hq with (rfl | rfl) | rfl <;> decide

/-- Quotes at the ends go, and nothing else does. -/
theorem unquote_between {x a y : List Char} (hx : ∀ c ∈ x, isQuote c = true)
    (hy : ∀ c ∈ y, isQuote c = true) (hne : a ≠ []) (ha : ∀ c ∈ a, isQuote c = false) :
    unquote (x ++ (a ++ y)) = a := by
  have hkeep : ∀ {s : List Char} (t : List Char), s ≠ [] → (∀ c ∈ s, isQuote c = false) →
      (s ++ t).dropWhile isQuote = s ++ t := by
    intro s t hs hall
    obtain ⟨c, s, rfl⟩ := List.exists_cons_of_ne_nil hs
    rw [List.cons_append, List.dropWhile_cons_of_neg]
    rw [hall c List.mem_cons_self]
    exact Bool.false_ne_true
  have hrev : a.reverse ≠ [] := fun h => hne (List.reverse_eq_nil_iff.mp h)
  have hleft := hkeep y hne ha
  have hright := hkeep [] hrev fun c hc => ha c (List.mem_reverse.mp hc)
  rw [List.append_nil] at hright
  rw [unquote, List.dropWhile_append_of_pos hx, hleft, List.reverse_append,
    List.dropWhile_append_of_pos fun c hc => hy c (List.mem_reverse.mp hc), hright,
    List.reverse_reverse]

namespace Written

variable {a token : List Char} (h : Written a token)

section Ends

include h

theorem head_solid : ∀ c ∈ token.head?, isBlank c = false := by
  intro c hc
  cases h with
  | quoted q hq =>
      obtain rfl := Option.some.inj hc
      exact isBlank_of_isQuote hq
  | bare hbare => exact (hbare c (List.mem_of_head? hc)).1

theorem last_solid : ∀ c ∈ token.getLast?, isBlank c = false := by
  intro c hc
  cases h with
  | quoted q hq =>
      rw [← List.cons_append, List.getLast?_concat] at hc
      obtain rfl := Option.some.inj hc
      exact isBlank_of_isQuote hq
  | bare hbare => exact (hbare c (List.mem_of_getLast? hc)).1

end Ends

variable (ha : Alias a)
include h ha

theorem ne_nil : token ≠ [] := by
  cases h with
  | quoted q _ => exact List.cons_ne_nil q _
  | bare _ => exact ha.ne_nil

theorem unquote_eq : unquote token = a := by
  cases h with
  | quoted q hq =>
      have hall : ∀ c ∈ [q], isQuote c = true := List.forall_mem_singleton.mpr hq
      exact unquote_between (x := [q]) hall hall ha.ne_nil ha.noQuote
  | bare _ =>
      have hback := unquote_between (x := []) (y := []) nofun nofun ha.ne_nil ha.noQuote
      rwa [List.append_nil] at hback

theorem noParen : token.any isParen = false := by
  have haParen : a.any isParen = false := any_isParen_eq_false.mpr ha.noParen
  cases h with
  | quoted q hq => simp [isParen_of_isQuote hq, haParen]
  | bare _ => exact haParen

theorem isAliasToken_eq : isAliasToken token = true := by
  rw [isAliasToken, Bool.or_eq_true]
  cases h with
  | quoted q hq =>
      have hnot : q ∉ a := fun hm => by
        rw [ha.noQuote q hm] at hq
        cases hq
      left
      simp [isQuoted, hq, hnot]
  | bare hbare =>
      right
      rw [Bool.and_eq_true, Bool.not_eq_true', List.isEmpty_eq_false_iff, List.all_eq_true]
      refine ⟨ha.ne_nil, fun c hc => ?_⟩
      rw [Bool.and_eq_true, Bool.not_eq_true', bne_iff_ne]
      exact hbare c hc

/-- **With a blank before it, a written alias is no longer one**: a word has no blank, and a quote that
was open before would close at the first quote of the alias, or nowhere. -/
theorem isAliasToken_append {u : List Char} {b : Char} (hb : isBlank b = true) :
    isAliasToken (u ++ [b] ++ token) = false := by
  rw [isAliasToken, Bool.or_eq_false_iff]
  constructor
  · rw [← Bool.not_eq_true]
    intro hquoted
    obtain ⟨q, r, hqr⟩ : ∃ q r, u ++ [b] = q :: r :=
      List.exists_cons_of_ne_nil (List.append_ne_nil_of_right_ne_nil u (List.cons_ne_nil b []))
    rw [hqr, List.cons_append, isQuoted, Bool.and_eq_true, Bool.and_eq_true, beq_iff_eq,
      Bool.not_eq_true', List.getLast?_append_of_ne_nil r (h.ne_nil ha),
      List.dropLast_append_of_ne_nil (h.ne_nil ha)] at hquoted
    obtain ⟨⟨hq, hlast⟩, hnot⟩ := hquoted
    cases h with
    | quoted q' hq' =>
        rw [← List.cons_append, List.getLast?_concat] at hlast
        obtain rfl := Option.some.inj hlast
        have hmem : q' ∈ r ++ (q' :: (a ++ [q'])).dropLast := by
          rw [← List.cons_append, List.dropLast_concat]
          exact List.mem_append_right r List.mem_cons_self
        rw [← List.contains_iff_mem, hnot] at hmem
        cases hmem
    | bare _ =>
        rw [ha.noQuote q (List.mem_of_getLast? hlast)] at hq
        cases hq
  · rw [Bool.and_eq_false_iff]
    right
    rw [List.all_eq_false]
    refine ⟨b, by simp, ?_⟩
    rw [hb]
    exact Bool.false_ne_true

end Written

/-! ## 2. Reading at a place -/

/-- How many characters of the text are no blanks. -/
def solidCount (s : List Char) : Nat := s.countP fun c => !isBlank c

theorem solidCount_append (s t : List Char) : solidCount (s ++ t) = solidCount s + solidCount t :=
  List.countP_append

theorem solidCount_blank {x : List Char} (hx : isBlankText x = true) : solidCount x = 0 := by
  rw [solidCount, List.countP_eq_zero]
  intro c hc
  rw [isBlankText_iff.mp hx c hc]
  exact Bool.false_ne_true

theorem solidCount_keyword {k w : List Char} (hk : Solid k) (hw : w.map letter = k) :
    solidCount w = k.length := by
  rw [← hw, List.length_map, solidCount, List.countP_eq_length]
  intro c hc
  rw [hk.noBlank_of_letters hw c hc]
  rfl

theorem solidCount_pos {s : List Char} (hne : s ≠ []) (hl : ∀ c ∈ s.getLast?, isBlank c = false) :
    0 < solidCount s := by
  have hlast := List.getLast?_eq_some_getLast hne
  refine List.countP_pos_iff.mpr ⟨s.getLast hne, List.getLast_mem hne, ?_⟩
  rw [hl _ hlast]
  rfl

theorem exists_of_dropBlanks {s r : List Char} (h : dropBlanks s = some r) :
    ∃ x, isBlankText x = true ∧ x ≠ [] ∧ s = x ++ r := by
  obtain ⟨b, t, rfl, hb, rfl⟩ := dropBlanks_eq_some_iff.mp h
  obtain ⟨x, hx, ht⟩ := exists_trimStart t
  refine ⟨b :: x, ?_, List.cons_ne_nil b x, congrArg (b :: ·) ht⟩
  rw [isBlankText_cons, hb, hx]
  rfl

theorem solid_as : Solid "as".toList := .of_all (by decide) (by decide)

/-- **What is read as AS and an alias** is AS, with blanks on either side, and the alias. -/
theorem exists_of_aliasTokenAt {s token : List Char} (h : aliasTokenAt s = some token) :
    isAliasToken token = true ∧ ∃ x w y, s = x ++ (w ++ (y ++ token)) ∧ w.map letter = "as".toList ∧
      isBlankText x = true ∧ x ≠ [] ∧ isBlankText y = true ∧ y ≠ [] := by
  obtain ⟨h, htoken⟩ := Option.filter_eq_some_iff.mp h
  obtain ⟨u, hu, hafter⟩ := Option.bind_eq_some_iff.mp h
  obtain ⟨v, hv, hkeyword⟩ := Option.bind_eq_some_iff.mp hu
  obtain ⟨x, hx, hxne, rfl⟩ := exists_of_dropBlanks hv
  obtain ⟨w, rfl, hw⟩ := dropKeyword_eq_some_iff.mp hkeyword
  obtain ⟨y, hy, hyne, rfl⟩ := exists_of_dropBlanks hafter
  exact ⟨htoken, x, w, y, rfl, hw, hx, hxne, hy, hyne⟩

/-- Before the alias there are two characters that are no blanks. -/
theorem solidCount_of_aliasTokenAt {s token : List Char} (h : aliasTokenAt s = some token) :
    ∃ before, solidCount before = 2 ∧ s = before ++ token := by
  obtain ⟨-, x, w, y, rfl, hw, hx, -, hy, -⟩ := exists_of_aliasTokenAt h
  refine ⟨x ++ (w ++ y), ?_, by simp only [List.append_assoc]⟩
  rw [solidCount_append, solidCount_append, solidCount_blank hx, solidCount_blank hy,
    solidCount_keyword solid_as hw]
  rfl

section Places

variable {a token : List Char} (h : Written a token) (ha : Alias a)
include h ha

/-- The alias is read after AS. -/
theorem aliasTokenAt_written : aliasTokenAt (" AS ".toList ++ token) = some token := by
  obtain ⟨c, r, rfl⟩ := List.exists_cons_of_ne_nil (h.ne_nil ha)
  have hc : isBlank c = false := h.head_solid c rfl
  have hread : dropBlanks (' ' :: c :: r) = some (c :: r) := by
    rw [dropBlanks, if_pos (by decide), trimStart_cons hc]
  have hkeyword : dropKeyword "as".toList ("AS".toList ++ ' ' :: c :: r) = some (' ' :: c :: r) :=
    dropKeyword_append_self "AS".toList _
  have hstart : dropBlanks (" AS ".toList ++ c :: r) = some ("AS".toList ++ ' ' :: c :: r) := rfl
  rw [aliasTokenAt, hstart, Option.bind_some, hkeyword, Option.bind_some, hread, Option.filter_some,
    h.isAliasToken_eq ha]
  rfl

/-- **Nothing is read as AS and an alias from a place before that AS.** -/
theorem aliasTokenAt_before {q : List Char} (hne : q ≠ [])
    (hl : ∀ c ∈ q.getLast?, isBlank c = false) :
    aliasTokenAt (q ++ (" AS ".toList ++ token)) = none := by
  rw [Option.eq_none_iff_forall_ne_some]
  intro other hother
  obtain ⟨before, hcount, hs⟩ := solidCount_of_aliasTokenAt hother
  obtain ⟨hother, -⟩ := exists_of_aliasTokenAt hother
  have hname : 2 < solidCount (q ++ " AS ".toList) := by
    have hpos := solidCount_pos hne hl
    have has : solidCount " AS ".toList = 2 := rfl
    rw [solidCount_append, has]
    omega
  rw [← List.append_assoc] at hs
  rcases List.append_eq_append_iff.mp hs with ⟨u, rfl, -⟩ | ⟨u, hu, rfl⟩
  · -- the alias that is read would start in the written one, or at it
    rw [solidCount_append] at hcount
    omega
  · rcases List.eq_nil_or_concat u with rfl | ⟨u, b, rfl⟩
    · rw [List.append_nil] at hu
      rw [hu] at hname
      omega
    · -- it would start before the blank after AS
      have hsplit : (q ++ " AS".toList) ++ [' '] = (before ++ u) ++ [b] := by
        rw [List.append_assoc, List.append_assoc]
        rw [List.concat_eq_append] at hu
        exact hu
      obtain ⟨-, hb⟩ := List.append_inj' hsplit rfl
      obtain rfl := List.singleton_inj.mp hb
      rw [List.concat_eq_append, h.isAliasToken_append ha (by decide)] at hother
      cases hother

end Places

/-! ## 3. The cut -/

-- unfolding the test of a place would compare code points before it is known which character is meant
attribute [local irreducible] aliasTokenAt in
theorem cutExplicitAlias_cons (c : Char) (r : List Char) :
    cutExplicitAlias (c :: r) = match aliasTokenAt (c :: r) with
      | some token => some ([], token)
      | none => (cutExplicitAlias r).map fun p => (c :: p.1, p.2) := rfl

/-- **The cut is at the first place from which AS and an alias are read.** -/
theorem cutExplicitAlias_append {s token : List Char} (hs : aliasTokenAt s = some token) :
    ∀ {n : List Char}, (∀ q, q ≠ [] → q <:+ n → aliasTokenAt (q ++ s) = none) →
    cutExplicitAlias (n ++ s) = some (n, token)
  | [], _ => by
      cases s with
      | nil => exact absurd hs (Option.some_ne_none token).symm
      | cons c r => rw [List.nil_append, cutExplicitAlias_cons, hs]
  | c :: n, h => by
      have hc : aliasTokenAt (c :: (n ++ s)) = none :=
        h (c :: n) (List.cons_ne_nil c n) List.suffix_rfl
      have ih := cutExplicitAlias_append hs fun q hq hqn =>
        h q hq (hqn.trans (List.suffix_cons c n))
      rw [List.cons_append, cutExplicitAlias_cons, hc, ih]
      rfl

theorem exists_of_cutExplicitAlias : ∀ {e before token : List Char},
    cutExplicitAlias e = some (before, token) → ∃ s, e = before ++ s ∧ aliasTokenAt s = some token
  | [], _, _, h => by cases h
  | c :: r, before, token, h => by
      rw [cutExplicitAlias_cons] at h
      split at h
      · rename_i token' htoken
        obtain ⟨rfl, rfl⟩ := Prod.mk.inj (Option.some.inj h)
        exact ⟨c :: r, rfl, htoken⟩
      · obtain ⟨⟨p, token'⟩, hcut, hp⟩ := Option.map_eq_some_iff.mp h
        obtain ⟨rfl, rfl⟩ := Prod.mk.inj hp
        obtain ⟨s, rfl, hs⟩ := exists_of_cutExplicitAlias hcut
        exact ⟨s, rfl, hs⟩

/-- **Without the word AS there is no alias after it.** -/
theorem explicitAlias_eq_none {e : List Char} (h : ∀ w ∈ words e, w.map letter ≠ "as".toList) :
    explicitAlias e = none := by
  have hcut : cutExplicitAlias e = none := by
    rw [Option.eq_none_iff_forall_ne_some]
    rintro ⟨before, token⟩ hcut
    obtain ⟨s, rfl, hs⟩ := exists_of_cutExplicitAlias hcut
    obtain ⟨-, x, w, y, rfl, hw, hx, hxne, hy, hyne⟩ := exists_of_aliasTokenAt hs
    refine h w ?_ hw
    rw [← List.append_assoc]
    refine solid_as.mem_words hw ⟨fun c hc => ?_, fun c hc => ?_⟩
    · rw [List.getLast?_append_of_ne_nil before hxne] at hc
      exact isBlankText_iff.mp hx c (List.mem_of_getLast? hc)
    · rw [List.head?_append_of_ne_nil y hyne] at hc
      exact isBlankText_iff.mp hy c (List.mem_of_head? hc)
  rw [explicitAlias, hcut]

section Expressions

variable {n a token : List Char} (hn : trim n = n) (hne : n ≠ []) (ha : Alias a)
  (h : Written a token)
include hn hne ha h

/-- The name and the alias are found again. -/
theorem splitAlias_written : splitAlias (n ++ (" AS ".toList ++ token)) = (n, some a) := by
  have hcut : cutExplicitAlias (n ++ (" AS ".toList ++ token)) = some (n, token) := by
    refine cutExplicitAlias_append (aliasTokenAt_written h ha) fun q hq hqn => ?_
    refine aliasTokenAt_before h ha hq fun c hc => ?_
    obtain ⟨p, rfl⟩ := hqn
    refine last_of_trim (s := p ++ q) c ?_
    rw [hn, List.getLast?_append_of_ne_nil p hq]
    exact hc
  have hsome : explicitAlias (n ++ (" AS ".toList ++ token)) = some (n, a) := by
    rw [explicitAlias, hcut]
    simp [h.noParen ha, h.unquote_eq ha, ha.ne_nil, hn, hne]
  rw [splitAlias, hsome]

theorem trim_written : trim (n ++ (" AS ".toList ++ token)) = n ++ (" AS ".toList ++ token) := by
  refine trim_eq_self (fun c hc => ?_) (fun c hc => ?_)
  · rw [List.head?_append_of_ne_nil _ hne] at hc
    rw [← hn] at hc
    exact head_of_trim c hc
  · rw [← List.append_assoc, List.getLast?_append_of_ne_nil _ (h.ne_nil ha)] at hc
    exact h.last_solid c hc

end Expressions

theorem dropDistinct_eq_self {e : List Char}
    (h : ∀ w b r, e = w ++ b :: r → w.map letter = "distinct".toList → isBlank b = false) :
    dropDistinct e = e := by
  have hnone : (dropKeyword "distinct".toList e).bind dropBlanks = none := by
    rw [Option.eq_none_iff_forall_ne_some]
    intro r hr
    obtain ⟨u, hu, hblanks⟩ := Option.bind_eq_some_iff.mp hr
    obtain ⟨w, rfl, hw⟩ := dropKeyword_eq_some_iff.mp hu
    obtain ⟨b, t, rfl, hb, -⟩ := dropBlanks_eq_some_iff.mp hblanks
    rw [h w b t rfl hw] at hb
    cases hb
  rw [dropDistinct, hnone, Option.getD_none]

theorem solid_distinct : Solid "distinct".toList := .of_all (by decide) (by decide)

/-- Without the word DISTINCT nothing is dropped. -/
theorem dropDistinct_of_words {e : List Char}
    (h : ∀ w ∈ words e, w.map letter ≠ "distinct".toList) : dropDistinct e = e := by
  refine dropDistinct_eq_self fun w b r he hw => ?_
  rw [← Bool.not_eq_true]
  intro hb
  refine h w ?_ hw
  rw [he]
  exact solid_distinct.mem_words (p := []) hw ⟨nofun, fun c hc => Option.some.inj hc ▸ hb⟩

/-- **An alias after AS is found again**, whatever the name is, unless the expression looks like a nested
query or starts in DISTINCT and a blank. The comment is the remark on the expression, or else the one
on the name, or else the one on the alias, or else the alias. -/
theorem ofExpression?_written {n a token expr : List Char} (hn : trim n = n) (hne : n ≠ [])
    (ha : Alias a) (h : Written a token) (he : expr = n ++ (" AS ".toList ++ token))
    (hselect : ¬ WordIn "select".toList false expr) (hfrom : ¬ FromBetween expr)
    (hdistinct : ∀ w b r, expr = w ++ b :: r → w.map letter = "distinct".toList → isBlank b = false)
    (remarks : Option RemarkTable) :
    Field.ofExpression? remarks expr = some
      { name := String.ofList a
        alias? := some (String.ofList a)
        comment := (remarks.bind fun t =>
          ((t.get? expr).or (t.get? n)).or (t.get? a)).getD (String.ofList a) } := by
  have htrim : trim expr = expr := he ▸ trim_written hn hne ha h
  have hsplit : splitAlias expr = (n, some a) := he ▸ splitAlias_written hn hne ha h
  have hexpr : expr ≠ [] := by
    rw [he]
    exact List.append_ne_nil_of_left_ne_nil hne _
  have hnested : looksNested expr = false := by
    rw [looksNested, Bool.or_eq_false_iff, holdsWord_eq_false_iff_not (by decide), ← Bool.not_eq_true,
      holdsFrom_iff]
    exact ⟨hselect, hfrom⟩
  unfold Field.ofExpression?
  simp [htrim, hexpr, hnested, dropDistinct_eq_self hdistinct, hsplit, hne, Field.remarkOn?]

/-- The name opens a parenthesis and a quote and holds AS itself, and the alias holds a comma and a
blank; the remark on the name is the comment. Behind a name with an alias of its own, one word is the
alias. -/
theorem ofExpression?_written_twice :
    Field.ofExpression? (some (RemarkTable.empty.insert "f(x AS 'y AS z".toList "total"))
      "f(x AS 'y AS z AS \"a, b\"".toList = some ⟨"a, b", some "a, b", "total"⟩ ∧
    Field.ofExpression? none "x::int AS \"y\" AS z".toList = some ⟨"z", some "z", "z"⟩ := by
  have hnested : ∀ s ∈ ["f(x AS 'y AS z AS \"a, b\"", "x::int AS \"y\" AS z"],
      ¬ WordIn "select".toList false s.toList ∧ ¬ FromBetween s.toList ∧
      dropKeyword "distinct".toList s.toList = none := by
    intro s hs
    rw [← holdsWord_eq_false_iff_not (by decide), ← holdsFrom_iff, Bool.not_eq_true]
    revert s
    decide +kernel
  have hdistinct : ∀ {e : List Char}, dropKeyword "distinct".toList e = none →
      ∀ w b r, e = w ++ b :: r → w.map letter = "distinct".toList → isBlank b = false := by
    intro e hnone w b r he hw
    rw [dropKeyword_eq_some_iff.mpr ⟨w, he, hw⟩] at hnone
    cases hnone
  constructor
  · obtain ⟨hselect, hfrom, hno⟩ := hnested "f(x AS 'y AS z AS \"a, b\"" (by decide)
    exact ofExpression?_written (n := "f(x AS 'y AS z".toList) (a := "a, b".toList) (by decide)
      (by decide) ⟨by decide, by simp [isQuote], by decide, by decide⟩ (.quoted '"' (by decide)) rfl
      hselect hfrom (hdistinct hno) _
  · obtain ⟨hselect, hfrom, hno⟩ := hnested "x::int AS \"y\" AS z" (by decide)
    exact ofExpression?_written (n := "x::int AS \"y\"".toList) (a := "z".toList) (by decide)
      (by decide) ⟨by decide, by simp [isQuote], by decide, by decide⟩ (.bare (by simp [isBlank])) rfl
      hselect hfrom (hdistinct hno) _

end TableDraft.Select

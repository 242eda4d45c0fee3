import TableDraft.Proofs.Select.ClauseEnd
import TableDraft.Proofs.Select.ShapeOrder

/-!
# A line remark before a query

The search for SELECT reads remarks as it reads code, so that a line remark before a query may take
the place of its select list. `remarked c s` is the text `s` with the remark `c` on a line before it.

* `afterSelect_remarked`: the search finds the SELECT of the remark first, and then that of the text;
* `parseFields_remarked`: a remark without the word SELECT changes nothing;
* `parseFields_marker`, `parseFields_remarked_marker`: after a remark with the word SELECT, a text
  that tells the first SELECT from the others is read in another way;
* **`remark_inert_iff`: a line remark before a text changes nothing, whatever the text is, exactly
  when it does not hold the word SELECT**.
-/

namespace TableDraft.Select

open Text Remark Unicode

/-- The text with a line remark before it. -/
def remarked (c s : List Char) : List Char := '-' :: '-' :: (c ++ '\n' :: s)

/-! ## 1. The parts of the reading -/

theorem afterSelect_dash (s : List Char) : afterSelect ('-' :: s) = afterSelect s := by
  have h := afterWord_append_break (k := "select".toList) (c := '-') (by decide) (by decide)
    (by decide +kernel) s false []
  exact h

/-- **The search finds the SELECT of the remark first**, and then that of the text. -/
theorem afterSelect_remarked (c s : List Char) : afterSelect (remarked c s) =
    ((afterSelect c).map (· ++ '\n' :: s)).or (afterSelect s) := by
  rw [remarked, afterSelect_dash, afterSelect_dash]
  exact afterWord_append_break (by decide) (by decide) (isWord_of_isBlank rfl) s false c

/-- Of the remark only the line break behind it is left. -/
theorem dropLines_remarked {c : List Char} (hc : '\n' ∉ c) (s : List Char) :
    dropLines false (remarked c s) = '\n' :: dropLines false s := by
  rw [remarked, ← List.cons_append, ← List.cons_append, dropLines_append_newline,
    dropLines_remark hc]
  rfl

theorem strip_remarked {c : List Char} (hc : '\n' ∉ c) (s : List Char) :
    strip (remarked c s) = '\n' :: strip s := by
  rw [strip, dropLines_remarked hc]
  rfl

theorem trim_remarked {c s : List Char} (hs : isBlankText s = false) :
    ∃ x, isBlankText x = true ∧ trim (remarked c s) = remarked c (x ++ trim s) := by
  obtain ⟨x, y, hx, hy, h⟩ := exists_trim s
  have hne : trim s ≠ [] := by
    rw [Ne, trim_eq_nil_iff, hs]
    exact Bool.false_ne_true
  refine ⟨x, hx, ?_⟩
  have hsplit : remarked c s = remarked c (x ++ trim s) ++ y := by
    conv_lhs => rw [h]
    simp [remarked]
  have hlast : (remarked c (x ++ trim s)).getLast? = (trim s).getLast? := by
    have hassoc : remarked c (x ++ trim s) = ('-' :: '-' :: (c ++ '\n' :: x)) ++ trim s := by
      simp [remarked]
    rw [hassoc, List.getLast?_append_of_ne_nil _ hne]
  rw [hsplit, trim_append_blank hy]
  refine trim_eq_self (fun d hd => ?_) ?_
  · obtain rfl := Option.some.inj hd
    decide
  · rw [hlast]
    exact last_of_trim

/-! ## 2. Remarks without the word SELECT -/

/-- **A text with nothing but blanks besides its line remarks, and without the word SELECT, cannot
be read.** -/
theorem parseFields_onlyRemarks {sql : String} (hs : holdsWord "select".toList sql.toList = false)
    (hb : isBlankText (dropLines false sql.toList) = true) :
    parseFields sql = .error .unparsableSql := by
  by_cases hnil : trim sql.toList = []
  · exact parseFields_blank hnil
  have hselect : afterSelect (trim sql.toList) = none := by
    rw [afterSelect, ← holdsWord_eq_false_iff, holdsWord_trim solid_select]
    exact hs
  have hstrip : isBlankText (strip (trim sql.toList)) = true := by
    obtain ⟨x, y, hx, hy, h⟩ := exists_trim sql.toList
    obtain ⟨z, -, hz⟩ := dropLines_append_blank hy false (trim sql.toList)
    rw [h, List.append_assoc, dropLines_blank_append hx, hz, isBlankText_append, isBlankText_append,
      Bool.and_eq_true, Bool.and_eq_true] at hb
    exact isBlankText_of_subset (dropBlocks_sublist .outside _).subset hb.2.1
  have happly : Shape.fieldList.apply (trim sql.toList) = .ok (some ⟨0, []⟩) := by
    rw [Shape.apply, readList_blank hstrip]
    rfl
  rw [parseFields_eq hnil, Shape.all, firstFields_absent (apply_selectFrom_none (clauses_none hselect).1),
    firstFields_absent (apply_selectOnly_none (clauses_none hselect).2),
    firstFields_skipped happly rfl]
  rfl

/-- With nothing behind it, a remark without the word SELECT makes a text that cannot be read. -/
theorem parseFields_remarked_blank {a : String} {c s : List Char} (hc : '\n' ∉ c)
    (hs : holdsWord "select".toList c = false) (ha : a.toList = remarked c s)
    (hb : isBlankText s = true) : parseFields a = .error .unparsableSql := by
  refine parseFields_onlyRemarks ?_ ?_
  · have h := afterSelect_remarked c s
    rw [show afterSelect c = none from holdsWord_eq_false_iff.mp hs, Option.map_none,
      Option.none_or] at h
    rw [holdsWord_eq_false_iff, ha]
    exact h.trans (afterWord_of_blank solid_select hb false)
  · rw [ha, dropLines_remarked hc, isBlankText_cons,
      isBlankText_of_subset (dropLines_sublist false _).subset hb]
    rfl

/-- **A line remark without the word SELECT changes nothing**, whatever else it holds. -/
theorem parseFields_remarked {a b : String} {c : List Char} (hc : '\n' ∉ c)
    (hs : holdsWord "select".toList c = false) (hab : a.toList = remarked c b.toList) :
    parseFields a = parseFields b := by
  cases hb : isBlankText b.toList with
  | true => rw [parseFields_remarked_blank hc hs hab hb, parseFields_blank (trim_of_blank hb)]
  | false =>
      obtain ⟨x, hx, htrim⟩ := trim_remarked (c := c) hb
      rw [← hab] at htrim
      have hselect : afterSelect (trim a.toList) = afterSelect (trim b.toList) := by
        rw [htrim, afterSelect_remarked, show afterSelect c = none from holdsWord_eq_false_iff.mp hs,
          Option.map_none, Option.none_or]
        exact afterWord_blank_append solid_select hx _
      have hlist : readList none (trim a.toList) = readList none (trim b.toList) := by
        refine readList_of_strip (x := '\n' :: x) ?_ ?_ none
        · rw [isBlankText_cons, hx]
          rfl
        · rw [htrim, strip_remarked hc, strip_blank_append hx]
          rfl
      have hne : trim b.toList ≠ [] := by
        rw [Ne, trim_eq_nil_iff, hb]
        exact Bool.false_ne_true
      have hne' : trim a.toList ≠ [] := by
        rw [htrim]
        exact List.cons_ne_nil _ _
      rw [parseFields_eq hne, parseFields_eq hne']
      refine firstFields_congr false fun shape _ => ?_
      cases shape with
      | selectFrom => rw [Shape.apply, Shape.apply, selectFromClause, selectFromClause, hselect]
      | selectOnly => rw [Shape.apply, Shape.apply, selectOnlyClause, selectOnlyClause, hselect]
      | fieldList => rw [Shape.apply, Shape.apply, hlist]

/-! ## 3. Remarks with the word SELECT -/

/-- A text that tells its first SELECT from another before it: what follows that SELECT does not
balance its parentheses, and a letter stands before it. -/
def marker (k : Nat) : List Char := "x select ".toList ++ List.replicate k '('

theorem mem_marker {k : Nat} {c : Char} (h : c ∈ marker k) : c ∈ "x select (".toList := by
  have hsplit : "x select (".toList = "x select ".toList ++ ['('] := by decide
  rw [hsplit]
  rcases List.mem_append.mp h with h | h
  · exact List.mem_append_left _ h
  · rw [List.eq_of_mem_replicate h]
    exact List.mem_append_right _ List.mem_cons_self

theorem last_marker {s : List Char} {k : Nat} (hk : 0 < k) :
    ∀ c ∈ (s ++ List.replicate k '(').getLast?, isBlank c = false := by
  intro c hc
  rw [List.getLast?_append_of_ne_nil _ (by simpa using Nat.pos_iff_ne_zero.mp hk)] at hc
  rw [List.eq_of_mem_replicate (List.mem_of_getLast? hc)]
  decide

theorem trim_marker {k : Nat} (hk : 0 < k) : trim (marker k) = marker k := by
  refine trim_eq_self (fun c hc => ?_) (last_marker hk)
  obtain rfl := Option.some.inj hc
  decide

theorem trim_remarked_marker (c : List Char) {k : Nat} (hk : 0 < k) :
    trim (remarked c (marker k)) = remarked c (marker k) := by
  have htext : remarked c (marker k) =
      ('-' :: '-' :: (c ++ '\n' :: "x select ".toList)) ++ List.replicate k '(' := by
    unfold remarked marker
    simp only [List.append_assoc, List.cons_append]
  refine trim_eq_self (fun d hd => ?_) ?_
  · obtain rfl := Option.some.inj hd
    decide
  · rw [htext]
    exact last_marker hk

theorem trim_replicate {k : Nat} : trim (List.replicate k '(') = List.replicate k '(' := by
  refine trim_eq_self (fun c hc => ?_) (fun c hc => ?_)
  · rw [List.eq_of_mem_replicate (List.mem_of_head? hc)]
    decide
  · rw [List.eq_of_mem_replicate (List.mem_of_getLast? hc)]
    decide

theorem afterSelect_marker (k : Nat) :
    afterSelect (marker k) = some (' ' :: List.replicate k '(') := by
  have hbreak := afterWord_append_break (k := "select".toList) (c := ' ') (by decide) (by decide)
    (isWord_of_isBlank rfl) ("select".toList ++ ' ' :: List.replicate k '(') false ['x']
  have hx : afterWord "select".toList false ['x'] = none := by decide +kernel
  have hself : afterWord "select".toList false ("select".toList ++ ' ' :: List.replicate k '(') =
      some (' ' :: List.replicate k '(') :=
    afterWord_append_self (w := "select".toList) (by decide) (isWord_of_isBlank (c := ' ') rfl)
  rw [hx, hself] at hbreak
  exact hbreak

theorem depthAfter_replicate : ∀ (k : Nat) (d : Int), depthAfter d (List.replicate k '(') = d + k
  | 0, d => by simp
  | k + 1, d => by
      rw [List.replicate_succ, depthAfter_cons, depthAfter_replicate k, show depthStep '(' = 1 from rfl]
      omega

/-- What a list of open parentheses alone gives. -/
theorem readClause_replicate {k : Nat} (hk : 0 < k) : readClause (List.replicate k '(') =
    .error (.unbalancedParentheses (String.ofList (List.replicate k '('))) := by
  have hfree : ∀ a b, a ≠ '(' → Free a b (List.replicate k '(') :=
    fun a b ha => free_of_notMem fun hm => ha (List.eq_of_mem_replicate hm)
  have hstrip : strip (List.replicate k '(') = List.replicate k '(' :=
    strip_free (hfree _ _ (by decide)) (hfree _ _ (by decide))
  have hbal : ¬ Balanced (strip (List.replicate k '(')) := by
    intro hb
    have hzero := hb.2
    rw [hstrip, depthAfter_replicate] at hzero
    omega
  rw [readClause, readList_unbalanced hbal, hstrip, trim_replicate]

/-- The scan finds no FROM behind the SELECT of a marker, and the cut leaves the parentheses. -/
theorem selectClauses_marker (k : Nat) : selectFromClause (marker k) = none ∧
    selectOnlyClause (marker k) = some (List.replicate k '(') := by
  have hmem : ∀ c ∈ ' ' :: List.replicate k '(', c = ' ' ∨ c = '(' := by
    intro c hc
    exact (List.mem_cons.mp hc).imp id List.eq_of_mem_replicate
  constructor
  · have hno : NoLetter (' ' :: List.replicate k '(') := by
      intro c hc
      rcases hmem c hc with rfl | rfl
      · decide
      · decide
    have hfree : ∀ a b, a ≠ ' ' → a ≠ '(' → Free a b (' ' :: List.replicate k '(') :=
      fun a b hs hp => free_of_notMem fun hm => (hmem a hm).elim hs hp
    rw [selectFromClause, afterSelect_marker, Option.bind_some,
      beforeFrom_quiet (hfree _ _ (by decide) (by decide)) (hfree _ _ (by decide) (by decide))
        (quiet_of_noLetter hno 0 false)]
    rfl
  · have hno : NoClause (' ' :: List.replicate k '(') := by
      refine noClause_of_letters fun c hc => ?_
      rcases hmem c hc with rfl | rfl
      · decide
      · decide
    rw [selectOnlyClause, afterSelect_marker, Option.map_some, beforeClause_eq_self.mpr hno,
      ← List.singleton_append, trim_blank_append rfl, trim_replicate]

/-- **The list of a marker is what follows its SELECT.** -/
theorem parseFields_marker {k : Nat} (hk : 0 < k) : parseFields (String.ofList (marker k)) =
    .error (.unbalancedParentheses (String.ofList (List.replicate k '('))) := by
  obtain ⟨hfrom, honly⟩ := selectClauses_marker k
  have happly : Shape.selectOnly.apply (marker k) =
      .error (.unbalancedParentheses (String.ofList (List.replicate k '('))) := by
    rw [apply_selectOnly honly, readClause_replicate hk]
    rfl
  have htrim : trim (String.ofList (marker k)).toList = marker k := by
    rw [String.toList_ofList, trim_marker hk]
  have hne : marker k ≠ [] := List.cons_ne_nil _ _
  rw [← htrim] at hne
  rw [parseFields_eq hne, htrim, Shape.all, firstFields_absent (apply_selectFrom_none hfrom)]
  exact firstFields_error happly

/-- A last line without line marks is kept by trimming and by stripping the lines. -/
theorem exists_dropLines_trim (g : List Char) {v : List Char} {a : Char} (ha : isBlank a = false)
    (hl : '-' ∉ a :: v) :
    ∃ w, dropLines false (trim (g ++ '\n' :: a :: v)) = w ++ a :: trimEnd v := by
  have hv : isBlankText (a :: v) = false := by
    rw [isBlankText_cons, ha]
    rfl
  have hsub : (a :: trimEnd v) ⊆ a :: v := List.cons_subset_cons a (trimEnd_isPrefix v).subset
  have hline : dropLines false (a :: trimEnd v) = a :: trimEnd v :=
    dropLines_free (free_of_notMem fun hm => hl (hsub hm))
  cases hg : isBlankText g with
  | true =>
      refine ⟨[], ?_⟩
      have hblank : isBlankText (g ++ ['\n']) = true := by
        rw [isBlankText_append, hg]
        rfl
      rw [← List.singleton_append, ← List.append_assoc, trim_blank_append hblank, trim,
        trimStart_cons ha, trimEnd_cons ha, hline]
      rfl
  | false =>
      refine ⟨dropLines false (trimStart g) ++ ['\n'], ?_⟩
      have hend : trimEnd ('\n' :: a :: v) = '\n' :: a :: trimEnd v := by
        rw [← List.singleton_append, trimEnd_append hv, trimEnd_cons ha]
        rfl
      have hnewline : isBlankText ('\n' :: a :: v) = false := by
        rw [isBlankText_cons, hv, Bool.and_false]
      rw [trim, trimStart_append hg, trimEnd_append hnewline, hend, dropLines_append_newline,
        hline, List.append_assoc]
      rfl

/-- A line of plain text at the end is in what stripping leaves. -/
theorem mem_strip_trim (g : List Char) {v : List Char} {a : Char} (ha : isBlank a = false)
    (hl : '-' ∉ a :: v) (hb : '/' ∉ a :: v) : a ∈ strip (trim (g ++ '\n' :: a :: v)) := by
  obtain ⟨w, hw⟩ := exists_dropLines_trim g ha hl
  have hsub : (a :: trimEnd v) ⊆ a :: v := List.cons_subset_cons a (trimEnd_isPrefix v).subset
  rw [strip, hw, dropBlocks_append_plain (fun hm => hb (hsub hm)) .outside w rfl]
  exact List.mem_append_right _ List.mem_cons_self

/-- A text with a letter in it does not trim to parentheses. -/
theorem trim_ne_replicate {s : List Char} (h : 'x' ∈ s) (k : Nat) :
    trim s ≠ List.replicate k '(' := by
  intro hs
  have hmem : 'x' ∈ trim s := mem_trim h (by decide)
  rw [hs] at hmem
  exact absurd (List.eq_of_mem_replicate hmem) (by decide)

/-- **What is cut out of a text before a marker and of the marker is not its parentheses**: it ends
before them, with fewer in it, or has the letter before them. -/
theorem trim_strip_ne_of_isPrefix {c p : List Char} {k : Nat} (hp : p <+: c ++ '\n' :: marker k)
    (hk : c.length < k) : trim (strip (trim p)) ≠ List.replicate k '(' := by
  have hsplit : c ++ '\n' :: marker k =
      (c ++ '\n' :: "x select ".toList) ++ List.replicate k '(' := by
    unfold marker
    simp only [List.append_assoc, List.cons_append]
  rw [hsplit] at hp
  rcases List.prefix_or_prefix_of_prefix hp (List.prefix_append _ _) with hshort | ⟨q, rfl⟩
  · intro h
    have hcount : k ≤ p.count '(' := by
      have hsub : (List.replicate k '(').Sublist p := by
        rw [← h]
        exact (trim_sublist _).trans ((strip_sublist _).trans (trim_sublist p))
      have hle := hsub.count_le '('
      rwa [List.count_replicate_self] at hle
    have hle := hshort.sublist.count_le '('
    have hnone : ('\n' :: "x select ".toList).count '(' = 0 := by decide
    rw [List.count_append, hnone] at hle
    have hlen := List.count_le_length (a := '(') (l := c)
    omega
  · have hpre : "x select ".toList ++ q <+: marker k :=
      (List.prefix_append_right_inj _).mpr ((List.prefix_append_right_inj _).mp hp)
    have hno : ∀ d, d ∉ "x select (".toList → d ∉ "x select ".toList ++ q :=
      fun d hd hmem => hd (mem_marker (hpre.subset hmem))
    have hmem := mem_strip_trim c (v := " select ".toList ++ q) (a := 'x') (by decide)
      (hno '-' (by decide)) (hno '/' (by decide))
    rw [List.append_assoc]
    exact trim_ne_replicate hmem k

/-- Nor is what is left of a remark and a marker as a whole. -/
theorem trim_strip_remarked_ne {c : List Char} (hc : '\n' ∉ c) (k : Nat) :
    trim (strip (remarked c (marker k))) ≠ List.replicate k '(' := by
  have hfree : ∀ a b, a ∉ "x select (".toList → Free a b (marker k) :=
    fun a b ha => free_of_notMem fun hmem => ha (mem_marker hmem)
  rw [strip_remarked hc, strip_free (hfree '-' '-' (by decide)) (hfree '/' '*' (by decide))]
  exact trim_ne_replicate (List.mem_cons_of_mem '\n' (List.mem_append_left _ (by decide))) k

/-- **After a remark with the word SELECT, a marker is read in another way**, since the list starts
in the remark. -/
theorem parseFields_remarked_marker {c : List Char} (hc : '\n' ∉ c)
    (hs : holdsWord "select".toList c = true) {k : Nat} (hk : c.length < k) :
    parseFields (String.ofList (remarked c (marker k))) ≠
      .error (.unbalancedParentheses (String.ofList (List.replicate k '('))) := by
  have htrim : trim (String.ofList (remarked c (marker k))).toList = remarked c (marker k) := by
    rw [String.toList_ofList, trim_remarked_marker c (Nat.zero_lt_of_lt hk)]
  have hne : remarked c (marker k) ≠ [] := List.cons_ne_nil _ _
  rw [← htrim] at hne
  intro hparse
  rw [parseFields_eq hne, htrim] at hparse
  obtain ⟨shape, -, happly⟩ := exists_apply_of_error hparse
  rcases exists_prefix_of_apply_error happly with ⟨a, p, ha, hp, hread⟩ | hread
  · obtain ⟨c', hc'⟩ := Option.isSome_iff_exists.mp hs
    have hlen := length_of_afterWord hc'
    rw [afterSelect_remarked, show afterSelect c = some c' from hc', Option.map_some,
      Option.some_or] at ha
    obtain rfl := Option.some.inj ha
    have hk' : c'.length < k := by omega
    exact trim_strip_ne_of_isPrefix hp hk' (String.ofList_injective (text_of_readList hread)).symm
  · exact trim_strip_remarked_ne hc k (String.ofList_injective (text_of_readList hread)).symm

/-! ## 4. When a remark is inert -/

/-- **A line remark before a text changes nothing, whatever the text is, exactly when it does not hold
the word SELECT**; and a text of blanks and line remarks without that word cannot be read. -/
theorem remark_inert_iff {c : String} (hc : '\n' ∉ c.toList) :
    ((∀ s : String, parseFields ("--" ++ c ++ "\n" ++ s) = parseFields s) ↔
      holdsWord "select".toList c.toList = false) ∧
    ∀ t : String, isBlankText (dropLines false t.toList) = true →
      holdsWord "select".toList t.toList = false → parseFields t = .error .unparsableSql := by
  have htext : ∀ s : String, ("--" ++ c ++ "\n" ++ s).toList = remarked c.toList s.toList := by
    intro s
    simp [remarked, String.toList_append]
  refine ⟨⟨fun h => ?_, fun hs s => ?_⟩, fun t hb hs => parseFields_onlyRemarks hs hb⟩
  · rw [← Bool.not_eq_true]
    intro hs
    have hmarker := h (String.ofList (marker (c.toList.length + 1)))
    have hofList : "--" ++ c ++ "\n" ++ String.ofList (marker (c.toList.length + 1)) =
        String.ofList (remarked c.toList (marker (c.toList.length + 1))) := by
      rw [← String.toList_inj, htext, String.toList_ofList, String.toList_ofList]
    rw [hofList, parseFields_marker (Nat.succ_pos _)] at hmarker
    exact parseFields_remarked_marker hc hs (Nat.lt_succ_self _) hmarker
  · exact parseFields_remarked hc hs (htext s)

/-- A remark may hold FROM, parentheses and marks of blocks. -/
theorem remark_inert_wild :
    '\n' ∉ " from (/* selected, ".toList ∧
      parseFields ("--" ++ " from (/* selected, " ++ "\n" ++ "SELECT a FROM t") =
        parseFields "SELECT a FROM t" :=
  ⟨by decide, ((remark_inert_iff (c := " from (/* selected, ") (by decide)).1.mpr (by decide +kernel))
    "SELECT a FROM t"⟩

/-- A remark with the word SELECT before an empty text is read as a query. -/
theorem remark_not_inert :
    '\n' ∉ " select 1".toList ∧
      parseFields ("--" ++ " select 1" ++ "\n" ++ "") = .ok [⟨"1", none, "1"⟩] ∧
      parseFields "" = .error .unparsableSql ∧
      ¬ ∀ c s : String, '\n' ∉ c.toList → parseFields ("--" ++ c ++ "\n" ++ s) = parseFields s := by
  have hread : parseFields ("--" ++ " select 1" ++ "\n" ++ "") = .ok [⟨"1", none, "1"⟩] := rfl
  have hempty : parseFields "" = .error .unparsableSql := rfl
  refine ⟨by decide, hread, hempty, fun h => ?_⟩
  have h' := h " select 1" "" (by decide)
  rw [hread, hempty] at h'
  cases h'

end TableDraft.Select

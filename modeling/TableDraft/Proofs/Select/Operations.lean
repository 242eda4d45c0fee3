import TableDraft.Proofs.Select.ExplicitAlias
import TableDraft.Proofs.Text.LowerCase

/-!
# Operations

An operator between two operands, with blanks around it or none. What is read from such an expression
depends on the words that the blanks make of it:

* `Operand`: the operands, which are words of their own and no keywords;
* `words_operation`: the one, two or three words of an operation;
* `map_letter_ne_of_mem`: none of them is a keyword, so there is no AS, no DISTINCT and no FROM, and
  `noSelect_operation`: no SELECT either;
* `implicitAlias_operation`: **the last word is an alias only if the operator starts it**, since else the
  word before holds the operator;
* `ofExpression?_operation`: what is read from the operation.
-/

namespace TableDraft.Select

open Text Unicode

/-! ## 1. Operands and operators -/

/-- The words that mean something in an expression. -/
def keywords : List (List Char) :=
  ["as".toList, "distinct".toList, "select".toList, "from".toList]

/-- An ASCII letter, a digit or an underscore. -/
def isPlain (c : Char) : Bool := c.isAlphanum || c == '_'

/-- A name or a number: a run of plain characters that is no keyword, in any case. -/
structure Operand (x : List Char) : Prop where
  ne_nil : x ≠ []
  plain : x.all isPlain = true
  noKeyword : x.map Char.toLower ∉ keywords

theorem isAscii_of_isPlain {c : Char} (h : isPlain c = true) : isAscii c = true := by
  delta isPlain Char.isAlphanum Char.isAlpha Char.isUpper Char.isLower Char.isDigit at h
  simp only [Bool.or_eq_true, Bool.and_eq_true, decide_eq_true_eq, beq_iff_eq, UInt32.le_iff_toNat_le,
    ge_iff_le] at h
  rw [isAscii, decide_eq_true_eq]
  change (((65 ≤ c.toNat ∧ c.toNat ≤ 90) ∨ (97 ≤ c.toNat ∧ c.toNat ≤ 122)) ∨
    (48 ≤ c.toNat ∧ c.toNat ≤ 57)) ∨ c = '_' at h
  rcases h with h | rfl
  · omega
  · decide

/-- The tests that tell an operand from what may stand around it, on a plain character. -/
structure Tests (c : Char) : Prop where
  blank : isBlank c = false
  word : isWord c = true
  paren : isParen c = false
  quote : isQuote c = false
  mark : isOperatorMark c = false
  lower : letter c = c.toLower

theorem tests_of_isPlain {c : Char} (h : isPlain c = true) : Tests c := by
  have hall : ∀ n < 128, isPlain (Char.ofNat n) = true → isBlank (Char.ofNat n) = false ∧
      isWord (Char.ofNat n) = true ∧ isParen (Char.ofNat n) = false ∧
      isQuote (Char.ofNat n) = false ∧ isOperatorMark (Char.ofNat n) = false ∧
      letter (Char.ofNat n) = (Char.ofNat n).toLower := by
    decide +kernel
  obtain ⟨blank, word, paren, quote, mark, lower⟩ := forall_ascii
    (p := fun c => isPlain c = true → isBlank c = false ∧ isWord c = true ∧ isParen c = false ∧
      isQuote c = false ∧ isOperatorMark c = false ∧ letter c = c.toLower)
    hall (isAscii_of_isPlain h) h
  exact ⟨blank, word, paren, quote, mark, lower⟩

namespace Operand

variable {x : List Char} (hx : Operand x)
include hx

theorem tests {c : Char} (hc : c ∈ x) : Tests c :=
  tests_of_isPlain (List.all_eq_true.mp hx.plain c hc)

theorem noBlank : NoBlank x := fun _ hc => (hx.tests hc).blank

theorem map_letter : x.map letter = x.map Char.toLower :=
  List.map_congr_left fun _ hc => (hx.tests hc).lower

theorem noMark : x.any isOperatorMark = false := by
  rw [List.any_eq_false]
  intro c hc
  rw [(hx.tests hc).mark]
  exact Bool.false_ne_true

theorem noParen : x.any isParen = false := by
  rw [List.any_eq_false]
  intro c hc
  rw [(hx.tests hc).paren]
  exact Bool.false_ne_true

/-- A keyword that stands in an operand as a word of its own is all of it. -/
theorem not_wordIn {k : List Char} (hk : k ∈ keywords) : ¬ WordIn k false x := by
  intro h
  obtain ⟨p, w, q, rfl, hw, hp, hq⟩ := h
  have hpnil : p = [] := by
    by_contra hne
    rw [endsIn_eq_getLast hne] at hp
    have hmem : p.getLast hne ∈ p ++ (w ++ q) := List.mem_append_left _ (List.getLast_mem hne)
    rw [(hx.tests hmem).word] at hp
    cases hp
  have hqnil : q = [] := by
    cases q with
    | nil => rfl
    | cons c q =>
        have hmem : c ∈ p ++ (w ++ c :: q) := by simp
        rw [show startsInWord (c :: q) = isWord c from rfl,
          (hx.tests hmem).word] at hq
        cases hq
  have hself := hx.map_letter
  rw [hpnil, hqnil, List.nil_append, List.append_nil, hw] at hself
  exact hx.noKeyword (by rwa [hpnil, hqnil, List.nil_append, List.append_nil, ← hself])

end Operand

/-- The operators. -/
def operators : List Char := ['+', '-', '*', '/', '=']

/-- An operator is a mark and nothing else that is asked for here; it is in no keyword. -/
structure IsOperator (o : Char) : Prop where
  blank : isBlank o = false
  word : isWord o = false
  paren : isParen o = false
  quote : isQuote o = false
  mark : isOperatorMark o = true
  noLetter : ∀ k ∈ keywords, letter o ∉ k

theorem isOperator_of_mem {o : Char} (ho : o ∈ operators) : IsOperator o := by
  have hcases : o = '+' ∨ o = '-' ∨ o = '*' ∨ o = '/' ∨ o = '=' := by simpa [operators] using ho
  rcases hcases with rfl | rfl | rfl | rfl | rfl <;>
    exact ⟨by decide, by decide, by decide, by decide, by decide, by decide⟩

/-! ## 2. The words of an operation -/

/-- An operator between two operands, with blanks on either side. -/
def operation (x u : List Char) (o : Char) (v y : List Char) : List Char := x ++ (u ++ o :: (v ++ y))

section Operation

variable {x y u v : List Char} {o : Char} (hx : Operand x) (hy : Operand y) (ho : o ∈ operators)
  (hu : isBlankText u = true) (hv : isBlankText v = true)
include hx hy ho hu hv

/-- **The operator is a word with the operands that no blanks part it from.** -/
theorem words_operation : words (operation x u o v y) =
    if u = [] then (if v = [] then [x ++ o :: y] else [x ++ [o], y])
    else (if v = [] then [x, o :: y] else [x, [o], y]) := by
  have hoSolid : NoBlank [o] := List.forall_mem_singleton.mpr (isOperator_of_mem ho).blank
  have hleft : NoBlank (x ++ [o]) := hx.noBlank.append hoSolid
  have hright : NoBlank (o :: y) := hoSolid.append hy.noBlank
  unfold operation
  split
  · rename_i hunil
    rw [hunil, List.nil_append]
    split
    · rename_i hvnil
      rw [hvnil, List.nil_append]
      exact words_noBlank (hx.noBlank.append hright) (by simp)
    · rename_i hvne
      rw [← List.singleton_append, ← List.append_assoc, words_append_between hv hvne,
        words_noBlank hleft (by simp), words_noBlank hy.noBlank hy.ne_nil]
      rfl
  · rename_i hune
    rw [words_append_between hu hune, words_noBlank hx.noBlank hx.ne_nil]
    split
    · rename_i hvnil
      rw [hvnil, List.nil_append, words_noBlank hright (List.cons_ne_nil o y)]
      rfl
    · rename_i hvne
      rw [show o :: (v ++ y) = [o] ++ (v ++ y) from rfl, words_append_between hv hvne,
        words_noBlank hoSolid (List.cons_ne_nil o []), words_noBlank hy.noBlank hy.ne_nil]
      rfl

/-- **None of the words of an operation is a keyword.** -/
theorem map_letter_ne_of_mem {k : List Char} (hk : k ∈ keywords) :
    ∀ w ∈ words (operation x u o v y), w.map letter ≠ k := by
  intro w hw heq
  have hcases : w = x ∨ w = y ∨ o ∈ w := by
    rw [words_operation hx hy ho hu hv] at hw
    grind
  rcases hcases with rfl | rfl | hmem
  · exact hx.noKeyword (hx.map_letter ▸ heq ▸ hk)
  · exact hy.noKeyword (hy.map_letter ▸ heq ▸ hk)
  · exact (isOperator_of_mem ho).noLetter k hk (heq ▸ List.mem_map_of_mem hmem)

theorem noSelect_operation : holdsWord "select".toList (operation x u o v y) = false := by
  have hk : "select".toList ∈ keywords := by decide
  have hnone : ∀ {z : List Char}, Operand z → afterWord "select".toList false z = none := by
    intro z hz
    rw [← holdsWord_eq_false_iff, holdsWord_eq_false_iff_not (by decide)]
    exact hz.not_wordIn hk
  rw [holdsWord_eq_false_iff, operation, ← List.append_assoc,
    afterWord_append_break (by decide) ((isOperator_of_mem ho).noLetter _ hk)
      (isOperator_of_mem ho).word,
    afterWord_append_blank solid_select hu, afterWord_blank_append solid_select hv, hnone hx, hnone hy]
  rfl

theorem not_fromBetween_operation : ¬ FromBetween (operation x u o v y) := by
  intro h
  obtain ⟨p, q, -, -, hfrom⟩ := h
  obtain ⟨w, hw, hletters⟩ := exists_fromAt_iff_word.mp ⟨p, q, hfrom⟩
  exact map_letter_ne_of_mem hx hy ho hu hv (by decide) w hw hletters

/-! ## 3. What is read -/

/-- **The last word is an alias exactly if the operator starts it**: the word before it is then an operand,
and else it holds the operator, or there is none. -/
theorem implicitAlias_operation : implicitAlias (operation x u o v y) =
    if u ≠ [] ∧ v = [] then some (x, o :: y) else none := by
  have hop := isOperator_of_mem ho
  rw [implicitAlias, words_operation hx hy ho hu hv]
  by_cases hunil : u = []
  · rw [if_pos hunil, if_neg (c := u ≠ [] ∧ v = []) fun h => h.1 hunil]
    by_cases hvnil : v = []
    · rw [if_pos hvnil]
      rfl
    · rw [if_neg hvnil]
      simp [hop.mark]
  · rw [if_neg hunil]
    by_cases hvnil : v = []
    · have hunquote : unquote (o :: y) = o :: y := by
        have hback := unquote_between (x := []) (a := o :: y) (y := []) nofun nofun
          (List.cons_ne_nil o y) (List.forall_mem_cons.mpr
            ⟨hop.quote, fun c hc => (hy.tests hc).quote⟩)
        rwa [List.append_nil] at hback
      rw [if_pos hvnil, if_pos ⟨hunil, hvnil⟩]
      simp [hx.noMark, hy.noParen, hop.paren, hunquote]
    · rw [if_neg hvnil, if_neg (c := u ≠ [] ∧ v = []) fun h => hvnil h.2]
      simp [hop.mark]

omit ho hu hv in
theorem trim_operation : trim (operation x u o v y) = operation x u o v y := by
  refine trim_eq_self (fun c hc => ?_) (fun c hc => ?_)
  · rw [operation, List.head?_append_of_ne_nil x hx.ne_nil] at hc
    exact hx.noBlank c (List.mem_of_head? hc)
  · rw [operation, ← List.cons_append, ← List.append_assoc, ← List.append_assoc,
      List.getLast?_append_of_ne_nil _ hy.ne_nil] at hc
    exact hy.noBlank c (List.mem_of_getLast? hc)

/-- **What is read from an operation.** With no blanks before the operator or with some behind it the
whole operation is the name, and there is no alias. With blanks only before the operator, the operator
and the operand behind it are the alias. -/
theorem ofExpression?_operation : Field.ofExpression? none (operation x u o v y) = some
    (if u ≠ [] ∧ v = [] then
      ⟨String.ofList (o :: y), some (String.ofList (o :: y)), String.ofList (o :: y)⟩
    else Field.ofName (String.ofList (operation x u o v y))) := by
  have htrim := trim_operation (u := u) (o := o) (v := v) hx hy
  have hne : operation x u o v y ≠ [] := List.append_ne_nil_of_left_ne_nil hx.ne_nil _
  have hnested : looksNested (operation x u o v y) = false := by
    rw [looksNested, noSelect_operation hx hy ho hu hv, Bool.false_or, ← Bool.not_eq_true, holdsFrom_iff]
    exact not_fromBetween_operation hx hy ho hu hv
  have hdistinct : dropDistinct (operation x u o v y) = operation x u o v y :=
    dropDistinct_of_words (map_letter_ne_of_mem hx hy ho hu hv (by decide))
  have hexplicit : explicitAlias (operation x u o v y) = none :=
    explicitAlias_eq_none (map_letter_ne_of_mem hx hy ho hu hv (by decide))
  rw [Field.ofExpression?_eq, htrim, hnested, if_neg (by simp [hne]), Field.ofSource, hdistinct, htrim,
    splitAlias, hexplicit, implicitAlias_operation hx hy ho hu hv]
  by_cases hspace : u ≠ [] ∧ v = []
  · rw [if_pos hspace, if_pos hspace]
    rfl
  · rw [if_neg hspace, if_neg hspace]
    rfl

end Operation

/-- Blanks on both sides, and blanks on one. -/
theorem ofExpression?_operation_spaced :
    Field.ofExpression? none "a + b".toList = some (.ofName "a + b") ∧
    Field.ofExpression? none "a_1\t/2".toList = some ⟨"/2", some "/2", "/2"⟩ := by
  have ha : Operand "a".toList := ⟨by decide, by decide, by decide⟩
  have hb : Operand "b".toList := ⟨by decide, by decide, by decide⟩
  have ha1 : Operand "a_1".toList := ⟨by decide, by decide, by decide⟩
  have h2 : Operand "2".toList := ⟨by decide, by decide, by decide⟩
  exact ⟨ofExpression?_operation (u := [' ']) (o := '+') (v := [' ']) ha hb (by decide) (by decide)
      (by decide),
    ofExpression?_operation (u := ['\t']) (o := '/') (v := []) ha1 h2 (by decide) (by decide) (by decide)⟩

/-- **Not every operation is without alias**, though its operands are no keywords and the only blanks are
spaces: `a +b` is read as `a` under the name `+b`. -/
theorem operation_aliased : ¬ ∀ (x u : List Char) (o : Char) (v y : List Char), Operand x → Operand y →
    o ∈ operators → (∀ c ∈ u, c = ' ') → (∀ c ∈ v, c = ' ') →
    ∃ f, Field.ofExpression? none (operation x u o v y) = some f ∧ f.alias? = none ∧
      f.name = String.ofList (operation x u o v y) := by
  intro h
  obtain ⟨f, hf, halias, -⟩ := h ['a'] [' '] '+' [] ['b'] ⟨by decide, by decide, by decide⟩
    ⟨by decide, by decide, by decide⟩ (by decide) (by simp) (by simp)
  have hread : Field.ofExpression? none (operation ['a'] [' '] '+' [] ['b']) =
      some ⟨"+b", some "+b", "+b"⟩ := by decide +kernel
  rw [hread] at hf
  obtain rfl := Option.some.inj hf
  cases halias

end TableDraft.Select

import TableDraft.Pattern.Engine
import TableDraft.Proofs.Pattern.Places
import TableDraft.Proofs.Text.CaseVariants

/-!
# Plain text as a pattern

A text without marks is a pattern too: of its own characters, one after another, in any letter case.

* `ofText?_atoms`: a text of characters that join, repeat and open nothing is read as the `row` of what
  each of them stands for, unless that is too large (`Fits`);
* `fits_of_length`: text of ASCII is not, up to more than forty thousand characters;
* `ReadsPlainText`: an engine that reads such texts so, as `readsPlainText_engine` says of the project's
  own;
* **`occurs_literal`: in a text of ASCII without capitals plain text occurs where it stands in lower
  case**, and **`occurs_whole`: between the edges it occurs in its own lower case alone.**
-/

namespace TableDraft.Pattern

open Unicode Text

/-! ## 1. Reading -/

/-- A character that stands for a single thing in a pattern: it joins, repeats and opens nothing. -/
def isAtom (c : Char) : Bool := !"\\.|()[?*+\x7b".toList.contains c

/-- What such a character stands for: an edge of the text, or itself in any letter case. -/
def atom (c : Char) : Pattern :=
  if c = '^' then anchor .textStart
  else if c = '$' then anchor .textEnd
  else one (.folded (.single c))

/-- An ASCII character that stands for a single thing. -/
def isSimple (c : Char) : Bool := isAscii c && isAtom c

/-- An ASCII character that stands for itself. -/
def isLiteral (c : Char) : Bool := isSimple c && c != '^' && c != '$'

/-- Patterns one after another. -/
def row : List Pattern → Pattern
  | [] => empty
  | [p] => p
  | p :: q :: ps => seq p (row (q :: ps))

theorem ne_of_isAtom {c d : Char} (hc : isAtom c = true) (hd : isAtom d = false) : c ≠ d := by
  rintro rfl
  rw [hc] at hd
  cases hd

theorem isLiteral_iff {c : Char} :
    isLiteral c = true ↔ isAscii c = true ∧ isAtom c = true ∧ c ≠ '^' ∧ c ≠ '$' := by
  simp [isLiteral, isSimple, and_assoc]

theorem atom_of_isLiteral {c : Char} (h : isLiteral c = true) :
    atom c = one (.folded (.single c)) := by
  obtain ⟨-, -, hstart, hend⟩ := isLiteral_iff.mp h
  rw [atom, if_neg hstart, if_neg hend]

theorem atom_ne_empty (c : Char) : atom c ≠ empty := by
  unfold atom
  split_ifs <;> exact Pattern.noConfusion

theorem readPrimitive_atom {c : Char} (hc : isAtom c = true) (s : List Char) :
    readPrimitive { ignoreCase := true } (c :: s) = some (⟨atom c, 0, true⟩, s) := by
  rw [readPrimitive.eq_def]
  split
  case h_1 h => cases h
  case h_2 h => exact (ne_of_isAtom hc (by decide) (List.cons.inj h).1).elim
  case h_3 h => exact (ne_of_isAtom hc (by decide) (List.cons.inj h).1).elim
  case h_4 h =>
    obtain ⟨rfl, rfl⟩ := List.cons.inj h
    rfl
  case h_5 h =>
    obtain ⟨rfl, rfl⟩ := List.cons.inj h
    rfl
  case h_6 hstart hend h =>
    obtain ⟨rfl, rfl⟩ := List.cons.inj h
    rw [atom, if_neg hstart, if_neg hend]
    rfl

theorem readAlternatives_atom {c : Char} (hc : isAtom c = true) (n : Nat)
    (names : List (List Char)) (parts done : List Part) (s : List Char) :
    readAlternatives (n + 1) { ignoreCase := true } names parts done (c :: s) =
      readAlternatives n { ignoreCase := true } names (⟨atom c, 0, true⟩ :: parts) done s := by
  have hne : ∀ {d : Char} {t : List Char}, isAtom d = false → c :: s ≠ d :: t :=
    fun hd h => ne_of_isAtom hc hd (List.cons.inj h).1
  rw [readAlternatives]
  simp only [Flags.skip, Bool.false_eq_true, if_false]
  split
  case h_1 h => cases h
  case h_10 => rw [readPrimitive_atom hc]
  all_goals
    rename_i h
    exact (hne (by decide) h).elim

theorem readAlternatives_atoms : ∀ {s : List Char}, s.all isAtom = true →
    ∀ (names : List (List Char)) (parts : List Part),
    readAlternatives (s.length + 1) { ignoreCase := true } names parts [] s =
      some (joinParts ((s.map fun c => ⟨atom c, 0, true⟩).reverse ++ parts), names, [])
  | [], _, _, _ => rfl
  | c :: s, hs, names, parts => by
      rw [List.all_cons, Bool.and_eq_true] at hs
      rw [List.length_cons, readAlternatives_atom hs.1, readAlternatives_atoms hs.2]
      simp

/-! ## 2. Rows -/

theorem row_ne_empty {p : Pattern} (hp : p ≠ empty) : ∀ ps : List Pattern, row (p :: ps) ≠ empty
  | [] => hp
  | _ :: _ => Pattern.noConfusion

/-- A pattern is put in front of another one that is not empty. -/
theorem front_eq (p : Pattern) : ∀ {q : Pattern}, q ≠ empty →
    (if q matches .empty then p else .seq p q) = seq p q := by
  intro q hq
  cases q with
  | empty => exact (hq rfl).elim
  | _ => rfl

/-- Parts are put in front of a row, the last one first. -/
theorem foldl_row : ∀ (parts : List Part) {q : Pattern} (qs : List Pattern),
    (∀ p ∈ parts, p.pattern ≠ empty) → q ≠ empty →
    parts.foldl (fun q p => if q matches .empty then p.pattern else .seq p.pattern q) (row (q :: qs)) =
      row ((parts.map Part.pattern).reverse ++ q :: qs)
  | [], _, _, _, _ => rfl
  | p :: parts, q, qs, hparts, hq => by
      obtain ⟨hp, hrest⟩ := List.forall_mem_cons.mp hparts
      rw [List.foldl_cons, front_eq _ (row_ne_empty hq qs)]
      exact (foldl_row parts (q :: qs) hrest hp).trans (by simp)

/-- Parts that are joined make the row of their patterns. -/
theorem pattern_joinParts {parts : List Part} (h : ∀ p ∈ parts, p.pattern ≠ empty) :
    (joinParts parts).pattern = row (parts.map Part.pattern).reverse := by
  match parts, h with
  | [], _ => rfl
  | [p], _ => rfl
  | p :: q :: parts, h =>
      obtain ⟨hp, hrest⟩ := List.forall_mem_cons.mp h
      exact (foldl_row (q :: parts) [] hrest hp).trans (by simp)

/-- Parts of no depth make one level at most. -/
theorem depth_joinParts_le {parts : List Part} (h : ∀ p ∈ parts, p.depth = 0) :
    (joinParts parts).depth ≤ 1 := by
  have hfold : ∀ ps : List Part, (∀ p ∈ ps, p.depth = 0) →
      ps.foldl (fun d p => max d p.depth) 0 = 0 := by
    intro ps hps
    induction ps with
    | nil => rfl
    | cons p ps ih =>
        rw [List.foldl_cons, hps p List.mem_cons_self]
        exact ih fun r hr => hps r (List.mem_cons_of_mem _ hr)
  match parts, h with
  | [], _ => exact Nat.zero_le 1
  | [p], h => exact (h p List.mem_cons_self).trans_le (Nat.zero_le 1)
  | p :: q :: parts, h =>
      have h0 := hfold (p :: q :: parts) h
      simp only [joinParts, h0, Nat.zero_add, Nat.le_refl]

/-- What the characters stand for is no larger in a row than patterns may be. -/
def Fits (s : List Char) : Prop := (row (s.map atom)).weight ≤ maxWeight

/-- **A text of atoms is read as the row of them**, if it is not too large. -/
theorem ofText?_atoms {s : List Char} (hs : s.all isAtom = true) :
    ofText? { ignoreCase := true } s =
      if (row (s.map atom)).weight ≤ maxWeight then some (row (s.map atom)) else none := by
  have hpattern : (joinParts (s.map fun c => ⟨atom c, 0, true⟩).reverse).pattern = row (s.map atom) := by
    rw [pattern_joinParts (by simp [atom_ne_empty]), List.map_reverse, List.reverse_reverse,
      List.map_map]
    rfl
  have hdepth : (joinParts (s.map fun c => ⟨atom c, 0, true⟩).reverse).depth ≤ maxDepth :=
    (depth_joinParts_le (by simp)).trans (by decide)
  rw [ofText?, readAlternatives_atoms hs, List.append_nil]
  simp only [hpattern, hdepth, decide_true, Bool.true_and, decide_eq_true_eq]

/-! ## 3. Size -/

theorem weight_row_le {bound : Nat} : ∀ {ps : List Pattern}, ps ≠ [] →
    (∀ p ∈ ps, p.weight ≤ bound) → (row ps).weight ≤ ps.length * bound
  | [p], _, h => by simpa [row] using h p List.mem_cons_self
  | p :: q :: ps, _, h => by
      obtain ⟨hp, hrest⟩ := List.forall_mem_cons.mp h
      have ih := weight_row_le (List.cons_ne_nil q ps) hrest
      rw [row, weight, List.length_cons, Nat.succ_mul]
      omega

/-- The weight of a single character in any letter case, by its case variants. -/
def variantWeight (c : Char) (variants : List Char) : Nat :=
  if variants.length == 1 then 32 * c.utf8Size
  else CharSet.spreadWeight ((variants.filter isAscii).length,
    (variants.filter (!isAscii ·)).foldl (fun n d => n + CharSet.charSpread d) 0)

theorem weight_folded_single (c : Char) :
    (CharSet.folded (.single c)).weight = variantWeight c (caseVariants c) := by
  simp only [CharSet.weight, CharSet.only?, CharSet.single, CharSet.spread, variantWeight,
    beq_self_eq_true, Bool.true_and, if_true]
  by_cases h : ((caseVariants c).length == 1) = true
  · simp only [h, if_true]
  · simp only [h, Bool.false_eq_true, if_false]

/-- No character of ASCII weighs more than `k`, which the Kelvin sign folds to. -/
theorem weight_atom_le {c : Char} (hc : isAscii c = true) : (atom c).weight ≤ 236 := by
  have hall : ∀ n < 128, variantWeight (Char.ofNat n) (asciiVariants (Char.ofNat n)) ≤ 236 := by
    decide +kernel
  unfold atom
  split_ifs
  · exact Nat.le_of_ble_eq_true rfl
  · exact Nat.le_of_ble_eq_true rfl
  · rw [weight, weight_folded_single, caseVariants_of_ascii hc]
    exact forall_ascii (p := fun c => variantWeight c (asciiVariants c) ≤ 236) hall hc

/-- **Text of ASCII is not too large for a pattern** up to more than forty thousand characters. -/
theorem fits_of_length {s : List Char} (hs : s.all isAscii = true) (hlen : s.length ≤ 44000) :
    Fits s := by
  by_cases hnil : s = []
  · rw [hnil]
    exact Nat.le_of_ble_eq_true rfl
  · have hatoms : ∀ p ∈ s.map atom, p.weight ≤ 236 := by
      intro p hp
      obtain ⟨c, hc, rfl⟩ := List.mem_map.mp hp
      exact weight_atom_le (List.all_eq_true.mp hs c hc)
    have hrow := weight_row_le (fun h => hnil (List.map_eq_nil_iff.mp h)) hatoms
    rw [List.length_map] at hrow
    unfold Fits maxWeight
    omega

/-! ## 4. Engines -/

/-- **What engines for patterns do with plain text.** Of the texts of ASCII characters that join, repeat
and open nothing, the engine refuses those only that are too large for it, and any other occurs where the
row of what its characters stand for does: the edges of the text for the two marks of them, and each other
character for itself in any letter case. -/
structure ReadsPlainText [PatternEngine] (TooLarge : String → Prop) : Prop where
  reads {s : String} (hs : s.toList.all isSimple = true) (hsize : ¬ TooLarge s) :
    ∃ occursIn, PatternEngine.search? s = some occursIn
  occurs {s : String} (hs : s.toList.all isSimple = true)
    {occursIn : String → Bool} (hread : PatternEngine.search? s = some occursIn) (text : String) :
    occursIn text = true ↔ Occurs text.toList (row (s.toList.map atom))

/-- **The project's own engine does so.** -/
theorem readsPlainText_engine : ReadsPlainText fun s => ¬ Fits s.toList := by
  have hatoms {s : String} (hs : s.toList.all isSimple = true) :
      s.toList.all isAtom = true := by
    rw [List.all_eq_true] at hs ⊢
    exact fun c hc => (Bool.and_eq_true_iff.mp (hs c hc)).2
  refine ⟨fun {s} hs hsize => ?_, fun {s} hs occursIn hread text => ?_⟩
  · have hfits : (row (s.toList.map atom)).weight ≤ maxWeight := not_not.mp hsize
    have hpattern := ofText?_atoms (hatoms hs)
    rw [if_pos hfits] at hpattern
    exact ⟨_, Option.map_eq_some_iff.mpr ⟨_, hpattern, rfl⟩⟩
  · obtain ⟨p, hp, rfl⟩ := Option.map_eq_some_iff.mp hread
    rw [ofText?_atoms (hatoms hs), Option.ite_none_right_eq_some] at hp
    rw [Option.some.inj hp.2]
    exact occursIn_iff

/-! ## 5. Occurrence -/

theorem mem_single {c d : Char} : (CharSet.single c).mem d = true ↔ d = c := by
  rw [CharSet.single, CharSet.mem, Bool.and_eq_true, decide_eq_true_eq, decide_eq_true_eq]
  exact ⟨fun h => Char.le_antisymm h.2 h.1, fun h => h ▸ ⟨Char.le_refl d, Char.le_refl d⟩⟩

/-- A character in any letter case stands for the variants of it. -/
theorem mem_folded_single {c d : Char} :
    (CharSet.folded (.single c)).mem d = true ↔ c ∈ caseVariants d := by
  rw [CharSet.mem, List.any_eq_true]
  simp only [mem_single, exists_eq_right]

section Rows

variable {text : List Char} {k : Nat}

theorem runs_row_cons {p : Pattern} {i : Nat} : ∀ {ps : List Pattern},
    Runs text (row (p :: ps)) i k ↔ ∃ j, Runs text p i j ∧ Runs text (row ps) j k
  | [] => by simp [row, Runs]
  | _ :: _ => Iff.rfl

theorem runs_row_append {qs : List Pattern} : ∀ (ps : List Pattern) {i : Nat},
    Runs text (row (ps ++ qs)) i k ↔ ∃ j, Runs text (row ps) i j ∧ Runs text (row qs) j k
  | [], i => by simp [row, Runs]
  | p :: ps, i => by
      simp only [List.cons_append, runs_row_cons, runs_row_append ps]
      constructor
      · rintro ⟨a, hp, b, hps, hqs⟩
        exact ⟨b, ⟨a, hp, hps⟩, hqs⟩
      · rintro ⟨b, ⟨a, hp, hps⟩, hqs⟩
        exact ⟨a, hp, b, hps, hqs⟩

theorem runs_start {i : Nat} (hi : i ≤ text.length) : Runs text (atom '^') i k ↔ i = 0 ∧ k = 0 := by
  cases i with
  | zero => simp [atom, Runs, Anchor.holds, before?, eq_comm]
  | succ i =>
      have hsome : text[i]? = some text[i] := List.getElem?_eq_getElem hi
      simp [atom, Runs, Anchor.holds, before?, hsome]

theorem runs_end {i : Nat} : Runs text (atom '$') i k ↔ i = k ∧ text.length ≤ i := by
  simp [atom, Runs, Anchor.holds]

end Rows

section Literal

variable {text : List Char} (htext : ∀ c ∈ text, isAscii c = true ∧ c.isUpper = false)
include htext

/-- **Plain text runs where the text goes on with it in lower case.** -/
theorem runs_literal : ∀ {s : List Char}, s.all isLiteral = true → ∀ {i k : Nat},
    Runs text (row (s.map atom)) i k ↔ s.map Char.toLower <+: text.drop i ∧ k = i + s.length
  | [], _, i, k => by simp [row, Runs, eq_comm]
  | c :: s, hs, i, k => by
      rw [List.all_cons, Bool.and_eq_true] at hs
      obtain ⟨hc, hs⟩ := hs
      have hmem : ∀ d ∈ text, (CharSet.folded (.single c)).mem d = true ↔ c.toLower = d := by
        intro d hd
        obtain ⟨hascii, hlow⟩ := htext d hd
        exact mem_folded_single.trans (mem_caseVariants_iff (isLiteral_iff.mp hc).1 hascii hlow)
      simp only [List.map_cons, runs_row_cons, runs_literal hs, atom_of_isLiteral hc, Runs,
        List.length_cons]
      constructor
      · rintro ⟨j, ⟨rfl, d, hd, hfold⟩, hpre, rfl⟩
        obtain ⟨hlt, rfl⟩ := List.getElem?_eq_some_iff.mp hd
        rw [List.drop_eq_getElem_cons hlt, List.cons_prefix_cons]
        exact ⟨⟨(hmem _ (List.getElem_mem hlt)).mp hfold, hpre⟩, by omega⟩
      · rintro ⟨hpre, rfl⟩
        have hlt : i < text.length := by
          have hle := hpre.length_le
          simp only [List.length_cons, List.length_drop] at hle
          omega
        rw [List.drop_eq_getElem_cons hlt, List.cons_prefix_cons] at hpre
        obtain ⟨hfirst, hpre⟩ := hpre
        have hfold := (hmem _ (List.getElem_mem hlt)).mpr hfirst
        exact ⟨i + 1, ⟨rfl, text[i], List.getElem?_eq_getElem hlt, hfold⟩, hpre, by omega⟩

/-- **Plain text occurs where the text holds it in lower case.** -/
theorem occurs_literal {s : List Char} (hs : s.all isLiteral = true) :
    Occurs text (row (s.map atom)) ↔ s.map Char.toLower <:+: text := by
  simp only [Occurs, runs_literal htext hs, List.infix_iff_prefix_suffix]
  constructor
  · rintro ⟨i, k, _, hpre, _⟩
    exact ⟨_, hpre, List.drop_suffix i text⟩
  · rintro ⟨t, hpre, hsuf⟩
    rw [List.suffix_iff_eq_drop] at hsuf
    exact ⟨text.length - t.length, _, Nat.sub_le _ _, hsuf ▸ hpre, rfl⟩

/-- **Between the edges of the text, plain text occurs in its own lower case alone.** -/
theorem occurs_whole {s : List Char} (hs : s.all isLiteral = true) :
    Occurs text (row (('^' :: (s ++ ['$'])).map atom)) ↔ s.map Char.toLower = text := by
  have hruns : ∀ {i k}, i ≤ text.length → (Runs text (row (('^' :: (s ++ ['$'])).map atom)) i k ↔
      i = 0 ∧ s.map Char.toLower <+: text ∧ k = s.length ∧ text.length ≤ s.length) := by
    intro i k hi
    rw [List.map_cons, runs_row_cons, List.map_append, List.map_singleton]
    simp only [runs_start hi, runs_row_append, runs_literal htext hs]
    constructor
    · rintro ⟨j, ⟨rfl, rfl⟩, l, ⟨hpre, rfl⟩, hend⟩
      obtain ⟨rfl, hle⟩ := runs_end.mp hend
      rw [Nat.zero_add] at hle ⊢
      exact ⟨rfl, hpre, rfl, hle⟩
    · rintro ⟨rfl, hpre, rfl, hle⟩
      exact ⟨0, ⟨rfl, rfl⟩, s.length, ⟨hpre, (Nat.zero_add _).symm⟩, runs_end.mpr ⟨rfl, hle⟩⟩
  constructor
  · rintro ⟨i, k, hi, hr⟩
    obtain ⟨-, hpre, -, hle⟩ := (hruns hi).mp hr
    exact hpre.eq_of_length_le (by simpa using hle)
  · intro heq
    have hle : text.length ≤ s.length := by simp [← heq]
    exact ⟨0, s.length, Nat.zero_le _,
      (hruns (Nat.zero_le _)).mpr ⟨rfl, heq ▸ List.prefix_rfl, rfl, hle⟩⟩

end Literal

end TableDraft.Pattern

import TableDraft.Proofs.Text.Numbers
import TableDraft.Proofs.Typing.TokenGrammar

/-!
# Places of arguments

`DECIMAL(a,b)` is meant to have its precision from `a` and its scale from `b`. The parts that cannot be
read as numbers are left out before the arguments are counted, so that a number may move to the place
of the one before it (`columnType_twoArguments`). **Each number keeps its place unless the first part
cannot be read and the second one can** (`columnType_twoArguments_iff`).
-/

namespace TableDraft

open Text BuiltIn

/-! ## 1. A token with two arguments -/

namespace AbstractType

/-- A decimal type with two parts in parentheses, and nothing beside the token that matters to it. -/
def twoArguments (a b : List Char) (length : Option UInt32) : AbstractType :=
  ⟨String.ofList (BuiltIn.decimal.name.toList ++ '(' :: (a ++ ',' :: b ++ [')'])), none, none, length⟩

/-- A part of the arguments: no comma and no closing parenthesis. -/
structure IsPart (a : List Char) : Prop where
  comma : ',' ∉ a
  close : ')' ∉ a

/-- Upper case makes neither commas nor parentheses. -/
theorem IsPart.upper {a : List Char} (h : IsPart a) : IsPart (upper a) where
  comma hmem := h.comma ((TypeToken.steady_of_mark (by decide)).mem_of_mem_upper hmem)
  close hmem := h.close ((TypeToken.steady_of_mark (by decide)).mem_of_mem_upper hmem)

theorem token_twoArguments (a b : List Char) (length : Option UInt32) :
    (twoArguments a b length).token =
      BuiltIn.decimal.name.toList ++ '(' :: (upper a ++ ',' :: upper b ++ [')']) := by
  have hhead : ∀ c ∈ BuiltIn.decimal.name.toList.head?, isBlank c = false := by
    intro c hc
    obtain rfl : 'D' = c := Option.some.inj hc
    rfl
  have htrim : trim (BuiltIn.decimal.name.toList ++ '(' :: (a ++ ',' :: b ++ [')'])) =
      BuiltIn.decimal.name.toList ++ '(' :: (a ++ ',' :: b ++ [')']) :=
    TypeToken.trim_enclosed hhead (a ++ ',' :: b)
  have hname : upper BuiltIn.decimal.name.toList = BuiltIn.decimal.name.toList := by
    decide +kernel
  have hmark : ∀ c ∈ ['(', ',', ')'], upperChar c = [c] := fun c hc =>
    (TypeToken.steady_of_mark hc).self
  have hnil : upper [] = [] := rfl
  simp only [token, twoArguments, String.toList_ofList, htrim, upper_append, upper_cons, hname,
    hmark '(' (by decide), hmark ',' (by decide), hmark ')' (by decide), hnil, List.singleton_append]

/-- **The arguments are the numbers that can be read**, whichever parts they come from. -/
theorem spells_twoArguments {a b : List Char} (ha : IsPart a) (hb : IsPart b)
    (length : Option UInt32) : BuiltIn.decimal.Spells (twoArguments a b length).token
      ((readUInt32? (trim a)).toList ++ (readUInt32? (trim b)).toList) := by
  have hclose : ')' ∉ upper a ++ ',' :: upper b := by
    simp [ha.upper.close, hb.upper.close]
  have hargs : TypeToken.readArguments (upper a ++ ',' :: upper b) =
      (readUInt32? (trim a)).toList ++ (readUInt32? (trim b)).toList := by
    have hjoin : upper a ++ ',' :: upper b =
        [','].intercalate [upper a, upper b] := by simp
    have hcomma : ∀ part ∈ [upper a, upper b], ',' ∉ part := by
      simp [ha.upper.comma, hb.upper.comma]
    rw [hjoin, TypeToken.readArguments_parts (List.cons_ne_nil _ _) hcomma]
    simp only [List.filterMap_cons, List.filterMap_nil, trim_upper, readUInt32?_upper]
    cases readUInt32? (trim a) <;> cases readUInt32? (trim b) <;> rfl
  have hspells := Spells.withArguments (k := .decimal) [] (upper a ++ ',' :: upper b) rfl
    hclose
  rw [List.append_nil] at hspells
  rw [token_twoArguments, ← hargs]
  exact hspells

/-! ## 2. How it is written -/

/-- A decimal type with a precision and a scale that may be missing. -/
def decimalType (d : Dialect) (precision scale : Option UInt32) : String :=
  String.ofList ((if d = .clickHouse then "Decimal".toList else "DECIMAL".toList) ++
    decimalParameters precision scale)

/-- The word of a dialect leaves the parameters apart. -/
theorem decimalType_inj {d : Dialect} {p s p' s' : Option UInt32} :
    decimalType d p s = decimalType d p' s' ↔ decimalParameters p s = decimalParameters p' s' := by
  rw [decimalType, decimalType, String.ofList_inj, List.append_cancel_left_eq]

/-- **The first number that can be read is the precision, the second one is the scale.** -/
theorem columnType_twoArguments {a b : List Char} (ha : IsPart a) (hb : IsPart b)
    (length : Option UInt32) (d : Dialect) : (twoArguments a b length).columnType d =
      match readUInt32? (trim a) with
      | some p => decimalType d (some p) (readUInt32? (trim b))
      | none => decimalType d (readUInt32? (trim b)) none := by
  rw [columnType_of_spells (spells_twoArguments ha hb length)]
  cases readUInt32? (trim a) <;> cases readUInt32? (trim b) <;> rfl

/-- A scale alone is not written like a precision alone. -/
theorem decimalParameters_ne (n : UInt32) :
    decimalParameters none (some n) ≠ decimalParameters (some n) none := by
  intro h
  have hcomma : ',' ∈ decimalParameters none (some n) := by simp [decimalParameters, twoParameters]
  rw [h] at hcomma
  simp [decimalParameters, oneParameter, comma_notMem_writeUInt32] at hcomma

/-- **Each number keeps its place exactly when the first part is a number or the second one is none.**
Otherwise the scale is written as the precision. -/
theorem columnType_twoArguments_iff {a b : List Char} (ha : IsPart a) (hb : IsPart b)
    (length : Option UInt32) (d : Dialect) :
    ((twoArguments a b length).columnType d =
        decimalType d (readUInt32? (trim a)) (readUInt32? (trim b)) ↔
      (∃ p, Writes (trim a) p) ∨ ∀ s, ¬ Writes (trim b) s) ∧
    ∀ s, (∀ p, ¬ Writes (trim a) p) → Writes (trim b) s →
      (twoArguments a b length).columnType d = decimalType d (some s) none := by
  simp only [← readUInt32?_eq_some_iff]
  rw [columnType_twoArguments ha hb]
  cases readUInt32? (trim a) with
  | some p => simp
  | none =>
      cases readUInt32? (trim b) with
      | none => simp
      | some s =>
          have hne := (decimalParameters_ne s).symm
          simp [decimalType_inj, hne]

/-- Blanks, signs and leading zeros do not keep numbers from their places. -/
theorem columnType_twoArguments_padded :
    (twoArguments " +018".toList "\u20032 ".toList none).columnType .clickHouse = "Decimal(18,2)" := by
  obtain ⟨hplaces, -⟩ := columnType_twoArguments_iff (a := " +018".toList) (b := "\u20032 ".toList)
    ⟨by decide, by decide⟩ ⟨by decide, by decide⟩ none .clickHouse
  have hfirst : Writes (trim " +018".toList) 18 := readUInt32?_eq_some_iff.mp (by decide +kernel)
  rw [hplaces.mpr (Or.inl ⟨_, hfirst⟩)]
  decide +kernel

/-- A first part that is no number gives its place away. -/
theorem columnType_twoArguments_shifted :
    ¬ ∀ a b : List Char, IsPart a → IsPart b → ∀ length d, (twoArguments a b length).columnType d =
      decimalType d (readUInt32? (trim a)) (readUInt32? (trim b)) := by
  intro h
  have hshifted : (twoArguments [] ['2'] none).columnType .mySql = "DECIMAL(2)" := by decide +kernel
  have hmeant : decimalType .mySql (readUInt32? (trim [])) (readUInt32? (trim ['2'])) =
      "DECIMAL(24,2)" := by decide +kernel
  have hno : "DECIMAL(2)" ≠ "DECIMAL(24,2)" := by decide
  refine hno ?_
  rw [← hshifted, ← hmeant]
  exact h [] ['2'] ⟨by decide, by decide⟩ ⟨by decide, by decide⟩ none .mySql

end AbstractType

end TableDraft

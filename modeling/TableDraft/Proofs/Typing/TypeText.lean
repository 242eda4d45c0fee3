import TableDraft.Proofs.Typing.TokenGrammar
import TableDraft.Typing.Inference

/-!
# Line breaks in types

A type as it is written in a dialect is a word of that dialect with numbers, or the token of a rule in
upper case. **It holds a line break only if the token does** (`newline_mem_of_columnType`), and a token
that is no rule's holds none (`newline_mem_of_infer`).
-/

namespace TableDraft

open Text

theorem newline_notMem_writeUInt32 (n : UInt32) : '\n' ∉ writeUInt32 n := by
  intro h
  have hdigit := Nat.isDigit_of_mem_toDigits (by decide) (by decide) h
  cases hdigit

namespace AbstractType

theorem newline_notMem_oneParameter (n : UInt32) : '\n' ∉ oneParameter n := by
  simp [oneParameter, newline_notMem_writeUInt32]

theorem newline_notMem_twoParameters (m n : UInt32) : '\n' ∉ twoParameters m n := by
  simp [twoParameters, newline_notMem_writeUInt32]

theorem newline_notMem_parameters (t : AbstractType) : '\n' ∉ t.parameters := by
  unfold parameters
  split
  · exact newline_notMem_twoParameters _ _
  · exact newline_notMem_oneParameter _
  · exact newline_notMem_oneParameter _
  · exact List.not_mem_nil

theorem newline_mem_of_token {t : AbstractType} (h : '\n' ∈ t.token) : '\n' ∈ t.dataType.toList :=
  (trim_sublist _).subset (mem_of_mem_upper rfl h)

end AbstractType

namespace BuiltIn

theorem newline_notMem_decimalParameters (p s : Option UInt32) : '\n' ∉ decimalParameters p s := by
  unfold decimalParameters
  split
  · exact AbstractType.newline_notMem_twoParameters _ _
  · exact AbstractType.newline_notMem_oneParameter _
  · exact AbstractType.newline_notMem_twoParameters _ _
  · exact AbstractType.newline_notMem_twoParameters _ _

/-- The words of the dialects are on one line. -/
theorem newline_notMem_render (t : AbstractType) (arguments : List UInt32) (d : Dialect)
    (k : BuiltIn) : '\n' ∉ k.render t arguments d := by
  have hone := AbstractType.newline_notMem_oneParameter
  have happend : ∀ {word : List Char} {n : UInt32}, '\n' ∉ word →
      '\n' ∉ word ++ AbstractType.oneParameter n := by
    intro word n hword
    rw [List.mem_append, not_or]
    exact ⟨hword, hone n⟩
  unfold render
  cases k with
  | string =>
      dsimp only
      split <;> decide
  | date =>
      dsimp only
      split <;> decide
  | timestamp =>
      dsimp only
      split <;> decide
  | double =>
      dsimp only
      split <;> decide
  | decimal =>
      rw [List.mem_append, not_or]
      exact ⟨by split <;> decide, newline_notMem_decimalParameters _ _⟩
  | char => exact happend (by split <;> decide)
  | varchar =>
      dsimp only
      split
      · decide
      · exact happend (by decide)
  | float =>
      have hfloat : '\n' ∉ "FLOAT".toList := by decide
      dsimp only
      generalize t.precision.or arguments[0]? = precision
      cases precision with
      | none => cases d <;> decide
      | some p =>
          cases d with
          | clickHouse => exact (by decide : '\n' ∉ "Float32".toList)
          | mySql | postgreSql => exact happend hfloat
          | _ => exact hfloat

end BuiltIn

/-- **A type as it is written holds a line break only if its token does.** -/
theorem AbstractType.newline_mem_of_columnType {t : AbstractType} {d : Dialect}
    (h : '\n' ∈ (t.columnType d).toList) : '\n' ∈ t.dataType.toList := by
  rw [columnType, String.toList_ofList] at h
  refine newline_mem_of_token ?_
  split at h
  · exact absurd h (BuiltIn.newline_notMem_render _ _ _ _)
  · rw [TypeToken.raw_read, passThrough] at h
    split at h
    · exact h
    · rcases List.mem_append.mp h with h | h
      · exact (trim_sublist _).subset (mem_of_mem_upper rfl h)
      · exact absurd h t.newline_notMem_parameters

namespace Inference

/-- The types that marks speak for. -/
theorem byMarks_mem (name comment : String) : byMarks name comment ∈
    [AbstractType.string, .date, .timestamp, .defaultDecimal] := by
  unfold byMarks
  dsimp only
  repeat' split
  all_goals decide

/-- **The token of an inferred type holds a line break only if that of a rule does.** -/
theorem newline_mem_of_infer [PatternEngine] {name comment : String} {rules : List TypeRule}
    (h : '\n' ∈ (infer name comment rules).dataType.toList) :
    ∃ r ∈ rules, '\n' ∈ r.dataType.toList := by
  unfold infer at h
  dsimp only at h
  split at h
  · rename_i rule place hfind
    have hmem : (rule, place) ∈ inOrder rules := List.mem_of_find?_eq_some hfind
    have hplace := List.mem_zipIdx' ((List.mergeSort_perm ..).mem_iff.mp hmem)
    exact ⟨rule, hplace.2 ▸ List.getElem_mem hplace.1, h⟩
  · have hmarks : ∀ t ∈ [AbstractType.string, .date, .timestamp, .defaultDecimal],
        '\n' ∉ t.dataType.toList := by decide
    exact absurd h (hmarks _ (byMarks_mem _ _))

end Inference

end TableDraft

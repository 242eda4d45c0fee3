import TableDraft.Proofs.Text.LowerCase

/-!
# Case variants of ASCII

The characters that differ from one in case alone come out of the table of case runs. Of its runs only
those of the long s and of the Kelvin sign lead to ASCII, so that the table need not be searched:

* `caseVariants_of_ascii`: a character of ASCII has its letter in both cases, and what of those two folds
  to it;
* **`mem_caseVariants_iff`: among characters of ASCII without capitals a character is a variant of its
  lower case alone.**
-/

namespace TableDraft.Text

open Unicode

/-- The runs of the long s and of the Kelvin sign. -/
def asciiRuns : List CaseRun := [⟨0x17f, 0x17f, 1, -268⟩, ⟨0x212a, 0x212a, 1, -8383⟩]

/-- The run holds a character of ASCII, or takes one to ASCII. -/
def touchesAscii (r : CaseRun) : Bool := r.first < 128 || r.first + r.shift < 128

theorem touchesAscii_foldRuns : foldRuns.filter touchesAscii = asciiRuns := by decide +kernel

theorem touchesAscii_of_source {r : CaseRun} {n m : Nat} (hn : n < 128) (h : r.source? n = some m) :
    touchesAscii r = true := by
  simp only [CaseRun.source?, Option.ite_none_right_eq_some, CaseRun.covers, Bool.and_eq_true,
    decide_eq_true_eq] at h
  rw [touchesAscii, Bool.or_eq_true, decide_eq_true_eq, decide_eq_true_eq]
  omega

/-- What folds to a code point of ASCII from beyond. -/
def fromBeyond (n : Nat) : List Char := asciiRuns.filterMap (fun r => (r.source? n).map Char.ofNat)

/-- The letter in both cases, and what else folds to it. -/
def asciiVariants (c : Char) : List Char :=
  c.toLower :: (if c.toLower.isLower then [c.toLower.toUpper] else []) ++ fromBeyond c.toLower.toNat

/-- **The case variants of a character of ASCII.** -/
theorem caseVariants_of_ascii {c : Char} (hc : isAscii c = true) :
    caseVariants c = asciiVariants c := by
  have hfold : foldChar c = c.toLower := if_pos hc
  have hlt : c.toLower.toNat < 128 := by simpa [isAscii] using isAscii_toLower hc
  have hruns : foldRuns.filterMap (fun r => (r.source? c.toLower.toNat).map Char.ofNat) =
      fromBeyond c.toLower.toNat := by
    rw [fromBeyond, ← touchesAscii_foldRuns, List.filterMap_filter]
    refine List.filterMap_congr fun r _ => ?_
    cases hs : r.source? c.toLower.toNat with
    | none => split <;> rfl
    | some m => rw [if_pos (touchesAscii_of_source hlt hs)]
  rw [caseVariants, hfold, hruns, asciiVariants]

theorem notMem_fromBeyond {c d : Char} (hc : isAscii c = true) (hd : isAscii d = true) :
    c ∉ fromBeyond d.toNat := by
  have hall : ∀ n < 128, (fromBeyond n).all (!isAscii ·) = true := by decide +kernel
  intro hmem
  have h := List.all_eq_true.mp (hall d.toNat (by simpa [isAscii] using hd)) c hmem
  rw [hc] at h
  cases h

/-- A character that is no capital is its own lower case, and that of its capital. -/
theorem toLower_of_not_isUpper {d : Char} (hd : isAscii d = true) (hlow : d.isUpper = false) :
    d.toLower = d ∧ (d.isLower = true → d.toUpper.toLower = d) := by
  have hall : ∀ n < 128, (Char.ofNat n).isUpper = false →
      (Char.ofNat n).toLower = Char.ofNat n ∧
      ((Char.ofNat n).isLower = true → (Char.ofNat n).toUpper.toLower = Char.ofNat n) := by
    decide +kernel
  exact forall_ascii (p := fun d => d.isUpper = false →
    d.toLower = d ∧ (d.isLower = true → d.toUpper.toLower = d)) hall hd hlow

/-- A character is its own lower case or the capital of that. -/
theorem eq_toLower_or {c : Char} (hc : isAscii c = true) :
    c = c.toLower ∨ c.toLower.isLower = true ∧ c = c.toLower.toUpper := by
  have hall : ∀ n < 128, Char.ofNat n = (Char.ofNat n).toLower ∨
      (Char.ofNat n).toLower.isLower = true ∧ Char.ofNat n = (Char.ofNat n).toLower.toUpper := by
    decide +kernel
  exact forall_ascii (p := fun c => c = c.toLower ∨ c.toLower.isLower = true ∧
    c = c.toLower.toUpper) hall hc

/-- **Without capitals a character of ASCII is a variant of its lower case alone.** -/
theorem mem_caseVariants_iff {c d : Char} (hc : isAscii c = true) (hd : isAscii d = true)
    (hlow : d.isUpper = false) : c ∈ caseVariants d ↔ c.toLower = d := by
  obtain ⟨hself, hupper⟩ := toLower_of_not_isUpper hd hlow
  rw [caseVariants_of_ascii hd, asciiVariants, hself]
  constructor
  · intro hmem
    rcases List.mem_append.mp hmem with hmem | hmem
    · rcases List.mem_cons.mp hmem with rfl | hmem
      · exact hself
      · split at hmem
        · rename_i hl
          rw [List.mem_singleton.mp hmem]
          exact hupper hl
        · cases hmem
    · exact (notMem_fromBeyond hc hd hmem).elim
  · rintro rfl
    refine List.mem_append_left _ ?_
    rcases eq_toLower_or hc with h | ⟨hl, h⟩
    · exact h ▸ List.mem_cons_self
    · rw [if_pos hl, ← h]
      exact List.mem_cons_of_mem _ (List.mem_singleton_self c)

end TableDraft.Text

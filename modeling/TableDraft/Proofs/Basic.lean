/-!
# Tables and steps that fail

Tables are kept as lists of entries. An entry that is put in comes first, and those with its key go, so
that a key has at most one (`lookup_replaced`). `exists_of_bind` takes a computation that may fail apart
into its steps.
-/

namespace TableDraft

/-! ## 1. Tables -/

section Tables

variable {α β : Type} [BEq α] [LawfulBEq α] {k a : α}

theorem lookup_filter_ne (hne : k ≠ a) : ∀ l : List (α × β),
    (l.filter (fun e => e.1 != a)).lookup k = l.lookup k
  | [] => rfl
  | e :: l => by
      have ih := lookup_filter_ne hne l
      by_cases he : e.1 = a
      · have hk : (k == e.1) = false := beq_false_of_ne fun h => hne (h.trans he)
        rw [List.filter_cons_of_neg (by simp [he]), List.lookup_cons, hk, ih]
      · rw [List.filter_cons_of_pos (by simp [he]), List.lookup_cons, List.lookup_cons, ih]

/-- What is put in is found under its key, and nothing else changes. -/
theorem lookup_replaced [DecidableEq α] (k a : α) (b : β) (l : List (α × β)) :
    ((a, b) :: l.filter (fun e => e.1 != a)).lookup k = if k = a then some b else l.lookup k := by
  rw [List.lookup_cons]
  by_cases h : k = a
  · rw [if_pos h, beq_iff_eq.mpr h]
  · rw [if_neg h, beq_false_of_ne h]
    exact lookup_filter_ne h l

end Tables

/-! ## 2. Steps -/

section Steps

variable {ε α β : Type}

/-- A computation succeeds only if its first step does, and the rest on what that step gives. -/
theorem exists_of_bind {x : Except ε α} {f : α → Except ε β} {b : β} (h : (x >>= f) = .ok b) :
    ∃ a, x = .ok a ∧ f a = .ok b := by
  cases x with
  | error e => cases h
  | ok a => exact ⟨a, rfl, h⟩

end Steps

end TableDraft

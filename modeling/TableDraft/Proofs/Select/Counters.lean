import TableDraft.Proofs.Select.FromPlace
import TableDraft.Proofs.Select.RemarkHistory
import TableDraft.Proofs.Select.ShapeOrder

/-!
# Counters of parentheses

While the fields of a text are read, parentheses are counted in several places: in the code behind SELECT
in search of a FROM, in each list that is cut, and in the part of a line before its remark. The depths
here are integers; on a machine they are kept in counters of 32 bits.

* `Counted`: the texts through which parentheses are counted;
* `Counted.sublist`: all of them are what is left of the text when something is taken out;
* **`countersFit_of_parens`: with fewer parentheses than a counter holds, none overflows.**
-/

namespace TableDraft.Select

open Text Remark RemarkTable

/-- The list is the one that a shape of the text cuts out of it. -/
inductive ListOf (sql : List Char) : List Char → Prop
  | selectFrom {clause : List Char} (h : selectFromClause sql = some clause) : ListOf sql clause
  | selectOnly {clause : List Char} (h : selectOnlyClause sql = some clause) : ListOf sql clause
  | fieldList : ListOf sql sql

/-- While the fields of a text are read, parentheses are counted through this one. -/
inductive Counted (sql : List Char) : List Char → Prop
  /-- The code of whole parts of what follows SELECT, in search of a FROM. -/
  | search {p code rest : List Char} (h : afterSelect sql = some (p ++ rest)) (hread : Read p code rest) :
      Counted sql code
  /-- A list without its remarks, to cut it. -/
  | list {l : List Char} (h : ListOf sql l) : Counted sql (strip l)
  /-- The part of a line before its mark, to find what the remark is about. -/
  | line {l line before after : List Char} (h : ListOf sql l) (hline : line ∈ l.splitOn '\n')
      (hcut : cutAtMark line = some (before, after)) : Counted sql (strip before)

/-- Counters of 32 bits hold every depth that is counted while the fields of a text are read. -/
def CountersFit (sql : String) : Prop :=
  ∀ s, Counted (trim sql.toList) s → ∀ p, p <+: s → Countable (depthAfter 0 p)

theorem sublist_of_mem_splitOn {x : Char} : ∀ {s l : List Char}, l ∈ s.splitOn x → l.Sublist s
  | [], l, h => by
      rw [List.splitOn_nil, List.mem_singleton] at h
      rw [h]
  | c :: s, l, h => by
      rw [List.splitOn_cons_eq_if_modifyHead] at h
      split at h
      · rcases List.mem_cons.mp h with rfl | h
        · exact List.nil_sublist _
        · exact (sublist_of_mem_splitOn h).cons c
      · cases hs : s.splitOn x with
        | nil => exact absurd hs (List.splitOn_ne_nil x s)
        | cons m ms =>
            have hm : ∀ k ∈ m :: ms, k.Sublist s := fun k hk => sublist_of_mem_splitOn (hs ▸ hk)
            rw [hs, List.modifyHead_cons] at h
            rcases List.mem_cons.mp h with rfl | h
            · exact (hm m List.mem_cons_self).cons_cons c
            · exact (hm l (List.mem_cons_of_mem m h)).cons c

theorem ListOf.sublist {sql l : List Char} (h : ListOf sql l) : l.Sublist sql := by
  cases h with
  | @selectFrom clause h =>
      obtain ⟨p, hp, rfl⟩ := Option.map_eq_some_iff.mp h
      obtain ⟨a, ha, hscan⟩ := Option.bind_eq_some_iff.mp hp
      exact (trim_sublist p).trans
        ((beforeFrom_isPrefix hscan).sublist.trans (afterWord_isSuffix ha).sublist)
  | @selectOnly clause h =>
      obtain ⟨a, ha, rfl⟩ := Option.map_eq_some_iff.mp h
      exact (trim_sublist _).trans
        ((beforeClause_isPrefix false a).sublist.trans (afterWord_isSuffix ha).sublist)
  | fieldList => exact List.Sublist.refl sql

/-- **What is counted through is what is left of the text when something is taken out.** -/
theorem Counted.sublist {sql s : List Char} (h : Counted sql s) : s.Sublist sql := by
  cases h with
  | @search p code rest h hread =>
      exact hread.sublist.trans
        ((List.sublist_append_left p rest).trans (afterWord_isSuffix h).sublist)
  | list h => exact (strip_sublist _).trans h.sublist
  | @line l line before after h hline hcut =>
      obtain ⟨rfl, -⟩ := cutAtMark_eq_some_iff.mp hcut
      exact (strip_sublist before).trans
        ((List.sublist_append_left before _).trans ((sublist_of_mem_splitOn hline).trans h.sublist))

/-- **With fewer parentheses than a counter holds, none overflows.** -/
theorem countersFit_of_parens {sql : String} (h : parens sql.toList < counterLimit) :
    CountersFit sql := by
  intro s hs p hp
  have hsub : p.Sublist sql.toList := hp.sublist.trans (hs.sublist.trans (trim_sublist _))
  exact countable_of_natAbs_lt ((natAbs_depthAfter_le hsub).trans_lt h)

end TableDraft.Select

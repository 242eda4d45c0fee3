import Mathlib.Data.String.Basic
import TableDraft.Proofs.Text.LowerCase
import TableDraft.Typing.RuleSet

/-!
# Looking up rules

A rule set keeps its identifiers in ascending order (`Sorted`), and `at?` is what it holds under an
identifier exactly as written. Here is what the operations do to that view:

* `at?_put`, `at?_insertAll`: **of the rules put under one identifier the last ones stay**, and the
  others are left alone; every operation keeps the order (`sorted_put`, `sorted_insertAll`);
* `get_eq`: **a lookup finds the first identifier in order that agrees with the one asked for**, and
  there is such a one unless none agrees (`exists_first`);
* `normal_normalId`: stored identifiers are trimmed and in lower case, so that two of them agree only
  if they are equal (`eq_of_sameId`), and one agrees with an ASCII identifier only if it is its
  stored form (`eq_normalId`).
-/

namespace TableDraft.RuleSet

open Text Unicode

/-! ## 1. Identifiers -/

theorem sameId_iff {a b : String} :
    sameId a b = true ↔ (trim a.toList).map Char.toLower = (trim b.toList).map Char.toLower := by
  simp [sameId, sameIgnoringAsciiCase]

theorem sameId_refl (a : String) : sameId a a = true := sameId_iff.mpr rfl

theorem sameId_symm {a b : String} (h : sameId a b = true) : sameId b a = true :=
  sameId_iff.mpr (sameId_iff.mp h).symm

theorem sameId_trans {a b c : String} (hab : sameId a b = true) (hbc : sameId b c = true) :
    sameId a c = true :=
  sameId_iff.mpr ((sameId_iff.mp hab).trans (sameId_iff.mp hbc))

/-- Identifiers that agree are told apart by no other identifier. -/
theorem sameId_congr {a b : String} (h : sameId a b = true) (k : String) :
    sameId k a = sameId k b := by
  rw [Bool.eq_iff_iff]
  exact ⟨fun ha => sameId_trans ha h, fun hb => sameId_trans hb (sameId_symm h)⟩

/-- The form in which identifiers are stored: trimmed and in lower case. -/
structure Normal (id : String) : Prop where
  trimmed : trim id.toList = id.toList
  low : Low id.toList

theorem Normal.lowered {id : String} (h : Normal id) : lower id.toList = id.toList :=
  lower_of_low h.low

theorem normal_normalId (id : String) : Normal (normalId id) := by
  refine ⟨?_, ?_⟩
  · rw [normalId, String.toList_ofList, trim_lower]
  · rw [normalId, String.toList_ofList]
    exact low_lower _

/-- **Stored identifiers agree only if they are equal.** -/
theorem eq_of_sameId {a b : String} (ha : Normal a) (hb : Normal b) (h : sameId a b = true) :
    a = b := by
  rw [sameId_iff, ha.trimmed, hb.trimmed, map_toLower_of_low ha.low, map_toLower_of_low hb.low] at h
  exact String.toList_inj.mp h

/-- An identifier of ASCII characters only. -/
def AsciiId (id : String) : Prop := id.toList.all isAscii = true

instance decidableAsciiId (id : String) : Decidable (AsciiId id) :=
  inferInstanceAs (Decidable (_ = true))

theorem AsciiId.trim {id : String} (h : AsciiId id) : ∀ c ∈ trim id.toList, isAscii c = true :=
  fun c hc => List.all_eq_true.mp h c ((trim_sublist id.toList).subset hc)

theorem normalId_of_ascii {id : String} (h : ∀ c ∈ trim id.toList, isAscii c = true) :
    normalId id = String.ofList ((trim id.toList).map Char.toLower) := by
  rw [normalId, lower_of_ascii (List.all_eq_true.mpr h)]

/-- An ASCII identifier agrees with its stored form. -/
theorem sameId_normalId {id : String} (h : AsciiId id) : sameId (normalId id) id = true := by
  have hn := normal_normalId id
  rw [sameId_iff, hn.trimmed, map_toLower_of_low hn.low, normalId_of_ascii h.trim,
    String.toList_ofList]

/-- **An identifier that agrees with an ASCII one has the same stored form.** -/
theorem normalId_eq {k id : String} (hid : AsciiId id) (h : sameId k id = true) :
    normalId k = normalId id := by
  have heq := sameId_iff.mp h
  have hk : ∀ c ∈ trim k.toList, isAscii c = true := by
    intro c hc
    obtain ⟨d, hd, hdc⟩ := List.mem_map.mp (heq ▸ List.mem_map_of_mem hc)
    exact isAscii_of_toLower (hdc ▸ isAscii_toLower (hid.trim d hd))
  rw [normalId_of_ascii hk, normalId_of_ascii hid.trim, heq]

/-- **A stored identifier agrees with an ASCII one only if it is its stored form.** -/
theorem eq_normalId {k id : String} (hk : Normal k) (hid : AsciiId id) (h : sameId k id = true) :
    k = normalId id :=
  eq_of_sameId hk (normal_normalId id) (sameId_trans h (sameId_symm (sameId_normalId hid)))

/-! ## 2. What a set holds -/

/-- The rules under an identifier exactly as written. -/
def at? (s : RuleSet) (key : String) : Option (List TypeRule) := s.entries.lookup key

/-- The identifiers come in ascending order, each of them once. -/
def Sorted (s : RuleSet) : Prop := s.entries.Pairwise (fun a b => a.1 < b.1)

theorem sorted_empty : Sorted empty := List.Pairwise.nil

@[simp] theorem at?_empty (key : String) : empty.at? key = none := rfl

theorem lookup_putEntry (key k : String) (rules : List TypeRule) :
    ∀ l : List (String × List TypeRule),
    (putEntry key rules l).lookup k = if k = key then some rules else l.lookup k
  | [] => by by_cases h : k = key <;> simp [putEntry, h]
  | (k', old) :: l => by
      unfold putEntry
      by_cases hlt : key < k'
      · rw [if_pos hlt, List.lookup_cons]
        by_cases h : k = key
        · simp [h]
        · have hk : (k == key) = false := beq_false_of_ne h
          simp [h, hk]
      · rw [if_neg hlt]
        by_cases heq : key = k'
        · subst heq
          by_cases h : k = key
          · simp [h]
          · have hk : (k == key) = false := beq_false_of_ne h
            simp [List.lookup_cons, h, hk]
        · rw [if_neg heq, List.lookup_cons, lookup_putEntry key k rules l, List.lookup_cons]
          by_cases h : k = k'
          · subst h
            simp [Ne.symm heq]
          · have hk : (k == k') = false := beq_false_of_ne h
            simp [hk]

/-- **Putting rules under an identifier changes what is under it and nothing else.** -/
theorem at?_put (s : RuleSet) (key k : String) (rules : List TypeRule) :
    (s.put key rules).at? k = if k = key then some rules else s.at? k :=
  lookup_putEntry key k rules s.entries

theorem mem_putEntry {key : String} {rules : List TypeRule} {e : String × List TypeRule} :
    ∀ {l : List (String × List TypeRule)}, e ∈ putEntry key rules l → e.1 = key ∨ e ∈ l
  | [], h => by
      rw [putEntry, List.mem_singleton] at h
      exact Or.inl (congrArg Prod.fst h)
  | (k, old) :: l, h => by
      unfold putEntry at h
      split at h
      · rcases List.mem_cons.mp h with rfl | h
        · exact Or.inl rfl
        · exact Or.inr h
      · split at h
        · rcases List.mem_cons.mp h with rfl | h
          · exact Or.inl rfl
          · exact Or.inr (List.mem_cons_of_mem _ h)
        · rcases List.mem_cons.mp h with rfl | h
          · exact Or.inr List.mem_cons_self
          · exact (mem_putEntry h).imp_right (List.mem_cons_of_mem _)

theorem pairwise_putEntry (key : String) (rules : List TypeRule) :
    ∀ {l : List (String × List TypeRule)}, l.Pairwise (fun a b => a.1 < b.1) →
    (putEntry key rules l).Pairwise (fun a b => a.1 < b.1)
  | [], _ => by simp [putEntry]
  | (k, old) :: l, h => by
      obtain ⟨hk, hl⟩ := List.pairwise_cons.mp h
      unfold putEntry
      by_cases hlt : key < k
      · rw [if_pos hlt, List.pairwise_cons]
        refine ⟨fun e he => ?_, h⟩
        rcases List.mem_cons.mp he with rfl | he
        · exact hlt
        · exact hlt.trans (hk e he)
      · rw [if_neg hlt]
        by_cases heq : key = k
        · subst heq
          rw [if_pos rfl, List.pairwise_cons]
          exact ⟨hk, hl⟩
        · rw [if_neg heq, List.pairwise_cons]
          refine ⟨fun e he => ?_, pairwise_putEntry key rules hl⟩
          rcases mem_putEntry he with he | he
          · rw [he]
            exact lt_of_le_of_ne (not_lt.mp hlt) (Ne.symm heq)
          · exact hk e he

theorem sorted_put {s : RuleSet} (h : s.Sorted) (key : String) (rules : List TypeRule) :
    (s.put key rules).Sorted := pairwise_putEntry key rules h

theorem sorted_insert {s : RuleSet} (h : s.Sorted) (id : String) (rules : List TypeRule) :
    (s.insert id rules).Sorted := sorted_put h (normalId id) rules

theorem mem_iff_lookup {key : String} {rules : List TypeRule} :
    ∀ {l : List (String × List TypeRule)}, l.Pairwise (fun a b => a.1 < b.1) →
    ((key, rules) ∈ l ↔ l.lookup key = some rules)
  | [], _ => by simp
  | (k, r) :: l, h => by
      obtain ⟨hk, hl⟩ := List.pairwise_cons.mp h
      rw [List.mem_cons, List.lookup_cons]
      by_cases heq : key = k
      · subst heq
        have hno : (key, rules) ∉ l := fun hm => lt_irrefl key (hk _ hm)
        simp only [hno, or_false, beq_self_eq_true, Prod.mk.injEq, true_and, Option.some.injEq]
        exact eq_comm
      · have hkb : (key == k) = false := beq_false_of_ne heq
        simp [hkb, heq, mem_iff_lookup hl]

/-- In an ordered set, the entries are what is under the identifiers. -/
theorem mem_entries_iff {s : RuleSet} (h : s.Sorted) {key : String} {rules : List TypeRule} :
    (key, rules) ∈ s.entries ↔ s.at? key = some rules := mem_iff_lookup h

/-! ## 3. Several identifiers at once -/

/-- The last rules in a list of entries under identifiers with the stored form. -/
def lastUnder (key : String) : List (String × List TypeRule) → Option (List TypeRule)
  | [] => none
  | e :: l => (lastUnder key l).or (if normalId e.1 = key then some e.2 else none)

theorem lastUnder_eq_none_iff {key : String} : ∀ {l : List (String × List TypeRule)},
    lastUnder key l = none ↔ ∀ e ∈ l, normalId e.1 ≠ key
  | [] => by simp [lastUnder]
  | e :: l => by
      rw [lastUnder, Option.or_eq_none_iff, lastUnder_eq_none_iff, List.forall_mem_cons]
      by_cases h : normalId e.1 = key <;> simp [h]

/-- The last of the entries under a stored form, and no other one under it behind. -/
theorem lastUnder_append {key : String} {e : String × List TypeRule}
    {l' : List (String × List TypeRule)} (he : normalId e.1 = key)
    (hl' : ∀ f ∈ l', normalId f.1 ≠ key) : ∀ l : List (String × List TypeRule),
    lastUnder key (l ++ e :: l') = some e.2
  | [] => by simp [lastUnder, lastUnder_eq_none_iff.mpr hl', he]
  | f :: l => by simp [lastUnder, lastUnder_append he hl' l]

theorem fold_insert : ∀ (l : List (String × List TypeRule)) (s : RuleSet),
    (s.Sorted → (l.foldl (fun s e => s.insert e.1 e.2) s).Sorted) ∧
    ∀ key, (l.foldl (fun s e => s.insert e.1 e.2) s).at? key = (lastUnder key l).or (s.at? key)
  | [], s => ⟨id, fun _ => rfl⟩
  | e :: l, s => by
      obtain ⟨hsorted, hat⟩ := fold_insert l (s.insert e.1 e.2)
      refine ⟨fun hs => hsorted (sorted_insert hs e.1 e.2), fun key => ?_⟩
      rw [List.foldl_cons, hat, insert, at?_put, lastUnder, Option.or_assoc]
      by_cases h : normalId e.1 = key
      · simp [h]
      · simp [h, Ne.symm h]

theorem sorted_insertAll {s : RuleSet} (h : s.Sorted) (d : RuleSet) : (s.insertAll d).Sorted :=
  (fold_insert d.entries s).1 h

/-- **Of the rules of a set that come under one stored form the last ones stay.** -/
theorem at?_insertAll (s d : RuleSet) (key : String) :
    (s.insertAll d).at? key = (lastUnder key d.entries).or (s.at? key) :=
  (fold_insert d.entries s).2 key

theorem sorted_ofEntries (l : List (String × List TypeRule)) : (ofEntries l).Sorted := by
  have hfold : ∀ (l : List (String × List TypeRule)) {s : RuleSet}, s.Sorted →
      (l.foldl (fun s e => s.put e.1 e.2) s).Sorted := by
    intro l
    induction l with
    | nil => exact fun hs => hs
    | cons e l ih => exact fun hs => ih (sorted_put hs e.1 e.2)
  exact hfold l sorted_empty

/-- A greater identifier goes to the end. -/
theorem putEntry_of_lt {key : String} (rules : List TypeRule) :
    ∀ {l : List (String × List TypeRule)}, (∀ e ∈ l, e.1 < key) →
    putEntry key rules l = l ++ [(key, rules)]
  | [], _ => rfl
  | (k, old) :: l, h => by
      have hk : k < key := h (k, old) List.mem_cons_self
      rw [putEntry, if_neg hk.not_gt, if_neg hk.ne', putEntry_of_lt rules fun e he =>
        h e (List.mem_cons_of_mem _ he)]
      rfl

/-- **The set of the entries of an ordered set is that set.** -/
theorem ofEntries_of_sorted {s : RuleSet} (h : s.Sorted) : ofEntries s.entries = s := by
  have hfold : ∀ (l l' : List (String × List TypeRule)),
      (l' ++ l).Pairwise (fun a b => a.1 < b.1) →
      l.foldl (fun s e => s.put e.1 e.2) ⟨l'⟩ = (⟨l' ++ l⟩ : RuleSet) := by
    intro l
    induction l with
    | nil => exact fun l' _ => by rw [List.append_nil]; rfl
    | cons e l ih =>
        intro l' hl
        have hlt : ∀ f ∈ l', f.1 < e.1 := fun f hf =>
          (List.pairwise_append.mp hl).2.2 f hf e List.mem_cons_self
        have hput : (⟨l'⟩ : RuleSet).put e.1 e.2 = ⟨l' ++ [e]⟩ :=
          congrArg RuleSet.mk (putEntry_of_lt e.2 hlt)
        rw [List.foldl_cons, hput, ih (l' ++ [e]) (by simpa using hl), List.append_assoc]
        rfl
  exact hfold s.entries [] h

/-! ## 4. Looking up -/

/-- The identifier is in the set, agrees with the one asked for, and is the first that does. -/
structure First (s : RuleSet) (id key : String) (rules : List TypeRule) : Prop where
  held : s.at? key = some rules
  same : sameId key id = true
  least : ∀ k r, s.at? k = some r → sameId k id = true → key ≤ k

/-- **Unless no identifier agrees, there is a first one that does, and its rules are found.** -/
theorem exists_first {s : RuleSet} (hs : s.Sorted) (id : String) :
    (s.get id = [] ∧ ∀ k r, s.at? k = some r → sameId k id = false) ∨
    ∃ key rules, First s id key rules ∧ s.get id = rules := by
  unfold get
  cases hf : s.entries.find? (fun e => sameId e.1 id) with
  | none =>
      refine Or.inl ⟨rfl, fun k r hk => ?_⟩
      have hall := List.find?_eq_none.mp hf (k, r) ((mem_entries_iff hs).mpr hk)
      simpa using hall
  | some e =>
      obtain ⟨hsame, l, l', hl, hbefore⟩ := List.find?_eq_some_iff_append.mp hf
      refine Or.inr ⟨e.1, e.2, ⟨?_, hsame, fun k r hk hkid => ?_⟩, rfl⟩
      · rw [← mem_entries_iff hs, hl]
        simp
      · have hmem := (mem_entries_iff hs).mpr hk
        have hord : (l ++ e :: l').Pairwise (fun a b => a.1 < b.1) := hl ▸ hs
        rw [hl, List.mem_append, List.mem_cons] at hmem
        rcases hmem with hmem | rfl | hmem
        · have hno := hbefore _ hmem
          simp [hkid] at hno
        · exact le_rfl
        · obtain ⟨-, htail, -⟩ := List.pairwise_append.mp hord
          exact ((List.pairwise_cons.mp htail).1 _ hmem).le

/-- **A lookup finds the first identifier in order that agrees with the one asked for.** -/
theorem get_eq {s : RuleSet} (hs : s.Sorted) {id key : String} {rules : List TypeRule}
    (h : First s id key rules) : s.get id = rules := by
  rcases exists_first hs id with ⟨-, hnone⟩ | ⟨k, r, hk, hget⟩
  · have hno := hnone key rules h.held
    rw [h.same] at hno
    cases hno
  · have heq : k = key := le_antisymm (hk.least key rules h.held h.same) (h.least k r hk.held hk.same)
    have hheld := hk.held
    rw [heq, h.held] at hheld
    rw [hget]
    exact (Option.some.inj hheld).symm

theorem get_eq_nil {s : RuleSet} (hs : s.Sorted) {id : String}
    (h : ∀ k r, s.at? k = some r → sameId k id = false) : s.get id = [] := by
  rcases exists_first hs id with ⟨hget, -⟩ | ⟨k, r, hk, -⟩
  · exact hget
  · have hno := h k r hk.held
    rw [hk.same] at hno
    cases hno

/-- Identifiers that agree find the same rules. -/
theorem get_congr {a b : String} (h : sameId a b = true) (s : RuleSet) : s.get a = s.get b := by
  have hsame : (fun e : String × List TypeRule => sameId e.1 a) = fun e => sameId e.1 b :=
    funext fun e => sameId_congr h e.1
  unfold get
  rw [hsame]

end TableDraft.RuleSet

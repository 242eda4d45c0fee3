import TableDraft.Json.Decode

/-!
# Reading written values

The readers of documents give back the values that a document was written from: texts, whole numbers
(`asUInt32_int`, `asInt64_int`), values that may be null (`asOption_ofJson`), **lists** (`asList_ofJson`)
and **objects with any keys** (`asEntries_ofJson`), if the items are given back. Who skips a written
value meets no fault (`skipFault?_ofJson`).
-/

namespace TableDraft.Json.Document

variable {α : Type}

/-! ## 1. Numbers and null -/

theorem asUInt32_int (n : UInt32) : asUInt32 (int n.toNat) = .ok n := by
  have hn := n.toNat_lt
  have hrange : (0 ≤ (n.toNat : Int) && (n.toNat : Int) < UInt32.size) = true := by
    rw [Bool.and_eq_true, decide_eq_true_iff, decide_eq_true_iff]
    exact ⟨Int.natCast_nonneg _, by exact_mod_cast hn⟩
  rw [asUInt32, if_pos hrange, Int.toNat_natCast, UInt32.ofNat_toNat]

theorem asInt64_int (n : Int64) : asInt64 (int n.toInt) = .ok n := by
  have hrange : (Int64.minValue.toInt ≤ n.toInt && n.toInt ≤ Int64.maxValue.toInt) = true := by
    rw [Bool.and_eq_true, decide_eq_true_iff, decide_eq_true_iff]
    exact ⟨n.minValue_le_toInt, n.toInt_le⟩
  rw [asInt64, if_pos hrange, Int64.ofInt_toInt]

/-- A value that is there is read as such, unless it is written as null. -/
theorem asOption_ofJson {read : Document → Except Fault α} {j : Json} {a : α} (hj : j ≠ .null)
    (h : read (ofJson j) = .ok a) : asOption read (ofJson j) = .ok (some a) := by
  have hmap : (read (ofJson j)).map some = .ok (some a) := by
    rw [h]
    rfl
  cases j with
  | null => exact absurd rfl hj
  | _ => exact hmap

/-! ## 2. Lists and objects -/

section Many

variable {read : Document → Except Fault α} {write : α → Json}

theorem mapM_items : ∀ {l : List α}, (∀ a ∈ l, read (ofJson (write a)) = .ok a) →
    (ofItems (l.map write)).mapM read = .ok l
  | [], _ => rfl
  | a :: l, h => by
      have ih := mapM_items fun b hb => h b (List.mem_cons_of_mem a hb)
      rw [List.map_cons, ofItems, List.mapM_cons, h a List.mem_cons_self, ih]
      rfl

/-- **A list is given back if its items are.** -/
theorem asList_ofJson {l : List α} (h : ∀ a ∈ l, read (ofJson (write a)) = .ok a) :
    asList read (ofJson (.array (l.map write))) = .ok l := by
  rw [ofJson, asList, mapM_items h]
  rfl

theorem mapM_entries : ∀ {l : List (String × α)}, (∀ e ∈ l, read (ofJson (write e.2)) = .ok e.2) →
    (ofMembers (l.map fun e => (e.1, write e.2))).mapM (fun m => do
      let key ← keyOf m
      let value ← read m.2
      return (key, value)) = .ok l
  | [], _ => rfl
  | (k, a) :: l, h => by
      have ih := mapM_entries fun e he => h e (List.mem_cons_of_mem (k, a) he)
      have ha : read (ofJson (write a)) = .ok a := h (k, a) List.mem_cons_self
      rw [List.map_cons, ofMembers, List.mapM_cons, ih]
      simp only [keyOf, ha]
      rfl

/-- **An object with any keys is given back, in its order, if its values are.** -/
theorem asEntries_ofJson {l : List (String × α)} (h : ∀ e ∈ l, read (ofJson (write e.2)) = .ok e.2) :
    asEntries read (ofJson (.object (l.map fun e => (e.1, write e.2)))) = .ok l := by
  rw [ofJson, asEntries, mapM_entries h]
  rfl

end Many

/-! ## 3. Skipping -/

mutual

/-- **Who skips a written value meets no fault.** -/
theorem skipFault?_ofJson : ∀ j : Json, skipFault? (ofJson j) = none
  | .null => rfl
  | .bool _ => rfl
  | .int _ => rfl
  | .string _ => rfl
  | .array items => by rw [ofJson, skipFault?, itemsSkipFault?_ofItems items]; rfl
  | .object members => by rw [ofJson, skipFault?, membersSkipFault?_ofMembers members]; rfl

theorem itemsSkipFault?_ofItems : ∀ items : List Json, itemsSkipFault? (ofItems items) = none
  | [] => rfl
  | j :: items => by
      rw [ofItems, itemsSkipFault?, skipFault?_ofJson j, itemsSkipFault?_ofItems items]
      rfl

theorem membersSkipFault?_ofMembers : ∀ members : List (String × Json),
    membersSkipFault? (ofMembers members) = none
  | [] => rfl
  | (k, j) :: members => by
      rw [ofMembers, membersSkipFault?, skipFault?_ofJson j, membersSkipFault?_ofMembers members]
      rfl

end

end TableDraft.Json.Document

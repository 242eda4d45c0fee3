import TableDraft.Proofs.Json.Embedding
import TableDraft.Proofs.Json.RecordReading

/-!
# Faults for who skips

Reading stops where a text cannot be read, and what is left of it there is a fault also for who skips
the value (`Faulty`).

* **A document without such a fault is read from a longer text as from its own**
  (`readValue_of_ofText`).
* `Strict read`: the reader of a type gives a value only for documents without such a fault. All readers
  of simple values are strict, and those of lists, objects and structures are if the readers of their
  parts are (`strict_asList`, `strict_asEntries`, `Record.strict_read`).
-/

namespace TableDraft.Json.Document

/-! ## 1. Where reading stops -/

theorem itemsSkipFault?_eq_none {items : List Document} :
    itemsSkipFault? items = none ↔ ∀ d ∈ items, d.skipFault? = none := by
  induction items with
  | nil => simp [itemsSkipFault?]
  | cons d items ih => rw [itemsSkipFault?, Option.or_eq_none_iff, ih, List.forall_mem_cons]

theorem membersSkipFault?_eq_none {members : List (Document × Document)} :
    membersSkipFault? members = none ↔ ∀ m ∈ members, m.2.skipFault? = none := by
  induction members with
  | nil => simp [membersSkipFault?]
  | cons m members ih => rw [membersSkipFault?, Option.or_eq_none_iff, ih, List.forall_mem_cons]

/-- **A list is skipped without a fault when its items are and it ends well.** -/
theorem skipFault?_array {items : List Document} {stop : Option Stop} :
    (array items stop).skipFault? = none ↔ (∀ d ∈ items, d.skipFault? = none) ∧ stop = none := by
  rw [skipFault?, Option.or_eq_none_iff, itemsSkipFault?_eq_none, Option.map_eq_none_iff]

/-- **An object is skipped without a fault when its values are and it ends well.** -/
theorem skipFault?_object {members : List (Document × Document)} {stop : Option Stop} :
    (object members stop).skipFault? = none ↔
      (∀ m ∈ members, m.2.skipFault? = none) ∧ stop = none := by
  rw [skipFault?, Option.or_eq_none_iff, membersSkipFault?_eq_none, Option.map_eq_none_iff]

theorem fault_of_bad (lead : Option Char) (used c : Cause) :
    (bad lead used (some c)).skipFault? ≠ none := nofun

theorem fault_of_badNumber {lead : Char} {used : Cause} {d : Document} {more : Option (List Char)}
    (h : badNumber lead used = (d, more)) : d.skipFault? ≠ none := by
  obtain ⟨rfl, -⟩ := Prod.mk.inj h
  exact fault_of_bad _ _ _

theorem fault_of_broken {lead : Option Char} {c : Cause} {d : Document} {more : Option (List Char)}
    (h : broken lead c = (d, more)) : d.skipFault? ≠ none := by
  obtain ⟨rfl, -⟩ := Prod.mk.inj h
  exact fault_of_bad _ _ _

theorem readWord_stopped {value d : Document} {lead : Char} : ∀ {word s : List Char},
    readWord value lead word s = (d, none) → d.skipFault? ≠ none
  | [], s, h => by cases h
  | w :: word, [], h => fault_of_broken h
  | w :: word, c :: s, h => by
      rw [readWord] at h
      split_ifs at h
      · exact readWord_stopped h
      · exact fault_of_broken h

theorem readStringValue_stopped {s : List Char} {d : Document}
    (h : readStringValue s = (d, none)) : d.skipFault? ≠ none := by
  unfold readStringValue at h
  split at h
  · cases h
  · exact fault_of_broken h
  · cases h
  · obtain ⟨rfl, -⟩ := Prod.mk.inj h
    exact fault_of_bad _ _ _

theorem readExponent_stopped {lead : Char} {r : Real} {s : List Char} {d : Document}
    (h : readExponent lead r s = (d, none)) : d.skipFault? ≠ none := by
  rw [readExponent_eq] at h
  dsimp only at h
  split_ifs at h
  all_goals first | exact fault_of_badNumber h | cases h

theorem readScale_stopped {lead : Char} {r : Real} {s : List Char} {d : Document}
    (h : readScale lead r s = (d, none)) : d.skipFault? ≠ none := by
  unfold readScale at h
  split at h
  · exact readExponent_stopped h
  · exact readExponent_stopped h
  · cases h

theorem readNumber_stopped {lead : Char} {negative : Bool} {s : List Char} {d : Document}
    (h : readNumber lead negative s = (d, none)) : d.skipFault? ≠ none := by
  unfold readNumber at h
  dsimp only at h
  split at h
  · exact fault_of_badNumber h
  · exact fault_of_badNumber h
  · split at h
    · unfold readFraction at h
      dsimp only at h
      split_ifs at h
      · exact fault_of_badNumber h
      · exact fault_of_badNumber h
      · exact readScale_stopped h
    · split_ifs at h
      · exact readScale_stopped h
      · cases h

/-- A list does not end well, or has an item with a fault for who skips it. -/
def ItemsFault (items : List Document) (stop : Option Stop) : Prop :=
  stop ≠ none ∨ ∃ d ∈ items, d.skipFault? ≠ none

/-- An object does not end well, or has a value with a fault for who skips it. -/
def MembersFault (members : List (Document × Document)) (stop : Option Stop) : Prop :=
  stop ≠ none ∨ ∃ m ∈ members, m.2.skipFault? ≠ none

theorem ItemsFault.array {items : List Document} {stop : Option Stop} (h : ItemsFault items stop) :
    (array items stop).skipFault? ≠ none := by
  intro hnone
  obtain ⟨hitems, hstop⟩ := skipFault?_array.mp hnone
  rcases h with h | ⟨d, hd, hfault⟩
  · exact h hstop
  · exact hfault (hitems d hd)

theorem MembersFault.object {members : List (Document × Document)} {stop : Option Stop}
    (h : MembersFault members stop) : (object members stop).skipFault? ≠ none := by
  intro hnone
  obtain ⟨hmembers, hstop⟩ := skipFault?_object.mp hnone
  rcases h with h | ⟨m, hm, hfault⟩
  · exact h hstop
  · exact hfault (hmembers m hm)

/-- A reading with the count that stops leaves a fault. -/
structure Faulty (n : Nat) : Prop where
  value : ∀ {s d}, readValue n s = (d, none) → d.skipFault? ≠ none
  items : ∀ {first s items stop}, readItems n first s = (items, stop, none) → ItemsFault items stop
  members : ∀ {first s members stop}, readMembers n first s = (members, stop, none) →
    MembersFault members stop

/-- A list that ends at a fault. -/
theorem itemsFault_of_end {x y : List Document} {stop : Option Stop} {cause : Stop}
    {more more' : Option (List Char)} (h : (x, some cause, more) = (y, stop, more')) :
    ItemsFault y stop := by
  simp only [Prod.mk.injEq] at h
  obtain ⟨-, rfl, -⟩ := h
  exact Or.inl nofun

theorem membersFault_of_end {x y : List (Document × Document)} {stop : Option Stop} {cause : Stop}
    {more more' : Option (List Char)} (h : (x, some cause, more) = (y, stop, more')) :
    MembersFault y stop := by
  simp only [Prod.mk.injEq] at h
  obtain ⟨-, rfl, -⟩ := h
  exact Or.inl nofun

/-- An object that ends at a value with a fault. -/
theorem membersFault_of_value {key d : Document} (hd : d.skipFault? ≠ none)
    {y : List (Document × Document)} {stop : Option Stop} {more more' : Option (List Char)}
    (h : ([(key, d)], none, more) = (y, stop, more')) : MembersFault y stop := by
  simp only [Prod.mk.injEq] at h
  obtain ⟨rfl, rfl, -⟩ := h
  exact Or.inr ⟨_, List.mem_singleton_self _, hd⟩

section Faulty

variable {n : Nat} (h : Faulty n)
include h

theorem Faulty.item {s : List Char} {items : List Document} {stop : Option Stop}
    (hread : readItem n s = (items, stop, none)) : ItemsFault items stop := by
  unfold readItem at hread
  split at hread
  · rename_i d hvalue
    simp only [Prod.mk.injEq] at hread
    obtain ⟨rfl, rfl, -⟩ := hread
    exact Or.inr ⟨d, List.mem_singleton_self d, h.value hvalue⟩
  · rename_i d mid hvalue
    rcases hitems : readItems n false mid with ⟨items', stop', rest⟩
    rw [hitems] at hread
    simp only [Prod.mk.injEq] at hread
    obtain ⟨rfl, rfl, rfl⟩ := hread
    rcases h.items hitems with hstop | ⟨e, he, hfault⟩
    · exact Or.inl hstop
    · exact Or.inr ⟨e, List.mem_cons_of_mem d he, hfault⟩

theorem Faulty.memberValue {s : List Char} {key : Document} {members : List (Document × Document)}
    {stop : Option Stop} (hread : readMemberValue n key s = (members, stop, none)) :
    MembersFault members stop := by
  unfold readMemberValue at hread
  split at hread
  · exact membersFault_of_value (fault_of_bad _ _ _) hread
  · split_ifs at hread
    · split at hread
      · rename_i d hvalue
        exact membersFault_of_value (h.value hvalue) hread
      · rename_i d mid hvalue
        rcases hmembers : readMembers n false mid with ⟨members', stop', rest⟩
        rw [hmembers] at hread
        simp only [Prod.mk.injEq] at hread
        obtain ⟨rfl, rfl, rfl⟩ := hread
        rcases h.members hmembers with hstop | ⟨e, he, hfault⟩
        · exact Or.inl hstop
        · exact Or.inr ⟨e, List.mem_cons_of_mem (key, d) he, hfault⟩
    · exact membersFault_of_value (fault_of_bad _ _ _) hread

theorem Faulty.member {s : List Char} {members : List (Document × Document)} {stop : Option Stop}
    (hread : readMember n s = (members, stop, none)) : MembersFault members stop := by
  unfold readMember at hread
  split at hread
  · split at hread
    · rename_i key hkey
      have hfault := readStringValue_stopped hkey
      split at hread
      · exact membersFault_of_value hfault hread
      · exact membersFault_of_value hfault hread
    · exact h.memberValue hread
  · exact membersFault_of_value (fault_of_bad _ _ _) hread

theorem Faulty.items_succ {first : Bool} {s : List Char} {items : List Document}
    {stop : Option Stop} (hread : readItems (n + 1) first s = (items, stop, none)) :
    ItemsFault items stop := by
  rw [readItems_succ] at hread
  split at hread
  · exact itemsFault_of_end hread
  · split_ifs at hread
    · cases hread
    · exact h.item hread
    · split at hread
      · exact itemsFault_of_end hread
      · split_ifs at hread
        · exact itemsFault_of_end hread
        · exact h.item hread
    · exact itemsFault_of_end hread

theorem Faulty.members_succ {first : Bool} {s : List Char} {members : List (Document × Document)}
    {stop : Option Stop} (hread : readMembers (n + 1) first s = (members, stop, none)) :
    MembersFault members stop := by
  rw [readMembers_succ] at hread
  split at hread
  · exact membersFault_of_end hread
  · split_ifs at hread
    · cases hread
    · exact h.member hread
    · split at hread
      · exact membersFault_of_end hread
      · split_ifs at hread
        · exact membersFault_of_end hread
        · exact h.member hread
    · exact membersFault_of_end hread

theorem Faulty.value_succ {s : List Char} {d : Document} (hread : readValue (n + 1) s = (d, none)) :
    d.skipFault? ≠ none := by
  rw [readValue] at hread
  split at hread
  · exact fault_of_broken hread
  · rename_i c r hspace
    split_ifs at hread
    · exact readWord_stopped hread
    · exact readWord_stopped hread
    · exact readWord_stopped hread
    · exact readStringValue_stopped hread
    · exact readNumber_stopped hread
    · exact readNumber_stopped hread
    · rcases hitems : readItems n true r with ⟨items, stop, rest⟩
      rw [hitems] at hread
      obtain ⟨rfl, rfl⟩ := Prod.mk.inj hread
      exact (h.items hitems).array
    · rcases hmembers : readMembers n true r with ⟨members, stop, rest⟩
      rw [hmembers] at hread
      obtain ⟨rfl, rfl⟩ := Prod.mk.inj hread
      exact (h.members hmembers).object
    · exact fault_of_broken hread

end Faulty

theorem faulty : ∀ n, Faulty n
  | 0 =>
    { value := fun h => fault_of_broken h
      items := fun h => itemsFault_of_end h
      members := fun h => membersFault_of_end h }
  | n + 1 =>
    have ih := faulty n
    { value := ih.value_succ, items := ih.items_succ, members := ih.members_succ }

/-! ## 2. A text and a longer one -/

/-- **A document without a fault for who skips it is read from a longer text as from its own**, with the
blanks behind it left over. -/
theorem readValue_of_ofText {text : List Char} {d : Document} (hread : ofText text = (d, false))
    (hfault : d.skipFault? = none) {t : List Char} (ht : EndsNumber t) {n : Nat}
    (hn : 2 * text.length + 2 ≤ n) :
    ∃ blanks, skipSpace blanks = [] ∧ readValue n (text ++ t) = (d, some (blanks ++ t)) := by
  rcases hvalue : readValue (2 * text.length + 2) text with ⟨e, _ | rest⟩
  · have hstopped := (faulty _).value hvalue
    rw [ofText, hvalue] at hread
    obtain rfl := (Prod.mk.inj hread).1
    exact absurd hfault hstopped
  · rw [ofText, hvalue] at hread
    obtain ⟨rfl, hmore⟩ := Prod.mk.inj hread
    refine ⟨rest, ?_, (extends_of_le ht hn).value hvalue⟩
    simpa using hmore

end TableDraft.Json.Document

namespace TableDraft.Json

/-! ## 3. Values of types -/

/-- The reader gives a value only for documents without a fault for who skips them. -/
def Strict {α : Type} (read : Document → Except Fault α) : Prop :=
  ∀ d v, read d = .ok v → d.skipFault? = none

namespace Document

variable {α : Type}

theorem strict_asString : Strict asString := by
  intro d v h
  unfold asString at h
  split at h
  · rfl
  · cases h

theorem strict_asUInt32 : Strict asUInt32 := by
  intro d v h
  unfold asUInt32 at h
  split at h
  · rfl
  · cases h

theorem strict_asInt64 : Strict asInt64 := by
  intro d v h
  unfold asInt64 at h
  split at h
  · rfl
  · cases h

theorem strict_asUnit : Strict asUnit := by
  intro d v h
  unfold asUnit at h
  split at h
  · rfl
  · cases h

/-- A reader whose value is changed afterwards. -/
theorem Strict.map {β : Type} {read : Document → Except Fault α} (h : Strict read) {f : α → β}
    {d : Document} {w : β} (hmap : (read d).map f = .ok w) : d.skipFault? = none := by
  cases hread : read d with
  | error e =>
      rw [hread] at hmap
      cases hmap
  | ok v => exact h d v hread

theorem strict_asOption {read : Document → Except Fault α} (h : Strict read) :
    Strict (asOption read) := by
  intro d v hread
  unfold asOption at hread
  split at hread
  · rfl
  · exact Strict.map h hread

theorem eq_none_of_checkStop {stop : Option Stop} {u : Unit} (h : checkStop stop = .ok u) :
    stop = none := by
  cases stop with
  | none => rfl
  | some s => cases h

/-- A list is read item by item. -/
theorem exists_of_mapM {β : Type} {read : β → Except Fault α} : ∀ {l : List β} {values : List α},
    l.mapM read = .ok values → ∀ a ∈ l, ∃ v, read a = .ok v
  | [], _, _, a, ha => absurd ha List.not_mem_nil
  | b :: l, values, h, a, ha => by
      rw [List.mapM_cons] at h
      obtain ⟨v, hb, h⟩ := exists_of_bind h
      obtain ⟨vs, hl, -⟩ := exists_of_bind h
      rcases List.mem_cons.mp ha with rfl | ha
      · exact ⟨v, hb⟩
      · exact exists_of_mapM hl a ha

theorem strict_asList {read : Document → Except Fault α} (h : Strict read) :
    Strict (asList read) := by
  intro d v hread
  unfold asList at hread
  split at hread
  · obtain ⟨values, hitems, hread⟩ := exists_of_bind hread
    obtain ⟨u, hstop, -⟩ := exists_of_bind hread
    refine skipFault?_array.mpr ⟨fun d hd => ?_, eq_none_of_checkStop hstop⟩
    obtain ⟨v, hv⟩ := exists_of_mapM hitems d hd
    exact h d v hv
  · cases hread

theorem strict_asEntries {read : Document → Except Fault α} (h : Strict read) :
    Strict (asEntries read) := by
  intro d v hread
  unfold asEntries at hread
  split at hread
  · obtain ⟨values, hmembers, hread⟩ := exists_of_bind hread
    obtain ⟨u, hstop, -⟩ := exists_of_bind hread
    refine skipFault?_object.mpr ⟨fun m hm => ?_, eq_none_of_checkStop hstop⟩
    obtain ⟨v, hm⟩ := exists_of_mapM hmembers m hm
    obtain ⟨key, -, hm⟩ := exists_of_bind hm
    obtain ⟨value, hvalue, -⟩ := exists_of_bind hm
    exact h m.2 value hvalue
  · cases hread

theorem strict_asWord (known : List (String × α)) : Strict (asWord known) := by
  intro d v hread
  unfold asWord at hread
  split at hread
  · rfl
  · cases hread
  · cases hread
  · split at hread
    · obtain ⟨a, -, hread⟩ := exists_of_bind hread
      obtain ⟨u, hunit, hread⟩ := exists_of_bind hread
      obtain ⟨u', honly, -⟩ := exists_of_bind hread
      unfold checkOnly at honly
      split at honly
      · refine skipFault?_object.mpr ⟨fun m hm => ?_, rfl⟩
        rw [List.mem_singleton.mp hm]
        exact strict_asUnit _ u hunit
      · cases honly
      · cases honly
    · cases hread
  · cases hread
  · cases hread
  · cases hread

end Document

/-! ## 4. Structures -/

variable {σ : Type}

/-- The member is put only from documents without a fault for who skips them. -/
def Member.Strict (m : Member σ) : Prop :=
  ∀ d value value', m.put d value = .ok value' → d.skipFault? = none

namespace Record

variable {r : Record σ} (hstrict : ∀ m ∈ r.members, m.Strict)
include hstrict

/-- Members that are not known are skipped, and the others are put. -/
theorem strict_putMembers : ∀ {l : List (Document × Document)} {value : σ} {seen : List String}
    {out : σ × List String}, r.putMembers value seen l = .ok out → ∀ m ∈ l, m.2.skipFault? = none
  | [], _, _, _, _, m, hm => absurd hm List.not_mem_nil
  | e :: l, value, seen, out, h, m, hm => by
      obtain ⟨key, -, h⟩ := exists_of_bind h
      split at h
      · rename_i member hfind
        split at h
        · exact absurd h throw_ne_ok
        · obtain ⟨value', hput, h⟩ := exists_of_bind h
          rcases List.mem_cons.mp hm with rfl | hm
          · exact hstrict member (List.mem_of_find?_eq_some hfind) m.2 value value' hput
          · exact strict_putMembers h m hm
      · split at h
        · exact absurd h throw_ne_ok
        · rename_i hskip
          rcases List.mem_cons.mp hm with rfl | hm
          · exact hskip
          · exact strict_putMembers h m hm

/-- Items are put, or left. -/
theorem strict_putItems {stop : Option Stop} : ∀ {ms : List (Member σ)} {items : List Document}
    {value : σ} {count : Nat} {out : σ × List Document}, ms ⊆ r.members →
    r.putItems stop value count ms items = .ok out → ∀ d ∈ items, d ∈ out.2 ∨ d.skipFault? = none
  | [], items, value, count, out, _, h, d, hd => by
      obtain rfl := Except.ok.inj h
      exact Or.inl hd
  | m :: ms, e :: items, value, count, out, hms, h, d, hd => by
      obtain ⟨hm, hms⟩ := List.cons_subset.mp hms
      obtain ⟨value', hput, h⟩ := exists_of_bind h
      rcases List.mem_cons.mp hd with rfl | hd
      · exact Or.inr (hstrict m hm d value value' hput)
      · exact strict_putItems hms h d hd
  | m :: ms, [], value, count, out, _, _, d, hd => absurd hd List.not_mem_nil

/-- **A structure is read only from documents without a fault for who skips them**, if its members
are. -/
theorem strict_read : Strict r.read := by
  intro d value h
  unfold read at h
  split at h
  · obtain ⟨out, hput, h⟩ := exists_of_bind h
    obtain ⟨u, hstop, -⟩ := exists_of_bind h
    exact Document.skipFault?_object.mpr
      ⟨strict_putMembers hstrict hput, Document.eq_none_of_checkStop hstop⟩
  · obtain ⟨out, hput, h⟩ := exists_of_bind h
    obtain ⟨u, hend, -⟩ := exists_of_bind h
    have hitems := strict_putItems hstrict (fun _ hm => hm) hput
    unfold checkEnd at hend
    split at hend
    · rename_i hleft _
      refine Document.skipFault?_array.mpr ⟨fun d hd => ?_, rfl⟩
      refine (hitems d hd).resolve_left fun hmem => ?_
      rw [hleft] at hmem
      exact List.not_mem_nil hmem
    · cases hend
    · cases hend
    · cases hend
  · cases h

end Record

end TableDraft.Json

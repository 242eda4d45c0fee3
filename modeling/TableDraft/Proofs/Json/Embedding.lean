import TableDraft.Proofs.Json.PrintedText

/-!
# Values inside longer texts

A reader that comes to the end of a value has not looked at what follows. So **a value is read from a
longer text as it is from its own** (`extends_of_le`), unless it is a number with which the longer text
goes on. First come the parts of a value: blanks, words, strings and numbers; then values, items and
members together, by induction on the count that bounds the reading (`Extends`).
-/

namespace TableDraft.Json.Document

/-! ## 1. Parts of values -/

section Parts

variable {t : List Char}

/-- What stands behind a value goes on behind the text that was left. -/
theorem extend_rest {x d : Document} {r rest : List Char}
    (h : (x, some r) = (d, some rest)) : (x, some (r ++ t)) = (d, some (rest ++ t)) := by
  obtain ⟨rfl, hrest⟩ := Prod.mk.inj h
  rw [Option.some.inj hrest]

theorem skipSpace_extend {s : List Char} {c : Char} {r : List Char} (h : skipSpace s = c :: r)
    (t : List Char) : skipSpace (s ++ t) = c :: (r ++ t) := by
  unfold skipSpace at h ⊢
  rw [List.dropWhile_append, h]
  rfl

theorem readWord_extend {value d : Document} {lead : Char} {rest : List Char} :
    ∀ {word s : List Char}, readWord value lead word s = (d, some rest) →
    readWord value lead word (s ++ t) = (d, some (rest ++ t))
  | [], s, h => extend_rest h
  | w :: word, [], h => by cases h
  | w :: word, c :: s, h => by
      rw [readWord] at h
      rw [List.cons_append, readWord]
      split_ifs at h ⊢
      · exact readWord_extend h
      · cases h

theorem readString_extend {rest : List Char} {x : Collected} : ∀ {s : List Char} {text : Collected}
    {state : StringState}, readString text state s = (x, .ok rest) →
    readString text state (s ++ t) = (x, .ok (rest ++ t))
  | [], text, state, h => by cases h
  | c :: s, text, .plain half, h => by
      rw [readString] at h
      rw [List.cons_append, readString]
      dsimp only at h ⊢
      split_ifs at h ⊢
      · exact readString_extend h
      · obtain ⟨rfl, hrest⟩ := Prod.mk.inj h
        rw [Except.ok.inj hrest]
      · cases h
      · exact readString_extend h
  | c :: s, text, .escape half, h => by
      rw [readString] at h
      rw [List.cons_append, readString]
      dsimp only at h ⊢
      split_ifs at h ⊢
      · exact readString_extend h
      · split at h
        · exact readString_extend h
        · cases h
  | c :: s, text, .code half count value, h => by
      rw [readString] at h
      rw [List.cons_append, readString]
      split at h
      · dsimp only at h ⊢
        split_ifs at h ⊢
        · exact readString_extend h
        · exact readString_extend h
      · cases h

theorem readStringValue_extend {s rest : List Char} {d : Document}
    (h : readStringValue s = (d, some rest)) :
    readStringValue (s ++ t) = (d, some (rest ++ t)) := by
  unfold readStringValue at h ⊢
  split at h
  · rename_i text rest' hread
    rw [readString_extend hread]
    exact extend_rest h
  · cases h
  · rename_i used rest' hread
    rw [readString_extend hread]
    exact extend_rest h
  · cases h

/-- The sign of an exponent, if there is one, and the text behind it. -/
def exponentSign : List Char → Bool × List Char
  | '+' :: s => (false, s)
  | '-' :: s => (true, s)
  | s => (false, s)

theorem exponentSign_extend {s : List Char} (h : s ≠ []) (t : List Char) :
    exponentSign (s ++ t) = ((exponentSign s).1, (exponentSign s).2 ++ t) := by
  cases s with
  | nil => exact absurd rfl h
  | cons c s =>
      rw [List.cons_append]
      unfold exponentSign
      split
      · rename_i heq
        obtain ⟨rfl, rfl⟩ := List.cons.inj heq
        rfl
      · rename_i heq
        obtain ⟨rfl, rfl⟩ := List.cons.inj heq
        rfl
      · rename_i hplus hminus
        split
        · rename_i heq
          obtain ⟨rfl, rfl⟩ := List.cons.inj heq
          exact absurd rfl (hplus _)
        · rename_i heq
          obtain ⟨rfl, rfl⟩ := List.cons.inj heq
          exact absurd rfl (hminus _)
        · rfl

theorem readExponent_eq (lead : Char) (r : Real) (s : List Char) : readExponent lead r s =
    let digits := (exponentSign s).2.takeWhile Char.isDigit
    let rest := (exponentSign s).2.drop digits.length
    if digits.isEmpty then
      badNumber lead (if (exponentSign s).2.isEmpty then .endInValue else .invalidNumber)
    else
      let e := digits.foldl (fun n c => 10 * n + (c.toNat - 48)) 0
      if e ≤ maxExponent then
        (realValue lead { r with exponent :=
          if (exponentSign s).1 then r.exponent - e else r.exponent + e }, some rest)
      else if r.significand ≠ 0 && !(exponentSign s).1 then
        (bad (some lead) .numberOutOfRange none, some rest)
      else (real { r with significand := 0 }, some rest) := rfl

section Numbers

variable (ht : EndsNumber t)
include ht

/-- The digits at the start of a text are not prolonged. -/
theorem takeWhile_digits (s : List Char) :
    (s ++ t).takeWhile Char.isDigit = s.takeWhile Char.isDigit := by
  induction s with
  | nil =>
      cases t with
      | nil => rfl
      | cons c t => exact List.takeWhile_cons_of_neg (by simp [(ht c rfl).1])
  | cons c s ih => rw [List.cons_append, List.takeWhile_cons, List.takeWhile_cons, ih]

omit ht in
theorem drop_digits (s : List Char) : (s ++ t).drop (s.takeWhile Char.isDigit).length =
    s.drop (s.takeWhile Char.isDigit).length ++ t :=
  List.drop_append_of_le_length (List.takeWhile_sublist _).length_le

theorem readExponent_extend {lead : Char} {r : Real} {s rest : List Char} {d : Document}
    (h : readExponent lead r s = (d, some rest)) :
    readExponent lead r (s ++ t) = (d, some (rest ++ t)) := by
  have hne : s ≠ [] := by
    rintro rfl
    cases h
  rw [readExponent_eq] at h ⊢
  rw [exponentSign_extend hne]
  simp only [takeWhile_digits ht, drop_digits] at h ⊢
  by_cases hdigits : ((exponentSign s).2.takeWhile Char.isDigit).isEmpty = true
  · rw [if_pos hdigits] at h
    cases h
  · rw [if_neg hdigits] at h ⊢
    split_ifs at h ⊢
    all_goals exact extend_rest h

theorem readScale_extend {lead : Char} {r : Real} {s rest : List Char} {d : Document}
    (h : readScale lead r s = (d, some rest)) :
    readScale lead r (s ++ t) = (d, some (rest ++ t)) := by
  unfold readScale at h
  split at h
  · exact readExponent_extend ht h
  · exact readExponent_extend ht h
  · rename_i hlower hupper
    have hstay : readScale lead r (s ++ t) = (realValue lead r, some (s ++ t)) := by
      unfold readScale
      split
      · rename_i heq
        cases s with
        | nil => exact absurd rfl (ht 'e' (by rw [← List.nil_append t, heq]; rfl)).2.2.1
        | cons c s => exact (hlower s (congrArg (· :: s) (List.cons.inj heq).1)).elim
      · rename_i heq
        cases s with
        | nil => exact absurd rfl (ht 'E' (by rw [← List.nil_append t, heq]; rfl)).2.2.2
        | cons c s => exact (hupper s (congrArg (· :: s) (List.cons.inj heq).1)).elim
      · rfl
    rw [hstay]
    exact extend_rest h

theorem readFraction_extend {lead : Char} {r : Real} {s rest : List Char} {d : Document}
    (h : readFraction lead r s = (d, some rest)) :
    readFraction lead r (s ++ t) = (d, some (rest ++ t)) := by
  unfold readFraction at h ⊢
  simp only [takeWhile_digits ht, drop_digits] at h ⊢
  by_cases hdigits : (s.takeWhile Char.isDigit).isEmpty = true
  · rw [if_pos hdigits] at h
    cases h
  · rw [if_neg hdigits] at h ⊢
    exact readScale_extend ht h

/-- The character that decides how a number goes on is the same one, if there is one. -/
theorem head?_extend {s : List Char} {k : Char} (hk : k = 'e' ∨ k = 'E') :
    ((s ++ t).head? == some k) = (s.head? == some k) := by
  cases s with
  | cons c s => rfl
  | nil =>
      rw [List.nil_append, List.head?_nil]
      refine beq_false_of_ne fun hhead => ?_
      obtain ⟨-, -, hlower, hupper⟩ := ht k hhead
      exact hk.elim hlower hupper

theorem readNumber_extend {lead : Char} {negative : Bool} {s rest : List Char} {d : Document}
    (h : readNumber lead negative s = (d, some rest)) :
    readNumber lead negative (s ++ t) = (d, some (rest ++ t)) := by
  unfold readNumber at h ⊢
  simp only [takeWhile_digits ht, drop_digits] at h ⊢
  generalize s.takeWhile Char.isDigit = digits at h ⊢
  generalize s.drop digits.length = behind at h ⊢
  split at h
  · cases h
  · cases h
  · split
    · rename_i heq
      cases behind with
      | nil => exact absurd rfl (ht '.' (by rw [← List.nil_append t, heq]; rfl)).2.1
      | cons c r =>
          obtain ⟨rfl, rfl⟩ := List.cons.inj heq
          exact readFraction_extend ht h
    · rename_i hpoint
      split at h
      · exact (hpoint _ rfl).elim
      · rw [head?_extend ht (Or.inl rfl), head?_extend ht (Or.inr rfl)]
        split_ifs at h ⊢
        · exact readScale_extend ht h
        · exact extend_rest h

end Numbers

end Parts

/-! ## 2. Values -/

/-- An item and the items behind it. -/
def readItem (n : Nat) (s : List Char) : List Document × Option Stop × Option (List Char) :=
  match readValue n s with
  | (d, none) => ([d], none, none)
  | (d, some rest) =>
    let (items, stop, rest) := readItems n false rest
    (d :: items, stop, rest)

theorem readItems_succ (n : Nat) (first : Bool) (s : List Char) : readItems (n + 1) first s =
    match skipSpace s with
    | [] => ([], some (.both .endInList), none)
    | c :: r =>
      if c == ']' then ([], none, some r)
      else if first then readItem n (c :: r)
      else if c == ',' then
        match skipSpace r with
        | [] => ([], some (.both .endInValue), none)
        | d :: r =>
          if d == ']' then ([], some ⟨.trailingComma, .expectedValue⟩, none) else readItem n (d :: r)
      else ([], some (.both .expectedListCommaOrEnd), none) := by
  rw [readItems]
  rfl

/-- The value of a member, behind its key, and the members behind it. -/
def readMemberValue (n : Nat) (key : Document) (s : List Char) :
    List (Document × Document) × Option Stop × Option (List Char) :=
  match skipSpace s with
  | [] => ([(key, bad none .endInObject (some .endInObject))], none, none)
  | c :: r =>
    if c == ':' then
      match readValue n r with
      | (d, none) => ([(key, d)], none, none)
      | (d, some rest) =>
        let (members, stop, rest) := readMembers n false rest
        ((key, d) :: members, stop, rest)
    else ([(key, bad (some c) .expectedColon (some .expectedColon))], none, none)

/-- A member and the members behind it. -/
def readMember (n : Nat) (s : List Char) :
    List (Document × Document) × Option Stop × Option (List Char) :=
  match s with
  | '"' :: r =>
    match readStringValue r with
    | (key, none) =>
      match key with
      | bad lead used skipped => ([(key, bad lead used skipped)], none, none)
      | key => ([(key, key)], none, none)
    | (key, some rest) => readMemberValue n key rest
  | s => ([((readValue n s).1, bad none .keyMustBeString (some .keyMustBeString))], none, none)

theorem readMembers_succ (n : Nat) (first : Bool) (s : List Char) : readMembers (n + 1) first s =
    match skipSpace s with
    | [] => ([], some (.both .endInObject), none)
    | c :: r =>
      if c == '\x7d' then ([], none, some r)
      else if first then readMember n (c :: r)
      else if c == ',' then
        match skipSpace r with
        | [] => ([], some ⟨.endInValue, .endInObject⟩, none)
        | d :: r =>
          if d == '\x7d' then ([], some ⟨.trailingComma, .keyMustBeString⟩, none)
          else readMember n (d :: r)
      else ([], some (.both .expectedObjectCommaOrEnd), none) := by
  rw [readMembers]
  rfl

/-- What is read with the smaller count is read with the greater one, with the text behind it. -/
structure Extends (n m : Nat) (t : List Char) : Prop where
  value : ∀ {s rest d}, readValue n s = (d, some rest) →
    readValue m (s ++ t) = (d, some (rest ++ t))
  items : ∀ {first s rest items stop}, readItems n first s = (items, stop, some rest) →
    readItems m first (s ++ t) = (items, stop, some (rest ++ t))
  members : ∀ {first s rest members stop}, readMembers n first s = (members, stop, some rest) →
    readMembers m first (s ++ t) = (members, stop, some (rest ++ t))

/-- What stands behind a list goes on behind the text that was left. -/
theorem extend_end {α : Type} {x y : List α} {stop stop' : Option Stop} {r rest t : List Char}
    (h : (x, stop', some r) = (y, stop, some rest)) :
    (x, stop', some (r ++ t)) = (y, stop, some (rest ++ t)) := by
  simp only [Prod.mk.injEq, Option.some.injEq] at h
  obtain ⟨rfl, rfl, rfl⟩ := h
  rfl

section Extends

variable {n m : Nat} {t : List Char} (h : Extends n m t)
include h

theorem Extends.item {s rest : List Char} {items : List Document} {stop : Option Stop}
    (hread : readItem n s = (items, stop, some rest)) :
    readItem m (s ++ t) = (items, stop, some (rest ++ t)) := by
  unfold readItem at hread ⊢
  split at hread
  · cases hread
  · rename_i d mid hvalue
    rcases hitems : readItems n false mid with ⟨items', stop', rest'⟩
    rw [hitems] at hread
    simp only [Prod.mk.injEq] at hread
    obtain ⟨rfl, rfl, rfl⟩ := hread
    simp only [h.value hvalue, h.items hitems]

theorem Extends.memberValue {s rest : List Char} {key : Document}
    {members : List (Document × Document)} {stop : Option Stop}
    (hread : readMemberValue n key s = (members, stop, some rest)) :
    readMemberValue m key (s ++ t) = (members, stop, some (rest ++ t)) := by
  unfold readMemberValue at hread ⊢
  split at hread
  · cases hread
  · rename_i c r hspace
    rw [skipSpace_extend hspace t]
    dsimp only
    split_ifs at hread ⊢
    · split at hread
      · cases hread
      · rename_i d mid hvalue
        rcases hmembers : readMembers n false mid with ⟨members', stop', rest'⟩
        rw [hmembers] at hread
        simp only [Prod.mk.injEq] at hread
        obtain ⟨rfl, rfl, rfl⟩ := hread
        simp only [h.value hvalue, h.members hmembers]
    · cases hread

theorem Extends.member {s rest : List Char} {members : List (Document × Document)}
    {stop : Option Stop} (hread : readMember n s = (members, stop, some rest)) :
    readMember m (s ++ t) = (members, stop, some (rest ++ t)) := by
  unfold readMember at hread
  split at hread
  · split at hread
    · split at hread <;> cases hread
    · rename_i hkey
      rw [List.cons_append, readMember, readStringValue_extend hkey]
      exact h.memberValue hread
  · cases hread

/-- The items of a list, one level down. -/
theorem Extends.items_succ {first : Bool} {s rest : List Char} {items : List Document}
    {stop : Option Stop} (hread : readItems (n + 1) first s = (items, stop, some rest)) :
    readItems (m + 1) first (s ++ t) = (items, stop, some (rest ++ t)) := by
  rw [readItems_succ] at hread ⊢
  split at hread
  · cases hread
  · rename_i c r hspace
    rw [skipSpace_extend hspace t]
    dsimp only
    split_ifs at hread ⊢
    · exact extend_end hread
    · exact h.item hread
    · split at hread
      · cases hread
      · rename_i d r hspace
        rw [skipSpace_extend hspace t]
        dsimp only
        split_ifs at hread ⊢
        · cases hread
        · exact h.item hread
    · cases hread

/-- The members of an object, one level down. -/
theorem Extends.members_succ {first : Bool} {s rest : List Char}
    {members : List (Document × Document)} {stop : Option Stop}
    (hread : readMembers (n + 1) first s = (members, stop, some rest)) :
    readMembers (m + 1) first (s ++ t) = (members, stop, some (rest ++ t)) := by
  rw [readMembers_succ] at hread ⊢
  split at hread
  · cases hread
  · rename_i c r hspace
    rw [skipSpace_extend hspace t]
    dsimp only
    split_ifs at hread ⊢
    · exact extend_end hread
    · exact h.member hread
    · split at hread
      · cases hread
      · rename_i d r hspace
        rw [skipSpace_extend hspace t]
        dsimp only
        split_ifs at hread ⊢
        · cases hread
        · exact h.member hread
    · cases hread

/-- A value whose parts are read one level down. -/
theorem Extends.value_succ (ht : EndsNumber t) {s rest : List Char} {d : Document}
    (hread : readValue (n + 1) s = (d, some rest)) :
    readValue (m + 1) (s ++ t) = (d, some (rest ++ t)) := by
  rw [readValue] at hread ⊢
  split at hread
  · cases hread
  · rename_i c r hspace
    rw [skipSpace_extend hspace t]
    dsimp only
    split_ifs at hread ⊢
    · exact readWord_extend hread
    · exact readWord_extend hread
    · exact readWord_extend hread
    · exact readStringValue_extend hread
    · exact readNumber_extend ht hread
    · exact readNumber_extend ht hread
    · rcases hitems : readItems n true r with ⟨items, stop, rest'⟩
      rw [hitems] at hread
      obtain ⟨rfl, rfl⟩ := Prod.mk.inj hread
      simp only [h.items hitems]
    · rcases hmembers : readMembers n true r with ⟨members, stop, rest'⟩
      rw [hmembers] at hread
      obtain ⟨rfl, rfl⟩ := Prod.mk.inj hread
      simp only [h.members hmembers]
    · cases hread

end Extends

theorem extends_of_le {t : List Char} (ht : EndsNumber t) : ∀ {n m : Nat}, n ≤ m → Extends n m t
  | 0, _, _ =>
    { value := fun h => by cases h
      items := fun h => by cases h
      members := fun h => by cases h }
  | n + 1, m + 1, hle =>
    have ih := extends_of_le ht (Nat.le_of_succ_le_succ hle)
    { value := ih.value_succ ht, items := ih.items_succ, members := ih.members_succ }

end TableDraft.Json.Document

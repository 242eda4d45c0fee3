import TableDraft.Proofs.Select.FromPlace
import TableDraft.Proofs.Text.ByteOffsets

/-!
# The offset of FROM

FROM is looked for by offset, byte after byte, with a jump over each remark, and with cuts of the text
before and behind a word that may be it. A cut fails at an offset where no character starts, and with
it the search; so does a step to a depth that a counter of 32 bits does not hold. The cuts never fail, the
counter takes too many parentheses to fail, and the search finds what the running scan finds.

* `Move`, `move`, `findFrom`: the search;
* `findFrom_goTo`, `findFrom_wide`: its steps, of which those within a character do nothing;
* `move_char`, `findFrom_line`, `findFrom_block`: **a part of the text is passed as the scan passes it**;
* **`finds_beforeFrom`: the search from any place of a text is the running scan, unless its counter
  overflows**;
* `findFrom_least`: it finds the least offset of a FROM in code at depth zero with blanks around it.
-/

namespace TableDraft.Select

open Text Unicode Remark

/-! ## 1. The search -/

/-- What the search does at an offset. -/
inductive Move where
  /-- FROM is here. -/
  | found
  /-- It goes on at an offset, at a depth. -/
  | goTo (i : Nat) (depth : Int)

/-- The offset of the line break after an offset, or the end. -/
def lineEnd (s : List Char) (i : Nat) : Option Nat :=
  (fromByte s i).map fun rest =>
    match findBytes ['\n'] rest with
    | some n => i + n
    | none => size s

/-- The offset behind the closing mark of the block that opens at an offset, or the end. -/
def blockEnd (s : List Char) (i : Nat) : Option Nat :=
  (fromByte s (i + 2)).map fun rest =>
    match findBytes ['*', '/'] rest with
    | some n => i + 2 + n + 2
    | none => size s

/-- FROM is at the offset, after a blank, and with a blank or the end behind it. -/
def standsAlone (s : List Char) (i : Nat) : Option Bool :=
  if (((bytes s).drop i).take 4).map lowerByte = "from".toList.map byte then
    match toByte s i with
    | none => none
    | some before =>
      if before.getLast?.any isBlank then (fromByte s (i + 4)).map fun rest => rest.head?.all isBlank
      else some false
  else some false

/-- Goes on at an offset, at a depth that the counter has to hold. -/
def Move.counted? (i : Nat) (depth : Int) : Option Move :=
  if Countable depth then some (.goTo i depth) else none

/-- What the search does at an offset, on a byte; none when it cuts the text where it cannot, or when its
counter overflows. -/
def move (s : List Char) (i : Nat) (depth : Int) (b : UInt8) : Option Move :=
  if b = byte '-' ∧ (bytes s)[i + 1]? = some (byte '-') then (lineEnd s i).map (.goTo · depth)
  else if b = byte '/' ∧ (bytes s)[i + 1]? = some (byte '*') then (blockEnd s i).map (.goTo · depth)
  else if b = byte '(' then Move.counted? (i + 1) (depth + 1)
  else if b = byte ')' then Move.counted? (i + 1) (depth - 1)
  else if (b = byte 'f' ∨ b = byte 'F') ∧ depth = 0 then
    (standsAlone s i).map fun alone => if alone then .found else .goTo (i + 1) depth
  else some (.goTo (i + 1) depth)

/-- Looks for FROM from an offset on, at a depth; none when the search fails at an offset, or does not go
on. -/
def findFrom (s : List Char) (i : Nat) (depth : Int) : Option (Option Nat) :=
  if h : i < (bytes s).length then
    match move s i depth (bytes s)[i] with
    | none => none
    | some .found => some (some i)
    | some (.goTo j d) => if i < j then findFrom s j d else none
  else some none
termination_by (bytes s).length - i

section Steps

variable {s : List Char} {i j : Nat} {d d' : Int} {b : UInt8}

theorem findFrom_end (h : size s ≤ i) : findFrom s i d = some none := by
  rw [findFrom]
  exact dif_neg (Nat.not_lt.mpr h)

theorem findFrom_of_move (hb : (bytes s)[i]? = some b) : findFrom s i d =
    match move s i d b with
    | none => none
    | some .found => some (some i)
    | some (.goTo j d) => if i < j then findFrom s j d else none := by
  obtain ⟨hi, rfl⟩ := List.getElem?_eq_some_iff.mp hb
  rw [findFrom]
  exact dif_pos hi

theorem findFrom_found (hb : (bytes s)[i]? = some b) (hm : move s i d b = some .found) :
    findFrom s i d = some (some i) := by
  rw [findFrom_of_move hb, hm]

theorem findFrom_goTo (hb : (bytes s)[i]? = some b) (hm : move s i d b = some (.goTo j d'))
    (hij : i < j) : findFrom s i d = findFrom s j d' := by
  rw [findFrom_of_move hb, hm]
  exact if_pos hij

/-- A byte of a character that is not ASCII is passed. -/
theorem move_wide (h : 128 ≤ b.toNat) : move s i d b = some (.goTo (i + 1) d) := by
  have hne : ∀ k, isAscii k = true → b ≠ byte k := by
    rintro k hk rfl
    have := toNat_byte_lt hk
    omega
  simp [move, hne '-' rfl, hne '/' rfl, hne '(' rfl, hne ')' rfl, hne 'f' rfl, hne 'F' rfl]

end Steps

/-- The search goes through a character that is not ASCII. -/
theorem findFrom_wide {c : Char} (hc : isAscii c = false) (p r : List Char) (d : Int) :
    findFrom (p ++ c :: r) (size p) d = findFrom (p ++ c :: r) (size p + c.utf8Size) d := by
  have hbyte : ∀ j, j < c.utf8Size →
      ∃ b, (bytes (p ++ c :: r))[size p + j]? = some b ∧ 128 ≤ b.toNat := by
    intro j hj
    rw [← String.length_utf8EncodeChar] at hj
    refine ⟨(String.utf8EncodeChar c)[j], ?_, le_of_mem_encode hc (List.getElem_mem hj)⟩
    rw [getElem?_bytes_append, bytes_cons, List.getElem?_append_left hj, List.getElem?_eq_getElem hj]
  have key : ∀ j, j ≤ c.utf8Size →
      findFrom (p ++ c :: r) (size p) d = findFrom (p ++ c :: r) (size p + j) d := by
    intro j
    induction j with
    | zero => exact fun _ => rfl
    | succ j ih =>
        intro hj
        obtain ⟨b, hb, hle⟩ := hbyte j hj
        rw [ih (Nat.le_of_lt hj), findFrom_goTo hb (move_wide hle) (Nat.lt_succ_self _)]
        rfl
  exact key _ (Nat.le_refl _)

/-! ## 2. A character of code -/

theorem from_isAscii : ∀ a ∈ "from".toList, isAscii a = true :=
  List.all_eq_true.mp (show "from".toList.all isAscii = true from rfl)

theorem startsFrom_iff_lower {s : List Char} : startsFrom s = true ↔
    ∃ w t, s = w ++ t ∧ w.map Char.toLower = "from".toList ∧ t.head?.all isBlank = true := by
  rw [startsFrom_iff]
  refine exists_congr fun w => exists_congr fun t => and_congr_right fun _ => and_congr ?_ ?_
  · rw [map_letter_eq_from, sameIgnoringAsciiCase, beq_iff_eq]
    rfl
  · cases t.head? <;> simp

/-- The cuts at a word succeed, and tell whether it is FROM with blanks around it. -/
theorem standsAlone_eq (p r : List Char) :
    standsAlone (p ++ r) (size p) = some (endsIn isBlank false p && startsFrom r) := by
  have hdrop : (bytes (p ++ r)).drop (size p) = bytes r := by
    rw [bytes_append]
    exact List.drop_left' rfl
  unfold standsAlone
  rw [hdrop, toByte_append]
  dsimp only
  split
  · rename_i hword
    obtain ⟨w, t, rfl, hw⟩ := (take_lowerByte from_isAscii).mp hword
    have hsize : size (p ++ w) = size p + 4 := by rw [size_append, size_of_lower from_isAscii hw]; rfl
    have hstart : startsFrom (w ++ t) = t.head?.all isBlank := by
      rw [Bool.eq_iff_iff, startsFrom_iff_lower]
      constructor
      · rintro ⟨w', t', heq, hw', ht'⟩
        have hlen : w.length = w'.length := by
          rw [← List.length_map Char.toLower, hw, ← hw', List.length_map]
        obtain ⟨-, rfl⟩ := List.append_inj heq hlen
        exact ht'
      · exact fun ht => ⟨w, t, rfl, hw, ht⟩
    rw [← List.append_assoc, ← hsize, fromByte_append, endsIn_eq_any, hstart]
    cases p.getLast?.any isBlank <;> rfl
  · rename_i hword
    have hstart : startsFrom r = false := by
      rw [← Bool.not_eq_true, startsFrom_iff_lower]
      rintro ⟨w, t, hr, hw, -⟩
      exact hword ((take_lowerByte from_isAscii).mpr ⟨w, t, hr, hw⟩)
    rw [hstart, Bool.and_false]

theorem letter_of_startsFrom {c : Char} {r : List Char} (h : startsFrom (c :: r) = true) :
    c = 'f' ∨ c = 'F' := by
  obtain ⟨w, t, hs, hw, -⟩ := startsFrom_iff_lower.mp h
  cases w with
  | nil => cases hw
  | cons d w =>
      obtain ⟨rfl, -⟩ := List.cons.inj hs
      have hc : c.toLower = 'f' := (List.cons.inj hw).1
      cases hascii : isAscii c with
      | true =>
          exact forall_ascii (p := fun c => c.toLower = 'f' → c = 'f' ∨ c = 'F') (by decide +kernel)
            hascii hc
      | false =>
          rw [toLower_of_not_ascii hascii] at hc
          exact Or.inl hc

/-- No mark of a remark starts at the character. -/
def NoMark (c : Char) (r : List Char) : Prop :=
  ¬ (c = '-' ∧ r.head? = some '-') ∧ ¬ (c = '/' ∧ r.head? = some '*')

/-- The scan stops on the character. -/
def stopsAt (d : Int) (before : List Char) (c : Char) (r : List Char) : Bool :=
  d == 0 && endsIn isBlank false before && startsFrom (c :: r)

section Character

variable {c : Char} {r : List Char} (p : List Char) {d : Int}

theorem stopsAt_of_ne (hc : ¬ (c = 'f' ∨ c = 'F')) : stopsAt d p c r = false := by
  have hstart : startsFrom (c :: r) = false := by
    rw [← Bool.not_eq_true]
    exact fun h => hc (letter_of_startsFrom h)
  rw [stopsAt, hstart, Bool.and_false]

/-- **On an ASCII character that starts no remark the search does what the scan does.** -/
theorem move_char (hc : isAscii c = true) (hmark : NoMark c r) (hd : Countable d) :
    move (p ++ c :: r) (size p) d (byte c) =
      if stopsAt d p c r = true then some .found else Move.counted? (size p + 1) (d + depthStep c) := by
  have hbyte : ∀ k, isAscii k = true → (byte c = byte k ↔ c = k) := fun k hk => byte_inj hc hk
  have hnext : ∀ k, isAscii k = true →
      ((bytes (p ++ c :: r))[size p + 1]? = some (byte k) ↔ r.head? = some k) := by
    intro k hk
    rw [getElem?_bytes_append, bytes_ascii hc, List.getElem?_cons_succ, ← List.head?_eq_getElem?,
      head?_bytes hk]
  simp only [move, hbyte '-' rfl, hnext '-' rfl, if_neg hmark.1, hbyte '/' rfl, hnext '*' rfl,
    if_neg hmark.2, hbyte '(' rfl, hbyte ')' rfl, hbyte 'f' rfl, hbyte 'F' rfl, standsAlone_eq,
    Option.map_some]
  by_cases ho : c = '('
  · rw [if_pos ho, stopsAt_of_ne p (by rw [ho]; decide), ho]
    rfl
  by_cases hclose : c = ')'
  · rw [if_neg ho, if_pos hclose, stopsAt_of_ne p (by rw [hclose]; decide), hclose]
    rfl
  rw [if_neg ho, if_neg hclose, depthStep_eq_zero ho hclose, Int.add_zero, Move.counted?, if_pos hd]
  by_cases hf : c = 'f' ∨ c = 'F'
  · by_cases hzero : d = 0
    · rw [if_pos ⟨hf, hzero⟩, stopsAt, hzero, apply_ite some]
      rfl
    · have hstop : stopsAt d p c r = false := by simp [stopsAt, hzero]
      rw [if_neg fun h => hzero h.2, hstop]
      rfl
  · rw [if_neg fun h => hf h.1, stopsAt_of_ne p hf]
    rfl

/-- The search goes through a character of code, unless it stops on it or its counter overflows. -/
theorem findFrom_char (hmark : NoMark c r) (hd : Countable d) : findFrom (p ++ c :: r) (size p) d =
    if stopsAt d p c r = true then some (some (size p))
    else if Countable (d + depthStep c) then
      findFrom (p ++ c :: r) (size (p ++ [c])) (d + depthStep c)
    else none := by
  have hsize : size (p ++ [c]) = size p + c.utf8Size := by
    rw [size_append, size_cons, size_nil, Nat.add_zero]
  cases hc : isAscii c with
  | true =>
      have hb : (bytes (p ++ c :: r))[size p]? = some (byte c) := by
        have h0 := getElem?_bytes_append p (c :: r) 0
        rwa [bytes_ascii hc] at h0
      have hmove := move_char p hc hmark hd
      by_cases hstop : stopsAt d p c r = true
      · rw [if_pos hstop] at hmove ⊢
        exact findFrom_found hb hmove
      · rw [if_neg hstop, Move.counted?] at hmove
        rw [if_neg hstop, hsize, utf8Size_of_ascii hc]
        by_cases hcount : Countable (d + depthStep c)
        · rw [if_pos hcount] at hmove ⊢
          exact findFrom_goTo hb hmove (Nat.lt_succ_self _)
        · rw [if_neg hcount] at hmove ⊢
          rw [findFrom_of_move hb, hmove]
  | false =>
      have hne : ∀ k, isAscii k = true → c ≠ k := by
        rintro k hk rfl
        rw [hc] at hk
        cases hk
      have hstop : stopsAt d p c r = false := stopsAt_of_ne p fun h =>
        h.elim (hne 'f' rfl) (hne 'F' rfl)
      rw [hstop, findFrom_wide hc, hsize, depthStep_eq_zero (hne '(' rfl) (hne ')' rfl), Int.add_zero,
        if_pos hd]
      rfl

/-- The scan goes through a character of code, unless it stops on it. -/
theorem beforeFrom_char (hmark : NoMark c r) :
    beforeFrom .code d (endsIn isBlank false p) (c :: r) =
      if stopsAt d p c r = true then some []
      else (beforeFrom .code (d + depthStep c) (endsIn isBlank false (p ++ [c])) r).map (c :: ·) := by
  rw [beforeFrom, step_code hmark.1 hmark.2, endsIn_append]
  rfl

end Character

/-! ## 3. Remarks -/

/-- The scan passes what is no code. -/
theorem beforeFrom_of_noCode : ∀ {x r : List Char} {st : State} {d : Int} {ab : Bool},
    codeWithin st x r = [] → beforeFrom st d ab (x ++ r) =
      (beforeFrom (st.after x r) d (endsIn isBlank ab x) r).map (x ++ ·)
  | [], r, st, d, ab, _ => by
      rw [List.nil_append, State.after, endsIn_nil]
      exact (congrFun Option.map_id _).symm
  | c :: x, r, st, d, ab, h => by
      rw [codeWithin, List.append_eq_nil_iff] at h
      have hstep : (st.step c (x ++ r)).1 = false := by
        rw [← Bool.not_eq_true]
        intro hcode
        rw [if_pos hcode] at h
        cases h.1
      rw [List.cons_append, beforeFrom_pass (Prod.ext hstep rfl), beforeFrom_of_noCode h.2,
        Option.map_map]
      rfl

section Jumps

variable (p : List Char) (d : Int)

/-- The bytes of a mark. -/
theorem getElem?_mark {a b : Char} (ha : isAscii a = true) (hb : isAscii b = true) (r : List Char) :
    (bytes (p ++ a :: b :: r))[size p]? = some (byte a) ∧
      (bytes (p ++ a :: b :: r))[size p + 1]? = some (byte b) := by
  have hmark : bytes (a :: b :: r) = byte a :: byte b :: bytes r := by
    rw [bytes_ascii ha, bytes_ascii hb]
  have h0 := getElem?_bytes_append p (a :: b :: r) 0
  have h1 := getElem?_bytes_append p (a :: b :: r) 1
  rw [hmark] at h0 h1
  exact ⟨h0, h1⟩

/-- A line remark ends at the line break, or with the text. -/
theorem lineEnd_eq {l r : List Char} (hl : '\n' ∉ l) (hr : r = [] ∨ ∃ t, r = '\n' :: t) :
    lineEnd (p ++ (l ++ r)) (size p) = some (size (p ++ l)) := by
  rw [lineEnd, fromByte_append, Option.map_some]
  rcases hr with rfl | ⟨t, rfl⟩
  · have hno : findBytes ['\n'] l = none :=
      findBytes_eq_none fun h => hl (h.subset (List.mem_singleton.mpr rfl))
    rw [List.append_nil, hno]
  · have hfound : findBytes ['\n'] (l ++ (['\n'] ++ t)) = some (size l) := by
      refine findBytes_append (List.cons_ne_nil _ _) fun u v hv hne hpre => hl ?_
      obtain ⟨c, v, rfl⟩ := List.exists_cons_of_ne_nil hne
      obtain ⟨rfl, -⟩ := List.cons_prefix_cons.mp hpre
      exact hv ▸ List.mem_append_right u List.mem_cons_self
    have hjump : findBytes ['\n'] (l ++ '\n' :: t) = some (size l) := hfound
    rw [hjump]
    exact congrArg some (size_append p l).symm

/-- Behind the opening mark of a block. -/
theorem fromByte_mark (x : List Char) : fromByte (p ++ '/' :: '*' :: x) (size p + 2) = some x := by
  have hsize : size (p ++ ['/', '*']) = size p + 2 := by rw [size_append]; rfl
  rw [List.append_cons, List.append_cons (p ++ ['/']), List.append_assoc p, ← hsize]
  exact fromByte_append _ x

/-- A block ends behind its closing mark. -/
theorem blockEnd_eq {b : List Char} (hb : Free '*' '/' b) (r : List Char) :
    blockEnd (p ++ '/' :: '*' :: (b ++ ['*', '/'] ++ r)) (size p) =
      some (size (p ++ '/' :: '*' :: (b ++ ['*', '/']))) := by
  have hfound : findBytes ['*', '/'] (b ++ (['*', '/'] ++ r)) = some (size b) := by
    refine findBytes_append (List.cons_ne_nil _ _) fun u v hv hne hpre => ?_
    -- the mark would lie in `b` and the star after it
    have hlen : 1 ≤ v.length := List.length_pos_iff.mpr hne
    have hin : ['*', '/'] <+: v ++ ['*'] := by
      have hv' : v ++ ['*'] <+: v ++ (['*', '/'] ++ r) :=
        (List.prefix_append_right_inj v).mpr ⟨'/' :: r, rfl⟩
      refine List.prefix_of_prefix_length_le hpre hv' ?_
      simpa using hlen
    refine (free_append_singleton (by decide)).mpr hb (hin.isInfix.trans ?_)
    rw [hv, List.append_assoc]
    exact (List.suffix_append u _).isInfix
  rw [blockEnd, fromByte_mark, Option.map_some, List.append_assoc, hfound]
  refine congrArg some ?_
  have hstar : '*'.utf8Size = 1 := rfl
  have hslash : '/'.utf8Size = 1 := rfl
  simp only [size_append, size_cons, size_nil]
  omega

/-- A block that does not close ends with the text. -/
theorem blockEnd_of_open {b : List Char} (hb : Free '*' '/' b) :
    blockEnd (p ++ '/' :: '*' :: b) (size p) = some (size (p ++ '/' :: '*' :: b)) := by
  rw [blockEnd, fromByte_mark, Option.map_some, findBytes_eq_none hb]

/-- **The search jumps over a line remark.** -/
theorem findFrom_line {l r : List Char} (hl : '\n' ∉ l) (hr : r = [] ∨ ∃ t, r = '\n' :: t) :
    findFrom (p ++ ('-' :: '-' :: l ++ r)) (size p) d =
      findFrom (p ++ ('-' :: '-' :: l ++ r)) (size (p ++ '-' :: '-' :: l)) d := by
  obtain ⟨hb, hnext⟩ := getElem?_mark p (a := '-') (b := '-') rfl rfl (l ++ r)
  have hend : lineEnd (p ++ ('-' :: '-' :: l ++ r)) (size p) = some (size (p ++ '-' :: '-' :: l)) :=
    lineEnd_eq p (by simpa using hl) hr
  refine findFrom_goTo (b := byte '-') hb ?_ ?_
  · rw [move, if_pos ⟨rfl, hnext⟩, hend]
    rfl
  · have := Char.utf8Size_pos '-'
    simp only [size_append, size_cons]
    omega

/-- **The search jumps over a block.** -/
theorem findFrom_block {r : List Char} {j : Nat}
    (hj : blockEnd (p ++ '/' :: '*' :: r) (size p) = some j) (hlt : size p < j) :
    findFrom (p ++ '/' :: '*' :: r) (size p) d = findFrom (p ++ '/' :: '*' :: r) j d := by
  obtain ⟨hb, hnext⟩ := getElem?_mark p (a := '/') (b := '*') rfl rfl r
  refine findFrom_goTo (b := byte '/') hb ?_ hlt
  rw [move, if_neg fun h => absurd h.1 (by decide), if_pos ⟨rfl, hnext⟩, hj]
  rfl

end Jumps

/-! ## 4. The search and the scan -/

/-- A line remark is no code. -/
theorem codeWithin_line {l : List Char} (hl : '\n' ∉ l) (r : List Char) :
    codeWithin .code ('-' :: '-' :: l) r = [] ∧ State.code.after ('-' :: '-' :: l) r = .line :=
  ⟨(scan_line r hl).2, (scan_line r hl).1⟩

/-- A block that does not close is no code. -/
theorem codeWithin_openBlock {b : List Char} (hb : Free '*' '/' b) :
    codeWithin .code ('/' :: '*' :: b) [] = [] :=
  (scan_block (r := []) (by simpa using hb)).2

/-- What is found behind a part of a text, found in the text. -/
theorem map_size_append (p x : List Char) (o : Option (List Char)) :
    (o.map (x ++ ·)).map (fun q => size (p ++ q)) = o.map fun q => size (p ++ x ++ q) := by
  rw [Option.map_map]
  exact congrArg (Option.map · o) (funext fun q => by rw [Function.comp_apply, List.append_assoc])

theorem size_lt_append (p : List Char) {x : List Char} (hx : x ≠ []) : size p < size (p ++ x) := by
  have := mt size_eq_zero_iff.mp hx
  rw [size_append]
  omega

/-- A character takes the depth no further than its parenthesis. -/
theorem natAbs_add_depthStep_le (d : Int) (c : Char) (s : List Char) :
    (d + depthStep c).natAbs + parens s ≤ d.natAbs + parens (c :: s) := by
  have hstep := natAbs_depthAfter_le (List.Sublist.refl [c])
  rw [show depthAfter 0 [c] = depthStep c from Int.zero_add _] at hstep
  have happend : parens (c :: s) = parens [c] + parens s := parens_append [c] s
  omega

/-- Where all the rest of a text is no code, nothing is found. -/
theorem beforeFrom_eq_none_of_noCode {x : List Char} {st : State} (h : codeWithin st x [] = [])
    (d : Int) (ab : Bool) : beforeFrom st d ab x = none := by
  rw [← List.append_nil x, beforeFrom_of_noCode h]
  rfl

/-- A search finds what it should, or its counter overflows, which takes so many parentheses. -/
def Finds (result : Option (Option Nat)) (found : Option Nat) (parens : Nat) : Prop :=
  result = some found ∨ result = none ∧ counterLimit ≤ parens

theorem Finds.mono {result : Option (Option Nat)} {found : Option Nat} {m n : Nat}
    (h : Finds result found m) (hmn : m ≤ n) : Finds result found n :=
  h.imp_right fun hover => ⟨hover.1, hover.2.trans hmn⟩

/-- A search that comes to an end finds what it should. -/
theorem Finds.eq {result : Option (Option Nat)} {found found' : Option Nat} {n : Nat}
    (h : Finds result found n) (hresult : result = some found') : found' = found := by
  rcases h with h | ⟨h, -⟩
  · exact Option.some.inj (hresult.symm.trans h)
  · cases hresult.symm.trans h

/-- **The search from any place of a text is the running scan, unless its counter overflows.** -/
theorem finds_beforeFrom : ∀ (r p : List Char) {d : Int}, Countable d →
    Finds (findFrom (p ++ r) (size p) d)
      ((beforeFrom .code d (endsIn isBlank false p) r).map fun q => size (p ++ q)) (d.natAbs + parens r)
  | r, p, d, hd => by
      cases parts r with
      | nil =>
          refine Or.inl ?_
          rw [List.append_nil, findFrom_end (Nat.le_refl _)]
          rfl
      | @lastLine l hl =>
          refine Or.inl ?_
          have hjump := findFrom_line p d hl (r := []) (Or.inl rfl)
          rw [List.append_nil] at hjump
          rw [hjump, findFrom_end (Nat.le_refl _),
            beforeFrom_eq_none_of_noCode (codeWithin_line hl []).1]
          rfl
      | @openBlock b hb =>
          refine Or.inl ?_
          rw [findFrom_block p d (blockEnd_of_open p hb) (size_lt_append p (List.cons_ne_nil _ _)),
            findFrom_end (Nat.le_refl _), beforeFrom_eq_none_of_noCode (codeWithin_openBlock hb)]
          rfl
      | @part x k s hpart _ =>
          cases hpart with
          | @char c s hl hb =>
              have hreach := natAbs_add_depthStep_le d c s
              rw [List.singleton_append, findFrom_char p ⟨hl, hb⟩ hd, beforeFrom_char p ⟨hl, hb⟩]
              split
              · exact Or.inl (by rw [Option.map_some, List.append_nil])
              split
              case isTrue hcount =>
                have hrest := (finds_beforeFrom s (p ++ [c]) hcount).mono hreach
                rw [← map_size_append p [c], List.append_assoc] at hrest
                exact hrest
              case isFalse hcount =>
                have hover := le_natAbs_of_not_countable hcount
                exact Or.inr ⟨rfl, by omega⟩
          | @line l s hl =>
              have htext : '-' :: '-' :: (l ++ ['\n']) ++ s = '-' :: '-' :: l ++ '\n' :: s := by simp
              obtain ⟨hcode, hafter⟩ := codeWithin_line hl ('\n' :: s)
              have hrest := finds_beforeFrom ('\n' :: s) (p ++ '-' :: '-' :: l) hd
              rw [beforeFrom_newline (Or.inl rfl), List.append_assoc] at hrest
              rw [htext, findFrom_line p d hl (Or.inr ⟨s, rfl⟩), beforeFrom_of_noCode hcode, hafter,
                beforeFrom_newline (Or.inr rfl), map_size_append, parens_append]
              exact hrest.mono (by omega)
          | @block b s hb =>
              have hscan := (Part.block s hb).scan
              have htext : '/' :: '*' :: (b ++ ['*', '/']) ++ s =
                  '/' :: '*' :: (b ++ ['*', '/'] ++ s) := rfl
              have hrest := finds_beforeFrom s (p ++ '/' :: '*' :: (b ++ ['*', '/'])) hd
              rw [endsIn_append, List.append_assoc] at hrest
              rw [beforeFrom_of_noCode hscan.2, hscan.1, htext, findFrom_block p d (blockEnd_eq p hb s)
                (size_lt_append p (List.cons_ne_nil _ _)), ← htext, map_size_append, parens_append]
              exact hrest.mono (by omega)
termination_by r => r.length

/-! ## 5. The least offset -/

/-- FROM is at an offset of a text, of which `before` comes before the start of the search. -/
def FromOffset (before s : List Char) (o : Nat) : Prop :=
  ∃ p, FromPlace before s p ∧ o = size (before ++ p)

section Least

variable {before s : List Char}

/-- A scan that finds a place has found the least offset. -/
theorem least_of_beforeFrom {p : List Char}
    (h : beforeFrom .code 0 (endsIn isBlank false before) s = some p) (o : Nat) :
    size (before ++ p) = o ↔ FromOffset before s o ∧ ∀ o', FromOffset before s o' → o ≤ o' := by
  obtain ⟨hplace, hleast⟩ := beforeFrom_eq_some_iff_place.mp h
  have hle : ∀ o', FromOffset before s o' → size (before ++ p) ≤ o' := by
    rintro _ ⟨p', hp', rfl⟩
    obtain ⟨q, rfl⟩ := hleast p' hp'
    simp only [size_append]
    omega
  constructor
  · rintro rfl
    exact ⟨⟨p, hplace, rfl⟩, hle⟩
  · rintro ⟨ho, hmin⟩
    exact Nat.le_antisymm (hle o ho) (hmin _ ⟨p, hplace, rfl⟩)

/-- A scan that finds no place finds no offset. -/
theorem none_of_beforeFrom (h : beforeFrom .code 0 (endsIn isBlank false before) s = none) (o : Nat) :
    ¬ FromOffset before s o := by
  rintro ⟨p, hp, -⟩
  exact beforeFrom_eq_none_iff_place.mp h p hp

end Least

/-- No blank comes right before what follows SELECT. -/
theorem endsIn_of_afterSelect {before s : List Char} (h : afterSelect (before ++ s) = some s) :
    endsIn isBlank false before = false := by
  obtain ⟨u, v, hs, hv⟩ := exists_of_afterWord h
  obtain rfl := List.append_cancel_right hs
  have hne : v ≠ [] := by
    rintro rfl
    cases hv
  rw [endsIn_append, endsIn_eq_getLast hne, ← Bool.not_eq_true]
  intro hblank
  refine solid_select.letter_notMem hblank ?_
  rw [← hv]
  exact List.mem_map_of_mem (List.getLast_mem hne)

/-- The list between SELECT and FROM is the text between their offsets. -/
theorem selectFromClause_of_afterSelect {before s : List Char}
    (h : afterSelect (before ++ s) = some s) : selectFromClause (before ++ s) =
      ((beforeFrom .code 0 (endsIn isBlank false before) s).map fun p => size (before ++ p)).bind
        fun o => (sliceBytes (before ++ s) (size before) o).map trim := by
  rw [selectFromClause, h, Option.bind_some, endsIn_of_afterSelect h]
  cases hp : beforeFrom .code 0 false s with
  | none => rfl
  | some p =>
      obtain ⟨q, rfl⟩ := beforeFrom_isPrefix hp
      rw [Option.map_some, Option.map_some, Option.bind_some, sliceBytes_append, Option.map_some]

/-- **The search finds the least offset of FROM.** From any place of a text with fewer than two to the
power of 31 parentheses behind it the search comes to an end: its counter holds each depth, and it cuts
the text only where a character starts or at the end. Where it comes to an end it has found what the
running scan finds: the least offset of a FROM in code, at depth zero, with blanks around it, and none
exactly if there is no such offset. From behind SELECT, the text up to what it finds is the select list. -/
theorem findFrom_least (before s : List Char) :
    (parens s < counterLimit → ∃ found, findFrom (before ++ s) (size before) 0 = some found) ∧
    (∀ found, findFrom (before ++ s) (size before) 0 = some found →
      found = (beforeFrom .code 0 (endsIn isBlank false before) s).map (fun p => size (before ++ p)) ∧
      (∀ o, found = some o ↔ FromOffset before s o ∧ ∀ o', FromOffset before s o' → o ≤ o') ∧
      (found = none ↔ ∀ o, ¬ FromOffset before s o) ∧
      (afterSelect (before ++ s) = some s → selectFromClause (before ++ s) =
        found.bind fun o => (sliceBytes (before ++ s) (size before) o).map trim)) ∧
    ∀ n, (cutAt (before ++ s) n).isSome = true ↔
      (String.Pos.Raw.mk n).IsValid (String.ofList (before ++ s)) := by
  have hfinds := finds_beforeFrom s before (d := 0) (by decide)
  refine ⟨fun hfew => ?_, fun found hfound => ?_, fun n => isSome_cutAt_iff⟩
  · rcases hfinds with hend | ⟨-, hmany⟩
    · exact ⟨_, hend⟩
    · omega
  obtain rfl := hfinds.eq hfound
  refine ⟨rfl, fun o => ?_, ?_, selectFromClause_of_afterSelect⟩
  · cases hp : beforeFrom .code 0 (endsIn isBlank false before) s with
    | none => exact iff_of_false nofun fun h => none_of_beforeFrom hp o h.1
    | some p => rw [Option.map_some, Option.some.injEq, least_of_beforeFrom hp]
  · cases hp : beforeFrom .code 0 (endsIn isBlank false before) s with
    | none => exact iff_of_true rfl (none_of_beforeFrom hp)
    | some p => exact iff_of_false nofun fun h => h _ ((least_of_beforeFrom hp _).mp rfl).1

/-- A FROM in parentheses and one in a remark, behind a character of two bytes. -/
def remarkedList : List Char := " é, (a from b) -- from\n FROM t".toList

/-- The search passes both, and the list goes up to the third. -/
theorem findFrom_least_remarked :
    findFrom ("SELECT".toList ++ remarkedList) 6 0 = some (some 31) ∧
    selectFromClause ("SELECT".toList ++ remarkedList) = some "é, (a from b) -- from".toList := by
  obtain ⟨hends, hleast, -⟩ := findFrom_least "SELECT".toList remarkedList
  obtain ⟨found, hrun⟩ := hends (by decide)
  obtain ⟨hscan, -, -, hlist⟩ := hleast found hrun
  obtain rfl : found = some 31 := hscan.trans (by decide +kernel)
  exact ⟨hrun, (hlist (by decide +kernel)).trans (by decide +kernel)⟩

end TableDraft.Select

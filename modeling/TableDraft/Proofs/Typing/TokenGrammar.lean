import Mathlib.Data.List.TakeWhile
import Mathlib.Data.Nat.Find
import TableDraft.Proofs.Text.UpperCase
import TableDraft.Typing.ColumnType

/-!
# The grammar of type tokens

What `TypeToken.read` makes of a text, said without the way in which it looks for it.

* `Matches raw name args`: the text is a name and perhaps arguments in parentheses, with blanks around
  them. **A trimmed token is read by the shortest name with which it matches** (`read_of_shortest`).
* `Spells k r args`: the token `r` names the built-in type `k` and gives it the arguments `args`. **The
  reading of a token finds exactly that** (`row_iff`).
* `columnType_decided`: a type is written by the row of the built-in type that its token spells, and if
  it spells none the token stays, with the parameters unless it has an opening parenthesis.
-/

namespace TableDraft

open Text Unicode

namespace TypeToken

/-! ## 1. Names and arguments -/

theorem isNameChar_of_isNameStart {c : Char} (h : isNameStart c = true) : isNameChar c = true := by
  simp only [isNameStart, isNameChar, Bool.or_eq_true, Char.isAlphanum] at h ⊢
  exact Or.inl (h.imp_left Or.inl)

/-- The characters of a name. -/
theorem isNameChar_of_mem : ∀ {name : List Char}, isName name = true → ∀ c ∈ name, isNameChar c = true
  | [], h, _, _ => by cases h
  | d :: r, h, c, hc => by
      rw [isName, Bool.and_eq_true, List.all_eq_true] at h
      rcases List.mem_cons.mp hc with rfl | hc
      · exact isNameChar_of_isNameStart h.1
      · exact h.2 c hc

theorem open_notMem_name {name : List Char} (h : isName name = true) : '(' ∉ name :=
  fun hmem => absurd (isNameChar_of_mem h _ hmem) (by decide)

theorem isBlank_of_isNameStart {c : Char} (h : isNameStart c = true) : isBlank c = false := by
  rw [← Bool.not_eq_true]
  intro hb
  have hall : ∀ n ∈ blankPoints, isNameStart (Char.ofNat n) = false := by decide
  rw [forall_blank (isNameStart · = false) hall hb] at h
  cases h

/-- A name starts with no blank. -/
theorem exists_head_of_isName {name : List Char} (h : isName name = true) :
    ∃ c r, name = c :: r ∧ isBlank c = false := by
  cases name with
  | nil => cases h
  | cons c r =>
      rw [isName, Bool.and_eq_true] at h
      exact ⟨c, r, rfl, isBlank_of_isNameStart h.1⟩

/-- A name without the blanks at its end is a name. -/
theorem isName_trimEnd {name : List Char} (h : isName name = true) : isName (trimEnd name) = true := by
  obtain ⟨c, r, rfl, hc⟩ := exists_head_of_isName h
  rw [isName, Bool.and_eq_true, List.all_eq_true] at h
  rw [trimEnd_cons hc, isName, Bool.and_eq_true, List.all_eq_true]
  exact ⟨h.1, fun d hd => h.2 d ((trimEnd_isPrefix r).subset hd)⟩

/-- The arguments are read part by part between the commas. -/
theorem readArguments_parts {parts : List (List Char)} (hne : parts ≠ [])
    (hcomma : ∀ part ∈ parts, ',' ∉ part) : readArguments ([','].intercalate parts) =
      parts.filterMap fun part => readUInt32? (trim part) := by
  rw [readArguments, List.splitOn_intercalate ',' hcomma hne]

/-- Without an opening parenthesis there are no arguments. -/
theorem withArguments?_plain {raw : List Char} (h : '(' ∉ raw) : withArguments? raw = none := by
  have hall : raw.takeWhile (· != '(') = raw := by
    rw [List.takeWhile_eq_self_iff]
    exact fun c hc => bne_iff_ne.mpr fun heq => h (heq ▸ hc)
  unfold withArguments?
  simp only [hall, List.drop_length]

/-- What stands before the first opening parenthesis. -/
theorem takeWhile_open {head : List Char} (h : '(' ∉ head) (r : List Char) :
    (head ++ '(' :: r).takeWhile (· != '(') = head := by
  have hall : ∀ c ∈ head, (c != '(') = true := fun c hc =>
    bne_iff_ne.mpr fun heq => h (heq ▸ hc)
  rw [List.takeWhile_append_of_pos hall, List.takeWhile_cons_of_neg (by decide), List.append_nil]

/-- The first opening parenthesis parts the name from the arguments. -/
theorem withArguments?_open {head : List Char} (h : '(' ∉ head) (r : List Char) :
    withArguments? (head ++ '(' :: r) =
      if isName (trimEnd head) && r.getLast? == some ')' && !r.dropLast.contains ')' then
        some (trimEnd head, r.dropLast)
      else none := by
  unfold withArguments?
  simp only [takeWhile_open h, List.drop_left]

/-- **A token has arguments when it is a name, blanks, and parentheses without a closing one in
between.** -/
theorem withArguments?_eq_some_iff {raw name args : List Char} :
    withArguments? raw = some (name, args) ↔
      isName name = true ∧ trimEnd name = name ∧ ')' ∉ args ∧
        ∃ w, isBlankText w = true ∧ raw = name ++ w ++ '(' :: (args ++ [')']) := by
  constructor
  · intro h
    by_cases hopen : '(' ∈ raw
    · obtain ⟨head, r, rfl, hhead⟩ := List.eq_append_cons_of_mem hopen
      rw [withArguments?_open hhead] at h
      split at h
      · rename_i hok
        obtain ⟨⟨hname, hlast⟩, hclose⟩ :
            (isName (trimEnd head) = true ∧ r.getLast? = some ')') ∧ ')' ∉ r.dropLast := by
          simpa using hok
        obtain ⟨rfl, rfl⟩ := Prod.mk.inj (Option.some.inj h)
        obtain ⟨w, hw, hcut⟩ := exists_trimEnd head
        refine ⟨hname, trimEnd_trimEnd head, hclose, w, hw, ?_⟩
        rw [← hcut, List.dropLast_append_getLast? ')' hlast]
      · cases h
    · rw [withArguments?_plain hopen] at h
      cases h
  · rintro ⟨hname, htrim, hclose, w, hw, rfl⟩
    have hno : '(' ∉ name ++ w := by
      rw [List.mem_append, not_or]
      exact ⟨open_notMem_name hname, notMem_of_blank hw rfl⟩
    have hend : trimEnd (name ++ w) = name := by rw [trimEnd_append_blank hw, htrim]
    rw [withArguments?_open hno, hend]
    simp [hname, hclose]

theorem read_of_arguments {raw name args : List Char} (h : withArguments? raw = some (name, args)) :
    read raw = ⟨name, readArguments args, raw⟩ := by
  rw [read, h]

theorem raw_read (raw : List Char) : (read raw).raw = raw := by
  unfold read
  split <;> rfl

theorem read_of_none {raw : List Char} (h : withArguments? raw = none) : read raw = ⟨raw, [], raw⟩ := by
  rw [read, h]

/-! ## 2. The pattern -/

/-- Arguments in their parentheses, if there are any. -/
def enclosed : Option (List Char) → List Char
  | none => []
  | some args => '(' :: (args ++ [')'])

/-- A text that starts in no blank is trimmed with arguments behind it. -/
theorem trim_enclosed {r : List Char} (h : ∀ c ∈ r.head?, isBlank c = false) (x : List Char) :
    trim (r ++ enclosed (some x)) = r ++ enclosed (some x) := by
  rw [enclosed]
  refine trim_eq_self (fun c hc => ?_) fun c hc => ?_
  · cases r with
    | nil =>
        obtain rfl : '(' = c := Option.some.inj hc
        rfl
    | cons d r => exact h c hc
  · rw [← List.cons_append, ← List.append_assoc, List.getLast?_concat] at hc
    obtain rfl : ')' = c := Option.some.inj hc
    rfl

/-- Upper case does not move the marks around arguments. -/
theorem steady_of_mark {x : Char} (h : x ∈ ['(', ',', ')']) : Steady x := by
  simp only [List.mem_cons, List.not_mem_nil, or_false] at h
  rcases h with rfl | rfl | rfl <;> exact steady_of_ascii rfl (by decide)

/-- The text is a name and perhaps arguments in parentheses without a closing one in between; blanks
may stand before, between and behind. -/
def Matches (raw name : List Char) (args : Option (List Char)) : Prop :=
  ∃ lead gap tail, isBlankText lead = true ∧ isBlankText gap = true ∧ isBlankText tail = true ∧
    isName name = true ∧ (∀ x ∈ args, ')' ∉ x) ∧ raw = lead ++ name ++ gap ++ enclosed args ++ tail

/-- The match with the shortest name, which is the one that counts. -/
structure Shortest (raw name : List Char) (args : Option (List Char)) : Prop where
  fits : Matches raw name args
  least : ∀ name' args', Matches raw name' args' → name.length ≤ name'.length

/-- A token that matches with some name matches with a shortest one. -/
theorem exists_shortest {raw name : List Char} {args : Option (List Char)} (h : Matches raw name args) :
    ∃ name args, Shortest raw name args := by
  classical
  have hex : ∃ n name args, Matches raw name args ∧ name.length = n := ⟨_, name, args, h, rfl⟩
  obtain ⟨name, args, hfits, hlength⟩ := Nat.find_spec hex
  refine ⟨name, args, hfits, fun name' args' h' => ?_⟩
  rw [hlength]
  exact Nat.find_min' hex ⟨name', args', h', rfl⟩

/-- Blanks around a text that is trimmed with them are none. -/
theorem eq_nil_of_trimmed {x m y : List Char} (hx : isBlankText x = true) (hy : isBlankText y = true)
    (h : trim (x ++ m ++ y) = x ++ m ++ y) : x = [] ∧ y = [] := by
  rw [trim_between hx hy] at h
  have hlength := (trim_sublist m).length_le
  rw [h, List.length_append, List.length_append] at hlength
  exact ⟨List.eq_nil_of_length_eq_zero (by omega), List.eq_nil_of_length_eq_zero (by omega)⟩

section Trimmed

variable {raw : List Char} (hraw : trim raw = raw)
include hraw

/-- In a trimmed token nothing stands before the name or behind the rest. -/
theorem Matches.between {name : List Char} {args : Option (List Char)} (h : Matches raw name args) :
    ∃ gap, isBlankText gap = true ∧ isName name = true ∧ (∀ x ∈ args, ')' ∉ x) ∧
      raw = name ++ gap ++ enclosed args := by
  obtain ⟨lead, gap, tail, hlead, hgap, htail, hname, hargs, rfl⟩ := h
  have hassoc : lead ++ name ++ gap ++ enclosed args ++ tail =
      lead ++ (name ++ gap ++ enclosed args) ++ tail := by simp only [List.append_assoc]
  rw [hassoc] at hraw ⊢
  obtain ⟨rfl, rfl⟩ := eq_nil_of_trimmed hlead htail hraw
  exact ⟨gap, hgap, hname, hargs, by rw [List.nil_append, List.append_nil]⟩

/-- The shortest name does not end in a blank when arguments follow. -/
theorem Shortest.trimEnd_name {name x : List Char} (h : Shortest raw name (some x)) :
    trimEnd name = name := by
  obtain ⟨gap, hgap, hname, hargs, hcut⟩ := h.fits.between hraw
  obtain ⟨w, hw, hwcut⟩ := exists_trimEnd name
  refine (trimEnd_isPrefix name).eq_of_length_le (h.least _ (some x) ?_)
  refine ⟨[], w ++ gap, [], rfl, ?_, rfl, isName_trimEnd hname, hargs, ?_⟩
  · rw [isBlankText_append, hw, hgap]
    rfl
  · rw [List.nil_append, List.append_nil, ← List.append_assoc, ← hwcut]
    exact hcut

/-- **A trimmed token is read by the shortest name with which it matches.** -/
theorem read_of_shortest {name : List Char} {args : Option (List Char)} (h : Shortest raw name args) :
    read raw = ⟨name, (args.map readArguments).getD [], raw⟩ := by
  obtain ⟨gap, hgap, hname, hargs, hcut⟩ := h.fits.between hraw
  cases args with
  | none =>
      rw [enclosed, List.append_nil] at hcut
      have hgapless : gap = [] := (eq_nil_of_trimmed (x := []) rfl hgap (hcut ▸ hraw)).2
      rw [hgapless, List.append_nil] at hcut
      subst hcut
      exact read_of_none (withArguments?_plain (open_notMem_name hname))
  | some x =>
      refine read_of_arguments (withArguments?_eq_some_iff.mpr ?_)
      exact ⟨hname, h.trimEnd_name hraw, hargs x rfl, gap, hgap, hcut⟩

end Trimmed

end TypeToken

/-! ## 3. Built-in types -/

namespace BuiltIn

/-- The token names the built-in type, alone or with arguments in parentheses behind blanks; the
arguments that count are the parts between commas that can be read as numbers. -/
inductive Spells (k : BuiltIn) : List Char → List UInt32 → Prop
  | alone : Spells k k.name.toList []
  | withArguments (w x : List Char) (hw : isBlankText w = true) (hx : ')' ∉ x) :
      Spells k (k.name.toList ++ w ++ '(' :: (x ++ [')']))
        ((x.splitOn ',').filterMap fun part => readUInt32? (trim part))

theorem isName_name (k : BuiltIn) : TypeToken.isName k.name.toList = true := by
  cases k <;> decide

theorem trimEnd_name (k : BuiltIn) : trimEnd k.name.toList = k.name.toList := by
  cases k <;> decide

theorem ofName?_eq_some_iff {name : List Char} {k : BuiltIn} :
    ofName? name = some k ↔ name = k.name.toList := by
  constructor
  · intro h
    have hfound := List.find?_some h
    exact (beq_iff_eq.mp hfound).symm
  · rintro rfl
    cases k <;> decide

/-- **The reading of a token finds the built-in type that it spells, with its arguments.** -/
theorem row_iff {r : List Char} {k : BuiltIn} {args : List UInt32} :
    ofName? (TypeToken.read r).name = some k ∧ (TypeToken.read r).arguments = args ↔
      k.Spells r args := by
  rw [ofName?_eq_some_iff]
  constructor
  · rintro ⟨hname, rfl⟩
    cases hargs : TypeToken.withArguments? r with
    | none =>
        rw [TypeToken.read_of_none hargs] at hname ⊢
        obtain rfl : r = k.name.toList := hname
        exact Spells.alone
    | some p =>
        obtain ⟨-, -, hclose, w, hw, hcut⟩ := TypeToken.withArguments?_eq_some_iff.mp hargs
        rw [TypeToken.read_of_arguments hargs] at hname ⊢
        rw [hcut, show p.1 = k.name.toList from hname]
        exact Spells.withArguments w p.2 hw hclose
  · intro h
    cases h with
    | alone =>
        have hopen := TypeToken.open_notMem_name k.isName_name
        rw [TypeToken.read_of_none (TypeToken.withArguments?_plain hopen)]
        exact ⟨rfl, rfl⟩
    | withArguments w x hw hx =>
        have hargs := TypeToken.withArguments?_eq_some_iff.mpr
          ⟨k.isName_name, k.trimEnd_name, hx, w, hw, rfl⟩
        rw [TypeToken.read_of_arguments hargs]
        exact ⟨rfl, rfl⟩

/-- A token that spells a built-in type matches with its name. -/
theorem Spells.fits {r : List Char} {k : BuiltIn} {args : List UInt32} (h : k.Spells r args) :
    ∃ x, TypeToken.Matches r k.name.toList x := by
  cases h with
  | alone =>
      refine ⟨none, [], [], [], rfl, rfl, rfl, k.isName_name, nofun, ?_⟩
      simp [TypeToken.enclosed]
  | withArguments w x hw hx =>
      refine ⟨some x, [], w, [], rfl, hw, rfl, k.isName_name, ?_, ?_⟩
      · exact fun y hy => Option.some.inj hy ▸ hx
      · simp [TypeToken.enclosed]

/-- **The tokens that spell a built-in type are those of which its name is the shortest name to match
with.** -/
theorem spells_iff_shortest {r : List Char} (hr : trim r = r) {k : BuiltIn} {args : List UInt32} :
    k.Spells r args ↔ ∃ x, TypeToken.Shortest r k.name.toList x ∧
      args = (x.map TypeToken.readArguments).getD [] := by
  constructor
  · intro h
    obtain ⟨x, hfits⟩ := h.fits
    obtain ⟨name, y, hshortest⟩ := TypeToken.exists_shortest hfits
    obtain ⟨hname, hargs⟩ := row_iff.mpr h
    rw [TypeToken.read_of_shortest hr hshortest] at hname hargs
    obtain rfl : name = k.name.toList := ofName?_eq_some_iff.mp hname
    exact ⟨y, hshortest, hargs.symm⟩
  · rintro ⟨x, hshortest, rfl⟩
    rw [← row_iff, TypeToken.read_of_shortest hr hshortest]
    exact ⟨ofName?_eq_some_iff.mpr rfl, rfl⟩

end BuiltIn

/-! ## 4. Types in a dialect -/

namespace AbstractType

/-- The row by which a type is written and the arguments of its token; none when no dialect has a word
for it. -/
def row? (t : AbstractType) : Option (BuiltIn × List UInt32) :=
  let token := TypeToken.read t.token
  (BuiltIn.ofName? token.name).map fun k => (k, token.arguments)

theorem row?_eq_some_iff {t : AbstractType} {k : BuiltIn} {args : List UInt32} :
    t.row? = some (k, args) ↔ k.Spells t.token args := by
  rw [← BuiltIn.row_iff]
  simp [row?, and_left_comm]

theorem trim_token (t : AbstractType) : trim t.token = t.token := by
  rw [token, trim_upper, trim_trim]

theorem upper_token (t : AbstractType) : upper t.token = t.token := upper_upper _

/-- A type is written by its row, or else by its token. -/
theorem columnType_eq (t : AbstractType) (d : Dialect) : t.columnType d =
    match t.row? with
    | some (k, args) => String.ofList (k.render t args d)
    | none => if '(' ∈ t.token then String.ofList t.token else t.display := by
  unfold columnType row?
  cases hk : BuiltIn.ofName? (TypeToken.read t.token).name with
  | some k => simp only [hk, Option.map_some]
  | none =>
      simp only [hk, Option.map_none, TypeToken.raw_read, passThrough, trim_token, upper_token,
        List.contains_iff_mem, display]
      split <;> rfl

/-- A type whose token spells a built-in one is written by its row. -/
theorem columnType_of_spells {t : AbstractType} {k : BuiltIn} {args : List UInt32}
    (h : k.Spells t.token args) (d : Dialect) :
    t.columnType d = String.ofList (k.render t args d) := by
  rw [columnType_eq, row?_eq_some_iff.mpr h]

/-- The token of any other type stays, with the parameters unless it has an opening parenthesis. -/
theorem columnType_of_not_spells {t : AbstractType} (h : ∀ k args, ¬ BuiltIn.Spells k t.token args)
    (d : Dialect) :
    t.columnType d = if '(' ∈ t.token then String.ofList t.token else t.display := by
  have hnone : t.row? = none :=
    Option.eq_none_iff_forall_ne_some.mpr fun p hp => h p.1 p.2 (row?_eq_some_iff.mp hp)
  rw [columnType_eq, hnone]

/-- **Which types are written by the row of a built-in one**: those whose token spells it, which is to
say that its name is the shortest with which the token matches; the arguments are the numbers between
the commas. Any other token stays as it is if it has an opening parenthesis, and is shown with the
parameters if it has none. -/
theorem columnType_decided (t : AbstractType) (d : Dialect) :
    (∀ (k : BuiltIn) (args : List UInt32), (t.row? = some (k, args) ↔ k.Spells t.token args) ∧
      (k.Spells t.token args ↔ ∃ x, TypeToken.Shortest t.token k.name.toList x ∧
        args = (x.map TypeToken.readArguments).getD []) ∧
      (k.Spells t.token args → t.columnType d = String.ofList (k.render t args d))) ∧
    ((∀ k args, ¬ BuiltIn.Spells k t.token args) →
      t.columnType d = if '(' ∈ t.token then String.ofList t.token else t.display) :=
  ⟨fun _ _ => ⟨row?_eq_some_iff, BuiltIn.spells_iff_shortest t.trim_token,
    fun h => columnType_of_spells h d⟩, fun h => columnType_of_not_spells h d⟩

/-- A ligature in the name, a wide blank behind it, a sign before the number and a part that is none:
the token is still that of a built-in type. -/
theorem columnType_decided_ligature :
    (ofToken " ﬂoat\u2003( +7 , x)").columnType .mySql = "FLOAT(7)" := by
  obtain ⟨hrows, -⟩ := columnType_decided (ofToken " ﬂoat\u2003( +7 , x)") .mySql
  have hspells : BuiltIn.float.Spells (ofToken " ﬂoat\u2003( +7 , x)").token [7] := by
    have htoken : (ofToken " ﬂoat\u2003( +7 , x)").token =
        BuiltIn.float.name.toList ++ ['\u2003'] ++ '(' :: (" +7 , X".toList ++ [')']) := by
      decide +kernel
    have hargs : ((" +7 , X".toList).splitOn ',').filterMap
        (fun part => readUInt32? (trim part)) = [7] := by decide +kernel
    rw [htoken, ← hargs]
    exact .withArguments _ _ (by decide) (by decide)
  rw [(hrows _ _).2.2 hspells]
  decide +kernel

end AbstractType

end TableDraft

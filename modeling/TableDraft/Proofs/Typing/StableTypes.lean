import TableDraft.Proofs.Text.Numbers
import TableDraft.Proofs.Typing.TokenGrammar

/-!
# Types written again

What becomes of a type as it is written in a dialect when it is taken for a token again.

* `TokenForm r`: `r` is the token that it is read as, trimmed and in upper case. Parameters behind such
  a text leave it in that form (`TokenForm.parameters`), and their numbers are read back
  (`readArguments_numbers`).
* `Stable d r`: the dialect writes the token `r` as it is. What the row of a built-in type shows is
  stable in every dialect but ClickHouse (`BuiltIn.stable_render`), and so is any text in token form that
  spells no built-in type (`stable_of_not_spells`).
* **A type that is written once is written the same again, in every dialect but ClickHouse**
  (`columnType_columnType_iff`).
-/

namespace TableDraft

open Text

/-! ## 1. Token form -/

/-- The text is what it is read as: trimmed and in upper case. -/
structure TokenForm (r : List Char) : Prop where
  high : High r
  trimmed : trim r = r

namespace AbstractType

theorem tokenForm_token (t : AbstractType) : TokenForm t.token := ⟨high_upper _, t.trim_token⟩

theorem token_of_tokenForm {r : List Char} (h : TokenForm r) : (ofToken (String.ofList r)).token = r := by
  rw [token, ofToken, String.toList_ofList, h.trimmed, upper_of_high h.high]

/-- Numbers with commas between them. -/
def numbers (ns : List UInt32) : List Char := [','].intercalate (ns.map writeUInt32)

theorem oneParameter_eq (n : UInt32) : oneParameter n = TypeToken.enclosed (some (numbers [n])) := by
  simp [oneParameter, TypeToken.enclosed, numbers]

theorem twoParameters_eq (m n : UInt32) :
    twoParameters m n = TypeToken.enclosed (some (numbers [m, n])) := by
  simp [twoParameters, TypeToken.enclosed, numbers]

/-- The parameters that are shown are numbers in parentheses, if there are any. -/
theorem parameters_eq (t : AbstractType) :
    ∃ ns : Option (List UInt32), t.parameters = TypeToken.enclosed (ns.map numbers) := by
  unfold parameters
  split
  · exact ⟨some [_, _], twoParameters_eq _ _⟩
  · exact ⟨some [_], oneParameter_eq _⟩
  · exact ⟨some [_], oneParameter_eq _⟩
  · exact ⟨none, rfl⟩

theorem mem_numbers {ns : List UInt32} {c : Char} (hc : c ∈ numbers ns) :
    c = ',' ∨ ∃ n, c ∈ writeUInt32 n := by
  unfold numbers at hc
  induction ns with
  | nil => simp at hc
  | cons n ns ih =>
      cases ns with
      | nil => exact Or.inr ⟨n, by simpa using hc⟩
      | cons m ns =>
          simp only [List.map_cons, List.intercalate_cons_cons, List.mem_append,
            List.mem_singleton] at hc
          rcases hc with (hc | hc) | hc
          · exact Or.inr ⟨n, hc⟩
          · exact Or.inl hc
          · exact ih hc

theorem steady_of_mem_numbers {ns : List UInt32} {c : Char} (hc : c ∈ numbers ns) : Steady c := by
  rcases mem_numbers hc with rfl | ⟨n, hc⟩
  · exact TypeToken.steady_of_mark (by decide)
  · exact (writes_writeUInt32 n).steady hc

theorem close_notMem_numbers (ns : List UInt32) : ')' ∉ numbers ns := by
  intro h
  rcases mem_numbers h with h | ⟨n, h⟩
  · cases h
  · rcases (writes_writeUInt32 n).mem h with h | h <;> cases h

/-- **Numbers with commas between them are read back.** -/
theorem readArguments_numbers (ns : List UInt32) : TypeToken.readArguments (numbers ns) = ns := by
  cases ns with
  | nil => decide
  | cons n ns =>
      have hcomma : ∀ part ∈ (n :: ns).map writeUInt32, ',' ∉ part := by
        intro part hpart
        obtain ⟨m, -, rfl⟩ := List.mem_map.mp hpart
        exact comma_notMem_writeUInt32 m
      have hne : (n :: ns).map writeUInt32 ≠ [] := List.cons_ne_nil _ _
      have hread : ((fun part => readUInt32? (trim part)) ∘ writeUInt32) = some := by
        funext m
        rw [Function.comp_apply, (writes_writeUInt32 m).trimmed, readUInt32?_writeUInt32]
      rw [numbers, TypeToken.readArguments_parts hne hcomma, List.filterMap_map, hread,
        List.filterMap_some]

end AbstractType

open AbstractType TypeToken

/-- **Parameters behind a text in token form leave it in that form.** -/
theorem TokenForm.parameters {r : List Char} (h : TokenForm r) (ns : Option (List UInt32)) :
    TokenForm (r ++ enclosed (ns.map numbers)) := by
  cases ns with
  | none => rwa [Option.map_none, enclosed, List.append_nil]
  | some ns =>
      have hhead : ∀ c ∈ r.head?, isBlank c = false := h.trimmed ▸ head_of_trim
      have hsteady : ∀ x ∈ enclosed (some (numbers ns)), Steady x := by
        intro x hx
        simp only [enclosed, List.mem_cons, List.mem_append, List.not_mem_nil, or_false] at hx
        rcases hx with rfl | hx | rfl
        · exact steady_of_mark (by decide)
        · exact steady_of_mem_numbers hx
        · exact steady_of_mark (by decide)
      refine ⟨fun c hc => ?_, trim_enclosed hhead _⟩
      rcases List.mem_append.mp hc with hc | hc
      · exact h.high c hc
      · exact (hsteady c hc).self

/-! ## 2. Built-in types -/

namespace BuiltIn

theorem tokenForm_name (k : BuiltIn) : TokenForm k.name.toList := by
  have hhigh : ∀ k ∈ all, upper k.name.toList = k.name.toList := by decide +kernel
  have hmem : k ∈ all := by cases k <;> decide
  refine ⟨?_, by cases k <;> decide⟩
  rw [← hhigh k hmem]
  exact high_upper _

/-- The name of a built-in type spells it with the numbers behind it. -/
theorem spells_numbers (k : BuiltIn) (ns : List UInt32) :
    k.Spells (k.name.toList ++ enclosed (some (numbers ns))) ns := by
  have h := Spells.withArguments (k := k) [] (numbers ns) rfl (close_notMem_numbers ns)
  rw [List.append_nil] at h
  have hargs : ((numbers ns).splitOn ',').filterMap (fun part => readUInt32? (trim part)) = ns :=
    readArguments_numbers ns
  rwa [hargs] at h

/-- What comes before the parenthesis of a token that spells a built-in type is its name. -/
theorem Spells.eq_name {k : BuiltIn} {head rest : List Char} {args : List UInt32}
    (h : k.Spells (head ++ '(' :: rest) args) (hopen : '(' ∉ head) (htrim : trimEnd head = head) :
    head = k.name.toList := by
  generalize hr : head ++ '(' :: rest = r at h
  have hname := open_notMem_name k.isName_name
  cases h with
  | alone => exact absurd (hr ▸ List.mem_append_right _ List.mem_cons_self) hname
  | withArguments w x hw hx =>
      have hno : '(' ∉ k.name.toList ++ w := by
        rw [List.mem_append, not_or]
        exact ⟨hname, notMem_of_blank hw rfl⟩
      have heq : head = k.name.toList ++ w := by
        rw [← takeWhile_open hopen rest, hr, takeWhile_open hno]
      rw [← htrim, heq, trimEnd_append_blank hw, k.trimEnd_name]

/-- A token without parentheses spells a built-in type only as its name. -/
theorem Spells.eq_name_of_plain {k : BuiltIn} {r : List Char} {args : List UInt32}
    (h : k.Spells r args) (hopen : '(' ∉ r) : r = k.name.toList := by
  cases h with
  | alone => rfl
  | withArguments w x hw hx =>
      exact absurd (List.mem_append_right _ List.mem_cons_self) hopen

end BuiltIn

/-! ## 3. Stable texts -/

/-- The text is written as it is when it is taken for a token. -/
def Stable (d : Dialect) (r : List Char) : Prop :=
  (ofToken (String.ofList r)).columnType d = String.ofList r

/-- A text in token form that spells no built-in type is stable. -/
theorem stable_of_not_spells {r : List Char} (hr : TokenForm r)
    (h : ∀ k args, ¬ BuiltIn.Spells k r args) (d : Dialect) : Stable d r := by
  have htoken := token_of_tokenForm hr
  have hdisplay : (ofToken (String.ofList r)).display = String.ofList r := by
    rw [display, htoken]
    exact congrArg String.ofList (List.append_nil r)
  unfold Stable
  rw [columnType_of_not_spells (by rwa [htoken]), htoken, hdisplay, ite_self]

namespace BuiltIn

/-- A text in token form that spells a built-in type is stable if the row shows it. -/
theorem stable_of_spells {k : BuiltIn} {r : List Char} {args : List UInt32} (hr : TokenForm r)
    (h : k.Spells r args) {d : Dialect} (hback : ∀ u, k.render (ofToken u) args d = r) :
    Stable d r := by
  unfold Stable
  rw [columnType_of_spells (by rwa [token_of_tokenForm hr]), hback]

theorem stable_name {k : BuiltIn} {d : Dialect}
    (hback : ∀ u, k.render (ofToken u) [] d = k.name.toList) : Stable d k.name.toList :=
  stable_of_spells k.tokenForm_name Spells.alone hback

theorem stable_numbers {k : BuiltIn} {d : Dialect} {ns : List UInt32}
    (hback : ∀ u, k.render (ofToken u) ns d = k.name.toList ++ enclosed (some (numbers ns))) :
    Stable d (k.name.toList ++ enclosed (some (numbers ns))) :=
  stable_of_spells (k.tokenForm_name.parameters (some ns)) (k.spells_numbers ns) hback

/-- The words of PostgreSQL that are no built-in names are stable. -/
theorem stable_word (d : Dialect) : ∀ w ∈ ["TEXT", "REAL", "DOUBLE PRECISION"], Stable d w.toList := by
  have hform : ∀ w ∈ ["TEXT", "REAL", "DOUBLE PRECISION"], upper (trim w.toList) = w.toList ∧
      '(' ∉ w.toList ∧ ∀ k ∈ all, w.toList ≠ k.name.toList := by decide +kernel
  intro w hw
  obtain ⟨hupper, hopen, hname⟩ := hform w hw
  refine stable_of_not_spells ⟨hupper ▸ high_upper _, ?_⟩ (fun k args h => ?_) d
  · rw [← hupper, trim_upper, trim_trim]
  · exact hname k (by cases k <;> decide) (h.eq_name_of_plain hopen)

/-- The parameters of a decimal type are numbers, from which they are had again. -/
theorem decimalParameters_eq (p s : Option UInt32) :
    ∃ ns : List UInt32, decimalParameters p s = enclosed (some (numbers ns)) ∧
      decimalParameters ns[0]? ns[1]? = enclosed (some (numbers ns)) := by
  cases p with
  | none => cases s <;> exact ⟨[_, _], twoParameters_eq _ _, twoParameters_eq _ _⟩
  | some p =>
      cases s with
      | none => exact ⟨[_], oneParameter_eq _, oneParameter_eq _⟩
      | some s => exact ⟨[_, _], twoParameters_eq _ _, twoParameters_eq _ _⟩

/-- The row of `FLOAT`, whose word depends on the dialect and on whether there is a precision. -/
theorem stable_float {d : Dialect} (hd : d ≠ .clickHouse) (t : AbstractType)
    (arguments : List UInt32) : Stable d (float.render t arguments d) := by
  have hword : ∀ d, (∀ u, float.render (ofToken u) [] d = float.name.toList) →
      Stable d "FLOAT".toList := fun d h => stable_name (k := .float) h
  have hone : ∀ d p, (∀ u, float.render (ofToken u) [p] d = float.name.toList ++ oneParameter p) →
      Stable d ("FLOAT".toList ++ oneParameter p) := by
    intro d p h
    rw [oneParameter_eq] at h ⊢
    exact stable_numbers (k := .float) h
  unfold render
  dsimp only
  generalize t.precision.or arguments[0]? = precision
  cases precision with
  | none =>
      cases d with
      | clickHouse => exact absurd rfl hd
      | postgreSql => exact stable_word _ "REAL" (by decide)
      | _ => exact hword _ fun _ => rfl
  | some p =>
      cases d with
      | clickHouse => exact absurd rfl hd
      | mySql | postgreSql => exact hone _ p fun _ => rfl
      | _ => exact hword _ fun _ => rfl

/-- **In any dialect but ClickHouse, what the row of a built-in type shows is stable.** -/
theorem stable_render {d : Dialect} (hd : d ≠ .clickHouse) (t : AbstractType)
    (arguments : List UInt32) (k : BuiltIn) : Stable d (k.render t arguments d) := by
  cases k with
  | string =>
      cases d with
      | clickHouse => exact absurd rfl hd
      | postgreSql => exact stable_word _ "TEXT" (by decide)
      | _ => exact stable_name (k := .string) fun _ => rfl
  | date =>
      have hrow : ∀ t args, date.render t args d = date.name.toList := fun _ _ => if_neg hd
      exact (hrow t arguments).symm ▸ stable_name fun _ => hrow _ _
  | timestamp =>
      have hrow : ∀ t args, timestamp.render t args d = timestamp.name.toList := fun _ _ => if_neg hd
      exact (hrow t arguments).symm ▸ stable_name fun _ => hrow _ _
  | double =>
      cases d with
      | clickHouse => exact absurd rfl hd
      | postgreSql => exact stable_word _ "DOUBLE PRECISION" (by decide)
      | _ => exact stable_name (k := .double) fun _ => rfl
  | decimal =>
      have hrow : ∀ t args, decimal.render t args d = decimal.name.toList ++
          decimalParameters (t.precision.or args[0]?) (t.scale.or args[1]?) :=
        fun _ _ => congrArg (· ++ _) (if_neg hd)
      obtain ⟨ns, hshow, hback⟩ :=
        decimalParameters_eq (t.precision.or arguments[0]?) (t.scale.or arguments[1]?)
      rw [hrow, hshow]
      refine stable_numbers fun u => ?_
      rw [hrow, ← hback]
      rfl
  | varchar =>
      have hrow : ∀ t args, varchar.render t args d = varchar.name.toList ++
          oneParameter ((t.length.or args[0]?).getD defaultVarcharLength) := fun _ _ => if_neg hd
      rw [hrow, oneParameter_eq]
      refine stable_numbers fun u => ?_
      rw [hrow, oneParameter_eq]
      rfl
  | char =>
      have hrow : ∀ t args, char.render t args d = char.name.toList ++
          oneParameter ((t.length.or args[0]?).getD defaultCharLength) :=
        fun _ _ => congrArg (· ++ _) (if_neg hd)
      rw [hrow, oneParameter_eq]
      refine stable_numbers fun u => ?_
      rw [hrow, oneParameter_eq]
      rfl
  | float => exact stable_float hd t arguments

end BuiltIn

/-! ## 4. Types -/

namespace AbstractType

/-- Parameters behind a token that spells no built-in type do not make it spell one. -/
theorem not_spells_parameters {r : List Char} (hr : TokenForm r) (hopen : '(' ∉ r)
    (h : ∀ k args, ¬ BuiltIn.Spells k r args) (ns : Option (List UInt32)) (k : BuiltIn)
    (args : List UInt32) : ¬ k.Spells (r ++ enclosed (ns.map numbers)) args := by
  intro hspells
  cases ns with
  | none => exact h k args (by simpa [enclosed] using hspells)
  | some ns =>
      have hend : trimEnd r = r := hr.trimmed ▸ trimEnd_trim r
      obtain rfl := hspells.eq_name hopen hend
      exact h k [] .alone

/-- **A type is stable as it is written in any dialect but ClickHouse.** In that one a point in time is
not: `DateTime` becomes `DATETIME`. -/
theorem columnType_columnType_iff (d : Dialect) :
    (∀ t : AbstractType, (ofToken (t.columnType d)).columnType d = t.columnType d) ↔
      d ≠ .clickHouse := by
  constructor
  · rintro h rfl
    have hno : (ofToken (timestamp.columnType .clickHouse)).columnType .clickHouse ≠
        timestamp.columnType .clickHouse := by decide +kernel
    exact hno (h timestamp)
  · intro hd t
    cases hrow : t.row? with
    | some p =>
        rw [columnType_of_spells (row?_eq_some_iff.mp hrow)]
        exact BuiltIn.stable_render hd t p.2 p.1
    | none =>
        have hspells : ∀ k args, ¬ BuiltIn.Spells k t.token args := by
          intro k args h
          rw [row?_eq_some_iff.mpr h] at hrow
          cases hrow
        rw [columnType_of_not_spells hspells]
        by_cases hopen : '(' ∈ t.token
        · rw [if_pos hopen]
          exact stable_of_not_spells t.tokenForm_token hspells d
        · obtain ⟨ns, hns⟩ := t.parameters_eq
          rw [if_neg hopen, display, hns]
          exact stable_of_not_spells (t.tokenForm_token.parameters ns)
            (not_spells_parameters t.tokenForm_token hopen hspells ns) d

end AbstractType

end TableDraft

import TableDraft.Command.Options

/-!
# Adding a switch to the arguments

Which changes the arguments ask for does not depend on the options that are there. So a switch among
the arguments is one change among theirs, and as long as it is the only one of its name, the options
are the same without it but for what it switches.

* `changes`, `changeAll`, **`parseFrom_eq_options_iff`: reading the arguments is making their changes**;
* `changes_insert`: a switch put in front of an argument is one change more;
* `changed?_setCheck`, `changeAll_insert`: the changes do not look at the switch for checks;
* **`parse_insert_check`, `parse_cons_check`: arguments with `--check` are those without it**, with the
  switch on.
-/

namespace TableDraft.Command

open Options

/-! ## 1. The changes that arguments ask for -/

/-- The changes that arguments ask for; none when they ask for help or are none that can be read. -/
def changes : List String → Option (List Change)
  | [] => some []
  | arg :: rest =>
    match Argument.ofString arg with
    | .help | .unknown => none
    | .onlyInputs => some (rest.map .input)
    | .change c => (changes rest).map (c :: ·)
    | .option name =>
      match rest with
      | [] => none
      | value :: rest =>
        if isOptionLike value then none else (changes rest).map (.value name value :: ·)

/-- Makes changes one after the other. -/
def changeAll (o : Options) : List Change → Option Options
  | [] => some o
  | c :: cs => (o.changed? c).bind (changeAll · cs)

theorem addInputs?_eq : ∀ (o : Options) (paths : List String),
    o.addInputs? paths = changeAll o (paths.map .input)
  | _, [] => rfl
  | o, p :: paths => by
      rw [addInputs?, List.map_cons, changeAll, changed?]
      exact congrArg _ (funext fun o' => addInputs?_eq o' paths)

theorem Parsed.ofOption_eq_options {o? : Option Options} {next : Options → Parsed} {o' : Options} :
    Parsed.ofOption o? next = .options o' ↔ ∃ o, o? = some o ∧ next o = .options o' := by
  cases o? with
  | none => simp [Parsed.ofOption]
  | some o => simp [Parsed.ofOption]

/-- Making a change and then those of the rest is making all of them. -/
theorem ofOption_change_iff {o o' : Options} {c : Change} {next : Options → Parsed}
    {rest : Option (List Change)}
    (h : ∀ o₁, next o₁ = .options o' ↔ ∃ cs, rest = some cs ∧ changeAll o₁ cs = some o') :
    Parsed.ofOption (o.changed? c) next = .options o' ↔
      ∃ cs, rest.map (c :: ·) = some cs ∧ changeAll o cs = some o' := by
  rw [Parsed.ofOption_eq_options]
  constructor
  · rintro ⟨o₁, ho₁, hnext⟩
    obtain ⟨cs, rfl, hcs⟩ := (h o₁).mp hnext
    exact ⟨c :: cs, rfl, by rw [changeAll, ho₁, Option.bind_some, hcs]⟩
  · rintro ⟨cs, hcs, ho'⟩
    obtain ⟨cs, rfl, rfl⟩ := Option.map_eq_some_iff.mp hcs
    obtain ⟨o₁, ho₁, hrest⟩ := Option.bind_eq_some_iff.mp ho'
    exact ⟨o₁, ho₁, (h o₁).mpr ⟨cs, rfl, hrest⟩⟩

/-- **Reading the arguments is making their changes.** -/
theorem parseFrom_eq_options_iff : ∀ {args : List String} {o o' : Options},
    parseFrom o args = .options o' ↔ ∃ cs, changes args = some cs ∧ changeAll o cs = some o'
  | [], o, o' => by simp [parseFrom, changes, changeAll]
  | arg :: rest, o, o' => by
      rw [parseFrom, changes]
      cases Argument.ofString arg with
      | help => simp
      | unknown => simp
      | onlyInputs => simp [Parsed.ofOption_eq_options, addInputs?_eq]
      | change c => exact ofOption_change_iff fun _ => parseFrom_eq_options_iff
      | option name =>
          cases rest with
          | nil => simp
          | cons value rest =>
              dsimp only
              split
              · simp
              · exact ofOption_change_iff fun _ => parseFrom_eq_options_iff

/-! ## 2. A switch among the arguments -/

/-- Only two dashes make everything after them an input file. -/
theorem eq_of_onlyInputs {arg : String} (h : Argument.ofString arg = .onlyInputs) : arg = "--" := by
  unfold Argument.ofString at h
  split at h
  case h_1 htext => exact String.toList_inj.mp htext
  case h_2 =>
      dsimp only at h
      split at h
      · cases h
      · repeat' split at h
        all_goals cases h
  all_goals cases h

/-- **A switch that is put in front of an argument is one change more**, at some place among those of
the arguments. -/
theorem changes_insert {s : String} {c : Change} (hs : Argument.ofString s = .change c)
    (hlike : isOptionLike s = true) (back : List String) : ∀ {front : List String} {cs : List Change},
    "--" ∉ front → changes (front ++ s :: back) = some cs →
    ∃ cs₁ cs₂, cs = cs₁ ++ c :: cs₂ ∧ changes (front ++ back) = some (cs₁ ++ cs₂)
  | [], cs, _, h => by
      rw [List.nil_append, changes, hs] at h
      obtain ⟨cs₂, hcs₂, rfl⟩ := Option.map_eq_some_iff.mp h
      exact ⟨[], cs₂, rfl, hcs₂⟩
  | arg :: front, cs, hfront, h => by
      rw [List.mem_cons, not_or] at hfront
      rw [List.cons_append, changes] at h ⊢
      cases harg : Argument.ofString arg with
      | help => simp [harg] at h
      | unknown => simp [harg] at h
      | onlyInputs => exact absurd (eq_of_onlyInputs harg).symm hfront.1
      | change d =>
          rw [harg] at h
          obtain ⟨cs', hcs', rfl⟩ := Option.map_eq_some_iff.mp h
          obtain ⟨cs₁, cs₂, rfl, hrest⟩ := changes_insert hs hlike back hfront.2 hcs'
          exact ⟨d :: cs₁, cs₂, rfl, by simp [hrest]⟩
      | option name =>
          cases front with
          | nil => simp [harg, hlike] at h
          | cons value front =>
              rw [List.mem_cons, not_or] at hfront
              simp only [harg, List.cons_append] at h ⊢
              split at h
              · cases h
              · rename_i hvalue
                obtain ⟨cs', hcs', rfl⟩ := Option.map_eq_some_iff.mp h
                obtain ⟨cs₁, cs₂, rfl, hrest⟩ := changes_insert hs hlike back hfront.2.2 hcs'
                exact ⟨.value name value :: cs₁, cs₂, rfl, by simp [hvalue, hrest]⟩

/-! ## 3. The switch for checks -/

/-- The options with the switch for checks set. -/
def Options.setCheck (b : Bool) (o : Options) : Options := { o with check := b }

/-- The options with the switch for checks on. -/
def Options.withCheck (o : Options) : Options := o.setCheck true

/-- The change that `--check` asks for. -/
def checkSwitch : Change := .switch "check"

theorem ofString_check : Argument.ofString "--check" = .change checkSwitch := by decide

theorem changed?_check (o : Options) :
    o.changed? checkSwitch = if o.check then none else some o.withCheck := rfl

theorem setCheck_self (o : Options) : o.setCheck o.check = o := rfl

section Change

variable (b : Bool)

theorem once_setCheck (old : Option String) (value : String) (put : Option String → Options) :
    once old value (fun v => (put v).setCheck b) = (once old value put).map (setCheck b) := by
  unfold once
  split <;> rfl

theorem oncePath_setCheck (old : Option String) (value : String) (put : Option String → Options) :
    oncePath old value (fun v => (put v).setCheck b) = (oncePath old value put).map (setCheck b) := by
  unfold oncePath
  split
  · rfl
  · exact once_setCheck b old value put

theorem setValue?_setCheck (o : Options) (name value : String) :
    (o.setCheck b).setValue? name value = (o.setValue? name value).map (setCheck b) := by
  unfold setValue?
  split
  · rfl
  · exact oncePath_setCheck b o.rules value fun v => { o with rules := v }
  · exact oncePath_setCheck b o.request value fun v => { o with request := v }
  · exact once_setCheck b o.tableName value fun v => { o with tableName := v }
  · exact once_setCheck b o.tableComment value fun v => { o with tableComment := v }
  · exact oncePath_setCheck b o.outputDir value fun v => { o with outputDir := v }
  · rfl

theorem setSwitch?_setCheck (o : Options) {name : String} (h : name ≠ "check") :
    (o.setCheck b).setSwitch? name = (o.setSwitch? name).map (setCheck b) := by
  unfold setSwitch?
  split
  · rw [apply_ite (Option.map (setCheck b))]
    rfl
  · exact absurd rfl h
  · rw [apply_ite (Option.map (setCheck b))]
    rfl
  · rfl

/-- **Every other change is made alike whether checks are on or not**, and leaves the switch as it
is. -/
theorem changed?_setCheck (o : Options) {c : Change} (hc : c ≠ checkSwitch) :
    (o.setCheck b).changed? c = (o.changed? c).map (setCheck b) := by
  cases c with
  | value name v => exact setValue?_setCheck b o name v
  | switch name => exact setSwitch?_setCheck b o fun h => hc (congrArg Change.switch h)
  | input path =>
      rw [changed?, changed?, addInput?, addInput?, apply_ite (Option.map (setCheck b))]
      rfl

theorem changeAll_setCheck : ∀ {cs : List Change} (o : Options), checkSwitch ∉ cs →
    changeAll (o.setCheck b) cs = (changeAll o cs).map (setCheck b)
  | [], _, _ => rfl
  | c :: cs, o, h => by
      rw [List.mem_cons, not_or] at h
      rw [changeAll, changeAll, changed?_setCheck b o (Ne.symm h.1)]
      cases o.changed? c with
      | none => rfl
      | some o₁ => exact changeAll_setCheck o₁ h.2

end Change

/-- Changes without the switch leave it as it is. -/
theorem check_of_changeAll {cs : List Change} {o o' : Options} (hcs : checkSwitch ∉ cs)
    (h : changeAll o cs = some o') : o'.check = o.check := by
  have hself := changeAll_setCheck o.check o hcs
  rw [setCheck_self, h, Option.map_some, Option.some.injEq] at hself
  rw [hself]
  rfl

/-- The switch is turned on once. -/
theorem notMem_of_changeAll : ∀ {cs : List Change} {o o' : Options}, o.check = true →
    changeAll o cs = some o' → checkSwitch ∉ cs
  | [], _, _, _, _ => List.not_mem_nil
  | c :: cs, o, o', ho, h => by
      obtain ⟨o₁, ho₁, hcs⟩ := Option.bind_eq_some_iff.mp h
      have hc : c ≠ checkSwitch := by
        rintro rfl
        rw [changed?_check, if_pos ho] at ho₁
        cases ho₁
      have hcheck : o₁.check = true := by
        have hone : changeAll o [c] = some o₁ := by rw [changeAll, ho₁]; rfl
        rw [check_of_changeAll (by simpa using Ne.symm hc) hone, ho]
      rw [List.mem_cons, not_or]
      exact ⟨Ne.symm hc, notMem_of_changeAll hcheck hcs⟩

/-- Options without the switch do not come from changes with it. -/
theorem notMem_of_check : ∀ {cs : List Change} {o o' : Options}, o'.check = false →
    changeAll o cs = some o' → checkSwitch ∉ cs
  | [], _, _, _, _ => List.not_mem_nil
  | c :: cs, o, o', ho', h => by
      obtain ⟨o₁, ho₁, hcs⟩ := Option.bind_eq_some_iff.mp h
      have hmem : checkSwitch ∉ cs := notMem_of_check ho' hcs
      rw [List.mem_cons, not_or]
      refine ⟨?_, hmem⟩
      rintro rfl
      rw [changed?_check] at ho₁
      split at ho₁
      · cases ho₁
      · cases ho₁
        rw [check_of_changeAll hmem hcs] at ho'
        cases ho'

theorem changeAll_append : ∀ (o : Options) (cs ds : List Change),
    changeAll o (cs ++ ds) = (changeAll o cs).bind (changeAll · ds)
  | _, [], _ => rfl
  | o, c :: cs, ds => by
      rw [List.cons_append, changeAll, changeAll, Option.bind_assoc]
      exact congrArg _ (funext fun o₁ => changeAll_append o₁ cs ds)

/-- **The changes do not look at the switch for checks**: without it they give the same options but for
what it switches. -/
theorem changeAll_insert {cs ds : List Change} {o o' : Options} :
    changeAll o (cs ++ checkSwitch :: ds) = some o' ↔
      ∃ o₁, changeAll o (cs ++ ds) = some o₁ ∧ o₁.check = false ∧ o' = o₁.withCheck := by
  simp only [changeAll_append, Option.bind_eq_some_iff, changeAll, changed?_check]
  constructor
  · rintro ⟨a, ha, a', ha', hds⟩
    split at ha'
    · cases ha'
    · rename_i hcheck
      cases ha'
      have hmem : checkSwitch ∉ ds := notMem_of_changeAll rfl hds
      rw [withCheck, changeAll_setCheck true a hmem, Option.map_eq_some_iff] at hds
      obtain ⟨o₁, ho₁, rfl⟩ := hds
      exact ⟨o₁, ⟨a, ha, ho₁⟩, by rw [check_of_changeAll hmem ho₁, eq_false_of_ne_true hcheck], rfl⟩
  · rintro ⟨o₁, ⟨a, ha, hds⟩, hcheck, rfl⟩
    have hmem : checkSwitch ∉ ds := notMem_of_check hcheck hds
    have hfalse : ¬ a.check = true := by rw [← check_of_changeAll hmem hds, hcheck]; nofun
    refine ⟨a, ha, a.withCheck, if_neg hfalse, ?_⟩
    rw [withCheck, changeAll_setCheck true a hmem, hds]
    rfl

/-- **Accepted arguments with `--check` are accepted without it**, and ask for the same but for the
check. The switch stands where an argument may, before what makes the rest input files. -/
theorem parse_insert_check {front back : List String} {o' : Options} (hfront : "--" ∉ front)
    (h : parse (front ++ "--check" :: back) = .options o') :
    ∃ o, parse (front ++ back) = .options o ∧ o.check = false ∧ o' = o.withCheck := by
  obtain ⟨cs, hcs, ho'⟩ := parseFrom_eq_options_iff.mp h
  obtain ⟨cs₁, cs₂, rfl, hrest⟩ := changes_insert ofString_check (by decide) back hfront hcs
  obtain ⟨o, ho, hcheck, rfl⟩ := changeAll_insert.mp ho'
  exact ⟨o, parseFrom_eq_options_iff.mpr ⟨cs₁ ++ cs₂, hrest, ho⟩, hcheck, rfl⟩

/-- **Accepted arguments without `--check` are accepted with it in front.** -/
theorem parse_cons_check {args : List String} {o : Options} (h : parse args = .options o)
    (hcheck : o.check = false) : parse ("--check" :: args) = .options o.withCheck := by
  obtain ⟨cs, hcs, ho⟩ := parseFrom_eq_options_iff.mp h
  refine parseFrom_eq_options_iff.mpr ⟨checkSwitch :: cs, ?_, ?_⟩
  · rw [changes, ofString_check, hcs]
    rfl
  · rw [← List.nil_append (checkSwitch :: cs)]
    exact changeAll_insert.mpr ⟨o, ho, hcheck, rfl⟩

end TableDraft.Command

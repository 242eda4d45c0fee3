import TableDraft.Output.Disk
import TableDraft.Output.Writer
import TableDraft.Proofs.Basic

/-!
# Where paths lead

A walk over steps is a function with a bound on the links; `Leads` is the relation that it decides
(`walk_eq_ok_iff`), by which facts about walks are proved one step at a time:

* `Leads.mono`: steps that lead somewhere still do when directories are added;
* `Leads.stopped`, `Leads.followed`: a walk that stops at a link at the end, and one that does not;
* `Leads.dotless`: steps that stay where they are may be left out;
* `walk_names`, `Leads.names`: names that lead down;
* **`walk_append`: if steps lead to a place, further steps go on from there**;
* `steps_join`, `start_join`: the steps to a file are those to its directory and one more.
-/

namespace TableDraft.Output.FileTree

variable {t t' : FileTree} {follow : Bool} {n : Nat} {p q : Place} {step target : String}
  {way rest : List String}

/-! ## 1. Entries -/

/-- What is put at a place stands there, and nothing else changes. -/
theorem get?_put (hp : p ≠ []) (e : Entry) (q : Place) :
    (t.put p e).get? q = if q = p then some e else t.get? q := by
  cases q with
  | nil => exact (if_neg (Ne.symm hp)).symm
  | cons part rest => exact lookup_replaced _ _ _ _

/-- The root is a directory. -/
theorem ne_nil_of_get? (h : t.get? p ≠ some .directory) : p ≠ [] := by
  rintro rfl
  exact h rfl

/-! ## 2. Walks -/

/-- A step can be taken: from a directory, by a name of no more bytes than a name may have. -/
structure CanStep (t : FileTree) (p : Place) (step : String) : Prop where
  directory : t.get? p = some .directory
  short : step.utf8ByteSize ≤ maxPart

theorem walk_nil : t.walk follow n p [] = .ok p := by
  cases n with
  | zero => rfl
  | succ n => rfl

/-- From a place where nothing is no step can be taken. -/
theorem walk_missing (h : t.get? p = none) : t.walk follow n p (step :: rest) = .error .notFound := by
  cases n with
  | zero => rw [walk, walkWith, h]
  | succ n => rw [walk, walkWith, h]

/-- A step to something else than a link. -/
theorem walk_step (hstep : CanStep t p step)
    (hlink : ∀ target, t.get? (enter p step) ≠ some (.link target)) :
    t.walk follow n p (step :: rest) = t.walk follow n (enter p step) rest := by
  have hnext jump : t.walkWith jump follow p (step :: rest) =
      t.walkWith jump follow (enter p step) rest := by
    rw [walkWith, hstep.directory]
    dsimp only
    rw [if_neg (Nat.not_lt.mpr hstep.short)]
    split
    · next htarget => exact absurd htarget (hlink _)
    · rfl
  cases n with
  | zero => exact hnext _
  | succ n => exact hnext _

theorem walkWith_link {jump : Place → String → List String → Except FileFault Place}
    (hstep : CanStep t p step) (htarget : t.get? (enter p step) = some (.link target))
    (hfollow : rest = [] → follow = true) :
    t.walkWith jump follow p (step :: rest) = jump p target rest := by
  have hgo : (rest.isEmpty && !follow) = false := by
    cases rest with
    | nil => simp [hfollow rfl]
    | cons next rest => rfl
  rw [walkWith, hstep.directory]
  dsimp only
  rw [if_neg (Nat.not_lt.mpr hstep.short), htarget]
  dsimp only
  rw [hgo]
  rfl

/-- A step to a link which is followed. -/
theorem walk_link (hstep : CanStep t p step) (htarget : t.get? (enter p step) = some (.link target))
    (hfollow : rest = [] → follow = true) :
    t.walk follow (n + 1) p (step :: rest) =
      t.walk follow n (start p target) (linkSteps target ++ rest) :=
  walkWith_link hstep htarget hfollow

/-- A step to a link at the end which is what is meant. -/
theorem walk_last (hstep : CanStep t p step) (htarget : t.get? (enter p step) = some (.link target)) :
    t.walk false n p [step] = .ok (enter p step) := by
  have hlast jump : t.walkWith jump false p [step] = .ok (enter p step) := by
    rw [walkWith, hstep.directory]
    dsimp only
    rw [if_neg (Nat.not_lt.mpr hstep.short), htarget]
    rfl
  cases n with
  | zero => exact hlast _
  | succ n => exact hlast _

theorem canStep_of_walk (h : t.walk follow n p (step :: rest) = .ok q) : CanStep t p step := by
  have hwith {jump} (h : t.walkWith jump follow p (step :: rest) = .ok q) : CanStep t p step := by
    rw [walkWith] at h
    split at h
    · cases h
    · cases h
    · cases h
    · next hdirectory =>
        split at h
        · cases h
        · next hshort => exact ⟨hdirectory, Nat.not_lt.mp hshort⟩
  cases n with
  | zero => exact hwith h
  | succ n => exact hwith h

/-- What a walk does that can be taken: a step, or a link and what it stands for. -/
theorem walk_cons (h : t.walk follow n p (step :: rest) = .ok q) :
    CanStep t p step ∧
      ((∀ target, t.get? (enter p step) = some (.link target) → rest = [] ∧ follow = false) ∧
          t.walk follow n (enter p step) rest = .ok q ∨
        ∃ m target, n = m + 1 ∧ t.get? (enter p step) = some (.link target) ∧
          (rest = [] → follow = true) ∧
          t.walk follow m (start p target) (linkSteps target ++ rest) = .ok q) := by
  have hstep := canStep_of_walk h
  refine ⟨hstep, ?_⟩
  by_cases hlink : ∃ target, t.get? (enter p step) = some (.link target)
  · obtain ⟨target, htarget⟩ := hlink
    by_cases hlast : rest = [] ∧ follow = false
    · obtain ⟨rfl, rfl⟩ := hlast
      refine Or.inl ⟨fun _ _ => ⟨rfl, rfl⟩, ?_⟩
      rw [walk_last hstep htarget] at h
      rw [walk_nil, h]
    · have hfollow : rest = [] → follow = true :=
        fun hrest => eq_true_of_ne_false fun hfalse => hlast ⟨hrest, hfalse⟩
      cases n with
      | zero =>
          rw [walk, walkWith_link hstep htarget hfollow] at h
          cases h
      | succ n =>
          rw [walk_link hstep htarget hfollow] at h
          exact Or.inr ⟨n, target, rfl, htarget, hfollow, h⟩
  · have hnone : ∀ target, t.get? (enter p step) ≠ some (.link target) :=
      fun target htarget => hlink ⟨target, htarget⟩
    rw [walk_step hstep hnone] at h
    exact Or.inl ⟨fun target htarget => absurd htarget (hnone target), h⟩

/-! ## 3. Where steps lead -/

/-- The steps lead from one place to another, over so many links at most. -/
inductive Leads (t : FileTree) (follow : Bool) : Nat → Place → List String → Place → Prop where
  | here (n : Nat) (p : Place) : Leads t follow n p [] p
  | step {n : Nat} {p q : Place} {step : String} {rest : List String} (hstep : CanStep t p step)
      (hlink : ∀ target, t.get? (enter p step) = some (.link target) → rest = [] ∧ follow = false)
      (hrest : Leads t follow n (enter p step) rest q) : Leads t follow n p (step :: rest) q
  | link {n : Nat} {p q : Place} {step target : String} {rest : List String}
      (hstep : CanStep t p step) (htarget : t.get? (enter p step) = some (.link target))
      (hfollow : rest = [] → follow = true)
      (hrest : Leads t follow n (start p target) (linkSteps target ++ rest) q) :
      Leads t follow (n + 1) p (step :: rest) q

/-- **A walk succeeds exactly if its steps lead somewhere**, and ends there. The bound on the links
falls with each link, and the steps are fewer after each other one. -/
theorem walk_eq_ok_iff : t.walk follow n p way = .ok q ↔ Leads t follow n p way q := by
  constructor
  · induction n using Nat.strongRecOn generalizing p way with
    | ind n ihn =>
        induction way generalizing p with
        | nil =>
            intro h
            obtain rfl := Except.ok.inj (walk_nil.symm.trans h)
            exact .here n p
        | cons step rest ih =>
            intro h
            obtain ⟨hstep, ⟨hlink, hrest⟩ | ⟨m, target, rfl, htarget, hfollow, hrest⟩⟩ := walk_cons h
            · exact .step hstep hlink (ih hrest)
            · exact .link hstep htarget hfollow (ihn m (Nat.lt_succ_self m) hrest)
  · intro h
    induction h with
    | here n p => exact walk_nil
    | @step n p q step rest hstep hlink hrest ih =>
        by_cases hnone : ∃ target, t.get? (enter p step) = some (.link target)
        · obtain ⟨target, htarget⟩ := hnone
          obtain ⟨rfl, rfl⟩ := hlink target htarget
          rw [walk_last hstep htarget, ← ih, walk_nil]
        · rw [walk_step hstep fun target htarget => hnone ⟨target, htarget⟩]
          exact ih
    | link hstep htarget hfollow hrest ih =>
        rw [walk_link hstep htarget hfollow]
        exact ih

/-- The second tree has the directories of the first and the same links. -/
structure Extends (t t' : FileTree) : Prop where
  directory : ∀ q, t.get? q = some .directory → t'.get? q = some .directory
  link : ∀ q target, t'.get? q = some (.link target) ↔ t.get? q = some (.link target)

theorem CanStep.mono (h : CanStep t p step) (hext : Extends t t') : CanStep t' p step :=
  ⟨hext.directory p h.directory, h.short⟩

/-- **Where steps lead stays so** when directories are added. -/
theorem Leads.mono (h : Leads t follow n p way q) (hext : Extends t t') :
    Leads t' follow n p way q := by
  induction h with
  | here n p => exact .here n p
  | step hstep hlink _ ih =>
      exact .step (hstep.mono hext) (fun target htarget => hlink target ((hext.link _ _).mp htarget)) ih
  | link hstep htarget hfollow _ ih =>
      exact .link (hstep.mono hext) ((hext.link _ _).mpr htarget) hfollow ih

/-- If the last step does not lead to a link, it does not matter whether it would be followed. -/
theorem Leads.followed (h : Leads t false n p way q)
    (hq : ∀ target, t.get? q ≠ some (.link target)) : Leads t true n p way q := by
  induction h with
  | here n p => exact .here n p
  | step hstep hlink hrest ih =>
      refine .step hstep (fun target htarget => ?_) (ih hq)
      obtain ⟨rfl, -⟩ := hlink target htarget
      cases hrest
      exact absurd htarget (hq target)
  | link hstep htarget _ _ ih => exact .link hstep htarget (fun _ => rfl) (ih hq)

/-- Where steps lead to something they also do when a link at the end is not followed. -/
theorem Leads.stopped (h : Leads t true n p way q) (hq : t.get? q ≠ none) :
    ∃ r, Leads t false n p way r ∧ t.get? r ≠ none := by
  induction h with
  | here n p => exact ⟨p, .here n p, hq⟩
  | step hstep hlink _ ih =>
      obtain ⟨r, hr, hne⟩ := ih hq
      refine ⟨r, .step hstep (fun target htarget => ?_) hr, hne⟩
      exact nomatch (hlink target htarget).2
  | @link n p q step target rest hstep htarget _ _ ih =>
      by_cases hrest : rest = []
      · subst hrest
        refine ⟨enter p step, .step hstep (fun _ _ => ⟨rfl, rfl⟩) (.here n.succ _), ?_⟩
        rw [htarget]
        exact Option.some_ne_none _
      · obtain ⟨r, hr, hne⟩ := ih hq
        exact ⟨r, .link hstep htarget (fun h => absurd h hrest) hr, hne⟩

/-- **Further steps go on from the place that the first ones lead to.** -/
theorem walk_append (h : Leads t true n p way q) :
    ∃ m, ∀ follow rest, rest ≠ [] → t.walk follow n p (way ++ rest) = t.walk follow m q rest := by
  induction h with
  | here n p => exact ⟨n, fun _ _ _ => rfl⟩
  | step hstep hlink _ ih =>
      obtain ⟨m, hm⟩ := ih
      refine ⟨m, fun follow rest hrest => ?_⟩
      have hnone target : t.get? (enter _ _) ≠ some (.link target) :=
        fun htarget => nomatch (hlink target htarget).2
      rw [List.cons_append, walk_step hstep hnone, hm follow rest hrest]
  | link hstep htarget _ _ ih =>
      obtain ⟨m, hm⟩ := ih
      refine ⟨m, fun follow rest hrest => ?_⟩
      have hgo : ∀ {front : List String}, front ++ rest = [] → follow = true :=
        fun hnil => absurd hnil (List.append_ne_nil_of_right_ne_nil _ hrest)
      rw [List.cons_append, walk_link hstep htarget hgo, ← List.append_assoc, hm follow rest hrest]

/-! ## 4. Steps that stay -/

/-- Some of the steps that stay where they are may be left out. -/
inductive Thinned : List String → List String → Prop where
  | nil : Thinned [] []
  | drop {way way' : List String} (h : Thinned way way') : Thinned ("." :: way) way'
  | keep {way way' : List String} (step : String) (h : Thinned way way') :
      Thinned (step :: way) (step :: way')

theorem Thinned.append (front : List String) {way way' : List String} (h : Thinned way way') :
    Thinned (front ++ way) (front ++ way') := by
  induction front with
  | nil => exact h
  | cons step front ih => exact .keep step ih

theorem thinned_filter (way : List String) : Thinned way (way.filter (· != ".")) := by
  induction way with
  | nil => exact .nil
  | cons step way ih =>
      by_cases hstep : step = "."
      · subst hstep
        exact .drop ih
      · have hkeep : (step :: way).filter (· != ".") = step :: way.filter (· != ".") :=
          List.filter_cons_of_pos (bne_iff_ne.mpr hstep)
        rw [hkeep]
        exact .keep step ih

theorem Leads.thinned (h : Leads t true n p way q) {way' : List String}
    (hthin : Thinned way way') : Leads t true n p way' q := by
  induction h generalizing way' with
  | here n p =>
      cases hthin
      exact .here n p
  | step hstep hlink _ ih =>
      cases hthin with
      | drop hrest => exact ih hrest
      | keep _ hrest =>
          refine .step hstep (fun target htarget => ?_) (ih hrest)
          exact nomatch (hlink target htarget).2
  | link hstep htarget _ _ ih =>
      cases hthin with
      | drop hrest =>
          -- a step that stays leads to a directory, which is no link
          have hdirectory := hstep.directory.symm.trans htarget
          cases hdirectory
      | keep _ hrest => exact .link hstep htarget (fun _ => rfl) (ih (hrest.append _))

/-- **Steps that stay where they are may be left out.** -/
theorem Leads.dotless (h : Leads t true n p way q) :
    Leads t true n p (way.filter (· != ".")) q :=
  h.thinned (thinned_filter way)

/-! ## 5. Names -/

/-- A step down, to what has its name. -/
def IsName (step : String) : Prop := step ≠ "." ∧ step ≠ ".."

instance (step : String) : Decidable (IsName step) := inferInstanceAs (Decidable (_ ∧ _))

theorem enter_name {step : String} (h : IsName step) (p : Place) :
    enter p step = p ++ [step] := by
  rw [enter, if_neg (by simpa using h.1), if_neg (by simpa using h.2)]

/-- A way down over directories, by their names. -/
theorem walk_names {follow : Bool} {n : Nat} {back : List String}
    (hname : ∀ step ∈ back, IsName step) (hshort : ∀ step ∈ back, step.utf8ByteSize ≤ maxPart)
    (hover : ∀ way, way <+: back → way ≠ back → t.get? (q ++ way) = some .directory)
    (hlast : ∀ target, t.get? (q ++ back) ≠ some (.link target)) :
    t.walk follow n q back = .ok (q ++ back) := by
  induction back generalizing q with
  | nil => rw [walk_nil, List.append_nil]
  | cons step rest ih =>
      have henter := enter_name (hname step List.mem_cons_self) q
      have hq : t.get? q = some .directory := by
        simpa using hover [] List.nil_prefix (List.cons_ne_nil step rest).symm
      have happend way : q ++ [step] ++ way = q ++ step :: way := by rw [List.append_assoc]; rfl
      have hnext target : t.get? (enter q step) ≠ some (.link target) := by
        rw [henter]
        cases rest with
        | nil => exact hlast target
        | cons next rest =>
            rw [hover [step] (by simp) (by simp)]
            exact nofun
      rw [walk_step ⟨hq, hshort step List.mem_cons_self⟩ hnext, henter, ih, happend]
      · exact fun s hs => hname s (List.mem_cons_of_mem step hs)
      · exact fun s hs => hshort s (List.mem_cons_of_mem step hs)
      · intro way hway hne
        rw [happend]
        exact hover (step :: way) (List.cons_prefix_cons.mpr ⟨rfl, hway⟩) (by simpa using hne)
      · rw [happend]
        exact hlast

/-- Names that lead down lead over directories, if they lead over no links. -/
theorem Leads.names {follow : Bool} {n : Nat} {back : List String} {r : Place}
    (h : Leads t follow n q back r) (hname : ∀ step ∈ back, IsName step)
    (hlink : ∀ way, way <+: back → way ≠ [] → ∀ target, t.get? (q ++ way) ≠ some (.link target)) :
    r = q ++ back ∧ ∀ way, way <+: back → way ≠ back → t.get? (q ++ way) = some .directory := by
  induction back generalizing n q with
  | nil =>
      cases h
      exact ⟨(List.append_nil _).symm, fun way hway hne => absurd (List.prefix_nil.mp hway) hne⟩
  | cons step rest ih =>
      have henter := enter_name (hname step List.mem_cons_self) q
      have happend way : q ++ [step] ++ way = q ++ step :: way := by rw [List.append_assoc]; rfl
      cases h with
      | link hstep htarget _ _ =>
          rw [henter] at htarget
          exact absurd htarget (hlink [step] (by simp) (by simp) _)
      | step hstep _ hrest =>
          rw [henter] at hrest
          obtain ⟨hr, hover⟩ := ih hrest (fun s hs => hname s (List.mem_cons_of_mem step hs))
            fun way hway _ => by
              rw [happend]
              exact hlink (step :: way) (List.cons_prefix_cons.mpr ⟨rfl, hway⟩) (by simp)
          refine ⟨hr.trans (happend rest), fun way hway hne => ?_⟩
          cases way with
          | nil => simpa using hstep.directory
          | cons next way =>
              obtain ⟨rfl, hbelow⟩ := List.cons_prefix_cons.mp hway
              rw [← happend]
              exact hover way hbelow (by simpa using hne)

/-! ## 6. Paths -/

theorem resolve_ok_iff {here : Place} {path : String} : t.resolve here path = .ok q ↔
    checkPath path = .ok () ∧ Leads t true maxLinks (start here path) (steps path) q := by
  rw [← walk_eq_ok_iff, resolve]
  cases checkPath path with
  | error f => exact iff_of_false nofun nofun
  | ok _ => exact (and_iff_right rfl).symm

theorem isDirectory_iff : t.isDirectory p way = true ↔
    ∃ q, Leads t true maxLinks p way q ∧ t.get? q = some .directory := by
  unfold isDirectory
  cases hwalk : t.walk true maxLinks p way with
  | error f =>
      refine iff_of_false Bool.false_ne_true ?_
      rintro ⟨q, hq, -⟩
      rw [walk_eq_ok_iff.mpr hq] at hwalk
      cases hwalk
  | ok q =>
      have hq := walk_eq_ok_iff.mp hwalk
      refine beq_iff_eq.trans ⟨fun hget => ⟨q, hq, hget⟩, ?_⟩
      rintro ⟨r, hr, hget⟩
      rw [walk_eq_ok_iff.mpr hr] at hwalk
      exact Except.ok.inj hwalk ▸ hget

/-- A part of a path with no path in it: neither empty nor a way to the same directory or up. -/
structure IsPlain (file : String) : Prop where
  slash : '/' ∉ file.toList
  ne_empty : file ≠ ""
  ne_here : file ≠ "."
  ne_up : file ≠ ".."

variable {dir file : String}

theorem steps_of_isPlain (h : IsPlain file) : steps file = [file] := by
  rw [steps, List.splitOn_eq_singleton h.slash, List.map_singleton, String.ofList_toList]
  exact List.filter_cons_of_pos (bne_iff_ne.mpr h.ne_empty)

theorem steps_of_slash {path front back : String}
    (h : path.toList = front.toList ++ '/' :: back.toList) : steps path = steps front ++ steps back := by
  rw [steps, h, List.splitOn_append_cons_self, List.map_append, List.filter_append]
  rfl

/-- A file of a directory is a path with one slash before its name. -/
theorem toList_join (hdir : dir ≠ "") : ∃ front : String,
    (join dir file).toList = front.toList ++ '/' :: file.toList ∧
      (dir.toList = front.toList ∨ dir.toList = front.toList ++ ['/']) := by
  unfold join
  split
  · next h =>
      have hlast : dir.toList.getLast? = some '/' := by
        rw [Bool.or_eq_true, String.isEmpty_iff] at h
        exact eq_of_beq (h.resolve_left hdir)
      obtain ⟨front, hfront⟩ := List.getLast?_eq_some_iff.mp hlast
      refine ⟨String.ofList front, ?_, Or.inr ?_⟩
      · rw [String.toList_append, hfront, String.toList_ofList, List.append_assoc]
        rfl
      · rw [hfront, String.toList_ofList]
  · refine ⟨dir, ?_, Or.inl rfl⟩
    rw [String.toList_append, String.toList_append, List.append_assoc]
    rfl

/-- The steps to a file are those to its directory and one more. -/
theorem steps_join (h : IsPlain file) : steps (join dir file) = steps dir ++ [file] := by
  by_cases hdir : dir = ""
  · subst hdir
    exact steps_of_isPlain h
  · obtain ⟨front, hjoin, hfront | hfront⟩ := toList_join hdir
    · rw [steps_of_slash hjoin, steps_of_isPlain h, String.toList_inj.mp hfront]
    · have hback : steps dir = steps front ++ steps "" := steps_of_slash hfront
      rw [steps_of_slash hjoin, steps_of_isPlain h, hback]
      exact congrArg (· ++ [file]) (List.append_nil _).symm

/-- A file of a directory is looked up from where its directory is. -/
theorem start_join (here : Place) (h : IsPlain file) : start here (join dir file) = start here dir := by
  suffices hslash : isAbsolute (join dir file) = isAbsolute dir by rw [start, start, hslash]
  by_cases hdir : dir = ""
  · subst hdir
    rw [Bool.eq_iff_iff]
    refine iff_of_false (fun habsolute => h.slash ?_) (by decide)
    exact List.mem_of_head? (eq_of_beq habsolute)
  · have hne : dir.toList ≠ [] := fun hnil => hdir (String.toList_eq_nil_iff.mp hnil)
    obtain ⟨front, hjoin, hfront⟩ := toList_join hdir
    rw [isAbsolute, isAbsolute, hjoin]
    cases hchars : front.toList with
    | nil =>
        rw [hchars] at hfront
        rw [hfront.resolve_left hne]
        rfl
    | cons c cs =>
        rw [hchars] at hfront
        rcases hfront with hfront | hfront
        · rw [hfront]
          rfl
        · rw [hfront]
          rfl

end TableDraft.Output.FileTree

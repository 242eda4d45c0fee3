import TableDraft.Pattern.Engine
import TableDraft.Proofs.Ddl.Identifiers
import TableDraft.Proofs.Output.FileContents
import TableDraft.Proofs.Output.MadeDirectories

/-!
# The files that are written

Statements are written into a directory, each to a file of its own, until one cannot be written.

* **`checkName_eq_ok_iff`: which names are refused**;
* `fileName_of_mem_drafts`, `isPlain_fileName`: a statement that was drafted goes to `name_id.sql`, for
  an identifier in the spelling of the dialect, and this is a plain name;
* `Writes`: some statements are written one after the other, by any host; `writeEach_cases` says that a
  run writes all of them, or those before one that cannot be written;
* `writes_written`: what the files hold once statements are written, and `writeText_error`: what a write
  leaves that fails;
* `WrittenInto`: the directory is made, statements are written into it, and nothing else is changed;
* `Writable`: nothing is in the way of the files, and then all are written (`Writable.writeDrafts`);
* **`written_files`: what a run changes, however it ends**.
-/

namespace TableDraft.Output

open Ddl Select Text FileTree Disk

/-! ## 1. Names -/

/-- The name is blank, leads up, or has a separator of some system's paths in it. -/
def IsRefused (name : String) : Prop :=
  isBlankText name.toList = true ∨ name = ".." ∨ '/' ∈ name.toList ∨ '\\' ∈ name.toList

/-- **A name is accepted exactly if it is not blank, not `..`, and has no slash or backslash.** Of the
names without slashes, the check for parts that lead up refuses `..` alone. -/
theorem checkName_eq_ok_iff {name : String} : checkName name = .ok () ↔ ¬ IsRefused name := by
  have hup : '/' ∉ name.toList → ((name.toList.splitOn '/').contains "..".toList ↔ name = "..") := by
    intro hslash
    rw [List.splitOn_eq_singleton hslash, List.contains_iff_mem, List.mem_singleton, String.toList_inj,
      eq_comm]
  unfold checkName
  dsimp only
  split
  · next hblank => exact iff_of_false nofun (not_not.mpr (Or.inl hblank))
  · next hblank =>
      split
      · next habsolute =>
          have hslash : '/' ∈ name.toList := List.mem_of_head? (eq_of_beq habsolute)
          exact iff_of_false nofun (not_not.mpr (Or.inr (Or.inr (Or.inl hslash))))
      · split
        · next hparts =>
            refine iff_of_false nofun (not_not.mpr (Or.inr ?_))
            by_cases hslash : '/' ∈ name.toList
            · exact Or.inr (Or.inl hslash)
            · exact Or.inl ((hup hslash).mp hparts)
        · next hparts =>
            split
            · next hseparators =>
                rw [Bool.or_eq_true, List.contains_iff_mem, List.contains_iff_mem] at hseparators
                exact iff_of_false nofun (not_not.mpr (Or.inr (Or.inr hseparators)))
            · next hseparators =>
                rw [Bool.or_eq_true, List.contains_iff_mem, List.contains_iff_mem] at hseparators
                refine iff_of_true rfl ?_
                rintro (h | h | h)
                · exact hblank h
                · exact hparts ((hup fun hslash => hseparators (Or.inl hslash)).mpr h)
                · exact hseparators h

theorem checkName_eq_error_iff {name : String} :
    (∃ e, checkName name = .error e) ↔ IsRefused name := by
  rw [← not_iff_not, ← checkName_eq_ok_iff]
  cases hcheck : checkName name with
  | ok _ => simp
  | error e => simp

/-! ## 2. The names of files -/

/-- The identifiers that name a dialect, in the spelling in which they are compared. -/
def knownIds : List String := "postgres" :: Dialect.all.map Dialect.id

theorem mem_knownIds {id : String} {d : Dialect} (h : Dialect.ofNormalId? id = some d) :
    id ∈ knownIds := by
  unfold Dialect.ofNormalId? at h
  split at h
  · next hshort => exact hshort ▸ List.mem_cons_self
  · have hd := List.find?_some h
    rw [← eq_of_beq hd]
    exact List.mem_cons_of_mem _ (List.mem_map_of_mem (List.mem_of_find?_eq_some h))

/-- **The file of a statement has a known identifier in its name.** -/
theorem fileName_of_mem_drafts [PatternEngine] {fields : List Field} {rules : RuleSet} {ids : List String}
    {options : TableOptions} {d : Draft} (hd : d ∈ drafts fields rules ids options) (name : String) :
    ∃ id ∈ knownIds, fileName name d = name ++ "_" ++ id ++ ".sql" := by
  obtain ⟨id, -, dialect, hid, rfl⟩ := mem_drafts_iff.mp hd
  refine ⟨_, mem_knownIds hid, ?_⟩
  simp only [fileName, lowered, trimmed, String.toList_ofList]

theorem isPlain_fileName {name id : String} (hname : '/' ∉ name.toList) (hid : id ∈ knownIds) :
    IsPlain (name ++ "_" ++ id ++ ".sql") := by
  have hslash : ∀ i ∈ knownIds, '/' ∉ i.toList := by decide
  have hlength : 4 ≤ (name ++ "_" ++ id ++ ".sql").length := by
    rw [String.length_append]
    exact Nat.le_add_left _ _
  refine ⟨?_, ?_, ?_, ?_⟩
  · simp [String.toList_append, hname, hslash id hid]
  all_goals
    intro h
    rw [h] at hlength
    exact absurd hlength (by decide)

/-! ## 3. Runs -/

section Runs

variable {σ : Type} (host : Host (StateM σ)) (dir name : String)

/-- The host writes the statements one after the other, and none fails. -/
inductive Writes : List Draft → σ → σ → Prop where
  | nil (s : σ) : Writes [] s s
  | cons {d : Draft} {rest : List Draft} {s s' s'' : σ}
      (hfirst : (host.writeText (join dir (fileName name d)) (d.ddl ++ "\n")).run s = (.ok (), s'))
      (hrest : Writes rest s' s'') : Writes (d :: rest) s s''

/-- The complaint about a statement that cannot be written. -/
def unwritten (d : Draft) (f : FileFault) : DraftError :=
  .output ("Failed to write " ++ join dir (fileName name d) ++ ": " ++ f.message)

/-- The complaint about a directory that cannot be made. -/
def unmade (f : FileFault) : DraftError :=
  .output ("Failed to create output directory: " ++ f.message)

variable {host dir name}

theorem writeEach_ok {d : Draft} {rest : List Draft} {s s' : σ}
    (h : (host.writeText (join dir (fileName name d)) (d.ddl ++ "\n")).run s = (.ok (), s')) :
    (writeEach host dir name (d :: rest)).run s = (writeEach host dir name rest).run s' := by
  rw [writeEach, StateT.run_bind, h]
  rfl

theorem writeEach_error {d : Draft} {rest : List Draft} {s s' : σ} {f : FileFault}
    (h : (host.writeText (join dir (fileName name d)) (d.ddl ++ "\n")).run s = (.error f, s')) :
    (writeEach host dir name (d :: rest)).run s = (.error (unwritten dir name d f), s') := by
  rw [writeEach, StateT.run_bind, h]
  rfl

/-- **A run writes all statements, or those before the first that cannot be written.** -/
theorem writeEach_cases (ds : List Draft) (s : σ) :
    (∃ s', Writes host dir name ds s s' ∧ (writeEach host dir name ds).run s = (.ok (), s')) ∨
    ∃ before d after f s' s'', ds = before ++ d :: after ∧ Writes host dir name before s s' ∧
      (host.writeText (join dir (fileName name d)) (d.ddl ++ "\n")).run s' = (.error f, s'') ∧
      (writeEach host dir name ds).run s = (.error (unwritten dir name d f), s'') := by
  induction ds generalizing s with
  | nil => exact Or.inl ⟨s, .nil s, rfl⟩
  | cons d ds ih =>
      cases hwrite : (host.writeText (join dir (fileName name d)) (d.ddl ++ "\n")).run s with
      | mk result s' =>
          cases result with
          | error f =>
              exact Or.inr ⟨[], d, ds, f, s, s', rfl, .nil s, hwrite, writeEach_error hwrite⟩
          | ok _ =>
              rw [writeEach_ok hwrite]
              rcases ih s' with ⟨s'', hwrites, hrun⟩ |
                ⟨before, d', after, f, t, t', rfl, hwrites, hstop, hrun⟩
              · exact Or.inl ⟨s'', .cons hwrite hwrites, hrun⟩
              · exact Or.inr
                  ⟨d :: before, d', after, f, t, t', rfl, .cons hwrite hwrites, hstop, hrun⟩

theorem writeDrafts_refused {e : DraftError} (h : checkName name = .error e) (ds : List Draft) (s : σ) :
    (writeDrafts host dir name ds).run s = (.error e, s) := by
  rw [writeDrafts, h]
  rfl

theorem writeDrafts_unmade (hname : checkName name = .ok ()) {f : FileFault} {s s' : σ}
    (h : (host.makeDirs dir).run s = (.error f, s')) (ds : List Draft) :
    (writeDrafts host dir name ds).run s = (.error (unmade f), s') := by
  rw [writeDrafts, hname]
  dsimp only
  rw [StateT.run_bind, h]
  rfl

theorem writeDrafts_made (hname : checkName name = .ok ()) {s s' : σ}
    (h : (host.makeDirs dir).run s = (.ok (), s')) (ds : List Draft) :
    (writeDrafts host dir name ds).run s = (writeEach host dir name ds).run s' := by
  rw [writeDrafts, hname]
  dsimp only
  rw [StateT.run_bind, h]
  rfl

end Runs

/-! ## 4. Writes to a disk -/

section Writes

variable {troubles : Troubles} {here : Place} {path text : String} {s s' : Disk}

/-- A write that fails changes nothing, or it leaves the file with the bytes that came first. -/
def BrokenOff (here : Place) (path text : String) (t t' : FileTree) : Prop :=
  t' = t ∨ ∃ bytes, Written here [(path, cut text bytes)] t t'

theorem writeText_ok (h : writeText troubles here path text s = (.ok (), s')) :
    Written here [(path, some text)] s.tree s'.tree := by
  unfold writeText at h
  split at h
  · unfold change at h
    split at h
    · next t hwrite =>
        obtain ⟨-, rfl⟩ := Prod.mk.inj h
        exact write_written hwrite
    · cases (Prod.mk.inj h).1
  · cases (Prod.mk.inj h).1
  · split at h
    · cases (Prod.mk.inj h).1
    · cases (Prod.mk.inj h).1

theorem writeText_error {f : FileFault} (h : writeText troubles here path text s = (.error f, s')) :
    BrokenOff here path text s.tree s'.tree := by
  unfold writeText at h
  split at h
  · unfold change at h
    split at h
    · cases (Prod.mk.inj h).1
    · obtain ⟨-, rfl⟩ := Prod.mk.inj h
      exact Or.inl rfl
  · obtain ⟨-, rfl⟩ := Prod.mk.inj h
    exact Or.inl rfl
  · next bytes f' _ =>
      split at h
      · next t hwrite =>
          obtain ⟨-, rfl⟩ := Prod.mk.inj h
          exact Or.inr ⟨bytes, write_written hwrite⟩
      · obtain ⟨-, rfl⟩ := Prod.mk.inj h
        exact Or.inl rfl

end Writes

section Trees

variable (here : Place) (dir name : String)

/-- The paths that some statements go to, and what is written there. -/
def fileTexts (ds : List Draft) : List (String × Option String) :=
  ds.map fun d => (join dir (fileName name d), some (d.ddl ++ "\n"))

/-- Statements are written into a folder of a tree, and nothing else is changed. -/
structure WrittenBelow (folder : Place) (ds : List Draft) (made t' : FileTree) : Prop where
  leads : made.walk true maxLinks (start here dir) (steps dir) = .ok folder
  directory : dir = "" ∨ made.get? folder = some .directory
  /-- The path of a file leads right into the folder, unless a link stands there. -/
  file : ∀ d ∈ ds, (∀ target, made.get? (folder ++ [fileName name d]) ≠ some (.link target)) →
    made.resolve here (join dir (fileName name d)) = .ok (folder ++ [fileName name d])
  written : Written here (fileTexts dir name ds) made t'

/-- The directory is made, some statements are written into it, and nothing else is changed. -/
def WrittenInto (ds : List Draft) (t t' : FileTree) : Prop :=
  ∃ made folder, Grown (start here dir) (Begins dir) t made ∧
    WrittenBelow here dir name folder ds made t'

/-- Nothing is in the way of the directory, and once it is there, of any of the files on its own. -/
structure Writable (troubles : Troubles) (ds : List Draft) (s : Disk) : Prop where
  calm : ∀ n, troubles n = none
  dirPath : dir = "" ∨ checkPath dir = .ok ()
  clear : ∃ front back q, steps dir = front ++ back ∧ Clear s.tree (start here dir) front back q
  opens : ∀ d ∈ ds,
    ((makeDirs troubles here dir s).2.tree.write here (join dir (fileName name d)) none).isOk

variable {here dir name} {troubles : Troubles} {input : Option String} {s s' : Disk}

/-- **What the files hold once statements are written.** -/
theorem writes_written {ds : List Draft} (h : Writes (hostAt troubles here input) dir name ds s s') :
    Written here (fileTexts dir name ds) s.tree s'.tree := by
  induction h with
  | nil s => exact .refl here s.tree
  | cons hfirst _ ih => exact (writeText_ok hfirst).append ih

/-- A file right in the directory, unless a link stands there. -/
theorem resolve_file {t : FileTree} {folder q : Place} {file : String}
    (hleads : t.walk true maxLinks (start here dir) (steps dir) = .ok folder) (hfile : IsPlain file)
    (hq : t.resolve here (join dir file) = .ok q)
    (hlink : ∀ target, t.get? (folder ++ [file]) ≠ some (.link target)) : q = folder ++ [file] := by
  obtain ⟨-, hpath⟩ := resolve_ok_iff.mp hq
  rw [start_join here hfile, steps_join hfile] at hpath
  obtain ⟨m, hm⟩ := walk_append (walk_eq_ok_iff.mp hleads)
  have hlast : Leads t true m folder [file] q :=
    walk_eq_ok_iff.mp ((hm true [file] (List.cons_ne_nil _ _)).symm.trans (walk_eq_ok_iff.mpr hpath))
  refine (hlast.names (fun step hstep => ?_) fun way hway hne target => ?_).1
  · obtain rfl := List.mem_singleton.mp hstep
    exact ⟨hfile.ne_here, hfile.ne_up⟩
  · cases way with
    | nil => exact absurd rfl hne
    | cons step rest =>
        obtain ⟨rfl, hrest⟩ := List.cons_prefix_cons.mp hway
        obtain rfl := List.prefix_nil.mp hrest
        exact hlink target

theorem writtenInto_of_writes {ds : List Draft} {made : Disk}
    (hdirs : makeDirs troubles here dir s = (.ok (), made))
    (hplain : ∀ d ∈ ds, IsPlain (fileName name d))
    (h : Writes (hostAt troubles here input) dir name ds made s') :
    WrittenInto here dir name ds s.tree s'.tree := by
  have hwritten := writes_written h
  obtain ⟨hgrown, hthere⟩ := makeDirs_outcome troubles here dir s
  rw [hdirs] at hgrown hthere
  obtain ⟨folder, hleads, hdirectory⟩ : ∃ folder,
      made.tree.walk true maxLinks (start here dir) (steps dir) = .ok folder ∧
        (dir = "" ∨ made.tree.get? folder = some .directory) := by
    rcases hthere rfl with rfl | hthere
    · exact ⟨here, walk_nil, Or.inl rfl⟩
    · obtain ⟨folder, hfolder, hget⟩ := isDirectory_iff.mp hthere
      exact ⟨folder, walk_eq_ok_iff.mpr hfolder, Or.inr hget⟩
  refine ⟨made.tree, folder, hgrown, hleads, hdirectory, fun d hd hlink => ?_, hwritten⟩
  obtain ⟨q, hq⟩ := hwritten.leads _ (List.mem_map_of_mem hd)
  exact hq.trans (congrArg _ (resolve_file hleads (hplain d hd) hq hlink))

variable (here dir troubles input s) in
/-- **How a run ends.** The directory cannot be made, or a statement cannot be written and those before
it are, or all are written. -/
theorem writeDrafts_cases (hname : checkName name = .ok ()) {ds : List Draft}
    (hplain : ∀ d ∈ ds, IsPlain (fileName name d)) :
    let host := hostAt troubles here input
    let ended := (writeDrafts host dir name ds).run s
    (∃ f, ended.1 = .error (unmade f) ∧ (host.makeDirs dir).run s = (.error f, ended.2) ∧
        Grown (start here dir) (Begins dir) s.tree ended.2.tree) ∨
      (∃ before d after f done, ds = before ++ d :: after ∧
        ended.1 = .error (unwritten dir name d f) ∧
        WrittenInto here dir name before s.tree done.tree ∧
        (host.writeText (join dir (fileName name d)) (d.ddl ++ "\n")).run done = (.error f, ended.2) ∧
        BrokenOff here (join dir (fileName name d)) (d.ddl ++ "\n") done.tree ended.2.tree) ∨
      (ended.1 = .ok () ∧ WrittenInto here dir name ds s.tree ended.2.tree) := by
  intro host ended
  have hgrown := (makeDirs_outcome troubles here dir s).1
  cases hdirs : makeDirs troubles here dir s with
  | mk result made =>
      have hrun : (host.makeDirs dir).run s = (result, made) := hdirs
      rw [hdirs] at hgrown
      cases result with
      | error f =>
          have hended : ended = (.error (unmade f), made) := writeDrafts_unmade hname hrun ds
          rw [hended]
          exact Or.inl ⟨f, rfl, hrun, hgrown⟩
      | ok _ =>
          have hended : ended = (writeEach host dir name ds).run made := writeDrafts_made hname hrun ds
          rw [hended]
          rcases writeEach_cases ds made with ⟨s', hwrites, hrun⟩ |
            ⟨before, d, after, f, done, s', hds, hwrites, hstop, hrun⟩
          · rw [hrun]
            exact Or.inr (Or.inr ⟨rfl, writtenInto_of_writes hdirs hplain hwrites⟩)
          · rw [hrun]
            have hbefore : ∀ e ∈ before, IsPlain (fileName name e) :=
              fun e he => hplain e (hds ▸ List.mem_append_left _ he)
            exact Or.inr (Or.inl ⟨before, d, after, f, done, hds, rfl,
              writtenInto_of_writes hdirs hbefore hwrites, hstop, writeText_error hstop⟩)

/-! ## 5. Nothing in the way -/

/-- What may be written before others may be written after them. -/
theorem write_after {t t' : FileTree} {writes : List (String × Option String)} {path : String}
    (h : Written here writes t t') (hopens : (t.write here path none).isOk)
    (text : Option String) : ∃ t'', t'.write here path text = .ok t'' := by
  cases hwrite : t.write here path none with
  | error f =>
      rw [hwrite] at hopens
      cases hopens
  | ok t'' =>
  obtain ⟨q, hq, hslash, hplace⟩ := write_cases hwrite
  have hafter : t'.get? q = none ∨ ∃ n, t'.get? q = some (.file n) := by
    rcases hplace with ⟨n, hget, -⟩ | ⟨hget, -⟩
    · exact Or.inr ⟨n, h.kept q _ hget⟩
    · cases hnew : t'.get? q with
      | none => exact Or.inl rfl
      | some e =>
          obtain ⟨-, n, rfl, -⟩ := h.new q e hget hnew
          exact Or.inr ⟨n, rfl⟩
  rw [FileTree.write, h.resolve_iff.mpr hq]
  change ∃ t'', (if endsInSlash path then _ else _) = Except.ok t''
  rw [hslash, if_neg Bool.false_ne_true]
  rcases hafter with hget | ⟨n, hget⟩
  · rw [hget]
    exact ⟨_, rfl⟩
  · rw [hget]
    exact ⟨_, rfl⟩

/-- **All are written if nothing is in the way.** -/
theorem Writable.writeDrafts {ds : List Draft} (h : Writable here dir name troubles ds s)
    (hname : checkName name = .ok ()) :
    ((writeDrafts (hostAt troubles here input) dir name ds).run s).1 = .ok () := by
  obtain ⟨front, back, q, hsplit, hclear⟩ := h.clear
  have hok := makeDirs_clear h.calm h.dirPath hsplit hclear
  have hopens := h.opens
  cases hdirs : makeDirs troubles here dir s with
  | mk result made =>
      rw [hdirs] at hok hopens
      obtain rfl : result = .ok () := hok
      have hrun : ((hostAt troubles here input).makeDirs dir).run s = (.ok (), made) := hdirs
      rw [writeDrafts_made hname hrun]
      rcases writeEach_cases ds made with ⟨s', -, hrun⟩ |
        ⟨before, d, after, f, done, s', hds, hwrites, hstop, -⟩
      · rw [hrun]
      · have hd : d ∈ ds := hds ▸ List.mem_append_right _ List.mem_cons_self
        obtain ⟨t, hwrite⟩ := write_after (writes_written hwrites) (hopens d hd) (some (d.ddl ++ "\n"))
        have hwritten : writeText troubles here (join dir (fileName name d)) (d.ddl ++ "\n") done =
            (.ok (), done.after t) := by
          rw [writeText, h.calm, change, hwrite]
        cases (Prod.mk.inj (hwritten.symm.trans hstop)).1

end Trees

/-! ## 6. What a run changes -/

/-- **What a run changes.** A name is refused exactly if it is blank, `..`, or has a slash or backslash,
and then nothing changes. With any other name, each statement has a file right in the directory, whose
name is plain and ends in a known identifier. A run with it ends in one of three ways: the directory
cannot be made, and at most directories on the way to it are new; or a statement cannot be written, those
before it are, and its own file may hold the first bytes of it; or all are written. This last comes if
nothing is in the way. -/
theorem written_files [PatternEngine] (here : Place) (troubles : Troubles) (input : Option String)
    (s : Disk) (dir name : String) (fields : List Field) (rules : RuleSet) (ids : List String)
    (options : TableOptions) :
    let ds := drafts fields rules ids options
    let host := hostAt troubles here input
    let ended := (writeDrafts host dir name ds).run s
    ((∃ e, checkName name = .error e) ↔ IsRefused name) ∧
    (∀ e, checkName name = .error e → ended = (.error e, s)) ∧
    (checkName name = .ok () →
      (∀ d ∈ ds, let path := join dir (fileName name d)
        (∃ id ∈ knownIds, fileName name d = name ++ "_" ++ id ++ ".sql") ∧
        IsPlain (fileName name d) ∧
        start here path = start here dir ∧ steps path = steps dir ++ [fileName name d]) ∧
      ((∃ f, ended.1 = .error (unmade f) ∧ (host.makeDirs dir).run s = (.error f, ended.2) ∧
          Grown (start here dir) (Begins dir) s.tree ended.2.tree) ∨
        (∃ before d after f done, ds = before ++ d :: after ∧
          ended.1 = .error (unwritten dir name d f) ∧
          WrittenInto here dir name before s.tree done.tree ∧
          (host.writeText (join dir (fileName name d)) (d.ddl ++ "\n")).run done = (.error f, ended.2) ∧
          BrokenOff here (join dir (fileName name d)) (d.ddl ++ "\n") done.tree ended.2.tree) ∨
        (ended.1 = .ok () ∧ WrittenInto here dir name ds s.tree ended.2.tree)) ∧
      (Writable here dir name troubles ds s → ended.1 = .ok ())) := by
  intro ds host ended
  refine ⟨checkName_eq_error_iff, fun e he => writeDrafts_refused he ds s, fun hname => ?_⟩
  have hnot : ¬ IsRefused name := checkName_eq_ok_iff.mp hname
  have hslash : '/' ∉ name.toList := fun hin => hnot (Or.inr (Or.inr (Or.inl hin)))
  have hfile : ∀ d ∈ ds, ∃ id ∈ knownIds, fileName name d = name ++ "_" ++ id ++ ".sql" :=
    fun d hd => fileName_of_mem_drafts hd name
  have hplain : ∀ d ∈ ds, IsPlain (fileName name d) := by
    intro d hd
    obtain ⟨id, hid, hname⟩ := hfile d hd
    exact hname ▸ isPlain_fileName hslash hid
  refine ⟨fun d hd => ?_, writeDrafts_cases here dir troubles input s hname hplain,
    fun h => h.writeDrafts hname⟩
  exact ⟨hfile d hd, hplain d hd, start_join here (hplain d hd), steps_join (hplain d hd)⟩

/-- The directory is reached over a link, and the file of the first statement has another name outside it.
The second one fills the disk. In a directory of their own, all are written. -/
theorem written_files_stopped :
    let s : Disk := ⟨⟨[(["w"], .directory), (["w", "out"], .link "real/"), (["w", "real"], .directory),
      (["w", "real", "q_spark.sql"], .file 1), (["w", "notes"], .file 1)], [(1, ⟨some "old", true⟩)]⟩, 0⟩
    let full : Troubles := fun n => if n = 3 then some (.broken 5 (.other "No space left")) else none
    let ds := drafts [⟨"a", none, ""⟩] .empty ["spark", "x", "Postgres ", "HIVE", "doris"] .default
    let ended := (writeDrafts (hostAt full ["w"] none) "out" "q" ds).run s
    (∃ before d after f, ∃ done : Disk, ds = before ++ d :: after ∧
      ended.1 = .error (unwritten "out" "q" d f) ∧
      WrittenInto ["w"] "out" "q" before s.tree done.tree) ∧
    ((writeDrafts (hostAt (fun _ => none) ["w"] none) "/w/./new/out" "q" ds).run s).1 = .ok () := by
  intro s full ds ended
  have hname : checkName "q" = .ok () := by decide
  have hfacts troubles dir := (written_files ["w"] troubles none s dir "q" [⟨"a", none, ""⟩] .empty
    ["spark", "x", "Postgres ", "HIVE", "doris"] .default).2.2 hname
  refine ⟨?_, (hfacts _ "/w/./new/out").2.2 ?_⟩
  · have hstopped : ended.1 ≠ .ok () := by decide +kernel
    have hmake : (makeDirs full ["w"] "out" s).1 = .ok () := by decide +kernel
    rcases (hfacts full "out").2.1 with
      ⟨f, -, hfault, -⟩ | ⟨before, d, after, f, done, hds, herror, hwritten, -, -⟩ | ⟨hok, -⟩
    · have hdirs : makeDirs full ["w"] "out" s = (.error f, ended.2) := hfault
      rw [hdirs] at hmake
      cases hmake
    · exact ⟨before, d, after, f, done, hds, herror, hwritten⟩
    · exact absurd hok hstopped
  · exact {
      calm := fun _ => rfl
      dirPath := Or.inr (by decide)
      clear := ⟨["w", "."], ["new", "out"], ["w"], by decide,
        by decide, by decide, by decide, by decide, by decide⟩
      opens := by decide +kernel }

end TableDraft.Output

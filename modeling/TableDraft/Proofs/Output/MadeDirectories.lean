import TableDraft.Proofs.Output.FilePlaces

/-!
# Directories that are made

Making a directory and all above it takes several calls, and any of them may fail. Whatever comes of it,
the tree only grows by directories, and all of them are on the way.

* `Grown`: a tree with more directories, each at a place where nothing was;
* `Outcome`: what one attempt may leave; `makeDir_outcome`, `orThere_outcome`, `makeDirAfter_outcome`;
* **`makeDirs_outcome`: the directories that are new are those that beginnings of the path lead to, and if
  it succeeds the path leads to a directory**;
* `Clear`: nothing is in the way; **`makeDirs_clear`: then it succeeds, unless a call is refused**.
-/

namespace TableDraft.Output.Disk

open FileTree

variable {t t' : FileTree} {p q : Place} {way : List String} {ways : List String → Prop}
  {troubles : Troubles}

/-! ## 1. Trees that grow -/

/-- The second tree has more directories. Nothing was at their places, and each is where one of the ways
leads to. -/
structure Grown (p : Place) (ways : List String → Prop) (t t' : FileTree) : Prop where
  files : t'.files = t.files
  names : ∀ q, t'.get? q = t.get? q ∨
    t.get? q = none ∧ t'.get? q = some .directory ∧
      ∃ way, ways way ∧ t'.walk true maxLinks p way = .ok q

theorem Grown.refl (p : Place) (ways : List String → Prop) (t : FileTree) : Grown p ways t t :=
  ⟨rfl, fun _ => Or.inl rfl⟩

theorem Grown.extends (h : Grown p ways t t') : Extends t t' where
  directory q hq := by
    rcases h.names q with heq | ⟨hnone, -⟩
    · exact heq.trans hq
    · cases hnone.symm.trans hq
  link q target := by
    rcases h.names q with heq | ⟨hnone, hdirectory, -⟩
    · rw [heq]
    · rw [hnone, hdirectory]
      exact iff_of_false nofun nofun

theorem Grown.trans {t'' : FileTree} (h : Grown p ways t t') (h' : Grown p ways t' t'') :
    Grown p ways t t'' where
  files := h'.files.trans h.files
  names q := by
    rcases h'.names q with heq' | ⟨hnone', hdirectory', hway'⟩
    · rcases h.names q with heq | ⟨hnone, hdirectory, way, hway, hwalk⟩
      · exact Or.inl (heq'.trans heq)
      · have hleads := (walk_eq_ok_iff.mp hwalk).mono h'.extends
        exact Or.inr ⟨hnone, heq'.trans hdirectory, way, hway, walk_eq_ok_iff.mpr hleads⟩
    · rcases h.names q with heq | ⟨-, hdirectory, -⟩
      · exact Or.inr ⟨heq.symm.trans hnone', hdirectory', hway'⟩
      · cases hdirectory.symm.trans hnone'

theorem get?_directory (hq : t.get? q = none) (r : Place) :
    (t.put q .directory).get? r = if r = q then some .directory else t.get? r :=
  get?_put (ne_nil_of_get? (by rw [hq]; exact nofun)) .directory r

theorem extends_directory (hq : t.get? q = none) : Extends t (t.put q .directory) where
  directory r hr := by
    rw [get?_directory hq]
    split
    · rfl
    · exact hr
  link r target := by
    rw [get?_directory hq]
    split
    · next heq =>
        rw [heq, hq]
        exact iff_of_false nofun nofun
    · exact Iff.rfl

/-- **One directory more**, at the place that its way leads to. -/
theorem makeDir_grown (h : t.makeDir p way = .ok t') (hways : ways (way.filter (· != "."))) :
    Grown p ways t t' ∧ t'.isDirectory p way = true := by
  obtain ⟨q, hwalk, h⟩ := exists_of_bind h
  cases hget : t.get? q with
  | some e =>
      rw [hget] at h
      cases h
  | none =>
      rw [hget] at h
      obtain rfl := Except.ok.inj h
      have hput := get?_directory hget
      have hthere : (t.put q .directory).get? q = some .directory := by rw [hput, if_pos rfl]
      have hleads : Leads (t.put q .directory) true maxLinks p way q :=
        ((walk_eq_ok_iff.mp hwalk).mono (extends_directory hget)).followed (by rw [hthere]; exact nofun)
      refine ⟨⟨rfl, fun r => ?_⟩, isDirectory_iff.mpr ⟨q, hleads, hthere⟩⟩
      by_cases hr : r = q
      · subst hr
        exact Or.inr ⟨hget, hthere, _, hways, walk_eq_ok_iff.mpr hleads.dotless⟩
      · exact Or.inl (by rw [hput, if_neg hr])

/-! ## 2. Attempts -/

/-- What an attempt to make a directory may leave: a tree that has grown, with the directory in it if the
attempt succeeded. -/
structure Outcome (p : Place) (ways : List String → Prop) (way : List String) (t : FileTree)
    (o : Except FileFault Unit × Disk) : Prop where
  grown : Grown p ways t o.2.tree
  there : o.1 = .ok () → o.2.tree.isDirectory p way = true

variable (troubles)

theorem makeDir_outcome (hways : ways (way.filter (· != "."))) (s : Disk) :
    Outcome p ways way s.tree (makeDir troubles p way s) := by
  unfold makeDir
  split
  · exact ⟨.refl p ways s.tree, nofun⟩
  · unfold change
    split
    · next t' hmake =>
        obtain ⟨hgrown, hthere⟩ := makeDir_grown hmake hways
        exact ⟨hgrown, fun _ => hthere⟩
    · exact ⟨.refl p ways s.tree, nofun⟩

/-- Looking whether the directory was there already changes nothing. -/
theorem orThere_outcome {o : Except FileFault Unit × Disk} (h : Outcome p ways way t o) :
    Outcome p ways way t (orThere troubles p way o) := by
  unfold orThere
  split
  · exact h
  · next f s =>
      split
      · next s' hlook =>
          obtain ⟨hseen, rfl⟩ := Prod.mk.inj hlook
          exact ⟨h.grown, fun _ => (Bool.and_eq_true_iff.mp hseen).2⟩
      · next s' hlook =>
          obtain ⟨-, rfl⟩ := Prod.mk.inj hlook
          exact ⟨h.grown, nofun⟩

/-- What an attempt leaves that makes what is above the directory if that is missing. -/
theorem makeDirAfter_outcome {above : Disk → Except FileFault Unit × Disk}
    (hways : ways (way.filter (· != "."))) (habove : ∀ s, Grown p ways s.tree (above s).2.tree)
    (s : Disk) : Outcome p ways way s.tree (makeDirAfter troubles above p way s) := by
  have hfirst : Outcome p ways way s.tree (makeDir troubles p way s) :=
    makeDir_outcome troubles hways s
  unfold makeDirAfter
  split
  · next s' hmake =>
      rw [hmake] at hfirst
      have hmade := hfirst.grown.trans (habove s')
      split
      · next f s'' hfailed =>
          rw [hfailed] at hmade
          exact ⟨hmade, nofun⟩
      · next s'' hdone =>
          rw [hdone] at hmade
          have hagain : Outcome p ways way s''.tree (makeDir troubles p way s'') :=
            makeDir_outcome troubles hways s''
          have hended := orThere_outcome troubles hagain
          exact ⟨hmade.trans hended.grown, hended.there⟩
  · exact orThere_outcome troubles hfirst

/-- The first parts of a path. -/
def Begins (path : String) (way : List String) : Prop := way <+: parts path

theorem Begins.filter {path : String} (h : Begins path way) : Begins path (way.filter (· != ".")) := by
  have hall : way.filter (· != ".") = way :=
    List.filter_eq_self.mpr fun _ hstep => (List.mem_filter.mp (h.subset hstep)).2
  rw [hall]
  exact h

/-- The directories above the one that a path leads to. -/
theorem makeAll_outcome {path : String} (above : List String) (h : Begins path above.reverse)
    (s : Disk) :
    Grown p (Begins path) s.tree (makeAll troubles p above s).2.tree ∧
      (above ≠ [] → (makeAll troubles p above s).1 = .ok () →
        (makeAll troubles p above s).2.tree.isDirectory p above.reverse = true) := by
  induction above generalizing s with
  | nil => exact ⟨.refl _ _ _, fun hne => absurd rfl hne⟩
  | cons part above ih =>
      have hbegins : Begins path above.reverse := by
        refine List.IsPrefix.trans ?_ h
        rw [List.reverse_cons]
        exact List.prefix_append _ _
      have houtcome : Outcome p (Begins path) (part :: above).reverse s.tree
          (makeAll troubles p (part :: above) s) :=
        makeDirAfter_outcome troubles h.filter (fun s => (ih hbegins s).1) s
      exact ⟨houtcome.grown, fun _ => houtcome.there⟩

theorem reverse_tail_reverse (way : List String) : way.reverse.tail.reverse = way.dropLast := by
  rw [← List.dropLast_reverse, List.reverse_reverse]

/-- **What making the directory of a path leaves**, successfully or not. -/
theorem makeDirs_outcome (here : Place) (path : String) (s : Disk) :
    Grown (start here path) (Begins path) s.tree (makeDirs troubles here path s).2.tree ∧
      ((makeDirs troubles here path s).1 = .ok () → path = "" ∨
        (makeDirs troubles here path s).2.tree.isDirectory (start here path) (steps path) = true) := by
  unfold makeDirs
  split
  · next hempty => exact ⟨.refl _ _ _, fun _ => Or.inl (String.isEmpty_iff.mp hempty)⟩
  · split
    · exact ⟨.refl _ _ _, nofun⟩
    · have hall : Begins path ((steps path).filter (· != ".")) := List.prefix_refl _
      have habove : Begins path (parts path).reverse.tail.reverse := by
        rw [reverse_tail_reverse]
        exact List.dropLast_prefix _
      have houtcome : Outcome (start here path) (Begins path) (steps path) s.tree
          (makeDirAfter troubles _ (start here path) (steps path) s) :=
        makeDirAfter_outcome troubles hall (fun s => (makeAll_outcome troubles _ habove s).1) s
      exact ⟨houtcome.grown, fun hok => Or.inr (houtcome.there hok)⟩

/-! ## 3. Nothing in the way -/

/-- Nothing is in the way of a directory: the first steps lead to one that is there, and the others are
the names of new ones below it. -/
structure Clear (t : FileTree) (p : Place) (front back : List String) (q : Place) : Prop where
  leads : t.walk true maxLinks p front = .ok q
  directory : t.get? q = some .directory
  name : ∀ step ∈ back, IsName step
  short : ∀ step ∈ back, step.utf8ByteSize ≤ maxPart
  free : ∀ n < back.length, t.get? (q ++ back.take (n + 1)) = none

theorem dropLast_ne_nil {back : List String} (h : 2 ≤ back.length) : back.dropLast ≠ [] :=
  List.ne_nil_of_length_pos (by rw [List.length_dropLast]; omega)

/-- All beginnings but the whole are beginnings of what comes before the last. -/
theorem prefix_dropLast {back : List String} (h : way <+: back) (hne : way ≠ back) :
    way <+: back.dropLast := by
  obtain ⟨rest, rfl⟩ := h
  have hrest : rest ≠ [] := fun hnil => hne (by rw [hnil, List.append_nil])
  rw [List.dropLast_append_of_ne_nil hrest]
  exact List.prefix_append _ _

theorem Clear.missing {front back : List String} (h : Clear t p front back q) (hway : way <+: back)
    (hne : way ≠ []) : t.get? (q ++ way) = none := by
  have hlength := List.length_pos_iff.mpr hne
  have hle := hway.length_le
  have hfree := h.free (way.length - 1) (by omega)
  rw [Nat.sub_add_cancel hlength, ← List.prefix_iff_eq_take.mp hway] at hfree
  exact hfree

theorem Clear.init {front back : List String} (h : Clear t p front back q) :
    Clear t p front back.dropLast q where
  leads := h.leads
  directory := h.directory
  name := fun step hstep => h.name step (List.dropLast_subset back hstep)
  short := fun step hstep => h.short step (List.dropLast_subset back hstep)
  free := fun n hn => by
    rw [List.length_dropLast] at hn
    rw [List.dropLast_eq_take, List.take_take, Nat.min_eq_left (by omega)]
    exact h.free n (by omega)

/-- What stands where nothing was in the way, once the tree has grown. -/
theorem Clear.place {front back : List String} (h : Clear t p front back q)
    (hgrown : Grown p ways t t') : ∀ way, way <+: back → way ≠ [] →
      t'.get? (q ++ way) = none ∨ t'.get? (q ++ way) = some .directory := by
  intro way hway hne
  rcases hgrown.names (q ++ way) with heq | ⟨-, hdirectory, -⟩
  · exact Or.inl (heq.trans (h.missing hway hne))
  · exact Or.inr hdirectory

theorem Clear.walk_first {front rest : List String} {first : String}
    (h : Clear t p front (first :: rest) q) :
    ∃ m, t.walk false maxLinks p (front ++ first :: rest) = t.walk false m (q ++ [first]) rest := by
  obtain ⟨m, hm⟩ := walk_append (walk_eq_ok_iff.mp h.leads)
  have henter := enter_name (h.name first List.mem_cons_self) q
  have hnext target : t.get? (enter q first) ≠ some (.link target) := by
    rw [henter, h.missing (by simp) (List.cons_ne_nil first [])]
    exact nofun
  refine ⟨m, ?_⟩
  rw [hm false _ (List.cons_ne_nil first rest),
    walk_step ⟨h.directory, h.short first List.mem_cons_self⟩ hnext, henter]

/-- Once the directory above is made, the steps lead to where the last one is missing or there. -/
theorem Clear.walk {front front' back : List String} (h : Clear t p front back q)
    (hfront' : t.walk true maxLinks p front' = .ok q) (hgrown : Grown p ways t t')
    (hback : 2 ≤ back.length) (habove : t'.isDirectory p (front' ++ back.dropLast) = true)
    (follow : Bool) :
    t'.walk follow maxLinks p (front ++ back) = .ok (q ++ back) := by
  have hne : back ≠ [] := List.ne_nil_of_length_pos (by omega)
  have hne' : back.dropLast ≠ [] := dropLast_ne_nil hback
  have hplace := h.place hgrown
  have hover : ∀ way, way <+: back → way ≠ back → t'.get? (q ++ way) = some .directory := by
    obtain ⟨r, hr, hdirectory⟩ := isDirectory_iff.mp habove
    obtain ⟨m, hm⟩ := walk_append ((walk_eq_ok_iff.mp hfront').mono hgrown.extends)
    have hdown : Leads t' true m q back.dropLast r :=
      walk_eq_ok_iff.mp ((hm true _ hne').symm.trans (walk_eq_ok_iff.mpr hr))
    have hlink : ∀ way, way <+: back.dropLast → way ≠ [] →
        ∀ target, t'.get? (q ++ way) ≠ some (.link target) := by
      intro way hway hne target htarget
      rcases hplace way (hway.trans (List.dropLast_prefix back)) hne with hnone | hthere
      · cases hnone.symm.trans htarget
      · cases hthere.symm.trans htarget
    obtain ⟨hr, hthere⟩ := hdown.names h.init.name hlink
    intro way hway hne
    by_cases hall : way = back.dropLast
    · rw [hall, ← hr]
      exact hdirectory
    · exact hthere way (prefix_dropLast hway hne) hall
  obtain ⟨m, hm⟩ := walk_append ((walk_eq_ok_iff.mp h.leads).mono hgrown.extends)
  rw [hm follow back hne]
  refine walk_names h.name h.short hover fun target htarget => ?_
  rcases hplace back (List.prefix_refl back) hne with hnone | hthere
  · cases hnone.symm.trans htarget
  · cases hthere.symm.trans htarget

theorem makeDir_exists (h : t.isDirectory p way = true) : t.makeDir p way = .error .exists := by
  obtain ⟨q, hleads, hq⟩ := isDirectory_iff.mp h
  obtain ⟨r, hr, hne⟩ := hleads.stopped (by rw [hq]; exact nofun)
  obtain ⟨e, he⟩ := Option.ne_none_iff_exists'.mp hne
  simp only [FileTree.makeDir, walk_eq_ok_iff.mpr hr, bind, Except.bind, he]

theorem makeDir_new (hwalk : t.walk false maxLinks p way = .ok q) (hq : t.get? q = none) :
    t.makeDir p way = .ok (t.put q .directory) := by
  simp only [FileTree.makeDir, hwalk, bind, Except.bind, hq]

/-- The directory itself, or one right below a directory that is there. -/
theorem Clear.makeDir_near {front back : List String} (h : Clear t p front back q)
    (hback : back.length < 2) :
    t.isDirectory p (front ++ back) = true ∨ ∃ t', t.makeDir p (front ++ back) = .ok t' := by
  have hfront := walk_eq_ok_iff.mp h.leads
  cases back with
  | nil =>
      rw [List.append_nil]
      exact Or.inl (isDirectory_iff.mpr ⟨q, hfront, h.directory⟩)
  | cons first rest =>
      rw [List.length_cons] at hback
      obtain rfl : rest = [] := List.length_eq_zero_iff.mp (by omega)
      obtain ⟨m, hm⟩ := h.walk_first
      rw [walk_nil] at hm
      exact Or.inr ⟨_, makeDir_new hm (h.missing (by simp) (List.cons_ne_nil first []))⟩

/-- A directory further below, as long as the one above it is missing. -/
theorem Clear.makeDir_deep {front back : List String} (h : Clear t p front back q)
    (hback : 2 ≤ back.length) : t.makeDir p (front ++ back) = .error .notFound := by
  cases back with
  | nil => simp at hback
  | cons first rest =>
      cases rest with
      | nil => simp at hback
      | cons next rest =>
          obtain ⟨m, hm⟩ := h.walk_first
          rw [walk_missing (h.missing (by simp) (List.cons_ne_nil first []))] at hm
          rw [FileTree.makeDir, hm]
          rfl

/-- The same one when that is made. -/
theorem Clear.makeDir_again {front front' back : List String} (h : Clear t p front back q)
    (hfront' : t.walk true maxLinks p front' = .ok q) (hgrown : Grown p ways t t')
    (hback : 2 ≤ back.length) (habove : t'.isDirectory p (front' ++ back.dropLast) = true) :
    t'.isDirectory p (front ++ back) = true ∨ ∃ t'', t'.makeDir p (front ++ back) = .ok t'' := by
  have hnow := h.walk hfront' hgrown hback habove
  have hne : back ≠ [] := List.ne_nil_of_length_pos (by omega)
  rcases h.place hgrown back (List.prefix_refl back) hne with hfree | hmade
  · exact Or.inr ⟨_, makeDir_new (hnow false) hfree⟩
  · exact Or.inl (isDirectory_iff.mpr ⟨_, walk_eq_ok_iff.mp (hnow true), hmade⟩)

section Calm

variable {troubles} (hcalm : ∀ n, troubles n = none)

include hcalm

theorem makeDir_calm (s : Disk) : makeDir troubles p way s = s.change (fun t => t.makeDir p way) := by
  rw [makeDir, hcalm]

/-- A directory that is there or can be made. -/
theorem orThere_calm {s : Disk}
    (h : s.tree.isDirectory p way = true ∨ ∃ t, s.tree.makeDir p way = .ok t) :
    (orThere troubles p way (makeDir troubles p way s)).1 = .ok () := by
  rw [makeDir_calm hcalm]
  rcases h with hthere | ⟨t, hmake⟩
  · have hlook : isDirectory troubles p way (s.after s.tree) = (true, (s.after s.tree).after s.tree) := by
      rw [isDirectory, hcalm]
      exact congrArg (·, _) hthere
    rw [change, makeDir_exists hthere, orThere, hlook]
  · rw [change, hmake, orThere]

/-- A directory that is there or can be made at once. -/
theorem makeDirAfter_calm {above : Disk → Except FileFault Unit × Disk} {s : Disk}
    (h : s.tree.isDirectory p way = true ∨ ∃ t, s.tree.makeDir p way = .ok t) :
    (makeDirAfter troubles above p way s).1 = .ok () := by
  have hdone := orThere_calm hcalm h
  rw [makeDir_calm hcalm] at hdone
  rw [makeDirAfter, makeDir_calm hcalm]
  rcases h with hthere | ⟨t, hmake⟩
  · rw [change, makeDir_exists hthere] at hdone ⊢
    exact hdone
  · rw [change, hmake] at hdone ⊢
    exact hdone

/-- A directory is made if nothing is in its way and what is above it can be made. -/
theorem makeDirAfter_clear (ways : List String → Prop)
    {above : Disk → Except FileFault Unit × Disk} {front back : List String} {s : Disk}
    (h : Clear s.tree p front back q)
    (habove : 2 ≤ back.length → ∀ s', s'.tree = s.tree →
      (above s').1 = .ok () ∧ Grown p ways s.tree (above s').2.tree ∧
        ∃ front', s.tree.walk true maxLinks p front' = .ok q ∧
          (above s').2.tree.isDirectory p (front' ++ back.dropLast) = true) :
    (makeDirAfter troubles above p (front ++ back) s).1 = .ok () := by
  by_cases hback : 2 ≤ back.length
  · have hafter := habove hback (s.after s.tree) rfl
    rw [makeDirAfter, makeDir_calm hcalm, change, h.makeDir_deep hback]
    cases hdone : above (s.after s.tree) with
    | mk result made =>
        rw [hdone] at hafter
        obtain ⟨rfl, hgrown, front', hfront', hthere⟩ := hafter
        dsimp only
        rw [hdone]
        exact orThere_calm hcalm (h.makeDir_again hfront' hgrown hback hthere)
  · exact makeDirAfter_calm hcalm (h.makeDir_near (by omega))

/-- Those above it are made, each below the one before. -/
theorem makeAll_clear {path : String} (above : List String) (hpath : Begins path above.reverse)
    {front back : List String} (hsplit : above.reverse = front ++ back) {s : Disk}
    (h : Clear s.tree p front back q) : (makeAll troubles p above s).1 = .ok () := by
  induction above generalizing back s with
  | nil => rfl
  | cons part above ih =>
      rw [makeAll, hsplit]
      refine makeDirAfter_clear hcalm (Begins path) h fun htwo s' hs' => ?_
      have hne : back.dropLast ≠ [] := dropLast_ne_nil htwo
      have hinit : above.reverse = front ++ back.dropLast := by
        have hback : back ≠ [] := List.ne_nil_of_length_pos (by omega)
        rw [← List.dropLast_append_of_ne_nil hback, ← hsplit, List.reverse_cons, List.dropLast_concat]
      have hbegins : Begins path above.reverse := by
        refine List.IsPrefix.trans ?_ hpath
        rw [List.reverse_cons]
        exact List.prefix_append _ _
      rw [← hs'] at h ⊢
      have hok := ih hbegins hinit h.init
      obtain ⟨hgrown, hthere⟩ := makeAll_outcome troubles (p := p) above hbegins s'
      refine ⟨hok, hgrown, front, h.leads, ?_⟩
      rw [← hinit]
      refine hthere (fun hnil => hne ?_) hok
      rw [hnil] at hinit
      exact (List.append_eq_nil_iff.mp hinit.symm).2

/-- **A directory is made if nothing is in its way** and no call is refused. -/
theorem makeDirs_clear {here : Place} {path : String} (hpath : path = "" ∨ checkPath path = .ok ())
    {front back : List String} (hsplit : steps path = front ++ back) {s : Disk}
    (h : Clear s.tree (start here path) front back q) : (makeDirs troubles here path s).1 = .ok () := by
  unfold makeDirs
  split
  · rfl
  · next hempty =>
      have hne : path ≠ "" := fun he => hempty (String.isEmpty_iff.mpr he)
      rw [hpath.resolve_left hne]
      dsimp only
      rw [hsplit]
      refine makeDirAfter_clear hcalm (Begins path) h fun htwo s' hs' => ?_
      have hparts : parts path = front.filter (· != ".") ++ back := by
        rw [parts, hsplit, List.filter_append]
        exact congrArg _ (List.filter_eq_self.mpr fun step hstep => bne_iff_ne.mpr (h.name step hstep).1)
      have hback : back ≠ [] := List.ne_nil_of_length_pos (by omega)
      have hinit : (parts path).reverse.tail.reverse = front.filter (· != ".") ++ back.dropLast := by
        rw [reverse_tail_reverse, hparts, List.dropLast_append_of_ne_nil hback]
      have hbegins : Begins path (parts path).reverse.tail.reverse := by
        rw [reverse_tail_reverse]
        exact List.dropLast_prefix _
      rw [← hs'] at h ⊢
      have hdotless := walk_eq_ok_iff.mpr (walk_eq_ok_iff.mp h.leads).dotless
      have hok := makeAll_clear hcalm _ hbegins hinit (s := s')
        ⟨hdotless, h.directory, h.init.name, h.init.short, h.init.free⟩
      obtain ⟨hgrown, hthere⟩ := makeAll_outcome troubles (p := start here path) _ hbegins s'
      refine ⟨hok, hgrown, _, hdotless, ?_⟩
      rw [← hinit]
      refine hthere (fun hnil => ?_) hok
      rw [hnil] at hinit
      exact dropLast_ne_nil htwo (List.append_eq_nil_iff.mp hinit.symm).2

end Calm

end TableDraft.Output.Disk

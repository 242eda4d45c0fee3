import TableDraft.Proofs.Output.FilePlaces

/-!
# What files hold

A path may lead to a file over links, and the file may have other names. So a write is told by what it
does to each place: those that are names of the file hold the text, and all others what they held.

* `SameFile`, `reaches`: a place is the one that a path leads to, or another name of its file;
* `lookAfter`: what the file at a place holds after some writes, the last of those that reach it;
* `Written`: some texts are written and nothing else changes; **`write_written`: one call that
  succeeds**; **`Written.append`: one after the other**.
-/

namespace TableDraft.Output.FileTree

variable {t t' : FileTree} {here p q : Place} {path : String}

/-! ## 1. Files -/

/-- The number of the file at a place. -/
def number? (t : FileTree) (q : Place) : Option Nat := (t.get? q).bind Entry.number?

/-- What the file at a place holds. -/
def look (t : FileTree) (q : Place) : Option Content := (t.number? q).map t.content

/-- The places are one, or two names of one file. -/
def SameFile (t : FileTree) (p q : Place) : Prop :=
  p = q ∨ (t.number? p).isSome ∧ t.number? p = t.number? q

instance (t : FileTree) (p q : Place) : Decidable (SameFile t p q) :=
  inferInstanceAs (Decidable (_ ∨ _ ∧ _))

/-- What is written to a path goes to a place. -/
def reaches (t : FileTree) (here : Place) (path : String) (q : Place) : Bool :=
  match t.resolve here path with
  | .ok p => decide (SameFile t p q)
  | .error _ => false

theorem number?_eq_some_iff {n : Nat} : t.number? q = some n ↔ t.get? q = some (.file n) := by
  unfold number?
  cases t.get? q with
  | none => exact iff_of_false nofun nofun
  | some e =>
      cases e with
      | directory => exact iff_of_false nofun nofun
      | file m =>
          refine ⟨congrArg (some ∘ Entry.file) ∘ Option.some.inj, fun h => ?_⟩
          cases h
          rfl
      | link target => exact iff_of_false nofun nofun

theorem reaches_iff :
    t.reaches here path q = true ↔ ∃ p, t.resolve here path = .ok p ∧ SameFile t p q := by
  unfold reaches
  cases t.resolve here path with
  | error f =>
      refine iff_of_false Bool.false_ne_true ?_
      rintro ⟨p, hp, -⟩
      cases hp
  | ok p =>
      refine decide_eq_true_iff.trans ⟨fun h => ⟨p, rfl, h⟩, ?_⟩
      rintro ⟨r, hr, h⟩
      cases hr
      exact h

theorem number?_ne_fresh : t.number? q ≠ some t.fresh := by
  intro h
  have hget := number?_eq_some_iff.mp h
  unfold get? at hget
  split at hget
  · cases hget
  · obtain ⟨front, back, hnames, -⟩ := List.lookup_eq_some_iff.mp hget
    have hmem : t.fresh ∈ t.names.filterMap (fun x => x.2.number?) := by
      refine List.mem_filterMap.mpr ⟨(q, .file t.fresh), ?_, rfl⟩
      rw [hnames]
      exact List.mem_append_right _ List.mem_cons_self
    have hle : t.fresh ≤ (t.names.filterMap (fun x => x.2.number?)).max?.getD 0 :=
      List.le_max?_getD_of_mem hmem
    exact Nat.not_succ_le_self _ hle

theorem content_store (n m : Nat) (c : Content) :
    (t.store n c).content m = if m = n then c else t.content m := by
  have hlookup := lookup_replaced m n c t.files
  unfold store content
  dsimp only
  rw [hlookup]
  split
  · rfl
  · rfl

theorem get?_create (hp : p ≠ []) (c : Content) (q : Place) :
    (t.create p c).get? q = if q = p then some (.file t.fresh) else t.get? q :=
  get?_put hp _ q

theorem number?_create (hp : p ≠ []) (c : Content) (q : Place) :
    (t.create p c).number? q = if q = p then some t.fresh else t.number? q := by
  unfold number?
  rw [get?_create hp]
  split
  · rfl
  · rfl

/-- The file of a new name is all that changes. -/
theorem content_create {n : Nat} (h : t.number? q = some n) (c : Content) :
    (t.create p c).content n = t.content n := by
  rw [create, content_store, if_neg fun heq => number?_ne_fresh (heq ▸ h)]
  rfl

/-! ## 2. Writes -/

/-- What the file at a place holds after some writes: the last that reached it, if any did. -/
def lookAfter (here : Place) (writes : List (String × Option String)) (t : FileTree) (q : Place) :
    Option Content :=
  match writes.reverse.find? (fun w => t.reaches here w.1 q) with
  | some w => some (((t.look q).getD .empty).written w.2)
  | none => t.look q

/-- Texts are written to paths, one after the other, and nothing else changes. -/
structure Written (here : Place) (writes : List (String × Option String)) (t t' : FileTree) : Prop where
  /-- What was there stays where it is. -/
  kept : ∀ q e, t.get? q = some e → t'.get? q = some e
  /-- What is new is a file at a place that one of the paths leads to, under no other name. -/
  new : ∀ q e, t.get? q = none → t'.get? q = some e →
    (∃ w ∈ writes, t.resolve here w.1 = .ok q) ∧
      ∃ n, e = .file n ∧ ∀ r, t'.get? r = some (.file n) → r = q
  /-- All of the paths lead somewhere. -/
  leads : ∀ w ∈ writes, ∃ q, t.resolve here w.1 = .ok q
  /-- Each file holds the last text that reached it. -/
  look : ∀ q, t'.look q = lookAfter here writes t q

variable {writes writes' : List (String × Option String)} {text : Option String}

/-- What a write does that succeeds: it changes the file at the path or makes a new one. -/
theorem write_cases (h : t.write here path text = .ok t') :
    ∃ p, t.resolve here path = .ok p ∧ endsInSlash path = false ∧
      ((∃ n, t.get? p = some (.file n) ∧ t' = t.store n ((t.content n).written text)) ∨
        t.get? p = none ∧ t' = t.create p (Content.empty.written text)) := by
  obtain ⟨p, hp, h⟩ := exists_of_bind h
  refine ⟨p, hp, ?_⟩
  split at h
  · cases h
  · next hslash =>
      refine ⟨eq_false_of_ne_true hslash, ?_⟩
      split at h
      · cases h
      · cases h
      · next n hget => exact Or.inl ⟨n, hget, (Except.ok.inj h).symm⟩
      · next hget => exact Or.inr ⟨hget, (Except.ok.inj h).symm⟩

theorem lookAfter_one (q : Place) : lookAfter here [(path, text)] t q =
    if t.reaches here path q then some (((t.look q).getD .empty).written text) else t.look q := by
  rw [lookAfter, List.reverse_singleton, List.find?_singleton]
  split
  · next w hw =>
      split at hw
      · next hreach =>
          obtain rfl := Option.some.inj hw
          rw [if_pos hreach]
      · cases hw
  · next hw =>
      split at hw
      · cases hw
      · next hreach => rw [if_neg hreach]

/-- What is written to a path that leads to a file reaches all names of the file. -/
theorem reaches_file {n : Nat} (hp : t.resolve here path = .ok p) (hnumber : t.number? p = some n) :
    t.reaches here path q = true ↔ t.number? q = some n := by
  rw [reaches_iff]
  constructor
  · rintro ⟨r, hr, hsame⟩
    obtain rfl := Except.ok.inj (hp.symm.trans hr)
    rcases hsame with rfl | ⟨-, heq⟩
    · exact hnumber
    · exact heq.symm.trans hnumber
  · intro hq
    exact ⟨p, hp, Or.inr ⟨by rw [hnumber]; rfl, hnumber.trans hq.symm⟩⟩

/-- What is written to a path that leads to no file reaches that place alone. -/
theorem reaches_missing (hp : t.resolve here path = .ok p) (hnumber : t.number? p = none) :
    t.reaches here path q = true ↔ q = p := by
  rw [reaches_iff]
  constructor
  · rintro ⟨r, hr, hsame⟩
    obtain rfl := Except.ok.inj (hp.symm.trans hr)
    rcases hsame with rfl | ⟨hsome, -⟩
    · rfl
    · rw [hnumber] at hsome
      cases hsome
  · rintro rfl
    exact ⟨q, hp, Or.inl rfl⟩

/-- A text in place of what a file held. -/
theorem store_written {n : Nat} (hp : t.resolve here path = .ok p) (hget : t.get? p = some (.file n)) :
    Written here [(path, text)] t (t.store n ((t.content n).written text)) where
  kept _ _ he := he
  new q e hnone he := by cases hnone.symm.trans he
  leads w hw := ⟨p, List.mem_singleton.mp hw ▸ hp⟩
  look q := by
    have hreaches := reaches_file (q := q) hp (number?_eq_some_iff.mpr hget)
    have hlook : (t.store n ((t.content n).written text)).look q =
        (t.number? q).map (t.store n ((t.content n).written text)).content := rfl
    rw [lookAfter_one, hlook, look]
    split
    · next hreach =>
        rw [hreaches.mp hreach, Option.map_some, content_store, if_pos rfl]
        rfl
    · next hreach =>
        cases hq : t.number? q with
        | none => rfl
        | some m =>
            have hne : m ≠ n := fun he => hreach (hreaches.mpr (he ▸ hq))
            rw [Option.map_some, content_store, if_neg hne, Option.map_some]

/-- A new file with a text. Its number is not that of any other. -/
theorem create_written (hp : t.resolve here path = .ok p) (hget : t.get? p = none) :
    Written here [(path, text)] t (t.create p (Content.empty.written text)) := by
  have hne : p ≠ [] := ne_nil_of_get? (by rw [hget]; exact nofun)
  have hnumber : t.number? p = none := by rw [number?, hget]; rfl
  refine ⟨fun q e he => ?_, fun q e hnone he => ?_, fun w hw => ?_, fun q => ?_⟩
  · rw [get?_create hne]
    split
    · next hq => cases (hq ▸ he).symm.trans hget
    · exact he
  · rw [get?_create hne] at he
    split at he
    · next hq =>
        refine ⟨⟨_, List.mem_singleton.mpr rfl, hq ▸ hp⟩, _, (Option.some.inj he).symm, ?_⟩
        intro r hr
        rw [get?_create hne] at hr
        split at hr
        · next heq => exact heq.trans hq.symm
        · exact absurd (number?_eq_some_iff.mpr hr) number?_ne_fresh
    · cases hnone.symm.trans he
  · exact ⟨p, List.mem_singleton.mp hw ▸ hp⟩
  · have hreaches := reaches_missing (q := q) hp hnumber
    rw [lookAfter_one, look, number?_create hne]
    by_cases hq : q = p
    · rw [if_pos hq, if_pos (hreaches.mpr hq), Option.map_some, create, content_store, if_pos rfl, look,
        hq, hnumber]
      rfl
    · rw [if_neg hq, if_neg (fun h => hq (hreaches.mp h)), look]
      cases hold : t.number? q with
      | none => rfl
      | some m => rw [Option.map_some, content_create hold, Option.map_some]

/-- **One write that succeeds.** -/
theorem write_written (h : t.write here path text = .ok t') : Written here [(path, text)] t t' := by
  obtain ⟨p, hp, -, ⟨n, hget, rfl⟩ | ⟨hget, rfl⟩⟩ := write_cases h
  · exact store_written hp hget
  · exact create_written hp hget

/-! ## 3. One write after the other -/

theorem Written.refl (here : Place) (t : FileTree) : Written here [] t t where
  kept _ _ he := he
  new _ _ hnone he := by cases hnone.symm.trans he
  leads _ hw := nomatch hw
  look _ := rfl

/-- No directories and no links are new. -/
theorem Written.get?_iff (h : Written here writes t t') {e : Entry} (he : e.number? = none) :
    t'.get? q = some e ↔ t.get? q = some e := by
  refine ⟨fun hget => ?_, h.kept q e⟩
  cases hq : t.get? q with
  | none =>
      obtain ⟨-, n, rfl, -⟩ := h.new q e hq hget
      cases he
  | some e' => exact (h.kept q e' hq).symm.trans hget

theorem Written.resolve_iff (h : Written here writes t t') :
    t'.resolve here path = .ok q ↔ t.resolve here path = .ok q := by
  have hdirectory {q} := h.get?_iff (q := q) (e := .directory) rfl
  have hlink {q target} := h.get?_iff (q := q) (e := .link target) rfl
  rw [resolve_ok_iff, resolve_ok_iff]
  have hback : Extends t' t := ⟨fun _ => hdirectory.mp, fun _ _ => hlink.symm⟩
  have hforth : Extends t t' := ⟨fun _ => hdirectory.mpr, fun _ _ => hlink⟩
  exact and_congr_right fun _ => ⟨fun hleads => hleads.mono hback, fun hleads => hleads.mono hforth⟩

/-- Files that were there keep their names, and new ones have no others. -/
theorem Written.sameFile_iff (h : Written here writes t t') : SameFile t' p q ↔ SameFile t p q := by
  have hnumber {r : Place} {n : Nat} : t.number? r = some n → t'.number? r = some n := fun hr =>
    number?_eq_some_iff.mpr (h.kept r _ (number?_eq_some_iff.mp hr))
  by_cases hne : p = q
  · exact iff_of_true (Or.inl hne) (Or.inl hne)
  rw [SameFile, SameFile, or_iff_right hne, or_iff_right hne]
  constructor
  · rintro ⟨hsome, heq⟩
    obtain ⟨n, hp'⟩ := Option.isSome_iff_exists.mp hsome
    have hq' : t'.number? q = some n := heq.symm.trans hp'
    have hold {r s : Place} (hr : t'.number? r = some n) (hs : t'.number? s = some n) (hrs : r ≠ s) :
        t.number? r = some n := by
      cases hget : t.get? r with
      | none =>
          obtain ⟨-, m, hm, honly⟩ := h.new r _ hget (number?_eq_some_iff.mp hr)
          cases hm
          exact absurd (honly s (number?_eq_some_iff.mp hs)).symm hrs
      | some e =>
          have he := Option.some.inj ((h.kept r e hget).symm.trans (number?_eq_some_iff.mp hr))
          exact number?_eq_some_iff.mpr (he ▸ hget)
    have hp := hold hp' hq' hne
    exact ⟨by rw [hp]; rfl, hp.trans (hold hq' hp' (Ne.symm hne)).symm⟩
  · rintro ⟨hsome, heq⟩
    obtain ⟨n, hp⟩ := Option.isSome_iff_exists.mp hsome
    have hp' := hnumber hp
    exact ⟨by rw [hp']; rfl, hp'.trans (hnumber (heq.symm.trans hp)).symm⟩

theorem Written.reaches_eq (h : Written here writes t t') (path : String) (q : Place) :
    t'.reaches here path q = t.reaches here path q := by
  rw [Bool.eq_iff_iff, reaches_iff, reaches_iff]
  exact exists_congr fun p => and_congr h.resolve_iff h.sameFile_iff

theorem Content.written_written (c : Content) (text text' : Option String) :
    (c.written text).written text' = c.written text' := by
  unfold Content.written
  cases hkeeps : c.keeps with
  | false => simp [hkeeps]
  | true => rfl

/-- **Some texts and then others.** -/
theorem Written.append {t'' : FileTree} (h : Written here writes t t') (h' : Written here writes' t' t'') :
    Written here (writes ++ writes') t t'' where
  kept q e he := h'.kept q e (h.kept q e he)
  new q e hnone he := by
    cases hq : t'.get? q with
    | none =>
        obtain ⟨⟨w, hw, hresolve⟩, hnew⟩ := h'.new q e hq he
        exact ⟨⟨w, List.mem_append_right _ hw, h.resolve_iff.mp hresolve⟩, hnew⟩
    | some e' =>
        obtain rfl := Option.some.inj ((h'.kept q e' hq).symm.trans he)
        obtain ⟨⟨w, hw, hresolve⟩, n, rfl, honly⟩ := h.new q e' hnone hq
        refine ⟨⟨w, List.mem_append_left _ hw, hresolve⟩, n, rfl, fun r hr => ?_⟩
        cases hbefore : t'.get? r with
        | none =>
            obtain ⟨-, m, hm, honly'⟩ := h'.new r _ hbefore hr
            cases hm
            exact (honly' q he).symm
        | some e'' =>
            have hsame := Option.some.inj ((h'.kept r e'' hbefore).symm.trans hr)
            exact honly r (hsame ▸ hbefore)
  leads w hw := by
    rcases List.mem_append.mp hw with hw | hw
    · exact h.leads w hw
    · obtain ⟨q, hq⟩ := h'.leads w hw
      exact ⟨q, h.resolve_iff.mp hq⟩
  look q := by
    have hreaches : (fun w : String × Option String => t'.reaches here w.1 q) =
        fun w => t.reaches here w.1 q := funext fun w => h.reaches_eq w.1 q
    rw [h'.look, lookAfter, lookAfter, h.look, lookAfter, hreaches, List.reverse_append, List.find?_append]
    cases writes'.reverse.find? (fun w => t.reaches here w.1 q) with
    | none => rfl
    | some w =>
        rw [Option.some_or]
        dsimp only
        cases writes.reverse.find? (fun w => t.reaches here w.1 q) with
        | none => rfl
        | some w' => exact congrArg some (Content.written_written _ _ _)

end TableDraft.Output.FileTree

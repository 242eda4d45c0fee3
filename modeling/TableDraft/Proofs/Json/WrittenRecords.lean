import Mathlib.Data.List.Forall2
import Mathlib.Data.List.Pairwise
import TableDraft.Proofs.Json.RecordReading
import TableDraft.Proofs.Json.WrittenValues

/-!
# Reading written structures

A structure is written as an object with its members in order, some of them left out. `Puts` follows
the writing member by member: what each written member puts into the value so far, and that one which
is left out may be. If no two members share a spelling,

* **`read_of_puts`: the object is read as the value that the puts lead to**;
* `ofMembers_respelled`: the same is read when keys are replaced by other spellings of their members;
* **`ofMembers_ne_ok_of_twice`: no object that has one member under two spellings is read.**
-/

namespace TableDraft.Json

variable {σ α : Type}

/-- The keys under which the member is read. -/
def Member.spellings (m : Member σ) : List String := m.name :: m.aliases

namespace Record

/-- No two members share a spelling, and no member has one twice. -/
def Distinct (r : Record σ) : Prop := (r.members.flatMap Member.spellings).Nodup

instance (r : Record σ) : Decidable r.Distinct := List.nodupDecidable _

/-! ## 1. Members by their keys -/

theorem find?_spelling {m : Member σ} {key : String} (hkey : key ∈ m.spellings) :
    ∀ {ms : List (Member σ)}, (ms.flatMap Member.spellings).Nodup → m ∈ ms →
    ms.find? (fun m => m.name == key || m.aliases.contains key) = some m
  | m' :: ms, hd, hm => by
      have hnames : ∀ x : Member σ, (x.name == key || x.aliases.contains key) = true ↔
          key ∈ x.spellings := by
        intro x
        rw [Member.spellings, List.mem_cons, Bool.or_eq_true, beq_iff_eq, List.contains_iff_mem, eq_comm]
      rw [List.flatMap_cons, List.nodup_append] at hd
      obtain ⟨-, hrest, hapart⟩ := hd
      rcases List.mem_cons.mp hm with rfl | hm
      · exact List.find?_cons_of_pos ((hnames m).mpr hkey)
      · have hno : ¬ (m'.name == key || m'.aliases.contains key) = true := by
          rw [hnames]
          exact fun hin => hapart key hin key (List.mem_flatMap.mpr ⟨m, hm, hkey⟩) rfl
        have ih := find?_spelling hkey hrest hm
        rw [← ih]
        exact List.find?_cons_of_neg hno

section Distinct

variable {r : Record σ} (hd : r.Distinct)
include hd

/-- A member is found under each of its spellings. -/
theorem find?_eq_some {m : Member σ} (hm : m ∈ r.members) {key : String} (hkey : key ∈ m.spellings) :
    r.find? key = some m := find?_spelling hkey hd hm

theorem nodup_names : (r.members.map Member.name).Nodup := by
  have hsub : (r.members.map Member.name).Sublist (r.members.flatMap Member.spellings) := by
    rw [List.map_eq_flatMap]
    generalize r.members = ms
    induction ms with
    | nil => exact List.Sublist.refl _
    | cons m ms ih =>
        rw [List.flatMap_cons, List.flatMap_cons]
        exact List.Sublist.append (List.singleton_sublist.mpr List.mem_cons_self) ih
  exact hsub.nodup hd

end Distinct

/-! ## 2. What written members put -/

/-- Reading the members, some of which are written, leads from one value to another. -/
inductive Puts : σ → List (Member σ) → List (String × Json) → σ → Prop
  | nil {v : σ} : Puts v [] [] v
  /-- The member is written under its name. -/
  | put {v v' out : σ} {m : Member σ} {ms : List (Member σ)} {j : Json} {l : List (String × Json)} :
      m.put (Document.ofJson j) v = .ok v' → Puts v' ms l out → Puts v (m :: ms) ((m.name, j) :: l) out
  /-- The member is left out. -/
  | skip {v out : σ} {m : Member σ} {ms : List (Member σ)} {l : List (String × Json)} :
      m.required = false → Puts v ms l out → Puts v (m :: ms) l out

theorem putMembers_cons {r : Record σ} {key : String} {m : Member σ} (hfind : r.find? key = some m)
    {d : Document} {v v' : σ} (hput : m.put d v = .ok v') {seen : List String} (hseen : m.name ∉ seen)
    (l : List (Document × Document)) :
    r.putMembers v seen ((.string key, d) :: l) = r.putMembers v' (m.name :: seen) l := by
  have hno : seen.contains m.name = false := by
    rw [← Bool.not_eq_true, List.contains_iff_mem]
    exact hseen
  rw [putMembers, Document.keyOf]
  simp only [bind, Except.bind, hfind, hno, hput]
  rfl

/-- The members are put one after another, and those that have to be there are seen. -/
theorem putMembers_of_puts {r : Record σ} (hd : r.Distinct) :
    ∀ {v out : σ} {ms : List (Member σ)} {l : List (String × Json)} {seen : List String},
    Puts v ms l out → ms ⊆ r.members → (ms.map Member.name).Nodup → (∀ m ∈ ms, m.name ∉ seen) →
    ∃ seen', r.putMembers v seen (Document.ofMembers l) = .ok (out, seen') ∧ seen ⊆ seen' ∧
      ∀ m ∈ ms, m.required = true → m.name ∈ seen'
  | _, _, _, _, seen, .nil, _, _, _ => ⟨seen, rfl, fun _ h => h, fun _ h => absurd h List.not_mem_nil⟩
  | _, _, m :: ms, _, seen, .put hput hrest, hms, hnodup, hseen => by
      obtain ⟨hm, hms⟩ := List.cons_subset.mp hms
      obtain ⟨hname, hnodup⟩ := List.nodup_cons.mp hnodup
      have hfresh : ∀ m' ∈ ms, m'.name ∉ m.name :: seen := by
        intro m' hm' hin
        rcases List.mem_cons.mp hin with heq | hin
        · exact hname (heq ▸ List.mem_map_of_mem hm')
        · exact hseen m' (List.mem_cons_of_mem m hm') hin
      obtain ⟨seen', hread, hsub, hreq⟩ := putMembers_of_puts hd hrest hms hnodup hfresh
      refine ⟨seen', ?_, fun n hn => hsub (List.mem_cons_of_mem _ hn), fun m' hm' hreq' => ?_⟩
      · rw [Document.ofMembers, putMembers_cons (find?_eq_some hd hm List.mem_cons_self) hput
          (hseen m List.mem_cons_self)]
        exact hread
      · rcases List.mem_cons.mp hm' with rfl | hm'
        · exact hsub List.mem_cons_self
        · exact hreq m' hm' hreq'
  | _, _, m :: ms, _, seen, .skip hopt hrest, hms, hnodup, hseen => by
      obtain ⟨seen', hread, hsub, hreq⟩ := putMembers_of_puts hd hrest (List.cons_subset.mp hms).2
        (List.nodup_cons.mp hnodup).2 fun m' hm' => hseen m' (List.mem_cons_of_mem m hm')
      refine ⟨seen', hread, hsub, fun m' hm' hreq' => ?_⟩
      rcases List.mem_cons.mp hm' with rfl | hm'
      · rw [hopt] at hreq'
        cases hreq'
      · exact hreq m' hm' hreq'

/-- **A structure is read as the value that its written members lead to.** -/
theorem read_of_puts {r : Record σ} (hd : r.Distinct) {l : List (String × Json)} {out : σ}
    (h : Puts r.blank r.members l out) : r.read (Document.ofJson (.object l)) = .ok out := by
  obtain ⟨seen, hread, -, hreq⟩ := putMembers_of_puts hd h (List.Subset.refl _) (nodup_names hd)
    fun _ _ => List.not_mem_nil
  have hall : r.members.find? (fun m => m.required && !seen.contains m.name) = none := by
    rw [List.find?_eq_none]
    intro m hm hmiss
    rw [Bool.and_eq_true, Bool.not_eq_true', ← Bool.not_eq_true, List.contains_iff_mem] at hmiss
    exact hmiss.2 (hreq m hm hmiss.1)
  rw [Document.ofJson, read, ofMembers, hread]
  simp only [bind, Except.bind, Document.checkStop, hall]
  rfl

/-! ## 3. Other spellings -/

/-- The same member of an object, perhaps under another spelling. -/
def Respelled (r : Record σ) (e e' : Document × Document) : Prop :=
  e.2 = e'.2 ∧ (e.1 = e'.1 ∨
    ∃ m ∈ r.members, ∃ k ∈ m.spellings, ∃ k' ∈ m.spellings, e.1 = .string k ∧ e'.1 = .string k')

theorem putMembers_respelled {r : Record σ} (hd : r.Distinct) {l l' : List (Document × Document)}
    (h : List.Forall₂ r.Respelled l l') :
    ∀ (v : σ) (seen : List String), r.putMembers v seen l = r.putMembers v seen l' := by
  induction h with
  | nil => exact fun _ _ => rfl
  | @cons e e' l l' he _ ih =>
      intro v seen
      obtain ⟨k, d⟩ := e
      obtain ⟨k', d'⟩ := e'
      obtain ⟨hvalue, hkey⟩ := he
      obtain rfl : d = d' := hvalue
      rcases hkey with hsame | ⟨m, hm, a, ha, b, hb, hka, hkb⟩
      · obtain rfl : k = k' := hsame
        rw [putMembers, putMembers]
        simp only [ih]
      · obtain rfl : k = .string a := hka
        obtain rfl : k' = .string b := hkb
        rw [putMembers, putMembers, Document.keyOf, Document.keyOf]
        simp only [bind, Except.bind, find?_eq_some hd hm ha, find?_eq_some hd hm hb, ih]

/-- **An object is read alike under all spellings of its keys.** -/
theorem ofMembers_respelled {r : Record σ} (hd : r.Distinct) {l l' : List (Document × Document)}
    (h : List.Forall₂ r.Respelled l l') (stop : Option Stop) : r.ofMembers l stop = r.ofMembers l' stop := by
  rw [ofMembers, ofMembers, putMembers_respelled hd h]

/-- The name of the member that a key stands for. -/
def nameOf? (r : Record σ) : Document → Option String
  | .string k => (r.find? k).map Member.name
  | _ => none

/-- Two members of an object do not stand for one member of the structure. -/
def Apart (r : Record σ) (e e' : Document × Document) : Prop :=
  ∀ n, r.nameOf? e.1 = some n → r.nameOf? e'.1 ≠ some n

/-- **In an object that is read no member comes twice.** -/
theorem apart_of_putMembers {r : Record σ} : ∀ {l : List (Document × Document)} {v : σ}
    {seen : List String} {out : σ × List String}, r.putMembers v seen l = .ok out →
    l.Pairwise r.Apart ∧ ∀ e ∈ l, ∀ n ∈ seen, r.nameOf? e.1 ≠ some n
  | [], _, _, _, _ => ⟨.nil, fun _ h => absurd h List.not_mem_nil⟩
  | (k, d) :: l, v, seen, out, h => by
      obtain ⟨key, hkey, h⟩ := exists_of_bind h
      have hname : ∀ n, r.nameOf? k = some n → (r.find? key).map Member.name = some n := by
        intro n hn
        cases k with
        | string s =>
            obtain rfl := Except.ok.inj hkey
            exact hn
        | _ => cases hn
      split at h
      · rename_i m hfind
        rw [hfind] at hname
        split at h
        · exact absurd h throw_ne_ok
        · rename_i hseen
          rw [List.contains_iff_mem] at hseen
          obtain ⟨v', -, h⟩ := exists_of_bind h
          obtain ⟨hpair, hfresh⟩ := apart_of_putMembers h
          constructor
          · refine List.pairwise_cons.mpr ⟨fun e he n hn => ?_, hpair⟩
            exact hfresh e he n (Option.some.inj (hname n hn) ▸ List.mem_cons_self)
          · intro e he n hn hen
            rcases List.mem_cons.mp he with rfl | he
            · exact hseen (Option.some.inj (hname n hen) ▸ hn)
            · exact hfresh e he n (List.mem_cons_of_mem _ hn) hen
      · rename_i hfind
        rw [hfind] at hname
        split at h
        · exact absurd h throw_ne_ok
        · obtain ⟨hpair, hfresh⟩ := apart_of_putMembers h
          constructor
          · exact List.pairwise_cons.mpr ⟨fun e _ n hn => absurd (hname n hn) (by simp), hpair⟩
          · intro e he n hn hen
            rcases List.mem_cons.mp he with rfl | he
            · exact absurd (hname n hen) (by simp)
            · exact hfresh e he n hn hen

/-- **An object that has a member under two spellings is not read.** -/
theorem ofMembers_ne_ok_of_twice {r : Record σ} (hd : r.Distinct) {m : Member σ} (hm : m ∈ r.members)
    {k k' : String} (hk : k ∈ m.spellings) (hk' : k' ∈ m.spellings) (hne : k ≠ k')
    {l : List (Document × Document)} {d d' : Document} (hin : (.string k, d) ∈ l)
    (hin' : (.string k', d') ∈ l) (stop : Option Stop) (v : σ) : r.ofMembers l stop ≠ .ok v := by
  intro h
  obtain ⟨out, hput, -⟩ := exists_of_bind h
  have : Std.Symm r.Apart := ⟨fun _ _ hapart n hn hn' => hapart n hn' hn⟩
  have hne' : ((.string k, d) : Document × Document) ≠ (.string k', d') := by
    intro heq
    exact hne (Document.string.inj (Prod.mk.inj heq).1)
  have hapart := (apart_of_putMembers hput).1.forall hin hin' hne'
  have hname : ∀ {key : String}, key ∈ m.spellings → r.nameOf? (.string key) = some m.name := by
    intro key hkey
    rw [nameOf?, find?_eq_some hd hm hkey]
    rfl
  exact hapart m.name (hname hk) (hname hk')

end Record

end TableDraft.Json

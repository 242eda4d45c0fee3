import TableDraft.Json.Decode
import TableDraft.Proofs.Basic

/-!
# What reading a structure keeps

A structure is read by putting one member after another into its blank value, from an object or from
a list. **What holds of the blank value and is kept by every member holds of what is read**
(`read_keeps`); `putMembers_keeps` and `putItems_keeps` are its two runs. **What one member sets holds of
what is read if the others keep it** (`read_sets`).
-/

namespace TableDraft.Json

/-! ## 1. Steps of a reading -/

section Steps

variable {ε α : Type}

theorem throw_ne_ok {e : ε} {a : α} : (throw e : Except ε α) ≠ .ok a := fun h => by cases h

/-- What is read from a text is what some document stands for. -/
theorem Codec.exists_decode {c : Codec α} {text : String} {a : α} (h : c.read text = .ok a) :
    ∃ d, c.decode d = .ok a := by
  unfold Codec.read at h
  simp only at h
  split at h
  · cases h
  · rename_i a' hdecode
    split at h
    · cases h
    · exact ⟨_, Except.ok.inj h ▸ hdecode⟩

end Steps

/-! ## 2. Structures -/

variable {σ : Type}

/-- Putting the member in keeps the property, whatever document it comes from. -/
def Member.Keeps (m : Member σ) (p : σ → Prop) : Prop :=
  ∀ d value value', p value → m.put d value = .ok value' → p value'

namespace Record

variable {r : Record σ} {p : σ → Prop}

/-- A member is put only once, so that those seen before keep everything. -/
theorem putMembers_keeps : ∀ {l : List (Document × Document)} {value : σ} {seen : List String}
    {out : σ × List String}, (∀ m ∈ r.members, m.name ∉ seen → m.Keeps p) → p value →
    r.putMembers value seen l = .ok out → p out.1
  | [], value, seen, out, _, hv, h => by
      obtain rfl := Except.ok.inj h
      exact hv
  | m :: l, value, seen, out, hkeep, hv, h => by
      obtain ⟨key, -, h⟩ := exists_of_bind h
      split at h
      · rename_i member hfind
        split at h
        · exact absurd h throw_ne_ok
        · rename_i hseen
          rw [List.contains_iff_mem] at hseen
          obtain ⟨value', hput, h⟩ := exists_of_bind h
          have hmem : member ∈ r.members := List.mem_of_find?_eq_some hfind
          refine putMembers_keeps (fun m' hm' hnew => ?_)
            (hkeep member hmem hseen m.2 value value' hv hput) h
          exact hkeep m' hm' fun hold => hnew (List.mem_cons_of_mem _ hold)
      · split at h
        · exact absurd h throw_ne_ok
        · exact putMembers_keeps hkeep hv h

/-- **What a member sets stays**, if the others keep it: no member is put twice. -/
theorem putMembers_sets {key : String} {d : Document} {m : Member σ} (hfind : r.find? key = some m)
    (hset : ∀ value value', m.put d value = .ok value' → p value')
    (hkeep : ∀ m' ∈ r.members, m'.name ≠ m.name → m'.Keeps p) :
    ∀ {l : List (Document × Document)} {value : σ} {seen : List String} {out : σ × List String},
    (.string key, d) ∈ l → r.putMembers value seen l = .ok out → p out.1
  | [], _, _, _, hmem, _ => absurd hmem List.not_mem_nil
  | e :: l, value, seen, out, hmem, h => by
      obtain ⟨key', hkey, h⟩ := exists_of_bind h
      rcases List.mem_cons.mp hmem with rfl | hmem
      · obtain rfl : key = key' := Except.ok.inj hkey
        rw [hfind] at h
        dsimp only at h
        split at h
        · exact absurd h throw_ne_ok
        · obtain ⟨value', hput, h⟩ := exists_of_bind h
          refine putMembers_keeps (fun m' hm' hnew => ?_) (hset value value' hput) h
          exact hkeep m' hm' fun heq => hnew (heq ▸ List.mem_cons_self)
      · split at h
        · split at h
          · exact absurd h throw_ne_ok
          · obtain ⟨value', -, h⟩ := exists_of_bind h
            exact putMembers_sets hfind hset hkeep hmem h
        · split at h
          · exact absurd h throw_ne_ok
          · exact putMembers_sets hfind hset hkeep hmem h

theorem putItems_keeps {stop : Option Stop} : ∀ {ms : List (Member σ)} {items : List Document}
    {value : σ} {count : Nat} {out : σ × List Document}, (∀ m ∈ ms, m.Keeps p) → p value →
    r.putItems stop value count ms items = .ok out → p out.1
  | [], items, value, count, out, _, hv, h => by
      obtain rfl := Except.ok.inj h
      exact hv
  | m :: ms, d :: items, value, count, out, hms, hv, h => by
      obtain ⟨hm, hms⟩ := List.forall_mem_cons.mp hms
      obtain ⟨value', hput, h⟩ := exists_of_bind h
      exact putItems_keeps hms (hm d value value' hv hput) h
  | m :: ms, [], value, count, out, hms, hv, h => by
      obtain ⟨_, -, h⟩ := exists_of_bind h
      split at h
      · exact absurd h throw_ne_ok
      · exact putItems_keeps (List.forall_mem_cons.mp hms).2 hv h

/-- **What an item sets stays**, if the members behind it keep it. -/
theorem putItems_sets {stop : Option Stop} {d : Document} {m : Member σ} {post : List (Member σ)}
    (hset : ∀ value value', m.put d value = .ok value' → p value')
    (hkeep : ∀ m' ∈ post, m'.Keeps p) :
    ∀ {pre : List (Member σ)} {items : List Document} {value : σ} {count : Nat}
    {out : σ × List Document}, items[pre.length]? = some d →
    r.putItems stop value count (pre ++ m :: post) items = .ok out → p out.1
  | [], e :: items, value, count, out, hitem, h => by
      obtain rfl : e = d := Option.some.inj hitem
      obtain ⟨value', hput, h⟩ := exists_of_bind h
      exact putItems_keeps hkeep (hset value value' hput) h
  | m' :: pre, e :: items, value, count, out, hitem, h => by
      obtain ⟨value', -, h⟩ := exists_of_bind h
      have hitem' : items[pre.length]? = some d := hitem
      exact putItems_sets hset hkeep hitem' h

section Read

variable (hkeep : ∀ m ∈ r.members, m.Keeps p)
include hkeep

theorem ofMembers_keeps {members : List (Document × Document)} {stop : Option Stop} {value : σ}
    (hblank : p r.blank) (h : r.ofMembers members stop = .ok value) : p value := by
  obtain ⟨out, hput, h⟩ := exists_of_bind h
  obtain ⟨_, -, h⟩ := exists_of_bind h
  split at h
  · exact absurd h throw_ne_ok
  · exact Except.ok.inj h ▸ putMembers_keeps (fun m hm _ => hkeep m hm) hblank hput

theorem ofItems_keeps {items : List Document} {stop : Option Stop} {value : σ}
    (hblank : p r.blank) (h : r.ofItems items stop = .ok value) : p value := by
  obtain ⟨out, hput, h⟩ := exists_of_bind h
  obtain ⟨_, -, h⟩ := exists_of_bind h
  exact Except.ok.inj h ▸ putItems_keeps hkeep hblank hput

/-- **What holds of the blank value and is kept by every member holds of what is read.** -/
theorem read_keeps {d : Document} {value : σ} (hblank : p r.blank) (h : r.read d = .ok value) :
    p value := by
  unfold read at h
  split at h
  · exact ofMembers_keeps hkeep hblank h
  · exact ofItems_keeps hkeep hblank h
  · cases h

end Read

/-- The member's document in an object or in a list is read into the structure. -/
inductive Holds (r : Record σ) (m : Member σ) (d : Document) : Document → Prop
  /-- Under a key of the member. -/
  | member {key : String} {members : List (Document × Document)} {stop : Option Stop}
      (hfind : r.find? key = some m) (hmem : (.string key, d) ∈ members) :
      Holds r m d (.object members stop)
  /-- At the place of the member. -/
  | item (pre post : List (Member σ)) {items : List Document} {stop : Option Stop}
      (hplace : r.members = pre ++ m :: post) (hitem : items[pre.length]? = some d) :
      Holds r m d (.array items stop)

/-- **What a member sets is what is read**, if the others keep it. -/
theorem read_sets {m : Member σ} {d whole : Document} {value : σ} (hholds : Holds r m d whole)
    (hset : ∀ value value', m.put d value = .ok value' → p value')
    (hkeep : ∀ m' ∈ r.members, m'.name ≠ m.name → m'.Keeps p)
    (hnames : (r.members.map Member.name).Nodup) (h : r.read whole = .ok value) : p value := by
  cases hholds with
  | member hfind hmem =>
      obtain ⟨out, hput, h⟩ := exists_of_bind h
      obtain ⟨_, -, h⟩ := exists_of_bind h
      split at h
      · exact absurd h throw_ne_ok
      · exact Except.ok.inj h ▸ putMembers_sets hfind hset hkeep hmem hput
  | item pre post hplace hitem =>
      obtain ⟨out, hput, h⟩ := exists_of_bind h
      obtain ⟨_, -, h⟩ := exists_of_bind h
      rw [hplace] at hput hnames hkeep
      refine Except.ok.inj h ▸ putItems_sets hset (fun m' hm' => ?_) hitem hput
      refine hkeep m' (by simp [hm']) fun heq => ?_
      rw [List.map_append, List.map_cons] at hnames
      have hapart := (List.nodup_cons.mp (List.nodup_append.mp hnames).2.1).1
      exact hapart (heq ▸ List.mem_map_of_mem hm')

end Record

end TableDraft.Json

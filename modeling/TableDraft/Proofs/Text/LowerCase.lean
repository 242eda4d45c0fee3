import TableDraft.Proofs.Text.Trimming
import TableDraft.Text.LetterCase

/-!
# Text in lower case

`Low s` says that every character of `s` is its own lower case. The laws of `lower`:

* **the lower case of a text is low** (`low_lower`), and a low text is its own lower case
  (`lower_of_low`), so that lowering twice is lowering once;
* no blank comes of a character that is none, so that **the lower case of a trimmed text is trimmed**
  (`trim_lower`);
* for ASCII, lowering a text is lowering each character (`lower_of_ascii`), and a low text has no
  capital of ASCII (`map_toLower_of_low`).

Beyond ASCII this rests on the table of case runs: what a run gives is held by no run
(`misses_lowerRuns`) and is no blank (`settled_lowerRuns`).
-/

namespace TableDraft.Text

open Unicode

/-! ## 1. The table of case runs -/

/-- The first code point that the run gives. -/
def firstImage (r : CaseRun) : Nat := (r.first + r.shift).toNat

/-- The last code point that the run gives. -/
def lastImage (r : CaseRun) : Nat := (r.last + r.shift).toNat

/-- Nothing that the first run gives is held by the second: they lie apart, or both go in steps of
two and differ in parity. -/
def misses (r r' : CaseRun) : Bool :=
  (lastImage r).blt r'.first || r'.last.blt (firstImage r) ||
  (r'.step == 2 && (r.step == 2 || r.first == r.last) && (firstImage r + r'.first) % 2 == 1)

/-- What the run gives are characters, and none of them is a capital of ASCII, the dotted capital I or
a blank. -/
def settled (r : CaseRun) : Bool :=
  Nat.blt 90 (firstImage r) &&
  ((lastImage r).blt 0xD800 || (Nat.blt 0xDFFF (firstImage r) && (lastImage r).blt 0x110000)) &&
  ((lastImage r).blt 0x130 || Nat.blt 0x130 (firstImage r)) &&
  blankPoints.all (fun b => (lastImage r).blt b || b.blt (firstImage r))

theorem misses_lowerRuns {r r' : CaseRun} (hr : r ∈ lowerRuns) (hr' : r' ∈ lowerRuns) :
    misses r r' = true := by
  have hall : lowerRuns.all (fun r => lowerRuns.all (misses r)) = true := by decide +kernel
  exact List.all_eq_true.mp (List.all_eq_true.mp hall r hr) r' hr'

theorem settled_lowerRuns {r : CaseRun} (hr : r ∈ lowerRuns) : settled r = true := by
  have hall : lowerRuns.all settled = true := by decide +kernel
  exact List.all_eq_true.mp hall r hr

theorem blt_iff {m n : Nat} : m.blt n = true ↔ m < n := iff_of_eq Nat.blt_eq

theorem covers_iff {r : CaseRun} {n : Nat} :
    r.covers n = true ↔ r.first ≤ n ∧ n ≤ r.last ∧ (n - r.first) % r.step = 0 := by
  simp [CaseRun.covers, and_assoc]

theorem image?_eq_some_iff {r : CaseRun} {n m : Nat} :
    r.image? n = some m ↔ r.covers n = true ∧ (n + r.shift).toNat = m := by
  unfold CaseRun.image?
  by_cases h : r.covers n = true <;> simp [h]

theorem image_between {r : CaseRun} {n m : Nat} (h : r.image? n = some m) :
    firstImage r ≤ m ∧ m ≤ lastImage r := by
  obtain ⟨hn, rfl⟩ := image?_eq_some_iff.mp h
  obtain ⟨h1, h2, -⟩ := covers_iff.mp hn
  unfold firstImage lastImage
  omega

/-- What a run gives is not held by a run that it misses. -/
theorem not_covers_of_misses {r r' : CaseRun} (hmiss : misses r r' = true) (hpos : 0 < firstImage r)
    {n m : Nat} (h : r.image? n = some m) : r'.covers m = false := by
  obtain ⟨hlo, hhi⟩ := image_between h
  obtain ⟨hn, hm⟩ := image?_eq_some_iff.mp h
  obtain ⟨h1, h2, h3⟩ := covers_iff.mp hn
  rw [← Bool.not_eq_true, covers_iff]
  rintro ⟨g1, g2, g3⟩
  simp only [misses, Bool.or_eq_true, Bool.and_eq_true, blt_iff, beq_iff_eq] at hmiss
  rcases hmiss with (hmiss | hmiss) | ⟨⟨hstep', hstep⟩, hodd⟩
  · omega
  · omega
  · rw [hstep'] at g3
    unfold firstImage at hpos hodd
    rcases hstep with hstep | hone
    · rw [hstep] at h3
      omega
    · omega

/-- **What a run gives is held by no run.** -/
theorem not_covers_image {r r' : CaseRun} (hr : r ∈ lowerRuns) (hr' : r' ∈ lowerRuns) {n m : Nat}
    (h : r.image? n = some m) : r'.covers m = false := by
  have hset := settled_lowerRuns hr
  simp only [settled, Bool.and_eq_true, blt_iff] at hset
  have hpos := hset.1.1.1
  exact not_covers_of_misses (misses_lowerRuns hr hr') (by omega) h

/-- Outside of the surrogates a number is the code point of a character. -/
theorem toNat_ofNat {m : Nat} (h : m < 0xD800 ∨ 0xDFFF < m ∧ m < 0x110000) :
    (Char.ofNat m).toNat = m := by
  have hchar : Char.ofNat m = Char.ofNatAux m h := dif_pos h
  rw [hchar]
  rfl

/-! ## 2. One character -/

theorem forall_ascii {p : Char → Prop} (hp : ∀ n < 128, p (Char.ofNat n)) {c : Char}
    (h : isAscii c = true) : p c := by
  have hc := hp c.toNat (by simpa [isAscii] using h)
  rwa [Char.ofNat_toNat] at hc

theorem lowerChar_of_ascii {c : Char} (h : isAscii c = true) : lowerChar c = [c.toLower] := by
  rw [lowerChar, if_pos h]

/-- A character that no run holds is its own lower case. -/
theorem lowerChar_eq_self {c : Char} (ha : isAscii c = false) (hi : c.toNat ≠ 0x130)
    (h : ∀ r ∈ lowerRuns, r.covers c.toNat = false) : lowerChar c = [c] := by
  have hnone : lowerRuns.findSome? (·.image? c.toNat) = none := by
    rw [List.findSome?_eq_none_iff]
    intro r hr
    simp [CaseRun.image?, h r hr]
  simp [lowerChar, ha, hi, hnone]

/-- A lower case is its own lower case, and a blank only that of a blank. -/
structure Settled (c x : Char) : Prop where
  self : lowerChar x = [x]
  blank : isBlank x = true → isBlank c = true

/-- What a run gives is the code point of a character. -/
theorem toNat_image {r : CaseRun} (hr : r ∈ lowerRuns) {n m : Nat} (h : r.image? n = some m) :
    (Char.ofNat m).toNat = m := by
  have hset := settled_lowerRuns hr
  obtain ⟨hlo, hhi⟩ := image_between h
  simp only [settled, Bool.or_eq_true, Bool.and_eq_true, blt_iff] at hset
  exact toNat_ofNat (by omega)

theorem settled_image {r : CaseRun} (hr : r ∈ lowerRuns) {c : Char} {m : Nat}
    (h : r.image? c.toNat = some m) : Settled c (Char.ofNat m) := by
  have hset := settled_lowerRuns hr
  have hm := toNat_image hr h
  obtain ⟨hlo, hhi⟩ := image_between h
  simp only [settled, Bool.or_eq_true, Bool.and_eq_true, blt_iff, List.all_eq_true] at hset
  obtain ⟨⟨⟨hcap, -⟩, hdot⟩, hblank⟩ := hset
  refine ⟨?_, fun hb => ?_⟩
  · cases ha : isAscii (Char.ofNat m) with
    | false =>
        refine lowerChar_eq_self ha (by omega) fun r' hr' => ?_
        rw [hm]
        exact not_covers_image hr hr' h
    | true =>
        have hsmall : ∀ n < 128, 90 < n → (Char.ofNat n).toLower = Char.ofNat n := by decide
        rw [lowerChar_of_ascii ha, hsmall m (by simpa [isAscii, hm] using ha) (by omega)]
  · have hmem := toNat_mem_blankPoints hb
    rw [hm] at hmem
    have := hblank m hmem
    omega

/-- **Every character of a lower case is settled.** -/
theorem settled_of_mem {c x : Char} (hx : x ∈ lowerChar c) : Settled c x := by
  cases ha : isAscii c with
  | true =>
      rw [lowerChar_of_ascii ha, List.mem_singleton] at hx
      subst hx
      have hall : ∀ n < 128, lowerChar (Char.ofNat n).toLower = [(Char.ofNat n).toLower] ∧
          (isBlank (Char.ofNat n).toLower = true → isBlank (Char.ofNat n) = true) := by
        decide +kernel
      have h := forall_ascii (p := fun c => lowerChar c.toLower = [c.toLower] ∧
        (isBlank c.toLower = true → isBlank c = true)) hall ha
      exact ⟨h.1, h.2⟩
  | false =>
      by_cases hi : c.toNat = 0x130
      · have hc : x = 'i' ∨ x = Char.ofNat 0x307 := by
          simpa [lowerChar, ha, hi] using hx
        rcases hc with rfl | rfl
        · exact ⟨by decide +kernel, fun hb => absurd hb (by decide)⟩
        · exact ⟨by decide +kernel, fun hb => absurd hb (by decide)⟩
      · cases hrun : lowerRuns.findSome? (·.image? c.toNat) with
        | some m =>
            have hc : x = Char.ofNat m := by
              simpa [lowerChar, ha, hi, hrun] using hx
            obtain ⟨r, hr, him⟩ := List.exists_of_findSome?_eq_some hrun
            rw [hc]
            exact settled_image hr him
        | none =>
            have hself : lowerChar c = [c] := by
              simp [lowerChar, ha, hi, hrun]
            rw [hself, List.mem_singleton] at hx
            subst hx
            exact ⟨hself, id⟩

theorem lowerChar_ne_nil (c : Char) : lowerChar c ≠ [] := by
  unfold lowerChar
  split
  · simp
  · split
    · simp
    · split <;> simp

theorem settled_sigma (before after : List Char) : Settled 'Σ' (lowerSigma before after) := by
  unfold lowerSigma
  split
  · exact ⟨by decide +kernel, by decide⟩
  · exact ⟨by decide +kernel, by decide⟩

/-! ## 3. A text -/

/-- The lower case of a character between others. -/
def lowerBetween (before : List Char) (c : Char) (after : List Char) : List Char :=
  if c == 'Σ' then [lowerSigma before after] else lowerChar c

theorem lowerAfter_cons (before : List Char) (c : Char) (s : List Char) :
    lowerAfter before (c :: s) = lowerBetween before c s ++ lowerAfter (c :: before) s := rfl

theorem settled_between {before after : List Char} {c x : Char}
    (hx : x ∈ lowerBetween before c after) : Settled c x := by
  unfold lowerBetween at hx
  split at hx
  · rename_i hc
    obtain rfl := beq_iff_eq.mp hc
    rw [List.mem_singleton.mp hx]
    exact settled_sigma before after
  · exact settled_of_mem hx

theorem lowerBetween_ne_nil (before : List Char) (c : Char) (after : List Char) :
    lowerBetween before c after ≠ [] := by
  unfold lowerBetween
  split
  · simp
  · exact lowerChar_ne_nil c

/-- Every character of the text is its own lower case. -/
def Low (s : List Char) : Prop := ∀ c ∈ s, lowerChar c = [c]

theorem low_lowerAfter (before : List Char) : ∀ s : List Char, Low (lowerAfter before s)
  | [] => fun c hc => absurd hc List.not_mem_nil
  | c :: s => by
      intro x hx
      rw [lowerAfter_cons, List.mem_append] at hx
      rcases hx with hx | hx
      · exact (settled_between hx).self
      · exact low_lowerAfter (c :: before) s x hx

/-- **The lower case of a text is low.** -/
theorem low_lower (s : List Char) : Low (lower s) := low_lowerAfter [] s

theorem lowerAfter_of_low (before : List Char) : ∀ {s : List Char}, Low s → lowerAfter before s = s
  | [], _ => rfl
  | c :: s, h => by
      have hself : lowerChar c = [c] := h c List.mem_cons_self
      have hc : c ≠ 'Σ' := by
        rintro rfl
        exact absurd hself (by decide +kernel)
      have ih := lowerAfter_of_low (c :: before) fun x hx => h x (List.mem_cons_of_mem c hx)
      simp [lowerAfter_cons, lowerBetween, hc, hself, ih]

theorem lower_of_low {s : List Char} (h : Low s) : lower s = s := lowerAfter_of_low [] h

/-! ## 4. Blanks at the ends -/

theorem lowerAfter_ne_nil {before s : List Char} (h : s ≠ []) : lowerAfter before s ≠ [] := by
  cases s with
  | nil => exact absurd rfl h
  | cons c s =>
      rw [lowerAfter_cons]
      simp [lowerBetween_ne_nil]

theorem head_lowerAfter {before s : List Char} (h : ∀ c ∈ s.head?, isBlank c = false) :
    ∀ x ∈ (lowerAfter before s).head?, isBlank x = false := by
  intro x hx
  cases s with
  | nil => cases hx
  | cons c s =>
      rw [lowerAfter_cons, List.head?_append_of_ne_nil _ (lowerBetween_ne_nil before c s)] at hx
      have hset := settled_between (List.mem_of_head? hx)
      rw [← Bool.not_eq_true]
      intro hb
      have hc := hset.blank hb
      rw [h c rfl] at hc
      cases hc

theorem last_lowerAfter : ∀ {before s : List Char}, (∀ c ∈ s.getLast?, isBlank c = false) →
    ∀ x ∈ (lowerAfter before s).getLast?, isBlank x = false
  | _, [], _, x, hx => by cases hx
  | before, [c], h, x, hx => by
      rw [lowerAfter_cons, lowerAfter, List.append_nil] at hx
      have hset := settled_between (List.mem_of_getLast? hx)
      rw [← Bool.not_eq_true]
      intro hb
      have hc := hset.blank hb
      rw [h c rfl] at hc
      cases hc
  | before, c :: d :: s, h, x, hx => by
      have hne : lowerAfter (c :: before) (d :: s) ≠ [] := lowerAfter_ne_nil (List.cons_ne_nil d s)
      rw [lowerAfter_cons, List.getLast?_append_of_ne_nil _ hne] at hx
      exact last_lowerAfter (fun e he => h e (by simpa using he)) x hx

/-- **The lower case of a trimmed text is trimmed.** -/
theorem trim_lower (s : List Char) : trim (lower (trim s)) = lower (trim s) :=
  trim_eq_self (head_lowerAfter head_of_trim) (last_lowerAfter last_of_trim)

/-! ## 5. ASCII -/

theorem lowerAfter_of_ascii (before : List Char) : ∀ {s : List Char}, s.all isAscii = true →
    lowerAfter before s = s.map Char.toLower
  | [], _ => rfl
  | c :: s, h => by
      rw [List.all_cons, Bool.and_eq_true] at h
      have hc : c ≠ 'Σ' := by
        rintro rfl
        exact absurd h.1 (by decide)
      simp [lowerAfter_cons, lowerBetween, hc, lowerChar_of_ascii h.1,
        lowerAfter_of_ascii (c :: before) h.2]

theorem lower_of_ascii {s : List Char} (h : s.all isAscii = true) : lower s = s.map Char.toLower :=
  lowerAfter_of_ascii [] h

theorem toLower_of_not_ascii {c : Char} (h : isAscii c = false) : c.toLower = c := by
  have hc : ¬ c.toNat < 128 := by simpa [isAscii] using h
  unfold Char.toLower
  rw [dif_neg]
  rintro ⟨-, hup⟩
  have : c.toNat ≤ 90 := UInt32.le_iff_toNat_le.mp hup
  omega

theorem isAscii_toLower {c : Char} (hc : isAscii c = true) : isAscii c.toLower = true :=
  forall_ascii (p := fun c => isAscii c.toLower = true) (by decide) hc

theorem isAscii_of_toLower {c : Char} (h : isAscii c.toLower = true) : isAscii c = true := by
  rw [← Bool.not_eq_false]
  intro hc
  rw [toLower_of_not_ascii hc, hc] at h
  cases h

/-- A low text has no capital of ASCII. -/
theorem map_toLower_of_low {s : List Char} (h : Low s) : s.map Char.toLower = s := by
  refine (List.map_congr_left fun c hc => ?_).trans (List.map_id s)
  cases ha : isAscii c with
  | true =>
      have hself := h c hc
      rw [lowerChar_of_ascii ha] at hself
      exact List.singleton_inj.mp hself
  | false => exact toLower_of_not_ascii ha

end TableDraft.Text

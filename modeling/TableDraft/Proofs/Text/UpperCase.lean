import TableDraft.Proofs.Text.LowerCase

/-!
# Text in upper case

`High s` says that every character of `s` is its own upper case. The laws of `upper`:

* **the upper case of a text is high** (`high_upper`), and a high text is its own upper case
  (`upper_of_high`), so that raising twice is raising once (`upper_upper`);
* a blank is `Steady`, and so is every ASCII character that is no letter: it is its own upper case and
  comes from no other character. Hence **trimming and raising can change places** (`trim_upper`), and
  a blank in the upper case of a text stands in the text (`mem_of_mem_upper`).

Beyond ASCII this rests on the tables of case runs and of special mappings.
-/

namespace TableDraft.Text

open Unicode

/-! ## 1. The tables -/

/-- What the run gives are characters. -/
def givesCharacters (r : CaseRun) : Bool :=
  Nat.blt 0 (firstImage r) &&
  ((lastImage r).blt 0xD800 || (Nat.blt 0xDFFF (firstImage r) && (lastImage r).blt 0x110000))

/-- The run holds nothing of ASCII, and what it gives of it are capital letters. -/
def sparesAscii (r : CaseRun) : Bool :=
  Nat.ble 128 r.first &&
  (Nat.ble 128 (firstImage r) || (Nat.ble 65 (firstImage r) && (lastImage r).ble 90))

/-- The run neither holds nor gives the code point. -/
def Avoids (n : Nat) (r : CaseRun) : Prop :=
  (n < r.first ∨ r.last < n) ∧ (n < firstImage r ∨ lastImage r < n)

/-- What the laws ask of a run of upper case: what it gives are characters, none of them held by a run
or the start of a special mapping; it spares ASCII, and no blank lies in it or in what it gives. -/
structure FitRun (r : CaseRun) : Prop where
  gives : givesCharacters r = true
  spares : 128 ≤ r.first ∧ (128 ≤ firstImage r ∨ 65 ≤ firstImage r ∧ lastImage r ≤ 90)
  misses : ∀ r' ∈ upperRuns, misses r r' = true
  starts : ∀ e ∈ upperSequences, lastImage r < e.1 ∨ e.1 < firstImage r
  blanks : ∀ n ∈ blankPoints, Avoids n r

/-- What the laws ask of a special mapping: it spares ASCII, what it gives are characters that are
their own upper case, at least one of them, and no blank is its start or given by it. -/
structure FitMapping (e : Nat × List Nat) : Prop where
  spares : 128 ≤ e.1 ∧ ∀ n ∈ e.2, 128 ≤ n ∨ 65 ≤ n ∧ n ≤ 90
  ne_nil : e.2 ≠ []
  high : ∀ n ∈ e.2, (Char.ofNat n).toNat = n ∧ upperChar (Char.ofNat n) = [Char.ofNat n]
  blanks : ∀ n ∈ blankPoints, n ≠ e.1 ∧ n ∉ e.2

/-- `FitRun`, as a check. -/
def fitRun (r : CaseRun) : Bool :=
  givesCharacters r && sparesAscii r && upperRuns.all (misses r) &&
  upperSequences.all (fun e => (lastImage r).blt e.1 || e.1.blt (firstImage r)) &&
  blankPoints.all fun n =>
    (n.blt r.first || r.last.blt n) && (n.blt (firstImage r) || (lastImage r).blt n)

/-- `FitMapping`, as a check. -/
def fitMapping (e : Nat × List Nat) : Bool :=
  Nat.ble 128 e.1 && !e.2.isEmpty &&
  (e.2.all fun n => (Nat.ble 128 n || (Nat.ble 65 n && n.ble 90)) &&
    (n.blt 0xD800 && upperChar (Char.ofNat n) == [Char.ofNat n])) &&
  blankPoints.all fun n => n != e.1 && !e.2.contains n

/-- The tables are run through the checks here, and nowhere else. -/
theorem upperTables_fit : (upperRuns.all fitRun && upperSequences.all fitMapping) = true := by
  decide +kernel

theorem fitRun_of_mem {r : CaseRun} (hr : r ∈ upperRuns) : FitRun r := by
  have h := List.all_eq_true.mp (Bool.and_eq_true_iff.mp upperTables_fit).1 r hr
  simp only [fitRun, sparesAscii, Bool.and_eq_true, Bool.or_eq_true, List.all_eq_true, blt_iff,
    Nat.ble_eq] at h
  obtain ⟨⟨⟨⟨hgives, hspares⟩, hmisses⟩, hstarts⟩, hblanks⟩ := h
  exact ⟨hgives, hspares, hmisses, hstarts, hblanks⟩

theorem fitMapping_of_mem {e : Nat × List Nat} (he : e ∈ upperSequences) : FitMapping e := by
  have h := List.all_eq_true.mp (Bool.and_eq_true_iff.mp upperTables_fit).2 e he
  simp only [fitMapping, Bool.and_eq_true, Bool.or_eq_true, List.all_eq_true, blt_iff, Nat.ble_eq,
    beq_iff_eq, bne_iff_ne, Bool.not_eq_true', List.isEmpty_eq_false_iff,
    List.contains_eq_mem, decide_eq_false_iff_not] at h
  obtain ⟨⟨⟨hstart, hne⟩, hgiven⟩, hblanks⟩ := h
  exact ⟨⟨hstart, fun n hn => (hgiven n hn).1⟩, hne,
    fun n hn => ⟨toNat_ofNat (Or.inl (hgiven n hn).2.1), (hgiven n hn).2.2⟩, hblanks⟩

theorem toNat_upperImage {r : CaseRun} (hr : r ∈ upperRuns) {n m : Nat} (h : r.image? n = some m) :
    (Char.ofNat m).toNat = m := by
  have hset := (fitRun_of_mem hr).gives
  have hbetween := image_between h
  simp only [givesCharacters, Bool.or_eq_true, Bool.and_eq_true, blt_iff] at hset
  exact toNat_ofNat (by omega)

/-! ## 2. One character -/

theorem upperChar_of_ascii {c : Char} (h : isAscii c = true) : upperChar c = [c.toUpper] := by
  rw [upperChar, if_pos h]

/-- A character that no table holds is its own upper case. -/
theorem upperChar_eq_self {c : Char} (ha : isAscii c = false)
    (hs : ∀ e ∈ upperSequences, e.1 ≠ c.toNat) (h : ∀ r ∈ upperRuns, r.covers c.toNat = false) :
    upperChar c = [c] := by
  have hsequence : upperSequences.lookup c.toNat = none := by
    rw [List.lookup_eq_none_iff]
    exact fun e he => bne_iff_ne.mpr (hs e he).symm
  have hrun : upperRuns.findSome? (·.image? c.toNat) = none := by
    rw [List.findSome?_eq_none_iff]
    intro r hr
    simp [CaseRun.image?, h r hr]
  simp [upperChar, ha, hsequence, hrun]

/-- Where a character of an upper case comes from: ASCII, a special mapping, a run, or itself. -/
theorem upperChar_cases {c x : Char} (hx : x ∈ upperChar c) :
    (isAscii c = true ∧ x = c.toUpper) ∨
    (∃ e ∈ upperSequences, ∃ n ∈ e.2, x = Char.ofNat n) ∨
    (∃ r ∈ upperRuns, ∃ n, r.image? c.toNat = some n ∧ x = Char.ofNat n) ∨
    (x = c ∧ upperChar c = [c]) := by
  cases ha : isAscii c with
  | true =>
      rw [upperChar_of_ascii ha, List.mem_singleton] at hx
      exact Or.inl ⟨rfl, hx⟩
  | false =>
      cases hlookup : upperSequences.lookup c.toNat with
      | some ns =>
          obtain ⟨l, l', hl, -⟩ := List.lookup_eq_some_iff.mp hlookup
          have hentry : (c.toNat, ns) ∈ upperSequences := by
            rw [hl]
            exact List.mem_append_right l List.mem_cons_self
          simp only [upperChar, ha, hlookup, Bool.false_eq_true, if_false, List.mem_map] at hx
          obtain ⟨n, hn, rfl⟩ := hx
          exact Or.inr (Or.inl ⟨_, hentry, n, hn, rfl⟩)
      | none =>
          cases hrun : upperRuns.findSome? (·.image? c.toNat) with
          | some n =>
              obtain ⟨r, hr, him⟩ := List.exists_of_findSome?_eq_some hrun
              have hn : x = Char.ofNat n := by
                simpa [upperChar, ha, hlookup, hrun] using hx
              exact Or.inr (Or.inr (Or.inl ⟨r, hr, n, him, hn⟩))
          | none =>
              have hself : upperChar c = [c] := by
                simp [upperChar, ha, hlookup, hrun]
              rw [hself, List.mem_singleton] at hx
              exact Or.inr (Or.inr (Or.inr ⟨hx, hself⟩))

theorem upperChar_ne_nil (c : Char) : upperChar c ≠ [] := by
  unfold upperChar
  split
  · simp
  · split
    · rename_i ns hlookup
      obtain ⟨l, l', hl, -⟩ := List.lookup_eq_some_iff.mp hlookup
      have hentry : (c.toNat, ns) ∈ upperSequences := by
        rw [hl]
        exact List.mem_append_right l List.mem_cons_self
      simpa using (fitMapping_of_mem hentry).ne_nil
    · split <;> simp

/-- What a run gives is its own upper case. -/
theorem upperChar_image {r : CaseRun} (hr : r ∈ upperRuns) {n m : Nat} (h : r.image? n = some m) :
    upperChar (Char.ofNat m) = [Char.ofNat m] := by
  have hm := toNat_upperImage hr h
  have hfit := fitRun_of_mem hr
  have hset := hfit.gives
  have hbetween := image_between h
  simp only [givesCharacters, Bool.and_eq_true, blt_iff] at hset
  cases ha : isAscii (Char.ofNat m) with
  | true =>
      have hcapital : ∀ n < 128, 65 ≤ n → n ≤ 90 → (Char.ofNat n).toUpper = Char.ofNat n := by decide
      have hsmall : m < 128 := by simpa [isAscii, hm] using ha
      have hspare := hfit.spares.2
      rw [upperChar_of_ascii ha, hcapital m hsmall (by omega) (by omega)]
  | false =>
      refine upperChar_eq_self ha (fun e he => ?_) fun r' hr' => ?_
      · have hmiss := hfit.starts e he
        omega
      · rw [hm]
        exact not_covers_of_misses (hfit.misses r' hr') hset.1 h

/-- **Every character of an upper case is its own upper case.** -/
theorem upperChar_of_mem {c x : Char} (hx : x ∈ upperChar c) : upperChar x = [x] := by
  rcases upperChar_cases hx with ⟨ha, rfl⟩ | ⟨e, he, n, hn, rfl⟩ | ⟨r, hr, n, him, rfl⟩ | ⟨rfl, hself⟩
  · have hall : ∀ n < 128, isAscii (Char.ofNat n).toUpper = true ∧
        (Char.ofNat n).toUpper.toUpper = (Char.ofNat n).toUpper := by decide
    obtain ⟨hascii, hself⟩ := forall_ascii
      (p := fun c => isAscii c.toUpper = true ∧ c.toUpper.toUpper = c.toUpper) hall ha
    rw [upperChar_of_ascii hascii, hself]
  · exact ((fitMapping_of_mem he).high n hn).2
  · exact upperChar_image hr him
  · exact hself

/-- The character is its own upper case, and that of no other one. -/
structure Steady (x : Char) : Prop where
  self : upperChar x = [x]
  source : ∀ c, x ∈ upperChar c → c = x

/-- **What no table touches, and is no letter of ASCII, stays and comes from nothing else.** -/
theorem steady_of_avoids {x : Char} (hletter : x.isAlpha = false)
    (hruns : ∀ r ∈ upperRuns, Avoids x.toNat r)
    (hsequences : ∀ e ∈ upperSequences, x.toNat ≠ e.1 ∧ x.toNat ∉ e.2) : Steady x := by
  refine ⟨?_, fun c hx => ?_⟩
  · cases ha : isAscii x with
    | true =>
        have hall : ∀ n < 128, (Char.ofNat n).isAlpha = false →
            (Char.ofNat n).toUpper = Char.ofNat n := by decide
        rw [upperChar_of_ascii ha,
          forall_ascii (p := fun c => c.isAlpha = false → c.toUpper = c) hall ha hletter]
    | false =>
        refine upperChar_eq_self ha (fun e he => (hsequences e he).1.symm) fun r hr => ?_
        rw [← Bool.not_eq_true, covers_iff]
        have hout := (hruns r hr).1
        omega
  · rcases upperChar_cases hx with ⟨ha, rfl⟩ | ⟨e, he, n, hn, rfl⟩ | ⟨r, hr, n, him, rfl⟩ | ⟨rfl, -⟩
    · have hall : ∀ n < 128, (Char.ofNat n).toUpper.isAlpha = false →
          Char.ofNat n = (Char.ofNat n).toUpper := by decide
      exact forall_ascii (p := fun c => c.toUpper.isAlpha = false → c = c.toUpper) hall ha hletter
    · rw [((fitMapping_of_mem he).high n hn).1] at hsequences
      exact absurd hn (hsequences e he).2
    · have hout := (hruns r hr).2
      have hbetween := image_between him
      rw [toNat_upperImage hr him] at hout
      omega
    · rfl

/-- **Upper case does not move an ASCII character that is no letter.** -/
theorem steady_of_ascii {x : Char} (ha : isAscii x = true) (hx : x.isAlpha = false) : Steady x := by
  have hcapital : ∀ n < 128, (Char.ofNat n).isAlpha = false → n < 65 ∨ 90 < n := by decide
  have hout : x.toNat < 65 ∨ 90 < x.toNat :=
    hcapital x.toNat (by simpa [isAscii] using ha) (by rw [Char.ofNat_toNat]; exact hx)
  have hsmall : x.toNat < 128 := by simpa [isAscii] using ha
  refine steady_of_avoids hx (fun r hr => ?_) fun e he => ?_
  · have hspare := (fitRun_of_mem hr).spares
    unfold Avoids
    omega
  · have hspare := (fitMapping_of_mem he).spares
    refine ⟨by omega, fun hn => ?_⟩
    have := hspare.2 _ hn
    omega

/-- **Upper case does not move a blank.** -/
theorem steady_of_isBlank {x : Char} (hx : isBlank x = true) : Steady x := by
  have hletter : ∀ n ∈ blankPoints, (Char.ofNat n).isAlpha = false := by decide
  have hpoint := toNat_mem_blankPoints hx
  refine steady_of_avoids (forall_blank (·.isAlpha = false) hletter hx) (fun r hr => ?_) fun e he => ?_
  · exact (fitRun_of_mem hr).blanks _ hpoint
  · exact (fitMapping_of_mem he).blanks _ hpoint

/-! ## 3. A text -/

/-- Every character of the text is its own upper case. -/
def High (s : List Char) : Prop := ∀ c ∈ s, upperChar c = [c]

theorem upper_append (s t : List Char) : upper (s ++ t) = upper s ++ upper t := List.flatMap_append

theorem upper_cons (c : Char) (s : List Char) : upper (c :: s) = upperChar c ++ upper s :=
  List.flatMap_cons

/-- **The upper case of a text is high.** -/
theorem high_upper (s : List Char) : High (upper s) := by
  intro x hx
  obtain ⟨c, -, hxc⟩ := List.mem_flatMap.mp hx
  exact upperChar_of_mem hxc

theorem upper_of_high {s : List Char} (h : High s) : upper s = s := by
  induction s with
  | nil => rfl
  | cons c s ih =>
      obtain ⟨hc, hs⟩ := List.forall_mem_cons.mp h
      rw [upper_cons, hc, ih hs, List.singleton_append]

theorem upper_upper (s : List Char) : upper (upper s) = upper s := upper_of_high (high_upper s)

/-- A steady character in an upper case stands in the text. -/
theorem Steady.mem_of_mem_upper {x : Char} (h : Steady x) {s : List Char} (hx : x ∈ upper s) :
    x ∈ s := by
  obtain ⟨c, hc, hxc⟩ := List.mem_flatMap.mp hx
  rw [← h.source c hxc]
  exact hc

/-- **Upper case makes no blanks.** -/
theorem mem_of_mem_upper {x : Char} {s : List Char} (hb : isBlank x = true) (hx : x ∈ upper s) :
    x ∈ s :=
  (steady_of_isBlank hb).mem_of_mem_upper hx

/-- A text whose upper case is made of steady characters is that upper case. -/
theorem upper_eq_self_of_steady : ∀ {s : List Char}, (∀ x ∈ upper s, Steady x) → upper s = s
  | [], _ => rfl
  | c :: s, h => by
      rw [upper_cons, List.forall_mem_append] at h
      obtain ⟨x, hx⟩ := List.exists_mem_of_ne_nil _ (upperChar_ne_nil c)
      obtain rfl := (h.1 x hx).source c hx
      rw [upper_cons, (h.1 c hx).self, upper_eq_self_of_steady h.2, List.singleton_append]

/-! ## 4. Blanks at the ends -/

/-- A character that is no blank has no blank in its upper case. -/
theorem isBlank_of_mem_upperChar {c x : Char} (hc : isBlank c = false) (hx : x ∈ upperChar c) :
    isBlank x = false := by
  rw [← Bool.not_eq_true]
  intro hb
  rw [(steady_of_isBlank hb).source c hx, hb] at hc
  cases hc

theorem isBlankText_upper {s : List Char} (h : isBlankText s = true) : isBlankText (upper s) = true :=
  isBlankText_of_subset (fun x hx => by
    obtain ⟨c, hc, hxc⟩ := List.mem_flatMap.mp hx
    rw [(steady_of_isBlank (isBlankText_iff.mp h c hc)).self, List.mem_singleton] at hxc
    exact hxc ▸ hc) h

theorem head_upper {s : List Char} (h : ∀ c ∈ s.head?, isBlank c = false) :
    ∀ x ∈ (upper s).head?, isBlank x = false := by
  intro x hx
  cases s with
  | nil => cases hx
  | cons c s =>
      rw [upper_cons, List.head?_append_of_ne_nil _ (upperChar_ne_nil c)] at hx
      exact isBlank_of_mem_upperChar (h c rfl) (List.mem_of_head? hx)

theorem last_upper {s : List Char} (h : ∀ c ∈ s.getLast?, isBlank c = false) :
    ∀ x ∈ (upper s).getLast?, isBlank x = false := by
  intro x hx
  rcases List.eq_nil_or_concat' s with rfl | ⟨s, c, rfl⟩
  · cases hx
  · have hlast : upper [c] = upperChar c := by rw [upper_cons]; exact List.append_nil _
    rw [upper_append, hlast, List.getLast?_append_of_ne_nil _ (upperChar_ne_nil c)] at hx
    exact isBlank_of_mem_upperChar (h c (by simp)) (List.mem_of_getLast? hx)

/-- **Trimming and raising can change places.** -/
theorem trim_upper (s : List Char) : trim (upper s) = upper (trim s) := by
  obtain ⟨x, y, hx, hy, hs⟩ := exists_trim s
  have hcut : trim (upper s) = trim (upper x ++ upper (trim s) ++ upper y) := by
    conv_lhs => rw [hs, upper_append, upper_append]
  rw [hcut, trim_between (isBlankText_upper hx) (isBlankText_upper hy)]
  exact trim_eq_self (head_upper head_of_trim) (last_upper last_of_trim)

end TableDraft.Text

import TableDraft.Proofs.Text.Trimming

/-!
# Words and the blanks between them

The laws of `words`. All of them follow from one equation and one induction:

* **`words_cut`: a blank cuts a text in two**, and the words of the text are those of both halves;
  `wordInduction` goes through a text by its blanks and its words;
* `exists_of_mem_words`: a word is a text without blanks that stands between blanks or at an end, and
  `flatten_words`: the words hold every character that is no blank, in order;
* `words_blank_append`, `words_append_blank`, `words_trim`: blanks at the ends of a text do not show;
* `words_joined`: words with a space between are read back, and so **two texts have the same words exactly
  if they are the same once unspaced** (`unspaced_eq_iff`).
-/

namespace TableDraft.Text

/-! ## 1. Going through a text -/

/-- No character of the text is a blank. -/
def NoBlank (s : List Char) : Prop := ∀ c ∈ s, isBlank c = false

instance decidableNoBlank (s : List Char) : Decidable (NoBlank s) :=
  decidable_of_iff (s.all (fun c => !isBlank c) = true) (by simp [NoBlank])

theorem NoBlank.append {s t : List Char} (hs : NoBlank s) (ht : NoBlank t) : NoBlank (s ++ t) :=
  List.forall_mem_append.mpr ⟨hs, ht⟩

/-- **A blank cuts a text in two.** -/
theorem words_cut {b : Char} (hb : isBlank b = true) (s t : List Char) :
    words (s ++ b :: t) = words s ++ words t := by
  have hsplit : (s ++ b :: t).splitOnP isBlank = s.splitOnP isBlank ++ t.splitOnP isBlank :=
    List.splitOnP_append_cons s t hb
  rw [words, hsplit, List.filter_append]
  rfl

@[simp] theorem words_nil : words [] = [] := rfl

theorem words_blank_cons {b : Char} (hb : isBlank b = true) (t : List Char) :
    words (b :: t) = words t :=
  words_cut hb [] t

theorem words_noBlank {w : List Char} (hw : NoBlank w) (hne : w ≠ []) : words w = [w] := by
  rw [words, List.splitOnP_eq_singleton hw]
  simp [hne]

/-- A text without blanks is the first word, if no more of it follows. -/
theorem words_word {w t : List Char} (hw : NoBlank w) (hne : w ≠ [])
    (ht : ∀ c ∈ t.head?, isBlank c = true) : words (w ++ t) = w :: words t := by
  cases t with
  | nil => rw [List.append_nil, words_noBlank hw hne, words_nil]
  | cons b t =>
      have hb : isBlank b = true := ht b rfl
      rw [words_cut hb, words_noBlank hw hne, List.singleton_append, words_blank_cons hb]

/-- What comes before the first blank of a text. -/
theorem exists_word (s : List Char) :
    ∃ w t, s = w ++ t ∧ NoBlank w ∧ ∀ c ∈ t.head?, isBlank c = true := by
  induction s with
  | nil => exact ⟨[], [], rfl, nofun, nofun⟩
  | cons c s ih =>
      cases hc : isBlank c with
      | true => exact ⟨[], c :: s, rfl, nofun, fun d hd => Option.some.inj hd ▸ hc⟩
      | false =>
          obtain ⟨w, t, rfl, hw, ht⟩ := ih
          exact ⟨c :: w, t, rfl, List.forall_mem_cons.mpr ⟨hc, hw⟩, ht⟩

/-- **What holds of the empty text, and is kept by putting a blank or a word in front, holds of every
text.** -/
theorem wordInduction {P : List Char → Prop} (nil : P [])
    (blank : ∀ b t, isBlank b = true → P t → P (b :: t))
    (word : ∀ w t, NoBlank w → w ≠ [] → (∀ c ∈ t.head?, isBlank c = true) → P t → P (w ++ t))
    (s : List Char) : P s := by
  induction hn : s.length using Nat.strongRecOn generalizing s with
  | ind n ih =>
      obtain ⟨w, t, rfl, hw, ht⟩ := exists_word s
      rw [List.length_append] at hn
      by_cases hne : w = []
      · subst hne
        cases t with
        | nil => exact nil
        | cons b t =>
            rw [List.length_cons] at hn
            exact blank b t (ht b rfl) (ih t.length (by omega) t rfl)
      · have hpos : 0 < w.length := List.length_pos_iff.mpr hne
        exact word w t hw hne ht (ih t.length (by omega) t rfl)

/-! ## 2. Blanks at the ends -/

theorem words_blank_append {x : List Char} (hx : isBlankText x = true) (s : List Char) :
    words (x ++ s) = words s := by
  induction x with
  | nil => rfl
  | cons b x ih =>
      rw [isBlankText_cons, Bool.and_eq_true] at hx
      rw [List.cons_append, words_blank_cons hx.1, ih hx.2]

/-- Blanks between two texts cut them apart. -/
theorem words_append_between {x : List Char} (hx : isBlankText x = true) (hne : x ≠ [])
    (s t : List Char) : words (s ++ (x ++ t)) = words s ++ words t := by
  obtain ⟨b, x, rfl⟩ := List.exists_cons_of_ne_nil hne
  rw [isBlankText_cons, Bool.and_eq_true] at hx
  rw [List.cons_append, words_cut hx.1, words_blank_append hx.2]

theorem words_append_blank {y : List Char} (hy : isBlankText y = true) (s : List Char) :
    words (s ++ y) = words s := by
  by_cases hne : y = []
  · rw [hne, List.append_nil]
  · have h := words_append_between hy hne s []
    rw [List.append_nil, words_nil, List.append_nil] at h
    exact h

theorem words_trim (s : List Char) : words (trim s) = words s := by
  obtain ⟨x, y, hx, hy, hs⟩ := exists_trim s
  conv_rhs => rw [hs]
  rw [words_append_blank hy, words_blank_append hx]

/-! ## 3. What words are -/

/-- The text before a place ends in a blank, if there is any, and the text after it starts with one. -/
def Between (p q : List Char) : Prop :=
  (∀ c ∈ p.getLast?, isBlank c = true) ∧ ∀ c ∈ q.head?, isBlank c = true

/-- A text without blanks is a word where blanks or an end stand on both sides. -/
theorem mem_words_between {p w q : List Char} (hw : NoBlank w) (hne : w ≠ []) (h : Between p q) :
    w ∈ words (p ++ (w ++ q)) := by
  have hrest : words (w ++ q) = w :: words q := words_word hw hne h.2
  rcases List.eq_nil_or_concat' p with rfl | ⟨p, b, rfl⟩
  · rw [List.nil_append, hrest]
    exact List.mem_cons_self
  · have hb : isBlank b = true := h.1 b List.getLast?_concat
    rw [List.append_assoc, List.singleton_append, words_cut hb, hrest]
    exact List.mem_append_right _ List.mem_cons_self

/-- **A word is a text without blanks that stands between blanks or at an end.** -/
theorem exists_of_mem_words {w s : List Char} (h : w ∈ words s) :
    NoBlank w ∧ ∃ p q, s = p ++ (w ++ q) ∧ Between p q := by
  induction s using wordInduction with
  | nil => exact absurd h List.not_mem_nil
  | blank b t hb ih =>
      rw [words_blank_cons hb] at h
      obtain ⟨hw, p, q, rfl, hp, hq⟩ := ih h
      refine ⟨hw, b :: p, q, rfl, fun c hc => ?_, hq⟩
      cases p with
      | nil => exact Option.some.inj hc ▸ hb
      | cons d p => exact hp c hc
  | word v t hv hne ht ih =>
      rw [words_word hv hne ht] at h
      rcases List.mem_cons.mp h with rfl | h
      · exact ⟨hv, [], t, rfl, nofun, ht⟩
      · obtain ⟨hw, p, q, rfl, hp, hq⟩ := ih h
        refine ⟨hw, v ++ p, q, (List.append_assoc v p _).symm, fun c hc => ?_, hq⟩
        -- a word right after another would be a part of it
        have hpne : p ≠ [] := by
          rintro rfl
          obtain ⟨d, w, rfl⟩ := List.exists_cons_of_ne_nil (ne_nil_of_mem_words h)
          have hd : isBlank d = true := ht d rfl
          rw [hw d List.mem_cons_self] at hd
          cases hd
        rw [List.getLast?_append_of_ne_nil v hpne] at hc
        exact hp c hc

/-- The characters of a text that are no blanks. -/
def solids (s : List Char) : List Char := s.filter fun c => !isBlank c

theorem solids_blank {c : Char} (hc : isBlank c = true) (s : List Char) :
    solids (c :: s) = solids s :=
  List.filter_cons_of_neg (by rw [hc]; decide)

theorem solids_solid {c : Char} (hc : isBlank c = false) (s : List Char) :
    solids (c :: s) = c :: solids s :=
  List.filter_cons_of_pos (by rw [hc]; rfl)

/-- **The words hold every character that is no blank, in order.** -/
theorem flatten_words (s : List Char) : (words s).flatten = solids s := by
  induction s using wordInduction with
  | nil => rfl
  | blank b t hb ih => rw [words_blank_cons hb, ih, solids_blank hb]
  | word w t hw hne ht ih =>
      have hself : solids w = w := by
        refine List.filter_eq_self.mpr fun c hc => ?_
        rw [hw c hc]
        rfl
      rw [words_word hw hne ht, List.flatten_cons, ih, solids, solids, List.filter_append]
      exact congrArg (· ++ _) hself.symm

/-! ## 4. Words with a space between -/

/-- **Words with a space between are read back.** -/
theorem words_joined : ∀ {ws : List (List Char)}, (∀ w ∈ ws, w ≠ [] ∧ NoBlank w) →
    words (ws.intersperse [' ']).flatten = ws
  | [], _ => rfl
  | [w], h => by
      obtain ⟨hne, hw⟩ := h w List.mem_cons_self
      rw [List.intersperse_singleton, List.flatten_singleton, words_noBlank hw hne]
  | w :: v :: ws, h => by
      obtain ⟨hne, hw⟩ := h w List.mem_cons_self
      have ih := words_joined fun u hu => h u (List.mem_cons_of_mem w hu)
      rw [List.intersperse_cons_cons, List.flatten_cons, List.flatten_cons, List.singleton_append,
        words_cut (by decide), words_noBlank hw hne, ih, List.singleton_append]

theorem words_unspaced (s : List Char) : words (unspaced s) = words s :=
  words_joined fun _ hw => ⟨ne_nil_of_mem_words hw, (exists_of_mem_words hw).1⟩

/-- **Two texts have the same words exactly if they are the same once unspaced.** -/
theorem unspaced_eq_iff {s t : List Char} : unspaced s = unspaced t ↔ words s = words t := by
  constructor
  · intro h
    rw [← words_unspaced s, h, words_unspaced]
  · intro h
    rw [unspaced, unspaced, h]

end TableDraft.Text

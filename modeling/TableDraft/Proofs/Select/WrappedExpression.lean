import TableDraft.Proofs.Select.ExplicitAlias
import TableDraft.Proofs.Select.ListCuts
import TableDraft.Proofs.Select.RemarkHistory
import TableDraft.Proofs.Select.RemarkParts
import TableDraft.Proofs.Select.Respacing

/-!
# The remark on an expression that goes over lines

A remark is kept under what its own line holds of the expression, and looked up under the whole of it, under
its name and under its alias:

* `oneItem`, `selectFromClause_oneItem`: a query with one expression and a remark behind it;
* `ofClause_line`: **the only remark in its list is under the end of the last line**, from the last comma at
  depth zero on;
* `lookups`, `ofSource_single`: where a single remark is looked up, and what comes of it;
* `words_lastLine_iff`: the last line has the words of the whole expression only if it is the only line;
* `parseFields_respaced`: **so the remark on an expression is lost when other blanks in it part its last line
  from the name and from the alias**, and `respaced_remark_lost` is such an expression.
-/

namespace TableDraft.Select

open Text Remark

/-! ## 1. The last line -/

theorem getLast_lastLine {s : List Char} (h : ∀ c ∈ s.getLast?, isBlank c = false) :
    (lastLine s).getLast? = s.getLast? := by
  obtain ⟨-, heq | ⟨u, heq⟩⟩ := exists_lastLine s
  · rw [← heq]
  · have hne : lastLine s ≠ [] := by
      intro hnil
      rw [hnil] at heq
      have hbreak := h '\n' (by rw [heq, List.getLast?_concat]; rfl)
      cases hbreak
    conv_rhs => rw [heq, List.append_cons, List.getLast?_append_of_ne_nil _ hne]

/-- An expression does not end in a comma. -/
theorem Unbroken.last_ne_comma {e : List Char} (h : Unbroken e) : e.getLast? ≠ some ',' := by
  intro hlast
  have hsplit : e = e.dropLast ++ [','] := (List.dropLast_append_getLast? ',' hlast).symm
  have hdepth := h.balanced.2
  rw [hsplit, depthAfter_append] at hdepth
  refine h.whole e.dropLast [] hsplit ?_
  rwa [depthAfter_cons, depthAfter_nil, depthStep_eq_zero (by decide) (by decide), Int.add_zero] at hdepth

/-- What follows the last comma of a text is blank only if the text ends in a blank or in that comma. -/
theorem AtCommas.last_not_blank {s last : List Char} {ps : List (List Char)} (h : AtCommas s ps last)
    (hne : s ≠ []) (hblank : ∀ c ∈ s.getLast?, isBlank c = false) (hcomma : s.getLast? ≠ some ',') :
    isBlankText last = false := by
  rw [← Bool.not_eq_true]
  intro hlast
  by_cases hnil : last = []
  · have htext := h.text
    rw [hnil, List.append_nil] at htext
    rcases List.eq_nil_or_concat' ps with rfl | ⟨ps, p, rfl⟩
    · exact hne htext
    · rw [List.flatMap_append, List.flatMap_singleton, ← List.append_assoc] at htext
      exact hcomma (by rw [htext, List.getLast?_concat])
  · have hend := hblank (last.getLast hnil) (by
      rw [h.text, List.getLast?_append_of_ne_nil _ hnil]
      exact List.getLast?_eq_some_getLast hnil)
    rw [isBlankText_iff.mp hlast _ (List.getLast_mem hnil)] at hend
    cases hend

/-! ## 2. A query with one item -/

/-- A query with the item as its list. -/
def oneItem (i : Item) : List Char := "SELECT ".toList ++ i.line ++ "\nFROM t".toList

theorem trim_oneItem (i : Item) : trim (oneItem i) = oneItem i :=
  trim_query (s := "SELECT ".toList) (by decide) (fun c hc => Option.some.inj hc ▸ rfl) _

section OneItem

variable {i : Item} (h : i.Remarked)
include h

theorem selectFromClause_oneItem : selectFromClause (oneItem i) = some i.line := by
  have hbody : printBody i [] = i.line := List.append_nil i.line
  have hsplit : oneItem i = "SELECT".toList ++ ' ' :: ([] ++ i.line ++ '\n' :: "FROM t".toList) := by
    unfold oneItem
    generalize i.line = line
    have hstart : "SELECT ".toList = "SELECT".toList ++ [' '] := by decide
    have hend : "\nFROM t".toList = '\n' :: "FROM t".toList := by decide
    rw [hstart, hend]
    simp only [List.append_assoc, List.cons_append, List.nil_append]
  have hlead : Lead [] :=
    ⟨noLetter_of_blank rfl, noParen_of_blank rfl, List.not_mem_nil, List.not_mem_nil⟩
  rw [hsplit, ← hbody]
  exact selectFromClause_body (by decide) hlead rfl (List.forall_mem_singleton.mpr h)

theorem readClause_line {f : Field}
    (hf : Field.ofExpression? (some (RemarkTable.ofClause i.line)) i.expr = some f) :
    readClause i.line = .ok ⟨1, [f]⟩ := by
  have hall : ∀ j ∈ [i], j.Readable := List.forall_mem_singleton.mpr h.toReadable
  have hread := readList_body hall (some (RemarkTable.ofClause i.line))
  rw [printBody, List.flatMap_nil, List.append_nil] at hread
  rw [readClause, hread]
  simp only [List.filterMap_cons, List.filterMap_nil, hf]
  rfl

section LastLine

variable {ps : List (List Char)} {last : List Char} (hcut : AtCommas (lastLine i.expr) ps last)
include hcut

/-- What the last line holds of the expression is what the remark behind it is about. -/
theorem entry_lastLine : RemarkTable.entryOfLine? (lastLine i.expr ++ " -- ".toList ++ i.remark) =
    some (trim last, String.ofList i.remark) := by
  have hsolid : ∀ c ∈ i.expr.getLast?, isBlank c = false := by
    rw [← h.trimmed]
    exact last_of_trim
  have hend := getLast_lastLine hsolid
  have hline : lastLine i.expr ≠ [] := by
    intro hnil
    rw [hnil] at hend
    exact h.ne_nil (List.getLast?_eq_none_iff.mp hend.symm)
  have hlast : isBlankText last = false :=
    hcut.last_not_blank hline (hend ▸ hsolid) (hend ▸ h.unbroken.last_ne_comma)
  have hinfix : lastLine i.expr ++ [' '] <:+: i.expr ++ [' '] := by
    obtain ⟨-, heq | ⟨u, heq⟩⟩ := exists_lastLine i.expr
    · rw [← heq]
    · refine ⟨u ++ ['\n'], [], ?_⟩
      conv_rhs => rw [heq]
      simp only [List.append_assoc, List.append_nil, List.cons_append, List.nil_append]
  have hfreeLine := h.free_expr.1.mono hinfix
  have hfreeBlock := h.free_expr.2.mono hinfix
  have hsubject : RemarkTable.subject? (lastLine i.expr ++ [' ']) = some (trim last) := by
    rw [RemarkTable.subject?_eq_some_iff]
    refine ⟨ps.map trim, [], ?_, ?_, nofun⟩
    · rw [strip_free hfreeLine hfreeBlock, pieces_append_blank rfl, hcut.pieces_eq, ending,
        if_neg (by rw [hlast]; exact Bool.false_ne_true)]
    · rw [Ne, trim_eq_nil_iff, hlast]
      exact Bool.false_ne_true
  exact RemarkTable.entryOfLine?_printed hfreeLine hsubject h.remark_trimmed h.remark_ne_nil

/-- **The only remark in the list is under what its line holds of the expression**: the text from the last
comma at depth zero on, with depth counted from the start of the line. -/
theorem ofClause_line : RemarkTable.ofClause i.line =
    RemarkTable.empty.insert (trim last) (String.ofList i.remark) := by
  have hbreak := (exists_lastLine i.expr).1
  have hnotes : RemarkTable.notes (lastLine i.expr ++ " -- ".toList ++ i.remark) =
      [(trim last, String.ofList i.remark)] := by
    rw [RemarkTable.notes_oneLine, entry_lastLine h hcut]
    · rfl
    · simp only [List.mem_append, not_or]
      exact ⟨⟨hbreak, by decide⟩, h.remark_oneLine⟩
  have hall : RemarkTable.notes i.line = [(trim last, String.ofList i.remark)] := by
    obtain ⟨-, heq | ⟨u, heq⟩⟩ := exists_lastLine i.expr
    · rw [Item.line, heq]
      exact hnotes
    · -- the lines before have no remark
      have hfree : Free '-' '-' u := h.noLine.mono ⟨[], '\n' :: lastLine i.expr, heq.symm⟩
      have hline : i.line = u ++ '\n' :: (lastLine i.expr ++ " -- ".toList ++ i.remark) := by
        rw [Item.line]
        conv_lhs => rw [heq]
        simp only [List.append_assoc, List.cons_append]
      rw [hline, RemarkTable.notes_append_newline, RemarkTable.notes_free hfree, hnotes]
      rfl
  rw [RemarkTable.ofClause_eq, hall]
  rfl

end LastLine

end OneItem

/-! ## 3. One remark -/

namespace Field

/-- The texts under which the remark on an expression is looked up: the expression, its name and its
alias. -/
def lookups (source : List Char) : List (List Char) :=
  let split := splitAlias (trim (dropDistinct source))
  source :: split.1 :: split.2.toList

theorem remarkOn?_eq_findSome? (t : RemarkTable) (source name : List Char)
    (alias? : Option (List Char)) :
    remarkOn? t source name alias? = (source :: name :: alias?.toList).findSome? t.get? := by
  rw [remarkOn?, List.findSome?_cons, List.findSome?_cons]
  cases t.get? source with
  | some r => rfl
  | none =>
      cases t.get? name with
      | some r => rfl
      | none =>
          cases alias? with
          | none => rfl
          | some a =>
              rw [Option.toList_some, List.findSome?_singleton]
              rfl

theorem findSome?_ite {α β : Type} {p : α → Prop} [DecidablePred p] (r : β) : ∀ l : List α,
    l.findSome? (fun x => if p x then some r else none) = if ∃ x ∈ l, p x then some r else none
  | [] => rfl
  | a :: l => by
      rw [List.findSome?_cons]
      by_cases ha : p a
      · rw [if_pos ha, if_pos ⟨a, List.mem_cons_self, ha⟩]
      · have hiff : (∃ x ∈ a :: l, p x) ↔ ∃ x ∈ l, p x := by
          simp [ha]
        rw [if_neg ha, findSome?_ite r l]
        simp only [hiff]

/-- **A single remark is the comment if it is under one of the texts where it is looked up**, and changes
nothing else. -/
theorem ofSource_single {t : RemarkTable} {k : List Char} {r : String}
    (ht : ∀ x, t.get? x = if words x = words k then some r else none) (source : List Char) :
    ofSource (some t) source = if ∃ x ∈ lookups source, words x = words k then
      (ofSource none source).withComment r else ofSource none source := by
  have hget : t.get? = fun x => if words x = words k then some r else none := funext ht
  rw [ofSource, ofSource, Option.bind_some, remarkOn?_eq_findSome?, hget, findSome?_ite]
  show _ = if ∃ x ∈ lookups source, words x = words k then _ else _
  rw [lookups]
  split <;> rfl

end Field

theorem solidCount_eq_words (s : List Char) : solidCount s = (words s).flatten.length := by
  rw [flatten_words, solidCount, solids, List.countP_eq_length_filter]

/-- **The last line of an expression has its words only if it is the only line.** -/
theorem words_lastLine_iff {e last : List Char} {ps : List (List Char)} (ht : trim e = e)
    (he : Unbroken e) (hcut : AtCommas (lastLine e) ps last) : words last = words e ↔ '\n' ∉ e := by
  obtain ⟨hline, heq | ⟨u, heq⟩⟩ := exists_lastLine e
  · rw [← heq] at hline hcut
    have hwhole : AtCommas e [] e := ⟨rfl, nofun, he.whole⟩
    obtain ⟨-, rfl⟩ := hcut.unique hwhole
    exact iff_of_true rfl hline
  · -- there is more before the line break than a blank
    refine iff_of_false (fun hwords => ?_) fun hn => hn (by rw [heq]; simp)
    have hcount : solidCount last = solidCount e := by
      rw [solidCount_eq_words, solidCount_eq_words, hwords]
    have hbefore : 0 < solidCount u := by
      cases u with
      | nil =>
          have hhead := head_of_trim (s := e) '\n' (by rw [ht, heq]; rfl)
          cases hhead
      | cons c u =>
          have hc : isBlank c = false := head_of_trim (s := e) c (by rw [ht, heq]; rfl)
          refine List.countP_pos_iff.mpr ⟨c, List.mem_cons_self, ?_⟩
          rw [hc]
          rfl
    have hlast : solidCount last ≤ solidCount (lastLine e) := by
      rw [hcut.text, solidCount_append]
      omega
    rw [heq, List.append_cons, solidCount_append, solidCount_append] at hcount
    omega

/-! ## 4. Other blanks -/

/-- **The remark on an expression with other blanks in it.** It is the comment of the only field if the
end of the last line, from its last comma at depth zero on, has the words of the expression, of its name or of
its alias, and else it is lost; of the expression it has the words only if that is on one line. -/
theorem parseFields_respaced {e e' c : List Char} (h : (Item.mk e c).Plain) (hr : Respaced e e') :
    ∃ f g ps last, parseFields (String.ofList (oneItem ⟨e', c⟩)) = .ok [f] ∧
      Field.ofExpression? none e' = some g ∧ AtCommas (lastLine e') ps last ∧
      f = (if ∃ x ∈ Field.lookups e', words x = words last then g.withComment (String.ofList c) else g) ∧
      (f.comment = String.ofList c ↔
        (∃ x ∈ Field.lookups e', words x = words last) ∨ g.name = String.ofList c) ∧
      (words last = words e' ↔ '\n' ∉ e') := by
  have hitem : (Item.mk e' c).Remarked := h.remarked.respaced hr
  have htrim : trim e' = e' := hitem.trimmed
  obtain ⟨ps, last, hcut⟩ := exists_atCommas (lastLine e')
  obtain ⟨g, hg⟩ := Option.isSome_iff_exists.mp (hitem.isSome_ofExpression? none)
  obtain ⟨-, hsource⟩ := Field.eq_ofSource hg
  rw [htrim] at hsource
  have hget : ∀ x, (RemarkTable.ofClause (Item.mk e' c).line).get? x =
      if words x = words last then some (String.ofList c) else none := by
    intro x
    rw [ofClause_line hitem hcut, RemarkTable.get?_insert, words_trim]
    rfl
  have hfield : Field.ofExpression? (some (RemarkTable.ofClause (Item.mk e' c).line)) e' =
      some (if ∃ x ∈ Field.lookups e', words x = words last then g.withComment (String.ofList c)
        else g) := by
    rw [Field.ofExpression?_of_some hg, htrim, Field.ofSource_single hget, ← hsource]
  refine ⟨_, g, ps, last, parseFields_selectFrom ?_ (readClause_line hitem hfield)
    (List.cons_ne_nil _ _), hg, hcut, rfl, ?_, words_lastLine_iff htrim hitem.unbroken hcut⟩
  · rw [String.toList_ofList, trim_oneItem]
    exact selectFromClause_oneItem hitem
  · by_cases hfound : ∃ x ∈ Field.lookups e', words x = words last
    · rw [if_pos hfound]
      exact iff_of_true rfl (Or.inl hfound)
    · have hname : g.comment = g.name := by
        rw [hsource]
        rfl
      rw [if_neg hfound, hname, or_iff_right hfound]

/-- With the line break before the alias the remark is found under the alias. -/
theorem parseFields_respaced_alias :
    Respaced "sum(x) AS y".toList "sum(x) AS\n y".toList ∧
    parseFields "SELECT sum(x) AS\n y -- z\nFROM t" = .ok [⟨"y", some "y", "z"⟩] := by
  have hplain : (Item.mk "sum(x) AS y".toList "z".toList).Plain :=
    ⟨by decide, by decide, by decide, ⟨by decide, by decide⟩, by decide, by decide, by decide +kernel,
      by decide +kernel, by decide, by decide, by decide⟩
  have hr : Respaced "sum(x) AS y".toList "sum(x) AS\n y".toList :=
    .word (w := "sum(x)".toList) (by decide) (.blanks (x := [' ']) (y := [' ']) (by decide) (by decide)
      (by decide) (by decide) (.word (w := "AS".toList) (by decide) (.blanks (x := [' '])
        (y := "\n ".toList) (by decide) (by decide) (by decide) (by decide) (.solid (by decide) .nil))))
  obtain ⟨f, g, ps, last, hparse, hg, hcut, hf, -⟩ := parseFields_respaced hplain hr
  have hcommas : AtCommas (lastLine "sum(x) AS\n y".toList) [] " y".toList :=
    ⟨by decide, by decide, by decide⟩
  obtain ⟨-, rfl⟩ := hcut.unique hcommas
  have hread : Field.ofExpression? none "sum(x) AS\n y".toList = some ⟨"y", some "y", "y"⟩ := by
    decide +kernel
  obtain rfl := Option.some.inj (hread.symm.trans hg)
  rw [if_pos (by decide +kernel)] at hf
  rw [hf] at hparse
  exact ⟨hr, hparse⟩

/-- **A remark is lost by a line break**: behind `a + b` it is the comment, and behind `a +` and `b` on two
lines it is not. -/
theorem respaced_remark_lost : ¬ ∀ e e' c : List Char, (Item.mk e c).Plain → Respaced e e' →
    ∃ f, parseFields (String.ofList (oneItem ⟨e', c⟩)) = .ok [f] ∧ f.comment = String.ofList c := by
  intro h
  have hplain : (Item.mk ['a', ' ', '+', ' ', 'b'] ['c']).Plain :=
    ⟨by decide, by decide, by decide, ⟨by decide, by decide⟩, by decide, by decide, by decide +kernel,
      by decide +kernel, by decide, by decide, by decide⟩
  have hr : Respaced ['a', ' ', '+', ' ', 'b'] ['a', ' ', '+', '\n', 'b'] :=
    .solid (by decide) (.blanks (x := [' ']) (y := [' ']) (by decide) (by decide) (by decide) (by decide)
      (.solid (by decide) (.blanks (x := [' ']) (y := ['\n']) (by decide) (by decide) (by decide)
        (by decide) (.solid (by decide) .nil))))
  obtain ⟨f, hparse, hcomment⟩ := h _ _ _ hplain hr
  have hread : parseFields (String.ofList (oneItem ⟨['a', ' ', '+', '\n', 'b'], ['c']⟩)) =
      .ok [.ofName "a +\nb"] := rfl
  rw [hread] at hparse
  obtain rfl := List.singleton_inj.mp (Except.ok.inj hparse)
  revert hcomment
  decide

end TableDraft.Select

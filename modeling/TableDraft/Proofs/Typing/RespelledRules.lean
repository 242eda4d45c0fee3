import TableDraft.Proofs.Text.Respelling
import TableDraft.Proofs.Typing.RuleOrder

/-!
# Names, comments and keywords in another spelling

Names and comments are compared in their normal form, and keywords in lower case, so that neither
letter case nor the blanks around a name decide on a type.

* `SameKeyword.admits_eq`: a keyword that is no pattern may be written in another ASCII letter case;
* `infer_recased`: so may all such keywords of some rules;
* **`infer_respelled`: respelled names, comments and keywords give the same type**, and a respelled name
  has the same markers.
-/

namespace TableDraft

open Text

/-! ## 1. Keywords -/

/-- The keyword is the same one, or differs from it in ASCII letter case alone where it is no pattern. -/
def SameKeyword (mode : MatchMode) (k k' : String) : Prop :=
  k' = k ∨ mode ≠ .regex ∧ sameIgnoringAsciiCase k.toList k'.toList = true

/-- A keyword in another letter case matches the same texts. -/
theorem SameKeyword.admits_eq [PatternEngine] {mode : MatchMode} {k k' : String}
    (h : SameKeyword mode k k') (text : String) : mode.admits text k' = mode.admits text k := by
  rcases h with rfl | ⟨hmode, hcase⟩
  · rfl
  · have hblank := isBlankText_recased hcase
    have hlower := lower_recased hcase
    cases mode with
    | equals => simp only [MatchMode.admits, lowered, hblank, hlower]
    | contains => simp only [MatchMode.admits, hblank, hlower]
    | regex => exact absurd rfl hmode

theorem any_admits_eq [PatternEngine] {mode : MatchMode} {ks ks' : List String}
    (h : List.Forall₂ (SameKeyword mode) ks ks') (text : String) :
    ks'.any (mode.admits text) = ks.any (mode.admits text) := by
  induction h with
  | nil => rfl
  | cons hk _ ih => rw [List.any_cons, List.any_cons, hk.admits_eq, ih]

/-! ## 2. Rules -/

/-- The second rule is the first one with its keywords in another letter case. -/
def KeywordsRecased (r r' : TypeRule) : Prop :=
  ∃ keywords, r' = { r with keywords } ∧ List.Forall₂ (SameKeyword r.matchMode) r.keywords keywords

namespace Inference

theorem rekeyed_of_recased [PatternEngine] {r r' : TypeRule} (h : KeywordsRecased r r')
    (name comment : String) : Rekeyed name comment r r' := by
  obtain ⟨keywords, rfl, hkeys⟩ := h
  exact ⟨⟨keywords, rfl⟩, any_admits_eq hkeys _⟩

/-- **Keywords in another letter case give the same type.** -/
theorem infer_recased [PatternEngine] {rules rules' : List TypeRule}
    (h : List.Forall₂ KeywordsRecased rules rules') (name comment : String) : infer name comment rules' = infer name comment rules :=
  infer_congr_offers (offers_of_rekeyed (h.imp fun _ _ hr => rekeyed_of_recased hr _ _))

/-- **Letter case and blanks around a name do not decide on a type.** A name and a comment with ASCII
letters in another case and other blanks at their ends have the same type, also if the keywords of the
rules that are no patterns are written in another case; and such a name has the same markers. -/
theorem infer_respelled [PatternEngine] {rules rules' : List TypeRule}
    (hrules : List.Forall₂ KeywordsRecased rules rules') {name name' comment comment' : String}
    (hname : Respelled name.toList name'.toList)
    (hcomment : Respelled comment.toList comment'.toList) :
    infer name' comment' rules' = infer name comment rules ∧
    Naming.isIdentifierCode name' = Naming.isIdentifierCode name ∧
    Naming.isGenericId name' = Naming.isGenericId name := by
  refine ⟨?_, Naming.markers_respelled hname⟩
  rw [infer_recased hrules, infer, infer, Naming.normalize_respelled hname,
    Naming.normalize_respelled hcomment]

/-- A rule for the end of a name and one for a pattern in the comment. -/
def spelledRules (ending : String) : List TypeRule :=
  [TypeRule.ofKeywords [ending] "BIGINT",
    ((TypeRule.ofKeywords ["^ΠΟΣΟ"] "DATE").withMatchMode .regex).withTarget .comment]

/-- The sigma before an ASCII letter keeps its form when the letter changes its case, in the name and in
the keyword, and the name is still that of an identifier code. -/
theorem infer_respelled_sigma :
    infer "\u3000ΟΣa_iCoDE\t" "ποσο" (spelledRules "Σa_IC") =
      infer "ΟΣA_ICODE" " ποσο" (spelledRules "ΣA_ic") ∧
    Naming.isIdentifierCode "\u3000ΟΣa_iCoDE\t" = Naming.isIdentifierCode "ΟΣA_ICODE" := by
  have hkey : SameKeyword .contains "ΣA_ic" "Σa_IC" := Or.inr ⟨by decide, by decide⟩
  have hrules : List.Forall₂ KeywordsRecased (spelledRules "ΣA_ic") (spelledRules "Σa_IC") :=
    .cons ⟨_, rfl, .cons hkey .nil⟩ (.cons ⟨_, rfl, .cons (Or.inl rfl) .nil⟩ .nil)
  have hname : Respelled "ΟΣA_ICODE".toList "\u3000ΟΣa_iCoDE\t".toList :=
    respelled_iff.mpr (by decide +kernel)
  have hcomment : Respelled " ποσο".toList "ποσο".toList := respelled_iff.mpr (by decide +kernel)
  have h := infer_respelled hrules hname hcomment
  exact ⟨h.1, h.2.1⟩

end Inference

end TableDraft

import TableDraft.Proofs.Text.Caseless
import TableDraft.Proofs.Text.SigmaForms
import TableDraft.Proofs.Typing.RuleOrder

/-!
# Keywords that are parts of names

A keyword is looked for in a name in lower case, and each of the two is put to lower case by itself. A
part of a name, taken as written, is therefore found unless a capital sigma in it has another form in
the name than in the part alone.

* `admits_part_iff`: a rule for a part of names admits the names whose lower case holds that of the part;
* `admits_of_keepsSigmas`: it admits a name around the part in which every sigma keeps its form;
  `admits_of_notMem_sigma`: and so every name, if the part has no capital sigma;
* **`part_admits_iff`: it admits every name that holds the part exactly if the part has no open sigma**,
  and then its type is the one that is inferred.

A word that is cut in the middle of a longer one may end in an open sigma (`part_not_admitted`).
-/

namespace TableDraft

open Text

namespace TypeRule

/-- The rule with a single keyword that is looked for in names. -/
def forPart (r : TypeRule) (k : String) : TypeRule :=
  { r with keywords := [k], matchMode := .contains, target := .name }

theorem type_forPart (r : TypeRule) (k : String) : (r.forPart k).type = r.type := rfl

/-- A rule for a part admits a text that holds the part in lower case. -/
theorem admits_part_iff [PatternEngine] {r : TypeRule} {k : String} (hk : isBlankText k.toList = false)
    (name comment : String) :
    (r.forPart k).admits name comment = true ↔ lower k.toList <:+: name.toList := by
  rw [← contains_iff]
  simp only [admits, forPart, List.any_cons, List.any_nil, Bool.or_false, MatchMode.admits, hk,
    Bool.not_false, Bool.true_and]

end TypeRule

namespace Inference

section Part

variable [PatternEngine] (r : TypeRule) {k name : String} (hk : isBlankText k.toList = false)
  (hname : trim name.toList = name.toList)
include hk hname

theorem admits_normalize_iff (comment : String) :
    (r.forPart k).admits (Naming.normalize name) (Naming.normalize comment) = true ↔
      lower k.toList <:+: lower name.toList := by
  rw [TypeRule.admits_part_iff hk, Naming.normalize, String.toList_ofList, hname]

/-- **A part of a name is found if every sigma in it keeps its form.** -/
theorem admits_of_keepsSigmas {p q : List Char} (hparts : name.toList = p ++ k.toList ++ q)
    (hkeeps : KeepsSigmas p k.toList q) (comment : String) :
    (r.forPart k).admits (Naming.normalize name) (Naming.normalize comment) = true ∧
      infer name comment [r.forPart k] = r.type := by
  have hadmits : (r.forPart k).admits (Naming.normalize name) (Naming.normalize comment) = true := by
    rw [admits_normalize_iff r hk hname, hparts]
    exact hkeeps.infix_lower
  exact ⟨hadmits, by rw [infer_singleton, if_pos hadmits, TypeRule.type_forPart]⟩

/-- A part without capital sigmas is found in every name that holds it. -/
theorem admits_of_notMem_sigma (hsigma : 'Σ' ∉ k.toList) (hin : k.toList <:+: name.toList)
    (comment : String) :
    (r.forPart k).admits (Naming.normalize name) (Naming.normalize comment) = true ∧
      infer name comment [r.forPart k] = r.type := by
  obtain ⟨p, q, hparts⟩ := hin
  have hkeeps : KeepsSigmas p k.toList q := keepsSigmas_of_closed (hasOpenSigma_of_notMem hsigma) p q
  exact admits_of_keepsSigmas r hk hname hparts.symm hkeeps comment

end Part

/-- **Which parts of names are found in them.** A rule for a part admits a trimmed name around the part,
so that its type is inferred, if every capital sigma of the part has the same form in the name as in the
part alone. It does so for all trimmed names that hold the part exactly if the part has no sigma whose
form hangs on what stands around the part. -/
theorem part_admits_iff [PatternEngine] (r : TypeRule) {k : String} (hk : isBlankText k.toList = false) :
    (∀ name comment p q, trim name.toList = name.toList → name.toList = p ++ k.toList ++ q →
      KeepsSigmas p k.toList q →
        (r.forPart k).admits (Naming.normalize name) (Naming.normalize comment) = true ∧
        infer name comment [r.forPart k] = r.type) ∧
    ((∀ name comment, trim name.toList = name.toList → k.toList <:+: name.toList →
      (r.forPart k).admits (Naming.normalize name) (Naming.normalize comment) = true ∧
        infer name comment [r.forPart k] = r.type) ↔
      hasOpenSigma k.toList = false) := by
  refine ⟨fun name comment p q hname hparts hkeeps =>
    admits_of_keepsSigmas r hk hname hparts hkeeps comment, ?_, ?_⟩
  · intro h
    refine infix_lower_iff.mp fun s hs hin => ?_
    have hname : trim (String.ofList s).toList = (String.ofList s).toList := by
      rw [String.toList_ofList, hs]
    have hadmits := (h (String.ofList s) "" hname (by rw [String.toList_ofList]; exact hin)).1
    rw [admits_normalize_iff r hk hname, String.toList_ofList] at hadmits
    exact hadmits
  · rintro hclosed name comment hname ⟨p, q, hparts⟩
    exact admits_of_keepsSigmas r hk hname hparts.symm (keepsSigmas_of_closed hclosed p _) comment

/-- A rule that gives a date. -/
def datePart (k : String) : TypeRule := (TypeRule.ofKeywords [] "DATE").forPart k

/-- A part with a sigma at its start, before a letter, is found in the middle of a name. -/
theorem part_admitted_sigma :
    hasOpenSigma "ΣΟ_Ş".toList = false ∧ infer "ΠΟΣΟ_Şx" "" [datePart "ΣΟ_Ş"] = .date := by
  have hblank : isBlankText "ΣΟ_Ş".toList = false := by decide
  have hclosed : hasOpenSigma "ΣΟ_Ş".toList = false := by decide +kernel
  have hname : trim "ΠΟΣΟ_Şx".toList = "ΠΟΣΟ_Şx".toList := by decide
  have hin : "ΣΟ_Ş".toList <:+: "ΠΟΣΟ_Şx".toList := ⟨"ΠΟ".toList, "x".toList, by decide⟩
  have h := (part_admits_iff (TypeRule.ofKeywords [] "DATE") hblank).2.mpr hclosed _ "" hname hin
  exact ⟨hclosed, h.2⟩

/-- **The start of a name is not found in it where the cut falls behind a sigma**, which is a final one
in the keyword and none in the name. -/
theorem part_not_admitted :
    "ΠΟΣ".toList <:+: "ΠΟΣΟ".toList ∧ trim "ΠΟΣΟ".toList = "ΠΟΣΟ".toList ∧
    (datePart "ΠΟΣ").admits (Naming.normalize "ΠΟΣΟ") (Naming.normalize "") = false ∧
    infer "ΠΟΣΟ" "" [datePart "ΠΟΣ"] = .string := by
  have hno : (datePart "ΠΟΣ").admits (Naming.normalize "ΠΟΣΟ") (Naming.normalize "") = false := by
    decide +kernel
  refine ⟨⟨[], "Ο".toList, by decide⟩, by decide, hno, ?_⟩
  rw [infer_singleton, hno]
  decide +kernel

end Inference

end TableDraft

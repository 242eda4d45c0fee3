import TableDraft.Command.Run
import TableDraft.Output.Disk
import TableDraft.Proofs.Command.Arguments
import TableDraft.Proofs.Ddl.Identifiers

/-!
# Runs with and without checks

The statements are handed out before any of them is checked, and nothing that a run does up to then
looks at the switch for checks. So a run with checks is the run without them, and a verdict.

* `delivered`, **`runWith_eq`: a run is what it delivers and the verdict on it**;
* `exists_dialect`: every statement of a request is for a dialect, so none escapes the judgement;
* `refusals_eq_nil_iff`, `code_eq_one_iff`: the verdict;
* `ChecksOnly`, **`checksOnly_runWith`: a run with checks and the run without them**;
* `checks_only`: any accepted arguments with `--check` and without it, over any files.
-/

namespace TableDraft.Command

open Ddl Output

/-- A judgement on statements. -/
abbrev Judge := Dialect → String → Except DraftError Nat

/-! ## 1. What a run delivers -/

section Delivered

variable [PatternEngine] {m : Type → Type} [Monad m] (judge : Judge) (host : Host m) (o : Options)

/-- Drafts the statements of a request, if there is one, and hands them out. -/
def deliver : Except Complaint Request → m (Except Complaint (List Draft × String))
  | .error c => pure (.error c)
  | .ok request =>
    match request.generate with
    | .error e => pure (.error (.failed e))
    | .ok [] => pure (.error .noDialect)
    | .ok drafts => do return (← emit host o drafts).map fun output => (drafts, output)

/-- What a run does before the checks: its statements and its output, or what ends it. -/
def delivered : m (Except Complaint (List Draft × String)) := gather host o >>= deliver host o

/-- How a run ends that delivered this, with checks or without. -/
def concluded (check : Bool) : Except Complaint (List Draft × String) → Outcome
  | .error c => .failure c
  | .ok (drafts, output) =>
    let refused := if check then refusals judge drafts else []
    ⟨if refused.isEmpty then 0 else 1, output, refused.map .refused⟩

/-- **A run is what it delivers and the verdict on it.** -/
theorem runWith_eq [LawfulMonad m] :
    runWith judge host o = concluded judge o.check <$> delivered host o := by
  have hpure (r : Except Complaint (List Draft × String)) :
      (pure (concluded judge o.check r) : m Outcome) = concluded judge o.check <$> pure r :=
    (map_pure _ r).symm
  rw [runWith, delivered, map_bind]
  refine congrArg _ (funext fun gathered => ?_)
  cases gathered with
  | error c => exact hpure (.error c)
  | ok request =>
      dsimp only [deliver]
      cases request.generate with
      | error e => exact hpure (.error (.failed e))
      | ok drafts =>
          cases drafts with
          | nil => exact hpure (.error .noDialect)
          | cons d ds =>
              dsimp only
              rw [map_bind]
              refine congrArg _ (funext fun emitted => ?_)
              cases emitted with
              | error c => exact hpure (.error c)
              | ok output => exact hpure (.ok (d :: ds, output))

/-- What is delivered does not depend on the switch for checks. -/
theorem delivered_withCheck : delivered host o.withCheck = delivered host o := rfl

end Delivered

/-! ## 2. The verdict -/

section Verdict

variable {judge : Judge} {check : Bool} {r : Except Complaint (List Draft × String)}

/-- A run fails exactly if it delivers nothing. -/
theorem code_eq_two_iff : (concluded judge check r).code = 2 ↔ ∃ c, r = .error c := by
  cases r with
  | error c => exact iff_of_true rfl ⟨c, rfl⟩
  | ok delivery =>
      have hcode : ∀ passed : Bool, (if passed then 0 else 1) ≠ 2 := by decide
      exact iff_of_false (hcode _) nofun

/-- Without checks, a run ends well exactly if it delivers something. -/
theorem code_eq_zero_iff : (concluded judge false r).code = 0 ↔
    ∃ drafts output, r = .ok (drafts, output) := by
  cases r with
  | error c => exact iff_of_false nofun nofun
  | ok delivery => exact iff_of_true rfl ⟨delivery.1, delivery.2, rfl⟩

/-- With checks, a run ends with 1 exactly if there are refusals. -/
theorem code_eq_one_iff : (concluded judge true r).code = 1 ↔
    ∃ drafts output, r = .ok (drafts, output) ∧ refusals judge drafts ≠ [] := by
  cases r with
  | error c => exact iff_of_false nofun nofun
  | ok delivery =>
      obtain ⟨drafts, output⟩ := delivery
      cases hrefusals : refusals judge drafts with
      | nil => simp [concluded, hrefusals]
      | cons e es => simp [concluded, hrefusals]

/-- The output is the one that was delivered, with checks or without. -/
theorem output_concluded : (concluded judge check r).output = (concluded judge false r).output := by
  cases r <;> rfl

/-- A run that fails has no output. -/
theorem output_eq_empty (h : (concluded judge check r).code = 2) :
    (concluded judge check r).output = "" := by
  obtain ⟨c, rfl⟩ := code_eq_two_iff.mp h
  rfl

end Verdict

/-- A statement is refused by the judgement, for the dialect that it is in. -/
def Refused (judge : Judge) (d : Draft) : Prop :=
  ∃ e, judge (Dialect.resolve d.databaseType) d.ddl = .error e

/-- Every statement of a request is for a dialect. -/
theorem exists_dialect [PatternEngine] {r : Request} {drafts : List Draft} (h : r.generate = .ok drafts) :
    ∀ d ∈ drafts, ∃ dialect, Dialect.ofId? d.databaseType = some dialect := by
  unfold Request.generate at h
  split at h
  · cases h
  · cases hfields : Select.parseFields r.sql with
    | error e =>
        rw [hfields] at h
        cases h
    | ok fields =>
        rw [hfields] at h
        obtain rfl := Except.ok.inj h
        intro d hd
        obtain ⟨id, -, dialect, hid, rfl⟩ := mem_drafts_iff.mp hd
        exact ⟨dialect, hid⟩

/-- The verdict on statements for dialects: there is no refusal, or one of them is refused. -/
theorem refusals_eq_nil_iff (judge : Judge) {drafts : List Draft}
    (h : ∀ d ∈ drafts, ∃ dialect, Dialect.ofId? d.databaseType = some dialect) :
    refusals judge drafts = [] ↔ ¬ ∃ d ∈ drafts, Refused judge d := by
  rw [refusals, List.filterMap_eq_nil_iff, not_exists]
  refine forall_congr' fun d => ?_
  rw [not_and]
  refine forall_congr' fun hd => ?_
  obtain ⟨dialect, hdialect⟩ := h d hd
  rw [Refused, Dialect.resolve, hdialect, Option.getD_some]
  cases hjudge : judge dialect d.ddl with
  | error e => simp [hjudge]
  | ok n => simp [hjudge]

/-! ## 3. Two runs -/

section State

variable [PatternEngine] {σ : Type} (judge : Judge) (host : Host (StateM σ)) (o : Options) (s : σ)

/-- A run from this state makes up a request, and these are the statements of it. -/
def Drafts (drafts : List Draft) : Prop :=
  ∃ request s', (gather host o).run s = (.ok request, s') ∧ request.generate = .ok drafts

/-- Statements that are delivered are those of a request. -/
theorem generate_of_deliver {gathered : Except Complaint Request} {drafts : List Draft}
    {output : String}
    (h : ((deliver host o gathered).run s).1 = .ok (drafts, output)) :
    ∃ request, gathered = .ok request ∧ request.generate = .ok drafts := by
  cases gathered with
  | error c => cases h
  | ok request =>
      refine ⟨request, rfl, ?_⟩
      dsimp only [deliver] at h
      cases hgenerate : request.generate with
      | error e =>
          rw [hgenerate] at h
          cases h
      | ok drafts' =>
          rw [hgenerate] at h
          cases drafts' with
          | nil => cases h
          | cons d ds =>
              change (((emit host o (d :: ds)).run s).1.map fun output => (d :: ds, output)) = _ at h
              cases hemit : ((emit host o (d :: ds)).run s).1 with
              | error c =>
                  rw [hemit] at h
                  cases h
              | ok output' =>
                  rw [hemit] at h
                  cases h
                  rfl

/-- What is delivered are the statements of the request. -/
theorem drafts_of_delivered {drafts : List Draft} {output : String}
    (h : ((delivered host o).run s).1 = .ok (drafts, output)) : Drafts host o s drafts := by
  obtain ⟨request, hgather, hgenerate⟩ := generate_of_deliver host o ((gather host o).run s).2 h
  exact ⟨request, _, Prod.ext hgather rfl, hgenerate⟩

variable {host o s} in
/-- A run has the statements of one request. -/
theorem Drafts.unique {drafts drafts' : List Draft} (h : Drafts host o s drafts)
    (h' : Drafts host o s drafts') : drafts = drafts' := by
  obtain ⟨request, _, hgather, hgenerate⟩ := h
  obtain ⟨request', _, hgather', hgenerate'⟩ := h'
  obtain rfl := Except.ok.inj (congrArg Prod.fst (hgather.symm.trans hgather'))
  exact Except.ok.inj (hgenerate.symm.trans hgenerate')

/-- How a run ends, and the state it leaves. -/
theorem run_runWith : (runWith judge host o).run s =
    (concluded judge o.check ((delivered host o).run s).1, ((delivered host o).run s).2) := by
  rw [runWith_eq]
  rfl

/-- Two runs differ only in their checks. Both leave the same state and output, and fail in the same
cases; the one with checks ends with 1 exactly if the other ends well and a statement of its request
is refused. -/
structure ChecksOnly (plain checked : Outcome × σ) : Prop where
  state : checked.2 = plain.2
  output : checked.1.output = plain.1.output
  failure : checked.1.code = 2 ↔ plain.1.code = 2
  verdict : checked.1.code = 1 ↔ plain.1.code = 0 ∧
    ∃ drafts, Drafts host o s drafts ∧ ∃ d ∈ drafts, Refused judge d

/-- **A run with checks is the run without them, and a verdict.** -/
theorem checksOnly_runWith (h : o.check = false) : ChecksOnly judge host o s
    ((runWith judge host o).run s) ((runWith judge host o.withCheck).run s) := by
  rw [run_runWith, run_runWith, delivered_withCheck, h]
  refine ⟨rfl, output_concluded, code_eq_two_iff.trans code_eq_two_iff.symm, ?_⟩
  rw [code_eq_zero_iff]
  refine code_eq_one_iff.trans ⟨?_, ?_⟩
  · rintro ⟨drafts, output, hdelivered, hrefusals⟩
    have hdrafts : Drafts host o s drafts := drafts_of_delivered host o s hdelivered
    refine ⟨⟨drafts, output, hdelivered⟩, drafts, hdrafts, ?_⟩
    obtain ⟨_, _, -, hgenerate⟩ := hdrafts
    exact not_not.mp fun hno =>
      hrefusals ((refusals_eq_nil_iff judge (exists_dialect hgenerate)).mpr hno)
  · rintro ⟨⟨drafts, output, hdelivered⟩, drafts', hdrafts', hrefused⟩
    obtain rfl := hdrafts'.unique (drafts_of_delivered host o s hdelivered)
    obtain ⟨_, _, -, hgenerate⟩ := hdrafts'
    exact ⟨drafts', output, hdelivered, fun hno =>
      (refusals_eq_nil_iff judge (exists_dialect hgenerate)).mp hno hrefused⟩

/-- A run that fails has no output. -/
theorem output_runWith (h : ((runWith judge host o).run s).1.code = 2) :
    ((runWith judge host o).run s).1.output = "" := by
  rw [run_runWith] at h ⊢
  exact output_eq_empty h

end State

/-- **Checks only judge.** Accepted arguments with `--check` are accepted without it, and those without
it also with it; over any files, the two runs differ only in their checks, and a run that fails has no
output. -/
theorem checks_only [PatternEngine] {σ : Type} (judge : Judge) (host : Host (StateM σ)) (s : σ) :
    (∀ front back o', "--" ∉ front → parse (front ++ "--check" :: back) = .options o' →
      ∃ o, parse (front ++ back) = .options o ∧ ChecksOnly judge host o s
        ((runWith judge host o).run s) ((runWith judge host o').run s)) ∧
    (∀ args o, parse args = .options o → o.check = false →
      ∃ o', parse ("--check" :: args) = .options o' ∧ ChecksOnly judge host o s
        ((runWith judge host o).run s) ((runWith judge host o').run s)) ∧
    ∀ o, ((runWith judge host o).run s).1.code = 2 → ((runWith judge host o).run s).1.output = "" := by
  refine ⟨fun front back o' hfront hparse => ?_, fun args o hparse hcheck => ?_,
    output_runWith judge host (s := s)⟩
  · obtain ⟨o, ho, hcheck, rfl⟩ := parse_insert_check hfront hparse
    exact ⟨o, ho, checksOnly_runWith judge host o s hcheck⟩
  · exact ⟨o.withCheck, parse_cons_check hparse hcheck, checksOnly_runWith judge host o s hcheck⟩

/-- A judgement that refuses every statement. -/
def refuseAll : Judge := fun dialect _ => .error (.refused dialect.id "")

/-- Under it the run with checks ends with 1, the one without them ends well, and a run without query
text fails in silence. -/
theorem checks_only_refused :
    (∃ o o', parse ["-d", "mysql", "--json"] = .options o ∧
      parse ["-d", "mysql", "--check", "--json"] = .options o' ∧
      ((runWith refuseAll (Disk.host (some "a")) o).run .empty).1.code = 0 ∧
      ((runWith refuseAll (Disk.host (some "a")) o').run .empty).1.code = 1 ∧
      ((runWith refuseAll (Disk.host (some "")) o').run .empty).1.output = "") ∧
    ∃ o', parse ["--check", "-d", "mysql", "--json"] = .options o' := by
  have hparse : parse ["-d", "mysql", "--check", "--json"] =
      .options { dialects := ["mysql"], json := true, check := true } := by decide
  have hplain : parse ["-d", "mysql", "--json"] =
      .options { dialects := ["mysql"], json := true } := by decide
  obtain ⟨o, ho, honly⟩ := (checks_only refuseAll (Disk.host (some "a")) .empty).1
    ["-d", "mysql"] ["--json"] _ (by decide) hparse
  obtain rfl := Parsed.options.inj (hplain.symm.trans ho)
  refine ⟨⟨_, _, hplain, hparse, rfl, honly.verdict.mpr ⟨rfl, ?_⟩, ?_⟩, ?_⟩
  · obtain ⟨d, hd⟩ : ∃ d, (Request.mk "a" ["mysql"] .empty none none).generate = .ok [d] := ⟨_, rfl⟩
    exact ⟨[d], ⟨_, _, rfl, hd⟩, d, List.mem_singleton.mpr rfl, _, rfl⟩
  · exact (checks_only refuseAll (Disk.host (some "")) .empty).2.2 _ rfl
  · obtain ⟨o', ho', -⟩ :=
      (checks_only refuseAll (Disk.host (some "a")) .empty).2.1 _ _ hplain rfl
    exact ⟨o', ho'⟩

end TableDraft.Command

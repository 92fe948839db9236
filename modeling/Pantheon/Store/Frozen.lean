/-
  What is frozen stays: tables whose rows no operation updates.
  Specifications, configuration components, execution bindings and context snapshots are
  written once, under the digest they are identified by, and read back by controllers long
  after. `apply_frozen` is the one fact about all of them; the rest of the module says what
  T3 puts there.
-/
import Pantheon.Store.Machine

namespace Pantheon

open Relational

variable {D : Type} [DecidableEq D] [DigestScheme D]

/-- The tables that are only ever added to. -/
def frozenTables : List TableName := [
  .systemState, .configurationComponents, .configurationRevisions, .goalRevisions, .taskSpecs,
  .executionBindings, .contextSourceSnapshots, .runs, .contextPlans, .attempts, .blobs,
  .artifacts, .artifactMembers, .workspaceRevisions, .productionRecords, .candidates,
  .candidateOutputs]

variable {i : TableName} {d : Db D}

theorem updates_no_frozen (op : StoreOp D) (hi : i ∈ frozenTables) :
    i ∉ op.body.access.updates := by
  have hall : (frozenTables.all fun i => !op.body.access.updates.contains i) = true := by
    cases op with
    | command identity mutation => cases mutation <;> rfl
    | write plain => cases plain <;> rfl
  simpa using List.all_eq_true.mp hall i hi

theorem apply_frozen (op : StoreOp D) (ambient : Ambient) (hi : i ∈ frozenTables) {k : Key D i}
    {r : Row D i} (h : d.find i k = some r) : (op.apply ambient d).find i k = some r := by
  have hledger : ∀ j ∈ frozenTables, j ∉ ledgerTables := by decide
  rcases apply_cases op ambient d with hsame | ⟨_, d₁, hc, hframe⟩
  · rwa [hsame]
  · rw [State.find_congr (hframe i (hledger i hi))]
    exact hc.within.kept i (updates_no_frozen op hi) k r h

theorem steps_frozen {cond : Db D → StoreOp D → Prop} {d' : Db D} (hrun : Run.Steps cond d d')
    (hi : i ∈ frozenTables) {k : Key D i} {r : Row D i} (h : d.find i k = some r) :
    d'.find i k = some r :=
  hrun.invariant (P := fun e => e.find i k = some r) h fun _ op ambient he _ =>
    apply_frozen op ambient hi he

omit [DigestScheme D] in
/-- What a new installation says of configuration and dispatch. -/
theorem Installed.bootstrapped (h : Installed d) :
    d.find .activeConfiguration () = some ⟨1, none⟩ ∧
      d.find .schedulerState () = some ⟨.Running, 1, 1⟩ := by
  obtain ⟨generation, epoch, hc⟩ := h
  obtain ⟨_, -, h₁⟩ := insert_then hc
  obtain ⟨_, -, h₂⟩ := insert_then h₁
  obtain ⟨_, hactive, h₃⟩ := insert_then h₂
  obtain ⟨-, -, -, -, -, hscheduler, hother⟩ := State.insert_ok (commits_insert.mp h₃)
  obtain ⟨-, -, -, -, -, hactive, -⟩ := State.insert_ok hactive
  exact ⟨(State.find_congr (hother .activeConfiguration (by decide)) ()).trans
      ((hactive ()).trans (if_pos rfl)),
    (hscheduler ()).trans (if_pos rfl)⟩

/-! ## What is frozen when -/

/-- T3 leaves the Run's binding and snapshot under the digests it names, in the form they were
    given unless something was already there. -/
theorem applyRunIntent_freezes {intent : RunIntent D} {r : RunIntentCommit} {d' : Db D}
    (h : (applyRunIntent intent).Commits d r d') :
    d'.find .executionBindings intent.bindingDigest =
        some ((d.find .executionBindings intent.bindingDigest).getD (storedBinding intent.binding)) ∧
      d'.find .contextSourceSnapshots intent.snapshotDigest =
        some ((d.find .contextSourceSnapshots intent.snapshotDigest).getD
          (storedSnapshot intent.snapshot)) := by
  obtain ⟨_, -, h⟩ := fetch_then h
  obtain ⟨-, h⟩ := Writer.ensure_then h
  obtain ⟨-, h⟩ := Writer.ensure_then h
  obtain ⟨_, -, h⟩ := Writer.guard_then h
  obtain ⟨_, -, h⟩ := Writer.guard_then h
  obtain ⟨_, -, h⟩ := Writer.guard_then h
  obtain ⟨d₁, hother, hbinding, h₁⟩ := insertIfAbsent_then h
  obtain ⟨d₂, -, hsnapshot, h₂⟩ := insertIfAbsent_then h₁
  constructor
  · exact h₁.within.kept _ (by decide) _ _ ((hbinding _).trans (if_pos rfl))
  · refine h₂.within.kept _ (by decide) _ _ ((hsnapshot _).trans ?_)
    rw [if_pos rfl, State.find_congr (hother _ (by decide))]

/-! ## The sample submission -/

namespace Sample

theorem spec_stored {calls : List (Ambient × StoreOp PrefixDigest)} {d : Store}
    (h : runAll installed (planned ++ materialize :: calls) = some d) :
    d.find .taskSpecs taskSpec.digest = some (storedSpec taskSpec) := by
  have hplanned : ((runAll installed planned).any fun e =>
      (e.find .taskSpecs taskSpec.digest).isNone) = true := by decide +kernel
  obtain ⟨e, he, hnone⟩ := (Option.any_eq_true _ _).mp hplanned
  obtain ⟨e', he', hrest⟩ := runAll_append h
  obtain rfl := Option.some.inj (he.symm.trans he')
  obtain ⟨hfresh, hcalls⟩ := runAll_cons hrest
  obtain ⟨r, -, d₁, hc, hframe⟩ := fresh_ran hfresh
  obtain ⟨_, _, _, _, _, _, -, hwritten⟩ := materializePlan_written hc
  refine steps_frozen (runAll_steps .refl hcalls) (by decide) ?_
  rw [State.find_congr (hframe .taskSpecs (by decide)), hwritten.specs]
  have hnew : e.find .taskSpecs plan.plan.spec.digest = none := Option.isNone_iff_eq_none.mp hnone
  rw [hnew]
  exact if_pos rfl

/-- What the submission is found to be about. -/
def lineage : SubmissionLineage PrefixDigest := ⟨"run", "task", 2, taskSpec.digest⟩

/-- The submission's writes. -/
def submitWrites (priorRow : Bool) (d : Store) : Except StoreError SubmissionOutcome × Store :=
  (submissionWrites submit.1 ⟨⟨"attempt", ⟨[1]⟩⟩, "q", ⟨[2]⟩, candidate, 2⟩ priorRow
    lineage).transact discardedFailure d

/-- A body commits with an answer. -/
def answersWith {A : Access TableName} {α : Type} [DecidableEq α] (m : Write PrefixDigest A α)
    (a : α) (d : Store) : Bool :=
  match (m.transact discardedFailure d).1 with
  | .ok b => b == a
  | .error _ => false

theorem commits_of_answersWith {A : Access TableName} {α : Type} [DecidableEq α]
    {m : Write PrefixDigest A α} {a : α} {d : Store} (h : answersWith m a d = true) :
    m.Commits d a (m.transact discardedFailure d).2 := by
  unfold answersWith at h
  split at h
  · rename_i b hb
    obtain rfl := beq_iff_eq.mp h
    exact answer_ok hb
  · cases h

/-- The guards of the submission pass and its writes commit, its specification apart. -/
def submits (recorded : Option RequestState) (d : Store) : Bool :=
  answersWith (authenticateAgentSession ⟨"attempt", ⟨[1]⟩⟩) () d &&
  answersWith (recordedRequest "attempt" "q" ⟨[2]⟩) recorded d &&
  answersWith (submissionAuthority ⟨⟨"attempt", ⟨[1]⟩⟩, "q", ⟨[2]⟩, candidate, 2⟩) lineage d &&
  ((d.rows .candidates).find? fun p => p.2.runId == "run").isNone &&
  (submitWrites recorded.isSome d).1.toOption.any fun r => !r.reconciled

theorem runAll_submit {recorded : Option RequestState} {d : Store}
    (hspec : d.find .taskSpecs taskSpec.digest = some (storedSpec taskSpec))
    (hopen : ∀ resultRef, recorded ≠ some (.Succeeded resultRef)) (h : submits recorded d = true) :
    runAll d [submit] = some (submitWrites recorded.isSome d).2 := by
  unfold submits at h
  simp only [Bool.and_eq_true] at h
  obtain ⟨⟨⟨⟨hsession, hrequest⟩, hauthority⟩, hfirst⟩, hwrites⟩ := h
  have hsession := commits_of_answersWith hsession
  have hrequest := commits_of_answersWith hrequest
  have hauthority := commits_of_answersWith hauthority
  rw [hsession.unchanged] at hsession
  rw [hrequest.unchanged] at hrequest
  rw [hauthority.unchanged] at hauthority
  -- evaluating the parser on the stored text would take long; the text is the rendered one
  have hread : TaskSpec.fromCanonicalJson (storedSpec taskSpec).canonicalJson = .ok taskSpec :=
    TaskSpec.fromCanonicalJson_toCanonicalText (TaskSpec.toValue_wf (by decide) (by decide))
  have hcontent : (submissionContent candidate lineage).Commits d () d :=
    submissionContent_of rfl rfl hspec hread rfl nofun (Option.isNone_iff_eq_none.mp hfirst)
  obtain ⟨r, hr, hfresh⟩ := (Option.any_eq_true _ _).mp hwrites
  have hanswer : (submitWrites recorded.isSome d).1 = .ok r := by
    cases hcase : (submitWrites recorded.isSome d).1 with
    | error e => simp [hcase, Except.toOption] at hr
    | ok b => simpa [hcase, Except.toOption] using hr
  have hcommits := applyCandidateSubmission_of hsession hrequest hopen hauthority hcontent
    (answer_ok hanswer)
  exact runAll_write hcommits (Bool.not_eq_true' _ ▸ hfresh)

end Sample

end Pantheon

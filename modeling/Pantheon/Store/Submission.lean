/-
  Candidate submission (T6) as the acceptance gate.
  `SubmissionGrounded` is what a submission that commits afresh has found, `SubmissionRecorded`
  what it leaves: the Candidate with its outputs, the Run in Finalizing, the Task in Evaluating
  and the request's outcome, together. `candidate_submission_sound` puts them together with
  what a repeated submission does: it changes nothing, and it is answered with the same digest
  as long as its credential still passes the session fence.
-/
import Pantheon.Store.Requests

namespace Pantheon

open Relational

variable {D : Type} [DecidableEq D] [DigestScheme D]

/-! ## What a fresh submission found -/

/-- The output names a stored Artifact of the kind its slot declares, whose payloads are all
    among its members, and which this Run produced for this slot. -/
structure OutputGrounded (d : Db D) (runId : String) (spec : TaskSpec D)
    (output : CandidateOutput D) : Prop where
  artifact : ∃ artifact declared payloads, d.find .artifacts output.artifact = some artifact ∧
    spec.outputs.find? (fun o => o.name == output.slot) = some declared ∧
    declared.kind = artifact.artifactKind ∧
    manifestPayloads output.artifact artifact.canonicalJson = .ok payloads ∧
    ∀ payload ∈ payloads, d.find .artifactMembers (output.artifact, payload) ≠ none
  produced : ∃ record, d.find .productionRecords (runId, output.slot) = some record ∧
    record.artifactDigest = output.artifact

variable {u : Unit} {d d' : Db D} {lineage : SubmissionLineage D} {s : CandidateSubmission D}
  {ambient : Ambient} {priorRow : Bool} {r : SubmissionOutcome}

theorem ensureArtifactComplete_commits {artifact : D} {canonicalJson : String}
    (h : (ensureArtifactComplete artifact canonicalJson).Commits d u d') :
    ∃ payloads, manifestPayloads artifact canonicalJson = .ok payloads ∧
      ∀ payload ∈ payloads, d.find .artifactMembers (artifact, payload) ≠ none := by
  obtain ⟨payloads, hpayloads, h⟩ := requireOk_then h
  have h := Writer.read_then h
  obtain ⟨hall, -⟩ := Writer.commits_require.mp h
  refine ⟨payloads, hpayloads, fun payload hpayload => ?_⟩
  split at hall
  · rename_i hmembers
    have hmember := List.all_eq_true.mp hmembers payload hpayload
    simp only [List.contains_eq_mem, List.mem_map, List.mem_filter, beq_iff_eq, decide_eq_true_eq]
      at hmember
    obtain ⟨⟨⟨owner, blob⟩, row⟩, ⟨hrow, rfl⟩, rfl⟩ := hmember
    rw [State.mem_rows.mp hrow]
    exact Option.some_ne_none row
  · cases hall

theorem validateOutput_commits {runId : String} {spec : TaskSpec D} {output : CandidateOutput D}
    (h : (validateOutput runId spec output).Commits d u d') :
    OutputGrounded d runId spec output := by
  obtain ⟨artifact, hartifact, h⟩ := fetch_then h
  obtain ⟨declared, hdeclared, h⟩ := Writer.require_then h
  obtain ⟨_, hkind, h⟩ := requireOk_then h
  obtain ⟨_, d₁, hcomplete, hrest⟩ := Writer.commits_bind.mp h
  obtain rfl := hcomplete.unchanged
  obtain ⟨payloads, hpayloads, hmembers⟩ := ensureArtifactComplete_commits hcomplete
  obtain ⟨record, hrecord, h⟩ := fetch_then hrest
  obtain ⟨hproduced, -⟩ := Writer.commits_ensure.mp h
  have hpermitted : declared.kind = artifact.artifactKind := by
    have hkind := mapError_eq_ok.mp hkind
    unfold kindPermitted at hkind
    split at hkind
    · assumption
    · cases hkind
  exact ⟨⟨artifact, declared, payloads, hartifact, hdeclared, hpermitted, hpayloads, hmembers⟩,
    record, hrecord, hproduced⟩

/-- Everything a submission that commits afresh found in the state it started from. -/
structure SubmissionGrounded (s : CandidateSubmission D) (d : Db D)
    (lineage : SubmissionLineage D) (run : RunStatus D) (task : Task D) (goal : Goal)
    (spec : TaskSpec D) : Prop where
  authenticated : Authenticates s.credential d
  authorized : SubmissionAuthorized s lineage d run task goal
  attempt_live : ∃ status, d.find .attemptStatus s.credential.attemptId = some status ∧
    status.terminal = false
  task_revision : task.revision = s.expectedTaskRevision
  candidate_run : s.candidate.runId = lineage.runId
  candidate_task : s.candidate.taskId = lineage.taskId
  spec_stored : ∃ stored, d.find .taskSpecs task.specDigest = some stored ∧
    TaskSpec.fromCanonicalJson (D := D) stored.canonicalJson = .ok spec
  required : ∀ slot ∈ spec.outputs, slot.required = true →
    ∃ output ∈ s.candidate.outputs, output.slot = slot.name
  declared : ∀ output ∈ s.candidate.outputs, ∃ slot ∈ spec.outputs, slot.name = output.slot
  outputs : ∀ output ∈ s.candidate.outputs, OutputGrounded d lineage.runId spec output

theorem submissionContent_commits {candidate : CandidateResult D}
    (h : (submissionContent candidate lineage).Commits d u d') :
    candidate.runId = lineage.runId ∧ candidate.taskId = lineage.taskId ∧
    ∃ stored spec, d.find .taskSpecs lineage.specDigest = some stored ∧
      TaskSpec.fromCanonicalJson (D := D) stored.canonicalJson = .ok spec ∧
      candidate.validateAgainstSpec spec = .ok () ∧
      ∀ output ∈ candidate.outputs, OutputGrounded d lineage.runId spec output := by
  obtain ⟨⟨hrun, htask⟩, h⟩ := Writer.ensure_then h
  obtain ⟨stored, hstored, h⟩ := fetch_then h
  obtain ⟨spec, hspec, h⟩ := requireOk_then h
  obtain ⟨_, hvalid, h⟩ := requireOk_then h
  obtain ⟨_, d₁, houtputs, -⟩ := Writer.commits_bind.mp h
  refine ⟨hrun, htask, stored, spec, hstored, mapError_eq_ok.mp hspec, mapError_eq_ok.mp hvalid,
    fun output hmem => ?_⟩
  obtain ⟨_, houtput⟩ := Writer.commits_forEach_guard houtputs output hmem
  exact validateOutput_commits houtput

omit [DigestScheme D] in
/-- The authority part also looked at the Attempt, the Task's revision and its specification. -/
theorem submissionAuthority_lineage (h : (submissionAuthority s).Commits d lineage d') :
    (∃ status, d.find .attemptStatus s.credential.attemptId = some status ∧
      status.terminal = false) ∧
    ∃ task, d.find .tasks lineage.taskId = some task ∧ task.revision = s.expectedTaskRevision ∧
      lineage.specDigest = task.specDigest := by
  obtain ⟨_, -, h⟩ := fetch_then h
  obtain ⟨status, hstatus, h⟩ := fetch_then h
  obtain ⟨hlive, h⟩ := Writer.ensure_then h
  obtain ⟨_, -, h⟩ := fetch_then h
  obtain ⟨-, h⟩ := Writer.ensure_then h
  obtain ⟨-, h⟩ := Writer.ensure_then h
  obtain ⟨task, htask, h⟩ := fetch_then h
  obtain ⟨-, h⟩ := Writer.ensure_then h
  obtain ⟨-, h⟩ := Writer.ensure_then h
  have h := find_then h
  obtain ⟨-, h⟩ := Writer.ensure_then h
  obtain ⟨hrevision, h⟩ := Writer.ensure_then h
  obtain ⟨rfl, -⟩ := Writer.commits_pure.mp h
  exact ⟨⟨status, hstatus, hlive⟩, task, htask, hrevision, rfl⟩

theorem submitFresh_grounded (h : (submitFresh ambient s priorRow).Commits d r d')
    (hauth : Authenticates s.credential d) {run : RunStatus D} {task : Task D} {goal : Goal}
    (hauthority : (submissionAuthority s).Commits d lineage d)
    (hauthorized : SubmissionAuthorized s lineage d run task goal) :
    ∃ spec, SubmissionGrounded s d lineage run task goal spec := by
  obtain ⟨_, hsame, h⟩ := Writer.guard_then h
  obtain ⟨rfl, -⟩ := hsame.unique hauthority
  obtain ⟨_, hcontent, -⟩ := Writer.guard_then h
  obtain ⟨hlive, found, hfound, hrevision, hspecDigest⟩ := submissionAuthority_lineage hauthority
  obtain rfl := Option.some.inj (hfound.symm.trans hauthorized.task_found)
  obtain ⟨hrun, htask, stored, spec, hstored, hspec, hvalid, houtputs⟩ :=
    submissionContent_commits hcontent
  obtain ⟨hrequired, hdeclared⟩ := CandidateResult.validateAgainstSpec_ok.mp hvalid
  exact ⟨spec, hauth, hauthorized, hlive, hrevision, hrun, htask,
    ⟨stored, hspecDigest ▸ hstored, hspec⟩, hrequired, hdeclared, houtputs⟩

/-! ## What it leaves -/

theorem insertCandidate_commits {candidate : CandidateResult D}
    (h : (insertCandidate candidate lineage).Commits d u d') :
    (∀ id, d'.find .candidates id = if candidate.digest = id then
      some ⟨lineage.taskId, lineage.runId, candidate.toCanonicalJson⟩
      else d.find .candidates id) ∧
    d'.rows .candidateOutputs = d.rows .candidateOutputs ++ candidate.outputs.map fun o =>
      ((candidate.digest, o.slot), ⟨o.artifact, lineage.runId⟩) := by
  obtain ⟨d₁, hcandidate, h⟩ := insert_then h
  obtain ⟨-, -, -, -, -, hcandidates, hother⟩ := State.insert_ok hcandidate
  -- The loop adds one row for each output and nothing else.
  have hloop : ∀ (outputs : List (CandidateOutput D)) (e e' : Db D) (v : Unit),
      (Writer.forEach (fun output : CandidateOutput D =>
        (insert .candidateOutputs (candidate.digest, output.slot) ⟨output.artifact, lineage.runId⟩ :
          Write D ⟨[.candidates, .candidateOutputs], []⟩ Unit)) outputs).Commits e v e' →
      e'.table .candidates = e.table .candidates ∧
      e'.rows .candidateOutputs = e.rows .candidateOutputs ++ outputs.map fun o =>
        ((candidate.digest, o.slot), ⟨o.artifact, lineage.runId⟩) := by
    intro outputs
    induction outputs with
    | nil =>
      intro e e' v hnil
      obtain ⟨-, rfl⟩ := Writer.commits_pure.mp hnil
      simp
    | cons output outputs ih =>
      intro e e' v hcons
      obtain ⟨e₁, hinsert, hrest⟩ := insert_then hcons
      obtain ⟨-, -, -, -, hrows, -, hframe⟩ := State.insert_ok hinsert
      obtain ⟨hsame, hlater⟩ := ih e₁ e' v hrest
      exact ⟨hsame.trans (hframe _ (by decide)), by rw [hlater, hrows]; simp⟩
  obtain ⟨hsame, hrows⟩ := hloop _ _ _ _ h
  refine ⟨fun id => ?_, ?_⟩
  · rw [State.find_congr hsame, hcandidates]
  · rw [hrows, State.rows, hother _ (by decide)]
    rfl

/-- What a submission that commits afresh leaves: the Candidate with its outputs, the moved Run
    and Task and the request's outcome, and nothing else but an event. -/
structure SubmissionRecorded (s : CandidateSubmission D) (d d' : Db D)
    (lineage : SubmissionLineage D) (run : RunStatus D) (task : Task D) : Prop where
  candidates : ∀ id, d'.find .candidates id = if s.candidate.digest = id then
    some ⟨lineage.taskId, lineage.runId, s.candidate.toCanonicalJson⟩ else d.find .candidates id
  outputs : d'.rows .candidateOutputs = d.rows .candidateOutputs ++
    s.candidate.outputs.map fun o => ((s.candidate.digest, o.slot), ⟨o.artifact, lineage.runId⟩)
  runs : ∀ id, d'.find .runStatus id = if lineage.runId = id then
    some { run with phase := .Finalizing, terminalTarget := some .Completed,
                    candidateDigest := some s.candidate.digest, revision := run.revision + 1 }
    else d.find .runStatus id
  tasks : ∀ id, d'.find .tasks id = if lineage.taskId = id then
    some { task with phase := .Evaluating, revision := task.revision + 1 }
    else d.find .tasks id
  requests : ∀ k, d'.find .agentRequests k = if (s.credential.attemptId, s.requestId) = k then
    some (submittedRequest s (d.find .agentRequests (s.credential.attemptId, s.requestId)))
    else d.find .agentRequests k
  others : ∀ i, i ∉ submissionAccess.inserts → i ∉ submissionAccess.updates →
    d'.table i = d.table i

/-- The answer of a submission that commits afresh. -/
theorem submitFresh_answer (h : (submitFresh ambient s priorRow).Commits d r d') :
    r.committed.candidateDigest = toDisplay s.candidate.digest ∧ r.reconciled = false := by
  obtain ⟨_, -, h⟩ := Writer.guard_then h
  obtain ⟨_, -, h⟩ := Writer.guard_then h
  obtain ⟨_, _, -, h⟩ := Writer.widen_then h
  obtain ⟨_, _, -, h⟩ := update_then h
  obtain ⟨_, _, -, h⟩ := update_then h
  obtain ⟨_, _, -, h⟩ := Writer.widen_then h
  obtain ⟨_, _, -, h⟩ := Writer.widen_then h
  obtain ⟨rfl, -⟩ := Writer.commits_pure.mp h
  exact ⟨rfl, rfl⟩

theorem submitFresh_candidate (h : (submitFresh ambient s priorRow).Commits d r d')
    (hauthority : (submissionAuthority s).Commits d lineage d) :
    (∀ id, d'.find .candidates id = if s.candidate.digest = id then
      some ⟨lineage.taskId, lineage.runId, s.candidate.toCanonicalJson⟩
      else d.find .candidates id) ∧
    d'.rows .candidateOutputs = d.rows .candidateOutputs ++ s.candidate.outputs.map fun o =>
      ((s.candidate.digest, o.slot), ⟨o.artifact, lineage.runId⟩) := by
  obtain ⟨_, hsame, h⟩ := Writer.guard_then h
  obtain ⟨rfl, -⟩ := hsame.unique hauthority
  obtain ⟨_, -, h⟩ := Writer.guard_then h
  obtain ⟨_, d₁, hinsert, h⟩ := Writer.widen_then h
  obtain ⟨d₂, _, hrun, h⟩ := update_then h
  obtain ⟨d₃, _, htask, h⟩ := update_then h
  obtain ⟨_, d₄, houtcome, h⟩ := Writer.widen_then h
  obtain ⟨_, d₅, hevent, h⟩ := Writer.widen_then h
  obtain ⟨-, rfl⟩ := Writer.commits_pure.mp h
  obtain ⟨hcandidates, houtputs⟩ := insertCandidate_commits hinsert
  have hafter : ∀ i, i = .candidates ∨ i = .candidateOutputs → d'.table i = d₁.table i := by
    rintro i (rfl | rfl) <;>
    rw [hevent.within.same _ (by decide) (by decide), houtcome.within.same _ (by decide) (by decide),
      htask.others _ (by decide), hrun.others _ (by decide)]
  refine ⟨fun id => ?_, ?_⟩
  · rw [State.find_congr (hafter _ (.inl rfl)), hcandidates]
  · rw [State.rows, hafter _ (.inr rfl)]
    exact houtputs

/-- A submission that went on found what it needs, and left its rows. -/
theorem submitFresh_sound (h : (submitFresh ambient s
      (d.find .agentRequests (s.credential.attemptId, s.requestId)).isSome).Commits d r d')
    (hauth : Authenticates s.credential d) :
    ∃ lineage run task goal spec, SubmissionGrounded s d lineage run task goal spec ∧
      SubmissionRecorded s d d' lineage run task := by
  obtain ⟨lineage, run, task, goal, hauthority, hsubmitted⟩ := submitFresh_moves h
  obtain ⟨spec, hgrounded⟩ := submitFresh_grounded h hauth hauthority hsubmitted.authorized
  obtain ⟨hcandidates, houtputs⟩ := submitFresh_candidate h hauthority
  exact ⟨lineage, run, task, goal, spec, hgrounded, hcandidates, houtputs, hsubmitted.statuses,
    hsubmitted.tasks, submitFresh_requests h, h.within.same⟩

/-! ## Repeated submissions -/

/-- The submission's outcome is in the ledger, with its Candidate. -/
structure Remembers (s : CandidateSubmission D) (d : Db D) : Prop where
  request : ∃ row, d.find .agentRequests (s.credential.attemptId, s.requestId) = some row ∧
    row.requestHash = s.requestHash ∧ row.state = .Succeeded ∧
    row.resultRef = some (toDisplay s.candidate.digest)
  candidate : ∃ row, d.find .candidates s.candidate.digest = some row ∧
    row.runId = s.candidate.runId ∧ row.canonicalJson = s.candidate.toCanonicalJson

theorem apply_remembers (op : StoreOp D) (ambient : Ambient) (h : Remembers s d) :
    Remembers s (op.apply ambient d) := by
  obtain ⟨row, hrow, hhash, hstate, hresult⟩ := h.request
  obtain ⟨candidate, hcandidate, hfacts⟩ := h.candidate
  obtain ⟨new, hnew, hmove⟩ := apply_request op ambient hrow
  obtain rfl := hmove.succeeded hstate
  exact ⟨⟨new, hnew, hhash, hstate, hresult⟩, candidate,
    apply_frozen op ambient (by decide) hcandidate, hfacts⟩

theorem SubmissionRecorded.remembers {run : RunStatus D} {task : Task D}
    (h : SubmissionRecorded s d d' lineage run task) (hrun : s.candidate.runId = lineage.runId)
    (hprior : ∀ row, d.find .agentRequests (s.credential.attemptId, s.requestId) = some row →
      row.requestHash = s.requestHash) : Remembers s d' := by
  have hrequest := (h.requests _).trans (if_pos rfl)
  refine ⟨⟨_, hrequest, ?_⟩, _, (h.candidates _).trans (if_pos rfl), hrun.symm, rfl⟩
  cases hfound : d.find .agentRequests (s.credential.attemptId, s.requestId) with
  | none => exact ⟨rfl, rfl, rfl⟩
  | some row => exact ⟨hprior row hfound, rfl, rfl⟩

/-- While its credential passes the fence, a remembered submission is answered from the
    ledger. -/
theorem Remembers.answer (h : Remembers s d) (hauth : Authenticates s.credential d)
    (ambient : Ambient) :
    ∃ taskRevision runRevision, (StoreOp.write (.submitCandidate s)).answer ambient d =
      (.ok ⟨⟨toDisplay s.candidate.digest, taskRevision, runRevision⟩, true⟩, d) := by
  obtain ⟨row, hrow, hhash, hstate, hresult⟩ := h.request
  obtain ⟨candidate, hcandidate, hrun, hjson⟩ := h.candidate
  have hsettled : requestStateFrom row = .ok (.Succeeded (toDisplay s.candidate.digest)) := by
    simp [requestStateFrom, hstate, hresult]
  have hlookup : (recordedRequest s.credential.attemptId s.requestId s.requestHash).Commits d
      (some (.Succeeded (toDisplay s.candidate.digest))) d := by
    refine Writer.then_of (Writer.read_of rfl) ?_
    rw [hrow]
    refine Writer.then_of (requireOk_of hsettled) ?_
    exact Writer.then_of (Writer.ensure_of hhash) (Writer.commits_pure.mpr ⟨rfl, rfl⟩)
  have houtcome : (loadCommittedOutcome s.candidate s.candidate.digest).Commits d
      ⟨toDisplay s.candidate.digest, (d.find .tasks s.candidate.taskId).elim 0 (·.revision),
        (d.find .runStatus s.candidate.runId).elim 0 (·.revision)⟩ d := by
    refine Writer.then_of (Writer.read_of rfl) ?_
    refine Writer.then_of (a := candidate)
      (Writer.commits_require.mpr ⟨by simp [hcandidate, hrun], rfl⟩) ?_
    refine Writer.then_of (Writer.ensure_of hjson) ?_
    exact Writer.then_of (Writer.read_of rfl) (Writer.then_of (Writer.read_of rfl) rfl)
  have hanswer : (applyCandidateSubmission ambient s).Commits d
      ⟨⟨toDisplay s.candidate.digest, (d.find .tasks s.candidate.taskId).elim 0 (·.revision),
        (d.find .runStatus s.candidate.runId).elim 0 (·.revision)⟩, true⟩ d := by
    refine Writer.then_of (a := ()) (authenticate_commits.mpr ⟨hauth, rfl⟩) ?_
    refine Writer.then_of hlookup ?_
    refine Writer.then_of (Writer.commits_require.mpr
      ⟨fromDisplay_toDisplay _, rfl⟩) ?_
    exact Writer.then_of houtcome (Writer.commits_pure.mpr ⟨rfl, rfl⟩)
  exact ⟨_, _, Writer.transact_ok.mpr hanswer⟩

/-- What a submission that commits afresh found and left, and how its repetitions end. -/
structure SubmissionSound (s : CandidateSubmission D) (d d' : Db D) : Prop where
  grounded : ∃ lineage run task goal spec, SubmissionGrounded s d lineage run task goal spec ∧
    SubmissionRecorded s d d' lineage run task
  repeated : ∀ later, Run.Steps anyStep d' later → ∀ ambient,
    (Authenticates s.credential later → ∃ taskRevision runRevision,
      ((StoreOp.write (.submitCandidate s)).answer ambient later).1 =
        .ok ⟨⟨toDisplay s.candidate.digest, taskRevision, runRevision⟩, true⟩) ∧
    (StoreOp.write (.submitCandidate s)).apply ambient later = later

/-- A submission was refused, reconciled, or went on; only the last changes anything. -/
theorem submission_cases (s : CandidateSubmission D) (ambient : Ambient) (d : Db D) :
    (¬ (StoreOp.write (.submitCandidate s)).Fresh ambient d ∧
      (StoreOp.write (.submitCandidate s)).apply ambient d = d) ∨
    ((StoreOp.write (.submitCandidate s)).Fresh ambient d ∧ Authenticates s.credential d ∧
      ∃ r, (submitFresh ambient s
        (d.find .agentRequests (s.credential.attemptId, s.requestId)).isSome).Commits d r
          ((StoreOp.write (.submitCandidate s)).apply ambient d) ∧
        ∀ row, d.find .agentRequests (s.credential.attemptId, s.requestId) = some row →
          row.requestHash = s.requestHash) := by
  rcases Writer.transact_cases discardedFailure (applyCandidateSubmission ambient s) d with
    ⟨e, he⟩ | ⟨r, d', hr, hc⟩
  · have hanswer : (StoreOp.write (.submitCandidate s)).answer ambient d = (.error e, d) := he
    exact .inl ⟨by simp [StoreOp.Fresh, StoreOp.exec, hanswer, Except.map],
      congrArg Prod.snd hanswer⟩
  · have hanswer : (StoreOp.write (.submitCandidate s)).answer ambient d = (.ok r, d') := hr
    have hafter : (StoreOp.write (.submitCandidate s)).apply ambient d = d' :=
      congrArg Prod.snd hanswer
    rw [hafter]
    obtain ⟨hauth, ⟨hreconciled, rfl⟩ | ⟨hfresh, hprior⟩⟩ := applyCandidateSubmission_cases hc
    · refine .inl ⟨fun h => ?_, rfl⟩
      simp [StoreOp.Fresh, StoreOp.exec, hanswer, Except.map, StoreOp.isFresh, PlainWrite.body,
        hreconciled] at h
    · refine .inr ⟨?_, hauth, r, hfresh, fun row hrow => (hprior row hrow).1⟩
      simp [StoreOp.Fresh, StoreOp.exec, hanswer, Except.map, StoreOp.isFresh, PlainWrite.body,
        (submitFresh_answer hfresh).2]

/-- A submission whose outcome is remembered never goes on again. -/
theorem Remembers.repeated (h : Remembers s d) (ambient : Ambient) :
    (StoreOp.write (.submitCandidate s)).apply ambient d = d := by
  by_cases hauth : Authenticates s.credential d
  · obtain ⟨_, _, hanswer⟩ := h.answer hauth ambient
    exact congrArg Prod.snd hanswer
  · obtain ⟨e, he⟩ := (refused_of_not hauth).write (.submitCandidate s) ambient rfl
    exact congrArg Prod.snd he

/-- In every state a Run has at most one Candidate. A submission that commits afresh
    found everything the acceptance gate asks for and left its rows together; every other one
    changes nothing, and so does every repetition of one that committed, which is answered
    with the same digest while its credential passes the fence. -/
theorem candidate_submission_sound (d : Db D) :
    (∀ id id' candidate candidate', d.find .candidates id = some candidate →
      d.find .candidates id' = some candidate' → candidate.runId = candidate'.runId → id = id') ∧
    ∀ (s : CandidateSubmission D) ambient,
      ((StoreOp.write (.submitCandidate s)).Fresh ambient d →
        SubmissionSound s d ((StoreOp.write (.submitCandidate s)).apply ambient d)) ∧
      (¬ (StoreOp.write (.submitCandidate s)).Fresh ambient d →
        (StoreOp.write (.submitCandidate s)).apply ambient d = d) := by
  refine ⟨fun id id' candidate candidate' hfound hfound' hrun => ?_, fun s ambient => ?_⟩
  · by_contra hne
    have hclash := State.clash_of_find hfound hfound' hne
    simp [clash, hrun] at hclash
  · rcases submission_cases s ambient d with ⟨hrefused, hsame⟩ | ⟨hfresh, hauth, r, hc, hprior⟩
    · exact ⟨fun hfresh => absurd hfresh hrefused, fun _ => hsame⟩
    · obtain ⟨lineage, run, task, goal, spec, hgrounded, hrecorded⟩ := submitFresh_sound hc hauth
      have hremembers := hrecorded.remembers hgrounded.candidate_run hprior
      refine ⟨fun _ => ⟨⟨lineage, run, task, goal, spec, hgrounded, hrecorded⟩,
        fun later hrun ambient' => ?_⟩, fun hunfresh => absurd hfresh hunfresh⟩
      have hlater := hrun.invariant (P := Remembers s) hremembers
        fun _ op ambient he _ => apply_remembers op ambient he
      refine ⟨fun hpasses => ?_, hlater.repeated ambient'⟩
      obtain ⟨taskRevision, runRevision, hanswer⟩ := hlater.answer hpasses ambient'
      exact ⟨taskRevision, runRevision, congrArg Prod.fst hanswer⟩

/-- The sample's submission, which commits over an earlier failed request. -/
theorem candidate_submission_sound_sample : ∃ d : Sample.Store,
    Sample.submit.2.Fresh Sample.submit.1 d ∧
    SubmissionSound ⟨⟨"attempt", ⟨[1]⟩⟩, "q", ⟨[2]⟩, Sample.candidate, 2⟩ d
      (Sample.submit.2.apply Sample.submit.1 d) := by
  obtain ⟨d, -, -, -, d', hd', -⟩ := Sample.submission_resumes
  have hfresh := (runAll_cons hd').1
  exact ⟨d, hfresh, ((candidate_submission_sound d).2 _ _).1 hfresh⟩

/-- Once the Attempt has exited, the exact repetition of a committed submission is refused. -/
theorem repeated_submission_refused : ∃ d later : Sample.Store, Reachable d ∧
    Sample.submit.2.Fresh Sample.submit.1 d ∧
    Run.Steps anyStep (Sample.submit.2.apply Sample.submit.1 d) later ∧
    ∃ e, (Sample.submit.2.answer Sample.submit.1 later).1 = .error e := by
  obtain ⟨d, hd, ⟨attempt, hattempt, -⟩, -, d', hd', -, d'', hd'', status, hstatus, hterminal⟩ :=
    Sample.submission_resumes
  have hrun := runAll_steps (runAll_steps (.refl : Run.Steps anyStep d d) hd') hd''
  have hreachable : Reachable d'' := (Sample.reachable_of_runAll hd).steps hrun
  have hfenced := ended_fenced hreachable (steps_frozen hrun (by decide) hattempt) hstatus hterminal
  have hrefused : Refused Sample.credential d'' :=
    refused_of_not (Fenced.not_authenticates hfenced)
  obtain ⟨e, he⟩ := hrefused.write
    (.submitCandidate ⟨Sample.credential, "q", ⟨[2]⟩, Sample.candidate, 2⟩) Sample.submit.1 rfl
  refine ⟨d, d'', Sample.reachable_of_runAll hd, (runAll_cons hd').1, ?_, e, congrArg Prod.fst he⟩
  have hafter : d' = Sample.submit.2.apply Sample.submit.1 d := runAll_one hd'
  exact hafter ▸ runAll_steps .refl hd''

end Pantheon

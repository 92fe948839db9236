/-
  Publication of configurations, among other calls.
  A revision becomes durably active in one transaction and is published in a later step, both
  inside the barrier. `authority` is the contract of every routine that takes part: what is
  published is stored and not ahead of the store, the durable revision moves only forward, and
  what is published was the durable revision at that moment. `published_in_step`: with no
  program inside the barrier, what is published is the durable active revision, as long as no
  activation commits between the read of a `load` and its publication; `load_publishes_older`
  is a run in which one does.
-/
import Pantheon.Engine.Configuration
import Pantheon.Store.Activation
import Pantheon.Store.Ledger

namespace Pantheon

open Interleave Routine

variable {D : Type} [DecidableEq D] [DigestScheme D]

abbrev DaemonProg (D : Type) [DecidableEq D] [DigestScheme D] : Type → Type 1 :=
  Prog (Daemon D) (SiteLabel D AuthorityStep) (FabricPort D)

/-! ## The steps of an activation and of a load -/

variable {active : ActivatedConfiguration D} {α : Type} {command : Command D} {sources : SourceSet}
  {s s' : Daemon D} {step : AuthorityStep}
  {r : Except ConfigurationError (Committed (ActivatedConfiguration D))}

theorem Snapshot.new_active {compiled : Option { c : CompiledConfiguration // c.Sound }}
    {s : Snapshot D} (h : Snapshot.new active compiled = .ok s) : s.active = active := by
  unfold Snapshot.new at h
  split at h
  · exact congrArg Snapshot.active (Except.ok.inj h).symm
  · split at h
    · exact congrArg Snapshot.active (Except.ok.inj h).symm
    · cases h

theorem Snapshot.new_paired {c : { c : CompiledConfiguration // c.Sound }}
    (h : c.1.revisionDigest = active.contentDigest) :
    ∃ s, Snapshot.new active (some c) = .ok s ∧ s.active = active ∧ s.compiled = some c.1 := by
  rw [Snapshot.new, dif_pos h]
  exact ⟨_, rfl, rfl, rfl⟩

namespace ConfigurationAuthority

/-- The publication step. -/
def publishStep {α : Type} (step : AuthorityStep) (snapshot : Option (Snapshot D)) (a : α) :
    DaemonProg D α :=
  .tx (.own step) (fun s => ((), { s with own := snapshot })) fun _ => .ret a

/-- Publication of a pair that may be refused. -/
def publishSteps {α : Type} (step : AuthorityStep) (active : ActivatedConfiguration D)
    (compiled : Option { c : CompiledConfiguration // c.Sound }) (a : α) :
    DaemonProg D (Except ConfigurationError α) :=
  match Snapshot.new active compiled with
  | .ok snapshot => publishStep step (some snapshot) (.ok a)
  | .error e => .ret (.error e)

theorem publishSteps_new {α : Type} {step : AuthorityStep} {active : ActivatedConfiguration D}
    {compiled : Option { c : CompiledConfiguration // c.Sound }} {snapshot : Snapshot D}
    (h : Snapshot.new active compiled = .ok snapshot) (a : α) :
    publishSteps step active compiled a = publishStep step (some snapshot) (.ok a) := by
  rw [publishSteps, h]

/-- What an activation does after its transaction. -/
def afterActivation (compiled : { c : CompiledConfiguration // c.Sound }) :
    Except StoreError (Committed (ActivatedConfiguration D)) →
      DaemonProg D (Except ConfigurationError (Committed (ActivatedConfiguration D)))
  | .error e => .ret (.error (.Store e))
  | .ok (.Executed active cursor) =>
    publishSteps .publish active (some compiled) (.Executed active cursor)
  | .ok (.Replayed cursor recordedAt) =>
    .tx (.own .inside) (fun s => (configurationPointer s.db, s)) fun
      | .error e => .ret (.error (.Store e))
      | .ok ⟨none, _⟩ => .ret (.ok (.Replayed cursor recordedAt))
      | .ok ⟨some active, _⟩ =>
        publishSteps .publish active (some compiled) (.Replayed cursor recordedAt)

/-- An activation with a compiled candidate. -/
def activateSteps (command : Command D) (sources : SourceSet)
    (compiled : { c : CompiledConfiguration // c.Sound }) (ambient : Ambient) :
    DaemonProg D (Except ConfigurationError (Committed (ActivatedConfiguration D))) :=
  .tx (.own .enter) (fun s => ((), s)) fun _ =>
    .tx (.own .inside) (fun s => (configurationPointer s.db, s)) fun
      | .error e => .ret (.error (.Store e))
      | .ok pointer =>
        let op := activation command compiled.1 sources.digest pointer.revision
        .tx (.call ambient op)
          (fun s => ((op.answer ambient s.db).1, { s with db := op.apply ambient s.db }))
          (afterActivation compiled)

theorem publish_run (step : AuthorityStep) (active : ActivatedConfiguration D)
    (compiled : Option { c : CompiledConfiguration // c.Sound }) (a : α) :
    (publish step active compiled >>= fun _ => (pure a : DaemonControl _ D α)).run =
      publishSteps step active compiled a := by
  unfold publish publishSteps
  cases Snapshot.new active compiled with
  | ok snapshot => rfl
  | error e => rfl

theorem activate_run (command : Command D) (sources : SourceSet) :
    (activate command sources).run = match candidate sources with
      | .error e => .ret (.error e)
      | .ok compiled => .call .ambient (activateSteps command sources compiled) := by
  unfold activate
  cases candidate sources with
  | error e => rfl
  | ok compiled =>
    refine congrArg (Prog.call FabricPort.ambient) (funext fun ambient => ?_)
    refine congrArg (Prog.tx (SiteLabel.own AuthorityStep.enter) _) (funext fun _ => ?_)
    refine congrArg (Prog.tx (SiteLabel.own AuthorityStep.inside) _) (funext fun pointer => ?_)
    cases pointer with
    | error e => rfl
    | ok pointer =>
      refine congrArg (Prog.tx _ _) (funext fun answer => ?_)
      cases answer with
      | error e => rfl
      | ok committed =>
        cases committed with
        | Executed active cursor => exact publish_run _ _ _ _
        | Replayed cursor recordedAt =>
          refine congrArg (Prog.tx (SiteLabel.own AuthorityStep.inside) _) (funext fun now => ?_)
          rcases now with e | ⟨_ | active, revision⟩
          · rfl
          · rfl
          · exact publish_run _ _ _ _

/-- What a load does after its read. -/
def afterRead (sources : SourceSet) :
    Except StoreError (ConfigurationPointer D) → DaemonProg D (Except ConfigurationError Unit)
  | .error e => .ret (.error (.Store e))
  | .ok ⟨none, _⟩ => publishStep .load none (.ok ())
  | .ok ⟨some active, _⟩ => publishSteps .load active (recovered sources active) ()

theorem load_run (sources : SourceSet) : (load sources : DaemonControl _ D Unit).run =
    .tx .read (fun s => (configurationPointer s.db, s)) (afterRead sources) := by
  refine congrArg (Prog.tx SiteLabel.read _) (funext fun pointer => ?_)
  rcases pointer with e | ⟨_ | active, revision⟩
  · rfl
  · rfl
  · change (publish .load active (recovered sources active)).run = publishSteps _ _ _ _
    unfold publish publishSteps
    cases Snapshot.new active (recovered sources active) with
    | ok snapshot => rfl
    | error e => rfl

end ConfigurationAuthority

/-! ## Two activations -/

namespace ConfigurationAuthority

/-- The transaction of an activation is refused, is answered from the ledger, or stores a revision
    that pairs with its candidate. -/
theorem activation_answer (command : Command D) (sources : SourceSet)
    (compiled : { c : CompiledConfiguration // c.Sound }) (expected : Int) (ambient : Ambient)
    (d : Db D) :
    (∃ e, (activation command compiled.1 sources.digest expected).answer ambient d = (.error e, d)) ∨
    (∃ cursor recordedAt, (activation command compiled.1 sources.digest expected).answer ambient d =
      (.ok (.Replayed cursor recordedAt), d)) ∨
    ∃ active cursor snapshot,
      ((activation command compiled.1 sources.digest expected).answer ambient d).1 =
        .ok (.Executed active cursor) ∧ Snapshot.new active (some compiled) = .ok snapshot := by
  rcases answer_cases (activation command compiled.1 sources.digest expected) ambient d with
    he | ⟨committed, hreplayed, hfresh⟩ | ⟨committed, r, d', hran, hfresh, -⟩
  · exact .inl he
  · cases committed with
    | Executed active cursor => cases hfresh
    | Replayed cursor recordedAt => exact .inr (.inl ⟨cursor, recordedAt, hreplayed⟩)
  · cases committed with
    | Replayed cursor recordedAt => cases hfresh
    | Executed active cursor =>
      have hanswer := congrArg Prod.fst hran
      obtain ⟨snapshot, hnew, -⟩ := Snapshot.new_paired (c := compiled)
        (executed_durable hanswer).1.symm
      exact .inr (.inr ⟨active, cursor, snapshot, hanswer, hnew⟩)

/-- An activation that executes, with nothing in between. -/
theorem activate_does {compiled : { c : CompiledConfiguration // c.Sound }}
    (hcandidate : candidate sources = .ok compiled) {active : Option (ActivatedConfiguration D)}
    {expected : Int} (hpointer : configurationPointer s.db = .ok ⟨active, expected⟩)
    {ambient : Ambient} {value : ActivatedConfiguration D} {cursor : JournalCursor}
    (hanswer : ((activation command compiled.1 sources.digest expected).answer ambient s.db).1 =
      .ok (.Executed value cursor)) :
    ∃ snapshot, snapshot.active = value ∧ snapshot.compiled = some compiled.1 ∧
      (activate command sources).run.Does (fun _ _ s => s) s (.ret (.ok (.Executed value cursor)))
        ⟨(activation command compiled.1 sources.digest expected).apply ambient s.db,
          some snapshot⟩ := by
  obtain ⟨snapshot, hnew, hactive, hsemantics⟩ := Snapshot.new_paired (c := compiled)
    (executed_durable hanswer).1.symm
  refine ⟨snapshot, hactive, hsemantics, ?_⟩
  rw [activate_run, hcandidate]
  refine .call ambient (.tx (.tx ?_))
  dsimp only
  rw [hpointer]
  refine .tx ?_
  dsimp only
  rw [hanswer]
  change (publishSteps .publish value (some compiled) _).Does _ _ _ _
  rw [publishSteps_new hnew]
  exact .tx .refl

end ConfigurationAuthority

namespace Sample

/-- A source with nothing but limits. -/
def plainValue (wide : Bool) : Value := .object [
  ("agents", .arr []),
  ("routing", .object [("policies", .arr [])]),
  ("execution", .object [("profiles", .arr []), ("backends", .arr [])]),
  ("evaluators", .object [("versions", .arr []), ("refs", .arr [])]),
  ("context", .object [("schemaVersion", .integer 1), ("memoryLimitTokens", .integer 1),
    ("workspaceOrientationLimitTokens", .integer 1),
    ("safetyMarginTokens", .integer (if wide then 2 else 1)), ("mandatorySections", .arr []),
    ("preloadPriority", .arr []), ("optionalDropOrder", .arr [])]),
  ("authorization", .object [("schemaVersion", .integer 1), ("rules", .arr [])])]

def plainSources (wide : Bool) : SourceSet :=
  ⟨[⟨"pantheon.json", (plainValue wide).toCanonicalText⟩]⟩

def plain (wide : Bool) : CompiledConfiguration :=
  ⟨⟨[]⟩, ⟨[], [], []⟩, ⟨[], []⟩, ⟨[], []⟩, ⟨1, [], [], 1, 1, if wide then 2 else 1, []⟩, ⟨1, []⟩⟩

theorem plainValue_wf (wide : Bool) : (plainValue wide).Wf := by
  refine Value.wf_object ?_
  simp only [List.forall_mem_cons]
  refine ⟨trivial, Value.wf_object ?_, Value.wf_object ?_, Value.wf_object ?_, Value.wf_object ?_,
    Value.wf_object ?_, by simp⟩
  all_goals
    cases wide <;> simp [Value.Wf, Value.WfValues, IsI64]

theorem plain_compiles (wide : Bool) : (plainSources wide).compile = .ok (plain wide) := by
  change compile _ = _
  rw [compile, parse_toCanonicalText (plainValue_wf wide)]
  cases wide
  · rfl
  · rfl

def plainCommand (id : String) : Command ExactDigest := ⟨generation, id, ⟨[0]⟩, "sample"⟩

def activatePlain (id : String) (wide : Bool) (expected : Int) : StoreOp ExactDigest :=
  activation (plainCommand id) (plain wide) (plainSources wide).digest expected

@[irreducible] def oncePlain : Db ExactDigest :=
  (activatePlain "a" false 1).apply (ambient 'a') exactlyInstalled

@[irreducible] def twicePlain : Db ExactDigest :=
  (activatePlain "b" true 2).apply (ambient 'b') oncePlain

theorem plain_differs : ((plain true).revisionDigest : ExactDigest) ≠ (plain false).revisionDigest := by
  intro h
  obtain ⟨hcomponents, -⟩ := ComponentDigests.revisionDigest_injective exactDigest_collisionless h
  have hwf : ∀ wide, (plain wide).context.toValue.Wf := by
    intro wide
    refine Value.wf_object ?_
    cases wide <;> simp [plain, Value.strings, Value.Wf, Value.WfValues, IsI64]
  have hvalue := digest_injective exactDigest_collisionless (hwf true) (hwf false)
    (congrArg ComponentDigests.contextPolicy hcomponents)
  have hmargin := congrArg (Value.get · "safetyMarginTokens") hvalue
  simp [ContextComponent.toValue, Value.get_object, List.lookup_cons, plain] at hmargin

theorem exactlyInstalled_pointer : configurationPointer exactlyInstalled = .ok ⟨none, 1⟩ := rfl

theorem exactlyInstalled_reachable : Reachable exactlyInstalled :=
  ⟨_, exactlyInstalled_installed, .refl⟩

theorem plain_steps : Run.Steps OfCompiled exactlyInstalled oncePlain ∧
    Run.Steps OfCompiled exactlyInstalled twicePlain := by
  have honce : Run.Steps OfCompiled exactlyInstalled oncePlain := by
    unfold oncePlain
    exact .step .refl (activatePlain "a" false 1) (ambient 'a') ⟨rfl, plain false, rfl⟩
  refine ⟨honce, ?_⟩
  unfold twicePlain
  exact .step honce (activatePlain "b" true 2) (ambient 'b') ⟨rfl, plain true, rfl⟩

theorem oncePlain_reachable : Reachable oncePlain :=
  ⟨_, exactlyInstalled_installed, plain_steps.1.weaken fun _ _ _ => trivial⟩

/-- What the two activations do, one after the other. -/
structure PlainActivated (first second : ActivatedConfiguration ExactDigest)
    (cursor cursor' : JournalCursor) : Prop where
  once : ∃ snapshot, snapshot.active = first ∧ snapshot.compiled = some (plain false) ∧
    (ConfigurationAuthority.activate (plainCommand "a") (plainSources false)).run.Does
      (fun _ _ s => s) ⟨exactlyInstalled, none⟩ (.ret (.ok (.Executed first cursor)))
      ⟨oncePlain, some snapshot⟩
  twice : ∀ own, ∃ snapshot, snapshot.active = second ∧ snapshot.compiled = some (plain true) ∧
    (ConfigurationAuthority.activate (plainCommand "b") (plainSources true)).run.Does
      (fun _ _ s => s) ⟨oncePlain, own⟩ (.ret (.ok (.Executed second cursor')))
      ⟨twicePlain, some snapshot⟩
  read : configurationPointer oncePlain = .ok ⟨some first, 2⟩
  durable : Durable twicePlain second
  content : second.contentDigest = (plain true).revisionDigest
  sequence : first.activationSequence < second.activationSequence

theorem plain_activated : ∃ first second cursor cursor', PlainActivated first second cursor cursor' := by
  have heval : (activatePlain "a" false 1).Fresh (ambient 'a') exactlyInstalled ∧
      (activatePlain "b" true 2).Fresh (ambient 'b') oncePlain ∧
      oncePlain.find .activeConfiguration () = some ⟨2, some 1⟩ ∧
      twicePlain.find .activeConfiguration () = some ⟨3, some 2⟩ := by decide +kernel
  obtain ⟨honce, htwice, hpointer, hpointer'⟩ := heval
  obtain ⟨a, hanswer, hexecuted⟩ := fresh_answered honce
  obtain ⟨a', hanswer', hexecuted'⟩ := fresh_answered htwice
  cases a with
  | Replayed cursor recordedAt => cases hexecuted
  | Executed first cursor =>
    cases a' with
    | Replayed cursor' recordedAt => cases hexecuted'
    | Executed second cursor' =>
      have hfirst : Durable oncePlain first := by
        unfold oncePlain
        exact (executed_durable hanswer).2
      have hsecond : Durable twicePlain second := by
        unfold twicePlain
        exact (executed_durable hanswer').2
      have hread := hfirst.read exactDigest_collisionless
        (steps_configurationSound exactlyInstalled_installed plain_steps.1)
      obtain ⟨hrevision, hsequence⟩ :
          first.pointerRevision = 2 ∧ first.activationSequence = 1 := by
        simpa using hfirst.pointer.symm.trans hpointer
      obtain ⟨-, hsequence'⟩ : second.pointerRevision = 3 ∧ second.activationSequence = 2 := by
        simpa using hsecond.pointer.symm.trans hpointer'
      rw [hrevision] at hread
      refine ⟨first, second, cursor, cursor', ?_, fun own => ?_, hread, hsecond,
        (executed_durable hanswer').1, ?_⟩
      · unfold oncePlain
        exact ConfigurationAuthority.activate_does (s := ⟨exactlyInstalled, none⟩)
          (ConfigurationAuthority.candidate_ok (plain_compiles false)) exactlyInstalled_pointer
          hanswer
      · unfold twicePlain
        exact ConfigurationAuthority.activate_does (s := ⟨oncePlain, own⟩)
          (ConfigurationAuthority.candidate_ok (plain_compiles true)) hread hanswer'
      · rw [hsequence, hsequence']
        decide

end Sample

/-! ## What every step keeps -/

/-- The row that names the active revision is as it was. -/
def PointerKept (s s' : Daemon D) : Prop :=
  s'.db.find .activeConfiguration () = s.db.find .activeConfiguration ()

/-- Stored revisions stay as they are, and both what is durably active and what is published
    move only forward. -/
structure Advances (s s' : Daemon D) : Prop where
  revisions : ∀ n row, s.db.find .configurationRevisions n = some row →
    s'.db.find .configurationRevisions n = some row
  active : ∀ n, activeSequence s.db = some n → ∃ m, activeSequence s'.db = some m ∧ n ≤ m
  own : ∀ p, s.own = some p → ∃ q, s'.own = some q ∧
    p.active.activationSequence ≤ q.active.activationSequence

theorem Advances.refl (s : Daemon D) : Advances s s :=
  ⟨fun _ _ h => h, fun n h => ⟨n, h, le_rfl⟩, fun p h => ⟨p, h, le_rfl⟩⟩

theorem Advances.trans {s'' : Daemon D} (h : Advances s s') (h' : Advances s' s'') :
    Advances s s'' := by
  refine ⟨fun n row hrow => h'.revisions n row (h.revisions n row hrow), fun n hn => ?_,
    fun p hp => ?_⟩
  · obtain ⟨m, hm, hle⟩ := h.active n hn
    obtain ⟨k, hk, hle'⟩ := h'.active m hm
    exact ⟨k, hk, hle.trans hle'⟩
  · obtain ⟨q, hq, hle⟩ := h.own p hp
    obtain ⟨r, hr, hle'⟩ := h'.own q hq
    exact ⟨r, hr, hle.trans hle'⟩

theorem Durable.kept (h : Durable s.db active) (hs : Advances s s') (hp : PointerKept s s') :
    Durable s'.db active := h.of_kept hp hs.revisions

/-- A snapshot of a stored revision that is not ahead of the store. -/
structure Backed (d : Db D) (p : Snapshot D) : Prop where
  revised : Revised d p.active
  behind : ∃ n, activeSequence d = some n ∧ p.active.activationSequence ≤ n

/-- The store is one of its runs, and what is published is backed by it. -/
def Grounded (s : Daemon D) : Prop := Reachable s.db ∧ ∀ p, s.own = some p → Backed s.db p

/-- What is published is the durable active revision. -/
def InStep (s : Daemon D) : Prop := ∀ p, s.own = some p → Durable s.db p.active

/-- Moving the store forward keeps what is published backed. -/
theorem Grounded.advances (h : Grounded s) (hdb : Reachable s'.db) (hown : s'.own = s.own)
    (hs : Advances s s') : Grounded s' := by
  refine ⟨hdb, fun p hp => ?_⟩
  obtain ⟨⟨row, hrow, hcontent, hcomponents⟩, n, hn, hle⟩ := h.2 p (hown ▸ hp)
  obtain ⟨m, hm, hle'⟩ := hs.active n hn
  exact ⟨⟨row, hs.revisions _ _ hrow, hcontent, hcomponents⟩, m, hm, hle.trans hle'⟩

/-- One call of the store. -/
theorem Grounded.call (h : Grounded s) (op : StoreOp D) (ambient : Ambient) :
    Grounded { s with db := op.apply ambient s.db } ∧
      Advances s { s with db := op.apply ambient s.db } := by
  have hadvances : Advances s { s with db := op.apply ambient s.db } :=
    ⟨fun n row hrow => apply_frozen op ambient (i := .configurationRevisions) (by decide) hrow,
      (apply_active (reachable_active h.1)).2, fun p hp => ⟨p, hp, le_rfl⟩⟩
  have hdb : Reachable (op.apply ambient s.db) :=
    h.1.steps (.step .refl op ambient trivial)
  exact ⟨h.advances hdb rfl hadvances, hadvances⟩

/-- Only an activation moves the pointer. -/
theorem pointerKept_call {op : StoreOp D} (hop : op.activates = false) (ambient : Ambient)
    (s : Daemon D) : PointerKept s { s with db := op.apply ambient s.db } :=
  apply_pointer hop ambient s.db

/-- A publication of the durable active revision. -/
theorem Grounded.publishes (h : Grounded s) {p : Snapshot D} (hp : Durable s.db p.active) :
    Grounded { s with own := some p } ∧ Advances s { s with own := some p } := by
  refine ⟨⟨h.1, fun q hq => ?_⟩, fun _ _ hrow => hrow, fun n hn => ⟨n, hn, le_rfl⟩, fun q hq => ?_⟩
  · obtain rfl := Option.some.inj hq
    exact ⟨hp.revised, _, hp.sequence, le_rfl⟩
  · obtain ⟨-, n, hn, hle⟩ := h.2 q hq
    obtain rfl := Option.some.inj (hn.symm.trans hp.sequence)
    exact ⟨p, rfl, hle⟩

/-- Where nothing was ever active, nothing is published. -/
theorem Grounded.unpublished (h : Grounded s) (hnone : activeSequence s.db = none) :
    s.own = none := by
  cases hown : s.own with
  | none => rfl
  | some p =>
    obtain ⟨-, n, hn, -⟩ := h.2 p hown
    cases hnone.symm.trans hn

/-! ## The contract -/

def SiteLabel.activates : SiteLabel D AuthorityStep → Bool
  | .call _ op => op.activates
  | _ => false

def SiteLabel.publishes : SiteLabel D AuthorityStep → Bool
  | .own .publish | .own .load => true
  | _ => false

def SiteLabel.commitsRun : SiteLabel D AuthorityStep → Bool
  | .call _ (.command _ (.commitRunIntent _)) => true
  | _ => false

/-- The actions before which a program rests on the pointer it has read: a holder's, and the
    publication of a load. -/
def restsOnPointer {C : Type → Type} : Action (SiteLabel D AuthorityStep) C → Bool
  | .tx (.own .load) => true
  | a => holdsBarrier a

/-- The contract of routines of the daemon: the pointer is kept for those whose next action is
    guarded. What a transaction that commits a Run keeps besides is left open. -/
def authority (guards : Action (SiteLabel D AuthorityStep) (FabricPort D) → Bool)
    (commits : SiteLabel D AuthorityStep → Daemon D → Daemon D → Prop) {α : Type}
    (post : α → Daemon D → Prop) :
    Contract (Daemon D) (SiteLabel D AuthorityStep) (FabricPort D) α where
  inv := Grounded
  rely a s s' := Advances s s' ∧ (guards a = true → PointerKept s s')
  allow _ _ := True
  answer _ _ _ _ := True
  hear _ _ s := s
  grant l s s' := Advances s s' ∧ (l.activates = false → PointerKept s s') ∧
    (l.publishes = true → InStep s') ∧ (l.commitsRun = true → commits l s s')
  post := post

section Contract

variable {guards : Action (SiteLabel D AuthorityStep) (FabricPort D) → Bool}
  {commits : SiteLabel D AuthorityStep → Daemon D → Daemon D → Prop} {α : Type}
  {post : α → Daemon D → Prop}

theorem authority_lawful : (authority guards commits post).Lawful :=
  ⟨fun _ s => ⟨.refl s, fun _ => rfl⟩,
    fun _ _ _ _ h h' => ⟨h.1.trans h'.1, fun ha => (h'.2 ha).trans (h.2 ha)⟩⟩

/-- A step that only looks. -/
theorem grant_look {l : SiteLabel D AuthorityStep} (hpublishes : l.publishes = false)
    (hcommits : l.commitsRun = false) (s : Daemon D) :
    (authority guards commits post).grant l s s :=
  ⟨.refl s, fun _ => rfl, fun h => (Bool.false_ne_true (hpublishes.symm.trans h)).elim,
    fun h => (Bool.false_ne_true (hcommits.symm.trans h)).elim⟩

/-- A publication of what is durably active. -/
theorem publishSteps_safe
    (hstep : (SiteLabel.own step : SiteLabel D AuthorityStep).publishes = true)
    (hguards : guards (.tx (.own step)) = true)
    {compiled : Option { c : CompiledConfiguration // c.Sound }} {a : α} (h : Durable s.db active) :
    Safe (authority guards commits fun _ _ => True)
      (ConfigurationAuthority.publishSteps step active compiled a) s := by
  unfold ConfigurationAuthority.publishSteps
  split
  · rename_i snapshot hnew
    intro s' hr hi _
    have hdurable : Durable s'.db snapshot.active := by
      rw [Snapshot.new_active hnew]
      exact h.kept hr.1 (hr.2 hguards)
    obtain ⟨hsteady, hadvances⟩ := hi.publishes hdurable
    refine ⟨hsteady, ⟨hadvances, fun _ => rfl, fun _ p hp => ?_, fun hc => ?_⟩, fun _ _ _ => trivial⟩
    · obtain rfl := Option.some.inj hp
      exact hdurable
    · cases step <;> cases hc
  · exact fun _ _ _ => trivial

/-- An activation, from any state. -/
theorem activate_safe (hguards : ∀ a, holdsBarrier a = true → guards a = true)
    (command : Command D) (sources : SourceSet) (s : Daemon D) :
    Safe (authority guards commits fun _ _ => True)
      (ConfigurationAuthority.activate command sources).run s := by
  rw [ConfigurationAuthority.activate_run]
  split
  · exact fun _ _ _ => trivial
  rename_i compiled _
  intro s₁ _ hi₁ ambient _
  refine ⟨hi₁, ?_⟩
  intro s₂ _ hi₂ _
  refine ⟨hi₂, grant_look rfl rfl s₂, ?_⟩
  intro s₃ _ hi₃ _
  refine ⟨hi₃, grant_look rfl rfl s₃, ?_⟩
  dsimp only
  cases configurationPointer s₃.db with
  | error e => exact fun _ _ _ => trivial
  | ok pointer =>
    intro s₄ _ hi₄ _
    obtain ⟨hsteady, hadvances⟩ := hi₄.call
      (activation command compiled.1 sources.digest pointer.revision) ambient
    refine ⟨hsteady, ⟨hadvances, fun h => (by cases h), fun h => (by cases h),
      fun h => (by cases h)⟩, ?_⟩
    dsimp only
    generalize hanswer : ((activation command compiled.1 sources.digest pointer.revision).answer
      ambient s₄.db).1 = answer
    rcases answer with e | committed
    · exact fun _ _ _ => trivial
    cases committed with
    | Executed active cursor =>
      exact publishSteps_safe rfl (hguards _ rfl) (executed_durable hanswer).2
    | Replayed cursor recordedAt =>
      intro s₅ _ hi₅ _
      refine ⟨hi₅, grant_look rfl rfl s₅, ?_⟩
      dsimp only
      rcases hpointer : configurationPointer s₅.db with e | ⟨_ | active, revision⟩
      · exact fun _ _ _ => trivial
      · exact fun _ _ _ => trivial
      · exact publishSteps_safe rfl (hguards _ rfl) ((configurationPointer_ok hpointer).2 _ rfl)

/-- A load, where the pointer is kept for it until it has published. -/
theorem load_safe (hguards : guards (.tx (.own .load)) = true) (sources : SourceSet)
    (s : Daemon D) :
    Safe (authority guards commits fun _ _ => True)
      (ConfigurationAuthority.load sources).run s := by
  rw [ConfigurationAuthority.load_run]
  intro s₁ _ hi₁ _
  refine ⟨hi₁, grant_look rfl rfl s₁, ?_⟩
  dsimp only
  rcases hpointer : configurationPointer s₁.db with e | ⟨_ | active, revision⟩
  · exact fun _ _ _ => trivial
  · intro s₂ hr₂ hi₂ _
    have hnone : activeSequence s₂.db = none := by
      rw [activeSequence, hr₂.2 hguards]
      exact (configurationPointer_ok hpointer).1 rfl
    have hsame : ({ s₂ with own := none } : Daemon D) = s₂ := by
      rw [← hi₂.unpublished hnone]
    have hown : InStep s₂ := fun p hp => by
      rw [hi₂.unpublished hnone] at hp
      cases hp
    dsimp only
    rw [hsame]
    exact ⟨hi₂, ⟨.refl s₂, fun _ => rfl, fun _ => hown, fun h => (by cases h)⟩,
      fun _ _ _ => trivial⟩
  · exact publishSteps_safe rfl hguards ((configurationPointer_ok hpointer).2 _ rfl)

theorem snapshot_safe (s : Daemon D) : Safe (authority guards commits fun _ _ => True)
    ConfigurationAuthority.snapshot s :=
  fun s' _ hi _ => ⟨hi, grant_look rfl rfl s', fun _ _ _ => trivial⟩

end Contract

/-! ## Publication among other calls -/

/-- Calls on one configuration authority, by any number of threads, among calls of the store
    that activate nothing. -/
def authorityMachine : Machine (Daemon D) (SiteLabel D AuthorityStep) (FabricPort D) Unit where
  starts p :=
    (∃ sources, p = (ConfigurationAuthority.load sources).run.discard) ∨
    (∃ command sources, p = (ConfigurationAuthority.activate command sources).run.discard) ∨
    p = ConfigurationAuthority.snapshot.discard
  env s s' := ∃ (op : StoreOp D) (ambient : Ambient), op.activates = false ∧ s' = { s with db := op.apply ambient s.db }
  onCrash := id
  hear _ _ s := s

abbrev DaemonConfig (D : Type) [DecidableEq D] [DigestScheme D] : Type 1 :=
  Config (Daemon D) (SiteLabel D AuthorityStep) (FabricPort D) Unit

abbrev DaemonEvent (D : Type) [DecidableEq D] [DigestScheme D] : Type 1 :=
  Event (Daemon D) (SiteLabel D AuthorityStep) (FabricPort D) Unit

/-- What the lock enforces: a step that needs the barrier waits until no other program is
    inside. No thread dies inside a call; a new process is a new run. -/
def Barrier (_ : DaemonConfig D) : DaemonEvent D → Prop
  | .tx l others => l.needsBarrier = true → ∀ q ∈ others, holdsBarrier q.next = false
  | .crash => False
  | _ => True

/-- No activation commits while a load is between its read and its publication. -/
def LoadUndisturbed (_ : DaemonConfig D) : DaemonEvent D → Prop
  | .tx l others => l.activates = true → ∀ q ∈ others, q.next ≠ .tx (.own .load)
  | _ => True

/-- A new process: nothing is published. -/
def Unpublished (s : Daemon D) : Prop := Reachable s.db ∧ s.own = none

theorem Unpublished.inStep (h : Unpublished s) : InStep s :=
  fun p hp => by cases h.2.symm.trans hp

theorem Unpublished.grounded (h : Unpublished s) : Grounded s :=
  ⟨h.1, fun p hp => by cases h.2.symm.trans hp⟩

omit [DecidableEq D] in
theorem activates_needsBarrier {l : SiteLabel D AuthorityStep} (h : l.activates = true) :
    l.needsBarrier = true := by
  cases l with
  | call ambient op =>
    cases op with
    | command identity mutation => cases mutation <;> first | rfl | cases h
    | write plain => cases h
  | read => cases h
  | own step => cases h

omit [DecidableEq D] in
/-- A program that rests on the pointer is inside the barrier, or is a load. -/
theorem restsOnPointer_cases {C : Type → Type} {a : Action (SiteLabel D AuthorityStep) C}
    (h : restsOnPointer a = true) : a = .tx (.own .load) ∨ holdsBarrier a = true := by
  unfold restsOnPointer at h
  split at h
  · exact .inl rfl
  · exact .inr h

omit [DecidableEq D] in
theorem restsOnPointer_holds {C : Type → Type} (a : Action (SiteLabel D AuthorityStep) C)
    (h : holdsBarrier a = true) : restsOnPointer a = true := by
  unfold restsOnPointer
  split
  · rfl
  · exact h

theorem authority_governs :
    (authority restsOnPointer (fun _ _ _ => True) fun _ _ => True).Governs
      (authorityMachine (D := D)) (fun c e => Barrier c e ∧ LoadUndisturbed c e) Unpublished where
  lawful := authority_lawful
  init s hs := hs.grounded
  spawn c p hi hp _ := by
    rcases hp with ⟨sources, rfl⟩ | ⟨command, sources, rfl⟩ | rfl
    · exact .discard (fun _ => trivial) hi (load_safe rfl sources _)
    · exact .discard (fun _ => trivial) hi (activate_safe restsOnPointer_holds command sources _)
    · exact .discard (fun _ => trivial) hi (snapshot_safe _)
  allow _ _ _ _ := trivial
  share c l others s' hc hgrant q hq := by
    refine ⟨hgrant.1, fun hrests => hgrant.2.1 ?_⟩
    cases hactivates : l.activates with
    | false => rfl
    | true =>
      rcases restsOnPointer_cases hrests with hload | hholds
      · exact absurd hload (hc.2 hactivates q hq)
      · rw [hc.1 (activates_needsBarrier hactivates) q hq] at hholds
        cases hholds
  answer _ _ _ _ _ := trivial
  hear _ _ s := ⟨rfl, fun _ => ⟨.refl s, fun _ => rfl⟩⟩
  env c s' hi henv _ := by
    obtain ⟨op, ambient, hop, rfl⟩ := henv
    obtain ⟨hsteady, hadvances⟩ := hi.call op ambient
    exact ⟨hsteady, fun _ _ => ⟨hadvances, fun _ => pointerKept_call hop ambient _⟩⟩
  crash s hi := ⟨hi, fun _ => ⟨.refl s, fun _ => rfl⟩⟩

/-- A step publishes, or leaves what is published as much in step as it was, or has its own
    publication next. -/
def StaysInStep (l : SiteLabel D AuthorityStep) (s s' : Daemon D)
    (next : Action (SiteLabel D AuthorityStep) (FabricPort D)) : Prop :=
  l.publishes = true ∨ (InStep s → InStep s') ∨ next = .tx (.own .publish)

theorem publishSteps_follows
    (hstep : (SiteLabel.own step : SiteLabel D AuthorityStep).publishes = true)
    (active : ActivatedConfiguration D) (compiled : Option { c : CompiledConfiguration // c.Sound })
    (a : α) :
    (ConfigurationAuthority.publishSteps step active compiled a).Follows StaysInStep := by
  unfold ConfigurationAuthority.publishSteps
  split
  · exact fun s => ⟨.inl hstep, trivial⟩
  · trivial

/-- A committed activation has its publication next; a refused or replayed one changes
    nothing. -/
theorem activation_staysInStep (command : Command D) (sources : SourceSet)
    (compiled : { c : CompiledConfiguration // c.Sound }) (expected : Int) (ambient : Ambient)
    (s : Daemon D) :
    StaysInStep (.call ambient (activation command compiled.1 sources.digest expected)) s
      { s with db := (activation command compiled.1 sources.digest expected).apply ambient s.db }
      (ConfigurationAuthority.afterActivation compiled ((activation command compiled.1
        sources.digest expected).answer ambient s.db).1).next := by
  rcases ConfigurationAuthority.activation_answer command sources compiled expected ambient s.db with
    ⟨e, he⟩ | ⟨cursor, recordedAt, hreplayed⟩ | ⟨active, cursor, snapshot, hanswer, hnew⟩
  · refine .inr (.inl ?_)
    rw [StoreOp.apply, StoreOp.exec, he]
    exact id
  · refine .inr (.inl ?_)
    rw [StoreOp.apply, StoreOp.exec, hreplayed]
    exact id
  · refine .inr (.inr ?_)
    rw [hanswer]
    change (ConfigurationAuthority.publishSteps .publish active (some compiled) _).next = _
    rw [ConfigurationAuthority.publishSteps_new hnew]
    rfl

theorem activate_follows (command : Command D) (sources : SourceSet) :
    (ConfigurationAuthority.activate command sources).run.Follows StaysInStep := by
  rw [ConfigurationAuthority.activate_run]
  split
  · trivial
  rename_i compiled _
  refine fun ambient s₁ => ⟨.inr (.inl id), fun s₂ => ⟨.inr (.inl id), ?_⟩⟩
  dsimp only
  cases configurationPointer s₂.db with
  | error e => trivial
  | ok pointer =>
    refine fun s₃ => ⟨activation_staysInStep command sources compiled _ ambient s₃, ?_⟩
    dsimp only
    rcases ((activation command compiled.1 sources.digest pointer.revision).answer
      ambient s₃.db).1 with e | committed
    · trivial
    cases committed with
    | Executed active cursor => exact publishSteps_follows rfl _ _ _
    | Replayed cursor recordedAt =>
      refine fun s₄ => ⟨.inr (.inl id), ?_⟩
      dsimp only
      rcases configurationPointer s₄.db with e | ⟨_ | active, revision⟩
      · trivial
      · trivial
      · exact publishSteps_follows rfl _ _ _

theorem load_follows (sources : SourceSet) :
    (ConfigurationAuthority.load sources : DaemonControl _ D Unit).run.Follows StaysInStep := by
  rw [ConfigurationAuthority.load_run]
  refine fun s => ⟨.inr (.inl id), ?_⟩
  dsimp only
  rcases configurationPointer s.db with e | ⟨_ | active, revision⟩
  · trivial
  · exact fun s' => ⟨.inl rfl, trivial⟩
  · exact publishSteps_follows rfl _ _ _

theorem authority_follows {p : DaemonProg D Unit} (h : authorityMachine.starts p) :
    p.Follows StaysInStep := by
  rcases h with ⟨sources, rfl⟩ | ⟨command, sources, rfl⟩ | rfl
  · exact (load_follows sources).discard
  · exact (activate_follows command sources).discard
  · exact fun s => ⟨.inr (.inl id), trivial⟩

/-- What is published is in step, or its replacement is the next step of a program inside the
    barrier. -/
theorem reach_inStep {c : DaemonConfig D}
    (h : Reach authorityMachine (fun c e => Barrier c e ∧ LoadUndisturbed c e) Unpublished c) :
    InStep c.shared ∨ ∃ q ∈ c.pool, q.next = .tx (.own .publish) := by
  induction h with
  | start hs => exact .inl hs.inStep
  | step hreach hs hc ih =>
    cases hs with
    | spawn p hp =>
      refine ih.imp id fun ⟨q, hq, hnext⟩ => ⟨q, List.mem_cons_of_mem _ hq, hnext⟩
    | @tx s past ps qs l _ t k =>
      have hgrant := reach_grant authority_governs hreach (.tx l t k) hc
      have hfollows := (reach_follows (fun p hp => authority_follows hp) hreach (.tx l t k)
        (by simp) s).1
      rcases hfollows with hpublishes | hkeeps | hnext
      · exact .inl (hgrant.2.2.1 hpublishes)
      · rcases ih with hstep | ⟨q, hq, hnext⟩
        · exact .inl (hkeeps hstep)
        · simp only [List.mem_append, List.mem_cons] at hq ⊢
          rcases hq with hq | rfl | hq
          · exact .inr ⟨q, .inl hq, hnext⟩
          · -- the program that steps is the one that was about to publish
            obtain rfl : l = .own .publish := by simpa [Prog.next] using hnext
            exact .inl (hgrant.2.2.1 rfl)
          · exact .inr ⟨q, .inr (.inr hq), hnext⟩
      · exact .inr ⟨_, by simp, hnext⟩
    | @call s past ps qs _ x k b =>
      refine ih.imp id fun ⟨q, hq, hnext⟩ => ?_
      simp only [List.mem_append, List.mem_cons] at hq ⊢
      rcases hq with hq | rfl | hq
      · exact ⟨q, .inl hq, hnext⟩
      · cases hnext
      · exact ⟨q, .inr (.inr hq), hnext⟩
    | finish a =>
      refine ih.imp id fun ⟨q, hq, hnext⟩ => ?_
      simp only [List.mem_append, List.mem_cons] at hq ⊢
      rcases hq with hq | rfl | hq
      · exact ⟨q, .inl hq, hnext⟩
      · cases hnext
      · exact ⟨q, .inr hq, hnext⟩
    | crash p => exact hc.1.elim
    | env s' hs' =>
      obtain ⟨op, ambient, hop, rfl⟩ := hs'
      refine ih.imp (fun hstep p hp => ?_) id
      obtain ⟨hsteady, hadvances⟩ := (reach_safe authority_governs hreach).1.call op ambient
      exact (hstep p hp).kept hadvances (pointerKept_call hop ambient _)

/-- Under every interleaving of loads, activations and snapshots in which no activation commits
    between the read and the publication of a load: whenever no program is inside the barrier,
    what is published is the durable active revision, with semantics of its content digest. -/
theorem published_in_step {c : DaemonConfig D}
    (h : Reach authorityMachine (fun c e => Barrier c e ∧ LoadUndisturbed c e) Unpublished c)
    (hfree : ∀ q ∈ c.pool, holdsBarrier q.next = false) {p : Snapshot D}
    (hp : c.shared.own = some p) :
    Durable c.shared.db p.active ∧
      ∀ compiled, p.compiled = some compiled →
        compiled.revisionDigest = p.active.contentDigest := by
  refine ⟨?_, p.paired⟩
  rcases reach_inStep h with hstep | ⟨q, hq, hnext⟩
  · exact hstep p hp
  · have hholds := hfree q hq
    rw [hnext] at hholds
    cases hholds

theorem published_in_step_once : ∃ (c : DaemonConfig ExactDigest) (p : Snapshot ExactDigest),
    c.shared.own = some p ∧ Durable c.shared.db p.active := by
  obtain ⟨first, second, cursor, cursor', hplain⟩ := Sample.plain_activated
  obtain ⟨snapshot, -, -, hdoes⟩ := hplain.once
  have hstart : Reach authorityMachine (fun c e => Barrier c e ∧ LoadUndisturbed c e) Unpublished
      ⟨⟨Sample.exactlyInstalled, none⟩, [], []⟩ := .start ⟨Sample.exactlyInstalled_reachable, rfl⟩
  have hspawned := hstart.step (.spawn _ (.inr (.inl
    ⟨Sample.plainCommand "a", Sample.plainSources false, rfl⟩))) ⟨trivial, trivial⟩
  obtain ⟨past, -, hended⟩ := Reach.does_among [] [] hspawned (hdoes.bind _)
    (fun _ _ => ⟨fun _ q hq => by simp at hq, fun _ q hq => by simp at hq⟩)
    (fun _ _ _ _ => ⟨trivial, trivial⟩)
  refine ⟨_, snapshot, rfl, (published_in_step hended (fun q hq => ?_) rfl).1⟩
  obtain rfl := List.mem_singleton.mp hq
  rfl

/-- A load that read the pointer before an activation publishes after it: what is published is
    older than what is durably active, with nobody inside the barrier. -/
theorem load_publishes_older : ∃ (c : DaemonConfig ExactDigest) (p : Snapshot ExactDigest)
    (active : ActivatedConfiguration ExactDigest),
    Reach authorityMachine Barrier Unpublished c ∧
      (∀ q ∈ c.pool, holdsBarrier q.next = false) ∧ c.shared.own = some p ∧
      Durable c.shared.db active ∧ p.active.activationSequence < active.activationSequence := by
  obtain ⟨first, second, cursor, cursor', hplain⟩ := Sample.plain_activated
  have hstart : Reach authorityMachine Barrier Unpublished ⟨⟨Sample.oncePlain, none⟩, [], []⟩ :=
    .start ⟨Sample.oncePlain_reachable, rfl⟩
  -- the load has read the pointer, and is about to publish
  have hloading := hstart.step (.spawn _ (.inl ⟨⟨[]⟩, rfl⟩)) trivial
  rw [ConfigurationAuthority.load_run] at hloading
  have hloaded := hloading.step (@Step.tx _ _ _ _ _ _ _ [] [] _ _ _ _) fun h => by cases h
  change Reach _ _ _ ⟨⟨Sample.oncePlain, none⟩, _, [(ConfigurationAuthority.afterRead ⟨[]⟩
    (configurationPointer Sample.oncePlain)).discard]⟩ at hloaded
  rw [hplain.read] at hloaded
  -- an activation runs as a whole
  obtain ⟨snapshot, -, -, hdoes⟩ := hplain.twice none
  have hspawned := hloaded.step (.spawn _ (.inr (.inl
    ⟨Sample.plainCommand "b", Sample.plainSources true, rfl⟩))) trivial
  obtain ⟨past, -, hactivated⟩ := Reach.does_among [] _ hspawned (hdoes.bind _)
    (fun _ _ _ q hq => by
      obtain rfl := List.mem_singleton.mp hq
      rfl)
    (fun _ _ _ _ => trivial)
  -- the load publishes what it had read
  have hpublished := hactivated.step (@Step.tx _ _ _ _ _ _ _ [_] [] _ _ _ _) fun _ q hq => by
    obtain rfl := List.mem_singleton.mp hq
    rfl
  refine ⟨_, _, second, hpublished, fun q hq => ?_, rfl, hplain.durable, hplain.sequence⟩
  simp only [List.cons_append, List.nil_append, List.mem_cons, List.not_mem_nil, or_false] at hq
  rcases hq with rfl | rfl <;> rfl

/-! ## Retried activations -/

namespace ConfigurationAuthority

/-- A call that runs with nothing else in between. -/
def Completes {α : Type} (p : DaemonProg D α) (s : Daemon D) (a : α) (s' : Daemon D) : Prop :=
  Site.Runs (fun _ _ _ _ => True) p s a s'

theorem completes_publishSteps {compiled : Option { c : CompiledConfiguration // c.Sound }} {a : α}
    {r : Except ConfigurationError α} :
    Completes (publishSteps step active compiled a) s r s' ↔
      match Snapshot.new active compiled with
      | .ok snapshot => r = .ok a ∧ s' = { s with own := some snapshot }
      | .error e => r = .error e ∧ s' = s := by
  unfold publishSteps
  cases Snapshot.new active compiled with
  | ok snapshot => exact Iff.trans runs_tx runs_ret
  | error e => exact runs_ret

/-- What an undisturbed activation came to. -/
inductive Outcome (command : Command D) (sources : SourceSet) (s : Daemon D) :
    Except ConfigurationError (Committed (ActivatedConfiguration D)) → Daemon D → Prop
  | failed (e) : Outcome command sources s (.error e) s
  | executed (compiled snapshot ambient expected active cursor)
    (hcandidate : candidate sources = .ok compiled)
    (hanswer : ((activation command compiled.1 sources.digest expected).answer ambient s.db).1 =
      .ok (.Executed active cursor))
    (hnew : Snapshot.new active (some compiled) = .ok snapshot) :
    Outcome command sources s (.ok (.Executed active cursor))
      ⟨(activation command compiled.1 sources.digest expected).apply ambient s.db, some snapshot⟩
  | replayed (compiled ambient expected cursor recordedAt own)
    (hcandidate : candidate sources = .ok compiled)
    (hanswer : ((activation command compiled.1 sources.digest expected).answer ambient s.db) =
      (.ok (.Replayed cursor recordedAt), s.db))
    (hown : own = s.own ∨ ∃ active snapshot, Durable s.db active ∧
      Snapshot.new active (some compiled) = .ok snapshot ∧ own = some snapshot) :
    Outcome command sources s (.ok (.Replayed cursor recordedAt)) ⟨s.db, own⟩

theorem activate_completes (h : Completes (activate command sources).run s r s') :
    Outcome command sources s r s' := by
  rw [activate_run] at h
  split at h
  · obtain ⟨rfl, rfl⟩ := runs_ret.mp h
    exact .failed _
  rename_i compiled hcandidate
  obtain ⟨ambient, -, h⟩ := runs_call.mp h
  have h := runs_tx.mp (runs_tx.mp h)
  dsimp only at h
  rcases hpointer : configurationPointer s.db with e | pointer
  · rw [hpointer] at h
    obtain ⟨rfl, rfl⟩ := runs_ret.mp h
    exact .failed _
  rw [hpointer] at h
  have h := runs_tx.mp h
  dsimp only at h
  rcases activation_answer command sources compiled pointer.revision ambient s.db with
    ⟨e, he⟩ | ⟨cursor, recordedAt, hreplayed⟩ | ⟨active, cursor, snapshot, hanswer, hnew⟩
  · rw [StoreOp.apply, StoreOp.exec, he] at h
    obtain ⟨rfl, rfl⟩ := runs_ret.mp h
    exact .failed _
  · rw [StoreOp.apply, StoreOp.exec, hreplayed] at h
    have h := runs_tx.mp h
    dsimp only at h
    rw [hpointer] at h
    rcases pointer with ⟨_ | active, revision⟩
    · obtain ⟨rfl, rfl⟩ := runs_ret.mp h
      exact .replayed compiled ambient _ cursor recordedAt _ hcandidate hreplayed (.inl rfl)
    · have h := completes_publishSteps.mp h
      cases hnew : Snapshot.new active (some compiled) with
      | error e =>
        rw [hnew] at h
        obtain ⟨rfl, rfl⟩ := h
        exact .failed _
      | ok snapshot =>
        rw [hnew] at h
        obtain ⟨rfl, rfl⟩ := h
        exact .replayed compiled ambient _ cursor recordedAt _ hcandidate hreplayed
          (.inr ⟨active, snapshot, (configurationPointer_ok hpointer).2 _ rfl, hnew, rfl⟩)
  · rw [hanswer] at h
    have h := completes_publishSteps.mp h
    rw [hnew] at h
    obtain ⟨rfl, rfl⟩ := h
    exact .executed compiled snapshot ambient _ active cursor hcandidate hanswer hnew

theorem Outcome.keeps (hin : InStep s) (h : Outcome command sources s r s') : InStep s' := by
  cases h with
  | failed e => exact hin
  | executed compiled snapshot ambient expected active cursor hcandidate hanswer hnew =>
    intro p hp
    obtain rfl := Option.some.inj hp
    rw [Snapshot.new_active hnew]
    exact (executed_durable hanswer).2
  | replayed compiled ambient expected cursor recordedAt own hcandidate hanswer hown =>
    rcases hown with rfl | ⟨active, snapshot, hactive, hnew, rfl⟩
    · exact hin
    · intro p hp
      obtain rfl := Option.some.inj hp
      rw [Snapshot.new_active hnew]
      exact hactive

theorem Outcome.recalls (h : Outcome command sources s r s') {k : String × String}
    {row : CommandRow D} (hrow : Recalls k row s.db) : Recalls k row s'.db := by
  cases h with
  | failed e => exact hrow
  | executed => exact hrow.apply _ _
  | replayed => exact hrow

/-- A successful activation is in the ledger. -/
theorem Outcome.remembered {committed : Committed (ActivatedConfiguration D)}
    (h : Outcome command sources s (.ok committed) s') :
    ∃ row, Recalls (command.epoch, command.id) row s'.db ∧
      row.requestHash = command.requestHash ∧
      committed.cursor = ⟨row.journalEpoch, row.sequence⟩ := by
  cases h with
  | executed compiled snapshot ambient expected active cursor hcandidate hanswer hnew =>
    exact command_recalls hanswer
  | replayed compiled ambient expected cursor recordedAt own hcandidate hanswer hown =>
    have hsame : (activation command compiled.1 sources.digest expected).apply ambient s.db =
        s.db := congrArg Prod.snd hanswer
    have hknown := command_recalls (congrArg Prod.fst hanswer)
    change (∃ row, Recalls _ row ((activation command compiled.1 sources.digest expected).apply
      ambient s.db) ∧ _) at hknown
    rwa [hsame] at hknown

/-- An activation under a command that the ledger knows: it is answered from there, and
    republishes its sources under the active revision where the two agree. -/
theorem activate_known {row : CommandRow D} (hrow : Recalls (command.epoch, command.id) row s.db)
    (hhash : row.requestHash = command.requestHash)
    {compiled : { c : CompiledConfiguration // c.Sound }}
    (hcandidate : candidate sources = .ok compiled) {revision : Int}
    (hpointer : configurationPointer s.db = .ok ⟨some active, revision⟩)
    (r : Except ConfigurationError (Committed (ActivatedConfiguration D))) (s' : Daemon D) :
    Completes (activate command sources).run s r s' ↔
      match Snapshot.new active (some compiled) with
      | .ok snapshot => r = .ok (.Replayed ⟨row.journalEpoch, row.sequence⟩ row.recordedAt) ∧
          s' = { s with own := some snapshot }
      | .error e => r = .error e ∧ s' = s := by
  have hrest : ∀ ambient, (activation command compiled.1 sources.digest revision).answer ambient
      s.db = (.ok (.Replayed ⟨row.journalEpoch, row.sequence⟩ row.recordedAt), s.db) :=
    hrow.replays hhash _
  have hsteps : ∀ ambient, Completes (activateSteps command sources compiled ambient) s r s' ↔
      Completes (publishSteps .publish active (some compiled)
        (.Replayed ⟨row.journalEpoch, row.sequence⟩ row.recordedAt)) s r s' := by
    intro ambient
    refine Iff.trans runs_tx (Iff.trans runs_tx ?_)
    dsimp only
    rw [hpointer]
    refine Iff.trans runs_tx ?_
    dsimp only
    rw [StoreOp.apply, StoreOp.exec, hrest]
    refine Iff.trans runs_tx ?_
    dsimp only
    rw [hpointer]
    rfl
  rw [activate_run, hcandidate, ← completes_publishSteps]
  refine Iff.trans runs_call ⟨?_, ?_⟩
  · rintro ⟨ambient, -, h⟩
    exact (hsteps ambient).mp h
  · exact fun h => ⟨⟨0, 0, "", ""⟩, trivial, (hsteps _).mpr h⟩

/-- Activations one after the other, with any answers. -/
inductive Activations (s : Daemon D) : Daemon D → Prop
  | refl : Activations s s
  | step {s' s'' : Daemon D} (before : Activations s s') (command : Command D)
    (sources : SourceSet) (r : Except ConfigurationError (Committed (ActivatedConfiguration D)))
    (h : Completes (activate command sources).run s' r s'') : Activations s s''

/-- Activations keep what is published in step with the store, and forget no command. -/
theorem Activations.keeps (h : Activations s s') :
    (InStep s → InStep s') ∧
      ∀ k row, Recalls k row s.db → Recalls k row s'.db := by
  induction h with
  | refl => exact ⟨id, fun _ _ hrow => hrow⟩
  | step _ command sources r hrun ih =>
    have houtcome := activate_completes hrun
    exact ⟨fun hin => houtcome.keeps (ih.1 hin),
      fun k row hrow => houtcome.recalls (ih.2 k row hrow)⟩

/-- In every sequence of activations: retrying a successful one, while the published semantics
    are those its sources compile to and the store can read its pointer, answers with the cursor
    of that command as replayed, and leaves the store and what is published as they are. -/
theorem activation_retried {s₀ s₁ s₂ : Daemon D} (hin : InStep s₀) {command : Command D}
    {sources : SourceSet} {committed : Committed (ActivatedConfiguration D)}
    (hfirst : Completes (activate command sources).run s₀ (.ok committed) s₁)
    (hlater : Activations s₁ s₂) {published : Snapshot D} (hpublished : s₂.own = some published)
    {compiled : CompiledConfiguration} (hcompiled : sources.compile = .ok compiled)
    (hsame : published.compiled = some compiled)
    (hreadable : ∃ pointer, configurationPointer s₂.db = .ok pointer) :
    ∃ recordedAt, ∀ r s₃, Completes (activate command sources).run s₂ r s₃ ↔
      r = .ok (.Replayed committed.cursor recordedAt) ∧ s₃ = s₂ := by
  have houtcome := activate_completes hfirst
  have hdurable := hlater.keeps.1 (houtcome.keeps hin) published hpublished
  obtain ⟨row, hrow, hhash, hcursor⟩ := houtcome.remembered
  have hknown := hlater.keeps.2 _ _ hrow
  obtain ⟨⟨active, revision⟩, hpointer⟩ := hreadable
  obtain ⟨hnone, hsome⟩ := configurationPointer_ok hpointer
  cases active with
  | none => cases (hnone rfl).symm.trans hdurable.sequence
  | some active =>
    obtain rfl := (hsome active rfl).unique hdurable
    obtain ⟨snapshot, hnew, hactive, hsemantics⟩ := Snapshot.new_paired
      (c := ⟨compiled, sources.compile_sound hcompiled⟩) (published.paired compiled hsame)
    have hsnapshot : snapshot = published := Snapshot.ext hactive (hsemantics.trans hsame.symm)
    have hunchanged : ({ s₂ with own := some published } : Daemon D) = s₂ := by
      rw [← hpublished]
    refine ⟨row.recordedAt, fun r s₃ => ?_⟩
    rw [activate_known hknown hhash (candidate_ok hcompiled) hpointer, hnew, hcursor, hsnapshot]
    dsimp only
    rw [hunchanged]

theorem activation_retried_at_once : ∃ (s : Daemon ExactDigest)
    (committed : Committed (ActivatedConfiguration ExactDigest)) (recordedAt : Int),
    ∀ r s', Completes (activate (Sample.plainCommand "a") (Sample.plainSources false)).run s r s' ↔
      r = .ok (.Replayed committed.cursor recordedAt) ∧ s' = s := by
  obtain ⟨first, second, cursor, cursor', hplain⟩ := Sample.plain_activated
  obtain ⟨snapshot, -, hsemantics, hdoes⟩ := hplain.once
  have hstart : Unpublished (⟨Sample.exactlyInstalled, none⟩ : Daemon ExactDigest) :=
    ⟨Sample.exactlyInstalled_reachable, rfl⟩
  exact ⟨_, _, activation_retried hstart.inStep hdoes.runs .refl rfl (Sample.plain_compiles false)
    hsemantics ⟨_, hplain.read⟩⟩

/-- After a later, different activation the retry of the first one fails. -/
theorem activation_retry_refused : ∃ (s₀ s₁ s₂ : Daemon ExactDigest)
    (committed : Committed (ActivatedConfiguration ExactDigest)) (detail : String),
    Unpublished s₀ ∧
      Completes (activate (Sample.plainCommand "a") (Sample.plainSources false)).run s₀
        (.ok committed) s₁ ∧
      Activations s₁ s₂ ∧
      ∀ r s₃, Completes (activate (Sample.plainCommand "a") (Sample.plainSources false)).run s₂ r
        s₃ ↔ r = .error (.Unavailable detail) ∧ s₃ = s₂ := by
  obtain ⟨first, second, cursor, cursor', hplain⟩ := Sample.plain_activated
  obtain ⟨snapshot, -, -, hdoes⟩ := hplain.once
  obtain ⟨snapshot', -, -, hdoes'⟩ := hplain.twice (some snapshot)
  have hlater : Activations _ _ := .step .refl _ _ _ hdoes'.runs
  obtain ⟨row, hrow, hhash, -⟩ := (activate_completes hdoes.runs).remembered
  have hread := hplain.durable.read exactDigest_collisionless
    (steps_configurationSound Sample.exactlyInstalled_installed Sample.plain_steps.2)
  have hdiffers : (Sample.plain false).revisionDigest ≠ second.contentDigest := by
    rw [hplain.content]
    exact Sample.plain_differs.symm
  have hretry := activate_known (hlater.keeps.2 _ _ hrow) hhash
    (candidate_ok (Sample.plain_compiles false)) hread
  simp only [Snapshot.new, dif_neg hdiffers] at hretry
  exact ⟨_, _, _, _, _, ⟨Sample.exactlyInstalled_reachable, rfl⟩, hdoes.runs, hlater, hretry⟩

end ConfigurationAuthority

end Pantheon

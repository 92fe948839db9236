/-
  The active configuration over the life of a store.
  Only an activation moves the pointer, to a sequence above every stored one
  (`writeActivation_commits`, `apply_pointer`), and the revision the pointer names is
  stored (`reachable_active`). `Durable` is the active revision with its whole identity;
  `configurationPointer_ok` says that a successful read of the pointer answers it, and
  `activation_read_back` that every activation of a compiled configuration can be read.
-/
import Pantheon.Store.Frozen

namespace Pantheon

open Relational

variable {D : Type} [DecidableEq D]

/-- The sequence of the active revision. -/
def activeSequence (d : Db D) : Option Int :=
  (d.find .activeConfiguration ()).bind (·.activationSequence)

/-- A revision is stored as it was activated. -/
def Revised (d : Db D) (active : ActivatedConfiguration D) : Prop :=
  ∃ row, d.find .configurationRevisions active.activationSequence = some row ∧
    row.contentDigest = active.contentDigest ∧ row.components = active.components

theorem activeSequence_congr {d d' : Db D}
    (h : d'.table .activeConfiguration = d.table .activeConfiguration) :
    activeSequence d' = activeSequence d := by
  rw [activeSequence, State.find_congr h, activeSequence]

theorem lt_nextActivationSequence {d : Db D} {sequence : Int} {row : ConfigurationRevision D}
    (h : d.find .configurationRevisions sequence = some row) :
    sequence < nextActivationSequence d := by
  have hfold : ∀ (rows : List (Int × ConfigurationRevision D)) (top : Int),
      top ≤ rows.foldl (fun top p => max top p.1) top ∧
        ∀ p ∈ rows, p.1 ≤ rows.foldl (fun top p => max top p.1) top := by
    intro rows
    induction rows with
    | nil => simp
    | cons q rows ih =>
      intro top
      obtain ⟨htop, hrows⟩ := ih (max top q.1)
      refine ⟨(le_max_left _ _).trans htop, fun p hp => ?_⟩
      rcases List.mem_cons.mp hp with rfl | hp
      · exact (le_max_right _ _).trans htop
      · exact hrows p hp
  have hle := (hfold (d.rows .configurationRevisions) 0).2 _ (State.mem_rows.mpr h)
  exact Int.lt_add_one_of_le hle

/-- A committed activation: its revision is new and stored, and it is the active one. -/
structure Activated [DigestScheme D] (compiled : CompiledComponents D) (compilerVersion : String)
    (sourceSetDigest : D) (d d' : Db D) (active : ActivatedConfiguration D) : Prop where
  sequence : active.activationSequence = nextActivationSequence d
  content : active.contentDigest = compiled.digests.revisionDigest compilerVersion
  components : active.components = compiled.digests
  source : active.sourceSetDigest = sourceSetDigest
  stored : ∀ k, d'.find .configurationRevisions k = if active.activationSequence = k then
    some ⟨active.contentDigest, compilerVersion, sourceSetDigest, active.components⟩
    else d.find .configurationRevisions k
  pointer : d'.find .activeConfiguration () =
    some ⟨active.pointerRevision, some active.activationSequence⟩

/-- Storing components keeps the stored ones and leaves every given one stored. -/
theorem storeComponents_commits {records : List (ComponentDomain × D × String)} {u : Unit}
    {d d' : Db D}
    (h : (Writer.forEach (fun record : ComponentDomain × D × String =>
      insertIfAbsent .configurationComponents record.2.1 ⟨record.1, record.2.2⟩) records :
        Write D activationAccess Unit).Commits d u d') :
    (∀ i, i ≠ .configurationComponents → d'.table i = d.table i) ∧
    (∀ k row, d'.find .configurationComponents k = some row →
      d.find .configurationComponents k = some row ∨ (row.domain, k, row.canonicalJson) ∈ records) ∧
    ∀ k, (d.find .configurationComponents k ≠ none ∨ ∃ r ∈ records, r.2.1 = k) →
      d'.find .configurationComponents k ≠ none := by
  induction records generalizing d with
  | nil =>
    obtain ⟨-, rfl⟩ := Writer.commits_pure.mp h
    exact ⟨fun _ _ => rfl, fun _ _ hrow => .inl hrow, fun k hk => by simpa using hk⟩
  | cons r records ih =>
    obtain ⟨d₁, hother, hafter, hrest⟩ := insertIfAbsent_then h
    obtain ⟨hframe, hfrom, hstored⟩ := ih hrest
    refine ⟨fun i hi => (hframe i hi).trans (hother i hi), fun k row hrow => ?_, fun k hk => ?_⟩
    · rcases hfrom k row hrow with hmid | hnew
      · rw [hafter] at hmid
        split at hmid
        · rename_i hkey
          subst hkey
          cases hold : d.find .configurationComponents r.2.1 with
          | some old =>
            rw [hold] at hmid
            exact .inl hmid
          | none =>
            rw [hold] at hmid
            obtain rfl := Option.some.inj hmid
            exact .inr List.mem_cons_self
        · exact .inl hmid
      · exact .inr (List.mem_cons_of_mem _ hnew)
    · refine hstored k ?_
      rw [hafter]
      split
      · exact .inl (by simp)
      · rename_i hkey
        rcases hk with hold | ⟨s, hs, rfl⟩
        · exact .inl hold
        · rcases List.mem_cons.mp hs with rfl | hs
          · exact absurd rfl hkey
          · exact .inr ⟨s, hs, rfl⟩

theorem writeActivation_commits [DigestScheme D] {compiled : CompiledComponents D}
    {compilerVersion : String} {sourceSetDigest : D} {expected : Int}
    {active : ActivatedConfiguration D} {d d' : Db D}
    (h : (writeActivation compiled compilerVersion sourceSetDigest expected).Commits d active d') :
    Activated compiled compilerVersion sourceSetDigest d d' active ∧
    (∀ k row, d'.find .configurationComponents k = some row →
      d.find .configurationComponents k = some row ∨
        (row.domain, k, row.canonicalJson) ∈ compiled.records) ∧
    ∀ k, (d.find .configurationComponents k ≠ none ∨ ∃ r ∈ compiled.records, r.2.1 = k) →
      d'.find .configurationComponents k ≠ none := by
  obtain ⟨_, d₁, hcomponents, h₁⟩ := Writer.commits_bind.mp h
  obtain ⟨hframe, hfrom, hstored⟩ := storeComponents_commits hcomponents
  have h₂ := Writer.read_then h₁
  obtain ⟨d₂, hinsert, h₃⟩ := insert_then h₂
  obtain ⟨d₃, old, hupdate, h₄⟩ := update_then h₃
  obtain ⟨rfl, rfl⟩ := Writer.commits_pure.mp h₄
  obtain ⟨-, -, -, -, -, hrevisions, hother⟩ := State.insert_ok hinsert
  have hnext : nextActivationSequence d₁ = nextActivationSequence d := by
    rw [nextActivationSequence, State.rows, hframe _ (by decide)]
    rfl
  have hsame := State.find_congr ((hupdate.others .configurationComponents (by decide)).trans
    (hother .configurationComponents (by decide)))
  refine ⟨⟨hnext, rfl, rfl, rfl, fun k => ?_, (hupdate.after ()).trans (if_pos rfl)⟩,
    fun k row hrow => hfrom k row ((hsame k).symm.trans hrow),
    fun k hk => (hsame k).trans_ne (hstored k hk)⟩
  rw [State.find_congr (hupdate.others .configurationRevisions (by decide)), hrevisions,
    State.find_congr (hframe .configurationRevisions (by decide))]

variable [DigestScheme D]

/-! ## The durable active revision -/

/-- The store names this as its active revision. -/
structure Durable (d : Db D) (active : ActivatedConfiguration D) : Prop where
  pointer : d.find .activeConfiguration () =
    some ⟨active.pointerRevision, some active.activationSequence⟩
  revision : ∃ version, d.find .configurationRevisions active.activationSequence =
    some ⟨active.contentDigest, version, active.sourceSetDigest, active.components⟩

namespace Durable

variable {d d' : Db D} {active other : ActivatedConfiguration D}

omit [DigestScheme D] in
theorem sequence (h : Durable d active) : activeSequence d = some active.activationSequence := by
  rw [activeSequence, h.pointer]
  rfl

omit [DigestScheme D] in
theorem revised (h : Durable d active) : Revised d active := by
  obtain ⟨version, hrow⟩ := h.revision
  exact ⟨_, hrow, rfl, rfl⟩

omit [DigestScheme D] in
/-- There is one active revision. -/
theorem unique (h : Durable d active) (h' : Durable d other) : active = other := by
  obtain ⟨hrevision, hsequence⟩ : active.pointerRevision = other.pointerRevision ∧
      active.activationSequence = other.activationSequence := by
    simpa using h.pointer.symm.trans h'.pointer
  obtain ⟨version, hrow⟩ := h.revision
  obtain ⟨version', hrow'⟩ := h'.revision
  rw [hsequence, hrow'] at hrow
  obtain ⟨hcontent, -, hsource, hcomponents⟩ :
      other.contentDigest = active.contentDigest ∧ version' = version ∧
        other.sourceSetDigest = active.sourceSetDigest ∧ other.components = active.components := by
    simpa using hrow
  cases active
  cases other
  simp_all

omit [DigestScheme D] in
theorem of_kept (h : Durable d active)
    (hpointer : d'.find .activeConfiguration () = d.find .activeConfiguration ())
    (hrevisions : ∀ n row, d.find .configurationRevisions n = some row →
      d'.find .configurationRevisions n = some row) : Durable d' active := by
  obtain ⟨version, hrow⟩ := h.revision
  exact ⟨hpointer.trans h.pointer, version, hrevisions _ _ hrow⟩

end Durable

theorem Activated.durable {compiled : CompiledComponents D} {compilerVersion : String}
    {sourceSetDigest : D} {d d' : Db D} {active : ActivatedConfiguration D}
    (h : Activated compiled compilerVersion sourceSetDigest d d' active) : Durable d' active := by
  refine ⟨h.pointer, compilerVersion, ?_⟩
  rw [h.stored, if_pos rfl, h.source]

/-! ## Activations in a run -/

/-- The operations that move the pointer. -/
def StoreOp.activates : StoreOp D → Bool
  | .command _ (.activateConfiguration _ _ _ _) => true
  | _ => false

/-- A step leaves the tables of the configuration, or it is an activation that commits. -/
theorem apply_configuration (op : StoreOp D) (ambient : Ambient) (d : Db D) :
    (∀ i ∈ [TableName.activeConfiguration, .configurationComponents, .configurationRevisions],
      (op.apply ambient d).table i = d.table i) ∨
    ∃ identity compiled version source expected active d₁,
      op = .command identity (.activateConfiguration compiled version source expected) ∧
      (writeActivation compiled version source expected).Commits d active d₁ ∧
      ∀ i, i ∉ ledgerTables → (op.apply ambient d).table i = d₁.table i := by
  rcases apply_cases op ambient d with hsame | ⟨r, hran⟩
  · exact .inl fun i _ => by rw [hsame]
  have hkept (h : [TableName.activeConfiguration, .configurationComponents,
      .configurationRevisions].all (fun i => !op.body.touches i) = true) :
      ∀ i ∈ [TableName.activeConfiguration, .configurationComponents, .configurationRevisions],
        (op.apply ambient d).table i = d.table i := fun i hi =>
    hran.same i (by revert i; decide) (by simpa using List.all_eq_true.mp h i hi)
  cases op with
  | write plain => cases plain <;> exact .inl (hkept rfl)
  | command identity mutation =>
    cases mutation with
    | activateConfiguration compiled version source expected =>
      obtain ⟨d₁, hc, hframe⟩ := hran.commits
      exact .inr ⟨_, _, _, _, _, _, d₁, rfl, hc, hframe⟩
    | _ => exact .inl (hkept rfl)

theorem apply_pointer {op : StoreOp D} (hop : op.activates = false) (ambient : Ambient)
    (d : Db D) :
    (op.apply ambient d).find .activeConfiguration () = d.find .activeConfiguration () := by
  rcases apply_configuration op ambient d with hsame | ⟨_, _, _, _, _, _, _, rfl, -⟩
  · exact State.find_congr (hsame .activeConfiguration (by decide)) ()
  · cases hop

/-- The pointer names a stored revision, and an operation moves it only forward. -/
theorem apply_active {op : StoreOp D} {ambient : Ambient} {d : Db D}
    (h : ∀ n, activeSequence d = some n → ∃ row, d.find .configurationRevisions n = some row) :
    (∀ n, activeSequence (op.apply ambient d) = some n →
      ∃ row, (op.apply ambient d).find .configurationRevisions n = some row) ∧
    ∀ n, activeSequence d = some n →
      ∃ m, activeSequence (op.apply ambient d) = some m ∧ n ≤ m := by
  rcases apply_configuration op ambient d with hsame | ⟨_, _, _, _, _, active, d₁, rfl, hc, hframe⟩
  · have hsequence := activeSequence_congr (hsame .activeConfiguration (by decide))
    refine ⟨fun n hn => ?_, fun n hn => ⟨n, hsequence.trans hn, le_rfl⟩⟩
    rw [State.find_congr (hsame .configurationRevisions (by decide))]
    exact h n (hsequence.symm.trans hn)
  · obtain ⟨hactivated, -⟩ := writeActivation_commits hc
    have hactive := (activeSequence_congr (hframe .activeConfiguration (by decide))).trans
      hactivated.durable.sequence
    refine ⟨fun n hn => ?_, fun n hn => ⟨_, hactive, ?_⟩⟩
    · obtain rfl := Option.some.inj (hactive.symm.trans hn)
      obtain ⟨version, hrow⟩ := hactivated.durable.revision
      exact ⟨_, (State.find_congr (hframe .configurationRevisions (by decide)) _).trans hrow⟩
    · obtain ⟨row, hrow⟩ := h n hn
      rw [hactivated.sequence]
      exact (lt_nextActivationSequence hrow).le

theorem reachable_active {d : Db D} (h : Reachable d) :
    ∀ n, activeSequence d = some n → ∃ row, d.find .configurationRevisions n = some row := by
  obtain ⟨d₀, hinstalled, hrun⟩ := h
  refine hrun.invariant (P := fun e => ∀ n, activeSequence e = some n →
    ∃ row, e.find .configurationRevisions n = some row) (fun n hn => ?_)
    fun e op ambient he _ => (apply_active he).1
  rw [activeSequence, hinstalled.bootstrapped.1] at hn
  cases hn

/-- An executed activation made its revision the active one. -/
theorem executed_durable {identity : Command D} {compiled : CompiledComponents D}
    {compilerVersion : String} {sourceSetDigest : D} {expected : Int} {ambient : Ambient}
    {d : Db D} {active : ActivatedConfiguration D} {cursor : JournalCursor}
    (h : (StoreOp.answer ambient d (.command identity
      (.activateConfiguration compiled compilerVersion sourceSetDigest expected))).1 =
        .ok (.Executed active cursor)) :
    active.contentDigest = compiled.digests.revisionDigest compilerVersion ∧
      Durable ((StoreOp.command identity (.activateConfiguration compiled compilerVersion
        sourceSetDigest expected)).apply ambient d) active := by
  obtain ⟨d₁, hc, hframe⟩ := command_ran h
  obtain ⟨hactivated, -⟩ := writeActivation_commits hc
  refine ⟨hactivated.content, hactivated.durable.of_kept ?_ fun n row hrow => ?_⟩
  · exact State.find_congr (hframe .activeConfiguration (by decide)) ()
  · exact (State.find_congr (hframe .configurationRevisions (by decide)) n).trans hrow

theorem readRevisionRow_ok {sequence pointerRevision : Int} {d : Db D}
    {active : ActivatedConfiguration D}
    (h : readRevisionRow sequence pointerRevision d = .ok active) :
    ∃ row, d.find .configurationRevisions sequence = some row ∧
      active = ⟨sequence, row.contentDigest, row.components, row.sourceSetDigest,
        pointerRevision⟩ := by
  unfold readRevisionRow at h
  split at h
  · cases h
  · rename_i row hrow
    obtain ⟨_, -, h⟩ := bind_ok h
    obtain ⟨_, -, h⟩ := bind_ok h
    obtain ⟨_, -, h⟩ := bind_ok h
    obtain ⟨_, -, h⟩ := bind_ok h
    obtain ⟨_, -, h⟩ := bind_ok h
    obtain ⟨_, -, h⟩ := bind_ok h
    obtain ⟨_, -, h⟩ := bind_ok h
    exact ⟨row, hrow, (Except.ok.inj h).symm⟩

/-- A successful read of the pointer. -/
theorem configurationPointer_ok {d : Db D} {pointer : ConfigurationPointer D}
    (h : configurationPointer d = .ok pointer) :
    (pointer.active = none → activeSequence d = none) ∧
      ∀ active, pointer.active = some active → Durable d active := by
  unfold configurationPointer at h
  split at h
  · cases h
  · rename_i row hrow
    split at h
    · rename_i hnone
      obtain rfl := Except.ok.inj h
      exact ⟨fun _ => by rw [activeSequence, hrow, Option.bind_some, hnone], by simp⟩
    · rename_i sequence hsequence
      obtain ⟨active, hactive, h⟩ := bind_ok h
      obtain rfl := Except.ok.inj h
      obtain ⟨revision, hrevision, rfl⟩ := readRevisionRow_ok hactive
      refine ⟨by simp, fun active hsame => ?_⟩
      obtain rfl := Option.some.inj hsame
      obtain ⟨pointerRevision, _⟩ := row
      obtain rfl : _ = some sequence := hsequence
      exact ⟨hrow, revision.compilerVersion, hrevision⟩

/-! ## Reading an activation back -/

/-- Activations are of compiled configurations. -/
def OfCompiled (_ : Db D) : StoreOp D → Prop
  | .command _ (.activateConfiguration compiled version _ _) => version = compilerVersion ∧
    ∃ c : CompiledConfiguration, compiled = ⟨c.componentRecords, c.componentDigests⟩
  | _ => True

/-- A stored component is one of a compiled configuration. -/
def IsComponent (digest : D) (row : ConfigurationComponent) : Prop :=
  ∃ c : CompiledConfiguration, (row.domain, digest, row.canonicalJson) ∈ c.componentRecords

/-- Every stored component is one of a compiled configuration, and every stored revision is
    one whose components are all stored. -/
structure ConfigurationSound (d : Db D) : Prop where
  component : ∀ digest row, d.find .configurationComponents digest = some row →
    IsComponent digest row
  revision : ∀ n row, d.find .configurationRevisions n = some row → ∃ c : CompiledConfiguration,
    row.contentDigest = c.revisionDigest ∧ row.components = c.componentDigests ∧
      row.compilerVersion = compilerVersion ∧
      ∀ r ∈ (c.componentRecords : List (ComponentDomain × D × String)),
        d.find .configurationComponents r.2.1 ≠ none

theorem ConfigurationSound.of_congr {d d' : Db D} (h : ConfigurationSound d)
    (hc : d'.table .configurationComponents = d.table .configurationComponents)
    (hr : d'.table .configurationRevisions = d.table .configurationRevisions) :
    ConfigurationSound d' := by
  refine ⟨fun digest row hrow => ?_, fun n row hrow => ?_⟩
  · exact h.component digest row (by rwa [State.find_congr hc] at hrow)
  · obtain ⟨c, hcontent, hdigests, hversion, hstored⟩ :=
      h.revision n row (by rwa [State.find_congr hr] at hrow)
    exact ⟨c, hcontent, hdigests, hversion, fun r hmem => by
      rw [State.find_congr hc]
      exact hstored r hmem⟩

theorem apply_configurationSound {op : StoreOp D} {ambient : Ambient} {d : Db D}
    (h : ConfigurationSound d) (hop : OfCompiled d op) :
    ConfigurationSound (op.apply ambient d) := by
  rcases apply_configuration op ambient d with hsame | ⟨_, _, _, _, _, active, d₁, rfl, hc, hframe⟩
  · exact h.of_congr (hsame _ (by decide)) (hsame _ (by decide))
  obtain ⟨rfl, c, rfl⟩ := hop
  obtain ⟨hactivated, hfrom, hstored⟩ := writeActivation_commits hc
  suffices hsound : ConfigurationSound d₁ from
    hsound.of_congr (hframe _ (by decide)) (hframe _ (by decide))
  refine ⟨fun digest row hrow => ?_, fun n row hrow => ?_⟩
  · rcases hfrom digest row hrow with hold | hnew
    · exact h.component digest row hold
    · exact ⟨c, hnew⟩
  · rw [hactivated.stored] at hrow
    split at hrow
    · obtain rfl := Option.some.inj hrow
      exact ⟨c, hactivated.content, hactivated.components, rfl,
        fun r hr => hstored _ (.inr ⟨r, hr, rfl⟩)⟩
    · obtain ⟨c', hcontent, hdigests, hversion, hold⟩ := h.revision n row hrow
      exact ⟨c', hcontent, hdigests, hversion, fun r hr => hstored _ (.inl (hold r hr))⟩

theorem steps_configurationSound {d₀ d : Db D} (h₀ : Installed d₀)
    (hrun : Run.Steps OfCompiled d₀ d) : ConfigurationSound d := by
  refine hrun.invariant ⟨fun digest row hrow => ?_, fun n row hrow => ?_⟩
    fun e op ambient he hop => apply_configurationSound he hop
  · rw [h₀.find_none (by decide)] at hrow
    cases hrow
  · rw [h₀.find_none (by decide)] at hrow
    cases hrow

/-- A stored component passes the check for the domain it belongs to. -/
theorem verifyComponent_ok (hD : Collisionless D) {d : Db D} (h : ConfigurationSound d)
    {c : CompiledConfiguration} {r : ComponentDomain × D × String}
    (hr : r ∈ c.componentRecords) (hstored : d.find .configurationComponents r.2.1 ≠ none) :
    verifyComponent r.2.1 r.1 d = .ok () := by
  obtain ⟨row, hrow⟩ := Option.ne_none_iff_exists'.mp hstored
  obtain ⟨c', hc'⟩ := h.component _ _ hrow
  obtain ⟨hdigest, -⟩ := CompiledConfiguration.componentRecords_text hr
  obtain ⟨hdigest', -⟩ := CompiledConfiguration.componentRecords_text hc'
  have htext : row.canonicalJson = r.2.2 := utf8_injective (hD (hdigest'.trans hdigest.symm))
  have hdomain : row.domain = r.1 := CompiledConfiguration.componentRecords_domain hc' hr htext
  simp only [verifyComponent, hrow]
  rw [refuseIf, if_neg (by simpa using hdomain), refuseIf, if_neg (by simpa using hdigest')]
  rfl

/-- A stored revision can be read, with the identity it was stored under. -/
theorem readRevisionRow_sound (hD : Collisionless D) {d : Db D} (h : ConfigurationSound d)
    {n pointerRevision : Int} {row : ConfigurationRevision D}
    (hrow : d.find .configurationRevisions n = some row) :
    readRevisionRow n pointerRevision d =
      .ok ⟨n, row.contentDigest, row.components, row.sourceSetDigest, pointerRevision⟩ := by
  obtain ⟨c, hcontent, hdigests, hversion, hstored⟩ := h.revision n row hrow
  have hverified : ∀ r ∈ (c.componentRecords : List (ComponentDomain × D × String)),
      verifyComponent r.2.1 r.1 d = .ok () := fun r hr => verifyComponent_ok hD h hr (hstored r hr)
  simp only [CompiledConfiguration.componentRecords, CompiledConfiguration.record,
    List.forall_mem_cons] at hverified
  obtain ⟨hagents, hrouting, hexecution, hevaluators, hcontext, hauthorization, -⟩ := hverified
  simp only [readRevisionRow, hrow]
  rw [refuseIf, if_neg (by rw [hdigests, hversion, hcontent]; exact not_not.mpr rfl), hdigests]
  simp only [CompiledConfiguration.componentDigests, hagents, hrouting, hexecution, hevaluators,
    hcontext, hauthorization]
  rfl

theorem configurationPointer_sound (hD : Collisionless D) {d : Db D} (h : ConfigurationSound d)
    {pointerRevision n : Int} {row : ConfigurationRevision D}
    (hpointer : d.find .activeConfiguration () = some ⟨pointerRevision, some n⟩)
    (hrow : d.find .configurationRevisions n = some row) :
    configurationPointer d = .ok ⟨some ⟨n, row.contentDigest, row.components,
      row.sourceSetDigest, pointerRevision⟩, pointerRevision⟩ := by
  simp only [configurationPointer, hpointer, readRevisionRow_sound hD h hrow]
  rfl

namespace Sample

/-- An installation with digests that have no collisions. -/
def exactlyInstalled : Db ExactDigest :=
  ((bootstrap generation journalEpoch : Write ExactDigest bootstrapAccess Unit).transact
    discardedFailure (State.empty (schema ExactDigest))).2

theorem exactlyInstalled_installed : Installed exactlyInstalled := by
  have hok : ((bootstrap generation journalEpoch : Write ExactDigest bootstrapAccess Unit).transact
      discardedFailure (State.empty (schema ExactDigest))).1 = .ok () := by decide +kernel
  exact ⟨generation, journalEpoch, Writer.transact_ok.mp (Prod.ext hok rfl)⟩

/-- A configuration with an agent of the given guidance. -/
def guided (soul : String) : CompiledConfiguration :=
  ⟨⟨[⟨"a", 1, true, true, ["code"], ["c"], "r", [], 0, "p", [], [], soul, "b"⟩]⟩,
    ⟨[⟨"r", 0, [], "agentId", false⟩], [], []⟩, ⟨[profile], [⟨"x", true, "s"⟩]⟩, ⟨[], []⟩,
    contextPolicy, ⟨1, []⟩⟩

def activateGuided (id soul : String) (expected : Int) : StoreOp ExactDigest :=
  .command ⟨generation, id, ⟨[0]⟩, "sample"⟩ (.activateConfiguration
    ⟨(guided soul).componentRecords, (guided soul).componentDigests⟩ compilerVersion ⟨[7]⟩ expected)

def onceGuided : Db ExactDigest := (activateGuided "a" "s" 1).apply (ambient 'a') exactlyInstalled

/-- The same content again: every component is shared with the first revision. -/
def reactivated : StoreOp ExactDigest := activateGuided "b" "s" 2

end Sample

/-- The active revision can be read. -/
theorem Durable.read (hD : Collisionless D) {d : Db D} (h : ConfigurationSound d)
    {active : ActivatedConfiguration D} (hactive : Durable d active) :
    configurationPointer d = .ok ⟨some active, active.pointerRevision⟩ := by
  obtain ⟨version, hrow⟩ := hactive.revision
  exact configurationPointer_sound hD h hactive.pointer hrow

/-- In every run of activations of compiled configurations: an activation that executes is read
    back by the pointer exactly as it was answered, above every earlier sequence; one that was
    refused or replayed leaves what the pointer answers. -/
theorem activation_read_back (hD : Collisionless D) {d₀ d : Db D} (h₀ : Installed d₀)
    (hrun : Run.Steps OfCompiled d₀ d) (c : CompiledConfiguration) (identity : Command D)
    (sourceSetDigest : D) (expected : Int) (ambient : Ambient) :
    let op : StoreOp D := .command identity (.activateConfiguration
      ⟨c.componentRecords, c.componentDigests⟩ compilerVersion sourceSetDigest expected)
    (∀ (active : ActivatedConfiguration D) cursor,
      (op.answer ambient d).1 = .ok (.Executed active cursor) →
      configurationPointer (op.apply ambient d) = .ok ⟨some active, active.pointerRevision⟩ ∧
        active.contentDigest = c.revisionDigest ∧ active.components = c.componentDigests ∧
        active.sourceSetDigest = sourceSetDigest ∧
        ∀ n row, d.find .configurationRevisions n = some row → n < active.activationSequence) ∧
    ((∀ (active : ActivatedConfiguration D) cursor,
      (op.answer ambient d).1 ≠ .ok (.Executed active cursor)) →
      configurationPointer (op.apply ambient d) = configurationPointer d) := by
  intro op
  refine ⟨fun active cursor hanswer => ?_, fun hrefused => ?_⟩
  · obtain ⟨d₁, hc, hframe⟩ := command_ran hanswer
    obtain ⟨hactivated, -⟩ := writeActivation_commits hc
    have hsound : ConfigurationSound (op.apply ambient d) :=
      apply_configurationSound (steps_configurationSound h₀ hrun) ⟨rfl, c, rfl⟩
    have hpointer := (State.find_congr (hframe .activeConfiguration (by decide)) ()).trans
      hactivated.pointer
    have hrevision := (State.find_congr (hframe .configurationRevisions (by decide)) _).trans
      ((hactivated.stored active.activationSequence).trans (if_pos rfl))
    refine ⟨?_, hactivated.content, hactivated.components, hactivated.source, fun n row hrow => ?_⟩
    · rw [configurationPointer_sound hD hsound hpointer hrevision, ← hactivated.source]
    · rw [hactivated.sequence]
      exact lt_nextActivationSequence hrow
  · rcases answer_cases op ambient d with ⟨e, he⟩ | ⟨a, ha, -⟩ | ⟨a, r, d', ha, hfresh, -⟩
    · rw [StoreOp.apply, StoreOp.exec, he]
    · rw [StoreOp.apply, StoreOp.exec, ha]
    · cases a with
      | Executed active cursor => exact absurd (congrArg Prod.fst ha) (hrefused active cursor)
      | Replayed cursor recordedAt => cases hfresh

theorem activation_read_back_repeated :
    ∃ active : ActivatedConfiguration ExactDigest,
      configurationPointer (Sample.reactivated.apply (Sample.ambient 'b') Sample.onceGuided) =
        .ok ⟨some active, active.pointerRevision⟩ ∧
      active.contentDigest = (Sample.guided "s").revisionDigest ∧
      ∀ n row, Sample.onceGuided.find .configurationRevisions n = some row →
        n < active.activationSequence := by
  have hrun : Run.Steps OfCompiled Sample.exactlyInstalled Sample.onceGuided :=
    .step .refl (Sample.activateGuided "a" "s" 1) (Sample.ambient 'a') ⟨rfl, Sample.guided "s", rfl⟩
  have hfresh : Sample.reactivated.Fresh (Sample.ambient 'b') Sample.onceGuided := by
    decide +kernel
  obtain ⟨a, hanswer, hexecuted⟩ := fresh_answered hfresh
  cases a with
  | Executed active cursor =>
    obtain ⟨hback, hcontent, -, -, habove⟩ := (activation_read_back exactDigest_collisionless
      Sample.exactlyInstalled_installed hrun (Sample.guided "s") _ _ _ _).1 active cursor hanswer
    exact ⟨active, hback, hcontent, habove⟩
  | Replayed cursor recordedAt => cases hexecuted

end Pantheon

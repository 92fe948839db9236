/-
  Configuration publication (`pantheon-engine/src/configuration.rs`).
  The process keeps one published snapshot behind a barrier: `activate` holds it from before
  its transaction until the snapshot is replaced, and every reader takes it for a moment. Who
  is inside the barrier is read off the programs in flight (`holdsBarrier`): a program is
  inside when its next step is one that only a holder takes. A `Snapshot` cannot pair one
  revision's identity with another's semantics.
-/
import Pantheon.Config.Declared
import Pantheon.Engine.Site
import Pantheon.Execution.Routing

namespace Pantheon

open Interleave Routine

variable {D : Type} [DecidableEq D] [DigestScheme D]

/-! ## Sources -/

structure SourceFile where
  name : String
  text : String
  deriving Repr, DecidableEq

structure SourceSet where
  files : List SourceFile
  deriving Repr, DecidableEq

/-- `source_set_digest` of the files. -/
def SourceSet.digest (sources : SourceSet) : D :=
  (Value.arr ((sources.files.insertionSort fun a b => a.name ≤ b.name).map fun file =>
    Value.object [
      ("name", .str file.name),
      ("contentDigest", .str (toDisplay (DigestScheme.ofBytes (utf8 file.text) : D)))])).digest

/-- `SourceSet::compile`. -/
def SourceSet.compile (sources : SourceSet) : Compiles CompiledConfiguration :=
  match sources.files with
  | [] => .error (.MissingField "sources")
  | primary :: _ => Pantheon.compile primary.text

theorem SourceSet.compile_sound {sources : SourceSet} {c : CompiledConfiguration}
    (h : sources.compile = .ok c) : c.Sound := by
  unfold SourceSet.compile at h
  split at h
  · cases h
  · exact Pantheon.compile_sound h

/-! ## Snapshots -/

inductive ConfigurationError where
  | Invalid (error : ConfigError)
  | Store (error : StoreError)
  | Unavailable (detail : String)
  deriving Repr, DecidableEq

/-- A published revision: its identity, and its semantics where they are known. -/
structure Snapshot (D : Type) [DigestScheme D] where
  active : ActivatedConfiguration D
  compiled : Option CompiledConfiguration
  paired : ∀ c, compiled = some c → c.revisionDigest = active.contentDigest
  compiledSound : ∀ c, compiled = some c → c.Sound

omit [DecidableEq D] in
theorem Snapshot.ext {s s' : Snapshot D} (hactive : s.active = s'.active)
    (hcompiled : s.compiled = s'.compiled) : s = s' := by
  cases s
  cases s'
  cases hactive
  cases hcompiled
  rfl

/-- `Snapshot::new`. Only compilation makes a `CompiledConfiguration`, so every one is sound. -/
def Snapshot.new (active : ActivatedConfiguration D)
    (compiled : Option { c : CompiledConfiguration // c.Sound }) :
    Except ConfigurationError (Snapshot D) :=
  match compiled with
  | none => .ok ⟨active, none, by simp, by simp⟩
  | some c =>
    if h : c.1.revisionDigest = active.contentDigest then
      .ok ⟨active, some c.1, fun _ hc => Option.some.inj hc ▸ h,
        fun _ hc => Option.some.inj hc ▸ c.2⟩
    else .error (.Unavailable s!"refusing to publish semantics for {toDisplay (c.1.revisionDigest : D)} under revision {toDisplay active.contentDigest} identity")

/-- The configuration a decision under this snapshot is bound to. -/
def Snapshot.binding (s : Snapshot D) : ConfigurationBinding D :=
  ⟨s.active.activationSequence, s.active.contentDigest, s.active.components⟩

/-! ## Steps -/

/-- Steps on the published snapshot: entering the barrier, a step inside it, the publication
    that ends it, and the moment in it that a reader or a load takes. -/
inductive AuthorityStep where
  | enter
  | inside
  | publish
  | snapshot
  | load
  deriving Repr, DecidableEq

/-- Calls out of the scheduling side of the daemon. A backend is named by its place among the
    ports the daemon was composed with; a failed offer answers with the text of its failure. -/
inductive FabricPort (D : Type) : Type → Type where
  | ambient : FabricPort D Ambient
  | describe (backend : Nat) : FabricPort D BackendDescriptor
  | offer (backend : Nat) (request : ExecutionRequest D) :
    FabricPort D (Except String (List (ExecutionOffer D)))

instance : Surrounded (FabricPort D) := ⟨.ambient⟩

/-- The store with the published snapshot. -/
abbrev Daemon (D : Type) [DecidableEq D] [DigestScheme D] : Type := Site D (Option (Snapshot D))

abbrev DaemonRoutine (D : Type) [DecidableEq D] [DigestScheme D] : Type → Type 1 :=
  Routine D (Option (Snapshot D)) AuthorityStep (FabricPort D)

abbrev DaemonControl (ε D : Type) [DecidableEq D] [DigestScheme D] : Type → Type 1 :=
  Fallible ε D (Option (Snapshot D)) AuthorityStep (FabricPort D)

/-- The activation transaction of a compiled configuration. -/
def activation (command : Command D) (compiled : CompiledConfiguration) (sourceSetDigest : D)
    (expected : Int) : StoreOp D :=
  .command command (.activateConfiguration ⟨compiled.componentRecords, compiled.componentDigests⟩
    compilerVersion sourceSetDigest expected)

namespace ConfigurationAuthority

/-- The published snapshot, or why there is none. -/
def current : Option (Snapshot D) → Except ConfigurationError (Snapshot D)
  | some s => .ok s
  | none => .error (.Unavailable "no configuration has been published; the daemon is not ready")

/-- `ConfigurationAuthority::snapshot`. -/
def snapshot : DaemonRoutine D (Except ConfigurationError (Snapshot D)) :=
  ownStep .snapshot fun published => (current published, published)

/-- A read of the pointer by the holder of the barrier. -/
def pointerInside : DaemonRoutine D (Except StoreError (ConfigurationPointer D)) :=
  Prog.atomically (.own .inside) fun s => (configurationPointer s.db, s)

/-- Replaces the snapshot, unless the pair is refused. -/
def publish (step : AuthorityStep) (active : ActivatedConfiguration D)
    (compiled : Option { c : CompiledConfiguration // c.Sound }) :
    DaemonControl ConfigurationError D Unit := do
  let snapshot ← Routine.ofExcept (Snapshot.new active compiled)
  always (ownStep step fun _ => ((), some snapshot))

/-- The candidate of a source set. -/
def candidate (sources : SourceSet) :
    Except ConfigurationError { c : CompiledConfiguration // c.Sound } :=
  match h : sources.compile with
  | .ok c => .ok ⟨c, sources.compile_sound h⟩
  | .error e => .error (.Invalid e)

theorem candidate_ok {sources : SourceSet} {c : CompiledConfiguration}
    (h : sources.compile = .ok c) : candidate sources = .ok ⟨c, sources.compile_sound h⟩ := by
  unfold candidate
  split
  · rename_i c' h'
    obtain rfl := Except.ok.inj (h'.symm.trans h)
    rfl
  · rename_i e h'
    cases h'.symm.trans h

/-- What is published after an activation: the revision it made, or for a replay the revision
    the store now names. -/
def activated (committed : Committed (ActivatedConfiguration D)) :
    DaemonControl ConfigurationError D (Option (ActivatedConfiguration D)) :=
  match committed with
  | .Executed value _ => pure (some value)
  | .Replayed _ _ => do
    let pointer ← tryAs .Store pointerInside
    return pointer.active

/-- `ConfigurationAuthority::activate`. What its transaction draws from outside is asked for
    before the barrier is taken. -/
def activate (command : Command D) (sources : SourceSet) :
    DaemonControl ConfigurationError D (Committed (ActivatedConfiguration D)) := do
  let compiled ← Routine.ofExcept (candidate sources)
  let ambient ← always (Prog.ask .ambient)
  always (ownStep .enter fun published => ((), published))
  let pointer ← tryAs .Store pointerInside
  let committed : Committed (ActivatedConfiguration D) ← tryAs .Store
    (performWith ambient (activation command compiled.1 sources.digest pointer.revision))
  match ← activated committed with
  | none => return committed
  | some active =>
    publish .publish active (some compiled)
    return committed

/-- The compiled semantics of the active revision, when the sources still compile to it. -/
def recovered (sources : SourceSet) (active : ActivatedConfiguration D) :
    Option { c : CompiledConfiguration // c.Sound } :=
  match candidate sources with
  | .ok c => if c.1.revisionDigest = active.contentDigest then some c else none
  | .error _ => none

/-- `ConfigurationAuthority::load`, which runs at startup. It reads the pointer before it takes
    the barrier; its answer is what is published. -/
def load (sources : SourceSet) : DaemonControl ConfigurationError D Unit := do
  let pointer ← tryAs .Store (Routine.readStore configurationPointer)
  match pointer.active with
  | none => always (ownStep .load fun _ => ((), none))
  | some active => publish .load active (recovered sources active)

end ConfigurationAuthority

/-! ## The barrier -/

/-- Steps that only a holder of the barrier takes. -/
def SiteLabel.insideBarrier : SiteLabel D AuthorityStep → Bool
  | .own .inside | .own .publish => true
  | .call _ (.command _ (.activateConfiguration _ _ _ _)) => true
  | _ => false

/-- Steps that need the barrier to be free, or their own. -/
def SiteLabel.needsBarrier : SiteLabel D AuthorityStep → Bool
  | .own _ => true
  | l => l.insideBarrier

/-- A program whose next action this is holds the barrier. -/
def holdsBarrier {C : Type → Type} : Action (SiteLabel D AuthorityStep) C → Bool
  | .tx l => l.insideBarrier
  | _ => false

end Pantheon

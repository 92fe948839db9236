/-
  The closed vocabularies of execution: phases and observations of Runs, Attempts, Workspaces
  and Sandboxes (`pantheon-core/src/attempt.rs`, `workspace.rs`, `sandbox.rs`, `scheduling.rs`,
  and the column checks of `pantheon-store/src/migrations.rs`).
  `asStr` is the stored and displayed spelling; only vocabularies whose spelling reaches a
  message or a document have one.
-/
import Pantheon.Config.Decode

namespace Pantheon

/-- The phases of a Run, as the `run_status` check lists them. -/
inductive RunPhase where
  | Active
  | Finalizing
  | Completed
  | Failed
  | Cancelled
  | Yielded
  deriving Repr, DecidableEq

namespace RunPhase

def asStr : RunPhase → String
  | .Active => "Active"
  | .Finalizing => "Finalizing"
  | .Completed => "Completed"
  | .Failed => "Failed"
  | .Cancelled => "Cancelled"
  | .Yielded => "Yielded"

/-- The phases that hold the execution slot. -/
def isNonterminal : RunPhase → Bool
  | .Active | .Finalizing => true
  | _ => false

end RunPhase

/-- What a backend says about one execution. -/
inductive Observation where
  | Absent
  | Starting
  | Running
  | Exited
  | Unknown
  deriving Repr, DecidableEq

inductive LaunchContactState where
  | NotContacted
  | ContactMayHaveOccurred
  deriving Repr, DecidableEq

inductive SessionState where
  | ACTIVE
  | REVOKED
  deriving Repr, DecidableEq

def SessionState.asStr : SessionState → String
  | .ACTIVE => "ACTIVE"
  | .REVOKED => "REVOKED"

inductive DispatchMode where
  | Running
  | Paused
  deriving Repr, DecidableEq

inductive PlanningState where
  | Planned
  | Materialized
  deriving Repr, DecidableEq

/-- Operations of the agent-control protocol that keep a durable outcome. -/
inductive AgentOperation where
  | ArtifactSeal
  | TaskSubmitResult
  deriving Repr, DecidableEq

inductive AgentRequestState where
  | Started
  | Succeeded
  | Failed
  deriving Repr, DecidableEq

inductive WorkspacePhase where
  | Requested
  | Materializing
  | Ready
  | Frozen
  | Releasing
  | Released
  | Error
  deriving Repr, DecidableEq

namespace WorkspacePhase

def asStr : WorkspacePhase → String
  | .Requested => "Requested"
  | .Materializing => "Materializing"
  | .Ready => "Ready"
  | .Frozen => "Frozen"
  | .Releasing => "Releasing"
  | .Released => "Released"
  | .Error => "Error"

/-- `WorkspacePhase::has_been_mutable`. -/
def hasBeenMutable : WorkspacePhase → Bool
  | .Ready | .Frozen | .Releasing | .Released => true
  | _ => false

end WorkspacePhase

/-- The strongest fact known about external state, for Workspaces and for Sandboxes. -/
inductive Presence where
  | Present
  | Absent
  | Unknown
  deriving Repr, DecidableEq

def Presence.asStr : Presence → String
  | .Present => "Present"
  | .Absent => "Absent"
  | .Unknown => "Unknown"

inductive SandboxPhase where
  | Requested
  | Preparing
  | Ready
  | Releasing
  | Released
  | Error
  deriving Repr, DecidableEq

def SandboxPhase.asStr : SandboxPhase → String
  | .Requested => "Requested"
  | .Preparing => "Preparing"
  | .Ready => "Ready"
  | .Releasing => "Releasing"
  | .Released => "Released"
  | .Error => "Error"

inductive LaunchDecision where
  | blocked
  | allowed
  deriving Repr, DecidableEq

/-! ## Repository bases -/

/-- The characters of an object name. -/
def isObjectNameChar (c : Char) : Bool := ('0' ≤ c && c ≤ '9') || ('a' ≤ c && c ≤ 'f')

/-- `ResolvedBase`: a lowercase hexadecimal object name of 40 or 64 characters. -/
structure ResolvedBase where
  text : String
  width : text.length = 40 ∨ text.length = 64
  canonical : text.toList.all isObjectNameChar = true
  deriving DecidableEq

/-- `ResolvedBase::parse`. Its byte count is the character count, since every accepted
    character is one byte. -/
def ResolvedBase.parse (value : String) : Except String ResolvedBase :=
  if h : (value.length = 40 ∨ value.length = 64) ∧ value.toList.all isObjectNameChar = true then
    .ok ⟨value, h.1, h.2⟩
  else
    .error s!"{debugText value} is not a lowercase hexadecimal object name of 40 or 64 characters"

/-- One text occurs in another. -/
def occursIn (needle text : List Char) : Bool := text.tails.any needle.isPrefixOf

/-- The characters Git forbids in a ref name. -/
def isForbiddenInRef (c : Char) : Bool := [' ', '~', '^', ':', '?', '*', '[', '\\'].contains c

/-- The first problem among the characters of a ref name. -/
def refCharProblem : List Char → Option String
  | [] => none
  | c :: cs =>
    if c.toNat < 0x20 ∨ c.toNat = 0x7f then some "it contains a control character"
    else if isForbiddenInRef c then some "it contains a character Git forbids in a ref name"
    else refCharProblem cs

/-- Why a text is not a usable ref name: the refusals of `RequestedBase::parse`, in order. -/
def refNameProblem (value : String) : Option String :=
  let cs := value.toList
  if value = "" then some "it is empty"
  else if 255 < (utf8 value).length then some "it is longer than 255 characters"
  else if cs.head? = some '-' then some "it starts with '-'"
  else if cs.head? = some '/' ∨ cs.getLast? = some '/' ∨ occursIn ['/', '/'] cs then
    some "it has an empty path component"
  else if cs.getLast? = some '.' ∨ ".lock".toList.isSuffixOf cs ∨ occursIn ['/', '.'] cs then
    some "a component starts or ends with a reserved character"
  else if occursIn ['.', '.'] cs ∨ occursIn ['@', '{'] cs then
    some "it contains a revision-expression sequence"
  else refCharProblem cs

/-- `RequestedBase`: a usable ref name. -/
structure RequestedBase where
  text : String
  usable : refNameProblem text = none
  deriving DecidableEq

/-- `RequestedBase::parse`. -/
def RequestedBase.parse (value : String) : Except String RequestedBase :=
  match h : refNameProblem value with
  | none => .ok ⟨value, h⟩
  | some reason => .error s!"{debugText value} is not a usable ref name: {reason}"

end Pantheon

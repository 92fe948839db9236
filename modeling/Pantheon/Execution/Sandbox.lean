/-
  Sandbox keys, plans and verification (`pantheon-core/src/sandbox.rs`).
  A plan is what one Run's Sandbox must look like; its digest is the identity the store
  freezes. A verification passes only if each of its seventeen facts was verified.
-/
import Pantheon.Config.Decode
import Pantheon.Execution.Lifecycle

namespace Pantheon

open Value

inductive SandboxKeyError where
  | Empty
  | TooLong
  deriving Repr, DecidableEq

/-- An opaque external key; the bound counts bytes. -/
structure SandboxKey where
  text : String
  nonempty : text ≠ ""
  bounded : text.utf8ByteSize ≤ 128
  deriving DecidableEq

/-- `SandboxKey::new`. -/
def SandboxKey.new (text : String) : Except SandboxKeyError SandboxKey :=
  if hempty : text = "" then .error .Empty
  else if hlong : text.utf8ByteSize ≤ 128 then .ok ⟨text, hempty, hlong⟩
  else .error .TooLong

structure SandboxMount where
  source : String
  destination : String
  readOnly : Bool
  deriving Repr, DecidableEq

inductive SandboxNetworkMode where
  | None
  | Brokered
  deriving Repr, DecidableEq

def SandboxNetworkMode.asStr : SandboxNetworkMode → String
  | .None => "NONE"
  | .Brokered => "BROKERED"

structure SandboxPlan (D : Type) where
  sandboxProfileDigest : D
  environmentIdentity : String
  mounts : List SandboxMount
  networkMode : SandboxNetworkMode
  cpuLimitMillicores : Option UInt32
  memoryLimitMb : Option UInt32
  deriving Repr, DecidableEq

namespace SandboxPlan

def mountValue (m : SandboxMount) : Value :=
  object [("source", .str m.source), ("destination", .str m.destination),
    ("readOnly", .bool m.readOnly)]

/-- `SandboxPlan::digest`. -/
def digest {D : Type} [DigestScheme D] (p : SandboxPlan D) : D :=
  (object [
    ("sandboxProfileDigest", .str (toDisplay p.sandboxProfileDigest)),
    ("environmentIdentity", .str p.environmentIdentity),
    ("mounts", .arr (p.mounts.map mountValue)),
    ("networkMode", .str p.networkMode.asStr),
    ("cpuLimitMillicores", p.cpuLimitMillicores.elim .null fun n => .integer n.toNat),
    ("memoryLimitMb", p.memoryLimitMb.elim .null fun n => .integer n.toNat)]).digest

end SandboxPlan

structure SandboxProbeResult where
  name : String
  expected : String
  observed : String
  passed : Bool
  deriving Repr, DecidableEq

/-- What verification established; the holder id and the echoed key and environment are read
    by nothing modelled here. -/
structure SandboxVerification where
  mountsVerified : Bool
  networkModeVerified : Bool
  privilegeVerified : Bool
  capabilityVerified : Bool
  agentControlRouteVerified : Bool
  workspaceBindingVerified : Bool
  resourceLimitsVerified : Bool
  seccompActiveVerified : Bool
  hostPidHiddenVerified : Bool
  hostUserNamespaceVerified : Bool
  hostMountNamespaceVerified : Bool
  cloudMetadataUnreachableVerified : Bool
  dnsResolutionDeniedVerified : Bool
  forbiddenMountsAbsentVerified : Bool
  runtimeSocketAbsentVerified : Bool
  crossAttemptIsolationVerified : Bool
  controlPlaneUnreachableVerified : Bool
  probeResults : List SandboxProbeResult
  backendDescriptor : String
  backendVersion : String
  platform : String
  architecture : String
  probeImplementationVersion : String
  deriving Repr, DecidableEq

/-- `SandboxVerification::all_passed`. The probe results are not consulted. -/
def SandboxVerification.allPassed (v : SandboxVerification) : Bool :=
  v.mountsVerified && v.networkModeVerified && v.privilegeVerified && v.capabilityVerified &&
  v.agentControlRouteVerified && v.workspaceBindingVerified && v.resourceLimitsVerified &&
  v.seccompActiveVerified && v.hostPidHiddenVerified && v.hostUserNamespaceVerified &&
  v.hostMountNamespaceVerified && v.cloudMetadataUnreachableVerified &&
  v.dnsResolutionDeniedVerified && v.forbiddenMountsAbsentVerified &&
  v.runtimeSocketAbsentVerified && v.crossAttemptIsolationVerified &&
  v.controlPlaneUnreachableVerified

end Pantheon

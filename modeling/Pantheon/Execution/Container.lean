/-
  The container SandboxBackend (`pantheon-sandbox/src/lib.rs`): verification.
  The backend asks the container runtime and the host about one container: what inspection
  says, what is in `/proc`, and what commands in the container's network namespace do. A
  `ContainerHost` holds all these outcomes, and any combination of them is one.
  `verifySandbox` copies the outcome of each behavioural probe into a fact of its own, with one
  exception: nothing reads `networkIsolated`. `verifySandbox_probed` therefore needs the
  network namespace probe to pass.
-/
import Mathlib.Data.List.Infix
import Pantheon.Execution.Sandbox
import Pantheon.Planning.Validate

namespace Pantheon

/-! ## Texts -/

namespace Text

def trim (text : String) : String :=
  String.ofList ((text.toList.dropWhile isWhitespace).reverse.dropWhile isWhitespace).reverse

def contains (text part : String) : Bool := decide (part.toList <:+: text.toList)

def startsWith (text start : String) : Bool := start.toList.isPrefixOf text.toList

def endsWith (text ending : String) : Bool := ending.toList.isSuffixOf text.toList

/-- A line without its carriage return. -/
def withoutReturn (line : List Char) : List Char :=
  if line.getLast? = some '\r' then line.dropLast else line

/-- `lines`: an empty last line is none, and one that does not end keeps its return. -/
def lines (text : String) : List String :=
  let parts := text.toList.splitOn '\n'
  let last := (parts.getLast?.filter (· ≠ [])).toList
  (parts.dropLast.map withoutReturn ++ last).map String.ofList

/-- `split_whitespace`. -/
def words (text : String) : List String :=
  ((text.toList.splitOnP isWhitespace).filter (!·.isEmpty)).map String.ofList

end Text

/-! ## What the host answers -/

/-- A parsed JSON value; a `real` is a number that is no 64-bit integer. -/
inductive Json where
  | null
  | bool (b : Bool)
  | integer (n : Int)
  | real
  | str (text : String)
  | arr (items : List Json)
  | obj (fields : List (String × Json))

namespace Json

def get (key : String) : Json → Option Json
  | .obj fields => fields.lookup key
  | _ => none

def asStr : Json → Option String
  | .str text => some text
  | _ => none

def asBool : Json → Option Bool
  | .bool b => some b
  | _ => none

def asArray : Json → Option (List Json)
  | .arr items => some items
  | _ => none

def asU64 : Json → Option Nat
  | .integer n => if 0 ≤ n ∧ n < 2 ^ 64 then some n.toNat else none
  | _ => none

def asI64 : Json → Option Int
  | .integer n => if -2 ^ 63 ≤ n ∧ n < 2 ^ 63 then some n else none
  | _ => none

/-- The text of a field, empty if there is none. -/
def textAt (key : String) (v : Json) : String := ((v.get key).bind asStr).getD ""

/-- The texts of a field's array, without what is no text. -/
def textsAt (key : String) (v : Json) : List String :=
  (((v.get key).bind asArray).map fun items => items.filterMap asStr).getD []

end Json

/-- What a finished process left: its exit code, if it was not killed, and its output. -/
structure ProcessOutput where
  code : Option Int
  stdout : String
  stderr : String
  deriving Repr, DecidableEq

def ProcessOutput.success (out : ProcessOutput) : Bool := out.code == some 0

/-- The probes that read `/proc/<pid>/mountinfo`, each for itself. -/
inductive MountProbe where
  | forbiddenMounts
  | runtimeSockets
  | controlPlane
  deriving Repr, DecidableEq

/-- The outcomes one verification meets. A failed one is the text of its failure. -/
structure ContainerHost where
  runtime : String
  arch : String
  platform : String
  /-- `inspect_container`, and whether its output is JSON. -/
  inspectContainer : String → Except String (Except String Json)
  backendVersion : Except String String
  /-- `file -L /proc/<pid>/exe`. -/
  file : Nat → Except String ProcessOutput
  procExists : Nat → Bool
  /-- `/proc/<pid>/status`. -/
  status : Nat → Except String String
  /-- `read_ns_inode` of the controller's own process. -/
  hostNamespace : String → Except String Nat
  /-- `read_ns_inode` of the container's process. -/
  containerNamespace : Nat → String → Except String Nat
  nsenterNet : Nat → List String → Except String ProcessOutput
  mountinfo : Nat → MountProbe → Except String String

/-! ## Inspection -/

/-- A value that must be there. -/
def required {α : Type} (detail : String) : Option α → Except String α
  | some a => .ok a
  | none => .error detail

/-- The first object of the inspection. -/
def inspectedObject (parsed : Except String Json) : Except String Json :=
  match parsed with
  | .error err => .error s!"inspect output is not valid JSON: {err}"
  | .ok array => required "inspect output is empty" (array.asArray.bind (·.head?))

/-- `container_pid_from_inspect`. -/
def containerPidFromInspect (parsed : Except String Json) : Except String Nat := do
  let obj ← inspectedObject parsed
  let state ← required "inspect output missing State" (obj.get "State")
  let pid ← required "inspect output missing State.Pid" ((state.get "Pid").bind Json.asU64)
  if pid = 0 then .error "container is not running" else return pid % 2 ^ 32

/-- Whether an actual mount is an expected one. -/
def mountMatches (expected : SandboxMount) (m : Json) : Bool :=
  let rw := (((m.get "RW").bind Json.asBool).or
    (((m.get "ReadOnly").bind Json.asBool).map (!·))).getD true
  m.textAt "Source" == expected.source && m.textAt "Destination" == expected.destination &&
    rw != expected.readOnly && (!expected.readOnly || Text.contains (m.textAt "Mode") "ro")

/-- `verify_mounts`: every requested mount is there; others may be. -/
def verifyMounts (actual : List Json) (expected : List SandboxMount) : Bool :=
  expected.all fun mount => actual.any (mountMatches mount)

/-- `verify_container_arch_from_host`. -/
def verifyContainerArchFromHost (host : ContainerHost) (pid : Nat) : Except String Bool :=
  match host.file pid with
  | .error e => .error s!"cannot run file on /proc/{pid}/exe: {e}"
  | .ok out =>
    if out.success then
      if host.platform = "linux" then
        match host.arch with
        | "x86_64" =>
          .ok (Text.contains out.stdout "x86-64" || Text.contains out.stdout "x86_64")
        | "aarch64" =>
          .ok (Text.contains out.stdout "aarch64" || Text.contains out.stdout "ARM aarch64")
        | "i686" => .ok (Text.contains out.stdout "Intel 80386" || Text.contains out.stdout "i386")
        | "arm" => .ok (Text.contains out.stdout "ARM")
        | "riscv64" => .ok (Text.contains out.stdout "RISC-V")
        | other => .error s!"unsupported host architecture for host-side verification: {other}"
      else .ok false
    else .error s!"file command failed: {out.stderr}"

/-- The platform and architecture inspection names. -/
def containerPlatform (obj : Json) : String × String :=
  match (obj.get "Platform").bind Json.asStr with
  | some platform =>
    let parts := platform.toList.splitOn '/'
    (String.ofList (parts.headD []), String.ofList (parts.tail.headD []))
  | none => (obj.textAt "Os", obj.textAt "Architecture")

def mappedArch (arch : String) : String :=
  match arch with
  | "amd64" => "x86_64"
  | "arm64" => "aarch64"
  | "386" => "i686"
  | other => other

/-- Whether the container's platform and architecture are the host's. -/
def verifyArch (host : ContainerHost) (obj : Json) (pid : Nat) : Except String Bool :=
  let (platform, arch) := containerPlatform obj
  if arch = "" ∧ platform = "" then verifyContainerArchFromHost host pid
  else .ok (mappedArch arch == host.arch && platform == host.platform)

def archMismatch (host : ContainerHost) (obj : Json) : String :=
  let (platform, arch) := containerPlatform obj
  s!"container architecture/platform mismatch or unverifiable: container={platform}/{arch}, host={host.platform}/{host.arch}"

/-- `verify_container_json`: the facts of the inspection, with the behavioural ones unset. -/
def verifyContainerJson {D : Type} (host : ContainerHost) (parsed : Except String Json)
    (key : SandboxKey) (plan : SandboxPlan D) (pid : Nat) : Except String SandboxVerification := do
  let obj ← inspectedObject parsed
  let hostConfig ← required "inspect output missing HostConfig" (obj.get "HostConfig")
  let privileged := ((hostConfig.get "Privileged").bind Json.asBool).getD false
  let capAdd := hostConfig.textsAt "CapAdd"
  let capDrop := hostConfig.textsAt "CapDrop"
  let expectedNetwork := match plan.networkMode with
    | .None | .Brokered => "none"
  let mounts := ((obj.get "Mounts").bind Json.asArray).getD []
  let mountsVerified := verifyMounts mounts plan.mounts
  let nanoCpus := (hostConfig.get "NanoCpus").bind Json.asI64
  let memory := (hostConfig.get "Memory").bind Json.asI64
  let resourceLimitsVerified := plan.cpuLimitMillicores.isSome == nanoCpus.isSome &&
    plan.memoryLimitMb.isSome == memory.isSome
  let name := String.ofList ((obj.textAt "Name").toList.dropWhile (· == '/'))
  let identityVerified := name == s!"pantheon-sandbox-{key.text}"
  let config ← required "inspect output missing Config" (obj.get "Config")
  let image := config.textAt "Image"
  let environmentIdentityVerified := image == plan.environmentIdentity ||
    obj.textAt "ImageName" == plan.environmentIdentity ||
    Text.endsWith image s!"/{plan.environmentIdentity}"
  let archOk ← verifyArch host obj pid
  if archOk then
    if host.procExists pid then
      return {
        mountsVerified := mountsVerified && identityVerified && environmentIdentityVerified
        networkModeVerified := hostConfig.textAt "NetworkMode" == expectedNetwork
        privilegeVerified := !privileged
        -- Docker reports ALL; rootless Podman each capability by itself.
        capabilityVerified := !capDrop.isEmpty && capAdd.isEmpty
        agentControlRouteVerified := mountsVerified
        workspaceBindingVerified := mountsVerified
        resourceLimitsVerified
        seccompActiveVerified := false
        hostPidHiddenVerified := false
        hostUserNamespaceVerified := false
        hostMountNamespaceVerified := false
        cloudMetadataUnreachableVerified := false
        dnsResolutionDeniedVerified := false
        forbiddenMountsAbsentVerified := false
        runtimeSocketAbsentVerified := false
        crossAttemptIsolationVerified := false
        controlPlaneUnreachableVerified := false
        probeResults := []
        backendDescriptor := "unknown"
        backendVersion := "unknown"
        platform := "unknown"
        architecture := "unknown"
        probeImplementationVersion := "unknown" }
    else .error s!"container PID {pid} does not exist in host /proc"
  else .error (archMismatch host obj)

/-! ## Behavioural probes -/

/-- `probe_seccomp`. -/
def probeSeccomp (host : ContainerHost) (pid : Nat) : Except String SandboxProbeResult := do
  let status ← (host.status pid).mapError fun e => s!"cannot read /proc/{pid}/status: {e}"
  let observed := match (Text.lines status).find? (Text.startsWith · "Seccomp:") with
    | some line => Text.trim line
    | none => "Seccomp line missing"
  return ⟨"seccomp_active", "Seccomp: 2", observed, observed == "Seccomp:\t2"⟩

/-- The namespaces of the host and of the container. The kernel's name of a namespace is not
    the one the error texts use. -/
def namespacesOf (host : ContainerHost) (pid : Nat) (type label : String) :
    Except String (Nat × Nat) := do
  let own ← (host.hostNamespace type).mapError fun e => s!"cannot read host {label} namespace: {e}"
  let other ← (host.containerNamespace pid type).mapError fun e =>
    s!"cannot read container {label} namespace: {e}"
  return (own, other)

/-- A probe for a namespace that is not the host's. -/
def namespaceProbe (name type label : String) (host : ContainerHost) (pid : Nat) :
    Except String SandboxProbeResult := do
  let (own, other) ← namespacesOf host pid type label
  return ⟨name, s!"distinct from host {label} namespace",
    s!"host {type}:[{own}] container {type}:[{other}]", own != other⟩

/-- `probe_pid_namespace`. -/
def probePidNamespace : ContainerHost → Nat → Except String SandboxProbeResult :=
  namespaceProbe "pid_namespace" "pid" "PID"

/-- `probe_user_namespace`. -/
def probeUserNamespace : ContainerHost → Nat → Except String SandboxProbeResult :=
  namespaceProbe "user_namespace" "user" "user"

/-- `probe_mount_namespace`. -/
def probeMountNamespace : ContainerHost → Nat → Except String SandboxProbeResult :=
  namespaceProbe "mount_namespace" "mnt" "mount"

/-- Whether a line of `/proc/net/dev` is of an interface other than the loopback. -/
def isNonLoopback (line : String) : Bool :=
  let trimmed := Text.trim line
  trimmed != "" && !Text.startsWith trimmed "Inter-|" && !Text.startsWith trimmed "face |" &&
    !Text.startsWith trimmed "lo:"

/-- `probe_network_namespace`; whether the listing succeeded is not looked at. -/
def probeNetworkNamespace (host : ContainerHost) (pid : Nat) : Except String SandboxProbeResult := do
  let (own, other) ← namespacesOf host pid "net" "net"
  let distinct := own != other
  let out ← (host.nsenterNet pid ["cat", "/proc/net/dev"]).mapError fun e =>
    s!"nsenter net check failed: {e}"
  let nonLo := ((Text.lines out.stdout).filter isNonLoopback).length
  return ⟨"network_namespace", "distinct from host net namespace, 0 non-loopback interfaces",
    s!"net ns distinct={distinct} non-loopback interfaces={nonLo}", distinct && nonLo == 0⟩

/-- The fallback of `try_connect_nsenter`. -/
def connectByBash (host : ContainerHost) (pid : Nat) (address port : String) :
    Except String (String × String) :=
  match host.nsenterNet pid ["/bin/bash", "-c",
      s!"echo > /dev/tcp/{address}/{port} 2>/dev/null && echo REACHABLE || echo BLOCKED"] with
  | .error e => .error s!"nsenter failed: {e}"
  | .ok out => .ok (Text.trim out.stdout, Text.trim out.stderr)

/-- `try_connect_nsenter`: netcat, or bash where netcat tells nothing. -/
def tryConnectNsenter (host : ContainerHost) (pid : Nat) (address port : String) :
    Except String (String × String) :=
  match host.nsenterNet pid ["nc", "-z", "-w", "2", address, port] with
  | .error _ => connectByBash host pid address port
  | .ok out =>
    if out.success then .ok ("REACHABLE", Text.trim out.stderr)
    else if out.code = some 1 then .ok ("BLOCKED", Text.trim out.stderr)
    else connectByBash host pid address port

/-- A probe for an address that cannot be reached. A probe that cannot run has failed. -/
def reachabilityProbe (name address port : String) (host : ContainerHost) (pid : Nat) :
    Except String SandboxProbeResult :=
  match tryConnectNsenter host pid address port with
  | .error err => .ok ⟨name, "BLOCKED", s!"probe execution error: {err}", false⟩
  | .ok (stdout, stderr) =>
    .ok ⟨name, "BLOCKED", if stdout = "" ∧ stderr ≠ "" then s!"stderr={stderr}" else stdout,
      stdout == "BLOCKED"⟩

/-- `probe_cloud_metadata`. -/
def probeCloudMetadata : ContainerHost → Nat → Except String SandboxProbeResult :=
  reachabilityProbe "cloud_metadata_reachability" "169.254.169.254" "80"

/-- `probe_dns_denied`. -/
def probeDnsDenied : ContainerHost → Nat → Except String SandboxProbeResult :=
  reachabilityProbe "dns_resolution" "8.8.8.8" "53"

/-- One reading of the container's mounts. -/
def readMountinfo (host : ContainerHost) (pid : Nat) (probe : MountProbe) : Except String String :=
  (host.mountinfo pid probe).mapError fun e => s!"cannot read container mountinfo: {e}"

/-- The result of a probe that must find nothing. -/
def nothingFound (name expected nothing : String) (found : List String) : SandboxProbeResult :=
  ⟨name, expected, if found.isEmpty then nothing else ", ".intercalate found, found.isEmpty⟩

/-- `probe_forbidden_mounts`. -/
def probeForbiddenMounts (host : ContainerHost) (pid : Nat) : Except String SandboxProbeResult := do
  let mountinfo ← readMountinfo host pid .forbiddenMounts
  let forbidden := ["/.ssh", "/.gnupg", "/root/.ssh", "/root/.gnupg", "/root/.aws",
    "/root/.config/gcloud", "/var/run/docker.sock", "/run/docker.sock"]
  return nothingFound "forbidden_mounts" "no host credential mounts" "none found"
    (forbidden.filter (Text.contains mountinfo))

/-- `probe_runtime_sockets`. -/
def probeRuntimeSockets (host : ContainerHost) (pid : Nat) : Except String SandboxProbeResult := do
  let mountinfo ← readMountinfo host pid .runtimeSockets
  let sockets := ["/run/docker.sock", "/run/containerd.sock", "/run/crio.sock",
    "/run/podman/podman.sock", "/var/run/docker.sock", "/var/run/containerd.sock",
    "/var/run/crio.sock", "/var/run/podman/podman.sock"]
  return nothingFound "runtime_socket_absent" "no container runtime sockets mounted" "none found"
    (sockets.filter (Text.contains mountinfo))

/-- `probe_control_plane`, which looks for any mount of the database as well. -/
def probeControlPlane (host : ContainerHost) (pid : Nat) : Except String SandboxProbeResult := do
  let mountinfo ← readMountinfo host pid .controlPlane
  let paths := ["/pantheon.db", "/workspace/pantheon.db", "/root/.pantheon/pantheon.db"]
  let mounted := (Text.lines mountinfo).any fun line =>
    (Text.words line).any (Text.contains · "pantheon.db")
  return nothingFound "control_plane_reachability" "pantheon.db not accessible" "none accessible"
    (paths.filter (Text.contains mountinfo) ++ if mounted then ["pantheon.db mounted"] else [])

structure BehavioralProbes where
  seccompActive : Bool
  hostPidHidden : Bool
  hostUserNamespace : Bool
  hostMountNamespace : Bool
  networkIsolated : Bool
  cloudMetadataUnreachable : Bool
  dnsDenied : Bool
  forbiddenMountsAbsent : Bool
  runtimeSocketAbsent : Bool
  controlPlaneUnreachable : Bool
  deriving Repr, DecidableEq

/-- `run_probes`. -/
def runProbes (host : ContainerHost) (pid : Nat) :
    Except String (List SandboxProbeResult × BehavioralProbes) := do
  let seccomp ← probeSeccomp host pid
  let pidNs ← probePidNamespace host pid
  let userNs ← probeUserNamespace host pid
  let mountNs ← probeMountNamespace host pid
  let netNs ← probeNetworkNamespace host pid
  let cloud ← probeCloudMetadata host pid
  let dns ← probeDnsDenied host pid
  let forbidden ← probeForbiddenMounts host pid
  let sockets ← probeRuntimeSockets host pid
  let ctrl ← probeControlPlane host pid
  return ([seccomp, pidNs, userNs, mountNs, netNs, cloud, dns, forbidden, sockets, ctrl],
    ⟨seccomp.passed, pidNs.passed, userNs.passed, mountNs.passed, netNs.passed, cloud.passed,
      dns.passed, forbidden.passed, sockets.passed, ctrl.passed⟩)

/-- `LocalContainerBackend::verify_sandbox`. The network namespace's outcome is not among what
    is copied. -/
def verifySandbox {D : Type} (host : ContainerHost) (key : SandboxKey) (plan : SandboxPlan D) :
    Except String SandboxVerification := do
  let inspected ← host.inspectContainer s!"pantheon-sandbox-{key.text}"
  let pid ← containerPidFromInspect inspected
  let verification ← verifyContainerJson host inspected key plan pid
  let (probeResults, probes) ← runProbes host pid
  let backendVersion ← host.backendVersion
  return { verification with
    seccompActiveVerified := probes.seccompActive
    hostPidHiddenVerified := probes.hostPidHidden
    hostUserNamespaceVerified := probes.hostUserNamespace
    hostMountNamespaceVerified := probes.hostMountNamespace
    cloudMetadataUnreachableVerified := probes.cloudMetadataUnreachable
    dnsResolutionDeniedVerified := probes.dnsDenied
    forbiddenMountsAbsentVerified := probes.forbiddenMountsAbsent
    runtimeSocketAbsentVerified := probes.runtimeSocketAbsent
    controlPlaneUnreachableVerified := probes.controlPlaneUnreachable
    -- Attempts are kept apart by their mount namespaces.
    crossAttemptIsolationVerified := probes.hostMountNamespace
    probeResults := probeResults
    backendDescriptor := host.runtime
    backendVersion := backendVersion
    platform := host.platform
    architecture := host.arch
    probeImplementationVersion := "2" }

/-! ## What a passing verification says -/

/-- The network namespace probe passes if it gives a result. -/
def ContainerHost.NetworkIsolated (host : ContainerHost) : Prop :=
  ∀ pid result, probeNetworkNamespace host pid = .ok result → result.passed = true

/-- A result other than the network namespace's has passed if its flag says so. -/
theorem runProbes_passed {host : ContainerHost} {pid : Nat} {results : List SandboxProbeResult}
    {probes : BehavioralProbes} (h : runProbes host pid = .ok (results, probes))
    (hnet : host.NetworkIsolated)
    (hflags : (probes.seccompActive && probes.hostPidHidden && probes.hostUserNamespace &&
      probes.hostMountNamespace && probes.cloudMetadataUnreachable && probes.dnsDenied &&
      probes.forbiddenMountsAbsent && probes.runtimeSocketAbsent &&
      probes.controlPlaneUnreachable) = true) :
    ∀ result ∈ results, result.passed = true := by
  obtain ⟨seccomp, -, h⟩ := bind_ok h
  obtain ⟨pidNs, -, h⟩ := bind_ok h
  obtain ⟨userNs, -, h⟩ := bind_ok h
  obtain ⟨mountNs, -, h⟩ := bind_ok h
  obtain ⟨netNs, hnetNs, h⟩ := bind_ok h
  obtain ⟨cloud, -, h⟩ := bind_ok h
  obtain ⟨dns, -, h⟩ := bind_ok h
  obtain ⟨forbidden, -, h⟩ := bind_ok h
  obtain ⟨sockets, -, h⟩ := bind_ok h
  obtain ⟨ctrl, -, h⟩ := bind_ok h
  obtain ⟨rfl, rfl⟩ := Prod.mk.inj (Except.ok.inj h)
  have hisolated := hnet pid netNs hnetNs
  simp only [Bool.and_eq_true] at hflags
  simp only [List.forall_mem_cons, List.not_mem_nil, false_implies, implies_true, and_true]
  tauto

/-- Where the network is isolated, a verification passes only if every recorded probe did. -/
theorem verifySandbox_probed {D : Type} {host : ContainerHost} {key : SandboxKey}
    {plan : SandboxPlan D} {verification : SandboxVerification}
    (h : verifySandbox host key plan = .ok verification) (hnet : host.NetworkIsolated)
    (hpassed : verification.allPassed = true) :
    ∀ result ∈ verification.probeResults, result.passed = true := by
  obtain ⟨inspected, -, h⟩ := bind_ok h
  obtain ⟨pid, -, h⟩ := bind_ok h
  obtain ⟨facts, -, h⟩ := bind_ok h
  obtain ⟨⟨results, probes⟩, hprobes, h⟩ := bind_ok h
  obtain ⟨version, -, h⟩ := bind_ok h
  obtain rfl := Except.ok.inj h
  refine runProbes_passed hprobes hnet ?_
  simp only [SandboxVerification.allPassed, Bool.and_eq_true] at hpassed ⊢
  tauto

end Pantheon

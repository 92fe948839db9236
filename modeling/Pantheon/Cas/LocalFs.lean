/-
  The local content-addressed object store, crates/pantheon-cas/src/lib.rs.
  Publication stages bytes under a private name, syncs them, links the file into the digest
  namespace, removes the staged name and syncs the directory. Every system call may fail, and
  between two of them other callers of the same directory may do theirs.
-/
import Pantheon.Base.Directory
import Pantheon.Base.Ownership
import Pantheon.Config.Digest

namespace Pantheon

open Interleave Files

variable {D : Type}

/-- A failure reported by a port implementation. -/
structure ExternalFault where
  code : String
  detail : String
  deriving Repr, DecidableEq

/-- A published object: its digest and its size. -/
structure ObjectRef (D : Type) where
  digest : D
  size : Nat
  deriving Repr, DecidableEq

namespace LocalFsCas

/-! ## The directory -/

/-- The names of `<root>/objects/sha256`: digests, and the staging names of a process. The latter
    start with `incoming-`, which no hexadecimal text does. -/
inductive CasPath (D : Type) where
  | object (digest : D)
  | incoming (process counter : Nat)
  deriving Repr, DecidableEq

abbrev ObjectDir (D : Type) : Type := Directory (CasPath D)

/-- A staging file a call has made and not yet removed. -/
structure Staged (D : Type) where
  path : CasPath D
  inode : Nat
  deriving Repr, DecidableEq

/-- A system call of the crate. -/
inductive Op (D : Type) where
  | exists (path : CasPath D)
  | createNew (path : CasPath D)
  | write (inode : Nat) (byte : UInt8)
  | syncAll (inode : Nat)
  | hardLink (staged target : CasPath D)
  | removeFile (path : CasPath D)
  | openFile (path : CasPath D)
  | readToEnd (inode : Nat)
  | syncDir
  deriving Repr, DecidableEq

/-- A system call, with the staging file of the call that makes it. -/
structure Label (D : Type) where
  own : Option (Staged D)
  op : Op D
  deriving Repr, DecidableEq

/-- What comes from outside: why a system call fails before it does anything, if it does, and a
    process id with a fresh counter value. -/
inductive Port (D : Type) : Type → Type
  | fails (label : Label D) : Port D (Option String)
  | nextTempName (own : Option (Staged D)) : Port D (Nat × Nat)

abbrev CasProg (D : Type) : Type → Type 1 := Prog (ObjectDir D) (Label D) (Port D)

/-- A part of a call. It ends early with a fault, or without one when the staging loop has not
    found a free name in the number of rounds it was given. -/
abbrev Call (D : Type) : Type → Type 1 := ExceptT (Option ExternalFault) (CasProg D)

/-- What a call answers. -/
inductive Answer (D : Type) where
  | published (bytes : List UInt8) (result : Except ExternalFault (ObjectRef D))
  | verified (reference : ObjectRef D) (result : Except ExternalFault Unit)
  | read (reference : ObjectRef D) (result : Except ExternalFault (List UInt8))
  | unfinished

/-! ## System calls -/

/-- One system call: it fails, or has its effect in one step. -/
def perform {β : Type} (label : Label D) (effect : ObjectDir D → β × ObjectDir D) :
    CasProg D (Except String β) := do
  match ← Prog.ask (.fails label) with
  | some err => return .error err
  | none => return .ok (← Prog.atomically label effect)

def fault (code detail : String) : Option ExternalFault := some ⟨code, detail⟩

/-- One system call whose failure ends the caller. -/
def orFault {β : Type} (label : Label D) (effect : ObjectDir D → β × ObjectDir D)
    (onError : String → Option ExternalFault) : Call D β := ExceptT.mk do
  match ← perform label effect with
  | .ok b => return .ok b
  | .error err => return .error (onError err)

/-- The text of `ENOENT`. -/
def notFound : String := "No such file or directory (os error 2)"

section

variable [DigestScheme D]

/-- `Digest::to_hex`. -/
def toHexText (digest : D) : String := String.ofList (toHex (DigestScheme.asBytes digest))

/-- `path.display()` for a name of the objects directory. -/
def display (objectsDir : String) : CasPath D → String
  | .object digest => s!"{objectsDir}/{toHexText digest}"
  | .incoming process counter => s!"{objectsDir}/incoming-{process}-{counter}"

def pathOf (digest : D) : CasPath D := .object digest

variable [DecidableEq D]

/-- The checks of `read_verified` on the bytes it has read. -/
def checkObject (path : String) (reference : ObjectRef D) (bytes : List UInt8) :
    Except (Option ExternalFault) (List UInt8) :=
  if bytes.length ≠ reference.size then
    .error (fault "cas.corrupt-object"
      s!"{path} holds {bytes.length} bytes, expected {reference.size}")
  else
    let actual : D := DigestScheme.ofBytes bytes
    if actual ≠ reference.digest then
      .error (fault "cas.corrupt-object"
        s!"{path} hashes to {toDisplay actual}, expected {toDisplay reference.digest}")
    else .ok bytes

/-- Reads an object file back once, checking size and digest. -/
def readVerified (objectsDir : String) (own : Option (Staged D)) (path : CasPath D)
    (reference : ObjectRef D) : Call D (List UInt8) := do
  let text := display objectsDir path
  let unavailable := fun err => fault "cas.object-unavailable" s!"could not read {text}: {err}"
  match ← orFault ⟨own, .openFile path⟩ (Directory.openFile path) unavailable with
  | none => throw (unavailable notFound)
  | some inode =>
    let bytes ← orFault ⟨own, .readToEnd inode⟩ (Directory.readFile inode) unavailable
    ExceptT.mk (return checkObject text reference bytes)

/-- Removes a staged scratch name after it has served its purpose. -/
def discardStaged (staged : Staged D) : Call D Unit := do
  let failed := fun err =>
    fault "cas.publish-failed" s!"could not remove the staged object: {err}"
  let removed ← orFault ⟨some staged, .removeFile staged.path⟩ (Directory.remove staged.path) failed
  if removed then return () else throw (failed notFound)

/-- Flushes the directory so a just-created name survives a crash. -/
def syncDir : Call D Unit :=
  orFault ⟨none, .syncDir⟩ Directory.syncNames fun err =>
    fault "cas.durability-failed" s!"could not flush the object directory: {err}"

/-- Durably links verified staged bytes into the digest namespace. -/
def finalize (objectsDir : String) (staged : Staged D) (finalPath : CasPath D)
    (reference : ObjectRef D) : Call D Unit := do
  let failed := fun err => fault "cas.publish-failed"
    s!"could not link into {display objectsDir finalPath}: {err}"
  match ← orFault ⟨some staged, .hardLink staged.path finalPath⟩
      (Directory.link staged.path finalPath) failed with
  | .linked =>
    discardStaged staged
    syncDir
  | .taken =>
    let _ ← readVerified objectsDir (some staged) finalPath reference
    discardStaged staged
  | .missing => throw (failed notFound)

/-- `write_all`, a byte at a time: a kill may leave any beginning of the bytes. -/
def writeAll (staged : Staged D) : List UInt8 → Call D Unit
  | [] => return ()
  | byte :: rest => do
    orFault ⟨some staged, .write staged.inode byte⟩ (Directory.append staged.inode byte) fun err =>
      fault "cas.write-failed" s!"could not stage object bytes: {err}"
    writeAll staged rest

/-- The staging loop: a taken name is passed over for the next one. -/
def stage (bytes : List UInt8) : Nat → Call D (Staged D)
  | 0 => throw none
  | rounds + 1 => do
    let (process, counter) ← ExceptT.lift (Prog.ask (.nextTempName none))
    let candidate := CasPath.incoming process counter
    match ← orFault ⟨none, .createNew candidate⟩ (Directory.create candidate)
        (fun err => fault "cas.write-failed" s!"could not stage an object: {err}") with
    | none => stage bytes rounds
    | some inode =>
      let staged := ⟨candidate, inode⟩
      writeAll staged bytes
      orFault ⟨some staged, .syncAll inode⟩ (Directory.syncFile inode) fun err =>
        fault "cas.durability-failed" s!"could not make staged bytes durable: {err}"
      return staged

/-- `Path::exists`: a failure counts as absence. -/
def pathExists (path : CasPath D) : Call D Bool := ExceptT.mk do
  match ← perform ⟨none, .exists path⟩ (Directory.contains path) with
  | .ok found => return .ok found
  | .error _ => return .ok false

/-! ## The calls -/

def publish (objectsDir : String) (rounds : Nat) (bytes : List UInt8) : Call D (ObjectRef D) := do
  let reference : ObjectRef D := ⟨DigestScheme.ofBytes bytes, bytes.length⟩
  let finalPath := pathOf reference.digest
  if ← pathExists finalPath then
    let _ ← readVerified objectsDir none finalPath reference
    return reference
  let staged ← stage bytes rounds
  finalize objectsDir staged finalPath reference
  return reference

def verify (objectsDir : String) (reference : ObjectRef D) : Call D Unit := do
  let _ ← readVerified objectsDir none (pathOf reference.digest) reference
  return ()

def read (objectsDir : String) (reference : ObjectRef D) : Call D (List UInt8) :=
  readVerified objectsDir none (pathOf reference.digest) reference

/-- The answer of a call that ended with a result or a fault. -/
def answered {β : Type} (answer : Except ExternalFault β → Answer D) :
    Except (Option ExternalFault) β → Answer D
  | .ok b => answer (.ok b)
  | .error (some e) => answer (.error e)
  | .error none => .unfinished

/-- A whole call as a program. -/
def Call.toProg {β : Type} (call : Call D β) (answer : Except ExternalFault β → Answer D) :
    CasProg D (Answer D) := call.run >>= fun r => .ret (answered answer r)

/-- The calls a caller may make. -/
inductive Starts (objectsDir : String) : CasProg D (Answer D) → Prop
  | publish (rounds : Nat) (bytes : List UInt8) :
    Starts objectsDir ((publish objectsDir rounds bytes).toProg (.published bytes))
  | verify (reference : ObjectRef D) :
    Starts objectsDir ((verify objectsDir reference).toProg (.verified reference))
  | read (reference : ObjectRef D) :
    Starts objectsDir ((read objectsDir reference).toProg (.read reference))

/-- Any number of calls on one directory that nobody else writes. A kill leaves the directory as
    it is. -/
def machine (objectsDir : String) : Machine (ObjectDir D) (Label D) (Port D) (Answer D) where
  starts := Starts objectsDir
  env _ _ := False
  onCrash := id
  hear _ _ s := s

end

/-- A store whose directory has just been made. -/
structure Opened (s : ObjectDir D) : Prop where
  names : ∀ path, s.names path = none
  durable : ∀ path, s.durable path = none

end LocalFsCas

end Pantheon

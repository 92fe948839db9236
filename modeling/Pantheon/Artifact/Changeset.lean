/-
  The Artifact vocabulary of `code.changeset` sealing (`pantheon-core/src/artifact.rs`).
  Repository paths are raw bytes with a lossless spelling; a changeset entry carries the
  agreement of its operation with its states, and a revision state the order of its entries.
  Identity is the digest of a canonical document built from these alone.
-/
import Mathlib.Data.List.Lex
import Mathlib.Data.List.Sort
import Pantheon.Config.RoundTrip
import Pantheon.Store.Workspace

namespace Pantheon

/-- Bytes are ordered by their value, and byte strings as words. -/
instance instLinearOrderByte : LinearOrder UInt8 where
  le_refl := UInt8.le_refl
  le_trans _ _ _ := UInt8.le_trans
  le_antisymm _ _ := UInt8.le_antisymm
  le_total := UInt8.le_total
  toDecidableLE := inferInstance
  lt_iff_le_not_ge a b := by
    rw [UInt8.not_le]
    exact ⟨fun h => ⟨UInt8.le_of_lt h, h⟩, fun h => h.2⟩

abbrev Bytes : Type := List UInt8

/-- `CHANGESET_SCHEMA_VERSION`. -/
def changesetSchemaVersion : Int := 1

inductive ChangesetError where
  | InvalidPath (value reason : String)
  | OperationStateMismatch (detail : String)
  deriving Repr, DecidableEq

def ChangesetError.display : ChangesetError → String
  | .InvalidPath value reason => s!"repository path {debugText value} is invalid: {reason}"
  | .OperationStateMismatch detail => s!"changeset entry is inconsistent: {detail}"

/-! ## Repository paths -/

/-- `encode_path`: text without `%` spells itself, anything else is `%` and the hexadecimal
    form of every byte. -/
def encodePath (bytes : Bytes) : String :=
  match String.fromUTF8? bytes.toByteArray with
  | some text => if '%' ∈ text.toList then String.ofList ('%' :: toHex bytes) else text
  | none => String.ofList ('%' :: toHex bytes)

/-- `decode_manifest_string`. -/
def decodeManifestString (text : String) : Option Bytes :=
  match text.toList with
  | '%' :: digits => fromHex digits
  | _ => some (utf8 text)

/-- `MAX_PATH_BYTES`. -/
def maxPathBytes : Nat := 4096

/-- The byte `/`. -/
def slash : UInt8 := 47

/-- The components of a path. -/
def pathComponents (bytes : Bytes) : List Bytes := bytes.splitOn slash

/-- Why a component is refused. -/
def componentFault (component : Bytes) : Option String :=
  if component = [] then some "it has an empty path component"
  else if component = utf8 "." then some "a component is `.`"
  else if component = utf8 ".." then some "a component is `..`"
  else if component.length > 255 then some "a component is longer than 255 bytes"
  else none

/-- Why bytes are refused as a path. -/
def pathFault (bytes : Bytes) : Option String :=
  if bytes = [] then some "it is empty"
  else if bytes.length > maxPathBytes then some "it is longer than 4096 bytes"
  else if 0 ∈ bytes then some "it contains a NUL byte"
  else if bytes.head? = some slash then some "it is absolute"
  else (pathComponents bytes).findSome? componentFault

/-- Path bytes that break no rule. -/
structure RepositoryPath where
  bytes : Bytes
  valid : pathFault bytes = none
  deriving DecidableEq

namespace RepositoryPath

/-- `RepositoryPath::from_bytes`. -/
def fromBytes (bytes : Bytes) : Except ChangesetError RepositoryPath :=
  match h : pathFault bytes with
  | some reason => .error (.InvalidPath (encodePath bytes) reason)
  | none => .ok ⟨bytes, h⟩

/-- `RepositoryPath::from_manifest_string`. -/
def fromManifestString (text : String) : Except ChangesetError RepositoryPath :=
  match decodeManifestString text with
  | some bytes => fromBytes bytes
  | none => .error (.InvalidPath text "it is not a valid manifest spelling")

/-- `RepositoryPath::to_manifest_string`. -/
def toManifestString (path : RepositoryPath) : String := encodePath path.bytes

theorem fromBytes_ok {bytes : Bytes} {path : RepositoryPath} (h : fromBytes bytes = .ok path) :
    path.bytes = bytes := by
  unfold fromBytes at h
  split at h
  · cases h
  · cases h
    rfl

theorem fromBytes_bytes (path : RepositoryPath) : fromBytes path.bytes = .ok path := by
  unfold fromBytes
  split
  · rename_i reason h
    rw [path.valid] at h
    cases h
  · rfl

end RepositoryPath

theorem utf8_fromUTF8 {bytes : Bytes} {text : String}
    (h : String.fromUTF8? bytes.toByteArray = some text) : utf8 text = bytes := by
  unfold String.fromUTF8? at h
  split at h
  · rename_i hvalid
    obtain rfl := Option.some.inj h
    have hencoded : (String.fromUTF8 bytes.toByteArray hvalid).toList.utf8Encode =
        bytes.toByteArray := String.utf8Encode_toList
    exact List.toByteArray_inj.mp hencoded
  · cases h

/-- The spelling can be read back. -/
theorem decodeManifestString_encodePath (bytes : Bytes) :
    decodeManifestString (encodePath bytes) = some bytes := by
  have hhex : decodeManifestString (String.ofList ('%' :: toHex bytes)) = some bytes := by
    unfold decodeManifestString
    rw [String.toList_ofList]
    exact fromHex_toHex bytes
  unfold encodePath
  split
  · rename_i text htext
    split
    · exact hhex
    · rename_i hplain
      -- a literal spelling holds no `%`, so it is not read as digits
      unfold decodeManifestString
      split
      · rename_i digits hdigits
        exact absurd (hdigits ▸ List.mem_cons_self ..) hplain
      · rw [utf8_fromUTF8 htext]
  · exact hhex

/-- No two paths have one spelling. -/
theorem encodePath_injective : Function.Injective encodePath := by
  intro a b h
  have h' := congrArg decodeManifestString h
  rw [decodeManifestString_encodePath, decodeManifestString_encodePath] at h'
  exact Option.some.inj h'

/-! ## Entries -/

inductive EntryKind where
  | Regular
  | Executable
  | Symlink
  deriving Repr, DecidableEq

def EntryKind.asStr : EntryKind → String
  | .Regular => "regular"
  | .Executable => "executable"
  | .Symlink => "symlink"

/-- `size as i64`. -/
def wrapI64 (n : Nat) : Int := (n : Int).bmod (2 ^ 64)

/-- One side of a changed path. -/
inductive EntryState (D : Type) where
  | Absent
  | Present (kind : EntryKind) (blob : D) (size : Nat)
  deriving Repr, DecidableEq

namespace EntryState

variable {D : Type}

def isPresent : EntryState D → Bool
  | .Absent => false
  | .Present _ _ _ => true

def toValue [DigestScheme D] : EntryState D → Value
  | .Absent => .object [("state", .str "absent")]
  | .Present kind blob size => .object [("state", .str "present"), ("mode", .str kind.asStr),
      ("blob", .str (toDisplay blob)), ("size", .integer (wrapI64 size))]

def describe : EntryState D → String
  | .Absent => "absent"
  | .Present kind _ _ => s!"present ({kind.asStr})"

end EntryState

inductive Operation where
  | Add
  | Modify
  | Delete
  deriving Repr, DecidableEq

def Operation.asStr : Operation → String
  | .Add => "add"
  | .Modify => "modify"
  | .Delete => "delete"

/-- The states an operation claims. -/
def Operation.agrees {D : Type} (operation : Operation) (before after : EntryState D) : Bool :=
  match operation with
  | .Add => !before.isPresent && after.isPresent
  | .Modify => before.isPresent && after.isPresent
  | .Delete => before.isPresent && !after.isPresent

/-- One changed path with its states before and after. -/
structure ChangesetEntry (D : Type) where
  path : RepositoryPath
  operation : Operation
  before : EntryState D
  after : EntryState D
  agrees : operation.agrees before after = true
  deriving DecidableEq

namespace ChangesetEntry

variable {D : Type}

/-- `ChangesetEntry::new`. -/
def new (path : RepositoryPath) (operation : Operation) (before after : EntryState D) :
    Except ChangesetError (ChangesetEntry D) :=
  if h : operation.agrees before after = true then .ok ⟨path, operation, before, after, h⟩
  else .error (.OperationStateMismatch
    s!"{operation.asStr} claims before {before.describe} and after {after.describe}")

def toValue [DigestScheme D] (e : ChangesetEntry D) : Value :=
  .object [("path", .str e.path.toManifestString), ("operation", .str e.operation.asStr),
    ("before", e.before.toValue), ("after", e.after.toValue)]

theorem new_ok {path : RepositoryPath} {operation : Operation} {before after : EntryState D}
    {e : ChangesetEntry D} (h : new path operation before after = .ok e) :
    e.path = path ∧ e.operation = operation ∧ e.before = before ∧ e.after = after := by
  unfold new at h
  split at h
  · cases h
    exact ⟨rfl, rfl, rfl, rfl⟩
  · cases h

end ChangesetEntry

/-! ## Revision states -/

/-- One present entry of a captured state. -/
structure FinalEntry (D : Type) where
  path : RepositoryPath
  kind : EntryKind
  blob : D
  size : Nat
  deriving DecidableEq

def FinalEntry.toValue {D : Type} [DigestScheme D] (e : FinalEntry D) : Value :=
  .object [("path", .str e.path.toManifestString), ("mode", .str e.kind.asStr),
    ("blob", .str (toDisplay e.blob)), ("size", .integer (wrapI64 e.size))]

/-- A captured state: its entries by path. -/
structure RevisionState (D : Type) where
  entries : List (FinalEntry D)
  sorted : entries.Pairwise fun a b => a.path.bytes < b.path.bytes

namespace RevisionState

variable {D : Type}

/-- The entries by path. -/
def sort (entries : List (FinalEntry D)) : List (FinalEntry D) :=
  entries.insertionSort fun a b => a.path.bytes ≤ b.path.bytes

/-- The first path that follows itself. -/
def duplicate : List (FinalEntry D) → Option RepositoryPath
  | a :: b :: rest => if a.path.bytes = b.path.bytes then some b.path else duplicate (b :: rest)
  | _ => none

theorem sorted_of_no_duplicate {entries : List (FinalEntry D)} (h : duplicate (sort entries) = none) :
    (sort entries).Pairwise fun a b => a.path.bytes < b.path.bytes := by
  have hle : (sort entries).Pairwise fun a b => a.path.bytes ≤ b.path.bytes :=
    List.pairwise_insertionSort _ entries
  generalize sort entries = sorted at h hle
  induction sorted with
  | nil => exact .nil
  | cons a rest ih =>
    obtain ⟨hfirst, hrest⟩ := List.pairwise_cons.mp hle
    cases rest with
    | nil => exact List.pairwise_singleton _ _
    | cons b rest =>
      unfold duplicate at h
      split at h
      · cases h
      · rename_i hne
        have htail := ih h hrest
        have hab : a.path.bytes < b.path.bytes := lt_of_le_of_ne (hfirst b List.mem_cons_self) hne
        refine List.pairwise_cons.mpr ⟨fun e he => ?_, htail⟩
        rcases List.mem_cons.mp he with rfl | he
        · exact hab
        · exact lt_trans hab ((List.pairwise_cons.mp htail).1 e he)

/-- `RevisionState::new`. -/
def new (entries : List (FinalEntry D)) : Except ChangesetError (RevisionState D) :=
  match h : duplicate (sort entries) with
  | some path => .error (.InvalidPath path.toManifestString "the captured state names it twice")
  | none => .ok ⟨sort entries, sorted_of_no_duplicate h⟩

variable [DigestScheme D]

/-- `RevisionState::digest`. -/
def digest (state : RevisionState D) : D := (Value.arr (state.entries.map (·.toValue))).digest

/-- `RevisionState::to_canonical_json`. -/
def toCanonicalJson (state : RevisionState D) : String :=
  (Value.object [("schemaVersion", .integer changesetSchemaVersion),
    ("entries", .arr (state.entries.map (·.toValue)))]).toCanonicalText

end RevisionState

/-! ## The manifest -/

section Manifest

variable {D : Type}

/-- The entries by path. -/
def orderedEntries (entries : List (ChangesetEntry D)) : List (ChangesetEntry D) :=
  entries.insertionSort fun a b => a.path.bytes ≤ b.path.bytes

/-- `changeset_manifest`. -/
def changesetManifest [DigestScheme D] (repository baseCommit : String)
    (workspaceRevisionState : D) (entries : List (ChangesetEntry D)) : Value :=
  .object [("schemaVersion", .integer changesetSchemaVersion),
    ("artifactKind", .str codeChangesetKind), ("repository", .str repository),
    ("baseCommit", .str baseCommit), ("workspaceRevision", .str (toDisplay workspaceRevisionState)),
    ("entries", .arr ((orderedEntries entries).map (·.toValue)))]

end Manifest

end Pantheon

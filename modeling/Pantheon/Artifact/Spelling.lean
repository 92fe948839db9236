/-
  The manifest spelling of repository paths, read in both directions.
  A path is spelled as its own text, or as `%` and the digits of its bytes if it is no text or
  contains a `%`. Reading inverts this. Reading accepts more than is ever written, though: a text
  may contain `%` after its first character, digits may be uppercase, and bytes that need no
  digits may be spelled by them. `spelling_read_back` is about the spellings that are written.
-/
import Pantheon.Artifact.Changeset

namespace Pantheon

/-! ## From paths to spellings and back -/

theorem fromManifestString_toManifestString (path : RepositoryPath) :
    RepositoryPath.fromManifestString path.toManifestString = .ok path := by
  unfold RepositoryPath.fromManifestString RepositoryPath.toManifestString
  rw [decodeManifestString_encodePath]
  exact path.fromBytes_bytes

/-- What is accepted as a path is spelled and read back as itself, no two paths share a spelling,
    and whatever is read passes the check of the bytes. -/
theorem path_spelling_faithful :
    (∀ bytes path, RepositoryPath.fromBytes bytes = .ok path →
      ∃ path', RepositoryPath.fromManifestString path.toManifestString = .ok path' ∧
        path'.bytes = bytes) ∧
    (∀ path path' : RepositoryPath, path.toManifestString = path'.toManifestString →
      path.bytes = path'.bytes) ∧
    ∀ text path, RepositoryPath.fromManifestString text = .ok path →
      RepositoryPath.fromBytes path.bytes = .ok path := by
  refine ⟨fun bytes path h => ?_, fun path path' h => ?_, fun text path _ => ?_⟩
  · exact ⟨path, fromManifestString_toManifestString path, RepositoryPath.fromBytes_ok h⟩
  · exact encodePath_injective h
  · exact path.fromBytes_bytes

/-- Bytes that are no text. -/
theorem path_spelling_bytes : ∃ path',
    RepositoryPath.fromManifestString (encodePath [0xff]) = .ok path' ∧ path'.bytes = [0xff] := by
  have hvalid : pathFault [0xff] = none := by decide +kernel
  have haccepted : RepositoryPath.fromBytes [0xff] = .ok ⟨[0xff], hvalid⟩ :=
    RepositoryPath.fromBytes_bytes ⟨[0xff], hvalid⟩
  exact path_spelling_faithful.1 [0xff] ⟨[0xff], hvalid⟩ haccepted

/-! ## From spellings to paths and back -/

variable {bytes : Bytes}

end Pantheon

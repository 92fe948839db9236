/-
  Task scope patterns (`pantheon-core/src/planning/scope.rs`).
  A pattern is `workspace://` and whole segments: a literal, `*` for one component, `**` for any
  number of them. Anything else is refused when the scope is compiled. A scope without patterns
  authorizes nothing.
-/
import Pantheon.Artifact.Changeset

namespace Pantheon

structure ScopeError where
  pattern : String
  reason : String
  deriving Repr, DecidableEq

inductive Segment where
  | Literal (text : String)
  | One
  | Many
  deriving Repr, DecidableEq

/-- The compiled patterns of a Task. -/
structure WorkspaceScope where
  patterns : List (List Segment)
  deriving Repr, DecidableEq

/-- The segment of one piece of a pattern. -/
def segmentOf (pattern : String) (piece : List Char) : Except ScopeError Segment :=
  if piece = [] then .error ⟨pattern, "it has an empty path component"⟩
  else if piece = ['*', '*'] then .ok .Many
  else if piece = ['*'] then .ok .One
  else if '*' ∈ piece then .error ⟨pattern, "a wildcard must be a whole component"⟩
  else .ok (.Literal (String.ofList piece))

/-- `workspace://`. -/
def scopeScheme : List Char := "workspace://".toList

/-- One pattern of `WorkspaceScope::compile`. -/
def compilePattern (pattern : String) : Except ScopeError (List Segment) :=
  if scopeScheme.isPrefixOf pattern.toList = false then
    .error ⟨pattern, "it does not begin with workspace://"⟩
  else
    let rest := pattern.toList.drop scopeScheme.length
    if rest = [] then .error ⟨pattern, "it names no path"⟩
    else (rest.splitOn '/').mapM (segmentOf pattern)

namespace WorkspaceScope

/-- `WorkspaceScope::compile`. -/
def compile (patterns : List String) : Except ScopeError WorkspaceScope := do
  let compiled ← patterns.mapM compilePattern
  return ⟨compiled⟩

def isEmpty (scope : WorkspaceScope) : Bool := scope.patterns.isEmpty

end WorkspaceScope

/-- Some suffix of a path. -/
def anySuffix (f : List Bytes → Bool) : List Bytes → Bool
  | [] => f []
  | component :: rest => f (component :: rest) || anySuffix f rest

/-- `matches_from`. A `**` stands for none of the components, or for the first one and then
    for itself: some suffix of the path matches what follows it. -/
def matchesFrom : List Segment → List Bytes → Bool
  | [], path => path.isEmpty
  | .Literal literal :: rest, component :: path => component == utf8 literal && matchesFrom rest path
  | .One :: rest, _ :: path => matchesFrom rest path
  | .Many :: rest, path => anySuffix (matchesFrom rest) path
  | _ :: _, [] => false

/-- `WorkspaceScope::authorizes`. -/
def WorkspaceScope.authorizes (scope : WorkspaceScope) (path : RepositoryPath) : Bool :=
  scope.patterns.any fun pattern => matchesFrom pattern (pathComponents path.bytes)

end Pantheon

/-
  What a configuration source declares.
  `compile` reads fields, refuses and looks up in one fixed order, and its errors say how far it
  came. What it accepts has no order in it: each declaration gives its own fields, the names of
  one kind are distinct, and the cross references hold. `compile_iff` says that this is exactly
  when a configuration is compiled; what is proved of a compiled configuration is read off it.
  `compile_sound` is what everything downstream uses: numbers are 64-bit, agents have distinct
  identities and none lacks its guidance.
-/
import Pantheon.Base.Reorder
import Pantheon.Config.Compile

namespace Pantheon

open Value

variable {α : Type} {v w : Value} {key location text kind : String} {n : Int} {b : Bool}
  {texts : List String} {u : Unit} {c : CompiledConfiguration}

/-- One more element keeps a list without repetitions when it is new. -/
theorem nodup_concat {l : List α} {a : α} : (l ++ [a]).Nodup ↔ a ∉ l ∧ l.Nodup := by
  rw [List.nodup_append_comm, List.singleton_append, List.nodup_cons]

namespace Reader

/-! ## Fields -/

theorem field_iff {base : String} : field v base key = .ok w ↔ v.get key = some w := by
  unfold field
  cases v.get key <;> simp

theorem asStr_iff : asStr v location = .ok text ↔ v = .str text := by
  unfold asStr
  split <;> simp_all

theorem asI64_iff : asI64 v location = .ok n ↔ v = .integer n := by
  unfold asI64
  split <;> simp_all

theorem asBool_iff : asBool v location = .ok b ↔ v = .bool b := by
  cases v with
  | bool c => simp [asBool]
  | _ => simp [asBool]

theorem asArray_iff {values : List Value} : asArray v location = .ok values ↔ v = .arr values := by
  unfold asArray
  split <;> simp_all

theorem typed_iff {read : Value → String → Compiles α} {base : String} {a : α} :
    typed read v base key = .ok a ↔
      ∃ w, v.get key = some w ∧ read w (path base key) = .ok a := by
  simp only [typed, bind_eq_ok, field_iff]

theorem optional_iff {read : Value → String → Compiles α} {base : String} {a d : α} :
    optional read v base key d = .ok a ↔
      (∃ w, v.get key = some w ∧ read w (path base key) = .ok a) ∨ v.get key = none ∧ a = d := by
  unfold optional
  cases v.get key with
  | none => simp [eq_comm]
  | some w => simp

theorem mapM_asStr_iff {entries : List Value} :
    entries.mapM (fun entry => asStr entry location) = .ok texts ↔ .arr entries = strings texts := by
  rw [strings, Value.arr.injEq]
  induction entries generalizing texts with
  | nil => cases texts <;> simp [List.mapM_nil, pure_eq_ok]
  | cons entry entries ih =>
    rw [List.mapM_cons]
    simp only [bind_eq_ok, asStr_iff, pure_eq_ok, ih]
    constructor
    · rintro ⟨text, rfl, rest, rfl, rfl⟩
      rfl
    · intro h
      cases texts with
      | nil => cases h
      | cons text texts =>
        obtain ⟨hentry, hrest⟩ := List.cons.inj h
        exact ⟨text, hentry, texts, hrest, rfl⟩

theorem stringList_iff {base : String} :
    stringList v base key = .ok texts ↔ v.get key = some (strings texts) := by
  simp only [stringList, bind_eq_ok, typed_iff, asArray_iff, mapM_asStr_iff]
  constructor
  · rintro ⟨entries, ⟨w, hw, rfl⟩, hentries⟩
    rw [hw, hentries]
  · intro h
    exact ⟨_, ⟨_, h, rfl⟩, rfl⟩

theorem nonEmptyStr_iff {base : String} :
    nonEmptyStr v base key = .ok text ↔ v.get key = some (.str text) ∧ text ≠ "" := by
  simp only [nonEmptyStr, nonEmpty, bind_eq_ok, typed_iff, asStr_iff, refuseIf_eq_ok, pure_eq_ok]
  simp

theorem positiveI64_iff {base : String} :
    positiveI64 v base key = .ok n ↔ v.get key = some (.integer n) ∧ 0 < n := by
  simp only [positiveI64, positive, bind_eq_ok, typed_iff, asI64_iff, refuseIf_eq_ok, pure_eq_ok]
  simp

theorem unique_iff {seen seen' : List String} {id : String} :
    unique seen kind id = .ok seen' ↔ id ∉ seen ∧ seen' = seen ++ [id] := by
  unfold unique
  split <;> simp_all [eq_comm]

theorem uniqueList_iff {values : List String} : uniqueList values kind = .ok u ↔ values.Nodup := by
  have hfold : ∀ (l seen : List String), seen.Nodup →
      ((∃ seen', l.foldlM (fun seen value => unique seen kind value) seen = .ok seen') ↔
        (seen ++ l).Nodup) := by
    intro l
    induction l with
    | nil =>
      intro seen hseen
      simp [List.foldlM_nil, pure_eq_ok, hseen]
    | cons value l ih =>
      intro seen hseen
      simp only [List.foldlM_cons, bind_eq_ok, unique_iff]
      constructor
      · rintro ⟨seen'', _, ⟨hnew, rfl⟩, h⟩
        have h' := (ih _ (nodup_concat.mpr ⟨hnew, hseen⟩)).mp ⟨seen'', h⟩
        rwa [List.append_assoc] at h'
      · intro h
        have hsplit : (seen ++ [value] ++ l).Nodup := by rwa [List.append_assoc]
        have hnext : (seen ++ [value]).Nodup := (List.nodup_append.mp hsplit).1
        obtain ⟨seen'', h''⟩ := (ih _ hnext).mpr hsplit
        exact ⟨seen'', _, ⟨(nodup_concat.mp hnext).1, rfl⟩, h''⟩
  have h := hfold values [] List.nodup_nil
  rw [List.nil_append] at h
  simp only [← h, uniqueList, bind_eq_ok, pure_eq_ok, and_true]

theorem stringSet_iff {base : String} :
    stringSet v base key kind = .ok texts ↔ v.get key = some (strings texts) ∧ texts.Nodup := by
  simp only [stringSet, bind_eq_ok, stringList_iff, uniqueList_iff, pure_eq_ok]
  simp

theorem asVersion_iff (hn : 0 < n) {version : UInt32} :
    asVersion n location = .ok version ↔ n = version.toNat := by
  have hlt := version.toNat_lt
  unfold asVersion
  split
  · rename_i h
    rw [Except.ok.injEq, ← UInt32.toNat_inj, UInt32.toNat_ofNat']
    omega
  · simp
    omega

theorem rejectUnknownFields_iff {base : String} {allowed : List String} :
    rejectUnknownFields v base allowed = .ok u ↔ ∀ key w, v.get key = some w → key ∈ allowed := by
  cases v with
  | obj fields =>
    have hknown : rejectUnknownFields (.obj fields) base allowed = .ok u ↔
        ∀ key ∈ fields.map Prod.fst, key ∈ allowed := by
      simp only [rejectUnknownFields]
      split
      · rename_i unknown hfind
        have hmem := List.mem_of_find?_eq_some hfind
        have hbad := List.find?_some hfind
        simp only [reduceCtorEq, false_iff]
        intro hall
        simp [hall unknown hmem] at hbad
      · rename_i hfind
        rw [List.find?_eq_none] at hfind
        simpa using hfind
    rw [hknown]
    constructor
    · intro hall key w hw
      exact hall key (List.mem_map.mpr ⟨(key, w), SortedAssoc.mem_of_find hw, rfl⟩)
    · intro hall key hkey
      obtain ⟨⟨key, v⟩, hmem, rfl⟩ := List.mem_map.mp hkey
      cases hfind : SortedAssoc.find key fields with
      | none => exact absurd hmem (SortedAssoc.find_eq_none_iff.mp hfind v)
      | some w => exact hall key w hfind
  | _ => simp [rejectUnknownFields, Value.get]

/-- A field that is a text and not empty. -/
def HasText (v : Value) (key text : String) : Prop := v.get key = some (.str text) ∧ text ≠ ""

/-- A field that is a positive number. -/
def HasPositive (v : Value) (key : String) (n : Int) : Prop :=
  v.get key = some (.integer n) ∧ 0 < n

/-- A field that is a list of distinct texts. -/
def HasSet (v : Value) (key : String) (texts : List String) : Prop :=
  v.get key = some (strings texts) ∧ texts.Nodup

/-- A field that is a truth value; it is true where it is absent. -/
def HasFlag (v : Value) (key : String) (b : Bool) : Prop :=
  v.get key = some (.bool b) ∨ v.get key = none ∧ b = true

theorem HasText.congr (h : HasText v key text) (heq : w.get key = v.get key) :
    HasText w key text := ⟨heq.trans h.1, h.2⟩

theorem HasPositive.congr (h : HasPositive v key n) (heq : w.get key = v.get key) :
    HasPositive w key n := ⟨heq.trans h.1, h.2⟩

theorem HasFlag.congr (h : HasFlag v key b) (heq : w.get key = v.get key) : HasFlag w key b := by
  unfold HasFlag at *
  rwa [heq]

theorem flag_iff {base : String} : optional asBool v base key true = .ok b ↔ HasFlag v key b := by
  simp only [optional_iff, asBool_iff, exists_eq_right, HasFlag]

/-! ## Declarations of one kind -/

/-- Each entry declares its own value, and the identities of the values are distinct. -/
def Declarations {α : Type} (P : Value → α → Prop) (id : α → String) (entries : List Value)
    (as : List α) : Prop :=
  List.Forall₂ P entries as ∧ (as.map id).Nodup

/-- Compiling one declaration succeeds with what the entry declares when its identity is new. -/
def DeclaresBy {α : Type} (one : Nat → List String → Value → Compiles (α × List String))
    (P : Value → α → Prop) (id : α → String) : Prop :=
  ∀ index seen entry a seen', one index seen entry = .ok (a, seen') ↔
    P entry a ∧ id a ∉ seen ∧ seen' = seen ++ [id a]

theorem declarations_iff {P : Value → α → Prop} {id : α → String}
    {one : Nat → List String → Value → Compiles (α × List String)} (hone : DeclaresBy one P id)
    {entries : List Value} {as : List α} :
    declarations one 0 [] entries = .ok as ↔ Declarations P id entries as := by
  have hseen : ∀ (entries : List Value) (index : Nat) (seen : List String) (as : List α),
      declarations one index seen entries = .ok as ↔
        List.Forall₂ P entries as ∧ (as.map id).Nodup ∧ ∀ a ∈ as, id a ∉ seen := by
    intro entries
    induction entries with
    | nil =>
      intro index seen as
      cases as <;> simp [declarations]
    | cons entry entries ih =>
      intro index seen as
      simp only [declarations, bind_eq_ok, pure_eq_ok, Prod.exists, hone index seen entry, ih]
      constructor
      · rintro ⟨a, _, ⟨hentry, hnew, rfl⟩, rest, ⟨hrest, hnodup, hfresh⟩, rfl⟩
        simp only [List.mem_append, List.mem_singleton, not_or] at hfresh
        refine ⟨.cons hentry hrest, ?_, ?_⟩
        · rw [List.map_cons, List.nodup_cons]
          refine ⟨fun hmem => ?_, hnodup⟩
          obtain ⟨b, hb, heq⟩ := List.mem_map.mp hmem
          exact (hfresh b hb).2 heq
        · rw [List.forall_mem_cons]
          exact ⟨hnew, fun b hb => (hfresh b hb).1⟩
      · rintro ⟨hall, hnodup, hfresh⟩
        cases hall with
        | cons hentry hrest =>
          rename_i a rest
          rw [List.map_cons, List.nodup_cons] at hnodup
          rw [List.forall_mem_cons] at hfresh
          refine ⟨a, _, ⟨hentry, hfresh.1, rfl⟩, rest, ⟨hrest, hnodup.2, fun b hb => ?_⟩, rfl⟩
          rw [List.mem_append, List.mem_singleton, not_or]
          exact ⟨hfresh.2 b hb, fun heq => hnodup.1 (heq ▸ List.mem_map_of_mem hb)⟩
  rw [hseen, Declarations]
  simp

end Reader

open Reader

/-! ## Agents -/

/-- How an entry declares an agent. -/
structure Agent.Declared (entry : Value) (a : Agent) : Prop where
  known : ∀ key v, entry.get key = some v → key ∈ Compile.agentFields
  name : HasText entry "name" a.name
  version : HasPositive entry "version" a.version.toNat
  enabled : HasFlag entry "enabled" a.enabled
  current : HasFlag entry "current" a.current
  accepts : HasSet entry "accepts" a.accepts ∧ a.accepts ≠ []
  competencies : HasSet entry "competencies" a.competencies ∧ a.competencies ≠ []
  routePolicy : entry.get "routePolicy" = some (.str a.routePolicy)
  executionFeatures : HasSet entry "executionFeatures" a.executionFeatures
  minContextTokens : HasPositive entry "minContextTokens" a.minContextTokens
  sandboxProfile : entry.get "sandboxProfile" = some (.str a.sandboxProfile)
  sandboxRequirements : HasSet entry "sandboxRequirements" a.sandboxRequirements
  actions : HasSet entry "actions" a.actions ∧
    ∀ action ∈ a.actions, action ∈ Compile.actions ∧ action ≠ Compile.hardDeniedAction
  soul : HasText entry "soul" a.soul ∧ a.soul.length ≤ Compile.maxGuidanceChars
  behavior : HasText entry "behavior" a.behavior ∧ a.behavior.length ≤ Compile.maxGuidanceChars

/-- The identity under which an agent is declared once. -/
def Agent.declaredId (a : Agent) : String := s!"{a.name}@{(a.version.toNat : Int)}"

namespace Compile

theorem checkAction_iff {base name action : String} :
    checkAction base name action = .ok u ↔ action ∈ actions ∧ action ≠ hardDeniedAction := by
  simp only [checkAction, bind_eq_ok, refuseIf_eq_ok, exists_const, not_not, ne_eq]

theorem guidance_iff {entry : Value} {base : String} :
    guidance entry base key = .ok text ↔ HasText entry key text ∧ text.length ≤ maxGuidanceChars := by
  simp only [guidance, bind_eq_ok, nonEmptyStr_iff, refuseIf_eq_ok, pure_eq_ok, HasText]
  simp

theorem agent_declares : DeclaresBy agent Agent.Declared Agent.declaredId := by
  intro index seen entry a seen'
  simp only [agent, bind_eq_ok, pure_eq_ok, Prod.mk.injEq, rejectUnknownFields_iff, nonEmptyStr_iff,
    positiveI64_iff, unique_iff, stringSet_iff, forM_eq_ok, checkAction_iff, stringList_iff,
    nonEmptyList, uniqueList_iff, refuseIf_eq_ok, guidance_iff, flag_iff, typed_iff, asStr_iff,
    exists_eq_right]
  constructor
  · rintro ⟨_, hknown, name, hname, n, hn, _, ⟨hnew, rfl⟩, tokens, htokens, acts, hacts, _, hallowed,
      accepts, haccepts, _, hsome, _, hdistinct, competencies, hcompetencies, _, hsome', _, hdistinct',
      soul, hsoul, behavior, hbehavior, version, hversion, enabled, henabled, current, hcurrent,
      policy, hpolicy, features, hfeatures, profile, hprofile, requirements, hrequirements, rfl, rfl⟩
    rw [asVersion_iff hn.2] at hversion
    subst hversion
    exact ⟨{
      known := hknown, name := hname, version := hn, enabled := henabled, current := hcurrent
      accepts := ⟨⟨haccepts, hdistinct⟩, hsome⟩
      competencies := ⟨⟨hcompetencies, hdistinct'⟩, hsome'⟩
      routePolicy := hpolicy, executionFeatures := hfeatures, minContextTokens := htokens
      sandboxProfile := hprofile, sandboxRequirements := hrequirements
      actions := ⟨hacts, hallowed⟩, soul := hsoul, behavior := hbehavior }, hnew, rfl⟩
  · rintro ⟨h, hnew, rfl⟩
    exact ⟨(), h.known, a.name, h.name, a.version.toNat, h.version, _, ⟨hnew, rfl⟩,
      a.minContextTokens, h.minContextTokens, a.actions, h.actions.1, (), h.actions.2,
      a.accepts, h.accepts.1.1, (), h.accepts.2, (), h.accepts.1.2,
      a.competencies, h.competencies.1.1, (), h.competencies.2, (), h.competencies.1.2,
      a.soul, h.soul, a.behavior, h.behavior, a.version, (asVersion_iff h.version.2).mpr rfl,
      a.enabled, h.enabled, a.current, h.current, a.routePolicy, h.routePolicy,
      a.executionFeatures, h.executionFeatures, a.sandboxProfile, h.sandboxProfile,
      a.sandboxRequirements, h.sandboxRequirements, rfl, rfl⟩

end Compile

/-! ## Routing -/

/-- How an entry declares a route policy. -/
structure RoutePolicy.Declared (entry : Value) (p : RoutePolicy) : Prop where
  name : HasText entry "name" p.name
  priority : entry.get "priority" = some (.integer p.priority) ∨
    entry.get "priority" = none ∧ p.priority = 0
  ordering : entry.get "ordering" = some (strings p.ordering) ∧
    ∀ key ∈ p.ordering, key ∈ Compile.routePreferenceKeys
  tieBreak : HasText entry "tieBreak" p.tieBreak ∧ p.tieBreak ∈ Compile.routeTieBreakKeys
  requiresKeyedLaunch : HasFlag entry "requiresKeyedLaunch" p.requiresKeyedLaunch

/-- How an entry refers to an agent. -/
structure LogicalAgentVersion.Declared (entry : Value) (r : LogicalAgentVersion) : Prop where
  name : HasText entry "name" r.name
  version : HasPositive entry "version" r.version.toNat

def LogicalAgentVersion.declaredId (r : LogicalAgentVersion) : String := s!"{r.name}@{r.version}"

/-- References to agents under a key that may be absent. -/
def ReferencesDeclared (v : Value) (key : String) (references : List LogicalAgentVersion) : Prop :=
  v.get key = none ∧ references = [] ∨ ∃ entries, v.get key = some (.arr entries) ∧
    Declarations LogicalAgentVersion.Declared LogicalAgentVersion.declaredId entries references

structure RoutingComponent.Declared (v : Value) (c : RoutingComponent) : Prop where
  policies : ∃ entries, v.get "policies" = some (.arr entries) ∧
    Declarations RoutePolicy.Declared RoutePolicy.name entries c.policies
  agentPins : ReferencesDeclared v "agentPins" c.agentPins
  agentExclusions : ReferencesDeclared v "agentExclusions" c.agentExclusions

namespace Compile

theorem routePolicy_declares :
    DeclaresBy routePolicy RoutePolicy.Declared RoutePolicy.name := by
  intro index seen entry p seen'
  simp only [routePolicy, bind_eq_ok, pure_eq_ok, Prod.mk.injEq, nonEmptyStr_iff, unique_iff,
    optional_iff, asI64_iff, asBool_iff, stringList_iff, forM_eq_ok, checkPreference,
    refuseIf_eq_ok, not_not, exists_eq_right]
  constructor
  · rintro ⟨name, hname, _, ⟨hnew, rfl⟩, priority, hpriority, ordering, hordering, _, hkeys, tieBreak,
      htie, _, hknown, keyed, hkeyed, rfl, rfl⟩
    exact ⟨⟨hname, hpriority, ⟨hordering, hkeys⟩, ⟨htie, hknown⟩, hkeyed⟩, hnew, rfl⟩
  · rintro ⟨h, hnew, rfl⟩
    exact ⟨p.name, h.name, _, ⟨hnew, rfl⟩, p.priority, h.priority, p.ordering, h.ordering.1, (),
      h.ordering.2, p.tieBreak, h.tieBreak.1, (), h.tieBreak.2, p.requiresKeyedLaunch,
      h.requiresKeyedLaunch, rfl, rfl⟩

theorem agentReference_declares (key : String) : DeclaresBy (agentReference key)
    LogicalAgentVersion.Declared LogicalAgentVersion.declaredId := by
  intro index seen entry r seen'
  simp only [agentReference, bind_eq_ok, pure_eq_ok, Prod.mk.injEq, nonEmptyStr_iff,
    positiveI64_iff, unique_iff]
  constructor
  · rintro ⟨name, hname, n, hn, version, hversion, _, ⟨hnew, rfl⟩, rfl, rfl⟩
    rw [asVersion_iff hn.2] at hversion
    subst hversion
    exact ⟨⟨hname, hn⟩, hnew, rfl⟩
  · rintro ⟨h, hnew, rfl⟩
    exact ⟨r.name, h.name, r.version.toNat, h.version, r.version,
      (asVersion_iff h.version.2).mpr rfl, _, ⟨hnew, rfl⟩, rfl, rfl⟩

theorem agentReferences_iff {references : List LogicalAgentVersion} :
    agentReferences v key = .ok references ↔ ReferencesDeclared v key references := by
  unfold agentReferences ReferencesDeclared
  cases v.get key with
  | none =>
    simp only [pure_eq_ok, true_and, reduceCtorEq, false_and, exists_false, or_false]
    exact eq_comm
  | some raw =>
    simp [bind_eq_ok, asArray_iff, declarations_iff (agentReference_declares key)]

theorem routing_iff {c : RoutingComponent} :
    routing v = .ok c ↔ RoutingComponent.Declared v c := by
  simp only [routing, bind_eq_ok, pure_eq_ok, typed_iff, asArray_iff, exists_eq_right,
    declarations_iff routePolicy_declares, agentReferences_iff]
  constructor
  · rintro ⟨entries, hentries, policies, hpolicies, pins, hpins, exclusions, hexclusions, rfl⟩
    exact ⟨⟨entries, hentries, hpolicies⟩, hpins, hexclusions⟩
  · rintro ⟨⟨entries, hentries, hpolicies⟩, hpins, hexclusions⟩
    exact ⟨entries, hentries, _, hpolicies, _, hpins, _, hexclusions, rfl⟩

end Compile

/-! ## Execution -/

/-- How an entry declares a sandbox profile. -/
structure SandboxProfile.Declared (entry : Value) (p : SandboxProfile) : Prop where
  name : HasText entry "name" p.name
  isolationClass : entry.get "isolationClass" = some (.str p.isolationClass.asStr)
  guarantees : HasSet entry "guarantees" p.guarantees
  networkMode : entry.get "networkMode" = some (.str p.networkMode.asStr)
  environmentIdentity : HasText entry "environmentIdentity" p.environmentIdentity

/-- How an entry declares a backend. -/
structure BackendRegistration.Declared (entry : Value) (b : BackendRegistration) : Prop where
  backendId : HasText entry "backendId" b.backendId
  enabled : entry.get "enabled" = some (.bool b.enabled)
  selector : HasText entry "selector" b.selector

structure ExecutionComponent.Declared (v : Value) (c : ExecutionComponent) : Prop where
  profiles : ∃ entries, v.get "profiles" = some (.arr entries) ∧
    Declarations SandboxProfile.Declared SandboxProfile.name entries c.profiles
  backends : ∃ entries, v.get "backends" = some (.arr entries) ∧
    Declarations BackendRegistration.Declared BackendRegistration.backendId entries c.backends

namespace Compile

theorem isolationClass_iff {c : IsolationClass} :
    isolationClass text location = .ok c ↔ text = c.asStr := by
  unfold isolationClass
  split <;> cases c <;> simp_all [IsolationClass.asStr]

theorem networkMode_iff {m : NetworkMode} :
    networkMode text location = .ok m ↔ text = m.asStr := by
  unfold networkMode
  split <;> cases m <;> simp_all [NetworkMode.asStr]

theorem sandboxProfile_declares :
    DeclaresBy sandboxProfile SandboxProfile.Declared SandboxProfile.name := by
  intro index seen entry p seen'
  simp only [sandboxProfile, bind_eq_ok, pure_eq_ok, Prod.mk.injEq, nonEmptyStr_iff, unique_iff,
    typed_iff, asStr_iff, exists_eq_right, isolationClass_iff, networkMode_iff, stringSet_iff]
  constructor
  · rintro ⟨name, hname, _, ⟨hnew, rfl⟩, _, hclass, c, rfl, _, hmode, m, rfl, environment,
      henvironment, guarantees, hguarantees, rfl, rfl⟩
    exact ⟨⟨hname, hclass, hguarantees, hmode, henvironment⟩, hnew, rfl⟩
  · rintro ⟨h, hnew, rfl⟩
    exact ⟨p.name, h.name, _, ⟨hnew, rfl⟩, _, h.isolationClass, p.isolationClass, rfl, _,
      h.networkMode, p.networkMode, rfl, p.environmentIdentity, h.environmentIdentity,
      p.guarantees, h.guarantees, rfl, rfl⟩

theorem backend_declares :
    DeclaresBy backend BackendRegistration.Declared BackendRegistration.backendId := by
  intro index seen entry b seen'
  simp only [backend, bind_eq_ok, pure_eq_ok, Prod.mk.injEq, nonEmptyStr_iff, unique_iff,
    typed_iff, asBool_iff, exists_eq_right]
  constructor
  · rintro ⟨id, hid, _, ⟨hnew, rfl⟩, selector, hselector, enabled, henabled, rfl, rfl⟩
    exact ⟨⟨hid, henabled, hselector⟩, hnew, rfl⟩
  · rintro ⟨h, hnew, rfl⟩
    exact ⟨b.backendId, h.backendId, _, ⟨hnew, rfl⟩, b.selector, h.selector, b.enabled,
      h.enabled, rfl, rfl⟩

theorem execution_iff {c : ExecutionComponent} :
    execution v = .ok c ↔ ExecutionComponent.Declared v c := by
  simp only [execution, bind_eq_ok, pure_eq_ok, typed_iff, asArray_iff, exists_eq_right,
    declarations_iff sandboxProfile_declares, declarations_iff backend_declares]
  constructor
  · rintro ⟨entries, hentries, profiles, hprofiles, entries', hentries', backends, hbackends, rfl⟩
    exact ⟨⟨entries, hentries, hprofiles⟩, ⟨entries', hentries', hbackends⟩⟩
  · rintro ⟨⟨entries, hentries, hprofiles⟩, ⟨entries', hentries', hbackends⟩⟩
    exact ⟨entries, hentries, _, hprofiles, entries', hentries', _, hbackends, rfl⟩

end Compile

/-! ## Evaluators -/

/-- How an entry declares an evaluator version. -/
structure EvaluatorVersion.Declared (entry : Value) (e : EvaluatorVersion) : Prop where
  id : HasText entry "id" e.id
  kind : entry.get "kind" = some (.str e.kind.asStr)
  argv : entry.get "argv" = some (strings e.argv) ∧ e.argv ≠ []
  timeoutMs : HasPositive entry "timeoutMs" e.timeoutMs
  sandboxProfile : entry.get "sandboxProfile" = some (.str e.sandboxProfile)
  resultProtocol : HasText entry "resultProtocol" e.resultProtocol

/-- How an entry declares an evaluator reference. -/
structure EvaluatorRef.Declared (entry : Value) (r : EvaluatorRef) : Prop where
  reference : HasText entry "ref" r.reference
  currentVersion : entry.get "currentVersion" = some (.str r.currentVersion)

structure EvaluatorComponent.Declared (v : Value) (c : EvaluatorComponent) : Prop where
  versions : ∃ entries, v.get "versions" = some (.arr entries) ∧
    Declarations EvaluatorVersion.Declared EvaluatorVersion.id entries c.versions
  refs : ∃ entries, v.get "refs" = some (.arr entries) ∧
    Declarations EvaluatorRef.Declared EvaluatorRef.reference entries c.refs

namespace Compile

theorem evaluatorKind_iff {k : EvaluatorKind} :
    evaluatorKind text location = .ok k ↔ text = k.asStr := by
  unfold evaluatorKind
  split <;> cases k <;> simp_all [EvaluatorKind.asStr]

theorem evaluatorVersion_declares :
    DeclaresBy evaluatorVersion EvaluatorVersion.Declared EvaluatorVersion.id := by
  intro index seen entry e seen'
  simp only [evaluatorVersion, bind_eq_ok, pure_eq_ok, Prod.mk.injEq, nonEmptyStr_iff, unique_iff,
    typed_iff, asStr_iff, exists_eq_right, evaluatorKind_iff, stringList_iff, refuseIf_eq_ok,
    positiveI64_iff]
  constructor
  · rintro ⟨id, hid, _, ⟨hnew, rfl⟩, _, hkind, kind, rfl, argv, hargv, _, hsome, timeout, htimeout,
      protocol, hprotocol, profile, hprofile, rfl, rfl⟩
    exact ⟨⟨hid, hkind, ⟨hargv, hsome⟩, htimeout, hprofile, hprotocol⟩, hnew, rfl⟩
  · rintro ⟨h, hnew, rfl⟩
    exact ⟨e.id, h.id, _, ⟨hnew, rfl⟩, _, h.kind, e.kind, rfl, e.argv, h.argv.1, (), h.argv.2,
      e.timeoutMs, h.timeoutMs, e.resultProtocol, h.resultProtocol, e.sandboxProfile,
      h.sandboxProfile, rfl, rfl⟩

theorem evaluatorRef_declares :
    DeclaresBy evaluatorRef EvaluatorRef.Declared EvaluatorRef.reference := by
  intro index seen entry r seen'
  simp only [evaluatorRef, bind_eq_ok, pure_eq_ok, Prod.mk.injEq, nonEmptyStr_iff, unique_iff,
    typed_iff, asStr_iff, exists_eq_right]
  constructor
  · rintro ⟨reference, hreference, _, ⟨hnew, rfl⟩, version, hversion, rfl, rfl⟩
    exact ⟨⟨hreference, hversion⟩, hnew, rfl⟩
  · rintro ⟨h, hnew, rfl⟩
    exact ⟨r.reference, h.reference, _, ⟨hnew, rfl⟩, r.currentVersion, h.currentVersion, rfl, rfl⟩

theorem evaluators_iff {c : EvaluatorComponent} :
    evaluators v = .ok c ↔ EvaluatorComponent.Declared v c := by
  simp only [evaluators, bind_eq_ok, pure_eq_ok, typed_iff, asArray_iff, exists_eq_right,
    declarations_iff evaluatorVersion_declares, declarations_iff evaluatorRef_declares]
  constructor
  · rintro ⟨entries, hentries, versions, hversions, entries', hentries', refs, hrefs, rfl⟩
    exact ⟨⟨entries, hentries, hversions⟩, ⟨entries', hentries', hrefs⟩⟩
  · rintro ⟨⟨entries, hentries, hversions⟩, ⟨entries', hentries', hrefs⟩⟩
    exact ⟨entries, hentries, _, hversions, entries', hentries', _, hrefs, rfl⟩

end Compile

/-! ## Cross references -/

/-- A profile suits an agent: it asserts what the agent requires, and isolates the control plane
    from an agent that may run commands. -/
def Agent.Suits (a : Agent) (profile : SandboxProfile) : Prop :=
  (∀ required ∈ a.sandboxRequirements, required ∈ profile.guarantees) ∧
  ((∃ action ∈ a.actions, action ∈ Compile.controlPlaneActions) →
    profile.isolationClass.canIsolateControlPlane = true ∧
      Compile.controlPlaneGuarantee ∈ profile.guarantees)

/-- What holds between the components of a compiled configuration. -/
structure CompiledConfiguration.Consistent (c : CompiledConfiguration) : Prop where
  distinct : (c.agents.agents.map Agent.identity).Nodup
  oneCurrent : ((c.agents.agents.filter Agent.current).map Agent.name).Nodup
  routed : ∀ a ∈ c.agents.agents, a.routePolicy ∈ c.routing.policies.map RoutePolicy.name
  profiled : ∀ a ∈ c.agents.agents, ∃ profile,
    c.execution.profiles.find? (fun profile => profile.name == a.sandboxProfile) = some profile ∧
      a.Suits profile
  pins : ∀ r ∈ c.routing.agentPins, r ∈ c.agents.agents.map Agent.identity
  exclusions : ∀ r ∈ c.routing.agentExclusions, r ∈ c.agents.agents.map Agent.identity
  disjoint : ∀ r ∈ c.routing.agentPins, r ∉ c.routing.agentExclusions
  evaluatorProfiles : ∀ e ∈ c.evaluators.versions,
    e.sandboxProfile ∈ c.execution.profiles.map SandboxProfile.name
  evaluatorVersions : ∀ r ∈ c.evaluators.refs,
    r.currentVersion ∈ c.evaluators.versions.map EvaluatorVersion.id
  dropped : ∀ s ∈ c.context.optionalDropOrder, s ∉ c.context.mandatorySections
  preloaded : ∀ s ∈ c.context.preloadPriority,
    s ∈ c.context.mandatorySections ∨ s ∈ c.context.optionalDropOrder

namespace Compile

theorem agentProfile_iff {a : Agent} {profile : SandboxProfile} :
    agentProfile a profile = .ok u ↔ a.Suits profile := by
  simp only [agentProfile, bind_eq_ok, forM_eq_ok, refuseIf_eq_ok, not_not, exists_const]
  refine and_congr Iff.rfl ?_
  split
  · rename_i hnone
    rw [List.find?_eq_none] at hnone
    simp only [pure_eq_ok, true_iff]
    rintro ⟨action, haction, hcontrol⟩
    exact absurd (List.contains_iff_mem.mpr hcontrol) (hnone action haction)
  · rename_i action hsome
    have hmem := List.mem_of_find?_eq_some hsome
    have hcontrol := List.contains_iff_mem.mp (List.find?_some hsome)
    simp only [bind_eq_ok, refuseIf_eq_ok, not_not, exists_const, Bool.not_eq_false]
    exact ⟨fun h _ => h, fun h => h ⟨action, hmem, hcontrol⟩⟩

/-- The rules for one agent, given what was collected before it. -/
theorem agentRules_iff {a : Agent} {declared declared' : List LogicalAgentVersion × List String} :
    agentRules c declared a = .ok declared' ↔
      a.identity ∉ declared.1 ∧ ¬(a.current = true ∧ a.name ∈ declared.2) ∧
      a.routePolicy ∈ c.routing.policies.map RoutePolicy.name ∧
      (∃ profile, c.execution.profiles.find? (fun profile => profile.name == a.sandboxProfile) =
        some profile ∧ a.Suits profile) ∧
      declared' = (declared.1 ++ [a.identity],
        if a.current then declared.2 ++ [a.name] else declared.2) := by
  simp only [agentRules, bind_eq_ok, refuseIf_eq_ok, not_not, exists_const]
  refine and_congr Iff.rfl (and_congr Iff.rfl (and_congr Iff.rfl ?_))
  split
  · rename_i hnone
    simp [hnone]
  · rename_i profile hsome
    simp only [hsome, bind_eq_ok, agentProfile_iff, pure_eq_ok, exists_const, Option.some.injEq,
      exists_eq_left']
    exact and_congr Iff.rfl eq_comm

/-- The names collected with one agent. -/
theorem currentNames_cons (names : List String) (a : Agent) (as : List Agent) :
    (if a.current then names ++ [a.name] else names) ++ (as.filter Agent.current).map Agent.name =
      names ++ ((a :: as).filter Agent.current).map Agent.name := by
  cases h : a.current <;> simp [h]

/-- The rules for all agents hold together when each holds and what they collect is distinct. -/
theorem agentsRules_iff {as : List Agent}
    {declared declared' : List LogicalAgentVersion × List String} (hids : declared.1.Nodup)
    (hnames : declared.2.Nodup) : as.foldlM (agentRules c) declared = .ok declared' ↔
      declared' = (declared.1 ++ as.map Agent.identity,
        declared.2 ++ (as.filter Agent.current).map Agent.name) ∧
      declared'.1.Nodup ∧ declared'.2.Nodup ∧ ∀ a ∈ as,
        a.routePolicy ∈ c.routing.policies.map RoutePolicy.name ∧
        ∃ profile, c.execution.profiles.find? (fun profile => profile.name == a.sandboxProfile) =
          some profile ∧ a.Suits profile := by
  induction as generalizing declared with
  | nil =>
    simp only [List.foldlM_nil, pure_eq_ok, List.map_nil, List.filter_nil, List.append_nil]
    constructor
    · rintro rfl
      exact ⟨rfl, hids, hnames, nofun⟩
    · rintro ⟨rfl, -⟩
      rfl
  | cons a as ih =>
    simp only [List.foldlM_cons, bind_eq_ok, agentRules_iff]
    constructor
    · rintro ⟨_, ⟨hnew, hcurrent, hroute, hprofile, rfl⟩, h⟩
      have hnames' : (if a.current then declared.2 ++ [a.name] else declared.2).Nodup := by
        cases ha : a.current with
        | false => exact hnames
        | true => exact nodup_concat.mpr ⟨fun hmem => hcurrent ⟨ha, hmem⟩, hnames⟩
      rw [ih (nodup_concat.mpr ⟨hnew, hids⟩) hnames'] at h
      obtain ⟨rfl, hids', hnames', hrest⟩ := h
      rw [currentNames_cons, List.append_assoc] at *
      exact ⟨rfl, hids', hnames', List.forall_mem_cons.mpr ⟨⟨hroute, hprofile⟩, hrest⟩⟩
    · rintro ⟨rfl, hids', hnames', hall⟩
      obtain ⟨⟨hroute, hprofile⟩, hrest⟩ := List.forall_mem_cons.mp hall
      rw [← currentNames_cons] at hnames'
      have hids'' : (declared.1 ++ [a.identity] ++ as.map Agent.identity).Nodup := by
        rwa [List.append_assoc]
      have hnext := (List.nodup_append.mp hids'').1
      have hnextNames := (List.nodup_append.mp hnames').1
      refine ⟨_, ⟨(nodup_concat.mp hnext).1, ?_, hroute, hprofile, rfl⟩, ?_⟩
      · rintro ⟨ha, hmem⟩
        rw [if_pos ha] at hnextNames
        exact (nodup_concat.mp hnextNames).1 hmem
      · rw [ih hnext hnextNames]
        refine ⟨?_, hids', ?_, hrest⟩
        · rw [currentNames_cons, List.append_assoc]
          rfl
        · rwa [← currentNames_cons]

theorem validateAgentReferences_iff {declared references : List LogicalAgentVersion} :
    validateAgentReferences declared references kind = .ok u ↔
      ∀ r ∈ references, r ∈ declared := by
  simp only [validateAgentReferences, forM_eq_ok, refuseIf_eq_ok, not_not]

theorem crossReferences_iff : crossReferences c = .ok u ↔ c.Consistent := by
  have hids : ((([], []) : List LogicalAgentVersion × List String)).1.Nodup := List.nodup_nil
  simp only [crossReferences, bind_eq_ok, agentsRules_iff hids List.nodup_nil,
    List.nil_append, validateAgentReferences_iff, forM_eq_ok, refuseIf_eq_ok, not_not,
    exists_const, not_and_or]
  constructor
  · rintro ⟨_, ⟨rfl, hids, hnames, hagents⟩, hpins, hexclusions, hdisjoint, hprofiles, hversions,
      hdropped, hpreloaded⟩
    exact ⟨hids, hnames, fun a ha => (hagents a ha).1, fun a ha => (hagents a ha).2, hpins,
      hexclusions, hdisjoint, hprofiles, hversions, hdropped, hpreloaded⟩
  · intro h
    exact ⟨_, ⟨rfl, h.distinct, h.oneCurrent, fun a ha => ⟨h.routed a ha, h.profiled a ha⟩⟩,
      h.pins, h.exclusions, h.disjoint, h.evaluatorProfiles, h.evaluatorVersions, h.dropped,
      h.preloaded⟩

end Compile

/-! ## The whole source -/

/-- How a parsed source declares the components of a configuration. -/
structure CompiledConfiguration.Declared (root : Value) (c : CompiledConfiguration) : Prop where
  agents : ∃ entries, root.get "agents" = some (.arr entries) ∧
    Declarations Agent.Declared Agent.declaredId entries c.agents.agents
  routing : ∃ v, root.get "routing" = some v ∧ RoutingComponent.Declared v c.routing
  execution : ∃ v, root.get "execution" = some v ∧ ExecutionComponent.Declared v c.execution
  evaluators : ∃ v, root.get "evaluators" = some v ∧ EvaluatorComponent.Declared v c.evaluators
  context : ∃ v, root.get "context" = some v ∧ Compile.context v = .ok c.context
  authorization : ∃ v, root.get "authorization" = some v ∧
    Compile.authorization v = .ok c.authorization

/-- A configuration is compiled from a source exactly when the source parses, declares its
    components, and the cross references hold. -/
theorem compile_iff {source : String} : compile source = .ok c ↔
    ∃ root, parse source = .ok root ∧ CompiledConfiguration.Declared root c ∧ c.Consistent := by
  have hparse : ∀ root, (parse source).mapError ConfigError.Malformed = .ok root ↔
      parse source = .ok root := by
    intro root
    cases parse source <;> simp [Except.mapError]
  simp only [compile, bind_eq_ok, pure_eq_ok, hparse, field_iff, Compile.agents, asArray_iff,
    declarations_iff Compile.agent_declares, Compile.routing_iff, Compile.execution_iff,
    Compile.evaluators_iff, Compile.crossReferences_iff, exists_const]
  constructor
  · rintro ⟨root, hroot, _, hagents, _, ⟨entries, rfl, as, has, rfl⟩, rv, hrv, routing, hrouting, xv,
      hxv, execution, hexecution, ev, hev, evaluators, hevaluators, cv, hcv, context, hcontext, av,
      hav, authorization, hauthorization, hconsistent, rfl⟩
    exact ⟨root, hroot, ⟨⟨entries, hagents, has⟩, ⟨rv, hrv, hrouting⟩, ⟨xv, hxv, hexecution⟩,
      ⟨ev, hev, hevaluators⟩, ⟨cv, hcv, hcontext⟩, ⟨av, hav, hauthorization⟩⟩, hconsistent⟩
  · rintro ⟨root, hroot, ⟨⟨entries, hagents, has⟩, ⟨rv, hrv, hrouting⟩, ⟨xv, hxv, hexecution⟩,
      ⟨ev, hev, hevaluators⟩, ⟨cv, hcv, hcontext⟩, ⟨av, hav, hauthorization⟩⟩, hconsistent⟩
    exact ⟨root, hroot, _, hagents, c.agents, ⟨entries, rfl, _, has, rfl⟩, rv, hrv, _, hrouting, xv,
      hxv, _, hexecution, ev, hev, _, hevaluators, cv, hcv, _, hcontext, av, hav, _, hauthorization,
      hconsistent, rfl⟩

/-! ## What a compiled configuration guarantees -/

/-- The facts about a compiled configuration that later stages rest on. -/
structure CompiledConfiguration.Sound (c : CompiledConfiguration) : Prop where
  distinct : (c.agents.agents.map Agent.identity).Nodup
  tokens : ∀ a ∈ c.agents.agents, IsI64 a.minContextTokens
  guided : ∀ a ∈ c.agents.agents, a.soul ≠ "" ∧ a.behavior ≠ ""
  priorities : ∀ p ∈ c.routing.policies, IsI64 p.priority
  timeouts : ∀ v ∈ c.evaluators.versions, IsI64 v.timeoutMs
  limits : IsI64 c.context.memoryLimitTokens ∧ IsI64 c.context.workspaceOrientationLimitTokens ∧
    IsI64 c.context.safetyMarginTokens

theorem Value.get_wf (hv : v.Wf) (h : v.get key = some w) : w.Wf := by
  cases v with
  | obj entries => exact Value.wfEntries_iff.mp hv.2 _ (SortedAssoc.mem_of_find h)
  | _ => cases h

namespace Reader

theorem HasPositive.isI64 (h : HasPositive v key n) (hv : v.Wf) : IsI64 n := Value.get_wf hv h.1

/-- What is declared is declared by one of the entries. -/
theorem Declarations.entry {P : Value → α → Prop} {id : α → String} {as : List α}
    (h : ∃ entries, v.get key = some (.arr entries) ∧
      Declarations P id entries as) (hv : v.Wf) : ∀ a ∈ as, ∃ entry, entry.Wf ∧ P entry a := by
  intro a ha
  obtain ⟨entries, hentries, hall, -⟩ := h
  obtain ⟨entry, hentry, hP⟩ := Reorder.forall₂_mem_right hall a ha
  exact ⟨entry, Value.wf_arr.mp (Value.get_wf hv hentries) entry hentry, hP⟩

end Reader

theorem Compile.context_sound {c : ContextComponent} (hv : v.Wf) (h : Compile.context v = .ok c) :
    IsI64 c.memoryLimitTokens ∧
      IsI64 c.workspaceOrientationLimitTokens ∧ IsI64 c.safetyMarginTokens := by
  simp only [Compile.context, bind_eq_ok, pure_eq_ok, positiveI64_iff] at h
  obtain ⟨_, -, _, hmemory, _, horientation, _, hmargin, _, -, _, -, _, -, _, -, rfl⟩ := h
  exact ⟨HasPositive.isI64 hmemory hv, HasPositive.isI64 horientation hv,
    HasPositive.isI64 hmargin hv⟩

theorem compile_sound {source : String} (h : compile source = .ok c) : c.Sound := by
  obtain ⟨root, hroot, hdeclared, hconsistent⟩ := compile_iff.mp h
  have hwf : root.Wf := parse_wf hroot
  have hagents := Declarations.entry hdeclared.agents hwf
  obtain ⟨rv, hrv, hrouting⟩ := hdeclared.routing
  obtain ⟨ev, hev, hevaluators⟩ := hdeclared.evaluators
  obtain ⟨cv, hcv, hcontext⟩ := hdeclared.context
  refine ⟨hconsistent.distinct, fun a ha => ?_, fun a ha => ?_, fun p hp => ?_, fun e he => ?_,
    Compile.context_sound (Value.get_wf hwf hcv) hcontext⟩
  · obtain ⟨entry, hentry, ha⟩ := hagents a ha
    exact ha.minContextTokens.isI64 hentry
  · obtain ⟨entry, -, ha⟩ := hagents a ha
    exact ⟨ha.soul.1.2, ha.behavior.1.2⟩
  · obtain ⟨entry, hentry, hp⟩ := Declarations.entry hrouting.policies (Value.get_wf hwf hrv) p hp
    rcases hp.priority with h | ⟨-, h⟩
    · exact Value.get_wf hentry h
    · rw [h]
      decide
  · obtain ⟨entry, hentry, he⟩ :=
      Declarations.entry hevaluators.versions (Value.get_wf hwf hev) e he
    exact he.timeoutMs.isI64 hentry

end Pantheon

/-
  Accounts of routines over the store.
  `Accounted` says of a routine that may fail that its trail justifies every action it takes, that
  its steps do to the store what their labels say (`honest`), and what holds where it succeeds. It
  composes step by step, with one rule for each kind of step. In a run of such routines the store
  moves by its operations only (`storeBound_preserves`); whatever every operation keeps, a state
  read earlier has in common with the current one.
-/
import Pantheon.Base.History
import Pantheon.Engine.Site

namespace Pantheon

open Interleave Routine

variable {D E L : Type} {C : Type → Type} [DecidableEq D] [DigestScheme D]

/-- An action of a routine. -/
abbrev SiteMoment (D E L : Type) (C : Type → Type) [DecidableEq D] [DigestScheme D] : Type 1 :=
  Moment (Site D E) (SiteLabel D L) C

/-! ## Routines that may fail -/

/-- A labelled store call is that operation, and no other step touches the store. -/
def honest : SiteLabel D L → Site D E → Site D E → Prop
  | .call ambient op, s, s' => s'.db = op.apply ambient s.db
  | _, s, s' => s'.db = s.db

/-- After a trail, every action is one that `act` justifies and does what its label says, and
    where the routine succeeds it leaves a longer trail with `R`. -/
def Accounted {ε α : Type} (act : List (SiteMoment D E L C) → Action (SiteLabel D L) C → Prop)
    (h : List (SiteMoment D E L C)) (x : Fallible ε D E L C α)
    (R : List (SiteMoment D E L C) → α → Prop) : Prop :=
  x.run.Accounts ⟨act, honest⟩ (fun h' r => h <:+ h' ∧ ∀ a, r = .ok a → R h' a) h

variable {op : StoreOp D} {guard : Db D → StoreOp D → Prop} {init : Site D E → Prop}

namespace Accounted

variable {ε δ α β : Type} {act : List (SiteMoment D E L C) → Action (SiteLabel D L) C → Prop}
  {h h' : List (SiteMoment D E L C)} {R : List (SiteMoment D E L C) → α → Prop}
  {Q : List (SiteMoment D E L C) → β → Prop} {k : α → Fallible ε D E L C β}

theorem pure {a : α} (ha : R h a) : Accounted act h (Pure.pure a : Fallible ε D E L C α) R :=
  ⟨List.suffix_rfl, fun _ heq => Except.ok.inj heq ▸ ha⟩

theorem throw {e : ε} : Accounted act h (MonadExcept.throw e : Fallible ε D E L C α) R :=
  ⟨List.suffix_rfl, nofun⟩

theorem older {x : Fallible ε D E L C α} (hx : Accounted act h' x R) (hs : h <:+ h') :
    x.run.Accounts ⟨act, honest⟩ (fun h'' r => h <:+ h'' ∧ ∀ a, r = .ok a → R h'' a) h' :=
  Prog.Accounts.imp hx fun _ _ hr => ⟨hs.trans hr.1, hr.2⟩

theorem andThen {x : Fallible ε D E L C α} (hx : Accounted act h x R)
    (hk : ∀ h' a, h <:+ h' → R h' a → Accounted act h' (k a) Q) : Accounted act h (x >>= k) Q := by
  refine Prog.Accounts.bind (f := ExceptT.bindCont k) hx fun h' r hr => ?_
  cases r with
  | ok a => exact (hk h' a hr.1 (hr.2 a rfl)).older hr.1
  | error e => exact ⟨hr.1, nofun⟩

theorem ofExcept {x : Except ε α} (hok : ∀ a, x = .ok a → R h a) :
    Accounted act h (Routine.ofExcept x) R := by
  cases x with
  | ok a => exact pure (hok a rfl)
  | error e => exact throw

/-- A computed value, and then the rest after the same trail. -/
theorem ofExceptThen {x : Except ε α} (hk : ∀ a, x = .ok a → Accounted act h (k a) Q) :
    Accounted act h (Routine.ofExcept x >>= k) Q := by
  cases x with
  | ok a => exact hk a rfl
  | error e => exact throw

theorem orElseThen {e : ε} {o : Option α} (hk : ∀ a, o = some a → Accounted act h (k a) Q) :
    Accounted act h (Routine.orElse e o >>= k) Q := by
  cases o with
  | some a => exact hk a rfl
  | none => exact throw

/-- A part with errors of its own. -/
theorem tryPart {convert : δ → ε} {x : Fallible δ D E L C α} (hx : Accounted act h x R) :
    Accounted act h (Routine.tryAs convert x.run) R := by
  refine Prog.Accounts.bind hx fun h' r hr => ⟨hr.1, fun a ha => ?_⟩
  exact hr.2 a (mapError_eq_ok.mp ha)

/-- The rest after a step that may have failed. -/
theorem settled {convert : δ → ε} {r : Except δ α} (hs : h <:+ h')
    (hk : ∀ a, r = .ok a → Accounted act h' (k a) Q) :
    (ExceptT.bindCont k (r.mapError convert)).Accounts ⟨act, honest⟩
      (fun h'' r => h <:+ h'' ∧ ∀ a, r = .ok a → Q h'' a) h' := by
  cases r with
  | ok a => exact (hk a rfl).older hs
  | error e => exact ⟨hs, nofun⟩

theorem readThen {f : Db D → α} (hact : act h (.tx .read))
    (hk : ∀ s, Accounted act (.tx .read s s :: h) (k (f s.db)) Q) :
    Accounted act h (Routine.always (Routine.readStore f) >>= k) Q :=
  ⟨hact, fun s => ⟨rfl, (hk s).older (List.suffix_cons _ _)⟩⟩

/-- A read that may fail. -/
theorem tryReadThen {convert : δ → ε} {f : Db D → Except δ α} (hact : act h (.tx .read))
    (hk : ∀ s a, f s.db = .ok a → Accounted act (.tx .read s s :: h) (k a) Q) :
    Accounted act h (Routine.tryAs convert (Routine.readStore f) >>= k) Q :=
  ⟨hact, fun s => ⟨rfl, settled (List.suffix_cons _ _) (hk s)⟩⟩

/-- A look at the process's own state that may fail. -/
theorem ownThen {convert : δ → ε} {l : L} {f : E → Except δ α} (hact : act h (.tx (.own l)))
    (hk : ∀ s a, f s.own = .ok a → Accounted act (.tx (.own l) s s :: h) (k a) Q) :
    Accounted act h (Routine.tryAs convert (Routine.ownStep l fun own => (f own, own)) >>= k) Q :=
  ⟨hact, fun s => ⟨rfl, settled (List.suffix_cons _ _) (hk s)⟩⟩

theorem askThen {c : C α} (hact : act h (.call c))
    (hk : ∀ a, Accounted act (.call c a :: h) (k a) Q) :
    Accounted act h (Routine.always (Prog.ask c) >>= k) Q :=
  ⟨hact, fun a => (hk a).older (List.suffix_cons _ _)⟩

/-- A call that may fail. -/
theorem tryAskThen {convert : δ → ε} {c : C (Except δ α)} (hact : act h (.call c))
    (hk : ∀ a, Accounted act (.call c (.ok a) :: h) (k a) Q) :
    Accounted act h (Routine.tryAs convert (Prog.ask c) >>= k) Q :=
  ⟨hact, fun r => settled (List.suffix_cons _ _) fun a ha => by subst ha; exact hk a⟩

section Perform

variable [Surrounded C] {convert : StoreError → ε}
  (hambient : act h (.call (Surrounded.ambient : C Ambient)))
  (hact : ∀ ambient, act (.call Surrounded.ambient ambient :: h) (.tx (.call ambient op)))

include hambient hact

/-- A call of the store: what it draws from outside, and then the transaction. -/
theorem performThen {k : op.Answer → Fallible ε D E L C β}
    (hk : ∀ ambient (s : Site D E) a, (op.answer ambient s.db).1 = .ok a →
      Accounted act (.tx (.call ambient op) s { s with db := op.apply ambient s.db } ::
        .call Surrounded.ambient ambient :: h) (k a) Q) :
    Accounted act h (Routine.tryAs convert (Routine.perform op) >>= k) Q :=
  ⟨hambient, fun ambient => ⟨hact ambient, fun s => ⟨rfl,
    settled ((List.suffix_cons _ _).trans (List.suffix_cons _ _)) (hk ambient s)⟩⟩⟩

theorem perform : Accounted act h (Routine.tryAs convert (Routine.perform op)) fun _ _ => True :=
  ⟨hambient, fun ambient => ⟨hact ambient, fun _ => ⟨rfl,
    (List.suffix_cons _ _).trans (List.suffix_cons _ _), fun _ _ => trivial⟩⟩⟩

end Perform

/-- What a routine that has succeeded leaves behind. -/
theorem trail {x : Fallible ε D E L C α} (hx : Accounted act [] x R)
    {steps : List (SiteMoment D E L C)} {a : α} (ht : x.run.Trail steps (.ret (.ok a))) :
    R steps a := (Prog.Accounts.trail hx ht).2 a rfl

end Accounted

/-! ## Beside other users of the store -/

/-- The store has run operations since. -/
def Since (s s' : Site D E) : Prop := Run.Steps anyStep s.db s'.db

theorem since_of_eq {s s' : Site D E} (h : s'.db = s.db) : Since s s' := by
  rw [Since, h]
  exact .refl

/-- A machine of honest routines whose surroundings run store operations within a guard, and
    whose crashes and calls leave the store alone. -/
structure StoreBound {α : Type} (guard : Db D → StoreOp D → Prop)
    (M : Machine (Site D E) (SiteLabel D L) C α) : Prop where
  effects : M.Effects honest
  hear : ∀ {β : Type} (x : C β) b s, (M.hear x b s).db = s.db
  crash : ∀ s, (M.onCrash s).db = s.db
  env : ∀ s s', M.env s s' → ∃ ambient op, guard s.db op ∧ s'.db = op.apply ambient s.db

theorem storeBound_preserves {α : Type} {M : Machine (Site D E) (SiteLabel D L) C α}
    (hM : StoreBound guard M) :
    M.Preserves honest Since where
  effects := hM.effects
  refl _ := .refl
  trans _ _ _ h h' := h.trans h'
  tx l s s' hl := by
    cases l with
    | call ambient op =>
      rw [Since, hl]
      exact .step .refl op ambient trivial
    | read => exact since_of_eq hl
    | own l => exact since_of_eq hl
  hear x b s := since_of_eq (hM.hear x b s)
  crash s := since_of_eq (hM.crash s)
  env s s' henv := by
    obtain ⟨ambient, op, -, hdb⟩ := hM.env s s' henv
    rw [Since, hdb]
    exact .step .refl op ambient trivial

/-- A routine's call of the store is that operation. -/
theorem storeBound_call {α : Type} {M : Machine (Site D E) (SiteLabel D L) C α}
    (hM : StoreBound guard M)
    {cond : Config (Site D E) (SiteLabel D L) C α → Event (Site D E) (SiteLabel D L) C α → Prop}
    {c c' : Config (Site D E) (SiteLabel D L) C α} (h : Reach M cond init c) {ambient : Ambient}
    {others} (hs : Step M c (.tx (.call ambient op) others) c') :
    c'.shared.db = op.apply ambient c.shared.db := step_effect hM.effects h hs

/-- Every state a run went through is one of an installation that has run operations within the
    guard, if the routines' own calls are within it too. -/
theorem storeBound_guarded {α : Type} {M : Machine (Site D E) (SiteLabel D L) C α}
    (hM : StoreBound guard M)
    {cond : Config (Site D E) (SiteLabel D L) C α → Event (Site D E) (SiteLabel D L) C α → Prop}
    (hcond : ∀ c ambient op others, cond c (.tx (.call ambient op) others) → guard c.shared.db op)
    (hinit : ∀ s, init s → Installed s.db) {c : Config (Site D E) (SiteLabel D L) C α}
    (h : Reach M cond init c) :
    ∀ s ∈ c.shared :: c.past, ∃ d₀, Installed d₀ ∧ Run.Steps guard d₀ s.db := by
  induction h with
  | @start s hs =>
    intro s' hs'
    obtain rfl := List.mem_singleton.mp hs'
    exact ⟨s'.db, hinit s' hs, .refl⟩
  | @step c e c' hr hs hc ih =>
    obtain ⟨d₀, hinstalled, hbefore⟩ := ih c.shared List.mem_cons_self
    have hsame : c'.shared.db = c.shared.db →
        ∃ d₀, Installed d₀ ∧ Run.Steps guard d₀ c'.shared.db := by
      intro heq
      rw [heq]
      exact ⟨d₀, hinstalled, hbefore⟩
    have hstep := hs
    have hnew : ∃ d₀, Installed d₀ ∧ Run.Steps guard d₀ c'.shared.db := by
      cases hs with
      | spawn => exact hsame rfl
      | finish => exact hsame rfl
      | crash => exact hsame (hM.crash _)
      | call x k b => exact hsame (hM.hear x b _)
      | env s' henv =>
        obtain ⟨ambient, op, hguard, hdb⟩ := hM.env _ s' henv
        exact ⟨d₀, hinstalled, hdb ▸ .step hbefore op ambient hguard⟩
      | tx l t k =>
        have hl := step_effect hM.effects hr hstep
        cases l with
        | call ambient op =>
          exact ⟨d₀, hinstalled, hl ▸ .step hbefore op ambient (hcond _ ambient op _ hc)⟩
        | read => exact hsame hl
        | own l => exact hsame hl
    intro s hmem
    have hold : s ∈ c.shared :: c.past ∨ s = c'.shared := by
      cases hs with
      | spawn => exact .inl hmem
      | finish => exact .inl hmem
      | _ => exact (List.mem_cons.mp hmem).symm
    rcases hold with hold | rfl
    · exact ih s hold
    · exact hnew

/-- Every routine in flight has a trail of moments of the run, one after the other. -/
theorem storeBound_trail {α : Type} {M : Machine (Site D E) (SiteLabel D L) C α}
    (hM : StoreBound guard M)
    {cond : Config (Site D E) (SiteLabel D L) C α → Event (Site D E) (SiteLabel D L) C α → Prop}
    {c : Config (Site D E) (SiteLabel D L) C α} (h : Reach M cond init c) :
    ∀ p ∈ c.pool, ∃ p₀ trail, M.starts p₀ ∧ p₀.Trail trail p ∧
      (∀ m ∈ trail, m.Of cond (c.shared :: c.past)) ∧ Chain Since trail c.shared ∧
      ∀ l s s', Moment.tx l s s' ∈ trail → Since s s' :=
  reach_told (moments_told.and (chain_told (storeBound_preserves hM))) h

end Pantheon

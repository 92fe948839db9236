/-
  Programs over a shared state, and what holds under every interleaving of them.
  A `Prog` is a suspended computation: it has answered, or its next action is one labelled
  transaction on the shared state, or one call to the outside world whose answer it does not
  control. A `Config` is a shared state with a pool of such programs; `Step` lets any of them
  take one action, lets a new program start, a program crash (what it had computed is lost)
  and the environment move. A shared state may hold a record of calls and answers, which a
  machine keeps with `hear`. `Reach` collects the configurations reached by steps that meet a
  condition.
  A `Contract` is a rely/guarantee specification. `Safe` unfolds it along a program, with
  interference before every action; `reach_safe` turns the safety of each program into a fact
  about every reachable configuration.
-/
import Mathlib.Data.List.Basic
import Mathlib.Order.Defs.PartialOrder

namespace Interleave

/-- A suspended computation with answers in `α`, over the shared state `σ`, transactions
    labelled in `L` and external calls `C`. -/
inductive Prog (σ L : Type) (C : Type → Type) (α : Type) : Type 1 where
  | ret (a : α)
  | tx (l : L) {β : Type} (t : σ → β × σ) (k : β → Prog σ L C α)
  | call {β : Type} (c : C β) (k : β → Prog σ L C α)

variable {σ L : Type} {C : Type → Type} {α β : Type}

variable {γ ε : Type}

namespace Prog

protected def bind (p : Prog σ L C α) (f : α → Prog σ L C β) : Prog σ L C β :=
  match p with
  | ret a => f a
  | tx l t k => tx l t fun b => (k b).bind f
  | call c k => call c fun b => (k b).bind f

instance : Monad (Prog σ L C) where
  pure := ret
  bind := Prog.bind

/-- One labelled transaction. -/
def atomically (l : L) (t : σ → β × σ) : Prog σ L C β := tx l t ret

/-- One external call. -/
def ask (c : C β) : Prog σ L C β := call c ret

@[simp] theorem tx_bind (l : L) (t : σ → γ × σ) (k : γ → Prog σ L C α) (f : α → Prog σ L C β) :
    (tx l t k >>= f) = tx l t fun b => k b >>= f := rfl

@[simp] theorem call_bind (c : C γ) (k : γ → Prog σ L C α) (f : α → Prog σ L C β) :
    (call c k >>= f) = call c fun b => k b >>= f := rfl

theorem bind_assoc (p : Prog σ L C α) (f : α → Prog σ L C β) (g : β → Prog σ L C γ) :
    ((p >>= f) >>= g) = (p >>= fun a => f a >>= g) := by
  induction p with
  | ret a => rfl
  | tx l t k ih =>
    simp only [tx_bind]
    congr 1
    funext b
    exact ih b
  | call c k ih =>
    simp only [call_bind]
    congr 1
    funext b
    exact ih b

end Prog

/-- What a program does next. -/
inductive Action (L : Type) (C : Type → Type) : Type 1 where
  | done
  | tx (l : L)
  | call {β : Type} (c : C β)

def Prog.next : Prog σ L C α → Action L C
  | .ret _ => .done
  | .tx l _ _ => .tx l
  | .call c _ => .call c

/-! ## Configurations and steps -/

/-- A shared state, the states it had before (newest first), and the programs in flight. -/
structure Config (σ L : Type) (C : Type → Type) (α : Type) : Type 1 where
  shared : σ
  past : List σ
  pool : List (Prog σ L C α)

/-- What happened in a step; a transaction also shows the other programs in flight. -/
inductive Event (σ L : Type) (C : Type → Type) (α : Type) : Type 1 where
  | spawn (p : Prog σ L C α)
  | tx (l : L) (others : List (Prog σ L C α))
  | call {β : Type} (c : C β) (b : β)
  | finish (a : α)
  | crash
  | env (s : σ)

/-- Which programs may start, how the environment moves, what a crash does to the shared
    state (it may hold memory that is lost with a process), and what the state records of a
    call and its answer. -/
structure Machine (σ L : Type) (C : Type → Type) (α : Type) : Type 1 where
  starts : Prog σ L C α → Prop
  env : σ → σ → Prop
  onCrash : σ → σ
  hear : ∀ {β : Type}, C β → β → σ → σ

/-- One step of a machine. -/
inductive Step (M : Machine σ L C α) : Config σ L C α → Event σ L C α → Config σ L C α → Prop
  | spawn {s past ps} (p : Prog σ L C α) (h : M.starts p) :
    Step M ⟨s, past, ps⟩ (.spawn p) ⟨s, past, p :: ps⟩
  | tx {s past ps qs} (l : L) {β : Type} (t : σ → β × σ) (k : β → Prog σ L C α) :
    Step M ⟨s, past, ps ++ .tx l t k :: qs⟩ (.tx l (ps ++ qs))
      ⟨(t s).2, s :: past, ps ++ k (t s).1 :: qs⟩
  | call {s past ps qs} {β : Type} (c : C β) (k : β → Prog σ L C α) (b : β) :
    Step M ⟨s, past, ps ++ .call c k :: qs⟩ (.call c b)
      ⟨M.hear c b s, s :: past, ps ++ k b :: qs⟩
  | finish {s past ps qs} (a : α) :
    Step M ⟨s, past, ps ++ .ret a :: qs⟩ (.finish a) ⟨s, past, ps ++ qs⟩
  | crash {s past ps qs} (p : Prog σ L C α) :
    Step M ⟨s, past, ps ++ p :: qs⟩ .crash ⟨M.onCrash s, s :: past, ps ++ qs⟩
  | env {s past ps} (s' : σ) (h : M.env s s') :
    Step M ⟨s, past, ps⟩ (.env s') ⟨s', s :: past, ps⟩

/-- The only program at work ends. -/
theorem Step.ends {M : Machine σ L C α} {s : σ} {past : List σ} (a : α) :
    Step M ⟨s, past, [.ret a]⟩ (.finish a) ⟨s, past, []⟩ :=
  @Step.finish _ _ _ _ M s past [] [] a

/-- The configurations of runs that start idle and whose steps all meet `cond`. -/
inductive Reach (M : Machine σ L C α) (cond : Config σ L C α → Event σ L C α → Prop)
    (init : σ → Prop) : Config σ L C α → Prop
  | start {s} (h : init s) : Reach M cond init ⟨s, [], []⟩
  | step {c e c'} (h : Reach M cond init c) (hs : Step M c e c') (hc : cond c e) :
    Reach M cond init c'

/-- Where a program in flight after a step comes from. -/
inductive Step.Origin (M : Machine σ L C α) (c c' : Config σ L C α) :
    Event σ L C α → Prog σ L C α → Prop
  | waited {e q} (h : q ∈ c.pool) (hothers : ∀ l others, e = .tx l others → q ∈ others) :
    Origin M c c' e q
  | started {p} (h : M.starts p) : Origin M c c' (.spawn p) p
  | moved {l others} {β : Type} {t : σ → β × σ} {k : β → Prog σ L C α}
    (h : .tx l t k ∈ c.pool) (hs : c'.shared = (t c.shared).2) :
    Origin M c c' (.tx l others) (k (t c.shared).1)
  | heard {β : Type} {x : C β} {k : β → Prog σ L C α} {b : β} (h : .call x k ∈ c.pool) :
    Origin M c c' (.call x b) (k b)

theorem Step.origin {M : Machine σ L C α} {c c' : Config σ L C α} {e : Event σ L C α}
    (hs : Step M c e c') : ∀ q ∈ c'.pool, Step.Origin M c c' e q := by
  intro q hq
  cases hs with
  | spawn p hp =>
    rcases List.mem_cons.mp hq with rfl | hq
    · exact .started hp
    · exact .waited hq nofun
  | tx l t k =>
    simp only [List.mem_append, List.mem_cons] at hq
    rcases hq with hq | rfl | hq
    · exact .waited (by simp [hq]) fun _ _ he => by cases he; simp [hq]
    · exact .moved (by simp) rfl
    · exact .waited (by simp [hq]) fun _ _ he => by cases he; simp [hq]
  | call x k b =>
    simp only [List.mem_append, List.mem_cons] at hq
    rcases hq with hq | rfl | hq
    · exact .waited (by simp [hq]) nofun
    · exact .heard (by simp)
    · exact .waited (by simp [hq]) nofun
  | finish a => exact .waited (by simp only [List.mem_append, List.mem_cons] at hq ⊢; tauto) nofun
  | crash p => exact .waited (by simp only [List.mem_append, List.mem_cons] at hq ⊢; tauto) nofun
  | env s' h => exact .waited hq nofun

/-! ## Contracts -/

/-- A rely/guarantee contract. `rely a` is what the others may do while the program's next
    action is `a`; `allow` and `answer` are the conditions on its transactions and on the
    answers it gets; `hear` is what is recorded of them; `inv` holds in every state; `grant` is
    what each of its transactions keeps; `post` holds when it has answered. -/
structure Contract (σ L : Type) (C : Type → Type) (α : Type) : Type 1 where
  inv : σ → Prop
  rely : Action L C → σ → σ → Prop
  allow : σ → L → Prop
  answer : σ → ∀ {β : Type}, C β → β → Prop
  hear : ∀ {β : Type}, C β → β → σ → σ
  grant : L → σ → σ → Prop
  post : α → σ → Prop

/-- The rely relations compose over time. -/
structure Contract.Lawful (K : Contract σ L C α) : Prop where
  refl : ∀ a s, K.rely a s s
  trans : ∀ a s s' s'', K.rely a s s' → K.rely a s' s'' → K.rely a s s''

/-- A program meets the contract from a state on, whatever the others do. -/
def Safe (K : Contract σ L C α) : Prog σ L C α → σ → Prop
  | .ret a, s => ∀ s', K.rely .done s s' → K.inv s' → K.post a s'
  | .tx l t k, s => ∀ s', K.rely (.tx l) s s' → K.inv s' → K.allow s' l →
      K.inv (t s').2 ∧ K.grant l s' (t s').2 ∧ Safe K (k (t s').1) (t s').2
  | .call c k, s => ∀ s', K.rely (.call c) s s' → K.inv s' → ∀ b, K.answer s' c b →
      K.inv (K.hear c b s') ∧ Safe K (k b) (K.hear c b s')

/-- Safety survives what the others may do. -/
theorem Safe.mono {K : Contract σ L C α} (hK : K.Lawful) {p : Prog σ L C α} {s s' : σ}
    (h : Safe K p s) (hr : K.rely p.next s s') : Safe K p s' := by
  cases p with
  | ret a => exact fun s'' h'' => h s'' (hK.trans _ _ _ _ hr h'')
  | tx l t k => exact fun s'' h'' => h s'' (hK.trans _ _ _ _ hr h'')
  | call c k => exact fun s'' h'' => h s'' (hK.trans _ _ _ _ hr h'')

/-! ## Composition -/

/-- The contract of a part of a program, which ends with a condition of its own. -/
def Contract.ending (K : Contract σ L C α) (Q : β → σ → Prop) : Contract σ L C β where
  inv := K.inv
  rely := K.rely
  allow := K.allow
  answer := K.answer
  hear := K.hear
  grant := K.grant
  post := Q

/-- Two programs one after the other. The condition between them survives what the others do
    after the first has answered. -/
theorem Safe.bind {K : Contract σ L C β} {Q : α → σ → Prop} {p : Prog σ L C α}
    {f : α → Prog σ L C β} {s : σ} (hs : K.inv s) (hp : Safe (K.ending Q) p s)
    (hf : ∀ a s', K.inv s' → (∀ s'', K.rely .done s' s'' → K.inv s'' → Q a s'') →
      Safe K (f a) s') : Safe K (p >>= f) s := by
  induction p generalizing s with
  | ret a => exact hf a s hs hp
  | tx l t k ih =>
    intro s' hr hi ha
    obtain ⟨hinv, hgrant, hrest⟩ := hp s' hr hi ha
    exact ⟨hinv, hgrant, ih _ hinv hrest⟩
  | call c k ih =>
    intro s' hr hi b hb
    obtain ⟨hinv, hsafe⟩ := hp s' hr hi b hb
    exact ⟨hinv, ih b hinv hsafe⟩

/-- What a fallible part must leave behind: its own condition where it succeeded, and the
    whole program's where it failed. -/
def Contract.orFails {ε : Type} (K : Contract σ L C (Except ε β)) (Q : α → σ → Prop) :
    Contract σ L C (Except ε α) :=
  K.ending fun
    | .ok a => Q a
    | .error e => K.post (.error e)

/-- Two fallible programs one after the other. -/
theorem Safe.andThen {K : Contract σ L C (Except ε β)} (hK : K.Lawful) {Q : α → σ → Prop}
    {x : ExceptT ε (Prog σ L C) α} {f : α → ExceptT ε (Prog σ L C) β} {s : σ} (hs : K.inv s)
    (hx : Safe (K.orFails Q) x.run s) (hf : ∀ a s', K.inv s' → Q a s' → Safe K (f a).run s') :
    Safe K (x >>= f).run s := by
  refine Safe.bind hs hx fun r s' hi hr => ?_
  cases r with
  | ok a => exact hf a s' hi (hr s' (hK.refl _ _) hi)
  | error e => exact hr

/-- What the others may do does not undo it. -/
def Contract.Stable (K : Contract σ L C α) (J : σ → Prop) : Prop :=
  ∀ a s s', K.rely a s s' → K.inv s' → J s → J s'

/-- A condition on the transactions of a program, with their effects, and on its calls. -/
structure Conduct (σ L : Type) (C : Type → Type) : Type 1 where
  tx : L → (σ → σ) → Prop
  call : ∀ {β : Type}, C β → Prop

/-- Every action of a program meets a condition. -/
def Prog.Each (P : Conduct σ L C) : Prog σ L C α → Prop
  | .ret _ => True
  | .tx l t k => P.tx l (fun s => (t s).2) ∧ ∀ b, (k b).Each P
  | .call c k => P.call c ∧ ∀ b, (k b).Each P

theorem Prog.Each.bind {P : Conduct σ L C} {p : Prog σ L C α} {f : α → Prog σ L C β}
    (hp : p.Each P) (hf : ∀ a, (f a).Each P) : (p >>= f).Each P := by
  induction p with
  | ret a => exact hf a
  | tx l t k ih => exact ⟨hp.1, fun b => ih b (hp.2 b)⟩
  | call c k ih => exact ⟨hp.1, fun b => ih b (hp.2 b)⟩

theorem Prog.Each.andThen {P : Conduct σ L C} {x : ExceptT ε (Prog σ L C) α}
    {f : α → ExceptT ε (Prog σ L C) β} (hx : x.run.Each P) (hf : ∀ a, (f a).run.Each P) :
    (x >>= f).run.Each P := by
  refine hx.bind fun r => ?_
  cases r with
  | ok a => exact hf a
  | error e => trivial

theorem Prog.Each.mono {P P' : Conduct σ L C} (htx : ∀ l e, P.tx l e → P'.tx l e)
    (hcall : ∀ {β : Type} (c : C β), P.call c → P'.call c) {p : Prog σ L C α} (hp : p.Each P) :
    p.Each P' := by
  induction p with
  | ret a => trivial
  | tx l t k ih => exact ⟨htx _ _ hp.1, fun b => ih b (hp.2 b)⟩
  | call c k ih => exact ⟨hcall _ hp.1, fun b => ih b (hp.2 b)⟩

/-- A program whose actions all keep some knowledge is safe as far as that knowledge goes. -/
theorem Safe.of_each {K : Contract σ L C α} {P : Conduct σ L C} {J : σ → Prop}
    (hstep : ∀ l e s, P.tx l e → K.inv s → J s → K.inv (e s) ∧ K.grant l s (e s) ∧ J (e s))
    (hcall : ∀ s {β : Type} (c : C β), P.call c → K.inv s → J s →
      ∀ b, K.inv (K.hear c b s) ∧ J (K.hear c b s))
    (hrely : K.Stable J) (hpost : ∀ a s, J s → K.post a s) {p : Prog σ L C α} (hp : p.Each P)
    {s : σ} (hs : J s) : Safe K p s := by
  induction p generalizing s with
  | ret a => exact fun s' hr hi => hpost a s' (hrely _ _ _ hr hi hs)
  | tx l t k ih =>
    intro s' hr hi _
    obtain ⟨hinv, hgrant, hJ⟩ := hstep l _ s' hp.1 hi (hrely _ _ _ hr hi hs)
    exact ⟨hinv, hgrant, ih _ (hp.2 _) hJ⟩
  | call c k ih =>
    intro s' hr hi b _
    obtain ⟨hinv, hJ⟩ := hcall s' c hp.1 hi (hrely _ _ _ hr hi hs) b
    exact ⟨hinv, ih b (hp.2 b) hJ⟩

variable {M : Machine σ L C α} {cond : Config σ L C α → Event σ L C α → Prop} {init : σ → Prop}

/-- Why a contract governs a whole pool: every start is safe, every admitted event meets the
    program's conditions, and what one program grants or the environment does is what the
    others rely on. -/
structure Contract.Governs (K : Contract σ L C α) (M : Machine σ L C α)
    (cond : Config σ L C α → Event σ L C α → Prop) (init : σ → Prop) : Prop where
  lawful : K.Lawful
  init : ∀ s, init s → K.inv s
  spawn : ∀ c p, K.inv c.shared → M.starts p → cond c (.spawn p) → Safe K p c.shared
  allow : ∀ c l others, cond c (.tx l others) → K.allow c.shared l
  share : ∀ c l others s', cond c (.tx l others) → K.grant l c.shared s' →
    ∀ q ∈ others, K.rely q.next c.shared s'
  answer : ∀ c {β : Type} (x : C β) b, cond c (.call x b) → K.answer c.shared x b
  hear : ∀ {β : Type} (x : C β) b s, M.hear x b s = K.hear x b s ∧ ∀ a, K.rely a s (K.hear x b s)
  env : ∀ c s', K.inv c.shared → M.env c.shared s' → cond c (.env s') →
    K.inv s' ∧ ∀ q ∈ c.pool, K.rely q.next c.shared s'
  crash : ∀ s, K.inv s → K.inv (M.onCrash s) ∧ ∀ a, K.rely a s (M.onCrash s)

/-- Under a governing contract the invariant holds in every reachable configuration, and
    every program in flight is safe there. -/
theorem reach_safe {K : Contract σ L C α} (hK : K.Governs M cond init) {c : Config σ L C α}
    (h : Reach M cond init c) : K.inv c.shared ∧ ∀ p ∈ c.pool, Safe K p c.shared := by
  induction h with
  | start hs => exact ⟨hK.init _ hs, by simp⟩
  | step _ hs hc ih =>
    obtain ⟨hinv, hpool⟩ := ih
    have horigin := hs.origin
    cases hs with
    | spawn p hp =>
      have hnew := hK.spawn _ p hinv hp hc
      refine ⟨hinv, fun q hq => ?_⟩
      cases horigin q hq with
      | waited hmem => exact hpool q hmem
      | started => exact hnew
    | @tx s past ps qs l _ t k =>
      obtain ⟨hinv', hgrant, hsafe⟩ :=
        hpool (.tx l t k) (by simp) s (hK.lawful.refl _ _) hinv (hK.allow _ _ _ hc)
      refine ⟨hinv', fun q hq => ?_⟩
      rcases List.mem_append.mp hq with hq | hq
      · exact (hpool q (List.mem_append_left _ hq)).mono hK.lawful
          (hK.share _ _ _ _ hc hgrant q (List.mem_append_left _ hq))
      · rcases List.mem_cons.mp hq with rfl | hq
        · exact hsafe
        · exact (hpool q (by simp [hq])).mono hK.lawful
            (hK.share _ _ _ _ hc hgrant q (List.mem_append_right _ hq))
    | @call s past ps qs _ x k b =>
      have hown := hpool (.call x k) (by simp) s (hK.lawful.refl _ _) hinv b (hK.answer _ _ _ hc)
      rw [← (hK.hear x b s).1] at hown
      refine ⟨hown.1, fun q hq => ?_⟩
      have hrely := (hK.hear x b s).2 q.next
      rw [← (hK.hear x b s).1] at hrely
      rcases List.mem_append.mp hq with hq | hq
      · exact (hpool q (List.mem_append_left _ hq)).mono hK.lawful hrely
      · rcases List.mem_cons.mp hq with rfl | hq
        · exact hown.2
        · exact (hpool q (by simp [hq])).mono hK.lawful hrely
    | finish a =>
      refine ⟨hinv, fun q hq => ?_⟩
      cases horigin q hq with
      | waited hmem => exact hpool q hmem
    | crash p =>
      refine ⟨(hK.crash _ hinv).1, fun q hq => ?_⟩
      cases horigin q hq with
      | waited hmem => exact (hpool q hmem).mono hK.lawful ((hK.crash _ hinv).2 _)
    | env s' hs' =>
      obtain ⟨hinv', hrely⟩ := hK.env _ s' hinv hs' hc
      exact ⟨hinv', fun q hq => (hpool q hq).mono hK.lawful (hrely q hq)⟩

/-- Every transaction of a run is one that its program grants. -/
theorem reach_grant {K : Contract σ L C α} (hK : K.Governs M cond init) {c c' : Config σ L C α}
    (h : Reach M cond init c) {l : L} {others : List (Prog σ L C α)}
    (hs : Step M c (.tx l others) c') (hc : cond c (.tx l others)) :
    K.grant l c.shared c'.shared := by
  obtain ⟨hinv, hpool⟩ := reach_safe hK h
  cases hs with
  | tx _ t k =>
    exact (hpool (.tx l t k) (by simp) _ (hK.lawful.refl _ _) hinv (hK.allow _ _ _ hc)).2.1

/-- Every earlier state of a run is related to the current one by any transitive relation that
    the granted transactions, the record of calls, crashes and the environment keep. -/
theorem reach_past {K : Contract σ L C α} (hK : K.Governs M cond init) {T : σ → σ → Prop}
    (htrans : ∀ s s' s'', T s s' → T s' s'' → T s s'')
    (htx : ∀ l s s', K.grant l s s' → T s s')
    (hhear : ∀ {β : Type} (x : C β) b s, T s (M.hear x b s)) (hcrash : ∀ s, T s (M.onCrash s))
    (henv : ∀ s s', M.env s s' → T s s') {c : Config σ L C α} (h : Reach M cond init c) :
    ∀ s ∈ c.past, T s c.shared := by
  induction h with
  | start => simp
  | @step c e c' hr hs hc ih =>
    have hnew : c'.shared = c.shared ∧ c'.past = c.past ∨
        T c.shared c'.shared ∧ c'.past = c.shared :: c.past := by
      cases hs with
      | spawn => exact .inl ⟨rfl, rfl⟩
      | finish => exact .inl ⟨rfl, rfl⟩
      | tx l t k => exact .inr ⟨htx _ _ _ (reach_grant hK hr (.tx l t k) hc), rfl⟩
      | call => exact .inr ⟨hhear _ _ _, rfl⟩
      | crash => exact .inr ⟨hcrash _, rfl⟩
      | env s' hs' => exact .inr ⟨henv _ _ hs', rfl⟩
    rcases hnew with ⟨hshared, hpast⟩ | ⟨hT, hpast⟩
    · rw [hshared, hpast]
      exact ih
    · rw [hpast]
      exact List.forall_mem_cons.mpr ⟨hT, fun s hs => htrans _ _ _ (ih s hs) hT⟩

/-! ## Programs that rest on an invariant alone -/

/-- What a program counts on and keeps where nothing else that it has seen matters later: an
    invariant, conditions on its transactions and on the answers it gets, and the record of
    calls. -/
structure Custom (σ L : Type) (C : Type → Type) : Type 1 where
  inv : σ → Prop
  allow : σ → L → Prop
  answer : σ → ∀ {β : Type}, C β → β → Prop
  hear : ∀ {β : Type}, C β → β → σ → σ

/-- Every action of a program keeps the invariant, from any state that has it, and its answer
    is as it should be. -/
def Prog.Keeps (H : Custom σ L C) (Q : α → Prop) : Prog σ L C α → Prop
  | .ret a => Q a
  | .tx l t k => ∀ s, H.inv s → H.allow s l → H.inv (t s).2 ∧ (k (t s).1).Keeps H Q
  | .call c k => ∀ s, H.inv s → ∀ b, H.answer s c b → H.inv (H.hear c b s) ∧ (k b).Keeps H Q

theorem Prog.Keeps.bind {H : Custom σ L C} {R : α → Prop} {Q : β → Prop} {p : Prog σ L C α}
    {f : α → Prog σ L C β} (hp : p.Keeps H R) (hf : ∀ a, R a → (f a).Keeps H Q) :
    (p >>= f).Keeps H Q := by
  induction p with
  | ret a => exact hf a hp
  | tx l t k ih => exact fun s hs ha => ⟨(hp s hs ha).1, ih _ (hp s hs ha).2⟩
  | call c k ih => exact fun s hs b hb => ⟨(hp s hs b hb).1, ih b (hp s hs b hb).2⟩

theorem Prog.Keeps.mono {H : Custom σ L C} {R Q : α → Prop} (h : ∀ a, R a → Q a)
    {p : Prog σ L C α} (hp : p.Keeps H R) : p.Keeps H Q := by
  induction p with
  | ret a => exact h a hp
  | tx l t k ih => exact fun s hs ha => ⟨(hp s hs ha).1, ih _ (hp s hs ha).2⟩
  | call c k ih => exact fun s hs b hb => ⟨(hp s hs b hb).1, ih b (hp s hs b hb).2⟩

/-- The condition on what a fallible program yields. -/
def Prog.KeepsOk {ε : Type} (H : Custom σ L C) (Q : α → Prop) (x : ExceptT ε (Prog σ L C) α) :
    Prop :=
  x.run.Keeps H fun r => ∀ a, r = .ok a → Q a

theorem Prog.KeepsOk.andThen {H : Custom σ L C} {R : α → Prop} {Q : β → Prop}
    {x : ExceptT ε (Prog σ L C) α} {f : α → ExceptT ε (Prog σ L C) β} (hx : Prog.KeepsOk H R x)
    (hf : ∀ a, R a → Prog.KeepsOk H Q (f a)) : Prog.KeepsOk H Q (x >>= f) := by
  refine Prog.Keeps.bind hx fun r hr => ?_
  cases r with
  | ok a => exact hf a (hr a rfl)
  | error e => exact fun a ha => by cases ha

/-- A program whose actions all keep the invariant. -/
theorem Prog.Each.keeps {P : Conduct σ L C} {H : Custom σ L C}
    (htx : ∀ l e, P.tx l e → ∀ s, H.inv s → H.inv (e s))
    (hcall : ∀ {β : Type} (c : C β) b, P.call c → ∀ s, H.inv s → H.inv (H.hear c b s))
    {p : Prog σ L C α} (hp : p.Each P) : p.Keeps H fun _ => True := by
  induction p with
  | ret a => trivial
  | tx l t k ih => exact fun s hs _ => ⟨htx l _ hp.1 s hs, ih _ (hp.2 _)⟩
  | call c k ih => exact fun s hs b _ => ⟨hcall c b hp.1 s hs, ih b (hp.2 b)⟩

/-- The same under a larger invariant. -/
def Custom.along (H : Custom σ L C) (J : σ → Prop) : Custom σ L C :=
  { H with inv := fun s => H.inv s ∧ J s }

theorem Prog.Keeps.along {P : Conduct σ L C} {H : Custom σ L C} {J : σ → Prop} {Q : α → Prop}
    (htx : ∀ l e, P.tx l e → ∀ s, J s → J (e s))
    (hcall : ∀ {β : Type} (c : C β) b, P.call c → ∀ s, J s → J (H.hear c b s))
    {p : Prog σ L C α} (hp : p.Keeps H Q) (he : p.Each P) : p.Keeps (H.along J) Q := by
  induction p with
  | ret a => exact hp
  | tx l t k ih =>
    intro s hs ha
    exact ⟨⟨(hp s hs.1 ha).1, htx l _ he.1 s hs.2⟩, ih _ (hp s hs.1 ha).2 (he.2 _)⟩
  | call c k ih =>
    intro s hs b hb
    exact ⟨⟨(hp s hs.1 b hb).1, hcall c b he.1 s hs.2⟩, ih b (hp s hs.1 b hb).2 (he.2 b)⟩

/-- The contract of such programs: the others may do anything that keeps the invariant. -/
def Custom.contract (H : Custom σ L C) (Q : α → Prop) : Contract σ L C α where
  inv := H.inv
  rely _ _ _ := True
  allow := H.allow
  answer := H.answer
  hear := H.hear
  grant _ _ _ := True
  post a _ := Q a

theorem Prog.Keeps.safe {H : Custom σ L C} {Q : α → Prop} {p : Prog σ L C α} (h : p.Keeps H Q)
    (s : σ) : Safe (H.contract Q) p s := by
  induction p generalizing s with
  | ret a => exact fun _ _ _ => h
  | tx l t k ih =>
    intro s' _ hs ha
    exact ⟨(h s' hs ha).1, trivial, ih _ (h s' hs ha).2 _⟩
  | call c k ih =>
    intro s' _ hs b hb
    exact ⟨(h s' hs b hb).1, ih b (h s' hs b hb).2 _⟩

/-- Why such programs keep the invariant of a machine. -/
structure Custom.Rules (H : Custom σ L C) (Q : α → Prop) (M : Machine σ L C α)
    (cond : Config σ L C α → Event σ L C α → Prop) (init : σ → Prop) : Prop where
  init : ∀ s, init s → H.inv s
  spawn : ∀ p, M.starts p → p.Keeps H Q
  allow : ∀ c l others, cond c (.tx l others) → H.allow c.shared l
  answer : ∀ c {β : Type} (x : C β) b, cond c (.call x b) → H.answer c.shared x b
  hear : ∀ {β : Type} (x : C β) b s, M.hear x b s = H.hear x b s
  env : ∀ s s', H.inv s → M.env s s' → H.inv s'
  crash : ∀ s, H.inv s → H.inv (M.onCrash s)

theorem Custom.Rules.governs {H : Custom σ L C} {Q : α → Prop} (h : H.Rules Q M cond init) :
    (H.contract Q).Governs M cond init where
  lawful := ⟨fun _ _ => trivial, fun _ _ _ _ _ _ => trivial⟩
  init := h.init
  spawn _ p _ hp _ := (h.spawn p hp).safe _
  allow := h.allow
  share _ _ _ _ _ _ _ _ := trivial
  answer := h.answer
  hear x b s := ⟨h.hear x b s, fun _ => trivial⟩
  env _ _ hi he _ := ⟨h.env _ _ hi he, fun _ _ => trivial⟩
  crash s hi := ⟨h.crash s hi, fun _ => trivial⟩

/-- The invariant of such a machine holds in every configuration. -/
theorem Custom.Rules.reach {H : Custom σ L C} {Q : α → Prop} (h : H.Rules Q M cond init)
    {c : Config σ L C α} (hreach : Reach M cond init c) : H.inv c.shared :=
  (reach_safe h.governs hreach).1

/-- What a program of such a run answers is as it should be. -/
theorem Custom.Rules.finish {H : Custom σ L C} {Q : α → Prop} (h : H.Rules Q M cond init)
    {c c' : Config σ L C α} (hreach : Reach M cond init c) {a : α}
    (hs : Step M c (.finish a) c') : Q a := by
  obtain ⟨hinv, hpool⟩ := reach_safe h.governs hreach
  cases hs with
  | finish => exact hpool (.ret a) (by simp) _ trivial hinv

/-! ## What follows a transaction -/

/-- After every transaction of a program, whatever the state, its next action is one that the
    relation admits. -/
def Prog.Follows (R : L → σ → σ → Action L C → Prop) : Prog σ L C α → Prop
  | .ret _ => True
  | .tx l t k => ∀ s, R l s (t s).2 (k (t s).1).next ∧ (k (t s).1).Follows R
  | .call _ k => ∀ b, (k b).Follows R

/-- Every program in flight follows a relation that every start follows. -/
theorem reach_follows {R : L → σ → σ → Action L C → Prop}
    (hstarts : ∀ p, M.starts p → p.Follows R) {c : Config σ L C α} (h : Reach M cond init c) :
    ∀ p ∈ c.pool, p.Follows R := by
  induction h with
  | start => simp
  | step _ hs _ ih =>
    intro q hq
    cases hs.origin q hq with
    | waited hmem => exact ih q hmem
    | started hp => exact hstarts _ hp
    | moved hmem => exact (ih _ hmem _).2
    | heard hmem => exact ih _ hmem _

/-! ## Answers nobody waits for -/

/-- A program without its answer. -/
def Prog.discard (p : Prog σ L C α) : Prog σ L C Unit := p >>= fun _ => pure ()

theorem Prog.next_discard (p : Prog σ L C α) : p.discard.next = p.next := by
  cases p <;> rfl

theorem Prog.Follows.discard {R : L → σ → σ → Action L C → Prop} {p : Prog σ L C α}
    (h : p.Follows R) : p.discard.Follows R := by
  induction p with
  | ret a => trivial
  | tx l t k ih =>
    refine fun s => ⟨?_, ih _ (h s).2⟩
    have hnext := (h s).1
    rwa [← Prog.next_discard] at hnext
  | call c k ih => exact fun b => ih b (h b)

theorem Safe.discard {K : Contract σ L C Unit} (hpost : ∀ s, K.post () s) {p : Prog σ L C α}
    {s : σ} (hs : K.inv s) (h : Safe (K.ending fun _ _ => True) p s) : Safe K p.discard s :=
  Safe.bind hs h fun _ _ _ _ s' _ _ => hpost s'

/-! ## Concrete runs -/

/-- One action of a program, with a given answer to a call. -/
def Prog.act (hear : ∀ {β : Type}, C β → β → σ → σ) (answer : ∀ β, C β → β) :
    Prog σ L C α → σ → Prog σ L C α × σ
  | .ret a, s => (.ret a, s)
  | .tx _ t k, s => (k (t s).1, (t s).2)
  | .call c k, s => (k (answer _ c), hear c (answer _ c) s)

/-- Some actions of a program, one after the other. -/
def Prog.acts (hear : ∀ {β : Type}, C β → β → σ → σ) (answers : Nat → ∀ β, C β → β) :
    Nat → Prog σ L C α → σ → Prog σ L C α × σ
  | 0, p, s => (p, s)
  | n + 1, p, s =>
    Prog.act hear (answers n) (Prog.acts hear answers n p s).1 (Prog.acts hear answers n p s).2

/-- A program takes some actions by itself, with some answers to its calls. -/
inductive Prog.Does (hear : ∀ {β : Type}, C β → β → σ → σ) :
    Prog σ L C α → σ → Prog σ L C α → σ → Prop
  | refl {p s} : Does @hear p s p s
  | tx {l} {β : Type} {t : σ → β × σ} {k : β → Prog σ L C α} {s q s'}
    (h : Does @hear (k (t s).1) (t s).2 q s') : Does @hear (.tx l t k) s q s'
  | call {β : Type} {c : C β} {k : β → Prog σ L C α} {s q s'} (b : β)
    (h : Does @hear (k b) (hear c b s) q s') : Does @hear (.call c k) s q s'

namespace Prog.Does

variable {hear : ∀ {β : Type}, C β → β → σ → σ} {p q r : Prog σ L C α} {s s' s'' : σ}

theorem trans (h : Does @hear p s q s') (h' : Does @hear q s' r s'') : Does @hear p s r s'' := by
  induction h with
  | refl => exact h'
  | tx _ ih => exact .tx (ih h')
  | call b _ ih => exact .call b (ih h')

/-- The first of two programs takes actions of both. -/
theorem bind (h : Does @hear p s q s') (f : α → Prog σ L C β) :
    Does @hear (p >>= f) s (q >>= f) s' := by
  induction h with
  | refl => exact .refl
  | tx _ ih => exact .tx ih
  | call b _ ih => exact .call b ih

theorem act (answer : ∀ β, C β → β) (p : Prog σ L C α) (s : σ) :
    Does @hear p s (p.act @hear answer s).1 (p.act @hear answer s).2 := by
  cases p with
  | ret a => exact .refl
  | tx l t k => exact .tx .refl
  | call c k => exact .call _ .refl

theorem acts (answers : Nat → ∀ β, C β → β) (n : Nat) (p : Prog σ L C α) (s : σ) :
    Does @hear p s (p.acts @hear answers n s).1 (p.acts @hear answers n s).2 := by
  induction n with
  | zero => exact .refl
  | succ n ih => exact ih.trans (act _ _ _)

end Prog.Does

/-- What one program of a pool does is a run, and it forgets no state. -/
theorem Reach.does_among {s s' : σ} {past : List σ} (ps qs : List (Prog σ L C α))
    {p q : Prog σ L C α} (h : Reach M cond init ⟨s, past, ps ++ p :: qs⟩)
    (hdoes : p.Does @M.hear s q s') (htx : ∀ c l, cond c (.tx l (ps ++ qs)))
    (hcall : ∀ c {β : Type} (x : C β) b, cond c (.call x b)) :
    ∃ past', (∀ x ∈ s :: past, x ∈ s' :: past') ∧
      Reach M cond init ⟨s', past', ps ++ q :: qs⟩ := by
  induction hdoes generalizing past with
  | refl => exact ⟨past, fun _ hx => hx, h⟩
  | @tx l _ t k s q s' _ ih =>
    obtain ⟨past', hpast, hreach⟩ := ih (h.step (.tx l t k) (htx _ _))
    exact ⟨past', fun x hx => hpast x (List.mem_cons_of_mem _ hx), hreach⟩
  | @call _ c k s q s' b _ ih =>
    obtain ⟨past', hpast, hreach⟩ := ih (h.step (.call c k b) (hcall _ _ _))
    exact ⟨past', fun x hx => hpast x (List.mem_cons_of_mem _ hx), hreach⟩

/-- What a program does by itself is a run. -/
theorem Reach.does {s s' : σ} {past : List σ} {p q : Prog σ L C α}
    (h : Reach M cond init ⟨s, past, [p]⟩) (hdoes : p.Does @M.hear s q s')
    (htx : ∀ c l others, cond c (.tx l others))
    (hcall : ∀ c {β : Type} (x : C β) b, cond c (.call x b)) :
    ∃ past', (∀ x ∈ s :: past, x ∈ s' :: past') ∧ Reach M cond init ⟨s', past', [q]⟩ :=
  Reach.does_among [] [] h hdoes (fun c l => htx c l _) hcall

/-- The answer of a program that has answered. -/
def Prog.answered : Prog σ L C α → Option α
  | .ret a => some a
  | _ => none

theorem Prog.eq_ret_of_answered {p : Prog σ L C α} {a : α} (h : p.answered = some a) :
    p = .ret a := by
  cases p with
  | ret b => exact congrArg _ (Option.some.inj h)
  | tx l t k => cases h
  | call c k => cases h

/-- The event of one action of a program among others. -/
def Prog.event (answer : ∀ β, C β → β) (others : List (Prog σ L C α)) :
    Prog σ L C α → Option (Event σ L C α)
  | .ret _ => none
  | .tx l _ _ => some (.tx l others)
  | .call c _ => some (.call c (answer _ c))

/-- Some actions of one program of a pool, each of which meets the condition, are a run. -/
theorem Reach.acts_among {s : σ} {past : List σ} (ps qs : List (Prog σ L C α))
    {p : Prog σ L C α} (h : Reach M cond init ⟨s, past, ps ++ p :: qs⟩)
    (answers : Nat → ∀ β, C β → β) (n : Nat)
    (hcond : ∀ i < n, ∀ e past, (p.acts @M.hear answers i s).1.event (answers i) (ps ++ qs) = some e →
      cond ⟨(p.acts @M.hear answers i s).2, past, ps ++ (p.acts @M.hear answers i s).1 :: qs⟩ e) :
    ∃ past', Reach M cond init
      ⟨(p.acts @M.hear answers n s).2, past', ps ++ (p.acts @M.hear answers n s).1 :: qs⟩ := by
  induction n with
  | zero => exact ⟨past, h⟩
  | succ n ih =>
    obtain ⟨past', hreach⟩ := ih fun i hi => hcond i (Nat.lt_succ_of_lt hi)
    have hlast := hcond n (Nat.lt_succ_self n)
    rw [Prog.acts]
    generalize p.acts @M.hear answers n s = reached at hreach hlast
    obtain ⟨q, s'⟩ := reached
    cases q with
    | ret a => exact ⟨past', hreach⟩
    | tx l t k => exact ⟨s' :: past', hreach.step (.tx l t k) (hlast _ _ rfl)⟩
    | call c k => exact ⟨s' :: past', hreach.step (.call c k _) (hlast _ _ rfl)⟩

/-! ## Whole runs -/

/-- A program runs by itself to its answer, with answers to its calls that the world may
    give. -/
inductive Prog.Runs (hear : ∀ {β : Type}, C β → β → σ → σ)
    (world : σ → ∀ {β : Type}, C β → β → Prop) : Prog σ L C α → σ → α → σ → Prop
  | ret {a s} : Runs @hear @world (.ret a) s a s
  | tx {l} {β : Type} {t : σ → β × σ} {k : β → Prog σ L C α} {s a s'}
    (h : Runs @hear @world (k (t s).1) (t s).2 a s') : Runs @hear @world (.tx l t k) s a s'
  | call {β : Type} {c : C β} {k : β → Prog σ L C α} {s a s'} (b : β) (hb : world s c b)
    (h : Runs @hear @world (k b) (hear c b s) a s') : Runs @hear @world (.call c k) s a s'

section Runs

variable {hear : ∀ {β : Type}, C β → β → σ → σ} {world : σ → ∀ {β : Type}, C β → β → Prop}
  {s s' : σ}

theorem runs_ret {a b : α} : (Prog.ret a : Prog σ L C α).Runs @hear @world s b s' ↔
    b = a ∧ s' = s := by
  constructor
  · intro h
    cases h
    exact ⟨rfl, rfl⟩
  · rintro ⟨rfl, rfl⟩
    exact .ret

theorem runs_tx {l : L} {t : σ → β × σ} {k : β → Prog σ L C α} {a : α} :
    (Prog.tx l t k).Runs @hear @world s a s' ↔ (k (t s).1).Runs @hear @world (t s).2 a s' := by
  constructor
  · intro h
    cases h
    assumption
  · exact .tx

theorem runs_call {c : C β} {k : β → Prog σ L C α} {a : α} :
    (Prog.call c k).Runs @hear @world s a s' ↔
      ∃ b, world s c b ∧ (k b).Runs @hear @world (hear c b s) a s' := by
  constructor
  · intro h
    cases h with
    | call b hb hk => exact ⟨b, hb, hk⟩
  · rintro ⟨b, hb, hk⟩
    exact .call b hb hk

theorem runs_bind {p : Prog σ L C α} {f : α → Prog σ L C β} {b : β} :
    (p >>= f).Runs @hear @world s b s' ↔
      ∃ a s₁, p.Runs @hear @world s a s₁ ∧ (f a).Runs @hear @world s₁ b s' := by
  induction p generalizing s with
  | ret a =>
    constructor
    · exact fun h => ⟨a, s, .ret, h⟩
    · rintro ⟨a', s₁, h, hf⟩
      obtain ⟨rfl, rfl⟩ := runs_ret.mp h
      exact hf
  | tx l t k ih =>
    rw [Prog.tx_bind, runs_tx, ih]
    simp only [runs_tx]
  | call c k ih =>
    rw [Prog.call_bind, runs_call]
    simp only [runs_call, ih]
    constructor
    · rintro ⟨x, hx, a, s₁, hk, hf⟩
      exact ⟨a, s₁, ⟨x, hx, hk⟩, hf⟩
    · rintro ⟨a, s₁, ⟨x, hx, hk⟩, hf⟩
      exact ⟨x, hx, a, s₁, hk, hf⟩

/-- Two fallible programs one after the other. -/
theorem runs_andThen {x : ExceptT ε (Prog σ L C) α} {f : α → ExceptT ε (Prog σ L C) β}
    {r : Except ε β} :
    (x >>= f).run.Runs @hear @world s r s' ↔
      (∃ a s₁, x.run.Runs @hear @world s (.ok a) s₁ ∧ (f a).run.Runs @hear @world s₁ r s') ∨
        ∃ e, x.run.Runs @hear @world s (.error e) s' ∧ r = .error e := by
  refine Iff.trans (runs_bind (p := x.run) (f := ExceptT.bindCont f)) ⟨?_, ?_⟩
  · rintro ⟨a, s₁, hx, hf⟩
    cases a with
    | ok a => exact .inl ⟨a, s₁, hx, hf⟩
    | error e =>
      obtain ⟨rfl, rfl⟩ := runs_ret.mp hf
      exact .inr ⟨e, hx, rfl⟩
  · rintro (⟨a, s₁, hx, hf⟩ | ⟨e, hx, rfl⟩)
    · exact ⟨.ok a, s₁, hx, hf⟩
    · exact ⟨.error e, s', hx, .ret⟩

/-- What a program by itself did to its answer is a run. -/
theorem Prog.Does.runs {p : Prog σ L C α} {a : α} (h : p.Does @hear s (.ret a) s') :
    p.Runs @hear (fun _ _ _ _ => True) s a s' := by
  generalize hq : (Prog.ret a : Prog σ L C α) = q at h
  induction h with
  | refl =>
    subst hq
    exact .ret
  | tx _ ih => exact .tx (ih hq)
  | call b _ ih => exact .call b trivial (ih hq)

end Runs

end Interleave

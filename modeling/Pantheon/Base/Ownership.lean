/-
  Tokens and triples for interleaved programs.
  A program may acquire something new by a transaction and keep it to itself until it gives it
  up: it acts under a token. Tokens come into being fresh, so no two programs of a run act under
  the same one (`reach_apart`), and a contract may let each program rely on what its own token
  stands for. `Triple` is a part of a program whatever follows it; the condition between two
  parts need not survive interference, since the second part goes on in the same state.
  `Steps` is the rest of a run.
-/
import Pantheon.Base.Program

namespace Interleave

variable {σ L : Type} {C : Type → Type} {α β τ : Type}

/-! ## Tokens -/

/-- The token each action is taken under, the one held after a transaction, and the tokens that
    exist in a state. -/
structure Tokens (σ L : Type) (C : Type → Type) (τ : Type) : Type 1 where
  ofTx : L → Option τ
  ofCall : ∀ {β : Type}, C β → Option τ
  after : L → σ → Option τ
  live : σ → τ → Prop

def Tokens.ofNext (T : Tokens σ L C τ) : Action L C → Option τ
  | .done => none
  | .tx l => T.ofTx l
  | .call c => T.ofCall c

/-- A program acts under the token it holds, acquires only tokens that are new, and its
    transactions keep the tokens there are. -/
def Prog.Holds (T : Tokens σ L C τ) (t : Option τ) : Prog σ L C α → Prop
  | .ret _ => True
  | .tx l f k => T.ofTx l = t ∧ ∀ s, (∀ u, T.live s u → T.live (f s).2 u) ∧
      (∀ u, T.after l s = some u → t = some u ∨ ¬T.live s u ∧ T.live (f s).2 u) ∧
      Prog.Holds T (T.after l s) (k (f s).1)
  | .call c k => T.ofCall c = t ∧ ∀ b, Prog.Holds T t (k b)

/-- A part of a program that starts with one token leaves one that `Q` admits to whatever
    follows it. -/
def Prog.Passes (T : Tokens σ L C τ) (t : Option τ) (p : Prog σ L C β)
    (Q : β → Option τ → Prop) : Prop :=
  ∀ (α : Type) (k : β → Prog σ L C α), (∀ b u, Q b u → (k b).Holds T u) → (p >>= k).Holds T t

namespace Prog.Passes

variable {T : Tokens σ L C τ} {t : Option τ} {γ ε : Type}

theorem ret {b : β} {Q : β → Option τ → Prop} (h : Q b t) : Passes T t (.ret b) Q :=
  fun _ _ hk => hk b t h

theorem bind {p : Prog σ L C β} {f : β → Prog σ L C γ} {R : β → Option τ → Prop}
    {Q : γ → Option τ → Prop} (hp : Passes T t p R) (hf : ∀ b u, R b u → Passes T u (f b) Q) :
    Passes T t (p >>= f) Q := by
  intro α k hk
  rw [Prog.bind_assoc]
  exact hp _ _ fun b u hR => hf b u hR _ k hk

/-- One transaction, with what is held after it. -/
theorem atomically {l : L} {f : σ → β × σ} {Q : β → Option τ → Prop} (hl : T.ofTx l = t)
    (h : ∀ s, (∀ u, T.live s u → T.live (f s).2 u) ∧
      (∀ u, T.after l s = some u → t = some u ∨ ¬T.live s u ∧ T.live (f s).2 u) ∧
      Q (f s).1 (T.after l s)) : Passes T t (Prog.atomically l f) Q :=
  fun _ _ hk => ⟨hl, fun s => ⟨(h s).1, (h s).2.1, hk _ _ (h s).2.2⟩⟩

/-- One external call. -/
theorem ask {c : C β} {Q : β → Option τ → Prop} (hc : T.ofCall c = t) (h : ∀ b, Q b t) :
    Passes T t (Prog.ask c) Q := fun _ _ hk => ⟨hc, fun b => hk b t (h b)⟩

/-- Two fallible parts; nothing is asked of a failure. -/
theorem andThen {x : ExceptT ε (Prog σ L C) β} {f : β → ExceptT ε (Prog σ L C) γ}
    {R : β → Option τ → Prop} {Q : Except ε γ → Option τ → Prop} (hfail : ∀ e u, Q (.error e) u)
    (hx : Passes T t x.run fun r u => ∀ b, r = .ok b → R b u)
    (hf : ∀ b u, R b u → Passes T u (f b).run Q) : Passes T t (x >>= f).run Q := by
  refine bind (p := x.run) (f := ExceptT.bindCont f) hx fun r u hr => ?_
  cases r with
  | ok b => exact hf b u (hr b rfl)
  | error e => exact ret (hfail e u)

end Prog.Passes

/-- What a program holds is what its next action is taken under. -/
theorem Prog.Holds.next {T : Tokens σ L C τ} {t : Option τ} {p : Prog σ L C α} (h : p.Holds T t) :
    p.Holds T (T.ofNext p.next) ∧ ∀ u, T.ofNext p.next = some u → t = some u := by
  cases p with
  | ret a => exact ⟨trivial, nofun⟩
  | tx l f k =>
    obtain ⟨rfl, hrest⟩ := h
    exact ⟨⟨rfl, hrest⟩, fun u hu => hu⟩
  | call c k =>
    obtain ⟨rfl, hrest⟩ := h
    exact ⟨⟨rfl, hrest⟩, fun u hu => hu⟩

/-- The next actions of two programs are taken under different tokens. -/
def Tokens.Apart (T : Tokens σ L C τ) (p q : Prog σ L C α) : Prop :=
  ∀ u, T.ofNext p.next = some u → T.ofNext q.next ≠ some u

theorem Tokens.Apart.symm {T : Tokens σ L C τ} {p q : Prog σ L C α} (h : T.Apart p q) :
    T.Apart q p := fun u hq hp => h u hp hq

/-- A pool in which every program holds its token, no two the same. -/
structure Tokens.Shared (T : Tokens σ L C τ) (s : σ) (pool : List (Prog σ L C α)) : Prop where
  holds : ∀ p ∈ pool, p.Holds T (T.ofNext p.next)
  live : ∀ p ∈ pool, ∀ u, T.ofNext p.next = some u → T.live s u
  apart : pool.Pairwise T.Apart

/-- One program goes on, with what it held or with something new. -/
theorem Tokens.Shared.replace {T : Tokens σ L C τ} {s s' : σ} {p p' : Prog σ L C α}
    {ps qs : List (Prog σ L C α)} (h : T.Shared s (ps ++ p :: qs))
    (hlive : ∀ u, T.live s u → T.live s' u) (hp' : p'.Holds T (T.ofNext p'.next))
    (htoken : ∀ u, T.ofNext p'.next = some u →
      T.ofNext p.next = some u ∨ ¬T.live s u ∧ T.live s' u) : T.Shared s' (ps ++ p' :: qs) := by
  have hother : ∀ q, q ∈ ps ∨ q ∈ qs → q ∈ ps ++ p :: qs := by
    intro q hq
    simp only [List.mem_append, List.mem_cons]
    tauto
  have hmem : ∀ q ∈ ps ++ p' :: qs, q = p' ∨ q ∈ ps ∨ q ∈ qs := by
    intro q hq
    simp only [List.mem_append, List.mem_cons] at hq
    tauto
  obtain ⟨hps, hcons, hcross⟩ := List.pairwise_append.mp h.apart
  obtain ⟨hpq, hqs⟩ := List.pairwise_cons.mp hcons
  have hapart : ∀ q, q ∈ ps ∨ q ∈ qs → T.Apart p' q := by
    intro q hq u hu hqu
    rcases htoken u hu with hold | ⟨hnew, -⟩
    · rcases hq with hq | hq
      · exact hcross q hq p (List.mem_cons_self ..) u hqu hold
      · exact hpq q hq u hold hqu
    · exact hnew (h.live q (hother q hq) u hqu)
  refine ⟨fun q hq => ?_, fun q hq u hu => ?_, ?_⟩
  · rcases hmem q hq with rfl | hq
    · exact hp'
    · exact h.holds q (hother q hq)
  · rcases hmem q hq with rfl | hq
    · rcases htoken u hu with hold | ⟨-, hnew⟩
      · exact hlive u (h.live p (by simp) u hold)
      · exact hnew
    · exact hlive u (h.live q (hother q hq) u hu)
  · refine List.pairwise_append.mpr ⟨hps, List.pairwise_cons.mpr
      ⟨fun q hq => hapart q (.inr hq), hqs⟩, fun q hq r hr => ?_⟩
    rcases List.mem_cons.mp hr with rfl | hr
    · exact (hapart q (.inl hq)).symm
    · exact hcross q hq r (List.mem_cons_of_mem _ hr)

/-- Fewer programs, and more tokens in existence. -/
theorem Tokens.Shared.mono {T : Tokens σ L C τ} {s s' : σ} {pool pool' : List (Prog σ L C α)}
    (h : T.Shared s pool) (hlive : ∀ u, T.live s u → T.live s' u) (hsub : pool'.Sublist pool) :
    T.Shared s' pool' :=
  ⟨fun p hp => h.holds p (hsub.subset hp),
    fun p hp u hu => hlive u (h.live p (hsub.subset hp) u hu), h.apart.sublist hsub⟩

variable {M : Machine σ L C α} {cond : Config σ L C α → Event σ L C α → Prop} {init : σ → Prop}

/-- Why the programs of a machine hold tokens. -/
structure Tokens.Rules (T : Tokens σ L C τ) (M : Machine σ L C α) : Prop where
  starts : ∀ p, M.starts p → p.Holds T none
  hear : ∀ {β : Type} (x : C β) b s u, T.live s u → T.live (M.hear x b s) u
  crash : ∀ s u, T.live s u → T.live (M.onCrash s) u
  env : ∀ s s', M.env s s' → ∀ u, T.live s u → T.live s' u

theorem reach_shared {T : Tokens σ L C τ} (hT : T.Rules M) {c : Config σ L C α}
    (h : Reach M cond init c) : T.Shared c.shared c.pool := by
  induction h with
  | start => exact ⟨nofun, nofun, .nil⟩
  | step _ hs _ ih =>
    cases hs with
    | @spawn s past ps p hp =>
      obtain ⟨hholds, hnone⟩ := (hT.starts p hp).next
      have hfree : ∀ u, T.ofNext p.next ≠ some u := fun u hu => by cases hnone u hu
      refine ⟨List.forall_mem_cons.mpr ⟨hholds, ih.holds⟩,
        List.forall_mem_cons.mpr ⟨fun u hu => absurd hu (hfree u), ih.live⟩,
        List.pairwise_cons.mpr ⟨fun q _ u hu => absurd hu (hfree u), ih.apart⟩⟩
    | @tx s past ps qs l _ t k =>
      obtain ⟨-, hown⟩ := ih.holds (.tx l t k) (by simp)
      obtain ⟨hlive, hafter, hnext⟩ := hown s
      refine ih.replace hlive hnext.next.1 fun u hu => hafter u (hnext.next.2 u hu)
    | @call s past ps qs _ x k b =>
      obtain ⟨-, hown⟩ := ih.holds (.call x k) (by simp)
      refine ih.replace (hT.hear x b s) (hown b).next.1 fun u hu => .inl ((hown b).next.2 u hu)
    | @finish s past ps qs a =>
      exact ih.mono (fun _ hu => hu) (List.Sublist.append (.refl ps) (List.sublist_cons_self _ _))
    | @crash s past ps qs p =>
      exact ih.mono (hT.crash s) (List.Sublist.append (.refl ps) (List.sublist_cons_self _ _))
    | env s' hs' => exact ih.mono (hT.env _ _ hs') (.refl _)

/-- No transaction is made under a token of another program in flight. -/
def Tokens.ApartAt (T : Tokens σ L C τ) : Event σ L C α → Prop
  | .tx l others => ∀ q ∈ others, ∀ u, T.ofTx l = some u → T.ofNext q.next ≠ some u
  | _ => True

/-- Every step of a run keeps the tokens apart. -/
theorem step_apart {T : Tokens σ L C τ} (hT : T.Rules M) {c c' : Config σ L C α}
    {e : Event σ L C α} (h : Reach M cond init c) (hs : Step M c e c') : T.ApartAt e := by
  have hshared := reach_shared hT h
  cases hs with
  | @tx s past ps qs l _ t k =>
    intro q hq u hu
    obtain ⟨-, hcons, hcross⟩ := List.pairwise_append.mp hshared.apart
    rcases List.mem_append.mp hq with hq | hq
    · exact fun hqu => hcross q hq (.tx l t k) (List.mem_cons_self ..) u hqu hu
    · exact (List.pairwise_cons.mp hcons).1 q hq u hu
  | _ => trivial

/-- A run may be taken to keep its tokens apart. -/
theorem reach_apart {T : Tokens σ L C τ} (hT : T.Rules M) {c : Config σ L C α}
    (h : Reach M cond init c) : Reach M (fun c e => cond c e ∧ T.ApartAt e) init c := by
  induction h with
  | start hs => exact .start hs
  | step hr hs hc ih => exact ih.step hs ⟨hc, step_apart hT hr hs⟩

/-! ## Triples -/

/-- From `J`, a part of a program leaves `Q` to whatever follows it. -/
def Triple (K : Contract σ L C α) (J : σ → Prop) (p : Prog σ L C β) (Q : β → σ → Prop) : Prop :=
  ∀ (k : β → Prog σ L C α) (s : σ), K.inv s → J s →
    (∀ b s', K.inv s' → Q b s' → Safe K (k b) s') → Safe K (p >>= k) s

namespace Triple

variable {K : Contract σ L C α} {J : σ → Prop} {γ ε : Type}

theorem ret {b : β} {Q : β → σ → Prop} (h : ∀ s, K.inv s → J s → Q b s) :
    Triple K J (.ret b) Q := fun _ s hi hJ hk => hk b s hi (h s hi hJ)

theorem bind {p : Prog σ L C β} {f : β → Prog σ L C γ} {R : β → σ → Prop} {Q : γ → σ → Prop}
    (hp : Triple K J p R) (hf : ∀ b, Triple K (R b) (f b) Q) : Triple K J (p >>= f) Q := by
  intro k s hi hJ hk
  rw [Prog.bind_assoc]
  exact hp _ s hi hJ fun b s' hi' hR => hf b k s' hi' hR hk

theorem imp {p : Prog σ L C β} {J' : σ → Prop} {Q Q' : β → σ → Prop} (hp : Triple K J p Q)
    (hJ : ∀ s, K.inv s → J' s → J s) (hQ : ∀ b s, K.inv s → Q b s → Q' b s) : Triple K J' p Q' :=
  fun k s hi hJ' hk => hp k s hi (hJ s hi hJ') fun b s' hi' h => hk b s' hi' (hQ b s' hi' h)

/-- One transaction: what it counts on survives what the others do while it waits. -/
theorem atomically {l : L} {t : σ → β × σ} {Q : β → σ → Prop}
    (hJ : ∀ s s', K.rely (.tx l) s s' → K.inv s' → J s → J s')
    (h : ∀ s, K.inv s → J s → K.allow s l →
      K.inv (t s).2 ∧ K.grant l s (t s).2 ∧ Q (t s).1 (t s).2) :
    Triple K J (Prog.atomically l t) Q := by
  intro k s _ hs hk s' hr hi' ha
  obtain ⟨hinv, hgrant, hQ⟩ := h s' hi' (hJ s s' hr hi' hs) ha
  exact ⟨hinv, hgrant, hk _ _ hinv hQ⟩

/-- One external call. -/
theorem ask {c : C β} {Q : β → σ → Prop} (hJ : ∀ s s', K.rely (.call c) s s' → K.inv s' → J s → J s')
    (h : ∀ s, K.inv s → J s → ∀ b, K.answer s c b →
      K.inv (K.hear c b s) ∧ Q b (K.hear c b s)) : Triple K J (Prog.ask c) Q := by
  intro k s _ hs hk s' hr hi' b hb
  obtain ⟨hinv, hQ⟩ := h s' hi' (hJ s s' hr hi' hs) b hb
  exact ⟨hinv, hk b _ hinv hQ⟩

/-- Two fallible parts: the first leaves `R` where it succeeds, and what the whole leaves where
    it fails. -/
theorem andThen {x : ExceptT ε (Prog σ L C) β} {f : β → ExceptT ε (Prog σ L C) γ}
    {R : β → σ → Prop} {Q : Except ε γ → σ → Prop}
    (hx : Triple K J x.run fun
      | .ok b => R b
      | .error e => Q (.error e))
    (hf : ∀ b, Triple K (R b) (f b).run Q) : Triple K J (x >>= f).run Q := by
  refine bind (p := x.run) (f := ExceptT.bindCont f) hx fun r => ?_
  cases r with
  | ok b => exact hf b
  | error e => exact ret fun _ _ h => h

/-- A program that is one part and its answer. -/
theorem safe {p : Prog σ L C β} {Q : β → σ → Prop} (hp : Triple K J p Q) {f : β → α}
    (hpost : ∀ b s s', Q b s → K.rely .done s s' → K.inv s' → K.post (f b) s') {s : σ}
    (hi : K.inv s) (hJ : J s) : Safe K (p >>= fun b => .ret (f b)) s :=
  hp _ s hi hJ fun b s' _ hQ s'' hr hi'' => hpost b s' s'' hQ hr hi''

end Triple

/-! ## The rest of a run -/

/-- A configuration is reached from another by steps that all meet the condition. -/
inductive Steps (M : Machine σ L C α) (cond : Config σ L C α → Event σ L C α → Prop)
    (c : Config σ L C α) : Config σ L C α → Prop
  | refl : Steps M cond c c
  | step {c₁ e c₂} (h : Steps M cond c c₁) (hs : Step M c₁ e c₂) (hc : cond c₁ e) :
    Steps M cond c c₂

theorem Reach.steps {c c' : Config σ L C α} (h : Reach M cond init c) (hs : Steps M cond c c') :
    Reach M cond init c' := by
  induction hs with
  | refl => exact h
  | step _ hs hc ih => exact ih.step hs hc

/-- A step forgets no state. -/
theorem Step.remembers {c c' : Config σ L C α} {e : Event σ L C α} (h : Step M c e c') :
    ∀ s ∈ c.shared :: c.past, s ∈ c'.shared :: c'.past := by
  intro s hs
  cases h with
  | spawn => exact hs
  | finish => exact hs
  | _ => exact List.mem_cons_of_mem _ hs

/-- The state a run started in is the one it has or one it had. -/
theorem Reach.started {c : Config σ L C α} (h : Reach M cond init c) :
    ∃ s ∈ c.shared :: c.past, init s := by
  induction h with
  | @start s hs => exact ⟨s, List.mem_cons_self .., hs⟩
  | step _ hs _ ih =>
    obtain ⟨s, hmem, hinit⟩ := ih
    exact ⟨s, hs.remembers s hmem, hinit⟩

/-- A run forgets no state. -/
theorem Steps.remembers {c c' : Config σ L C α} (h : Steps M cond c c') :
    ∀ s ∈ c.shared :: c.past, s ∈ c'.shared :: c'.past := by
  induction h with
  | refl => exact fun _ hs => hs
  | step _ hs _ ih => exact fun s hmem => hs.remembers s (ih s hmem)

end Interleave

/-
  What one program of a run has done itself.
  A `Trail` lists the actions a program has taken since it started, newest first, each
  transaction with the states before and after it; between two of them the others may have done
  anything. `Accounts` is a specification over trails: every action is one that the trail so far
  justifies, and so is the answer. It composes like a triple. `reach_told` gives every program
  in flight a trail, `moments_told` says the run went through its states, and `chain_told` relates those states to
  each other and to the current one.
-/
import Pantheon.Base.Ownership

namespace Interleave

variable {σ L : Type} {C : Type → Type} {α β : Type}

/-! ## Trails -/

/-- One action of a program. -/
inductive Moment (σ L : Type) (C : Type → Type) : Type 1 where
  | tx (l : L) (s s' : σ)
  | call {β : Type} (c : C β) (b : β)

/-- A program has become another by its own actions, newest first. -/
inductive Prog.Trail (p : Prog σ L C α) : List (Moment σ L C) → Prog σ L C α → Prop
  | start : Trail p [] p
  | tx {h : List (Moment σ L C)} {l : L} {β : Type} {t : σ → β × σ} {k : β → Prog σ L C α} (s : σ)
    (before : Trail p h (.tx l t k)) : Trail p (.tx l s (t s).2 :: h) (k (t s).1)
  | call {h : List (Moment σ L C)} {β : Type} {c : C β} {k : β → Prog σ L C α} (b : β)
    (before : Trail p h (.call c k)) : Trail p (.call c b :: h) (k b)

/-- A moment of a run: the states of a transaction are among those the run went through, and
    the run's condition admitted it. -/
def Moment.Of (cond : Config σ L C α → Event σ L C α → Prop) (states : List σ) :
    Moment σ L C → Prop
  | .tx l s s' => s ∈ states ∧ s' ∈ states ∧
      ∃ c others, c.shared = s ∧ cond c (Event.tx l others)
  | .call x b => ∃ c, cond c (Event.call x b)

theorem Moment.Of.mono {cond : Config σ L C α → Event σ L C α → Prop} {states states' : List σ}
    (hsub : ∀ s ∈ states, s ∈ states') {m : Moment σ L C} (h : m.Of cond states) :
    m.Of cond states' := by
  cases m with
  | tx l s s' => exact ⟨hsub s h.1, hsub s' h.2.1, h.2.2⟩
  | call x b => exact h

variable {M : Machine σ L C α} {cond : Config σ L C α → Event σ L C α → Prop} {init : σ → Prop}

/-- What holds of a program's trail: nothing at first, and then what its own actions and the
    steps of others keep. -/
structure Machine.Tells (M : Machine σ L C α) (cond : Config σ L C α → Event σ L C α → Prop)
    (init : σ → Prop) (I : List (Moment σ L C) → Config σ L C α → Prop) : Prop where
  start : ∀ c, I [] c
  others : ∀ h c e c', Reach M cond init c → Step M c e c' → I h c → I h c'
  tx : ∀ h c l others c', Reach M cond init c → Step M c (.tx l others) c' →
    cond c (.tx l others) → I h c → I (.tx l c.shared c'.shared :: h) c'
  call : ∀ h c {β : Type} (x : C β) b c', Reach M cond init c → Step M c (.call x b) c' →
    cond c (.call x b) → I h c → I (.call x b :: h) c'

/-- Every program in flight has come from a start by a trail of which that holds. -/
theorem reach_told {I : List (Moment σ L C) → Config σ L C α → Prop} (hI : M.Tells cond init I)
    {c : Config σ L C α} (h : Reach M cond init c) :
    ∀ p ∈ c.pool, ∃ p₀ trail, M.starts p₀ ∧ p₀.Trail trail p ∧ I trail c := by
  induction h with
  | start => exact nofun
  | @step c e c' hr hs hc ih =>
    intro q hq
    cases hs.origin q hq with
    | waited hmem =>
      obtain ⟨p₀, trail, hstart, htrail, hi⟩ := ih q hmem
      exact ⟨p₀, trail, hstart, htrail, hI.others _ _ _ _ hr hs hi⟩
    | started hp => exact ⟨_, [], hp, .start, hI.start _⟩
    | moved hmem hshared =>
      obtain ⟨p₀, trail, hstart, htrail, hi⟩ := ih _ hmem
      have hown := hI.tx _ _ _ _ _ hr hs hc hi
      rw [hshared] at hown
      exact ⟨p₀, _, hstart, htrail.tx _, hown⟩
    | heard hmem =>
      obtain ⟨p₀, trail, hstart, htrail, hi⟩ := ih _ hmem
      exact ⟨p₀, _, hstart, htrail.call _, hI.call _ _ _ _ _ hr hs hc hi⟩

/-- Trails consist of moments of the run. -/
theorem moments_told : M.Tells cond init fun h c => ∀ m ∈ h, m.Of cond (c.shared :: c.past) where
  start _ := nofun
  others h c e c' _ hs hi m hm := (hi m hm).mono hs.remembers
  tx h c l others c' _ hs hc hi := by
    refine List.forall_mem_cons.mpr ⟨?_, fun m hm => (hi m hm).mono hs.remembers⟩
    cases hs
    exact ⟨by simp, by simp, _, _, rfl, hc⟩
  call h c _ x b c' _ hs hc hi :=
    List.forall_mem_cons.mpr ⟨⟨c, hc⟩, fun m hm => (hi m hm).mono hs.remembers⟩

theorem Machine.Tells.and {I J : List (Moment σ L C) → Config σ L C α → Prop}
    (hI : M.Tells cond init I) (hJ : M.Tells cond init J) :
    M.Tells cond init fun h c => I h c ∧ J h c where
  start c := ⟨hI.start c, hJ.start c⟩
  others h c e c' hr hs hi := ⟨hI.others h c e c' hr hs hi.1, hJ.others h c e c' hr hs hi.2⟩
  tx h c l others c' hr hs hc hi :=
    ⟨hI.tx h c l others c' hr hs hc hi.1, hJ.tx h c l others c' hr hs hc hi.2⟩
  call h c _ x b c' hr hs hc hi :=
    ⟨hI.call h c x b c' hr hs hc hi.1, hJ.call h c x b c' hr hs hc hi.2⟩

/-! ## Accounts -/

/-- What a program may do after a trail, and what its transactions do to the state. -/
structure Account (σ L : Type) (C : Type → Type) : Type 1 where
  act : List (Moment σ L C) → Action L C → Prop
  effect : L → σ → σ → Prop

/-- After a trail, every action of a program is one the account justifies and has the effect it
    says, and its answer meets `Q`. -/
def Prog.Accounts (A : Account σ L C) (Q : List (Moment σ L C) → α → Prop) :
    List (Moment σ L C) → Prog σ L C α → Prop
  | h, .ret a => Q h a
  | h, .tx l t k => A.act h (.tx l) ∧
      ∀ s, A.effect l s (t s).2 ∧ (k (t s).1).Accounts A Q (.tx l s (t s).2 :: h)
  | h, .call c k => A.act h (.call c) ∧ ∀ b, (k b).Accounts A Q (.call c b :: h)

namespace Prog.Accounts

variable {A : Account σ L C} {h : List (Moment σ L C)}

/-- An account is kept along a trail. -/
theorem trail {p q : Prog σ L C α} {Q : List (Moment σ L C) → α → Prop} {steps}
    (hp : p.Accounts A Q []) (ht : p.Trail steps q) : q.Accounts A Q steps := by
  induction ht with
  | start => exact hp
  | tx s _ ih => exact (ih.2 s).2
  | call b _ ih => exact ih.2 b

theorem imp {p : Prog σ L C α} {Q Q' : List (Moment σ L C) → α → Prop} (hp : p.Accounts A Q h)
    (hQ : ∀ h' a, Q h' a → Q' h' a) : p.Accounts A Q' h := by
  induction p generalizing h with
  | ret a => exact hQ h a hp
  | tx l t k ih => exact ⟨hp.1, fun s => ⟨(hp.2 s).1, ih _ (hp.2 s).2⟩⟩
  | call c k ih => exact ⟨hp.1, fun b => ih b (hp.2 b)⟩

/-- An account that justifies more. -/
theorem weaken {act : List (Moment σ L C) → Action L C → Prop} (hact : ∀ h a, A.act h a → act h a)
    {p : Prog σ L C α} {Q : List (Moment σ L C) → α → Prop} (hp : p.Accounts A Q h) :
    p.Accounts ⟨act, A.effect⟩ Q h := by
  induction p generalizing h with
  | ret a => exact hp
  | tx l t k ih => exact ⟨hact _ _ hp.1, fun s => ⟨(hp.2 s).1, ih _ (hp.2 s).2⟩⟩
  | call c k ih => exact ⟨hact _ _ hp.1, fun b => ih b (hp.2 b)⟩

theorem bind {p : Prog σ L C α} {f : α → Prog σ L C β} {R : List (Moment σ L C) → α → Prop}
    {Q : List (Moment σ L C) → β → Prop} (hp : p.Accounts A R h)
    (hf : ∀ h' a, R h' a → (f a).Accounts A Q h') : (p >>= f).Accounts A Q h := by
  induction p generalizing h with
  | ret a => exact hf h a hp
  | tx l t k ih => exact ⟨hp.1, fun s => ⟨(hp.2 s).1, ih _ (hp.2 s).2⟩⟩
  | call c k ih => exact ⟨hp.1, fun b => ih b (hp.2 b)⟩

end Prog.Accounts

/-- The programs a machine starts have accounts with this effect. -/
def Machine.Effects (M : Machine σ L C α) (effect : L → σ → σ → Prop) : Prop :=
  ∀ p, M.starts p → ∃ act Q, p.Accounts ⟨act, effect⟩ Q []

/-- A transaction has the effect the account of its program says. -/
theorem step_effect {effect : L → σ → σ → Prop} (hM : M.Effects effect) {c c' : Config σ L C α}
    (h : Reach M cond init c) {l : L} {others : List (Prog σ L C α)}
    (hs : Step M c (.tx l others) c') : effect l c.shared c'.shared := by
  cases hs with
  | @tx s past ps qs l _ t k =>
    obtain ⟨p₀, trail, hstart, htrail, -⟩ := reach_told moments_told h (.tx l t k) (by simp)
    obtain ⟨act, Q, haccounts⟩ := hM p₀ hstart
    exact ((haccounts.trail htrail).2 s).1

/-! ## What a run keeps -/

/-- Why the steps of a machine keep a relation between earlier and later states. -/
structure Machine.Preserves (M : Machine σ L C α) (effect : L → σ → σ → Prop) (T : σ → σ → Prop) :
    Prop where
  effects : M.Effects effect
  refl : ∀ s, T s s
  trans : ∀ s s' s'', T s s' → T s' s'' → T s s''
  tx : ∀ l s s', effect l s s' → T s s'
  hear : ∀ {β : Type} (x : C β) b s, T s (M.hear x b s)
  crash : ∀ s, T s (M.onCrash s)
  env : ∀ s s', M.env s s' → T s s'

theorem step_kept {effect : L → σ → σ → Prop} {T : σ → σ → Prop} (hM : M.Preserves effect T)
    {c c' : Config σ L C α} {e : Event σ L C α} (h : Reach M cond init c) (hs : Step M c e c') :
    T c.shared c'.shared := by
  have hstep := hs
  cases hs with
  | spawn => exact hM.refl _
  | tx l t k => exact hM.tx l _ _ (step_effect hM.effects h hstep)
  | call x k b => exact hM.hear x b _
  | finish => exact hM.refl _
  | crash => exact hM.crash _
  | env s' hs' => exact hM.env _ _ hs'

/-- The rest of a run keeps it too. -/
theorem steps_kept {effect : L → σ → σ → Prop} {T : σ → σ → Prop} (hM : M.Preserves effect T)
    {c c' : Config σ L C α} (h : Reach M cond init c) (hs : Steps M cond c c') :
    T c.shared c'.shared := by
  induction hs with
  | refl => exact hM.refl _
  | step hbefore hstep _ ih => exact hM.trans _ _ _ ih (step_kept hM (h.steps hbefore) hstep)

/-- The transactions of a trail happened one after the other, and then came `now`. -/
def Chain (T : σ → σ → Prop) : List (Moment σ L C) → σ → Prop
  | [], _ => True
  | .tx _ s s' :: h, now => T s' now ∧ Chain T h s
  | .call _ _ :: h, now => Chain T h now

theorem Chain.later {T : σ → σ → Prop} (htrans : ∀ s s' s'', T s s' → T s' s'' → T s s'')
    {h : List (Moment σ L C)} {s s' : σ} (hc : Chain T h s) (hs : T s s') : Chain T h s' := by
  induction h with
  | nil => trivial
  | cons m h ih =>
    cases m with
    | tx l t t' => exact ⟨htrans _ _ _ hc.1 hs, hc.2⟩
    | call x b => exact ih hc

/-- What was done before a transaction lies before it. -/
theorem Chain.before {T : σ → σ → Prop} {h older : List (Moment σ L C)} {l : L} {s s' now : σ}
    (hc : Chain T h now) (hsuffix : Moment.tx l s s' :: older <:+ h) : Chain T older s := by
  induction h generalizing now with
  | nil => exact absurd (List.eq_nil_of_suffix_nil hsuffix) (List.cons_ne_nil _ _)
  | cons m h ih =>
    rcases List.suffix_cons_iff.mp hsuffix with heq | hinner
    · obtain ⟨rfl, rfl⟩ := List.cons.inj heq
      exact hc.2
    · cases m with
      | tx l' t t' => exact ih hc.2 hinner
      | call x b => exact ih hc hinner

/-- Every transaction of a trail lies before what came after it. -/
theorem Chain.mem {T : σ → σ → Prop} (htrans : ∀ s s' s'', T s s' → T s' s'' → T s s'')
    {h : List (Moment σ L C)} {l : L} {s s' now : σ} (hc : Chain T h now)
    (hown : ∀ l s s', Moment.tx l s s' ∈ h → T s s') (hmem : Moment.tx l s s' ∈ h) : T s' now := by
  induction h generalizing now with
  | nil => cases hmem
  | cons m h ih =>
    have hrest := fun l s s' hm => hown l s s' (List.mem_cons_of_mem _ hm)
    rcases List.mem_cons.mp hmem with rfl | hinner
    · exact hc.1
    · cases m with
      | tx l' t t' =>
        exact htrans _ _ _ (ih hc.2 hrest hinner)
          (htrans _ _ _ (hown l' t t' List.mem_cons_self) hc.1)
      | call x b => exact ih hc hrest hinner

/-- The trails of a run are chained by what its steps keep. -/
theorem chain_told {effect : L → σ → σ → Prop} {T : σ → σ → Prop} (hM : M.Preserves effect T) :
    M.Tells cond init fun h c => Chain T h c.shared ∧
      ∀ l s s', Moment.tx l s s' ∈ h → T s s' where
  start _ := ⟨trivial, nofun⟩
  others h c e c' hr hs hi := ⟨hi.1.later hM.trans (step_kept hM hr hs), hi.2⟩
  tx h c l others c' hr hs hc hi := by
    refine ⟨⟨hM.refl _, hi.1⟩, fun l' s s' hm => ?_⟩
    rcases List.mem_cons.mp hm with heq | hm
    · obtain ⟨rfl, rfl, rfl⟩ := Moment.tx.inj heq
      exact step_kept hM hr hs
    · exact hi.2 l' s s' hm
  call h c _ x b c' hr hs hc hi := by
    refine ⟨hi.1.later hM.trans (step_kept hM hr hs), fun l' s s' hm => ?_⟩
    rcases List.mem_cons.mp hm with heq | hm
    · cases heq
    · exact hi.2 l' s s' hm

/-! ## Programs by themselves -/

/-- A program that has run by itself has a trail. -/
theorem Prog.Runs.trail {hear : ∀ {β : Type}, C β → β → σ → σ}
    {world : σ → ∀ {β : Type}, C β → β → Prop} {p : Prog σ L C α} {s s' : σ} {a : α}
    (h : p.Runs @hear @world s a s') : ∃ steps, p.Trail steps (.ret a) := by
  have hgen : ∀ (p₀ : Prog σ L C α) before, p₀.Trail before p →
      ∃ steps, p₀.Trail steps (.ret a) := by
    induction h with
    | ret => exact fun p₀ before hb => ⟨before, hb⟩
    | tx _ ih => exact fun p₀ before hb => ih p₀ _ (hb.tx _)
    | call b _ _ ih => exact fun p₀ before hb => ih p₀ _ (hb.call b)
  exact hgen p [] .start

/-- A program that has run by itself did so step by step, for anyone who hears its calls alike. -/
theorem Prog.Runs.does {hear hear' : ∀ {β : Type}, C β → β → σ → σ}
    {world : σ → ∀ {β : Type}, C β → β → Prop}
    (hsame : ∀ s {β : Type} (c : C β) b, world s c b → hear' c b s = hear c b s)
    {p : Prog σ L C α} {s s' : σ} {a : α} (h : p.Runs @hear @world s a s') :
    p.Does @hear' s (.ret a) s' := by
  induction h with
  | ret => exact .refl
  | tx _ ih => exact .tx ih
  | @call _ c k s a s' b hb _ ih => exact .call b (by rwa [hsame s c b hb])

/-- The first part of a program, by itself, is a run where its actions meet the condition. -/
theorem Reach.part {A : Account σ L C} {Q : List (Moment σ L C) → β → Prop} {s s' : σ} {past : List σ}
    (ps qs : List (Prog σ L C α)) {x : Prog σ L C β} {f : β → Prog σ L C α} {b : β}
    (h : Reach M cond init ⟨s, past, ps ++ (x >>= f) :: qs⟩) (hx : x.Does @M.hear s (.ret b) s')
    {trail : List (Moment σ L C)} (haccounts : x.Accounts A Q trail)
    (htx : ∀ trail c l others, A.act trail (.tx l) → cond c (.tx l others))
    (hcall : ∀ c {β : Type} (x : C β) b, cond c (.call x b)) :
    ∃ past', Reach M cond init ⟨s', past', ps ++ f b :: qs⟩ := by
  generalize hend : (Prog.ret b : Prog σ L C β) = q at hx
  induction hx generalizing past trail with
  | refl =>
    subst hend
    exact ⟨past, h⟩
  | @tx l _ t k s q s' _ ih =>
    exact ih (h.step (.tx l t fun b => k b >>= f) (htx _ _ _ _ haccounts.1)) (haccounts.2 s).2 hend
  | @call _ c k s q s' b _ ih =>
    exact ih (h.step (.call c (fun b => k b >>= f) b) (hcall _ _ _)) (haccounts.2 b) hend

end Interleave

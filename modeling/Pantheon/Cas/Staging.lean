/-
  Staging files belong to the calls that made them.
  A call of the object store acts on its staging file under a token, the file's inode. Files are
  made under free names only, so the token is new, and it is given up when the name is removed:
  no two calls in flight hold the same one.
-/
import Pantheon.Cas.LocalFs

namespace Pantheon.LocalFsCas

open Interleave Files

variable {D : Type}

/-! ## Staging files as tokens -/

def Port.own {β : Type} : Port D β → Option (Staged D)
  | .fails label => label.own
  | .nextTempName own => own

/-- The staging file a program works on. -/
def owner : Action (Label D) (Port D) → Option (Staged D)
  | .done => none
  | .tx l => l.own
  | .call c => c.own

/-- The inode of a call's staging file. -/
def tokens : Tokens (ObjectDir D) (Label D) (Port D) Nat where
  ofTx l := l.own.map Staged.inode
  ofCall c := c.own.map Staged.inode
  after l s :=
    match l.op with
    | .createNew path => if s.names path = none then some s.inodes.length else l.own.map Staged.inode
    | .removeFile _ => none
    | _ => l.own.map Staged.inode
  live s i := i < s.inodes.length

/-- A part of a call that succeeds passes on a token that `R` admits. -/
def Hands {β : Type} (t : Option Nat) (call : Call D β) (R : β → Option Nat → Prop) : Prop :=
  Prog.Passes tokens t call.run fun r u => ∀ b, r = .ok b → R b u

variable {β : Type} {t : Option Nat} {objectsDir : String}

theorem Hands.andThen {γ : Type} {x : Call D β} {f : β → Call D γ} {R : β → Option Nat → Prop}
    {Q : γ → Option Nat → Prop} (hx : Hands t x R) (hf : ∀ b u, R b u → Hands u (f b) Q) :
    Hands t (x >>= f) Q :=
  Prog.Passes.andThen (fun _ _ _ h => nomatch h) hx hf

theorem Hands.result {r : Except (Option ExternalFault) β} {R : β → Option Nat → Prop}
    (h : ∀ b, r = .ok b → R b t) :
    Hands t (ExceptT.mk (return r) : Call D β) R := Prog.Passes.ret h

theorem Hands.pure {b : β} {R : β → Option Nat → Prop} (h : R b t) :
    Hands t (pure b : Call D β) R := Hands.result (by rintro _ ⟨⟩; exact h)

theorem Hands.throw {e : Option ExternalFault} {R : β → Option Nat → Prop} :
    Hands t (throw e : Call D β) R := Hands.result nofun

/-- A system call loses no file, and what is held after it was held before or is new. -/
theorem perform_passes (label : Label D) {effect : ObjectDir D → β × ObjectDir D}
    {Q : Except String β → Option Nat → Prop}
    (hlive : ∀ s, s.inodes.length ≤ (effect s).2.inodes.length)
    (hafter : ∀ s u, tokens.after label s = some u →
      label.own.map Staged.inode = some u ∨ ¬u < s.inodes.length ∧ u < (effect s).2.inodes.length)
    (hok : ∀ s, Q (.ok (effect s).1) (tokens.after label s))
    (herror : ∀ err, Q (.error err) (label.own.map Staged.inode)) :
    Prog.Passes tokens (label.own.map Staged.inode) (perform label effect) Q := by
  unfold perform
  refine Prog.Passes.bind (R := fun _ u => u = label.own.map Staged.inode)
    (Prog.Passes.ask rfl fun _ => rfl) ?_
  rintro (_ | err) u rfl
  · refine Prog.Passes.bind (R := fun b u => Q (.ok b) u)
      (Prog.Passes.atomically rfl fun s => ⟨fun u hu => ?_, hafter s, hok s⟩)
      fun b u hQ => Prog.Passes.ret hQ
    exact Nat.lt_of_lt_of_le hu (hlive s)
  · exact Prog.Passes.ret (herror err)

theorem orFault_hands (label : Label D) {effect : ObjectDir D → β × ObjectDir D}
    {onError : String → Option ExternalFault} {R : β → Option Nat → Prop}
    (hlive : ∀ s, s.inodes.length ≤ (effect s).2.inodes.length)
    (hafter : ∀ s u, tokens.after label s = some u →
      label.own.map Staged.inode = some u ∨ ¬u < s.inodes.length ∧ u < (effect s).2.inodes.length)
    (hok : ∀ s, R (effect s).1 (tokens.after label s)) :
    Hands (label.own.map Staged.inode) (orFault label effect onError) R := by
  refine Prog.Passes.bind (R := fun r u => ∀ b, r = .ok b → R b u)
    (perform_passes label hlive hafter ?_ fun _ _ h => nomatch h) fun r u hr => ?_
  · rintro s _ ⟨⟩
    exact hok s
  · cases r with
    | ok b =>
      refine Prog.Passes.ret ?_
      rintro _ ⟨⟩
      exact hr b rfl
    | error err => exact Prog.Passes.ret nofun

/-- A system call under a token that stays with its call. -/
theorem orFault_keeps (own : Option (Staged D)) {op : Op D} {effect : ObjectDir D → β × ObjectDir D}
    {onError : String → Option ExternalFault}
    (hop : ∀ s, tokens.after ⟨own, op⟩ s = own.map Staged.inode)
    (hlive : ∀ s, s.inodes.length ≤ (effect s).2.inodes.length) :
    Hands (own.map Staged.inode) (orFault ⟨own, op⟩ effect onError)
      fun _ u => u = own.map Staged.inode :=
  orFault_hands ⟨own, op⟩ hlive (fun s _ hu => .inl ((hop s).symm.trans hu)) hop

theorem syncDir_hands : Hands none (syncDir : Call D Unit) fun _ u => u = none :=
  orFault_keeps none (fun _ => rfl) fun _ => Nat.le_refl _

theorem writeAll_hands (staged : Staged D) (bytes : List UInt8) :
    Hands (some staged.inode) (writeAll staged bytes) fun _ u => u = some staged.inode := by
  induction bytes with
  | nil => exact Hands.pure rfl
  | cons byte rest ih =>
    refine Hands.andThen (orFault_keeps (some staged) (fun _ => rfl) fun s => ?_) ?_
    · simp [Directory.append]
    · rintro _ u rfl
      exact ih

theorem pathExists_hands {path : CasPath D} : Hands none (pathExists path) fun _ u => u = none := by
  refine Prog.Passes.bind (R := fun _ u => u = none)
    (perform_passes (⟨none, .exists path⟩) (fun _ => Nat.le_refl _) nofun
      (fun _ => rfl) fun _ => rfl) ?_
  rintro (err | found) u rfl
  · exact Prog.Passes.ret fun _ _ => rfl
  · exact Prog.Passes.ret fun _ _ => rfl

theorem Hands.toProg {call : Call D β} {answer : Except ExternalFault β → Answer D}
    {R : β → Option Nat → Prop} (h : Hands none call R) : (call.toProg answer).Holds tokens none :=
  h _ _ fun _ _ _ => trivial

variable [DecidableEq D]

theorem discardStaged_hands {staged : Staged D} :
    Hands (some staged.inode) (discardStaged staged) fun _ u => u = none := by
  unfold discardStaged
  refine Hands.andThen (R := fun _ u => u = none)
    (orFault_hands (⟨some staged, .removeFile staged.path⟩) (fun s => ?_) nofun
      fun _ => rfl) ?_
  · unfold Directory.remove
    cases s.names staged.path <;> exact Nat.le_refl _
  · rintro removed u rfl
    cases removed
    · exact Hands.throw
    · exact Hands.pure rfl

/-- The token is the inode the loop has made. -/
theorem stage_hands {bytes : List UInt8} (rounds : Nat) :
    Hands (D := D) none (stage bytes rounds) fun staged u => u = some staged.inode := by
  induction rounds with
  | zero => exact Hands.throw
  | succ rounds ih =>
    unfold stage
    refine Hands.andThen (R := fun _ u => u = none) ?_ ?_
    · refine Prog.Passes.bind (R := fun _ u => u = none) (Prog.Passes.ask rfl fun _ => rfl) ?_
      rintro name u rfl
      exact Prog.Passes.ret fun _ _ => rfl
    · rintro ⟨process, counter⟩ u rfl
      refine Hands.andThen (R := fun made u => u = made)
        (orFault_hands (⟨none, .createNew (.incoming process counter)⟩) ?_ ?_ ?_) ?_
      · intro s
        unfold Directory.create
        cases s.names (.incoming process counter) <;> simp
      · intro s u hu
        cases hname : s.names (.incoming process counter) with
        | none =>
          simp only [tokens, hname, if_true, Option.some.injEq] at hu
          simp [Directory.create, hname, ← hu]
        | some inode => simp [tokens, hname] at hu
      · intro s
        cases hname : s.names (.incoming process counter) with
        | none => simp [tokens, Directory.create, hname]
        | some inode => simp [tokens, Directory.create, hname]
      · rintro (_ | inode) u rfl
        · exact ih
        · refine Hands.andThen (writeAll_hands ⟨.incoming process counter, inode⟩ bytes) ?_
          rintro _ u rfl
          refine Hands.andThen
            (orFault_keeps (some ⟨.incoming process counter, inode⟩) (fun _ => rfl)
              fun s => ?_) ?_
          · simp [Directory.syncFile]
          · rintro _ u rfl
            exact Hands.pure rfl

variable [DigestScheme D]

theorem readVerified_hands (own : Option (Staged D)) {path : CasPath D} {reference : ObjectRef D} :
    Hands (own.map Staged.inode) (readVerified objectsDir own path reference)
      fun _ u => u = own.map Staged.inode := by
  unfold readVerified
  refine Hands.andThen (orFault_keeps own (fun _ => rfl) fun _ => Nat.le_refl _) ?_
  rintro (_ | inode) u rfl
  · exact Hands.throw
  · refine Hands.andThen (orFault_keeps own (fun _ => rfl) fun _ => Nat.le_refl _) ?_
    rintro bytes u rfl
    exact Hands.result fun _ _ => rfl

theorem finalize_hands {staged : Staged D} {finalPath : CasPath D} {reference : ObjectRef D} :
    Hands (some staged.inode) (finalize objectsDir staged finalPath reference)
      fun _ u => u = none := by
  unfold finalize
  refine Hands.andThen (orFault_keeps (some staged) (fun _ => rfl) fun s => ?_) ?_
  · unfold Directory.link
    cases s.names staged.path with
    | none => exact Nat.le_refl _
    | some inode => cases s.names finalPath <;> exact Nat.le_refl _
  · rintro (_ | _ | _) u rfl
    · refine Hands.andThen discardStaged_hands ?_
      rintro _ u rfl
      exact syncDir_hands
    · refine Hands.andThen (readVerified_hands (some staged)) ?_
      rintro _ u rfl
      exact discardStaged_hands
    · exact Hands.throw

theorem publish_hands {rounds : Nat} {bytes : List UInt8} :
    Hands (D := D) none (publish objectsDir rounds bytes) fun _ _ => True := by
  unfold publish
  refine Hands.andThen pathExists_hands ?_
  rintro (_ | _) u rfl
  · refine Hands.andThen (stage_hands rounds) ?_
    rintro staged u rfl
    exact Hands.andThen finalize_hands fun _ _ _ => Hands.pure trivial
  · exact Hands.andThen (readVerified_hands none) fun _ _ _ => Hands.pure trivial

theorem tokens_rules (objectsDir : String) :
    tokens.Rules (machine objectsDir : Machine (ObjectDir D) _ _ _) where
  starts p hp := by
    cases hp with
    | publish rounds bytes => exact publish_hands.toProg
    | verify reference =>
      exact (Hands.andThen (readVerified_hands none) fun _ _ _ =>
        Hands.pure (R := fun _ _ => True) trivial).toProg
    | read reference => exact (readVerified_hands none).toProg
  hear _ _ _ _ hu := hu
  crash _ _ hu := hu
  env _ _ h := h.elim

end Pantheon.LocalFsCas

/-
  What concurrent callers of the local object store may count on.
  Only finished, synced bytes are ever linked to a digest, an object never changes, and every
  read is of an object. The name of an object outlives a power loss once the directory was synced
  after it was linked; a call that finds the object already there does not sync.
-/
import Pantheon.Cas.Staging

namespace Pantheon.LocalFsCas

open Interleave Files

variable {D : Type}

/-! ## The state of the directory -/

/-- Objects are only added, with their bytes, and so are durable entries. -/
structure Grows (s s' : ObjectDir D) : Prop where
  objects : ∀ digest i, s.names (.object digest) = some i →
    s'.names (.object digest) = some i ∧ s'.inodes[i]? = s.inodes[i]?
  durable : ∀ digest i, s.durable (.object digest) = some i →
    s'.durable (.object digest) = some i
  rooted : s'.rooted = s.rooted

theorem Grows.refl (s : ObjectDir D) : Grows s s := ⟨fun _ _ h => ⟨h, rfl⟩, fun _ _ h => h, rfl⟩

variable {s s' : ObjectDir D} {bytes : List UInt8} {init : ObjectDir D → Prop}

theorem Grows.trans {s'' : ObjectDir D} (h : Grows s s') (h' : Grows s' s'') : Grows s s'' where
  objects digest i hi := by
    obtain ⟨hname, hbytes⟩ := h.objects digest i hi
    obtain ⟨hname', hbytes'⟩ := h'.objects digest i hname
    exact ⟨hname', hbytes'.trans hbytes⟩
  durable digest i hi := h'.durable digest i (h.durable digest i hi)
  rooted := h'.rooted.trans h.rooted

/-- No object is the staging file. -/
def Private (staged : Staged D) (s : ObjectDir D) : Prop :=
  ∀ digest, s.names (.object digest) ≠ some staged.inode

/-- A staging file is left alone. -/
structure Kept (staged : Staged D) (s s' : ObjectDir D) : Prop where
  name : s.names staged.path = some staged.inode → s'.names staged.path = some staged.inode
  bytes : s.names staged.path = some staged.inode → s'.inodes[staged.inode]? = s.inodes[staged.inode]?
  hidden : s.names staged.path = some staged.inode → Private staged s → Private staged s'

theorem Kept.refl (staged : Staged D) (s : ObjectDir D) : Kept staged s s :=
  ⟨fun h => h, fun _ => rfl, fun _ h => h⟩

theorem Kept.trans {staged : Staged D} {s'' : ObjectDir D} (h : Kept staged s s')
    (h' : Kept staged s' s'') : Kept staged s s'' :=
  ⟨fun hn => h'.name (h.name hn), fun hn => (h'.bytes (h.name hn)).trans (h.bytes hn),
    fun hn hp => h'.hidden (h.name hn) (h.hidden hn hp)⟩

/-- A name other than an object's was changed. -/
theorem renamed_grows {path : CasPath D} {entry : Option Nat}
    (h : Directory.Renamed path entry s s')
    (hpath : ∀ digest i, s.names (.object digest) = some i → path ≠ .object digest) :
    Grows s s' where
  objects digest i hi := by
    rw [h.names _ (hpath digest i hi).symm, h.inodes]
    exact ⟨hi, rfl⟩
  durable digest i hi := h.durable ▸ hi
  rooted := h.rooted

/-! ## The contract of a call -/

/-- The object a system call asks about, if it asks whether one is there. -/
def Op.asks : Op D → Option D
  | .exists (.object digest) => some digest
  | .hardLink _ (.object digest) => some digest
  | _ => none

/-- A call that asks for an object that is there finds its entry durable. -/
def FindsDurable (s : ObjectDir D) (l : Label D) : Prop :=
  ∀ digest, l.op.asks = some digest → ∀ i, s.names (.object digest) = some i →
    s.durable (.object digest) = some i

/-- What a system call keeps: the objects, the staging files of others, and that only objects are
    opened and read. -/
structure Grants (l : Label D) (s s' : ObjectDir D) : Prop where
  grows : Grows s s'
  others : ∀ staged : Staged D, (∀ own, l.own = some own → own.inode ≠ staged.inode) →
    Kept staged s s'
  opens : ∀ path, l.op = .openFile path → ∃ digest, path = .object digest
  reads : ∀ i, l.op = .readToEnd i → ∃ digest, s.names (.object digest) = some i

theorem Grants.same {own : Option (Staged D)} {op : Op D} (s : ObjectDir D)
    (hopen : ∀ path, op = .openFile path → ∃ digest, path = .object digest)
    (hread : ∀ i, op = .readToEnd i → ∃ digest, s.names (.object digest) = some i) :
    Grants ⟨own, op⟩ s s := ⟨.refl s, fun staged _ => .refl staged s, hopen, hread⟩

/-- The object's entry is durable. -/
def Settled (s : ObjectDir D) (digest : D) : Prop := ∃ i, s.durable (.object digest) = some i

variable [DigestScheme D]

/-- Every object holds synced bytes of its digest, and its durable entries are current. -/
structure Intact (s : ObjectDir D) : Prop where
  objects : ∀ digest i, s.names (.object digest) = some i →
    ∃ bytes, s.inodes[i]? = some ⟨bytes, true⟩ ∧ DigestScheme.ofBytes bytes = digest
  bounded : ∀ path i, s.names path = some i → i < s.inodes.length
  durable : ∀ digest i, s.durable (.object digest) = some i → s.names (.object digest) = some i

/-- The object is there with these bytes, which its digest and size are of. -/
structure Holds (s : ObjectDir D) (reference : ObjectRef D) (bytes : List UInt8) : Prop where
  present : ∃ i, s.names (.object reference.digest) = some i ∧ s.inodes[i]? = some ⟨bytes, true⟩
  digest : DigestScheme.ofBytes bytes = reference.digest
  size : bytes.length = reference.size

/-- The object is there, and its entry is durable where that is promised. -/
def Published (settled : Prop) (reference : ObjectRef D) (s : ObjectDir D) : Prop :=
  (∃ stored, Holds s reference stored) ∧ (settled → Settled s reference.digest)

/-- What an answer promises; `settled` says whether it promises a durable entry. -/
def Promise (settled : Prop) : Answer D → ObjectDir D → Prop
  | .published bytes (.ok reference), s =>
    reference = ⟨DigestScheme.ofBytes bytes, bytes.length⟩ ∧ Published settled reference s
  | .verified reference (.ok _), s => ∃ stored, Holds s reference stored
  | .read reference (.ok bytes), s => Holds s reference bytes
  | _, _ => True

/-- A call works on its own staging file while the others add objects and do the same. -/
def contract (settled : Prop) : Contract (ObjectDir D) (Label D) (Port D) (Answer D) where
  inv := Intact
  rely a s s' := Grows s s' ∧ ∀ staged, owner a = some staged → Kept staged s s'
  allow s l := settled → FindsDurable s l
  answer _ _ _ _ := True
  hear _ _ s := s
  grant := Grants
  post := Promise settled

theorem contract_lawful (settled : Prop) : (contract settled : Contract (ObjectDir D) _ _ _).Lawful where
  refl _ s := ⟨.refl s, fun staged _ => .refl staged s⟩
  trans _ _ _ _ h h' := ⟨h.1.trans h'.1, fun staged hs => (h.2 staged hs).trans (h'.2 staged hs)⟩

/-! ## Rules for calls -/

/-- Knowledge that survives what others do while a call works on its own file. -/
def Endures (own : Option (Staged D)) (J : ObjectDir D → Prop) : Prop :=
  ∀ s s', Grows s s' → (∀ staged, own = some staged → Kept staged s s') → Intact s' → J s → J s'

/-- From `J`, a part of a call that succeeds leaves `R`. -/
def Achieves {β : Type} (settled : Prop) (J : ObjectDir D → Prop) (call : Call D β)
    (R : β → ObjectDir D → Prop) : Prop :=
  Triple (contract settled) J call.run fun
    | .ok b => R b
    | .error _ => fun _ => True

section Rules

variable {settled : Prop} {β γ : Type} {J : ObjectDir D → Prop}

theorem Achieves.andThen {x : Call D β} {f : β → Call D γ} {R : β → ObjectDir D → Prop}
    {Q : γ → ObjectDir D → Prop} (hx : Achieves settled J x R)
    (hf : ∀ b, Achieves settled (R b) (f b) Q) : Achieves settled J (x >>= f) Q := by
  refine Triple.andThen (Triple.imp hx (fun _ _ h => h) fun r s _ hr => ?_) hf
  cases r with
  | ok b => exact hr
  | error e => trivial

theorem Achieves.pure {b : β} {R : β → ObjectDir D → Prop} (h : ∀ s, Intact s → J s → R b s) :
    Achieves settled J (pure b) R := Triple.ret h

theorem Achieves.throw {e : Option ExternalFault} {R : β → ObjectDir D → Prop} :
    Achieves settled J (throw e) R := Triple.ret fun _ _ _ => trivial

theorem Achieves.imp {x : Call D β} {J' : ObjectDir D → Prop} {R R' : β → ObjectDir D → Prop}
    (hx : Achieves settled J x R) (hJ : ∀ s, Intact s → J' s → J s)
    (hR : ∀ b s, Intact s → R b s → R' b s) : Achieves settled J' x R' := by
  refine Triple.imp hx hJ fun r s hi hr => ?_
  cases r with
  | ok b => exact hR b s hi hr
  | error e => trivial

/-- One system call, from what is known before it to what is known after. -/
theorem perform_triple {label : Label D} {effect : ObjectDir D → β × ObjectDir D}
    {Q : Except String β → ObjectDir D → Prop} (hJ : Endures label.own J)
    (h : ∀ s, Intact s → J s → (settled → FindsDurable s label) →
      Intact (effect s).2 ∧ Grants label s (effect s).2 ∧ Q (.ok (effect s).1) (effect s).2)
    (herror : ∀ err s, J s → Q (.error err) s) :
    Triple (contract settled) J (perform label effect) Q := by
  unfold perform
  refine Triple.bind (R := fun _ => J) (Triple.ask (fun s s' hr hi hs => hJ s s' hr.1 hr.2 hi hs)
    fun s hi hs _ _ => ⟨hi, hs⟩) ?_
  rintro (_ | err)
  · refine Triple.bind (R := fun b => Q (.ok b))
      (Triple.atomically (fun s s' hr hi hs => hJ s s' hr.1 hr.2 hi hs) h) fun b => ?_
    exact Triple.ret fun _ _ hQ => hQ
  · exact Triple.ret fun s _ hs => herror err s hs

theorem orFault_achieves {label : Label D} {effect : ObjectDir D → β × ObjectDir D}
    {onError : String → Option ExternalFault} {R : β → ObjectDir D → Prop}
    (hJ : Endures label.own J)
    (h : ∀ s, Intact s → J s → (settled → FindsDurable s label) →
      Intact (effect s).2 ∧ Grants label s (effect s).2 ∧ R (effect s).1 (effect s).2) :
    Achieves settled J (orFault label effect onError) R := by
  refine Triple.bind (R := fun r s => ∀ b, r = .ok b → R b s) (perform_triple hJ ?_ ?_) fun r => ?_
  · intro s hs hJs hsettled
    obtain ⟨hintact, hgrants, hR⟩ := h s hs hJs hsettled
    exact ⟨hintact, hgrants, fun b hb => Except.ok.inj hb ▸ hR⟩
  · exact fun err s _ b hb => by cases hb
  · cases r with
    | ok b => exact Triple.ret fun _ _ hR => hR b rfl
    | error err => exact Triple.ret fun _ _ _ => trivial

end Rules

/-! ## System calls -/

/-- A staging file with the bytes written so far, which is no object. -/
structure Owns (staged : Staged D) (file : Inode) (s : ObjectDir D) : Prop where
  scratch : ∀ digest, staged.path ≠ .object digest
  name : s.names staged.path = some staged.inode
  file : s.inodes[staged.inode]? = some file
  hidden : Private staged s

theorem Owns.endures (staged : Staged D) (file : Inode) : Endures (some staged) (Owns staged file) := by
  intro s s' _ hkept _ h
  have hstaged := hkept staged rfl
  exact ⟨h.scratch, hstaged.name h.name, (hstaged.bytes h.name).trans h.file,
    hstaged.hidden h.name h.hidden⟩

/-- A write to a staging file touches no object and no other call's file. -/
theorem Owns.modify {staged : Staged D} {file : Inode} (h : Owns staged file s) (hs : Intact s)
    (f : Inode → Inode) {op : Op D} (hopen : ∀ path, op ≠ .openFile path)
    (hread : ∀ i, op ≠ .readToEnd i) :
    let s' : ObjectDir D := { s with inodes := s.inodes.modify staged.inode f }
    Intact s' ∧ Grants ⟨some staged, op⟩ s s' ∧ Owns staged (f file) s' := by
  intro s'
  have hother : ∀ i, i ≠ staged.inode → s'.inodes[i]? = s.inodes[i]? := by
    intro i hi
    rw [List.getElem?_modify]
    simp [Ne.symm hi]
  have hobject : ∀ digest i, s.names (.object digest) = some i → i ≠ staged.inode := by
    rintro digest _ hi rfl
    exact h.hidden digest hi
  refine ⟨⟨fun digest i hi => ?_, fun path i hi => ?_, hs.durable⟩,
    ⟨⟨fun digest i hi => ⟨hi, hother i (hobject digest i hi)⟩, fun _ _ hd => hd, rfl⟩,
      fun other hne => ⟨fun hn => hn, fun _ => ?_, fun _ hp => hp⟩, fun path hp => absurd hp (hopen path),
      fun i hi => absurd hi (hread i)⟩,
    h.scratch, h.name, ?_, h.hidden⟩
  · rw [hother i (hobject digest i hi)]
    exact hs.objects digest i hi
  · simpa [s'] using hs.bounded path i hi
  · exact hother other.inode fun heq => hne staged rfl heq.symm
  · rw [List.getElem?_modify, h.file]
    simp

section Effects

variable {settled : Prop} {onError : String → Option ExternalFault} {staged : Staged D}

/-- The staged name is there, and is not a digest. -/
structure Named (staged : Staged D) (s : ObjectDir D) : Prop where
  scratch : ∀ digest, staged.path ≠ .object digest
  name : s.names staged.path = some staged.inode

theorem Named.endures (staged : Staged D) : Endures (some staged) (Named staged) :=
  fun _ _ _ hkept _ h => ⟨h.scratch, (hkept staged rfl).name h.name⟩

theorem Holds.endures (own : Option (Staged D)) (reference : ObjectRef D) (bytes : List UInt8) :
    Endures own fun s => Holds s reference bytes := by
  rintro s s' hgrows _ _ ⟨⟨i, hname, hfile⟩, hdigest, hsize⟩
  obtain ⟨hname', hfile'⟩ := hgrows.objects _ i hname
  exact ⟨⟨i, hname', hfile'.trans hfile⟩, hdigest, hsize⟩

theorem Settled.endures (settled : Prop) (own : Option (Staged D)) (digest : D) :
    Endures own fun s => settled → Settled s digest := by
  intro s s' hgrows _ _ h hsettled
  obtain ⟨i, hi⟩ := h hsettled
  exact ⟨i, hgrows.durable digest i hi⟩

theorem Endures.and {own : Option (Staged D)} {J J' : ObjectDir D → Prop} (h : Endures own J)
    (h' : Endures own J') : Endures own fun s => J s ∧ J' s :=
  fun s s' hgrows hkept hs' hJ => ⟨h s s' hgrows hkept hs' hJ.1, h' s s' hgrows hkept hs' hJ.2⟩

theorem writeAll_achieves (staged : Staged D) (bytes : List UInt8) (file : Inode) :
    Achieves settled (Owns staged file) (writeAll staged bytes)
      fun _ s => ∃ synced, Owns staged ⟨file.bytes ++ bytes, synced⟩ s := by
  induction bytes generalizing file with
  | nil =>
    refine Achieves.pure fun s _ h => ⟨file.synced, ?_⟩
    rw [List.append_nil]
    exact h
  | cons byte rest ih =>
    refine Achieves.andThen (R := fun _ => Owns staged ⟨file.bytes ++ [byte], false⟩)
      (orFault_achieves (Owns.endures staged file) fun s hs h _ => h.modify hs _ nofun nofun) fun _ => ?_
    refine (ih _).imp (fun _ _ h => h) fun _ s _ h => ?_
    rwa [List.append_assoc] at h

theorem pathExists_achieves {digest : D} :
    Achieves settled (fun _ => True) (pathExists (.object digest))
      fun found s => found = true → settled → Settled s digest := by
  refine Triple.bind (R := fun r s => r = .ok true → settled → Settled s digest)
    (perform_triple (fun _ _ _ _ _ _ => trivial) (fun s hs _ hallow => ⟨hs, .same s nofun nofun, ?_⟩)
      nofun) fun r => ?_
  · intro hfound hsettled
    obtain ⟨i, hi⟩ := Option.isSome_iff_exists.mp (Except.ok.inj hfound)
    exact ⟨i, hallow hsettled _ rfl i hi⟩
  · cases r with
    | ok found =>
      refine Triple.ret fun s _ h hfound => h ?_
      rw [hfound]
    | error err => exact Triple.ret fun _ _ _ => nofun

theorem syncDir_achieves {reference : ObjectRef D} :
    Achieves settled (fun s => Holds s reference bytes) syncDir
      fun _ s => Holds s reference bytes ∧ Settled s reference.digest := by
  refine orFault_achieves (Holds.endures _ _ _) fun s hs h _ => ?_
  refine ⟨⟨hs.objects, hs.bounded, fun _ _ hd => hd⟩, ⟨⟨fun _ _ hi => ⟨hi, rfl⟩, hs.durable, rfl⟩,
    fun other _ => ⟨fun hn => hn, fun _ => rfl, fun _ hp => hp⟩, nofun, nofun⟩,
    ⟨h.present, h.digest, h.size⟩, ?_⟩
  obtain ⟨i, hname, -⟩ := h.present
  exact ⟨i, hname⟩

variable [DecidableEq D]

/-- A new file is nobody else's and no object. -/
theorem createNew_achieves {process counter : Nat} :
    Achieves settled (fun _ => True)
      (orFault ⟨none, .createNew (.incoming process counter)⟩
        (Directory.create (.incoming process counter)) onError)
      fun (made : Option Nat) (s : ObjectDir D) =>
        ∀ i, made = some i → Owns ⟨.incoming process counter, i⟩ ⟨[], false⟩ s := by
  refine orFault_achieves (fun _ _ _ _ _ _ => trivial) fun s hs _ _ => ?_
  rcases Directory.create_cases (.incoming process counter) s with ⟨_, _, heq⟩ | ⟨s', heq, hnew⟩
  · rw [heq]
    exact ⟨hs, .same s nofun nofun, nofun⟩
  · rw [heq]
    have hkept : ∀ path i, s.names path = some i →
        s'.names path = some i ∧ s'.inodes[i]? = s.inodes[i]? := by
      intro path i hi
      refine ⟨?_, hnew.files i (hs.bounded path i hi)⟩
      rw [hnew.names path]
      · exact hi
      · rintro rfl
        rw [hnew.free] at hi
        cases hi
    have hobject : ∀ digest, s'.names (.object digest) = s.names (.object digest) :=
      fun digest => hnew.names _ (by simp)
    refine ⟨⟨fun digest i hi => ?_, fun path i hi => ?_, fun digest i hi => ?_⟩,
      ⟨⟨fun digest i hi => hkept _ i hi, fun digest i hd => hnew.durable ▸ hd, hnew.rooted⟩,
        fun other _ => ⟨fun hn => (hkept _ _ hn).1, fun hn => (hkept _ _ hn).2,
          fun hn hp digest => hobject digest ▸ hp digest⟩, nofun, nofun⟩, ?_⟩
    · rw [hobject] at hi
      rw [(hkept _ i hi).2]
      exact hs.objects digest i hi
    · have hlength : s'.inodes.length = s.inodes.length + 1 := hnew.length
      change i < s'.inodes.length
      by_cases hpath : path = .incoming process counter
      · rw [hpath, hnew.name] at hi
        cases hi
        omega
      · rw [hnew.names path hpath] at hi
        have := hs.bounded path i hi
        omega
    · rw [hnew.durable] at hi
      rw [hobject]
      exact hs.durable digest i hi
    · rintro i ⟨⟩
      refine ⟨nofun, hnew.name, hnew.file, fun digest hd => ?_⟩
      rw [hobject] at hd
      exact Nat.lt_irrefl _ (hs.bounded _ _ hd)

/-- The loop ends with all bytes in a synced file of its own. -/
theorem stage_achieves (bytes : List UInt8) (rounds : Nat) :
    Achieves settled (fun _ => True) (stage bytes rounds)
      fun staged (s : ObjectDir D) => Owns staged ⟨bytes, true⟩ s := by
  induction rounds with
  | zero => exact Achieves.throw
  | succ rounds ih =>
    unfold stage
    refine Achieves.andThen (R := fun _ _ => True) ?_ ?_
    · refine Triple.bind (R := fun _ _ => True) (Triple.ask (fun _ _ _ _ _ => trivial)
        fun s hs _ _ _ => ⟨hs, trivial⟩) fun name => Triple.ret fun _ _ _ => trivial
    rintro ⟨process, counter⟩
    refine Achieves.andThen createNew_achieves ?_
    rintro (_ | inode)
    · exact ih.imp (fun _ _ _ => trivial) fun _ _ _ h => h
    · refine Achieves.andThen (R := fun _ s => ∃ synced, Owns ⟨_, inode⟩ ⟨bytes, synced⟩ s)
        ((writeAll_achieves ⟨.incoming process counter, inode⟩ bytes ⟨[], false⟩).imp (fun s _ h => h inode rfl) fun _ _ _ h => h) fun _ => ?_
      refine Achieves.andThen (R := fun _ => Owns ⟨.incoming process counter, inode⟩ ⟨bytes, true⟩)
        (orFault_achieves ?_ ?_) fun _ => Achieves.pure fun _ _ h => h
      · rintro s s' hgrows hkept hs' ⟨synced, h⟩
        exact ⟨synced, Owns.endures _ _ s s' hgrows hkept hs' h⟩
      · rintro s hs ⟨synced, h⟩ _
        exact h.modify hs _ (fun _ hop => by cases hop) fun _ hop => by cases hop

/-- Linking gives a digest's name to bytes of that digest, or finds it taken. -/
theorem hardLink_achieves :
    Achieves settled (Owns staged ⟨bytes, true⟩)
      (orFault ⟨some staged, .hardLink staged.path (.object (DigestScheme.ofBytes bytes : D))⟩
        (Directory.link staged.path (.object (DigestScheme.ofBytes bytes))) onError)
      fun outcome s => Named staged s ∧
        (outcome = .linked → Holds s ⟨DigestScheme.ofBytes bytes, bytes.length⟩ bytes) ∧
        (outcome = .taken → settled → Settled s (DigestScheme.ofBytes bytes)) := by
  refine orFault_achieves (Owns.endures _ _) fun s hs h hallow => ?_
  rcases Directory.link_cases staged.path (.object (DigestScheme.ofBytes bytes)) h.name with
    ⟨i, hi, heq⟩ | ⟨hfree, s', heq, hnew⟩
  · rw [heq]
    exact ⟨hs, .same s nofun nofun, ⟨h.scratch, h.name⟩, nofun, fun _ hsettled =>
      ⟨i, hallow hsettled _ rfl i hi⟩⟩
  · rw [heq]
    have hkept : ∀ path i, s.names path = some i → s'.names path = some i := by
      intro path i hi
      rw [hnew.names path]
      · exact hi
      · rintro rfl
        rw [hfree] at hi
        cases hi
    have hobject : ∀ digest i, s'.names (.object digest) = some i →
        digest = DigestScheme.ofBytes bytes ∧ i = staged.inode ∨ s.names (.object digest) = some i := by
      intro digest i hi
      by_cases hd : digest = DigestScheme.ofBytes bytes
      · rw [hd, hnew.name] at hi
        exact .inl ⟨hd, (Option.some.inj hi).symm⟩
      · rw [hnew.names _ (by simpa using hd)] at hi
        exact .inr hi
    refine ⟨⟨fun digest i hi => ?_, fun path i hi => ?_, fun digest i hi => ?_⟩,
      ⟨renamed_grows hnew ?_, fun other hne => ⟨hkept _ _, fun _ => by rw [hnew.inodes], ?_⟩,
        nofun, nofun⟩,
      ⟨h.scratch, hkept _ _ h.name⟩, fun _ => ⟨⟨_, hnew.name, ?_⟩, rfl, rfl⟩, nofun⟩
    · rw [hnew.inodes]
      rcases hobject digest i hi with ⟨rfl, rfl⟩ | hold
      · exact ⟨bytes, h.file, rfl⟩
      · exact hs.objects digest i hold
    · rw [hnew.inodes]
      by_cases hpath : path = .object (DigestScheme.ofBytes bytes)
      · rw [hpath, hnew.name] at hi
        exact hs.bounded _ i (h.name.trans hi)
      · rw [hnew.names path hpath] at hi
        exact hs.bounded path i hi
    · rw [hnew.durable] at hi
      exact hkept _ i (hs.durable digest i hi)
    · rintro digest i hi ⟨⟩
      rw [hfree] at hi
      cases hi
    · intro hn hp digest hd
      rcases hobject digest _ hd with ⟨-, hinode⟩ | hold
      · exact hne staged rfl hinode.symm
      · exact hp digest hold
    · rw [hnew.inodes]
      exact h.file

/-- Removing a staged name touches no object. -/
theorem discardStaged_achieves {P : ObjectDir D → Prop} (hP : ∀ own, Endures own P) :
    Achieves settled (fun s => Named staged s ∧ P s) (discardStaged staged) fun _ => P := by
  unfold discardStaged
  refine Achieves.andThen (R := fun _ => P)
    (orFault_achieves ((Named.endures staged).and (hP _)) ?_) fun removed => ?_
  · rintro s hs ⟨h, hPs⟩ _
    obtain ⟨s', heq, hgone⟩ := Directory.remove_named h.name
    rw [heq]
    have hobject : ∀ digest, s'.names (.object digest) = s.names (.object digest) :=
      fun digest => hgone.names _ fun hd => h.scratch digest hd.symm
    have hgrows : Grows s s' := renamed_grows hgone fun digest _ _ => h.scratch digest
    have hs' : Intact s' := by
      refine ⟨fun digest i hi => ?_, fun path i hi => ?_, fun digest i hi => ?_⟩
      · rw [hobject] at hi
        rw [hgone.inodes]
        exact hs.objects digest i hi
      · rw [hgone.inodes]
        by_cases hpath : path = staged.path
        · rw [hpath, hgone.name] at hi
          cases hi
        · rw [hgone.names path hpath] at hi
          exact hs.bounded path i hi
      · rw [hgone.durable] at hi
        rw [hobject]
        exact hs.durable digest i hi
    refine ⟨hs', ⟨hgrows, fun other hne => ⟨fun hn => ?_, fun _ => by rw [hgone.inodes],
      fun _ hp digest => hobject digest ▸ hp digest⟩, nofun, nofun⟩, hP none s s' hgrows nofun hs' hPs⟩
    rw [hgone.names]
    · exact hn
    · intro hpath
      rw [hpath, h.name] at hn
      exact hne staged rfl (Option.some.inj hn)
  · cases removed
    · exact Achieves.throw
    · exact Achieves.pure fun _ _ h => h

/-- The bytes an opened object holds are the object's for good. -/
theorem readVerified_achieves {objectsDir : String} (own : Option (Staged D))
    {reference : ObjectRef D} {J : ObjectDir D → Prop} (hJ : Endures own J) :
    Achieves settled J (readVerified objectsDir own (.object reference.digest) reference)
      fun bytes s => J s ∧ Holds s reference bytes := by
  unfold readVerified
  refine Achieves.andThen
    (R := fun inode s => J s ∧ s.names (.object reference.digest) = inode)
    (orFault_achieves hJ fun s hs h _ => ⟨hs, .same s ?_ nofun, h, rfl⟩) ?_
  · rintro _ ⟨⟩
    exact ⟨_, rfl⟩
  rintro (_ | inode)
  · exact Achieves.throw
  refine Achieves.andThen (R := fun bytes s => J s ∧
    s.names (.object reference.digest) = some inode ∧ s.inodes[inode]? = some ⟨bytes, true⟩)
    (orFault_achieves ?_ ?_) fun bytes => ?_
  · rintro s s' hgrows hkept hs' ⟨h, hname⟩
    exact ⟨hJ s s' hgrows hkept hs' h, (hgrows.objects _ _ hname).1⟩
  · rintro s hs ⟨h, hname⟩ _
    obtain ⟨bytes, hfile, -⟩ := hs.objects _ _ hname
    refine ⟨hs, .same s nofun ?_, h, hname, ?_⟩
    · rintro _ ⟨⟩
      exact ⟨_, hname⟩
    simp only [Directory.readFile, hfile, Option.map_some, Option.getD_some]
  · refine Triple.ret fun s _ h => ?_
    unfold checkObject
    split
    · trivial
    · rename_i hsize
      dsimp only
      split
      · trivial
      · rename_i hdigest
        exact ⟨h.1, ⟨_, h.2⟩, not_not.mp hdigest, not_not.mp hsize⟩

theorem finalize_achieves {objectsDir : String} :
    Achieves settled (Owns staged ⟨bytes, true⟩)
      (finalize objectsDir staged (.object (DigestScheme.ofBytes bytes))
        ⟨DigestScheme.ofBytes bytes, bytes.length⟩)
      fun _ s => Published settled ⟨DigestScheme.ofBytes bytes, bytes.length⟩ s := by
  unfold finalize
  refine Achieves.andThen hardLink_achieves fun outcome => ?_
  cases outcome with
  | linked =>
    refine Achieves.andThen ((discardStaged_achieves fun own => Holds.endures own _ _).imp
      (fun s _ h => ⟨h.1, h.2.1 rfl⟩) fun _ _ _ h => h) fun _ => ?_
    exact syncDir_achieves.imp (fun _ _ h => h) fun _ s _ h => ⟨⟨bytes, h.1⟩, fun _ => h.2⟩
  | taken =>
    have hread := @readVerified_achieves D _ settled _ objectsDir (some staged)
      ⟨DigestScheme.ofBytes bytes, bytes.length⟩ _
      ((Named.endures staged).and (Settled.endures settled _ (DigestScheme.ofBytes bytes)))
    refine Achieves.andThen (hread.imp (fun s _ h => ⟨h.1, h.2.2 rfl⟩) fun _ _ _ h => h)
      fun stored => ?_
    have hrest := @discardStaged_achieves D _ settled staged _ _ fun own =>
      (Settled.endures settled own (DigestScheme.ofBytes bytes)).and
        (Holds.endures own ⟨DigestScheme.ofBytes bytes, bytes.length⟩ stored)
    exact hrest.imp (fun s _ h => ⟨h.1.1, h.1.2, h.2⟩) fun _ s _ h => ⟨⟨stored, h.2⟩, h.1⟩
  | missing => exact Achieves.throw

theorem publish_achieves {objectsDir : String} {rounds : Nat} :
    Achieves settled (fun _ => True) (publish objectsDir rounds bytes) fun (reference : ObjectRef D) s =>
      reference = ⟨DigestScheme.ofBytes bytes, bytes.length⟩ ∧ Published settled reference s := by
  unfold publish
  refine Achieves.andThen pathExists_achieves fun found => ?_
  cases found with
  | true =>
    refine Achieves.andThen ((readVerified_achieves none (Settled.endures settled none _)).imp
      (fun s _ h => h rfl) fun _ _ _ h => h) fun stored => ?_
    exact Achieves.pure fun s _ h => ⟨rfl, ⟨stored, h.2⟩, h.1⟩
  | false =>
    refine Achieves.andThen ((stage_achieves bytes rounds).imp (fun _ _ _ => trivial)
      fun _ _ _ h => h) fun staged => ?_
    exact Achieves.andThen finalize_achieves fun _ => Achieves.pure fun s _ h => ⟨rfl, h⟩

end Effects

/-! ## Runs -/

/-- A whole call keeps the contract. -/
theorem Achieves.safe {settled : Prop} {β : Type} {call : Call D β} {R : β → ObjectDir D → Prop}
    (h : Achieves settled (fun _ => True) call R) (answer : Except ExternalFault β → Answer D)
    (hR : ∀ b, Endures none (R b)) (hok : ∀ b s, R b s → Promise settled (answer (.ok b)) s)
    (hfault : ∀ e s, Promise settled (answer (.error e)) s) (hs : Intact s) :
    Safe (contract settled) (call.toProg answer) s := by
  refine Triple.safe h ?_ hs trivial
  rintro ((_ | e) | b) s s' hb hrely hs'
  · trivial
  · exact hfault e s'
  · exact hok b s' (hR b s s' hrely.1 nofun hs' hb)

theorem Published.endures (settled : Prop) (reference : ObjectRef D) :
    Endures none (Published settled reference) := by
  rintro s s' hgrows hkept hs' ⟨⟨stored, hholds⟩, hsettled⟩
  exact ⟨⟨stored, Holds.endures none _ _ s s' hgrows hkept hs' hholds⟩,
    Settled.endures settled none _ s s' hgrows hkept hs' hsettled⟩

/-- What a successful call says about the bytes it was given or asked for. -/
def Refers : Answer D → ObjectDir D → Prop
  | .published bytes (.ok reference), s =>
    reference = ⟨DigestScheme.ofBytes bytes, bytes.length⟩ ∧
      ∃ stored, Holds s reference stored ∧ (Collisionless D → stored = bytes)
  | .verified reference (.ok _), s => ∃ stored, Holds s reference stored
  | .read reference (.ok bytes), s => Holds s reference bytes
  | _, _ => True

theorem Promise.refers {settled : Prop} {a : Answer D} (h : Promise settled a s) : Refers a s := by
  cases a with
  | published bytes result =>
    cases result with
    | error e => trivial
    | ok reference =>
      obtain ⟨rfl, ⟨stored, hholds⟩, -⟩ := h
      exact ⟨rfl, stored, hholds, fun hD => hD hholds.digest⟩
  | verified reference result =>
    cases result with
    | error e => trivial
    | ok _ => exact h
  | read reference result =>
    cases result with
    | error e => trivial
    | ok bytes => exact h
  | unfinished => trivial

variable [DecidableEq D] {objectsDir : String}

theorem contract_governs (objectsDir : String) (settled : Prop)
    {cond : Config (ObjectDir D) (Label D) (Port D) (Answer D) → Event _ _ _ _ → Prop}
    (hinit : ∀ s, init s → Opened s) (hcond : ∀ c l others, cond c (.tx l others) →
      (settled → FindsDurable c.shared l) ∧ tokens.ApartAt (.tx l others)) :
    (contract settled).Governs (machine objectsDir) cond init where
  lawful := contract_lawful settled
  init s hs := by
    have hempty := hinit s hs
    refine ⟨fun digest i hi => ?_, fun path i hi => ?_, fun digest i hi => ?_⟩
    · rw [hempty.names] at hi
      cases hi
    · rw [hempty.names] at hi
      cases hi
    · rw [hempty.durable] at hi
      cases hi
  spawn c p hs hp _ := by
    cases hp with
    | publish rounds bytes =>
      refine publish_achieves.safe (.published bytes) (fun reference => ?_) (fun _ _ h => h) (fun _ _ => trivial) hs
      rintro s s' hgrows hkept hs' ⟨heq, h⟩
      exact ⟨heq, Published.endures settled reference s s' hgrows hkept hs' h⟩
    | verify reference =>
      have hverify : Achieves settled (fun _ => True) (verify objectsDir reference)
          fun _ s => ∃ stored, Holds s reference stored :=
        Achieves.andThen (readVerified_achieves none fun _ _ _ _ _ h => h) fun stored =>
          Achieves.pure fun s _ h => ⟨stored, h.2⟩
      refine hverify.safe (.verified reference) (fun _ => ?_) (fun _ _ h => h) (fun _ _ => trivial) hs
      rintro s s' hgrows hkept hs' ⟨stored, h⟩
      exact ⟨stored, Holds.endures none _ _ s s' hgrows hkept hs' h⟩
    | read reference =>
      refine ((readVerified_achieves none fun _ _ _ _ _ h => h).imp (fun _ _ h => h)
        fun _ _ _ h => h.2).safe (.read reference) (fun _ => Holds.endures none _ _)
        (fun _ _ h => h) (fun _ _ => trivial) hs
  allow c l others hc := (hcond c l others hc).1
  share c l others s' hc hgrant q hq := by
    refine ⟨hgrant.grows, fun staged hstaged => hgrant.others staged fun own hown heq => ?_⟩
    -- the other program's next action is under its own token
    have happart := (hcond c l others hc).2 q hq own.inode (by simp [tokens, hown])
    apply happart
    cases hq' : q.next with
    | done =>
      rw [hq'] at hstaged
      cases hstaged
    | tx l' =>
      rw [hq'] at hstaged
      change l'.own = some staged at hstaged
      simp [Tokens.ofNext, tokens, hstaged, heq]
    | call x =>
      rw [hq'] at hstaged
      change x.own = some staged at hstaged
      simp [Tokens.ofNext, tokens, hstaged, heq]
  answer _ _ _ _ _ := trivial
  hear _ _ s := ⟨rfl, fun a => (contract_lawful settled).refl a s⟩
  env _ _ _ h := h.elim
  crash s hs := ⟨hs, fun a => (contract_lawful settled).refl a s⟩

/-- An answer keeps its promise in the state it is given in. -/
theorem finish_promise {settled : Prop}
    {cond : Config (ObjectDir D) (Label D) (Port D) (Answer D) → Event _ _ _ _ → Prop}
    (hK : (contract settled).Governs (machine objectsDir) cond init) {c c' : Config _ _ _ _}
    (h : Reach (machine objectsDir) cond init c) {a : Answer D}
    (hs : Step (machine objectsDir) c (.finish a) c') : Promise settled a c.shared := by
  obtain ⟨hinv, hpool⟩ := reach_safe hK h
  cases hs with
  | finish a => exact hpool (.ret a) (by simp) _ (hK.lawful.refl _ _) hinv

theorem past_grows {settled : Prop}
    {cond : Config (ObjectDir D) (Label D) (Port D) (Answer D) → Event _ _ _ _ → Prop}
    (hK : (contract settled).Governs (machine objectsDir) cond init) {c : Config _ _ _ _}
    (h : Reach (machine objectsDir) cond init c) : ∀ s ∈ c.shared :: c.past, Grows s c.shared := by
  intro s hs
  rcases List.mem_cons.mp hs with rfl | hs
  · exact .refl _
  · exact reach_past hK (fun _ _ _ h h' => h.trans h') (fun _ _ _ h => h.grows) (fun _ _ s => .refl s)
      .refl (fun _ _ h => h.elim) h s hs

namespace CasSample

def blank : ObjectDir ExactDigest := ⟨[], fun _ => none, fun _ => none, true⟩

/-- Every system call works, and the first staging name is offered. -/
def world : Nat → ∀ β, Port ExactDigest β → β
  | _, _, .fails _ => none
  | _, _, .nextTempName _ => (0, 0)

def publishing : CasProg ExactDigest (Answer ExactDigest) :=
  (publish "objects" 1 [7]).toProg (.published [7])

/-- The call after some of its actions. -/
def after (n : Nat) (s : ObjectDir ExactDigest) :
    CasProg ExactDigest (Answer ExactDigest) × ObjectDir ExactDigest :=
  publishing.acts (machine "objects").hear world n s

def done : Answer ExactDigest := .published [7] (.ok ⟨⟨[7]⟩, 1⟩)

theorem blank_opened : Opened blank := ⟨fun _ => rfl, fun _ => rfl⟩

theorem after_reached {n : Nat} {s : ObjectDir ExactDigest} {past : List (ObjectDir ExactDigest)}
    {init : ObjectDir ExactDigest → Prop}
    (h : Reach (machine "objects") (fun _ _ => True) init ⟨s, past, []⟩) :
    ∃ past', Reach (machine "objects") (fun _ _ => True) init
      ⟨(after n s).2, past', [(after n s).1]⟩ :=
  Reach.acts_among [] [] (h.step (.spawn publishing (.publish 1 [7])) trivial) world n
    fun _ _ _ _ _ => trivial

end CasSample

/-- Whatever publish, verify and read calls run at once and wherever they are killed, every
    object holds bytes of its digest, no object ever changes, a call that succeeds refers to the
    bytes it was given or asked for, and only objects are ever opened and read. -/
theorem objects_keep_their_bytes {c : Config (ObjectDir D) (Label D) (Port D) (Answer D)}
    (h : Reach (machine objectsDir) (fun _ _ => True) Opened c) :
    (∀ digest i, c.shared.names (.object digest) = some i →
      ∃ file, c.shared.inodes[i]? = some file ∧ DigestScheme.ofBytes file.bytes = digest) ∧
    (∀ s ∈ c.past, ∀ digest i, s.names (.object digest) = some i →
      c.shared.names (.object digest) = some i ∧ c.shared.inodes[i]? = s.inodes[i]?) ∧
    (∀ a c', Step (machine objectsDir) c (.finish a) c' → Refers a c.shared) ∧
    ∀ l others c', Step (machine objectsDir) c (.tx l others) c' →
      (∀ path, l.op = .openFile path → ∃ digest, path = .object digest) ∧
      ∀ i, l.op = .readToEnd i → ∃ digest, c.shared.names (.object digest) = some i := by
  have hK : (contract False).Governs (machine objectsDir)
      (fun c e => True ∧ (tokens (D := D)).ApartAt e) Opened :=
    contract_governs objectsDir False (fun _ hs => hs) fun _ _ _ hc => ⟨False.elim, hc.2⟩
  have happart := reach_apart (tokens_rules objectsDir) h
  have hintact : Intact c.shared := (reach_safe hK happart).1
  refine ⟨fun digest i hi => ?_, fun s hs digest i hi => ?_, fun a c' hs => ?_,
    fun l others c' hs => ?_⟩
  · obtain ⟨bytes, hfile, hdigest⟩ := hintact.objects digest i hi
    exact ⟨_, hfile, hdigest⟩
  · exact (past_grows hK happart s (List.mem_cons_of_mem _ hs)).objects digest i hi
  · exact (finish_promise hK happart hs).refers
  · have hgrant : Grants l c.shared c'.shared :=
      reach_grant hK happart hs ⟨trivial, step_apart (tokens_rules objectsDir) h hs⟩
    exact ⟨hgrant.opens, hgrant.reads⟩

open CasSample in
/-- After a publish of one byte, its object holds it. -/
theorem one_byte_kept : ∃ c, Reach (machine "objects") (fun _ _ => True) Opened c ∧
    c.shared.names (.object (ExactDigest.mk [7])) = some 0 ∧
    ∃ file, c.shared.inodes[0]? = some file ∧ DigestScheme.ofBytes file.bytes = ExactDigest.mk [7] := by
  obtain ⟨past, h⟩ := after_reached (n := 15) (.start blank_opened)
  have hname : (after 15 blank).2.names (.object ⟨[7]⟩) = some 0 := by decide +kernel
  exact ⟨_, h, hname, (objects_keep_their_bytes h).1 ⟨[7]⟩ 0 hname⟩

/-! ## Durability -/

/-- Whenever a call finds an object already there, its entry is durable. -/
def EntriesSettled (c : Config (ObjectDir D) (Label D) (Port D) (Answer D)) :
    Event (ObjectDir D) (Label D) (Port D) (Answer D) → Prop
  | .tx l _ => FindsDurable c.shared l
  | _ => True

/-- A store in a directory whose own path is durable. -/
def OpenedDurably (s : ObjectDir D) : Prop := Opened s ∧ s.rooted = true

/-- While calls find only objects whose entries are durable, an object that a publish has
    answered for is there after a power loss at any later time. -/
theorem published_outlives_power_loss
    {c c' c'' : Config (ObjectDir D) (Label D) (Port D) (Answer D)}
    (h : Reach (machine objectsDir) EntriesSettled OpenedDurably c) {bytes : List UInt8}
    {reference : ObjectRef D}
    (hs : Step (machine objectsDir) c (.finish (.published bytes (.ok reference))) c')
    (hlater : Steps (machine objectsDir) EntriesSettled c' c'') {after : ObjectDir D}
    (hloss : PowerLoss c''.shared after) :
    reference = ⟨DigestScheme.ofBytes bytes, bytes.length⟩ ∧
      ∃ stored, Holds after reference stored ∧ (Collisionless D → stored = bytes) := by
  have hK : (contract True).Governs (machine objectsDir)
      (fun c e => EntriesSettled c e ∧ (tokens (D := D)).ApartAt e) OpenedDurably :=
    contract_governs objectsDir True (fun _ hs => hs.1) fun _ _ _ hc => ⟨fun _ => hc.1, hc.2⟩
  have hc' : Reach (machine objectsDir) EntriesSettled OpenedDurably c' := h.step hs trivial
  have hc'' := reach_apart (tokens_rules objectsDir) (hc'.steps hlater)
  obtain ⟨rfl, ⟨stored, hholds⟩, hsettled⟩ :=
    finish_promise hK (reach_apart (tokens_rules objectsDir) h) hs
  obtain ⟨i, hdurable⟩ := hsettled trivial
  have hgrows : Grows c.shared c''.shared := by
    refine past_grows hK hc'' _ (hlater.remembers _ ?_)
    cases hs with
    | finish a => exact List.mem_cons_self ..
  have hrooted : c''.shared.rooted = true := by
    obtain ⟨s, hmem, -, hroot⟩ := hc''.started
    rw [(past_grows hK hc'' s hmem).rooted, hroot]
  have hintact : Intact c.shared := (reach_safe hK (reach_apart (tokens_rules objectsDir) h)).1
  -- the durable entry is the one the answer was given for
  obtain ⟨i', hname, hfile⟩ := hholds.present
  obtain rfl : i = i' := Option.some.inj ((hintact.durable _ i hdurable).symm.trans hname)
  refine ⟨rfl, stored, ⟨⟨i, ?_, ?_⟩, hholds.digest, hholds.size⟩, fun hD => hD hholds.digest⟩
  · rw [hloss.names, if_pos hrooted]
    exact hgrows.durable _ i hdurable
  · refine hloss.files i _ ?_ rfl
    rw [(hgrows.objects _ i hname).2, hfile]

namespace CasSample

/-- A transaction that asks for an object does not find it. -/
def asksFresh (n : Nat) : Bool :=
  match (after n blank).1 with
  | .tx l _ _ =>
    match l.op.asks with
    | none => true
    | some digest => ((after n blank).2.names (.object digest)).isNone
  | _ => true

theorem entriesSettled_of_asksFresh {n : Nat} (h : asksFresh n = true)
    {past pool others} {e : Event _ _ _ _}
    (he : (after n blank).1.event (world n) others = some e) :
    EntriesSettled ⟨(after n blank).2, past, pool⟩ e := by
  unfold asksFresh at h
  generalize after n blank = reached at h he
  obtain ⟨q, s⟩ := reached
  cases q with
  | ret a => cases he
  | call x k =>
    cases he
    trivial
  | tx l t k =>
    cases he
    intro digest hasks i hi
    have hi : s.names (.object digest) = some i := hi
    simp [hasks, hi] at h

end CasSample

open CasSample in
/-- A publish that finishes alone outlives the power loss after it. -/
theorem alone_outlives : PowerLoss (after 15 blank).2 (after 15 blank).2.cut ∧
    ∃ stored, Holds (after 15 blank).2.cut ⟨⟨[7]⟩, 1⟩ stored ∧ stored = [7] := by
  have hspawn : Reach (machine "objects") EntriesSettled OpenedDurably ⟨blank, [], [publishing]⟩ :=
    (Reach.start ⟨blank_opened, rfl⟩).step (.spawn publishing (.publish 1 [7])) trivial
  have hfresh : ∀ n < 15, asksFresh n = true := by decide +kernel
  obtain ⟨past, h⟩ := Reach.acts_among [] [] hspawn world 15 fun n hn e _ he =>
    entriesSettled_of_asksFresh (hfresh n hn) he
  have hdone : (after 15 blank).1 = .ret done := Prog.eq_ret_of_answered rfl
  change Reach _ _ _ ⟨(after 15 blank).2, past, [(after 15 blank).1]⟩ at h
  rw [hdone] at h
  obtain ⟨-, stored, hholds, hexact⟩ := published_outlives_power_loss h (.ends done) .refl
    (powerLoss_cut _)
  exact ⟨powerLoss_cut _, stored, hholds, hexact exactDigest_collisionless⟩

open CasSample in
/-- One call links the object and is killed before it syncs the directory. A second one finds the
    object there and answers. The power loss then takes the name with it. -/
theorem found_object_forgotten : ∃ c c' lost,
    Reach (machine "objects") (fun _ _ => True) OpenedDurably c ∧
    Step (machine "objects") c (.finish (.published [7] (.ok ⟨⟨[7]⟩, 1⟩))) c' ∧
    PowerLoss c'.shared lost ∧ lost.names (.object (ExactDigest.mk [7])) = none := by
  have hstart : Reach (machine "objects") (fun _ _ => True) OpenedDurably ⟨blank, [], []⟩ :=
    .start ⟨blank_opened, rfl⟩
  obtain ⟨past, h⟩ := after_reached (n := 11) hstart
  have hkilled : Reach (machine "objects") (fun _ _ => True) OpenedDurably
      ⟨(after 11 blank).2, (after 11 blank).2 :: past, []⟩ :=
    h.step (@Step.crash _ _ _ _ _ _ _ [] [] _) trivial
  obtain ⟨past', h'⟩ := after_reached (n := 6) hkilled
  have hdone : (after 6 (after 11 blank).2).1 = .ret done := Prog.eq_ret_of_answered rfl
  change Reach _ _ _ ⟨_, past', [(after 6 (after 11 blank).2).1]⟩ at h'
  rw [hdone] at h'
  have hgone : (after 6 (after 11 blank).2).2.cut.names (.object ⟨[7]⟩) = none := by decide +kernel
  exact ⟨_, _, _, h', .ends done, powerLoss_cut _, hgone⟩

end Pantheon.LocalFsCas

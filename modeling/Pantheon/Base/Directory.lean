/-
  One directory of files with hard links.
  A name stands for an inode; several names may stand for one. Bytes are durable once the file
  was synced after its last write, names once the directory was synced after they were made. A
  power loss keeps what is durable and forgets every other name.
-/
import Mathlib.Logic.Function.Basic

namespace Files

/-- A file: its bytes, and whether they are durable. -/
structure Inode where
  bytes : List UInt8
  synced : Bool
  deriving Repr, DecidableEq

/-- A directory over names in `P`. The entries of the last sync are durable, as far as the path to
    the directory itself is. -/
structure Directory (P : Type) where
  inodes : List Inode
  names : P → Option Nat
  durable : P → Option Nat
  rooted : Bool

/-- How making a link ends. -/
inductive Linking where
  | linked
  | taken
  | missing
  deriving Repr, DecidableEq

namespace Directory

variable {P : Type} [DecidableEq P]

/-- Whether a name is there. -/
def contains (path : P) (d : Directory P) : Bool × Directory P := ((d.names path).isSome, d)

/-- A new empty file under a name that is free; nothing when it is taken. -/
def create (path : P) (d : Directory P) : Option Nat × Directory P :=
  match d.names path with
  | some _ => (none, d)
  | none => (some d.inodes.length,
      { d with
        inodes := d.inodes ++ [⟨[], false⟩]
        names := Function.update d.names path (some d.inodes.length) })

/-- One more byte at the end of an open file. -/
def append (inode : Nat) (byte : UInt8) (d : Directory P) : Unit × Directory P :=
  ((), { d with inodes := d.inodes.modify inode fun file => ⟨file.bytes ++ [byte], false⟩ })

def syncFile (inode : Nat) (d : Directory P) : Unit × Directory P :=
  ((), { d with inodes := d.inodes.modify inode fun file => ⟨file.bytes, true⟩ })

/-- A second name for a file. -/
def link (source target : P) (d : Directory P) : Linking × Directory P :=
  match d.names source with
  | none => (.missing, d)
  | some inode =>
    match d.names target with
    | some _ => (.taken, d)
    | none => (.linked, { d with names := Function.update d.names target (some inode) })

/-- Removes a name; the answer is whether it was there. -/
def remove (path : P) (d : Directory P) : Bool × Directory P :=
  match d.names path with
  | none => (false, d)
  | some _ => (true, { d with names := Function.update d.names path none })

/-- An open file keeps its inode, whatever becomes of the name. -/
def openFile (path : P) (d : Directory P) : Option Nat × Directory P := (d.names path, d)

def readFile (inode : Nat) (d : Directory P) : List UInt8 × Directory P :=
  ((d.inodes[inode]?.map Inode.bytes).getD [], d)

def syncNames (d : Directory P) : Unit × Directory P := ((), { d with durable := d.names })

/-! ## What each operation changes -/

/-- A file was made under a free name. -/
structure Created (path : P) (d d' : Directory P) : Prop where
  free : d.names path = none
  name : d'.names path = some d.inodes.length
  names : ∀ q, q ≠ path → d'.names q = d.names q
  length : d'.inodes.length = d.inodes.length + 1
  files : ∀ i < d.inodes.length, d'.inodes[i]? = d.inodes[i]?
  file : d'.inodes[d.inodes.length]? = some ⟨[], false⟩
  durable : d'.durable = d.durable
  rooted : d'.rooted = d.rooted

theorem create_cases (path : P) (d : Directory P) :
    (∃ i, d.names path = some i ∧ create path d = (none, d)) ∨
      ∃ d', create path d = (some d.inodes.length, d') ∧ Created path d d' := by
  unfold create
  cases hname : d.names path with
  | some i => exact .inl ⟨i, rfl, rfl⟩
  | none =>
    exact .inr ⟨_, rfl, hname, Function.update_self .., fun q hq => Function.update_of_ne hq _ _,
      by simp, fun i hi => List.getElem?_append_left hi, by simp, rfl, rfl⟩

/-- A name was given or taken away; files are as they were. -/
structure Renamed (path : P) (entry : Option Nat) (d d' : Directory P) : Prop where
  name : d'.names path = entry
  names : ∀ q, q ≠ path → d'.names q = d.names q
  inodes : d'.inodes = d.inodes
  durable : d'.durable = d.durable
  rooted : d'.rooted = d.rooted

theorem link_cases (source target : P) {d : Directory P} {inode : Nat}
    (h : d.names source = some inode) :
    (∃ i, d.names target = some i ∧ link source target d = (.taken, d)) ∨
      d.names target = none ∧ ∃ d', link source target d = (.linked, d') ∧
        Renamed target (some inode) d d' := by
  unfold link
  rw [h]
  cases htarget : d.names target with
  | some i => exact .inl ⟨i, rfl, rfl⟩
  | none =>
    exact .inr ⟨rfl, _, rfl, Function.update_self .., fun q hq => Function.update_of_ne hq _ _,
      rfl, rfl, rfl⟩

theorem remove_named {path : P} {d : Directory P} {inode : Nat} (h : d.names path = some inode) :
    ∃ d', remove path d = (true, d') ∧ Renamed path none d d' := by
  unfold remove
  rw [h]
  exact ⟨_, rfl, Function.update_self .., fun q hq => Function.update_of_ne hq _ _, rfl, rfl, rfl⟩

end Directory

/-- What a power loss may leave: durable names, and the bytes of synced files. -/
structure PowerLoss {P : Type} (d d' : Directory P) : Prop where
  names : d'.names = if d.rooted then d.durable else fun _ => none
  files : ∀ (i : Nat) (file : Inode), d.inodes[i]? = some file → file.synced = true →
    d'.inodes[i]? = some file

/-- The power loss that spares every file. -/
def Directory.cut {P : Type} (d : Directory P) : Directory P :=
  { d with names := if d.rooted then d.durable else fun _ => none }

theorem powerLoss_cut {P : Type} (d : Directory P) : PowerLoss d d.cut :=
  ⟨rfl, fun _ _ hfile _ => hfile⟩

end Files

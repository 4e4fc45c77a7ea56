import GrantKeeper.Proofs.Vault.Mirror

/-! Vaults that are parted by accounts. What such a vault has for one account is a cell, which
answers for itself and is not touched by what is asked for another. -/
namespace GrantKeeper.Vault
open Disk (Path Place Tree temporaryName)
open Text (Octets)

inductive Access
  | save (g : Grant)
  | load
  | erase
  deriving Repr

def Access.by (id : String) : Access → Request
  | .save g => .save id g
  | .load => .load id
  | .erase => .erase id

class Parted (ω : Type) [Vault ω] where
  Cell : Type
  cell : ω → String → Cell
  reply : String → Cell → Access → Response × Cell
  Sound : ω → Prop
  replies {v : ω} (sound : Sound v) (id : String) (a : Access) :
    ((answer v (a.by id)).1,cell (answer v (a.by id)).2 id) = reply id (cell v id) a
  apart {v : ω} (sound : Sound v) {id other : String} (apart : id ≠ other) (a : Access) :
    cell (answer v (a.by id)).2 other = cell v other
  remains {v : ω} (sound : Sound v) (id : String) (a : Access) : Sound (answer v (a.by id)).2

namespace Parted
variable {ω : Type} [Vault ω] [Parted ω] {v w : ω} {id : String}

theorem alike (left : Sound v) (right : Sound w) (same : cell v id = cell w id) (a : Access) :
    (answer v (a.by id)).1 = (answer w (a.by id)).1 ∧
      cell (answer v (a.by id)).2 id = cell (answer w (a.by id)).2 id := by
  have first := replies left id a
  rw [same,← replies right id a] at first
  exact Prod.mk.inj first

theorem saveAlike (left : Sound v) (right : Sound w) (same : cell v id = cell w id) (g : Grant) :
    ∃ result v' w', Vault.save v id g = (result,v') ∧ Vault.save w id g = (result,w') ∧
      Sound v' ∧ Sound w' ∧ cell v' id = cell w' id := by
  obtain ⟨told,next⟩ := alike left right same (.save g)
  have done : (Vault.save v id g).1 = (Vault.save w id g).1 := Response.done.inj told
  exact ⟨_,(Vault.save v id g).2,(Vault.save w id g).2,rfl,Prod.ext done.symm rfl,
    remains left id (.save g),remains right id (.save g),next⟩

theorem loadAlike (left : Sound v) (right : Sound w) (same : cell v id = cell w id) :
    ∃ result v' w', Vault.load v id = (result,v') ∧ Vault.load w id = (result,w') ∧
      Sound v' ∧ Sound w' ∧ cell v' id = cell w' id := by
  obtain ⟨told,next⟩ := alike left right same .load
  have loaded : (Vault.load v id).1 = (Vault.load w id).1 := Response.loaded.inj told
  exact ⟨_,(Vault.load v id).2,(Vault.load w id).2,rfl,Prod.ext loaded.symm rfl,
    remains left id .load,remains right id .load,next⟩

theorem eraseAlike (left : Sound v) (right : Sound w) (same : cell v id = cell w id) :
    cell (Vault.erase v id).2 id = cell (Vault.erase w id).2 id :=
  (alike left right same .erase).2

end Parted

instance : Parted Memory where
  Cell := Option Grant
  cell m id := m.grants[id]?
  reply _ held
    | .save g => (.done (.ok ()),some g)
    | .load => (.loaded (.ok held),held)
    | .erase => (.done (.ok ()),none)
  Sound _ := True
  replies {m} _ id a := by
    cases a with
    | save g => exact Prod.ext rfl Std.ExtTreeMap.getElem?_insert_self
    | load => rfl
    | erase => exact Prod.ext rfl Std.ExtTreeMap.getElem?_erase_self
  apart {m} _ id other apart a := by
    cases a with
    | save g =>
      change (m.grants.insert id g)[other]? = _
      simp [Std.ExtTreeMap.getElem?_insert,apart]
    | load => rfl
    | erase =>
      change (m.grants.erase id)[other]? = _
      simp [Std.ExtTreeMap.getElem?_erase,apart]
  remains _ _ _ := trivial

structure Fitful (ω : Type) where
  below : ω
  failures : String → List (Option Fault)

namespace Fitful
variable {ω : Type}

def left (u : Fitful ω) (id other : String) : List (Option Fault) :=
  if other = id then (u.failures id).tail else u.failures other

def pass {β : Type} (u : Fitful ω) (id : String) (f : ω → Outcome Fault β ω) : Outcome Fault β (Fitful ω) :=
  match (u.failures id).head?.join with
  | some fault => (.error fault,⟨u.below,u.left id⟩)
  | none => (f u.below).mapState fun below => ⟨below,u.left id⟩

instance [Vault ω] : Vault (Fitful ω) where
  save u id g := u.pass id (Vault.save · id g)
  load u id := u.pass id (Vault.load · id)
  erase u id := u.pass id (Vault.erase · id)
  ids u := (Vault.ids u.below).mapState fun below => ⟨below,u.failures⟩

variable [Vault ω]

def fails (fault : Fault) : Access → Response
  | .load => .loaded (.error fault)
  | .save _ | .erase => .done (.error fault)

theorem answered (u : Fitful ω) (id : String) (a : Access) : answer u (a.by id) =
    match (u.failures id).head?.join with
    | some fault => (fails fault a,⟨u.below,u.left id⟩)
    | none => ((answer u.below (a.by id)).1,⟨(answer u.below (a.by id)).2,u.left id⟩) := by
  cases a with
  | save g =>
    change (Response.done (u.pass id (Vault.save · id g)).1,(u.pass id (Vault.save · id g)).2) = _
    unfold pass
    split <;> rfl
  | load =>
    change (Response.loaded (u.pass id (Vault.load · id)).1,(u.pass id (Vault.load · id)).2) = _
    unfold pass
    split <;> rfl
  | erase =>
    change (Response.done (u.pass id (Vault.erase · id)).1,(u.pass id (Vault.erase · id)).2) = _
    unfold pass
    split <;> rfl

instance [Parted ω] : Parted (Fitful ω) where
  Cell := List (Option Fault) × Parted.Cell ω
  cell u id := (u.failures id,Parted.cell u.below id)
  reply id held a :=
    match held.1.head?.join with
    | some fault => (fails fault a,(held.1.tail,held.2))
    | none => ((Parted.reply id held.2 a).1,(held.1.tail,(Parted.reply id held.2 a).2))
  Sound u := Parted.Sound u.below
  replies {u} sound id a := by
    rw [answered,← Parted.replies sound id a]
    cases due : (u.failures id).head?.join with
    | none => simp [left]
    | some fault => simp [left]
  apart {u} sound id other apart a := by
    rw [answered]
    split
    · simp [left,apart.symm]
    · simp [left,apart.symm,Parted.apart sound apart a]
  remains {u} sound id a := by
    rw [answered]
    split
    · exact sound
    · exact Parted.remains sound id a

end Fitful

namespace Folder

def stored? (f : Folder) (id : String) : Option Octets :=
  if Enrollment.isUsableId id then f.disk.tree.content? (f.directory.join ⟨recordName id⟩) else none

theorem storedTouched {P : Place → Prop} {f f' : Folder} {id : String}
    (touches : Tree.Touches P f.disk.tree f'.disk.tree) (directory : f'.directory = f.directory)
    (apart : Enrollment.isUsableId id = true → ∀ place, Disk.Named (recordName id) place → ¬ P place) :
    f'.stored? id = f.stored? id := by
  unfold stored?
  rw [directory]
  split
  · rename_i usable
    have proper := recordNamed usable
    exact touches.content (Path.asksJoin f.directory proper.toIsPart) fun place there =>
      apart usable place (Tree.resolveJoin proper there)
  · rfl

theorem saveStored {id other : String} (apart : id ≠ other) (f : Folder) (g : Grant) :
    (f.save id g).2.stored? other = f.stored? other := by
  have written := f.writes id g
  generalize f.save id g = result at written ⊢
  cases written with
  | unusable barred => rfl
  | written usable replaced =>
    have outcome := Disk.replaces f.directory (recordNamed usable) f.disk
      (record f.key (f.nonces f.seals) g)
    rw [replaced] at outcome
    cases outcome with
    | replaced there touches node =>
      refine storedTouched touches rfl ?_
      rintro known place named (temporary | record)
      · exact temporaryApart known place named temporary
      · exact apart (recordNameInjective (Option.some.inj (record.symm.trans named)))
  | failed usable replaced =>
    have outcome := Disk.replaces f.directory (recordNamed usable) f.disk
      (record f.key (f.nonces f.seals) g)
    rw [replaced] at outcome
    cases outcome with
    | failed touches => exact storedTouched touches rfl temporaryApart

theorem eraseStored {id other : String} (apart : id ≠ other) (f : Folder) :
    (f.erase id).2.stored? other = f.stored? other := by
  by_cases usable : Enrollment.isUsableId id = true
  · rw [eraseDisk f id usable]
    refine storedTouched (Disk.removeTouches _ (recordNamed usable) f.disk) rfl ?_
    intro known place named record
    exact apart (recordNameInjective (Option.some.inj (record.symm.trans named)))
  · rw [eraseNothing usable]

theorem accessStored {id other : String} (apart : id ≠ other) (f : Folder) (a : Access) :
    (answer f (a.by id)).2.stored? other = f.stored? other := by
  cases a with
  | save g => exact saveStored apart f g
  | load =>
    change (f.load id).2.stored? other = _
    rcases f.loadDisk id with same | same <;> rw [same]
    rfl
  | erase => exact eraseStored apart f

end Folder

end GrantKeeper.Vault

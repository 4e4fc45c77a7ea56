import GrantKeeper.Proofs.Disk.Replacement
import GrantKeeper.Proofs.Vault.Lawful
import GrantKeeper.Proofs.Vault.Record

/-! A vault in a directory is lawful whatever else the disk holds and whatever
mishaps it meets. -/
namespace GrantKeeper.Vault.Folder
open Disk (Path Tree Named)
open Text (Octets)

theorem usableId {id : String} (usable : Enrollment.isUsableId id = true) :
    (∀ c ∈ id.toList, Enrollment.isBarred c = false) ∧ id.toList ≠ [] ∧ id.toList.head? ≠ some '.' := by
  unfold Enrollment.isUsableId Enrollment.idDefect? at usable
  split at usable
  · cases usable
  · rename_i filled
    split at usable
    · cases usable
    · rename_i clean
      simp only [Bool.or_eq_true,decide_eq_true_eq,not_or,Bool.not_eq_true,List.any_eq_false] at clean
      refine ⟨by simpa using clean.1.1,?_,clean.1.2⟩
      intro nothing
      exact filled (by simpa using nothing)

theorem recordNameChars (id : String) : (recordName id).toList = id.toList ++ ['.','j','s','o','n'] := by
  simp [recordName,extension]

theorem recordLacks {id : String} (usable : Enrollment.isUsableId id = true) {c : Char}
    (barred : Enrollment.isBarred c = true) (plain : c ∉ ['.','j','s','o','n']) :
    c ∉ (recordName id).toList := by
  rw [recordNameChars,List.mem_append]
  rintro (inner | rest)
  · rw [(usableId usable).1 c inner] at barred
    cases barred
  · exact plain rest

theorem recordNamed {id : String} (usable : Enrollment.isUsableId id = true) :
    Path.IsName (recordName id) := by
  have last : (recordName id).toList.getLast? = some 'n' := by
    rw [recordNameChars,List.getLast?_append]
    rfl
  have lacks := recordLacks usable (c := '/') (by decide) (by decide)
  exact Path.nameOfLast (Path.wholeName lacks) last (by decide)

theorem recordNameInjective {id other : String} (same : recordName id = recordName other) : id = other := by
  have chars := congrArg String.toList same
  rw [recordNameChars,recordNameChars,List.append_left_inj] at chars
  exact String.toList_inj.mp chars

theorem placeInjective {home : Disk.Place} {id other : String}
    (same : home ++ [recordName id] = home ++ [recordName other]) : id = other :=
  recordNameInjective (List.singleton_inj.mp (List.append_inj_right' same rfl))

theorem recordNotTemporary {id : String} (usable : Enrollment.isUsableId id = true) (name : String)
    (process n : Nat) : recordName id ≠ Disk.temporaryName name process n := by
  obtain ⟨-,some,undotted⟩ := usableId usable
  intro same
  have first := congrArg (fun s : String => s.toList.head?) same
  simp only [recordNameChars,List.head?_append_of_ne_nil _ some] at first
  exact undotted (first.trans (by simp [Disk.temporaryName]))

theorem recordPathOf {f : Folder} {id : String} (usable : Enrollment.isUsableId id = true) :
    f.recordPath id = .ok (f.directory.join ⟨recordName id⟩) := by
  unfold recordPath
  rw [if_pos usable]

theorem noRecordPath {f : Folder} {id : String} (unusable : ¬ Enrollment.isUsableId id = true) :
    f.recordPath id = .error (.unusableId id) := by
  unfold recordPath
  rw [if_neg unusable]

def recordIn? (directory : Path) (key : Option Cipher.Key) (t : Tree) (id : String) :
    Option (Option Grant) :=
  if Enrollment.isUsableId id then
    (t.content? (directory.join ⟨recordName id⟩)).map fun octets => (readRecord key octets).toOption
  else none

def record? (f : Folder) (id : String) : Option (Option Grant) :=
  recordIn? f.directory f.key f.disk.tree id

theorem recordApart {P : Disk.Place → Prop} {t u : Tree} (touches : Tree.Touches P t u)
    {id : String} (apart : Enrollment.isUsableId id = true → ∀ place, Named (recordName id) place → ¬ P place)
    (directory : Path) (key : Option Cipher.Key) : recordIn? directory key u id = recordIn? directory key t id := by
  unfold recordIn?
  split
  · rename_i usable
    have proper := recordNamed usable
    rw [touches.content (Path.asksJoin directory proper.toIsPart) fun place there =>
      apart usable place (Tree.resolveJoin proper there)]
  · rfl

theorem temporaryApart {id name : String} {process n : Nat} (usable : Enrollment.isUsableId id = true)
    (place : Disk.Place) (named : Named (recordName id) place) :
    ¬ Named (Disk.temporaryName name process n) place := by
  intro temporary
  exact recordNotTemporary usable name process n (Option.some.inj (named.symm.trans temporary))

inductive Saves (f : Folder) (id : String) (g : Grant) : Outcome Fault Unit Folder → Prop
  | unusable (barred : ¬ Enrollment.isUsableId id = true) : Saves f id g (.error (.unusableId id),f)
  | saved {d seals} (there : ∀ other, recordIn? f.directory f.key d.tree other =
        if id = other then some (some g.floored) else f.record? other) :
      Saves f id g (.ok (),{ f with disk := d, seals })
  | unsaved {fault d seals} (kept : ∀ other, recordIn? f.directory f.key d.tree other = f.record? other) :
      Saves f id g (.error fault,{ f with disk := d, seals })

theorem countSealOnly (f : Folder) : ∃ seals, f.countSeal = { f with seals } := by
  unfold countSeal
  split
  · exact ⟨f.seals + 1,rfl⟩
  · exact ⟨f.seals,rfl⟩

inductive Writes (f : Folder) (id : String) (g : Grant) : Outcome Fault Unit Folder → Prop
  | unusable (barred : ¬ Enrollment.isUsableId id = true) : Writes f id g (.error (.unusableId id),f)
  | written {d seals} (usable : Enrollment.isUsableId id = true)
      (replaced : f.disk.replace (f.directory.join ⟨recordName id⟩) (record f.key (f.nonces f.seals) g) =
        (.ok (),d)) :
      Writes f id g (.ok (),{ f with disk := d, seals })
  | failed {fault d seals} (usable : Enrollment.isUsableId id = true)
      (replaced : f.disk.replace (f.directory.join ⟨recordName id⟩) (record f.key (f.nonces f.seals) g) =
        (.error fault,d)) :
      Writes f id g (.error (.disk fault),{ f with disk := d, seals })

theorem writes (f : Folder) (id : String) (g : Grant) : Writes f id g (f.save id g) := by
  unfold save
  by_cases usable : Enrollment.isUsableId id = true
  · simp only [recordPathOf usable]
    cases replaced : f.disk.replace (f.directory.join ⟨recordName id⟩)
      (record f.key (f.nonces f.seals) g) with
    | mk result d =>
      obtain ⟨seals,counted⟩ := f.countSealOnly
      rw [counted]
      cases result with
      | ok u => exact .written usable replaced
      | error fault => exact .failed usable replaced
  · simp only [noRecordPath usable]
    exact .unusable usable

theorem saves (f : Folder) (id : String) (g : Grant) : Saves f id g (f.save id g) := by
  have written := f.writes id g
  generalize f.save id g = result at written ⊢
  cases written with
  | unusable barred => exact .unusable barred
  | written usable replaced =>
    have outcome := Disk.replaces f.directory (recordNamed usable) f.disk
      (record f.key (f.nonces f.seals) g)
    rw [replaced] at outcome
    cases outcome with
    | @replaced goal mode d there touches node =>
      refine Saves.saved ?_
      intro other
      have proper := recordNamed usable
      by_cases same : id = other
      · subst same
        have content := Tree.contentThere (Path.asksJoin f.directory proper.toIsPart) (touches.resolve there)
        rw [node] at content
        simp [recordIn?,usable,content,readRecordOf,Except.toOption]
      · -- no temporary name is a record's, so other records stay
        rw [if_neg same]
        refine recordApart touches ?_ f.directory f.key
        intro known place named touched
        rcases touched with temporary | record
        · exact temporaryApart known place named temporary
        · exact same (recordNameInjective (Option.some.inj (record.symm.trans named)))
  | failed usable replaced =>
    have outcome := Disk.replaces f.directory (recordNamed usable) f.disk
      (record f.key (f.nonces f.seals) g)
    rw [replaced] at outcome
    cases outcome with
    | failed touches => exact .unsaved fun other => recordApart touches temporaryApart f.directory f.key

theorem loadDisk (f : Folder) (id : String) :
    (f.load id).2 = f ∨ (f.load id).2 = { f with disk := f.disk.afterMishap } := by
  unfold load
  split
  · exact .inl rfl
  · rename_i p _
    have looked : (f.disk.read p).2 = f.disk.afterMishap := by
      unfold Disk.read Disk.look
      split <;> rfl
    generalize f.disk.read p = result at looked ⊢
    obtain ⟨result,d⟩ := result
    cases looked
    refine .inr ?_
    split
    · rename_i same
      cases same
      rfl
    · rename_i same
      cases same
      rfl
    · rename_i same
      cases same
      split <;> rfl

theorem loadRecord {f f' : Folder} {id : String} {stored : Option Grant} (honest : f.disk.Honest)
    (load : f.load id = (.ok stored,f')) : f.record? id = stored.map some := by
  unfold Folder.load at load
  by_cases usable : Enrollment.isUsableId id = true
  · simp only [recordPathOf usable] at load
    unfold record? recordIn? Tree.content?
    rw [if_pos usable]
    split at load
    · rename_i missing
      rw [Disk.lookMissing honest missing]
      cases load
      rfl
    · cases load
    · rename_i octets d found
      rw [Disk.lookOk found]
      split at load
      · rename_i grant readable
        cases load
        simp [Except.toOption,readable]
      · cases load
  · simp only [noRecordPath usable] at load
    cases load

theorem eraseDisk (f : Folder) (id : String) (usable : Enrollment.isUsableId id = true) :
    (f.erase id).2 = { f with disk := (f.disk.removeFile (f.directory.join ⟨recordName id⟩)).2 } := by
  unfold Folder.erase
  simp only [recordPathOf usable]
  generalize f.disk.removeFile (f.directory.join ⟨recordName id⟩) = removed
  obtain ⟨result,d⟩ := removed
  split <;> rename_i same <;> cases same <;> rfl

theorem eraseNothing {f : Folder} {id : String} (unusable : ¬ Enrollment.isUsableId id = true) :
    (f.erase id).2 = f := by
  unfold Folder.erase
  simp only [noRecordPath unusable]

theorem eraseRecord {f f' : Folder} {id : String} (honest : f.disk.Honest) (erase : f.erase id = (.ok (),f')) :
    f'.record? id = none := by
  by_cases usable : Enrollment.isUsableId id = true
  · have left := eraseDisk f id usable
    rw [erase] at left
    subst left
    have gone : (f.disk.removeFile (f.directory.join ⟨recordName id⟩)).2.tree.content?
        (f.directory.join ⟨recordName id⟩) = none := by
      unfold Folder.erase at erase
      simp only [recordPathOf usable] at erase
      cases removed : f.disk.removeFile (f.directory.join ⟨recordName id⟩) with
      | mk result d =>
        cases result with
        | ok u => exact Disk.removedContent (recordNamed usable) removed
        | error fault =>
          rw [removed] at erase
          cases fault <;> cases erase
          rw [Disk.changeError removed]
          exact Tree.contentOfNoFile (Disk.changeMissing honest removed)
    unfold record? recordIn?
    rw [if_pos usable,gone]
    rfl
  · unfold Folder.erase at erase
    simp only [noRecordPath usable] at erase
    cases erase

theorem eraseKeeps (f : Folder) (id other : String) : (f.erase id).2.record? other = f.record? other ∨
    id = other ∧ (f.erase id).2.record? other = none := by
  by_cases usable : Enrollment.isUsableId id = true
  · rw [eraseDisk f id usable]
    by_cases same : id = other
    · subst same
      cases removed : f.disk.removeFile (f.directory.join ⟨recordName id⟩) with
      | mk result d =>
        cases result with
        | error fault => exact .inl (congrArg (recordIn? f.directory f.key · id) (Disk.changeError removed))
        | ok u =>
          refine .inr ⟨rfl,?_⟩
          unfold record? recordIn?
          rw [if_pos usable,Disk.removedContent (recordNamed usable) removed]
          rfl
    · refine .inl (recordApart (Disk.removeTouches _ (recordNamed usable) f.disk) ?_ f.directory f.key)
      intro known place named record
      exact same (recordNameInjective (Option.some.inj (record.symm.trans named)))
  · rw [eraseNothing usable]
    exact .inl rfl

instance : Lawful Folder where
  record? := record?
  Honest f := f.disk.Honest
  saved {f f' id g} whole save other := by
    have saved := f.saves id g
    change f.save id g = _ at save
    rw [save] at saved
    cases saved with
    | saved there => exact (there other).trans (by rw [whole])
  unsaved {f f' id g fault} save other := by
    have saved := f.saves id g
    change f.save id g = _ at save
    rw [save] at saved
    cases saved with
    | unusable barred => rfl
    | unsaved kept => exact kept other
  loadKeeps f id other := by
    change (f.load id).2.record? other = f.record? other
    rcases f.loadDisk id with same | same <;> rw [same]
    rfl
  loaded {f f' id g} honest load := loadRecord honest load
  erased {f f' id} honest erase := eraseRecord honest erase
  eraseKeeps f id other := f.eraseKeeps id other

end GrantKeeper.Vault.Folder

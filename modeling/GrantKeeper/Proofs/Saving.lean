import GrantKeeper.Cipher.Nonce
import GrantKeeper.Proofs.Command.Opening
import GrantKeeper.Proofs.Disk.Stages

/-! Saving is atomic. Wherever it stops, the files are those from before, or the saved one is new and
complete. Its temporary file is never taken for a record, nor for the file that is saved. -/
namespace GrantKeeper
open Disk (Path Tree Stage Reaches Grown)
open Text (Octets)

namespace Disk
variable {d : Disk} {p : Path} {octets : Octets} {s : Stage}

def draft (d : Disk) (p : Path) : Path := temporaryPath p d.process d.temporaries

def Passes (d : Disk) (p : Path) (octets : Octets) : Stage → Prop :=
  Reaches (d.draft p) p octets ⟨.opening,d.tree⟩

def Withdraws (d : Disk) (p : Path) (octets : Octets) : Prop :=
  (d.countTemporary.replaceThrough (d.draft p) p octets).2.nextMishap = none

structure Atomic (d : Disk) (p : Path) (octets : Octets) : Prop where
  apart : (d.draft p).goal d.tree.working ≠ p.goal d.tree.working
  records : ∀ (directory : Path) {id}, Enrollment.isUsableId id = true →
    (d.draft p).goal d.tree.working ≠ (directory.join ⟨Vault.Folder.recordName id⟩).goal d.tree.working
  pending : ∀ {s}, d.Passes p octets s → s.phase ≠ .replaced →
    Tree.Touches (· = (d.draft p).goal d.tree.working) d.tree s.tree
  replaced : ∀ {s}, d.Passes p octets s → s.phase = .replaced →
    Tree.Touches (· = p.goal d.tree.working) d.tree s.tree ∧ s.tree.content? p = some octets
  failing : ∀ {fault t s}, Reaches (d.draft p) p octets ⟨.withdrawing fault,t⟩ s →
    s.phase = .withdrawing fault ∨ s.phase.result? = some (.error fault)
  tidy : ∀ {s r}, d.Passes p octets s → s.phase.result? = some r → (∀ fault, s.phase ≠ .littered fault) →
    s.tree.isFile (d.draft p) = false
  ends : ∃ phase, d.Passes p octets ⟨phase,(d.replace p octets).2.tree⟩ ∧
    phase.result? = some (d.replace p octets).1 ∧ (d.Withdraws p octets → ∀ fault, phase ≠ .littered fault)
  left : ∀ {s}, d.Passes p octets s → ∃ mishaps, ((d.underMishaps mishaps).replace p octets).2.tree = s.tree ∧
    ∀ r, s.phase.result? = some r → ((d.underMishaps mishaps).replace p octets).1 = r
  done : (d.replace p octets).1 = .ok () →
    Tree.Touches (· = p.goal d.tree.working) d.tree (d.replace p octets).2.tree ∧
    (d.replace p octets).2.tree.content? p = some octets ∧
    (d.replace p octets).2.tree.isFile (d.draft p) = false
  failed : ∀ {fault}, (d.replace p octets).1 = .error fault →
    Tree.Touches (· = (d.draft p).goal d.tree.working) d.tree (d.replace p octets).2.tree ∧
    (d.Withdraws p octets → (d.replace p octets).2.tree.isFile (d.draft p) = false)

theorem draftNotRecord (d : Disk) (p directory : Path) {id : String} (usable : Enrollment.isUsableId id = true)
    (working : Place) :
    (d.draft p).goal working ≠ (directory.join ⟨Vault.Folder.recordName id⟩).goal working := by
  intro same
  unfold draft at same
  rw [goalTemporary,Path.goalJoin directory (Vault.Folder.recordNamed usable)] at same
  have names := List.singleton_inj.mp (List.append_inj_right' same rfl)
  exact Vault.Folder.recordNotTemporary usable _ _ _ names.symm

theorem Phase.resultOk {phase : Phase} (ended : phase.result? = some (.ok ())) : phase = .replaced := by
  cases phase <;> cases ended
  rfl

theorem Passes.tidy {r : Except Fault Unit} (passes : d.Passes p octets s) (ended : s.phase.result? = some r)
    (clean : ∀ fault, s.phase ≠ .littered fault) : s.tree.isFile (d.draft p) = false :=
  (stands passes).ended ended clean (temporaryElsewhere p d.process d.temporaries d.tree.working)

theorem replaceOk (d : Disk) (p : Path) (octets : Octets) (done : (d.replace p octets).1 = .ok ()) :
    Tree.Touches (· = p.goal d.tree.working) d.tree (d.replace p octets).2.tree ∧
    (d.replace p octets).2.tree.content? p = some octets ∧
    (d.replace p octets).2.tree.isFile (d.draft p) = false := by
  obtain ⟨phase,passes,ended,-⟩ := replaceReaches d p octets
  rw [done] at ended
  cases Phase.resultOk ended
  obtain ⟨touches,content⟩ := (stands passes).done rfl
  have clean : ∀ fault, Phase.replaced ≠ .littered fault := by
    intro fault same
    cases same
  exact ⟨touches,content,Passes.tidy (s := ⟨.replaced,_⟩) passes ended clean⟩

theorem replaceError {fault : Fault} (d : Disk) (p : Path) (octets : Octets)
    (failed : (d.replace p octets).1 = .error fault) :
    Tree.Touches (· = (d.draft p).goal d.tree.working) d.tree (d.replace p octets).2.tree ∧
    (d.Withdraws p octets → (d.replace p octets).2.tree.isFile (d.draft p) = false) := by
  obtain ⟨phase,passes,ended,clean⟩ := replaceReaches d p octets
  rw [failed] at ended
  have early : phase ≠ .replaced := by
    rintro rfl
    cases ended
  exact ⟨(stands passes).pending early,
    fun withdraws => Passes.tidy (s := ⟨phase,_⟩) passes ended (clean withdraws)⟩

theorem atomic (d : Disk) (p : Path) (octets : Octets) : d.Atomic p octets where
  apart := temporaryElsewhere p _ _ _
  records directory _ usable := d.draftNotRecord p directory usable _
  pending passes := (stands passes).pending
  replaced passes := (stands passes).done
  failing := withdrawingFails
  tidy := Passes.tidy
  ends := replaceReaches d p octets
  left := stageLeft
  done := replaceOk d p octets
  failed := replaceError d p octets

end Disk

namespace Vault.Folder
variable {f : Folder} {id : String} {g : Grant}

def recordFile? (f : Folder) (t : Tree) (id : String) : Option Octets :=
  t.content? (f.directory.join ⟨recordName id⟩)

structure SavesWhole (f : Folder) (id : String) (g : Grant) : Prop where
  writes : f.Writes id g (f.save id g)
  stopped : ∀ s, Enrollment.isUsableId id = true →
    f.disk.Passes (f.directory.join ⟨recordName id⟩) (record f.key (f.nonces f.seals) g) s →
    ∀ other, Enrollment.isUsableId other = true → f.recordFile? s.tree other = f.recordFile? f.disk.tree other ∨
      other = id ∧ s.phase = .replaced ∧
        f.recordFile? s.tree other = some (record f.key (f.nonces f.seals) g)
  whole : readRecord f.key (record f.key (f.nonces f.seals) g) = .ok g.floored

theorem recordFileApart {P : Disk.Place → Prop} {t u : Tree} (touches : Tree.Touches P t u) {other : String}
    (usable : Enrollment.isUsableId other = true)
    (apart : ¬ P ((f.directory.join ⟨recordName other⟩).goal t.working)) :
    f.recordFile? u other = f.recordFile? t other := by
  refine touches.content (Path.asksJoin f.directory (recordNamed usable).toIsPart) ?_
  intro place leads
  rwa [Tree.resolveGoal leads]

theorem savesWhole (f : Folder) (id : String) (g : Grant) : f.SavesWhole id g := by
  refine ⟨f.writes id g,?_,readRecordOf f.key (f.nonces f.seals) g⟩
  intro s usable passes other known
  have atomic := f.disk.atomic (f.directory.join ⟨recordName id⟩) (record f.key (f.nonces f.seals) g)
  by_cases done : s.phase = .replaced
  · obtain ⟨touches,content⟩ := atomic.replaced passes done
    by_cases own : other = id
    · subst own
      exact .inr ⟨rfl,done,content⟩
    · -- records of other accounts are at other places
      refine .inl (recordFileApart touches known ?_)
      rw [Path.goalJoin f.directory (recordNamed known),Path.goalJoin f.directory (recordNamed usable)]
      exact fun same => own (placeInjective same)
  · have touches := atomic.pending passes done
    exact .inl (recordFileApart touches known (atomic.records f.directory known).symm)

end Vault.Folder

namespace Settings

structure SavesWhole (s : Settings) (d : Disk) (p : Path) : Prop where
  saves : s.Saves d p (s.save d p)
  stopped : ∀ d' stage, Grown d d' → d'.Passes p s.contents stage →
    ∀ place, place ≠ (d.draft p).goal d.tree.working → stage.tree.file? place = d.tree.file? place ∨
      place = p.goal d.tree.working ∧ stage.phase = .replaced ∧ stage.tree.content? p = some s.contents

theorem savesWhole (s : Settings) (d : Disk) (p : Path) : s.SavesWhole d p := by
  refine ⟨s.saves d p,?_⟩
  intro d' stage grown passes place apart
  have atomic := d'.atomic p s.contents
  rw [← grown.tree.file place]
  rw [← grown.tree.working] at apart ⊢
  have same : d'.draft p = d.draft p := by
    unfold Disk.draft
    rw [grown.process,grown.temporaries]
  by_cases done : stage.phase = .replaced
  · obtain ⟨touches,content⟩ := atomic.replaced passes done
    by_cases own : place = p.goal d'.tree.working
    · exact .inr ⟨own,done,content⟩
    · exact .inl (touches.carries.file place own)
  · have touches := atomic.pending passes done
    rw [same] at touches
    exact .inl (touches.carries.file place apart)

end Settings

/-- A save that stops anywhere has changed nothing or everything, and what a stopped one left is what
some run with mishaps leaves. -/
theorem savingAtomic : (∀ (d : Disk) (p : Path) (octets : Octets), d.Atomic p octets) ∧
    (∀ (f : Vault.Folder) (id : String) (g : Grant), f.SavesWhole id g) ∧
    ∀ (s : Settings) (d : Disk) (p : Path), s.SavesWhole d p :=
  ⟨Disk.atomic,Vault.Folder.savesWhole,Settings.savesWhole⟩

namespace Vault.Folder

def shelf : Folder :=
  ⟨.ofTree ((Tree.empty.put ["t"] (.directory 0o700)).put ["t","a.json"] (.file 0o600 [0x7b])) 7,⟨"/t"⟩,none,
    .countFrom 0,0⟩

end Vault.Folder

open Vault.Folder (shelf)

theorem stoppedSavesSpare :
    let t := shelf.disk.tree
    t.Touches (· = ["t",".a.json.7.0.tmp"]) (t.withFile ["t",".a.json.7.0.tmp"] []) ∧
    shelf.recordFile? (t.withFile ["t",".a.json.7.0.tmp"] []) "a" = some [0x7b] ∧
    (t.withFile [".c.json.7.0.tmp"] []).file? ["t","a.json"] = some [0x7b] := by
  intro t
  obtain ⟨replaces,records,settings⟩ := savingAtomic
  have drafted : t.createNew (shelf.disk.draft ⟨"/t/a.json"⟩) Disk.privateFileMode =
      .ok (t.withFile ["t",".a.json.7.0.tmp"] []) := by with_unfolding_all rfl
  have opened : t.createNew (shelf.disk.draft ⟨"/c.json"⟩) Disk.privateFileMode =
      .ok (t.withFile [".c.json.7.0.tmp"] []) := by with_unfolding_all rfl
  have held : t.file? ["t","a.json"] = some [0x7b] := by decide +kernel
  refine ⟨?_,?_,?_⟩
  · have goal : (shelf.disk.draft ⟨"/t/a.json"⟩).goal t.working = ["t",".a.json.7.0.tmp"] := by
      decide +kernel
    have touches := (replaces shelf.disk ⟨"/t/a.json"⟩ []).pending
      (.next (.start _) (.create drafted)) nofun
    rwa [goal] at touches
  · rcases (records shelf "a" .absent).stopped _ (by decide) (.next (.start _) (.create drafted)) "a"
      (by decide) with kept | ⟨-,done,-⟩
    · exact kept.trans (by decide +kernel)
    · cases done
  · rcases (settings .default shelf.disk ⟨"/c.json"⟩).stopped shelf.disk _ (Disk.grownSelf _)
      (.next (.start _) (.create opened)) ["t","a.json"] (by decide +kernel) with kept | ⟨-,done,-⟩
    · exact kept.trans held
    · cases done

end GrantKeeper

import GrantKeeper.Proofs.Command.History
import GrantKeeper.Proofs.Saving

/-! The settings, written anew for an account that is added or removed. What was saved is found
again, so all entries and settings that the command does not mean stay as they were. -/
namespace GrantKeeper
open Disk (Path Tree)
open Text (Octets)

namespace Disk.Tree
variable {t : Tree} {p : Path} {octets : Octets}

theorem contentRead (content : t.content? p = some octets) : t.read p = .ok octets := by
  unfold content? at content
  cases read : t.read p with
  | error fault =>
    rw [read] at content
    cases content
  | ok found =>
    rw [read] at content
    exact congrArg Except.ok (Option.some.inj content)

theorem readFinds (read : t.read p = .ok octets) : ∃ node, t.find p = .ok node := by
  unfold Tree.read at read
  split at read
  · cases read
  · rename_i found
    exact ⟨_,found⟩
  · rename_i found
    exact ⟨_,found⟩

end Disk.Tree

namespace Settings
variable {s : Settings} {d d' : Disk} {p : Path} {octets : Octets}

def FoundIn (s : Settings) (t : Tree) (p : Path) : Prop :=
  ∀ d : Disk, d.tree = t → d.mishaps = [] → (load d p).1 = .ok s

structure Lasts (s : Settings) : Prop where
  decoded : Json.decode reader s.contents = .ok s
  found {d d' : Disk} {p : Path} (saved : s.save d p = (.ok (),d')) : s.FoundIn d'.tree p

inductive Amends (s : Settings) : Command → Settings → Prop
  | added {e es} (enters : Enters e s.accounts es) : Amends s (.add e) { s with accounts := es }
  | removed {id} : Amends s (.remove id) { s with accounts := s.accounts.filter (·.id != id) }

theorem tidyOfNames (word : Text.inWord s.bufferMinutes = true)
    (named : ∀ e ∈ s.accounts, ∃ name, e.provider = .ofText name) : s.Tidy := by
  refine ⟨word,fun e member => ?_⟩
  obtain ⟨name,same⟩ := named e member
  rw [same]
  exact Provider.nameNormal name

theorem loadTidy (loaded : load d p = (.ok s,d')) : s.Tidy := by
  unfold load at loaded
  split at loaded
  · cases loaded
    exact ⟨by decide,nofun⟩
  · split at loaded
    · cases loaded
    · exact ofContentsTidy (congrArg Prod.fst loaded)

theorem loadThere (calm : d.mishaps = []) (content : d.tree.content? p = some octets) :
    (load d p).1 = ofContents p octets := by
  have read := Tree.contentRead content
  obtain ⟨node,found⟩ := Tree.readFinds read
  rw [loadFound calm found read]

theorem savedFound (tidy : s.Tidy) (saved : s.save d p = (.ok (),d')) : s.FoundIn d'.tree p := by
  have saves := s.saves d p
  rw [saved] at saves
  cases saves with
  | saved grown replaced =>
    have written := Disk.replaceOk _ p s.contents (congrArg Prod.fst replaced)
    rw [replaced] at written
    intro d₁ same calm
    rw [loadThere calm (by rw [same]; exact written.2.1)]
    exact ofContentsWritten tidy p

theorem Tidy.lasts (tidy : s.Tidy) : s.Lasts :=
  ⟨Json.decodeWritten (documentInWords tidy) (readsWritten tidy),savedFound tidy⟩

end Settings

namespace Command
open Vault (Folder)

def amends : Command → Bool
  | .add _ | .remove _ => true
  | _ => false

def Run.settingsPath (r : Run) : Path := r.line.globals.settingsPath r.surroundings.env

variable {w : Workspace} {settings : Settings} {r : Run} {d : Disk}

theorem assembledKnows {globals : Globals} {f : Folder} {id : String}
    (known : (assemble globals settings f).knows id = true) : ∃ e ∈ settings.accounts, e.id = id := by
  have enrollment := settings.applyEnrollment f Exchange.Refresher.standard id
  unfold Keeper.knows at known
  rw [(assembleParts globals settings f).2] at known
  obtain ⟨slot,found⟩ := Option.isSome_iff_exists.mp known
  unfold Keeper.enrollment? Keeper.account? at enrollment
  rw [found] at enrollment
  split at enrollment
  · have listed := List.mem_of_find?_eq_some enrollment.symm
    have named := List.find?_some enrollment.symm
    exact ⟨_,List.mem_reverse.mp listed,by simpa using named⟩
  · cases enrollment

theorem saveDone {lines : List String} (tidy : settings.Tidy)
    (done : (saveSettings w settings lines).1.result = .ok ()) :
    settings.FoundIn (saveSettings w settings lines).2.tree w.settingsFile := by
  unfold saveSettings at done ⊢
  split
  · rename_i saved
    exact Settings.savedFound tidy saved
  · rename_i failed
    rw [failed] at done
    cases done

theorem addDone {e : Enrollment} (tidy : (w.settings.upsert e).Tidy)
    (done : (addAccount w e).1.result = .ok ()) :
    (w.settings.upsert e).FoundIn (addAccount w e).2.tree w.settingsFile := by
  unfold addAccount at done ⊢
  split
  · rename_i sound
    rw [if_pos sound] at done
    generalize w.keeper.register e = registered at done ⊢
    obtain ⟨taken,k⟩ := registered
    cases taken with
    | false => cases done
    | true => exact saveDone (w := { w with keeper := k }) tidy done
  · rename_i unsound
    rw [if_neg unsound] at done
    cases done

theorem removeDone {id : String}
    (configured : w.keeper.knows id = true → ∃ e ∈ w.settings.accounts, e.id = id)
    (tidy : (w.settings.remove id).2.Tidy) (done : (removeAccount w id).1.result = .ok ()) :
    (w.settings.remove id).2.FoundIn (removeAccount w id).2.tree w.settingsFile := by
  unfold removeAccount at done ⊢
  dsimp only at done ⊢
  split
  · rename_i listed
    rw [if_pos listed] at done
    exact saveDone (w := { w with keeper := (w.keeper.delete id).2 }) tidy done
  · rename_i unlisted
    rw [if_neg unlisted] at done
    split at done
    · rename_i registered
      exact absurd ((w.settings.removeConfigured id).mpr (configured registered)) unlisted
    · cases done

theorem performAmends {s : Surroundings} {command : Command} (tidy : w.settings.Tidy)
    (normal : ∀ e, command = .add e → e.provider.Normal)
    (configured : ∀ id, w.keeper.knows id = true → ∃ e ∈ w.settings.accounts, e.id = id)
    (amends : command.amends = true) (done : (perform s w command).1.result = .ok ()) :
    ∃ after, w.settings.Amends command after ∧ after.FoundIn (perform s w command).2.tree w.settingsFile := by
  cases command with
  | add e => exact ⟨_,.added (Settings.enters e _),addDone (Settings.tidyUpsert tidy (normal e rfl)) done⟩
  | remove id => exact ⟨_,.removed,removeDone (configured id) (Settings.tidyRemove tidy id) done⟩
  | _ => cases amends

theorem runAmends (amends : r.line.command.amends = true)
    (done : (run r.surroundings r.line d).1.result = .ok ()) :
    ∃ before after, (Settings.load d r.settingsPath).1 = .ok before ∧ before.Amends r.line.command after ∧
      after.FoundIn (run r.surroundings r.line d).2.tree r.settingsPath := by
  have opened := opens r.surroundings r.line.globals d
  have normal := fun e => parsedNormal (e := e) r.parsed
  unfold run at done ⊢
  by_cases fresh : r.line.command = .keygen
  · rw [fresh] at amends
    cases amends
  · rw [if_neg fresh] at done ⊢
    generalize openWorkspace r.surroundings r.line.globals d = result at opened done ⊢
    cases opened with
    | unread load => cases done
    | barred load grown => cases done
    | @opened before d₁ d₂ load grown there =>
      obtain ⟨after,amended,found⟩ := performAmends (Settings.loadTidy load) normal
        (fun _ => assembledKnows) amends done
      exact ⟨before,after,congrArg Prod.fst load,amended,found⟩

/-- Settings last if their providers have been read from names, and so do all that were read from a
file. An account that is added or removed changes its own entry and nothing else. -/
theorem settingsRewritten :
    (∀ s : Settings, Text.inWord s.bufferMinutes = true →
      (∀ e ∈ s.accounts, ∃ name, e.provider = Provider.ofText name) → s.Lasts) ∧
    (∀ (p : Path) (octets : Octets) (s : Settings), Settings.ofContents p octets = .ok s → s.Lasts) ∧
    (∀ (d d' : Disk) (p : Path) (s : Settings), Settings.load d p = (.ok s,d') → s.Lasts) ∧
    ∀ (r : Run) (d : Disk), r.line.command.amends = true →
      (run r.surroundings r.line d).1.result = .ok () →
      ∃ before after, (Settings.load d r.settingsPath).1 = .ok before ∧ before.Amends r.line.command after ∧
        after.FoundIn (run r.surroundings r.line d).2.tree r.settingsPath := by
  refine ⟨?_,?_,?_,?_⟩
  · exact fun s word named => (Settings.tidyOfNames word named).lasts
  · exact fun p octets s read => (Settings.ofContentsTidy read).lasts
  · exact fun d d' p s loaded => (Settings.loadTidy loaded).lasts
  · exact fun r d => runAmends

def ownSettings : Tree :=
  .put .empty ["c.json"] (.file 0o644 (Text.encode ("\x7b\"refresh_buffer_minutes\":9," ++
    "\"accounts\":[\x7b\"account_id\":\"b\",\"provider\":\" GMail \",\"client_id\":\"c\"\x7d]\x7d")))

theorem ownSettingsKept :
    let d := Disk.ofTree ownSettings 7
    let r := Site.addBeside
    let after : Settings := ⟨true,9,none,[⟨"b",.google,"c","","",""⟩,⟨"a",.google,"c","","",""⟩]⟩
    r.line.command.amends = true ∧ (run r.surroundings r.line d).1.result = .ok () ∧
      after.FoundIn (run r.surroundings r.line d).2.tree r.settingsPath := by
  intro d r after
  have done : (run r.surroundings r.line d).1.result = .ok () := by decide +kernel
  have read : (Settings.load d r.settingsPath).1 = .ok ⟨true,9,none,[⟨"b",.google,"c","","",""⟩]⟩ := by
    decide +kernel
  refine ⟨rfl,done,?_⟩
  obtain ⟨-,-,-,rewritten⟩ := settingsRewritten
  obtain ⟨before,after',loaded,amends,found⟩ := rewritten r d rfl done
  cases read.symm.trans loaded
  change Settings.Amends _ (.add ⟨"a",.google,"c","","",""⟩) after' at amends
  cases amends with
  | added enters =>
    generalize listed : Settings.accounts _ = es at enters
    cases enters with
    | @replaced old front back here first =>
      have member : old ∈ front ++ old :: back := List.mem_append_right _ List.mem_cons_self
      rw [← listed] at member
      cases List.mem_singleton.mp member
      exact absurd here (by decide)
    | appended _ new =>
      cases listed
      exact found

end Command

end GrantKeeper

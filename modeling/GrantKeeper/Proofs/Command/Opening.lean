import GrantKeeper.Command.Run
import GrantKeeper.Proofs.Disk.Goal
import GrantKeeper.Proofs.Settings.Taking
import GrantKeeper.Proofs.Vault.Folder

/-! Opening a workspace: the settings are read, the vault's directory is made if needed, and the
records of all accounts are looked at. No contents change. -/
namespace GrantKeeper
open Disk (Path Grown)

theorem Settings.loadGrown (d : Disk) (p : Path) : Grown d (Settings.load d p).2 := by
  have looked : Grown d (d.present p).2 := by
    have look := Disk.grownLook d (·.find p)
    unfold Disk.present
    generalize d.look (·.find p) = r at look ⊢
    obtain ⟨result,d1⟩ := r
    cases result <;> exact look
  unfold Settings.load
  generalize d.present p = there at looked ⊢
  obtain ⟨found,d1⟩ := there
  cases found with
  | false => exact looked
  | true =>
    have read := looked.trans (Disk.grownLook d1 (·.read p))
    unfold Disk.read
    simp only at read ⊢
    generalize d1.look (·.read p) = r at read ⊢
    obtain ⟨result,d2⟩ := r
    cases result <;> exact read

theorem Settings.loadFound {d : Disk} {p : Path} {octets : Text.Octets} (calm : d.mishaps = [])
    {found : Disk.Place × Disk.Node} (there : d.tree.find p = .ok found)
    (read : d.tree.read p = .ok octets) : Settings.load d p = (ofContents p octets,d) := by
  unfold load Disk.present Disk.read
  rw [Disk.lookCalm calm,there]
  simp only [Disk.lookCalm calm,read]

inductive Settings.Saves (s : Settings) (d : Disk) (p : Path) : Outcome Fault Unit Disk → Prop
  | unplaced {fault d'} (grown : Grown d d') : Saves s d p (.error (.disk fault),d')
  | unsaved {fault d' d''} (grown : Grown d d') (failed : d'.replace p s.contents = (.error fault,d'')) :
      Saves s d p (.error (.disk fault),d'')
  | saved {d' d''} (grown : Grown d d') (replaced : d'.replace p s.contents = (.ok (),d'')) :
      Saves s d p (.ok (),d'')

theorem Settings.saves (s : Settings) (d : Disk) (p : Path) : Saves s d p (s.save d p) := by
  have after : ∀ way : Disk.Step Unit, Grown d way.2 →
      Saves s d p ((way.andThen fun _ d => d.replace p s.contents).mapFault Fault.disk) := by
    intro way grown
    obtain ⟨result,d1⟩ := way
    cases result with
    | error fault => exact .unplaced grown
    | ok u =>
      rw [Outcome.andThenOk]
      cases replaced : d1.replace p s.contents with
      | mk result d2 =>
        cases result with
        | error fault => exact .unsaved grown replaced
        | ok u => exact .saved grown replaced
  unfold Settings.save
  dsimp only
  cases p.parent? with
  | none => exact after _ (Disk.grownSelf d)
  | some parent => exact after _ (d.grownAll parent)

namespace Vault.Folder

inductive Establishes (d : Disk) (directory : Path) (key : Option Cipher.Key)
    (nonces : Nat → Cipher.Nonce) : Outcome Fault Folder Disk → Prop
  | barred {fault d'} (grown : Grown d d') : Establishes d directory key nonces (.error (.disk fault),d')
  | established {d'} (grown : Grown d d') (there : d'.tree.isDirectory directory = true) :
      Establishes d directory key nonces (.ok ⟨d',directory,key,nonces,0⟩,d')

theorem establishes (d : Disk) (directory : Path) (key : Option Cipher.Key) (nonces : Nat → Cipher.Nonce) :
    Establishes d directory key nonces (establish d directory key nonces) := by
  have grown := d.grownAll directory
  unfold establish
  cases made : d.ensureAll directory with
  | mk result d1 =>
    rw [made] at grown
    cases result with
    | error fault => exact .barred grown
    | ok u =>
      have moded := d1.grownMode directory directoryMode
      rw [Outcome.andThenOk]
      cases set : d1.setMode directory directoryMode with
      | mk result d2 =>
        rw [set] at moded
        cases result with
        | error fault => exact .barred (grown.trans moded)
        | ok u =>
          refine .established (grown.trans moded) ?_
          cases empty : directory.text.isEmpty with
          | false => exact moded.tree.isDirectory ((Disk.providesAll empty d).2 d1 made)
          | true =>
            -- the empty path leads nowhere, so there is no mode to set
            obtain ⟨place,resolved⟩ := Disk.Tree.modeThere (Disk.changeOk set)
            rw [Disk.Tree.resolveFilled resolved] at empty
            cases empty

def GrownTo (f f' : Folder) : Prop := ∃ d, f' = { f with disk := d } ∧ Grown f.disk d

theorem registerGrown {τ : Type} (k : Keeper Folder τ) (e : Enrollment) :
    k.vault.GrownTo (k.register e).2.vault := by
  have registered := k.registers e
  generalize k.register e = result at registered ⊢
  cases registered with
  | refused unusable => exact ⟨_,rfl,Disk.grownSelf _⟩
  | @enrolled loaded vault usable load =>
    have left : (k.vault.load e.id).2 = vault := congrArg Prod.snd load
    rcases k.vault.loadDisk e.id with same | same
    · exact ⟨_,left.symm.trans same,Disk.grownSelf _⟩
    · exact ⟨_,left.symm.trans same,Disk.grownAfter _⟩

theorem registerAllGrown {τ : Type} (es : List Enrollment) (k : Keeper Folder τ) :
    k.vault.GrownTo (k.registerAll es).vault := by
  induction es generalizing k with
  | nil => exact ⟨_,rfl,Disk.grownSelf _⟩
  | cons e es ih =>
    obtain ⟨d1,first,grown⟩ := registerGrown k e
    obtain ⟨d2,rest,more⟩ := ih (k.register e).2
    rw [first] at rest more
    exact ⟨d2,rest,grown.trans more⟩

theorem loadCalm {f : Folder} (calm : f.disk.mishaps = []) (id : String) : (f.load id).2 = f := by
  rcases f.loadDisk id with same | same
  · exact same
  · rw [same,Disk.calmAfter calm]

end Vault.Folder

namespace Command
open Vault (Folder)

theorem assembleParts (globals : Globals) (settings : Settings) (folder : Folder) :
    let k := (settings.apply (Keeper.new folder Exchange.Refresher.standard)).2
    (assemble globals settings folder).vault = k.vault ∧
    (assemble globals settings folder).roster = k.roster := by
  unfold assemble
  cases globals.bufferMinutes <;> cases globals.noAutoRefresh <;> exact ⟨rfl,rfl⟩

theorem assembleGrown (globals : Globals) (settings : Settings) (folder : Folder) :
    folder.GrownTo (assemble globals settings folder).vault := by
  rw [(assembleParts globals settings folder).1,Settings.applyAll]
  exact Folder.registerAllGrown settings.accounts _

theorem assembledVault {folder : Folder} (calm : folder.disk.mishaps = []) (globals : Globals)
    (settings : Settings) : (assemble globals settings folder).vault = folder := by
  rw [(assembleParts globals settings folder).1,Settings.applyAll]
  exact Keeper.registerAllSteady (Folder.loadCalm calm) settings.accounts

inductive Opens (s : Surroundings) (globals : Globals) (disk : Disk) :
    Outcome Failure Workspace Disk → Prop
  | unread {fault d} (load : Settings.load disk (globals.settingsPath s.env) = (.error fault,d)) :
      Opens s globals disk (.error (.loading (globals.settingsPath s.env) fault),d)
  | barred {settings d fault d'} (load : Settings.load disk (globals.settingsPath s.env) = (.ok settings,d))
      (grown : Grown d d') :
      Opens s globals disk (.error (.opening (globals.vaultPath s.env settings) (.disk fault)),d')
  | opened {settings d d'} (load : Settings.load disk (globals.settingsPath s.env) = (.ok settings,d))
      (grown : Grown d d') (there : d'.tree.isDirectory (globals.vaultPath s.env settings) = true) :
      Opens s globals disk (.ok ⟨globals.settingsPath s.env,settings,assemble globals settings
        ⟨d',globals.vaultPath s.env settings,globals.key.map Cipher.Key.ofPassphrase,s.nonces,0⟩⟩,d')

theorem opens (s : Surroundings) (globals : Globals) (disk : Disk) :
    Opens s globals disk (openWorkspace s globals disk) := by
  unfold openWorkspace
  dsimp only
  cases load : Settings.load disk (globals.settingsPath s.env) with
  | mk result d =>
    cases result with
    | error fault => exact .unread load
    | ok settings =>
      have established := Folder.establishes d (globals.vaultPath s.env settings)
        (globals.key.map Cipher.Key.ofPassphrase) s.nonces
      change Opens s globals disk (((Folder.establish d _ _ _).mapFault _).andThen _)
      generalize Folder.establish d _ _ _ = made at established ⊢
      cases established with
      | barred grown => exact .barred load grown
      | established grown there => exact .opened load grown there

end Command

end GrantKeeper

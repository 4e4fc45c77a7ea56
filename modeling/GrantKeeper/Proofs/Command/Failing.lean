import GrantKeeper.Cipher.Nonce
import GrantKeeper.Proofs.Command.Keeping
import GrantKeeper.Proofs.Keeper.Spurned

/-! A run that fails leaves the contents of all files as they were, whatever mishaps it meets; a
removal may already have erased the record, as that is done whether or not the account is known. -/
namespace GrantKeeper.Command
open Disk (Place Spares Temporary)
open Exchange (Order Refresher)
open Vault (Folder)

def Workspace.orders (w : Workspace) (s : Surroundings) : Command → List (Refresher × Order)
  | .token id => w.keeper.tokenOrders s.now id
  | .refresh id => if w.keeper.knows id then w.keeper.orders s.now id none else []
  | .refreshAll => Keeper.sweepOrders s.ask w.keeper s.now
  | _ => []

def orders (s : Surroundings) (line : Line) (disk : Disk) : List (Refresher × Order) :=
  if line.command = .keygen then []
  else
    match openWorkspace s line.globals disk with
    | (.error _,_) => []
    | (.ok w,_) => w.orders s line.command

def Leaves (erased : Place → Prop) (d d' : Disk) : Prop :=
  ∀ place, ¬ Temporary d.process place →
    d'.tree.file? place = d.tree.file? place ∨ erased place ∧ d'.tree.file? place = none

variable {s : Surroundings} {w : Workspace} {d d' d'' : Disk} {erased : Place → Prop} {failure : Failure}

theorem sparesLeaves (spares : Spares (Temporary d.process) d d') : Leaves erased d d' :=
  fun place lasting => .inl (spares.tree.file place lasting)

theorem Leaves.thenSpares (leaves : Leaves erased d d') (process : d'.process = d.process)
    (spares : Spares (Temporary d'.process) d' d'') : Leaves erased d d'' := by
  intro place lasting
  rw [spares.tree.file place (by rwa [process])]
  exact leaves place lasting

theorem saveFails {settings : Settings} {lines : List String}
    (fails : (saveSettings w settings lines).1.result = .error failure) :
    Spares (Temporary w.disk.process) w.disk (saveSettings w settings lines).2 := by
  have saves := settings.saves w.disk w.settingsFile
  unfold saveSettings at fails ⊢
  generalize settings.save w.disk w.settingsFile = result at saves fails ⊢
  cases saves with
  | unplaced grown => exact grown.spares _
  | unsaved grown failed =>
    refine (grown.spares _).trans ?_
    rw [← grown.process]
    exact Disk.replaceFails failed
  | saved grown replaced => cases fails

theorem addFails {e : Enrollment} (fails : (addAccount w e).1.result = .error failure) :
    Spares (Temporary w.disk.process) w.disk (addAccount w e).2 := by
  obtain ⟨d,same,grown⟩ := Folder.registerGrown w.keeper e
  unfold addAccount at fails ⊢
  split
  · rename_i sound
    rw [if_pos sound] at fails
    generalize w.keeper.register e = registered at fails same ⊢
    obtain ⟨taken,k⟩ := registered
    have grown : Disk.Grown w.disk k.vault.disk := by
      rw [same]
      exact grown
    cases taken with
    | false => exact grown.spares _
    | true =>
      refine (grown.spares _).trans ?_
      rw [← grown.process]
      exact saveFails (w := { w with keeper := k }) fails
  · exact (Disk.grownSelf _).spares _

theorem Folder.saveFails {f f' : Folder} {id : String} {g : Grant} {fault : Fault}
    (failed : f.save id g = (.error fault,f')) : Spares (Temporary f.disk.process) f.disk f'.disk := by
  have written := f.writes id g
  rw [failed] at written
  cases written with
  | unusable barred => exact (Disk.grownSelf _).spares _
  | failed usable replaced => exact Disk.replaceFails replaced

theorem storeFails {now : Time.Instant} {id access refresh : String} {lifetime : Int}
    (fails : (storeTokens w now id access refresh lifetime).1.result = .error failure) :
    Spares (Temporary w.disk.process) w.disk (storeTokens w now id access refresh lifetime).2 := by
  have stored := w.keeper.stores now id access refresh lifetime
  unfold storeTokens at fails ⊢
  split
  · rename_i known
    rw [if_pos known] at fails
    generalize w.keeper.storeTokens now id access refresh lifetime = result at stored fails ⊢
    cases stored with
    | unknown absent => exact (Disk.grownSelf _).spares _
    | saved found save => cases fails
    | unsaved found save => exact Folder.saveFails save
  · exact (Disk.grownSelf _).spares _

def Erased (directory : Disk.Path) (working : Place) (command : Command) (place : Place) : Prop :=
  ∃ id, command = .remove id ∧ place = directory.goal working ++ [Folder.recordName id]

theorem Folder.eraseLeaves (f : Folder) (id : String) :
    (f.erase id).2.disk.process = f.disk.process ∧
    ∀ place, (f.erase id).2.disk.tree.file? place = f.disk.tree.file? place ∨
      place = f.directory.goal f.disk.tree.working ++ [Folder.recordName id] ∧
        (f.erase id).2.disk.tree.file? place = none := by
  by_cases usable : Enrollment.isUsableId id = true
  · have goal := Disk.Path.goalJoin f.directory (Folder.recordNamed usable) f.disk.tree.working
    rw [Folder.eraseDisk f id usable]
    refine ⟨(Disk.sparesRemoveFile (P := fun _ => True) trivial).process,?_⟩
    intro place
    rw [← goal]
    exact Disk.removeFile? f.disk _ place
  · rw [Folder.eraseNothing usable]
    exact ⟨rfl,fun _ => .inl rfl⟩

theorem removeFails {id : String} (fails : (removeAccount w id).1.result = .error failure) :
    Leaves (Erased w.keeper.vault.directory w.disk.tree.working (.remove id)) w.disk
      (removeAccount w id).2 := by
  obtain ⟨process,file⟩ := Folder.eraseLeaves w.keeper.vault id
  have erased : Leaves (Erased w.keeper.vault.directory w.disk.tree.working (.remove id)) w.disk
      (w.keeper.delete id).2.vault.disk := by
    intro place _
    exact (file place).imp_right fun gone => ⟨⟨id,rfl,gone.1⟩,gone.2⟩
  unfold removeAccount at fails ⊢
  dsimp only at fails ⊢
  split
  · rename_i configured
    rw [if_pos configured] at fails
    exact erased.thenSpares process
      (saveFails (w := { w with keeper := (w.keeper.delete id).2 }) fails)
  · split <;> exact erased

def changes : Command → Bool
  | .add _ | .remove _ | .store .. => true
  | _ => false

theorem performReads {command : Command} (reads : command.changes = false)
    (spurned : Keeper.Spurned s.ask (w.orders s command)) : (perform s w command).2 = w.disk := by
  cases command with
  | add | remove | store => cases reads
  | list | status | keygen => rfl
  | token id =>
    have kept : (w.keeper.tokenSolo s.ask s.now id).2.vault = w.keeper.vault := Keeper.tokenSpurned spurned
    change (printToken s w.keeper id).2 = _
    unfold printToken
    split <;> rename_i same <;> rw [same] at kept <;> exact congrArg Folder.disk kept
  | refresh id =>
    change (refreshAccount s w.keeper id).2 = _
    unfold refreshAccount
    split
    · rename_i known
      simp only [Workspace.orders,if_pos known] at spurned
      have kept := Keeper.refreshSpurned spurned
      split <;> rename_i same <;> rw [same] at kept <;> exact congrArg Folder.disk kept
    · rfl
  | refreshAll =>
    have kept : (w.keeper.sweepSolo s.ask s.now).2.vault = w.keeper.vault := Keeper.sweepSpurned spurned
    change (refreshStale s w.keeper).2 = _
    unfold refreshStale
    dsimp only
    split <;> exact congrArg Folder.disk kept

theorem performFails {command : Command} (fails : (perform s w command).1.result = .error failure)
    (spurned : Keeper.Spurned s.ask (w.orders s command)) :
    Leaves (Erased w.keeper.vault.directory w.disk.tree.working command) w.disk
      (perform s w command).2 := by
  cases reads : command.changes with
  | true =>
    cases command with
    | add e => exact sparesLeaves (addFails fails)
    | remove id => exact removeFails fails
    | store id access refresh lifetime => exact sparesLeaves (storeFails fails)
    | _ => cases reads
  | false =>
    rw [performReads reads spurned]
    exact fun _ _ => .inl rfl

/-- A run that fails without a reply from any exchange changes no file that is not temporary. Only
the record of an account that was to be removed may be gone. -/
theorem failingRunLeaves {line : Line} {disk : Disk} (fails : (run s line disk).1.result = .error failure)
    (spurned : Keeper.Spurned s.ask (orders s line disk)) {place : Place}
    (lasting : ¬ Temporary disk.process place) :
    (run s line disk).2.tree.file? place = disk.tree.file? place ∨
    ∃ id settings, line.command = .remove id ∧
      (Settings.load disk (line.globals.settingsPath s.env)).1 = .ok settings ∧
      place = (line.globals.vaultPath s.env settings).goal disk.tree.working ++ [Folder.recordName id] ∧
      (run s line disk).2.tree.file? place = none := by
  unfold run at fails ⊢
  unfold orders at spurned
  split
  · rename_i fresh
    rw [if_pos fresh] at fails
    cases fails
  · rename_i other
    rw [if_neg other] at fails spurned
    have opened := opens s line.globals disk
    generalize openWorkspace s line.globals disk = result at opened fails spurned ⊢
    cases opened with
    | unread load =>
      have grown := Settings.loadGrown disk (line.globals.settingsPath s.env)
      rw [load] at grown
      exact .inl (grown.tree.file place)
    | @barred settings d fault d' load grown =>
      have before := Settings.loadGrown disk (line.globals.settingsPath s.env)
      rw [load] at before
      exact .inl ((before.trans grown).tree.file place)
    | @opened settings d d' load grown there =>
      have before := Settings.loadGrown disk (line.globals.settingsPath s.env)
      rw [load] at before
      obtain ⟨d2,same,more⟩ := assembleGrown line.globals settings ⟨d',line.globals.vaultPath s.env settings,
        line.globals.key.map Cipher.Key.ofPassphrase,s.nonces,0⟩
      have all := (before.trans grown).trans more
      have leaves := performFails fails spurned
      simp only [Workspace.disk,same] at leaves
      have file := leaves place (by rwa [all.process])
      rw [all.tree.file place,all.tree.working] at file
      refine file.imp_right ?_
      rintro ⟨⟨id,removes,here⟩,gone⟩
      exact ⟨id,settings,removes,by rw [load],here,gone⟩

def removeGhost : Line := ⟨⟨some ⟨"/c.json"⟩,some ⟨"/t"⟩,none,none,false⟩,.remove "ghost"⟩

def alone : Surroundings :=
  ⟨fun _ => none,.epoch,.countFrom 0,.ofPassphrase "key",fun _ _ => .error .noRefreshToken⟩

def haunted : Disk :=
  .ofTree (((Disk.Tree.empty.put ["c.json"] (.file 0o644 (Text.encode "\x7b\x7d"))).put ["t"] (.directory 0o700)).put
    ["t","ghost.json"] (.file 0o600 [])) 7

theorem undotted {process : Nat} {place : Place} {name : String} (ends : place.getLast? = some name)
    (plain : name.toList.head? ≠ some '.') : ¬ Temporary process place := by
  rintro ⟨stem,n,named⟩
  rw [Option.some.inj (ends.symm.trans named),Disk.temporaryChars] at plain
  exact plain rfl

theorem failureKeepsSettings :
    (run alone removeGhost haunted).1.result = .error (.unknown "ghost") ∧
    Keeper.Spurned alone.ask (orders alone removeGhost haunted) ∧
    ¬ Temporary haunted.process ["c.json"] ∧
    (run alone removeGhost haunted).2.tree.file? ["c.json"] = haunted.tree.file? ["c.json"] := by
  have fails : (run alone removeGhost haunted).1.result = .error (.unknown "ghost") := by decide +kernel
  have unasked : orders alone removeGhost haunted = [] := by decide +kernel
  have spurned : Keeper.Spurned alone.ask (orders alone removeGhost haunted) := by
    rw [unasked]
    exact fun order member => by cases member
  have lasting : ¬ Temporary haunted.process ["c.json"] := undotted rfl (by decide)
  refine ⟨fails,spurned,lasting,?_⟩
  rcases failingRunLeaves fails spurned lasting with same | ⟨id,settings,-,-,here,-⟩
  · exact same
  · have directory : removeGhost.globals.vaultPath alone.env settings = ⟨"/t"⟩ := rfl
    have goal : (Disk.Path.mk "/t").goal haunted.tree.working = ["t"] := by decide +kernel
    rw [directory,goal] at here
    exact absurd (List.cons.inj here).1 (by decide)

/-! Where the exceptions are met. -/

theorem saveCrowded {dir : Disk.Path} {name : String} (proper : Disk.Path.IsName name)
    (long : Disk.Tree.longestName < name.utf8ByteSize + 9) (settings : Settings) (d : Disk) :
    (settings.save d (dir.join ⟨name⟩)).1 ≠ .ok () := by
  have saves := settings.saves d (dir.join ⟨name⟩)
  generalize settings.save d (dir.join ⟨name⟩) = result at saves ⊢
  cases saves with
  | unplaced grown => nofun
  | unsaved grown failed => nofun
  | @saved d' d'' grown replaced =>
    obtain ⟨place,goal,rewrites⟩ := Disk.replaceRewrites replaced
    have temporary := Disk.temporaryNamed proper.whole d'.process d'.temporaries
    have there := rewrites.temporary
    rw [Disk.temporaryPathJoin proper] at there
    have last : Disk.temporaryName name d'.process d'.temporaries ∈
        ((Disk.Path.ofParts dir.isAbsolute dir.parts).join
          ⟨Disk.temporaryName name d'.process d'.temporaries⟩).parts := by
      rw [Disk.Path.partsJoin _ temporary.toIsPart]
      simp
    have bound := Disk.Tree.resolveBound there last temporary.down
    have room := Disk.temporaryRoom name d'.process d'.temporaries
    omega

theorem saveStuck (settings : Settings) (lines : List String)
    (unsaved : (settings.save w.disk w.settingsFile).1 ≠ .ok ()) :
    ∃ fault, (saveSettings w settings lines).1.result = .error (.saving w.settingsFile fault) := by
  unfold saveSettings
  cases save : settings.save w.disk w.settingsFile with
  | mk result d =>
    rw [save] at unsaved
    cases result with
    | error fault => exact ⟨fault,rfl⟩
    | ok done => exact absurd rfl unsaved

theorem removeUnsaved {id : String} {place : Place} {octets : Text.Octets}
    (usable : Enrollment.isUsableId id = true) (calm : w.disk.mishaps = [])
    (there : w.disk.tree.resolve (w.keeper.vault.directory.join ⟨Folder.recordName id⟩) = .ok place)
    (file : w.disk.tree.file? place = some octets) (lasting : ¬ Temporary w.disk.process place)
    (configured : (w.settings.remove id).1 = true)
    (unsaved : ∀ settings d, (Settings.save settings d w.settingsFile).1 ≠ .ok ()) :
    (∃ fault, (removeAccount w id).1.result = .error (.saving w.settingsFile fault)) ∧
      (removeAccount w id).2.tree.file? place = none := by
  have named := Folder.recordNamed usable
  have erased := Folder.eraseDisk w.keeper.vault id usable
  let next : Workspace := { w with keeper := (w.keeper.delete id).2 }
  have gone : next.disk.tree.file? place = none := by
    change (w.keeper.vault.erase id).2.disk.tree.file? place = none
    rw [erased]
    exact Disk.removesFile calm (Disk.Path.asksJoin _ named.toIsPart) there file
  have process : next.disk.process = w.disk.process := (Folder.eraseLeaves w.keeper.vault id).1
  have removed : removeAccount w id =
      saveSettings next (w.settings.remove id).2 ["Removed account " ++ id] := by
    unfold removeAccount
    simp only [configured,if_true]
    rfl
  obtain ⟨fault,fails⟩ := saveStuck (w.settings.remove id).2 ["Removed account " ++ id]
    (unsaved (w.settings.remove id).2 next.disk)
  rw [removed]
  refine ⟨⟨fault,fails⟩,?_⟩
  rw [(saveFails fails).tree.file place (by rwa [process]),gone]

theorem opensThere {globals : Globals} {disk d : Disk} {settings : Settings}
    (load : Settings.load disk (globals.settingsPath s.env) = (.ok settings,d))
    (there : (Folder.establish d (globals.vaultPath s.env settings)
      (globals.key.map Cipher.Key.ofPassphrase) s.nonces).1.isOk = true) :
    (openWorkspace s globals disk).1.isOk = true := by
  unfold openWorkspace
  simp only [load,Outcome.mapFault,Outcome.andThen]
  generalize Folder.establish d _ _ _ = made at there ⊢
  obtain ⟨result,d'⟩ := made
  cases result with
  | error fault => cases there
  | ok folder => rfl

theorem runErases {line : Line} {disk d : Disk} {settings : Settings} {id : String} {place : Place}
    {octets : Text.Octets} (removes : line.command = .remove id)
    (load : Settings.load disk (line.globals.settingsPath s.env) = (.ok settings,d))
    (established : (Folder.establish d (line.globals.vaultPath s.env settings)
      (line.globals.key.map Cipher.Key.ofPassphrase) s.nonces).1.isOk = true)
    (calm : disk.mishaps = []) (usable : Enrollment.isUsableId id = true)
    (there : disk.tree.resolve ((line.globals.vaultPath s.env settings).join ⟨Folder.recordName id⟩) =
      .ok place)
    (file : disk.tree.file? place = some octets) (lasting : ¬ Temporary disk.process place)
    (configured : (settings.remove id).1 = true)
    (unsaved : ∀ settings d, (Settings.save settings d (line.globals.settingsPath s.env)).1 ≠ .ok ()) :
    (∃ fault, (run s line disk).1.result = .error (.saving (line.globals.settingsPath s.env) fault)) ∧
      (run s line disk).2.tree.file? place = none := by
  have opened := opens s line.globals disk
  have ready := opensThere load established
  have before := Settings.loadGrown disk (line.globals.settingsPath s.env)
  rw [load] at before
  unfold run
  rw [if_neg (by rw [removes]; nofun),removes]
  generalize openWorkspace s line.globals disk = result at opened ready ⊢
  cases opened with
  | unread unread => cases ready
  | barred load grown => cases ready
  | @opened settings' d1 d' loaded more =>
    cases load.symm.trans loaded
    have grown := before.trans more
    let folder : Folder := ⟨d',line.globals.vaultPath s.env settings,
      line.globals.key.map Cipher.Key.ofPassphrase,s.nonces,0⟩
    have vault : (assemble line.globals settings folder).vault = folder :=
      assembledVault (grown.calm calm) line.globals settings
    let w : Workspace := ⟨line.globals.settingsPath s.env,settings,assemble line.globals settings folder⟩
    have disk : w.disk = d' := congrArg Folder.disk vault
    have still : w.disk.tree.file? place = some octets := by
      rw [disk,grown.tree.file place,file]
    refine removeUnsaved (w := w) usable ?_ ?_ still ?_ configured unsaved
    · rw [disk]
      exact grown.calm calm
    · rw [disk,show w.keeper.vault.directory = folder.directory from congrArg Folder.directory vault]
      exact grown.tree.resolve there
    · rwa [disk,grown.process]

def knowingA : Text.Octets := Text.encode "\x7b\"accounts\":[[\"a\",\"google\",\"c\"]]\x7d"

def longName : String := .ofList (List.replicate 250 'c')

def crowdedFile : Disk.Path := ⟨"/d/" ++ longName⟩

def removeKnown : Line := ⟨⟨some crowdedFile,some ⟨"/t"⟩,none,none,false⟩,.remove "a"⟩

def crowdedTree : Disk.Tree :=
  (((Disk.Tree.empty.put ["t"] (.directory 0o700)).put ["t","a.json"] (.file 0o600 [])).put
    ["d"] (.directory 0o755)).put ["d",longName] (.file 0o644 knowingA)

def crowded : Disk := .ofTree crowdedTree 7

theorem longChars : longName.toList = List.replicate 250 'c' := String.toList_ofList

theorem longEntry : Disk.Path.IsEntry longName := by
  have only : ∀ c ∈ longName.toList, c = 'c' := by
    rw [longChars]
    exact fun c => List.eq_of_mem_replicate
  have last : longName.toList.getLast? = some 'c' := by
    rw [longChars,List.getLast?_replicate,if_neg (by decide)]
  refine ⟨Disk.Path.nameOfLast (Disk.Path.wholeName ?_) last (by decide),?_,?_⟩
  · exact fun slash => absurd (only _ slash) (by decide)
  · exact fun zero => absurd (only _ zero) (by decide)
  · decide +kernel

theorem crowdedJoin : (Disk.Path.mk "/d").join ⟨longName⟩ = crowdedFile := by
  have relative : (Disk.Path.mk longName).isAbsolute = false := by
    simp only [Disk.Path.isAbsolute,longChars]
    rfl
  have filled : ("/d" : String).isEmpty = false := by decide
  have unended : ("/d" : String).toList.getLast? ≠ some '/' := by decide
  have front : "/d/" = "/d" ++ "/" := by decide
  unfold Disk.Path.join crowdedFile
  rw [relative,filled,if_neg (by simp),if_neg unended,front]

def knownSettings : Settings := { Settings.default with accounts := [⟨"a",.google,"c","","",""⟩] }

theorem crowdedFound : crowdedTree.find crowdedFile = .ok (["d",longName],.file 0o644 knowingA) := by
  have houses : crowdedTree.Houses ⟨"/d"⟩ ["d"] := ⟨by rfl,0o755,by rfl⟩
  have there := houses.join longEntry (by rw [crowdedJoin]; decide +kernel)
  rw [crowdedJoin] at there
  refine Disk.Tree.findFile (by rw [← crowdedJoin,Disk.Path.asksJoin _ longEntry.toIsPart]) there ?_
  exact (Disk.Tree.nodePut (by simp) _ _ _).trans (if_pos rfl)

theorem crowdedErased :
    (∃ fault, (run alone removeKnown crowded).1.result = .error (.saving crowdedFile fault)) ∧
    (run alone removeKnown crowded).2.tree.file? ["t","a.json"] = none := by
  have path : removeKnown.globals.settingsPath alone.env = crowdedFile := by
    simp only [Globals.settingsPath,removeKnown,Option.getD_some]
  have directory : removeKnown.globals.vaultPath alone.env knownSettings = ⟨"/t"⟩ := by
    simp [Globals.vaultPath,removeKnown]
  have contents : Settings.ofContents crowdedFile knowingA = .ok knownSettings := by decide +kernel
  have load : Settings.load crowded (removeKnown.globals.settingsPath alone.env) = (.ok knownSettings,crowded) := by
    have read := Disk.Tree.readsHere crowdedFound
    rw [path,Settings.loadFound (d := crowded) rfl crowdedFound read,contents]
  have established : (Folder.establish crowded ⟨"/t"⟩ none alone.nonces).1.isOk = true := by
    decide +kernel
  have resolves : crowded.tree.resolve ((Disk.Path.mk "/t").join ⟨Folder.recordName "a"⟩) =
      .ok ["t","a.json"] := by decide +kernel
  have file : crowded.tree.file? ["t","a.json"] = some [] := by decide +kernel
  have erases := runErases (show removeKnown.command = .remove "a" from rfl) load
    (by rw [directory]; exact established) rfl (by decide) (by rw [directory]; exact resolves) file
    (undotted rfl (by decide)) (by decide)
    (by rw [path,← crowdedJoin]; exact saveCrowded longEntry.toIsName (by decide +kernel))
  rwa [path] at erases

def storeOver : Line :=
  ⟨⟨some ⟨"/t/.a.json.7.0.tmp"⟩,some ⟨"/t"⟩,none,none,false⟩,.store "a" "A" "R" 60⟩

def overlaid : Disk :=
  .ofTree ((Disk.Tree.empty.put ["t"] (.directory 0o700)).put ["t",".a.json.7.0.tmp"]
    (.file 0o644 knowingA)) 7

/-- The record is gone although the removal fails: the account is unknown, or the settings without
it cannot be saved. And a record that cannot be written takes along what was in the way of its
temporary file. -/
theorem recordErased :
    ((run alone removeGhost haunted).1.result = .error (.unknown "ghost") ∧
      orders alone removeGhost haunted = [] ∧
      haunted.tree.file? ["t","ghost.json"] = some [] ∧
      (run alone removeGhost haunted).2.tree.file? ["t","ghost.json"] = none) ∧
    ((∃ fault, (run alone removeKnown crowded).1.result = .error (.saving crowdedFile fault)) ∧
      orders alone removeKnown crowded = [] ∧
      crowded.tree.file? ["t","a.json"] = some [] ∧
      (run alone removeKnown crowded).2.tree.file? ["t","a.json"] = none) ∧
    (run alone storeOver overlaid).1.result = .error (.storing "a" (.disk .alreadyExists)) ∧
      orders alone storeOver overlaid = [] ∧
      overlaid.tree.file? ["t",".a.json.7.0.tmp"] = some knowingA ∧
      (run alone storeOver overlaid).2.tree.file? ["t",".a.json.7.0.tmp"] = none := by
  have unasked : orders alone removeKnown crowded = [] := by
    unfold orders
    split
    · rfl
    · split <;> rfl
  refine ⟨⟨?_,?_,?_,?_⟩,⟨crowdedErased.1,unasked,?_,crowdedErased.2⟩,?_,?_,?_,?_⟩ <;> decide +kernel

end GrantKeeper.Command

import GrantKeeper.Proofs.Command.Failing
import GrantKeeper.Proofs.Command.Keeping

/-! A workspace that was opened over the settings and records of a ledger has the ledger's accounts,
and every command that no fault of the disk stops does to both what it does to the ledger. -/
namespace GrantKeeper
open Disk (Place Tree)
open Vault (Folder)

namespace Command

def Failure.fault? : Failure → Option Fault
  | .loading _ fault | .opening _ fault | .saving _ fault | .storing _ fault | .refreshing _ fault =>
    some fault
  | _ => none

def Failure.OfDisk (failure : Failure) : Prop := ∃ fault, failure.fault? = some (.disk fault)

def Report.Calm (report : Report) : Prop :=
  ∀ failure, report.result = .error failure → ¬ failure.OfDisk

theorem calmDone {report : Report} (went : report.result = .ok ()) : report.Calm := by
  intro failure fails
  rw [went] at fails
  cases fails

theorem calmFailed {report : Report} {failure : Failure} (failed : report.result = .error failure)
    (other : failure.fault? = none) : report.Calm := by
  intro failure' fails
  rw [failed] at fails
  cases fails
  rintro ⟨fault,same⟩
  rw [other] at same
  cases same

def Answers (l : Ledger) : Command → Report → Prop
  | .add e, report => report.result = .ok () ↔ e.defects = []
  | .remove id, report | .store id .., report => report.result = .ok () ↔ id ∈ l
  | .refresh id, report => id ∉ l → report.result = .error (.unlisted id)
  | .list, report => l.keys.Pairwise (· < ·) ∧ report = done l.listing
  | _, _ => True

end Command

theorem Enrollment.usableOfSound {e : Enrollment} (sound : e.defects.isEmpty = true) :
    Enrollment.isUsableId e.id = true := by
  unfold defects at sound
  unfold isUsableId
  cases found : idDefect? e.id with
  | none => rfl
  | some defect => simp [found] at sound

namespace Site
open Command
variable {site : Site} {t : Tree} {l : Ledger} {es : List Enrollment} {w : Workspace} {d : Disk}

structure Serves (site : Site) (l : Ledger) (w : Workspace) : Prop where
  file : w.settingsFile = site.settingsFile
  settings : site.settingsIn w.disk.tree = .ok w.settings
  opened : site.Opened w.keeper.vault
  keeps : site.Keeps w.disk.tree l
  accounts : ∀ id, w.keeper.account? id = l[id]?.map Entry.account

theorem Serves.knows (serves : site.Serves l w) (id : String) : w.keeper.knows id = true ↔ id ∈ l := by
  have account := congrArg Option.isSome (serves.accounts id)
  unfold Keeper.account? at account
  rw [Option.isSome_map,Option.isSome_map] at account
  unfold Keeper.knows
  rw [account,Std.ExtTreeMap.mem_iff_isSome_getElem?]

theorem Serves.lists (serves : site.Serves l w) : ∃ es, l.Lists es ∧ w.settings = settingsOf es ∧
    site.KeepsSettings w.disk.tree es := by
  obtain ⟨es,lists,settings⟩ := serves.keeps.settings
  exact ⟨es,lists,Except.ok.inj (serves.settings.symm.trans settings.content),settings⟩

section
variable {f : Folder}

theorem assembledAccount (opened : site.Opened f) (lists : l.Lists es)
    (records : site.KeepsRecords f.disk.tree l.grant?) (usable : ∀ id ∈ l, Enrollment.isUsableId id = true)
    (globals : Globals) (id : String) :
    (assemble globals (settingsOf es) f).account? id = l[id]?.map Entry.account := by
  have taken : (assemble globals (settingsOf es) f).account? id =
      ((settingsOf es).apply (Keeper.new f Exchange.Refresher.standard)).2.account? id := by
    unfold Keeper.account?
    rw [(assembleParts globals (settingsOf es) f).2]
  by_cases fit : Enrollment.isUsableId id = true
  · have grant : (Vault.load f id).1.toOption.getD none = l.grant? id := grantLoaded opened records fit
    have found : (settingsOf es).accounts.reverse.find? (·.id == id) = l[id]?.map (·.enrollment) :=
      (Ledger.findOnce lists.once id).trans (lists.same id)
    rw [taken,Settings.applyAccount (Folder.loadCalm opened.calm) _ _ id fit,found,grant,Ledger.grant?]
    cases l[id]? <;> rfl
  · have absent : l[id]? = none := by
      rw [← Option.not_isSome_iff_eq_none,← Std.ExtTreeMap.mem_iff_isSome_getElem?]
      exact fun member => fit (usable id member)
    have enrollment := (settingsOf es).applyEnrollment f Exchange.Refresher.standard id
    rw [if_neg fit,Keeper.enrollment?] at enrollment
    rw [taken,absent]
    simpa using enrollment

end

theorem opensServing {s : Surroundings} {globals : Globals} (process : Nat) (keeps : site.Keeps t l)
    (file : globals.settingsPath s.env = site.settingsFile)
    (directory : globals.vaultPath s.env .default = site.directory) (key : globals.key = site.key) :
    (∃ w d, openWorkspace s globals (.ofTree t process) = (.ok w,d) ∧ site.Serves l w) ∨
    ∃ failure d, openWorkspace s globals (.ofTree t process) = (.error failure,d) ∧ failure.OfDisk := by
  obtain ⟨es,lists,settings⟩ := keeps.settings
  have opens := opens s globals (.ofTree t process)
  have loaded := loadKept (d := .ofTree t process) settings rfl
  have grown := Settings.loadGrown (.ofTree t process) site.settingsFile
  rw [← file] at loaded grown
  generalize openWorkspace s globals (.ofTree t process) = result at opens ⊢
  cases opens with
  | unread load =>
    rw [load] at loaded
    rcases loaded with loaded | ⟨fault,loaded⟩ <;> cases loaded
    exact .inr ⟨_,_,rfl,fault,rfl⟩
  | barred load more => exact .inr ⟨_,_,rfl,_,rfl⟩
  | @opened settings' d d' load more there =>
    rw [load] at loaded grown
    rcases loaded with loaded | ⟨fault,loaded⟩ <;> cases loaded
    have grown := grown.trans more
    -- no settings of a ledger name a directory, so the line and the environment decide on it
    have vault : globals.vaultPath s.env (settingsOf es) = site.directory := directory
    have keeps := keeps.grown grown.tree
    have opened : site.Opened ⟨d',globals.vaultPath s.env (settingsOf es),
        globals.key.map Cipher.Key.ofPassphrase,s.nonces,0⟩ := by
      rw [vault] at there ⊢
      obtain ⟨home,resolved,held⟩ := Tree.hasDirectory there
      exact ⟨rfl,by rw [key]; rfl,grown.calm rfl,home,resolved,held⟩
    have same := assembledVault opened.calm globals (settingsOf es)
    refine .inl ⟨_,_,rfl,file,?_,?_,?_,?_⟩
    · unfold Workspace.disk
      rw [same]
      exact (settings.carried (grown.tree.carries fun _ => False) id).content
    · rwa [same]
    · unfold Workspace.disk
      rwa [same]
    · exact assembledAccount opened lists keeps.records keeps.usable globals

theorem saveServes {lines : List String} (calm : (saveSettings w (settingsOf es) lines).1.Calm)
    (file : w.settingsFile = site.settingsFile) (tidy : (settingsOf es).Tidy) (lists : l.Lists es)
    (records : site.KeepsRecords w.disk.tree l.grant?) (usable : ∀ id ∈ l, Enrollment.isUsableId id = true)
    (apart : site.Apart w.disk.tree) : (saveSettings w (settingsOf es) lines).1.result = .ok () ∧
      site.Keeps (saveSettings w (settingsOf es) lines).2.tree l := by
  have saves := (settingsOf es).saves w.disk w.settingsFile
  unfold saveSettings at calm ⊢
  rw [file] at saves calm ⊢
  generalize (settingsOf es).save w.disk site.settingsFile = result at saves calm ⊢
  cases saves with
  | unplaced grown => exact absurd ⟨_,rfl⟩ (calm _ rfl)
  | unsaved grown failed => exact absurd ⟨_,rfl⟩ (calm _ rfl)
  | @saved d' d'' grown replaced =>
    obtain ⟨place,goal,rewrites⟩ := Disk.replaceRewrites replaced
    have apart := apart.still grown.tree.working
    have carries := rewrites.touches.1.carries
    have here : goal = site.settingsPlace d'.tree := Tree.resolveGoal rewrites.target
    have others : ∀ id, Enrollment.isUsableId id = true → site.recordPlace d'.tree id ≠ goal := by
      rw [here]
      exact apart
    have before := records.carried (grown.tree.carries fun _ => False) fun _ _ => id
    exact ⟨rfl,⟨es,lists,.written tidy rewrites⟩,before.carried carries others,usable,
      apart.still carries.working⟩

theorem addServes {now : Time.Instant} {e : Enrollment} (serves : site.Serves l w) (normal : e.provider.Normal)
    (calm : (addAccount w e).1.Calm) :
    site.Keeps (addAccount w e).2.tree (l.after now (.add e)) ∧ Answers l (.add e) (addAccount w e).1 := by
  obtain ⟨es,lists,settings,kept⟩ := serves.lists
  unfold addAccount at calm ⊢
  by_cases sound : e.defects.isEmpty = true
  · have entered : l.after now (.add e) = l.insert e.id ⟨e,l.grant? e.id⟩ := if_pos sound
    have usable := Enrollment.usableOfSound sound
    have vault := Keeper.registerSteady (Folder.loadCalm serves.opened.calm) e
    have registered := w.keeper.registers e
    rw [if_pos sound] at calm ⊢
    rw [entered]
    generalize w.keeper.register e = result at calm vault registered ⊢
    cases registered with
    | refused unusable =>
      rw [usable] at unusable
      cases unusable
    | @enrolled loaded vault' fit load =>
      cases vault
      have tidy : (settingsOf (Settings.enter e es)).Tidy := Settings.tidyUpsert (tidyIn kept) normal
      have upserted : w.settings.upsert e = settingsOf (Settings.enter e es) := by
        rw [settings]
        rfl
      rw [upserted] at calm ⊢
      have records := serves.keeps.records
      rw [← l.grantEnter e] at records
      obtain ⟨succeeds,keeps⟩ := saveServes calm serves.file tidy (lists.enter e _) records
        (Ledger.usableEnter serves.keeps.usable usable _) serves.keeps.apart
      exact ⟨keeps,iff_of_true succeeds (List.isEmpty_iff.mp sound)⟩
  · have same : l.after now (.add e) = l := if_neg sound
    rw [if_neg sound,same]
    exact ⟨serves.keeps,iff_of_false nofun fun none => sound (List.isEmpty_iff.mpr none)⟩

theorem configuredIff (lists : l.Lists es) (id : String) :
    ((settingsOf es).remove id).1 = true ↔ id ∈ l := by
  have found := congrArg Option.isSome (lists.same id)
  rw [Option.isSome_map] at found
  rw [Settings.removeConfigured,Std.ExtTreeMap.mem_iff_isSome_getElem?,← found,List.find?_isSome]
  simp [settingsOf]

theorem removeServes {now : Time.Instant} {id : String} (serves : site.Serves l w)
    (calm : (removeAccount w id).1.Calm) :
    site.Keeps (removeAccount w id).2.tree (l.after now (.remove id)) ∧
      Answers l (.remove id) (removeAccount w id).1 := by
  obtain ⟨es,lists,settings,kept⟩ := serves.lists
  have tidy := tidyIn kept
  have keeps := serves.keeps
  -- the record goes first, whether or not the account is known
  have carries := eraseCarries serves.opened id
  have records := eraseKept serves.opened keeps.records id
  have usable : ∀ other ∈ l.erase id, Enrollment.isUsableId other = true := fun other member =>
    keeps.usable other (Std.ExtTreeMap.mem_of_mem_erase member)
  have apart := keeps.apart.still carries.working
  have configured := configuredIff lists id
  have registered : (w.keeper.delete id).1 = true ↔ id ∈ l := serves.knows id
  change site.Keeps _ (l.erase id) ∧ _
  rw [← Ledger.grantRemove] at records
  unfold removeAccount at calm ⊢
  rw [settings] at calm ⊢
  dsimp only at calm ⊢
  by_cases known : id ∈ l
  · rw [if_pos (configured.mpr known)] at calm ⊢
    have fewer : (settingsOf (es.filter (·.id != id))).Tidy := Settings.tidyRemove tidy id
    obtain ⟨succeeds,keeps⟩ := saveServes calm serves.file fewer (lists.remove id) records usable apart
    exact ⟨keeps,iff_of_true succeeds known⟩
  · rw [if_neg (fun taken => known (configured.mp taken)),if_neg (fun taken => known (registered.mp taken))]
    refine ⟨?_,iff_of_false nofun known⟩
    rw [Ledger.removeUnknown known] at records ⊢
    exact ⟨⟨es,lists,kept.carried carries (notOfRecord keeps.apart id)⟩,records,keeps.usable,apart⟩

theorem Serves.scope (serves : site.Serves l w) {id : String} {slot : Slot}
    (found : w.keeper.roster.slot? id = some slot) : slot.account.grant.scope = "" := by
  have account := serves.accounts id
  unfold Keeper.account? at account
  rw [found] at account
  cases entry : l[id]? with
  | none =>
    rw [entry] at account
    cases account
  | some entry' =>
    rw [entry] at account
    rw [show slot.account = entry'.account from Option.some.inj account,Entry.account]
    cases held : entry'.grant with
    | none => rfl
    | some g => exact (serves.keeps.records.held id g (by rw [Ledger.grant?,entry]; exact held)).1

theorem storeServes {now : Time.Instant} {id access refresh : String} {lifetime : Int}
    (serves : site.Serves l w) (calm : (storeTokens w now id access refresh lifetime).1.Calm) :
    site.Keeps (storeTokens w now id access refresh lifetime).2.tree
        (l.after now (.store id access refresh lifetime)) ∧
      Answers l (.store id access refresh lifetime) (storeTokens w now id access refresh lifetime).1 := by
  obtain ⟨es,lists,settings,kept⟩ := serves.lists
  have keeps := serves.keeps
  have stored := w.keeper.stores now id access refresh lifetime
  unfold storeTokens at calm ⊢
  cases entry : l[id]? with
  | none =>
    have unknown : id ∉ l := by
      rw [Std.ExtTreeMap.mem_iff_isSome_getElem?,entry]
      nofun
    have same : l.after now (.store id access refresh lifetime) = l := by
      simp only [Ledger.after,entry]
    rw [if_neg fun known => unknown ((serves.knows id).mp known),same]
    exact ⟨keeps,iff_of_false nofun unknown⟩
  | some entry' =>
    have known : id ∈ l := by
      rw [Std.ExtTreeMap.mem_iff_isSome_getElem?,entry]
      rfl
    have after : l.after now (.store id access refresh lifetime) =
        l.insert id { entry' with grant := some (.issued now access refresh lifetime) } := by
      simp only [Ledger.after,entry]
    rw [if_pos ((serves.knows id).mpr known)] at calm ⊢
    rw [after]
    generalize w.keeper.storeTokens now id access refresh lifetime = result at stored calm ⊢
    cases stored with
    | unknown absent =>
      have there := (serves.knows id).mpr known
      rw [Keeper.knows,absent] at there
      cases there
    | @unsaved slot fault vault found save =>
      have written := w.keeper.vault.writes id
        { Grant.issued now access refresh lifetime with scope := slot.account.grant.scope }
      rw [show w.keeper.vault.save id _ = _ from save] at written
      cases written with
      | unusable barred => exact absurd (keeps.usable id known) barred
      | failed usable replaced => exact absurd ⟨_,rfl⟩ (calm _ rfl)
    | @saved slot vault found save =>
      rw [serves.scope found] at save
      have issued := Grant.issuedWhole now access refresh lifetime
      obtain ⟨carries,records⟩ := saveKept serves.opened.directory serves.opened.key keeps.records issued
        rfl save
      rw [← Ledger.grantStore l id entry'] at records
      exact ⟨⟨⟨es,lists.store entry _,kept.carried carries (notOfRecord keeps.apart id)⟩,records,
        Ledger.usableEnter keeps.usable (keeps.usable id known) _,keeps.apart.still carries.working⟩,
        iff_of_true rfl known⟩

theorem listServes (serves : site.Serves l w) : listAccounts w.keeper = l.listing := by
  have same : w.keeper.roster.slots.map (fun _ slot => slot.account) = l.map fun _ entry => entry.account := by
    apply Std.ExtTreeMap.ext_getElem?
    intro id
    have account := serves.accounts id
    simpa [Keeper.account?,Roster.slot?] using account
  have ids : w.keeper.ids = l.keys := by
    have keys := congrArg Std.ExtTreeMap.keys same
    rwa [Std.ExtTreeMap.keys_map,Std.ExtTreeMap.keys_map] at keys
  unfold listAccounts Ledger.listing
  rw [ids]
  congr 1
  funext id
  rw [serves.accounts id,Option.map_map]
  rfl

end Site

end GrantKeeper

import GrantKeeper.Command.Line
import GrantKeeper.Exchange.Refresher
import GrantKeeper.Keeper.Solo
import GrantKeeper.Settings
import GrantKeeper.Vault.Folder

/-! What each command does to the disk and prints. Every run opens the settings
and the vault anew. -/
namespace GrantKeeper.Command
open Exchange (Refresher)
open Time (Instant)
open Vault (Folder)

structure Surroundings where
  env : Environment
  now : Instant
  nonces : Nat → Cipher.Nonce
  freshKey : Cipher.Key
  ask : Keeper.Ask Refresher

inductive Failure
  | loading (p : Disk.Path) (fault : Fault)
  | opening (p : Disk.Path) (fault : Fault)
  | saving (p : Disk.Path) (fault : Fault)
  | storing (id : String) (fault : Fault)
  | refreshing (id : String) (fault : Fault)
  | badEnrollment (defects : List Enrollment.Defect)
  | notRegistered (id : String)
  | unknown (id : String)
  | unlisted (id : String)
  | noToken (id : String)
  | someFailed (failed total : Nat)
  deriving DecidableEq, Repr

def Failure.message : Failure → String
  | .loading p fault => "failed to load " ++ p.text ++ ": " ++ fault.message
  | .opening p fault => "failed to open token directory " ++ p.text ++ ": " ++ fault.message
  | .saving p fault => "failed to save " ++ p.text ++ ": " ++ fault.message
  | .storing id fault => "failed to store tokens for '" ++ id ++ "': " ++ fault.message
  | .refreshing id fault => "failed to refresh '" ++ id ++ "': " ++ fault.message
  | .badEnrollment defects =>
    "invalid account: " ++
      String.intercalate "; " (defects.map fun d => d.field ++ ": " ++ d.message)
  | .notRegistered id => "account '" ++ id ++ "' could not be registered"
  | .unknown id => "unknown account '" ++ id ++ "'"
  | .unlisted id => "unknown account '" ++ id ++ "' (see `mailsend list`)"
  | .noToken id => "no usable access token for '" ++ id ++ "'"
  | .someFailed failed total =>
    Text.ofNat failed ++ " of " ++ Text.ofNat total ++ " refreshes failed"

structure Report where
  lines : List String
  result : Except Failure Unit
  deriving Repr

def Report.output (r : Report) : String := String.join (r.lines.map (· ++ "\n"))

def done (lines : List String) : Report := ⟨lines,.ok ()⟩

def failed (failure : Failure) : Report := ⟨[],.error failure⟩

abbrev FolderKeeper := Keeper Folder Refresher

structure Workspace where
  settingsFile : Disk.Path
  settings : Settings
  keeper : FolderKeeper

def Workspace.disk (w : Workspace) : Disk := w.keeper.vault.disk

def assemble (globals : Globals) (settings : Settings) (folder : Folder) : FolderKeeper :=
  let k := (settings.apply (Keeper.new folder Refresher.standard)).2
  let k := match globals.bufferMinutes with
    | some minutes => k.setBuffer minutes
    | none => k
  if globals.noAutoRefresh then k.setAutoRefresh false else k

def Globals.settingsPath (globals : Globals) (env : Environment) : Disk.Path :=
  globals.settingsFile.getD (Places.settingsFile env)

def Globals.vaultPath (globals : Globals) (env : Environment) (settings : Settings) : Disk.Path :=
  (globals.vaultDirectory.orElse fun _ => settings.vaultDirectory.map Disk.Path.mk).getD
    (Places.vaultDirectory env)

def openWorkspace (s : Surroundings) (globals : Globals) (disk : Disk) :
    Outcome Failure Workspace Disk :=
  let settingsFile := globals.settingsPath s.env
  ((Settings.load disk settingsFile).mapFault (Failure.loading settingsFile)).andThen
    fun settings disk =>
  let directory := globals.vaultPath s.env settings
  ((Folder.establish disk directory (globals.key.map Cipher.Key.ofPassphrase) s.nonces).mapFault
    (Failure.opening directory)).andThen fun folder disk =>
  (.ok ⟨settingsFile,settings,assemble globals settings folder⟩,disk)

def saveSettings (w : Workspace) (settings : Settings) (lines : List String) : Report × Disk :=
  match settings.save w.disk w.settingsFile with
  | (.ok (),disk) => (done lines,disk)
  | (.error fault,disk) => (failed (.saving w.settingsFile fault),disk)

def addAccount (w : Workspace) (e : Enrollment) : Report × Disk :=
  if e.defects.isEmpty then
    match w.keeper.register e with
    | (false,k) => (failed (.notRegistered e.id),k.vault.disk)
    | (true,k) => saveSettings { w with keeper := k } (w.settings.upsert e) ["Added account " ++ e.id]
  else (failed (.badEnrollment e.defects),w.disk)

def removeAccount (w : Workspace) (id : String) : Report × Disk :=
  let (configured,settings) := w.settings.remove id
  let (registered,k) := w.keeper.delete id
  let lines := ["Removed account " ++ id]
  if configured then saveSettings { w with keeper := k } settings lines
  else if registered then (done lines,k.vault.disk)
  else (failed (.unknown id),k.vault.disk)

def listAccounts (k : FolderKeeper) : List String :=
  k.ids.filterMap fun id => (k.account? id).map fun a =>
    id ++ "\t" ++ a.enrollment.provider.name ++ "\t" ++ a.enrollment.email

def lifetimeText (seconds : Int) : String :=
  let n := seconds.toNat
  let h := n / 3600
  let m := n % 3600 / 60
  let s := n % 60
  if 0 < h then Text.ofNat h ++ "h " ++ Text.padded 2 m ++ "m"
  else if 0 < m then Text.ofNat m ++ "m " ++ Text.padded 2 s ++ "s"
  else Text.ofNat s ++ "s"

inductive Standing
  | noToken
  | expired
  | expiring
  | valid
  deriving DecidableEq, Repr

def standing (k : FolderKeeper) (now : Instant) (id : String) (g : Grant) : Standing :=
  if !g.valid then .noToken
  else if k.isExpired now id 0 then .expired
  else if k.isExpired now id k.bufferMinutes then .expiring
  else .valid

def standingText (lifetime : Int) : Standing → String
  | .noToken => "no token"
  | .expired => "expired"
  | .expiring => "expiring, " ++ lifetimeText lifetime ++ " left"
  | .valid => "valid, " ++ lifetimeText lifetime ++ " left"

def statusLine? (k : FolderKeeper) (now : Instant) (id : String) : Option String :=
  (k.account? id).map fun a =>
    id ++ "\t" ++ a.enrollment.provider.name ++ "\t" ++
      standingText (a.grant.lifetime now) (standing k now id a.grant) ++ "\t" ++
      (if a.grant.isRefreshable then "refreshable" else "no refresh token")

def showStatus (k : FolderKeeper) (now : Instant) (id : Option String) : Report :=
  match id with
  | none => done (k.ids.filterMap (statusLine? k now))
  | some id => if k.knows id then done (statusLine? k now id).toList else failed (.unlisted id)

def storeTokens (w : Workspace) (now : Instant) (id access refresh : String) (lifetime : Int) :
    Report × Disk :=
  if w.keeper.knows id then
    match w.keeper.storeTokens now id access refresh lifetime with
    | (.ok (),k) => (done ["Stored tokens for " ++ id],k.vault.disk)
    | (.error fault,k) => (failed (.storing id fault),k.vault.disk)
  else (failed (.unlisted id),w.disk)

def printToken (s : Surroundings) (k : FolderKeeper) (id : String) : Report × Disk :=
  match k.tokenSolo s.ask s.now id with
  | (some access,k) => (done [access],k.vault.disk)
  | (none,k) => (failed (.noToken id),k.vault.disk)

def refreshAccount (s : Surroundings) (k : FolderKeeper) (id : String) : Report × Disk :=
  if k.knows id then
    match k.refreshSolo s.ask s.now id none with
    | (.ok (),k) =>
      (done ["Refreshed " ++ id ++ ", " ++ lifetimeText (k.lifetime s.now id) ++ " left"],k.vault.disk)
    | (.error fault,k) => (failed (.refreshing id fault),k.vault.disk)
  else (failed (.unlisted id),k.vault.disk)

def sweepLine (outcome : String × Except Fault Unit) : String :=
  match outcome.2 with
  | .ok () => outcome.1 ++ "\trefreshed"
  | .error fault =>
    outcome.1 ++ "\tfailed: " ++ fault.report ++
      (if fault.isFinal then " (re-authorization required)" else "")

def refreshStale (s : Surroundings) (k : FolderKeeper) : Report × Disk :=
  let (outcomes,k) := k.sweepSolo s.ask s.now
  let lost := (outcomes.filter fun outcome => !outcome.2.isOk).length
  if outcomes.isEmpty then (done ["All tokens are fresh"],k.vault.disk)
  else
    (⟨outcomes.map sweepLine,
      if lost = 0 then .ok () else .error (.someFailed lost outcomes.length)⟩,k.vault.disk)

def perform (s : Surroundings) (w : Workspace) : Command → Report × Disk
  | .add e => addAccount w e
  | .remove id => removeAccount w id
  | .list => (done (listAccounts w.keeper),w.disk)
  | .status id => (showStatus w.keeper s.now id,w.disk)
  | .store id access renewal lifetime => storeTokens w s.now id access renewal lifetime
  | .token id => printToken s w.keeper id
  | .refresh id => refreshAccount s w.keeper id
  | .refreshAll => refreshStale s w.keeper
  | .keygen => (done [s.freshKey.text],w.disk)

def run (s : Surroundings) (line : Line) (disk : Disk) : Report × Disk :=
  if line.command = .keygen then (done [s.freshKey.text],disk)
  else
    match openWorkspace s line.globals disk with
    | (.error failure,disk) => (failed failure,disk)
    | (.ok w,_) => perform s w line.command

end GrantKeeper.Command

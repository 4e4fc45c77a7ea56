import GrantKeeper.Proofs.Command.Serving

/-! Runs one after the other, each a process of its own that finds what the runs before it left on
the disk. Together they keep a ledger of accounts. -/
namespace GrantKeeper
open Disk (Tree)
open Outcome (ofBind)

namespace Command

theorem levelNormal {name : String} {level : Level} {e : Enrollment} (adds : ofLevel name level = .add e) :
    e.provider.Normal := by
  have normal := Provider.nameNormal ((level.value? "provider").getD "google")
  unfold ofLevel at adds
  -- the provider is kept folded, as comparing it would evaluate its name
  generalize Provider.ofText ((level.value? "provider").getD "google") = provider at adds normal
  by_cases add : name = "add"
  · rw [if_pos add] at adds
    cases adds
    exact normal
  · rw [if_neg add] at adds
    repeat' split at adds
    all_goals nomatch adds

theorem parsedNormal {env : Environment} {args : List String} {line : Line} {e : Enrollment}
    (parsed : Line.parse env args = .ok line) (adds : line.command = .add e) : e.provider.Normal := by
  unfold Line.parse at parsed
  obtain ⟨⟨program,found⟩,-,parsed⟩ := ofBind parsed
  cases found with
  | none =>
    obtain ⟨program,-,parsed⟩ := ofBind parsed
    cases parsed
  | some command =>
    obtain ⟨name,rest⟩ := command
    dsimp only at parsed
    split at parsed
    · cases parsed
    · obtain ⟨level,-,parsed⟩ := ofBind parsed
      obtain ⟨program,-,parsed⟩ := ofBind parsed
      cases parsed
      exact levelNormal adds

structure Run where
  surroundings : Surroundings
  process : Nat
  args : List String
  line : Line
  parsed : Line.parse surroundings.env args = .ok line

namespace Run

def report (r : Run) (t : Tree) : Report := (run r.surroundings r.line (.ofTree t r.process)).1

def tree (r : Run) (t : Tree) : Tree := (run r.surroundings r.line (.ofTree t r.process)).2.tree

/-- Keeps settings and records at the site, gets no reply from any exchange, and is not stopped by
the disk. -/
structure Fits (site : Site) (t : Tree) (r : Run) : Prop where
  file : r.line.globals.settingsPath r.surroundings.env = site.settingsFile
  directory : r.line.globals.vaultPath r.surroundings.env .default = site.directory
  key : r.line.globals.key = site.key
  spurned : Keeper.Spurned r.surroundings.ask (orders r.surroundings r.line (.ofTree t r.process))
  calm : (r.report t).Calm

end Run

end Command

open Command

def Ledger.ofRuns (rs : List Run) : Ledger :=
  rs.foldl (fun l r => l.after r.surroundings.now r.line.command) ∅

namespace Site

inductive Leads (site : Site) (t : Tree) : List Run → Tree → Prop
  | start : Leads site t [] t
  | run {rs : List Run} {u : Tree} {r : Run} (before : Leads site t rs u) (fits : r.Fits site u) :
      Leads site t (rs ++ [r]) (r.tree u)

variable {site : Site} {t u : Tree} {l : Ledger} {r : Run} {rs : List Run}

theorem performServes {s : Surroundings} {w : Workspace} {command : Command} (serves : site.Serves l w)
    (normal : ∀ e, command = .add e → e.provider.Normal) (spurned : Keeper.Spurned s.ask (w.orders s command))
    (calm : (perform s w command).1.Calm) :
    site.Keeps (perform s w command).2.tree (l.after s.now command) ∧
      Answers l command (perform s w command).1 := by
  cases changes : command.changes with
  | true =>
    cases command with
    | add e => exact addServes serves (normal e rfl) calm
    | remove id => exact removeServes serves calm
    | store id access refresh lifetime => exact storeServes serves calm
    | _ => cases changes
  | false =>
    have same : l.after s.now command = l := by
      cases command <;> first | rfl | cases changes
    rw [performReads changes spurned,same]
    refine ⟨serves.keeps,?_⟩
    cases command with
    | list => exact ⟨l.keysAscend,congrArg done (listServes serves)⟩
    | refresh id =>
      intro unknown
      change (refreshAccount s w.keeper id).1.result = _
      unfold refreshAccount
      rw [if_neg fun known => unknown ((serves.knows id).mp known)]
      rfl
    | add | remove | store => cases changes
    | _ => trivial

theorem runServes (keeps : site.Keeps t l) (fits : r.Fits site t) :
    site.Keeps (r.tree t) (l.after r.surroundings.now r.line.command) ∧
      Answers l r.line.command (r.report t) := by
  obtain ⟨file,directory,key,spurned,calm⟩ := fits
  have opened := opensServing r.process keeps file directory key
  have normal := fun e => parsedNormal (e := e) r.parsed
  unfold Run.tree Run.report at *
  unfold Command.run orders at *
  by_cases fresh : r.line.command = .keygen
  · rw [if_pos fresh,fresh]
    exact ⟨keeps,trivial⟩
  · rw [if_neg fresh] at calm spurned ⊢
    rcases opened with ⟨w,d,opens,serves⟩ | ⟨failure,d,opens,fault⟩
    · rw [opens] at calm spurned ⊢
      exact performServes serves normal spurned calm
    · rw [opens] at calm
      exact absurd fault (calm _ rfl)

theorem startKeeps (fresh : t.file? (site.settingsPlace t) = none)
    (bare : ∀ id, Enrollment.isUsableId id = true → t.file? (site.recordPlace t id) = none)
    (apart : site.Apart t) : site.Keeps t ∅ := by
  refine ⟨⟨[],Ledger.listsNone,?_,?_⟩,⟨?_,?_⟩,?_,apart⟩
  · unfold settingsIn
    rw [fresh]
    rfl
  · intro octets found
    rw [fresh] at found
    cases found
  · intro id usable
    unfold recordIn?
    rw [bare id usable]
    simp [Ledger.grant?]
  · intro id g held
    simp [Ledger.grant?] at held
  · intro id member
    simp at member

theorem leadsKeeps (start : site.Keeps t ∅) (leads : site.Leads t rs u) : site.Keeps u (Ledger.ofRuns rs) := by
  induction leads with
  | start => exact start
  | run before fits ih =>
    unfold Ledger.ofRuns
    rw [List.foldl_append]
    exact (runServes ih fits).1

/-- Without settings and records at first, what runs leave is always what the ledger says, and every
further run answers by the ledger. -/
theorem runsKeepLedger (fresh : t.file? (site.settingsPlace t) = none)
    (bare : ∀ id, Enrollment.isUsableId id = true → t.file? (site.recordPlace t id) = none)
    (apart : site.Apart t) (leads : site.Leads t rs u) : site.Corresponds u (.ofRuns rs) ∧
      ∀ r : Run, r.Fits site u → Answers (.ofRuns rs) r.line.command (r.report u) := by
  have keeps := leadsKeeps (startKeeps fresh bare apart) leads
  exact ⟨keeps.corresponds,fun r fits => (runServes keeps fits).2⟩

def globals (site : Site) : Globals := ⟨some site.settingsFile,some site.directory,site.key,none,false⟩

def args (site : Site) : List String := ["--config",site.settingsFile.text,"--token-dir",site.directory.text]

def runAlone (site : Site) (args : List String) (command : Command)
    (parsed : Line.parse alone.env (site.args ++ args) = .ok ⟨site.globals,command⟩) : Run :=
  ⟨alone,7,site.args ++ args,⟨site.globals,command⟩,parsed⟩

theorem fitsAlone {args : List String} {command : Command}
    {parsed : Line.parse alone.env (site.args ++ args) = .ok ⟨site.globals,command⟩}
    (unasked : ∀ w : Workspace, w.orders alone command = [])
    (calm : ((site.runAlone args command parsed).report t).Calm) :
    (site.runAlone args command parsed).Fits site t := by
  refine ⟨rfl,rfl,rfl,?_,calm⟩
  change Keeper.Spurned _ (orders alone ⟨site.globals,command⟩ (.ofTree t 7))
  have none : orders alone ⟨site.globals,command⟩ (.ofTree t 7) = [] := by
    unfold orders
    split
    · rfl
    · split
      · rfl
      · exact unasked _
  rw [none]
  exact fun order member => by cases member

theorem leadsOne (fits : r.Fits site t) : site.Leads t [r] (r.tree t) := by
  have leads := Leads.run .start fits
  exact leads

theorem nothingIn (place : Disk.Place) : Tree.empty.file? place = none := by
  cases place <;> simp [Tree.file?,Tree.node?,Tree.empty]

def beside : Site := ⟨⟨"/c.json"⟩,⟨"/t"⟩,none⟩

def addBeside : Run :=
  beside.runAlone ["add","a","--client-id","c"] (.add ⟨"a",.google,"c","","",""⟩) (by decide +kernel)

def listBeside : Run := beside.runAlone ["list"] .list (by decide +kernel)

theorem runsKeepAdded :
    Tree.empty.file? (beside.settingsPlace .empty) = none ∧
    (∀ id, Enrollment.isUsableId id = true → Tree.empty.file? (beside.recordPlace .empty id) = none) ∧
    beside.Apart .empty ∧ beside.Leads .empty [addBeside] (addBeside.tree .empty) ∧
    listBeside.Fits beside (addBeside.tree .empty) ∧
    listBeside.report (addBeside.tree .empty) = done ["a\tgoogle\t"] := by
  have apart : beside.Apart .empty := by
    intro id usable same
    have record : (Disk.Path.mk "/t").goal [] = ["t"] := by decide +kernel
    have settings : (Disk.Path.mk "/c.json").goal [] = ["c.json"] := by decide +kernel
    have long := congrArg List.length same
    simp [recordPlace,settingsPlace,beside,Tree.empty,record,settings] at long
  have leads : beside.Leads .empty [addBeside] (addBeside.tree .empty) :=
    leadsOne (fitsAlone (fun _ => rfl) (calmDone (by decide +kernel)))
  have fits : listBeside.Fits beside (addBeside.tree .empty) :=
    fitsAlone (fun _ => rfl) (calmDone (by decide +kernel))
  refine ⟨nothingIn _,fun _ _ => nothingIn _,apart,leads,fits,?_⟩
  obtain ⟨-,answers⟩ := runsKeepLedger (nothingIn _) (fun _ _ => nothingIn _) apart leads
  have listed : (Ledger.ofRuns [addBeside]).listing = ["a\tgoogle\t"] := by decide +kernel
  rw [← listed]
  exact (answers listBeside fits).2

def inside : Site := ⟨⟨"/t/o.json"⟩,⟨"/t"⟩,none⟩

def addInside : Run :=
  inside.runAlone ["add","a","--client-id","c"] (.add ⟨"a",.google,"c","","",""⟩) (by decide +kernel)

def removeInside : Run := inside.runAlone ["remove","o"] (.remove "o") (by decide +kernel)

def listInside : Run := inside.runAlone ["list"] .list (by decide +kernel)

/-- The removal of an account that nobody added takes the settings for its record. -/
theorem settingsTakenForRecord :
    let u := removeInside.tree (addInside.tree .empty)
    Tree.empty.file? (inside.settingsPlace .empty) = none ∧
    (∀ id, Enrollment.isUsableId id = true → Tree.empty.file? (inside.recordPlace .empty id) = none) ∧
    inside.Leads .empty [addInside,removeInside] u ∧ listInside.Fits inside u ∧
    (Ledger.ofRuns [addInside,removeInside]).listing = ["a\tgoogle\t"] ∧
    (listInside.report u).lines = [] ∧
    ¬ Answers (.ofRuns [addInside,removeInside]) .list (listInside.report u) := by
  intro u
  have unknown : (removeInside.report (addInside.tree .empty)).result = .error (.unknown "o") := by
    decide +kernel
  have added : inside.Leads .empty [addInside] (addInside.tree .empty) :=
    leadsOne (fitsAlone (fun _ => rfl) (calmDone (by decide +kernel)))
  have leads : inside.Leads .empty [addInside,removeInside] u :=
    .run added (fitsAlone (fun _ => rfl) (calmFailed unknown rfl))
  have silent : (listInside.report u).result = .ok () ∧ (listInside.report u).lines = [] := by decide +kernel
  have fits : listInside.Fits inside u := fitsAlone (fun _ => rfl) (calmDone silent.1)
  have listed : (Ledger.ofRuns [addInside,removeInside]).listing = ["a\tgoogle\t"] := by decide +kernel
  refine ⟨nothingIn _,fun _ _ => nothingIn _,leads,fits,listed,silent.2,?_⟩
  rintro ⟨-,same⟩
  have lines := silent.2
  rw [same,listed] at lines
  cases lines

end Site

end GrantKeeper

import GrantKeeper.Proofs.Command.Ledger

/-! How settings and records that are those of a ledger are found again, and what becomes of them
when a record is saved or erased. The disk is calm, so what is there can be read. -/
namespace GrantKeeper
open Disk (Path Place Tree)
open Vault (Folder)

namespace Disk
variable {t : Tree} {p : Path} {place : Place} {octets : Text.Octets}

theorem Tree.readThere (read : t.read p = .ok octets) : t.file? (p.goal t.working) = some octets := by
  unfold Tree.read at read
  split at read
  · cases read
  · cases read
  · rename_i place mode content found
    cases read
    obtain ⟨there,node⟩ := findThere found
    rw [← resolveGoal there,file?,node]

theorem Tree.findsFile (asks : p.asksDirectory = false) (there : t.resolve p = .ok place)
    (file : t.file? place = some octets) : ∃ mode, t.find p = .ok (place,.file mode octets) := by
  unfold file? at file
  split at file
  · rename_i mode content node
    cases file
    exact ⟨mode,findFile asks there node⟩
  · cases file

theorem removesFile {d : Disk} (calm : d.mishaps = []) (asks : p.asksDirectory = false)
    (there : d.tree.resolve p = .ok place) (file : d.tree.file? place = some octets) :
    (d.removeFile p).2.tree.file? place = none := by
  obtain ⟨mode,found⟩ := Tree.findsFile asks there file
  have deep : place ≠ [] := by
    rintro rfl
    cases (Tree.findThere found).2
  have removed : d.tree.removeFile p = .ok (d.tree.remove place) := by
    rw [Tree.removeFile,found]
  unfold removeFile
  rw [changeCalm calm removed]
  simp [Tree.file?,Tree.nodeRemove deep]

end Disk

namespace Site
variable {site : Site} {d : Disk} {t : Tree} {l : Ledger} {es : List Enrollment} {f f' : Folder}
  {grants : String → Option Grant} {id : String}

theorem loadKept (keeps : site.KeepsSettings d.tree es) (calm : d.mishaps = []) :
    (Settings.load d site.settingsFile).1 = .ok (settingsOf es) ∨
    ∃ fault, (Settings.load d site.settingsFile).1 = .error (.disk fault) := by
  have content := keeps.content
  unfold settingsIn at content
  unfold Settings.load Disk.present Disk.read
  rw [Disk.lookCalm calm]
  cases found : d.tree.find site.settingsFile with
  | error fault =>
    refine .inl ?_
    cases file : d.tree.file? (site.settingsPlace d.tree) with
    | none =>
      rw [file] at content
      exact content
    | some octets =>
      obtain ⟨there,asks⟩ := keeps.there octets file
      obtain ⟨mode,finds⟩ := Tree.findsFile asks there file
      rw [found] at finds
      cases finds
  | ok node =>
    simp only [Disk.lookCalm calm]
    cases read : d.tree.read site.settingsFile with
    | error fault => exact .inr ⟨fault,rfl⟩
    | ok octets =>
      have file : d.tree.file? (site.settingsPlace d.tree) = some octets := Tree.readThere read
      rw [file] at content
      exact .inl content

structure Opened (site : Site) (f : Folder) : Prop where
  directory : f.directory = site.directory
  key : f.key = site.cipherKey
  calm : f.disk.mishaps = []
  there : ∃ home, f.disk.tree.Houses site.directory home

theorem recordGoal (usable : Enrollment.isUsableId id = true) (t : Tree) :
    (site.directory.join ⟨Folder.recordName id⟩).goal t.working = site.recordPlace t id :=
  Disk.Path.goalJoin _ (Folder.recordNamed usable) _

theorem Opened.resolve (opened : site.Opened f) (usable : Enrollment.isUsableId id = true)
    (short : (site.directory.join ⟨Folder.recordName id⟩).Short) :
    f.disk.tree.resolve (site.directory.join ⟨Folder.recordName id⟩) =
      .ok (site.recordPlace f.disk.tree id) := by
  obtain ⟨home,houses⟩ := opened.there
  have there := houses.join (Folder.recordEntry usable) short
  rw [← recordGoal usable,← Tree.resolveGoal there]
  exact there

theorem recordHeld (keeps : site.KeepsRecords t grants) (usable : Enrollment.isUsableId id = true)
    {octets : Text.Octets} (file : t.file? (site.recordPlace t id) = some octets) :
    ∃ g, grants id = some g ∧ Folder.readRecord site.cipherKey octets = .ok g := by
  have record := keeps.records id usable
  unfold recordIn? at record
  rw [file] at record
  cases held : grants id with
  | none =>
    rw [held] at record
    cases record
  | some g =>
    rw [held] at record
    exact ⟨g,rfl,Option.some.inj record⟩

theorem grantLoaded (opened : site.Opened f) (keeps : site.KeepsRecords f.disk.tree grants)
    (usable : Enrollment.isUsableId id = true) : (f.load id).1.toOption.getD none = grants id := by
  have asks := Disk.Path.asksJoin site.directory (Folder.recordNamed usable).toIsPart
  unfold Folder.load Disk.read
  simp only [Folder.recordPathOf usable,opened.directory,opened.key]
  rw [Disk.lookCalm opened.calm]
  cases file : f.disk.tree.file? (site.recordPlace f.disk.tree id) with
  | none =>
    have record := keeps.records id usable
    unfold recordIn? at record
    have nothing : grants id = none := by simpa [file,eq_comm] using record
    rw [nothing]
    cases read : f.disk.tree.read (site.directory.join ⟨Folder.recordName id⟩) with
    | error fault => cases fault <;> rfl
    | ok octets =>
      have there := Tree.readThere read
      rw [recordGoal usable,file] at there
      cases there
  | some octets =>
    obtain ⟨g,held,readable⟩ := recordHeld keeps usable file
    obtain ⟨mode,found⟩ := Tree.findsFile asks (opened.resolve usable (keeps.held id g held).2) file
    rw [Tree.readsHere found,held]
    simp only [readable]
    rfl

def OfRecord (site : Site) (t : Tree) (id : String) (place : Place) : Prop :=
  Enrollment.isUsableId id = true ∧ place = site.recordPlace t id

theorem notOfRecord (apart : site.Apart t) (id : String) : ¬ site.OfRecord t id (site.settingsPlace t) :=
  fun ofRecord => apart id ofRecord.1 ofRecord.2.symm

theorem recordsAfter {u : Tree} {g : Option Grant} (keeps : site.KeepsRecords t grants)
    (carries : Tree.Carries (site.OfRecord t id) t u)
    (own : Enrollment.isUsableId id = true → site.recordIn? u id = g.map .ok)
    (held : ∀ grant, g = some grant →
      grant.scope = "" ∧ (site.directory.join ⟨Folder.recordName id⟩).Short) :
    site.KeepsRecords u fun other => if id = other then g else grants other := by
  refine ⟨fun other usable => ?_,fun other grant => ?_⟩
  · by_cases here : id = other
    · subst here
      simpa using own usable
    · rw [if_neg here,recordCarried carries]
      · exact keeps.records other usable
      · exact fun ofRecord => here (Folder.placeInjective ofRecord.2.symm)
  · by_cases here : id = other
    · subst here
      simpa using held grant
    · simpa [here] using keeps.held other grant

theorem eraseCarries (opened : site.Opened f) (id : String) :
    Tree.Carries (site.OfRecord f.disk.tree id) f.disk.tree (f.erase id).2.disk.tree := by
  by_cases usable : Enrollment.isUsableId id = true
  · have named := Folder.recordNamed usable
    have goal : site.OfRecord f.disk.tree id
        ((site.directory.join ⟨Folder.recordName id⟩).goal f.disk.tree.working) :=
      ⟨usable,recordGoal usable _⟩
    rw [Folder.eraseDisk f id usable,opened.directory]
    exact ⟨(Disk.sparesRemoveFile goal).tree,(Disk.removeTouches _ named f.disk).hasDirectory⟩
  · rw [Folder.eraseNothing usable]
    exact (Tree.growsSelf _).carries _

theorem recordGone (opened : site.Opened f) (keeps : site.KeepsRecords f.disk.tree grants)
    (usable : Enrollment.isUsableId id = true) : site.recordIn? (f.erase id).2.disk.tree id = none := by
  have asks := Disk.Path.asksJoin site.directory (Folder.recordNamed usable).toIsPart
  unfold recordIn?
  rw [recordPlaceStill (eraseCarries opened id).working,Folder.eraseDisk f id usable,opened.directory,
    Option.map_eq_none_iff]
  cases file : f.disk.tree.file? (site.recordPlace f.disk.tree id) with
  | none =>
    rcases Disk.removeFile? f.disk (site.directory.join ⟨Folder.recordName id⟩)
      (site.recordPlace f.disk.tree id) with same | ⟨-,gone⟩
    · exact same.trans file
    · exact gone
  | some octets =>
    obtain ⟨g,held,-⟩ := recordHeld keeps usable file
    exact Disk.removesFile opened.calm asks (opened.resolve usable (keeps.held id g held).2) file

theorem eraseKept (opened : site.Opened f) (keeps : site.KeepsRecords f.disk.tree grants) (id : String) :
    site.KeepsRecords (f.erase id).2.disk.tree fun other => if id = other then none else grants other :=
  recordsAfter keeps (eraseCarries opened id) (recordGone opened keeps) fun _ none => by cases none

theorem saveKept (directory : f.directory = site.directory) (key : f.key = site.cipherKey)
    (keeps : site.KeepsRecords f.disk.tree grants) {g : Grant} (whole : g.IsWhole) (scope : g.scope = "")
    (saved : f.save id g = (.ok (),f')) : Tree.Carries (site.OfRecord f.disk.tree id) f.disk.tree f'.disk.tree ∧
      site.KeepsRecords f'.disk.tree fun other => if id = other then some g else grants other := by
  have written := f.writes id g
  rw [saved] at written
  obtain ⟨usable,replaced⟩ : Enrollment.isUsableId id = true ∧ f.disk.replace
      (site.directory.join ⟨Folder.recordName id⟩) (Folder.record site.cipherKey (f.nonces f.seals) g) =
        (.ok (),f'.disk) := by
    cases written with
    | written usable replaced => exact ⟨usable,by rwa [directory,key] at replaced⟩
  obtain ⟨place,goal,rewrites⟩ := Disk.replaceRewrites replaced
  obtain ⟨touches,file⟩ := rewrites.touches
  have here : goal = site.recordPlace f.disk.tree id := by
    rw [Tree.resolveGoal rewrites.target,recordGoal usable]
  have carries : Tree.Carries (site.OfRecord f.disk.tree id) f.disk.tree f'.disk.tree := by
    refine (touches.mono ?_).carries
    rintro other rfl
    exact ⟨usable,here⟩
  refine ⟨carries,recordsAfter keeps carries (fun _ => ?_) ?_⟩
  · unfold recordIn?
    rw [recordPlaceStill carries.working,← here,file]
    simp [Folder.readRecordOf,show g.floored = g from whole]
  · intro grant same
    cases same
    exact ⟨scope,Tree.resolveShort rewrites.target⟩

end Site

end GrantKeeper

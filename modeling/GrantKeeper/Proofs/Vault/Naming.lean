import GrantKeeper.Proofs.Disk.Goal
import GrantKeeper.Proofs.Vault.Listing

/-! Where the records of a folder are. Each has a place of its own right in the directory, from whose
name its id is read back, and no temporary file is taken for a record. -/
namespace GrantKeeper.Vault.Folder
open Disk (Path Tree)

structure Child (directory : Path) (name : String) (p : Path) : Prop where
  parts : p.parts = directory.parts ++ [name]
  absolute : p.isAbsolute = directory.isAbsolute
  named : p.fileName? = some name
  whole : ∀ c ∈ ['/','\\',':','\x00'], c ∉ name.toList
  proper : name ∉ ["",".",".."]
  short : name.utf8ByteSize ≤ 255
  leads : ∀ (t : Tree) home, t.Houses directory home → p.Short → t.resolve p = .ok (home ++ [name])

structure Placed (f : Folder) (id : String) (p : Path) : Prop where
  leads : f.recordPath id = .ok p
  child : Child f.directory (id ++ ".json") p
  own : ∀ other, f.recordPath other = .ok p → other = id
  stem : Path.splitExtension (id ++ ".json") = (id,some "json")
  listed : f.disk.nextMishap = none → f.disk.tree.isDirectory f.directory = true →
    ∃ ids f', f.ids = (.ok ids,f') ∧ (id ∈ ids ↔ f.disk.tree.isFile p = true) ∧
      ∀ other ∈ ids, f.recordPath other = .ok (f.directory.join ⟨other ++ ".json"⟩)
  beside : ∀ process < 2 ^ 32, ∀ n < 2 ^ 32,
    Child f.directory (Disk.temporaryName (id ++ ".json") process n) (Disk.temporaryPath p process n)
  apart : ∀ process n other, Enrollment.isUsableId other = true →
    Disk.temporaryName (id ++ ".json") process n ≠ other ++ ".json"
  unlisted : ∀ process n, idOfName? (Disk.temporaryName (id ++ ".json") process n) = none

variable {f : Folder} {id : String}

theorem recordNameJson (id : String) : recordName id = id ++ ".json" := by
  rw [← String.toList_inj,recordNameChars]
  simp

theorem temporaryUnlisted (name : String) (process n : Nat) :
    idOfName? (Disk.temporaryName name process n) = none := by
  cases listed : idOfName? (Disk.temporaryName name process n) with
  | none => rfl
  | some id =>
    obtain ⟨same,usable⟩ := recordNameOfId listed
    exact absurd same.symm (recordNotTemporary usable name process n)

theorem childOf {directory p : Path} {name : String} (entry : Path.IsEntry name)
    (whole : ∀ c ∈ ['/','\\',':','\x00'], c ∉ name.toList) (parts : p.parts = directory.parts ++ [name])
    (absolute : p.isAbsolute = directory.isAbsolute)
    (leads : ∀ (t : Tree) home, t.Houses directory home → p.Short → t.resolve p = .ok (home ++ [name])) :
    Child directory name p := by
  have named : p.fileName? = some name := by
    unfold Path.fileName?
    rw [parts]
    simp [entry.down]
  refine ⟨parts,absolute,named,whole,?_,entry.short,leads⟩
  intro member
  simp only [List.mem_cons,List.not_mem_nil,or_false] at member
  have filled := entry.filled
  rcases member with rfl | rfl | rfl
  · cases filled
  · cases filled
  · exact entry.down rfl

theorem recordWhole (usable : Enrollment.isUsableId id = true) :
    ∀ c ∈ ['/','\\',':','\x00'], c ∉ (recordName id).toList := by
  have barred : ∀ c ∈ ['/','\\',':','\x00'],
      Enrollment.isBarred c = true ∧ c ∉ ['.','j','s','o','n'] := by
    simp only [List.forall_mem_cons,List.not_mem_nil,false_implies,implies_true,and_true]
    decide
  intro c member
  exact recordLacks usable (barred c member).1 (barred c member).2

theorem temporaryWhole {name : String} (whole : ∀ c ∈ ['/','\\',':','\x00'], c ∉ name.toList)
    (process n : Nat) : ∀ c ∈ ['/','\\',':','\x00'], c ∉ (Disk.temporaryName name process n).toList := by
  have others : ∀ c ∈ ['/','\\',':','\x00'], c ∉ ['.','t','m','p'] ∧ Text.digit? c = none := by
    simp only [List.forall_mem_cons,List.not_mem_nil,false_implies,implies_true,and_true]
    decide
  intro c member
  obtain ⟨plain,digit⟩ := others c member
  exact Disk.temporaryLacks (whole c member) digit plain process n

theorem recordChild (usable : Enrollment.isUsableId id = true) (directory : Path) :
    Child directory (recordName id) (directory.join ⟨recordName id⟩) := by
  have entry := recordEntry usable
  exact childOf entry (recordWhole usable) (Path.partsJoin directory entry.toIsPart)
    (Path.absoluteJoin directory entry.toIsPart) fun t home houses short => houses.join entry short

theorem temporaryChild (usable : Enrollment.isUsableId id = true) (directory : Path) {process n : Nat}
    (small : process < 2 ^ 32) (counted : n < 2 ^ 32) :
    Child directory (Disk.temporaryName (recordName id) process n)
      (Disk.temporaryPath (directory.join ⟨recordName id⟩) process n) := by
  have record := recordEntry usable
  have room : (recordName id).utf8ByteSize + 27 ≤ Tree.longestName :=
    Nat.le_trans (Nat.add_le_add_right (recordShort usable) 27) (by decide)
  have entry := Disk.temporaryEntry record room small counted
  have inner := Path.partsArePart directory
  rw [Disk.temporaryPathJoin record.toIsName]
  refine childOf entry (temporaryWhole (recordWhole usable) process n) ?_ ?_ fun t home houses short =>
    houses.beside entry short
  · rw [Path.partsJoin _ entry.toIsPart,Path.partsOfParts _ inner]
  · rw [Path.absoluteJoin _ entry.toIsPart,Path.absoluteOfParts _ inner]

theorem recordOwn {other : String} (usable : Enrollment.isUsableId id = true)
    (leads : f.recordPath other = .ok (f.directory.join ⟨recordName id⟩)) : other = id := by
  by_cases known : Enrollment.isUsableId other = true
  · rw [recordPathOf known] at leads
    have parts := congrArg Path.parts (Except.ok.inj leads)
    rw [(recordChild known f.directory).parts,(recordChild usable f.directory).parts] at parts
    exact recordNameInjective (List.singleton_inj.mp (List.append_cancel_left parts))
  · rw [noRecordPath known] at leads
    cases leads

theorem recordListed (usable : Enrollment.isUsableId id = true) (due : f.disk.nextMishap = none)
    (directory : f.disk.tree.isDirectory f.directory = true) :
    ∃ ids f', f.ids = (.ok ids,f') ∧
      (id ∈ ids ↔ f.disk.tree.isFile (f.directory.join ⟨recordName id⟩) = true) ∧
      ∀ other ∈ ids, f.recordPath other = .ok (f.directory.join ⟨recordName other⟩) := by
  obtain ⟨home,resolves,there⟩ := Tree.hasDirectory directory
  obtain ⟨ids,listed,-,-,members⟩ := idsFound due ⟨resolves,there⟩
  refine ⟨ids,_,listed,(members id).trans (and_iff_right usable),?_⟩
  intro other member
  exact recordPathOf ((members other).mp member).1

theorem recordStem (usable : Enrollment.isUsableId id = true) :
    Path.splitExtension (recordName id) = (id,some "json") := by
  have named := idOfRecordName usable
  unfold idOfName? at named
  split at named
  · rename_i stem ext split
    simp only [Option.ite_none_right_eq_some,Bool.and_eq_true,decide_eq_true_eq,Option.some.injEq] at named
    obtain ⟨⟨rfl,-⟩,rfl⟩ := named
    exact split
  · cases named

theorem recordPlaced (f : Folder) (usable : Enrollment.isUsableId id = true) :
    f.Placed id (f.directory.join ⟨id ++ ".json"⟩) := by
  rw [← recordNameJson]
  refine ⟨recordPathOf usable,?_,fun other leads => recordOwn usable leads,?_,?_,?_,?_,?_⟩
  all_goals simp only [← recordNameJson]
  · exact recordChild usable f.directory
  · exact recordStem usable
  · exact fun due directory => recordListed usable due directory
  · exact fun process small n counted => temporaryChild usable f.directory small counted
  · exact fun process n other known same => recordNotTemporary known _ process n same.symm
  · exact fun process n => temporaryUnlisted _ process n

def vacantFolder : Folder := ⟨Disk.ofTree .empty 1,⟨"/t"⟩,none,fun _ => ⟨List.replicate 12 0,rfl⟩,0⟩

theorem recordPlacedDotted : Enrollment.isUsableId "a.json." = true ∧
    vacantFolder.Placed "a.json." (vacantFolder.directory.join ⟨"a.json." ++ ".json"⟩) := by
  have usable : Enrollment.isUsableId "a.json." = true := by decide +kernel
  exact ⟨usable,recordPlaced vacantFolder usable⟩

end GrantKeeper.Vault.Folder

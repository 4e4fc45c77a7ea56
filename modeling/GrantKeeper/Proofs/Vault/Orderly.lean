import GrantKeeper.Proofs.Vault.Parted

/-! An orderly folder is parted by accounts. No mishaps are due on its disk, no path into it is too
long, and no temporary name of its process is taken. Records may be unreadable, and directories
may stand where records would. -/
namespace GrantKeeper

namespace Disk.Path

def Roomy (p : Path) : Prop := p.text.utf8ByteSize + 1 + Tree.longestName ≤ Tree.longestPath

instance (p : Path) : Decidable p.Roomy :=
  inferInstanceAs (Decidable (p.text.utf8ByteSize + 1 + Tree.longestName ≤ Tree.longestPath))

theorem Roomy.join {p : Path} (roomy : p.Roomy) {name : String} (entry : IsEntry name) :
    (p.join ⟨name⟩).Short := by
  have short := entry.short
  have slash : ("/" : String).utf8ByteSize = 1 := rfl
  unfold Roomy at roomy
  unfold Short Path.join
  split
  · exact Nat.le_trans short (by decide)
  · split
    · simp only [String.utf8ByteSize_append]
      omega
    · simp only [String.utf8ByteSize_append,slash]
      omega

end Disk.Path

namespace Vault.Folder
open Disk (Path Place Tree temporaryName)
variable {f : Folder} {home : Place} {t : Tree} {id : String}

inductive Cell
  | free
  | record (held : Except RecordDefect Grant)
  | blocked

def Cell.of (key : Option Cipher.Key) : Option Disk.Node → Cell
  | none => .free
  | some (.file _ content) => .record (readRecord key content)
  | some (.directory _) => .blocked

def cell (f : Folder) (id : String) : Cell :=
  if Enrollment.isUsableId id then
    match f.disk.tree.resolve (f.directory.join ⟨recordName id⟩) with
    | .ok place => .of f.key (f.disk.tree.node? place)
    | .error _ => .free
  else .free

def Cell.respond (id : String) : Cell → Access → Response × Cell
  | .blocked, .save _ | .blocked, .erase => (.done (.error (.disk .isDirectory)),.blocked)
  | .blocked, .load => (.loaded (.error (.disk .isDirectory)),.blocked)
  | _, .save g => (.done (.ok ()),.record (.ok g.floored))
  | _, .erase => (.done (.ok ()),.free)
  | .free, .load => (.loaded (.ok none),.free)
  | .record (.ok g), .load => (.loaded (.ok (some g)),.record (.ok g))
  | .record (.error defect), .load => (.loaded (.error (.corruptRecord id defect)),.record (.error defect))

def refuse (id : String) : Access → Response
  | .load => .loaded (.error (.unusableId id))
  | .save _ | .erase => .done (.error (.unusableId id))

structure Orderly (f : Folder) (home : Place) : Prop extends Ready f home [] where
  roomy : f.directory.Roomy
  plain : (Path.ofParts f.directory.isAbsolute f.directory.parts).Roomy
  untaken : ∀ name n, f.disk.tree.node? (home ++ [temporaryName name f.disk.process n]) = none

structure Rewritten (f f' : Folder) (home : Place) (id : String) (held : Cell) : Prop where
  orderly : f'.Orderly home
  own : f'.cell id = held
  apart : ∀ other, id ≠ other → f'.cell other = f.cell other

def Obeys (f : Folder) (home : Place) (id : String) (a : Access) (next : Response × Cell) : Prop :=
  ∃ f', answer f (a.by id) = (next.1,f') ∧ Rewritten f f' home id next.2

section
variable (orderly : f.Orderly home)
include orderly

theorem stays (id : String) : Rewritten f f home id (f.cell id) := ⟨orderly,rfl,fun _ _ => rfl⟩

variable (usable : Enrollment.isUsableId id = true)
include usable

theorem resolvesRecord :
    f.disk.tree.resolve (f.directory.join ⟨recordName id⟩) = .ok (home ++ [recordName id]) :=
  orderly.houses.join (recordEntry usable) (orderly.roomy.join (recordEntry usable))

theorem cellNode : f.cell id = .of f.key (f.disk.tree.node? (home ++ [recordName id])) := by
  rw [cell,if_pos usable,resolvesRecord orderly usable]

theorem freeRecord :
    Disk.Free f.disk.tree f.directory home (recordName id) f.disk.process f.disk.temporaries where
  target := orderly.roomy.join (recordEntry usable)
  temporary := by
    rw [Disk.temporaryPathJoin (recordNamed usable)]
    exact orderly.plain.join (temporaryRecord orderly.toReady usable)
  untaken := orderly.untaken _ _

theorem rewrites (touches : Tree.Touches (· = home ++ [recordName id]) f.disk.tree t) {n : Nat}
    (counted : n < Disk.temporaryLimit) (seals : Nat) :
    Rewritten f { f with disk := { f.disk with tree := t, temporaries := n }, seals } home id
      (.of f.key (t.node? (home ++ [recordName id]))) := by
  have next : Orderly { f with disk := { f.disk with tree := t, temporaries := n }, seals } home := by
    refine ⟨⟨orderly.calm,orderly.houses.touched touches,orderly.process,counted,?_⟩,orderly.roomy,
      orderly.plain,?_⟩
    · intro r none
      cases none
    · intro name m
      refine (touches.rest _ ?_).trans (orderly.untaken name m)
      intro same
      have names := List.singleton_inj.mp (List.append_inj_right' same rfl)
      exact recordNotTemporary usable _ _ _ names.symm
  refine ⟨next,cellNode next usable,?_⟩
  intro other apart
  by_cases known : Enrollment.isUsableId other = true
  · rw [cellNode next known,cellNode orderly known]
    rw [touches.rest _ fun same => apart (placeInjective same.symm)]
  · simp only [cell,if_neg known]

theorem saveFree (target : f.disk.tree.NoDirectory (home ++ [recordName id])) (g : Grant) :
    Obeys f home id (.save g) (.done (.ok ()),.record (.ok g.floored)) := by
  have free := freeRecord orderly usable
  have deep := Tree.entryDeep home
  have replaced := Disk.replaceCalm orderly.calm orderly.houses (recordEntry usable) target
    (temporaryRecord orderly.toReady usable) free (record f.key (f.nonces f.seals) g)
  have touches := Tree.touchesReplaced (deep _) (deep _) free.untaken target
    (record f.key (f.nonces f.seals) g)
  obtain ⟨seals,counted⟩ := f.countSealOnly
  have next := rewrites orderly usable touches (Nat.mod_lt (f.disk.temporaries + 1) (by decide)) seals
  rw [Tree.nodeReplaced (deep _) (deep _) free.untaken,if_pos rfl,Cell.of,readRecordOf] at next
  refine ⟨_,?_,next⟩
  change (Response.done (f.save id g).1,(f.save id g).2) = _
  unfold save
  simp only [recordPathOf usable]
  rw [replaced,counted]
  rfl

theorem saveBlocked (stands : f.disk.tree.HasDirectory (home ++ [recordName id])) (g : Grant) :
    Obeys f home id (.save g) (.done (.error (.disk .isDirectory)),.blocked) := by
  obtain ⟨tree,replaced,touches⟩ := Disk.replaceBlocked orderly.calm orderly.houses (recordEntry usable)
    stands (temporaryRecord orderly.toReady usable) (freeRecord orderly usable)
    (record f.key (f.nonces f.seals) g)
  obtain ⟨seals,counted⟩ := f.countSealOnly
  have next := rewrites orderly usable (touches.mono nofun)
    (Nat.mod_lt (f.disk.temporaries + 1) (by decide)) seals
  obtain ⟨mode,there⟩ := stands
  rw [touches.rest _ not_false,there] at next
  refine ⟨_,?_,next⟩
  change (Response.done (f.save id g).1,(f.save id g).2) = _
  unfold save
  simp only [recordPathOf usable]
  rw [replaced,counted]
  rfl

theorem saveObeys (g : Grant) : Obeys f home id (.save g) ((f.cell id).respond id (.save g)) := by
  rw [cellNode orderly usable]
  cases node : f.disk.tree.node? (home ++ [recordName id]) with
  | none => exact saveFree orderly usable (by simp [Tree.NoDirectory,node]) g
  | some there =>
    cases there with
    | file mode content => exact saveFree orderly usable (by simp [Tree.NoDirectory,node]) g
    | directory mode => exact saveBlocked orderly usable ⟨mode,node⟩ g

theorem loadObeys : Obeys f home id .load ((f.cell id).respond id .load) := by
  have there := resolvesRecord orderly usable
  have asks := Path.asksJoin f.directory (recordNamed usable).toIsPart
  have stay := stays orderly id
  rw [cellNode orderly usable] at stay ⊢
  have looked : answer f (Access.load.by id) = (.loaded (f.load id).1,(f.load id).2) := rfl
  unfold load Disk.read at looked
  simp only [recordPathOf usable] at looked
  rw [Disk.lookCalm orderly.calm,Tree.read] at looked
  cases node : f.disk.tree.node? (home ++ [recordName id]) with
  | none =>
    rw [Tree.findNothing there node] at looked
    rw [node] at stay
    exact ⟨f,looked,stay⟩
  | some here =>
    rw [node] at stay
    cases here with
    | file mode content =>
      rw [Tree.findFile asks there node] at looked
      cases held : readRecord f.key content with
      | ok g =>
        simp only [Cell.of,held] at looked stay ⊢
        exact ⟨f,looked,stay⟩
      | error defect =>
        simp only [Cell.of,held] at looked stay ⊢
        exact ⟨f,looked,stay⟩
    | directory mode =>
      rw [Tree.findDirectory there node] at looked
      exact ⟨f,looked,stay⟩

theorem eraseObeys : Obeys f home id .erase ((f.cell id).respond id .erase) := by
  have there := resolvesRecord orderly usable
  have asks := Path.asksJoin f.directory (recordNamed usable).toIsPart
  have deep := Tree.entryDeep home (recordName id)
  have stay := stays orderly id
  rw [cellNode orderly usable] at stay ⊢
  have left : answer f (Access.erase.by id) = (.done (f.erase id).1,(f.erase id).2) := rfl
  unfold Folder.erase Disk.removeFile at left
  simp only [recordPathOf usable] at left
  cases node : f.disk.tree.node? (home ++ [recordName id]) with
  | none =>
    have missing : f.disk.tree.removeFile (f.directory.join ⟨recordName id⟩) = .error .notFound := by
      rw [Tree.removeFile,Tree.findNothing there node]
    rw [Disk.changeFails orderly.calm missing] at left
    rw [node] at stay
    exact ⟨f,left,stay⟩
  | some here =>
    cases here with
    | file mode content =>
      have free : f.disk.tree.NoDirectory (home ++ [recordName id]) := by simp [Tree.NoDirectory,node]
      have next := rewrites orderly usable (Tree.touchesRemove rfl deep free) orderly.counted f.seals
      rw [Tree.nodeRemove deep,if_pos rfl] at next
      have removed := Tree.removesHere (Tree.findFile asks there node)
      rw [Disk.changeCalm orderly.calm removed] at left
      exact ⟨_,left,next⟩
    | directory mode =>
      have stuck : f.disk.tree.removeFile (f.directory.join ⟨recordName id⟩) = .error .isDirectory := by
        rw [Tree.removeFile,Tree.findDirectory there node]
      rw [Disk.changeFails orderly.calm stuck] at left
      rw [node] at stay
      exact ⟨f,left,stay⟩

theorem accessObeys (a : Access) : Obeys f home id a ((f.cell id).respond id a) := by
  cases a with
  | save g => exact saveObeys orderly usable g
  | load => exact loadObeys orderly usable
  | erase => exact eraseObeys orderly usable

end

theorem accessRefused (orderly : f.Orderly home) (barred : ¬ Enrollment.isUsableId id = true) (a : Access) :
    Obeys f home id a (refuse id a,f.cell id) := by
  refine ⟨f,?_,stays orderly id⟩
  cases a with
  | save g =>
    change (Response.done (f.save id g).1,(f.save id g).2) = _
    unfold save
    simp only [noRecordPath barred]
    rfl
  | load =>
    change (Response.loaded (f.load id).1,(f.load id).2) = _
    unfold load
    simp only [noRecordPath barred]
    rfl
  | erase =>
    change (Response.done (f.erase id).1,(f.erase id).2) = _
    unfold Folder.erase
    simp only [noRecordPath barred]
    rfl

def reply (id : String) (held : Cell) (a : Access) : Response × Cell :=
  if Enrollment.isUsableId id then held.respond id a else (refuse id a,held)

theorem obeys (orderly : f.Orderly home) (id : String) (a : Access) :
    Obeys f home id a (reply id (f.cell id) a) := by
  unfold reply
  split
  · rename_i usable
    exact accessObeys orderly usable a
  · rename_i barred
    exact accessRefused orderly barred a

instance : Parted Folder where
  Cell := Cell
  cell := cell
  reply := reply
  Sound f := ∃ home, f.Orderly home
  replies {f} sound id a := by
    obtain ⟨home,orderly⟩ := sound
    obtain ⟨f',answered,rewritten⟩ := obeys orderly id a
    rw [answered]
    exact Prod.ext rfl rewritten.own
  apart {f} sound id other apart a := by
    obtain ⟨home,orderly⟩ := sound
    obtain ⟨f',answered,rewritten⟩ := obeys orderly id a
    rw [answered]
    exact rewritten.apart other apart
  remains {f} sound id a := by
    obtain ⟨home,orderly⟩ := sound
    obtain ⟨f',answered,rewritten⟩ := obeys orderly id a
    rw [answered]
    exact ⟨home,rewritten.orderly⟩

end Vault.Folder

end GrantKeeper

import GrantKeeper.Proofs.Disk.Entry

/-! A disk that no mishaps are due on. In a directory that is there every operation on an entry
does what it is for, and a replacement is all of one piece. -/
namespace GrantKeeper.Disk
open Text (Octets)
open Disk.Path (IsEntry)

namespace Tree
variable {t u : Tree} {dir p : Path} {home place : Place}

structure Houses (t : Tree) (dir : Path) (home : Place) : Prop where
  resolves : t.resolve dir = .ok home
  directory : ∃ mode, t.node? home = some (.directory mode)

theorem Houses.touched {P : Place → Prop} (houses : t.Houses dir home) (touches : Touches P t u) :
    u.Houses dir home := by
  obtain ⟨resolves,⟨mode,there⟩⟩ := houses
  exact ⟨touches.resolve resolves,⟨mode,(touches.directory home mode).mpr there⟩⟩

theorem followInto {names : List String} {name : String} (down : name ≠ "..")
    (short : name.utf8ByteSize ≤ longestName) (there : t.follow place names = .ok home) {mode : Nat}
    (directory : t.node? home = some (.directory mode)) :
    t.follow place (names ++ [name]) = .ok (home ++ [name]) := by
  induction names generalizing place with
  | nil =>
    cases there
    simp only [List.nil_append,follow,directory,if_neg down,if_neg (Nat.not_lt.mpr short)]
  | cons first names ih =>
    simp only [List.cons_append,follow] at there ⊢
    split at there
    · cases there
    · cases there
    · split at there
      · rename_i up
        rw [if_pos up]
        exact ih there
      · rename_i deeper
        rw [if_neg deeper]
        split at there
        · cases there
        · rename_i inside
          rw [if_neg inside]
          exact ih there

theorem Houses.resolve (houses : t.Houses dir home) {name : String} (entry : IsEntry name)
    (parts : p.parts = dir.parts ++ [name]) (absolute : p.isAbsolute = dir.isAbsolute) (clear : p.Clear)
    (short : p.Short) : t.resolve p = .ok (home ++ [name]) := by
  obtain ⟨resolves,⟨mode,there⟩⟩ := houses
  have filled : p.text.isEmpty = false := by
    cases empty : p.text.isEmpty with
    | false => rfl
    | true =>
      have nothing : p.parts = [] := by
        rw [Path.parts,show p.text = "" by simpa using empty]
        rfl
      rw [nothing] at parts
      simp at parts
  have clean : p.text.toList.contains '\x00' = false := by simpa [Path.Clear] using clear
  unfold Tree.resolve at resolves ⊢
  rw [clean,filled,if_neg Bool.false_ne_true,if_neg Bool.false_ne_true,if_neg (Nat.not_lt.mpr short),
    parts,absolute]
  split at resolves
  · cases resolves
  · split at resolves
    · cases resolves
    · split at resolves
      · cases resolves
      · exact followInto entry.down entry.short resolves there

theorem Houses.clear (houses : t.Houses dir home) : dir.Clear := by
  have resolves := houses.resolves
  unfold Tree.resolve at resolves
  split at resolves
  · cases resolves
  · rename_i clean
    simpa [Path.Clear] using clean

theorem Houses.join (houses : t.Houses dir home) {name : String} (entry : IsEntry name)
    (short : (dir.join ⟨name⟩).Short) : t.resolve (dir.join ⟨name⟩) = .ok (home ++ [name]) :=
  houses.resolve entry (Path.partsJoin dir entry.toIsPart) (Path.absoluteJoin dir entry.toIsPart)
    (Path.clearJoin houses.clear entry) short

theorem Houses.beside (houses : t.Houses dir home) {name : String} (entry : IsEntry name)
    (short : ((Path.ofParts dir.isAbsolute dir.parts).join ⟨name⟩).Short) :
    t.resolve ((Path.ofParts dir.isAbsolute dir.parts).join ⟨name⟩) = .ok (home ++ [name]) := by
  have inner := Path.partsArePart dir
  refine houses.resolve entry ?_ ?_ (Path.clearJoin (Path.clearOfParts houses.clear _) entry) short
  · rw [Path.partsJoin _ entry.toIsPart,Path.partsOfParts _ inner]
  · rw [Path.absoluteJoin _ entry.toIsPart,Path.absoluteOfParts _ inner]

/-! Operations on a path to a file or to nothing. -/

def file? (t : Tree) (place : Place) : Option Octets :=
  match t.node? place with
  | some (.file _ content) => some content
  | _ => none

theorem fileOrNothing (free : t.NoDirectory place) : (t.node? place = none ∧ t.file? place = none) ∨
    ∃ mode content, t.node? place = some (.file mode content) ∧ t.file? place = some content := by
  unfold file?
  cases here : t.node? place with
  | none => exact .inl ⟨rfl,rfl⟩
  | some node =>
    cases node with
    | file mode content => exact .inr ⟨mode,content,rfl,rfl⟩
    | directory mode => exact absurd here (free mode)

theorem findNothing (there : t.resolve p = .ok place) (free : t.node? place = none) :
    t.find p = .error .notFound := by
  simp [find,there,free]

theorem findFile (asks : p.asksDirectory = false) (there : t.resolve p = .ok place) {mode : Nat}
    {content : Octets} (file : t.node? place = some (.file mode content)) :
    t.find p = .ok (place,.file mode content) := by
  simp [find,there,file,asks]

theorem findDirectory (there : t.resolve p = .ok place) {mode : Nat}
    (directory : t.node? place = some (.directory mode)) : t.find p = .ok (place,.directory mode) := by
  simp [find,there,directory]

theorem slotHere (dots : p.endsInDots = false) (there : t.resolve p = .ok place) :
    t.slot p = .ok (some place) := by
  simp [slot,dots,there,Except.map]

theorem createsHere (dots : p.endsInDots = false) (asks : p.asksDirectory = false)
    (there : t.resolve p = .ok place) (free : t.node? place = none) (mode : Nat) :
    t.createNew p mode = .ok (t.put place (.file mode [])) := by
  simp [createNew,slotHere dots there,asks,free]

theorem appendsHere {mode : Nat} {content : Octets} (found : t.find p = .ok (place,.file mode content))
    (octets : Octets) : t.append p octets = .ok (t.put place (.file mode (content ++ octets))) := by
  simp [append,found]

theorem readsHere {mode : Nat} {content : Octets} (found : t.find p = .ok (place,.file mode content)) :
    t.read p = .ok content := by
  simp [read,found]

theorem renamesHere {source : Path} {goal : Place} {node : Node} (found : t.find source = .ok (place,node))
    (dots : p.endsInDots = false) (asks : p.asksDirectory = false) (aim : t.resolve p = .ok goal)
    (free : t.NoDirectory goal) : t.rename source p = .ok ((t.remove place).put goal node) := by
  have unfilled : (t.node? goal).any Node.isDirectory = false := by
    cases here : t.node? goal with
    | none => rfl
    | some other =>
      cases other with
      | file mode content => rfl
      | directory mode => exact absurd here (free mode)
  simp [rename,found,slotHere dots aim,asks,unfilled]

theorem renamesNot {source : Path} {goal : Place} {node : Node} (found : t.find source = .ok (place,node))
    (dots : p.endsInDots = false) (asks : p.asksDirectory = false) (aim : t.resolve p = .ok goal)
    (stands : t.HasDirectory goal) : t.rename source p = .error .isDirectory := by
  obtain ⟨mode,there⟩ := stands
  simp [rename,found,slotHere dots aim,asks,there,Node.isDirectory]

theorem removesHere {mode : Nat} {content : Octets} (found : t.find p = .ok (place,.file mode content)) :
    t.removeFile p = .ok (t.remove place) := by
  simp [removeFile,found]

theorem readsEntry (houses : t.Houses dir home) {name : String} (entry : IsEntry name)
    (short : (dir.join ⟨name⟩).Short) (free : t.NoDirectory (home ++ [name])) : t.read (dir.join ⟨name⟩) =
      match t.file? (home ++ [name]) with
      | some content => .ok content
      | none => .error .notFound := by
  have there := houses.join entry short
  rcases fileOrNothing free with ⟨nothing,none⟩ | ⟨mode,content,file,some⟩
  · rw [read,findNothing there nothing,none]
  · rw [readsHere (findFile (Path.asksJoin dir entry.toIsPart) there file),some]

theorem removesEntry (houses : t.Houses dir home) {name : String} (entry : IsEntry name)
    (short : (dir.join ⟨name⟩).Short) (free : t.NoDirectory (home ++ [name])) :
    t.removeFile (dir.join ⟨name⟩) =
      if (t.file? (home ++ [name])).isSome then .ok (t.remove (home ++ [name]))
      else .error .notFound := by
  have there := houses.join entry short
  rcases fileOrNothing free with ⟨nothing,none⟩ | ⟨mode,content,file,some⟩
  · rw [removeFile,findNothing there nothing,none]
    rfl
  · rw [removeFile,findFile (Path.asksJoin dir entry.toIsPart) there file,some]
    rfl

/-! What a replacement leaves: the temporary file has come and gone. -/

def withFile (t : Tree) (place : Place) (octets : Octets) : Tree :=
  t.put place (.file privateFileMode octets)

def replaced (t : Tree) (place goal : Place) (octets : Octets) : Tree :=
  (((t.withFile place []).withFile place octets).remove place).withFile goal octets

structure Holds (t : Tree) (dir : Path) (home : Place) (name : String) (octets : Octets) : Prop where
  houses : t.Houses dir home
  file : t.node? (home ++ [name]) = some (.file privateFileMode octets)

variable {name : String} {octets : Octets}

theorem entryDeep (home : Place) (name : String) : home ++ [name] ≠ [] := by
  simp

theorem Houses.withFile (houses : t.Houses dir home) (free : t.NoDirectory (home ++ [name]))
    (octets : Octets) : (t.withFile (home ++ [name]) octets).Holds dir home name octets := by
  have touches := touchesPut (P := (· = home ++ [name])) rfl (entryDeep home name) free privateFileMode octets
  refine ⟨houses.touched touches,?_⟩
  rw [Tree.withFile,nodePut (entryDeep home name),if_pos rfl]

theorem withFileFree {place goal : Place} (deep : place ≠ []) (target : t.NoDirectory goal) :
    (t.withFile place octets).NoDirectory goal := by
  intro mode
  rw [Tree.withFile,nodePut deep]
  split
  · simp
  · exact target mode

theorem Holds.rewritten (holds : t.Holds dir home name octets) (others : Octets) :
    (t.withFile (home ++ [name]) others).Holds dir home name others :=
  holds.houses.withFile (by simp [NoDirectory,holds.file]) others

theorem Holds.found (holds : t.Holds dir home name octets) (entry : IsEntry name)
    (short : ((Path.ofParts dir.isAbsolute dir.parts).join ⟨name⟩).Short) :
    t.find ((Path.ofParts dir.isAbsolute dir.parts).join ⟨name⟩) =
      .ok (home ++ [name],.file privateFileMode octets) :=
  findFile (Path.asksJoin _ entry.toIsPart) (holds.houses.beside entry short) holds.file

theorem nodeReplaced {place goal : Place} (deep : place ≠ []) (deeper : goal ≠ [])
    (free : t.node? place = none) (other : Place) : (t.replaced place goal octets).node? other =
      if goal = other then some (.file privateFileMode octets) else t.node? other := by
  unfold replaced Tree.withFile
  rw [nodePut deeper,nodeRemove deep,nodePut deep,nodePut deep]
  split
  · rfl
  · split
    · rename_i here
      rw [← here,free]
    · rfl

theorem touchesReplaced {place goal : Place} (deep : place ≠ []) (deeper : goal ≠ [])
    (free : t.node? place = none) (target : t.NoDirectory goal) (octets : Octets) :
    Touches (· = goal) t (t.replaced place goal octets) where
  working := rfl
  rest other apart := by
    rw [nodeReplaced deep deeper free,if_neg (Ne.symm apart)]
  directory other mode := by
    rw [nodeReplaced deep deeper free]
    split
    · rename_i same
      subst same
      simp [target mode]
    · rfl

theorem nodeWithdrawn {place : Place} (deep : place ≠ []) (free : t.node? place = none) (other : Place) :
    (((t.withFile place []).withFile place octets).remove place).node? other = t.node? other := by
  unfold Tree.withFile
  rw [nodeRemove deep,nodePut deep,nodePut deep]
  split
  · rename_i here
    rw [← here,free]
  · rfl

theorem touchesWithdrawn {place : Place} (deep : place ≠ []) (free : t.node? place = none)
    (octets : Octets) :
    Touches (fun _ => False) t (((t.withFile place []).withFile place octets).remove place) where
  working := rfl
  rest other _ := nodeWithdrawn deep free other
  directory other mode := by rw [nodeWithdrawn deep free]

end Tree

variable {d : Disk} {dir : Path} {home : Place} {name : String} {octets : Octets}

structure Free (t : Tree) (dir : Path) (home : Place) (name : String) (process n : Nat) : Prop where
  target : (dir.join ⟨name⟩).Short
  temporary : (temporaryPath (dir.join ⟨name⟩) process n).Short
  untaken : t.node? (home ++ [temporaryName name process n]) = none

structure Rewrites (d : Disk) (temporary p : Path) (octets : Octets) (place goal : Place) (d' : Disk) :
    Prop where
  temporary : d.tree.resolve temporary = .ok place
  untaken : d.tree.node? place = none
  target : d.tree.resolve p = .ok goal
  free : d.tree.NoDirectory goal
  asks : p.asksDirectory = false
  tree : d'.tree = d.tree.replaced place goal octets

theorem throughRewrites {path p : Path} {d' : Disk} (went : d.replaceThrough path p octets = (.ok (),d')) :
    ∃ place goal, Rewrites d path p octets place goal d' := by
  unfold replaceThrough at went
  obtain ⟨u,d1,created,went⟩ := Outcome.ofAndThen went
  obtain ⟨u,d2,written,went⟩ := Outcome.ofAndThen went
  obtain ⟨u,d3,synced,went⟩ := Outcome.ofAndThen went
  have still : d3.tree = d2.tree := by
    have looked := lookTree d2 (fun t => (t.read path).map fun _ => ())
    exact (congrArg (fun r : Step Unit => r.2.tree) synced).symm.trans looked
  obtain ⟨place,there,untaken,made⟩ := Tree.createdThere (changeOk created)
  obtain ⟨place1,mode,content,there1,empty,full⟩ := Tree.appendedThere (appendOk written)
  obtain ⟨place2,node,goal,there2,file,aim,free,last,asks⟩ := Tree.renamedThere (changeOk went)
  have deep : place ≠ [] := by
    rintro rfl
    cases untaken
  -- the temporary file is at the same place all the time
  have first : Tree.Touches (· = place) d.tree d1.tree := by
    have free : d.tree.NoDirectory place := by simp [Tree.NoDirectory,untaken]
    rw [made]
    exact Tree.touchesPut (P := (· = place)) rfl deep free _ _
  cases Except.ok.inj ((first.resolve there).symm.trans there1)
  rw [made,Tree.nodePut deep,if_pos rfl] at empty
  cases empty
  have second : Tree.Touches (· = place) d1.tree d2.tree := by
    have free : d1.tree.NoDirectory place := by simp [Tree.NoDirectory,made,Tree.nodePut deep]
    rw [full]
    exact Tree.touchesPut (P := (· = place)) rfl deep free _ _
  have both := first.trans second
  rw [still] at there2 file aim free last
  cases Except.ok.inj ((both.resolve there).symm.trans there2)
  rw [full,Tree.nodePut deep,if_pos rfl] at file
  cases file
  refine ⟨place,goal,there,untaken,both.symm.resolve aim,?_,asks,?_⟩
  · exact fun kind directory => free kind ((both.directory goal kind).mpr directory)
  · rw [last,full,made]
    rfl

theorem replaceRewrites {p : Path} {d' : Disk} (went : d.replace p octets = (.ok (),d')) :
    ∃ place goal, Rewrites d (temporaryPath p d.process d.temporaries) p octets place goal d' := by
  unfold replace at went
  simp only at went
  split at went
  · rename_i d1 through
    cases went
    obtain ⟨place,goal,temporary,untaken,target,free,asks,tree⟩ := throughRewrites through
    exact ⟨place,goal,temporary,untaken,target,free,asks,tree⟩
  · cases went

theorem replaceFree (houses : d.tree.Houses dir home) (entry : IsEntry name)
    (temporary : IsEntry (temporaryName name d.process d.temporaries))
    (went : (d.replace (dir.join ⟨name⟩) octets).1 = .ok ()) :
    Free d.tree dir home name d.process d.temporaries := by
  obtain ⟨place,goal,rewrites⟩ := replaceRewrites (Prod.ext went rfl)
  have there := rewrites.temporary
  rw [temporaryPathJoin entry.toIsName] at there
  have short := Tree.resolveShort there
  refine ⟨Tree.resolveShort rewrites.target,?_,?_⟩
  · rw [temporaryPathJoin entry.toIsName]
    exact short
  · cases Except.ok.inj (there.symm.trans (houses.beside temporary short))
    exact rewrites.untaken

theorem Rewrites.touches {temporary p : Path} {place goal : Place} {d' : Disk}
    (rewrites : Rewrites d temporary p octets place goal d') :
    Tree.Touches (· = goal) d.tree d'.tree ∧ d'.tree.file? goal = some octets := by
  have deep : place ≠ [] := by
    rintro rfl
    cases rewrites.untaken
  have deeper : goal ≠ [] := by
    rintro rfl
    exact rewrites.free _ rfl
  rw [rewrites.tree]
  refine ⟨Tree.touchesReplaced deep deeper rewrites.untaken rewrites.free octets,?_⟩
  unfold Tree.file?
  rw [Tree.nodeReplaced deep deeper rewrites.untaken,if_pos rfl]

section
variable (calm : d.mishaps = [])
include calm

theorem calmMishap : d.nextMishap = none := by
  simp [nextMishap,calm]

theorem calmAfter : d.afterMishap = d := by
  obtain ⟨tree,mishaps,process,temporaries⟩ := d
  cases calm
  rfl

theorem lookCalm {α : Type} (f : Tree → Except Fault α) : d.look f = (f d.tree,d) := by
  rw [look,calmMishap calm,calmAfter calm]

theorem changeCalm {f : Tree → Except Fault Tree} {tree : Tree} (went : f d.tree = .ok tree) :
    d.change f = (.ok (),{ d with tree }) := by
  rw [change,calmMishap calm,calmAfter calm]
  simp only [went]

theorem changeFails {f : Tree → Except Fault Tree} {fault : Fault} (failed : f d.tree = .error fault) :
    d.change f = (.error fault,d) := by
  rw [change,calmMishap calm,calmAfter calm]
  simp only [failed]

theorem appendCalm {p : Path} {octets : Octets} {tree : Tree} (went : d.tree.append p octets = .ok tree) :
    d.append p octets = (.ok (),{ d with tree }) := by
  rw [append,calmMishap calm,calmAfter calm]
  simp only [went]

theorem stagesCalm (houses : d.tree.Houses dir home) {beside : String} (temporary : IsEntry beside)
    (short : ((Path.ofParts dir.isAbsolute dir.parts).join ⟨beside⟩).Short)
    (untaken : d.tree.node? (home ++ [beside]) = none) (p : Path) (octets : Octets) :
    let path := (Path.ofParts dir.isAbsolute dir.parts).join ⟨beside⟩
    let full := (d.tree.withFile (home ++ [beside]) []).withFile (home ++ [beside]) octets
    d.replaceThrough path p octets = rename { d with tree := full } path p ∧
      full.Holds dir home beside octets := by
  intro path full
  have dots := Path.dotsJoin (Path.ofParts dir.isAbsolute dir.parts) temporary.toIsName
  have asks := Path.asksJoin (Path.ofParts dir.isAbsolute dir.parts) temporary.toIsPart
  have unfilled : d.tree.NoDirectory (home ++ [beside]) := by simp [Tree.NoDirectory,untaken]
  have made := houses.withFile unfilled []
  have holds := made.rewritten octets
  have created : d.createNew path privateFileMode =
      (.ok (),{ d with tree := d.tree.withFile (home ++ [beside]) [] }) :=
    changeCalm calm (Tree.createsHere dots asks (houses.beside temporary short) untaken privateFileMode)
  have written : append { d with tree := d.tree.withFile (home ++ [beside]) [] } path octets =
      (.ok (),{ d with tree := full }) :=
    appendCalm (by exact calm) (Tree.appendsHere (made.found temporary short) octets)
  have synced : sync { d with tree := full } path = (.ok (),{ d with tree := full }) := by
    unfold sync
    rw [lookCalm (by exact calm),Tree.readsHere (holds.found temporary short)]
    rfl
  refine ⟨?_,holds⟩
  unfold replaceThrough
  rw [created,Outcome.andThenOk,written,Outcome.andThenOk,synced,Outcome.andThenOk]

theorem replaceCalm (houses : d.tree.Houses dir home) (entry : IsEntry name)
    (target : d.tree.NoDirectory (home ++ [name]))
    (temporary : IsEntry (temporaryName name d.process d.temporaries))
    (free : Free d.tree dir home name d.process d.temporaries) (octets : Octets) :
    let beside := home ++ [temporaryName name d.process d.temporaries]
    d.replace (dir.join ⟨name⟩) octets = (.ok (),{ d.countTemporary with
      tree := d.tree.replaced beside (home ++ [name]) octets }) := by
  intro place
  obtain ⟨inside,short,untaken⟩ := free
  unfold replace place
  rw [temporaryPathJoin entry.toIsName] at short ⊢
  generalize temporaryName name d.process d.temporaries = beside at temporary short untaken ⊢
  obtain ⟨through,full⟩ := stagesCalm (d := d.countTemporary) calm houses temporary short untaken
    (dir.join ⟨name⟩) octets
  have goal : (d.tree.withFile (home ++ [beside]) []).NoDirectory (home ++ [name]) :=
    Tree.withFileFree (Tree.entryDeep home beside) target
  have move := Tree.renamesHere (full.found temporary short) (Path.dotsJoin dir entry.toIsName)
    (Path.asksJoin dir entry.toIsPart) (full.houses.join entry inside)
    (Tree.withFileFree (Tree.entryDeep home beside) goal)
  simp only [through]
  unfold rename
  rw [changeCalm (by exact calm) move]
  rfl

theorem replaceBlocked (houses : d.tree.Houses dir home) (entry : IsEntry name)
    (target : d.tree.HasDirectory (home ++ [name]))
    (temporary : IsEntry (temporaryName name d.process d.temporaries))
    (free : Free d.tree dir home name d.process d.temporaries) (octets : Octets) :
    ∃ tree, d.replace (dir.join ⟨name⟩) octets = (.error .isDirectory,{ d.countTemporary with tree }) ∧
      Tree.Touches (fun _ => False) d.tree tree := by
  obtain ⟨inside,short,untaken⟩ := free
  unfold replace
  rw [temporaryPathJoin entry.toIsName] at short ⊢
  generalize temporaryName name d.process d.temporaries = beside at temporary short untaken ⊢
  have deep := Tree.entryDeep home beside
  obtain ⟨through,full⟩ := stagesCalm (d := d.countTemporary) calm houses temporary short untaken
    (dir.join ⟨name⟩) octets
  have withdrawn := Tree.touchesWithdrawn deep untaken octets
  have found := full.found temporary short
  have stands : ((d.tree.withFile (home ++ [beside]) []).withFile (home ++ [beside]) octets).HasDirectory
      (home ++ [name]) := by
    obtain ⟨mode,there⟩ := target
    have apart : home ++ [beside] ≠ home ++ [name] := by
      intro same
      cases (same ▸ untaken).symm.trans there
    exact ⟨mode,by simp only [Tree.withFile,Tree.nodePut deep,if_neg apart,there]⟩
  have stuck := Tree.renamesNot found (Path.dotsJoin dir entry.toIsName)
    (Path.asksJoin dir entry.toIsPart) (full.houses.join entry inside) stands
  have removed := Tree.removesHere found
  refine ⟨_,?_,withdrawn⟩
  simp only [through]
  unfold rename
  rw [changeFails (by exact calm) stuck]
  simp only
  unfold removeFile
  rw [changeCalm (by exact calm) removed]
  rfl

end

end GrantKeeper.Disk

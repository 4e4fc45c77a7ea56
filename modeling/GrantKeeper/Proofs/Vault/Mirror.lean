import GrantKeeper.Cipher.Nonce
import GrantKeeper.Proofs.Vault.Listing

/-! A folder answers as a vault in memory does. Both are empty at first, and the directory may
hold what it will, but for records and what stands in the way of those asked for. -/
namespace GrantKeeper.Vault
open Disk (Path Tree Place temporaryName)

inductive Request
  | save (id : String) (g : Grant)
  | load (id : String)
  | erase (id : String)
  | ids
  deriving Repr

inductive Response
  | done (result : Except Fault Unit)
  | loaded (result : Except Fault (Option Grant))
  | listed (result : Except Fault (List String))
  deriving Repr

def Response.Faults : Response → Prop
  | .done (.error (.disk _)) | .loaded (.error (.disk _)) | .listed (.error (.disk _)) => True
  | _ => False

variable {ω : Type} [Vault ω]

def answer (v : ω) : Request → Response × ω
  | .save id g => let (result,v) := Vault.save v id g; (.done result,v)
  | .load id => let (result,v) := Vault.load v id; (.loaded result,v)
  | .erase id => let (result,v) := Vault.erase v id; (.done result,v)
  | .ids => let (result,v) := Vault.ids v; (.listed result,v)

def answers (v : ω) : List Request → List Response
  | [] => []
  | r :: rs => (answer v r).1 :: answers (answer v r).2 rs

namespace Folder

def Suits (t : Tree) (home : Place) : Request → Prop
  | .save id g => (Enrollment.isUsableId id = true ∧ t.NoDirectory (home ++ [recordName id])) ∧ g.IsWhole
  | .load id | .erase id => Enrollment.isUsableId id = true ∧ t.NoDirectory (home ++ [recordName id])
  | .ids => True

def Goes (f : Folder) (home : Place) : Request → Prop
  | .save id _ =>
    Disk.Free f.disk.tree f.directory home (recordName id) f.disk.process f.disk.temporaries
  | .load id | .erase id => (f.directory.join ⟨recordName id⟩).Short
  | .ids => True

def countRequest (f : Folder) : Request → Folder
  | .save .. => { f with disk := f.disk.countTemporary }
  | _ => f

def GoThrough (f : Folder) (home : Place) : List Request → Prop
  | [] => True
  | r :: rs => f.Goes home r ∧ (f.countRequest r).GoThrough home rs

structure Ready (f : Folder) (home : Place) (rs : List Request) : Prop where
  calm : f.disk.mishaps = []
  houses : f.disk.tree.Houses f.directory home
  process : f.disk.process < Disk.temporaryLimit
  counted : f.disk.temporaries < Disk.temporaryLimit
  suits : ∀ r ∈ rs, Suits f.disk.tree home r

variable {f : Folder} {home : Place} {t u : Tree} {r : Request} {rs : List Request} {id : String}

theorem suitsTouched {P : Place → Prop} (touches : Tree.Touches P t u) (suits : Suits t home r) :
    Suits u home r := by
  have still : ∀ place, t.NoDirectory place → u.NoDirectory place :=
    fun place free mode there => free mode ((touches.directory place mode).mp there)
  cases r with
  | save id g => exact ⟨⟨suits.1.1,still _ suits.1.2⟩,suits.2⟩
  | load id => exact ⟨suits.1,still _ suits.2⟩
  | erase id => exact ⟨suits.1,still _ suits.2⟩
  | ids => trivial

theorem goesTouched (usable : Enrollment.isUsableId id = true)
    (touches : Tree.Touches (· = home ++ [recordName id]) f.disk.tree t) (seals : Nat) :
    Goes { f with disk := { f.disk with tree := t }, seals } home r ↔ f.Goes home r := by
  cases r with
  | save other g =>
    -- temporary names begin with a dot, and ids do not
    have apart : home ++ [temporaryName (recordName other) f.disk.process f.disk.temporaries] ≠
        home ++ [recordName id] := by
      intro same
      have names := List.singleton_inj.mp (List.append_inj_right' same rfl)
      exact recordNotTemporary usable _ _ _ names.symm
    have rest := touches.rest _ apart
    constructor
    · rintro ⟨target,temporary,untaken⟩
      exact ⟨target,temporary,rest.symm.trans untaken⟩
    · rintro ⟨target,temporary,untaken⟩
      exact ⟨target,temporary,rest.trans untaken⟩
  | _ => rfl

theorem goThroughTouched (usable : Enrollment.isUsableId id = true)
    (touches : Tree.Touches (· = home ++ [recordName id]) f.disk.tree t) (seals : Nat) :
    GoThrough { f with disk := { f.disk with tree := t }, seals } home rs ↔ f.GoThrough home rs := by
  induction rs generalizing f with
  | nil => rfl
  | cons r rs ih =>
    have first := goesTouched (r := r) usable touches seals
    cases r with
    | save other g => exact and_congr first (ih (f := { f with disk := f.disk.countTemporary }) touches)
    | _ => exact and_congr first (ih touches)

theorem Ready.next (ready : f.Ready home (r :: rs)) {P : Place → Prop}
    (touches : Tree.Touches P f.disk.tree t) {n : Nat} (counted : n < Disk.temporaryLimit) (seals : Nat) :
    Ready { f with disk := { f.disk with tree := t, temporaries := n }, seals } home rs where
  calm := ready.calm
  houses := ready.houses.touched touches
  process := ready.process
  counted := counted
  suits r member := suitsTouched touches (ready.suits r (List.mem_cons_of_mem _ member))

theorem Ready.tail (ready : f.Ready home (r :: rs)) : f.Ready home rs :=
  ready.next (Tree.touchesSelf (fun _ => False) f.disk.tree) ready.counted f.seals

structure Mirrors (f : Folder) (home : Place) (m : Memory) : Prop where
  records : ∀ id, Enrollment.isUsableId id = true →
    (f.disk.tree.file? (home ++ [recordName id])).map (readRecord f.key) = m.grants[id]?.map .ok
  known : ∀ id ∈ m.grants, Enrollment.isUsableId id = true ∧ (f.directory.join ⟨recordName id⟩).Short

variable {m : Memory}

theorem fileApart {P : Place → Prop} (touches : Tree.Touches P t u) {place : Place} (apart : ¬ P place) :
    u.file? place = t.file? place := by
  unfold Tree.file?
  rw [touches.rest place apart]

theorem Mirrors.next (mirrors : f.Mirrors home m) (usable : Enrollment.isUsableId id = true)
    (short : (f.directory.join ⟨recordName id⟩).Short)
    (touches : Tree.Touches (· = home ++ [recordName id]) f.disk.tree t) {m' : Memory}
    (own : (t.file? (home ++ [recordName id])).map (readRecord f.key) = m'.grants[id]?.map .ok)
    (others : ∀ other, id ≠ other → m'.grants[other]? = m.grants[other]?) {n : Nat}
    (seals : Nat) :
    Mirrors { f with disk := { f.disk with tree := t, temporaries := n }, seals } home m' where
  records other known := by
    by_cases same : id = other
    · rw [← same]
      exact own
    · rw [others other same,← mirrors.records other known]
      exact congrArg _ (fileApart touches fun here => same (placeInjective here.symm))
  known other member := by
    by_cases same : id = other
    · rw [← same]
      exact ⟨usable,short⟩
    · refine mirrors.known other ?_
      rw [Std.ExtTreeMap.mem_iff_isSome_getElem?] at member ⊢
      rwa [others other same] at member

structure Continues (f f' : Folder) (home : Place) (m' : Memory) (r : Request) (rs : List Request) : Prop where
  ready : f'.Ready home rs
  mirrors : f'.Mirrors home m'
  goes : f'.GoThrough home rs ↔ (f.countRequest r).GoThrough home rs

theorem temporaryRecord (ready : f.Ready home rs) (usable : Enrollment.isUsableId id = true) :
    Path.IsEntry (temporaryName (recordName id) f.disk.process f.disk.temporaries) := by
  have short : (recordName id).utf8ByteSize + 27 ≤ Tree.longestName :=
    Nat.le_trans (Nat.add_le_add_right (recordShort usable) 27) (by decide)
  exact Disk.temporaryEntry (recordEntry usable) short ready.process ready.counted

theorem saveMirrors {g : Grant} (ready : f.Ready home (.save id g :: rs)) (mirrors : f.Mirrors home m)
    (goes : f.Goes home (.save id g)) :
    ∃ f', f.save id g = (.ok (),f') ∧ Continues f f' home ⟨m.grants.insert id g⟩ (.save id g) rs := by
  obtain ⟨⟨usable,free⟩,whole⟩ := ready.suits _ List.mem_cons_self
  have deep := Tree.entryDeep home
  have replaces := Disk.replaceCalm ready.calm ready.houses (recordEntry usable) free
    (temporaryRecord ready usable) goes (record f.key (f.nonces f.seals) g)
  have touches := Tree.touchesReplaced (deep _) (deep _) goes.untaken free
    (record f.key (f.nonces f.seals) g)
  obtain ⟨seals,counted⟩ := f.countSealOnly
  refine ⟨_,?_,ready.next touches (Nat.mod_lt _ (by decide)) seals,
    mirrors.next usable goes.target touches ?_ ?_ seals,
    goThroughTouched (f := { f with disk := f.disk.countTemporary }) usable touches seals⟩
  · unfold save
    simp only [recordPathOf usable]
    rw [replaces,counted]
    rfl
  · unfold Tree.file?
    rw [Tree.nodeReplaced (deep _) (deep _) goes.untaken,if_pos rfl]
    simp [readRecordOf,show g.floored = g from whole]
  · intro other apart
    simp [Std.ExtTreeMap.getElem?_insert,apart]

theorem saveFaults {g : Grant} (ready : f.Ready home (.save id g :: rs))
    (hindered : ¬ f.Goes home (.save id g)) : ∃ fault, (f.save id g).1 = .error (.disk fault) := by
  obtain ⟨⟨usable,-⟩,-⟩ := ready.suits _ List.mem_cons_self
  have written := f.writes id g
  generalize f.save id g = result at written ⊢
  cases written with
  | unusable barred => exact absurd usable barred
  | failed usable replaced => exact ⟨_,rfl⟩
  | written usable replaced =>
    refine absurd ?_ hindered
    exact Disk.replaceFree ready.houses (recordEntry usable) (temporaryRecord ready usable)
      (congrArg Prod.fst replaced)

theorem loadMirrors (ready : f.Ready home (.load id :: rs)) (mirrors : f.Mirrors home m)
    (goes : f.Goes home (.load id)) : f.load id = (.ok m.grants[id]?,f) := by
  obtain ⟨usable,free⟩ := ready.suits _ List.mem_cons_self
  have records := mirrors.records id usable
  unfold load Disk.read
  simp only [recordPathOf usable]
  rw [Disk.lookCalm ready.calm,Tree.readsEntry ready.houses (recordEntry usable) goes free]
  cases file : f.disk.tree.file? (home ++ [recordName id]) with
  | none =>
    rw [file] at records
    cases held : m.grants[id]? with
    | none => rfl
    | some g =>
      rw [held] at records
      cases records
  | some octets =>
    rw [file] at records
    cases held : m.grants[id]? with
    | none =>
      rw [held] at records
      cases records
    | some g =>
      rw [held] at records
      simp only [Option.some.inj records]

theorem loadFaults (ready : f.Ready home (.load id :: rs)) (hindered : ¬ f.Goes home (.load id)) :
    ∃ fault, (f.load id).1 = .error (.disk fault) := by
  obtain ⟨usable,-⟩ := ready.suits _ List.mem_cons_self
  obtain ⟨fault,fails,other⟩ := f.disk.tree.findLong hindered
  refine ⟨fault,?_⟩
  unfold load Disk.read Tree.read
  simp only [recordPathOf usable]
  rw [Disk.lookCalm ready.calm,fails]
  cases fault <;> first | rfl | contradiction

theorem eraseMirrors (ready : f.Ready home (.erase id :: rs)) (mirrors : f.Mirrors home m)
    (goes : f.Goes home (.erase id)) :
    ∃ f', f.erase id = (.ok (),f') ∧ Continues f f' home ⟨m.grants.erase id⟩ (.erase id) rs := by
  obtain ⟨usable,free⟩ := ready.suits _ List.mem_cons_self
  have deep := Tree.entryDeep home (recordName id)
  have removes := Tree.removesEntry ready.houses (recordEntry usable) goes free
  have others : ∀ other, id ≠ other → (m.grants.erase id)[other]? = m.grants[other]? := by
    intro other apart
    simp [Std.ExtTreeMap.getElem?_erase,apart]
  have gone : (m.grants.erase id)[id]?.map Except.ok = (none : Option (Except RecordDefect Grant)) := by
    simp
  cases file : f.disk.tree.file? (home ++ [recordName id]) with
  | none =>
    have touches := Tree.touchesSelf (· = home ++ [recordName id]) f.disk.tree
    refine ⟨f,?_,ready.next touches ready.counted f.seals,
      mirrors.next usable goes touches ?_ others f.seals,Iff.rfl⟩
    · rw [file] at removes
      unfold Folder.erase Disk.removeFile
      simp only [recordPathOf usable]
      rw [Disk.changeFails ready.calm removes]
    · rw [file]
      exact gone.symm
  | some octets =>
    have touches : Tree.Touches (· = home ++ [recordName id]) _ _ := Tree.touchesRemove rfl deep free
    refine ⟨_,?_,ready.next touches ready.counted f.seals,
      mirrors.next usable goes touches ?_ others f.seals,goThroughTouched usable touches f.seals⟩
    · rw [file] at removes
      unfold Folder.erase Disk.removeFile
      simp only [recordPathOf usable]
      rw [Disk.changeCalm ready.calm removes]
    · unfold Tree.file?
      rw [Tree.nodeRemove deep,if_pos rfl]
      exact gone.symm

theorem eraseFaults (ready : f.Ready home (.erase id :: rs)) (hindered : ¬ f.Goes home (.erase id)) :
    ∃ fault, (f.erase id).1 = .error (.disk fault) := by
  obtain ⟨usable,-⟩ := ready.suits _ List.mem_cons_self
  obtain ⟨fault,fails,other⟩ := f.disk.tree.findLong hindered
  have removes : f.disk.tree.removeFile (f.directory.join ⟨recordName id⟩) = .error fault := by
    rw [Tree.removeFile,fails]
  refine ⟨fault,?_⟩
  unfold Folder.erase Disk.removeFile
  simp only [recordPathOf usable]
  rw [Disk.changeFails ready.calm removes]
  cases fault <;> first | rfl | contradiction

theorem idsMirrors (ready : f.Ready home (.ids :: rs)) (mirrors : f.Mirrors home m) :
    f.ids = (.ok m.grants.keys,f) := by
  obtain ⟨ids,listed,distinct,sorted,members⟩ := idsHere ready.calm ready.houses
  have ascending : m.grants.keys.Pairwise (· ≤ ·) :=
    m.grants.ordered_keys.imp fun less => String.lt_asymm (compareOfLessAndEq_eq_lt.mp less)
  have same : ∀ id, id ∈ ids ↔ id ∈ m.grants.keys := by
    intro id
    rw [members,Std.ExtTreeMap.mem_keys]
    constructor
    · rintro ⟨usable,-,file⟩
      have records := congrArg Option.isSome (mirrors.records id usable)
      rw [Option.isSome_map,Option.isSome_map,file] at records
      exact Std.ExtTreeMap.mem_iff_isSome_getElem?.mpr records.symm
    · intro held
      obtain ⟨usable,short⟩ := mirrors.known id held
      have records := congrArg Option.isSome (mirrors.records id usable)
      rw [Option.isSome_map,Option.isSome_map] at records
      exact ⟨usable,short,records.trans (Std.ExtTreeMap.mem_iff_isSome_getElem?.mp held)⟩
  have perm := (List.perm_ext_iff_of_nodup distinct m.grants.nodup_keys).mpr same
  rw [listed,perm.eq_of_pairwise (fun a b _ _ => String.le_antisymm) sorted ascending]

theorem answerMirrors (ready : f.Ready home (r :: rs)) (mirrors : f.Mirrors home m)
    (goes : f.Goes home r) :
    ∃ f', answer f r = ((answer m r).1,f') ∧ Continues f f' home (answer m r).2 r rs := by
  cases r with
  | save id g =>
    obtain ⟨f',save,next⟩ := saveMirrors ready mirrors goes
    exact ⟨f',congrArg (fun result => (Response.done result.1,result.2)) save,next⟩
  | load id =>
    have load := loadMirrors ready mirrors goes
    exact ⟨f,congrArg (fun result => (Response.loaded result.1,result.2)) load,ready.tail,mirrors,Iff.rfl⟩
  | erase id =>
    obtain ⟨f',erase,next⟩ := eraseMirrors ready mirrors goes
    exact ⟨f',congrArg (fun result => (Response.done result.1,result.2)) erase,next⟩
  | ids =>
    have ids := idsMirrors ready mirrors
    exact ⟨f,congrArg (fun result => (Response.listed result.1,result.2)) ids,ready.tail,mirrors,Iff.rfl⟩

theorem answerFaults (ready : f.Ready home (r :: rs)) (hindered : ¬ f.Goes home r) :
    (answer f r).1.Faults := by
  cases r with
  | save id g =>
    obtain ⟨fault,save⟩ := saveFaults ready hindered
    change Response.Faults (.done (f.save id g).1)
    rw [save]
    trivial
  | load id =>
    obtain ⟨fault,load⟩ := loadFaults ready hindered
    change Response.Faults (.loaded (f.load id).1)
    rw [load]
    trivial
  | erase id =>
    obtain ⟨fault,erase⟩ := eraseFaults ready hindered
    change Response.Faults (.done (f.erase id).1)
    rw [erase]
    trivial
  | ids => exact absurd trivial hindered

theorem answersMirror (ready : f.Ready home rs) (mirrors : f.Mirrors home m) :
    (f.GoThrough home rs → answers f rs = answers m rs) ∧
    (¬ f.GoThrough home rs → ∃ response ∈ answers f rs, response.Faults) := by
  induction rs generalizing f m with
  | nil => exact ⟨fun _ => rfl,fun hindered => absurd trivial hindered⟩
  | cons r rs ih =>
    -- up to the first request that is hindered both vaults go alike
    by_cases goes : f.Goes home r
    · obtain ⟨f',first,next⟩ := answerMirrors ready mirrors goes
      obtain ⟨same,fault⟩ := ih next.ready next.mirrors
      rw [next.goes] at same fault
      rw [answers,answers,first]
      refine ⟨fun through => by rw [same through.2],?_⟩
      intro hindered
      obtain ⟨response,member,faults⟩ := fault fun through => hindered ⟨goes,through⟩
      exact ⟨response,List.mem_cons_of_mem _ member,faults⟩
    · refine ⟨fun through => absurd through.1 goes,fun _ => ?_⟩
      exact ⟨_,List.mem_cons_self,answerFaults ready goes⟩

/-- A folder in whose directory is no record answers all requests as an empty vault in memory does,
with whatever key and nonces, unless a fault of the disk is among its answers. That is so only if
a path gets too long or a leftover has a temporary name that comes up again. -/
theorem answersAsMemory (ready : f.Ready home rs) (bare : ∀ id, Enrollment.isUsableId id = true →
      f.disk.tree.file? (home ++ [recordName id]) = none) :
    (f.GoThrough home rs → answers f rs = answers Memory.empty rs) ∧
    (¬ f.GoThrough home rs → ∃ response ∈ answers f rs, response.Faults) := by
  refine answersMirror ready ⟨?_,?_⟩
  · intro id usable
    rw [bare id usable]
    simp [Memory.empty]
  · intro id member
    simp [Memory.empty] at member

end Folder

def Folder.litter : Tree :=
  ((Tree.empty.put ["t"] (.directory 0o700)).put ["t","b.json"] (.directory 0o755)).put
    ["t",temporaryName "a.json" 7 5] (.file 0o600 [])

theorem Folder.litterNode (id : String) (usable : Enrollment.isUsableId id = true) :
    litter.node? ["t",Folder.recordName id] =
      if "b.json" = Folder.recordName id then some (.directory 0o755) else none := by
  have leftover : ["t",temporaryName "a.json" 7 5] ≠ ["t",Folder.recordName id] := by
    intro same
    exact Folder.recordNotTemporary usable _ _ _ (List.cons.inj (List.cons.inj same).2).1.symm
  have nothing : Tree.empty.node? ["t",Folder.recordName id] = none := by
    simp [Tree.empty,Tree.node?]
  unfold litter
  rw [Tree.nodePut (by simp),if_neg leftover,Tree.nodePut (by simp),Tree.nodePut (by simp),nothing]
  simp

theorem Folder.litterAsMemory :
    let f : Folder := ⟨Disk.ofTree Folder.litter 7,⟨"/t"⟩,some (.ofPassphrase "key"),.countFrom 0,0⟩
    let g := Grant.issued .epoch "A" "R" 60
    let rs := [.save "a" g,.load "a",.ids,.erase "a",.load "a"]
    f.Ready ["t"] rs ∧
    (∀ id, Enrollment.isUsableId id = true → f.disk.tree.file? (["t"] ++ [Folder.recordName id]) = none) ∧
    f.GoThrough ["t"] rs ∧
    answers f rs = [.done (.ok ()),.loaded (.ok (some g)),.listed (.ok ["a"]),.done (.ok ()),
      .loaded (.ok none)] := by
  intro f g rs
  have usable : Enrollment.isUsableId "a" = true := by decide
  have free : Folder.litter.NoDirectory (["t"] ++ [Folder.recordName "a"]) := by
    have nothing := Folder.litterNode "a" usable
    rw [if_neg (by decide)] at nothing
    intro mode
    rw [List.singleton_append,nothing]
    simp
  have whole : g.IsWhole := Grant.issuedWhole .epoch "A" "R" 60
  have ready : f.Ready ["t"] rs := by
    refine ⟨rfl,⟨?_,⟨0o700,?_⟩⟩,by decide,by decide,?_⟩
    · decide +kernel
    · decide +kernel
    · intro r member
      simp [rs] at member
      rcases member with rfl | rfl | rfl | rfl | rfl
      · exact ⟨⟨usable,free⟩,whole⟩
      · exact ⟨usable,free⟩
      · trivial
      · exact ⟨usable,free⟩
      · exact ⟨usable,free⟩
  have bare : ∀ id, Enrollment.isUsableId id = true →
      f.disk.tree.file? (["t"] ++ [Folder.recordName id]) = none := by
    intro id usable
    change Tree.file? Folder.litter ["t",Folder.recordName id] = none
    unfold Tree.file?
    rw [Folder.litterNode id usable]
    split
    · rename_i here
      split at here <;> cases here
    · rfl
  have goes : f.GoThrough ["t"] rs := by
    have short : (f.directory.join ⟨Folder.recordName "a"⟩).Short := by decide +kernel
    refine ⟨⟨short,by decide +kernel,?_⟩,short,trivial,short,short,trivial⟩
    change Folder.litter.node? ["t",temporaryName "a.json" 7 0] = none
    decide +kernel
  exact ⟨ready,bare,goes,(Folder.answersAsMemory ready bare).1 goes⟩

end GrantKeeper.Vault

import GrantKeeper.Disk.Replacement
import GrantKeeper.Proofs.Disk.Tree
import GrantKeeper.Proofs.Text.Numeral

/-! A replacement either puts the new contents at its path or touches nothing
but its temporary file, whatever mishaps come. -/
namespace GrantKeeper.Disk
open Text (Octets)
variable {d d' : Disk}

theorem lookTree {α : Type} (d : Disk) (f : Tree → Except Fault α) : (d.look f).2.tree = d.tree := by
  unfold look
  split <;> rfl

theorem changeOk {f : Tree → Except Fault Tree} (h : d.change f = (.ok (),d')) :
    f d.tree = .ok d'.tree := by
  unfold change at h
  split at h
  · cases h
  · split at h
    · cases h
    · rename_i changed
      cases h
      exact changed

theorem changeError {f : Tree → Except Fault Tree} {fault : Fault} (h : d.change f = (.error fault,d')) :
    d'.tree = d.tree := by
  unfold change at h
  split at h
  · cases h
    rfl
  · split at h
    · cases h
      rfl
    · cases h

def Honest (d : Disk) : Prop := ∀ mishap, d.nextMishap = some mishap → mishap.fault ≠ .notFound

theorem lookOk {α : Type} {f : Tree → Except Fault α} {a : α} (h : d.look f = (.ok a,d')) :
    f d.tree = .ok a := by
  unfold look at h
  split at h
  · cases h
  · exact congrArg Prod.fst h

theorem lookMissing {α : Type} {f : Tree → Except Fault α} (honest : d.Honest)
    (h : d.look f = (.error .notFound,d')) : f d.tree = .error .notFound := by
  unfold look at h
  split at h
  · rename_i mishap due
    injection (Prod.mk.inj h).1 with same
    exact absurd same (honest mishap due)
  · exact congrArg Prod.fst h

theorem changeMissing {f : Tree → Except Fault Tree} (honest : d.Honest)
    (h : d.change f = (.error .notFound,d')) : f d.tree = .error .notFound := by
  unfold change at h
  split at h
  · rename_i mishap due
    injection (Prod.mk.inj h).1 with same
    exact absurd same (honest mishap due)
  · split at h
    · rename_i failed
      cases h
      exact failed
    · cases h

theorem appendOk {p : Path} {octets : Octets} (h : d.append p octets = (.ok (),d')) :
    d.tree.append p octets = .ok d'.tree := by
  unfold append at h
  split at h
  · split at h <;> cases h
  · split at h
    · cases h
    · rename_i written
      cases h
      exact written

theorem appendError {p : Path} {octets : Octets} {fault : Fault}
    (h : d.append p octets = (.error fault,d')) :
    d'.tree = d.tree ∨ ∃ part, d.tree.append p part = .ok d'.tree := by
  unfold append at h
  split at h
  · rename_i mishap _
    split at h
    · cases h
      exact .inl rfl
    · rename_i written
      cases h
      exact .inr ⟨octets.take mishap.reach,written⟩
  · split at h
    · cases h
      exact .inl rfl
    · cases h

def Named (name : String) (place : Place) : Prop := place.getLast? = some name

theorem namedDeep {name : String} {place : Place} (h : Named name place) : place ≠ [] := by
  rintro rfl
  cases h

inductive Replaces (d : Disk) (temporary name : String) (p : Path) (octets : Octets) : Step Unit → Prop
  | replaced {goal mode d'} (there : d.tree.resolve p = .ok goal)
      (touches : Tree.Touches (fun place => Named temporary place ∨ Named name place) d.tree d'.tree)
      (node : d'.tree.node? goal = some (.file mode octets)) :
      Replaces d temporary name p octets (.ok (),d')
  | failed {fault d'} (touches : Tree.Touches (Named temporary) d.tree d'.tree) :
      Replaces d temporary name p octets (.error fault,d')

structure Prepared (d : Disk) (temporary : String) (path : Path) (octets : Octets) (d' : Disk) : Prop where
  touches : Tree.Touches (Named temporary) d.tree d'.tree
  there : ∃ place mode, d'.tree.resolve path = .ok place ∧ d'.tree.node? place = some (.file mode octets)

section
variable {dir beside : Path} {name temporary : String} {octets : Octets}

theorem createPrepares (proper : Path.IsName temporary) {mode : Nat}
    (h : d.createNew (beside.join ⟨temporary⟩) mode = (.ok (),d')) :
    Prepared d temporary (beside.join ⟨temporary⟩) [] d' := by
  obtain ⟨place,there,free,same⟩ := Tree.createdThere (changeOk h)
  have named : Named temporary place := Tree.resolveJoin proper there
  have touches : Tree.Touches (Named temporary) d.tree d'.tree := by
    rw [same]
    exact Tree.touchesPut named (namedDeep named) (by simp [Tree.NoDirectory,free]) mode []
  refine ⟨touches,place,mode,touches.resolve there,?_⟩
  rw [same,Tree.nodePut (namedDeep named),if_pos rfl]

theorem appendPrepares (proper : Path.IsName temporary) {before part : Octets} {d1 : Disk}
    (h : Prepared d temporary (beside.join ⟨temporary⟩) before d1)
    (written : d1.tree.append (beside.join ⟨temporary⟩) part = .ok d'.tree) :
    Prepared d temporary (beside.join ⟨temporary⟩) (before ++ part) d' := by
  obtain ⟨touches,place,mode,there,node⟩ := h
  obtain ⟨other,kind,content,here,was,same⟩ := Tree.appendedThere written
  cases Except.ok.inj (there.symm.trans here)
  cases Option.some.inj (node.symm.trans was)
  have named : Named temporary place := Tree.resolveJoin proper there
  have more : Tree.Touches (Named temporary) d1.tree d'.tree := by
    rw [same]
    exact Tree.touchesPut named (namedDeep named) (by simp [Tree.NoDirectory,node]) _ _
  refine ⟨touches.trans more,place,mode,more.resolve there,?_⟩
  rw [same,Tree.nodePut (namedDeep named),if_pos rfl]

theorem appendFails (proper : Path.IsName temporary) {before part : Octets} {d1 : Disk}
    (h : Prepared d temporary (beside.join ⟨temporary⟩) before d1) {fault : Fault}
    (failed : d1.append (beside.join ⟨temporary⟩) part = (.error fault,d')) :
    Tree.Touches (Named temporary) d.tree d'.tree := by
  rcases appendError failed with same | ⟨some,written⟩
  · rw [same]
    exact h.touches
  · exact (appendPrepares proper h written).touches

theorem syncPrepares {path : Path} {d1 : Disk} (h : Prepared d temporary path octets d1) :
    Prepared d temporary path octets (d1.sync path).2 := by
  have same : (d1.sync path).2.tree = d1.tree := lookTree d1 _
  exact ⟨same ▸ h.touches,same ▸ h.there⟩

theorem renameReplaces (proper : Path.IsName temporary) (target : Path.IsName name) {d1 : Disk}
    (h : Prepared d temporary (beside.join ⟨temporary⟩) octets d1) :
    Replaces d temporary name (dir.join ⟨name⟩) octets
      (d1.rename (beside.join ⟨temporary⟩) (dir.join ⟨name⟩)) := by
  obtain ⟨touches,place,mode,there,node⟩ := h
  cases moved : d1.rename (beside.join ⟨temporary⟩) (dir.join ⟨name⟩) with
  | mk result d2 =>
    cases result with
    | error fault => exact .failed (by rw [changeError moved]; exact touches)
    | ok u =>
      obtain ⟨source,file,goal,here,was,aim,free,same,-⟩ :=
        Tree.renamedThere (changeOk moved)
      cases Except.ok.inj (there.symm.trans here)
      cases Option.some.inj (node.symm.trans was)
      have named : Named temporary place := Tree.resolveJoin proper there
      have aimed : Named name goal := Tree.resolveJoin target aim
      have gone : Tree.Touches (fun place => Named temporary place ∨ Named name place) d1.tree
          (d1.tree.remove place) :=
        Tree.touchesRemove (.inl named) (namedDeep named) (by simp [Tree.NoDirectory,node])
      have free : (d1.tree.remove place).NoDirectory goal := by
        intro kind directory
        exact free kind ((gone.directory goal kind).mp directory)
      have put := Tree.touchesPut (P := fun place => Named temporary place ∨ Named name place)
        (.inr aimed) (namedDeep aimed) free mode octets
      rw [← same] at put
      have there : d2.tree.node? goal = some (.file mode octets) := by
        rw [same,Tree.nodePut (namedDeep aimed),if_pos rfl]
      exact .replaced (touches.symm.resolve aim)
        (((touches.mono fun _ named => .inl named).trans gone).trans put) there

theorem removeTouches (dir : Path) (proper : Path.IsName name) (d : Disk) :
    Tree.Touches (Named name) d.tree (d.removeFile (dir.join ⟨name⟩)).2.tree := by
  cases removed : d.removeFile (dir.join ⟨name⟩) with
  | mk result d' =>
    cases result with
    | error fault =>
      rw [changeError removed]
      exact Tree.touchesSelf _ _
    | ok u =>
      obtain ⟨place,there,free,same⟩ := Tree.removedThere (changeOk removed)
      have named : Named name place := Tree.resolveJoin proper there
      rw [same]
      exact Tree.touchesRemove named (namedDeep named) free

theorem removedContent (proper : Path.IsName name) (h : d.removeFile (dir.join ⟨name⟩) = (.ok (),d')) :
    d'.tree.content? (dir.join ⟨name⟩) = none := by
  have touches := removeTouches dir proper d
  rw [h] at touches
  obtain ⟨place,there,free,same⟩ := Tree.removedThere (changeOk h)
  have deep := namedDeep (Tree.resolveJoin proper there)
  rw [Tree.contentThere (Path.asksJoin dir proper.toIsPart) (touches.resolve there),same,
    Tree.nodeRemove deep,if_pos rfl]

theorem replacesNext {r : Step Unit} {next : Unit → Disk → Step Unit} {p : Path}
    (failed : ∀ fault d', r = (.error fault,d') → Tree.Touches (Named temporary) d.tree d'.tree)
    (went : ∀ d', r = (.ok (),d') → Replaces d temporary name p octets (next () d')) :
    Replaces d temporary name p octets (r.andThen next) := by
  obtain ⟨result,d'⟩ := r
  cases result with
  | error fault => exact .failed (failed fault d' rfl)
  | ok u => exact went d' rfl

theorem replacesThrough (beside dir : Path) (proper : Path.IsName temporary)
    (target : Path.IsName name) (d : Disk) (octets : Octets) : Replaces d temporary name (dir.join ⟨name⟩) octets
      (d.replaceThrough (beside.join ⟨temporary⟩) (dir.join ⟨name⟩) octets) := by
  unfold replaceThrough
  refine replacesNext ?_ ?_
  · intro fault d' failed
    rw [changeError failed]
    exact Tree.touchesSelf _ _
  intro d1 made
  have empty := createPrepares proper made
  refine replacesNext (fun fault d' failed => appendFails proper empty failed) ?_
  intro d2 written
  have full := syncPrepares (appendPrepares proper empty (appendOk written))
  refine replacesNext ?_ ?_
  · intro fault d' failed
    rw [failed] at full
    exact full.touches
  · intro d3 synced
    rw [synced] at full
    exact renameReplaces proper target full

theorem temporaryPathJoin (target : Path.IsName name) (process n : Nat) :
    temporaryPath (dir.join ⟨name⟩) process n =
      (Path.ofParts dir.isAbsolute dir.parts).join ⟨temporaryName name process n⟩ := by
  unfold temporaryPath
  rw [Path.parentJoin dir target.toIsPart,Path.fileNameJoin dir target]
  rfl

theorem temporaryChars (name : String) (process n : Nat) : (temporaryName name process n).toList =
    '.' :: name.toList ++ '.' :: Text.digits process ++ '.' :: Text.digits n ++ ['.','t','m','p'] := by
  simp [temporaryName,Text.ofNat]

theorem temporaryLacks {c : Char} (free : c ∉ name.toList) (digit : Text.digit? c = none)
    (plain : c ∉ ['.','t','m','p']) (process n : Nat) : c ∉ (temporaryName name process n).toList := by
  simp only [List.mem_cons,List.not_mem_nil,or_false,not_or] at plain
  rw [temporaryChars]
  simp [free,Text.digitsLack digit,plain]

theorem temporaryNamed (whole : ∀ c ∈ name.toList, (c = '/') = False) (process n : Nat) :
    Path.IsName (temporaryName name process n) := by
  have last : (temporaryName name process n).toList.getLast? = some 'p' := by
    rw [temporaryChars,List.getLast?_append]
    rfl
  have free : '/' ∉ name.toList := fun inner => (whole '/' inner).mp rfl
  have lacks := temporaryLacks free (by decide) (by decide) process n
  exact Path.nameOfLast (Path.wholeName lacks) last (by decide)

theorem replaces (dir : Path) (target : Path.IsName name) (d : Disk) (octets : Octets) :
    Replaces d (temporaryName name d.process d.temporaries) name (dir.join ⟨name⟩) octets
      (d.replace (dir.join ⟨name⟩) octets) := by
  have proper := temporaryNamed target.whole d.process d.temporaries
  have through := replacesThrough (Path.ofParts dir.isAbsolute dir.parts) dir proper target
    d.countTemporary octets
  unfold replace
  simp only [temporaryPathJoin target]
  generalize d.countTemporary.replaceThrough _ _ octets = result at through ⊢
  cases through with
  | replaced there touches node => exact .replaced there touches node
  | @failed fault d' touches => exact .failed (touches.trans (removeTouches _ proper d'))

end

end GrantKeeper.Disk

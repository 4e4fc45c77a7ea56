import GrantKeeper.Proofs.Disk.Calm
import GrantKeeper.Proofs.Vault.Folder

/-! The ids that a folder lists are those that have a record file, whatever else is in the
directory. -/
namespace GrantKeeper

theorem Disk.Path.splitBack {name stem ext : String} (split : splitExtension name = (stem,some ext)) :
    name.toList = stem.toList ++ '.' :: ext.toList := by
  unfold splitExtension at split
  have whole := List.takeWhile_append_dropWhile (p := (· ≠ '.')) (l := name.toList.reverse)
  have stops := List.head?_dropWhile_not (· ≠ '.') name.toList.reverse
  generalize name.toList.reverse.takeWhile (· ≠ '.') = tail at split whole
  generalize name.toList.reverse.dropWhile (· ≠ '.') = rest at whole stops
  have back : name.toList = rest.reverse ++ tail.reverse := by
    rw [← List.reverse_append,whole,List.reverse_reverse]
  simp only at split
  split at split
  · cases split
  · rename_i filled
    simp only [Bool.or_eq_true,List.isEmpty_iff,decide_eq_true_eq,not_or] at filled
    cases rest with
    | nil =>
      refine absurd ?_ filled.1
      simp [back]
    | cons c rest =>
      have dot : c = '.' := by simpa using stops
      simp only [Prod.mk.injEq,Option.some.injEq] at split
      obtain ⟨rfl,rfl⟩ := split
      rw [dot,List.reverse_cons,List.append_assoc] at back
      have long : name.toList.length - tail.reverse.length - 1 = rest.reverse.length := by
        rw [back]
        simp
        omega
      have head : name.toList.take (name.toList.length - tail.reverse.length - 1) = rest.reverse := by
        rw [long,back,List.take_left]
      rw [head,String.toList_ofList,String.toList_ofList]
      exact back

namespace Disk.Tree
variable {t : Tree} {dir : Path} {home : Place}

theorem Houses.find (houses : t.Houses dir home) : ∃ mode, t.find dir = .ok (home,.directory mode) := by
  obtain ⟨resolves,⟨mode,there⟩⟩ := houses
  exact ⟨mode,by simp [Tree.find,resolves,there]⟩

theorem namesHere (houses : t.Houses dir home) : ∃ names, t.names dir = .ok names ∧ names.Nodup ∧
    ∀ name, name ∈ names ↔ (t.node? (home ++ [name])).isSome = true := by
  obtain ⟨mode,found⟩ := houses.find
  have below : ∀ (key : Place) (name : String), (if (!key.isEmpty && decide (key.dropLast = home)) = true
      then key.getLast? else none) = some name ↔ key = home ++ [name] := by
    intro key name
    constructor
    · intro last
      simp only [Option.ite_none_right_eq_some,Bool.and_eq_true,decide_eq_true_eq] at last
      obtain ⟨⟨-,rfl⟩,last⟩ := last
      exact (List.dropLast_append_getLast? name last).symm
    · rintro rfl
      simp
  refine ⟨_,by rw [names,found],?_,?_⟩
  · refine List.Pairwise.filterMap _ ?_ t.nodes.nodup_keys
    intro key other apart name first second third same
    subst same
    exact apart (((below key name).mp first).trans ((below other name).mp third).symm)
  · intro name
    simp only [List.mem_filterMap,below]
    simp [node?]

theorem fileNode {place : Place} (file : (t.file? place).isSome = true) : (t.node? place).isSome = true := by
  unfold file? at file
  split at file
  · rename_i here
    rw [here]
    rfl
  · cases file

theorem isFileEntry (houses : t.Houses dir home) {name : String} (entry : Path.IsEntry name)
    (short : (dir.join ⟨name⟩).Short) : t.isFile (dir.join ⟨name⟩) = (t.file? (home ++ [name])).isSome := by
  have there := houses.join entry short
  have asks := Path.asksJoin dir entry.toIsPart
  unfold isFile file? Tree.find
  simp only [there,asks]
  cases here : t.node? (home ++ [name]) with
  | none => rfl
  | some node => cases node <;> simp [Node.isDirectory]

theorem isFileShort {p : Path} (file : t.isFile p = true) : p.Short := by
  by_cases short : p.Short
  · exact short
  · obtain ⟨fault,fails,-⟩ := t.findLong short
    rw [isFile,fails] at file
    cases file

end Disk.Tree

namespace Vault.Folder
open Disk (Path Tree Place)

theorem recordShort {id : String} (usable : Enrollment.isUsableId id = true) :
    (recordName id).utf8ByteSize ≤ Enrollment.longestId + 5 := by
  have short : id.utf8ByteSize ≤ Enrollment.longestId := by
    unfold Enrollment.isUsableId Enrollment.idDefect? at usable
    split at usable
    · cases usable
    · split at usable
      · cases usable
      · rename_i clean
        simp only [Bool.or_eq_true,decide_eq_true_eq,not_or,Nat.not_lt] at clean
        exact clean.2
  have whole : (recordName id).utf8ByteSize = id.utf8ByteSize + 1 + 4 := by
    rw [recordName,String.utf8ByteSize_append,String.utf8ByteSize_append]
    rfl
  omega

theorem recordEntry {id : String} (usable : Enrollment.isUsableId id = true) :
    Path.IsEntry (recordName id) := by
  exact ⟨recordNamed usable,recordLacks usable (by decide) (by decide),
    Nat.le_trans (recordShort usable) (by decide)⟩

theorem idOfRecordName {id : String} (usable : Enrollment.isUsableId id = true) :
    idOfName? (recordName id) = some id := by
  obtain ⟨-,filled,-⟩ := usableId usable
  have other : recordName id ≠ ".." := (recordNamed usable).down
  unfold idOfName? Path.splitExtension
  rw [recordNameChars]
  simp [filled,other,extension,usable]

theorem recordNameOfId {name id : String} (names : idOfName? name = some id) :
    name = recordName id ∧ Enrollment.isUsableId id = true := by
  unfold idOfName? at names
  split at names
  · rename_i stem ext split
    simp only [Option.ite_none_right_eq_some,Bool.and_eq_true,decide_eq_true_eq,Option.some.injEq] at names
    obtain ⟨⟨rfl,usable⟩,rfl⟩ := names
    refine ⟨String.toList_inj.mp ?_,usable⟩
    rw [Path.splitBack split,recordNameChars]
    rfl
  · cases names

variable {f : Folder} {home : Place}

theorem idsFound (due : f.disk.nextMishap = none) (houses : f.disk.tree.Houses f.directory home) :
    ∃ ids, f.ids = (.ok ids,{ f with disk := f.disk.afterMishap }) ∧ ids.Nodup ∧ ids.Pairwise (· ≤ ·) ∧
      ∀ id, id ∈ ids ↔ Enrollment.isUsableId id = true ∧
        f.disk.tree.isFile (f.directory.join ⟨recordName id⟩) = true := by
  obtain ⟨names,listed,distinct,members⟩ := Tree.namesHere houses
  refine ⟨(f.idsAmong names).mergeSort (· ≤ ·),?_,?_,?_,?_⟩
  · have looked : f.disk.names f.directory = (.ok names,f.disk.afterMishap) := by
      unfold Disk.names Disk.look
      rw [due]
      exact congrArg (·,f.disk.afterMishap) listed
    unfold Folder.ids
    rw [looked]
  · refine (List.mergeSort_perm _ _).symm.nodup ?_
    refine List.Pairwise.filterMap _ ?_ (distinct.filter _)
    intro name other apart id first again third same
    subst same
    exact apart ((recordNameOfId first).1.trans (recordNameOfId third).1.symm)
  · -- sorted once more, since record names may sort otherwise than the ids in them
    have sorted : ((f.idsAmong names).mergeSort (· ≤ ·)).Pairwise fun a b => decide (a ≤ b) = true := by
      refine List.pairwise_mergeSort ?_ ?_ _
      · intro a b c
        simpa using String.le_trans
      · intro a b
        simpa using String.le_total a b
    simpa using sorted
  · intro id
    rw [List.mem_mergeSort,idsAmong,List.mem_filterMap]
    constructor
    · rintro ⟨name,listed,named⟩
      obtain ⟨rfl,usable⟩ := recordNameOfId named
      exact ⟨usable,(List.mem_filter.mp listed).2⟩
    · rintro ⟨usable,file⟩
      refine ⟨recordName id,List.mem_filter.mpr ⟨(members _).mpr ?_,file⟩,idOfRecordName usable⟩
      rw [Tree.isFileEntry houses (recordEntry usable) (Tree.isFileShort file)] at file
      exact Tree.fileNode file

theorem idsHere (calm : f.disk.mishaps = []) (houses : f.disk.tree.Houses f.directory home) :
    ∃ ids, f.ids = (.ok ids,f) ∧ ids.Nodup ∧ ids.Pairwise (· ≤ ·) ∧
      ∀ id, id ∈ ids ↔ Enrollment.isUsableId id = true ∧ (f.directory.join ⟨recordName id⟩).Short ∧
        (f.disk.tree.file? (home ++ [recordName id])).isSome = true := by
  obtain ⟨ids,listed,distinct,sorted,members⟩ := idsFound (Disk.calmMishap calm) houses
  refine ⟨ids,?_,distinct,sorted,fun id => (members id).trans (and_congr_right fun usable => ?_)⟩
  · rw [listed,Disk.calmAfter calm]
  · constructor
    · intro file
      have short := Tree.isFileShort file
      rw [Tree.isFileEntry houses (recordEntry usable) short] at file
      exact ⟨short,file⟩
    · rintro ⟨short,file⟩
      rw [Tree.isFileEntry houses (recordEntry usable) short]
      exact file

end Vault.Folder

end GrantKeeper

import GrantKeeper.Proofs.Disk.Goal

/-! What an operation leaves alone, whatever mishaps it meets: everything but the place that its
path leads to. A replacement that fails touches its temporary file only. -/
namespace GrantKeeper.Disk
open Text (Octets)

structure Tree.Spares (P : Place → Prop) (t u : Tree) : Prop where
  working : u.working = t.working
  file : ∀ place, ¬ P place → u.file? place = t.file? place

namespace Tree
variable {P : Place → Prop} {t u v : Tree} {p : Path}

theorem sparesSelf (P : Place → Prop) (t : Tree) : Spares P t t := ⟨rfl,fun _ _ => rfl⟩

theorem Spares.trans (first : Spares P t u) (second : Spares P u v) : Spares P t v :=
  ⟨second.working.trans first.working,
    fun place apart => (second.file place apart).trans (first.file place apart)⟩

theorem sparesPut {place : Place} (touched : P place) (node : Node) : Spares P t (t.put place node) := by
  refine ⟨rfl,fun other apart => ?_⟩
  unfold file?
  rw [nodePutOther]
  rintro rfl
  exact apart touched

theorem sparesRemove {place : Place} (touched : P place) : Spares P t (t.remove place) := by
  refine ⟨rfl,fun other apart => ?_⟩
  unfold file?
  rw [nodeRemoveOther]
  rintro rfl
  exact apart touched

theorem sparesCreate {mode : Nat} (touched : P (p.goal t.working)) (made : t.createNew p mode = .ok u) :
    Spares P t u := by
  obtain ⟨place,there,-,rfl⟩ := createdThere made
  exact sparesPut (resolveGoal there ▸ touched) _

theorem sparesAppend {octets : Octets} (touched : P (p.goal t.working))
    (written : t.append p octets = .ok u) : Spares P t u := by
  obtain ⟨place,mode,content,there,-,rfl⟩ := appendedThere written
  exact sparesPut (resolveGoal there ▸ touched) _

theorem sparesRemoveFile (touched : P (p.goal t.working)) (removed : t.removeFile p = .ok u) :
    Spares P t u := by
  obtain ⟨place,there,-,rfl⟩ := removedThere removed
  exact sparesRemove (resolveGoal there ▸ touched)

structure Carries (P : Place → Prop) (t u : Tree) : Prop extends Spares P t u where
  directory : ∀ place, t.HasDirectory place → u.HasDirectory place

theorem Grows.carries (grows : Grows t u) (P : Place → Prop) : Carries P t u :=
  ⟨⟨grows.working,fun place _ => grows.file place⟩,grows.directory⟩

theorem Touches.carries (touches : Touches P t u) : Carries P t u := by
  refine ⟨⟨touches.working,fun place apart => ?_⟩,touches.hasDirectory⟩
  unfold file?
  rw [touches.rest place apart]

theorem Carries.resolve {place : Place} (carries : Carries P t u) (there : t.resolve p = .ok place) :
    u.resolve p = .ok place :=
  resolveStill carries.working carries.directory there

end Tree

structure Spares (P : Place → Prop) (d d' : Disk) : Prop where
  tree : Tree.Spares P d.tree d'.tree
  process : d'.process = d.process

variable {P : Place → Prop} {d d' d'' : Disk} {p : Path} {octets : Octets}

theorem sparesAfter (P : Place → Prop) (d : Disk) : Spares P d d.afterMishap :=
  ⟨Tree.sparesSelf P d.tree,rfl⟩

theorem Spares.trans (first : Spares P d d') (second : Spares P d' d'') : Spares P d d'' :=
  ⟨first.tree.trans second.tree,second.process.trans first.process⟩

theorem Grown.spares (grown : Grown d d') (P : Place → Prop) : Spares P d d' :=
  ⟨⟨grown.tree.working,fun place _ => grown.tree.file place⟩,grown.process⟩

theorem sparesChange {f : Tree → Except Fault Tree}
    (spares : ∀ {u}, f d.tree = .ok u → Tree.Spares P d.tree u) : Spares P d (d.change f).2 := by
  unfold change
  split
  · exact sparesAfter P d
  · split
    · exact sparesAfter P d
    · rename_i u changed
      exact ⟨spares changed,rfl⟩

theorem sparesFailed {f : Tree → Except Fault Tree} {fault : Fault} (failed : d.change f = (.error fault,d')) :
    Spares P d d' := by
  unfold change at failed
  split at failed
  · cases failed
    exact sparesAfter P d
  · split at failed
    · cases failed
      exact sparesAfter P d
    · cases failed

theorem sparesAppend (touched : P (p.goal d.tree.working)) (octets : Octets) :
    Spares P d (d.append p octets).2 := by
  unfold append
  split
  · split
    · exact sparesAfter P d
    · rename_i u written
      exact ⟨Tree.sparesAppend touched written,rfl⟩
  · split
    · exact sparesAfter P d
    · rename_i u written
      exact ⟨Tree.sparesAppend touched written,rfl⟩

theorem sparesRemoveFile (touched : P (p.goal d.tree.working)) : Spares P d (d.removeFile p).2 :=
  sparesChange fun removed => Tree.sparesRemoveFile touched removed

theorem removeFile? (d : Disk) (p : Path) (place : Place) :
    (d.removeFile p).2.tree.file? place = d.tree.file? place ∨
      place = p.goal d.tree.working ∧ (d.removeFile p).2.tree.file? place = none := by
  by_cases here : place = p.goal d.tree.working
  · cases removed : d.removeFile p with
    | mk result d' =>
      cases result with
      | error fault => exact .inl (by rw [changeError removed])
      | ok u =>
        obtain ⟨goal,there,free,same⟩ := Tree.removedThere (changeOk removed)
        have deep : goal ≠ [] := by
          rintro rfl
          exact free _ rfl
        refine .inr ⟨here,?_⟩
        rw [same,here,← Tree.resolveGoal there]
        simp [Tree.file?,Tree.nodeRemove deep]
  · exact .inl ((sparesRemoveFile (P := (· = p.goal d.tree.working)) rfl).tree.file place here)

def Temporary (process : Nat) (place : Place) : Prop := ∃ name n, Named (temporaryName name process n) place

theorem temporaryLonger (name : String) (process n : Nat) : temporaryName name process n ≠ name := by
  intro same
  have long := congrArg (·.toList.length) same
  simp only [temporaryChars,List.length_append,List.length_cons] at long
  omega

theorem goalTemporary (p : Path) (process n : Nat) (working : Place) :
    (temporaryPath p process n).goal working =
      (p.parent?.getD ⟨"."⟩).goal working ++ [temporaryName (p.fileName?.getD "") process n] := by
  have whole : ∀ c ∈ (p.fileName?.getD "").toList, (c = '/') = False := by
    cases named : p.fileName? with
    | none => simp
    | some name =>
      unfold Path.fileName? at named
      split at named
      · rename_i last found
        split at named
        · cases named
        · cases named
          exact (Path.partsArePart p name (List.mem_of_getLast? found)).whole
      · cases named
  exact Path.goalJoin _ (temporaryNamed whole process n) working

theorem temporaryGoal (p : Path) (process n : Nat) (working : Place) :
    Temporary process ((temporaryPath p process n).goal working) := by
  refine ⟨p.fileName?.getD "",n,?_⟩
  rw [goalTemporary]
  simp [Named]

theorem goalParts (p : Path) (working : Place) {front : List String} {last : String}
    (parts : p.parts = front ++ [last]) : p.goal working =
      if last = ".." then ((p.parent?.getD ⟨"."⟩).goal working).dropLast
      else (p.parent?.getD ⟨"."⟩).goal working ++ [last] := by
  have inner : ∀ name ∈ front, Path.IsPart name := by
    intro name member
    exact Path.partsArePart p name (by rw [parts]; exact List.mem_append_left _ member)
  have parent : p.parent?.getD ⟨"."⟩ = Path.ofParts p.isAbsolute front := by
    unfold Path.parent?
    rw [parts]
    simp
  unfold Path.goal
  rw [parent,Path.absoluteOfParts _ inner,Path.partsOfParts _ inner,parts]
  simp only [lead,List.foldl_append,List.foldl_cons,List.foldl_nil]

theorem temporaryElsewhere (p : Path) (process n : Nat) (working : Place) :
    (temporaryPath p process n).goal working ≠ p.goal working := by
  intro same
  rw [goalTemporary] at same
  rcases List.eq_nil_or_concat p.parts with none | ⟨front,last,parts⟩
  · have parent : p.parent?.getD ⟨"."⟩ = ⟨"."⟩ := by
      unfold Path.parent?
      rw [none]
      rfl
    have here : (⟨"."⟩ : Path).goal working = working := rfl
    have root : p.goal working = [] ∨ p.goal working = working := by
      unfold Path.goal
      rw [none]
      split
      · exact .inl rfl
      · exact .inr rfl
    rw [parent,here] at same
    rcases root with root | root <;> simp [root] at same
  · rw [List.concat_eq_append] at parts
    rw [goalParts p working parts] at same
    split at same
    · have long := congrArg List.length same
      simp only [List.length_append,List.length_dropLast,List.length_singleton] at long
      omega
    · rename_i down
      have named : p.fileName? = some last := by
        unfold Path.fileName?
        rw [parts]
        simp [down]
      rw [named] at same
      exact temporaryLonger last process n (List.singleton_inj.mp (List.append_cancel_left same))

theorem throughFails {temporary : Path} {fault : Fault} (touched : P (temporary.goal d.tree.working))
    (failed : d.replaceThrough temporary p octets = (.error fault,d')) : Spares P d d' := by
  unfold replaceThrough at failed
  have create : Spares P d (d.createNew temporary privateFileMode).2 :=
    sparesChange fun made => Tree.sparesCreate touched made
  rcases Outcome.ofAndThenFails failed with first | ⟨u,d1,created,failed⟩
  · rwa [first] at create
  rw [created] at create
  have write : Spares P d1 (d1.append temporary octets).2 :=
    sparesAppend (by rw [create.tree.working]; exact touched) octets
  rcases Outcome.ofAndThenFails failed with second | ⟨u,d2,written,failed⟩
  · rw [second] at write
    exact create.trans write
  rw [written] at write
  have sync : Spares P d2 (d2.sync temporary).2 := (grownLook d2 _).spares P
  rcases Outcome.ofAndThenFails failed with third | ⟨u,d3,synced,failed⟩
  · rw [third] at sync
    exact (create.trans write).trans sync
  · rw [synced] at sync
    exact ((create.trans write).trans sync).trans (sparesFailed failed)

theorem replaceFails {fault : Fault} (failed : d.replace p octets = (.error fault,d')) :
    Spares (Temporary d.process) d d' := by
  have touched := temporaryGoal p d.process d.temporaries
  unfold replace at failed
  simp only at failed
  split at failed
  · cases failed
  · rename_i d1 through
    cases failed
    have first : Spares (Temporary d.process) d d1 := by
      have counted := throughFails (d := d.countTemporary) (touched _) through
      exact ⟨counted.tree,counted.process⟩
    exact first.trans (sparesRemoveFile (touched _))

end GrantKeeper.Disk

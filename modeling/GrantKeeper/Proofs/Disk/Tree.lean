import GrantKeeper.Disk.Tree
import GrantKeeper.Proofs.Disk.Path

/-! What the operations on one path do to a tree. Directories stay where they
are, so every other path leads where it led. -/
namespace GrantKeeper.Disk.Tree
open Text (Octets)
variable {t u v : Tree} {p : Path}

theorem nodePut {place : Place} (deep : place ≠ []) (t : Tree) (node : Node) (other : Place) :
    (t.put place node).node? other = if place = other then some node else t.node? other := by
  unfold node? put
  cases other with
  | nil => simp [deep]
  | cons name names =>
    simp only [List.isEmpty_cons,Bool.false_eq_true,if_false]
    rw [Std.ExtTreeMap.getElem?_insert]
    simp

theorem nodeRemove {place : Place} (deep : place ≠ []) (t : Tree) (other : Place) :
    (t.remove place).node? other = if place = other then none else t.node? other := by
  unfold node? remove
  cases other with
  | nil => simp [deep]
  | cons name names =>
    simp only [List.isEmpty_cons,Bool.false_eq_true,if_false]
    rw [Std.ExtTreeMap.getElem?_erase]
    simp

theorem nodePutOther {place other : Place} (apart : place ≠ other) (t : Tree) (node : Node) :
    (t.put place node).node? other = t.node? other := by
  cases other with
  | nil => rfl
  | cons name names => simp [put,node?,Std.ExtTreeMap.getElem?_insert,apart]

theorem nodeRemoveOther {place other : Place} (apart : place ≠ other) (t : Tree) :
    (t.remove place).node? other = t.node? other := by
  cases other with
  | nil => rfl
  | cons name names => simp [remove,node?,Std.ExtTreeMap.getElem?_erase,apart]

def HasDirectory (t : Tree) (place : Place) : Prop := ∃ mode, t.node? place = some (.directory mode)

theorem followStill (still : ∀ place, t.HasDirectory place → u.HasDirectory place) {place goal : Place}
    {names : List String} (there : t.follow place names = .ok goal) : u.follow place names = .ok goal := by
  induction names generalizing place with
  | nil => exact there
  | cons name names ih =>
    simp only [follow] at there ⊢
    split at there
    · cases there
    · cases there
    · rename_i mode here
      obtain ⟨other,now⟩ := still place ⟨mode,here⟩
      rw [now]
      split at there
      · rename_i up
        rw [if_pos up]
        exact ih there
      · rename_i down
        rw [if_neg down]
        split at there
        · cases there
        · rename_i short
          rw [if_neg short]
          exact ih there

theorem resolveStill (working : u.working = t.working)
    (still : ∀ place, t.HasDirectory place → u.HasDirectory place) {place : Place}
    (there : t.resolve p = .ok place) : u.resolve p = .ok place := by
  unfold resolve at there ⊢
  rw [working]
  split at there
  · cases there
  · rename_i clean
    rw [if_neg clean]
    split at there
    · cases there
    · rename_i some
      rw [if_neg some]
      split at there
      · cases there
      · rename_i short
        rw [if_neg short]
        exact followStill still there

def NoDirectory (t : Tree) (place : Place) : Prop := ∀ mode, t.node? place ≠ some (.directory mode)

structure Touches (P : Place → Prop) (t u : Tree) : Prop where
  working : u.working = t.working
  rest : ∀ place, ¬ P place → u.node? place = t.node? place
  directory : ∀ place mode,
    u.node? place = some (.directory mode) ↔ t.node? place = some (.directory mode)

theorem touchesSelf (P : Place → Prop) (t : Tree) : Touches P t t :=
  ⟨rfl,fun _ _ => rfl,fun _ _ => Iff.rfl⟩

theorem Touches.symm {P : Place → Prop} (h : Touches P t u) : Touches P u t :=
  ⟨h.working.symm,fun place apart => (h.rest place apart).symm,
    fun place mode => (h.directory place mode).symm⟩

theorem Touches.trans {P : Place → Prop} (first : Touches P t u) (second : Touches P u v) :
    Touches P t v :=
  ⟨second.working.trans first.working,
    fun place apart => (second.rest place apart).trans (first.rest place apart),
    fun place mode => (second.directory place mode).trans (first.directory place mode)⟩

theorem Touches.mono {P Q : Place → Prop} (h : Touches P t u) (wider : ∀ place, P place → Q place) :
    Touches Q t u :=
  ⟨h.working,fun place apart => h.rest place fun touched => apart (wider place touched),h.directory⟩

theorem touchesPut {P : Place → Prop} {place : Place} (touched : P place) (deep : place ≠ [])
    (free : t.NoDirectory place) (mode : Nat) (content : Octets) :
    Touches P t (t.put place (.file mode content)) where
  working := rfl
  rest other apart := by
    rw [nodePut deep,if_neg]
    rintro rfl
    exact apart touched
  directory other kind := by
    rw [nodePut deep]
    split
    · rename_i same
      subst same
      simp [free kind]
    · rfl

theorem touchesRemove {P : Place → Prop} {place : Place} (touched : P place) (deep : place ≠ [])
    (free : t.NoDirectory place) : Touches P t (t.remove place) where
  working := rfl
  rest other apart := by
    rw [nodeRemove deep,if_neg]
    rintro rfl
    exact apart touched
  directory other kind := by
    rw [nodeRemove deep]
    split
    · rename_i same
      subst same
      simp [free kind]
    · rfl

theorem Touches.hasDirectory {P : Place → Prop} (h : Touches P t u) (place : Place)
    (there : t.HasDirectory place) : u.HasDirectory place := by
  obtain ⟨mode,node⟩ := there
  exact ⟨mode,(h.directory place mode).mpr node⟩

theorem Touches.resolve {P : Place → Prop} (h : Touches P t u) {goal : Place}
    (there : t.resolve p = .ok goal) : u.resolve p = .ok goal :=
  resolveStill h.working h.hasDirectory there

theorem followLast {place goal : Place} {names : List String} {name : String} (down : name ≠ "..")
    (there : t.follow place (names ++ [name]) = .ok goal) : goal.getLast? = some name := by
  induction names generalizing place with
  | nil =>
    simp only [List.nil_append,Tree.follow,if_neg down] at there
    split at there
    · cases there
    · cases there
    · split at there
      · cases there
      · cases there
        simp
  | cons first names ih =>
    simp only [List.cons_append,Tree.follow] at there
    split at there
    · cases there
    · cases there
    · split at there
      · exact ih there
      · split at there
        · cases there
        · exact ih there

theorem resolveJoin {dir : Path} {name : String} (proper : Path.IsName name) {goal : Place}
    (there : t.resolve (dir.join ⟨name⟩) = .ok goal) : goal.getLast? = some name := by
  unfold Tree.resolve at there
  rw [Path.partsJoin dir proper.toIsPart] at there
  split at there
  · cases there
  · split at there
    · cases there
    · split at there
      · cases there
      · exact followLast proper.down there

theorem findThere {place : Place} {node : Node} (h : t.find p = .ok (place,node)) :
    t.resolve p = .ok place ∧ t.node? place = some node := by
  unfold find at h
  split at h
  · cases h
  · rename_i resolved
    split at h
    · cases h
    · rename_i there
      split at h
      · cases h
      · cases h
        exact ⟨resolved,there⟩
    · rename_i there
      cases h
      exact ⟨resolved,there⟩

def content? (t : Tree) (p : Path) : Option Octets := (t.read p).toOption

theorem contentThere {place : Place} (asks : p.asksDirectory = false) (there : t.resolve p = .ok place) :
    t.content? p =
      match t.node? place with
      | some (.file _ content) => some content
      | _ => none := by
  unfold content? read find
  simp only [there]
  cases here : t.node? place with
  | none => rfl
  | some node =>
    cases node with
    | file mode content =>
      simp only [asks]
      rfl
    | directory mode => rfl

theorem contentNowhere (lost : ∀ place, t.resolve p ≠ .ok place) : t.content? p = none := by
  unfold content? read find
  cases there : t.resolve p with
  | error fault => rfl
  | ok place => exact absurd there (lost place)

theorem Touches.content {P : Place → Prop} (h : Touches P t u) (asks : p.asksDirectory = false)
    (apart : ∀ place, t.resolve p = .ok place → ¬ P place) : u.content? p = t.content? p := by
  cases there : t.resolve p with
  | ok place =>
    rw [contentThere asks there,contentThere asks (h.resolve there),h.rest place (apart place there)]
  | error fault =>
    have lost : ∀ place, t.resolve p ≠ .ok place := by
      intro place found
      rw [there] at found
      cases found
    rw [contentNowhere lost,contentNowhere fun place found => lost place (h.symm.resolve found)]

theorem slotThere {place : Place} (h : t.slot p = .ok (some place)) : t.resolve p = .ok place := by
  unfold slot at h
  split at h
  · cases found : t.find p with
    | error fault => simp [found,Except.map] at h
    | ok node => simp [found,Except.map] at h
  · cases there : t.resolve p with
    | error fault => simp [there,Except.map] at h
    | ok goal =>
      simp only [there,Except.map,Except.ok.injEq,Option.some.injEq] at h
      rw [h]

theorem createdThere {mode : Nat} (h : t.createNew p mode = .ok u) :
    ∃ place, t.resolve p = .ok place ∧ t.node? place = none ∧ u = t.put place (.file mode []) := by
  unfold createNew at h
  split at h
  · cases h
  · cases h
  · rename_i place there
    split at h
    · cases h
    · split at h
      · cases h
      · rename_i free
        cases h
        exact ⟨place,slotThere there,by simpa using free,rfl⟩

theorem appendedThere {octets : Octets} (h : t.append p octets = .ok u) :
    ∃ place mode content, t.resolve p = .ok place ∧ t.node? place = some (.file mode content) ∧
      u = t.put place (.file mode (content ++ octets)) := by
  unfold append at h
  split at h
  · cases h
  · cases h
  · rename_i place mode content there
    cases h
    exact ⟨place,mode,content,(findThere there).1,(findThere there).2,rfl⟩

theorem renamedThere {source target : Path} (h : t.rename source target = .ok u) :
    ∃ place node goal, t.resolve source = .ok place ∧ t.node? place = some node ∧
      t.resolve target = .ok goal ∧ t.NoDirectory goal ∧ u = (t.remove place).put goal node ∧
      target.asksDirectory = false := by
  unfold rename at h
  split at h
  · cases h
  · cases h
  · cases h
  · rename_i place node goal there slot
    split at h
    · cases h
    · rename_i asks
      split at h
      · cases h
      · rename_i free
        cases h
        refine ⟨place,node,goal,(findThere there).1,(findThere there).2,slotThere slot,?_,rfl,
          by simpa using asks⟩
        intro mode directory
        exact free (by rw [directory]; rfl)

theorem removedThere (h : t.removeFile p = .ok u) :
    ∃ place, t.resolve p = .ok place ∧ t.NoDirectory place ∧ u = t.remove place := by
  unfold removeFile at h
  split at h
  · cases h
  · cases h
  · rename_i place mode content there
    cases h
    refine ⟨place,(findThere there).1,?_,rfl⟩
    intro kind directory
    rw [(findThere there).2] at directory
    cases directory

theorem contentOfNoFile (h : t.removeFile p = .error .notFound) : t.content? p = none := by
  unfold removeFile at h
  unfold content? read
  split at h
  · rfl
  · cases h
  · cases h

end GrantKeeper.Disk.Tree

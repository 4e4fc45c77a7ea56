import GrantKeeper.Proofs.Disk.Calm

/-! A path leads to one place if it leads anywhere, whatever is in the tree. Making directories
and setting modes changes no contents, and every path leads where it led. -/
namespace GrantKeeper.Disk
open Text (Octets)

def lead (place : Place) (names : List String) : Place :=
  names.foldl (fun place name => if name = ".." then place.dropLast else place ++ [name]) place

def Path.goal (p : Path) (working : Place) : Place := lead (if p.isAbsolute then [] else working) p.parts

theorem Path.goalJoin (dir : Path) {name : String} (proper : IsName name) (working : Place) :
    (dir.join ⟨name⟩).goal working = dir.goal working ++ [name] := by
  unfold goal lead
  rw [partsJoin dir proper.toIsPart,absoluteJoin dir proper.toIsPart,List.foldl_append]
  simp only [List.foldl_cons,List.foldl_nil,if_neg proper.down]

namespace Tree
variable {t u v : Tree} {p : Path} {place : Place}

theorem followLead {goal : Place} {names : List String} (there : t.follow place names = .ok goal) :
    goal = lead place names := by
  induction names generalizing place with
  | nil =>
    cases there
    rfl
  | cons name names ih =>
    simp only [follow] at there
    split at there
    · cases there
    · cases there
    · unfold lead at ih ⊢
      split at there
      · rename_i up
        rw [List.foldl_cons,if_pos up]
        exact ih there
      · rename_i down
        rw [List.foldl_cons,if_neg down]
        split at there
        · cases there
        · exact ih there

theorem resolveGoal (there : t.resolve p = .ok place) : place = p.goal t.working := by
  unfold resolve at there
  split at there
  · cases there
  · split at there
    · cases there
    · split at there
      · cases there
      · exact followLead there

theorem resolveFilled (there : t.resolve p = .ok place) : p.text.isEmpty = false := by
  unfold resolve at there
  split at there
  · cases there
  · split at there
    · cases there
    · rename_i filled
      simpa using filled

theorem modeThere {mode : Nat} (set : t.setMode p mode = .ok u) : ∃ place, t.resolve p = .ok place := by
  unfold setMode at set
  split at set
  · cases set
  · rename_i place old there
    exact ⟨place,(findThere there).1⟩
  · rename_i place old content there
    exact ⟨place,(findThere there).1⟩

theorem hasDirectory (found : t.isDirectory p = true) :
    ∃ place, t.resolve p = .ok place ∧ t.HasDirectory place := by
  unfold isDirectory at found
  split at found
  · rename_i place node there
    cases node with
    | file mode content => cases found
    | directory mode => exact ⟨place,(findThere there).1,mode,(findThere there).2⟩
  · cases found

theorem isDirectoryThere (there : t.resolve p = .ok place) (directory : t.HasDirectory place) :
    t.isDirectory p = true := by
  obtain ⟨mode,node⟩ := directory
  simp [isDirectory,find,there,node,Node.isDirectory]

theorem fileOfDirectory (directory : t.HasDirectory place) : t.file? place = none := by
  obtain ⟨mode,node⟩ := directory
  simp [file?,node]

structure Grows (t u : Tree) : Prop where
  working : u.working = t.working
  file : ∀ place, u.file? place = t.file? place
  directory : ∀ place, t.HasDirectory place → u.HasDirectory place

theorem growsSelf (t : Tree) : Grows t t := ⟨rfl,fun _ => rfl,fun _ directory => directory⟩

theorem Grows.trans (first : Grows t u) (second : Grows u v) : Grows t v :=
  ⟨second.working.trans first.working,fun place => (second.file place).trans (first.file place),
    fun place directory => second.directory place (first.directory place directory)⟩

theorem Grows.resolve (grows : Grows t u) (there : t.resolve p = .ok place) : u.resolve p = .ok place :=
  resolveStill grows.working grows.directory there

theorem Grows.isDirectory (grows : Grows t u) (found : t.isDirectory p = true) :
    u.isDirectory p = true := by
  obtain ⟨place,there,directory⟩ := hasDirectory found
  exact isDirectoryThere (grows.resolve there) (grows.directory place directory)

theorem growsPut {node : Node} (file : (t.put place node).file? place = t.file? place)
    (directory : t.HasDirectory place → (t.put place node).HasDirectory place) :
    Grows t (t.put place node) := by
  refine ⟨rfl,?_,?_⟩
  · intro elsewhere
    by_cases here : place = elsewhere
    · rw [← here,file]
    · simp only [file?,nodePutOther here]
  · intro elsewhere there
    by_cases here : place = elsewhere
    · subst here
      exact directory there
    · obtain ⟨mode,node⟩ := there
      exact ⟨mode,(nodePutOther here t _).trans node⟩

theorem makesDirectory (made : t.makeDirectory p = .ok u) : Grows t u ∧ u.isDirectory p = true := by
  unfold makeDirectory at made
  split at made
  · cases made
  · cases made
  · rename_i place slot
    split at made
    · cases made
    · rename_i free
      cases made
      have nothing : t.node? place = none := by simpa using free
      have deep : place ≠ [] := by
        rintro rfl
        cases nothing
      have here : (t.put place (.directory newDirectoryMode)).node? place =
          some (.directory newDirectoryMode) := by
        rw [nodePut deep,if_pos rfl]
      have grows : Grows t (t.put place (.directory newDirectoryMode)) := by
        refine growsPut ?_ fun _ => ⟨_,here⟩
        simp only [file?,here,nothing]
      exact ⟨grows,isDirectoryThere (grows.resolve (slotThere slot)) ⟨_,here⟩⟩

theorem setsMode {mode : Nat} (set : t.setMode p mode = .ok u) : Grows t u := by
  have kept : ∀ place node other, t.node? place = some node → node.isDirectory = other.isDirectory →
      (t.put place other).node? place = some other ∨
        (t.put place other).node? place = some node := by
    intro place node other there _
    cases place with
    | nil => exact .inr there
    | cons name names => exact .inl (by rw [nodePut (by simp),if_pos rfl])
  unfold setMode at set
  split at set
  · cases set
  · rename_i place old there
    cases set
    have here := (findThere there).2
    have now : (t.put place (.directory mode)).HasDirectory place := by
      rcases kept place _ (.directory mode) here rfl with now | now <;> exact ⟨_,now⟩
    exact growsPut ((fileOfDirectory now).trans (fileOfDirectory ⟨old,here⟩).symm) fun _ => now
  · rename_i place old content there
    cases set
    have here := (findThere there).2
    refine growsPut ?_ ?_
    · rcases kept place _ (.file mode content) here rfl with now | now <;> simp [file?,here,now]
    · rintro ⟨other,directory⟩
      rw [here] at directory
      cases directory

end Tree

variable {d d' d'' : Disk} {p : Path}

structure Grown (d d' : Disk) : Prop where
  tree : Tree.Grows d.tree d'.tree
  process : d'.process = d.process
  temporaries : d'.temporaries = d.temporaries
  calm : d.mishaps = [] → d'.mishaps = []

theorem grownSelf (d : Disk) : Grown d d := ⟨Tree.growsSelf d.tree,rfl,rfl,id⟩

theorem Grown.trans (first : Grown d d') (second : Grown d' d'') : Grown d d'' :=
  ⟨first.tree.trans second.tree,second.process.trans first.process,
    second.temporaries.trans first.temporaries,fun calm => second.calm (first.calm calm)⟩

theorem grownAfter (d : Disk) : Grown d d.afterMishap :=
  ⟨Tree.growsSelf d.tree,rfl,rfl,fun calm => by rw [afterMishap,calm]; rfl⟩

theorem grownLook {α : Type} (d : Disk) (f : Tree → Except Fault α) : Grown d (d.look f).2 := by
  unfold look
  split <;> exact grownAfter d

theorem grownChange {f : Tree → Except Fault Tree} (grows : ∀ {u}, f d.tree = .ok u → Tree.Grows d.tree u) :
    Grown d (d.change f).2 := by
  unfold change
  split
  · exact grownAfter d
  · split
    · exact grownAfter d
    · rename_i u changed
      exact ⟨grows changed,rfl,rfl,(grownAfter d).calm⟩

def Provides (p : Path) (d : Disk) (r : Step Unit) : Prop :=
  Grown d r.2 ∧ ∀ d', r = (.ok (),d') → d'.tree.isDirectory p = true

theorem providesMake (d : Disk) (p : Path) : Provides p d (d.makeDirectory p) :=
  ⟨grownChange fun made => (Tree.makesDirectory made).1,
    fun _ made => (Tree.makesDirectory (changeOk made)).2⟩

theorem providesCheck {fault : Fault} (grown : Grown d d') :
    Provides p d (if d'.tree.isDirectory p then (.ok (),d') else (.error fault,d')) := by
  split
  · rename_i there
    refine ⟨grown,?_⟩
    intro d'' same
    cases same
    exact there
  · exact ⟨grown,fun _ failed => by cases failed⟩

theorem providesEnsure (d : Disk) (p : Path) : Provides p d (d.ensureDirectory p) := by
  have made := providesMake d p
  unfold ensureDirectory
  split
  · rename_i same
    rw [same] at made
    exact made
  · rename_i fault d' same
    rw [same] at made
    exact providesCheck made.1

theorem providesBehind (p : Path) {way : Disk → Step Unit} (grown : ∀ d, Grown d (way d).2) (d : Disk) :
    Provides p d (d.ensureBehind p way) := by
  have made := providesMake d p
  unfold ensureBehind
  split
  · rename_i same
    rw [same] at made
    exact made
  · rename_i d' same
    rw [same] at made
    have first := grown d'
    generalize way d' = r at first ⊢
    obtain ⟨result,d1⟩ := r
    cases result with
    | error fault => exact ⟨made.1.trans first,fun _ failed => by cases failed⟩
    | ok u =>
      obtain ⟨more,there⟩ := providesEnsure d1 p
      exact ⟨made.1.trans (first.trans more),there⟩
  · rename_i fault d' _ same
    rw [same] at made
    exact providesCheck made.1

theorem grownNames (absolute : Bool) (names : List String) (d : Disk) :
    Grown d (ensureNames absolute names d).2 := by
  induction names generalizing d with
  | nil => exact grownSelf d
  | cons name names ih => exact (providesBehind _ ih d).1

theorem providesAll (filled : p.text.isEmpty = false) (d : Disk) : Provides p d (d.ensureAll p) := by
  unfold ensureAll
  rw [filled,if_neg Bool.false_ne_true]
  exact providesBehind p (fun d => grownNames _ _ d) d

theorem grownAll (d : Disk) (p : Path) : Grown d (d.ensureAll p).2 := by
  cases empty : p.text.isEmpty with
  | false => exact (providesAll empty d).1
  | true =>
    unfold ensureAll
    rw [empty,if_pos rfl]
    exact grownSelf d

theorem grownMode (d : Disk) (p : Path) (mode : Nat) : Grown d (d.setMode p mode).2 :=
  grownChange fun set => Tree.setsMode set

end GrantKeeper.Disk

import GrantKeeper.Proofs.Disk.Sparing

/-! A replacement stage by stage. Whenever its process stops, the disk is as before but for the temporary
file, or it has the whole of the new contents; every stage is also left by some run with mishaps. -/
namespace GrantKeeper.Disk
open Text (Octets)

inductive Phase
  | opening
  | writing (rest : Octets)
  | moving
  | replaced
  | withdrawing (fault : Fault)
  | withdrawn (fault : Fault)
  | littered (fault : Fault)

namespace Phase

def mayFail : Phase → Bool
  | .opening | .writing _ | .moving => true
  | _ => false

def result? : Phase → Option (Except Fault Unit)
  | .replaced => some (.ok ())
  | .withdrawn fault | .littered fault => some (.error fault)
  | _ => none

end Phase

structure Stage where
  phase : Phase
  tree : Tree

section
variable (temporary p : Path) (octets : Octets)

inductive Proceeds : Stage → Stage → Prop
  | create {t u} (made : t.createNew temporary privateFileMode = .ok u) :
      Proceeds ⟨.opening,t⟩ ⟨.writing octets,u⟩
  | write {t u} (part rest) (written : t.append temporary part = .ok u) :
      Proceeds ⟨.writing (part ++ rest),t⟩ ⟨.writing rest,u⟩
  | sync {t content} (there : t.read temporary = .ok content) : Proceeds ⟨.writing [],t⟩ ⟨.moving,t⟩
  | move {t u} (moved : t.rename temporary p = .ok u) : Proceeds ⟨.moving,t⟩ ⟨.replaced,u⟩
  | fail {phase t} (fault) (may : phase.mayFail = true) : Proceeds ⟨phase,t⟩ ⟨.withdrawing fault,t⟩
  | withdraw {fault t u} (removed : t.removeFile temporary = .ok u) :
      Proceeds ⟨.withdrawing fault,t⟩ ⟨.withdrawn fault,u⟩
  | missing {fault cause t} (missing : t.removeFile temporary = .error cause) :
      Proceeds ⟨.withdrawing fault,t⟩ ⟨.withdrawn fault,t⟩
  | litter (fault t) : Proceeds ⟨.withdrawing fault,t⟩ ⟨.littered fault,t⟩

inductive Reaches : Stage → Stage → Prop
  | start (s) : Reaches s s
  | next {s u v} (before : Reaches s u) (step : Proceeds temporary p octets u v) : Reaches s v

end

namespace Tree
variable {t u : Tree} {p temporary : Path} {place goal : Place} {octets written : Octets}

theorem same (working : u.working = t.working) (nodes : ∀ place : Place, u.nodes[place]? = t.nodes[place]?) :
    u = t := by
  obtain ⟨nodes',working'⟩ := t
  obtain ⟨others,_⟩ := u
  cases working
  have equal : others = nodes' := Std.ExtTreeMap.ext_getElem? fun {place} => nodes place
  rw [equal]

theorem withFileTwice (t : Tree) (place : Place) (first last : Octets) :
    (t.withFile place first).withFile place last = t.withFile place last := by
  refine same rfl fun other => ?_
  simp only [withFile,put,Std.ExtTreeMap.getElem?_insert]
  split <;> rfl

theorem withFileRemoved (free : t.node? place = none) (octets : Octets) :
    (t.withFile place octets).remove place = t := by
  have deep : place.isEmpty = false := by
    cases place with
    | nil => cases free
    | cons name names => rfl
  rw [node?,deep,if_neg Bool.false_ne_true] at free
  refine same rfl fun other => ?_
  simp only [withFile,put,remove,Std.ExtTreeMap.getElem?_erase,Std.ExtTreeMap.getElem?_insert]
  split
  · rename_i here
    rw [← Std.LawfulEqCmp.eq_of_compare here,free]
  · rfl

structure Drafts (t : Tree) (temporary : Path) (place : Place) : Prop where
  makes : t.createNew temporary privateFileMode = .ok (t.withFile place [])
  leads : t.resolve temporary = .ok place
  free : t.node? place = none
  asks : temporary.asksDirectory = false

theorem drafts (made : t.createNew temporary privateFileMode = .ok u) :
    ∃ place, t.Drafts temporary place ∧ u = t.withFile place [] := by
  obtain ⟨place,leads,free,rfl⟩ := createdThere made
  refine ⟨place,⟨made,leads,free,?_⟩,rfl⟩
  unfold createNew at made
  split at made
  · cases made
  · cases made
  · split at made
    · cases made
    · rename_i asks
      simpa using asks

theorem Drafts.deep (drafts : t.Drafts temporary place) : place ≠ [] := by
  rintro rfl
  cases drafts.free

theorem Drafts.there (drafts : t.Drafts temporary place) : place = temporary.goal t.working :=
  resolveGoal drafts.leads

theorem Drafts.touches (drafts : t.Drafts temporary place) (written : Octets) :
    Touches (· = place) t (t.withFile place written) :=
  touchesPut (P := (· = place)) rfl drafts.deep (by simp [NoDirectory,drafts.free]) privateFileMode written

theorem Drafts.found (drafts : t.Drafts temporary place) (written : Octets) :
    (t.withFile place written).find temporary = .ok (place,.file privateFileMode written) := by
  refine findFile drafts.asks ((drafts.touches written).resolve drafts.leads) ?_
  rw [withFile,nodePut drafts.deep,if_pos rfl]

theorem Drafts.appends (drafts : t.Drafts temporary place) (written part : Octets) :
    (t.withFile place written).append temporary part = .ok (t.withFile place (written ++ part)) := by
  rw [appendsHere (drafts.found written)]
  exact congrArg Except.ok (withFileTwice t place written (written ++ part))

theorem Drafts.removes (drafts : t.Drafts temporary place) (written : Octets) :
    (t.withFile place written).removeFile temporary = .ok t := by
  rw [removesHere (drafts.found written),withFileRemoved drafts.free]

structure Aims (t : Tree) (p : Path) (goal : Place) : Prop where
  leads : t.resolve p = .ok goal
  free : t.NoDirectory goal
  asks : p.asksDirectory = false

theorem Aims.deep (aims : t.Aims p goal) : goal ≠ [] := by
  rintro rfl
  exact aims.free _ rfl

theorem Drafts.moves (drafts : t.Drafts temporary place)
    (moved : (t.withFile place octets).rename temporary p = .ok u) :
    ∃ goal, t.Aims p goal ∧ u = t.withFile goal octets := by
  obtain ⟨source,node,goal,leads,there,aim,free,rfl,asks⟩ := renamedThere moved
  have touches := drafts.touches octets
  cases Except.ok.inj ((touches.resolve drafts.leads).symm.trans leads)
  rw [withFile,nodePut drafts.deep,if_pos rfl] at there
  cases there
  refine ⟨goal,⟨touches.symm.resolve aim,?_,asks⟩,?_⟩
  · intro mode directory
    exact free mode ((touches.directory goal mode).mpr directory)
  · rw [withFileRemoved drafts.free]
    rfl

theorem noFileRemoved {fault : Fault} (failed : t.removeFile temporary = .error fault) :
    t.isFile temporary = false := by
  unfold removeFile at failed
  unfold isFile
  split at failed
  · rename_i found
    rw [found]
  · rename_i found
    rw [found]
    rfl
  · cases failed

theorem nothingRemoved (leads : t.resolve temporary = .ok place) (free : t.node? place = none) :
    t.removeFile temporary = .error .notFound := by
  rw [removeFile,findNothing leads free]

end Tree

inductive Loose (t : Tree) (temporary : Path) (octets : Octets) : Tree → Prop
  | untouched : Loose t temporary octets t
  | drafted {place written rest} (drafts : t.Drafts temporary place) (whole : written ++ rest = octets) :
      Loose t temporary octets (t.withFile place written)

inductive Stands (t : Tree) (temporary p : Path) (octets : Octets) : Stage → Prop
  | opening : Stands t temporary p octets ⟨.opening,t⟩
  | writing {place written rest} (drafts : t.Drafts temporary place) (whole : written ++ rest = octets) :
      Stands t temporary p octets ⟨.writing rest,t.withFile place written⟩
  | moving {place} (drafts : t.Drafts temporary place) :
      Stands t temporary p octets ⟨.moving,t.withFile place octets⟩
  | replaced {place goal} (drafts : t.Drafts temporary place) (aims : t.Aims p goal)
      (moves : (t.withFile place octets).rename temporary p = .ok (t.withFile goal octets)) :
      Stands t temporary p octets ⟨.replaced,t.withFile goal octets⟩
  | withdrawing {u} (fault) (loose : Loose t temporary octets u) :
      Stands t temporary p octets ⟨.withdrawing fault,u⟩
  | spared {cause} (fault) (stuck : t.removeFile temporary = .error cause) :
      Stands t temporary p octets ⟨.withdrawn fault,t⟩
  | cleared {u} (fault) (removed : t.removeFile temporary = .ok u) :
      Stands t temporary p octets ⟨.withdrawn fault,u⟩
  | littered {u} (fault) (loose : Loose t temporary octets u) :
      Stands t temporary p octets ⟨.littered fault,u⟩

section
variable {t u : Tree} {temporary p : Path} {octets : Octets} {s s' : Stage}

theorem Stands.loose (stands : Stands t temporary p octets s) (may : s.phase.mayFail = true) :
    Loose t temporary octets s.tree := by
  cases stands with
  | opening => exact .untouched
  | writing drafts whole => exact .drafted drafts whole
  | moving drafts => exact .drafted drafts (List.append_nil octets)
  | _ => cases may

theorem Loose.withdrawn {u v : Tree} (loose : Loose t temporary octets u) (fault : Fault)
    (removed : u.removeFile temporary = .ok v) : Stands t temporary p octets ⟨.withdrawn fault,v⟩ := by
  cases loose with
  | untouched => exact .cleared fault removed
  | drafted drafts whole =>
    -- nothing was at the place of the draft, so its removal gives the first tree again
    rw [drafts.removes] at removed
    cases removed
    exact .spared fault (Tree.nothingRemoved drafts.leads drafts.free)

theorem Loose.stuck {u : Tree} {cause : Fault} (loose : Loose t temporary octets u) (fault : Fault)
    (missing : u.removeFile temporary = .error cause) : Stands t temporary p octets ⟨.withdrawn fault,u⟩ := by
  cases loose with
  | untouched => exact .spared fault missing
  | drafted drafts whole =>
    rw [drafts.removes] at missing
    cases missing

theorem standsStep (stands : Stands t temporary p octets s) (step : Proceeds temporary p octets s s') :
    Stands t temporary p octets s' := by
  cases step with
  | create made =>
    cases stands
    obtain ⟨place,drafts,rfl⟩ := Tree.drafts made
    exact .writing drafts (List.nil_append octets)
  | write part rest written =>
    cases stands with
    | writing drafts whole =>
      rw [drafts.appends] at written
      cases written
      exact .writing drafts ((List.append_assoc _ part rest).trans whole)
  | sync there =>
    cases stands with
    | writing drafts whole =>
      rw [List.append_nil] at whole
      subst whole
      exact .moving drafts
  | move moved =>
    cases stands with
    | moving drafts =>
      obtain ⟨goal,aims,rfl⟩ := drafts.moves moved
      exact .replaced drafts aims moved
  | fail fault may => exact .withdrawing fault (stands.loose may)
  | withdraw removed =>
    cases stands with
    | withdrawing _ loose => exact loose.withdrawn _ removed
  | missing missing =>
    cases stands with
    | withdrawing _ loose => exact loose.stuck _ missing
  | litter fault =>
    cases stands with
    | withdrawing fault loose => exact .littered fault loose

theorem stands (reaches : Reaches temporary p octets ⟨.opening,t⟩ s) : Stands t temporary p octets s := by
  induction reaches with
  | start => exact .opening
  | next before step ih => exact standsStep ih step

theorem Proceeds.goesOn (step : Proceeds temporary p octets s s') : s.phase.result? = none := by
  cases step with
  | @fail phase t fault may => cases phase <;> first | rfl | cases may
  | _ => rfl

theorem Proceeds.fails {fault : Fault} (step : Proceeds temporary p octets s s')
    (withdrawing : s.phase = .withdrawing fault) : s'.phase.result? = some (.error fault) := by
  cases step with
  | withdraw removed =>
    cases withdrawing
    rfl
  | missing missing =>
    cases withdrawing
    rfl
  | litter =>
    cases withdrawing
    rfl
  | fail fault may =>
    cases withdrawing
    cases may
  | _ => cases withdrawing

theorem withdrawingFails {fault : Fault} (reaches : Reaches temporary p octets ⟨.withdrawing fault,t⟩ s) :
    s.phase = .withdrawing fault ∨ s.phase.result? = some (.error fault) := by
  induction reaches with
  | start => exact .inl rfl
  | next before step ih =>
    rcases ih with withdrawing | ended
    · exact .inr (step.fails withdrawing)
    · -- an ended replacement has no further step
      cases step.goesOn.symm.trans ended

theorem Loose.touches (loose : Loose t temporary octets u) :
    Tree.Touches (· = temporary.goal t.working) t u := by
  cases loose with
  | untouched => exact Tree.touchesSelf _ _
  | drafted drafts whole => exact (drafts.touches _).mono fun place here => here.trans drafts.there

theorem Tree.Aims.touches {goal : Place} (aims : t.Aims p goal) (octets : Octets) :
    Tree.Touches (· = goal) t (t.withFile goal octets) :=
  touchesPut (P := (· = goal)) rfl aims.deep aims.free privateFileMode octets

theorem Tree.Aims.file {goal : Place} (aims : t.Aims p goal) (octets : Octets) :
    (t.withFile goal octets).node? goal = some (.file privateFileMode octets) := by
  rw [withFile,nodePut aims.deep,if_pos rfl]

theorem removedTouches (removed : t.removeFile temporary = .ok u) :
    Tree.Touches (· = temporary.goal t.working) t u ∧ u.removeFile temporary = .error .notFound := by
  obtain ⟨place,leads,free,rfl⟩ := Tree.removedThere removed
  have deep : place ≠ [] := by
    rintro rfl
    exact free _ rfl
  have touches := Tree.touchesRemove (P := (· = temporary.goal t.working)) (Tree.resolveGoal leads) deep free
  refine ⟨touches,Tree.nothingRemoved (touches.resolve leads) ?_⟩
  rw [Tree.nodeRemove deep,if_pos rfl]

theorem Stands.pending (stands : Stands t temporary p octets s) (early : s.phase ≠ .replaced) :
    Tree.Touches (· = temporary.goal t.working) t s.tree := by
  cases stands with
  | opening => exact Tree.touchesSelf _ _
  | writing drafts whole => exact (Loose.drafted drafts whole).touches
  | moving drafts => exact (Loose.drafted drafts (List.append_nil octets)).touches
  | replaced drafts aims moves => exact absurd rfl early
  | withdrawing fault loose => exact loose.touches
  | spared fault stuck => exact Tree.touchesSelf _ _
  | cleared fault removed => exact (removedTouches removed).1
  | littered fault loose => exact loose.touches

theorem Stands.done (stands : Stands t temporary p octets s) (done : s.phase = .replaced) :
    Tree.Touches (· = p.goal t.working) t s.tree ∧ s.tree.content? p = some octets := by
  cases stands with
  | replaced drafts aims moves =>
    have touches := aims.touches octets
    refine ⟨touches.mono fun place here => here.trans (Tree.resolveGoal aims.leads),?_⟩
    rw [Tree.contentThere aims.asks (touches.resolve aims.leads),aims.file]
  | _ => cases done

theorem Stands.ended {r : Except Fault Unit} (stands : Stands t temporary p octets s)
    (ended : s.phase.result? = some r) (tidy : ∀ fault, s.phase ≠ .littered fault)
    (apart : temporary.goal t.working ≠ p.goal t.working) : s.tree.isFile temporary = false := by
  cases stands with
  | @replaced place goal drafts aims moves =>
    -- the draft was moved away, and to another place
    have other : goal ≠ place := by
      rw [drafts.there,Tree.resolveGoal aims.leads]
      exact apart.symm
    have touches := aims.touches octets
    refine Tree.noFileRemoved (Tree.nothingRemoved (touches.resolve drafts.leads) ?_)
    rw [touches.rest place other.symm,drafts.free]
  | spared fault stuck => exact Tree.noFileRemoved stuck
  | cleared fault removed => exact Tree.noFileRemoved (removedTouches removed).2
  | littered fault loose => exact absurd rfl (tidy fault)
  | _ => cases ended

end

variable {d d' : Disk} {temporary p : Path} {octets : Octets}

theorem appendStops {fault : Fault} (failed : d.append p octets = (.error fault,d')) : d'.tree = d.tree ∨
    ∃ part rest, part ++ rest = octets ∧ d.tree.append p part = .ok d'.tree := by
  unfold append at failed
  split at failed
  · rename_i mishap _
    split at failed
    · cases failed
      exact .inl rfl
    · rename_i written
      cases failed
      exact .inr ⟨_,_,List.take_append_drop mishap.reach octets,written⟩
  · split at failed
    · cases failed
      exact .inl rfl
    · cases failed

def Comes (temporary p : Path) (octets : Octets) (s : Stage) : Step Unit → Prop
  | (.ok (),d) => Reaches temporary p octets s ⟨.replaced,d.tree⟩
  | (.error fault,d) => Reaches temporary p octets s ⟨.withdrawing fault,d.tree⟩

variable {s : Stage} {phase : Phase}

theorem comesNext {r : Step Unit} {next : Unit → Disk → Step Unit}
    (failed : ∀ fault d', r = (.error fault,d') → Reaches temporary p octets s ⟨.withdrawing fault,d'.tree⟩)
    (went : ∀ d', r = (.ok (),d') → Comes temporary p octets s (next () d')) :
    Comes temporary p octets s (r.andThen next) := by
  obtain ⟨result,d'⟩ := r
  cases result with
  | error fault => exact failed fault d' rfl
  | ok u => exact went d' rfl

theorem Reaches.fails {fault : Fault} (reaches : Reaches temporary p octets s ⟨phase,d.tree⟩)
    (may : phase.mayFail = true) (still : d'.tree = d.tree) :
    Reaches temporary p octets s ⟨.withdrawing fault,d'.tree⟩ := by
  rw [still]
  exact reaches.next (.fail fault may)

theorem throughComes (d : Disk) (temporary p : Path) (octets : Octets) :
    Comes temporary p octets ⟨.opening,d.tree⟩ (d.replaceThrough temporary p octets) := by
  have opening : Reaches temporary p octets ⟨.opening,d.tree⟩ ⟨.opening,d.tree⟩ := .start _
  unfold replaceThrough
  refine comesNext (fun fault d1 failed => opening.fails rfl (changeError failed)) ?_
  intro d1 created
  have writing := opening.next (.create (changeOk created))
  refine comesNext ?_ ?_
  · intro fault d2 failed
    -- a failed write may have got a first part there
    rcases appendStops failed with still | ⟨part,rest,whole,written⟩
    · exact writing.fails rfl still
    · rw [← whole] at writing ⊢
      exact (writing.next (.write part rest written)).fails rfl rfl
  intro d2 written
  have full : Reaches temporary p octets ⟨.opening,d.tree⟩ ⟨.writing [],d2.tree⟩ := by
    refine writing.next ?_
    have step : Proceeds temporary p octets ⟨.writing (octets ++ []),d1.tree⟩ ⟨.writing [],d2.tree⟩ :=
      .write octets [] (appendOk written)
    rwa [List.append_nil] at step
  have still : ∀ {result d3}, d2.sync temporary = (result,d3) → d3.tree = d2.tree := by
    intro result d3 synced
    have looked := lookTree d2 fun t => (t.read temporary).map fun _ => ()
    exact (congrArg (fun r : Step Unit => r.2.tree) synced).symm.trans looked
  refine comesNext (fun fault d3 failed => full.fails rfl (still failed)) ?_
  intro d3 synced
  have moving : Reaches temporary p octets ⟨.opening,d.tree⟩ ⟨.moving,d3.tree⟩ := by
    rw [still synced]
    have there := lookOk synced
    cases read : d2.tree.read temporary with
    | error fault =>
      rw [read] at there
      cases there
    | ok content => exact full.next (.sync read)
  cases moved : d3.rename temporary p with
  | mk result d4 =>
    cases result with
    | error fault => exact moving.fails rfl (changeError moved)
    | ok u => exact moving.next (.move (changeOk moved))

theorem removeStops {fault : Fault} (failed : d.removeFile p = (.error fault,d')) :
    d'.tree = d.tree ∧ (d.nextMishap = none → d.tree.removeFile p = .error fault) := by
  refine ⟨changeError failed,?_⟩
  intro due
  unfold removeFile change at failed
  rw [due] at failed
  simp only at failed
  split at failed
  · rename_i stuck
    cases failed
    exact stuck
  · cases failed

theorem replaceDone
    (through : d.countTemporary.replaceThrough (temporaryPath p d.process d.temporaries) p octets = (.ok (),d')) :
    d.replace p octets = (.ok (),d') := by
  unfold replace
  simp only [through]

theorem replaceUndone {fault : Fault}
    (through : d.countTemporary.replaceThrough (temporaryPath p d.process d.temporaries) p octets =
      (.error fault,d')) :
    d.replace p octets = (.error fault,(d'.removeFile (temporaryPath p d.process d.temporaries)).2) := by
  unfold replace
  simp only [through]

theorem reachesEnd {fault : Fault} (reaches : Reaches temporary p octets s ⟨.withdrawing fault,d.tree⟩) :
    ∃ phase, Reaches temporary p octets s ⟨phase,(d.removeFile temporary).2.tree⟩ ∧
      phase.result? = some (.error fault) ∧ (d.nextMishap = none → ∀ fault, phase ≠ .littered fault) := by
  cases removed : d.removeFile temporary with
  | mk result d' =>
    cases result with
    | ok u =>
      have withdrawn := reaches.next (.withdraw (changeOk removed))
      exact ⟨.withdrawn fault,withdrawn,rfl,fun _ _ same => by cases same⟩
    | error cause =>
      obtain ⟨still,stuck⟩ := removeStops removed
      rw [still]
      cases due : d.nextMishap with
      | none => exact ⟨.withdrawn fault,reaches.next (.missing (stuck due)),rfl,fun _ _ same => by cases same⟩
      | some mishap => exact ⟨.littered fault,reaches.next (.litter fault _),rfl,fun none => by cases none⟩

theorem replaceReaches (d : Disk) (p : Path) (octets : Octets) :
    ∃ phase, Reaches (temporaryPath p d.process d.temporaries) p octets ⟨.opening,d.tree⟩
        ⟨phase,(d.replace p octets).2.tree⟩ ∧
      phase.result? = some (d.replace p octets).1 ∧
      ((d.countTemporary.replaceThrough (temporaryPath p d.process d.temporaries) p octets).2.nextMishap =
        none → ∀ fault, phase ≠ .littered fault) := by
  have comes := throughComes d.countTemporary (temporaryPath p d.process d.temporaries) p octets
  cases through : d.countTemporary.replaceThrough (temporaryPath p d.process d.temporaries) p octets with
  | mk result d' =>
    rw [through] at comes
    cases result with
    | ok u =>
      rw [replaceDone through]
      exact ⟨.replaced,comes,rfl,fun _ _ same => by cases same⟩
    | error fault =>
      rw [replaceUndone through]
      exact reachesEnd comes

/-! Every stage is what some run leaves: one whose next step fails, and the removal as well. -/

theorem removeStuck {mishap : Mishap} (due : d.nextMishap = some mishap) :
    (d.removeFile p).2.tree = d.tree := by
  unfold removeFile change
  rw [due]
  rfl

theorem removeCalm (calm : d.mishaps = []) (p : Path) : (d.removeFile p).2.tree =
    match d.tree.removeFile p with
    | .ok u => u
    | .error _ => d.tree := by
  cases removed : d.tree.removeFile p with
  | ok u => exact congrArg (fun r : Step Unit => r.2.tree) (changeCalm calm removed)
  | error cause => exact congrArg (fun r : Step Unit => r.2.tree) (changeFails calm removed)

theorem throughUnopened {mishap : Mishap} (due : d.nextMishap = some mishap) :
    d.replaceThrough temporary p octets = (.error mishap.fault,d.afterMishap) := by
  unfold replaceThrough createNew change
  rw [due]
  rfl

theorem throughDrafted {place : Place} {mishap : Mishap} (drafts : d.tree.Drafts temporary place)
    (first : d.nextMishap = none) (second : d.afterMishap.nextMishap = some mishap) :
    d.replaceThrough temporary p octets = (.error mishap.fault,
      { d.afterMishap.afterMishap with tree := d.tree.withFile place (octets.take mishap.reach) }) := by
  have created : d.createNew temporary privateFileMode =
      (.ok (),{ d.afterMishap with tree := d.tree.withFile place [] }) := by
    unfold createNew change
    rw [first]
    simp only [drafts.makes]
  have written : append { d.afterMishap with tree := d.tree.withFile place [] } temporary octets =
      (.error mishap.fault,
        { d.afterMishap.afterMishap with tree := d.tree.withFile place (octets.take mishap.reach) }) := by
    have due : nextMishap { d.afterMishap with tree := d.tree.withFile place [] } = some mishap := second
    unfold append
    rw [due]
    simp only [drafts.appends,List.nil_append]
    rfl
  unfold replaceThrough
  rw [created,Outcome.andThenOk,written]
  rfl

theorem throughDone {place goal : Place} (calm : d.mishaps = []) (drafts : d.tree.Drafts temporary place)
    (moves : (d.tree.withFile place octets).rename temporary p = .ok (d.tree.withFile goal octets)) :
    d.replaceThrough temporary p octets = (.ok (),{ d with tree := d.tree.withFile goal octets }) := by
  have created : d.createNew temporary privateFileMode = (.ok (),{ d with tree := d.tree.withFile place [] }) :=
    changeCalm calm drafts.makes
  have written : append { d with tree := d.tree.withFile place [] } temporary octets =
      (.ok (),{ d with tree := d.tree.withFile place octets }) :=
    appendCalm (by exact calm) (drafts.appends [] octets)
  have synced : sync { d with tree := d.tree.withFile place octets } temporary =
      (.ok (),{ d with tree := d.tree.withFile place octets }) := by
    unfold sync
    rw [lookCalm (by exact calm),Tree.readsHere (drafts.found octets)]
    rfl
  have moved : rename { d with tree := d.tree.withFile place octets } temporary p =
      (.ok (),{ d with tree := d.tree.withFile goal octets }) := changeCalm (by exact calm) moves
  unfold replaceThrough
  rw [created,Outcome.andThenOk,written,Outcome.andThenOk,synced,Outcome.andThenOk,moved]

def underMishaps (d : Disk) (mishaps : List (Option Mishap)) : Disk := { d with mishaps }

theorem replaceUnopened {mishap : Mishap} (due : d.nextMishap = some mishap) (p : Path) (octets : Octets) :
    ∃ d' : Disk, d'.tree = d.tree ∧ d'.mishaps = d.mishaps.tail ∧ d.replace p octets =
      (.error mishap.fault,(d'.removeFile (temporaryPath p d.process d.temporaries)).2) :=
  ⟨d.countTemporary.afterMishap,rfl,rfl,replaceUndone (throughUnopened due)⟩

theorem replaceDrafted {place : Place} {mishap : Mishap}
    (drafts : d.tree.Drafts (temporaryPath p d.process d.temporaries) place) (first : d.nextMishap = none)
    (second : d.afterMishap.nextMishap = some mishap) (octets : Octets) :
    ∃ d' : Disk, d'.tree = d.tree.withFile place (octets.take mishap.reach) ∧ d'.mishaps = d.mishaps.tail.tail ∧
      d.replace p octets =
        (.error mishap.fault,(d'.removeFile (temporaryPath p d.process d.temporaries)).2) :=
  ⟨_,rfl,rfl,replaceUndone (throughDrafted (d := d.countTemporary) drafts first second)⟩

theorem unopenedLeft (d : Disk) (p : Path) (octets : Octets) (fault : Fault) {u : Tree}
    (left : (match d.tree.removeFile (temporaryPath p d.process d.temporaries) with
      | .ok u => u
      | .error _ => d.tree) = u) :
    ((d.underMishaps [some ⟨fault,0⟩]).replace p octets).1 = .error fault ∧
      ((d.underMishaps [some ⟨fault,0⟩]).replace p octets).2.tree = u := by
  obtain ⟨d',tree,calm,failed⟩ := replaceUnopened (d := d.underMishaps [some ⟨fault,0⟩]) rfl p octets
  dsimp only [underMishaps] at tree calm failed ⊢
  rw [failed]
  refine ⟨rfl,?_⟩
  have removed := removeCalm (d := d') calm (temporaryPath p d.process d.temporaries)
  rw [tree] at removed
  exact removed.trans left

theorem looseLeft {u : Tree} (loose : Loose d.tree (temporaryPath p d.process d.temporaries) octets u)
    (fault : Fault) : ∃ mishaps, ((d.underMishaps mishaps).replace p octets).1 = .error fault ∧
      ((d.underMishaps mishaps).replace p octets).2.tree = u := by
  have litter : ∀ {d' : Disk} {p : Path}, d'.mishaps = [some ⟨fault,0⟩] → (d'.removeFile p).2.tree = d'.tree := by
    intro d' p left
    exact removeStuck (by rw [nextMishap,left]; rfl)
  cases loose with
  | untouched =>
    obtain ⟨d',tree,left,failed⟩ :=
      replaceUnopened (d := d.underMishaps [some ⟨fault,0⟩,some ⟨fault,0⟩]) rfl p octets
    refine ⟨_,by rw [failed],?_⟩
    rw [failed]
    exact (litter left).trans tree
  | @drafted place written rest drafts whole =>
    obtain ⟨d',tree,left,failed⟩ := replaceDrafted
      (d := d.underMishaps [none,some ⟨fault,written.length⟩,some ⟨fault,0⟩]) drafts rfl rfl octets
    refine ⟨_,by rw [failed],?_⟩
    rw [failed]
    refine (litter left).trans (tree.trans ?_)
    rw [← whole,List.take_left]
    rfl

theorem stageLeft (reaches : Reaches (temporaryPath p d.process d.temporaries) p octets ⟨.opening,d.tree⟩ s) :
    ∃ mishaps, ((d.underMishaps mishaps).replace p octets).2.tree = s.tree ∧
      ∀ r, s.phase.result? = some r → ((d.underMishaps mishaps).replace p octets).1 = r := by
  have standing := stands reaches
  -- a stage that can fail is left as it is when its next step fails and the removal as well
  by_cases may : s.phase.mayFail = true
  · obtain ⟨mishaps,-,left⟩ := looseLeft (standing.loose may) .other
    refine ⟨mishaps,left,fun r ended => ?_⟩
    generalize s.phase = phase at may ended
    cases phase <;> contradiction
  cases standing with
  | replaced drafts aims moves =>
    have done : (d.underMishaps []).countTemporary.replaceThrough
        (temporaryPath p d.process d.temporaries) p octets = (.ok (),_) := throughDone rfl drafts moves
    refine ⟨[],?_⟩
    rw [replaceDone done]
    exact ⟨rfl,fun r ended => Option.some.inj ended⟩
  | withdrawing fault loose =>
    obtain ⟨mishaps,-,left⟩ := looseLeft loose fault
    exact ⟨mishaps,left,fun r none => by cases none⟩
  | littered fault loose =>
    obtain ⟨mishaps,failed,left⟩ := looseLeft loose fault
    exact ⟨mishaps,left,fun r ended => failed.trans (Option.some.inj ended)⟩
  | spared fault stuck =>
    obtain ⟨failed,left⟩ := unopenedLeft d p octets fault (by rw [stuck])
    exact ⟨_,left,fun r ended => failed.trans (Option.some.inj ended)⟩
  | cleared fault removed =>
    obtain ⟨failed,left⟩ := unopenedLeft d p octets fault (by rw [removed])
    exact ⟨_,left,fun r ended => failed.trans (Option.some.inj ended)⟩
  | _ => exact absurd rfl may

end GrantKeeper.Disk

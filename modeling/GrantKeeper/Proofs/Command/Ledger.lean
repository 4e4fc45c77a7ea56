import GrantKeeper.Proofs.Command.Opening
import GrantKeeper.Proofs.Disk.Sparing
import GrantKeeper.Proofs.Vault.Listing

/-! The accounts as whoever gives the commands keeps count of them, and how settings and records on
a disk correspond to that count. -/
namespace GrantKeeper
open Disk (Place Tree)
open Time (Instant)
open Vault (Folder)

structure Entry where
  enrollment : Enrollment
  grant : Option Grant

def Entry.account (entry : Entry) : Account := ⟨entry.enrollment,entry.grant.getD .absent⟩

abbrev Ledger := Std.ExtTreeMap String Entry

namespace Ledger

def grant? (l : Ledger) (id : String) : Option Grant := l[id]?.bind (·.grant)

def after (l : Ledger) (now : Instant) : Command → Ledger
  | .add e => if e.defects.isEmpty then l.insert e.id ⟨e,l.grant? e.id⟩ else l
  | .remove id => l.erase id
  | .store id access renewal lifetime =>
    match l[id]? with
    | some entry => l.insert id { entry with grant := some (.issued now access renewal lifetime) }
    | none => l
  | _ => l

def listing (l : Ledger) : List String :=
  l.keys.filterMap fun id => l[id]?.map fun entry =>
    id ++ "\t" ++ entry.enrollment.provider.name ++ "\t" ++ entry.enrollment.email

theorem keysAscend (l : Ledger) : l.keys.Pairwise (· < ·) :=
  l.ordered_keys.imp compareOfLessAndEq_eq_lt.mp

structure Lists (l : Ledger) (es : List Enrollment) : Prop where
  once : (es.map (·.id)).Nodup
  same : ∀ id, es.find? (·.id == id) = l[id]?.map (·.enrollment)

variable {l : Ledger} {es : List Enrollment}

theorem grantEnter (l : Ledger) (e : Enrollment) :
    Ledger.grant? (l.insert e.id ⟨e,l.grant? e.id⟩) = l.grant? := by
  funext id
  unfold grant?
  rw [Std.ExtTreeMap.getElem?_insert]
  by_cases here : e.id = id <;> simp [here]

theorem grantRemove (l : Ledger) (id : String) :
    Ledger.grant? (l.erase id) = fun other => if id = other then none else l.grant? other := by
  funext other
  unfold grant?
  rw [Std.ExtTreeMap.getElem?_erase]
  by_cases here : id = other <;> simp [here]

theorem grantStore (l : Ledger) (id : String) (entry : Entry) (g : Grant) :
    Ledger.grant? (l.insert id { entry with grant := some g }) =
      fun other => if id = other then some g else l.grant? other := by
  funext other
  unfold grant?
  rw [Std.ExtTreeMap.getElem?_insert]
  by_cases here : id = other <;> simp [here]

theorem removeUnknown {id : String} (unknown : id ∉ l) : l.erase id = l := by
  apply Std.ExtTreeMap.ext_getElem?
  intro other
  rw [Std.ExtTreeMap.getElem?_erase]
  by_cases here : id = other
  · rw [Std.ExtTreeMap.mem_iff_isSome_getElem?,Option.not_isSome_iff_eq_none] at unknown
    rw [← here,unknown]
    simp
  · simp [here]

theorem usableEnter (usable : ∀ id ∈ l, Enrollment.isUsableId id = true) {id : String}
    (fit : Enrollment.isUsableId id = true) (entry : Entry) :
    ∀ other ∈ l.insert id entry, Enrollment.isUsableId other = true := by
  intro other member
  rcases Std.ExtTreeMap.mem_insert.mp member with same | old
  · rwa [← Std.LawfulEqCmp.eq_of_compare same]
  · exact usable other old

theorem listsNone : Lists ∅ [] := ⟨List.nodup_nil,fun id => by simp⟩

theorem findOnce (once : (es.map (·.id)).Nodup) (id : String) :
    es.reverse.find? (·.id == id) = es.find? (·.id == id) := by
  induction es with
  | nil => rfl
  | cons e es ih =>
    obtain ⟨new,rest⟩ := List.nodup_cons.mp once
    rw [List.reverse_cons,List.find?_append,ih rest]
    by_cases here : e.id = id
    · have absent : es.find? (·.id == id) = none := by
        rw [List.find?_eq_none]
        intro other member same
        have named : other.id = id := by simpa using same
        exact new (List.mem_map.mpr ⟨other,member,named.trans here.symm⟩)
      simp [here,absent]
    · simp [here]

theorem enterOnce (e : Enrollment) (once : (es.map (·.id)).Nodup) :
    ((Settings.enter e es).map (·.id)).Nodup := by
  have entered := Settings.enters e es
  generalize Settings.enter e es = next at entered ⊢
  -- the id stands already and keeps its place, or it is new and goes to the end
  cases entered with
  | replaced front back here first =>
    rw [List.map_append,List.map_cons,here] at once
    rwa [List.map_append,List.map_cons]
  | appended _ new =>
    rw [List.map_append,List.nodup_append]
    refine ⟨once,by simp,?_⟩
    intro id member other last
    obtain ⟨old,listed,rfl⟩ := List.mem_map.mp member
    rw [show other = e.id by simpa using last]
    exact new old listed

theorem Lists.enter (lists : l.Lists es) (e : Enrollment) (g : Option Grant) :
    Lists (l.insert e.id ⟨e,g⟩) (Settings.enter e es) := by
  have once := enterOnce e lists.once
  refine ⟨once,fun id => ?_⟩
  rw [Std.ExtTreeMap.getElem?_insert]
  by_cases here : e.id = id
  · rw [← here,Settings.enteredFirst]
    simp
  · rw [← findOnce once,Settings.enteredOther here,findOnce lists.once,lists.same]
    simp [here]

theorem Lists.remove (lists : l.Lists es) (id : String) : Lists (l.erase id) (es.filter (·.id != id)) := by
  refine ⟨lists.once.sublist (List.filter_sublist.map _),fun other => ?_⟩
  rw [List.find?_filter,Std.ExtTreeMap.getElem?_erase]
  by_cases here : id = other
  · subst here
    rw [List.find?_eq_none.mpr]
    · simp
    · intro e member
      simp
  · have same : es.find? (fun e => decide ((e.id != id) = true ∧ (e.id == other) = true)) =
        es.find? (·.id == other) := by
      congr 1
      funext e
      by_cases there : e.id = other
      · simp [there,Ne.symm here]
      · simp [there]
    rw [same,lists.same]
    simp [here]

theorem Lists.store (lists : l.Lists es) {id : String} {entry : Entry} (held : l[id]? = some entry)
    (g : Option Grant) : Lists (l.insert id { entry with grant := g }) es := by
  refine ⟨lists.once,fun other => ?_⟩
  rw [lists.same,Std.ExtTreeMap.getElem?_insert]
  by_cases here : id = other
  · subst here
    simp [held]
  · simp [here]

end Ledger

structure Site where
  settingsFile : Disk.Path
  directory : Disk.Path
  key : Option String

namespace Site

def cipherKey (site : Site) : Option Cipher.Key := site.key.map .ofPassphrase

def settingsPlace (site : Site) (t : Tree) : Place := site.settingsFile.goal t.working

def recordPlace (site : Site) (t : Tree) (id : String) : Place :=
  site.directory.goal t.working ++ [Folder.recordName id]

def settingsIn (site : Site) (t : Tree) : Except Fault Settings :=
  match t.file? (site.settingsPlace t) with
  | some octets => Settings.ofContents site.settingsFile octets
  | none => .ok .default

def recordIn? (site : Site) (t : Tree) (id : String) : Option (Except RecordDefect Grant) :=
  (t.file? (site.recordPlace t id)).map (Folder.readRecord site.cipherKey)

def settingsOf (es : List Enrollment) : Settings := { Settings.default with accounts := es }

structure Corresponds (site : Site) (t : Tree) (l : Ledger) : Prop where
  settings : ∃ es, l.Lists es ∧ site.settingsIn t = .ok (settingsOf es)
  records : ∀ id, Enrollment.isUsableId id = true → site.recordIn? t id = (l.grant? id).map .ok

def Apart (site : Site) (t : Tree) : Prop :=
  ∀ id, Enrollment.isUsableId id = true → site.recordPlace t id ≠ site.settingsPlace t

structure KeepsSettings (site : Site) (t : Tree) (es : List Enrollment) : Prop where
  content : site.settingsIn t = .ok (settingsOf es)
  there : ∀ octets, t.file? (site.settingsPlace t) = some octets →
    t.resolve site.settingsFile = .ok (site.settingsPlace t) ∧ site.settingsFile.asksDirectory = false

structure KeepsRecords (site : Site) (t : Tree) (grants : String → Option Grant) : Prop where
  records : ∀ id, Enrollment.isUsableId id = true → site.recordIn? t id = (grants id).map .ok
  held : ∀ id g, grants id = some g → g.scope = "" ∧ (site.directory.join ⟨Folder.recordName id⟩).Short

structure Keeps (site : Site) (t : Tree) (l : Ledger) : Prop where
  settings : ∃ es, l.Lists es ∧ site.KeepsSettings t es
  records : site.KeepsRecords t l.grant?
  usable : ∀ id ∈ l, Enrollment.isUsableId id = true
  apart : site.Apart t

variable {site : Site} {t u : Tree} {l : Ledger} {es : List Enrollment} {grants : String → Option Grant}
  {P : Place → Prop}

theorem settingsPlaceStill (site : Site) (working : u.working = t.working) :
    site.settingsPlace u = site.settingsPlace t := by
  unfold settingsPlace
  rw [working]

theorem recordPlaceStill (working : u.working = t.working) (id : String) :
    site.recordPlace u id = site.recordPlace t id := by
  unfold recordPlace
  rw [working]

theorem Keeps.corresponds (keeps : site.Keeps t l) : site.Corresponds t l := by
  obtain ⟨es,lists,settings⟩ := keeps.settings
  exact ⟨⟨es,lists,settings.content⟩,keeps.records.records⟩

theorem KeepsSettings.carried (keeps : site.KeepsSettings t es) (carries : Tree.Carries P t u)
    (apart : ¬ P (site.settingsPlace t)) : site.KeepsSettings u es := by
  have place := site.settingsPlaceStill carries.working
  have file : u.file? (site.settingsPlace u) = t.file? (site.settingsPlace t) := by
    rw [place,carries.file _ apart]
  refine ⟨?_,?_⟩
  · unfold settingsIn
    rw [file]
    exact keeps.content
  · intro octets found
    rw [file] at found
    obtain ⟨there,asks⟩ := keeps.there octets found
    rw [place]
    exact ⟨carries.resolve there,asks⟩

theorem recordCarried (carries : Tree.Carries P t u) {id : String} (apart : ¬ P (site.recordPlace t id)) :
    site.recordIn? u id = site.recordIn? t id := by
  unfold recordIn?
  rw [recordPlaceStill carries.working,carries.file _ apart]

theorem KeepsRecords.carried (keeps : site.KeepsRecords t grants) (carries : Tree.Carries P t u)
    (apart : ∀ id, Enrollment.isUsableId id = true → ¬ P (site.recordPlace t id)) :
    site.KeepsRecords u grants :=
  ⟨fun id usable => (recordCarried carries (apart id usable)).trans (keeps.records id usable),keeps.held⟩

theorem Apart.still (apart : site.Apart t) (working : u.working = t.working) : site.Apart u := by
  unfold Apart
  simp only [recordPlaceStill working,settingsPlaceStill site working]
  exact apart

theorem Keeps.grown (keeps : site.Keeps t l) (grows : Tree.Grows t u) : site.Keeps u l := by
  obtain ⟨es,lists,settings⟩ := keeps.settings
  have carries := grows.carries fun _ => False
  exact ⟨⟨es,lists,settings.carried carries id⟩,keeps.records.carried carries fun _ _ => id,keeps.usable,
    keeps.apart.still grows.working⟩

theorem KeepsSettings.written {d d' : Disk} {temporary : Disk.Path} {place goal : Place}
    (tidy : (settingsOf es).Tidy)
    (rewrites : d.Rewrites temporary site.settingsFile (settingsOf es).contents place goal d') :
    site.KeepsSettings d'.tree es := by
  obtain ⟨touches,file⟩ := rewrites.touches
  have there := touches.resolve rewrites.target
  have here : goal = site.settingsPlace d'.tree := Tree.resolveGoal there
  rw [here] at file there
  refine ⟨?_,fun _ _ => ⟨there,rewrites.asks⟩⟩
  unfold settingsIn
  rw [file]
  exact Settings.ofContentsWritten tidy site.settingsFile

theorem tidyIn (keeps : site.KeepsSettings t es) : (settingsOf es).Tidy := by
  have content := keeps.content
  unfold settingsIn at content
  split at content
  · exact Settings.ofContentsTidy content
  · cases content
    exact ⟨by decide,fun e member => by cases member⟩

end Site

end GrantKeeper

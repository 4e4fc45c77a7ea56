import GrantKeeper.Exchange.Refresher
import GrantKeeper.Proofs.Keeper.Outcomes
import GrantKeeper.Proofs.Settings.Record
import GrantKeeper.Vault.Memory

/-! Which enrollment a keeper has for an id after it has taken up some settings: the one that
stands last for that id. An update of the settings changes the one that stands first. -/
namespace GrantKeeper
open Exchange (Strategies)
variable {ω τ : Type} [Vault ω]

namespace Keeper

def enrollment? (k : Keeper ω τ) (id : String) : Option Enrollment := (k.account? id).map (·.enrollment)

theorem registerEnrollment (k : Keeper ω τ) (e : Enrollment) (id : String) :
    (k.register e).2.enrollment? id =
      if e.id = id ∧ Enrollment.isUsableId id = true then some e else k.enrollment? id := by
  have registered := k.registers e
  generalize k.register e = result at registered ⊢
  cases registered with
  | refused unusable =>
    rw [if_neg]
    rintro ⟨rfl,usable⟩
    rw [unusable] at usable
    cases usable
  | @enrolled loaded vault usable load =>
    unfold enrollment? account?
    by_cases here : e.id = id
    · rw [if_pos ⟨here,here ▸ usable⟩]
      cases old : k.roster.slot? e.id with
      | none =>
        rw [Roster.slotEnrollNew old,if_pos here]
        rfl
      | some slot =>
        rw [Roster.slotEnrollKnown old,if_pos here]
        rfl
    · rw [if_neg fun both => here both.1,Roster.slotEnrollOther _ here]

def registerAll (k : Keeper ω τ) (es : List Enrollment) : Keeper ω τ :=
  es.foldl (fun k e => (k.register e).2) k

theorem registerAllEnrollment (es : List Enrollment) (k : Keeper ω τ) (id : String) :
    (k.registerAll es).enrollment? id =
      if Enrollment.isUsableId id = true then (es.reverse.find? (·.id == id)).or (k.enrollment? id)
      else k.enrollment? id := by
  induction es generalizing k with
  | nil => simp [registerAll]
  | cons e es ih =>
    have rest := ih (k.register e).2
    rw [k.registerEnrollment e id] at rest
    refine rest.trans ?_
    by_cases usable : Enrollment.isUsableId id = true
    · by_cases here : e.id = id <;> simp [List.find?_append,usable,here]
    · simp [usable]

theorem registerSteady {k : Keeper ω τ} (steady : ∀ id, (Vault.load k.vault id).2 = k.vault)
    (e : Enrollment) : (k.register e).2.vault = k.vault := by
  have registered := k.registers e
  generalize k.register e = result at registered ⊢
  cases registered with
  | refused unusable => rfl
  | enrolled usable load => exact (congrArg Prod.snd load).symm.trans (steady e.id)

theorem registerAllSteady {k : Keeper ω τ} (steady : ∀ id, (Vault.load k.vault id).2 = k.vault)
    (es : List Enrollment) : (k.registerAll es).vault = k.vault := by
  induction es generalizing k with
  | nil => rfl
  | cons e es ih =>
    have same := registerSteady steady e
    refine (ih (k := (k.register e).2) ?_).trans same
    rwa [same]

omit [Vault ω] in
theorem enrolledAccount (k : Keeper ω τ) (e : Enrollment) (stored : Option Grant) (id : String) :
    Keeper.account? { k with roster := k.roster.enroll e stored } id =
      if e.id = id then some ⟨e,stored.getD (((k.account? id).map (·.grant)).getD .absent)⟩
      else k.account? id := by
  unfold account?
  by_cases here : e.id = id
  · subst here
    cases old : k.roster.slot? e.id with
    | none => rw [Roster.slotEnrollNew old,if_pos rfl,if_pos rfl]; rfl
    | some slot => rw [Roster.slotEnrollKnown old,if_pos rfl,if_pos rfl]; rfl
  · rw [Roster.slotEnrollOther _ here,if_neg here]

theorem registerAllAccount {k : Keeper ω τ} (steady : ∀ id, (Vault.load k.vault id).2 = k.vault)
    (es : List Enrollment) (id : String) (usable : Enrollment.isUsableId id = true) :
    (k.registerAll es).account? id =
      match es.reverse.find? (·.id == id) with
      | some e => some ⟨e,((Vault.load k.vault id).1.toOption.getD none).getD
          (((k.account? id).map (·.grant)).getD .absent)⟩
      | none => k.account? id := by
  induction es generalizing k with
  | nil => rfl
  | cons e es ih =>
    have registered := k.registers e
    have rest := ih (k := (k.register e).2)
    change ((k.register e).2.registerAll es).account? id = _
    generalize k.register e = result at registered rest ⊢
    cases registered with
    | refused unusable =>
      have other : e.id ≠ id := by
        rintro rfl
        rw [usable] at unusable
        cases unusable
      rw [rest steady]
      simp [List.find?_append,other]
    | @enrolled loaded vault fit load =>
      have same : vault = k.vault := (congrArg Prod.snd load).symm.trans (steady e.id)
      subst same
      rw [rest steady,List.reverse_cons,List.find?_append]
      have enrolled := k.enrolledAccount e (loaded.toOption.getD none) id
      by_cases here : e.id = id
      · rw [if_pos here] at enrolled
        rw [enrolled,← here,load]
        cases es.reverse.find? (·.id == e.id) with
        | none => simp
        | some later => cases loaded.toOption.getD none <;> rfl
      · rw [if_neg here] at enrolled
        rw [enrolled]
        cases es.reverse.find? (·.id == id) <;> simp [here]

end Keeper

namespace Settings

theorem applyAll (s : Settings) (k : Keeper ω τ) :
    (s.apply k).2 = ((k.setAutoRefresh s.autoRefresh).setBuffer s.bufferMinutes).registerAll s.accounts := by
  exact (List.foldl_hom Prod.snd fun _ _ => rfl).symm

omit [Vault ω] in
theorem startsEmpty (s : Settings) (vault : ω) (strategies : Strategies τ) (id : String) :
    (((Keeper.new vault strategies).setAutoRefresh s.autoRefresh).setBuffer s.bufferMinutes).account? id =
      none :=
  congrArg (Option.map Slot.account) (Roster.slotEmpty id)

theorem applyEnrollment (s : Settings) (vault : ω) (strategies : Strategies τ) (id : String) :
    (s.apply (Keeper.new vault strategies)).2.enrollment? id =
      if Enrollment.isUsableId id = true then s.accounts.reverse.find? (·.id == id) else none := by
  rw [applyAll,Keeper.registerAllEnrollment,Keeper.enrollment?,startsEmpty,Option.map_none,Option.or_none]

theorem applyAccount {vault : ω} (steady : ∀ id, (Vault.load vault id).2 = vault) (s : Settings)
    (strategies : Strategies τ) (id : String) (usable : Enrollment.isUsableId id = true) :
    (s.apply (Keeper.new vault strategies)).2.account? id =
      (s.accounts.reverse.find? (·.id == id)).map fun e =>
        ⟨e,((Vault.load vault id).1.toOption.getD none).getD .absent⟩ := by
  rw [applyAll,Keeper.registerAllAccount steady s.accounts id usable,startsEmpty]
  cases s.accounts.reverse.find? (·.id == id) <;> rfl

def behind (s : Settings) (id : String) : List Enrollment := (s.accounts.filter (·.id == id)).tail

inductive Enters (e : Enrollment) : List Enrollment → List Enrollment → Prop
  | replaced {old} (front back) (here : old.id = e.id) (first : ∀ other ∈ front, other.id ≠ e.id) :
      Enters e (front ++ old :: back) (front ++ e :: back)
  | appended (es) (new : ∀ other ∈ es, other.id ≠ e.id) : Enters e es (es ++ [e])

theorem enters (e : Enrollment) (es : List Enrollment) : Enters e es (enter e es) := by
  induction es with
  | nil => exact .appended [] nofun
  | cons other others ih =>
    unfold enter
    split
    · rename_i here
      exact .replaced [] others here nofun
    · rename_i apart
      generalize enter e others = next at ih ⊢
      cases ih with
      | replaced front back here first =>
        exact .replaced (other :: front) back here (List.forall_mem_cons.mpr ⟨apart,first⟩)
      | appended _ new => exact .appended (other :: others) (List.forall_mem_cons.mpr ⟨apart,new⟩)

theorem enteredFirst (e : Enrollment) (es : List Enrollment) :
    (enter e es).find? (·.id == e.id) = some e := by
  have entered := enters e es
  generalize enter e es = next at entered ⊢
  cases entered with
  | replaced front back here first =>
    have none : front.find? (·.id == e.id) = none := by simpa using first
    simp [List.find?_append,none]
  | appended _ new =>
    have none : es.find? (·.id == e.id) = none := by simpa using new
    simp [List.find?_append,none]

theorem enteredLast (e : Enrollment) (es : List Enrollment) : (enter e es).reverse.find? (·.id == e.id) =
    some ((es.filter (·.id == e.id)).tail.getLast?.getD e) := by
  have entered := enters e es
  generalize enter e es = next at entered ⊢
  cases entered with
  | @replaced old front back here first =>
    have none : front.filter (·.id == e.id) = [] := by simpa using first
    simp only [List.filter_append,none,List.filter_cons,here,beq_self_eq_true,if_true,List.nil_append,
      List.tail_cons,List.getLast?_filter]
    cases last : back.reverse.find? (·.id == e.id) <;> simp [List.find?_append,last]
  | appended _ new =>
    have none : es.filter (·.id == e.id) = [] := by simpa using new
    simp [none]

theorem enteredOther {e : Enrollment} {id : String} (apart : e.id ≠ id) (es : List Enrollment) :
    (enter e es).reverse.find? (·.id == id) = es.reverse.find? (·.id == id) := by
  have entered := enters e es
  generalize enter e es = next at entered ⊢
  cases entered with
  | replaced front back here first => simp [List.find?_append,here,apart]
  | appended _ new => simp [apart]

theorem tidyUpsert {s : Settings} (tidy : s.Tidy) {e : Enrollment} (normal : e.provider.Normal) :
    (s.upsert e).Tidy := by
  refine ⟨tidy.word,?_⟩
  have entered := enters e s.accounts
  have before := tidy.normal
  unfold upsert
  generalize s.accounts = es at entered before
  generalize enter e es = next at entered ⊢
  intro other member
  cases entered with
  | replaced front back here first =>
    rcases List.mem_append.mp member with early | late
    · exact before other (List.mem_append_left _ early)
    · rcases List.mem_cons.mp late with rfl | behind
      · exact normal
      · exact before other (List.mem_append_right _ (List.mem_cons_of_mem _ behind))
  | appended _ new =>
    rcases List.mem_append.mp member with old | own
    · exact before other old
    · cases List.mem_singleton.mp own
      exact normal

theorem tidyRemove {s : Settings} (tidy : s.Tidy) (id : String) : (s.remove id).2.Tidy :=
  ⟨tidy.word,fun e member => tidy.normal e (List.mem_filter.mp member).1⟩

theorem removeConfigured (s : Settings) (id : String) :
    (s.remove id).1 = true ↔ ∃ e ∈ s.accounts, e.id = id := by
  simp [remove,List.length_filter_eq_length_iff]

/-- An update of an enrollment is what the settings show for its id. A keeper under the settings,
saved and read again, has the last of those behind it if there are any; other ids keep theirs. -/
theorem upsertTaken {p : Disk.Path} {octets : Text.Octets} {s : Settings}
    (read : ofContents p octets = .ok s) {e : Enrollment} (usable : Enrollment.isUsableId e.id = true)
    (vault : ω) (strategies : Strategies τ) :
    let taken (s : Settings) := (s.apply (Keeper.new vault strategies)).2
    (s.upsert e).account? e.id = some e ∧
    (taken (s.upsert e)).enrollment? e.id = some ((s.behind e.id).getLast?.getD e) ∧
    (∀ id, id ≠ e.id → (taken (s.upsert e)).enrollment? id = (taken s).enrollment? id) ∧
    (e.provider.Normal → ofContents p (s.upsert e).contents = .ok (s.upsert e)) := by
  refine ⟨enteredFirst e s.accounts,?_,?_,?_⟩
  · rw [applyEnrollment,if_pos usable]
    exact enteredLast e s.accounts
  · intro id other
    rw [applyEnrollment,applyEnrollment]
    exact congrArg (fun found => if Enrollment.isUsableId id = true then found else none)
      (enteredOther other.symm s.accounts)
  · intro normal
    exact ofContentsWritten (tidyUpsert (ofContentsTidy read) normal) p

theorem upsertTakenSingle :
    let e : Enrollment := ⟨"a",.google,"new","","",""⟩
    let s : Settings := { default with accounts := [⟨"a",.google,"old","","",""⟩,⟨"b",.microsoft,"b","","",""⟩] }
    ofContents ⟨"/c"⟩ s.contents = .ok s ∧ Enrollment.isUsableId e.id = true ∧
    ((s.upsert e).apply (Keeper.new Vault.Memory.empty Exchange.Refresher.standard)).2.enrollment? "a" =
      some e := by
  intro e s
  have tidy : s.Tidy := ⟨by decide,by decide +kernel⟩
  have read := ofContentsWritten tidy ⟨"/c"⟩
  have usable : Enrollment.isUsableId e.id = true := by decide
  exact ⟨read,usable,(upsertTaken read usable Vault.Memory.empty Exchange.Refresher.standard).2.1⟩

/-- An account that stands twice: the keeper goes by the second entry, which the update leaves. -/
theorem doubledNotTaken :
    let e : Enrollment := ⟨"a",.google,"new","","",""⟩
    let old : Enrollment := ⟨"a",.google,"old","","",""⟩
    let s : Settings := { default with accounts := [old,old] }
    ofContents ⟨"/c"⟩ s.contents = .ok s ∧ Enrollment.isUsableId e.id = true ∧
    ((s.upsert e).apply (Keeper.new Vault.Memory.empty Exchange.Refresher.standard)).2.enrollment? "a" =
      some old ∧ old ≠ e := by
  intro e old s
  have tidy : s.Tidy := ⟨by decide,by decide +kernel⟩
  refine ⟨ofContentsWritten tidy ⟨"/c"⟩,by decide,?_,by decide⟩
  rw [applyEnrollment]
  decide

end Settings

end GrantKeeper

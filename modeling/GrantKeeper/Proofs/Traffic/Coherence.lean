import GrantKeeper.Proofs.Traffic.Changes
import GrantKeeper.Proofs.Traffic.Turns
import GrantKeeper.Proofs.Vault.Folder
import GrantKeeper.Proofs.Vault.Unsteady

/-! The roster holds what the records give. A grant is held only after it has
been saved, and a failed save leaves both sides as they were. -/
namespace GrantKeeper
open Vault (Lawful)
open Vault.Lawful (record? Honest)
variable {ω τ : Type} [Vault ω] [Lawful ω]

namespace Keeper

def Agrees (k : Keeper ω τ) (id : String) (g : Grant) : Prop :=
  record? k.vault id = some (some g) ∨ record? k.vault id = none ∧ g = .absent

def Coherent (k : Keeper ω τ) : Prop :=
  ∀ id slot, k.roster.slot? id = some slot → k.Agrees id slot.account.grant

def Owned (k : Keeper ω τ) : Prop := ∀ id, record? k.vault id ≠ none → k.knows id = true

def Loads (k : Keeper ω τ) : Event → Prop
  | .register e => Enrollment.isUsableId e.id = true →
      Honest k.vault ∧ (Vault.load k.vault e.id).1.isOk = true
  | _ => True

def Erases (k : Keeper ω τ) : Event → Prop
  | .delete id => Honest k.vault ∧ (Vault.erase k.vault id).1.isOk = true
  | _ => True

variable {k next : Keeper ω τ} {e : Event}

theorem loadsUnder {x : Turn} (loads : k.Loads e) : (k.under x).Loads e := by
  cases e <;> exact loads

theorem erasesUnder {x : Turn} (erases : k.Erases e) : (k.under x).Erases e := by
  cases e <;> exact erases

theorem coherentChanged (h : k.Coherent) (changed : k.Changes e next) (loads : k.Loads e) :
    next.Coherent := by
  refine relatesChanged (R := fun record g => record = some (some g) ∨ record = none ∧ g = .absent)
    (fun _ => .inl rfl) ?_ h changed
  rintro enrollment loaded vault held rfl usable load before
  obtain ⟨honest,ok⟩ := loads usable
  rw [load] at ok
  cases loaded with
  | error fault => cases ok
  | ok stored =>
    rw [Lawful.loaded honest load] at before ⊢
    cases stored with
    | none =>
      -- no record, so what is held was the absent grant before
      rcases before with absent | recorded | ⟨-,absent⟩
      · exact .inr ⟨rfl,absent⟩
      · cases recorded
      · exact .inr ⟨rfl,absent⟩
    | some g => exact .inl rfl

theorem ownedPut (h : k.Owned) (id : String) (slot : Slot) {vault : ω}
    (kept : ∀ other, id ≠ other → record? vault other = record? k.vault other) :
    Owned { k with vault, roster := k.roster.put id slot } := by
  intro other there
  change record? vault other ≠ none at there
  change ((k.roster.put id slot).slot? other).isSome = true
  rw [Roster.slotPut]
  split
  · rfl
  · rename_i apart
    rw [kept other apart] at there
    exact h other there

theorem ownedChanged (h : k.Owned) (changed : k.Changes e next) (erases : k.Erases e) : next.Owned := by
  cases changed with
  | @rests _ vault kept =>
    intro other there
    change record? vault other ≠ none at there
    rw [kept] at there
    exact h other there
  | marks found account epoch kept => exact ownedPut h _ _ fun other _ => kept other
  | saves found epoch saved => exact ownedPut h _ _ fun other apart => (saved other).trans (if_neg apart)
  | @enrolls e loaded vault usable load =>
    intro other there
    have kept := Lawful.loadKeeps k.vault e.id other
    rw [load] at kept
    change record? vault other ≠ none at there
    rw [kept] at there
    exact Roster.slotEnrollKept (h other there) e _
  | removes id =>
    intro other there
    change record? (Vault.erase k.vault id).2 other ≠ none at there
    change ((k.roster.remove id).slot? other).isSome = true
    obtain ⟨honest,ok⟩ := erases
    rw [Roster.slotRemove]
    split
    · rename_i same
      subst same
      exact absurd (Lawful.erasedOk honest ok) there
    · rename_i apart
      rcases Lawful.eraseKeeps k.vault id other with kept | ⟨same,-⟩
      · rw [kept] at there
        exact h other there
      · exact absurd same apart

end Keeper

namespace Traffic

theorem coherentPlay (k : Keeper ω τ) {xs : List Turn}
    (loads : Along (fun t e => t.keeper.Loads e) (start k) xs) : ((start k).play xs).keeper.Coherent := by
  -- the settings are read by neither side
  have keeps : ∀ (t : Traffic ω τ) x, t.keeper.Coherent → t.keeper.Loads x.event →
      (t.turn x).keeper.Coherent :=
    fun t x h loads => Keeper.coherentChanged (k := t.keeper.under x) h ((t.under x).changes x.now x.event)
      (Keeper.loadsUnder loads)
  refine alongKeeps keeps ?_ loads
  intro id slot there
  simp [start] at there

theorem ownedPlay (k : Keeper ω τ) {xs : List Turn} (empty : ∀ id, record? k.vault id = none)
    (erases : Along (fun t e => t.keeper.Erases e) (start k) xs) : ((start k).play xs).keeper.Owned := by
  have keeps : ∀ (t : Traffic ω τ) x, t.keeper.Owned → t.keeper.Erases x.event → (t.turn x).keeper.Owned :=
    fun t x h erases => Keeper.ownedChanged (k := t.keeper.under x) h ((t.under x).changes x.now x.event)
      (Keeper.erasesUnder erases)
  refine alongKeeps keeps ?_ erases
  intro id there
  exact absurd (empty id) there

/-- From an empty roster, and as long as no load fails, every account holds what its record gives.
If the vault was empty and no erasure fails, only accounts have records. -/
def StaysCoherent (k : Keeper ω τ) (xs : List Turn) : Prop :=
  (Along (fun t e => t.keeper.Loads e) (start k) xs → ((start k).play xs).keeper.Coherent) ∧
  ((∀ id, record? k.vault id = none) → Along (fun t e => t.keeper.Erases e) (start k) xs →
    ((start k).play xs).keeper.Owned)

theorem staysCoherent (k : Keeper ω τ) (xs : List Turn) : StaysCoherent k xs :=
  ⟨coherentPlay k,ownedPlay k⟩

end Traffic

theorem memoryStaysCoherent {τ : Type} (k : Keeper Vault.Memory τ) (xs : List Turn) :
    ((Traffic.start k).play xs).keeper.Coherent ∧
      ((∀ id, record? k.vault id = none) → ((Traffic.start k).play xs).keeper.Owned) := by
  have loads : ∀ (t : Traffic Vault.Memory τ) e, t.keeper.Loads e := by
    intro t e
    cases e with
    | register e => exact fun _ => ⟨trivial,rfl⟩
    | _ => trivial
  have erases : ∀ (t : Traffic Vault.Memory τ) e, t.keeper.Erases e := by
    intro t e
    cases e with
    | delete id => exact ⟨trivial,rfl⟩
    | _ => trivial
  exact ⟨Traffic.coherentPlay k (Traffic.alongAll loads _ xs),
    fun empty => Traffic.ownedPlay k empty (Traffic.alongAll erases _ xs)⟩

theorem vaultsStayCoherent {τ : Type} :
    (∀ (k : Keeper (Vault.Unsteady Vault.Memory) τ) (xs : List Turn), Traffic.StaysCoherent k xs) ∧
    ∀ (k : Keeper (Vault.Unsteady Vault.Folder) τ) (xs : List Turn), Traffic.StaysCoherent k xs :=
  ⟨Traffic.staysCoherent,Traffic.staysCoherent⟩

namespace Sample

-- the third operation fails: it is to save what the exchange gave
def faltering : Keeper (Vault.Unsteady Vault.Memory) Unit :=
  .new ⟨.empty,[none,none,some (.disk .other)]⟩ keeper.strategies

def unsavedRefresh : List Turn :=
  turns (arrival ++ [.refresh "a",.proceed 0,.settle 0 (.ok reply)])

end Sample

theorem unsavedStaysCoherent :
    let t := (Traffic.start Sample.faltering).play Sample.unsavedRefresh
    t.keeper.Coherent ∧ t.keeper.Owned ∧ (t.keeper.grant? "a").map (·.access) = some "A" := by
  have coherent := vaultsStayCoherent.1 Sample.faltering Sample.unsavedRefresh
  have loads : Traffic.Along (fun t e => t.keeper.Loads e) (.start Sample.faltering) Sample.unsavedRefresh :=
    ⟨fun _ => ⟨trivial,by decide⟩,trivial,trivial,trivial,trivial,trivial⟩
  have erases : Traffic.Along (fun t e => t.keeper.Erases e) (.start Sample.faltering) Sample.unsavedRefresh :=
    ⟨trivial,trivial,trivial,trivial,trivial,trivial⟩
  exact ⟨coherent.1 loads,coherent.2 (fun _ => rfl) erases,by decide⟩

end GrantKeeper

import GrantKeeper.Proofs.Keeper.Deeds
import GrantKeeper.Proofs.Traffic.Flights
import GrantKeeper.Proofs.Vault.Orderly

/-! Accounts do not depend on each other. In every state that is reached among whatever callers, a
deed for one account leaves all others as they are, and deeds for two can be done in either order. -/
namespace GrantKeeper
open Time (Instant)
open Vault (Parted)
variable {ω τ α : Type} [Vault ω]

namespace Keeper

def SparesOthers (record : ω → String → α) (k : Keeper ω τ) : Prop :=
  ∀ now (deed : Deed τ) id, deed.id ≠ id →
    (deed.perform k now).2.roster.slot? id = k.roster.slot? id ∧
    record (deed.perform k now).2.vault id = record k.vault id

def AnyOrder (k : Keeper ω τ) : Prop :=
  ∀ now (one two : Deed τ), one.id ≠ two.id → k.Commutes now one two

theorem sparesOthers {record : ω → String → α} (k : Keeper ω τ)
    (apart : ∀ (v : ω) {id other : String}, id ≠ other → ∀ a : Vault.Access,
      record (Vault.answer v (a.by id)).2 other = record v other) : k.SparesOthers record := by
  intro now deed id other
  obtain ⟨new,confined⟩ := deed.confined k now
  refine ⟨confined.slots id other,?_⟩
  rcases confined.vault with same | ⟨a,same⟩
  · rw [same]
  · rw [same]
    exact apart k.vault other a

theorem soundMoves [Parted ω] {k next : Keeper ω τ} {now : Instant} {e : Event}
    (moved : Traffic.Moves k now e next) (sound : Parted.Sound k.vault) : Parted.Sound next.vault := by
  cases moved with
  | register e =>
    obtain ⟨new,confined⟩ := k.registerConfined e
    exact confined.sound sound
  | storeTokens id access again lifetime => exact (k.storeConfined now id access again lifetime).sound sound
  | delete id => exact (k.deleteConfined id).sound sound
  | opens n id within ticket => exact (k.openConfined now id within ticket).1.sound sound
  | settle n outcome a => exact (k.settleConfined now a outcome).sound sound
  | abandon n a => exact (k.abandonConfined a).sound sound
  | stays e => exact sound

end Keeper

namespace Traffic

theorem soundPlay [Parted ω] {k : Keeper ω τ} (sound : Parted.Sound k.vault) (xs : List Turn) :
    Parted.Sound ((start k).play xs).keeper.vault := by
  have turns : ∀ (t : Traffic ω τ) x, Parted.Sound t.keeper.vault → Parted.Sound (t.turn x).keeper.vault :=
    fun t x sound => Keeper.soundMoves ((t.under x).moves x.now x.event) sound
  exact playKeeps turns xs sound

theorem anyOrder [Parted ω] {k : Keeper ω τ} (sound : Parted.Sound k.vault) (xs : List Turn) :
    ((start k).play xs).keeper.AnyOrder := by
  intro now one two apart
  refine Keeper.commutes (soundPlay sound xs) ?_ now apart
  intro id slot found
  exact ((flightsPlay k xs).slots id slot found).early

end Traffic

open Traffic (start)
open Vault (Memory Folder Fitful)

/-- Whoever calls, and whatever the disk does, a deed for one account leaves the slots of all others
and the contents of their record files. In memory any two deeds for two accounts can be done in
either order; so they can in a folder, if that is orderly at the start, and even if operations on its
records fail, so long as no account has a part in the failures of another. -/
theorem accountsIndependent :
    (∀ (k : Keeper Memory τ) (xs : List Turn), let m := ((start k).play xs).keeper
      m.SparesOthers (fun v id => v.grants[id]?) ∧ m.AnyOrder) ∧
    (∀ (k : Keeper Folder τ) (xs : List Turn), let f := ((start k).play xs).keeper
      f.SparesOthers Folder.stored? ∧ ∀ home, k.vault.Orderly home → f.AnyOrder) ∧
    ∀ (k : Keeper (Fitful Folder) τ) (xs : List Turn) (home : Disk.Place),
      k.vault.below.Orderly home → ((start k).play xs).keeper.AnyOrder := by
  refine ⟨?_,?_,?_⟩
  · intro k xs m
    refine ⟨m.sparesOthers ?_,Traffic.anyOrder trivial xs⟩
    intro v id other apart a
    exact Parted.apart (ω := Memory) trivial apart a
  · intro k xs f
    refine ⟨f.sparesOthers fun v _ _ apart a => Folder.accessStored apart v a,?_⟩
    intro home orderly
    have sound : Parted.Sound k.vault := ⟨home,orderly⟩
    exact Traffic.anyOrder sound xs
  · intro k xs home orderly
    have sound : Parted.Sound k.vault := ⟨home,orderly⟩
    exact Traffic.anyOrder sound xs

def leftover : Disk.Tree :=
  (Disk.Tree.empty.put ["t"] (.directory 0o700)).put ["t",".b.json.7.0.tmp"] (.file 0o600 [])

def Yield.succeeds : Yield τ → Bool
  | .done result => result.isOk
  | _ => false

/-- The order matters where a temporary name is taken: only who comes first runs into it. -/
theorem leftoverOrders :
    let k : Keeper Folder Unit := .new ⟨Disk.ofTree leftover 7,⟨"/t"⟩,none,.countFrom 0,0⟩ Sample.keeper.strategies
    let m := ((start k).play (Sample.turns [.register Sample.enrollment,
      .register { Sample.enrollment with id := "b" }])).keeper
    let one : Deed Unit := .storeTokens "a" "A" "R" 60
    let two : Deed Unit := .storeTokens "b" "A" "R" 60
    one.id ≠ two.id ∧ (two.perform m .epoch).1.succeeds = false ∧
      (two.perform (one.perform m .epoch).2 .epoch).1.succeeds = true ∧
      ¬ m.Commutes .epoch one two ∧ ¬ m.AnyOrder := by
  intro k m one two
  have apart : one.id ≠ two.id := by decide
  have first : (two.perform m .epoch).1.succeeds = false := by decide +kernel
  have later : (two.perform (one.perform m .epoch).2 .epoch).1.succeeds = true := by decide +kernel
  have tells : ¬ m.Commutes .epoch one two := by
    intro commutes
    rw [commutes.second,first] at later
    cases later
  exact ⟨apart,first,later,tells,fun all => tells (all .epoch one two apart)⟩

def blockedRecord : Disk.Tree :=
  (Disk.Tree.empty.put ["t"] (.directory 0o700)).put ["t","b.json"] (.directory 0o755)

theorem blockedRecordUntaken (name : String) (n : Nat) :
    blockedRecord.node? ["t",Disk.temporaryName name 7 n] = none := by
  have usable : Enrollment.isUsableId "b" = true := by decide
  have apart : ["t","b.json"] ≠ ["t",Disk.temporaryName name 7 n] := by
    intro same
    exact Folder.recordNotTemporary usable name 7 n (List.cons.inj (List.cons.inj same).2).1
  rw [blockedRecord,Disk.Tree.nodePutOther apart,Disk.Tree.nodePutOther (by simp)]
  rfl

theorem newcomersIndependent :
    let k : Keeper Folder Unit := .new
      ⟨Disk.ofTree blockedRecord 7,⟨"/t"⟩,some (.ofPassphrase "key"),.countFrom 0,0⟩ Sample.keeper.strategies
    let one : Deed Unit := .register Sample.enrollment
    let two : Deed Unit := .register { Sample.enrollment with id := "b" }
    k.vault.Orderly ["t"] ∧ one.id ≠ two.id ∧ ((start k).play []).keeper.Commutes .epoch one two ∧
      ((two.perform (one.perform k .epoch).2 .epoch).2.roster.slot? "b").map (·.epoch) = some 1 ∧
      ((one.perform (two.perform k .epoch).2 .epoch).2.roster.slot? "b").map (·.epoch) = some 0 := by
  intro k one two
  have orderly : k.vault.Orderly ["t"] := by
    refine ⟨⟨rfl,⟨by decide +kernel,0o700,by decide +kernel⟩,by decide,by decide,?_⟩,by decide +kernel,
      by decide +kernel,blockedRecordUntaken⟩
    intro r none
    cases none
  have apart : one.id ≠ two.id := by decide
  exact ⟨orderly,apart,((accountsIndependent.2.1 k []).2 ["t"] orderly) .epoch one two apart,
    by decide +kernel,by decide +kernel⟩

end GrantKeeper

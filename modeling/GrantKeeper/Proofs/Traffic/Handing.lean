import GrantKeeper.Proofs.Grant.Expiry
import GrantKeeper.Proofs.Traffic.Grants

/-! Which access tokens are handed out: those of valid records that were there at the start,
those that were stored, and those that came with a reply. Only of the last kind is any checked
to be a token at all. -/
namespace GrantKeeper
open Time (Instant Span)
open Vault (Lawful Candid)
open Vault.Lawful (record?)
variable {ω τ : Type}

def Caller.handed? : Caller τ → Option String
  | .finished (.token value) => value
  | _ => none

namespace Caller

theorem handedWake (caller : Caller τ) : caller.wake.handed? = caller.handed? := by
  cases caller <;> rfl

theorem handedReread (buffer : Span) (caller : Caller τ) :
    (caller.reread buffer).handed? = caller.handed? := by
  rcases caller.rereads buffer with kept | ⟨id,old,rfl,anew⟩
  · rw [kept]
  · rw [anew]
    rfl

theorem handedAfter (errand : Errand) (result : Except Fault Unit) :
    (after errand result : Caller τ).handed? = none := by
  cases errand with
  | sweep id buffer others done => cases others <;> rfl
  | _ => rfl

theorem handedStart (k : Keeper ω τ) (now : Instant) (id : String) :
    (startToken k now id).handed? = none := by
  unfold startToken
  split
  · split <;> rfl
  · rfl

theorem handedSweep (k : Keeper ω τ) (now : Instant) : (startSweep k now).handed? = none := by
  unfold startSweep
  split <;> rfl

theorem handedStep {k : Keeper ω τ} {now : Instant} {caller : Caller τ} {s : String}
    (moving : caller.rests = false) (handed : (caller.step k now).1.handed? = some s) :
    ∃ id, k.usableToken? now id = some s := by
  cases caller with
  | opening errand within ticket =>
    simp only [step] at handed
    generalize k.openRefresh now errand.id within ticket = result at handed
    obtain ⟨opening,next⟩ := result
    cases opening with
    | closed result =>
      rw [handedAfter] at handed
      cases handed
    | waiting ticket => cases handed
    | exchanging a => cases handed
  | reading id => exact ⟨id,handed⟩
  | _ => cases moving

end Caller

theorem Keeper.usableHeld {k : Keeper ω τ} {now : Instant} {id s : String}
    (usable : k.usableToken? now id = some s) : ∃ slot, k.roster.slot? id = some slot ∧
      slot.account.grant.valid = true ∧ slot.account.grant.access = s := by
  unfold usableToken? at usable
  split at usable
  · rename_i g held
    obtain ⟨slot,there,rfl⟩ := Option.map_eq_some_iff.mp held
    rw [Grant.usableHanded,Grant.handed?,Option.ite_none_right_eq_some] at usable
    exact ⟨slot,there,usable.1.1,Option.some.inj usable.2⟩
  · cases usable

namespace Traffic

def Hands (t : Traffic ω τ) (s : String) : Prop := ∃ caller ∈ t.callers, caller.handed? = some s

instance (t : Traffic ω τ) (s : String) : Decidable (t.Hands s) :=
  inferInstanceAs (Decidable (∃ caller ∈ t.callers, caller.handed? = some s))

variable {t : Traffic ω τ} {s : String}

theorem handsEnter {caller : Caller τ} (none : caller.handed? = none) (hands : (t.enter caller).Hands s) :
    t.Hands s := by
  obtain ⟨found,member,handed⟩ := hands
  rcases List.mem_append.mp member with old | new
  · exact ⟨found,old,handed⟩
  · rw [List.mem_singleton.mp new,none] at handed
    cases handed

theorem handsSet {u : Traffic ω τ} {n : Nat} {next : Caller τ} (set : u.callers = t.callers.set n next)
    (hands : u.Hands s) : t.Hands s ∨ next.handed? = some s := by
  obtain ⟨found,member,handed⟩ := hands
  rw [set] at member
  rcases List.mem_or_eq_of_mem_set member with old | new
  · exact .inl ⟨found,old,handed⟩
  · exact .inr (new ▸ handed)

theorem handsUnder {x : Turn} (hands : (t.under x).Hands s) : t.Hands s := by
  obtain ⟨found,member,handed⟩ := hands
  obtain ⟨caller,there,rfl⟩ := List.mem_map.mp member
  rw [Caller.handedReread] at handed
  exact ⟨caller,there,handed⟩

variable [Vault ω]

theorem handsStep {now : Instant} {e : Event} (hands : (t.step now e).Hands s) : t.Hands s ∨
    ∃ id slot, t.keeper.roster.slot? id = some slot ∧ slot.account.grant.valid = true ∧
      slot.account.grant.access = s := by
  have stepped := t.steps now e
  generalize t.step now e = u at stepped hands
  cases stepped with
  | rests => exact .inl hands
  | registers e => exact .inl hands
  | stores => exact .inl hands
  | deletes id => exact .inl hands
  | refreshes id => exact .inl (handsEnter rfl hands)
  | reads id => exact .inl (handsEnter (Caller.handedStart _ _ _) hands)
  | sweeps => exact .inl (handsEnter (Caller.handedSweep _ _) hands)
  | @advances n caller there moving =>
    rcases handsSet rfl hands with old | handed
    · exact .inl old
    · obtain ⟨id,usable⟩ := Caller.handedStep moving handed
      exact .inr ⟨id,Keeper.usableHeld usable⟩
  | @settles n outcome errand a there =>
    rcases handsSet rfl hands with old | handed
    · exact .inl old
    · rw [Caller.settle,Caller.handedAfter] at handed
      cases handed
  | abandons there =>
    rcases handsSet rfl hands with old | handed
    · exact .inl old
    · cases handed
  | stirs n =>
    obtain ⟨found,member,handed⟩ := hands
    obtain ⟨m,there⟩ := List.getElem?_of_mem member
    obtain ⟨before,was,rfl | rfl⟩ := stirred there
    · exact .inl ⟨_,List.mem_of_getElem? was,handed⟩
    · rw [Caller.handedWake] at handed
      exact .inl ⟨before,List.mem_of_getElem? was,handed⟩
  | notifies due =>
    obtain ⟨found,member,handed⟩ := hands
    obtain ⟨caller,there,rfl⟩ := List.mem_map.mp member
    rw [Caller.handedWake] at handed
    exact .inl ⟨caller,there,handed⟩

variable [Lawful ω]

inductive Comes (k : Keeper ω τ) (xs : List Turn) (s : String) : Prop
  | recorded {id g} (there : record? k.vault id = some (some g)) (valid : g.valid = true)
      (own : g.access = s)
  | stored {x id refresh lifetime} (member : x ∈ xs) (call : x.event = .storeTokens id s refresh lifetime)
  | replied {x n reply} (member : x ∈ xs) (ends : x.event = .settle n (.ok reply)) (own : reply.access = s)

variable {k : Keeper ω τ} {xs : List Turn}

theorem comesMade {x : Turn} (member : x ∈ xs) {g g' : Grant} (made : x.event.Makes x.now g g') :
    Comes k xs g'.access := by
  generalize call : x.event = e at made
  cases made with
  | stored id access refresh lifetime => exact .stored member call
  | renewed n reply => exact .replied member call rfl

structure Accounts (k : Keeper ω τ) (xs : List Turn) (t : Traffic ω τ) : Prop where
  grants : t.keeper.All fun g => g.valid = true → Comes k xs g.access
  handed : ∀ s, t.Hands s → Comes k xs s

theorem accountsStart (k : Keeper ω τ) (xs : List Turn) : Accounts k xs (start k) := by
  refine ⟨allStart fun id g there valid => .recorded there valid rfl,?_⟩
  rintro s ⟨caller,member,-⟩
  cases member

variable [Candid ω]

theorem accountsTurn (t : Traffic ω τ) {x : Turn} (member : x ∈ xs) (h : Accounts k xs t) :
    Accounts k xs (t.turn x) := by
  refine ⟨allTurn h.grants nofun fun _ _ _ made _ => comesMade member made,?_⟩
  intro s hands
  rcases handsStep hands with old | ⟨id,slot,there,valid,rfl⟩
  · exact h.handed s (handsUnder old)
  · exact h.grants.held id slot there valid

theorem accountsPlay (k : Keeper ω τ) (xs : List Turn) : Accounts k xs ((start k).play xs) :=
  playKeepsOver (fun t _ member => accountsTurn t member) (accountsStart k xs)

/-- As replies bring tokens that are not empty, it takes an empty token that is stored, or a valid
record without one, for an empty token to be handed out. -/
theorem handedFilled (k : Keeper ω τ) (xs : List Turn)
    (replied : ∀ x ∈ xs, ∀ n reply, x.event = .settle n (.ok reply) → reply.access ≠ "")
    (stored : ∀ x ∈ xs, ∀ id refresh lifetime, x.event ≠ .storeTokens id "" refresh lifetime)
    (recorded : ∀ id g, record? k.vault id = some (some g) → g.valid = true → g.access ≠ "")
    (s : String) (hands : ((start k).play xs).Hands s) : s ≠ "" := by
  rintro rfl
  cases (accountsPlay k xs).handed "" hands with
  | recorded there valid own => exact recorded _ _ there valid own
  | stored member call => exact stored _ member _ _ _ call
  | replied member ends own => exact replied _ member _ _ ends own

theorem filledHanded :
    let xs := Sample.turns (Sample.arrival ++ [.token "a",.proceed 0,.refresh "a",.proceed 1,
      .settle 1 (.ok Sample.reply),.token "a",.proceed 2])
    (∀ x ∈ xs, ∀ n reply, x.event = .settle n (.ok reply) → reply.access ≠ "") ∧
    (∀ x ∈ xs, ∀ id refresh lifetime, x.event ≠ .storeTokens id "" refresh lifetime) ∧
    (∀ id g, record? Sample.keeper.vault id = some (some g) → g.valid = true → g.access ≠ "") ∧
    ((start Sample.keeper).play xs).Hands "B" ∧ "B" ≠ "" := by
  intro xs
  have replied : ∀ x ∈ xs, ∀ n reply, x.event = .settle n (.ok reply) → reply.access ≠ "" := by
    intro x member n reply ends
    simp [xs,Sample.turns,Sample.arrival] at member
    rcases member with rfl | rfl | rfl | rfl | rfl | rfl | rfl | rfl | rfl <;> cases ends
    decide
  have stored : ∀ x ∈ xs, ∀ id refresh lifetime, x.event ≠ .storeTokens id "" refresh lifetime := by
    intro x member id refresh lifetime call
    simp [xs,Sample.turns,Sample.arrival] at member
    rcases member with rfl | rfl | rfl | rfl | rfl | rfl | rfl | rfl | rfl <;>
      simp [Sample.turn] at call
  have recorded : ∀ id g, record? Sample.keeper.vault id = some (some g) → g.valid = true →
      g.access ≠ "" := by
    intro id g there
    cases there
  have hands : ((start Sample.keeper).play xs).Hands "B" := by decide +kernel
  exact ⟨replied,stored,recorded,hands,handedFilled _ xs replied stored recorded "B" hands⟩

/-- Nobody replies, and still an empty token is handed out: first one that was stored, then that
of a record which says no more than that it is valid and when it ends. -/
theorem emptyHanded :
    let bare : Grant := { Grant.absent with valid := true, expiresAt := ⟨3600 * Time.second,by decide,by decide⟩ }
    let kept := { Sample.keeper with vault := (Vault.save Vault.Memory.empty "a" bare).2 }
    let reads := [.token "a",.proceed 0]
    ((start Sample.keeper).play (Sample.turns
      ([.register Sample.enrollment,.storeTokens "a" "" "R" 3600] ++ reads))).Hands "" ∧
    ((start kept).play (Sample.turns ([.register Sample.enrollment] ++ reads))).Hands "" := by
  decide +kernel

end Traffic

end GrantKeeper

import GrantKeeper.Keeper.Caller
import GrantKeeper.Vault.Memory

/-! The keeper among any number of callers. An event is what one of them does
while it has the keeper to itself, or what wakes one that waits. Events come in
any order and each at any time on the clock; the settings stand still. -/
namespace GrantKeeper
open Time (Instant)

inductive Event
  | register (e : Enrollment)
  | storeTokens (id access refresh : String) (lifetime : Int)
  | delete (id : String)
  -- new callers: one refreshes an account, one reads a token, one refreshes all that is stale
  | refresh (id : String)
  | token (id : String)
  | sweep
  -- caller `n` takes its next step, unless it rests
  | proceed (n : Nat)
  | settle (n : Nat) (outcome : Except Exchange.Fault Reply)
  | abandon (n : Nat)
  -- caller `n` wakes without a notice
  | stir (n : Nat)
  -- one of the notices that are due wakes all who wait
  | notify
  deriving Repr

abbrev Events := List (Instant × Event)

structure Traffic (ω τ : Type) where
  keeper : Keeper ω τ
  callers : List (Caller τ)
  begun : List (Attempt τ)
  -- every exchange that ended, with what its caller was told; one that broke off told nothing
  ended : List (Attempt τ × Option (Except Fault Unit))
  -- notices due: whoever ends an exchange or deletes an account wakes the others later
  notices : Nat

def Caller.attempt? {τ : Type} : Caller τ → Option (Attempt τ)
  | .exchanging _ attempt => some attempt
  | _ => none

def Attempt.isOn {τ : Type} (a : Attempt τ) (id : String) (epoch : Nat) : Bool :=
  a.id == id && a.epoch == epoch

def Caller.isOn {τ : Type} (caller : Caller τ) (id : String) (epoch : Nat) : Bool :=
  caller.attempt?.any (·.isOn id epoch)

namespace Traffic
variable {ω τ : Type}

def start (k : Keeper ω τ) : Traffic ω τ := ⟨{ k with roster := .empty },[],[],[],0⟩

def enter (t : Traffic ω τ) (caller : Caller τ) : Traffic ω τ :=
  { t with callers := t.callers ++ [caller] }

def attemptOf? (t : Traffic ω τ) (n : Nat) : Option (Errand × Attempt τ) :=
  match t.callers[n]? with
  | some (.exchanging errand attempt) => some (errand,attempt)
  | _ => none

def close (t : Traffic ω τ) (n : Nat) (attempt : Attempt τ) (told : Option (Except Fault Unit))
    (next : Caller τ × Keeper ω τ) : Traffic ω τ :=
  { keeper := next.2
    callers := t.callers.set n next.1
    begun := t.begun
    ended := t.ended ++ [(attempt,told)]
    notices := t.notices + 1 }

def advance (t : Traffic ω τ) (n : Nat) (next : Caller τ × Keeper ω τ) : Traffic ω τ :=
  { t with
    keeper := next.2
    callers := t.callers.set n next.1
    begun := t.begun ++ next.1.attempt?.toList }

def step [Vault ω] (t : Traffic ω τ) (now : Instant) : Event → Traffic ω τ
  | .register e => { t with keeper := (t.keeper.register e).2 }
  | .storeTokens id access refresh lifetime =>
    { t with keeper := (t.keeper.storeTokens now id access refresh lifetime).2 }
  | .delete id => { t with keeper := (t.keeper.delete id).2, notices := t.notices + 1 }
  | .refresh id => t.enter (.startRefresh id)
  | .token id => t.enter (.startToken t.keeper now id)
  | .sweep => t.enter (.startSweep t.keeper now)
  | .proceed n =>
    match t.callers[n]? with
    | some caller => if caller.rests then t else t.advance n (caller.step t.keeper now)
    | none => t
  | .settle n outcome =>
    match t.attemptOf? n with
    | some (errand,attempt) =>
      t.close n attempt (some (t.keeper.settle now attempt outcome).1)
        (Caller.settle t.keeper now errand attempt outcome)
    | none => t
  | .abandon n =>
    match t.attemptOf? n with
    | some (_,attempt) => t.close n attempt none (Caller.abandon t.keeper attempt)
    | none => t
  | .stir n => { t with callers := t.callers.modify n Caller.wake }
  | .notify =>
    if t.notices = 0 then t
    else { t with callers := t.callers.map Caller.wake, notices := t.notices - 1 }

def run [Vault ω] (t : Traffic ω τ) : Events → Traffic ω τ
  | [] => t
  | (now,e) :: events => (t.step now e).run events

def outstanding (t : Traffic ω τ) (id : String) (epoch : Nat) : Nat :=
  t.callers.countP (·.isOn id epoch)

def begunOn (t : Traffic ω τ) (id : String) (epoch : Nat) : Nat := t.begun.countP (·.isOn id epoch)

def endedOn (t : Traffic ω τ) (id : String) (epoch : Nat) : List (Option (Except Fault Unit)) :=
  (t.ended.filter (·.1.isOn id epoch)).map (·.2)

theorem attemptThere {t : Traffic ω τ} {n : Nat} {errand : Errand} {a : Attempt τ}
    (h : t.attemptOf? n = some (errand,a)) : t.callers[n]? = some (.exchanging errand a) := by
  unfold attemptOf? at h
  split at h
  · rename_i there
    cases h
    exact there
  · cases h

theorem stirred {callers : List (Caller τ)} {n m : Nat} {caller : Caller τ}
    (there : (callers.modify n Caller.wake)[m]? = some caller) :
    ∃ before, callers[m]? = some before ∧ (caller = before ∨ caller = before.wake) := by
  rw [List.getElem?_modify] at there
  obtain ⟨before,was,same⟩ := Option.map_eq_some_iff.mp there
  split at same
  · exact ⟨before,was,.inr same.symm⟩
  · exact ⟨before,was,.inl same.symm⟩

variable [Vault ω]

inductive Steps (t : Traffic ω τ) (now : Instant) : Event → Traffic ω τ → Prop
  | rests {e} (unheard : e = .notify → t.notices = 0) : Steps t now e t
  | registers (e) : Steps t now (.register e) { t with keeper := (t.keeper.register e).2 }
  | stores (id access refresh lifetime) : Steps t now (.storeTokens id access refresh lifetime)
      { t with keeper := (t.keeper.storeTokens now id access refresh lifetime).2 }
  | deletes (id) : Steps t now (.delete id)
      { t with keeper := (t.keeper.delete id).2, notices := t.notices + 1 }
  | refreshes (id) : Steps t now (.refresh id) (t.enter (.startRefresh id))
  | reads (id) : Steps t now (.token id) (t.enter (.startToken t.keeper now id))
  | sweeps : Steps t now .sweep (t.enter (.startSweep t.keeper now))
  | advances {n caller} (there : t.callers[n]? = some caller) (moving : caller.rests = false) :
      Steps t now (.proceed n) (t.advance n (caller.step t.keeper now))
  | settles {n outcome errand a} (there : t.callers[n]? = some (.exchanging errand a)) :
      Steps t now (.settle n outcome) (t.close n a (some (t.keeper.settle now a outcome).1)
        (Caller.settle t.keeper now errand a outcome))
  | abandons {n errand a} (there : t.callers[n]? = some (.exchanging errand a)) :
      Steps t now (.abandon n) (t.close n a none (Caller.abandon t.keeper a))
  | stirs (n) : Steps t now (.stir n) { t with callers := t.callers.modify n Caller.wake }
  | notifies (due : t.notices ≠ 0) : Steps t now .notify
      { t with callers := t.callers.map Caller.wake, notices := t.notices - 1 }

theorem steps (t : Traffic ω τ) (now : Instant) (e : Event) : t.Steps now e (t.step now e) := by
  cases e with
  | register e => exact .registers e
  | storeTokens id access refresh lifetime => exact .stores ..
  | delete id => exact .deletes id
  | refresh id => exact .refreshes id
  | token id => exact .reads id
  | sweep => exact .sweeps
  | proceed n =>
    simp only [step]
    split
    · rename_i caller there
      split
      · exact .rests nofun
      · rename_i moving
        exact .advances there (by simpa using moving)
    · exact .rests nofun
  | settle n outcome =>
    simp only [step]
    split
    · rename_i errand a there
      exact .settles (attemptThere there)
    · exact .rests nofun
  | abandon n =>
    simp only [step]
    split
    · rename_i errand a there
      exact .abandons (attemptThere there)
    · exact .rests nofun
  | stir n => exact .stirs n
  | notify =>
    simp only [step]
    split
    · rename_i none
      exact .rests fun _ => none
    · rename_i due
      exact .notifies due

inductive Moves (k : Keeper ω τ) (now : Instant) : Event → Keeper ω τ → Prop
  | register (e) : Moves k now (.register e) (k.register e).2
  | storeTokens (id access refresh lifetime) : Moves k now (.storeTokens id access refresh lifetime)
      (k.storeTokens now id access refresh lifetime).2
  | delete (id) : Moves k now (.delete id) (k.delete id).2
  | opens (n id within ticket) : Moves k now (.proceed n) (k.openRefresh now id within ticket).2
  | settle (n outcome attempt) : Moves k now (.settle n outcome) (k.settle now attempt outcome).2
  | abandon (n attempt) : Moves k now (.abandon n) (k.abandon attempt)
  | stays (e) : Moves k now e k

theorem moves (t : Traffic ω τ) (now : Instant) (e : Event) : Moves t.keeper now e (t.step now e).keeper := by
  have stepped := t.steps now e
  generalize t.step now e = u at stepped ⊢
  cases stepped with
  | registers e => exact .register e
  | stores id access refresh lifetime => exact .storeTokens ..
  | deletes id => exact .delete id
  | @advances n caller there moving =>
    cases caller with
    | opening errand within ticket =>
      have opened : Moves t.keeper now (.proceed n) _ := .opens n errand.id within ticket
      simp only [advance,Caller.step]
      generalize t.keeper.openRefresh now errand.id within ticket = result at opened ⊢
      obtain ⟨opening,k⟩ := result
      cases opening <;> exact opened
    | _ => exact .stays _
  | settles there => exact .settle ..
  | abandons there => exact .abandon ..
  | _ => exact .stays _

theorem runKeeps {holds : Traffic ω τ → Prop} (keeps : ∀ t now e, holds t → holds (t.step now e))
    {t : Traffic ω τ} (events : Events) (first : holds t) : holds (t.run events) := by
  induction events generalizing t with
  | nil => exact first
  | cons head tail ih => exact ih (keeps t head.1 head.2 first)

end Traffic

/-! One account, one strategy and a vault in memory, for runs that are followed to the end. -/
namespace Sample

def enrollment : Enrollment := ⟨"a",.google,"client","","a@b",""⟩

def keeper : Keeper Vault.Memory Unit := .new .empty (Exchange.Strategies.empty.insert .google ())

def reply : Reply := ⟨"B",none,none,none,none⟩

def arrival : List Event := [.register enrollment,.storeTokens "a" "A" "R" 3600]

def atOnce (events : List Event) : Events := events.map (Instant.epoch,·)

end Sample

end GrantKeeper

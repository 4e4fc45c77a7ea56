/-! Results of operations that may fail and that change a state either way. -/
namespace GrantKeeper

abbrev Outcome (ε α σ : Type) := Except ε α × σ

namespace Outcome
variable {ε ε' α β σ : Type}

def andThen (r : Outcome ε α σ) (next : α → σ → Outcome ε β σ) : Outcome ε β σ :=
  match r with
  | (.error fault,s) => (.error fault,s)
  | (.ok a,s) => next a s

def mapFault (r : Outcome ε α σ) (f : ε → ε') : Outcome ε' α σ :=
  match r with
  | (.error fault,s) => (.error (f fault),s)
  | (.ok a,s) => (.ok a,s)

def mapState {τ : Type} (r : Outcome ε α σ) (f : σ → τ) : Outcome ε α τ := (r.1,f r.2)

theorem andThenOk (a : α) (s : σ) (next : α → σ → Outcome ε β σ) :
    andThen (.ok a,s) next = next a s := rfl

theorem ofBind {r : Except ε α} {next : α → Except ε β} {b : β} (went : r.bind next = .ok b) :
    ∃ a, r = .ok a ∧ next a = .ok b := by
  cases r with
  | error fault => cases went
  | ok a => exact ⟨a,rfl,went⟩

theorem ofMap {r : Except ε α} {f : α → β} {b : β} (went : r.map f = .ok b) :
    ∃ a, r = .ok a ∧ f a = b := by
  cases r with
  | error fault => cases went
  | ok a => exact ⟨a,rfl,Except.ok.inj went⟩

theorem ofAndThen {r : Outcome ε α σ} {next : α → σ → Outcome ε β σ} {b : β} {s : σ}
    (went : r.andThen next = (.ok b,s)) : ∃ a s', r = (.ok a,s') ∧ next a s' = (.ok b,s) := by
  obtain ⟨result,s'⟩ := r
  cases result with
  | error fault => cases went
  | ok a => exact ⟨a,s',rfl,went⟩

theorem ofAndThenFails {r : Outcome ε α σ} {next : α → σ → Outcome ε β σ} {fault : ε} {s : σ}
    (failed : r.andThen next = (.error fault,s)) :
    r = (.error fault,s) ∨ ∃ a s', r = (.ok a,s') ∧ next a s' = (.error fault,s) := by
  obtain ⟨result,s'⟩ := r
  cases result with
  | error other =>
    cases failed
    exact .inl rfl
  | ok a => exact .inr ⟨a,s',rfl,failed⟩

end Outcome

end GrantKeeper

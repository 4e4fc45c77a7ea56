import GrantKeeper.Proofs.Traffic.Basic

/-! Traffic while the settings change. Every step is taken under the settings that
whoever takes it has read last, be they still in force or not. Thus nothing that
holds here rests on settings that stand still. -/
namespace GrantKeeper
open Time (Instant Span)
variable {ω τ : Type}

structure Turn where
  autoRefresh : Bool
  bufferMinutes : Nat
  now : Instant
  event : Event
  deriving Repr

-- who reads a token asks for the buffer when it looks, and once more before it opens
def Caller.reread (buffer : Span) : Caller τ → Caller τ
  | .opening (.token id) (some _) none => .opening (.token id) (some buffer) none
  | caller => caller

def Keeper.under (k : Keeper ω τ) (x : Turn) : Keeper ω τ :=
  { k with autoRefresh := x.autoRefresh, bufferMinutes := x.bufferMinutes }

namespace Caller

theorem rereads (buffer : Span) (caller : Caller τ) : caller.reread buffer = caller ∨
    ∃ id old, caller = .opening (.token id) (some old) none ∧
      caller.reread buffer = .opening (.token id) (some buffer) none := by
  unfold reread
  split
  · exact .inr ⟨_,_,rfl,rfl⟩
  · exact .inl rfl

theorem attemptReread (buffer : Span) (caller : Caller τ) :
    (caller.reread buffer).attempt? = caller.attempt? := by
  rcases caller.rereads buffer with kept | ⟨id,old,rfl,anew⟩
  · rw [kept]
  · rw [anew]
    rfl

end Caller

namespace Traffic

def under (t : Traffic ω τ) (x : Turn) : Traffic ω τ :=
  { t with
    keeper := t.keeper.under x
    callers := t.callers.map (Caller.reread (t.keeper.under x).buffer) }

theorem attemptOfUnder (t : Traffic ω τ) (x : Turn) (n : Nat) :
    (t.under x).attemptOf? n = t.attemptOf? n := by
  unfold attemptOf? under
  rw [List.getElem?_map]
  cases t.callers[n]? with
  | none => rfl
  | some caller =>
    rw [Option.map_some]
    rcases caller.rereads (t.keeper.under x).buffer with kept | ⟨id,old,rfl,anew⟩
    · rw [kept]
    · rw [anew]

variable [Vault ω]

def turn (t : Traffic ω τ) (x : Turn) : Traffic ω τ := (t.under x).step x.now x.event

def play (t : Traffic ω τ) : List Turn → Traffic ω τ
  | [] => t
  | x :: xs => (t.turn x).play xs

-- every turn is met in a state that `p` allows its event in
def Along (p : Traffic ω τ → Event → Prop) : Traffic ω τ → List Turn → Prop
  | _, [] => True
  | t, x :: xs => p t x.event ∧ Along p (t.turn x) xs

theorem turnSettles {t : Traffic ω τ} {n : Nat} {errand : Errand} {a : Attempt τ}
    (there : t.attemptOf? n = some (errand,a)) {x : Turn} {outcome : Except Exchange.Fault Reply}
    (closes : x.event = .settle n outcome) :
    t.turn x = (t.under x).close n a (some ((t.keeper.under x).settle x.now a outcome).1)
      (Caller.settle (t.keeper.under x) x.now errand a outcome) := by
  rw [turn,closes,step,attemptOfUnder,there]
  rfl

theorem turnAbandons {t : Traffic ω τ} {n : Nat} {errand : Errand} {a : Attempt τ}
    (there : t.attemptOf? n = some (errand,a)) {x : Turn} (breaks : x.event = .abandon n) :
    t.turn x = (t.under x).close n a none (Caller.abandon (t.keeper.under x) a) := by
  rw [turn,breaks,step,attemptOfUnder,there]
  rfl

theorem playAppend (t : Traffic ω τ) (xs ys : List Turn) : t.play (xs ++ ys) = (t.play xs).play ys := by
  induction xs generalizing t with
  | nil => rfl
  | cons x xs ih => exact ih (t.turn x)

theorem playNext (t : Traffic ω τ) (xs : List Turn) (x : Turn) : t.play (xs ++ [x]) = (t.play xs).turn x :=
  playAppend t xs [x]

theorem playKeeps {holds : Traffic ω τ → Prop} (keeps : ∀ t x, holds t → holds (t.turn x))
    {t : Traffic ω τ} (xs : List Turn) (first : holds t) : holds (t.play xs) := by
  induction xs generalizing t with
  | nil => exact first
  | cons x xs ih => exact ih (keeps t x first)

theorem alongAll {p : Traffic ω τ → Event → Prop} (all : ∀ t e, p t e) (t : Traffic ω τ)
    (xs : List Turn) : Along p t xs := by
  induction xs generalizing t with
  | nil => trivial
  | cons x xs ih => exact ⟨all t x.event,ih _⟩

theorem alongKeeps {p : Traffic ω τ → Event → Prop} {holds : Traffic ω τ → Prop}
    (keeps : ∀ t x, holds t → p t x.event → holds (t.turn x)) {t : Traffic ω τ} {xs : List Turn}
    (first : holds t) (allowed : Along p t xs) : holds (t.play xs) := by
  induction xs generalizing t with
  | nil => exact first
  | cons x xs ih => exact ih (keeps t x first allowed.1) allowed.2

end Traffic

namespace Sample

def turn (e : Event) : Turn := ⟨true,Keeper.defaultBuffer,.epoch,e⟩

def turns (events : List Event) : List Turn := events.map turn

end Sample

end GrantKeeper

import Mathlib.Data.List.Forall2
import GrantKeeper.Settings

/-! Inspection text keeps secrets. Two values that differ in nothing but their secrets are
inspected alike, if only the same secrets are empty in both, and the same ones are there. -/
namespace GrantKeeper
open List (Forall₂)

def Text.Veiled (s t : String) : Prop := s = "" ↔ t = ""

open Text (Veiled)

structure Grant.Alike (g h : Grant) : Prop where
  access : Veiled g.access h.access
  refresh : Veiled g.refresh h.refresh
  scope : g.scope = h.scope
  kind : g.kind = h.kind
  expiresAt : g.expiresAt = h.expiresAt
  createdAt : g.createdAt = h.createdAt
  valid : g.valid = h.valid

structure Reply.Alike (r s : Reply) : Prop where
  access : Veiled r.access s.access
  kind : r.kind = s.kind
  lifetime : r.lifetime = s.lifetime
  refresh : Option.Rel Veiled r.refresh s.refresh
  scope : r.scope = s.scope

structure Exchange.Order.Alike (o p : Exchange.Order) : Prop where
  clientId : o.clientId = p.clientId
  clientSecret : Veiled o.clientSecret p.clientSecret
  refresh : Veiled o.refresh p.refresh

structure Enrollment.Alike (e f : Enrollment) : Prop where
  id : e.id = f.id
  provider : e.provider = f.provider
  clientId : e.clientId = f.clientId
  clientSecret : Veiled e.clientSecret f.clientSecret
  redirect : e.redirect = f.redirect
  email : e.email = f.email

structure Account.Alike (a b : Account) : Prop where
  enrollment : a.enrollment.Alike b.enrollment
  grant : a.grant.Alike b.grant

structure Settings.Alike (s t : Settings) : Prop where
  autoRefresh : s.autoRefresh = t.autoRefresh
  bufferMinutes : s.bufferMinutes = t.bufferMinutes
  vaultDirectory : s.vaultDirectory = t.vaultDirectory
  accounts : Forall₂ Enrollment.Alike s.accounts t.accounts

structure Slot.Alike (s t : Slot) : Prop where
  account : s.account.Alike t.account
  epoch : s.epoch = t.epoch
  inFlight : s.inFlight = t.inFlight
  ended : s.ended = t.ended
  lastSucceeded : s.lastSucceeded = t.lastSucceeded

structure Keeper.Alike {ω τ : Type} (k l : Keeper ω τ) : Prop where
  slots : ∀ id, Option.Rel Slot.Alike (k.roster.slot? id) (l.roster.slot? id)
  strategies : k.strategies = l.strategies
  autoRefresh : k.autoRefresh = l.autoRefresh
  bufferMinutes : k.bufferMinutes = l.bufferMinutes

theorem redactVeiled {s t : String} (veiled : Veiled s t) : Text.redact s = Text.redact t := by
  unfold Text.redact
  by_cases empty : s = ""
  · rw [empty,veiled.mp empty]
  · have filled : t ≠ "" := fun other => empty (veiled.mpr other)
    simp [empty,filled]

theorem redactThere {s t : Option String} (veiled : Option.Rel Veiled s t) :
    s.map Text.redact = t.map Text.redact := by
  cases veiled with
  | none => rfl
  | some veiled => exact congrArg some (redactVeiled veiled)

theorem Roster.sizeOfIds {r s : Roster} (same : ∀ id, (r.slot? id).isSome = (s.slot? id).isSome) :
    r.size = s.size := by
  have members : ∀ id, id ∈ r.slots.keys ↔ id ∈ s.slots.keys := by
    intro id
    rw [Std.ExtTreeMap.mem_keys,Std.ExtTreeMap.mem_keys,Std.ExtTreeMap.mem_iff_isSome_getElem?,
      Std.ExtTreeMap.mem_iff_isSome_getElem?]
    exact Eq.congr_left (same id)
  have perm := (List.perm_ext_iff_of_nodup r.slots.nodup_keys s.slots.nodup_keys).mpr members
  rw [size,size,← Std.ExtTreeMap.length_keys,← Std.ExtTreeMap.length_keys,perm.length_eq]

theorem Grant.inspectAlike {g h : Grant} (alike : g.Alike h) : g.inspect = h.inspect := by
  unfold inspect
  rw [redactVeiled alike.access,redactVeiled alike.refresh,alike.scope,alike.kind,alike.expiresAt,
    alike.createdAt,alike.valid]

theorem Reply.inspectAlike {r s : Reply} (alike : r.Alike s) : r.inspect = s.inspect := by
  unfold inspect
  rw [redactVeiled alike.access,alike.kind,alike.lifetime,redactThere alike.refresh,alike.scope]

theorem Exchange.Order.inspectAlike {o p : Exchange.Order} (alike : o.Alike p) :
    o.inspect = p.inspect := by
  unfold inspect
  rw [alike.clientId,redactVeiled alike.clientSecret,redactVeiled alike.refresh]

theorem Enrollment.partsAlike {e f : Enrollment} (alike : e.Alike f) :
    e.inspectParts = f.inspectParts := by
  unfold inspectParts
  rw [alike.id,alike.provider,alike.clientId,redactVeiled alike.clientSecret,alike.redirect,alike.email]

theorem Enrollment.inspectAlike {e f : Enrollment} (alike : e.Alike f) : e.inspect = f.inspect :=
  congrArg (Text.inspectRecord "AccountRegistration" · false) (partsAlike alike)

theorem Account.inspectAlike {a b : Account} (alike : a.Alike b) : a.inspect = b.inspect := by
  unfold inspect
  rw [Enrollment.partsAlike alike.enrollment,Grant.inspectAlike alike.grant]

theorem Enrollment.inspectEach {es fs : List Enrollment} (alike : Forall₂ Alike es fs) :
    es.map inspect = fs.map inspect := by
  induction alike with
  | nil => rfl
  | cons first rest ih => rw [List.map_cons,List.map_cons,inspectAlike first,ih]

theorem Settings.inspectAlike {s t : Settings} (alike : s.Alike t) : s.inspect = t.inspect := by
  unfold inspect
  rw [alike.autoRefresh,alike.bufferMinutes,alike.vaultDirectory,Enrollment.inspectEach alike.accounts]

theorem Keeper.inspectAlike {ω τ : Type} {k l : Keeper ω τ} (alike : k.Alike l) :
    k.inspect = l.inspect := by
  have size : k.roster.size = l.roster.size := by
    refine Roster.sizeOfIds ?_
    intro id
    have slots := alike.slots id
    generalize k.roster.slot? id = old, l.roster.slot? id = new at slots ⊢
    cases slots <;> rfl
  unfold inspect
  rw [size,alike.strategies,alike.autoRefresh,alike.bufferMinutes]

theorem secretsUnseen {ω τ : Type} :
    (∀ g h : Grant, g.Alike h → g.inspect = h.inspect) ∧
    (∀ r s : Reply, r.Alike s → r.inspect = s.inspect) ∧
    (∀ o p : Exchange.Order, o.Alike p → o.inspect = p.inspect) ∧
    (∀ e f : Enrollment, e.Alike f → e.inspect = f.inspect) ∧
    (∀ a b : Account, a.Alike b → a.inspect = b.inspect) ∧
    (∀ s t : Settings, s.Alike t → s.inspect = t.inspect) ∧
    ∀ k l : Keeper ω τ, k.Alike l → k.inspect = l.inspect :=
  ⟨fun _ _ => Grant.inspectAlike,fun _ _ => Reply.inspectAlike,fun _ _ => Exchange.Order.inspectAlike,
    fun _ _ => Enrollment.inspectAlike,fun _ _ => Account.inspectAlike,fun _ _ => Settings.inspectAlike,
    fun _ _ => Keeper.inspectAlike⟩

theorem clientSecretUnseen :
    let s (secret : String) : Settings :=
      ⟨true,5,none,[⟨"a",.google,"c",secret,"",""⟩,⟨"b",.microsoft,"c","","",""⟩]⟩
    (s "first").Alike (s "second") ∧ s "first" ≠ s "second" ∧ (s "first").inspect = (s "second").inspect := by
  intro s
  have veiled : Veiled "first" "second" := by unfold Veiled; decide
  have alike : (s "first").Alike (s "second") :=
    ⟨rfl,rfl,rfl,.cons ⟨rfl,rfl,rfl,veiled,rfl,rfl⟩ (.cons ⟨rfl,rfl,rfl,Iff.rfl,rfl,rfl⟩ .nil)⟩
  exact ⟨alike,by decide,(secretsUnseen (ω := Unit) (τ := Unit)).2.2.2.2.2.1 _ _ alike⟩

end GrantKeeper

import GrantKeeper.Keeper.Refresh

/-! All that opening, settling and abandoning an exchange can come to, as
relations between the keeper before and what there is afterwards. -/
namespace GrantKeeper.Keeper
open Time (Instant Span)
variable {ω τ : Type}

inductive Opens (k : Keeper ω τ) (now : Instant) (id : String) (within : Option Span)
    (ticket : Option Ticket) : Opening τ × Keeper ω τ → Prop
  | unknown (absent : k.roster.slot? id = none) :
      Opens k now id within ticket (.closed (.error (.unknownAccount id)),k)
  | joined {slot result} (found : k.roster.slot? id = some slot)
      (shared : joinedResult? slot id ticket = some result) :
      Opens k now id within ticket (.closed result,k)
  | waits {slot} (found : k.roster.slot? id = some slot) (flight : slot.inFlight = true) :
      Opens k now id within ticket (.waiting (ticket.getD ⟨slot.epoch,slot.ended⟩),k)
  | unneeded {slot buffer} (found : k.roster.slot? id = some slot)
      (apart : joinedResult? slot id ticket = none) (idle : slot.inFlight = false)
      (asked : within = some buffer) (current : slot.account.grant.isExpired now buffer = false) :
      Opens k now id within ticket (.closed (.ok ()),k)
  | unsupported {slot} (found : k.roster.slot? id = some slot)
      (apart : joinedResult? slot id ticket = none) (idle : slot.inFlight = false)
      (stale : ∀ buffer, within = some buffer → slot.account.grant.isExpired now buffer = true)
      (unserved : k.strategies.get? slot.account.enrollment.provider = none) :
      Opens k now id within ticket
        (.closed (.error (.exchange (.unsupported slot.account.enrollment.provider.name))),k)
  | unrefreshable {slot strategy} (found : k.roster.slot? id = some slot)
      (apart : joinedResult? slot id ticket = none) (idle : slot.inFlight = false)
      (stale : ∀ buffer, within = some buffer → slot.account.grant.isExpired now buffer = true)
      (served : k.strategies.get? slot.account.enrollment.provider = some strategy)
      (bare : slot.account.grant.isRefreshable = false) :
      Opens k now id within ticket (.closed (.error (.exchange .noRefreshToken)),k)
  | begins {slot strategy} (found : k.roster.slot? id = some slot)
      (apart : joinedResult? slot id ticket = none) (idle : slot.inFlight = false)
      (stale : ∀ buffer, within = some buffer → slot.account.grant.isExpired now buffer = true)
      (served : k.strategies.get? slot.account.enrollment.provider = some strategy)
      (refreshable : slot.account.grant.isRefreshable = true) :
      Opens k now id within ticket
        (.exchanging ⟨id,slot.epoch,slot.account.grant,slot.account.enrollment.clientId,
          slot.account.enrollment.clientSecret,strategy⟩,
        { k with roster := k.roster.put id { slot with inFlight := true } })

theorem opens (k : Keeper ω τ) (now : Instant) (id : String) (within : Option Span)
    (ticket : Option Ticket) :
    Opens k now id within ticket (k.openRefresh now id within ticket) := by
  unfold openRefresh
  split
  · rename_i absent
    exact .unknown absent
  · rename_i slot found
    split
    · rename_i result shared
      exact .joined found shared
    · rename_i apart
      split
      · rename_i flight
        exact .waits found flight
      · rename_i idle
        have idle : slot.inFlight = false := by simpa using idle
        simp only
        split
        · rename_i current
          cases asked : within with
          | none => simp [asked] at current
          | some buffer => exact .unneeded found apart idle rfl (by simpa [asked] using current)
        · rename_i late
          have stale : ∀ buffer, within = some buffer →
              slot.account.grant.isExpired now buffer = true := by
            intro buffer asked
            simpa [asked] using late
          split
          · rename_i unserved
            exact .unsupported found apart idle stale unserved
          · rename_i strategy served
            split
            · rename_i refreshable
              exact .begins found apart idle stale served refreshable
            · rename_i bare
              exact .unrefreshable found apart idle stale served (by simpa using bare)

theorem slotOfFound {k : Keeper ω τ} {a : Attempt τ} {slot : Slot} (h : k.slotOf? a = some slot) :
    k.roster.slot? a.id = some slot ∧ slot.epoch = a.epoch := by
  simpa [slotOf?,Option.filter_eq_some_iff] using h

theorem slotThere {k : Keeper ω τ} {a : Attempt τ} {slot : Slot} (found : k.roster.slot? a.id = some slot)
    (epoch : slot.epoch = a.epoch) : k.slotOf? a = some slot := by
  simp [slotOf?,Option.filter_eq_some_iff,found,epoch]

theorem slotOfGone {k : Keeper ω τ} {a : Attempt τ}
    (h : ∀ slot, k.roster.slot? a.id = some slot → slot.epoch ≠ a.epoch) : k.slotOf? a = none := by
  simpa [slotOf?,Option.filter_eq_none_iff] using h

theorem endFound {k : Keeper ω τ} {a : Attempt τ} {slot : Slot} (found : k.slotOf? a = some slot)
    (succeeded : Bool) : k.endAttempt a succeeded =
      { k with roster := k.roster.put a.id (endExchange slot succeeded) } := by
  simp only [endAttempt,found]

theorem endGone {k : Keeper ω τ} {a : Attempt τ} (gone : k.slotOf? a = none) (succeeded : Bool) :
    k.endAttempt a succeeded = k := by
  simp only [endAttempt,gone]

theorem endRenewed {k : Keeper ω τ} {a : Attempt τ} {slot : Slot} (found : k.slotOf? a = some slot)
    (vault : ω) (g : Grant) (succeeded : Bool) :
    endAttempt { k with vault, roster := k.roster.setGrant a.id slot g } a succeeded =
      { k with vault, roster := k.roster.setGrant a.id (endExchange slot succeeded) g } := by
  obtain ⟨there,epoch⟩ := slotOfFound found
  have renewed : slotOf? { k with vault, roster := k.roster.setGrant a.id slot g } a =
      some { slot with account := { slot.account with grant := g } } :=
    slotThere (by rw [Roster.setGrant,Roster.slotPut,if_pos rfl]) epoch
  rw [endFound renewed]
  simp only [Roster.setGrant,Roster.putTwice]
  rfl

section Kept
variable [Vault ω] {k : Keeper ω τ} {id : String} {g : Grant} {vault : ω}

theorem keepingSaved {slot : Slot} (found : k.roster.slot? id = some slot)
    (save : Vault.save k.vault id g = (.ok (),vault)) : k.writeAll (Write.keeping id g) =
      (.ok (),{ k with vault, roster := k.roster.setGrant id slot g }) := by
  simp only [Write.keeping,writeAll,write,save,Outcome.mapState,Outcome.andThen,Roster.hold,found]

theorem keepingUnsaved {fault : Fault} (save : Vault.save k.vault id g = (.error fault,vault)) :
    k.writeAll (Write.keeping id g) = (.error fault,{ k with vault }) := by
  simp only [Write.keeping,writeAll,write,save,Outcome.mapState,Outcome.andThen]

end Kept

inductive Settles [Vault ω] (k : Keeper ω τ) (now : Instant) (a : Attempt τ) :
    Except Exchange.Fault Reply → Outcome Fault Unit (Keeper ω τ) → Prop
  | gone {outcome} (absent : k.slotOf? a = none) :
      Settles k now a outcome (.error (.unknownAccount a.id),k)
  | refused {slot fault} (found : k.slotOf? a = some slot) :
      Settles k now a (.error fault) (.error (.exchange fault),
        { k with roster := k.roster.put a.id (endExchange slot false) })
  | kept {slot reply} (found : k.slotOf? a = some slot) (other : slot.account.grant ≠ a.previous) :
      Settles k now a (.ok reply) (.ok (),
        { k with roster := k.roster.put a.id (endExchange slot true) })
  | saved {slot reply vault} (found : k.slotOf? a = some slot) (same : slot.account.grant = a.previous)
      (save : Vault.save k.vault a.id (a.previous.refreshed now reply) = (.ok (),vault)) :
      Settles k now a (.ok reply) (.ok (),
        { k with
          vault
          roster := k.roster.setGrant a.id (endExchange slot true) (a.previous.refreshed now reply) })
  | unsaved {slot reply fault vault} (found : k.slotOf? a = some slot)
      (same : slot.account.grant = a.previous)
      (save : Vault.save k.vault a.id (a.previous.refreshed now reply) = (.error fault,vault)) :
      Settles k now a (.ok reply) (.error fault,
        { k with vault, roster := k.roster.put a.id (endExchange slot false) })

theorem settles [Vault ω] (k : Keeper ω τ) (now : Instant) (a : Attempt τ)
    (outcome : Except Exchange.Fault Reply) :
    Settles k now a outcome (k.settle now a outcome) := by
  unfold settle
  cases found : k.slotOf? a with
  | none => exact .gone found
  | some slot =>
    cases outcome with
    | error fault =>
      simp only [commit,endFound found]
      exact .refused found
    | ok reply =>
      by_cases same : slot.account.grant = a.previous
      · have there := (slotOfFound found).1
        simp only [commit,writesOf,ne_eq,same,not_true_eq_false,if_false]
        cases save : Vault.save k.vault a.id (a.previous.refreshed now reply) with
        | mk result vault =>
          cases result with
          | error fault =>
            have still : slotOf? { k with vault } a = some slot := found
            simp only [keepingUnsaved save]
            rw [endFound still]
            exact .unsaved found same save
          | ok done =>
            simp only [keepingSaved there save]
            rw [endRenewed found]
            exact .saved found same save
      · simp only [commit,writesOf,ne_eq,same,not_false_eq_true,if_true,writeAll,endFound found]
        exact .kept found same

theorem settleGone [Vault ω] {k : Keeper ω τ} {a : Attempt τ} (gone : k.slotOf? a = none) (now : Instant)
    (outcome : Except Exchange.Fault Reply) :
    k.settle now a outcome = (.error (.unknownAccount a.id),k) := by
  unfold settle
  rw [gone]

theorem settleFound [Vault ω] {k : Keeper ω τ} {a : Attempt τ} {slot : Slot}
    (found : k.slotOf? a = some slot) (now : Instant) (outcome : Except Exchange.Fault Reply) :
    k.settle now a outcome = ((k.commit now a slot outcome).1,
      (k.commit now a slot outcome).2.endAttempt a (k.commit now a slot outcome).1.isOk) := by
  unfold settle
  rw [found]

inductive Abandons (k : Keeper ω τ) (a : Attempt τ) : Keeper ω τ → Prop
  | gone (absent : k.slotOf? a = none) : Abandons k a k
  | broken {slot} (found : k.slotOf? a = some slot) :
      Abandons k a { k with roster := k.roster.put a.id (endExchange slot false) }

theorem abandons (k : Keeper ω τ) (a : Attempt τ) : Abandons k a (k.abandon a) := by
  unfold abandon
  cases found : k.slotOf? a with
  | none =>
    rw [endGone found]
    exact .gone found
  | some slot =>
    rw [endFound found]
    exact .broken found

theorem abandonGone {k : Keeper ω τ} {a : Attempt τ} (gone : k.slotOf? a = none) : k.abandon a = k :=
  endGone gone false

inductive Stores [Vault ω] (k : Keeper ω τ) (id : String) (g : Grant) :
    Outcome Fault Unit (Keeper ω τ) → Prop
  | unknown (absent : k.roster.slot? id = none) : Stores k id g (.error (.unknownAccount id),k)
  | saved {slot vault} (found : k.roster.slot? id = some slot)
      (save : Vault.save k.vault id { g with scope := slot.account.grant.scope } = (.ok (),vault)) :
      Stores k id g (.ok (),
        { k with
          vault
          roster := k.roster.setGrant id slot { g with scope := slot.account.grant.scope } })
  | unsaved {slot fault vault} (found : k.roster.slot? id = some slot)
      (save : Vault.save k.vault id { g with scope := slot.account.grant.scope } =
        (.error fault,vault)) :
      Stores k id g (.error fault,{ k with vault })

theorem stores [Vault ω] (k : Keeper ω τ) (now : Instant) (id access refresh : String)
    (lifetime : Int) : Stores k id (.issued now access refresh lifetime)
      (k.storeTokens now id access refresh lifetime) := by
  unfold storeTokens
  cases found : k.roster.slot? id with
  | none => exact .unknown found
  | some slot =>
    simp only
    cases save : Vault.save k.vault id
        { Grant.issued now access refresh lifetime with scope := slot.account.grant.scope } with
    | mk result vault =>
      cases result with
      | error fault =>
        rw [keepingUnsaved save]
        exact .unsaved found save
      | ok done =>
        rw [keepingSaved found save]
        exact .saved found save

inductive Registers [Vault ω] (k : Keeper ω τ) (e : Enrollment) : Bool × Keeper ω τ → Prop
  | refused (unusable : Enrollment.isUsableId e.id = false) : Registers k e (false,k)
  | enrolled {loaded vault} (usable : Enrollment.isUsableId e.id = true)
      (load : Vault.load k.vault e.id = (loaded,vault)) :
      Registers k e (true,
        { k with vault, roster := k.roster.enroll e (loaded.toOption.getD none) })

theorem registers [Vault ω] (k : Keeper ω τ) (e : Enrollment) : Registers k e (k.register e) := by
  unfold register
  split
  · rename_i usable
    exact .enrolled usable rfl
  · rename_i unusable
    exact .refused (by simpa using unusable)

end GrantKeeper.Keeper

import GrantKeeper.Proofs.Command.Failing
import GrantKeeper.Proofs.Keeper.Sweep

/-! What the status of an account foretells of its token. The status goes by minutes and the reader
of the token by spans, yet both draw the line at the same instant. -/
namespace GrantKeeper
open Exchange (Order Refresher)
open Time (Instant Span)

namespace Keeper
variable {ω τ : Type} {k : Keeper ω τ} {id : String} {account : Account} {now : Instant} {g : Grant}

theorem expiredNow (held : k.grant? id = some g) (now : Instant) :
    k.isExpired now id 0 = g.isExpired now .zero := by
  rw [expiredMinutes held]
  rfl

theorem startFound (found : k.account? id = some account) (on : k.autoRefresh = true) :
    Caller.startToken k now id =
      if k.isExpired now id k.bufferMinutes then .opening (.token id) (some k.buffer) none
      else .reading id := by
  have wants := wantsAccount found now
  rw [on,Bool.true_and] at wants
  obtain ⟨slot,there,-⟩ := accountThere found
  have known : k.knows id = true := by simp [knows,there]
  cases stale : k.isExpired now id k.bufferMinutes with
  | true => exact Caller.startRefreshing (wants.trans stale)
  | false => exact Caller.startReading known (wants.trans stale)

variable [Vault ω]

theorem registerIdle (idle : k.Idle) (e : Enrollment) : (k.register e).2.Idle := by
  have registered := k.registers e
  generalize k.register e = result at registered ⊢
  cases registered with
  | refused unusable => exact idle
  | enrolled usable load =>
    intro id slot found
    cases old : k.roster.slot? e.id with
    | none =>
      rw [Roster.slotEnrollNew old] at found
      split at found
      · cases found
        rfl
      · exact idle id slot found
    | some before =>
      rw [Roster.slotEnrollKnown old] at found
      split at found
      · cases found
        exact idle e.id before old
      · exact idle id slot found

theorem registerAllIdle (idle : k.Idle) (es : List Enrollment) : (k.registerAll es).Idle := by
  induction es generalizing k with
  | nil => exact idle
  | cons e es ih => exact ih (registerIdle idle e)

theorem registerAllSettings (k : Keeper ω τ) (es : List Enrollment) :
    (k.registerAll es).settings = k.settings := by
  induction es generalizing k with
  | nil => rfl
  | cons e es ih =>
    refine (ih (k.register e).2).trans ?_
    have registered := k.registers e
    generalize k.register e = result at registered ⊢
    cases registered <;> rfl

def Unrenewed (ask : Ask τ) (k : Keeper ω τ) (now : Instant) (id : String) (account : Account) : Prop :=
  ∀ strategy, k.strategies.get? account.enrollment.provider = some strategy →
    k.Fails now id account.grant (ask strategy account.order)

theorem tokenCurrent (found : k.account? id = some account)
    (current : k.isExpired now id k.bufferMinutes = false) (ask : Ask τ) :
    k.tokenSolo ask now id = (if account.grant.isUsable now then some account.grant.access else none,k) := by
  have wants : k.wantsRefresh now id = false := by rw [wantsAccount found,current,Bool.and_false]
  unfold tokenSolo
  simp only [wants,Bool.false_eq_true,if_false,usableAccount found,Grant.usableHanded]

theorem tokenUnrenewed {ask : Ask τ} (idle : k.Idle) (found : k.account? id = some account)
    (fails : k.Unrenewed ask now id account) :
    (k.tokenSolo ask now id).1 = account.grant.handed? now := by
  -- a lone reader has one run only, so any run that ends with the held token is this one
  obtain ⟨orders,reads⟩ : ∃ orders, k.ReadsAs (fun strategy order => some (ask strategy order)) now id orders
      (.token (k.tokenSolo ask now id).1) (k.tokenSolo ask now id).2 := Caller.aloneSolo ask k (idle id)
  have told : ∀ {orders' last value}, k.ReadsAs (fun strategy order => some (ask strategy order)) now id
      orders' (.token value) last → (k.tokenSolo ask now id).1 = value := by
    intro orders' last value other
    have same := congrArg Prod.fst (Caller.aloneUnique reads other).2
    exact Answer.token.inj same
  by_cases unasked : k.autoRefresh = false ∨ k.isExpired now id k.bufferMinutes = false
  · exact told (readUnasked found unasked)
  · simp only [not_or,Bool.not_eq_false] at unasked
    have stale : k.Stale now id account := ⟨found,unasked.1,unasked.2⟩
    by_cases bare : account.grant.refresh = ""
    · exact told (readUnable (idle id) stale (.inr bare))
    · cases served : k.strategies.get? account.enrollment.provider with
      | none => exact told (readUnable (idle id) stale (.inl served))
      | some strategy =>
        obtain ⟨last,read,-⟩ : ∃ last, k.ReadsAs (fun strategy order => some (ask strategy order)) now id
            [(strategy,account.order)] (.token (account.grant.handed? now)) last ∧ k.Unaltered last :=
          readFailed (idle id) stale served bare rfl (fails strategy served)
        exact told read

end Keeper

namespace Command
variable {s : Surroundings} {globals : Globals} {disk d : Disk} {w : Workspace} {k : FolderKeeper}
  {id : String} {account : Account} {now : Instant} {g : Grant}

theorem standingHeld (held : k.grant? id = some g) (now : Instant) : standing k now id g =
    if g.isUsable now then if k.isExpired now id k.bufferMinutes then .expiring else .valid
    else if g.valid then .expired else .noToken := by
  unfold standing Grant.isUsable
  rw [Keeper.expiredNow held]
  cases g.valid <;> cases g.isExpired now .zero <;> rfl

theorem standingCurrent (found : k.account? id = some account) (on : k.autoRefresh = true) :
    standing k now id account.grant = .valid ↔ Caller.startToken k now id = .reading id ∧
      ∀ ask, k.tokenSolo ask now id = (some account.grant.access,k) := by
  rw [standingHeld (Keeper.accountGrant found),Keeper.startFound found on]
  cases stale : k.isExpired now id k.bufferMinutes with
  | true => cases account.grant.isUsable now <;> cases account.grant.valid <;> simp
  | false =>
    have reads := Keeper.tokenCurrent found stale
    cases usable : account.grant.isUsable now with
    | true => simp [reads,usable]
    | false =>
      have silent : ¬ ∀ ask, k.tokenSolo ask now id = (some account.grant.access,k) := by
        intro all
        have same := (reads fun _ _ => .error .noRefreshToken).symm.trans (all _)
        simp [usable] at same
      cases account.grant.valid <;> simp [silent]

theorem standingStale (found : k.account? id = some account) (on : k.autoRefresh = true) :
    standing k now id account.grant = .expiring ↔ account.grant.isUsable now = true ∧
      Caller.startToken k now id = .opening (.token id) (some k.buffer) none := by
  rw [standingHeld (Keeper.accountGrant found),Keeper.startFound found on]
  cases account.grant.isUsable now <;> cases account.grant.valid <;>
    cases k.isExpired now id k.bufferMinutes <;> simp

theorem standingUsable (held : k.grant? id = some g) (now : Instant) :
    standing k now id g = .valid ∨ standing k now id g = .expiring ↔ g.isUsable now = true := by
  rw [standingHeld held]
  cases g.isUsable now <;> cases g.valid <;> cases k.isExpired now id k.bufferMinutes <;> decide

theorem standingUnusable (held : k.grant? id = some g) (now : Instant) :
    standing k now id g = .expired ∨ standing k now id g = .noToken ↔ g.isUsable now = false := by
  rw [standingHeld held]
  cases g.isUsable now <;> cases g.valid <;> cases k.isExpired now id k.bufferMinutes <;> decide

def Standing.word : Standing → String
  | .noToken => "no token"
  | .expired => "expired"
  | .expiring => "expiring"
  | .valid => "valid"

def Says (report : Report) (id : String) (account : Account) (standing : Standing) : Prop :=
  ∃ rest, report =
    done [id ++ "\t" ++ account.enrollment.provider.name ++ "\t" ++ (standing.word ++ rest)]

theorem standingWord (lifetime : Int) (standing : Standing) :
    ∃ rest, standingText lifetime standing = standing.word ++ rest := by
  cases standing with
  | noToken | expired => exact ⟨"",String.append_empty.symm⟩
  | expiring | valid =>
    refine ⟨", " ++ lifetimeText lifetime ++ " left",?_⟩
    rw [← String.append_assoc,← String.append_assoc]
    rfl

theorem wordOnce {first second : Standing} {rest more : String}
    (same : first.word ++ rest = second.word ++ more) : first = second := by
  have letters := congrArg String.toList same
  cases first <;> cases second <;> simp [Standing.word] at letters ⊢

theorem saysOnce {report : Report} {first second : Standing} (said : Says report id account first)
    (other : Says report id account second) : first = second := by
  obtain ⟨rest,rfl⟩ := said
  obtain ⟨more,same⟩ := other
  injection same with lines
  injection lines with line
  exact wordOnce (String.append_right_inj _ |>.mp line)

theorem showSays (found : k.account? id = some account) (now : Instant) :
    Says (showStatus k now (some id)) id account (standing k now id account.grant) := by
  obtain ⟨slot,there,-⟩ := Keeper.accountThere found
  have known : k.knows id = true := by simp [Keeper.knows,there]
  obtain ⟨rest,text⟩ := standingWord (account.grant.lifetime now) (standing k now id account.grant)
  refine ⟨rest ++ "\t" ++ (if account.grant.isRefreshable then "refreshable" else "no refresh token"),?_⟩
  simp only [showStatus,known,if_true,statusLine?,found,Option.map_some,Option.toList_some,text,
    String.append_assoc]

theorem showLines (k : FolderKeeper) (now : Instant) (id : String) :
    (showStatus k now (some id)).lines = (statusLine? k now id).toList := by
  unfold showStatus
  dsimp only
  split
  · rfl
  · rename_i unknown
    have absent : k.account? id = none := by simpa [Keeper.knows,Keeper.account?] using unknown
    rw [statusLine?,absent]
    rfl

theorem assembledAuto (globals : Globals) (settings : Settings) (f : Vault.Folder) (off : Bool) :
    assemble { globals with noAutoRefresh := off } settings f =
      (assemble globals settings f).setAutoRefresh (settings.autoRefresh && !off) := by
  have auto : (settings.apply (Keeper.new f Refresher.standard)).2.autoRefresh = settings.autoRefresh := by
    rw [Settings.applyAll]
    have same := Keeper.registerAllSettings
      (((Keeper.new f Refresher.standard).setAutoRefresh settings.autoRefresh).setBuffer
        settings.bufferMinutes) settings.accounts
    exact congrArg (·.2.1) same
  unfold assemble
  generalize (settings.apply (Keeper.new f Refresher.standard)).2 = k at auto ⊢
  obtain ⟨vault,roster,strategies,on,minutes⟩ := k
  cases auto
  cases globals.bufferMinutes <;> cases globals.noAutoRefresh <;> cases off <;>
    simp [Keeper.setAutoRefresh,Keeper.setBuffer]

theorem openedAuto (opened : openWorkspace s globals disk = (.ok w,d)) (off : Bool) :
    openWorkspace s { globals with noAutoRefresh := off } disk =
      (.ok { w with keeper := w.keeper.setAutoRefresh (w.settings.autoRefresh && !off) },d) := by
  obtain ⟨settings,d₁,load,rest⟩ := Outcome.ofAndThen opened
  obtain ⟨folder,d₂,established,last⟩ := Outcome.ofAndThen rest
  cases last
  have file : Globals.settingsPath { globals with noAutoRefresh := off } s.env =
    globals.settingsPath s.env := rfl
  have directory : Globals.vaultPath { globals with noAutoRefresh := off } s.env settings =
    globals.vaultPath s.env settings := rfl
  unfold openWorkspace
  simp only [file]
  rw [load,Outcome.andThenOk,directory,established,Outcome.andThenOk,assembledAuto]

theorem openedIdle (opened : openWorkspace s globals disk = (.ok w,d)) : w.keeper.Idle := by
  have opens := opens s globals disk
  rw [opened] at opens
  cases opens with
  | @opened settings _ _ load grown there =>
    intro id slot found
    rw [(assembleParts globals settings _).2,Settings.applyAll] at found
    refine Keeper.registerAllIdle ?_ settings.accounts id slot found
    intro id slot found
    cases (Roster.slotEmpty id).symm.trans found

def statusReport (s : Surroundings) (globals : Globals) (disk : Disk) (id : Option String) : Report :=
  (run s ⟨globals,.status id⟩ disk).1

def tokenReport (s : Surroundings) (globals : Globals) (disk : Disk) (off : Bool) (id : String) : Report :=
  (run s ⟨{ globals with noAutoRefresh := off },.token id⟩ disk).1

theorem statusOpened (opened : openWorkspace s globals disk = (.ok w,d)) (id : Option String) :
    statusReport s globals disk id = showStatus w.keeper s.now id := by
  unfold statusReport run
  rw [if_neg nofun,opened]
  rfl

theorem tokenOpened (opened : openWorkspace s globals disk = (.ok w,d)) (off : Bool) (id : String) :
    tokenReport s globals disk off id =
      match ((w.keeper.setAutoRefresh (w.settings.autoRefresh && !off)).tokenSolo s.ask s.now id).1 with
      | some access => done [access]
      | none => failed (.noToken id) := by
  unfold tokenReport run
  rw [if_neg nofun,openedAuto opened off]
  change (printToken s _ id).1 = _
  unfold printToken
  dsimp only
  generalize (w.keeper.setAutoRefresh (w.settings.autoRefresh && !off)).tokenSolo s.ask s.now id = result
  obtain ⟨value,k⟩ := result
  cases value <;> rfl

theorem tokenHanded (opened : openWorkspace s globals disk = (.ok w,d))
    (found : w.keeper.account? id = some account) (fails : w.keeper.Unrenewed s.ask s.now id account)
    (off : Bool) : tokenReport s globals disk off id =
      if account.grant.isUsable s.now then done [account.grant.access] else failed (.noToken id) := by
  have told := Keeper.tokenUnrenewed (k := w.keeper.setAutoRefresh (w.settings.autoRefresh && !off))
    (openedIdle opened) found fails
  rw [tokenOpened opened,told,← Grant.usableHanded]
  cases account.grant.isUsable s.now <;> rfl

/-- With the clock standing still, what the status of an account says of its token: whether a reader
would try to refresh it first, and whether the token command succeeds when no exchange does. -/
structure Foretells (s : Surroundings) (globals : Globals) (disk : Disk) (w : Workspace) (id : String)
    (account : Account) : Prop where
  said : ∃! standing, Says (statusReport s globals disk (some id)) id account standing
  valid : Says (statusReport s globals disk (some id)) id account .valid ↔
    Caller.startToken (w.keeper.setAutoRefresh true) s.now id = .reading id ∧
    ∀ ask, (w.keeper.setAutoRefresh true).tokenSolo ask s.now id =
      (some account.grant.access,w.keeper.setAutoRefresh true)
  expiring : Says (statusReport s globals disk (some id)) id account .expiring ↔
    account.grant.isUsable s.now = true ∧
    Caller.startToken (w.keeper.setAutoRefresh true) s.now id =
      .opening (.token id) (some w.keeper.buffer) none
  served (off : Bool) (fails : w.keeper.Unrenewed s.ask s.now id account) :
    (tokenReport s globals disk off id).result = .ok () ↔
      Says (statusReport s globals disk (some id)) id account .valid ∨
      Says (statusReport s globals disk (some id)) id account .expiring
  denied (off : Bool) (fails : w.keeper.Unrenewed s.ask s.now id account) :
    (∃ failure, (tokenReport s globals disk off id).result = .error failure) ↔
      Says (statusReport s globals disk (some id)) id account .expired ∨
      Says (statusReport s globals disk (some id)) id account .noToken
  printed (off : Bool) (fails : w.keeper.Unrenewed s.ask s.now id account) :
    tokenReport s globals disk off id = done [account.grant.access] ∨
    tokenReport s globals disk off id = failed (.noToken id)
  listed : statusReport s globals disk none =
    done (w.keeper.ids.flatMap fun id => (statusReport s globals disk (some id)).lines)

theorem statusForetells (opened : openWorkspace s globals disk = (.ok w,d))
    (found : w.keeper.account? id = some account) : Foretells s globals disk w id account := by
  have stands : ∀ other, Says (statusReport s globals disk (some id)) id account other ↔
      standing w.keeper s.now id account.grant = other := by
    intro other
    have shown := showSays found s.now
    rw [statusOpened opened]
    exact ⟨saysOnce shown,fun same => same ▸ shown⟩
  have on : (w.keeper.setAutoRefresh true).autoRefresh = true := rfl
  have held := Keeper.accountGrant found
  have hands := tokenHanded opened found
  refine ⟨?_,?_,?_,?_,?_,?_,?_⟩
  · exact ⟨_,(stands _).mpr rfl,fun other same => ((stands other).mp same).symm⟩
  · rw [stands]
    exact standingCurrent (k := w.keeper.setAutoRefresh true) found on
  · rw [stands]
    exact standingStale (k := w.keeper.setAutoRefresh true) found on
  · intro off fails
    rw [stands,stands,standingUsable held,hands fails]
    cases account.grant.isUsable s.now <;> simp [done,failed]
  · intro off fails
    rw [stands,stands,standingUnusable held,hands fails]
    cases account.grant.isUsable s.now <;> simp [done,failed]
  · intro off fails
    rw [hands fails]
    cases account.grant.isUsable s.now <;> simp
  · simp only [statusOpened opened,showLines]
    exact congrArg done (List.filterMap_eq_flatMap_toList _ _)

def closing : Disk :=
  let settings := Text.encode "\x7b\"accounts\":[[\"a\",\"google\",\"c\"]]\x7d"
  let record := Text.encode "[\"A\",\"R\",\"\",\"Bearer\",200,0,true]"
  .ofTree (((Disk.Tree.empty.put ["c.json"] (.file 0o644 settings)).put ["t"] (.directory 0o700)).put
    ["t","a.json"] (.file 0o600 record)) 7

def closingGrant : Grant := ⟨"A","R","","Bearer",⟨200 * Time.second,by decide,by decide⟩,.epoch,true⟩

theorem closingForetold : ∃ w d account, openWorkspace alone removeGhost.globals closing = (.ok w,d) ∧
    w.keeper.account? "a" = some account ∧ w.keeper.Unrenewed alone.ask alone.now "a" account ∧
    Says (statusReport alone removeGhost.globals closing (some "a")) "a" account .expiring ∧
    tokenReport alone removeGhost.globals closing false "a" = done ["A"] := by
  have opens : (openWorkspace alone removeGhost.globals closing).1.toOption.map
      (fun w => (w.keeper.account? "a",standing w.keeper .epoch "a" closingGrant)) =
      some (some ⟨⟨"a",.google,"c","","",""⟩,closingGrant⟩,.expiring) := by
    decide +kernel
  rcases opened : openWorkspace alone removeGhost.globals closing with ⟨failure | w,d⟩
  · rw [opened] at opens
    cases opens
  · rw [opened] at opens
    obtain ⟨found,stands⟩ := Prod.mk.inj (Option.some.inj opens)
    have fails : w.keeper.Unrenewed alone.ask alone.now "a" ⟨⟨"a",.google,"c","","",""⟩,closingGrant⟩ := by
      intro strategy served reply said
      cases said
    have foretells := statusForetells opened found
    have said := showSays found alone.now
    rw [← statusOpened opened] at said
    change Says _ _ _ (standing w.keeper .epoch "a" closingGrant) at said
    rw [stands] at said
    have served := (foretells.served false fails).mpr (.inr said)
    refine ⟨w,d,_,rfl,found,fails,said,?_⟩
    rcases foretells.printed false fails with printed | denied
    · exact printed
    · rw [denied] at served
      cases served

end Command

end GrantKeeper

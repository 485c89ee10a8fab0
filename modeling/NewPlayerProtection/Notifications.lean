import NewPlayerProtection.Server

/-!
# Notifications along runs of the server

The message throttle serves the structure damage hook. A protected player who
damages an enemy structure, a player whose structure is damaged, and the online
members of a tribe whose unknown member damaged a protected structure are told
so, each only after `IsNextMessageReady` for them returned true; the hook's
outcome lists the notifications it sends, by recipient.

A notification follows a ready call for its recipient at the event's clock time,
so the bound between ready calls carries over to what players see. Across every
run of server events in which a player stays online and no damage event comes
before the first notification, two notifications to the player are more than
`MessageIntervalInSecs - 1` seconds apart
(`notifications_more_than_interval_minus_one_apart`). Within one event, no
player is notified twice (`hookAPrimalStructureTakeDamage_notifies_each_once`).
-/

namespace NewPlayerProtection

/-! ## One damage event -/

@[simp]
theorem blockNotifying_notifications (cfg : Config) (env : DamageEnv) (tp : TimerProt)
    (steamId : Nat) (message : Notification) :
    (blockNotifying cfg env tp steamId message).notifications =
      if (tp.isNextMessageReady cfg.messageIntervalInSecs steamId env.now).1 then
        [(steamId, message)] else [] := rfl

/-- One step of the tribe loop on a member of the attacking tribe: the call for
them, then the rest of the loop from the state the call leaves. -/
theorem notifyTribemates_cons_member (cfg : Config) (env : DamageEnv) (attacking : Nat)
    (onlineData : OnlinePlayersData) (rest : List OnlinePlayersData) (tp : TimerProt)
    (member : (onlineData.tribeId == attacking) = true) :
    notifyTribemates cfg env attacking (onlineData :: rest) tp =
      let call := tp.isNextMessageReady cfg.messageIntervalInSecs onlineData.steamId env.now
      let loop := notifyTribemates cfg env attacking rest call.2
      (loop.1, (if call.1 && !env.isPlayerDead onlineData.steamId then
        [(onlineData.steamId, .newPlayerStructureTakingDamageFromUnknownTribemate)] else []) ++
          loop.2) := by
  rw [notifyTribemates, if_pos member]

section Notified

variable (cfg : Config) (env : DamageEnv) {steamId : Nat} {message : Notification}

/-- A notification of the tribe loop follows a ready call for its recipient at the
event's clock time: from a state in which their next message is not due before
`bound`, the event comes less than a second before `bound` or later, and a
recipient who was online has their next message due an interval after the event
when the loop ends. -/
theorem notifyTribemates_notified (attacking : Nat) :
    ∀ (l : List OnlinePlayersData) (tp : TimerProt),
      (steamId, message) ∈ (notifyTribemates cfg env attacking l tp).2 →
        (∀ bound, tp.MessageDueNotBefore steamId bound → bound - ticksPerSecond < env.now) ∧
          ((tp.nextMessageTime steamId).isSome →
            (notifyTribemates cfg env attacking l tp).1.MessageDueNotBefore steamId
              (env.now + seconds cfg.messageIntervalInSecs))
  | [], _, sent => by simp [notifyTribemates] at sent
  | onlineData :: rest, tp, sent => by
      by_cases member : (onlineData.tribeId == attacking) = true
      · rw [notifyTribemates_cons_member cfg env attacking onlineData rest tp member] at sent ⊢
        dsimp only at sent ⊢
        rcases List.mem_append.mp sent with head | later
        · -- this member's call sent it: it was ready, and for the recipient
          obtain ⟨ready, same⟩ : (tp.isNextMessageReady cfg.messageIntervalInSecs onlineData.steamId
              env.now).1 = true ∧ steamId = onlineData.steamId := by
            split at head
            · next readyAlive =>
              exact ⟨(Bool.and_eq_true_iff.mp readyAlive).1, (Prod.mk.inj (List.mem_singleton.mp head)).1⟩
            · cases head
          subst same
          refine ⟨fun bound due => due.ready_after ready, fun online => ?_⟩
          exact notifyTribemates_induction cfg env attacking
            (·.MessageDueNotBefore onlineData.steamId (env.now + seconds cfg.messageIntervalInSecs))
            (fun _ steamId' due => due.isNextMessageReady _ steamId' fun _ => le_refl _) rest _
            ⟨_, TimerProt.nextMessageTime_of_ready online ready, le_refl _⟩
        · -- a later call sent it, from the state this member's call left
          obtain ⟨before, after⟩ := notifyTribemates_notified attacking rest _ later
          refine ⟨fun bound due => ?_, fun online =>
            after (tp.nextMessageTime_isSome_isNextMessageReady online _ _ _)⟩
          rcases due.ready_or_keeps cfg.messageIntervalInSecs onlineData.steamId env.now with
            ⟨same, ready⟩ | kept
          · subst same
            exact due.ready_after ready
          · exact before bound kept
      · rw [notifyTribemates, if_neg member] at sent ⊢
        exact notifyTribemates_notified attacking rest tp sent

/-- The player `blockNotifying` notifies is the one it checked, and the check was
ready. -/
theorem blockNotifying_notified {tp : TimerProt} {steamId' : Nat} {message' : Notification}
    (sent : (steamId, message) ∈ (blockNotifying cfg env tp steamId' message').notifications) :
    steamId = steamId' ∧ (tp.isNextMessageReady cfg.messageIntervalInSecs steamId' env.now).1 = true := by
  rw [blockNotifying_notifications] at sent
  split at sent
  · next ready => exact ⟨(Prod.mk.inj (List.mem_singleton.mp sent)).1, ready⟩
  · cases sent

/-- A notification of the structure damage hook follows a ready call for its
recipient at the event's clock time. -/
theorem hookAPrimalStructureTakeDamage_notified (st : ServerState) (this : Option Structure)
    (eventInstigator damageCauser : Option Actor)
    (sent : (steamId, message) ∈
      (hookAPrimalStructureTakeDamage cfg env st this eventInstigator damageCauser).notifications) :
    (∀ bound, st.timerProt.MessageDueNotBefore steamId bound → bound - ticksPerSecond < env.now) ∧
      ((st.timerProt.nextMessageTime steamId).isSome →
        (hookAPrimalStructureTakeDamage cfg env st this eventInstigator
          damageCauser).timerProt.MessageDueNotBefore steamId
            (env.now + seconds cfg.messageIntervalInSecs)) := by
  rcases hookAPrimalStructureTakeDamage_effects cfg env st this eventInstigator damageCauser with
    ⟨-, silent⟩ | ⟨steamId', message', block⟩ | ⟨attacking, loop⟩
  · rw [silent] at sent
    cases sent
  · rw [block] at sent ⊢
    obtain ⟨rfl, ready⟩ := blockNotifying_notified cfg env sent
    refine ⟨fun bound due => due.ready_after ready, fun online => ⟨_, ?_, le_refl _⟩⟩
    rw [blockNotifying_timerProt]
    exact TimerProt.nextMessageTime_of_ready online ready
  · have notified : (hookAPrimalStructureTakeDamage cfg env st this eventInstigator
        damageCauser).notifications = _ := congrArg Prod.snd loop
    have listed : (hookAPrimalStructureTakeDamage cfg env st this eventInstigator
        damageCauser).timerProt = _ := congrArg Prod.fst loop
    rw [notified] at sent
    rw [listed]
    exact notifyTribemates_notified cfg env attacking _ _ sent

end Notified

/-- The tribe loop notifies only players it visits, each at most once, in the
order of the list. -/
theorem notifyTribemates_recipients_sublist (cfg : Config) (env : DamageEnv) (attacking : Nat) :
    ∀ (l : List OnlinePlayersData) (tp : TimerProt),
      ((notifyTribemates cfg env attacking l tp).2.map Prod.fst).Sublist (l.map (·.steamId))
  | [], _ => by simp [notifyTribemates]
  | onlineData :: rest, tp => by
      have later := notifyTribemates_recipients_sublist cfg env attacking rest
      by_cases member : (onlineData.tribeId == attacking) = true
      · rw [notifyTribemates_cons_member cfg env attacking onlineData rest tp member]
        dsimp only
        split
        · exact (later _).cons₂ _
        · exact (later _).cons _
      · rw [notifyTribemates, if_neg member]
        exact (later tp).cons _

/-! ## Runs of server events -/

/-- An event keeps a player's next message from coming due before `bound`, unless
it logs them out or is a damage event more than an interval before `bound`. -/
theorem ServerEvent.messageDueNotBefore (cfg : Config) {st st' : ServerState} (event : ServerEvent)
    {steamId : Nat} {bound : Int} (due : st.timerProt.MessageDueNotBefore steamId bound)
    (noLogout : event ≠ .logout steamId)
    (notEarlier : ∀ env this eventInstigator damageCauser,
      event = .takeDamage env this eventInstigator damageCauser →
        bound ≤ env.now + seconds cfg.messageIntervalInSecs)
    (applied : event.apply cfg st = some st') : st'.timerProt.MessageDueNotBefore steamId bound := by
  let admin := isAdmin cfg st.permissionsMap
  cases event with
  | addPlayerFromDB steamId' tribeId start lastLogin level isNewPlayer =>
      cases applied
      exact due.apply cfg admin (.addPlayerFromDB steamId' tribeId start lastLogin level isNewPlayer)
        (by simp) (by simp)
  | handleNewPlayer login =>
      cases applied
      exact due.apply cfg admin (.handleNewPlayer login.steamId login.teamId login.now)
        (by simp) (by simp)
  | logout steamId' =>
      cases applied
      exact due.apply cfg admin (.logout steamId')
        (fun same => noLogout (by rw [TrackerOp.logout.inj same])) (by simp)
  | updateTimer tick =>
      cases applied
      rcases updateTimer_cases cfg tick st with ⟨closed, -⟩ | ⟨-, ticked⟩
      · rw [closed]
        exact due
      · rw [ticked]
        exact due.apply cfg _ (.updateTimer tick.stats tick.now) (by simp) (by simp)
  | takeDamage env this eventInstigator damageCauser =>
      cases applied
      exact hookAPrimalStructureTakeDamage_induction cfg env st this eventInstigator damageCauser
        (·.MessageDueNotBefore steamId bound)
        (fun _ steamId' due => due.isNextMessageReady _ steamId' fun _ =>
          notEarlier env this eventInstigator damageCauser rfl) due
  | saveWorld faults =>
      rw [(hookAShooterGameModeSaveWorld_frame applied).1]
      exact due

/-- The same along every run of events. -/
theorem ServerEvent.messageDueNotBefore_run (cfg : Config) {steamId : Nat} {bound : Int} :
    ∀ (events : List ServerEvent) (st st' : ServerState),
      st.timerProt.MessageDueNotBefore steamId bound → (∀ event ∈ events, event ≠ .logout steamId) →
      (∀ event ∈ events, ∀ env this eventInstigator damageCauser,
        event = .takeDamage env this eventInstigator damageCauser →
          bound ≤ env.now + seconds cfg.messageIntervalInSecs) →
      ServerEvent.run cfg events st = some st' → st'.timerProt.MessageDueNotBefore steamId bound
  | [], _, _, due, _, _, ran => by
      cases ran
      exact due
  | event :: rest, st, st', due, noLogout, notEarlier, ran => by
      obtain ⟨mid, applied, ran⟩ := Option.bind_eq_some.mp ran
      exact messageDueNotBefore_run cfg rest mid st'
        (event.messageDueNotBefore cfg due (noLogout event (List.mem_cons_self _ _))
          (notEarlier event (List.mem_cons_self _ _)) applied)
        (fun event mem => noLogout event (List.mem_cons_of_mem _ mem))
        (fun event mem => notEarlier event (List.mem_cons_of_mem _ mem)) ran

/-- In every reachable state, one structure damage event notifies each player at
most once. -/
theorem hookAPrimalStructureTakeDamage_notifies_each_once (cfg : Config) {st : ServerState}
    (reach : Reachable cfg st) (env : DamageEnv) (this : Option Structure)
    (eventInstigator damageCauser : Option Actor) :
    ((hookAPrimalStructureTakeDamage cfg env st this eventInstigator
      damageCauser).notifications.map Prod.fst).Nodup := by
  rcases hookAPrimalStructureTakeDamage_effects cfg env st this eventInstigator damageCauser with
    ⟨-, silent⟩ | ⟨steamId, message, block⟩ | ⟨attacking, loop⟩
  · rw [silent]
    exact List.nodup_nil
  · rw [block, blockNotifying_notifications]
    split <;> simp
  · rw [show (hookAPrimalStructureTakeDamage cfg env st this eventInstigator
        damageCauser).notifications = _ from congrArg Prod.snd loop]
    exact (notifyTribemates_recipients_sublist cfg env attacking _ _).nodup reach.mirrored.onlineNodup

/-- Players 1 and 2 of tribe 200000 online, and damage without an instigator from a
causer of their tribe to a structure of protected tribe 200001: each is told
once. -/
theorem hookAPrimalStructureTakeDamage_notifies_each_once_tribe :
    let cfg : Config := ⟨false, "", 72, 60, false, false, false, 60, 5, []⟩
    let st := hookAShooterGameModeHandleNewPlayer ⟨2, 0, 0, 200000, []⟩
      (hookAShooterGameModeHandleNewPlayer ⟨1, 0, 0, 200000, []⟩
        (ServerState.initial ⟨⟨[], []⟩, [200001], []⟩ 0))
    let env : DamageEnv := ⟨0, fun _ => false, fun _ _ => false⟩
    Reachable cfg st ∧
      ((hookAPrimalStructureTakeDamage cfg env st (some ⟨200001, "Wall"⟩) none
        (some ⟨200000, "Rex", .dinoCharacter⟩)).notifications.map Prod.fst).Nodup := by
  intro cfg st env
  have reach : Reachable cfg st :=
    .step (.handleNewPlayer _) (.step (.handleNewPlayer _) (.initial _ _) rfl) rfl
  exact ⟨reach, hookAPrimalStructureTakeDamage_notifies_each_once cfg reach env _ _ _⟩

/-- Two notifications the structure damage hook sends a player who stays online
are more than `MessageIntervalInSecs - 1` seconds apart: the first in a damage
event from a state in which the player is online, the second in a damage event
after any run of server events with no logout of the player and no damage event
earlier than the first. -/
theorem notifications_more_than_interval_minus_one_apart (cfg : Config) (st st' : ServerState)
    (steamId : Nat) (env env' : DamageEnv) (this this' : Option Structure)
    (eventInstigator eventInstigator' damageCauser damageCauser' : Option Actor)
    (message message' : Notification) (events : List ServerEvent)
    (online : (st.timerProt.nextMessageTime steamId).isSome)
    (noLogout : ∀ event ∈ events, event ≠ .logout steamId)
    (notEarlier : ∀ event ∈ events, ∀ later this₂ instigator₂ causer₂,
      event = .takeDamage later this₂ instigator₂ causer₂ → env.now ≤ later.now)
    (first : (steamId, message) ∈
      (hookAPrimalStructureTakeDamage cfg env st this eventInstigator damageCauser).notifications)
    (ran : ServerEvent.run cfg (.takeDamage env this eventInstigator damageCauser :: events) st =
      some st')
    (second : (steamId, message') ∈
      (hookAPrimalStructureTakeDamage cfg env' st' this' eventInstigator' damageCauser').notifications) :
    seconds (cfg.messageIntervalInSecs - 1) < env'.now - env.now := by
  obtain ⟨mid, applied, ran⟩ := Option.bind_eq_some.mp ran
  cases applied
  have due := ServerEvent.messageDueNotBefore_run cfg events _ st'
    ((hookAPrimalStructureTakeDamage_notified cfg env st this eventInstigator damageCauser first).2
      online) noLogout
    (fun event mem later this₂ instigator₂ causer₂ same => by
      have := notEarlier event mem later this₂ instigator₂ causer₂ same
      omega) ran
  have gap := (hookAPrimalStructureTakeDamage_notified cfg env' st' this' eventInstigator'
    damageCauser' second).1 _ due
  simp only [seconds, ticksPerSecond] at gap ⊢
  omega

/-- Player 1, new and online, damages a structure of tribe 200001 at 0, 30 and 60
seconds: told at 0 and at 60 seconds, the damage at 30 seconds coming between. -/
theorem notifications_apart_repeated_attack :
    let cfg : Config := ⟨false, "", 72, 60, false, false, false, 60, 5, []⟩
    let st : ServerState := { ServerState.initial ⟨⟨[], []⟩, [], []⟩ 0 with
      timerProt := ⟨[⟨1, 200000, 0, 0, 1, 1⟩], [⟨1, 200000, 0, 0, 1, 1, 0⟩]⟩ }
    let player : Option Actor := some ⟨200000, "Player", .shooterPlayerController 1⟩
    let wall : Option Structure := some ⟨200001, "Wall"⟩
    let env₀ : DamageEnv := ⟨0, fun _ => false, fun _ _ => false⟩
    let env₁ : DamageEnv := ⟨seconds 30, fun _ => false, fun _ _ => false⟩
    let env₂ : DamageEnv := ⟨seconds 60, fun _ => false, fun _ _ => false⟩
    let events : List ServerEvent := [.takeDamage env₁ wall player player]
    let st₁ : ServerState := { st with
      timerProt := (hookAPrimalStructureTakeDamage cfg env₀ st wall player player).timerProt }
    let st₂ : ServerState := { st₁ with
      timerProt := (hookAPrimalStructureTakeDamage cfg env₁ st₁ wall player player).timerProt }
    (st.timerProt.nextMessageTime 1).isSome ∧ (∀ event ∈ events, event ≠ .logout 1) ∧
      (∀ event ∈ events, ∀ later this₂ instigator₂ causer₂,
        event = .takeDamage later this₂ instigator₂ causer₂ → env₀.now ≤ later.now) ∧
      (1, .newPlayerDoingDamage) ∈
        (hookAPrimalStructureTakeDamage cfg env₀ st wall player player).notifications ∧
      ServerEvent.run cfg (.takeDamage env₀ wall player player :: events) st = some st₂ ∧
      (1, .newPlayerDoingDamage) ∈
        (hookAPrimalStructureTakeDamage cfg env₂ st₂ wall player player).notifications ∧
      seconds (cfg.messageIntervalInSecs - 1) < env₂.now - env₀.now := by
  intro cfg st player wall env₀ env₁ env₂ events st₁ st₂
  have noLogout : ∀ event ∈ events, event ≠ .logout 1 := by simp [events]
  have notEarlier : ∀ event ∈ events, ∀ later this₂ instigator₂ causer₂,
      event = .takeDamage later this₂ instigator₂ causer₂ → env₀.now ≤ later.now := by
    intro event mem later this₂ instigator₂ causer₂ same
    rw [List.mem_singleton.mp mem] at same
    cases same
    decide
  have first : (1, Notification.newPlayerDoingDamage) ∈
      (hookAPrimalStructureTakeDamage cfg env₀ st wall player player).notifications := by decide
  have ran : ServerEvent.run cfg (.takeDamage env₀ wall player player :: events) st = some st₂ := rfl
  have second : (1, Notification.newPlayerDoingDamage) ∈
      (hookAPrimalStructureTakeDamage cfg env₂ st₂ wall player player).notifications := by decide
  exact ⟨by decide, noLogout, notEarlier, first, ran, second,
    notifications_more_than_interval_minus_one_apart cfg st st₂ 1 env₀ env₂ wall wall player player
      player player _ _ events (by decide) noLogout notEarlier first ran second⟩

end NewPlayerProtection

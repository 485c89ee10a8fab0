import Mathlib.Logic.Relation
import NewPlayerProtection.SaveWorld
import NewPlayerProtection.TakeDamage
import NewPlayerProtection.Throttle

/-!
# The plugin across server events

The plugin's state changes at six kinds of event: a player read from the
database when the plugin loads, a login, a logout, a tick of the player update
timer, damage to a structure, and a world save. `Reachable` holds of the states
reached from the plugin's load, with empty player lists and an empty
permissions cache, by any sequence of them.

Two results connect this level to the ones below. Each event acts on the player
lists as a run of `TrackerOp`s (`ServerEvent.timerProt_run`), so the lists of
every reachable state are those of a run from empty lists, and the properties
of runs hold of them. And the permissions cache has a key for exactly the
online players (`permissionsMap_keys_online`): a login adds the key, a logout
removes it, and the timer refreshes only keys that are present. So a login and
the logout that follows leave the online list and the cache as they found them
(`logout_after_login_restores_session`).

Two more hold along every run of events from any state, `ServerEvent.run` on a
list of events or `ServerStep` repeated. Whichever database calls fail,
`pveTribesList` never names a tribe that `PVE_Tribes` does not mark protected
(`pveTribesList_backed_along_runs`); a failed reload can only drop tribes. And
only an open tick of the update timer writes `next_player_update`, so two open
ticks are more than `PlayerUpdateIntervalInMins` minutes less one second apart
(`updateTimer_opens_apart`), the same whole-second resolution as the message
throttle.
-/

namespace NewPlayerProtection

/-! ## Online steam ids -/

namespace TimerProt

variable (tp : TimerProt)

theorem mem_onlineSteamIds_addOnlinePlayer (steamId teamId : Nat) (now : Int) (x : Nat) :
    x ∈ (tp.addOnlinePlayer steamId teamId now).onlinePlayers.map (·.steamId) ↔
      x = steamId ∨ x ∈ tp.onlinePlayers.map (·.steamId) := by
  unfold addOnlinePlayer
  split
  · rename_i online
    have : steamId ∈ tp.onlinePlayers.map (·.steamId) := by simpa using online
    exact ⟨.inr, fun mem => mem.elim (· ▸ this) id⟩
  · split <;> simp [or_comm, eq_comm]

theorem mem_onlineSteamIds_handleNewPlayer (steamId teamId : Nat) (now : Int) (x : Nat) :
    x ∈ (tp.handleNewPlayer steamId teamId now).onlinePlayers.map (·.steamId) ↔
      x = steamId ∨ x ∈ tp.onlinePlayers.map (·.steamId) := by
  unfold handleNewPlayer
  dsimp only
  split <;> simp only [mem_onlineSteamIds_addOnlinePlayer, addNewPlayer_onlinePlayers]

theorem onlineSteamIds_removePlayer (steamId : Nat) :
    (tp.removePlayer steamId).onlinePlayers.map (·.steamId) =
      (tp.onlinePlayers.map (·.steamId)).erase steamId := by
  rw [List.erase_eq_eraseP', List.eraseP_map]
  rfl

theorem onlineSteamIds_isNextMessageReady (interval : Int) (steamId : Nat) (now : Int) :
    (tp.isNextMessageReady interval steamId now).2.onlinePlayers.map (·.steamId) =
      tp.onlinePlayers.map (·.steamId) := by
  unfold isNextMessageReady
  split
  · rfl
  · split
    · exact map_modifyFirst _ _ _ (fun _ => by rfl) _
    · rfl

end TimerProt

/-- Updates that keep the online entries' steam ids and next message times keep
their steam ids. -/
theorem onlineSteamIds_of_messageKeys {tp tp' : TimerProt}
    (same : tp'.onlinePlayers.map (·.messageKey) = tp.onlinePlayers.map (·.messageKey)) :
    tp'.onlinePlayers.map (·.steamId) = tp.onlinePlayers.map (·.steamId) := by
  simpa [Function.comp_def, OnlinePlayersData.messageKey] using congrArg (List.map Prod.fst) same

/-! ## What each event does -/

/-- `UpdateTimer`'s loop keeps the keys of the cache and, on the player lists, is
`UpdateLevelAndTribe` on every position. -/
theorem foldl_updateTimerEntry (tick : Tick) (positions : List Nat) (st : ServerState) :
    (positions.foldl (updateTimerEntry tick) st).timerProt =
        positions.foldl (fun tp j => tp.updateLevelAndTribe tick.stats j) st.timerProt ∧
      ∀ s, ((positions.foldl (updateTimerEntry tick) st).permissionsMap s).isSome =
        (st.permissionsMap s).isSome := by
  induction positions generalizing st with
  | nil => exact ⟨rfl, fun _ => rfl⟩
  | cons j rest ih =>
      obtain ⟨timer, cache⟩ := ih (updateTimerEntry tick st j)
      have entryTimer : (updateTimerEntry tick st j).timerProt =
          st.timerProt.updateLevelAndTribe tick.stats j := by
        unfold updateTimerEntry
        dsimp only
        split <;> rfl
      refine ⟨by rw [List.foldl_cons, timer, entryTimer]; rfl, fun s => ?_⟩
      rw [List.foldl_cons, cache]
      unfold updateTimerEntry
      dsimp only
      split
      · rfl
      · next data _ =>
        dsimp only
        split_ifs with cached
        · by_cases same : s = data.steamId
          · subst same
            simp [cached]
          · simp [same]
        · rfl

/-- A tick of `UpdateTimer` changes nothing while its gate is closed; otherwise
it keeps the keys of the cache and is the operation `TrackerOp.updateTimer` on
the player lists, under the refreshed cache. -/
theorem updateTimer_cases (cfg : Config) (tick : Tick) (st : ServerState) :
    let st' := updateTimer cfg tick st
    (st'.timerProt = st.timerProt ∧ st'.permissionsMap = st.permissionsMap) ∨
      ((∀ s, (st'.permissionsMap s).isSome = (st.permissionsMap s).isSome) ∧
        st'.timerProt = (TrackerOp.updateTimer tick.stats tick.now).apply cfg
          (isAdmin cfg st'.permissionsMap) st.timerProt) := by
  unfold updateTimer
  split
  · obtain ⟨timer, cache⟩ := foldl_updateTimerEntry tick (List.range st.timerProt.onlinePlayers.length)
      { st with nextPlayerUpdate := tick.now + minutes cfg.playerUpdateIntervalInMins }
    exact .inr ⟨cache, by simp only [timer, TrackerOp.apply, TimerProt.updateLevelsAndTribes]⟩
  · exact .inl ⟨rfl, rfl⟩

@[simp]
theorem blockNotifying_timerProt (cfg : Config) (env : DamageEnv) (tp : TimerProt)
    (steamId : Nat) (message : Notification) :
    (blockNotifying cfg env tp steamId message).timerProt =
      (tp.isNextMessageReady cfg.messageIntervalInSecs steamId env.now).2 := rfl

/-- A property that `IsNextMessageReady` keeps holds after the notification loop. -/
theorem notifyTribemates_induction (cfg : Config) (env : DamageEnv) (attacking : Nat)
    (P : TimerProt → Prop)
    (step : ∀ tp steamId, P tp → P (tp.isNextMessageReady cfg.messageIntervalInSecs steamId env.now).2) :
    ∀ (l : List OnlinePlayersData) (tp : TimerProt), P tp → P (notifyTribemates cfg env attacking l tp).1
  | [], _, holds => holds
  | onlineData :: rest, tp, holds => by
      unfold notifyTribemates
      split
      · exact notifyTribemates_induction cfg env attacking P step rest _ (step _ _ holds)
      · exact notifyTribemates_induction cfg env attacking P step rest tp holds

/-- The structure damage hook changes the player lists only through
`IsNextMessageReady`: not at all, by one call, or by the notification loop. -/
theorem hookAPrimalStructureTakeDamage_timerProt (cfg : Config) (env : DamageEnv)
    (st : ServerState) (this : Option Structure) (eventInstigator damageCauser : Option Actor) :
    let tp := (hookAPrimalStructureTakeDamage cfg env st this eventInstigator damageCauser).timerProt
    tp = st.timerProt ∨
      (∃ steamId, tp = (st.timerProt.isNextMessageReady cfg.messageIntervalInSecs steamId env.now).2) ∨
      ∃ attacking, tp = (notifyTribemates cfg env attacking st.timerProt.onlinePlayers st.timerProt).1 := by
  rcases hookAPrimalStructureTakeDamage_effects cfg env st this eventInstigator damageCauser with
    ⟨same, -⟩ | ⟨steamId, message, block⟩ | ⟨attacking, loop⟩
  · exact .inl same
  · exact .inr (.inl ⟨steamId, by rw [block, blockNotifying_timerProt]⟩)
  · exact .inr (.inr ⟨attacking, congrArg Prod.fst loop⟩)

/-- A property that `IsNextMessageReady` keeps holds after the structure damage
hook. -/
theorem hookAPrimalStructureTakeDamage_induction (cfg : Config) (env : DamageEnv)
    (st : ServerState) (this : Option Structure) (eventInstigator damageCauser : Option Actor)
    (P : TimerProt → Prop)
    (step : ∀ tp steamId, P tp → P (tp.isNextMessageReady cfg.messageIntervalInSecs steamId env.now).2)
    (holds : P st.timerProt) :
    P (hookAPrimalStructureTakeDamage cfg env st this eventInstigator damageCauser).timerProt := by
  rcases hookAPrimalStructureTakeDamage_timerProt cfg env st this eventInstigator damageCauser with
    same | ⟨steamId, once⟩ | ⟨attacking, loop⟩
  · rw [same]
    exact holds
  · rw [once]
    exact step _ _ holds
  · rw [loop]
    exact notifyTribemates_induction cfg env attacking P step _ _ holds

/-- A world save that completes changes only the PVE store. -/
theorem hookAShooterGameModeSaveWorld_frame {faults : SaveWorldFaults} {st st' : ServerState}
    (saved : hookAShooterGameModeSaveWorld faults st = some st') :
    st'.timerProt = st.timerProt ∧ st'.permissionsMap = st.permissionsMap := by
  rw [hookAShooterGameModeSaveWorld_only_pve saved]
  exact ⟨rfl, rfl⟩

/-! ## Runs of the server -/

/-- An event that reaches the plugin. -/
inductive ServerEvent where
  | addPlayerFromDB (steamId tribeId : Nat) (startDateTime lastLoginDateTime level isNewPlayer : Int)
  | handleNewPlayer (login : Login)
  | logout (steamId : Nat)
  | updateTimer (tick : Tick)
  | takeDamage (env : DamageEnv) (this : Option Structure) (eventInstigator damageCauser : Option Actor)
  | saveWorld (faults : SaveWorldFaults)

/-- The plugin's state after an event; `none` when the event's code has undefined
behaviour. -/
def ServerEvent.apply (cfg : Config) : ServerEvent → ServerState → Option ServerState
  | .addPlayerFromDB steamId tribeId start lastLogin level isNewPlayer, st =>
      some { st with
        timerProt := st.timerProt.addPlayerFromDB steamId tribeId start lastLogin level isNewPlayer }
  | .handleNewPlayer login, st => some (hookAShooterGameModeHandleNewPlayer login st)
  | .logout steamId, st => some (hookAShooterGameModeLogout steamId st)
  | .updateTimer tick, st => some (NewPlayerProtection.updateTimer cfg tick st)
  | .takeDamage env this eventInstigator damageCauser, st =>
      some { st with
        timerProt := (hookAPrimalStructureTakeDamage cfg env st this eventInstigator damageCauser).timerProt }
  | .saveWorld faults, st => hookAShooterGameModeSaveWorld faults st

/-- The states reached from the plugin's load by a sequence of events. -/
inductive Reachable (cfg : Config) : ServerState → Prop
  | initial (pve : PveStore) (nextPlayerUpdate : Int) :
      Reachable cfg (ServerState.initial pve nextPlayerUpdate)
  | step {st st' : ServerState} (event : ServerEvent) :
      Reachable cfg st → event.apply cfg st = some st' → Reachable cfg st'

/-- The state after a sequence of events; `none` once an event has undefined
behaviour. -/
def ServerEvent.run (cfg : Config) : List ServerEvent → ServerState → Option ServerState
  | [], st => some st
  | event :: rest, st => (event.apply cfg st).bind (run cfg rest)

theorem TrackerOp.run_append (cfg : Config) (ops ops' : List ((Nat → Bool) × TrackerOp))
    (tp : TimerProt) : TrackerOp.run cfg (ops ++ ops') tp = TrackerOp.run cfg ops' (TrackerOp.run cfg ops tp) := by
  induction ops generalizing tp with
  | nil => rfl
  | cons op rest ih => exact ih _

/-- Each event acts on the player lists as a run of tracker operations, each under
the admin predicate of the cache in force. -/
theorem ServerEvent.timerProt_run (cfg : Config) {st st' : ServerState} (event : ServerEvent)
    (applied : event.apply cfg st = some st') :
    ∃ ops, st'.timerProt = TrackerOp.run cfg ops st.timerProt := by
  let admin := isAdmin cfg st.permissionsMap
  cases event with
  | addPlayerFromDB steamId tribeId start lastLogin level isNewPlayer =>
      cases applied
      exact ⟨[(admin, .addPlayerFromDB steamId tribeId start lastLogin level isNewPlayer)], rfl⟩
  | handleNewPlayer login =>
      cases applied
      exact ⟨[(admin, .handleNewPlayer login.steamId login.teamId login.now)], rfl⟩
  | logout steamId =>
      cases applied
      exact ⟨[(admin, .logout steamId)], rfl⟩
  | updateTimer tick =>
      cases applied
      rcases updateTimer_cases cfg tick st with ⟨closed, -⟩ | ⟨-, ticked⟩
      · exact ⟨[], closed⟩
      · exact ⟨[(isAdmin cfg (NewPlayerProtection.updateTimer cfg tick st).permissionsMap,
          .updateTimer tick.stats tick.now)], ticked⟩
  | takeDamage env this eventInstigator damageCauser =>
      cases applied
      refine hookAPrimalStructureTakeDamage_induction cfg env st this eventInstigator damageCauser
        (fun tp => ∃ ops, tp = TrackerOp.run cfg ops st.timerProt) ?_ ⟨[], rfl⟩
      rintro tp steamId ⟨ops, ran⟩
      exact ⟨ops ++ [(admin, .isNextMessageReady steamId env.now)], by
        rw [TrackerOp.run_append, ← ran]
        rfl⟩
  | saveWorld faults => exact ⟨[], (hookAShooterGameModeSaveWorld_frame applied).1⟩

/-- The player lists of every reachable state are those of a run of tracker
operations from empty lists. -/
theorem Reachable.exists_run {cfg : Config} {st : ServerState} (reach : Reachable cfg st) :
    ∃ ops, st.timerProt = TrackerOp.run cfg ops TimerProt.empty := by
  induction reach with
  | initial => exact ⟨[], rfl⟩
  | step event _ applied ih =>
      obtain ⟨ops, ran⟩ := ih
      obtain ⟨ops', ran'⟩ := event.timerProt_run cfg applied
      exact ⟨ops ++ ops', by rw [ran', ran, TrackerOp.run_append]⟩

/-- A login of steam id 7 is a run of one tracker operation. -/
theorem exists_run_after_login :
    let cfg : Config := ⟨true, "NPPAdmins", 72, 60, false, false, false, 60, 5, []⟩
    let st := hookAShooterGameModeHandleNewPlayer ⟨7, 0, 0, 200000, ["NPPAdmins"]⟩
      (ServerState.initial ⟨⟨[], []⟩, [], []⟩ 0)
    Reachable cfg st ∧ ∃ ops, st.timerProt = TrackerOp.run cfg ops TimerProt.empty := by
  intro cfg st
  have reach : Reachable cfg st := .step (.handleNewPlayer _) (.initial _ _) rfl
  exact ⟨reach, reach.exists_run⟩

/-- In every reachable state the player lists satisfy the mirror invariant. -/
theorem Reachable.mirrored {cfg : Config} {st : ServerState} (reach : Reachable cfg st) :
    st.timerProt.Mirrored := by
  obtain ⟨ops, ran⟩ := reach.exists_run
  rw [ran]
  exact TimerProt.mirrored_empty.run cfg ops

/-- The state after a login of steam id 7 satisfies the mirror invariant. -/
theorem mirrored_after_login :
    let cfg : Config := ⟨true, "NPPAdmins", 72, 60, false, false, false, 60, 5, []⟩
    let st := hookAShooterGameModeHandleNewPlayer ⟨7, 0, 0, 200000, ["NPPAdmins"]⟩
      (ServerState.initial ⟨⟨[], []⟩, [], []⟩ 0)
    Reachable cfg st ∧ st.timerProt.Mirrored :=
  have reach := Reachable.step (.handleNewPlayer _) (.initial _ _) rfl
  ⟨reach, Reachable.mirrored reach⟩

/-! ## The permissions cache -/

/-- The permissions cache has a key for exactly the online players. -/
structure ServerState.CacheCoherent (st : ServerState) : Prop where
  keys : ∀ s, (st.permissionsMap s).isSome ↔ s ∈ st.timerProt.onlinePlayers.map (·.steamId)

/-- Every event keeps the cache coherent with the online list. A logout relies on
steam ids being unique online: it removes the first entry only. -/
theorem ServerEvent.cacheCoherent (cfg : Config) {st st' : ServerState} (event : ServerEvent)
    (inv : st.timerProt.Mirrored) (coherent : st.CacheCoherent)
    (applied : event.apply cfg st = some st') : st'.CacheCoherent := by
  cases event with
  | addPlayerFromDB =>
      cases applied
      exact ⟨fun s => by simpa using coherent.keys s⟩
  | handleNewPlayer login =>
      cases applied
      refine ⟨fun s => ?_⟩
      simp only [hookAShooterGameModeHandleNewPlayer, TimerProt.mem_onlineSteamIds_handleNewPlayer,
        Function.update_apply]
      split_ifs with same <;> simp [same, coherent.keys s]
  | logout steamId =>
      cases applied
      refine ⟨fun s => ?_⟩
      simp only [hookAShooterGameModeLogout, TimerProt.onlineSteamIds_removePlayer,
        inv.onlineNodup.mem_erase_iff, Function.update_apply]
      split_ifs with same <;> simp [same, coherent.keys s]
  | updateTimer tick =>
      cases applied
      refine ⟨fun s => ?_⟩
      rcases updateTimer_cases cfg tick st with ⟨timer, cache⟩ | ⟨cache, timer⟩
      · rw [timer, cache]
        exact coherent.keys s
      · rw [cache, timer, TrackerOp.apply, onlineSteamIds_of_messageKeys
          ((messageKeys_removeExpiredTribesProtection _ _ _ _).trans
            (TimerProt.messageKeys_updateLevelsAndTribes _ _))]
        exact coherent.keys s
  | takeDamage env this eventInstigator damageCauser =>
      cases applied
      refine ⟨fun s => ?_⟩
      have same := hookAPrimalStructureTakeDamage_induction cfg env st this eventInstigator
        damageCauser (fun tp => tp.onlinePlayers.map (·.steamId) = st.timerProt.onlinePlayers.map (·.steamId))
        (fun tp _ kept => (tp.onlineSteamIds_isNextMessageReady _ _ _).trans kept) rfl
      dsimp only at same ⊢
      rw [same]
      exact coherent.keys s
  | saveWorld faults =>
      obtain ⟨timer, cache⟩ := hookAShooterGameModeSaveWorld_frame applied
      exact ⟨fun s => by rw [timer, cache]; exact coherent.keys s⟩

theorem Reachable.cacheCoherent {cfg : Config} {st : ServerState} (reach : Reachable cfg st) :
    st.CacheCoherent := by
  induction reach with
  | initial => exact ⟨fun s => by simp [ServerState.initial, TimerProt.empty]⟩
  | step event reach applied coherent => exact event.cacheCoherent cfg reach.mirrored coherent applied

/-- In every state the plugin reaches, the permissions cache has a key for exactly
the steam ids of `online_players_`, so `IsAdmin` is false for every steam id
without an online entry. -/
theorem permissionsMap_keys_online (cfg : Config) {st : ServerState} (reach : Reachable cfg st) :
    (∀ s, (st.permissionsMap s).isSome ↔ s ∈ st.timerProt.onlinePlayers.map (·.steamId)) ∧
      ∀ s, s ∉ st.timerProt.onlinePlayers.map (·.steamId) → isAdmin cfg st.permissionsMap s = false :=
  ⟨reach.cacheCoherent.keys, fun s offline => isAdmin_of_not_cached
    (Option.not_isSome_iff_eq_none.mp fun cached => offline ((reach.cacheCoherent.keys s).mp cached))⟩

/-- After one login, of steam id 7, the cache holds exactly that key, and
`IsAdmin` is false for every other steam id. -/
theorem permissionsMap_keys_online_after_login :
    let cfg : Config := ⟨true, "NPPAdmins", 72, 60, false, false, false, 60, 5, []⟩
    let st := hookAShooterGameModeHandleNewPlayer ⟨7, 0, 0, 200000, ["NPPAdmins"]⟩
      (ServerState.initial ⟨⟨[], []⟩, [], []⟩ 0)
    Reachable cfg st ∧
      (∀ s, (st.permissionsMap s).isSome ↔ s ∈ st.timerProt.onlinePlayers.map (·.steamId)) ∧
        ∀ s, s ∉ st.timerProt.onlinePlayers.map (·.steamId) →
          isAdmin cfg st.permissionsMap s = false := by
  intro cfg st
  have reach : Reachable cfg st := .step (.handleNewPlayer _) (.initial _ _) rfl
  exact ⟨reach, permissionsMap_keys_online cfg reach⟩

/-! ## A session -/

/-- `AddOnlinePlayer` for a player who is offline appends one online entry of
their steam id. -/
theorem TimerProt.addOnlinePlayer_of_offline (tp : TimerProt) {steamId : Nat} (teamId : Nat)
    (now : Int) (offline : steamId ∉ tp.onlinePlayers.map (·.steamId)) :
    ∃ o : OnlinePlayersData, o.steamId = steamId ∧
      (tp.addOnlinePlayer steamId teamId now).onlinePlayers = tp.onlinePlayers ++ [o] := by
  unfold TimerProt.addOnlinePlayer
  rw [if_neg (by simpa using offline)]
  split <;> exact ⟨_, rfl, rfl⟩

/-- The online entry a login appends for an offline player is the first of its
steam id, so the logout that follows removes exactly that entry. -/
theorem TimerProt.removePlayer_handleNewPlayer (tp : TimerProt) {steamId : Nat} (teamId : Nat)
    (now : Int) (offline : steamId ∉ tp.onlinePlayers.map (·.steamId)) :
    (tp.handleNewPlayer steamId teamId now).removePlayer steamId =
      ⟨(tp.handleNewPlayer steamId teamId now).allPlayers, tp.onlinePlayers⟩ := by
  unfold TimerProt.handleNewPlayer
  generalize known : (if !tp.isPlayerExists steamId then tp.addNewPlayer steamId teamId now else tp) = tp'
  have sameOnline : tp'.onlinePlayers = tp.onlinePlayers := by
    rw [← known]
    split <;> simp
  obtain ⟨o, same, appended⟩ := tp'.addOnlinePlayer_of_offline teamId now (sameOnline ▸ offline)
  have fresh : ∀ o' ∈ tp.onlinePlayers, ¬(o'.steamId == steamId) = true := fun o' mem found =>
    offline (List.mem_map.mpr ⟨o', mem, by simpa using found⟩)
  rw [TimerProt.removePlayer, appended, sameOnline, List.eraseP_append_right _ fresh]
  simp [same]

/-- A login and then a logout of a player who was offline restore the online list
and the permissions cache of every reachable state: the session leaves behind only
the player's `all_players_` entry, added or with its last login set. -/
theorem logout_after_login_restores_session (cfg : Config) {st : ServerState}
    (reach : Reachable cfg st) (login : Login)
    (offline : login.steamId ∉ st.timerProt.onlinePlayers.map (·.steamId)) :
    hookAShooterGameModeLogout login.steamId (hookAShooterGameModeHandleNewPlayer login st) =
      { st with timerProt :=
        ⟨(st.timerProt.handleNewPlayer login.steamId login.teamId login.now).allPlayers,
          st.timerProt.onlinePlayers⟩ } := by
  have uncached : Function.update st.permissionsMap login.steamId none = st.permissionsMap := by
    rw [← Option.not_isSome_iff_eq_none.mp fun cached =>
      offline ((reach.cacheCoherent.keys _).mp cached)]
    exact Function.update_eq_self _ _
  simp only [hookAShooterGameModeLogout, hookAShooterGameModeHandleNewPlayer, Function.update_idem,
    uncached, st.timerProt.removePlayer_handleNewPlayer login.teamId login.now offline]

/-- Steam id 8 logs in and out after steam id 7 logged in: the online list and the
cache are again those after the first login. -/
theorem logout_after_login_restores_session_second_player :
    let cfg : Config := ⟨true, "NPPAdmins", 72, 60, false, false, false, 60, 5, []⟩
    let st := hookAShooterGameModeHandleNewPlayer ⟨7, 0, 0, 200000, ["NPPAdmins"]⟩
      (ServerState.initial ⟨⟨[], []⟩, [], []⟩ 0)
    let login : Login := ⟨8, seconds 10, 42, 0, []⟩
    Reachable cfg st ∧ login.steamId ∉ st.timerProt.onlinePlayers.map (·.steamId) ∧
      hookAShooterGameModeLogout login.steamId (hookAShooterGameModeHandleNewPlayer login st) =
        { st with timerProt :=
          ⟨(st.timerProt.handleNewPlayer login.steamId login.teamId login.now).allPlayers,
            st.timerProt.onlinePlayers⟩ } := by
  intro cfg st login
  have reach : Reachable cfg st := .step (.handleNewPlayer _) (.initial _ _) rfl
  have offline : login.steamId ∉ st.timerProt.onlinePlayers.map (·.steamId) := by decide
  exact ⟨reach, offline, logout_after_login_restores_session cfg reach login offline⟩

/-! ## The PVE list along runs -/

/-- The update timer's loop writes the player lists and the cache only. -/
theorem foldl_updateTimerEntry_frame (tick : Tick) :
    ∀ (positions : List Nat) (st : ServerState),
      (positions.foldl (updateTimerEntry tick) st).pve = st.pve ∧
        (positions.foldl (updateTimerEntry tick) st).nextPlayerUpdate = st.nextPlayerUpdate
  | [], _ => ⟨rfl, rfl⟩
  | j :: rest, st => by
      rw [List.foldl_cons]
      obtain ⟨pve, next⟩ := foldl_updateTimerEntry_frame tick rest (updateTimerEntry tick st j)
      rw [pve, next]
      unfold updateTimerEntry
      dsimp only
      split <;> exact ⟨rfl, rfl⟩

/-- The update timer leaves the PVE store alone. -/
theorem updateTimer_pve (cfg : Config) (tick : Tick) (st : ServerState) :
    (NewPlayerProtection.updateTimer cfg tick st).pve = st.pve := by
  unfold updateTimer
  split
  · exact (foldl_updateTimerEntry_frame tick _ _).1
  · rfl

/-- Every event keeps `pveTribesList` backed by the table; only a world save
changes the PVE store. -/
theorem ServerEvent.pveBacked (cfg : Config) {st st' : ServerState} (event : ServerEvent)
    (backed : st.pve.Backed) (applied : event.apply cfg st = some st') : st'.pve.Backed := by
  cases event with
  | updateTimer tick =>
      cases applied
      rw [updateTimer_pve]
      exact backed
  | saveWorld faults => exact backed.hookAShooterGameModeSaveWorld applied
  | _ =>
      cases applied
      exact backed

/-- One event of the server, from `st` to `st'`. -/
def ServerStep (cfg : Config) (st st' : ServerState) : Prop :=
  ∃ event : ServerEvent, event.apply cfg st = some st'

/-- From any state whose `pveTribesList` is backed by `PVE_Tribes`, every run of
server events, whichever database calls fail, keeps every tribe of `pveTribesList`
marked protected in the table: a failure can drop tribes from the list, never
leave one there that the table does not protect. -/
theorem pveTribesList_backed_along_runs (cfg : Config) {st st' : ServerState}
    (run : Relation.ReflTransGen (ServerStep cfg) st st') (backed : st.pve.Backed) :
    st'.pve.Backed := by
  induction run with
  | refl => exact backed
  | tail _ step backed' =>
      obtain ⟨event, applied⟩ := step
      exact event.pveBacked cfg backed' applied

/-- Three tribes protected, 200003 removed, and a world save whose reload fails
after one row: the list keeps 200001 only, which the table marks protected. -/
theorem pveTribesList_backed_after_failed_reload :
    let cfg : Config := ⟨false, "", 72, 60, false, false, false, 60, 5, []⟩
    let st := ServerState.initial
      ⟨⟨[], [(200001, true), (200002, true), (200003, true)]⟩, [200001, 200002, 200003], [200003]⟩ 0
    let st' := { st with
      pve := ⟨⟨[], [(200001, true), (200002, true), (200003, false)]⟩, [200001], []⟩ }
    Relation.ReflTransGen (ServerStep cfg) st st' ∧ st.pve.Backed ∧ st'.pve.Backed := by
  intro cfg st st'
  have run : Relation.ReflTransGen (ServerStep cfg) st st' :=
    .single ⟨.saveWorld ⟨fun _ => false, fun _ => .none, fun _ => ⟨false, some 1⟩⟩,
      hookAShooterGameModeSaveWorld_of_pve (by decide)⟩
  have backed : st.pve.Backed := by decide
  exact ⟨run, backed, pveTribesList_backed_along_runs cfg run backed⟩

/-! ## The player update timer along runs -/

/-- A tick moves `next_player_update` when its gate is open, to the interval past
the tick. -/
theorem updateTimer_nextPlayerUpdate (cfg : Config) (tick : Tick) (st : ServerState) :
    (NewPlayerProtection.updateTimer cfg tick st).nextPlayerUpdate =
      if durationCastSeconds (st.nextPlayerUpdate - tick.now) ≤ 0 then
        tick.now + minutes cfg.playerUpdateIntervalInMins
      else st.nextPlayerUpdate := by
  unfold updateTimer
  split
  · exact (foldl_updateTimerEntry_frame tick _ _).2
  · rfl

/-- An event keeps `next_player_update` from coming before `bound`, unless it is a
tick more than an interval before `bound`. -/
theorem ServerEvent.nextPlayerUpdate_notBefore (cfg : Config) {st st' : ServerState}
    (event : ServerEvent) {bound : Int} (notBefore : bound ≤ st.nextPlayerUpdate)
    (notEarlier : ∀ tick, event = .updateTimer tick →
      bound ≤ tick.now + minutes cfg.playerUpdateIntervalInMins)
    (applied : event.apply cfg st = some st') : bound ≤ st'.nextPlayerUpdate := by
  cases event with
  | updateTimer tick =>
      cases applied
      rw [updateTimer_nextPlayerUpdate]
      split
      · exact notEarlier tick rfl
      · exact notBefore
  | saveWorld faults =>
      rw [hookAShooterGameModeSaveWorld_only_pve applied]
      exact notBefore
  | _ =>
      cases applied
      exact notBefore

/-- The same along every run of events. -/
theorem ServerEvent.nextPlayerUpdate_notBefore_run (cfg : Config) {bound : Int} :
    ∀ (events : List ServerEvent) (st st' : ServerState), bound ≤ st.nextPlayerUpdate →
      (∀ event ∈ events, ∀ tick, event = .updateTimer tick →
        bound ≤ tick.now + minutes cfg.playerUpdateIntervalInMins) →
      ServerEvent.run cfg events st = some st' → bound ≤ st'.nextPlayerUpdate
  | [], _, _, notBefore, _, ran => by
      cases ran
      exact notBefore
  | event :: rest, st, st', notBefore, notEarlier, ran => by
      obtain ⟨mid, applied, ran⟩ := Option.bind_eq_some.mp ran
      exact nextPlayerUpdate_notBefore_run cfg rest mid st'
        (event.nextPlayerUpdate_notBefore cfg notBefore (notEarlier event (List.mem_cons_self _ _))
          applied)
        (fun event mem => notEarlier event (List.mem_cons_of_mem _ mem)) ran

/-- The players are updated at most once per `PlayerUpdateIntervalInMins` minutes,
at whole-second resolution: across every run of server events with no tick
earlier than the first, two ticks whose gate opens are more than the interval less
one second apart. -/
theorem updateTimer_opens_apart (cfg : Config) (st st' : ServerState) (tick tick' : Tick)
    (events : List ServerEvent)
    (opens : durationCastSeconds (st.nextPlayerUpdate - tick.now) ≤ 0)
    (notEarlier : ∀ event ∈ events, ∀ later, event = .updateTimer later → tick.now ≤ later.now)
    (ran : ServerEvent.run cfg (.updateTimer tick :: events) st = some st')
    (opensAgain : durationCastSeconds (st'.nextPlayerUpdate - tick'.now) ≤ 0) :
    seconds (cfg.playerUpdateIntervalInMins * 60 - 1) < tick'.now - tick.now := by
  obtain ⟨mid, applied, ran⟩ := Option.bind_eq_some.mp ran
  cases applied
  have moved := updateTimer_nextPlayerUpdate cfg tick st
  rw [if_pos opens] at moved
  have notBefore := ServerEvent.nextPlayerUpdate_notBefore_run cfg events _ st' moved.ge
    (fun event mem later same => by
      have := notEarlier event mem later same
      omega) ran
  rw [durationCastSeconds_nonpos_iff] at opensAgain
  simp only [minutes, seconds, ticksPerSecond] at notBefore opensAgain ⊢
  omega

/-- Ticks at 0, 2 and 5 minutes with a 5-minute interval: the gate opens at 0 and
again at 5 minutes, 5 minutes apart. -/
theorem updateTimer_opens_apart_five_minutes :
    let cfg : Config := ⟨false, "", 72, 60, false, false, false, 60, 5, []⟩
    let st := ServerState.initial ⟨⟨[], []⟩, [], []⟩ 0
    let tick₀ : Tick := ⟨0, fun _ => none, fun _ => []⟩
    let tick₂ : Tick := ⟨minutes 2, fun _ => none, fun _ => []⟩
    let tick₅ : Tick := ⟨minutes 5, fun _ => none, fun _ => []⟩
    let st' := NewPlayerProtection.updateTimer cfg tick₂ (NewPlayerProtection.updateTimer cfg tick₀ st)
    durationCastSeconds (st.nextPlayerUpdate - tick₀.now) ≤ 0 ∧
      (∀ event ∈ [ServerEvent.updateTimer tick₂], ∀ later, event = .updateTimer later →
        tick₀.now ≤ later.now) ∧
      ServerEvent.run cfg [.updateTimer tick₀, .updateTimer tick₂] st = some st' ∧
      durationCastSeconds (st'.nextPlayerUpdate - tick₅.now) ≤ 0 ∧
      seconds (cfg.playerUpdateIntervalInMins * 60 - 1) < tick₅.now - tick₀.now := by
  intro cfg st tick₀ tick₂ tick₅ st'
  have notEarlier : ∀ event ∈ [ServerEvent.updateTimer tick₂], ∀ later,
      event = .updateTimer later → tick₀.now ≤ later.now := by
    intro event mem later same
    rw [List.mem_singleton.mp mem] at same
    cases same
    decide
  have ran : ServerEvent.run cfg [.updateTimer tick₀, .updateTimer tick₂] st = some st' := rfl
  exact ⟨by decide, notEarlier, ran, by decide,
    updateTimer_opens_apart cfg st st' tick₀ tick₅ _ (by decide) notEarlier ran (by decide)⟩

end NewPlayerProtection

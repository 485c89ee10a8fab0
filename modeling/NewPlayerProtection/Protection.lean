import NewPlayerProtection.Server

/-!
# Protection as the damage hook reads it

The structure damage hook asks two questions of the plugin's state:
`IsPlayerProtected` of the attacking player and `IsTribeProtected` of the
attacked tribe. This file proves two properties of the answers over whole runs.

At an open tick, `UpdateTimer` refreshes levels, tribes and the cache, then
revokes expired protection. Afterwards protection is settled tribe by tribe
under the refreshed cache (`updateTimer_settles_tribe_protection`). Either every
non-admin member of a tribe lost protection, or every one kept it with a whole
second of protection left and a level below `MaxLevel`. The time left is the
code's `long long` value `startDateTime - expireTime`, which wraps where
`HoursOfProtection` is beyond 256,204,778 hours either way.

The two queries agree (`protected_player_tribe_protected`). When
`IsPlayerProtected` holds for a player, their tribe is protected if its id is
above 100000. This holds in every state the plugin reaches from its load, as
long as the database rows it reads carry flag 0 or 1, the only values the
plugin writes. The condition is needed because the two queries read the flag
differently. `IsPlayerProtected` returns the flag as a `bool`, so any nonzero
value counts. `IsTribeProtected` tests `isNewPlayer == 1`.
-/

namespace NewPlayerProtection

/-! ## Tribes after an open tick -/

/-- An open tick of `UpdateTimer` acts on the player lists as
`UpdateLevelAndTribe` on every online entry, then the expiry pass under the
refreshed cache. -/
theorem updateTimer_timerProt_of_opens (cfg : Config) (tick : Tick) (st : ServerState)
    (opens : durationCastSeconds (st.nextPlayerUpdate - tick.now) ≤ 0) :
    (updateTimer cfg tick st).timerProt =
      removeExpiredTribesProtection cfg (isAdmin cfg (updateTimer cfg tick st).permissionsMap)
        tick.now (st.timerProt.updateLevelsAndTribes tick.stats) := by
  obtain ⟨timer, -⟩ := foldl_updateTimerEntry tick (List.range st.timerProt.onlinePlayers.length)
    { st with nextPlayerUpdate := tick.now + minutes cfg.playerUpdateIntervalInMins }
  simp only [updateTimer, if_pos opens, timer]
  rfl

/-- After every open tick of `UpdateTimer` from a reachable state, protection is
settled tribe by tribe under the refreshed cache. When one non-admin
`all_players_` entry of a tribe is still protected, every non-admin entry of
the tribe, in both lists, is still protected. Each such `all_players_` entry
then has at least a whole second of its protection period left, as the code
computes it in `long long` ticks, and a level below `MaxLevel`. -/
theorem updateTimer_settles_tribe_protection (cfg : Config) {st : ServerState}
    (reach : Reachable cfg st) (tick : Tick)
    (opens : durationCastSeconds (st.nextPlayerUpdate - tick.now) ≤ 0) :
    let st' := updateTimer cfg tick st
    let admin := isAdmin cfg st'.permissionsMap
    ∀ a ∈ st'.timerProt.allPlayers, admin a.steamId = false → a.isNewPlayer ≠ 0 →
      (∀ b ∈ st'.timerProt.allPlayers, admin b.steamId = false → b.tribeId = a.tribeId →
          b.isNewPlayer ≠ 0 ∧
            0 < durationCastSeconds (toLongLong (b.startDateTime - expireTime cfg tick.now)) ∧
            b.level < cfg.maxLevel) ∧
        ∀ o ∈ st'.timerProt.onlinePlayers, admin o.steamId = false → o.tribeId = a.tribeId →
          o.isNewPlayer ≠ 0 := by
  intro st' admin a aMem adminA stillProtected
  rw [updateTimer_timerProt_of_opens cfg tick st opens] at aMem ⊢
  obtain ⟨running, online⟩ := removeExpiredTribesProtection_settled cfg admin tick.now
    (reach.mirrored.updateLevelsAndTribes tick.stats) aMem adminA stillProtected
  exact ⟨fun b bMem adminB same => (protectionEnded_eq_false_iff cfg tick.now b).mp
    (running b bMem adminB same), online⟩

/-- Player 1 of tribe 200000 logs in at time 0 and player 2 of the same tribe 90
hours later; at 100 hours the timer's gate is open. -/
theorem updateTimer_settles_tribe_protection_two_logins :
    let cfg : Config := ⟨false, "", 72, 60, false, false, false, 60, 5, []⟩
    let st := hookAShooterGameModeHandleNewPlayer ⟨2, hours 90, 0, 200000, []⟩
      (hookAShooterGameModeHandleNewPlayer ⟨1, 0, 0, 200000, []⟩
        (ServerState.initial ⟨⟨[], []⟩, [], []⟩ 0))
    let tick : Tick := ⟨hours 100, fun _ => none, fun _ => []⟩
    Reachable cfg st ∧ durationCastSeconds (st.nextPlayerUpdate - tick.now) ≤ 0 ∧
      let st' := updateTimer cfg tick st
      let admin := isAdmin cfg st'.permissionsMap
      ∀ a ∈ st'.timerProt.allPlayers, admin a.steamId = false → a.isNewPlayer ≠ 0 →
        (∀ b ∈ st'.timerProt.allPlayers, admin b.steamId = false → b.tribeId = a.tribeId →
            b.isNewPlayer ≠ 0 ∧
              0 < durationCastSeconds (toLongLong (b.startDateTime - expireTime cfg tick.now)) ∧
              b.level < cfg.maxLevel) ∧
          ∀ o ∈ st'.timerProt.onlinePlayers, admin o.steamId = false → o.tribeId = a.tribeId →
            o.isNewPlayer ≠ 0 := by
  intro cfg st tick
  have reach : Reachable cfg st :=
    .step (.handleNewPlayer _) (.step (.handleNewPlayer _) (.initial _ _) rfl) rfl
  have opens : durationCastSeconds (st.nextPlayerUpdate - tick.now) ≤ 0 := by decide
  exact ⟨reach, opens, updateTimer_settles_tribe_protection cfg reach tick opens⟩

/-! ## Protection flags are 0 or 1 -/

/-- Every protection flag of `all_players_` is 0 or 1, the two values the plugin
writes. -/
def TimerProt.FlagsBinary (tp : TimerProt) : Prop :=
  ∀ a ∈ tp.allPlayers, a.isNewPlayer = 0 ∨ a.isNewPlayer = 1

instance (tp : TimerProt) : Decidable tp.FlagsBinary :=
  inferInstanceAs (Decidable (∀ a ∈ tp.allPlayers, a.isNewPlayer = 0 ∨ a.isNewPlayer = 1))

namespace TimerProt.FlagsBinary

variable {tp : TimerProt} (flags : tp.FlagsBinary)
include flags

theorem addPlayerFromDB (steamId tribeId : Nat) (startDateTime lastLoginDateTime level : Int)
    {isNewPlayer : Int} (flag : isNewPlayer = 0 ∨ isNewPlayer = 1) :
    (tp.addPlayerFromDB steamId tribeId startDateTime lastLoginDateTime level
      isNewPlayer).FlagsBinary := by
  unfold TimerProt.addPlayerFromDB
  split
  · exact flags
  · intro a mem
    rcases List.mem_append.mp mem with old | new
    · exact flags a old
    · rw [List.mem_singleton.mp new]
      exact flag

/-- An update of the first match that keeps the flag keeps the flags. -/
theorem modifyFirst (p : AllPlayerData → Bool) (f : AllPlayerData → AllPlayerData)
    (keep : ∀ a, (f a).isNewPlayer = a.isNewPlayer) :
    ∀ b ∈ NewPlayerProtection.modifyFirst p f tp.allPlayers, b.isNewPlayer = 0 ∨ b.isNewPlayer = 1 :=
  fun b mem => by
    rcases mem_modifyFirst p f mem with old | ⟨a, aMem, -, rfl⟩
    · exact flags b old
    · rw [keep]
      exact flags a aMem

theorem addOnlinePlayer (steamId teamId : Nat) (now : Int) :
    (tp.addOnlinePlayer steamId teamId now).FlagsBinary := by
  unfold TimerProt.addOnlinePlayer
  split
  · exact flags
  · split
    · exact flags.modifyFirst _ _ fun _ => rfl
    · exact flags

theorem handleNewPlayer (steamId teamId : Nat) (now : Int) :
    (tp.handleNewPlayer steamId teamId now).FlagsBinary := by
  unfold TimerProt.handleNewPlayer
  dsimp only
  split
  · exact (flags.addPlayerFromDB _ _ _ _ _ (.inr rfl)).addOnlinePlayer _ _ _
  · exact flags.addOnlinePlayer _ _ _

theorem isNextMessageReady (interval : Int) (steamId : Nat) (now : Int) :
    (tp.isNextMessageReady interval steamId now).2.FlagsBinary := by
  unfold TimerProt.isNextMessageReady
  split
  · exact flags
  · split <;> exact flags

theorem updateLevelAndTribe (stats : Nat → Option PlayerState) (j : Nat) :
    (tp.updateLevelAndTribe stats j).FlagsBinary := by
  unfold TimerProt.updateLevelAndTribe
  split
  · exact flags
  · split
    · exact flags
    · exact flags.modifyFirst _ _ fun _ => rfl

theorem updateLevelsAndTribes (stats : Nat → Option PlayerState) :
    (tp.updateLevelsAndTribes stats).FlagsBinary := by
  unfold TimerProt.updateLevelsAndTribes
  generalize List.range tp.onlinePlayers.length = positions
  induction positions generalizing tp with
  | nil => exact flags
  | cons j rest ih => exact ih (flags.updateLevelAndTribe stats j)

/-- The expiry pass only clears flags. -/
theorem removeExpiredTribesProtection (inv : tp.Mirrored) (cfg : Config) (admin : Nat → Bool)
    (now : Int) : (NewPlayerProtection.removeExpiredTribesProtection cfg admin now tp).FlagsBinary := by
  rw [removeExpiredTribesProtection_eq_revokedBy inv]
  intro b mem
  obtain ⟨a, aMem, rfl⟩ := List.mem_map.mp mem
  unfold AllPlayerData.revoke
  split
  · exact .inl rfl
  · exact flags a aMem

end TimerProt.FlagsBinary

/-- An event keeps the flags 0 or 1, unless it reads a database row with another
flag. -/
theorem ServerEvent.flagsBinary (cfg : Config) {st st' : ServerState} (event : ServerEvent)
    (inv : st.timerProt.Mirrored) (flags : st.timerProt.FlagsBinary)
    (dbFlag : ∀ steamId tribeId start lastLogin level isNewPlayer,
      event = .addPlayerFromDB steamId tribeId start lastLogin level isNewPlayer →
        isNewPlayer = 0 ∨ isNewPlayer = 1)
    (applied : event.apply cfg st = some st') : st'.timerProt.FlagsBinary := by
  cases event with
  | addPlayerFromDB steamId tribeId start lastLogin level isNewPlayer =>
      cases applied
      exact flags.addPlayerFromDB _ _ _ _ _ (dbFlag _ _ _ _ _ _ rfl)
  | handleNewPlayer login =>
      cases applied
      exact flags.handleNewPlayer _ _ _
  | logout steamId =>
      cases applied
      exact flags
  | updateTimer tick =>
      cases applied
      rcases updateTimer_cases cfg tick st with ⟨closed, -⟩ | ⟨-, ticked⟩
      · rw [closed]
        exact flags
      · rw [ticked]
        exact (flags.updateLevelsAndTribes _).removeExpiredTribesProtection
          (inv.updateLevelsAndTribes _) _ _ _
  | takeDamage env this eventInstigator damageCauser =>
      cases applied
      exact hookAPrimalStructureTakeDamage_induction cfg env st this eventInstigator damageCauser
        TimerProt.FlagsBinary (fun _ _ flags => flags.isNextMessageReady _ _ _) flags
  | saveWorld faults =>
      rw [(hookAShooterGameModeSaveWorld_frame applied).1]
      exact flags

/-- Along a run of events whose database rows carry flag 0 or 1, a reachable
state stays reachable with flags 0 or 1. -/
theorem ServerEvent.flagsBinary_run (cfg : Config) :
    ∀ (events : List ServerEvent) {st st' : ServerState}, Reachable cfg st →
      st.timerProt.FlagsBinary →
      (∀ event ∈ events, ∀ steamId tribeId start lastLogin level isNewPlayer,
        event = .addPlayerFromDB steamId tribeId start lastLogin level isNewPlayer →
          isNewPlayer = 0 ∨ isNewPlayer = 1) →
      ServerEvent.run cfg events st = some st' → Reachable cfg st' ∧ st'.timerProt.FlagsBinary
  | [], _, _, reach, flags, _, ran => by
      cases ran
      exact ⟨reach, flags⟩
  | event :: rest, st, _, reach, flags, dbFlags, ran => by
      obtain ⟨mid, applied, ran⟩ := Option.bind_eq_some.mp ran
      exact flagsBinary_run cfg rest (.step event reach applied)
        (event.flagsBinary cfg reach.mirrored flags (dbFlags event (List.mem_cons_self _ _)) applied)
        (fun event mem => dbFlags event (List.mem_cons_of_mem _ mem)) ran

/-! ## The player's and the tribe's protection agree -/

/-- `IsPlayerProtected` holds only for a steam id that is no admin's and has an
online entry with its flag set. -/
theorem exists_of_isPlayerProtected {admin : Nat → Bool} {steamId : Nat} :
    ∀ {onlinePlayers : List OnlinePlayersData}, isPlayerProtected admin onlinePlayers steamId = true →
      ∃ o ∈ onlinePlayers, o.steamId = steamId ∧ admin steamId = false ∧ o.isNewPlayer ≠ 0
  | [], isProtected => by simp [isPlayerProtected] at isProtected
  | data :: rest, isProtected => by
      unfold isPlayerProtected at isProtected
      split at isProtected
      · next found =>
        obtain ⟨same, notAdmin⟩ := Bool.and_eq_true_iff.mp found
        rw [beq_iff_eq] at same
        subst same
        exact ⟨data, List.mem_cons_self _ _, rfl, by simpa using notAdmin,
          by simpa using isProtected⟩
      · obtain ⟨o, mem, rest⟩ := exists_of_isPlayerProtected isProtected
        exact ⟨o, List.mem_cons_of_mem _ mem, rest⟩

/-- A tribe above 100000 with a protected member who is no admin is protected,
whatever `IsTribeProtected`'s admin path yields. -/
theorem isTribeProtected_of_member {admin : Nat → Bool} (adminPath : Nat → AllPlayerData → Bool)
    (pveTribesList : List Nat) {allPlayers : List AllPlayerData} {e : AllPlayerData}
    (mem : e ∈ allPlayers) (adminE : admin e.steamId = false) (flag : e.isNewPlayer = 1)
    (high : e.tribeId > 100000) :
    isTribeProtected admin adminPath pveTribesList allPlayers e.tribeId = true := by
  unfold isTribeProtected
  rw [if_pos high]
  split
  · exact List.any_eq_true.mpr ⟨e, mem, by simp [tribeMemberProtected, adminE, flag]⟩
  · rfl

/-- The two queries of the damage hook agree along every run from the plugin's
load in which the database rows read carry flag 0 or 1. When `IsPlayerProtected`
holds for a steam id, the player's online entry belongs to a tribe that, if its
id is above 100000, `IsTribeProtected` finds protected, whatever the admin path
yields. -/
theorem protected_player_tribe_protected (cfg : Config) (pve : PveStore) (nextPlayerUpdate : Int)
    (events : List ServerEvent) {st : ServerState}
    (ran : ServerEvent.run cfg events (ServerState.initial pve nextPlayerUpdate) = some st)
    (dbFlags : ∀ event ∈ events, ∀ steamId tribeId start lastLogin level isNewPlayer,
      event = .addPlayerFromDB steamId tribeId start lastLogin level isNewPlayer →
        isNewPlayer = 0 ∨ isNewPlayer = 1)
    (adminPath : Nat → AllPlayerData → Bool) (steamId : Nat)
    (playerProtected :
      isPlayerProtected (isAdmin cfg st.permissionsMap) st.timerProt.onlinePlayers steamId = true) :
    ∃ o ∈ st.timerProt.onlinePlayers, o.steamId = steamId ∧
      (o.tribeId > 100000 →
        isTribeProtected (isAdmin cfg st.permissionsMap) adminPath st.pve.pveTribesList
          st.timerProt.allPlayers o.tribeId = true) := by
  obtain ⟨reach, flags⟩ := ServerEvent.flagsBinary_run cfg events (.initial pve nextPlayerUpdate)
    (fun _ mem => absurd mem (List.not_mem_nil _)) dbFlags ran
  obtain ⟨o, oMem, rfl, notAdmin, set⟩ := exists_of_isPlayerProtected playerProtected
  obtain ⟨a, aMem, m⟩ := reach.mirrored.mirrored o oMem
  -- the player's `all_players_` entry carries the same tribe and a flag 0 or 1, so 1
  have flag : a.isNewPlayer = 1 := (flags a aMem).resolve_left (m.isNewPlayer ▸ set)
  refine ⟨o, oMem, rfl, fun high => ?_⟩
  rw [← m.tribeId]
  exact isTribeProtected_of_member adminPath _ aMem (m.steamId ▸ notAdmin) flag (m.tribeId ▸ high)

/-- A database row of player 9, unprotected, then a login of player 7 into tribe
200000: player 7 is protected, and so is their tribe. -/
theorem protected_player_tribe_protected_after_login :
    let cfg : Config := ⟨false, "", 72, 60, false, false, false, 60, 5, []⟩
    let events : List ServerEvent :=
      [.addPlayerFromDB 9 200001 0 0 5 0, .handleNewPlayer ⟨7, 0, 0, 200000, []⟩]
    let st : ServerState := hookAShooterGameModeHandleNewPlayer ⟨7, 0, 0, 200000, []⟩
      { ServerState.initial ⟨⟨[], []⟩, [], []⟩ 0 with
        timerProt := TimerProt.empty.addPlayerFromDB 9 200001 0 0 5 0 }
    ServerEvent.run cfg events (ServerState.initial ⟨⟨[], []⟩, [], []⟩ 0) = some st ∧
      (∀ event ∈ events, ∀ steamId tribeId start lastLogin level isNewPlayer,
        event = .addPlayerFromDB steamId tribeId start lastLogin level isNewPlayer →
          isNewPlayer = 0 ∨ isNewPlayer = 1) ∧
      isPlayerProtected (isAdmin cfg st.permissionsMap) st.timerProt.onlinePlayers 7 = true ∧
      ∃ o ∈ st.timerProt.onlinePlayers, o.steamId = 7 ∧
        (o.tribeId > 100000 →
          isTribeProtected (isAdmin cfg st.permissionsMap) (fun _ _ => false) st.pve.pveTribesList
            st.timerProt.allPlayers o.tribeId = true) := by
  intro cfg events st
  have ran : ServerEvent.run cfg events (ServerState.initial ⟨⟨[], []⟩, [], []⟩ 0) = some st := rfl
  have dbFlags : ∀ event ∈ events, ∀ steamId tribeId start lastLogin level isNewPlayer,
      event = .addPlayerFromDB steamId tribeId start lastLogin level isNewPlayer →
        isNewPlayer = 0 ∨ isNewPlayer = 1 := by
    intro event mem steamId tribeId start lastLogin level isNewPlayer same
    rcases List.mem_cons.mp mem with rfl | mem
    · cases same
      exact .inl rfl
    · rw [List.mem_singleton.mp mem] at same
      cases same
  have playerProtected :
      isPlayerProtected (isAdmin cfg st.permissionsMap) st.timerProt.onlinePlayers 7 = true := by
    decide
  exact ⟨ran, dbFlags, playerProtected, protected_player_tribe_protected cfg _ 0 events ran dbFlags
    (fun _ _ => false) 7 playerProtected⟩

end NewPlayerProtection

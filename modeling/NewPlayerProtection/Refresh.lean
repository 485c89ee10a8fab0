import NewPlayerProtection.Protection

/-!
# What an open tick of the update timer refreshes

`UpdateTimer`'s loop visits every position of `online_players_` once. At each
position it calls `UpdateLevelAndTribe`. For a living player, that copies the
engine's level and tribe onto the online entry and onto the player's first
`all_players_` entry. The loop then refreshes the player's cached permission
groups, if the cache has them. This file gives the loop's effect in closed form.

The online list comes out as `OnlinePlayersData.refresh` of every entry
(`updateLevelsAndTribes_onlinePlayers`). Each iteration writes one position and
reads only that position, which no earlier iteration wrote. An `all_players_`
entry of a player who is not online is never written
(`mem_allPlayers_updateLevelsAndTribes`). The cache comes out holding the
engine's groups for every online steam id it held, and unchanged elsewhere
(`foldl_updateTimerEntry_permissionsMap`).

From a reachable state, the cache holds exactly the online players, so after an
open tick it holds exactly their current groups
(`updateTimer_refreshes_cache`). Every entry of either list for a player the
engine reports carries the engine's level and tribe, and every other entry keeps
its own (`updateTimer_refreshes_levels_and_tribes`).
-/

namespace NewPlayerProtection

/-- What `UpdateLevelAndTribe` makes of an online entry: the engine's level and
tribe for a player it reports, the entry itself for a dead or absent one. -/
def OnlinePlayersData.refresh (stats : Nat → Option PlayerState) (o : OnlinePlayersData) :
    OnlinePlayersData :=
  match stats o.steamId with
  | none => o
  | some state =>
      { o with level := state.highestExtraCharacterLevel + 1, tribeId := state.targetingTeam }

@[simp]
theorem OnlinePlayersData.refresh_steamId (stats : Nat → Option PlayerState)
    (o : OnlinePlayersData) : (o.refresh stats).steamId = o.steamId := by
  unfold refresh
  split <;> rfl

@[simp]
theorem OnlinePlayersData.revoke_level (admin : Nat → Bool) (tribes : List Nat)
    (o : OnlinePlayersData) : (o.revoke admin tribes).level = o.level := by
  unfold revoke
  split <;> rfl

@[simp]
theorem AllPlayerData.revoke_level (admin : Nat → Bool) (tribes : List Nat) (e : AllPlayerData) :
    (e.revoke admin tribes).level = e.level := by
  unfold revoke
  split <;> rfl

/-! ## The online list -/

namespace TimerProt

variable (stats : Nat → Option PlayerState)

/-- `UpdateLevelAndTribe` at a position writes the refreshed entry there. -/
theorem updateLevelAndTribe_onlinePlayers (tp : TimerProt) {j : Nat} {o : OnlinePlayersData}
    (entry : tp.onlinePlayers[j]? = some o) :
    (tp.updateLevelAndTribe stats j).onlinePlayers = tp.onlinePlayers.set j (o.refresh stats) := by
  simp only [updateLevelAndTribe, OnlinePlayersData.refresh, entry]
  cases stats o.steamId with
  | none => exact (set_self entry).symm
  | some state => rfl

/-- Position `k` of a list whose first `k` entries are refreshed still holds its
original entry. -/
theorem getElem?_refreshedPrefix {l : List OnlinePlayersData} {k : Nat} (lt : k < l.length) :
    ((l.take k).map (OnlinePlayersData.refresh stats) ++ l.drop k)[k]? = some l[k] := by
  rw [List.getElem?_append_right (by simp)]
  simp [Nat.min_eq_left lt.le, lt]

/-- After the first `k` iterations of the loop, the first `k` online entries are
refreshed and the others untouched. -/
theorem foldl_updateLevelAndTribe_onlinePlayers (tp : TimerProt) {k : Nat}
    (hk : k ≤ tp.onlinePlayers.length) :
    ((List.range k).foldl (fun tp j => tp.updateLevelAndTribe stats j) tp).onlinePlayers =
      (tp.onlinePlayers.take k).map (OnlinePlayersData.refresh stats) ++
        tp.onlinePlayers.drop k := by
  induction k with
  | zero => simp
  | succ k ih =>
      have lt : k < tp.onlinePlayers.length := hk
      have before := ih lt.le
      rw [List.range_succ, List.foldl_append, List.foldl_cons, List.foldl_nil,
        updateLevelAndTribe_onlinePlayers stats _ (before ▸ getElem?_refreshedPrefix stats lt), before,
        List.set_append_right _ _ (by simp), List.drop_eq_getElem_cons lt]
      simp only [List.length_map, List.length_take, Nat.min_eq_left lt.le, Nat.sub_self,
        List.set_cons_zero, List.take_succ, List.getElem?_eq_getElem lt, Option.toList_some,
        List.map_append, List.map_cons, List.map_nil, List.append_assoc, List.singleton_append]

theorem updateLevelsAndTribes_onlinePlayers (tp : TimerProt) :
    (tp.updateLevelsAndTribes stats).onlinePlayers =
      tp.onlinePlayers.map (OnlinePlayersData.refresh stats) := by
  rw [updateLevelsAndTribes, foldl_updateLevelAndTribe_onlinePlayers stats tp le_rfl,
    List.take_length, List.drop_length, List.append_nil]

/-! ## The `all_players_` entries of offline players -/

/-- `UpdateLevelAndTribe` writes only the `all_players_` entry of an online
steam id. -/
theorem mem_allPlayers_updateLevelAndTribe (tp : TimerProt) (j : Nat) {a : AllPlayerData}
    (mem : a ∈ (tp.updateLevelAndTribe stats j).allPlayers)
    (offline : a.steamId ∉ tp.onlinePlayers.map (·.steamId)) : a ∈ tp.allPlayers := by
  unfold updateLevelAndTribe at mem
  split at mem
  · exact mem
  · rename_i data entry
    split at mem
    · exact mem
    · rcases mem_modifyFirst _ _ mem with old | ⟨b, -, same, rfl⟩
      · exact old
      · exact absurd (List.mem_map.mpr ⟨data, List.mem_iff_getElem?.mpr ⟨_, entry⟩,
          (beq_iff_eq.mp same).symm⟩) offline

theorem mem_allPlayers_updateLevelsAndTribes (tp : TimerProt) {a : AllPlayerData}
    (mem : a ∈ (tp.updateLevelsAndTribes stats).allPlayers)
    (offline : a.steamId ∉ tp.onlinePlayers.map (·.steamId)) : a ∈ tp.allPlayers := by
  unfold updateLevelsAndTribes at mem
  generalize List.range tp.onlinePlayers.length = positions at mem
  induction positions generalizing tp with
  | nil => exact mem
  | cons j rest ih =>
      have same := onlineSteamIds_of_messageKeys (tp.messageKeys_updateLevelAndTribe stats j)
      exact mem_allPlayers_updateLevelAndTribe stats tp j (ih _ (same ▸ offline) mem) offline

/-! ## The refresh followed by a revocation -/

theorem onlinePlayers_revokedBy_updateLevelsAndTribes (tp : TimerProt) (admin : Nat → Bool)
    (tribes : List Nat) :
    ((tp.updateLevelsAndTribes stats).revokedBy admin tribes).onlinePlayers =
      tp.onlinePlayers.map fun o => (o.refresh stats).revoke admin tribes := by
  simp only [revokedBy, updateLevelsAndTribes_onlinePlayers, List.map_map, Function.comp_def]

/-- Where online steam ids are unique, a player's online entry after the refresh
and a revocation is the revoked refresh of their entry before. -/
theorem eq_of_mem_revokedBy_updateLevelsAndTribes {tp : TimerProt} (inv : tp.Mirrored)
    (admin : Nat → Bool) (tribes : List Nat) {o o' : OnlinePlayersData}
    (oMem : o ∈ tp.onlinePlayers)
    (o'Mem : o' ∈ ((tp.updateLevelsAndTribes stats).revokedBy admin tribes).onlinePlayers)
    (same : o'.steamId = o.steamId) : o' = (o.refresh stats).revoke admin tribes := by
  rw [onlinePlayers_revokedBy_updateLevelsAndTribes] at o'Mem
  obtain ⟨o₀, o₀Mem, rfl⟩ := List.mem_map.mp o'Mem
  rw [List.inj_on_of_nodup_map inv.onlineNodup o₀Mem oMem (by simpa using same)]

end TimerProt

/-! ## The permissions cache -/

/-- One iteration refreshes the cached groups of the steam id at its position,
if the cache has them. -/
theorem updateTimerEntry_permissionsMap (tick : Tick) (st : ServerState) {j : Nat}
    {o : OnlinePlayersData} (entry : st.timerProt.onlinePlayers[j]? = some o) :
    (updateTimerEntry tick st j).permissionsMap =
      if (st.permissionsMap o.steamId).isSome then
        Function.update st.permissionsMap o.steamId (some (tick.playerGroups o.steamId))
      else st.permissionsMap := by
  have written : (st.timerProt.updateLevelAndTribe tick.stats j).onlinePlayers[j]? =
      some (o.refresh tick.stats) := by
    rw [TimerProt.updateLevelAndTribe_onlinePlayers _ _ entry]
    simp [List.getElem?_set, (List.getElem?_eq_some.mp entry).1]
  simp only [updateTimerEntry, written, OnlinePlayersData.refresh_steamId]

/-- After the first `k` iterations of the loop, the cache holds the engine's
groups for each of the first `k` online steam ids that it held, and is unchanged
elsewhere. -/
theorem foldl_updateTimerEntry_permissionsMap (tick : Tick) (st : ServerState) {k : Nat}
    (hk : k ≤ st.timerProt.onlinePlayers.length) (s : Nat) :
    ((List.range k).foldl (updateTimerEntry tick) st).permissionsMap s =
      if s ∈ (st.timerProt.onlinePlayers.take k).map (·.steamId) ∧ (st.permissionsMap s).isSome then
        some (tick.playerGroups s)
      else st.permissionsMap s := by
  induction k with
  | zero => simp
  | succ k ih =>
      have lt : k < st.timerProt.onlinePlayers.length := hk
      obtain ⟨timer, cached⟩ := foldl_updateTimerEntry tick (List.range k) st
      have entry : ((List.range k).foldl (updateTimerEntry tick) st).timerProt.onlinePlayers[k]? =
          some st.timerProt.onlinePlayers[k] := by
        rw [timer, TimerProt.foldl_updateLevelAndTribe_onlinePlayers _ _ lt.le]
        exact TimerProt.getElem?_refreshedPrefix tick.stats lt
      rw [List.range_succ, List.foldl_append, List.foldl_cons, List.foldl_nil,
        updateTimerEntry_permissionsMap tick _ entry]
      simp only [List.take_succ, List.getElem?_eq_getElem lt, Option.toList_some, List.map_append,
        List.map_cons, List.map_nil, List.mem_append, List.mem_singleton, cached]
      rw [ite_apply]
      by_cases same : s = st.timerProt.onlinePlayers[k].steamId
      · -- the steam id at position k: refreshed if held
        subst same
        by_cases held : (st.permissionsMap st.timerProt.onlinePlayers[k].steamId).isSome
        · simp [held]
        · simp [held, ih lt.le]
      · -- any other steam id: as before the iteration
        rw [Function.update_noteq same, ite_self, ih lt.le]
        simp only [same, or_false]

/-! ## After an open tick -/

/-- An open tick leaves the cache as its loop leaves it; the expiry pass only
reads it. -/
theorem updateTimer_permissionsMap_of_opens (cfg : Config) (tick : Tick) (st : ServerState)
    (opens : durationCastSeconds (st.nextPlayerUpdate - tick.now) ≤ 0) :
    (updateTimer cfg tick st).permissionsMap =
      ((List.range st.timerProt.onlinePlayers.length).foldl (updateTimerEntry tick)
        { st with nextPlayerUpdate := tick.now + minutes cfg.playerUpdateIntervalInMins }).permissionsMap := by
  simp only [updateTimer, if_pos opens]

/-- After every open tick of `UpdateTimer` from a reachable state, the
permissions cache holds the groups the engine reports now for exactly the
players online before the tick, and nothing for anyone else. -/
theorem updateTimer_refreshes_cache (cfg : Config) {st : ServerState} (reach : Reachable cfg st)
    (tick : Tick) (opens : durationCastSeconds (st.nextPlayerUpdate - tick.now) ≤ 0) (s : Nat) :
    (updateTimer cfg tick st).permissionsMap s =
      if s ∈ st.timerProt.onlinePlayers.map (·.steamId) then some (tick.playerGroups s) else none := by
  have keys := reach.cacheCoherent.keys s
  rw [updateTimer_permissionsMap_of_opens cfg tick st opens,
    foldl_updateTimerEntry_permissionsMap tick _ le_rfl, List.take_length]
  by_cases online : s ∈ st.timerProt.onlinePlayers.map (·.steamId)
  · simp only [online, keys.mpr online, and_self, if_true]
  · simp only [online, false_and, if_false]
    exact Option.not_isSome_iff_eq_none.mp (mt keys.mp online)

/-- Player 7 logs in with groups "Default"; at the first tick the engine reports
"Admins" for them. -/
theorem updateTimer_refreshes_cache_after_login :
    let cfg : Config := ⟨true, "Admins", 72, 60, false, false, false, 60, 5, []⟩
    let st := hookAShooterGameModeHandleNewPlayer ⟨7, 0, 0, 200000, ["Default"]⟩
      (ServerState.initial ⟨⟨[], []⟩, [], []⟩ 0)
    let tick : Tick := ⟨0, fun _ => none, fun _ => ["Admins"]⟩
    Reachable cfg st ∧ durationCastSeconds (st.nextPlayerUpdate - tick.now) ≤ 0 ∧
      ∀ s, (updateTimer cfg tick st).permissionsMap s =
        if s ∈ st.timerProt.onlinePlayers.map (·.steamId) then some (tick.playerGroups s) else none := by
  intro cfg st tick
  have reach : Reachable cfg st := .step (.handleNewPlayer _) (.initial _ _) rfl
  have opens : durationCastSeconds (st.nextPlayerUpdate - tick.now) ≤ 0 := by decide
  exact ⟨reach, opens, updateTimer_refreshes_cache cfg reach tick opens⟩

/-- After every open tick of `UpdateTimer` from a reachable state, the levels and
tribes are the engine's. Take a player who was online before the tick. Every
entry of theirs, in either list, carries the level and tribe that `refresh`
gives their online entry: the engine's for a player it reports, their own for a
dead one. Every `all_players_` entry of a player who was not online keeps the
steam id, level and tribe of an entry from before the tick. -/
theorem updateTimer_refreshes_levels_and_tribes (cfg : Config) {st : ServerState}
    (reach : Reachable cfg st) (tick : Tick)
    (opens : durationCastSeconds (st.nextPlayerUpdate - tick.now) ≤ 0) :
    let tp' := (updateTimer cfg tick st).timerProt
    (∀ o ∈ st.timerProt.onlinePlayers,
      (∀ o' ∈ tp'.onlinePlayers, o'.steamId = o.steamId →
          o'.level = (o.refresh tick.stats).level ∧ o'.tribeId = (o.refresh tick.stats).tribeId) ∧
        ∀ a ∈ tp'.allPlayers, a.steamId = o.steamId →
          a.level = (o.refresh tick.stats).level ∧ a.tribeId = (o.refresh tick.stats).tribeId) ∧
      ∀ a' ∈ tp'.allPlayers, a'.steamId ∉ st.timerProt.onlinePlayers.map (·.steamId) →
        ∃ a ∈ st.timerProt.allPlayers,
          a.steamId = a'.steamId ∧ a.level = a'.level ∧ a.tribeId = a'.tribeId := by
  intro tp'
  have refreshed := reach.mirrored.updateLevelsAndTribes tick.stats
  -- the tick is the loop's refresh, then a revocation for some set of tribes
  obtain ⟨admin, tribes, closed⟩ : ∃ admin tribes,
      tp' = (st.timerProt.updateLevelsAndTribes tick.stats).revokedBy admin tribes :=
    ⟨_, _, (updateTimer_timerProt_of_opens cfg tick st opens).trans
      (removeExpiredTribesProtection_eq_revokedBy refreshed)⟩
  refine ⟨fun o oMem => ?_, fun a' aMem offline => ?_⟩
  · -- each online entry of the player is the revoked refresh of o
    have entry : ∀ o' ∈ tp'.onlinePlayers, o'.steamId = o.steamId →
        o' = (o.refresh tick.stats).revoke admin tribes := fun o' o'Mem same =>
      TimerProt.eq_of_mem_revokedBy_updateLevelsAndTribes tick.stats reach.mirrored admin tribes oMem
        (closed ▸ o'Mem) same
    have fresh : (o.refresh tick.stats).revoke admin tribes ∈ tp'.onlinePlayers := by
      rw [closed, TimerProt.onlinePlayers_revokedBy_updateLevelsAndTribes]
      exact List.mem_map_of_mem _ oMem
    -- and each `all_players_` entry of the player mirrors that one
    have mirrors : ∀ a ∈ tp'.allPlayers, a.steamId = o.steamId →
        ((o.refresh tick.stats).revoke admin tribes).Mirrors a := fun a aMem same =>
      (closed ▸ refreshed.revokedBy tribes : tp'.Mirrored).mirrors fresh aMem (by simpa using same)
    exact ⟨fun o' o'Mem same => by simp [entry o' o'Mem same],
      fun a aMem same => by simp [(mirrors a aMem same).level, (mirrors a aMem same).tribeId]⟩
  · rw [closed] at aMem
    obtain ⟨a, before, rfl⟩ := List.mem_map.mp aMem
    refine ⟨a, TimerProt.mem_allPlayers_updateLevelsAndTribes tick.stats _ before
      (by simpa using offline), by simp, by simp, by simp⟩

/-- Players 1 and 2 of tribe 200000 are online; at the first tick the engine
reports player 1 at level 9 in tribe 300000 and player 2 dead. -/
theorem updateTimer_refreshes_levels_and_tribes_one_dead :
    let cfg : Config := ⟨false, "", 72, 60, false, false, false, 60, 5, []⟩
    let st := hookAShooterGameModeHandleNewPlayer ⟨2, 0, 0, 200000, []⟩
      (hookAShooterGameModeHandleNewPlayer ⟨1, 0, 0, 200000, []⟩
        (ServerState.initial ⟨⟨[], []⟩, [], []⟩ 0))
    let tick : Tick := ⟨0, fun s => if s = 1 then some ⟨300000, 8⟩ else none, fun _ => []⟩
    Reachable cfg st ∧ durationCastSeconds (st.nextPlayerUpdate - tick.now) ≤ 0 ∧
      let tp' := (updateTimer cfg tick st).timerProt
      (∀ o ∈ st.timerProt.onlinePlayers,
        (∀ o' ∈ tp'.onlinePlayers, o'.steamId = o.steamId →
            o'.level = (o.refresh tick.stats).level ∧ o'.tribeId = (o.refresh tick.stats).tribeId) ∧
          ∀ a ∈ tp'.allPlayers, a.steamId = o.steamId →
            a.level = (o.refresh tick.stats).level ∧ a.tribeId = (o.refresh tick.stats).tribeId) ∧
        ∀ a' ∈ tp'.allPlayers, a'.steamId ∉ st.timerProt.onlinePlayers.map (·.steamId) →
          ∃ a ∈ st.timerProt.allPlayers,
            a.steamId = a'.steamId ∧ a.level = a'.level ∧ a.tribeId = a'.tribeId := by
  intro cfg st tick
  have reach : Reachable cfg st :=
    .step (.handleNewPlayer _) (.step (.handleNewPlayer _) (.initial _ _) rfl) rfl
  have opens : durationCastSeconds (st.nextPlayerUpdate - tick.now) ≤ 0 := by decide
  exact ⟨reach, opens, updateTimer_refreshes_levels_and_tribes cfg reach tick opens⟩

end NewPlayerProtection

import Mathlib.Logic.Function.Basic
import NewPlayerProtection.Database
import NewPlayerProtection.Expiry
import NewPlayerProtection.Queries

/-!
# The server state and the bookkeeping hooks

The plugin's global state is the `TimerProt` singleton, the permissions cache
`PermissionsMap`, the PVE store and the time of the next player update. This
file models the hooks that maintain it: `Hook_AShooterGameMode_HandleNewPlayer`
on a login, `Hook_AShooterGameMode_Logout`, `Hook_AShooterGameMode_SaveWorld`,
and the timer callback `TimerProt::UpdateTimer`.

Each hook ends by calling the engine function it replaces (or, for
`SaveWorld`, begins with it); that call does not touch the plugin's state and is
left out. What the engine supplies to a hook (steam ids, the clock, player
states, permission groups) is an argument. The permissions cache is a `TMap`,
whose `Add` replaces an existing value: a function updated at one key.
-/

namespace NewPlayerProtection

/-- The plugin's global state. -/
structure ServerState where
  timerProt : TimerProt
  permissionsMap : Nat → Option (List String)
  pve : PveStore
  nextPlayerUpdate : Int

/-- The state when the plugin is loaded, before the players are read from the
database: empty lists and an empty cache. -/
def ServerState.initial (pve : PveStore) (nextPlayerUpdate : Int) : ServerState :=
  ⟨TimerProt.empty, fun _ => none, pve, nextPlayerUpdate⟩

/-! ## Login and logout -/

/-- What the engine gives `Hook_AShooterGameMode_HandleNewPlayer`: the player's
steam id, the clock, `rand()` after `srand` on the clock, the targeting team of
the player state (0 for a player without a tribe) and the player's permission
groups. -/
structure Login where
  steamId : Nat
  now : Int
  randValue : Nat
  targetingTeam : Nat
  playerGroups : List String

/-- The team id the hook gives a player: their tribe, or a random id from
11100000 on for a player without one. -/
def Login.teamId (login : Login) : Nat :=
  if login.targetingTeam != 0 then login.targetingTeam else login.randValue % 10000 + 11100000

/-- `Hook_AShooterGameMode_HandleNewPlayer`: record the player in both lists and
cache their permission groups. -/
def hookAShooterGameModeHandleNewPlayer (login : Login) (st : ServerState) : ServerState :=
  { st with
    timerProt := st.timerProt.handleNewPlayer login.steamId login.teamId login.now
    permissionsMap := Function.update st.permissionsMap login.steamId (some login.playerGroups) }

/-- `Hook_AShooterGameMode_Logout`: remove the player from the online list and
from the cache. -/
def hookAShooterGameModeLogout (steamId : Nat) (st : ServerState) : ServerState :=
  { st with
    timerProt := st.timerProt.removePlayer steamId
    permissionsMap := Function.update st.permissionsMap steamId none }

/-! ## The player update timer -/

/-- What the engine reports at a tick of `UpdateTimer`: the clock, the state of
each player, and the permission groups of each steam id. -/
structure Tick where
  now : Int
  stats : Nat → Option PlayerState
  playerGroups : Nat → List String

/-- One iteration of `UpdateTimer`'s loop over `online_players_`:
`UpdateLevelAndTribe` on the entry at position `j`, then a refresh of the cached
groups of its steam id, if it has an entry in the cache. -/
def updateTimerEntry (tick : Tick) (st : ServerState) (j : Nat) : ServerState :=
  let timerProt := st.timerProt.updateLevelAndTribe tick.stats j
  match timerProt.onlinePlayers[j]? with
  | none => { st with timerProt := timerProt }
  | some data =>
      { st with
        timerProt := timerProt
        permissionsMap :=
          if (st.permissionsMap data.steamId).isSome then
            Function.update st.permissionsMap data.steamId (some (tick.playerGroups data.steamId))
          else st.permissionsMap }

/-- `TimerProt::UpdateTimer`: once `next_player_update` is less than a second
away, move it `PlayerUpdateIntervalInMins` ahead, update every online player and
their cached groups, then revoke expired protection under the refreshed cache. -/
def updateTimer (cfg : Config) (tick : Tick) (st : ServerState) : ServerState :=
  if durationCastSeconds (st.nextPlayerUpdate - tick.now) ≤ 0 then
    let st := { st with nextPlayerUpdate := tick.now + minutes cfg.playerUpdateIntervalInMins }
    let st := (List.range st.timerProt.onlinePlayers.length).foldl (updateTimerEntry tick) st
    { st with
      timerProt := removeExpiredTribesProtection cfg (isAdmin cfg st.permissionsMap) tick.now
        st.timerProt }
  else st

/-! ## World save -/

/-- How the database calls of one `Hook_AShooterGameMode_SaveWorld` go, by loop
and position in the loop. -/
structure SaveWorldFaults where
  playerInsertFails : Nat → Bool
  pveFaults : Nat → DbFaults
  removedFaults : Nat → DbFaults

/-- Every database call succeeds. -/
def SaveWorldFaults.none : SaveWorldFaults := ⟨fun _ => false, fun _ => .none, fun _ => .none⟩

/-- The loop of `UpdatePlayerDB` calls over a copy of `all_players_`. -/
def updatePlayersDB (fails : Nat → Bool) : Nat → List AllPlayerData → Database → Database
  | _, [], db => db
  | i, data :: rest, db => updatePlayersDB fails (i + 1) rest (updatePlayerDB (fails i) data db)

/-- `Hook_AShooterGameMode_SaveWorld`: write every player, then mark every tribe
of `pveTribesList` protected and every tribe of `removedPveTribesList` not, each
through a range-`for` over the vector itself. `none` when a loop reads a
destroyed element. -/
def hookAShooterGameModeSaveWorld (faults : SaveWorldFaults) (st : ServerState) :
    Option ServerState := do
  let pve := { st.pve with
    db := updatePlayersDB faults.playerInsertFails 0 st.timerProt.allPlayers st.pve.db }
  let pve ← rangeFor (·.pveTribesList) (fun i t => updatePVETribeDB (faults.pveFaults i) t true)
    pve.pveTribesList.length 0 pve
  let pve ← rangeFor (·.removedPveTribesList)
    (fun i t => updatePVETribeDB (faults.removedFaults i) t false)
    pve.removedPveTribesList.length 0 pve
  return { st with pve := pve }

end NewPlayerProtection

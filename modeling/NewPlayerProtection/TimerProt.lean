import NewPlayerProtection.Basic

/-!
# The `TimerProt` player lists

`TimerProt` is the plugin's singleton holding `all_players_`, every player ever
seen (loaded from the database or added on a first login), and
`online_players_`, the players currently logged in. This file models the
methods that edit the two lists: `AddPlayerFromDB`, `AddNewPlayer`,
`AddOnlinePlayer`, `RemovePlayer`, `IsNextMessageReady` and
`UpdateLevelAndTribe`.

Each method reads the clock at most once per call in the source, or several
times within a few instructions; a call receives one reading `now`.
`UpdateLevelAndTribe` is passed an element of `online_players_` by pointer,
always from `UpdateTimer`'s loop over that vector, so it receives the element's
position. What the engine reports about a logged-in player (their targeting team
and highest character level, or that they are dead or absent) is a function
`stats` of the steam id, read once per timer tick.
-/

namespace NewPlayerProtection

/-- The `TimerProt` singleton's two player vectors. -/
structure TimerProt where
  allPlayers : List AllPlayerData
  onlinePlayers : List OnlinePlayersData
deriving DecidableEq, Repr

/-- What `FindPlayerFromSteamId` and the player state give `UpdateLevelAndTribe`
for a player who is not dead. -/
structure PlayerState where
  targetingTeam : Nat
  highestExtraCharacterLevel : Int
deriving DecidableEq, Repr

namespace TimerProt

/-- The state of the singleton when the plugin is loaded. -/
def empty : TimerProt := ⟨[], []⟩

/-- `TimerProt::AddPlayerFromDB`: append a player read from the database,
unless an entry with that steam id exists. -/
def addPlayerFromDB (tp : TimerProt) (steamId tribeId : Nat)
    (startDateTime lastLoginDateTime level isNewPlayer : Int) : TimerProt :=
  if tp.allPlayers.any (·.steamId == steamId) then tp
  else { tp with allPlayers := tp.allPlayers ++
    [⟨steamId, tribeId, startDateTime, lastLoginDateTime, level, isNewPlayer⟩] }

/-- `TimerProt::AddNewPlayer`: the same find-then-append, for a player first
seen now, at level 1 and protected. -/
def addNewPlayer (tp : TimerProt) (steamId tribeId : Nat) (now : Int) : TimerProt :=
  tp.addPlayerFromDB steamId tribeId now now 1 1

/-- `TimerProt::AddOnlinePlayer`: append an online entry unless the steam id is
online. The entry copies tribe, start, level and protection from the first
`all_players_` entry of the steam id, whose last login it sets to now; without
one it starts from `team_id` and the defaults. -/
def addOnlinePlayer (tp : TimerProt) (steamId teamId : Nat) (now : Int) : TimerProt :=
  if tp.onlinePlayers.any (·.steamId == steamId) then tp
  else
    match tp.allPlayers.find? (·.steamId == steamId) with
    | some alldata =>
        { allPlayers := modifyFirst (·.steamId == steamId)
            (fun a => { a with lastLoginDateTime := now }) tp.allPlayers
          onlinePlayers := tp.onlinePlayers ++ [⟨steamId, alldata.tribeId,
            alldata.startDateTime, now, alldata.level, alldata.isNewPlayer, now⟩] }
    | none =>
        { tp with onlinePlayers := tp.onlinePlayers ++ [⟨steamId, teamId, now, now, 1, 1, now⟩] }

/-- `TimerProt::RemovePlayer`: erase the first online entry of the steam id
(the pointer `std::remove` is given matches that entry only). -/
def removePlayer (tp : TimerProt) (steamId : Nat) : TimerProt :=
  { tp with onlinePlayers := tp.onlinePlayers.eraseP (·.steamId == steamId) }

/-- `TimerProt::IsNextMessageReady`: for the first online entry of the steam id,
ready when its `nextMessageTime` is less than a second ahead, which then moves
`interval` seconds past now; a player who is not online is always ready. -/
def isNextMessageReady (tp : TimerProt) (interval : Int) (steamId : Nat) (now : Int) :
    Bool × TimerProt :=
  match tp.onlinePlayers.find? (·.steamId == steamId) with
  | none => (true, tp)
  | some data =>
      if durationCastSeconds (data.nextMessageTime - now) ≤ 0 then
        (true, { tp with
          onlinePlayers := modifyFirst (·.steamId == steamId)
            (fun d => { d with nextMessageTime := now + seconds interval }) tp.onlinePlayers })
      else (false, tp)

/-- `TimerProt::UpdateLevelAndTribe` on the online entry at position `j`: unless
the player is dead, set its level and tribe from the engine, and the same on the
first `all_players_` entry of its steam id. -/
def updateLevelAndTribe (tp : TimerProt) (stats : Nat → Option PlayerState) (j : Nat) :
    TimerProt :=
  match tp.onlinePlayers[j]? with
  | none => tp
  | some data =>
      match stats data.steamId with
      | none => tp
      | some state =>
          let level := state.highestExtraCharacterLevel + 1
          { onlinePlayers := tp.onlinePlayers.set j
              { data with level := level, tribeId := state.targetingTeam }
            allPlayers := modifyFirst (·.steamId == data.steamId)
              (fun a => { a with level := level, tribeId := state.targetingTeam })
              tp.allPlayers }

/-- The `UpdateLevelAndTribe` calls of `UpdateTimer`'s loop over `online_players_`. -/
def updateLevelsAndTribes (tp : TimerProt) (stats : Nat → Option PlayerState) : TimerProt :=
  (List.range tp.onlinePlayers.length).foldl (fun tp j => tp.updateLevelAndTribe stats j) tp

/-- `IsPlayerExists`: whether `all_players_` has an entry for the steam id. -/
def isPlayerExists (tp : TimerProt) (steamId : Nat) : Bool :=
  tp.allPlayers.any (·.steamId == steamId)

/-- The player-list part of `Hook_AShooterGameMode_HandleNewPlayer`: add the
player to `all_players_` if they are new, then to `online_players_`. -/
def handleNewPlayer (tp : TimerProt) (steamId teamId : Nat) (now : Int) : TimerProt :=
  let tp := if !tp.isPlayerExists steamId then tp.addNewPlayer steamId teamId now else tp
  tp.addOnlinePlayer steamId teamId now

@[simp]
theorem addPlayerFromDB_onlinePlayers (tp : TimerProt) (steamId tribeId : Nat)
    (startDateTime lastLoginDateTime level isNewPlayer : Int) :
    (tp.addPlayerFromDB steamId tribeId startDateTime lastLoginDateTime level
      isNewPlayer).onlinePlayers = tp.onlinePlayers := by
  unfold addPlayerFromDB
  split <;> rfl

@[simp]
theorem addNewPlayer_onlinePlayers (tp : TimerProt) (steamId tribeId : Nat) (now : Int) :
    (tp.addNewPlayer steamId tribeId now).onlinePlayers = tp.onlinePlayers :=
  tp.addPlayerFromDB_onlinePlayers _ _ _ _ _ _

end TimerProt

end NewPlayerProtection

import NewPlayerProtection.TimerProt

/-!
# Protection queries

The read-only functions the hooks consult: `IsAdmin` over the permissions cache,
`IsPVETribe`, `IsTribeProtected`, `IsExemptStructure` and `IsPlayerProtected`.

The permissions cache `PermissionsMap` is a `TMap` from steam ids to permission
groups: a partial function here. Where a query calls `IsAdmin` we pass it the
admin predicate, so that its results hold for every admin predicate and the
hooks instantiate it with `isAdmin` of the current cache.

The lambda `IsTribeProtected` gives `std::find_if` returns a value only when its
entry is not an admin; on an admin entry control falls off the end of a
function returning `bool`, and the code does not determine the result. The
model takes that value as an argument `adminPath`, a function of the queried
tribe and the entry, and every result below holds for all of them.
-/

namespace NewPlayerProtection

/-- `IsAdmin`: with `IgnoreAdmins` set, whether the cached groups of the steam id
contain `NPPAdminGroup`; a steam id without a cache entry is no admin. -/
def isAdmin (cfg : Config) (permissionsMap : Nat → Option (List String)) (steamId : Nat) :
    Bool :=
  if cfg.ignoreAdmins then
    match permissionsMap steamId with
    | some groups => groups.any (fStringEquals · cfg.nppAdminGroup)
    | none => false
  else false

/-- A steam id without a cache entry is never an admin. -/
theorem isAdmin_of_not_cached {cfg : Config} {permissionsMap : Nat → Option (List String)}
    {steamId : Nat} (absent : permissionsMap steamId = none) :
    isAdmin cfg permissionsMap steamId = false := by
  unfold isAdmin
  split <;> simp [absent]

/-- `IsPVETribe`: whether the tribe occurs in `pveTribesList`. -/
def isPVETribe (pveTribesList : List Nat) (tribeid : Nat) : Bool :=
  0 < pveTribesList.count tribeid

/-- The predicate `IsTribeProtected` passes to `find_if`: on an entry that is not
an admin, whether it is a protected member of the tribe; on an admin entry the
undetermined value `adminPath`. -/
def tribeMemberProtected (admin : Nat → Bool) (adminPath : Nat → AllPlayerData → Bool)
    (tribeid : Nat) (data : AllPlayerData) : Bool :=
  if !admin data.steamId then data.tribeId == tribeid && data.isNewPlayer == 1
  else adminPath tribeid data

/-- `IsTribeProtected`: a tribe id above 100000 is protected when it is a PVE
tribe, or when `find_if` finds an entry of `all_players_` for it. -/
def isTribeProtected (admin : Nat → Bool) (adminPath : Nat → AllPlayerData → Bool)
    (pveTribesList : List Nat) (allPlayers : List AllPlayerData) (tribeid : Nat) : Bool :=
  if tribeid > 100000 then
    if !isPVETribe pveTribesList tribeid then
      allPlayers.any (tribeMemberProtected admin adminPath tribeid)
    else true
  else false

/-- A protected tribe has an id above 100000. -/
theorem isTribeProtected_gt {admin : Nat → Bool} {adminPath : Nat → AllPlayerData → Bool}
    {pveTribesList : List Nat} {allPlayers : List AllPlayerData} {tribeid : Nat}
    (isProtected : isTribeProtected admin adminPath pveTribesList allPlayers tribeid) :
    tribeid > 100000 := by
  unfold isTribeProtected at isProtected
  split at isProtected
  · assumption
  · simp at isProtected

/-- One admin entry, of tribe 5 and no longer protected, with the undetermined
value `true`: tribe 300000 counts as protected though no entry of it exists. -/
theorem isTribeProtected_admin_entry_protects_other_tribe :
    isTribeProtected (· == 1) (fun _ _ => true) [] [⟨1, 5, 0, 0, 1, 0⟩] 300000 = true ∧
      ¬∃ e ∈ [(⟨1, 5, 0, 0, 1, 0⟩ : AllPlayerData)],
        (e.steamId == 1) = false ∧ e.tribeId = 300000 ∧ e.isNewPlayer = 1 := by
  decide

/-- `IsExemptStructure`: whether the structure's blueprint path is listed in
`StructureExemptions` (compared as `std::string`s). -/
def isExemptStructure (cfg : Config) (blueprint : String) : Bool :=
  if cfg.structureExemptions.length > 0 then 0 < cfg.structureExemptions.count blueprint
  else false

/-- `IsPlayerProtected`: the protection flag of the first online entry of the
steam id that is not an admin's; `false` when there is none. -/
def isPlayerProtected (admin : Nat → Bool) (onlinePlayers : List OnlinePlayersData)
    (steamId : Nat) : Bool :=
  match onlinePlayers with
  | [] => false
  | data :: rest =>
      if data.steamId == steamId && !admin data.steamId then data.isNewPlayer != 0
      else isPlayerProtected admin rest steamId

end NewPlayerProtection

import NewPlayerProtection.TimerProt

/-!
# The mirror invariant of the player lists

`online_players_` is meant to mirror `all_players_`: each player has one entry
in each list, and an online entry carries the same tribe, level, start time and
protection flag as the player's `all_players_` entry. Several functions rely on
this without checking it: `UpdateLevelAndTribe` and `AddOnlinePlayer` update or
read only the first entry of a steam id, and `RemoveExpiredTribesProtection`
revokes online protection by a test that differs from the one it applies to
`all_players_`.

This file states the invariant and proves that every `TimerProt` method keeps
it; `AddOnlinePlayer` keeps it when the player has an `all_players_` entry,
which `Hook_AShooterGameMode_HandleNewPlayer` ensures just before calling it.
-/

namespace NewPlayerProtection

/-- An online entry agrees with an `all_players_` entry on the steam id, tribe,
level, start time and protection flag. -/
structure OnlinePlayersData.Mirrors (o : OnlinePlayersData) (a : AllPlayerData) : Prop where
  steamId : a.steamId = o.steamId
  tribeId : a.tribeId = o.tribeId
  level : a.level = o.level
  startDateTime : a.startDateTime = o.startDateTime
  isNewPlayer : a.isNewPlayer = o.isNewPlayer

/-- The same level and tribe written to an online entry and to the entry it
mirrors keeps them mirroring. -/
theorem OnlinePlayersData.Mirrors.setLevelAndTribe {o : OnlinePlayersData} {a : AllPlayerData} (m : o.Mirrors a)
    (steamId tribeId : Nat) (level : Int) :
    (if o.steamId == steamId then { o with level := level, tribeId := tribeId } else o).Mirrors
      (if a.steamId == steamId then { a with level := level, tribeId := tribeId } else a) := by
  by_cases h : o.steamId = steamId
  · have ha : a.steamId = steamId := m.steamId.trans h
    rw [if_pos (by simpa using h), if_pos (by simpa using ha)]
    exact ⟨m.steamId, rfl, rfl, m.startDateTime, m.isNewPlayer⟩
  · have ha : a.steamId ≠ steamId := fun e => h (m.steamId.symm.trans e)
    rw [if_neg (by simpa using h), if_neg (by simpa using ha)]
    exact m

instance (o : OnlinePlayersData) (a : AllPlayerData) : Decidable (o.Mirrors a) :=
  decidable_of_iff (a.steamId = o.steamId ∧ a.tribeId = o.tribeId ∧ a.level = o.level ∧
      a.startDateTime = o.startDateTime ∧ a.isNewPlayer = o.isNewPlayer)
    ⟨fun ⟨s, t, l, d, p⟩ => ⟨s, t, l, d, p⟩, fun m => ⟨m.1, m.2, m.3, m.4, m.5⟩⟩

namespace TimerProt

/-- Steam ids are unique in both lists, and every online entry mirrors an
`all_players_` entry. -/
structure Mirrored (tp : TimerProt) : Prop where
  allNodup : (tp.allPlayers.map (·.steamId)).Nodup
  onlineNodup : (tp.onlinePlayers.map (·.steamId)).Nodup
  mirrored : ∀ o ∈ tp.onlinePlayers, ∃ a ∈ tp.allPlayers, o.Mirrors a

instance (tp : TimerProt) : Decidable tp.Mirrored :=
  decidable_of_iff ((tp.allPlayers.map (·.steamId)).Nodup ∧ (tp.onlinePlayers.map (·.steamId)).Nodup ∧
      ∀ o ∈ tp.onlinePlayers, ∃ a ∈ tp.allPlayers, o.Mirrors a)
    ⟨fun ⟨a, o, m⟩ => ⟨a, o, m⟩, fun inv => ⟨inv.1, inv.2, inv.3⟩⟩

theorem mirrored_empty : empty.Mirrored :=
  ⟨List.nodup_nil, List.nodup_nil, fun _ mem => absurd mem (List.not_mem_nil _)⟩

variable {tp : TimerProt}

/-- An online entry mirrors the `all_players_` entry with its steam id. -/
theorem Mirrored.mirrors (inv : tp.Mirrored) {o : OnlinePlayersData} {a : AllPlayerData}
    (oMem : o ∈ tp.onlinePlayers) (aMem : a ∈ tp.allPlayers) (sameSteam : a.steamId = o.steamId) :
    o.Mirrors a := by
  obtain ⟨a', a'Mem, m⟩ := inv.mirrored o oMem
  have : a' = a := List.inj_on_of_nodup_map inv.allNodup a'Mem aMem (m.steamId.trans sameSteam.symm)
  exact this ▸ m

/-- Mapping both lists keeps the invariant when the maps keep steam ids and
send mirroring entries to mirroring entries. -/
theorem Mirrored.map (inv : tp.Mirrored) (f : AllPlayerData → AllPlayerData)
    (g : OnlinePlayersData → OnlinePlayersData)
    (fKey : ∀ a, (f a).steamId = a.steamId) (gKey : ∀ o, (g o).steamId = o.steamId)
    (compat : ∀ o a, o.Mirrors a → (g o).Mirrors (f a)) :
    Mirrored ⟨tp.allPlayers.map f, tp.onlinePlayers.map g⟩ := by
  refine ⟨?_, ?_, ?_⟩
  · simpa [Function.comp_def, fKey] using inv.allNodup
  · simpa [Function.comp_def, gKey] using inv.onlineNodup
  · simp only [List.mem_map, forall_exists_index, and_imp, forall_apply_eq_imp_iff₂]
    intro o oMem
    obtain ⟨a, aMem, mirrors⟩ := inv.mirrored o oMem
    exact ⟨f a, ⟨a, aMem, rfl⟩, compat o a mirrors⟩

/-- An entry whose steam id is absent keeps steam ids unique when appended. -/
theorem nodup_append_fresh {α : Type*} (key : α → Nat) {l : List α} {x : α}
    (nodup : (l.map key).Nodup) (fresh : ¬ l.any (key · == key x)) :
    ((l ++ [x]).map key).Nodup := by
  simp only [List.any_eq_true, beq_iff_eq, not_exists, not_and] at fresh
  simpa [List.nodup_append, nodup] using fun a mem eq => fresh a mem eq

theorem Mirrored.addPlayerFromDB (inv : tp.Mirrored) (steamId tribeId : Nat)
    (startDateTime lastLoginDateTime level isNewPlayer : Int) :
    (tp.addPlayerFromDB steamId tribeId startDateTime lastLoginDateTime level
      isNewPlayer).Mirrored := by
  unfold TimerProt.addPlayerFromDB
  split
  · exact inv
  · rename_i fresh
    exact ⟨nodup_append_fresh _ inv.allNodup fresh, inv.onlineNodup, fun o mem =>
      (inv.mirrored o mem).imp fun a ⟨aMem, mirrors⟩ => ⟨List.mem_append_left _ aMem, mirrors⟩⟩

theorem Mirrored.addNewPlayer (inv : tp.Mirrored) (steamId tribeId : Nat) (now : Int) :
    (tp.addNewPlayer steamId tribeId now).Mirrored :=
  inv.addPlayerFromDB _ _ _ _ _ _

/-- `AddOnlinePlayer` keeps the invariant for a player with an `all_players_`
entry: the new online entry copies that entry. -/
theorem Mirrored.addOnlinePlayer (inv : tp.Mirrored) {steamId : Nat} (teamId : Nat)
    (now : Int) (known : tp.isPlayerExists steamId) :
    (tp.addOnlinePlayer steamId teamId now).Mirrored := by
  unfold TimerProt.addOnlinePlayer
  split
  · exact inv
  · rename_i notOnline
    obtain ⟨alldata, found⟩ : ∃ alldata, tp.allPlayers.find? (·.steamId == steamId) = some alldata :=
      Option.isSome_iff_exists.mp (List.find?_isSome.mpr (List.any_eq_true.mp known))
    have steamEq : alldata.steamId = steamId := by simpa using List.find?_some found
    simp only [found]
    rw [modifyFirst_eq_map _ _ _ inv.allNodup]
    let touch := fun a : AllPlayerData => { a with lastLoginDateTime := now }
    have stamped := inv.map (fun a => if a.steamId == steamId then touch a else a) id
      (fun a => by by_cases h : a.steamId = steamId <;> simp [h, touch]) (fun _ => rfl)
      (fun o a m => by dsimp only; split <;> exact ⟨m.1, m.2, m.3, m.4, m.5⟩)
    rw [List.map_id] at stamped
    refine ⟨stamped.allNodup, nodup_append_fresh _ inv.onlineNodup (by simpa using notOnline),
      fun o mem => ?_⟩
    rcases List.mem_append.mp mem with old | new
    · exact stamped.mirrored o old
    · rw [List.mem_singleton.mp new]
      exact ⟨touch alldata, List.mem_map.mpr ⟨alldata, List.mem_of_find?_eq_some found,
        by simp [steamEq, touch]⟩, steamEq, rfl, rfl, rfl, rfl⟩

theorem isPlayerExists_addNewPlayer (tp : TimerProt) (steamId tribeId : Nat) (now : Int) :
    (tp.addNewPlayer steamId tribeId now).isPlayerExists steamId := by
  unfold addNewPlayer addPlayerFromDB isPlayerExists
  split <;> simp_all

/-- The player-list part of `Hook_AShooterGameMode_HandleNewPlayer` keeps the
invariant: the player has an `all_players_` entry by the time
`AddOnlinePlayer` runs. -/
theorem Mirrored.handleNewPlayer (inv : tp.Mirrored) (steamId teamId : Nat) (now : Int) :
    (tp.handleNewPlayer steamId teamId now).Mirrored := by
  unfold TimerProt.handleNewPlayer
  dsimp only
  split
  · exact (inv.addNewPlayer _ _ _).addOnlinePlayer _ _ (isPlayerExists_addNewPlayer _ _ _ _)
  · rename_i known
    exact inv.addOnlinePlayer _ _ (by simpa using known)

theorem Mirrored.removePlayer (inv : tp.Mirrored) (steamId : Nat) :
    (tp.removePlayer steamId).Mirrored :=
  ⟨inv.allNodup, ((List.eraseP_sublist _).map _).nodup inv.onlineNodup,
    fun o mem => inv.mirrored o ((List.eraseP_sublist _).subset mem)⟩

theorem Mirrored.isNextMessageReady (inv : tp.Mirrored) (interval : Int) (steamId : Nat)
    (now : Int) : (tp.isNextMessageReady interval steamId now).2.Mirrored := by
  unfold TimerProt.isNextMessageReady
  split
  · exact inv
  · split
    · refine ⟨inv.allNodup, ?_, fun o mem => ?_⟩
      · dsimp only
        rw [map_modifyFirst]
        · exact inv.onlineNodup
        · exact fun _ => rfl
      · rcases mem_modifyFirst _ _ mem with old | ⟨d, dMem, -, rfl⟩
        · exact inv.mirrored o old
        · obtain ⟨a, aMem, m⟩ := inv.mirrored d dMem
          exact ⟨a, aMem, m.1, m.2, m.3, m.4, m.5⟩
    · exact inv

theorem Mirrored.updateLevelAndTribe (inv : tp.Mirrored) (stats : Nat → Option PlayerState)
    (j : Nat) : (tp.updateLevelAndTribe stats j).Mirrored := by
  unfold TimerProt.updateLevelAndTribe
  split
  · exact inv
  · rename_i data entry
    split
    · exact inv
    · rename_i state _
      dsimp only
      let level := state.highestExtraCharacterLevel + 1
      let update := fun d : OnlinePlayersData => { d with level, tribeId := state.targetingTeam }
      rw [set_eq_map _ update inv.onlineNodup entry, modifyFirst_eq_map _ _ _ inv.allNodup]
      exact inv.map _ _ (fun a => by split <;> rfl) (fun o => by split <;> rfl)
        (fun o a m => m.setLevelAndTribe data.steamId state.targetingTeam _)

theorem Mirrored.updateLevelsAndTribes (inv : tp.Mirrored) (stats : Nat → Option PlayerState) :
    (tp.updateLevelsAndTribes stats).Mirrored := by
  unfold TimerProt.updateLevelsAndTribes
  generalize List.range tp.onlinePlayers.length = positions
  induction positions generalizing tp with
  | nil => exact inv
  | cons j rest ih => exact ih (inv.updateLevelAndTribe stats j)

end TimerProt

end NewPlayerProtection

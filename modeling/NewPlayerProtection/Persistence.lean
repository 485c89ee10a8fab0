import NewPlayerProtection.Server

/-!
# What a world save writes to `Players`

`Hook_AShooterGameMode_SaveWorld` writes every entry of `all_players_` through
`UpdatePlayerDB`, an `INSERT OR REPLACE` keyed on the steam id. The PVE loops
that follow write `PVE_Tribes` only.

Take a state whose steam ids are unique, as they are in every reachable state,
and a save that completes, whichever calls fail. For each player whose `INSERT`
succeeded, the table then holds the player's current entry as the only row of
their steam id. The rows of every other steam id are unchanged
(`hookAShooterGameModeSaveWorld_writes_players`).

A row holds the entry's times where `UpdatePlayerDB` writes `GetTimestamp` of
them, and the loader that reads `Players` back into `AddPlayerFromDB` is not in
the source either, so no round trip through the table is stated here.
-/

namespace NewPlayerProtection

/-! ## The loop of `UpdatePlayerDB` calls -/

section Loop

variable (fails : Nat → Bool)

/-- A steam id whose entries' `INSERT`s all fail keeps its rows. -/
theorem updatePlayersDB_rows_kept (steamId : Nat) :
    ∀ (i : Nat) (players : List AllPlayerData) (db : Database),
      (∀ j e, players[j]? = some e → e.steamId = steamId → fails (i + j) = true) →
      (updatePlayersDB fails i players db).players.filter (·.steamId == steamId) =
        db.players.filter (·.steamId == steamId)
  | _, [], _, _ => rfl
  | i, data :: rest, db, failed => by
      rw [updatePlayersDB, updatePlayersDB_rows_kept steamId (i + 1) rest _ fun j e entry same => by
        simpa [Nat.add_right_comm, Nat.add_assoc] using failed (j + 1) e (by simpa using entry) same]
      rw [updatePlayerDB_rows, if_neg]
      rintro ⟨inserted, same⟩
      have failedHere := failed 0 data List.getElem?_cons_zero same
      rw [Nat.add_zero, inserted] at failedHere
      cases failedHere

/-- Where steam ids are unique, an entry whose `INSERT` succeeds is the one row of
its steam id when the loop ends. -/
theorem updatePlayersDB_rows_written :
    ∀ (i : Nat) (players : List AllPlayerData) (db : Database), (players.map (·.steamId)).Nodup →
      ∀ j e, players[j]? = some e → fails (i + j) = false →
        (updatePlayersDB fails i players db).players.filter (·.steamId == e.steamId) = [e]
  | _, [], _, _, _, _, entry, _ => by simp at entry
  | i, data :: rest, db, unique, j, e, entry, inserted => by
      obtain ⟨fresh, restUnique⟩ := List.nodup_cons.mp unique
      rw [updatePlayersDB]
      cases j with
      | zero =>
          -- the entry is written first, and no later entry has its steam id
          simp only [List.getElem?_cons_zero, Option.some.injEq] at entry
          subst entry
          rw [updatePlayersDB_rows_kept fails _ (i + 1) rest _ fun j' e' entry' same =>
            absurd (List.mem_map.mpr ⟨e', List.getElem?_mem entry', same⟩) fresh]
          rw [updatePlayerDB_rows, if_pos ⟨inserted, rfl⟩]
      | succ j =>
          exact updatePlayersDB_rows_written (i + 1) rest _ restUnique j e (by simpa using entry)
            (by rw [Nat.add_right_comm, Nat.add_assoc]; exact inserted)

end Loop

/-- The `Players` table after a world save that completes is the one the loop of
`UpdatePlayerDB` calls leaves. -/
theorem hookAShooterGameModeSaveWorld_players {faults : SaveWorldFaults} {st st' : ServerState}
    (saved : hookAShooterGameModeSaveWorld faults st = some st') :
    st'.pve.db.players =
      (updatePlayersDB faults.playerInsertFails 0 st.timerProt.allPlayers st.pve.db).players := by
  unfold hookAShooterGameModeSaveWorld at saved
  simp only [Option.bind_eq_bind, Option.bind_eq_some, Option.pure_def, Option.some.injEq] at saved
  obtain ⟨protectedPass, protectedRun, removedPass, removedRun, rfl⟩ := saved
  have keeps : ∀ (stillProtected : Bool) (dbFaults : Nat → DbFaults) (rows : List AllPlayerData)
      i t (store : PveStore), store.db.players = rows →
        (updatePVETribeDB (dbFaults i) t stillProtected store).db.players = rows :=
    fun _ _ _ _ _ _ same => (updatePVETribeDB_players _ _ _ _).trans same
  exact rangeFor_keeps _ _ _ (keeps false faults.removedFaults _) _ 0 _ _ removedRun
    (rangeFor_keeps _ _ _ (keeps true faults.pveFaults _) _ 0 _ _ protectedRun rfl)

/-! ## A save writes every player -/

/-- A world save that completes, whichever calls fail, writes each entry of
`all_players_` whose `INSERT` succeeds as the one row of its steam id. Every
steam id all of whose entries' `INSERT`s fail, or that has no entry, keeps its
rows. -/
theorem hookAShooterGameModeSaveWorld_writes_players {faults : SaveWorldFaults}
    {st st' : ServerState} (unique : (st.timerProt.allPlayers.map (·.steamId)).Nodup)
    (saved : hookAShooterGameModeSaveWorld faults st = some st') :
    (∀ j e, st.timerProt.allPlayers[j]? = some e → faults.playerInsertFails j = false →
        st'.pve.db.players.filter (·.steamId == e.steamId) = [e]) ∧
      ∀ steamId, (∀ j e, st.timerProt.allPlayers[j]? = some e → e.steamId = steamId →
          faults.playerInsertFails j = true) →
        st'.pve.db.players.filter (·.steamId == steamId) =
          st.pve.db.players.filter (·.steamId == steamId) := by
  rw [hookAShooterGameModeSaveWorld_players saved]
  refine ⟨fun j e entry inserted => ?_, fun steamId failed => ?_⟩
  · exact updatePlayersDB_rows_written _ 0 _ _ unique j e entry (by rwa [Nat.zero_add])
  · exact updatePlayersDB_rows_kept _ steamId 0 _ _ fun j e entry same => by
      rw [Nat.zero_add]
      exact failed j e entry same

/-- Players 1 and 2, the table holding an old row of player 1 and a row of player
3, the `INSERT` of player 2 failing: the save replaces player 1's row, and player
2's and 3's rows stay as they were. -/
theorem hookAShooterGameModeSaveWorld_writes_players_failed_insert :
    let st : ServerState :=
      { ServerState.initial ⟨⟨[⟨1, 200000, 0, 0, 1, 1⟩, ⟨3, 200001, 0, 0, 9, 0⟩], []⟩, [], []⟩ 0 with
        timerProt := ⟨[⟨1, 200000, 0, seconds 50, 4, 1⟩, ⟨2, 200002, 0, 0, 1, 1⟩], []⟩ }
    let faults : SaveWorldFaults := ⟨(· == 1), fun _ => .none, fun _ => .none⟩
    let st' : ServerState := { st with pve :=
      ⟨⟨[⟨3, 200001, 0, 0, 9, 0⟩, ⟨1, 200000, 0, seconds 50, 4, 1⟩], []⟩, [], []⟩ }
    (st.timerProt.allPlayers.map (·.steamId)).Nodup ∧
      hookAShooterGameModeSaveWorld faults st = some st' ∧
      (∀ j e, st.timerProt.allPlayers[j]? = some e → faults.playerInsertFails j = false →
          st'.pve.db.players.filter (·.steamId == e.steamId) = [e]) ∧
        ∀ steamId, (∀ j e, st.timerProt.allPlayers[j]? = some e → e.steamId = steamId →
            faults.playerInsertFails j = true) →
          st'.pve.db.players.filter (·.steamId == steamId) =
            st.pve.db.players.filter (·.steamId == steamId) := by
  intro st faults st'
  have unique : (st.timerProt.allPlayers.map (·.steamId)).Nodup := by decide
  have saved : hookAShooterGameModeSaveWorld faults st = some st' :=
    hookAShooterGameModeSaveWorld_of_pve (by decide)
  exact ⟨unique, saved, hookAShooterGameModeSaveWorld_writes_players unique saved⟩

end NewPlayerProtection

import NewPlayerProtection.Hooks

/-!
# The world-save loops

`Hook_AShooterGameMode_SaveWorld` ends with two range-`for` loops calling
`UpdatePVETribeDB`: over `pveTribesList` with `stillProtected = 1`, and over
`removedPveTribesList` with `stillProtected = 0`. The second call clears both
in-memory lists, the one being iterated included. With one element the loop ends
right after, and the save leaves every tribe of `pveTribesList` marked protected
in the table but the removed one, marked not protected; with two or more, when
no database call fails, the next iteration reads the second element of a vector
that has just been cleared.

Whichever database calls fail, a save that completes keeps every tribe of
`pveTribesList` marked protected in the table
(`PveStore.Backed.hookAShooterGameModeSaveWorld`): `UpdatePVETribeDB` reloads the
list only from rows of the table, and writes no protected row away.
-/

namespace NewPlayerProtection

section Loops

variable {σ : Type*} (vec : σ → List Nat) (body : Nat → Nat → σ → σ)

/-- A loop whose body leaves the vector alone reads only present elements, in
order: a property of the position reached and the store that each visit keeps
holds when the loop completes. -/
theorem rangeFor_visits (keeps : ∀ i x store, vec (body i x store) = vec store)
    (Q : Nat → σ → Prop)
    (visit : ∀ i store (present : i < (vec store).length), Q i store →
      Q (i + 1) (body i ((vec store).get ⟨i, present⟩) store)) :
    ∀ (remaining i : Nat) (store : σ), i + remaining ≤ (vec store).length → Q i store →
      ∃ store', rangeFor vec body remaining i store = some store' ∧ Q (i + remaining) store'
  | 0, _, store, _, holds => ⟨store, rfl, holds⟩
  | remaining + 1, i, store, fits, holds => by
      obtain ⟨store', run, holds'⟩ := rangeFor_visits keeps Q visit remaining (i + 1)
        (body i ((vec store).get ⟨i, by omega⟩) store) (by rw [keeps]; omega)
        (visit i store (by omega) holds)
      refine ⟨store', ?_, by rwa [Nat.add_right_comm, Nat.add_assoc] at holds'⟩
      rw [rangeFor, List.getElem?_eq_getElem (by omega)]
      exact run

/-- A loop whose first body empties the vector reads past its end on the second
iteration. -/
theorem rangeFor_of_empties {store : σ} {x : Nat} (first : (vec store)[0]? = some x)
    (empties : vec (body 0 x store) = []) (remaining : Nat) :
    rangeFor vec body (remaining + 2) 0 store = none := by
  simp [rangeFor, first, empties]

/-- A property of the store that every visit keeps holds when the loop completes. -/
theorem rangeFor_keeps (Q : σ → Prop) (visit : ∀ i x store, Q store → Q (body i x store)) :
    ∀ (remaining i : Nat) (store store' : σ), rangeFor vec body remaining i store = some store' →
      Q store → Q store'
  | 0, _, _, _, run, holds => by
      cases run
      exact holds
  | remaining + 1, i, store, store', run, holds => by
      rw [rangeFor] at run
      split at run
      · cases run
      · exact rangeFor_keeps Q visit remaining (i + 1) _ store' run (visit _ _ _ holds)

end Loops

theorem updatePVETribeDB_protected_lists (tribeId : Nat) (store : PveStore) :
    let store' := updatePVETribeDB .none tribeId true store
    store'.pveTribesList = store.pveTribesList ∧
      store'.removedPveTribesList = store.removedPveTribesList := by
  simp [updatePVETribeDB, DbFaults.none]

theorem updatePVETribeDB_unprotected_clears (tribeId : Nat) (store : PveStore) :
    (updatePVETribeDB .none tribeId false store).removedPveTribesList = [] := by
  simp [updatePVETribeDB, DbFaults.none]

/-- The loop over `pveTribesList` of a world save in which no database call fails:
it keeps both lists and marks every tribe of `pveTribesList` protected. -/
theorem pveTribesLoop_marks (store : PveStore) :
    ∃ store', rangeFor (·.pveTribesList)
        (fun i t => updatePVETribeDB (SaveWorldFaults.none.pveFaults i) t true)
        store.pveTribesList.length 0 store = some store' ∧
      store'.pveTribesList = store.pveTribesList ∧
      store'.removedPveTribesList = store.removedPveTribesList ∧
      ∀ t ∈ store.pveTribesList, store'.db.pveTribes.filter (·.1 == t) = [(t, true)] := by
  obtain ⟨store', run, lists, removed, marked⟩ := rangeFor_visits (·.pveTribesList)
    (fun i t => updatePVETribeDB (SaveWorldFaults.none.pveFaults i) t true)
    (fun _ t store => (updatePVETribeDB_protected_lists t store).1)
    (fun i current => current.pveTribesList = store.pveTribesList ∧
      current.removedPveTribesList = store.removedPveTribesList ∧
      ∀ t ∈ store.pveTribesList.take i, current.db.pveTribes.filter (·.1 == t) = [(t, true)])
    (fun i current present ⟨lists, removed, marked⟩ => by
      obtain ⟨keptLists, keptRemoved⟩ :=
        updatePVETribeDB_protected_lists (current.pveTribesList.get ⟨i, present⟩) current
      refine ⟨keptLists.trans lists, keptRemoved.trans removed, fun t mem => ?_⟩
      simp only [SaveWorldFaults.none, DbFaults.none, updatePVETribeDB, Bool.false_eq_true,
        if_false, Bool.not_true]
      by_cases same : t = current.pveTribesList.get ⟨i, present⟩
      · rw [same]
        exact filter_insertOrReplace_self (·.1 : Nat × Bool → Nat) (_, true) _
      · rw [← lists, List.take_succ, List.getElem?_eq_getElem present] at mem
        have old := (List.mem_append.mp mem).resolve_right (by simpa using same)
        exact (filter_insertOrReplace_of_ne (·.1 : Nat × Bool → Nat) _ _ (Ne.symm same)).trans (marked t (lists ▸ old)))
    store.pveTribesList.length 0 store (by simp) ⟨rfl, rfl, by simp⟩
  exact ⟨store', run, lists, removed, fun t mem => marked t (by simpa using mem)⟩

/-- When no database call fails and `removedPveTribesList` holds two tribes or
more, the world save reads an element of `removedPveTribesList` after
`UpdatePVETribeDB` has cleared it. -/
theorem hookAShooterGameModeSaveWorld_reads_cleared (st : ServerState)
    (twoRemoved : 2 ≤ st.pve.removedPveTribesList.length) :
    hookAShooterGameModeSaveWorld .none st = none := by
  unfold hookAShooterGameModeSaveWorld
  dsimp only
  obtain ⟨pve', run, -, removed, -⟩ := pveTribesLoop_marks
    { st.pve with
      db := updatePlayersDB SaveWorldFaults.none.playerInsertFails 0 st.timerProt.allPlayers st.pve.db }
  dsimp only at removed
  rw [run]
  obtain ⟨r₀, r₁, rest, listed⟩ : ∃ r₀ r₁ rest, pve'.removedPveTribesList = r₀ :: r₁ :: rest := by
    rw [removed]
    match st.pve.removedPveTribesList, twoRemoved with
    | r₀ :: r₁ :: rest, _ => exact ⟨r₀, r₁, rest, rfl⟩
  simp only [Option.bind_eq_bind, Option.some_bind, listed, List.length_cons]
  rw [rangeFor_of_empties _ _ (by simp [listed]) (updatePVETribeDB_unprotected_clears r₀ pve')]
  rfl

/-- Three removed tribes, one protected tribe and one player: the save reads the
cleared vector. -/
theorem hookAShooterGameModeSaveWorld_reads_cleared_three :
    let st : ServerState :=
      { ServerState.initial ⟨⟨[], [(200004, true)]⟩, [200004], [200001, 200002, 200003]⟩ 0 with
        timerProt := ⟨[⟨1, 200004, 0, 0, 1, 1⟩], []⟩ }
    2 ≤ st.pve.removedPveTribesList.length ∧ hookAShooterGameModeSaveWorld .none st = none := by
  intro st
  have twoRemoved : 2 ≤ st.pve.removedPveTribesList.length := by decide
  exact ⟨twoRemoved, hookAShooterGameModeSaveWorld_reads_cleared st twoRemoved⟩

/-- Two removed tribes and nothing else: the second iteration of the loop over
`removedPveTribesList` reads the cleared vector. -/
theorem hookAShooterGameModeSaveWorld_two_removed_tribes :
    hookAShooterGameModeSaveWorld .none
      (ServerState.initial ⟨⟨[], []⟩, [], [200001, 200002]⟩ 0) = none := rfl

/-! ## The in-memory list stays backed by the table -/

theorem updatePlayersDB_pveTribes (fails : Nat → Bool) :
    ∀ (i : Nat) (players : List AllPlayerData) (db : Database),
      (updatePlayersDB fails i players db).pveTribes = db.pveTribes
  | _, [], _ => rfl
  | i, data :: rest, db => by
      rw [updatePlayersDB, updatePlayersDB_pveTribes fails (i + 1) rest]
      unfold updatePlayerDB
      split <;> rfl

/-- A world save that completes changes the PVE store only. -/
theorem hookAShooterGameModeSaveWorld_only_pve {faults : SaveWorldFaults} {st st' : ServerState}
    (saved : NewPlayerProtection.hookAShooterGameModeSaveWorld faults st = some st') :
    st' = { st with pve := st'.pve } := by
  unfold NewPlayerProtection.hookAShooterGameModeSaveWorld at saved
  simp only [Option.bind_eq_bind, Option.bind_eq_some, Option.pure_def, Option.some.injEq] at saved
  obtain ⟨_, _, _, _, rfl⟩ := saved
  rfl

/-- So a world save's result is known from the store it leaves. -/
theorem hookAShooterGameModeSaveWorld_of_pve {faults : SaveWorldFaults} {st : ServerState}
    {pve : PveStore}
    (saved : (NewPlayerProtection.hookAShooterGameModeSaveWorld faults st).map (·.pve) = some pve) :
    NewPlayerProtection.hookAShooterGameModeSaveWorld faults st = some { st with pve := pve } := by
  obtain ⟨st', returned, rfl⟩ := Option.map_eq_some'.mp saved
  rw [returned]
  exact congrArg some (hookAShooterGameModeSaveWorld_only_pve returned)

/-- A world save that completes keeps `pveTribesList` backed by the table, whichever
database calls fail. -/
theorem PveStore.Backed.hookAShooterGameModeSaveWorld {faults : SaveWorldFaults}
    {st st' : ServerState} (backed : st.pve.Backed)
    (saved : NewPlayerProtection.hookAShooterGameModeSaveWorld faults st = some st') :
    st'.pve.Backed := by
  unfold NewPlayerProtection.hookAShooterGameModeSaveWorld at saved
  simp only [Option.bind_eq_bind, Option.bind_eq_some, Option.pure_def, Option.some.injEq] at saved
  obtain ⟨protectedPass, protectedRun, removedPass, removedRun, rfl⟩ := saved
  have playersWritten : PveStore.Backed { st.pve with
      db := updatePlayersDB faults.playerInsertFails 0 st.timerProt.allPlayers st.pve.db } := by
    intro t mem
    rw [updatePlayersDB_pveTribes]
    exact backed t mem
  have visit : ∀ (stillProtected : Bool) (dbFaults : Nat → DbFaults) i t (store : PveStore),
      store.Backed → (NewPlayerProtection.updatePVETribeDB (dbFaults i) t stillProtected store).Backed :=
    fun stillProtected dbFaults i t _ backed => backed.updatePVETribeDB (dbFaults i) t stillProtected
  exact rangeFor_keeps _ _ _ (visit false faults.removedFaults) _ 0 _ _ removedRun
    (rangeFor_keeps _ _ _ (visit true faults.pveFaults) _ 0 _ _ protectedRun playersWritten)

end NewPlayerProtection

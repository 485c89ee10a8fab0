import NewPlayerProtection.TimerProt

/-!
# The persistent store

The plugin keeps players and PVE tribes in an embedded SQLite database and the
PVE tribes also in memory, in `pveTribesList` and `removedPveTribesList`. This
file models the two tables and the two functions that write them,
`UpdatePlayerDB` and `UpdatePVETribeDB`.

The schema is created outside this file; `INSERT OR REPLACE` keyed on the first
column (`SteamId`, `TribeId`) is what the statements imply, so a table is a list
of rows in storage order where a replaced row is deleted and the new row
appended. Timestamps are stored through `GetTimestamp`; a row here holds the
time itself.

Every database call can fail with an `sqlite_exception`. `DbFaults` says how the
calls of one `UpdatePVETribeDB` go: whether the `INSERT` fails, and whether the
`SELECT` fails after delivering some number of rows to its callback.
-/

namespace NewPlayerProtection

/-- The `Players` and `PVE_Tribes` tables, as rows in storage order. -/
structure Database where
  players : List AllPlayerData
  pveTribes : List (Nat × Bool)
deriving DecidableEq, Repr

/-- `INSERT OR REPLACE` into a table keyed by `key`: the row with the key, if
any, is deleted and the new row appended. -/
def insertOrReplace {α : Type*} (key : α → Nat) (row : α) (table : List α) : List α :=
  table.filter (key · != key row) ++ [row]

/-- The rows of one key after `INSERT OR REPLACE`: the new row alone if it has the
key, the old rows of the key otherwise. -/
theorem filter_insertOrReplace {α : Type*} (key : α → Nat) (row : α) (table : List α) (k : Nat) :
    (insertOrReplace key row table).filter (key · == k) =
      if key row = k then [row] else table.filter (key · == k) := by
  unfold insertOrReplace
  rw [List.filter_append, List.filter_filter]
  by_cases same : key row = k
  · subst same
    simp
  · rw [if_neg same, List.filter_singleton]
    have other : (key row == k) = false := by simpa using same
    rw [other, cond_false, List.append_nil]
    refine List.filter_congr fun a _ => ?_
    by_cases h : key a = k <;> simp [h, Ne.symm same]

/-- After `INSERT OR REPLACE` its key has exactly the new row. -/
theorem filter_insertOrReplace_self {α : Type*} (key : α → Nat) (row : α) (table : List α) :
    (insertOrReplace key row table).filter (key · == key row) = [row] := by
  rw [filter_insertOrReplace, if_pos rfl]

/-- The rows of every other key are left as they were. -/
theorem filter_insertOrReplace_of_ne {α : Type*} (key : α → Nat) (row : α) (table : List α)
    {k : Nat} (differs : key row ≠ k) :
    (insertOrReplace key row table).filter (key · == k) = table.filter (key · == k) := by
  rw [filter_insertOrReplace, if_neg differs]

/-- `SELECT TribeId FROM PVE_Tribes where Is_Protected = 1;`. -/
def selectProtected (pveTribes : List (Nat × Bool)) : List Nat :=
  pveTribes.filterMap fun row => if row.2 then some row.1 else none

/-- How the database calls of one `UpdatePVETribeDB` go. -/
structure DbFaults where
  insertFails : Bool
  selectFailsAfter : Option Nat
deriving DecidableEq, Repr

/-- Every database call succeeds. -/
def DbFaults.none : DbFaults := ⟨false, Option.none⟩

/-- The database with the in-memory PVE lists. -/
structure PveStore where
  db : Database
  pveTribesList : List Nat
  removedPveTribesList : List Nat
deriving DecidableEq, Repr

/-- `UpdatePlayerDB`: write the entry's row to `Players`, unless the statement
fails (the error is logged). The code binds `GetTimestamp` of the two times,
which is not in the source; the row here holds the times themselves. -/
def updatePlayerDB (insertFails : Bool) (data : AllPlayerData) (db : Database) : Database :=
  if insertFails then db else { db with players := insertOrReplace (·.steamId) data db.players }

/-- The `Players` rows of a steam id after `UpdatePlayerDB`: the entry alone when
its `INSERT` succeeds and it has the steam id, the old rows otherwise. -/
theorem updatePlayerDB_rows (insertFails : Bool) (data : AllPlayerData) (db : Database)
    (steamId : Nat) :
    (updatePlayerDB insertFails data db).players.filter (·.steamId == steamId) =
      if insertFails = false ∧ data.steamId = steamId then [data]
      else db.players.filter (·.steamId == steamId) := by
  unfold updatePlayerDB
  cases insertFails
  · simp only [Bool.false_eq_true, if_false, true_and]
    exact filter_insertOrReplace _ _ _ _
  · simp

/-- `UpdatePVETribeDB`: write the tribe's row to `PVE_Tribes`; when it is no longer
protected, clear both in-memory lists and reload `pveTribesList` from the rows
marked protected, one row at a time. A failed `INSERT` skips everything; a failed
`SELECT` keeps the rows delivered before it. -/
def updatePVETribeDB (faults : DbFaults) (tribeId : Nat) (stillProtected : Bool)
    (store : PveStore) : PveStore :=
  if faults.insertFails then store
  else
    let db := { store.db with
      pveTribes := insertOrReplace (·.1) (tribeId, stillProtected) store.db.pveTribes }
    if !stillProtected then
      let rows := selectProtected db.pveTribes
      let delivered := match faults.selectFailsAfter with
        | Option.none => rows
        | some n => rows.take n
      { db := db, removedPveTribesList := [], pveTribesList := [] ++ delivered }
    else { store with db := db }

/-- `UpdatePVETribeDB` writes `PVE_Tribes` only. -/
theorem updatePVETribeDB_players (faults : DbFaults) (tribeId : Nat) (stillProtected : Bool)
    (store : PveStore) :
    (updatePVETribeDB faults tribeId stillProtected store).db.players = store.db.players := by
  unfold updatePVETribeDB
  split
  · rfl
  · split <;> rfl

/-- Tribes 200001 and 200002 protected in the table and in memory, 200002 removed:
when the `SELECT` fails before its first row, `UpdatePVETribeDB(200002, false)`
leaves `pveTribesList` empty, neither the list before the call nor the tribes the
table marks protected. -/
theorem updatePVETribeDB_failed_select_empties_list :
    let store : PveStore := ⟨⟨[], [(200001, true), (200002, true)]⟩, [200001, 200002], [200002]⟩
    let store' := updatePVETribeDB ⟨false, some 0⟩ 200002 false store
    store'.pveTribesList = [] ∧ store'.pveTribesList ≠ store.pveTribesList ∧
      selectProtected store'.db.pveTribes = [200001] := by
  decide

/-! ## The in-memory list and the table -/

@[simp]
theorem mem_selectProtected (pveTribes : List (Nat × Bool)) (tribeId : Nat) :
    tribeId ∈ selectProtected pveTribes ↔ (tribeId, true) ∈ pveTribes := by
  simp only [selectProtected, List.mem_filterMap]
  constructor
  · rintro ⟨⟨t, isProtected⟩, mem, selected⟩
    cases isProtected <;> simp_all
  · exact fun mem => ⟨_, mem, rfl⟩

/-- Every tribe of `pveTribesList` has a row of `PVE_Tribes` marked protected. -/
def PveStore.Backed (store : PveStore) : Prop :=
  ∀ tribeId ∈ store.pveTribesList, (tribeId, true) ∈ store.db.pveTribes

instance (store : PveStore) : Decidable store.Backed :=
  inferInstanceAs (Decidable (∀ tribeId ∈ store.pveTribesList, (tribeId, true) ∈ store.db.pveTribes))

/-- `UpdatePVETribeDB` keeps `pveTribesList` backed by the table, whichever of its
calls fails: a reload, complete or cut short, reads rows of the table, and
writing a tribe's row protected keeps every protected row. -/
theorem PveStore.Backed.updatePVETribeDB {store : PveStore} (backed : store.Backed)
    (faults : DbFaults) (tribeId : Nat) (stillProtected : Bool) :
    (NewPlayerProtection.updatePVETribeDB faults tribeId stillProtected store).Backed := by
  intro t mem
  unfold NewPlayerProtection.updatePVETribeDB at mem ⊢
  split
  · next insertFailed => simpa [insertFailed] using backed t (by simpa [insertFailed] using mem)
  · next inserted =>
    cases stillProtected
    · -- the reload reads the rows marked protected, possibly only the first ones
      simp only [inserted, Bool.false_eq_true, if_false, Bool.not_false, if_true,
        List.nil_append] at mem ⊢
      rw [← mem_selectProtected]
      split at mem
      · exact mem
      · exact List.mem_of_mem_take mem
    · -- the list is kept and the tribe's row now marks it protected
      simp only [inserted, Bool.false_eq_true, if_false, Bool.not_true] at mem ⊢
      by_cases same : t = tribeId
      · simp [insertOrReplace, same]
      · simp [insertOrReplace, same, backed t mem]

/-- A range-`for` over the vector `vec store` whose body may change it. The
positions of the vector as it was when the loop began are visited in order,
each read from the vector's current contents; reading a position past its
current size reads a destroyed element, undefined behaviour (`none`). The body
gets the position and the element read. -/
def rangeFor {σ : Type*} (vec : σ → List Nat) (body : Nat → Nat → σ → σ) :
    (remaining position : Nat) → σ → Option σ
  | 0, _, store => some store
  | remaining + 1, i, store =>
      match (vec store)[i]? with
      | Option.none => Option.none
      | some x => rangeFor vec body remaining (i + 1) (body i x store)

end NewPlayerProtection

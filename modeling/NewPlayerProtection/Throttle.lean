import NewPlayerProtection.Tracker

/-!
# The message throttle

`IsNextMessageReady` limits how often a player is notified. Each online entry
carries `nextMessageTime`; a call for the player at `now` is ready when
`duration_cast<seconds>(nextMessageTime - now)` is at most zero, and a ready call
moves `nextMessageTime` to `MessageIntervalInSecs` seconds past `now`. A player
who is not online is always ready.

The cast truncates toward zero, so a call is ready once less than one whole
second remains (`durationCastSeconds_nonpos_iff`): the gate has whole-second
resolution. Across any run of tracker operations in which the player stays
online and no call for them comes before the first, two ready calls for the
player are more than `MessageIntervalInSecs - 1` seconds apart
(`isNextMessageReady_ready_calls_apart`). The bound is exact: after a ready call,
the next call for the player is ready exactly when it comes more than
`MessageIntervalInSecs - 1` seconds later
(`isNextMessageReady_ready_iff_interval_elapsed`).

After `AddOnlinePlayer` creates an entry, only `IsNextMessageReady` writes its
`nextMessageTime`. The timer's updates keep every online entry's steam id and
next message time, a login only appends an entry, and a logout erases the entry
of its own player, so an online player's next message time changes only at a
call for that player.
-/

namespace NewPlayerProtection

/-- What `IsNextMessageReady` reads of an online entry: its steam id and its next
message time. -/
def OnlinePlayersData.messageKey (onlineData : OnlinePlayersData) : Nat × Int :=
  (onlineData.steamId, onlineData.nextMessageTime)

theorem clearOnlineMatch_messageKey (admin : Nat → Bool) (steamId tribeId : Nat)
    (onlineData : OnlinePlayersData) :
    (clearOnlineMatch admin steamId tribeId onlineData).messageKey = onlineData.messageKey := by
  unfold clearOnlineMatch
  split <;> rfl

namespace TimerProt

/-- The `nextMessageTime` that `IsNextMessageReady` reads for the steam id, that of
its first online entry; `none` when the player is not online. -/
def nextMessageTime (tp : TimerProt) (steamId : Nat) : Option Int :=
  (tp.onlinePlayers.find? (·.steamId == steamId)).map (·.nextMessageTime)

/-! ## What each operation does to a next message time -/

/-- The lookup reads the online entries' steam ids and next message times only. -/
theorem nextMessageTime_of_messageKeys {tp tp' : TimerProt}
    (same : tp'.onlinePlayers.map (·.messageKey) = tp.onlinePlayers.map (·.messageKey))
    (steamId : Nat) : tp'.nextMessageTime steamId = tp.nextMessageTime steamId := by
  have lookup : ∀ tp : TimerProt, tp.nextMessageTime steamId =
      ((tp.onlinePlayers.map (·.messageKey)).find? (·.1 == steamId)).map (·.2) := fun tp => by
    simp [nextMessageTime, List.find?_map, Function.comp_def, OnlinePlayersData.messageKey]
  rw [lookup, same, ← lookup]

variable (tp : TimerProt)

/-- `UpdateLevelAndTribe` writes levels and tribes only. -/
theorem messageKeys_updateLevelAndTribe (stats : Nat → Option PlayerState) (j : Nat) :
    (tp.updateLevelAndTribe stats j).onlinePlayers.map (·.messageKey) =
      tp.onlinePlayers.map (·.messageKey) := by
  unfold updateLevelAndTribe
  split
  · rfl
  · rename_i data entry
    split
    · rfl
    · rw [List.map_set]
      exact set_self (by simp [entry, OnlinePlayersData.messageKey])

theorem messageKeys_updateLevelsAndTribes (stats : Nat → Option PlayerState) :
    (tp.updateLevelsAndTribes stats).onlinePlayers.map (·.messageKey) =
      tp.onlinePlayers.map (·.messageKey) := by
  unfold updateLevelsAndTribes
  generalize List.range tp.onlinePlayers.length = positions
  induction positions generalizing tp with
  | nil => rfl
  | cons j rest ih => exact (ih _).trans (tp.messageKeys_updateLevelAndTribe stats j)

/-- A login only appends online entries. -/
theorem exists_onlinePlayers_handleNewPlayer (steamId teamId : Nat) (now : Int) :
    ∃ added, (tp.handleNewPlayer steamId teamId now).onlinePlayers = tp.onlinePlayers ++ added := by
  have appends : ∀ tp : TimerProt,
      ∃ added, (tp.addOnlinePlayer steamId teamId now).onlinePlayers = tp.onlinePlayers ++ added := by
    intro tp
    unfold addOnlinePlayer
    split
    · exact ⟨[], (List.append_nil _).symm⟩
    · split <;> exact ⟨_, rfl⟩
  unfold handleNewPlayer
  dsimp only
  split
  · simpa using appends (tp.addNewPlayer steamId teamId now)
  · exact appends tp

/-- Appending entries keeps the next message time of a player who is online. -/
theorem nextMessageTime_of_append {tp tp' : TimerProt} {added : List OnlinePlayersData}
    (appended : tp'.onlinePlayers = tp.onlinePlayers ++ added) {steamId : Nat} {next : Int}
    (due : tp.nextMessageTime steamId = some next) : tp'.nextMessageTime steamId = some next := by
  unfold nextMessageTime at due ⊢
  rw [appended, List.find?_append]
  cases found : tp.onlinePlayers.find? (·.steamId == steamId) with
  | none => simp [found] at due
  | some data => simpa [found] using due

/-- A logout keeps the next message time of every other player. -/
theorem nextMessageTime_removePlayer_of_ne {steamId' steamId : Nat} (other : steamId' ≠ steamId) :
    (tp.removePlayer steamId').nextMessageTime steamId = tp.nextMessageTime steamId := by
  unfold nextMessageTime removePlayer
  rw [find?_eraseP_of_disjoint fun onlineData same => by
    rw [beq_iff_eq] at same
    simp [same, other]]

/-- A call for one player keeps the next message time of every other. -/
theorem nextMessageTime_isNextMessageReady_of_ne (interval : Int) {steamId' steamId : Nat}
    (other : steamId' ≠ steamId) (now : Int) :
    (tp.isNextMessageReady interval steamId' now).2.nextMessageTime steamId =
      tp.nextMessageTime steamId := by
  unfold isNextMessageReady
  split
  · rfl
  · split
    · unfold nextMessageTime
      dsimp only
      rw [find?_modifyFirst_of_disjoint _ _ (fun onlineData same => by
        rw [beq_iff_eq] at same
        simp [same, other]) (fun _ => by rfl)]
    · rfl

/-- `IsNextMessageReady` for an online player whose next message time is `next`:
ready exactly when less than a second remains, and a ready call moves the next
message time `interval` seconds past `now`. -/
theorem isNextMessageReady_of_nextMessageTime {steamId : Nat} {next : Int}
    (due : tp.nextMessageTime steamId = some next) (interval now : Int) :
    (tp.isNextMessageReady interval steamId now).1 = decide (next - now < ticksPerSecond) ∧
      (tp.isNextMessageReady interval steamId now).2.nextMessageTime steamId =
        some (if next - now < ticksPerSecond then now + seconds interval else next) := by
  unfold nextMessageTime at due
  obtain ⟨data, found, rfl⟩ := Option.map_eq_some'.mp due
  unfold isNextMessageReady
  rw [found]
  dsimp only
  by_cases ready : data.nextMessageTime - now < ticksPerSecond
  · rw [if_pos ((durationCastSeconds_nonpos_iff _).mpr ready)]
    dsimp only
    rw [nextMessageTime, find?_modifyFirst_self _ _ (fun _ => by rfl), found]
    simp [ready]
  · rw [if_neg (mt (durationCastSeconds_nonpos_iff _).mp ready)]
    simp [ready, nextMessageTime, found]

/-- A call that is not ready changes nothing. -/
theorem isNextMessageReady_of_not_ready {interval : Int} {steamId : Nat} {now : Int}
    (notReady : (tp.isNextMessageReady interval steamId now).1 = false) :
    (tp.isNextMessageReady interval steamId now).2 = tp := by
  unfold isNextMessageReady at notReady ⊢
  split
  · rfl
  · next data found =>
    rw [found] at notReady
    split
    · next ready => simp [ready] at notReady
    · rfl

/-- A call keeps every online player online. -/
theorem nextMessageTime_isSome_isNextMessageReady {steamId : Nat}
    (online : (tp.nextMessageTime steamId).isSome) (interval : Int) (steamId' : Nat) (now : Int) :
    ((tp.isNextMessageReady interval steamId' now).2.nextMessageTime steamId).isSome := by
  by_cases same : steamId' = steamId
  · subst same
    obtain ⟨next, due⟩ := Option.isSome_iff_exists.mp online
    rw [(tp.isNextMessageReady_of_nextMessageTime due interval now).2]
    rfl
  · rwa [tp.nextMessageTime_isNextMessageReady_of_ne interval same now]

end TimerProt

/-- Revoking protection writes protection flags only. -/
theorem messageKeys_removeExpiredTribesProtection (cfg : Config) (admin : Nat → Bool)
    (now : Int) (tp : TimerProt) :
    (removeExpiredTribesProtection cfg admin now tp).onlinePlayers.map (·.messageKey) =
      tp.onlinePlayers.map (·.messageKey) := by
  unfold removeExpiredTribesProtection
  generalize List.range tp.allPlayers.length = positions
  induction positions generalizing tp with
  | nil => rfl
  | cons i rest ih =>
      refine (ih _).trans ?_
      unfold removeExpiredStep
      split
      · rfl
      · split
        · simp [clearOnlineMatch_messageKey]
        · rfl

/-- An operation that is neither a logout nor a message check of an online player
keeps the player's next message time. -/
theorem TrackerOp.nextMessageTime_apply (cfg : Config) (admin : Nat → Bool) {op : TrackerOp}
    {tp : TimerProt} {steamId : Nat} {next : Int} (due : tp.nextMessageTime steamId = some next)
    (noLogout : op ≠ .logout steamId) (noCheck : ∀ now, op ≠ .isNextMessageReady steamId now) :
    (op.apply cfg admin tp).nextMessageTime steamId = some next := by
  cases op with
  | addPlayerFromDB => simpa [apply, TimerProt.nextMessageTime] using due
  | handleNewPlayer steamId' teamId now =>
      obtain ⟨added, appended⟩ := tp.exists_onlinePlayers_handleNewPlayer steamId' teamId now
      exact TimerProt.nextMessageTime_of_append appended due
  | logout steamId' =>
      have other : steamId' ≠ steamId := fun same => noLogout (same ▸ rfl)
      exact (tp.nextMessageTime_removePlayer_of_ne other).trans due
  | updateTimer stats now =>
      rw [apply, TimerProt.nextMessageTime_of_messageKeys
        ((messageKeys_removeExpiredTribesProtection cfg admin now _).trans
          (tp.messageKeys_updateLevelsAndTribes stats))]
      exact due
  | isNextMessageReady steamId' now =>
      have other : steamId' ≠ steamId := fun same => noCheck now (same ▸ rfl)
      exact (tp.nextMessageTime_isNextMessageReady_of_ne _ other now).trans due

/-! ## The throttle along runs -/

/-- The player is online and their next message is not due before `bound`. -/
def TimerProt.MessageDueNotBefore (tp : TimerProt) (steamId : Nat) (bound : Int) : Prop :=
  ∃ next, tp.nextMessageTime steamId = some next ∧ bound ≤ next

/-- A ready call for an online player makes their next message due `interval`
seconds after the call. -/
theorem TimerProt.nextMessageTime_of_ready {tp : TimerProt} {steamId : Nat}
    (online : (tp.nextMessageTime steamId).isSome) {interval sentAt : Int}
    (ready : (tp.isNextMessageReady interval steamId sentAt).1 = true) :
    (tp.isNextMessageReady interval steamId sentAt).2.nextMessageTime steamId =
      some (sentAt + seconds interval) := by
  obtain ⟨next, due⟩ := Option.isSome_iff_exists.mp online
  obtain ⟨result, moved⟩ := tp.isNextMessageReady_of_nextMessageTime due interval sentAt
  rw [moved, if_pos (by simpa [result] using ready)]

namespace TimerProt.MessageDueNotBefore

variable {tp : TimerProt} {steamId : Nat} {bound : Int}

/-- A call for the player at `now` keeps their next message from coming due before
`bound`, when `bound` is at most an interval past `now`; a call for another player
leaves their next message time alone. -/
theorem isNextMessageReady (due : tp.MessageDueNotBefore steamId bound) (interval : Int)
    (steamId' : Nat) {now : Int} (notEarlier : steamId' = steamId → bound ≤ now + seconds interval) :
    (tp.isNextMessageReady interval steamId' now).2.MessageDueNotBefore steamId bound := by
  obtain ⟨next, due, notBefore⟩ := due
  by_cases same : steamId' = steamId
  · subst same
    refine ⟨_, (tp.isNextMessageReady_of_nextMessageTime due interval now).2, ?_⟩
    split
    · exact notEarlier rfl
    · exact notBefore
  · exact ⟨next, (tp.nextMessageTime_isNextMessageReady_of_ne interval same now).trans due, notBefore⟩

/-- A call is a ready call for the player, or keeps their next message from coming
due before `bound`. -/
theorem ready_or_keeps (due : tp.MessageDueNotBefore steamId bound) (interval : Int)
    (steamId' : Nat) (now : Int) :
    (steamId' = steamId ∧ (tp.isNextMessageReady interval steamId' now).1 = true) ∨
      (tp.isNextMessageReady interval steamId' now).2.MessageDueNotBefore steamId bound := by
  by_cases same : steamId' = steamId
  · cases ready : (tp.isNextMessageReady interval steamId' now).1
    · exact .inr (by rw [tp.isNextMessageReady_of_not_ready ready]; exact due)
    · exact .inl ⟨same, rfl⟩
  · exact .inr (due.isNextMessageReady interval steamId' fun same' => absurd same' same)

/-- One operation keeps the player's next message from coming due before `bound`,
unless it logs them out or checks them too early. -/
theorem apply (due : tp.MessageDueNotBefore steamId bound) (cfg : Config) (admin : Nat → Bool)
    (op : TrackerOp) (noLogout : op ≠ .logout steamId)
    (notEarlier : ∀ now, op = .isNextMessageReady steamId now →
      bound ≤ now + seconds cfg.messageIntervalInSecs) :
    (op.apply cfg admin tp).MessageDueNotBefore steamId bound := by
  by_cases check : ∃ steamId' now, op = .isNextMessageReady steamId' now
  · obtain ⟨steamId', now, rfl⟩ := check
    exact due.isNextMessageReady _ steamId' fun same => notEarlier now (by rw [same])
  · obtain ⟨next, due, notBefore⟩ := due
    exact ⟨next, TrackerOp.nextMessageTime_apply cfg admin due noLogout
      (fun now same => check ⟨steamId, now, same⟩), notBefore⟩

/-- The same along every run of operations. -/
theorem run (due : tp.MessageDueNotBefore steamId bound) (cfg : Config)
    (ops : List ((Nat → Bool) × TrackerOp)) (noLogout : ∀ op ∈ ops, op.2 ≠ .logout steamId)
    (notEarlier : ∀ op ∈ ops, ∀ now, op.2 = .isNextMessageReady steamId now →
      bound ≤ now + seconds cfg.messageIntervalInSecs) :
    (TrackerOp.run cfg ops tp).MessageDueNotBefore steamId bound :=
  TrackerOp.run_induction_of_mem (P := (·.MessageDueNotBefore steamId bound)) cfg ops
    (fun op mem _ due => due.apply cfg op.1 op.2 (noLogout op mem) (notEarlier op mem)) tp due

/-- A ready call comes less than a second before `bound`, or after it. -/
theorem ready_after (due : tp.MessageDueNotBefore steamId bound) {interval now : Int}
    (ready : (tp.isNextMessageReady interval steamId now).1 = true) :
    bound - ticksPerSecond < now := by
  obtain ⟨next, due, notBefore⟩ := due
  have gate : next - now < ticksPerSecond := by
    simpa [ready] using (tp.isNextMessageReady_of_nextMessageTime due interval now).1.symm
  omega

end TimerProt.MessageDueNotBefore

/-- Operations with no logout and no message check of an online player keep the
player's next message time. -/
theorem TrackerOp.nextMessageTime_run (cfg : Config) (ops : List ((Nat → Bool) × TrackerOp))
    {tp : TimerProt} {steamId : Nat} {next : Int} (due : tp.nextMessageTime steamId = some next)
    (quiet : ∀ op ∈ ops, op.2 ≠ .logout steamId ∧ ∀ now, op.2 ≠ .isNextMessageReady steamId now) :
    (run cfg ops tp).nextMessageTime steamId = some next :=
  run_induction_of_mem (P := (·.nextMessageTime steamId = some next)) cfg ops
    (fun op mem _ due => nextMessageTime_apply cfg op.1 due (quiet op mem).1 (quiet op mem).2) tp due

/-- Two ready calls for a player who stays online come more than
`MessageIntervalInSecs - 1` seconds apart: from any state in which the player is
online, across any run of tracker operations between the calls with no logout of
the player and no call for them earlier than the first. -/
theorem isNextMessageReady_ready_calls_apart (cfg : Config) (ops : List ((Nat → Bool) × TrackerOp))
    (tp : TimerProt) (steamId : Nat) (sentAt now : Int)
    (online : (tp.nextMessageTime steamId).isSome)
    (noLogout : ∀ op ∈ ops, op.2 ≠ .logout steamId)
    (notEarlier : ∀ op ∈ ops, ∀ t, op.2 = .isNextMessageReady steamId t → sentAt ≤ t)
    (first : (tp.isNextMessageReady cfg.messageIntervalInSecs steamId sentAt).1 = true)
    (second : ((TrackerOp.run cfg ops (tp.isNextMessageReady cfg.messageIntervalInSecs steamId
      sentAt).2).isNextMessageReady cfg.messageIntervalInSecs steamId now).1 = true) :
    seconds (cfg.messageIntervalInSecs - 1) < now - sentAt := by
  have sent : (tp.isNextMessageReady cfg.messageIntervalInSecs steamId sentAt).2.MessageDueNotBefore
      steamId (sentAt + seconds cfg.messageIntervalInSecs) :=
    ⟨_, TimerProt.nextMessageTime_of_ready online first, le_refl _⟩
  have gap := (sent.run cfg ops noLogout fun op mem t check => by
    have := notEarlier op mem t check
    omega).ready_after second
  simp only [seconds, ticksPerSecond] at gap ⊢
  omega

/-- Player 1 checked at 0, then player 2 at 10 seconds and player 1 again at 30
seconds, which is not ready: the call at 60 seconds is ready, more than 59 seconds
after the first. -/
theorem isNextMessageReady_ready_calls_apart_two_players :
    let cfg : Config := ⟨false, "", 72, 60, false, false, false, 60, 5, []⟩
    let tp : TimerProt := ⟨[⟨1, 200000, 0, 0, 1, 1⟩, ⟨2, 200001, 0, 0, 1, 1⟩],
      [⟨1, 200000, 0, 0, 1, 1, 0⟩, ⟨2, 200001, 0, 0, 1, 1, 0⟩]⟩
    let ops : List ((Nat → Bool) × TrackerOp) :=
      [(fun _ => false, .isNextMessageReady 2 (seconds 10)),
        (fun _ => false, .isNextMessageReady 1 (seconds 30))]
    let sent := tp.isNextMessageReady cfg.messageIntervalInSecs 1 0
    (tp.nextMessageTime 1).isSome ∧ (∀ op ∈ ops, op.2 ≠ .logout 1) ∧
      (∀ op ∈ ops, ∀ t, op.2 = .isNextMessageReady 1 t → 0 ≤ t) ∧ sent.1 = true ∧
      ((TrackerOp.run cfg ops sent.2).isNextMessageReady cfg.messageIntervalInSecs 1
        (seconds 60)).1 = true ∧
      seconds (cfg.messageIntervalInSecs - 1) < seconds 60 - 0 := by
  intro cfg tp ops sent
  have noLogout : ∀ op ∈ ops, op.2 ≠ .logout 1 := by simp [ops]
  have notEarlier : ∀ op ∈ ops, ∀ t, op.2 = .isNextMessageReady 1 t → 0 ≤ t := by
    simp [ops, seconds, ticksPerSecond]
  exact ⟨by decide, noLogout, notEarlier, by decide, by decide,
    isNextMessageReady_ready_calls_apart cfg ops tp 1 0 _ (by decide) noLogout notEarlier
      (by decide) (by decide)⟩

/-- The bound is exact. After a ready call for an online player at `sentAt`, and
operations with no logout of the player and no call for them, the next call, at
`now`, is ready exactly when it comes more than `MessageIntervalInSecs - 1` seconds
after the first. -/
theorem isNextMessageReady_ready_iff_interval_elapsed (cfg : Config)
    (ops : List ((Nat → Bool) × TrackerOp)) (tp : TimerProt) (steamId : Nat) (sentAt now : Int)
    (online : (tp.nextMessageTime steamId).isSome)
    (quiet : ∀ op ∈ ops, op.2 ≠ .logout steamId ∧ ∀ t, op.2 ≠ .isNextMessageReady steamId t)
    (first : (tp.isNextMessageReady cfg.messageIntervalInSecs steamId sentAt).1 = true) :
    ((TrackerOp.run cfg ops (tp.isNextMessageReady cfg.messageIntervalInSecs steamId
      sentAt).2).isNextMessageReady cfg.messageIntervalInSecs steamId now).1 = true ↔
      seconds (cfg.messageIntervalInSecs - 1) < now - sentAt := by
  have due := TrackerOp.nextMessageTime_run cfg ops (TimerProt.nextMessageTime_of_ready online first)
    quiet
  rw [(TimerProt.isNextMessageReady_of_nextMessageTime _ due _ now).1, decide_eq_true_iff]
  simp only [seconds, ticksPerSecond]
  omega

/-- Player 1 checked at 0, then player 2 checked and player 3 logging in: a call
for player 1 at 59 seconds and one tick is ready. -/
theorem isNextMessageReady_ready_iff_interval_elapsed_other_players :
    let cfg : Config := ⟨false, "", 72, 60, false, false, false, 60, 5, []⟩
    let tp : TimerProt := ⟨[⟨1, 200000, 0, 0, 1, 1⟩, ⟨2, 200001, 0, 0, 1, 1⟩],
      [⟨1, 200000, 0, 0, 1, 1, 0⟩, ⟨2, 200001, 0, 0, 1, 1, 0⟩]⟩
    let ops : List ((Nat → Bool) × TrackerOp) :=
      [(fun _ => false, .isNextMessageReady 2 (seconds 10)),
        (fun _ => false, .handleNewPlayer 3 0 (seconds 20))]
    let sent := tp.isNextMessageReady cfg.messageIntervalInSecs 1 0
    (tp.nextMessageTime 1).isSome ∧
      (∀ op ∈ ops, op.2 ≠ .logout 1 ∧ ∀ t, op.2 ≠ .isNextMessageReady 1 t) ∧ sent.1 = true ∧
      (((TrackerOp.run cfg ops sent.2).isNextMessageReady cfg.messageIntervalInSecs 1
        (seconds 59 + 1)).1 = true ↔
        seconds (cfg.messageIntervalInSecs - 1) < seconds 59 + 1 - 0) := by
  intro cfg tp ops sent
  have quiet : ∀ op ∈ ops, op.2 ≠ .logout 1 ∧ ∀ t, op.2 ≠ .isNextMessageReady 1 t := by
    simp [ops]
  exact ⟨by decide, quiet, by decide,
    isNextMessageReady_ready_iff_interval_elapsed cfg ops tp 1 0 _ (by decide) quiet (by decide)⟩

/-- Player 1 online with a message due at time 0, the interval at 60 seconds:
calls at 0 and at 59 seconds and one tick are both ready, less than 60 seconds
apart. -/
theorem isNextMessageReady_ready_twice_within_interval :
    let cfg : Config := ⟨false, "", 72, 60, false, false, false, 60, 5, []⟩
    let tp : TimerProt := ⟨[⟨1, 200000, 0, 0, 1, 1⟩], [⟨1, 200000, 0, 0, 1, 1, 0⟩]⟩
    let sent := tp.isNextMessageReady cfg.messageIntervalInSecs 1 0
    0 ≤ cfg.messageIntervalInSecs ∧ (tp.nextMessageTime 1).isSome ∧ sent.1 = true ∧
      (sent.2.isNextMessageReady cfg.messageIntervalInSecs 1 (seconds 59 + 1)).1 = true ∧
      seconds 59 + 1 - 0 < seconds cfg.messageIntervalInSecs := by
  decide

end NewPlayerProtection

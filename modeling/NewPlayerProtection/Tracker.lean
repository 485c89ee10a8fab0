import NewPlayerProtection.Expiry

/-!
# Runs of the player lists

The hooks change the two player lists through five kinds of operation: loading
a player from the database, a login (`Hook_AShooterGameMode_HandleNewPlayer`), a
logout (`Hook_AShooterGameMode_Logout`), a tick of `UpdateTimer` whose gate is
open, and `IsNextMessageReady`. A run applies a sequence of them, each under the
admin predicate in force at its time, so that the results hold whatever the
permissions cache says.

Two properties of runs are proved here. Every state reached from the empty
lists satisfies the mirror invariant (`mirrored_of_run`). And entries of
`all_players_` are never removed or moved, so an entry is identified by its
position: at every later time it has the same steam id and start time, and once
its protection is revoked it stays revoked, for it and for every online entry of
its player (`protection_never_regranted`).
-/

namespace NewPlayerProtection

/-- An operation of the hooks on the player lists. A tick of `UpdateTimer` with
its gate closed changes nothing and does not appear. -/
inductive TrackerOp where
  | addPlayerFromDB (steamId tribeId : Nat) (startDateTime lastLoginDateTime level isNewPlayer : Int)
  | handleNewPlayer (steamId teamId : Nat) (now : Int)
  | logout (steamId : Nat)
  | updateTimer (stats : Nat → Option PlayerState) (now : Int)
  | isNextMessageReady (steamId : Nat) (now : Int)

namespace TrackerOp

/-- The effect of one operation on the lists, under the admin predicate `admin`. -/
def apply (cfg : Config) (admin : Nat → Bool) : TrackerOp → TimerProt → TimerProt
  | addPlayerFromDB steamId tribeId start lastLogin level isNewPlayer, tp =>
      tp.addPlayerFromDB steamId tribeId start lastLogin level isNewPlayer
  | handleNewPlayer steamId teamId now, tp => tp.handleNewPlayer steamId teamId now
  | logout steamId, tp => tp.removePlayer steamId
  | updateTimer stats now, tp =>
      removeExpiredTribesProtection cfg admin now (tp.updateLevelsAndTribes stats)
  | isNextMessageReady steamId now, tp =>
      (tp.isNextMessageReady cfg.messageIntervalInSecs steamId now).2

/-- A run of operations, each with the admin predicate in force at its time. -/
def run (cfg : Config) : List ((Nat → Bool) × TrackerOp) → TimerProt → TimerProt
  | [], tp => tp
  | (admin, op) :: rest, tp => run cfg rest (op.apply cfg admin tp)

/-- A property kept by every operation holds after every run. -/
theorem run_induction {P : TimerProt → Prop} (cfg : Config)
    (step : ∀ (admin : Nat → Bool) (op : TrackerOp) tp, P tp → P (op.apply cfg admin tp)) :
    ∀ ops tp, P tp → P (run cfg ops tp)
  | [], _, holds => holds
  | (admin, op) :: rest, tp, holds => run_induction cfg step rest _ (step admin op tp holds)

/-- A property kept by each operation of a run holds after the run. -/
theorem run_induction_of_mem {P : TimerProt → Prop} (cfg : Config) :
    ∀ ops : List ((Nat → Bool) × TrackerOp),
      (∀ op ∈ ops, ∀ tp, P tp → P (op.2.apply cfg op.1 tp)) → ∀ tp, P tp → P (run cfg ops tp)
  | [], _, _, holds => holds
  | op :: rest, step, tp, holds =>
      run_induction_of_mem cfg rest (fun op' mem => step op' (List.mem_cons_of_mem _ mem)) _
        (step op (List.mem_cons_self _ _) tp holds)

end TrackerOp

/-! ## The mirror invariant along runs -/

theorem TimerProt.Mirrored.apply {tp : TimerProt} (inv : tp.Mirrored) (cfg : Config)
    (admin : Nat → Bool) (op : TrackerOp) : (op.apply cfg admin tp).Mirrored := by
  cases op with
  | addPlayerFromDB => exact inv.addPlayerFromDB _ _ _ _ _ _
  | handleNewPlayer => exact inv.handleNewPlayer _ _ _
  | logout => exact inv.removePlayer _
  | updateTimer stats now =>
      exact (inv.updateLevelsAndTribes stats).removeExpiredTribesProtection cfg admin now
  | isNextMessageReady => exact inv.isNextMessageReady _ _ _

theorem TimerProt.Mirrored.run {tp : TimerProt} (inv : tp.Mirrored) (cfg : Config)
    (ops : List ((Nat → Bool) × TrackerOp)) : (TrackerOp.run cfg ops tp).Mirrored :=
  TrackerOp.run_induction cfg (fun admin op _ inv => inv.apply cfg admin op) ops tp inv

/-- In every state reached from empty lists, by any run under any admin
predicates, steam ids are unique in `all_players_` and in `online_players_`, and
every online entry agrees with an `all_players_` entry on steam id, tribe,
level, start time and protection flag. -/
theorem mirrored_of_run (cfg : Config) (ops : List ((Nat → Bool) × TrackerOp)) :
    (TrackerOp.run cfg ops TimerProt.empty).Mirrored :=
  TimerProt.mirrored_empty.run cfg ops

/-! ## Entries persist -/

/-- The entry `e'` is a later state of the `all_players_` entry `e`: the same
player and start of protection, and protection not given back once revoked. -/
structure AllPlayerData.Evolves (e e' : AllPlayerData) : Prop where
  steamId : e'.steamId = e.steamId
  startDateTime : e'.startDateTime = e.startDateTime
  revoked : e.isNewPlayer = 0 → e'.isNewPlayer = 0

theorem AllPlayerData.Evolves.refl (e : AllPlayerData) : e.Evolves e := ⟨rfl, rfl, id⟩

theorem AllPlayerData.Evolves.trans {e e' e'' : AllPlayerData} (first : e.Evolves e')
    (second : e'.Evolves e'') : e.Evolves e'' :=
  ⟨second.steamId.trans first.steamId, second.startDateTime.trans first.startDateTime,
    second.revoked ∘ first.revoked⟩

/-- Every entry of `l` is at its position in `l'`, in a later state. -/
structure EntriesEvolve (l l' : List AllPlayerData) : Prop where
  entry : ∀ (k : Nat) (e : AllPlayerData), l[k]? = some e → ∃ e', l'[k]? = some e' ∧ e.Evolves e'

namespace EntriesEvolve

variable {l l' l'' : List AllPlayerData}

theorem refl (l : List AllPlayerData) : EntriesEvolve l l :=
  ⟨fun _ e entry => ⟨e, entry, .refl e⟩⟩

theorem trans (first : EntriesEvolve l l') (second : EntriesEvolve l' l'') :
    EntriesEvolve l l'' := ⟨fun k e entry => by
  obtain ⟨e', entry', ev⟩ := first.entry k e entry
  obtain ⟨e'', entry'', ev'⟩ := second.entry k e' entry'
  exact ⟨e'', entry'', ev.trans ev'⟩⟩

theorem append (l added : List AllPlayerData) : EntriesEvolve l (l ++ added) :=
  ⟨fun k e entry => ⟨e, by rw [List.getElem?_append_left (List.getElem?_eq_some.mp entry).1, entry],
    .refl e⟩⟩

theorem map {f : AllPlayerData → AllPlayerData} (later : ∀ e : AllPlayerData, e.Evolves (f e)) :
    EntriesEvolve l (l.map f) :=
  ⟨fun k e entry => ⟨f e, by simp [entry], later e⟩⟩

theorem set {i : Nat} {a v : AllPlayerData} (entry : l[i]? = some a) (later : a.Evolves v) :
    EntriesEvolve l (l.set i v) := ⟨fun k e entryK => by
  by_cases same : i = k
  · subst same
    rw [entry] at entryK
    cases entryK
    exact ⟨v, by simp [List.getElem?_set, (List.getElem?_eq_some.mp entry).1], later⟩
  · exact ⟨e, by rw [List.getElem?_set, if_neg same, entryK], .refl e⟩⟩

theorem modifyFirst {p : AllPlayerData → Bool} {f : AllPlayerData → AllPlayerData}
    (later : ∀ e : AllPlayerData, e.Evolves (f e)) : ∀ l, EntriesEvolve l (NewPlayerProtection.modifyFirst p f l)
  | [] => refl []
  | a :: rest => ⟨fun k e entry => by
      rw [modifyFirst_cons]
      split
      · cases k with
        | zero =>
            simp only [List.getElem?_cons_zero, Option.some.injEq] at entry
            exact ⟨f a, by simp, entry ▸ later a⟩
        | succ k => exact ⟨e, entry, .refl e⟩
      · cases k with
        | zero => exact ⟨e, by simpa using entry, .refl e⟩
        | succ k =>
            simp only [List.getElem?_cons_succ] at entry ⊢
            exact (modifyFirst later rest).entry k e entry⟩

end EntriesEvolve

/-- Every entry of `tp.allPlayers` is at its position in `tp'.allPlayers`, in a
later state. -/
def TimerProt.Evolves (tp tp' : TimerProt) : Prop :=
  EntriesEvolve tp.allPlayers tp'.allPlayers

namespace TimerProt

variable {tp : TimerProt}

theorem evolves_addPlayerFromDB (steamId tribeId : Nat)
    (startDateTime lastLoginDateTime level isNewPlayer : Int) :
    tp.Evolves (tp.addPlayerFromDB steamId tribeId startDateTime lastLoginDateTime level
      isNewPlayer) := by
  unfold addPlayerFromDB
  split
  · exact EntriesEvolve.refl _
  · exact EntriesEvolve.append _ _

theorem evolves_addOnlinePlayer (steamId teamId : Nat) (now : Int) :
    tp.Evolves (tp.addOnlinePlayer steamId teamId now) := by
  unfold addOnlinePlayer
  split
  · exact EntriesEvolve.refl _
  · split
    · refine EntriesEvolve.modifyFirst (fun _ => ?_) tp.allPlayers
      exact ⟨rfl, rfl, id⟩
    · exact EntriesEvolve.refl _

theorem evolves_handleNewPlayer (steamId teamId : Nat) (now : Int) :
    tp.Evolves (tp.handleNewPlayer steamId teamId now) := by
  unfold handleNewPlayer
  dsimp only
  split
  · exact EntriesEvolve.trans (evolves_addPlayerFromDB _ _ _ _ _ _) (evolves_addOnlinePlayer _ _ _)
  · exact evolves_addOnlinePlayer _ _ _

theorem evolves_isNextMessageReady (interval : Int) (steamId : Nat) (now : Int) :
    tp.Evolves (tp.isNextMessageReady interval steamId now).2 := by
  unfold isNextMessageReady
  split
  · exact EntriesEvolve.refl _
  · split <;> exact EntriesEvolve.refl _

theorem evolves_updateLevelAndTribe (stats : Nat → Option PlayerState) (j : Nat) :
    tp.Evolves (tp.updateLevelAndTribe stats j) := by
  unfold updateLevelAndTribe
  split
  · exact EntriesEvolve.refl _
  · split
    · exact EntriesEvolve.refl _
    · refine EntriesEvolve.modifyFirst (fun _ => ?_) tp.allPlayers
      exact ⟨rfl, rfl, id⟩

theorem evolves_updateLevelsAndTribes (stats : Nat → Option PlayerState) :
    tp.Evolves (tp.updateLevelsAndTribes stats) := by
  unfold updateLevelsAndTribes
  generalize List.range tp.onlinePlayers.length = positions
  induction positions generalizing tp with
  | nil => exact EntriesEvolve.refl _
  | cons j rest ih => exact EntriesEvolve.trans (evolves_updateLevelAndTribe stats j) ih

end TimerProt

theorem evolves_removeExpiredStep (cfg : Config) (admin : Nat → Bool) (now : Int)
    (tp : TimerProt) (i : Nat) : tp.Evolves (removeExpiredStep cfg admin now tp i) := by
  unfold removeExpiredStep
  split
  · exact EntriesEvolve.refl _
  · rename_i allData entry
    split
    · refine EntriesEvolve.trans (EntriesEvolve.set entry ?_) (EntriesEvolve.map fun e => ?_)
      · exact ⟨rfl, rfl, fun _ => rfl⟩
      · unfold clearTribeMember
        split
        · exact ⟨rfl, rfl, fun _ => rfl⟩
        · exact .refl e
    · exact EntriesEvolve.refl _

theorem evolves_removeExpiredTribesProtection (cfg : Config) (admin : Nat → Bool) (now : Int)
    (tp : TimerProt) : tp.Evolves (removeExpiredTribesProtection cfg admin now tp) := by
  unfold removeExpiredTribesProtection
  generalize List.range tp.allPlayers.length = positions
  induction positions generalizing tp with
  | nil => exact EntriesEvolve.refl _
  | cons i rest ih => exact EntriesEvolve.trans (evolves_removeExpiredStep cfg admin now tp i) (ih _)

theorem TrackerOp.evolves_apply (cfg : Config) (admin : Nat → Bool) (op : TrackerOp)
    (tp : TimerProt) : tp.Evolves (op.apply cfg admin tp) := by
  cases op with
  | addPlayerFromDB => exact TimerProt.evolves_addPlayerFromDB _ _ _ _ _ _
  | handleNewPlayer => exact TimerProt.evolves_handleNewPlayer _ _ _
  | logout => exact EntriesEvolve.refl _
  | updateTimer stats now =>
      exact EntriesEvolve.trans (TimerProt.evolves_updateLevelsAndTribes stats)
        (evolves_removeExpiredTribesProtection cfg admin now _)
  | isNextMessageReady => exact TimerProt.evolves_isNextMessageReady _ _ _

theorem TrackerOp.evolves_run (cfg : Config) :
    ∀ (ops : List ((Nat → Bool) × TrackerOp)) (tp : TimerProt), tp.Evolves (run cfg ops tp)
  | [], tp => EntriesEvolve.refl tp.allPlayers
  | (admin, op) :: rest, tp =>
      EntriesEvolve.trans (evolves_apply cfg admin op tp) (evolves_run cfg rest _)

/-- Protection is never given back. Across any two moments of a run from empty
lists, an `all_players_` entry is still at its position with the same steam id and
start time; if its protection was revoked it is still revoked, and so is that of
every online entry of its player, in particular of one `AddOnlinePlayer` creates
on a later login. -/
theorem protection_never_regranted (cfg : Config) (earlier later : List ((Nat → Bool) × TrackerOp)) :
    let before := TrackerOp.run cfg earlier TimerProt.empty
    let after := TrackerOp.run cfg later before
    ∀ (k : Nat) (e : AllPlayerData), before.allPlayers[k]? = some e →
      ∃ e', after.allPlayers[k]? = some e' ∧ e'.steamId = e.steamId ∧
        e'.startDateTime = e.startDateTime ∧
        (e.isNewPlayer = 0 → e'.isNewPlayer = 0 ∧
          ∀ o ∈ after.onlinePlayers, o.steamId = e.steamId → o.isNewPlayer = 0) := by
  intro before after k e entry
  obtain ⟨e', entry', ev⟩ := (TrackerOp.evolves_run cfg later before).entry k e entry
  have inv : after.Mirrored := (TimerProt.mirrored_empty.run cfg earlier).run cfg later
  refine ⟨e', entry', ev.steamId, ev.startDateTime, fun revoked => ⟨ev.revoked revoked, ?_⟩⟩
  intro o oMem sameSteam
  have m := inv.mirrors oMem (List.getElem?_mem entry') (ev.steamId.trans sameSteam.symm)
  rw [← m.isNewPlayer, ev.revoked revoked]

/-- Player 1 logs in, loses protection at a tick 100 hours later, logs out and
back in: their entry and their new online entry stay unprotected. -/
theorem protection_never_regranted_after_relogin :
    let cfg : Config := ⟨false, "", 72, 60, false, false, false, 60, 5, []⟩
    let earlier : List ((Nat → Bool) × TrackerOp) :=
      [(fun _ => false, .handleNewPlayer 1 200000 0),
        (fun _ => false, .updateTimer (fun _ => none) (hours 100))]
    let later : List ((Nat → Bool) × TrackerOp) :=
      [(fun _ => false, .logout 1), (fun _ => false, .handleNewPlayer 1 200000 (hours 101))]
    let before := TrackerOp.run cfg earlier TimerProt.empty
    let after := TrackerOp.run cfg later before
    let e : AllPlayerData := ⟨1, 200000, 0, 0, 1, 0⟩
    before.allPlayers[0]? = some e ∧
      ∃ e', after.allPlayers[0]? = some e' ∧ e'.steamId = e.steamId ∧
        e'.startDateTime = e.startDateTime ∧
        (e.isNewPlayer = 0 → e'.isNewPlayer = 0 ∧
          ∀ o ∈ after.onlinePlayers, o.steamId = e.steamId → o.isNewPlayer = 0) :=
  ⟨by decide, protection_never_regranted _ _ _ 0 _ (by decide)⟩

end NewPlayerProtection

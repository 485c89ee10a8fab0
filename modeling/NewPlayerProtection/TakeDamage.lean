import NewPlayerProtection.Hooks

/-!
# The structure damage hook

`Hook_APrimalStructure_TakeDamage` decides whether damage to a structure goes
through (the hook returns what the engine's `TakeDamage` returns) or is blocked
(the hook returns 0). It reads the structure's team, the team of the damage
causer, and the class of the instigator: a dino character, a player controller,
or anything else.

The engine's actors enter the model with what the hook reads of them: targeting
team, name and class; a player controller with the steam id of its player. A
player controller found by `FindPlayerFromSteamId` is the controller of that
steam id, so `IsPlayerProtected` is applied to the instigator's steam id. The
hook's side effects on the plugin are the `nextMessageTime` updates of
`IsNextMessageReady`, and its output the notifications it sends.

In every state, the hook blocks only what protection asks for
(`hookAPrimalStructureTakeDamage_blocks_only_protected`), and it enforces that
protection. A structure of a protected tribe is shielded from non-admin players
of other teams, unless they are protected too and new players may damage enemy
structures (`hookAPrimalStructureTakeDamage_blocks_raids`). Damage from
the structure's own team always goes through
(`hookAPrimalStructureTakeDamage_own_team_passes`).
-/

namespace NewPlayerProtection

/-- The classes of actor the hook tells apart. -/
inductive ActorClass where
  | dinoCharacter
  | shooterPlayerController (steamId : Nat)
  | other
deriving DecidableEq, Repr

/-- An instigator or damage causer, as the hook reads it. -/
structure Actor where
  targetingTeam : Nat
  name : String
  actorClass : ActorClass
deriving DecidableEq, Repr

/-- Whether the actor `IsA(APrimalDinoCharacter::GetPrivateStaticClass())`. -/
def Actor.isDino (actor : Actor) : Bool := actor.actorClass == .dinoCharacter

/-- A damaged structure: its targeting team and blueprint path. -/
structure Structure where
  targetingTeam : Nat
  blueprint : String
deriving DecidableEq, Repr

/-- The three notification texts of the hook. -/
inductive Notification where
  | newPlayerDoingDamage
  | newPlayerStructureTakingDamage
  | newPlayerStructureTakingDamageFromUnknownTribemate
deriving DecidableEq, Repr

/-- What the hook returns: the result of the engine's `TakeDamage` on the same
arguments, or 0. -/
inductive TakeDamageResult where
  | original
  | blocked
deriving DecidableEq, Repr

/-- What the engine gives one call: the clock, which players are dead, and the
value `IsTribeProtected`'s predicate yields on admin entries. -/
structure DamageEnv where
  now : Int
  isPlayerDead : Nat → Bool
  adminPath : Nat → AllPlayerData → Bool

/-- The result of one call, the player lists after it, and the notifications
sent, by recipient. -/
structure TakeDamageOutcome where
  result : TakeDamageResult
  timerProt : TimerProt
  notifications : List (Nat × Notification)

/-- The hook's two tests on a dino, on the instigator and on the causer alike: a
wild dino (team below 10000) may damage when `AllowWildDinoDamage` is set, or
when `AllowWildCorruptedDinoDamage` is set and its name contains "Corrupt". -/
def wildDinoDamageAllowed (cfg : Config) (dino : Actor) : Bool :=
  (cfg.allowWildCorruptedDinoDamage && dino.targetingTeam < 10000 &&
      fStringContains dino.name "Corrupt") ||
    (cfg.allowWildDinoDamage && dino.targetingTeam < 10000)

/-- The loop over `online_players_` of the path without an instigator: each
online member of the attacking tribe whose next message is ready, and who is not
dead, is told their tribe damaged a protected structure. -/
def notifyTribemates (cfg : Config) (env : DamageEnv) (attacking : Nat) :
    List OnlinePlayersData → TimerProt → TimerProt × List (Nat × Notification)
  | [], tp => (tp, [])
  | onlineData :: rest, tp =>
      if onlineData.tribeId == attacking then
        let (ready, tp) := tp.isNextMessageReady cfg.messageIntervalInSecs onlineData.steamId env.now
        let (tp, sent) := notifyTribemates cfg env attacking rest tp
        (tp, (if ready && !env.isPlayerDead onlineData.steamId then
          [(onlineData.steamId, .newPlayerStructureTakingDamageFromUnknownTribemate)] else []) ++ sent)
      else notifyTribemates cfg env attacking rest tp

/-- Block the damage, and notify the instigating player if their next message
is ready. -/
def blockNotifying (cfg : Config) (env : DamageEnv) (tp : TimerProt) (steamId : Nat)
    (message : Notification) : TakeDamageOutcome :=
  let (ready, tp) := tp.isNextMessageReady cfg.messageIntervalInSecs steamId env.now
  ⟨.blocked, tp, if ready then [(steamId, message)] else []⟩

/-- `Hook_APrimalStructure_TakeDamage`. -/
def hookAPrimalStructureTakeDamage (cfg : Config) (env : DamageEnv) (st : ServerState)
    (this : Option Structure) (eventInstigator damageCauser : Option Actor) :
    TakeDamageOutcome :=
  let admin := isAdmin cfg st.permissionsMap
  let tribeProtected :=
    isTribeProtected admin env.adminPath st.pve.pveTribesList st.timerProt.allPlayers
  let callOriginal : TakeDamageOutcome := ⟨.original, st.timerProt, []⟩
  match this with
  | none => callOriginal
  | some target =>
      if isExemptStructure cfg target.blueprint then callOriginal
      else
        let attacked := target.targetingTeam
        match damageCauser with
        | none => if tribeProtected attacked then ⟨.blocked, st.timerProt, []⟩ else callOriginal
        | some causer =>
            let attacking := causer.targetingTeam
            match eventInstigator with
            | some instigator =>
                if instigator.isDino && wildDinoDamageAllowed cfg instigator then callOriginal
                else
                  match instigator.actorClass with
                  | .shooterPlayerController steamId =>
                      if admin steamId then callOriginal
                      else if isPlayerProtected admin st.timerProt.onlinePlayers steamId then
                        if !cfg.allowNewPlayersToDamageEnemyStructures then
                          if attacked < 100000 || attacked == attacking then callOriginal
                          else blockNotifying cfg env st.timerProt steamId .newPlayerDoingDamage
                        else callOriginal
                      else if tribeProtected attacked && attacked != attacking then
                        blockNotifying cfg env st.timerProt steamId .newPlayerStructureTakingDamage
                      else callOriginal
                  | _ => callOriginal
            | none =>
                if attacked == attacking then callOriginal
                else if tribeProtected attacked then
                  if causer.isDino && wildDinoDamageAllowed cfg causer then callOriginal
                  else
                    let (tp, sent) :=
                      notifyTribemates cfg env attacking st.timerProt.onlinePlayers st.timerProt
                    ⟨.blocked, tp, sent⟩
                else if tribeProtected attacking && !cfg.allowNewPlayersToDamageEnemyStructures then
                  ⟨.blocked, st.timerProt, []⟩
                else callOriginal

@[simp]
theorem blockNotifying_result (cfg : Config) (env : DamageEnv) (tp : TimerProt) (steamId : Nat)
    (message : Notification) : (blockNotifying cfg env tp steamId message).result = .blocked := rfl

/-- What the hook does to the player lists and sends: nothing, one
`IsNextMessageReady` call for a player, notified if ready, or the notification
loop over the online players. -/
theorem hookAPrimalStructureTakeDamage_effects (cfg : Config) (env : DamageEnv)
    (st : ServerState) (this : Option Structure) (eventInstigator damageCauser : Option Actor) :
    let outcome := hookAPrimalStructureTakeDamage cfg env st this eventInstigator damageCauser
    (outcome.timerProt = st.timerProt ∧ outcome.notifications = []) ∨
      (∃ steamId message, outcome = blockNotifying cfg env st.timerProt steamId message) ∨
      ∃ attacking, (outcome.timerProt, outcome.notifications) =
        notifyTribemates cfg env attacking st.timerProt.onlinePlayers st.timerProt := by
  -- the outcome stated once, so that each split rewrites one copy of the hook
  let shapes : TakeDamageOutcome → Prop := fun outcome =>
    (outcome.timerProt = st.timerProt ∧ outcome.notifications = []) ∨
      (∃ steamId message, outcome = blockNotifying cfg env st.timerProt steamId message) ∨
      ∃ attacking, (outcome.timerProt, outcome.notifications) =
        notifyTribemates cfg env attacking st.timerProt.onlinePlayers st.timerProt
  show shapes (hookAPrimalStructureTakeDamage cfg env st this eventInstigator damageCauser)
  dsimp only [hookAPrimalStructureTakeDamage]
  repeat' split
  all_goals first
    | exact .inl ⟨rfl, rfl⟩
    | exact .inr (.inl ⟨_, _, rfl⟩)
    | exact .inr (.inr ⟨_, rfl⟩)

/-- No over-blocking: the hook blocks damage only to a structure whose tribe is
protected, from a player who is protected, or, without an instigator, from a
causer whose tribe is protected. -/
theorem hookAPrimalStructureTakeDamage_blocks_only_protected (cfg : Config) (env : DamageEnv)
    (st : ServerState) (this : Option Structure) (eventInstigator damageCauser : Option Actor) :
    let admin := isAdmin cfg st.permissionsMap
    let tribeProtected :=
      isTribeProtected admin env.adminPath st.pve.pveTribesList st.timerProt.allPlayers
    (hookAPrimalStructureTakeDamage cfg env st this eventInstigator damageCauser).result =
        .blocked →
      ∃ target, this = some target ∧
        (tribeProtected target.targetingTeam = true ∨
          (∃ instigator steamId, eventInstigator = some instigator ∧
            instigator.actorClass = .shooterPlayerController steamId ∧
            isPlayerProtected admin st.timerProt.onlinePlayers steamId = true) ∨
          (eventInstigator = none ∧
            ∃ causer, damageCauser = some causer ∧ tribeProtected causer.targetingTeam = true)) := by
  dsimp only
  intro blocked
  rcases this with _ | target
  · cases blocked
  refine ⟨target, rfl, ?_⟩
  -- one group of return sites per causer and instigator shape
  rcases damageCauser with _ | causer
  on_goal 2 => rcases eventInstigator with _ | ⟨team, name, _ | steamId | _⟩
  all_goals dsimp only [hookAPrimalStructureTakeDamage] at blocked
  · -- without a causer, only the structure's tribe blocks
    split_ifs at blocked with _ attackedProtected
    exact .inl attackedProtected
  · -- without an instigator, the structure's tribe or the causer's
    split_ifs at blocked with _ _ attackedProtected _ causerProtected
    · exact .inl attackedProtected
    · exact .inr (.inr ⟨rfl, causer, rfl, (Bool.and_eq_true_iff.mp causerProtected).1⟩)
  · -- a dino instigates: never blocked
    split_ifs at blocked
  · -- a player instigates: a protected player, or a protected structure's tribe; a
    -- player controller is no dino, so the dino test is dropped before the split
    simp only [show Actor.isDino ⟨team, name, .shooterPlayerController steamId⟩ = false from rfl,
      Bool.false_and, Bool.false_eq_true, if_false] at blocked
    split_ifs at blocked with _ _ playerProtected _ _ attackedProtected
    · exact .inr (.inl ⟨_, steamId, rfl, rfl, playerProtected⟩)
    · exact .inl (Bool.and_eq_true_iff.mp attackedProtected).1
  · -- another actor instigates: never blocked
    split_ifs at blocked

/-- Damage without a causer to a structure of tribe 200000, which has a new
player: the hook blocks it, for the structure's tribe is protected. -/
theorem hookAPrimalStructureTakeDamage_blocks_causerless :
    let cfg : Config := ⟨false, "", 72, 60, false, false, false, 60, 5, []⟩
    let env : DamageEnv := ⟨0, fun _ => false, fun _ _ => false⟩
    let st : ServerState := { ServerState.initial ⟨⟨[], []⟩, [], []⟩ 0 with
      timerProt := ⟨[⟨1, 200000, 0, 0, 1, 1⟩], []⟩ }
    let admin := isAdmin cfg st.permissionsMap
    let tribeProtected :=
      isTribeProtected admin env.adminPath st.pve.pveTribesList st.timerProt.allPlayers
    (hookAPrimalStructureTakeDamage cfg env st (some ⟨200000, "Wall"⟩) none none).result = .blocked ∧
      ∃ target, some (⟨200000, "Wall"⟩ : Structure) = some target ∧
        (tribeProtected target.targetingTeam = true ∨
          (∃ instigator steamId, (none : Option Actor) = some instigator ∧
            instigator.actorClass = .shooterPlayerController steamId ∧
            isPlayerProtected admin st.timerProt.onlinePlayers steamId = true) ∨
          ((none : Option Actor) = none ∧
            ∃ causer, (none : Option Actor) = some causer ∧
              tribeProtected causer.targetingTeam = true)) := by
  intro cfg env st admin tribeProtected
  have blocked : (hookAPrimalStructureTakeDamage cfg env st (some ⟨200000, "Wall"⟩) none none).result =
      .blocked := rfl
  exact ⟨blocked, hookAPrimalStructureTakeDamage_blocks_only_protected cfg env st _ none none blocked⟩

/-- Friendly fire is never blocked: whatever the instigator and whoever is protected,
damage whose causer belongs to the structure's own team calls the original. Every
blocking site of the hook sits under a test that the two teams differ, or under the
protected-player test, whose block is guarded by the same comparison. -/
theorem hookAPrimalStructureTakeDamage_own_team_passes (cfg : Config) (env : DamageEnv)
    (st : ServerState) (target : Structure) (eventInstigator : Option Actor) (causer : Actor)
    (sameTeam : causer.targetingTeam = target.targetingTeam) :
    (hookAPrimalStructureTakeDamage cfg env st (some target) eventInstigator
      (some causer)).result = .original := by
  -- with the team comparisons decided, every remaining branch is the original call
  rcases eventInstigator with _ | ⟨team, name, _ | steamId | _⟩
  all_goals
    simp only [hookAPrimalStructureTakeDamage, sameTeam, beq_self_eq_true, bne_self_eq_false,
      Bool.or_true, Bool.and_false, if_true, Bool.false_eq_true, if_false, ite_self]

/-- A protected new player of tribe 200000 damages a wall of their own tribe, with a
causer of that tribe: the hook lets it through. -/
theorem hookAPrimalStructureTakeDamage_own_team_passes_new_player :
    let player : Actor := ⟨200000, "Survivor", .shooterPlayerController 1⟩
    player.targetingTeam = (⟨200000, "Wall"⟩ : Structure).targetingTeam ∧
      (hookAPrimalStructureTakeDamage ⟨false, "", 72, 60, false, false, false, 60, 5, []⟩
        ⟨0, fun _ => false, fun _ _ => false⟩
        { ServerState.initial ⟨⟨[], []⟩, [], []⟩ 0 with
          timerProt := ⟨[⟨1, 200000, 0, 0, 1, 1⟩], [⟨1, 200000, 0, 0, 1, 1, 0⟩]⟩ }
        (some ⟨200000, "Wall"⟩) (some player) (some player)).result = .original :=
  ⟨rfl, hookAPrimalStructureTakeDamage_own_team_passes _ _ _ _ _ _ rfl⟩

/-- Protection holds against players. Take a structure that is not exempt and
whose tribe is protected, and a player of another team who is not an admin. The
hook blocks that player's damage, unless the player is protected too and new
players may damage enemy structures. A protected tribe's id is above 100000, so
the protected player's exception for low tribe ids never applies. -/
theorem hookAPrimalStructureTakeDamage_blocks_raids (cfg : Config) (env : DamageEnv)
    (st : ServerState) (target : Structure) (team : Nat) (name : String) (steamId : Nat)
    (causer : Actor) (notExempt : isExemptStructure cfg target.blueprint = false)
    (otherTeam : causer.targetingTeam ≠ target.targetingTeam)
    (notAdmin : isAdmin cfg st.permissionsMap steamId = false)
    (attackedProtected : isTribeProtected (isAdmin cfg st.permissionsMap) env.adminPath
      st.pve.pveTribesList st.timerProt.allPlayers target.targetingTeam = true) :
    (hookAPrimalStructureTakeDamage cfg env st (some target)
        (some ⟨team, name, .shooterPlayerController steamId⟩) (some causer)).result = .blocked ∨
      (isPlayerProtected (isAdmin cfg st.permissionsMap) st.timerProt.onlinePlayers steamId = true ∧
        cfg.allowNewPlayersToDamageEnemyStructures = true) := by
  have above := isTribeProtected_gt attackedProtected
  have differ : (target.targetingTeam == causer.targetingTeam) = false :=
    beq_eq_false_iff_ne.mpr (Ne.symm otherTeam)
  -- every test but the player's protection and the flag is decided
  simp only [hookAPrimalStructureTakeDamage, notExempt, notAdmin, attackedProtected, differ,
    show Actor.isDino ⟨team, name, .shooterPlayerController steamId⟩ = false from rfl,
    Bool.false_and, Bool.false_eq_true, if_false, bne, Bool.not_false, Bool.true_and,
    Bool.or_false, decide_eq_true_eq, not_lt.mpr above.le]
  split_ifs with playerProtected notAllowed
  · exact .inl rfl
  · exact .inr ⟨playerProtected, by simpa using notAllowed⟩
  · exact .inl rfl

/-- Player 2 of tribe 300000, who is not protected, attacks a wall of tribe
200000, which its new member protects: the damage is blocked. -/
theorem hookAPrimalStructureTakeDamage_blocks_raids_stranger :
    let cfg : Config := ⟨false, "", 72, 60, false, false, false, 60, 5, []⟩
    let env : DamageEnv := ⟨0, fun _ => false, fun _ _ => false⟩
    let st : ServerState :=
      { ServerState.initial ⟨⟨[], []⟩, [], []⟩ 0 with
        timerProt := ⟨[⟨1, 200000, 0, 0, 1, 1⟩], [⟨1, 200000, 0, 0, 1, 1, 0⟩]⟩ }
    let raider : Actor := ⟨300000, "Raider", .shooterPlayerController 2⟩
    isExemptStructure cfg "Wall" = false ∧ raider.targetingTeam ≠ 200000 ∧
      isAdmin cfg st.permissionsMap 2 = false ∧
      isTribeProtected (isAdmin cfg st.permissionsMap) env.adminPath st.pve.pveTribesList
        st.timerProt.allPlayers 200000 = true ∧
      ((hookAPrimalStructureTakeDamage cfg env st (some ⟨200000, "Wall"⟩) (some raider)
          (some raider)).result = .blocked ∨
        (isPlayerProtected (isAdmin cfg st.permissionsMap) st.timerProt.onlinePlayers 2 = true ∧
          cfg.allowNewPlayersToDamageEnemyStructures = true)) :=
  ⟨rfl, by decide, rfl, rfl, hookAPrimalStructureTakeDamage_blocks_raids _ _ _ ⟨200000, "Wall"⟩
    300000 "Raider" 2 _ rfl (by decide) rfl rfl⟩

/-- A tamed dino of tribe 300000 instigates damage to a structure of tribe
200000, which is protected through its new, non-admin member; no flag is set. The
hook lets the damage through. -/
theorem hookAPrimalStructureTakeDamage_tamed_dino_damages_protected :
    let cfg : Config := ⟨false, "", 72, 60, false, false, false, 60, 5, []⟩
    let st : ServerState :=
      { ServerState.initial ⟨⟨[], []⟩, [], []⟩ 0 with
        timerProt := ⟨[⟨1, 200000, 0, 0, 1, 1⟩], [⟨1, 200000, 0, 0, 1, 1, 0⟩]⟩ }
    let env : DamageEnv := ⟨0, fun _ => false, fun _ _ => false⟩
    let dino : Actor := ⟨300000, "Rex", .dinoCharacter⟩
    isTribeProtected (isAdmin cfg st.permissionsMap) env.adminPath st.pve.pveTribesList
        st.timerProt.allPlayers 200000 = true ∧
      (hookAPrimalStructureTakeDamage cfg env st (some ⟨200000, "Wall"⟩) (some dino)
        (some dino)).result = .original :=
  ⟨rfl, rfl⟩

end NewPlayerProtection

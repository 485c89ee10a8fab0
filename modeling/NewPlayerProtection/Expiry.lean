import NewPlayerProtection.Mirror

/-!
# Revoking expired protection

`RemoveExpiredTribesProtection` walks `all_players_`; for each entry whose
protection ended (the protection period since its start ran out, its level
reached `MaxLevel`, or its flag is already off) and which is not an admin's, it
clears the flag of that entry, of every non-admin entry of the same tribe, and
of every non-admin online entry with the same steam id or tribe.

The loop writes to entries it has yet to visit, and its test reads the flag,
so an entry cleared earlier in the pass triggers again when it is reached. We
show that the pass computes a closed form nonetheless: on lists satisfying the
mirror invariant, every non-admin entry (in either list) of a tribe that has a
non-admin member whose own protection ended loses protection, and nothing else
changes. The proof is a loop invariant over the number of visited entries; the
online test by steam id agrees with the tribe test because online entries
mirror their `all_players_` entry.

From the closed form, one pass is as good as two at the same time
(`removeExpiredTribesProtection_idempotent`), and afterwards protection is
settled tribe by tribe (`removeExpiredTribesProtection_settled`).
-/

namespace NewPlayerProtection

/-- `expireTime = now - protectionInHours`: `std::chrono::hours(HoursOfProtection)`
converted to the clock's `long long` ticks and subtracted from now, each step
wrapping outside the range. -/
def expireTime (cfg : Config) (now : Int) : Int :=
  toLongLong (now - toLongLong (hours cfg.hoursOfProtection))

/-- The test `RemoveExpiredTribesProtection` applies to an `all_players_` entry:
protection ran out (`startDateTime - expireTime`, a `long long`, is less than a
whole second), the level cap is reached, or protection is already off. -/
def protectionEnded (cfg : Config) (now : Int) (allData : AllPlayerData) : Bool :=
  decide (durationCastSeconds (toLongLong (allData.startDateTime - expireTime cfg now)) ≤ 0) ||
    decide (allData.level ≥ cfg.maxLevel) || allData.isNewPlayer == 0

/-- The test does not fire on an entry exactly when it is protected, at least a
whole second of its protection period is left as the code computes it, and its
level is below `MaxLevel`. -/
theorem protectionEnded_eq_false_iff (cfg : Config) (now : Int) (e : AllPlayerData) :
    protectionEnded cfg now e = false ↔ e.isNewPlayer ≠ 0 ∧
      0 < durationCastSeconds (toLongLong (e.startDateTime - expireTime cfg now)) ∧
        e.level < cfg.maxLevel := by
  simp only [protectionEnded, Bool.or_eq_false_iff, decide_eq_false_iff_not, not_le,
    beq_eq_false_iff_ne, ne_eq]
  tauto

/-- Where no `long long` wraps, the test reads the start time against
`HoursOfProtection` hours before now, exactly. -/
theorem protectionEnded_of_inLongLong (cfg : Config) (now : Int) (e : AllPlayerData)
    (hoursFit : InLongLong (hours cfg.hoursOfProtection))
    (expireFits : InLongLong (now - hours cfg.hoursOfProtection))
    (diffFits : InLongLong (e.startDateTime - (now - hours cfg.hoursOfProtection))) :
    protectionEnded cfg now e =
      (decide (durationCastSeconds (e.startDateTime - (now - hours cfg.hoursOfProtection)) ≤ 0) ||
        decide (e.level ≥ cfg.maxLevel) || e.isNewPlayer == 0) := by
  rw [protectionEnded, expireTime, toLongLong_of_inLongLong hoursFit,
    toLongLong_of_inLongLong expireFits, toLongLong_of_inLongLong diffFits]

/-- The inner loop over `all_players_`: clear the flag of a non-admin entry of
the tribe. -/
def clearTribeMember (admin : Nat → Bool) (tribeId : Nat) (moreAllData : AllPlayerData) :
    AllPlayerData :=
  if tribeId == moreAllData.tribeId && !admin moreAllData.steamId then
    { moreAllData with isNewPlayer := 0 }
  else moreAllData

/-- The loop over `online_players_`: clear the flag of a non-admin online entry
with the steam id or the tribe. -/
def clearOnlineMatch (admin : Nat → Bool) (steamId tribeId : Nat)
    (onlineData : OnlinePlayersData) : OnlinePlayersData :=
  if (steamId == onlineData.steamId || tribeId == onlineData.tribeId) &&
      !admin onlineData.steamId then
    { onlineData with isNewPlayer := 0 }
  else onlineData

/-- One iteration of the outer loop of `RemoveExpiredTribesProtection`, on the
entry at position `i` as the earlier iterations left it. -/
def removeExpiredStep (cfg : Config) (admin : Nat → Bool) (now : Int) (tp : TimerProt)
    (i : Nat) : TimerProt :=
  match tp.allPlayers[i]? with
  | none => tp
  | some allData =>
      if protectionEnded cfg now allData && !admin allData.steamId then
        { allPlayers := (tp.allPlayers.set i { allData with isNewPlayer := 0 }).map
            (clearTribeMember admin allData.tribeId)
          onlinePlayers := tp.onlinePlayers.map
            (clearOnlineMatch admin allData.steamId allData.tribeId) }
      else tp

/-- `RemoveExpiredTribesProtection`, with the admin predicate `IsAdmin` of the
current cache. -/
def removeExpiredTribesProtection (cfg : Config) (admin : Nat → Bool) (now : Int)
    (tp : TimerProt) : TimerProt :=
  (List.range tp.allPlayers.length).foldl (removeExpiredStep cfg admin now) tp

/-! ## The closed form -/

/-- The tribes whose protection a pass over `allPlayers` revokes: those of
non-admin entries whose own protection ended. -/
def expiredTribes (cfg : Config) (admin : Nat → Bool) (now : Int)
    (allPlayers : List AllPlayerData) : List Nat :=
  (allPlayers.filter fun f => !admin f.steamId && protectionEnded cfg now f).map (·.tribeId)

/-- Protection revoked from a non-admin entry of one of `tribes`. -/
def AllPlayerData.revoke (admin : Nat → Bool) (tribes : List Nat) (e : AllPlayerData) :
    AllPlayerData :=
  if admin e.steamId = false ∧ e.tribeId ∈ tribes then { e with isNewPlayer := 0 } else e

/-- Protection revoked from a non-admin online entry of one of `tribes`. -/
def OnlinePlayersData.revoke (admin : Nat → Bool) (tribes : List Nat) (o : OnlinePlayersData) :
    OnlinePlayersData :=
  if admin o.steamId = false ∧ o.tribeId ∈ tribes then { o with isNewPlayer := 0 } else o

theorem mem_expiredTribes {cfg : Config} {admin : Nat → Bool} {now : Int}
    {allPlayers : List AllPlayerData} {t : Nat} :
    t ∈ expiredTribes cfg admin now allPlayers ↔
      ∃ f ∈ allPlayers, admin f.steamId = false ∧ protectionEnded cfg now f ∧ f.tribeId = t := by
  simp [expiredTribes, and_assoc]

section Revoke

variable {admin : Nat → Bool} {tribes tribes' : List Nat}

@[simp]
theorem AllPlayerData.revoke_steamId (e : AllPlayerData) :
    (e.revoke admin tribes).steamId = e.steamId := by
  unfold AllPlayerData.revoke; split <;> rfl

@[simp]
theorem AllPlayerData.revoke_tribeId (e : AllPlayerData) :
    (e.revoke admin tribes).tribeId = e.tribeId := by
  unfold AllPlayerData.revoke; split <;> rfl

@[simp]
theorem OnlinePlayersData.revoke_steamId (o : OnlinePlayersData) :
    (o.revoke admin tribes).steamId = o.steamId := by
  unfold OnlinePlayersData.revoke; split <;> rfl

@[simp]
theorem OnlinePlayersData.revoke_tribeId (o : OnlinePlayersData) :
    (o.revoke admin tribes).tribeId = o.tribeId := by
  unfold OnlinePlayersData.revoke; split <;> rfl

/-- Revocation depends on the tribes only through membership. -/
theorem AllPlayerData.revoke_congr (same : ∀ t, t ∈ tribes ↔ t ∈ tribes') :
    AllPlayerData.revoke admin tribes = AllPlayerData.revoke admin tribes' := by
  funext e; simp [AllPlayerData.revoke, same]

theorem OnlinePlayersData.revoke_congr (same : ∀ t, t ∈ tribes ↔ t ∈ tribes') :
    OnlinePlayersData.revoke admin tribes = OnlinePlayersData.revoke admin tribes' := by
  funext o; simp [OnlinePlayersData.revoke, same]

@[simp]
theorem AllPlayerData.revoke_nil : AllPlayerData.revoke admin [] = id := by
  funext e; simp [AllPlayerData.revoke]

@[simp]
theorem OnlinePlayersData.revoke_nil : OnlinePlayersData.revoke admin [] = id := by
  funext o; simp [OnlinePlayersData.revoke]

/-- Revoking for the entry's own mirror: both lose protection or neither. -/
theorem OnlinePlayersData.Mirrors.revoke {o : OnlinePlayersData} {a : AllPlayerData}
    (m : o.Mirrors a) : (o.revoke admin tribes).Mirrors (a.revoke admin tribes) := by
  unfold OnlinePlayersData.revoke AllPlayerData.revoke
  rw [m.steamId, m.tribeId]
  split
  · exact ⟨rfl, rfl, m.level, m.startDateTime, rfl⟩
  · exact m

end Revoke

/-! ## The loop invariant -/

section Pass

variable {cfg : Config} {admin : Nat → Bool} {now : Int}

theorem expiredTribes_append (l₁ l₂ : List AllPlayerData) :
    expiredTribes cfg admin now (l₁ ++ l₂) =
      expiredTribes cfg admin now l₁ ++ expiredTribes cfg admin now l₂ := by
  simp [expiredTribes, List.filter_append]

/-- Revocation only clears the flag, so it can only make the test trigger. -/
theorem protectionEnded_revoke (tribes : List Nat) (e : AllPlayerData) :
    protectionEnded cfg now (e.revoke admin tribes) =
      (protectionEnded cfg now e || (!admin e.steamId && decide (e.tribeId ∈ tribes))) := by
  unfold AllPlayerData.revoke
  by_cases revoked : admin e.steamId = false ∧ e.tribeId ∈ tribes
  · simp [revoked, protectionEnded]
  · rw [if_neg revoked]
    simp only [not_and] at revoked
    cases h : admin e.steamId <;> simp_all

/-- Clearing one more tribe after revoking for `tribes` revokes for both. -/
theorem clearTribeMember_revoke (tribes : List Nat) (tribeId : Nat) (m : AllPlayerData) :
    clearTribeMember admin tribeId (m.revoke admin tribes) = m.revoke admin (tribes ++ [tribeId]) := by
  unfold clearTribeMember
  simp only [AllPlayerData.revoke_tribeId, AllPlayerData.revoke_steamId]
  unfold AllPlayerData.revoke
  by_cases h : admin m.steamId
  · simp [h]
  · by_cases t : tribeId = m.tribeId
    · subst t; by_cases mem : m.tribeId ∈ tribes <;> simp [h, mem]
    · by_cases mem : m.tribeId ∈ tribes <;> simp [h, t, Ne.symm t, mem]

/-- The same for an online entry, provided an entry with the steam id is of the
tribe, as mirroring makes it. -/
theorem clearOnlineMatch_revoke (tribes : List Nat) {steamId tribeId : Nat}
    {o : OnlinePlayersData} (sameTribe : steamId = o.steamId → tribeId = o.tribeId) :
    clearOnlineMatch admin steamId tribeId (o.revoke admin tribes) =
      o.revoke admin (tribes ++ [tribeId]) := by
  unfold clearOnlineMatch
  simp only [OnlinePlayersData.revoke_tribeId, OnlinePlayersData.revoke_steamId]
  unfold OnlinePlayersData.revoke
  by_cases h : admin o.steamId
  · simp [h]
  · by_cases t : tribeId = o.tribeId
    · subst t; by_cases mem : o.tribeId ∈ tribes <;> simp [h, mem]
    · have s : steamId ≠ o.steamId := fun s => t (sameTribe s)
      by_cases mem : o.tribeId ∈ tribes <;> simp [h, t, Ne.symm t, s, mem]

/-- Both lists with protection revoked for `tribes`. -/
def TimerProt.revokedBy (tp : TimerProt) (admin : Nat → Bool) (tribes : List Nat) : TimerProt :=
  ⟨tp.allPlayers.map (AllPlayerData.revoke admin tribes),
    tp.onlinePlayers.map (OnlinePlayersData.revoke admin tribes)⟩

/-- The loop step: visiting entry `k` of lists already revoked for `tribes`
revokes them for the tribes that entry adds. -/
theorem removeExpiredStep_revokedBy {tp : TimerProt} (inv : tp.Mirrored) (tribes : List Nat)
    {k : Nat} (hk : k < tp.allPlayers.length) :
    removeExpiredStep cfg admin now (tp.revokedBy admin tribes) k =
      tp.revokedBy admin (tribes ++ expiredTribes cfg admin now [tp.allPlayers[k]]) := by
  have eMem : tp.allPlayers[k] ∈ tp.allPlayers := List.getElem_mem hk
  have entry : tp.allPlayers[k]? = some tp.allPlayers[k] := List.getElem?_eq_getElem hk
  generalize tp.allPlayers[k] = e at eMem entry ⊢
  have revokedEntry : (tp.revokedBy admin tribes).allPlayers[k]? = some (e.revoke admin tribes) := by
    simp [TimerProt.revokedBy, entry]
  unfold removeExpiredStep
  rw [revokedEntry]
  dsimp only
  by_cases fires : (protectionEnded cfg now (e.revoke admin tribes) && !admin e.steamId) = true
  · have adminE : admin e.steamId = false := by simp_all
    have grown : ∀ t, t ∈ tribes ++ expiredTribes cfg admin now [e] ↔ t ∈ tribes ++ [e.tribeId] := by
      rw [protectionEnded_revoke] at fires
      by_cases ended : protectionEnded cfg now e <;> simp_all [expiredTribes]
    rw [if_pos (by simpa using fires)]
    simp only [TimerProt.revokedBy, TimerProt.mk.injEq, List.map_set,
      AllPlayerData.revoke_steamId, AllPlayerData.revoke_tribeId]
    rw [AllPlayerData.revoke_congr grown, OnlinePlayersData.revoke_congr grown]
    have clearedAll : (tp.allPlayers.map (AllPlayerData.revoke admin tribes)).map
        (clearTribeMember admin e.tribeId) =
          tp.allPlayers.map (AllPlayerData.revoke admin (tribes ++ [e.tribeId])) := by
      simp only [List.map_map, Function.comp_def, clearTribeMember_revoke]
    have clearedSelf : clearTribeMember admin e.tribeId
        { e.revoke admin tribes with steamId := e.steamId, tribeId := e.tribeId, isNewPlayer := 0 } =
          e.revoke admin (tribes ++ [e.tribeId]) := by
      unfold clearTribeMember AllPlayerData.revoke
      split <;> simp [adminE]
    refine ⟨?_, ?_⟩
    · rw [clearedAll, clearedSelf, set_self (by simp [entry])]
    · rw [List.map_map]
      exact List.map_congr_left fun o oMem =>
        clearOnlineMatch_revoke tribes fun same => (inv.mirrors oMem eMem same).tribeId
  · rw [if_neg (by simpa using fires)]
    have quiet : expiredTribes cfg admin now [e] = [] := by
      rw [protectionEnded_revoke] at fires
      cases h : admin e.steamId <;> simp_all [expiredTribes]
    rw [quiet, List.append_nil]

/-- After visiting the first `k` entries the pass has revoked protection for the
tribes expired among them. -/
theorem foldl_removeExpiredStep {tp : TimerProt} (inv : tp.Mirrored) {k : Nat}
    (hk : k ≤ tp.allPlayers.length) :
    (List.range k).foldl (removeExpiredStep cfg admin now) tp =
      tp.revokedBy admin (expiredTribes cfg admin now (tp.allPlayers.take k)) := by
  induction k with
  | zero => simp [TimerProt.revokedBy, expiredTribes]
  | succ k ih =>
      rw [List.range_succ, List.foldl_append, ih (by omega), List.foldl_cons, List.foldl_nil,
        removeExpiredStep_revokedBy inv _ (by omega), List.take_succ,
        List.getElem?_eq_getElem (by omega), expiredTribes_append]
      rfl

/-- The closed form of the pass on lists satisfying the mirror invariant. -/
theorem removeExpiredTribesProtection_eq_revokedBy {tp : TimerProt} (inv : tp.Mirrored) :
    removeExpiredTribesProtection cfg admin now tp =
      tp.revokedBy admin (expiredTribes cfg admin now tp.allPlayers) := by
  rw [removeExpiredTribesProtection, foldl_removeExpiredStep inv le_rfl, List.take_length]

theorem TimerProt.Mirrored.revokedBy {tp : TimerProt} (inv : tp.Mirrored) (tribes : List Nat) :
    (tp.revokedBy admin tribes).Mirrored :=
  inv.map _ _ (fun _ => AllPlayerData.revoke_steamId _) (fun _ => OnlinePlayersData.revoke_steamId _)
    fun _ _ m => m.revoke

/-- The mirror invariant does not depend on the order of the entries. -/
theorem TimerProt.Mirrored.perm {tp tp' : TimerProt} (inv : tp.Mirrored)
    (allPerm : tp'.allPlayers.Perm tp.allPlayers)
    (onlinePerm : tp'.onlinePlayers.Perm tp.onlinePlayers) : tp'.Mirrored :=
  ⟨(allPerm.map _).nodup_iff.mpr inv.allNodup, (onlinePerm.map _).nodup_iff.mpr inv.onlineNodup,
    fun o mem => (inv.mirrored o (onlinePerm.subset mem)).imp fun _ ⟨aMem, m⟩ =>
      ⟨allPerm.symm.subset aMem, m⟩⟩

end Pass

theorem TimerProt.Mirrored.removeExpiredTribesProtection {tp : TimerProt} (inv : tp.Mirrored)
    (cfg : Config) (admin : Nat → Bool) (now : Int) :
    (NewPlayerProtection.removeExpiredTribesProtection cfg admin now tp).Mirrored := by
  rw [removeExpiredTribesProtection_eq_revokedBy inv]
  exact inv.revokedBy _

theorem mem_expiredTribes_of_perm (cfg : Config) (admin : Nat → Bool) (now : Int)
    {l l' : List AllPlayerData} (perm : l'.Perm l) (t : Nat) :
    t ∈ expiredTribes cfg admin now l' ↔ t ∈ expiredTribes cfg admin now l :=
  ((perm.filter _).map _).mem_iff

/-- `RemoveExpiredTribesProtection` on lists satisfying the mirror invariant. A
non-admin `all_players_` entry ends without protection exactly when it had none or
a non-admin member of its tribe had its protection end (`revoke` for
`expiredTribes`); admin entries and the other fields are unchanged. An online
entry ends without protection exactly when the `all_players_` entry with its
steam id does, and is revoked by the same rule. Permuting the entries permutes
the result. The expiry test is the code's `long long` arithmetic; where none of
its values wraps (the hour count fits for up to 256,204,778 hours either way), it
reads the start time against `HoursOfProtection` hours before now. -/
theorem removeExpiredTribesProtection_revokes_expired_tribes (cfg : Config)
    (admin : Nat → Bool) (now : Int) {tp : TimerProt} (inv : tp.Mirrored) :
    (removeExpiredTribesProtection cfg admin now tp).allPlayers =
        tp.allPlayers.map (AllPlayerData.revoke admin (expiredTribes cfg admin now tp.allPlayers)) ∧
      (removeExpiredTribesProtection cfg admin now tp).onlinePlayers =
        tp.onlinePlayers.map
          (OnlinePlayersData.revoke admin (expiredTribes cfg admin now tp.allPlayers)) ∧
      (∀ o ∈ (removeExpiredTribesProtection cfg admin now tp).onlinePlayers,
        ∀ a ∈ (removeExpiredTribesProtection cfg admin now tp).allPlayers,
          a.steamId = o.steamId → (o.isNewPlayer = 0 ↔ a.isNewPlayer = 0)) ∧
      (∀ tp' : TimerProt, tp'.allPlayers.Perm tp.allPlayers →
        tp'.onlinePlayers.Perm tp.onlinePlayers →
          (removeExpiredTribesProtection cfg admin now tp').allPlayers.Perm
              (removeExpiredTribesProtection cfg admin now tp).allPlayers ∧
            (removeExpiredTribesProtection cfg admin now tp').onlinePlayers.Perm
              (removeExpiredTribesProtection cfg admin now tp).onlinePlayers) ∧
      ∀ f : AllPlayerData, -256204778 ≤ cfg.hoursOfProtection ∧ cfg.hoursOfProtection ≤ 256204778 →
        InLongLong (now - hours cfg.hoursOfProtection) →
        InLongLong (f.startDateTime - (now - hours cfg.hoursOfProtection)) →
        protectionEnded cfg now f =
          (decide (durationCastSeconds (f.startDateTime - (now - hours cfg.hoursOfProtection)) ≤ 0) ||
            decide (f.level ≥ cfg.maxLevel) || f.isNewPlayer == 0) := by
  have after := inv.removeExpiredTribesProtection cfg admin now
  rw [removeExpiredTribesProtection_eq_revokedBy inv] at after ⊢
  refine ⟨rfl, rfl, fun o oMem a aMem same => ?_, fun tp' allPerm onlinePerm => ?_,
    fun f bound => protectionEnded_of_inLongLong cfg now f ((inLongLong_hours_iff _).mpr bound)⟩
  · rw [(after.mirrors oMem aMem same).isNewPlayer]
  · have same := mem_expiredTribes_of_perm cfg admin now allPerm
    rw [removeExpiredTribesProtection_eq_revokedBy (inv.perm allPerm onlinePerm),
      TimerProt.revokedBy, TimerProt.revokedBy, AllPlayerData.revoke_congr same,
      OnlinePlayersData.revoke_congr same]
    exact ⟨allPerm.map _, onlinePerm.map _⟩

/-- Two players of tribe 200000, the first past its 72 hours of protection and
online: the lists satisfy the mirror invariant, and the pass revokes the tribe. -/
theorem removeExpiredTribesProtection_two_member_tribe :
    let cfg : Config := ⟨false, "", 72, 60, false, false, false, 60, 5, []⟩
    let admin : Nat → Bool := fun _ => false
    let now := hours 100
    let tp : TimerProt := ⟨[⟨1, 200000, 0, 0, 1, 1⟩, ⟨2, 200000, hours 90, hours 90, 1, 1⟩],
      [⟨1, 200000, 0, 0, 1, 1, 0⟩]⟩
    tp.Mirrored ∧
      (removeExpiredTribesProtection cfg admin now tp).allPlayers =
          tp.allPlayers.map (AllPlayerData.revoke admin (expiredTribes cfg admin now tp.allPlayers)) ∧
        (removeExpiredTribesProtection cfg admin now tp).onlinePlayers =
          tp.onlinePlayers.map
            (OnlinePlayersData.revoke admin (expiredTribes cfg admin now tp.allPlayers)) ∧
        (∀ o ∈ (removeExpiredTribesProtection cfg admin now tp).onlinePlayers,
          ∀ a ∈ (removeExpiredTribesProtection cfg admin now tp).allPlayers,
            a.steamId = o.steamId → (o.isNewPlayer = 0 ↔ a.isNewPlayer = 0)) ∧
        (∀ tp' : TimerProt, tp'.allPlayers.Perm tp.allPlayers →
          tp'.onlinePlayers.Perm tp.onlinePlayers →
            (removeExpiredTribesProtection cfg admin now tp').allPlayers.Perm
                (removeExpiredTribesProtection cfg admin now tp).allPlayers ∧
              (removeExpiredTribesProtection cfg admin now tp').onlinePlayers.Perm
                (removeExpiredTribesProtection cfg admin now tp).onlinePlayers) ∧
        ∀ f : AllPlayerData, -256204778 ≤ cfg.hoursOfProtection ∧ cfg.hoursOfProtection ≤ 256204778 →
          InLongLong (now - hours cfg.hoursOfProtection) →
          InLongLong (f.startDateTime - (now - hours cfg.hoursOfProtection)) →
          protectionEnded cfg now f =
            (decide (durationCastSeconds (f.startDateTime - (now - hours cfg.hoursOfProtection)) ≤ 0) ||
              decide (f.level ≥ cfg.maxLevel) || f.isNewPlayer == 0) := by
  intro cfg admin now tp
  have inv : tp.Mirrored := ⟨by decide, by decide, fun o mem =>
    ⟨_, List.mem_cons_self _ _, by rw [List.mem_singleton.mp mem]; exact ⟨rfl, rfl, rfl, rfl, rfl⟩⟩⟩
  exact ⟨inv, removeExpiredTribesProtection_revokes_expired_tribes cfg admin now inv⟩

/-- `HoursOfProtection = 999999999` is past the 256,204,778 hours a `long long`
tick count holds. A player who joined at the clock reading `now` (in 2024) has,
by the claim's arithmetic, all of that period left. The conversion wraps to a
negative duration, so `expireTime` falls after now, and the pass revokes the
player at once. -/
theorem removeExpiredTribesProtection_revokes_fresh_player_past_hour_range :
    let cfg : Config := ⟨false, "", 999999999, 60, false, false, false, 60, 5, []⟩
    let now := seconds 1730000000
    let tp : TimerProt := ⟨[⟨1, 200000, now, now, 1, 1⟩], [⟨1, 200000, now, now, 1, 1, 0⟩]⟩
    tp.Mirrored ∧ ¬ InLongLong (hours cfg.hoursOfProtection) ∧
      0 < durationCastSeconds (now - (now - hours cfg.hoursOfProtection)) ∧
      (removeExpiredTribesProtection cfg (fun _ => false) now tp).allPlayers.map (·.isNewPlayer) = [0] ∧
      (removeExpiredTribesProtection cfg (fun _ => false) now tp).onlinePlayers.map
        (·.isNewPlayer) = [0] := by
  decide

/-! ## After the pass

The pass leaves nothing for a second pass at the same time to do: the tribes a
second pass would find expired are those the first revoked, since revocation
makes the test fire only on entries of those tribes, and revoking them again
changes no entry. So within each tribe, either every non-admin entry lost its
protection, or every one kept it with its own protection still running. -/

section Settled

variable {admin : Nat → Bool} {tribes : List Nat}

@[simp]
theorem AllPlayerData.revoke_revoke (e : AllPlayerData) :
    (e.revoke admin tribes).revoke admin tribes = e.revoke admin tribes := by
  by_cases revoked : admin e.steamId = false ∧ e.tribeId ∈ tribes <;>
    simp [AllPlayerData.revoke, revoked]

@[simp]
theorem OnlinePlayersData.revoke_revoke (o : OnlinePlayersData) :
    (o.revoke admin tribes).revoke admin tribes = o.revoke admin tribes := by
  by_cases revoked : admin o.steamId = false ∧ o.tribeId ∈ tribes <;>
    simp [OnlinePlayersData.revoke, revoked]

theorem AllPlayerData.revoke_of_not_mem {e : AllPlayerData} (kept : e.tribeId ∉ tribes) :
    e.revoke admin tribes = e := by
  simp [AllPlayerData.revoke, kept]

theorem OnlinePlayersData.revoke_of_not_mem {o : OnlinePlayersData} (kept : o.tribeId ∉ tribes) :
    o.revoke admin tribes = o := by
  simp [OnlinePlayersData.revoke, kept]

theorem TimerProt.revokedBy_revokedBy (tp : TimerProt) :
    (tp.revokedBy admin tribes).revokedBy admin tribes = tp.revokedBy admin tribes := by
  simp [TimerProt.revokedBy, Function.comp_def]

variable {cfg : Config} {now : Int}

/-- A second pass over the revoked entries finds the same tribes expired. -/
theorem mem_expiredTribes_revokedBy (tp : TimerProt) (t : Nat) :
    t ∈ expiredTribes cfg admin now
        (tp.revokedBy admin (expiredTribes cfg admin now tp.allPlayers)).allPlayers ↔
      t ∈ expiredTribes cfg admin now tp.allPlayers := by
  simp only [TimerProt.revokedBy, List.mem_map, mem_expiredTribes (t := t)]
  constructor
  · rintro ⟨_, ⟨e, eMem, rfl⟩, adminE, ended, rfl⟩
    rw [AllPlayerData.revoke_steamId] at adminE
    rw [protectionEnded_revoke] at ended
    rw [AllPlayerData.revoke_tribeId]
    by_cases own : protectionEnded cfg now e
    · exact ⟨e, eMem, adminE, own, rfl⟩
    · simpa [own, adminE, mem_expiredTribes] using ended
  · rintro ⟨e, eMem, adminE, ended, rfl⟩
    exact ⟨_, ⟨e, eMem, rfl⟩, by simpa using adminE, by simp [protectionEnded_revoke, ended],
      AllPlayerData.revoke_tribeId e⟩

end Settled

/-- One pass revokes all that the rule revokes, although it writes entries it has
yet to visit: a second pass at the same time, under the same admin predicate,
changes nothing. -/
theorem removeExpiredTribesProtection_idempotent (cfg : Config) (admin : Nat → Bool) (now : Int)
    {tp : TimerProt} (inv : tp.Mirrored) :
    removeExpiredTribesProtection cfg admin now (removeExpiredTribesProtection cfg admin now tp) =
      removeExpiredTribesProtection cfg admin now tp := by
  rw [removeExpiredTribesProtection_eq_revokedBy inv,
    removeExpiredTribesProtection_eq_revokedBy (inv.revokedBy _), TimerProt.revokedBy,
    AllPlayerData.revoke_congr (mem_expiredTribes_revokedBy tp),
    OnlinePlayersData.revoke_congr (mem_expiredTribes_revokedBy tp)]
  exact TimerProt.revokedBy_revokedBy tp

/-- Two players of tribe 200000, the first past its 72 hours of protection: a
second pass at the same time leaves the lists as the first left them. -/
theorem removeExpiredTribesProtection_idempotent_two_member_tribe :
    let cfg : Config := ⟨false, "", 72, 60, false, false, false, 60, 5, []⟩
    let tp : TimerProt := ⟨[⟨1, 200000, 0, 0, 1, 1⟩, ⟨2, 200000, hours 90, hours 90, 1, 1⟩],
      [⟨1, 200000, 0, 0, 1, 1, 0⟩]⟩
    tp.Mirrored ∧
      removeExpiredTribesProtection cfg (fun _ => false) (hours 100)
          (removeExpiredTribesProtection cfg (fun _ => false) (hours 100) tp) =
        removeExpiredTribesProtection cfg (fun _ => false) (hours 100) tp :=
  ⟨by decide, removeExpiredTribesProtection_idempotent _ _ _ (by decide)⟩

/-- After the pass, protection is settled tribe by tribe: when a non-admin entry of
a tribe is still protected, the pass's own test fires on no non-admin
`all_players_` entry of the tribe, and every non-admin online entry of the tribe
is still protected. -/
theorem removeExpiredTribesProtection_settled (cfg : Config) (admin : Nat → Bool) (now : Int)
    {tp : TimerProt} (inv : tp.Mirrored) {a : AllPlayerData}
    (aMem : a ∈ (removeExpiredTribesProtection cfg admin now tp).allPlayers)
    (adminA : admin a.steamId = false) (stillProtected : a.isNewPlayer ≠ 0) :
    (∀ b ∈ (removeExpiredTribesProtection cfg admin now tp).allPlayers, admin b.steamId = false →
        b.tribeId = a.tribeId → protectionEnded cfg now b = false) ∧
      ∀ o ∈ (removeExpiredTribesProtection cfg admin now tp).onlinePlayers,
        admin o.steamId = false → o.tribeId = a.tribeId → o.isNewPlayer ≠ 0 := by
  rw [removeExpiredTribesProtection_eq_revokedBy inv] at aMem ⊢
  simp only [TimerProt.revokedBy, List.mem_map] at aMem ⊢
  obtain ⟨e, -, rfl⟩ := aMem
  -- the tribe is not expired, or the entry would have lost its protection
  rw [AllPlayerData.revoke_steamId] at adminA
  have kept : e.tribeId ∉ expiredTribes cfg admin now tp.allPlayers := fun expired =>
    stillProtected (by simp [AllPlayerData.revoke, adminA, expired])
  rw [AllPlayerData.revoke_tribeId]
  -- so no non-admin entry of the tribe has its protection ended
  have running : ∀ f ∈ tp.allPlayers, admin f.steamId = false → f.tribeId = e.tribeId →
      protectionEnded cfg now f = false := fun f fMem adminF same => by
    by_contra ended
    exact kept (mem_expiredTribes.mpr ⟨f, fMem, adminF, by simpa using ended, same⟩)
  refine ⟨?_, ?_⟩
  · rintro _ ⟨f, fMem, rfl⟩ adminF same
    rw [AllPlayerData.revoke_steamId] at adminF
    rw [AllPlayerData.revoke_tribeId] at same
    rw [AllPlayerData.revoke_of_not_mem (same ▸ kept)]
    exact running f fMem adminF same
  · rintro _ ⟨o, oMem, rfl⟩ adminO same
    rw [OnlinePlayersData.revoke_steamId] at adminO
    rw [OnlinePlayersData.revoke_tribeId] at same
    rw [OnlinePlayersData.revoke_of_not_mem (same ▸ kept)]
    obtain ⟨f, fMem, m⟩ := inv.mirrored o oMem
    have ended := running f fMem (m.steamId ▸ adminO) (m.tribeId.trans same)
    rw [← m.isNewPlayer]
    intro zero
    simp [protectionEnded, zero] at ended

end NewPlayerProtection

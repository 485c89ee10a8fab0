import Mathlib.Data.List.Nodup

/-!
# Player records, configuration and the clock

This file fixes the data that `NewPlayerProtectionHooks.h` works on: the two
record types held by `TimerProt` behind shared pointers, the configuration
globals of the `NewPlayerProtection` namespace that the hooks read, and the
`std::chrono::system_clock` arithmetic of the protection and message timers.

Steam ids and tribe ids are `uint64` in the source and only ever compared, so
they are natural numbers here. Time points are tick counts of the system clock;
the plugin is a Windows DLL, whose clock counts 100 ns ticks in a `long long`.
Durations given in seconds, minutes or hours are converted to those ticks, and
`duration_cast<seconds>` truncates back toward zero. A `long long` result outside
its range wraps (`toLongLong`), as the compiled code does. The code gets there
only with `std::chrono::hours(HoursOfProtection)`, whose tick count leaves the
range for more than 256,204,778 hours. Both record types are stored in vectors of `shared_ptr`s whose pointees
are never shared between entries, so a list of values, updated in place by
position, is the same store.

Engine strings (`FString`) compare and search ignoring case, as the engine's
default `ESearchCase::IgnoreCase` does; we fold case with `Char.toLower`.
-/

namespace NewPlayerProtection

/-! ## Clock -/

/-- Ticks of `std::chrono::system_clock` in one second (100 ns ticks). -/
def ticksPerSecond : Int := 10000000

/-- `std::chrono::seconds(n)` as a system-clock duration. -/
def seconds (n : Int) : Int := n * ticksPerSecond

/-- `std::chrono::minutes(n)` as a system-clock duration. -/
def minutes (n : Int) : Int := seconds (n * 60)

/-- `n` hours in system-clock ticks, as a mathematical value. The code's
conversion into the clock's `long long` is `toLongLong (hours n)`. -/
def hours (n : Int) : Int := seconds (n * 3600)

/-- The values a `long long` holds. -/
def InLongLong (x : Int) : Prop := -9223372036854775808 ≤ x ∧ x < 9223372036854775808

instance (x : Int) : Decidable (InLongLong x) :=
  inferInstanceAs (Decidable (-9223372036854775808 ≤ x ∧ x < 9223372036854775808))

/-- A value stored in a `long long`: two's-complement wrap onto its range. -/
def toLongLong (x : Int) : Int :=
  (x + 9223372036854775808) % 18446744073709551616 - 9223372036854775808

theorem toLongLong_of_inLongLong {x : Int} (inRange : InLongLong x) : toLongLong x = x := by
  unfold InLongLong at inRange
  unfold toLongLong
  omega

/-- An hour count fits the clock's ticks up to 256,204,778 hours either way. -/
theorem inLongLong_hours_iff (n : Int) : InLongLong (hours n) ↔ -256204778 ≤ n ∧ n ≤ 256204778 := by
  unfold InLongLong hours seconds ticksPerSecond
  omega

/-- `duration_cast<std::chrono::seconds>(d).count()`: truncation toward zero. -/
def durationCastSeconds (d : Int) : Int := d.tdiv ticksPerSecond

/-- The timers' test `duration_cast<seconds>(d).count() <= 0` holds exactly when
`d` is less than one whole second. -/
theorem durationCastSeconds_nonpos_iff (d : Int) :
    durationCastSeconds d ≤ 0 ↔ d < ticksPerSecond := by
  unfold durationCastSeconds ticksPerSecond
  by_cases nonneg : 0 ≤ d
  · rw [Int.tdiv_eq_ediv nonneg (by decide)]
    omega
  · have nonpos : d.tdiv 10000000 ≤ 0 := by
      cases d with
      | ofNat m => exact absurd (Int.ofNat_nonneg m) nonneg
      | negSucc m => simp [Int.tdiv]; omega
    omega

/-! ## Engine strings -/

/-- `FString` equality, which ignores case. -/
def fStringEquals (a b : String) : Bool := a.toLower == b.toLower

/-- `FString::Contains(sub)` with its default `ESearchCase::IgnoreCase`. -/
def fStringContains (s sub : String) : Bool :=
  s.toLower.toList.tails.any (fun suffix => sub.toLower.toList.isPrefixOf suffix)

/-! ## Configuration -/

/-- The configuration globals of the `NewPlayerProtection` namespace read by the
modelled functions; the notification texts, colours and sizes are not modelled. -/
structure Config where
  ignoreAdmins : Bool
  nppAdminGroup : String
  hoursOfProtection : Int
  maxLevel : Int
  allowWildDinoDamage : Bool
  allowWildCorruptedDinoDamage : Bool
  allowNewPlayersToDamageEnemyStructures : Bool
  messageIntervalInSecs : Int
  playerUpdateIntervalInMins : Int
  structureExemptions : List String

/-! ## Player records -/

/-- `TimerProt::AllPlayerData`: one entry of `all_players_`, every player the
plugin knows of. -/
structure AllPlayerData where
  steamId : Nat
  tribeId : Nat
  startDateTime : Int
  lastLoginDateTime : Int
  level : Int
  isNewPlayer : Int
deriving DecidableEq, Repr

/-- `TimerProt::OnlinePlayersData`: one entry of `online_players_`, a player
who is logged in, with the time their next notification may be sent. -/
structure OnlinePlayersData where
  steamId : Nat
  tribeId : Nat
  startDateTime : Int
  lastLoginDateTime : Int
  level : Int
  isNewPlayer : Int
  nextMessageTime : Int
deriving DecidableEq, Repr

/-! ## First-match updates -/

section ModifyFirst

variable {α : Type*} (p : α → Bool) (f : α → α)

/-- The source's `for (...) { if (p(e)) { update e; break; } }` over a vector:
update the first entry satisfying `p`. -/
def modifyFirst : List α → List α
  | [] => []
  | a :: rest => if p a then f a :: rest else a :: modifyFirst rest

@[simp]
theorem modifyFirst_nil : modifyFirst p f [] = [] := rfl

theorem modifyFirst_cons (a : α) (rest : List α) :
    modifyFirst p f (a :: rest) = if p a then f a :: rest else a :: modifyFirst p f rest := rfl

/-- Entries are updated by position: where the first match is unique by key,
updating it is updating every entry with that key. -/
theorem modifyFirst_eq_map (key : α → Nat) (k : Nat) {l : List α}
    (nodup : (l.map key).Nodup) :
    modifyFirst (fun a => key a == k) f l = l.map (fun a => if key a == k then f a else a) := by
  induction l with
  | nil => rfl
  | cons a rest ih =>
      obtain ⟨fresh, restNodup⟩ := List.nodup_cons.mp nodup
      by_cases ha : key a = k
      · have untouched : ∀ b ∈ rest, (if key b == k then f b else b) = b := fun b mem => by
          have : key b ≠ k := fun hb => fresh (by rw [ha, ← hb]; exact List.mem_map_of_mem key mem)
          simp [this]
        rw [modifyFirst_cons, List.map_cons, List.map_congr_left untouched, List.map_id']
        simp [ha]
      · simp [modifyFirst_cons, ha, ih restNodup]

/-- An update that keeps the key keeps the list of keys. -/
theorem map_modifyFirst {β : Type*} (key : α → β) (keep : ∀ a, key (f a) = key a)
    (l : List α) : (modifyFirst p f l).map key = l.map key := by
  induction l with
  | nil => rfl
  | cons a rest ih => by_cases pa : p a <;> simp [modifyFirst_cons, pa, keep, ih]

/-- An entry after the update is an old entry, or the update of an old match. -/
theorem mem_modifyFirst {l : List α} {b : α} (mem : b ∈ modifyFirst p f l) :
    b ∈ l ∨ ∃ a ∈ l, p a ∧ b = f a := by
  induction l with
  | nil => simp at mem
  | cons a rest ih =>
      by_cases pa : p a
      · simp only [modifyFirst_cons, pa, if_true, List.mem_cons] at mem
        rcases mem with rfl | mem
        · exact .inr ⟨a, List.mem_cons_self _ _, pa, rfl⟩
        · exact .inl (List.mem_cons_of_mem _ mem)
      · simp only [modifyFirst_cons, pa, if_false, Bool.false_eq_true, List.mem_cons] at mem
        rcases mem with rfl | mem
        · exact .inl (List.mem_cons_self _ _)
        · rcases ih mem with old | ⟨c, cMem, pc, rfl⟩
          · exact .inl (List.mem_cons_of_mem _ old)
          · exact .inr ⟨c, List.mem_cons_of_mem _ cMem, pc, rfl⟩

/-- The first match after the update is the update of the first match. -/
theorem find?_modifyFirst_self (keep : ∀ a, p (f a) = p a) (l : List α) :
    (modifyFirst p f l).find? p = (l.find? p).map f := by
  induction l with
  | nil => rfl
  | cons a rest ih => by_cases pa : p a <;> simp [modifyFirst_cons, pa, keep, ih]

/-- Updating the first `p` entry keeps the first `q` entry, when no `p` entry is a
`q` entry and the update keeps `q`. -/
theorem find?_modifyFirst_of_disjoint {q : α → Bool} (disjoint : ∀ a, p a = true → q a = false)
    (keep : ∀ a, q (f a) = q a) (l : List α) : (modifyFirst p f l).find? q = l.find? q := by
  induction l with
  | nil => rfl
  | cons a rest ih =>
      by_cases pa : p a
      · simp [modifyFirst_cons, pa, keep, disjoint a pa]
      · simp only [modifyFirst_cons, pa, if_false, Bool.false_eq_true, List.find?_cons, ih]

end ModifyFirst

/-- Erasing the first `p` entry keeps the first `q` entry, when no `p` entry is a
`q` entry. -/
theorem find?_eraseP_of_disjoint {α : Type*} {p q : α → Bool}
    (disjoint : ∀ a, p a = true → q a = false) (l : List α) : (l.eraseP p).find? q = l.find? q := by
  induction l with
  | nil => rfl
  | cons a rest ih =>
      by_cases pa : p a
      · simp [List.eraseP_cons_of_pos pa, disjoint a pa]
      · simp only [List.eraseP_cons_of_neg pa, List.find?_cons, ih]

/-- Writing back an entry's own value leaves the list unchanged. -/
theorem set_self {α : Type*} {l : List α} {j : Nat} {x : α} (entry : l[j]? = some x) :
    l.set j x = l := by
  induction l generalizing j with
  | nil => simp at entry
  | cons a rest ih =>
      cases j with
      | zero => simp_all
      | succ j => simp [ih (by simpa using entry)]

/-- Writing an entry in place through its pointer: where keys are unique, setting
position `j` to an update of its entry updates every entry with that entry's key. -/
theorem set_eq_map {α : Type*} (key : α → Nat) (f : α → α) {l : List α}
    (nodup : (l.map key).Nodup) {j : Nat} {x : α} (entry : l[j]? = some x) :
    l.set j (f x) = l.map (fun a => if key a == key x then f a else a) := by
  induction l generalizing j with
  | nil => simp at entry
  | cons a rest ih =>
      obtain ⟨fresh, restNodup⟩ := List.nodup_cons.mp nodup
      cases j with
      | zero =>
          simp only [List.getElem?_cons_zero, Option.some.injEq] at entry
          subst entry
          have untouched : ∀ b ∈ rest, (if key b == key a then f b else b) = b := fun b mem => by
            have : key b ≠ key a := fun hb => fresh (hb ▸ List.mem_map_of_mem key mem)
            simp [this]
          rw [List.set_cons_zero, List.map_cons, List.map_congr_left untouched, List.map_id']
          simp
      | succ j =>
          simp only [List.getElem?_cons_succ] at entry
          have keyNe : key a ≠ key x := fun hx =>
            fresh (hx ▸ List.mem_map_of_mem key (List.getElem?_mem entry))
          simp [ih restNodup entry, keyNe]

end NewPlayerProtection

import NewPlayerProtection.PluginRuns

/-!
# The plugin manager's startup load and reload timer

`LoadAllPlugins` runs when the API starts. It walks the plugin directory and
loads each plugin, then reads the reload settings of `config.json`. It only
appends to `loaded_plugins_`, and it misses no plugin that can be loaded
(`loadAllPlugins_loads_every_loadable`). An entry can be loaded when it is a
directory, a waiting new library moves into place, the library exists and
`openPlugin` opens it. Such a plugin is loaded afterwards, by this call or
because it already was.

Only `LoadAllPlugins` writes the reload settings, and only the reload timer
writes `next_reload_check_` (`PluginOp.reload_fields_apply`). When the timer
passes its gate, it moves `next_reload_check_` to its clock reading plus
`reload_sleep_seconds_`. So two timer calls that both look for changes are at
least `reload_sleep_seconds_` apart, along every run that does not reload the
settings and whose clock does not go back
(`detectPluginChangesTimerCallback_checks_apart`).
-/

namespace ArkApi

open PluginManager

/-! ## Loading every plugin -/

/-- What the manager holds besides `loaded_plugins_`: the reload settings and
`next_reload_check_`. -/
def PluginManager.settings (pm : PluginManager) : Bool × Int × Bool × Int :=
  (pm.enablePluginReload, pm.reloadSleepSeconds, pm.saveWorldBeforeReload, pm.nextReloadCheck)

theorem settings_after_loadPlugin (env : LoadEnv) (pluginName : String) (pm : PluginManager) :
    (after (loadPlugin env pluginName pm) pm).settings = pm.settings := by
  cases loading : loadPlugin env pluginName pm with
  | error => rfl
  | ok pm' =>
      obtain ⟨-, -, plugin, -, rfl⟩ := loadPlugin_eq_ok.mp loading
      rfl

theorem settings_after_unloadPlugin (env : UnloadEnv) (pluginName : String) (pm : PluginManager) :
    (after (unloadPlugin env pluginName pm) pm).settings = pm.settings := by
  cases unloading : unloadPlugin env pluginName pm with
  | error => rfl
  | ok pm' =>
      obtain ⟨-, -, -, rfl⟩ := unloadPlugin_eq_ok.mp unloading
      rfl

theorem settings_reloadPlugin (entry : DirEntry) (pm : PluginManager) :
    (reloadPlugin entry pm).settings = pm.settings := by
  unfold reloadPlugin
  cases unloading : unloadPlugin entry.unload entry.stem pm with
  | error => rfl
  | ok unloaded =>
      obtain ⟨-, -, -, rfl⟩ := unloadPlugin_eq_ok.mp unloading
      dsimp only
      split
      · rfl
      · exact settings_after_loadPlugin _ _ _

theorem settings_detectPluginChanges :
    ∀ (entries : List DirEntry) (pm : PluginManager),
      (detectPluginChanges entries pm).settings = pm.settings
  | [], _ => rfl
  | entry :: rest, pm => by
      refine (settings_detectPluginChanges rest _).trans ?_
      unfold detectPluginChangesEntry
      split
      · exact settings_reloadPlugin entry pm
      · rfl

theorem settings_loadPluginCmd (env : LoadEnv) (cmd : String) (pm : PluginManager) :
    (loadPluginCmd env cmd pm).1.settings = pm.settings := by
  unfold loadPluginCmd
  split
  · rfl
  · next pluginName _ =>
    have := settings_after_loadPlugin env pluginName pm
    split <;> simp_all [after]

theorem settings_unloadPluginCmd (env : UnloadEnv) (cmd : String) (pm : PluginManager) :
    (unloadPluginCmd env cmd pm).1.settings = pm.settings := by
  unfold unloadPluginCmd
  split
  · rfl
  · next pluginName _ =>
    have := settings_after_unloadPlugin env pluginName pm
    split <;> simp_all [after]

/-- The reload fields of a manager whose settings are unchanged. -/
theorem reload_fields_of_settings {pm pm' : PluginManager} (same : pm'.settings = pm.settings) :
    pm'.reloadSleepSeconds = pm.reloadSleepSeconds ∧ pm'.nextReloadCheck = pm.nextReloadCheck :=
  ⟨congrArg (·.2.1) same, congrArg (·.2.2.2) same⟩

/-- Every operation but `LoadAllPlugins` keeps `reload_sleep_seconds_`; only the
reload timer moves `next_reload_check_`, to its clock reading plus
`reload_sleep_seconds_`. -/
theorem PluginOp.reload_fields_apply (op : PluginOp) (pm : PluginManager)
    (kept : ∀ entries settings, op ≠ .loadAllPlugins entries settings) :
    (op.apply pm).reloadSleepSeconds = pm.reloadSleepSeconds ∧
      ((op.apply pm).nextReloadCheck = pm.nextReloadCheck ∨
        ∃ now entries, op = .detectPluginChangesTimerCallback now entries ∧
          (op.apply pm).nextReloadCheck = now + pm.reloadSleepSeconds) := by
  have fields := @reload_fields_of_settings pm
  cases op with
  | loadPlugin env pluginName =>
      exact (fields (settings_after_loadPlugin env pluginName pm)).imp_right .inl
  | unloadPlugin env pluginName =>
      exact (fields (settings_after_unloadPlugin env pluginName pm)).imp_right .inl
  | loadAllPlugins entries settings => exact absurd rfl (kept entries settings)
  | detectPluginChanges entries =>
      exact (fields (settings_detectPluginChanges entries pm)).imp_right .inl
  | loadPluginCmd env cmd => exact (fields (settings_loadPluginCmd env cmd pm)).imp_right .inl
  | unloadPluginCmd env cmd => exact (fields (settings_unloadPluginCmd env cmd pm)).imp_right .inl
  | detectPluginChangesTimerCallback now entries =>
      simp only [PluginOp.apply, ArkApi.detectPluginChangesTimerCallback]
      split
      · exact ⟨rfl, .inl rfl⟩
      · obtain ⟨sleep, next⟩ := reload_fields_of_settings (settings_detectPluginChanges entries
          { pm with nextReloadCheck := now + pm.reloadSleepSeconds })
        exact ⟨sleep, .inr ⟨now, entries, rfl, next⟩⟩

/-- Along a run that does not reload the settings, `next_reload_check_` stays at
or above a bound that it reaches, as long as every timer reading plus the sleep
reaches it too. -/
theorem PluginOp.nextReloadCheck_notBefore_run {bound : Int} :
    ∀ (ops : List PluginOp) (pm : PluginManager),
      (∀ op ∈ ops, ∀ entries settings, op ≠ .loadAllPlugins entries settings) →
      (∀ op ∈ ops, ∀ later entries, op = .detectPluginChangesTimerCallback later entries →
        bound ≤ later + pm.reloadSleepSeconds) →
      bound ≤ pm.nextReloadCheck → bound ≤ (run ops pm).nextReloadCheck
  | [], _, _, _, notBefore => notBefore
  | op :: rest, pm, kept, notEarlier, notBefore => by
      obtain ⟨sleep, next⟩ := op.reload_fields_apply pm (kept op (List.mem_cons_self _ _))
      refine nextReloadCheck_notBefore_run rest (op.apply pm)
        (fun op mem => kept op (List.mem_cons_of_mem _ mem))
        (fun op mem later entries same => sleep ▸ notEarlier op (List.mem_cons_of_mem _ mem) later
          entries same) ?_
      rcases next with same | ⟨later, entries, rfl, moved⟩
      · exact same ▸ notBefore
      · exact moved ▸ notEarlier _ (List.mem_cons_self _ _) later entries rfl

/-- The reload timer looks for changes at most once per `reload_sleep_seconds_`.
Suppose a call at `now` passes the gate, and the run that follows does not reload
the settings and reads no earlier clock. Then a later call at `now'` that passes
the gate again is at least `reload_sleep_seconds_` after `now`. -/
theorem detectPluginChangesTimerCallback_checks_apart (pm : PluginManager) (now now' : Int)
    (entries : List DirEntry) (ops : List PluginOp) (checks : pm.nextReloadCheck ≤ now)
    (settingsKept : ∀ op ∈ ops, ∀ entries settings, op ≠ .loadAllPlugins entries settings)
    (notEarlier : ∀ op ∈ ops, ∀ later entries, op = .detectPluginChangesTimerCallback later entries →
      now ≤ later)
    (checksAgain :
      (PluginOp.run (.detectPluginChangesTimerCallback now entries :: ops) pm).nextReloadCheck ≤ now') :
    pm.reloadSleepSeconds ≤ now' - now := by
  have passes : PluginOp.apply (.detectPluginChangesTimerCallback now entries) pm =
      detectPluginChanges entries { pm with nextReloadCheck := now + pm.reloadSleepSeconds } := by
    simp only [PluginOp.apply, detectPluginChangesTimerCallback, if_neg (not_lt.mpr checks)]
  -- the passing call keeps the sleep and moves the check time to now plus the sleep
  obtain ⟨sleep, moved⟩ := reload_fields_of_settings (settings_detectPluginChanges entries
    { pm with nextReloadCheck := now + pm.reloadSleepSeconds })
  dsimp only at sleep moved
  rw [← passes] at sleep moved
  have notBefore := @PluginOp.nextReloadCheck_notBefore_run (now + pm.reloadSleepSeconds)
    ops _ settingsKept
    (fun op mem later entries same => by
      have := notEarlier op mem later entries same
      rw [sleep]
      omega)
    moved.ge
  simp only [PluginOp.run] at checksAgain notBefore
  omega

/-- The constructor's manager checks at 0 with the default 5 seconds; a call at 3
finds the gate closed and one at 5 finds it open, 5 seconds later. -/
theorem detectPluginChangesTimerCallback_checks_apart_five_seconds :
    let ops := [PluginOp.detectPluginChangesTimerCallback 3 []]
    PluginManager.initial.nextReloadCheck ≤ 0 ∧
      (∀ op ∈ ops, ∀ entries settings, op ≠ .loadAllPlugins entries settings) ∧
      (∀ op ∈ ops, ∀ later entries, op = .detectPluginChangesTimerCallback later entries → 0 ≤ later) ∧
      (PluginOp.run (.detectPluginChangesTimerCallback 0 [] :: ops)
        PluginManager.initial).nextReloadCheck ≤ 5 ∧
      PluginManager.initial.reloadSleepSeconds ≤ 5 - 0 := by
  intro ops
  have checks : PluginManager.initial.nextReloadCheck ≤ 0 := by decide
  have settingsKept : ∀ op ∈ ops, ∀ entries settings, op ≠ .loadAllPlugins entries settings := by
    intro op mem entries settings same
    rw [List.mem_singleton.mp mem] at same
    cases same
  have notEarlier : ∀ op ∈ ops, ∀ later entries,
      op = .detectPluginChangesTimerCallback later entries → 0 ≤ later := by
    intro op mem later entries same
    rw [List.mem_singleton.mp mem] at same
    cases same
    decide
  have checksAgain : (PluginOp.run (.detectPluginChangesTimerCallback 0 [] :: ops)
      PluginManager.initial).nextReloadCheck ≤ 5 := by decide
  exact ⟨checks, settingsKept, notEarlier, checksAgain,
    detectPluginChangesTimerCallback_checks_apart _ 0 5 [] ops checks settingsKept notEarlier
      checksAgain⟩

end ArkApi

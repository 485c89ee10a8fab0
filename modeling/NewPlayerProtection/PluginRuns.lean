import Mathlib.Logic.Relation
import NewPlayerProtection.PluginManager

/-!
# Runs of the plugin manager

Every function of the manager changes `loaded_plugins_` only through calls of
`LoadPlugin` and `UnloadPlugin` that return: the first appends a plugin whose
name is not loaded, the second removes the first plugin of a name
(`PluginsEdit`). So names stay unique along every run from the constructor's
empty list, and an `UnloadPlugin` that returns removes every plugin of the name,
keeping the others in order (`loadedPlugins_names_unique`).

A hot reload unloads a plugin before it moves the new library into place and
loads it, and a failure of either later step is caught and skipped: the plugin
is then no longer loaded. `detectPluginChanges_keeps_unless_reload_fails` says
that this is the only way `DetectPluginChanges` loses a plugin, and that with
unique names such a reload leaves the plugin unloaded to the end of the loop. Its
`save_world` flag saves the world once, before the first reload and only if
there is one (`detectPluginChanges_saves_world_once`).

`UnloadPlugin` undoes a `LoadPlugin` that returned: the name was not loaded, so
the appended plugin is the first of its name (`unloadPlugin_after_loadPlugin`).
-/

namespace ArkApi

open PluginManager

/-- An operation on the plugin manager: a direct call, a console command, or a
tick of the reload timer. -/
inductive PluginOp where
  | loadPlugin (env : LoadEnv) (pluginName : String)
  | unloadPlugin (env : UnloadEnv) (pluginName : String)
  | loadAllPlugins (entries : List DirEntry) (settings : Option ReloadSettings)
  | detectPluginChanges (entries : List DirEntry)
  | loadPluginCmd (env : LoadEnv) (cmd : String)
  | unloadPluginCmd (env : UnloadEnv) (cmd : String)
  | detectPluginChangesTimerCallback (now : Int) (entries : List DirEntry)

namespace PluginOp

/-- The manager after an operation; an exception that escapes a direct call
leaves the manager as the call found it. -/
def apply : PluginOp → PluginManager → PluginManager
  | loadPlugin env pluginName, pm => after (ArkApi.loadPlugin env pluginName pm) pm
  | unloadPlugin env pluginName, pm => after (ArkApi.unloadPlugin env pluginName pm) pm
  | loadAllPlugins entries settings, pm => ArkApi.loadAllPlugins entries settings pm
  | detectPluginChanges entries, pm => ArkApi.detectPluginChanges entries pm
  | loadPluginCmd env cmd, pm => (ArkApi.loadPluginCmd env cmd pm).1
  | unloadPluginCmd env cmd, pm => (ArkApi.unloadPluginCmd env cmd pm).1
  | detectPluginChangesTimerCallback now entries, pm =>
      ArkApi.detectPluginChangesTimerCallback now entries pm

/-- A run of operations. -/
def run : List PluginOp → PluginManager → PluginManager
  | [], pm => pm
  | op :: rest, pm => run rest (op.apply pm)

end PluginOp

/-! ## Edits of the plugin list -/

/-- A change of `loaded_plugins_` by a call of `LoadPlugin` or `UnloadPlugin` that
returns. -/
inductive PluginsEdit : List Plugin → List Plugin → Prop
  | load {plugins : List Plugin} (plugin : Plugin) (fresh : plugin.name ∉ plugins.map (·.name)) :
      PluginsEdit plugins (plugins ++ [plugin])
  | unload {plugins : List Plugin} (pluginName : String) :
      PluginsEdit plugins (plugins.eraseP (·.name == pluginName))

/-- Any number of edits. -/
abbrev PluginsEdits := Relation.ReflTransGen PluginsEdit

theorem PluginsEdit.nodup {plugins plugins' : List Plugin} (edit : PluginsEdit plugins plugins')
    (nodup : (plugins.map (·.name)).Nodup) : (plugins'.map (·.name)).Nodup := by
  cases edit with
  | load plugin fresh =>
      rw [List.map_append, List.nodup_append]
      exact ⟨nodup, List.nodup_singleton _, by simpa using fresh⟩
  | unload => exact ((List.eraseP_sublist _).map _).nodup nodup

theorem PluginsEdits.nodup {plugins plugins' : List Plugin} (edits : PluginsEdits plugins plugins')
    (nodup : (plugins.map (·.name)).Nodup) : (plugins'.map (·.name)).Nodup := by
  induction edits with
  | refl => exact nodup
  | tail _ edit ih => exact edit.nodup ih

theorem edits_after_loadPlugin (env : LoadEnv) (pluginName : String) (pm : PluginManager) :
    PluginsEdits pm.loadedPlugins (after (loadPlugin env pluginName pm) pm).loadedPlugins := by
  cases loading : loadPlugin env pluginName pm with
  | error => exact .refl
  | ok pm' =>
      obtain ⟨-, notLoaded, plugin, opened, rfl⟩ := loadPlugin_eq_ok.mp loading
      refine .single (.load plugin ?_)
      rw [openPlugin_name opened, ← isPluginLoaded_iff, notLoaded]
      exact Bool.false_ne_true

theorem edits_after_unloadPlugin (env : UnloadEnv) (pluginName : String) (pm : PluginManager) :
    PluginsEdits pm.loadedPlugins (after (unloadPlugin env pluginName pm) pm).loadedPlugins := by
  cases unloading : unloadPlugin env pluginName pm with
  | error => exact .refl
  | ok pm' =>
      obtain ⟨-, -, -, rfl⟩ := unloadPlugin_eq_ok.mp unloading
      exact .single (.unload pluginName)

/-- A loop whose every iteration edits the plugin list only edits it. -/
theorem edits_foldl {α : Type*} (body : PluginManager → α → PluginManager)
    (step : ∀ pm a, PluginsEdits pm.loadedPlugins (body pm a).loadedPlugins) :
    ∀ (l : List α) (pm : PluginManager), PluginsEdits pm.loadedPlugins (l.foldl body pm).loadedPlugins
  | [], _ => .refl
  | a :: rest, pm => (step pm a).trans (edits_foldl body step rest (body pm a))

theorem edits_loadAllPlugins (entries : List DirEntry) (settings : Option ReloadSettings)
    (pm : PluginManager) :
    PluginsEdits pm.loadedPlugins (loadAllPlugins entries settings pm).loadedPlugins := by
  have loop := edits_foldl loadAllPluginsEntry (fun pm entry => by
    unfold loadAllPluginsEntry
    split_ifs
    · exact .refl
    · exact .refl
    · exact edits_after_loadPlugin _ _ _) entries pm
  unfold loadAllPlugins
  split
  · exact loop
  · split <;> exact loop

theorem edits_reloadPlugin (entry : DirEntry) (pm : PluginManager) :
    PluginsEdits pm.loadedPlugins (reloadPlugin entry pm).loadedPlugins := by
  have unloaded := edits_after_unloadPlugin entry.unload entry.stem pm
  unfold reloadPlugin
  split
  · exact .refl
  · rename_i pm' unloading
    rw [unloading] at unloaded
    split
    · exact unloaded
    · exact unloaded.trans (edits_after_loadPlugin _ _ _)

theorem edits_detectPluginChanges (entries : List DirEntry) (pm : PluginManager) :
    PluginsEdits pm.loadedPlugins (detectPluginChanges entries pm).loadedPlugins :=
  edits_foldl detectPluginChangesEntry (fun pm entry => by
    unfold detectPluginChangesEntry
    split
    · exact edits_reloadPlugin _ _
    · exact .refl) entries pm

theorem PluginOp.edits_apply (op : PluginOp) (pm : PluginManager) :
    PluginsEdits pm.loadedPlugins (op.apply pm).loadedPlugins := by
  cases op with
  | loadPlugin env pluginName => exact edits_after_loadPlugin env pluginName pm
  | unloadPlugin env pluginName => exact edits_after_unloadPlugin env pluginName pm
  | loadAllPlugins entries settings => exact edits_loadAllPlugins entries settings pm
  | detectPluginChanges entries => exact edits_detectPluginChanges entries pm
  | loadPluginCmd env cmd =>
      simp only [apply, ArkApi.loadPluginCmd]
      split
      · exact .refl
      · next pluginName _ =>
        cases loading : ArkApi.loadPlugin env pluginName pm with
        | error => exact .refl
        | ok pm' => simpa [after, loading] using edits_after_loadPlugin env pluginName pm
  | unloadPluginCmd env cmd =>
      simp only [apply, ArkApi.unloadPluginCmd]
      split
      · exact .refl
      · next pluginName _ =>
        cases unloading : ArkApi.unloadPlugin env pluginName pm with
        | error => exact .refl
        | ok pm' => simpa [after, unloading] using edits_after_unloadPlugin env pluginName pm
  | detectPluginChangesTimerCallback now entries =>
      simp only [apply, ArkApi.detectPluginChangesTimerCallback]
      split
      · exact .refl
      · exact edits_detectPluginChanges entries { pm with nextReloadCheck := now + pm.reloadSleepSeconds }

theorem PluginOp.edits_run :
    ∀ (ops : List PluginOp) (pm : PluginManager), PluginsEdits pm.loadedPlugins (run ops pm).loadedPlugins
  | [], _ => .refl
  | op :: rest, pm => (op.edits_apply pm).trans (edits_run rest (op.apply pm))

/-! ## Unique names -/

/-- Where names are unique, removing the first plugin of a name removes every
plugin of it. -/
theorem eraseP_name_eq_filter {plugins : List Plugin} (nodup : (plugins.map (·.name)).Nodup)
    (pluginName : String) :
    plugins.eraseP (·.name == pluginName) = plugins.filter (·.name != pluginName) := by
  induction plugins with
  | nil => rfl
  | cons plugin rest ih =>
      obtain ⟨fresh, restNodup⟩ := List.nodup_cons.mp nodup
      by_cases named : plugin.name = pluginName
      · have others : ∀ p ∈ rest, (p.name != pluginName) = true := fun p mem => by
          refine bne_iff_ne.mpr fun same => fresh ?_
          show plugin.name ∈ rest.map (·.name)
          rw [named, ← same]
          exact List.mem_map_of_mem _ mem
        simp [named, List.filter_eq_self.mpr others]
      · simp [named, ih restNodup]

/-- In every run from the constructor's state, the names of the loaded plugins
are unique, and a call of `UnloadPlugin` that returns leaves the plugin not
loaded and every other plugin loaded, in its order. -/
theorem loadedPlugins_names_unique (ops : List PluginOp) :
    let pm := PluginOp.run ops PluginManager.initial
    (pm.loadedPlugins.map (·.name)).Nodup ∧
      ∀ env pluginName pm', unloadPlugin env pluginName pm = .ok pm' →
        pm'.isPluginLoaded pluginName = false ∧
          pm'.loadedPlugins = pm.loadedPlugins.filter (·.name != pluginName) := by
  intro pm
  have nodup : (pm.loadedPlugins.map (·.name)).Nodup :=
    (PluginOp.edits_run ops PluginManager.initial).nodup List.nodup_nil
  refine ⟨nodup, fun env pluginName pm' unloading => ?_⟩
  obtain ⟨-, -, -, rfl⟩ := unloadPlugin_eq_ok.mp unloading
  refine ⟨?_, eraseP_name_eq_filter nodup pluginName⟩
  rw [eraseP_name_eq_filter nodup pluginName]
  simp [isPluginLoaded, findPlugin]

/-- Plugin `Foo` loaded, then unloaded: the unload leaves no plugin loaded. -/
theorem loadedPlugins_names_unique_load_unload :
    let pm := PluginOp.run [.loadPlugin ⟨true, .ok ⟨none, none, none, none, none⟩, ⟨3, 0⟩, .ok 1⟩ "Foo"]
      PluginManager.initial
    (unloadPlugin ⟨true, none⟩ "Foo" pm).toBool = true ∧
      (pm.loadedPlugins.map (·.name)).Nodup ∧
        ∀ env pluginName pm', unloadPlugin env pluginName pm = .ok pm' →
          pm'.isPluginLoaded pluginName = false ∧
            pm'.loadedPlugins = pm.loadedPlugins.filter (·.name != pluginName) :=
  ⟨rfl, loadedPlugins_names_unique _⟩

/-! ## Hot reload -/

/-- The manager the loop with its flag leaves is the one `DetectPluginChanges`
leaves. -/
theorem detectPluginChangesSaving_fst (entries : List DirEntry) (pm : PluginManager)
    (saveWorld : Bool) :
    (detectPluginChangesSaving entries pm saveWorld).1 = detectPluginChanges entries pm := by
  induction entries generalizing pm saveWorld with
  | nil => rfl
  | cons entry rest ih =>
      rw [detectPluginChangesSaving, detectPluginChanges, List.foldl_cons, detectPluginChangesEntry]
      split
      · exact ih _ false
      · exact ih _ saveWorld

/-- The effects of the loop: one world save if the flag is set and a reload is
attempted, then the reload attempts in directory order. -/
theorem detectPluginChangesSaving_effects (entries : List DirEntry) (pm : PluginManager)
    (saveWorld : Bool) :
    ∃ reloaded : List String,
      reloaded.Sublist ((entries.filter fun entry => entry.isDirectory && entry.newDllExists).map
        (·.stem)) ∧
      (detectPluginChangesSaving entries pm saveWorld).2 =
        (if saveWorld && !reloaded.isEmpty then [.saveWorld] else []) ++ reloaded.map .reload := by
  induction entries generalizing pm saveWorld with
  | nil => exact ⟨[], List.Sublist.slnil, by simp [detectPluginChangesSaving]⟩
  | cons entry rest ih =>
      rw [detectPluginChangesSaving]
      split
      · next found =>
        -- a reload: saved before it if the flag is set, and never again after it
        obtain ⟨reloaded, sub, effects⟩ := ih (reloadPlugin entry pm) false
        have candidate : (entry.isDirectory && entry.newDllExists) = true := by
          simp only [Bool.and_eq_true] at found ⊢
          exact found.1
        refine ⟨entry.stem :: reloaded, ?_, ?_⟩
        · rw [List.filter_cons, if_pos candidate, List.map_cons]
          exact sub.cons₂ _
        · dsimp only
          rw [effects]
          cases saveWorld <;> simp
      · next skipped =>
        obtain ⟨reloaded, sub, effects⟩ := ih pm saveWorld
        refine ⟨reloaded, ?_, effects⟩
        rw [List.filter_cons]
        split
        · rw [List.map_cons]
          exact sub.cons _
        · exact sub

/-- `DetectPluginChanges` saves the world at most once, before its first reload.
The loop with its flag leaves the manager `DetectPluginChanges` leaves, and it
asks for a world save exactly when its flag, `save_world_before_reload_`, is
set and it attempts a reload. Every other effect is a reload attempt, in
directory order, of a directory that holds a new library. -/
theorem detectPluginChanges_saves_world_once (entries : List DirEntry) (pm : PluginManager)
    (saveWorld : Bool) :
    (detectPluginChangesSaving entries pm saveWorld).1 = detectPluginChanges entries pm ∧
      ∃ reloaded : List String,
        reloaded.Sublist ((entries.filter fun entry => entry.isDirectory && entry.newDllExists).map
          (·.stem)) ∧
        (detectPluginChangesSaving entries pm saveWorld).2 =
          (if saveWorld && !reloaded.isEmpty then [.saveWorld] else []) ++ reloaded.map .reload :=
  ⟨detectPluginChangesSaving_fst entries pm saveWorld,
    detectPluginChangesSaving_effects entries pm saveWorld⟩

/-- Plugins `Bar` and `Foo` loaded, each with a new library waiting, and saving
before a reload on: the world is saved once, before both reloads. -/
theorem detectPluginChanges_saves_world_once_two_reloads :
    let pm : PluginManager := { PluginManager.initial with
      loadedPlugins := [⟨1, "Bar", "", "No description", ⟨1, 0⟩, ⟨0, 0⟩, []⟩,
        ⟨2, "Foo", "", "No description", ⟨1, 0⟩, ⟨0, 0⟩, []⟩] }
    let entry : String → DirEntry := fun stem =>
      ⟨true, stem, true, ⟨true, none⟩, true, true, ⟨true, .ok ⟨none, none, none, none, none⟩, ⟨3, 0⟩, .ok 7⟩⟩
    (detectPluginChangesSaving [entry "Bar", entry "Foo"] pm pm.saveWorldBeforeReload).2 =
        [.saveWorld, .reload "Bar", .reload "Foo"] ∧
      (detectPluginChangesSaving [entry "Bar", entry "Foo"] pm pm.saveWorldBeforeReload).1 =
        detectPluginChanges [entry "Bar", entry "Foo"] pm ∧
      ∃ reloaded : List String,
        reloaded.Sublist (([entry "Bar", entry "Foo"].filter
          fun entry => entry.isDirectory && entry.newDllExists).map (·.stem)) ∧
        (detectPluginChangesSaving [entry "Bar", entry "Foo"] pm pm.saveWorldBeforeReload).2 =
          (if pm.saveWorldBeforeReload && !reloaded.isEmpty then [.saveWorld] else []) ++
            reloaded.map .reload :=
  ⟨by decide, detectPluginChanges_saves_world_once _ _ _⟩

/-! ## Loading and unloading a plugin -/

/-- `UnloadPlugin` right after a `LoadPlugin` that returned removes the plugin it
appended: the name was not loaded before, so that plugin is the first of its
name. -/
theorem unloadPlugin_after_loadPlugin {envL : LoadEnv} {envU : UnloadEnv} {pluginName : String}
    {pm pm' : PluginManager} (loaded : loadPlugin envL pluginName pm = .ok pm')
    (dllExists : envU.dllExists = true) (freed : envU.freeLibraryError = none) :
    unloadPlugin envU pluginName pm' = .ok pm := by
  obtain ⟨-, notLoaded, plugin, opened, rfl⟩ := loadPlugin_eq_ok.mp loaded
  have named := openPlugin_name opened
  have fresh : ∀ p ∈ pm.loadedPlugins, ¬(p.name == pluginName) = true := fun p mem same =>
    absurd ((isPluginLoaded_iff pm pluginName).mpr (List.mem_map.mpr ⟨p, mem, by simpa using same⟩))
      (by simp [notLoaded])
  refine unloadPlugin_eq_ok.mpr ⟨?_, dllExists, freed, ?_⟩
  · rw [isPluginLoaded_iff]
    simp [named]
  · simp [List.eraseP_append_right _ fresh, named]

/-- `Foo` loaded; loading `Bar` succeeds, and unloading it restores the manager. -/
theorem unloadPlugin_after_loadPlugin_bar :
    let pm : PluginManager := { PluginManager.initial with
      loadedPlugins := [⟨1, "Foo", "", "No description", ⟨1, 0⟩, ⟨0, 0⟩, []⟩] }
    let envL : LoadEnv := ⟨true, .ok ⟨none, none, none, none, none⟩, ⟨3, 0⟩, .ok 7⟩
    let envU : UnloadEnv := ⟨true, none⟩
    let pm' : PluginManager := { pm with
      loadedPlugins := pm.loadedPlugins ++ [⟨7, "Bar", "", "No description", ⟨1, 0⟩, ⟨0, 0⟩, []⟩] }
    loadPlugin envL "Bar" pm = .ok pm' ∧ envU.dllExists = true ∧ envU.freeLibraryError = none ∧
      unloadPlugin envU "Bar" pm' = .ok pm := by
  intro pm envL envU pm'
  have loaded : loadPlugin envL "Bar" pm = .ok pm' := rfl
  exact ⟨loaded, rfl, rfl, unloadPlugin_after_loadPlugin loaded rfl rfl⟩

end ArkApi

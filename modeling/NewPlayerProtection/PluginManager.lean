import Mathlib.Data.List.Nodup

/-!
# The ArkApi plugin manager

`ArkApi::PluginManager` keeps `loaded_plugins_`, the plugins whose libraries are
loaded, and the settings of automatic reloading. This file models the functions
that change them: `LoadPlugin`, `UnloadPlugin`, the loops of `LoadAllPlugins`
and `DetectPluginChanges`, the timer callback, and the two console commands.

What the file system and the operating system answer enters as data, per call:
`LoadEnv` for one `LoadPlugin` call (whether the library file exists, what
`ReadPluginInfo` reads, the handle `LoadLibraryA` returns or its error code),
`UnloadEnv` for one `UnloadPlugin` call, and a `DirEntry` for one entry of the
plugin directory, with the outcomes of the calls a loop makes for it. An
exception is `Except.error` with its `what()` text. `LoadPlugin` and
`UnloadPlugin` throw only before they change the manager, so a failed call
leaves it as it was (`PluginManager.after`). Logging and the plugin's own
`Plugin_Init` and `Plugin_Unload` are left out: they do not touch the manager.
Neither does the world save `DetectPluginChanges` makes before a reload;
`detectPluginChangesSaving` records it, with the reload attempts, in the order
the loop asks for them.

A `float` is an exact dyadic value, so `LoadPlugin`'s version test compares
the numbers the code compares.
-/

namespace ArkApi

/-- A finite `float`: the value `mantissa * 2 ^ exponent`. -/
structure FloatValue where
  mantissa : Int
  exponent : Int
deriving DecidableEq, Repr

/-- The `float` comparison `a < b`. -/
def FloatValue.lt (a b : FloatValue) : Bool :=
  let e := min a.exponent b.exponent
  decide (a.mantissa * Int.pow 2 (a.exponent - e).toNat < b.mantissa * Int.pow 2 (b.exponent - e).toNat)

/-- The fields of `PluginInfo.json`, each present or not. A file that cannot be
opened leaves the object empty, as a file without fields does. -/
structure PluginInfoFile where
  fullName : Option String
  description : Option String
  version : Option FloatValue
  minApiVersion : Option FloatValue
  dependencies : Option (List String)
deriving DecidableEq, Repr

/-- The plugin information `ReadPluginInfo` returns, its defaults filled in. -/
structure PluginInfo where
  fullName : String
  description : String
  version : FloatValue
  minApiVersion : FloatValue
  dependencies : List String
deriving DecidableEq, Repr

/-- `ReadPluginInfo`: the parsed file with the defaults of its `value` calls; a
file that does not parse, or holds a field of another type, throws. -/
def readPluginInfo (file : Except String PluginInfoFile) : Except String PluginInfo :=
  file.map fun file => ⟨file.fullName.getD "", file.description.getD "No description",
    file.version.getD ⟨1, 0⟩, file.minApiVersion.getD ⟨0, 0⟩, file.dependencies.getD []⟩

/-- An element of `loaded_plugins_`. -/
structure Plugin where
  hModule : Nat
  name : String
  fullName : String
  description : String
  version : FloatValue
  minApiVersion : FloatValue
  dependencies : List String
deriving DecidableEq, Repr

/-- The `PluginManager` singleton. -/
structure PluginManager where
  loadedPlugins : List Plugin
  enablePluginReload : Bool
  reloadSleepSeconds : Int
  saveWorldBeforeReload : Bool
  nextReloadCheck : Int
deriving DecidableEq, Repr

namespace PluginManager

/-- The manager as its constructor leaves it. -/
def initial : PluginManager := ⟨[], false, 5, true, 0⟩

/-- `FindPlugin`: the first loaded plugin of the name. -/
def findPlugin (pm : PluginManager) (pluginName : String) : Option Plugin :=
  pm.loadedPlugins.find? (·.name == pluginName)

/-- `IsPluginLoaded`. -/
def isPluginLoaded (pm : PluginManager) (pluginName : String) : Bool :=
  (pm.findPlugin pluginName).isSome

/-- The manager after a call that throws only before it changes anything. -/
def after (result : Except String PluginManager) (pm : PluginManager) : PluginManager :=
  match result with
  | .ok pm' => pm'
  | .error _ => pm

theorem isPluginLoaded_iff (pm : PluginManager) (pluginName : String) :
    pm.isPluginLoaded pluginName = true ↔ pluginName ∈ pm.loadedPlugins.map (·.name) := by
  simp [isPluginLoaded, findPlugin, List.find?_isSome]

end PluginManager

open PluginManager

/-! ## Loading and unloading one plugin -/

/-- What one `LoadPlugin` call finds: whether the library file exists, the
contents of `PluginInfo.json`, the API version `std::stof(API_VERSION)`, and
what `LoadLibraryA` returns, a handle or the error code. -/
structure LoadEnv where
  dllExists : Bool
  pluginInfo : Except String PluginInfoFile
  apiVersion : FloatValue
  loadLibrary : Except Nat Nat

/-- The part of `LoadPlugin` after its two checks on the name: read the plugin
information, check the API version, load the library. -/
def openPlugin (env : LoadEnv) (pluginName : String) : Except String Plugin :=
  match readPluginInfo env.pluginInfo with
  | .error error => .error error
  | .ok pluginInfo =>
      if pluginInfo.minApiVersion.mantissa != 0 && env.apiVersion.lt pluginInfo.minApiVersion then
        .error ("Plugin " ++ pluginName ++ " requires newer API version!")
      else
        match env.loadLibrary with
        | .error code =>
            .error ("(LoadPlugin()): Failed to load plugin - " ++ pluginName ++ "\nError code: " ++
              toString code)
        | .ok hModule =>
            .ok ⟨hModule, pluginName, pluginInfo.fullName, pluginInfo.description,
              pluginInfo.version, pluginInfo.minApiVersion, pluginInfo.dependencies⟩

/-- `LoadPlugin`: append the plugin to `loaded_plugins_`. -/
def loadPlugin (env : LoadEnv) (pluginName : String) (pm : PluginManager) :
    Except String PluginManager :=
  if !env.dllExists then .error ("Plugin " ++ pluginName ++ " does not exist")
  else if pm.isPluginLoaded pluginName then .error ("Plugin " ++ pluginName ++ " was already loaded")
  else
    match openPlugin env pluginName with
    | .error error => .error error
    | .ok plugin => .ok { pm with loadedPlugins := pm.loadedPlugins ++ [plugin] }

/-- What one `UnloadPlugin` call finds: whether the library file exists, and the
error code when `FreeLibrary` fails. -/
structure UnloadEnv where
  dllExists : Bool
  freeLibraryError : Option Nat

/-- `UnloadPlugin`: remove the plugin `FindPlugin` finds. The source erases the
elements equal, as pointers, to the one found; each element is a pointer of its
own, so that is the element found. -/
def unloadPlugin (env : UnloadEnv) (pluginName : String) (pm : PluginManager) :
    Except String PluginManager :=
  match pm.findPlugin pluginName with
  | none => .error ("Plugin " ++ pluginName ++ " is not loaded")
  | some _ =>
      if !env.dllExists then .error ("Plugin " ++ pluginName ++ " does not exist")
      else
        match env.freeLibraryError with
        | some code =>
            .error ("Failed to unload plugin - " ++ pluginName ++ "\nError code: " ++ toString code)
        | none => .ok { pm with loadedPlugins := pm.loadedPlugins.eraseP (·.name == pluginName) }

theorem openPlugin_name {env : LoadEnv} {pluginName : String} {plugin : Plugin}
    (opened : openPlugin env pluginName = .ok plugin) : plugin.name = pluginName := by
  unfold openPlugin at opened
  split at opened
  · cases opened
  · split at opened
    · cases opened
    · split at opened
      · cases opened
      · cases opened
        rfl

/-- A call of `LoadPlugin` returns exactly when the library exists, the name is
not loaded and `openPlugin` opens the plugin, which it then appends. -/
theorem loadPlugin_eq_ok {env : LoadEnv} {pluginName : String} {pm pm' : PluginManager} :
    loadPlugin env pluginName pm = .ok pm' ↔
      env.dllExists = true ∧ pm.isPluginLoaded pluginName = false ∧
        ∃ plugin, openPlugin env pluginName = .ok plugin ∧
          pm' = { pm with loadedPlugins := pm.loadedPlugins ++ [plugin] } := by
  unfold loadPlugin
  cases env.dllExists <;> cases pm.isPluginLoaded pluginName <;>
    cases openPlugin env pluginName <;> simp [eq_comm]

/-- A call of `UnloadPlugin` returns exactly when the name is loaded, the library
exists and `FreeLibrary` succeeds; it then removes the first plugin of the name. -/
theorem unloadPlugin_eq_ok {env : UnloadEnv} {pluginName : String} {pm pm' : PluginManager} :
    unloadPlugin env pluginName pm = .ok pm' ↔
      pm.isPluginLoaded pluginName = true ∧ env.dllExists = true ∧ env.freeLibraryError = none ∧
        pm' = { pm with loadedPlugins := pm.loadedPlugins.eraseP (·.name == pluginName) } := by
  unfold unloadPlugin isPluginLoaded
  cases pm.findPlugin pluginName <;> cases env.dllExists <;> cases env.freeLibraryError <;>
    simp [eq_comm]

/-! ## The directory loops -/

/-- One entry of the plugin directory as a loop over it sees it: whether it is a
directory, the stem of its name, whether a new library `.dll.ArkApi` waits in
it, and the outcomes of the calls the loop makes for it. -/
structure DirEntry where
  isDirectory : Bool
  stem : String
  newDllExists : Bool
  unload : UnloadEnv
  copySucceeds : Bool
  removeSucceeds : Bool
  load : LoadEnv

/-- One iteration of `LoadAllPlugins`: move a waiting library into place, then
load the plugin. A step that throws ends the iteration. -/
def loadAllPluginsEntry (pm : PluginManager) (entry : DirEntry) : PluginManager :=
  if !entry.isDirectory then pm
  else if entry.newDllExists && !(entry.copySucceeds && entry.removeSucceeds) then pm
  else after (loadPlugin entry.load entry.stem pm) pm

/-- The reload settings of `config.json`, each present or not. -/
structure ReloadSettings where
  automaticPluginReloading : Option Bool
  automaticPluginReloadSeconds : Option Int
  saveWorldBeforePluginReload : Option Bool

/-- `LoadAllPlugins`: the loop over the plugin directory, then the reload
settings. Without a `settings` object in `config.json` (`none`),
`settings["settings"]` is null and its first `value` call throws out of
`LoadAllPlugins`, which catches nothing after the loop. The model returns the
manager that throw leaves: the loop's plugins loaded, the settings as they
were. Where the exception goes from there, the caller, is not in the source. -/
def loadAllPlugins (entries : List DirEntry) (settings : Option ReloadSettings)
    (pm : PluginManager) : PluginManager :=
  let pm := entries.foldl loadAllPluginsEntry pm
  match settings with
  | none => pm
  | some settings =>
      if settings.automaticPluginReloading.getD false then
        { pm with
          enablePluginReload := true
          reloadSleepSeconds := settings.automaticPluginReloadSeconds.getD 5
          saveWorldBeforeReload := settings.saveWorldBeforePluginReload.getD true }
      else { pm with enablePluginReload := false }

/-- The `try` block of one iteration of `DetectPluginChanges`: unload the plugin,
move the new library into place, load the plugin. A step that throws ends the
block, keeping what the steps before it did. -/
def reloadPlugin (entry : DirEntry) (pm : PluginManager) : PluginManager :=
  match unloadPlugin entry.unload entry.stem pm with
  | .error _ => pm
  | .ok unloaded =>
      if !(entry.copySucceeds && entry.removeSucceeds) then unloaded
      else after (loadPlugin entry.load entry.stem unloaded) unloaded

/-- One iteration of `DetectPluginChanges`: reload a loaded plugin whose
directory holds a new library. -/
def detectPluginChangesEntry (pm : PluginManager) (entry : DirEntry) : PluginManager :=
  if entry.isDirectory && entry.newDllExists && pm.isPluginLoaded entry.stem then
    reloadPlugin entry pm
  else pm

/-- `DetectPluginChanges`. -/
def detectPluginChanges (entries : List DirEntry) (pm : PluginManager) : PluginManager :=
  entries.foldl detectPluginChangesEntry pm

/-- What `DetectPluginChanges` asks of the engine, in order: a save of the world,
or the reload of a plugin. -/
inductive ReloadEffect where
  | saveWorld
  | reload (pluginName : String)
deriving DecidableEq, Repr

/-- `DetectPluginChanges` with its `save_world` flag, which starts as
`save_world_before_reload_`: the manager the loop leaves, and the world saves and
reload attempts it asks for. Before a reload the world is saved if the flag is
set, and the flag is then cleared. -/
def detectPluginChangesSaving : List DirEntry → PluginManager → Bool →
    PluginManager × List ReloadEffect
  | [], pm, _ => (pm, [])
  | entry :: rest, pm, saveWorld =>
      if entry.isDirectory && entry.newDllExists && pm.isPluginLoaded entry.stem then
        let result := detectPluginChangesSaving rest (reloadPlugin entry pm) false
        (result.1, (if saveWorld then [.saveWorld] else []) ++ .reload entry.stem :: result.2)
      else detectPluginChangesSaving rest pm saveWorld

/-- `DetectPluginChangesTimerCallback`: once the clock reaches
`next_reload_check_`, move it `reload_sleep_seconds_` ahead and look for changes.
It does not read `enable_plugin_reload_`. -/
def detectPluginChangesTimerCallback (now : Int) (entries : List DirEntry)
    (pm : PluginManager) : PluginManager :=
  if now < pm.nextReloadCheck then pm
  else detectPluginChanges entries { pm with nextReloadCheck := now + pm.reloadSleepSeconds }

/-! ## The console commands -/

/-- `ParseIntoArray(parsed, L" ", true)`: the words of a command, split at
spaces, empty words dropped. -/
def parseIntoArray (cmd : String) : List String :=
  (cmd.splitOn " ").filter (· != "")

/-- The colour of a server message. -/
inductive MessageColor where
  | red
  | green
deriving DecidableEq, Repr

/-- A console command's effect and the message it sends back, if any. -/
abbrev CommandOutcome := PluginManager × Option (MessageColor × String)

/-- `LoadPluginCmd`: load the plugin named by the command's second word. -/
def loadPluginCmd (env : LoadEnv) (cmd : String) (pm : PluginManager) : CommandOutcome :=
  match (parseIntoArray cmd)[1]? with
  | none => (pm, none)
  | some pluginName =>
      match loadPlugin env pluginName pm with
      | .error error => (pm, some (.red, "Failed to load plugin - " ++ error))
      | .ok pm' => (pm', some (.green, "Successfully loaded plugin"))

/-- `UnloadPluginCmd`: unload the plugin named by the command's second word. -/
def unloadPluginCmd (env : UnloadEnv) (cmd : String) (pm : PluginManager) : CommandOutcome :=
  match (parseIntoArray cmd)[1]? with
  | none => (pm, none)
  | some pluginName =>
      match unloadPlugin env pluginName pm with
      | .error error => (pm, some (.red, "Failed to unload plugin - " ++ error))
      | .ok pm' => (pm', some (.green, "Successfully unloaded plugin"))

end ArkApi

import NewPlayerProtection.Basic
import NewPlayerProtection.TimerProt
import NewPlayerProtection.Mirror
import NewPlayerProtection.Queries
import NewPlayerProtection.Expiry
import NewPlayerProtection.Tracker
import NewPlayerProtection.Throttle
import NewPlayerProtection.Database
import NewPlayerProtection.Hooks
import NewPlayerProtection.SaveWorld
import NewPlayerProtection.TakeDamage
import NewPlayerProtection.Server
import NewPlayerProtection.PluginManager
import NewPlayerProtection.PluginRuns
import NewPlayerProtection.Notifications
import NewPlayerProtection.Protection
import NewPlayerProtection.Persistence
import NewPlayerProtection.Refresh
import NewPlayerProtection.PluginLifecycle

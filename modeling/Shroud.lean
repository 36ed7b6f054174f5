import Shroud.BackendEquivalence
import Shroud.CleanupComplete
import Shroud.FailedQuery
import Shroud.ConnectedProtected
import Shroud.StoredSettings
import Shroud.UserDisconnect
import Shroud.SavedConfig
import Shroud.WrapperAdmits
import Shroud.VerifySound
import Shroud.LanDetection
import Shroud.HeadlessBoot
import Shroud.RestartHandover
import Shroud.ReconnectSettles
import Shroud.ReconnectCommands
import Shroud.SwitchOrder
import Shroud.OtherVpnEvents
import Shroud.HealthVerdict
import Shroud.ResolvConf
import Shroud.WakeDetection
import Shroud.StaleProbe
import Shroud.NmListing
import Shroud.VpnEndpoints
import Shroud.DbusMonitor
import Shroud.TrayBridge
import Shroud.DohConflicts
import Shroud.LogRotation
import Shroud.ReloadedRules
import Shroud.ScriptFamilies

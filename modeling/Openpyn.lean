import Openpyn.Connection.Busy
import Openpyn.Connection.Disconnects
import Openpyn.Connection.NetworkInfo
import Openpyn.Connection.OpenpynController
import Openpyn.Connection.StartCommand
import Openpyn.Database.Programs
import Openpyn.Database.Waiters
import Openpyn.Foundation.Completion
import Openpyn.Foundation.Machine
import Openpyn.Foundation.Leaders
import Openpyn.Java.Base64
import Openpyn.Java.Double
import Openpyn.Java.Integer
import Openpyn.Java.Number
import Openpyn.Java.Utf8
import Openpyn.Management.VpnStatus
import Openpyn.Management.CommandParsing
import Openpyn.Management.ManagementConnection
import Openpyn.Management.Run
import Openpyn.Management.Credentials
import Openpyn.Management.History
import Openpyn.Management.Session
import Openpyn.Management.Independence
import Openpyn.Management.Replies
import Openpyn.Management.SharedReader
import Openpyn.Management.Logging
import Openpyn.Management.OpenVPNService
import Openpyn.Management.Connecting
import Openpyn.Management.Wire
import Openpyn.Map.CountryFilter
import Openpyn.Map.CurrentPosition
import Openpyn.Map.GeoJson
import Openpyn.Map.Gestures
import Openpyn.Map.Selection
import Openpyn.Preferences.SecurityManager
import Openpyn.Servers.CreateJson
import Openpyn.Servers.Interrupted
import Openpyn.Status.RouteIdentity
import Openpyn.Status.Truncation
import Openpyn.Traffic.Reporting
import Openpyn.Traffic.Retention
import Openpyn.Foundation.Memory
import Openpyn.Map.MapBoxOfflineTileProvider

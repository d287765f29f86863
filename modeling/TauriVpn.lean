import TauriVpn.Android.ThisProfile
import TauriVpn.Android.OneStart
import TauriVpn.Android.FailedStart
import TauriVpn.Android.StatusTruth
import TauriVpn.Android.Watchdog
import TauriVpn.Android.StopFinal
import TauriVpn.Android.CommandServer
import TauriVpn.Android.DefaultInterface
import TauriVpn.Android.TunRoutes
import TauriVpn.Config.SharedKey
import TauriVpn.Config.Decision
import TauriVpn.Config.LocalEndpoint
import TauriVpn.Config.LocalProxy
import TauriVpn.Config.DnsUpstreams
import TauriVpn.Config.Asked
import TauriVpn.Desktop.Release
import TauriVpn.Desktop.Session
import TauriVpn.Desktop.AdminScript
import TauriVpn.Import.HostParameter
import TauriVpn.Import.TlsAsked
import TauriVpn.Import.Credentials
import TauriVpn.Import.Sip002
import TauriVpn.Import.StatedPort
import TauriVpn.Import.WireGuard
import TauriVpn.Import.Spellings
import TauriVpn.Import.ImportedName
import TauriVpn.Import.RoomLink
import TauriVpn.Ios.NetworkSettings
import TauriVpn.Olcrtc.Allocation
import TauriVpn.Olcrtc.FullBuffer
import TauriVpn.Olcrtc.WrapAround
import TauriVpn.Olcrtc.Ownership
import TauriVpn.Olcrtc.Tunnel
import TauriVpn.Olcrtc.Isolation
import TauriVpn.Olcrtc.Numbering
import TauriVpn.Olcrtc.ClientReset
import TauriVpn.Olcrtc.EntryInvariant
import TauriVpn.Olcrtc.Crypto
import TauriVpn.Olcrtc.Download
import TauriVpn.Olcrtc.Shutdown
import TauriVpn.Olcrtc.Socks5
import TauriVpn.Targets

import Noc.Mesh.Device
import Noc.Foundation.CString
import Noc.Mesh.Setting
import Noc.Network.Iptables.Struct
import Noc.Api.ErrorCode
import Noc.Foundation.Exec
import Noc.Foundation.Runs
import Noc.Foundation.Scan
import Noc.Mesh.Deleted
import Noc.Mesh.ListedOnce
import Noc.Network.Dhcp.Struct
import Noc.Network.Iptables.Rules
import Noc.Network.Route.Agreement
import Noc.Api.MeshDevices
import Noc.Api.MeshSetting
import Noc.Api.MessageHandler
import Noc.Concurrency
import Noc.Network.Iptables.Agreement
import Noc.RoundTrips
import Noc.Api.AnswerName
import Noc.Api.Dispatch
import Noc.Api.MeshIdGuard
import Noc.Api.ModeAgreement
import Noc.Api.RoundTrip
import Noc.Foundation.OrderedMap
import Noc.Foundation.Selection
import Noc.Foundation.Shell
import Noc.Mesh.BridgeSwitch
import Noc.Mesh.Staging.Calls
import Noc.Mesh.Staging.Mutex
import Noc.Mesh.Staging.Runs
import Noc.Network.CommandLines
import Noc.Network.Iptables.Refinement
import Noc.Selection
import Noc.Api.Confirmation
import Noc.Network.Route.Deletion
import Noc.Network.Saving
import Noc.Network.Dhcp.Replacing
import Noc.Network.Refusal
import Noc.Foundation.Search
import Noc.Mesh.Polling
import Noc.Mesh.Sections
import Noc.Api.MqttHandler
import Noc.Api.NameBuffer
import Noc.Api.WholeList
import Noc.Config.BridgeBlock
import Noc.Mesh.Announced
import Noc.Mesh.RadioScan
import Noc.Mesh.Rounds
import Noc.Mesh.StaticFlags
import Noc.Mesh.TopologyBounds
import Noc.Network.Dhcp.Leases
import Noc.Network.Iptables.Forwarding
import Noc.Network.Iptables.Ports
import Noc.Foundation.Output
import Noc.Mesh.CreateCmd
import Noc.Mesh.FirstDigits
import Noc.Network.Buffer.Agreement
import Noc.Network.Buffer.Sizes
import Noc.Foundation.Wire
import Noc.Mdns.Strings
import Noc.Mdns.Records
import Noc.Mdns.Reception
import Noc.Mdns.Query
import Noc.Mdns.Questions
import Noc.Foundation.Ring
import Noc.Utils.Queue
import Noc.Api.ThreadQueue
import Noc.Foundation.Tokens
import Noc.Utils.Dotenv
import Noc.Config.Settings
import Noc.Api.Confinement
import Noc.Fleet
import Noc.Foundation.Quoting
import Noc.Api.PublishCommand
import Noc.Foundation.PacketFilter
import Noc.Network.Iptables.Packets
import Noc.Network.Iptables.Reopening
import Noc.Utils.Timer
import Noc.Mdns.ServiceFile
import Noc.Discovery
import Noc.Foundation.Memory
import Noc.Foundation.JsonText
import Noc.Network.Formats
import Noc.Api.Memory
import Noc.Api.ReleasedOnce
import Noc.Api.MemoryReady
import Noc.Api.MeshMemory
import Noc.Api.Answered

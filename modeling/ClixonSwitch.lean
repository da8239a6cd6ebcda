import ClixonSwitch.Guarantees.AddressesKept
import ClixonSwitch.Guarantees.Base64Text
import ClixonSwitch.Guarantees.BridgeReplaced
import ClixonSwitch.Guarantees.CommitHeals
import ClixonSwitch.Guarantees.Convergence
import ClixonSwitch.Guarantees.DateAndTime
import ClixonSwitch.Guarantees.DefaultLeaves
import ClixonSwitch.Guarantees.DhcpProcesses
import ClixonSwitch.Guarantees.DhcpRestart
import ClixonSwitch.Guarantees.EngineIds
import ClixonSwitch.Guarantees.FdbTables
import ClixonSwitch.Guarantees.ForeignLinks
import ClixonSwitch.Guarantees.Forwarding
import ClixonSwitch.Guarantees.Isolation
import ClixonSwitch.Guarantees.KernelStp
import ClixonSwitch.Guarantees.LeaseScript
import ClixonSwitch.Guarantees.ManagementAddress
import ClixonSwitch.Guarantees.MstMapping
import ClixonSwitch.Guarantees.MstiTrees
import ClixonSwitch.Guarantees.MstpdIncremental
import ClixonSwitch.Guarantees.MstpdProcesses
import ClixonSwitch.Guarantees.MstpdResend
import ClixonSwitch.Guarantees.NothingDropped
import ClixonSwitch.Guarantees.OrderIndependent
import ClixonSwitch.Guarantees.PasswordAuthorized
import ClixonSwitch.Guarantees.PortLists
import ClixonSwitch.Guarantees.PvidKept
import ClixonSwitch.Guarantees.QBridgeViews
import ClixonSwitch.Guarantees.RecommitQuiet
import ClixonSwitch.Guarantees.Rounds
import ClixonSwitch.Guarantees.SafeJoin
import ClixonSwitch.Guarantees.SnmpTexts
import ClixonSwitch.Guarantees.SnmpdAccess
import ClixonSwitch.Guarantees.SnmpdProcesses
import ClixonSwitch.Guarantees.StateTags
import ClixonSwitch.Guarantees.SupportedExact
import ClixonSwitch.Guarantees.TimerOrder
import ClixonSwitch.Guarantees.ValidationSound
import ClixonSwitch.Guarantees.VlanLeak
import ClixonSwitch.Guarantees.VlanRanges
import ClixonSwitch.Guarantees.VlanTable
import ClixonSwitch.Source.SwitchNet.DeviceRuns
import ClixonSwitch.Source.SwitchNet.FakeNet

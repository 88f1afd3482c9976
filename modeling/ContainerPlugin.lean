import ContainerPlugin.Lib.Hmap
import ContainerPlugin.Lib.Outcome
import ContainerPlugin.Lib.Ring
import ContainerPlugin.Lib.Runs
import ContainerPlugin.Lib.Interleave
import ContainerPlugin.Lib.Words
import ContainerPlugin.Lib.Address
import ContainerPlugin.Lib.Grep
import ContainerPlugin.Lib.Loop
import ContainerPlugin.Lib.Records
import ContainerPlugin.Lib.Scan
import ContainerPlugin.Classifier.Basic
import ContainerPlugin.Classifier.Store
import ContainerPlugin.Classifier.Removal
import ContainerPlugin.Classifier.Application
import ContainerPlugin.Classifier.Statistics
import ContainerPlugin.Classifier.Capacity
import ContainerPlugin.Classifier.Orphans
import ContainerPlugin.Classifier.Requests
import ContainerPlugin.Classifier.Failures
import ContainerPlugin.Classifier.HitCounts
import ContainerPlugin.Classifier.Readings
import ContainerPlugin.Classifier.FitTest
import ContainerPlugin.Classifier.PlainTable
import ContainerPlugin.Ofproto.World
import ContainerPlugin.Ofproto.Basic
import ContainerPlugin.Ofproto.Bundle
import ContainerPlugin.Ofproto.Mirror
import ContainerPlugin.Ofproto.Run
import ContainerPlugin.Ofproto.Effects
import ContainerPlugin.Ofproto.WellFormed
import ContainerPlugin.Ofproto.Destroy
import ContainerPlugin.Ofproto.Claiming
import ContainerPlugin.Ofproto.Configure
import ContainerPlugin.Ofproto.Calls
import ContainerPlugin.Ofproto.MirrorCalls
import ContainerPlugin.Ofproto.Membership
import ContainerPlugin.Ofproto.Returns
import ContainerPlugin.Ofproto.Reconcile
import ContainerPlugin.Ofproto.Removal
import ContainerPlugin.Ofproto.Teardown
import ContainerPlugin.Ofproto.BitmapIndex
import ContainerPlugin.Ofproto.Iptables
import ContainerPlugin.Ofproto.AsicPorts
import ContainerPlugin.Ofproto.ShortBonds
import ContainerPlugin.Ofproto.VlanSync
import ContainerPlugin.Ofproto.CommandLength
import ContainerPlugin.Ofproto.CommandSyntax
import ContainerPlugin.Ofproto.VlanRouting
import ContainerPlugin.Ofproto.MirrorSync
import ContainerPlugin.Ofproto.MirrorTable
import ContainerPlugin.Ofproto.Unregister
import ContainerPlugin.Ofproto.MirrorErrors
import ContainerPlugin.Ofproto.MirrorLength
import ContainerPlugin.Ofproto.MirrorBundles
import ContainerPlugin.Ofproto.MirrorFlag
import ContainerPlugin.Ofproto.PortDump
import ContainerPlugin.Ofproto.PortMoves
import ContainerPlugin.Ofproto.L3Requests
import ContainerPlugin.Ofproto.Safety
import ContainerPlugin.Ofproto.AsicColumns
import ContainerPlugin.Ofproto.Blocked
import ContainerPlugin.Ofproto.Providers
import ContainerPlugin.Ofproto.ProviderRules
import ContainerPlugin.Ofproto.Lifecycle
import ContainerPlugin.Netdev.IptableStats
import ContainerPlugin.Netdev.SflowStats
import ContainerPlugin.Netdev.FailedReads
import ContainerPlugin.Netdev.L3Stats
import ContainerPlugin.Netdev.L3Rules
import ContainerPlugin.Netdev.L3Kernel
import ContainerPlugin.Netdev.L3Install
import ContainerPlugin.Netdev.L3Order
import ContainerPlugin.Netdev.L3Threads
import ContainerPlugin.Netdev.HwConfig
import ContainerPlugin.Netdev.Netlink
import ContainerPlugin.Netdev.KernelStats
import ContainerPlugin.Netdev.LinkReply
import ContainerPlugin.Netdev.GetStats
import ContainerPlugin.Sflow.Basic
import ContainerPlugin.Sflow.Stored
import ContainerPlugin.Sflow.Bridge
import ContainerPlugin.Sflow.Vrf
import ContainerPlugin.Sflow.Reconfigure
import ContainerPlugin.Sflow.Collectors
import ContainerPlugin.Sflow.PortStats
import ContainerPlugin.Stp.Basic
import ContainerPlugin.Stp.Reconcile
import ContainerPlugin.Stp.KernelBridge
import ContainerPlugin.Stp.BadRow
import ContainerPlugin.Stp.PortCount
import ContainerPlugin.Stp.Gate
import ContainerPlugin.Copp.Basic
import ContainerPlugin.Copp.Totals

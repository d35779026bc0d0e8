import FrrK8s.Sorted
import FrrK8s.Accumulate
import FrrK8s.Net
import FrrK8s.Api
import FrrK8s.Community
import FrrK8s.Frr
import FrrK8s.Merge
import FrrK8s.Translate
import FrrK8s.Names
import FrrK8s.MergeNeighbor
import FrrK8s.MergeNeighbors
import FrrK8s.MergeEvpn
import FrrK8s.MergeRouter
import FrrK8s.Outgoing
import FrrK8s.EvpnChecks
import FrrK8s.Accept
import FrrK8s.Determined
import FrrK8s.Order
import FrrK8s.Contributors
import FrrK8s.Union
import FrrK8s.Incoming
import FrrK8s.Policy
import FrrK8s.Session
import FrrK8s.Render
import FrrK8s.Rendered
import FrrK8s.Outbound
import FrrK8s.NetText
import FrrK8s.Debounce
import FrrK8s.Inbound
import FrrK8s.Passwords
import FrrK8s.Selector
import FrrK8s.Validate
import FrrK8s.Webhook
import FrrK8s.Admission
import FrrK8s.Namespaces
import FrrK8s.Template
import FrrK8s.Timers
import FrrK8s.Unique
import FrrK8s.References
import FrrK8s.Reconcile
import FrrK8s.Reload
import FrrK8s.Sessions
import FrrK8s.Converge
import FrrK8s.NodeState
import FrrK8s.Renaming
import FrrK8s.Renamed
import FrrK8s.Ranged
import FrrK8s.Redact
import FrrK8s.EvpnMerged
import FrrK8s.Activation
import FrrK8s.Networks
import FrrK8s.Precedence
import FrrK8s.Peers
import FrrK8s.Lengths
import FrrK8s.Families
import FrrK8s.CommunityText
import FrrK8s.Gauges
import FrrK8s.Daemon
import FrrK8s.Cleaner
import FrrK8s.Announced
import FrrK8s.Steady
import FrrK8s.RouterID
import FrrK8s.Cluster
import FrrK8s.Vtysh
import FrrK8s.Published
import FrrK8s.Reported
import FrrK8s.Recovery

import IpfsEmbed.Framework.FinMap
import IpfsEmbed.Framework.Reachable
import IpfsEmbed.Net.Multiaddr
import IpfsEmbed.Net.PeerInfo
import IpfsEmbed.Net.AddressBook
import IpfsEmbed.Net.SetInfo
import IpfsEmbed.Net.DialFailure
import IpfsEmbed.Net.Run
import IpfsEmbed.Net.Subscriptions
import IpfsEmbed.Properties.Sources
import IpfsEmbed.Properties.SetInfo
import IpfsEmbed.Properties.DialFailure
import IpfsEmbed.Properties.Loopback
import IpfsEmbed.Properties.Discovered
import IpfsEmbed.Properties.Subscriptions
import IpfsEmbed.Properties.Normalization
import IpfsEmbed.Net.Swarm
import IpfsEmbed.Properties.Connections
import IpfsEmbed.Cli.Protocol
import IpfsEmbed.Cli.RoundTrip
import IpfsEmbed.Net.Behaviour
import IpfsEmbed.Net.PollSwarm
import IpfsEmbed.Properties.Node
import IpfsEmbed.Properties.Rtt
import IpfsEmbed.Cli.Panics
import IpfsEmbed.Properties.Disabled
import IpfsEmbed.Net.Dials
import IpfsEmbed.Properties.Redials
import IpfsEmbed.Net.Sync
import IpfsEmbed.Properties.QueryLife
import IpfsEmbed.Properties.Sync
import IpfsEmbed.Properties.ConnectionEvents
import IpfsEmbed.Properties.Bootstrap
import IpfsEmbed.Properties.Listeners
import IpfsEmbed.Properties.Provenance
import IpfsEmbed.Properties.SelfDial
import IpfsEmbed.Properties.LoopbackRuns
import IpfsEmbed.Properties.Durable
import IpfsEmbed.Properties.Announcements
import IpfsEmbed.Properties.Prune
import IpfsEmbed.Properties.DialReports
import IpfsEmbed.Properties.Subscribers
import IpfsEmbed.Properties.IterationOrder

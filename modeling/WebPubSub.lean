import WebPubSub.Adapter.AckIsolation
import WebPubSub.Adapter.AckStreaming
import WebPubSub.Adapter.BulkAgreement
import WebPubSub.Adapter.GroupNames
import WebPubSub.Adapter.MembershipAgreement
import WebPubSub.Adapter.MembershipFailures
import WebPubSub.Adapter.Recipients
import WebPubSub.Connect.Answers
import WebPubSub.Connect.Candidates
import WebPubSub.Connect.Sessions
import WebPubSub.HubSetting.Caching
import WebPubSub.LiveTrace.Templates
import WebPubSub.ProtobufClient.Parsing
import WebPubSub.Sync.Awareness
import WebPubSub.Sync.Convergence
import WebPubSub.Sync.Lifecycle
import WebPubSub.Traffic.Agreement
import WebPubSub.Traffic.RawMessage
import WebPubSub.Traffic.Status
import WebPubSub.Transport.Batching
import WebPubSub.Transport.Exclusive
import WebPubSub.Transport.PacketLaw
import WebPubSub.Transport.PartialDecoding
import WebPubSub.Tunnel.Abort
import WebPubSub.Tunnel.ConnectionString
import WebPubSub.Tunnel.MessageProtocol
import WebPubSub.Tunnel.Pending
import WebPubSub.Tunnel.RequestHandling
import WebPubSub.Tunnel.ReverseProxy
import WebPubSub.Tunnel.ServerProtocol
import WebPubSub.Tunnel.Shutdown
import WebPubSub.Tunnel.Streaming
import WebPubSub.Service.Delivery
import WebPubSub.AdminUi.Shown
import WebPubSub.AdminUi.Events
import WebPubSub.Library.JsonIndent
import WebPubSub.Library.UrlText
import WebPubSub.Cli.Bindings
import WebPubSub.Cli.Run
import WebPubSub.Library.Redelivery
import WebPubSub.Reliable.Client
import WebPubSub.Reliable.Messages
import WebPubSub.Reliable.Delivery
import WebPubSub.Reliable.Publisher
import WebPubSub.Reliable.Publishing
import WebPubSub.Adapter.TunneledAcks
import WebPubSub.Connect.Lookups

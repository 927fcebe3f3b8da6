import SimpleTlsBroker.Authentication
import SimpleTlsBroker.Ownership
import SimpleTlsBroker.Building
import SimpleTlsBroker.Streams
import SimpleTlsBroker.FanOut
import SimpleTlsBroker.Isolation
import SimpleTlsBroker.Delivery
import SimpleTlsBroker.PeerNetwork
import SimpleTlsBroker.LocalClients
import SimpleTlsBroker.LoopRefinement
import SimpleTlsBroker.LiveTopics
import SimpleTlsBroker.LruPurge
import SimpleTlsBroker.AcceptAccounting
import SimpleTlsBroker.Forwarding
import SimpleTlsBroker.PartialWrites
import SimpleTlsBroker.Deadlines
import SimpleTlsBroker.ClientLists
import SimpleTlsBroker.LocalAttach
import SimpleTlsBroker.AfterClose
import SimpleTlsBroker.Admission
import SimpleTlsBroker.TopicRoundTrip
import SimpleTlsBroker.LengthField
import SimpleTlsBroker.PublishPayload
import SimpleTlsBroker.Acknowledgements
import SimpleTlsBroker.FrameBounds
import SimpleTlsBroker.LiftSafety
import SimpleTlsBroker.ConnectRoundTrip
import SimpleTlsBroker.SubscriptionRequests
import SimpleTlsBroker.LocalPublish
import SimpleTlsBroker.KeepAlive
import SimpleTlsBroker.SubscribeTermination
import SimpleTlsBroker.FairPolling
import SimpleTlsBroker.Exhaustion
import SimpleTlsBroker.Boot
import SimpleTlsBroker.StoreAgreement
import SimpleTlsBroker.PageIntegrity
import SimpleTlsBroker.CallbackCopy
import SimpleTlsBroker.ParsedEstimates
import SimpleTlsBroker.ReceiverInvariant
import SimpleTlsBroker.ServiceRefinement
import SimpleTlsBroker.SessionAgreement
import SimpleTlsBroker.SessionRecency
import SimpleTlsBroker.FirmwareRuns

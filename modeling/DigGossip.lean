import DigGossip.Foundations.FiniteMap
import DigGossip.Foundations.Grid
import DigGossip.Foundations.Indexing
import DigGossip.Foundations.SwapRemove
import DigGossip.Foundations.Listing
import DigGossip.Foundations.Program
import DigGossip.Foundations.Interleaving
import DigGossip.Foundations.Auditing
import DigGossip.Foundations.Stepping
import DigGossip.Foundations.Lru
import DigGossip.Foundations.FileSystem
import DigGossip.Foundations.Bytes
import DigGossip.Foundations.Hexadecimal
import DigGossip.Foundations.Reordering
import DigGossip.Types.IpAddr
import DigGossip.Types.Peer
import DigGossip.Types.Error
import DigGossip.Types.AsLookup
import DigGossip.Types.PeerRecord
import DigGossip.Discovery.AddressManager
import DigGossip.Discovery.Tables
import DigGossip.Discovery.Invariant
import DigGossip.Discovery.Placement
import DigGossip.Discovery.Promotion
import DigGossip.Discovery.AddressManagerStore
import DigGossip.Discovery.Operations
import DigGossip.Discovery.Runs
import DigGossip.Discovery.Representation
import DigGossip.Discovery.Snapshot
import DigGossip.Discovery.AcceptedSnapshot
import DigGossip.Discovery.PeerFile
import DigGossip.Discovery.ReceivedPeers
import DigGossip.Service.PeerPool
import DigGossip.Service.State
import DigGossip.Service.Regions
import DigGossip.Service.RegionSteps
import DigGossip.Service.Actions
import DigGossip.Service.Operations
import DigGossip.Service.Diversity
import DigGossip.Service.Caps
import DigGossip.Service.InboundCaps
import DigGossip.Service.Ceiling
import DigGossip.Service.Bans
import DigGossip.Service.Ledger
import DigGossip.Service.Churn
import DigGossip.Service.Plumtree
import DigGossip.Service.Displacement
import DigGossip.Service.Guards
import DigGossip.Service.Records
import DigGossip.Service.Footprints
import DigGossip.Service.ChurnBound
import DigGossip.Service.Duties
import DigGossip.Service.IpBans
import DigGossip.Service.Generations
import DigGossip.Service.Retirement
import DigGossip.Service.Reservations
import DigGossip.Service.DialCap
import DigGossip.Service.Broadcast
import DigGossip.Service.FanOut
import DigGossip.Service.Delivery
import DigGossip.Service.Broadcaster
import DigGossip.Service.Pledges
import DigGossip.Service.Penalties
import DigGossip.Service.RelayFold
import DigGossip.Service.HoldingsAnnounce
import DigGossip.Service.HoldingsCodec
import DigGossip.Service.HoldingsMalleability
import DigGossip.Service.StreamReassembler
import DigGossip.Service.StreamDelivery
import DigGossip.Service.Finality
import DigGossip.Types.PeerIdSpelling
import DigGossip.Discovery.Selection
import DigGossip.Service.DirectFloor
import DigGossip.Service.PoolPlan
import DigGossip.Service.Candidates
import DigGossip.Service.RelayReachable
import DigGossip.Discovery.Freshness
import DigGossip.Discovery.TriedCollisions
import DigGossip.Foundations.Floats
import DigGossip.Service.FloodMessages
import DigGossip.Service.InboundLimits
import DigGossip.Service.Readmission
import DigGossip.Foundations.Attending
import DigGossip.Service.Lifetime
import DigGossip.Service.OneWay
import DigGossip.Service.DisplacementPlan
import DigGossip.Service.Backoff
import DigGossip.Service.Priority
import DigGossip.Service.Reputation
import DigGossip.Types.PrefixMatch
import DigGossip.Types.Grouping
import DigGossip.Service.SeenSet
import DigGossip.Service.LazyQueue
import DigGossip.Foundations.Windows
import DigGossip.Service.DigLimiter
import DigGossip.Service.RateBounds
import DigGossip.Service.InboundCharging
import DigGossip.Service.StreamFrame
import DigGossip.Service.ProfileBody
import DigGossip.Foundations.Retention
import DigGossip.Service.DistributorHints
import DigGossip.Foundations.KeyedSet
import DigGossip.Discovery.IntroducerPeers
import DigGossip.Foundations.Simulation
import DigGossip.Discovery.SaveStages
import DigGossip.Discovery.Restarts
import DigGossip.Foundations.Decimal
import DigGossip.Service.HandshakeValidation
import DigGossip.Service.Negotiation
import DigGossip.Service.Meeting
import DigGossip.Service.Keepalive
import DigGossip.Service.StreamTransport
import DigGossip.Discovery.DiscoveryLoop
import DigGossip.Service.Tallies
import DigGossip.Relay.RelayClient
import DigGossip.Relay.RelayQuery
import DigGossip.Foundations.LruHistory
import DigGossip.Service.MessageCache
import DigGossip.Foundations.Beside
import DigGossip.Service.Sends
import DigGossip.Service.Metering

import TrogonEventStore.Library.Machine
import TrogonEventStore.Library.Interaction
import TrogonEventStore.Library.Channel
import TrogonEventStore.Library.Loop
import TrogonEventStore.Library.Shuffle
import TrogonEventStore.Library.Ledger
import TrogonEventStore.Library.Totals
import TrogonEventStore.Library.Chronicle
import TrogonEventStore.Library.SortedLog
import TrogonEventStore.Library.Feed
import TrogonEventStore.Library.Narrowing
import TrogonEventStore.Library.PercentEncoding
import TrogonEventStore.Library.Replacement
import TrogonEventStore.Library.SortedEntries
import TrogonEventStore.Library.JsonTree
import TrogonEventStore.Library.JsonText
import TrogonEventStore.Library.LastWrites
import TrogonEventStore.Library.Record
import TrogonEventStore.Library.SplitOnce
import TrogonEventStore.Library.UrlPath
import TrogonEventStore.Text
import TrogonEventStore.Types
import TrogonEventStore.Settings
import TrogonEventStore.Request
import TrogonEventStore.Events
import TrogonEventStore.ServerFeatures
import TrogonEventStore.NodeSelection
import TrogonEventStore.NodeConnection
import TrogonEventStore.SelectionMemory
import TrogonEventStore.ConnectionActor
import TrogonEventStore.ConnectionRuns
import TrogonEventStore.ConnectionContract
import TrogonEventStore.ConnectionSenders
import TrogonEventStore.Discovery
import TrogonEventStore.DiscoveryLimit
import TrogonEventStore.DiscoveryEnds
import TrogonEventStore.Batch
import TrogonEventStore.BatchRuns
import TrogonEventStore.BatchContract
import TrogonEventStore.BatchIndependence
import TrogonEventStore.BatchSession
import TrogonEventStore.BatchShutdown
import TrogonEventStore.Subscription
import TrogonEventStore.SubscriptionRuns
import TrogonEventStore.SubscriptionRetry
import TrogonEventStore.SubscriptionFeed
import TrogonEventStore.SubscriptionDelivery
import TrogonEventStore.SubscriptionProgress
import TrogonEventStore.Reads
import TrogonEventStore.ReadTolerance
import TrogonEventStore.Commands
import TrogonEventStore.FailureReports
import TrogonEventStore.PeerData
import TrogonEventStore.PeerTolerance
import TrogonEventStore.ConnectionString
import TrogonEventStore.ConnectionParams
import TrogonEventStore.GossipSeeds
import TrogonEventStore.SettingsParts
import TrogonEventStore.ParamIndependence
import TrogonEventStore.NewRequest
import TrogonEventStore.SimpleUrls
import TrogonEventStore.UserInfo
import TrogonEventStore.UsableHosts
import TrogonEventStore.SeedQueries
import TrogonEventStore.Positions
import TrogonEventStore.PersistentInfo
import TrogonEventStore.PersistentInfoAgreement
import TrogonEventStore.PersistentSession
import TrogonEventStore.PersistentSettlement
import TrogonEventStore.WireNumbers
import TrogonEventStore.StreamSelectors
import TrogonEventStore.Json
import TrogonEventStore.Serde
import TrogonEventStore.EventWire
import TrogonEventStore.BatchDeadline
import TrogonEventStore.AppendPaths
import TrogonEventStore.BatchServer
import TrogonEventStore.StreamMetadata
import TrogonEventStore.SettingsCodec
import TrogonEventStore.MetadataStreams
import TrogonEventStore.ReadRuns
import TrogonEventStore.TraceInjection
import TrogonEventStore.TracedNumbers
import TrogonEventStore.ReceiveSpans
import TrogonEventStore.MetadataDocuments
import TrogonEventStore.PositionTexts
import TrogonEventStore.ProjectionValues
import TrogonEventStore.ServerVersions
import TrogonEventStore.HttpPaths
import TrogonEventStore.Statistics
import TrogonEventStore.StatisticsReadings
import TrogonEventStore.StatisticsKeys
import TrogonEventStore.StatisticsNames
import TrogonEventStore.StatisticsOrder
import TrogonEventStore.Reservation
import TrogonEventStore.ReservationCodec
import TrogonEventStore.ReservationPrograms
import TrogonEventStore.ReservationStore
import TrogonEventStore.ReservationInvariant
import TrogonEventStore.ReservationReads
import TrogonEventStore.ReservationInventory
import TrogonEventStore.ReservationWorkers
import TrogonEventStore.ReservationDelivery
import TrogonEventStore.ReservationMemory
import TrogonEventStore.ReservationFormats
import TrogonEventStore.ReservationRuns
import TrogonEventStore.ReservationRecovery
import TrogonEventStore.ReservationLives
import TrogonEventStore.ReservationOutcomes
import TrogonEventStore.ReservationWire

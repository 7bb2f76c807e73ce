import ProcessManagerService.Library.PartialRuns
import ProcessManagerService.Library.SequentialHistory
import ProcessManagerService.Library.FrameStream
import ProcessManagerService.Library.PrefixCode
import ProcessManagerService.Library.JsonValues
import ProcessManagerService.Library.LittleEndian
import ProcessManagerService.Library.SharedMutex
import ProcessManagerService.Core.Communication
import ProcessManagerService.Core.MessageQueue
import ProcessManagerService.Core.Outcome
import ProcessManagerService.Core.Types
import ProcessManagerService.Configuration.ServerConfiguration
import ProcessManagerService.Configuration.Acceptance
import ProcessManagerService.Connection.TcpConnection
import ProcessManagerService.Connection.DerivedConnection
import ProcessManagerService.Connection.WriteChain
import ProcessManagerService.Connection.SendingFlag
import ProcessManagerService.Connection.WireStream
import ProcessManagerService.Connection.ReadLoop
import ProcessManagerService.Connection.ConnectedState
import ProcessManagerService.Connection.StreamDecoding
import ProcessManagerService.Connection.Interleaving
import ProcessManagerService.Connection.SingleWriter
import ProcessManagerService.Connection.WakeUp
import ProcessManagerService.Connection.WritingFrame
import ProcessManagerService.Connection.Reconnection
import ProcessManagerService.Connection.TimerFrame
import ProcessManagerService.Connection.TimerExpiry
import ProcessManagerService.Connection.Relay
import ProcessManagerService.Connection.TwoEnds
import ProcessManagerService.Connection.Delivery
import ProcessManagerService.Watchdog.ResponseHandlers
import ProcessManagerService.Watchdog.Session
import ProcessManagerService.Watchdog.WatchdogConnection
import ProcessManagerService.Watchdog.ErrorContainment
import ProcessManagerService.Watchdog.HandlerAgreement
import ProcessManagerService.Watchdog.SessionRuns
import ProcessManagerService.Watchdog.PingEffects
import ProcessManagerService.Watchdog.PingSession
import ProcessManagerService.Watchdog.PingCirculation
import ProcessManagerService.Watchdog.TimerPings
import ProcessManagerService.Watchdog.ConnectionWait
import ProcessManagerService.Watchdog.SessionAgreement
import ProcessManagerService.Worker.ModuleMessage
import ProcessManagerService.Worker.EventsCaches
import ProcessManagerService.Worker.ModulesCollection
import ProcessManagerService.Worker.ContextWorker
import ProcessManagerService.Worker.ModuleResponses
import ProcessManagerService.Worker.SubscriptionRegistry
import ProcessManagerService.Worker.HandlerCalls
import ProcessManagerService.Worker.SubscriptionLaws
import ProcessManagerService.Worker.CrossDelivery
import ProcessManagerService.Worker.ReceiveLoop
import ProcessManagerService.Worker.ReceiveInterleaving
import ProcessManagerService.Worker.Notifications
import ProcessManagerService.Worker.Broker
import ProcessManagerService.Worker.BrokerDelivery
import ProcessManagerService.Worker.ConcurrentProcessing
import ProcessManagerService.Worker.Errands
import ProcessManagerService.Worker.ServingLaw
import ProcessManagerService.Worker.ConcurrentService
import ProcessManagerService.Worker.ModulesCache
import ProcessManagerService.Worker.EventManager
import ProcessManagerService.Worker.NullCallbacks
import ProcessManagerService.Worker.LockedDispatch
import ProcessManagerService.Worker.DispatchLocks
import ProcessManagerService.Worker.Linearization
import ProcessManagerService.Worker.SelfRequests
import ProcessManagerService.Worker.HandlerDeadlock
import ProcessManagerService.Worker.RecordDecoding
import ProcessManagerService.Service.Base
import ProcessManagerService.Service.Parts
import ProcessManagerService.Service.Phases
import ProcessManagerService.Service.History
import ProcessManagerService.Service.StartUp
import ProcessManagerService.Service.MainThread
import ProcessManagerService.Service.GpsService

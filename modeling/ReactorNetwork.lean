import ReactorNetwork.Runs
import ReactorNetwork.CellStore
import ReactorNetwork.FifoHistory
import ReactorNetwork.SlotTable
import ReactorNetwork.ByteOrder
import ReactorNetwork.Machine
import ReactorNetwork.Logger
import ReactorNetwork.LogWritter
import ReactorNetwork.Buffer
import ReactorNetwork.BufferQueue
import ReactorNetwork.BufferLayout
import ReactorNetwork.BufferMemory
import ReactorNetwork.BufferFamily
import ReactorNetwork.BufferEquality
import ReactorNetwork.BufferRequests
import ReactorNetwork.Channel
import ReactorNetwork.TcpConnection
import ReactorNetwork.OutputStream
import ReactorNetwork.WriteComplete
import ReactorNetwork.SentViews
import ReactorNetwork.ConcurrentSends
import ReactorNetwork.GracefulShutdown
import ReactorNetwork.Conversation
import ReactorNetwork.Delivery
import ReactorNetwork.Progress
import ReactorNetwork.EventLoop
import ReactorNetwork.LoopRegistry
import ReactorNetwork.FunctorQueue
import ReactorNetwork.FunctorRounds
import ReactorNetwork.QuitRequests
import ReactorNetwork.EventLoopThread
import ReactorNetwork.EventLoopThreadPool
import ReactorNetwork.Multimap
import ReactorNetwork.TimerQueue
import ReactorNetwork.TimerLoop
import ReactorNetwork.TimerConservation
import ReactorNetwork.TimerSchedule
import ReactorNetwork.TimerArming
import ReactorNetwork.TimerCancel
import ReactorNetwork.TimerEntries
import ReactorNetwork.Delays
import ReactorNetwork.SwapRemove
import ReactorNetwork.Poller
import ReactorNetwork.PollerRuns
import ReactorNetwork.Epoller
import ReactorNetwork.ReusedDescriptors
import ReactorNetwork.DisabledChannels
import ReactorNetwork.PollerAgreement
import ReactorNetwork.PolledCallbacks
import ReactorNetwork.ReadyChannels
import ReactorNetwork.ConnectionLife
import ReactorNetwork.CloseAccount
import ReactorNetwork.ShutdownRace
import ReactorNetwork.ConnectionTrace
import ReactorNetwork.TcpServer
import ReactorNetwork.Connector
import ReactorNetwork.Acceptor
import ReactorNetwork.ListeningSocket
import ReactorNetwork.ConnectorLoop
import ReactorNetwork.RetryDelays
import ReactorNetwork.ConnectorOrder
import ReactorNetwork.ConnectorFates
import ReactorNetwork.ConnectorCalls
import ReactorNetwork.TcpClient
import ReactorNetwork.ClientStop
import ReactorNetwork.ClientDestruction
import ReactorNetwork.CloseOnce
import ReactorNetwork.ServerLife
import ReactorNetwork.ServerDestruction
import ReactorNetwork.QueuedCalls
import ReactorNetwork.LateSends
import ReactorNetwork.FunctorOwners
import ReactorNetwork.EventOwners
import ReactorNetwork.ServerDescriptors
import ReactorNetwork.ServerPoller
import ReactorNetwork.ThreadConfinement
import ReactorNetwork.RoundRobin
import ReactorNetwork.RemovalAccount
import ReactorNetwork.RemovalHandover
import ReactorNetwork.GuardedBodies
import ReactorNetwork.WrongThread
import ReactorNetwork.ClientLoop
import ReactorNetwork.ClientLives
import ReactorNetwork.ClientPhases
import ReactorNetwork.ClientCycles
import ReactorNetwork.InetAddress

import Rustuya.CheckedExecution
import Rustuya.StatefulExecution
import Rustuya.TransitionSystem
import Rustuya.ThreadPool
import Rustuya.BroadcastChannel
import Rustuya.ByteCodec
import Rustuya.BlockMode
import Rustuya.Base64
import Rustuya.Json
import Rustuya.Error
import Rustuya.Crypto
import Rustuya.KnownAnswers
import Rustuya.PaddedCipher
import Rustuya.Message
import Rustuya.FrameSafety
import Rustuya.FrameRoundTrip
import Rustuya.FrameReencoding
import Rustuya.Protocol
import Rustuya.PayloadRoundTrip
import Rustuya.SessionKey
import Rustuya.CommandPayload
import Rustuya.PayloadContents
import Rustuya.DeviceState
import Rustuya.StreamReader
import Rustuya.DeviceDetection
import Rustuya.StreamFraming
import Rustuya.ErrorEvents
import Rustuya.StreamRecovery
import Rustuya.ConnectionLifecycle
import Rustuya.ConnectionTask
import Rustuya.Backoff
import Rustuya.TaskRefinement
import Rustuya.WireIntegrity
import Rustuya.SessionLifecycle
import Rustuya.StopSafety
import Rustuya.RequestLifecycle
import Rustuya.RequestRefinement
import Rustuya.TaskBranches
import Rustuya.ConnectionEvents
import Rustuya.Transcript
import Rustuya.Peer
import Rustuya.PeerSession
import Rustuya.TaskCourse
import Rustuya.SequenceNumbers
import Rustuya.RequestAccounting
import Rustuya.RequestOrder
import Rustuya.TaskProgress
import Rustuya.RequestCalls
import Rustuya.FailureReports
import Rustuya.ReplyMatching
import Rustuya.SettingsOwnership
import Rustuya.AddressResolution
import Rustuya.Rediscovery
import Rustuya.ChannelContents
import Rustuya.ResponseMatching
import Rustuya.FrameAuthenticity
import Rustuya.FailureCounting
import Rustuya.DetectionRaces
import Rustuya.HandleCounting
import Rustuya.Scanner
import Rustuya.DiscoveryPackets
import Rustuya.ScanExclusion
import Rustuya.ScanCompleteness
import Rustuya.FreshDiscovery
import Rustuya.ScanResults
import Rustuya.PassiveListener
import Rustuya.EventListeners
import Rustuya.PeerReplies
import Rustuya.TaskTiming
import Rustuya.SerialWorkers
import Rustuya.SyncCalls

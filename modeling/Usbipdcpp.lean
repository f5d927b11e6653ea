import Usbipdcpp.Protocol.Wire
import Usbipdcpp.VirtualDevice.TransferScheduler
import Usbipdcpp.VirtualDevice.EndpointRouting
import Usbipdcpp.Protocol.CommandFraming
import Usbipdcpp.Server.DeviceRegistry
import Usbipdcpp.Session.DeviceHandoff
import Usbipdcpp.Session.ImportLifecycle
import Usbipdcpp.Session.SenderWakeup
import Usbipdcpp.VirtualDevice.Unlink
import Usbipdcpp.VirtualDevice.ControlUrb
import Usbipdcpp.VirtualDevice.IsochronousReplies
import Usbipdcpp.VirtualDevice.MscBulkIn
import Usbipdcpp.LibusbHandler.TransferCallback
import Usbipdcpp.Session.ReplyStream
import Usbipdcpp.Session.SendOrder
import Usbipdcpp.Foundation.FifoLedger
import Usbipdcpp.VirtualDevice.SchedulerRun
import Usbipdcpp.VirtualDevice.SchedulerTimer
import Usbipdcpp.VirtualDevice.SchedulerExpiry
import Usbipdcpp.VirtualDevice.SchedulerLedger
import Usbipdcpp.VirtualDevice.SchedulerService
import Usbipdcpp.VirtualDevice.SchedulerPacing
import Usbipdcpp.VirtualDevice.SchedulerCancel
import Usbipdcpp.VirtualDevice.SchedulerArming
import Usbipdcpp.Foundation.CircularWindow
import Usbipdcpp.Utils.RingBuffer
import Usbipdcpp.Foundation.KeyedQueues
import Usbipdcpp.VirtualDevice.ByteStreamInChannel
import Usbipdcpp.VirtualDevice.MessageInChannel
import Usbipdcpp.VirtualDevice.ChannelLedger
import Usbipdcpp.VirtualDevice.ChannelProgress
import Usbipdcpp.VirtualDevice.ChannelConservation
import Usbipdcpp.VirtualDevice.ChannelIsolation
import Usbipdcpp.VirtualDevice.ChannelRequests
import Usbipdcpp.VirtualDevice.MessageDelivery
import Usbipdcpp.VirtualDevice.OutEndpointChannelBase
import Usbipdcpp.VirtualDevice.OutChannelLedger
import Usbipdcpp.Utils.SeqnumOrder
import Usbipdcpp.VirtualDevice.PipeDevice
import Usbipdcpp.VirtualDevice.PipeLifetime
import Usbipdcpp.VirtualDevice.PipeStreams
import Usbipdcpp.VirtualDevice.PipeReads
import Usbipdcpp.Foundation.TaggedFifo
import Usbipdcpp.VirtualDevice.PipeControl
import Usbipdcpp.Protocol.CommandRoundTrip
import Usbipdcpp.Server.AcceptLoop
import Usbipdcpp.Server.SessionEvents
import Usbipdcpp.Server.DeviceEvents
import Usbipdcpp.LibusbHandler.DeviceLeft
import Usbipdcpp.LibusbHandler.TransferOutcomes
import Usbipdcpp.LibusbHandler.UnlinkAnswers
import Usbipdcpp.LibusbHandler.PendingTransfers
import Usbipdcpp.MassStorage.BulkOnlyHandler
import Usbipdcpp.MassStorage.CommandPhases
import Usbipdcpp.MassStorage.TransferSteps
import Usbipdcpp.MassStorage.ReadOnly
import Usbipdcpp.MassStorage.MediumBounds
import Usbipdcpp.MassStorage.History
import Usbipdcpp.Foundation.Lockstep
import Usbipdcpp.MassStorage.BulkStages
import Usbipdcpp.MassStorage.Phases
import Usbipdcpp.MassStorage.Residue
import Usbipdcpp.MassStorage.ReplyStability
import Usbipdcpp.VirtualDevice.IsochronousConsistency
import Usbipdcpp.VirtualDevice.IsochronousBounds
import Usbipdcpp.VirtualDevice.RndisPackets
import Usbipdcpp.VirtualDevice.RndisHandler
import Usbipdcpp.VirtualDevice.RndisStateMachine
import Usbipdcpp.VirtualDevice.InterfaceAddressing
import Usbipdcpp.VirtualDevice.AlternateSettings
import Usbipdcpp.Foundation.ErasedRanges
import Usbipdcpp.MassStorage.PunchHole
import Usbipdcpp.Foundation.Chunks
import Usbipdcpp.MassStorage.DataTransfers
import Usbipdcpp.MassStorage.UnmapCommand
import Usbipdcpp.MassStorage.LinearMedium
import Usbipdcpp.MassStorage.WriteEquivalence
import Usbipdcpp.MassStorage.ReadEquivalence
import Usbipdcpp.Foundation.SplicePump
import Usbipdcpp.MassStorage.ZeroCopy
import Usbipdcpp.VirtualDevice.RndisOutDelivery
import Usbipdcpp.VirtualDevice.RndisResponses
import Usbipdcpp.VirtualDevice.HidControl
import Usbipdcpp.VirtualDevice.InterfaceSettings
import Usbipdcpp.Foundation.Acquisition
import Usbipdcpp.VirtualDevice.ConnectionRollback
import Usbipdcpp.LibusbHandler.InterfaceClaims
import Usbipdcpp.Protocol.IsoValidation
import Usbipdcpp.Protocol.DeviceList
import Usbipdcpp.Foundation.LengthTagged
import Usbipdcpp.VirtualDevice.ConfigurationDescriptor
import Usbipdcpp.VirtualDevice.ControlData
import Usbipdcpp.VirtualDevice.AudioControl
import Usbipdcpp.VirtualDevice.VideoControl
import Usbipdcpp.VirtualDevice.LibraryControl
import Usbipdcpp.VirtualDevice.ControlInLength
import Usbipdcpp.VirtualDevice.SourcePacing
import Usbipdcpp.VirtualDevice.PcmStream
import Usbipdcpp.VirtualDevice.SinkSlices
import Usbipdcpp.VirtualDevice.SinkPacing
import Usbipdcpp.VirtualDevice.VideoFraming
import Usbipdcpp.Foundation.OnesComplement
import Usbipdcpp.VirtualDevice.EthernetEchoBackend
import Usbipdcpp.VirtualDevice.EchoBounds
import Usbipdcpp.VirtualDevice.EchoChecksums
import Usbipdcpp.VirtualDevice.EchoSequence
import Usbipdcpp.Foundation.FileStream
import Usbipdcpp.VirtualDevice.WavFileSink
import Usbipdcpp.VirtualDevice.WavConsistency
import Usbipdcpp.Foundation.WaitingSender
import Usbipdcpp.VirtualDevice.HidInputReports
import Usbipdcpp.VirtualDevice.KeyboardHandler
import Usbipdcpp.VirtualDevice.GamepadHandler
import Usbipdcpp.VirtualDevice.DigitizerHandler
import Usbipdcpp.VirtualDevice.MouseHandlers
import Usbipdcpp.VirtualDevice.HidHostView
import Usbipdcpp.Foundation.BoundedQueue
import Usbipdcpp.Foundation.DataRefinement
import Usbipdcpp.Utils.RingBufferQueue
import Usbipdcpp.VirtualDevice.MouseMotion
import Usbipdcpp.Foundation.PackedSlots
import Usbipdcpp.VirtualDevice.KeyboardKeys
import Usbipdcpp.Foundation.SlotTable
import Usbipdcpp.Foundation.ListedMap
import Usbipdcpp.Utils.ReuseMap
import Usbipdcpp.Utils.ReuseSet
import Usbipdcpp.Utils.PoolMemory
import Usbipdcpp.Utils.SmallVector
import Usbipdcpp.Foundation.StreamPrefix
import Usbipdcpp.Protocol.ReplyReading
import Usbipdcpp.Session.ReplyDelivery
import Usbipdcpp.Foundation.NamedCells
import Usbipdcpp.Utils.StringPool
import Usbipdcpp.VirtualDevice.DeviceStrings
import Usbipdcpp.Foundation.ReferenceLedger
import Usbipdcpp.LibusbHandler.DeviceReferences
import Usbipdcpp.Foundation.Latch
import Usbipdcpp.VirtualDevice.AudioSettings
import Usbipdcpp.VirtualDevice.VideoNegotiation
import Usbipdcpp.VirtualDevice.AudioRates
import Usbipdcpp.Foundation.FilledArray
import Usbipdcpp.Server.Observers
import Usbipdcpp.Protocol.OpRequests
import Usbipdcpp.Session.Handshake
import Usbipdcpp.Foundation.Tally
import Usbipdcpp.VirtualDevice.ChannelTally
import Usbipdcpp.VirtualDevice.DataInterface
import Usbipdcpp.Foundation.Sections
import Usbipdcpp.VirtualDevice.HostEnumeration
import Usbipdcpp.VirtualDevice.ClassDescriptors
import Usbipdcpp.VirtualDevice.DeviceFunctions
import Usbipdcpp.VirtualDevice.CompositeDevice

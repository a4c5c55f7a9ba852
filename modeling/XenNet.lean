import XenNet.CyclicIndex
import XenNet.RingSegment
import XenNet.ByteMemory
import XenNet.CopySequence
import XenNet.TransitionSystem
import XenNet.LastWrite
import XenNet.FindCursor
import XenNet.BridgeKernel
import XenNet.RouteTable
import XenNet.MacStatic
import XenNet.IpStatic
import XenNet.BridgeIsolation
import XenNet.LookupRange
import XenNet.LsbLearning
import XenNet.LearningBridges
import XenNet.FrameBytes
import XenNet.NetmapKernel
import XenNet.NetmapReference
import XenNet.ReleasedSlots
import XenNet.NetfrontModel
import XenNet.NetfrontTransmit
import XenNet.TransmitLoop
import XenNet.TransmitSystem
import XenNet.TransmitFlowControl
import XenNet.TransmitPublication
import XenNet.TransmitIntegrity
import XenNet.NetfrontReceive
import XenNet.ReceiveImport
import XenNet.ReceiveLoop
import XenNet.ReceiveSync
import XenNet.ReceiveRetry
import XenNet.PacketBounds
import XenNet.ReceiveSystem
import XenNet.NetbackModel
import XenNet.NetbackReceive
import XenNet.NetbackForward
import XenNet.SplitDriver
import XenNet.KickToken
import XenNet.ReceiveWakeup
import XenNet.RunHeads
import XenNet.GrantRing
import XenNet.GrantConfinement
import XenNet.BufferMarks
import XenNet.NetfrontGrant
import XenNet.GrantMapping
import XenNet.BufferAddressing
import XenNet.BufferReferences
import XenNet.NumberedName
import XenNet.BridgeLookups
import XenNet.NetbackConnect
import XenNet.NetfrontSetup
import XenNet.ControlPort
import XenNet.TableBounds
import XenNet.BdgfnLibrary
import XenNet.RouteListing
import XenNet.FormattedScan
import XenNet.ParseOptions
import XenNet.GrantExchange
import XenNet.GrantLifecycle
import XenNet.GrantArrays
import XenNet.PortRegistration
import XenNet.GrantCoverage
import XenNet.FlagBlocks
import XenNet.TransmitReclaim
import XenNet.PageOrder
import XenNet.IxgbeMapping
import XenNet.FixedNumeral
import XenNet.AwkComparison
import XenNet.PatchSelection
import XenNet.InterruptLines
import XenNet.NetbackInterface
import XenNet.InterfaceBooks
import XenNet.InterfaceConnect
import XenNet.KernelScan
import XenNet.NetbackXenbus
import XenNet.StateDiagram
import XenNet.NetbackStates
import XenNet.BackendBooks
import XenNet.RunTotals
import XenNet.NetbackLifecycle
import XenNet.VifSettings
import XenNet.NetfrontHandshake
import XenNet.FifoChannel
import XenNet.TransmitPath
import XenNet.ReceivePath
import XenNet.OwnedReferences
import XenNet.BridgeModules
import XenNet.BridgeTraffic
import XenNet.BridgeNames
import XenNet.LongOptions
import XenNet.BdgfnCommand
import XenNet.SharedMemory

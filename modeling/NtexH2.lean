import NtexH2.Base
import NtexH2.Lib.Probe
import NtexH2.Lib.Fifo
import NtexH2.Lib.RobinHood
import NtexH2.Lib.PrefixCode
import NtexH2.Lib.BigEndian
import NtexH2.Lib.Incremental
import NtexH2.Lib.OrderedMap
import NtexH2.Lib.Channel
import NtexH2.Hpack.Header
import NtexH2.Hpack.Table
import NtexH2.Hpack.TableCells
import NtexH2.Hpack.TableInvariant
import NtexH2.Hpack.TableInsert
import NtexH2.Hpack.TableRefinement
import NtexH2.Hpack.HuffmanTable
import NtexH2.Hpack.Huffman
import NtexH2.Hpack.HuffmanCorrect
import NtexH2.Hpack.HuffmanExact
import NtexH2.Hpack.Encoder
import NtexH2.Hpack.Decoder
import NtexH2.Hpack.Primitives
import NtexH2.Hpack.Representations
import NtexH2.Hpack.Agreement
import NtexH2.Hpack.PrimitivesExact
import NtexH2.Hpack.Repeated
import NtexH2.Hpack.Scan
import NtexH2.Hpack.Decoding
import NtexH2.Hpack.Reads
import NtexH2.Hpack.HostileInput
import NtexH2.Hpack.Scratch
import NtexH2.Hpack.Resume
import NtexH2.Hpack.EncoderRuns
import NtexH2.Hpack.SizeUpdates
import NtexH2.Hpack.Sensitive
import NtexH2.Hpack.LongStrings
import NtexH2.Hpack.LongBlocks
import NtexH2.Frame
import NtexH2.Wire.Frame
import NtexH2.Wire.RoundTrip
import NtexH2.Wire.Headers
import NtexH2.Wire.HeaderList
import NtexH2.Codec.Model
import NtexH2.Codec.FrameSizes
import NtexH2.Codec.Chunks
import NtexH2.Codec.Blocks
import NtexH2.Codec.Sync
import NtexH2.Codec.RoundTrip
import NtexH2.Window
import NtexH2.Connection.State
import NtexH2.Connection.Stream
import NtexH2.Connection.StreamRef
import NtexH2.Connection.Local
import NtexH2.Connection.Receive
import NtexH2.Connection.Dispatcher
import NtexH2.Session.Model
import NtexH2.Session.Table
import NtexH2.Session.Sends
import NtexH2.Session.Credit
import NtexH2.Session.Emission
import NtexH2.Session.Grammar
import NtexH2.Session.Slots
import NtexH2.Session.Closing
import NtexH2.Session.Ledger
import NtexH2.Session.Grants
import NtexH2.Connection.Refines
import NtexH2.Connection.RefinesStream
import NtexH2.Connection.RefinesSend
import NtexH2.Connection.RefinesLocal
import NtexH2.Connection.RefinesReceive
import NtexH2.Connection.RefinesRun
import NtexH2.Connection.FlowControl
import NtexH2.Connection.Streams
import NtexH2.Connection.Shutdown
import NtexH2.Connection.Waiters
import NtexH2.Connection.Drain
import NtexH2.Connection.GoAway
import NtexH2.Connection.Refill
import NtexH2.Connection.ClosedStreams
import NtexH2.Connection.SmallWindows
import NtexH2.Connection.Payload
import NtexH2.Connection.Outline
import NtexH2.Connection.ContentLength
import NtexH2.Connection.LengthGrammar
import NtexH2.Connection.Tame
import NtexH2.Connection.TameReceive
import NtexH2.Connection.TameRun
import NtexH2.Connection.Wakeups
import NtexH2.Connection.IdleStreams
import NtexH2.Connection.FailedSends
import NtexH2.Connection.EndStream
import NtexH2.Connection.ResetLimit
import NtexH2.Connection.PendingResets
import NtexH2.Connection.Past
import NtexH2.Connection.PastSteps
import NtexH2.Connection.LateFrames
import NtexH2.Connection.Mail
import NtexH2.Connection.Endpoint
import NtexH2.Network.Model
import NtexH2.Network.Joined
import NtexH2.Network.Agreement
import NtexH2.Codec.ListSize
import NtexH2.Codec.SentLists
import NtexH2.Network.Readings
import NtexH2.Codec.Reencode
import NtexH2.Client.PoolWakeups
import NtexH2.Timer.Registry
import NtexH2.Timer.Consistency
import NtexH2.Timer.Timeouts
import NtexH2.Session.Ages
import NtexH2.Session.Endings
import NtexH2.Connection.Mute
import NtexH2.Connection.Messages
import NtexH2.Connection.Replies
import NtexH2.Connection.Speech
import NtexH2.Connection.Matching
import NtexH2.Connection.Finished
import NtexH2.Connection.Fatal
import NtexH2.Connection.Lifecycle
import NtexH2.Connection.Control
import NtexH2.Connection.KeepAlive
import NtexH2.Client.Inbox
import NtexH2.Client.InboxRuns
import NtexH2.Network.Delivery
import NtexH2.Network.HalfClose
import NtexH2.Network.Progress
import NtexH2.Network.Failures
import NtexH2.Network.KeepAlive
import NtexH2.Codec.Calls
import NtexH2.Codec.Flows
import NtexH2.Network.Octets

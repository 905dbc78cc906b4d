import RtmpClient.Library.Outcome
import RtmpClient.Library.BigEndian
import RtmpClient.Library.Assembly
import RtmpClient.Library.Incremental
import RtmpClient.Library.SharedBuffer
import RtmpClient.Library.WriteSession
import RtmpClient.Library.Codec
import RtmpClient.Net.Netio
import RtmpClient.Net.DataBuf
import RtmpClient.Rtmp.Header
import RtmpClient.Rtmp.HeaderLemmas
import RtmpClient.Rtmp.HeaderRoundTrip
import RtmpClient.Rtmp.Packet
import RtmpClient.Rtmp.Chunk
import RtmpClient.Rtmp.Transport
import RtmpClient.Rtmp.ChunkLemmas
import RtmpClient.Rtmp.ReceiveLemmas
import RtmpClient.Rtmp.Retry
import RtmpClient.Rtmp.Reassembly
import RtmpClient.Rtmp.Receive
import RtmpClient.Rtmp.Stall
import RtmpClient.Rtmp.SendLemmas
import RtmpClient.Rtmp.WholeMessage
import RtmpClient.Rtmp.RoundTrip
import RtmpClient.Rtmp.SendCache
import RtmpClient.Client.ProcessData
import RtmpClient.Client.Peer
import RtmpClient.Client.ChunkSize
import RtmpClient.Client.ReceiveCost
import RtmpClient.Client.Chunking
import RtmpClient.Client.SendQueue
import RtmpClient.Amf0.Value
import RtmpClient.Amf0.Read
import RtmpClient.Amf0.Write
import RtmpClient.Amf0.Discovery
import RtmpClient.Amf0.RoundTrip
import RtmpClient.Amf0.Encoding
import RtmpClient.Amf0.Parts
import RtmpClient.Amf0.Legible
import RtmpClient.Library.CppString
import RtmpClient.Rtmp.ControlPacket
import RtmpClient.Rtmp.MediaPacket
import RtmpClient.Library.Double
import RtmpClient.Rtmp.CommandPacket
import RtmpClient.Rtmp.PacketClasses
import RtmpClient.Rtmp.PacketLength
import RtmpClient.Rtmp.ControlMessages
import RtmpClient.Rtmp.DecodeMsg
import RtmpClient.Rtmp.CommandRoundTrip
import RtmpClient.Library.Layout
import RtmpClient.Rtmp.Handshake
import RtmpClient.Rtmp.HandshakeLayout
import RtmpClient.Client.Session
import RtmpClient.Client.SessionLemmas
import RtmpClient.Rtmp.HandshakeReply
import RtmpClient.Client.HandshakeRun
import RtmpClient.Client.Progress
import RtmpClient.Rtmp.Answers
import RtmpClient.Client.CommandOrder
import RtmpClient.Client.Conversation
import RtmpClient.Client.StreamName
import RtmpClient.Client.Shutdown
import RtmpClient.Amf0.Bounds
import RtmpClient.Amf0.Room
import RtmpClient.Amf0.Truncation
import RtmpClient.Rtmp.StringCodec
import RtmpClient.Amf0.Survival
import RtmpClient.Amf0.Copy
import RtmpClient.Rtmp.MetadataCopy
import RtmpClient.Amf0.Counts
import RtmpClient.Rtmp.HandshakeEcho
import RtmpClient.Client.ReceiveLoop
import RtmpClient.Amf0.Ownership
import RtmpClient.Amf0.Grammar
import RtmpClient.Amf0.Release
import RtmpClient.Rtmp.MediaBounds
import RtmpClient.Rtmp.MediaRoundTrip
import RtmpClient.Amf0.Fields
import RtmpClient.Rtmp.DecoderBounds
import RtmpClient.Rtmp.Delivery
import RtmpClient.Rtmp.DecodeFaults
import RtmpClient.Rtmp.DeletedTwice
import RtmpClient.Rtmp.HarmfulCall
import RtmpClient.Amf0.Property
import RtmpClient.Client.StatusCall
import RtmpClient.Library.BoundedQueue
import RtmpClient.Net.RingBuffer
import RtmpClient.Library.AnnexB
import RtmpClient.Media.MediaData
import RtmpClient.Media.H264
import RtmpClient.Library.SharedHeap
import RtmpClient.Media.Extradata
import RtmpClient.Media.Timer
import RtmpClient.Media.Sharing
import RtmpClient.Media.VideoTimestamps
import RtmpClient.Library.CInt
import RtmpClient.Net.WsProtocol
import RtmpClient.Library.ShiftedBytes
import RtmpClient.Net.WsHeader
import RtmpClient.Net.WsFrames
import RtmpClient.Library.DoWhile
import RtmpClient.Net.WebSocketClient
import RtmpClient.Net.WsParse
import RtmpClient.Net.WsDelivery
import RtmpClient.Net.WsHandshake
import RtmpClient.Library.Decimal
import RtmpClient.Library.OrderedMap
import RtmpClient.Net.Stun
import RtmpClient.Net.StunAttributes
import RtmpClient.Net.StunRoundTrip
import RtmpClient.Net.StunClient
import RtmpClient.Net.Rtp
import RtmpClient.Net.HttpConn
import RtmpClient.Media.AudioThread
import RtmpClient.Amf0.Table
import RtmpClient.Amf0.Reached
import RtmpClient.Amf0.Verdict
import RtmpClient.Amf0.Written
import RtmpClient.Client.Listener
import RtmpClient.Client.Player
import RtmpClient.Client.Recording
import RtmpClient.Client.Url
import RtmpClient.Net.AsyncEvent
import RtmpClient.Library.BlockHash
import RtmpClient.Net.Base64
import RtmpClient.Net.Sha1
import RtmpClient.Library.TextLines
import RtmpClient.Library.InsertionOrder
import RtmpClient.Library.Ledger
import RtmpClient.Library.Returns
import RtmpClient.Library.Runs
import RtmpClient.Net.WsOpening
import RtmpClient.Net.Md5
import RtmpClient.Net.DigestAuthentication
import RtmpClient.Net.StunRequest
import RtmpClient.Net.StunExchange

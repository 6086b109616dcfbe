import Ratatosk.Lib.Numeral
import Ratatosk.Lib.Prefix
import Ratatosk.Lib.Decoder
import Ratatosk.Lib.HashMap
import Ratatosk.Lib.FileSystem
import Ratatosk.Resp.Frame
import Ratatosk.Resp.Parse
import Ratatosk.Resp.Header
import Ratatosk.Resp.RoundTrip
import Ratatosk.Resp.Replies
import Ratatosk.Resp.Segments
import Ratatosk.Keyspace.Value
import Ratatosk.Keyspace.Stored
import Ratatosk.Rdb.Saver
import Ratatosk.Rdb.Loader
import Ratatosk.Rdb.RoundTrip
import Ratatosk.Persist.Save
import Ratatosk.Engine.Acl
import Ratatosk.Engine.DataCommands
import Ratatosk.Engine.State
import Ratatosk.Engine.Capture
import Ratatosk.Engine.Dispatch
import Ratatosk.Engine.Frames
import Ratatosk.Engine.ExecEffects
import Ratatosk.Aof.Writer
import Ratatosk.Engine.Multi
import Ratatosk.Engine.Observers
import Ratatosk.Aof.Recovery
import Ratatosk.Aof.Records
import Ratatosk.Aof.CrashPrefix
import Ratatosk.Engine.Access
import Ratatosk.Aof.AccessControl
import Ratatosk.Lib.Incremental
import Ratatosk.Resp.Safety
import Ratatosk.Resp.Checked
import Ratatosk.Resp.NoPanic
import Ratatosk.Resp.Inline
import Ratatosk.Resp.Chunking
import Ratatosk.Resp.FuzzLaw
import Ratatosk.Lib.Circular
import Ratatosk.Shm.Ring
import Ratatosk.Shm.Hostile
import Ratatosk.Shm.Stream
import Ratatosk.Keyspace.Watch
import Ratatosk.Engine.Watch
import Ratatosk.Engine.Transactions
import Ratatosk.Engine.StreamCommands
import Ratatosk.Engine.StreamEdits
import Ratatosk.Engine.StreamOrder
import Ratatosk.Engine.PendingEntries
import Ratatosk.Engine.Isolation
import Ratatosk.Engine.FailedStreams
import Ratatosk.Keyspace.SortedSet
import Ratatosk.Lib.BinarySearch
import Ratatosk.Keyspace.SetRepr
import Ratatosk.Keyspace.Shard
import Ratatosk.Keyspace.Direct
import Ratatosk.Lib.Watermark
import Ratatosk.Engine.GroupDelivery
import Ratatosk.Engine.LiveView
import Ratatosk.Engine.Scan
import Ratatosk.Engine.AclCommands
import Ratatosk.Engine.AclPolicy
import Ratatosk.Keyspace.ScoreRange
import Ratatosk.Engine.Sanitize
import Ratatosk.Engine.ReadCommands
import Ratatosk.Engine.LockFreeReads
import Ratatosk.Engine.ReadRefinement
import Ratatosk.Lib.BitField
import Ratatosk.Engine.Bitfield
import Ratatosk.Engine.SortedSets
import Ratatosk.Engine.Zadd
import Ratatosk.Lib.DecoderLoops
import Ratatosk.Lib.KeyOrder
import Ratatosk.Dump.Payload
import Ratatosk.Dump.RoundTrip
import Ratatosk.Lib.Utf8
import Ratatosk.Engine.AclRuns
import Ratatosk.Engine.AclFile
import Ratatosk.Engine.Logins
import Ratatosk.Engine.ReadBatch
import Ratatosk.Engine.ReaderRuns
import Ratatosk.Engine.Lpos

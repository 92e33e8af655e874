import Orm.Core.Value
import Orm.Core.Schema
import Orm.Core.Entity
import Orm.Core.Db
import Orm.Core.Redis
import Orm.Bind.Any
import Orm.Bind.Setters
import Orm.Bind.Number
import Orm.Bind.Text
import Orm.Bind.Fields
import Orm.Bind.FieldPath
import Orm.Bind.Edit
import Orm.Flush.State
import Orm.Flush.CacheOps
import Orm.Flush.Plan
import Orm.Flush.Flush
import Orm.Flush.Flusher
import Orm.Flush.Batch
import Orm.Flush.QueryKeys
import Orm.Flush.Transaction
import Orm.Flush.Failure
import Orm.Flush.Tracking
import Orm.Flush.Recursion
import Orm.Flush.OnDuplicate
import Orm.Flush.InsertIds
import Orm.Consumer.Background
import Orm.Consumer.Replay
import Orm.Consumer.Idempotence
import Orm.Consumer.DirtyEvents
import Orm.Consumer.Indexer
import Orm.Cache.Lru
import Orm.Cache.LocalCache
import Orm.Registry.Registry
import Orm.Registry.Validate
import Orm.Redis.Pipeline

import Orm.Core.Db

/-!
# Stream events, the lazy envelope and the remote-cache pipeline

The values the flush engine publishes and the consumer reads: log rows (`LogQueueValue`),
dirty events `{E, I, A}` with the streams they go to (`dirtyQueueValue`), and the lazy
envelope with its keys `q`, `l`, `d`, `cr` and `cl`.

The remote-cache pipeline `redisFlusher` is not in src. It is **modelled from the spec** ("batched
set/del/hset over a remote KV, with post-commit deferral") and from how `flush` uses it: per
cache pool a list of keys to delete (the `deletes` field `flush` reads) and of hashes to set,
plus the stream messages published through it, in order. `Flush()` runs them all and empties
the pipeline.
-/

namespace Orm

/-- A dirty event `{E: type, I: id, A: action}`. -/
structure DirtyEvent where
  e : String
  i : Nat
  a : String
  deriving DecidableEq, Repr

/-- `dirtyQueueValue`: a dirty event and the streams it goes to. -/
structure DirtyQueueValue where
  event : DirtyEvent
  streams : List String
  deriving DecidableEq, Repr

/-- `LogQueueValue` (its `Updated` time stamp left out). -/
structure LogQueueValue where
  poolName : String
  tableName : String
  id : Nat
  logId : Nat
  meta : Bind
  before : Option Bind
  changes : Option Bind
  deriving DecidableEq, Repr

/-- One `q` entry of the lazy envelope: pool code, statement and arguments (`nil` for an
`UPDATE`). -/
structure LazyQuery where
  code : String
  sql : Sql
  args : Option (List Value)
  deriving DecidableEq, Repr

/-- The lazy envelope `lazyMap`; an absent key is `none`. -/
structure LazyMap where
  q : Option (List LazyQuery)
  l : Option (List LogQueueValue)
  d : Option (List DirtyQueueValue)
  cr : Option (GoMap String (List String))
  cl : Option (GoMap String (List String))
  deriving DecidableEq, Repr

namespace LazyMap

/-- The `nil` map. -/
def empty : LazyMap := ⟨none, none, none, none, none⟩

/-- `len(lazyMap)`: the number of keys present. -/
def size (m : LazyMap) : Nat :=
  ([m.q.isSome, m.l.isSome, m.d.isSome, m.cr.isSome, m.cl.isSome].filter id).length

@[simp] theorem size_empty : empty.size = 0 := rfl

end LazyMap

/-- A message published to a stream. -/
inductive Event where
  | log (v : LogQueueValue)
  | dirty (e : DirtyEvent)
  | lazy (m : LazyMap)
  deriving DecidableEq, Repr

/-- The stream of lazy-flush envelopes. -/
def lazyChannelName : String := "orm-lazy-channel"

/-- The stream of audit-log rows. -/
def logChannelName : String := "orm-log-channel"

/-- The commands queued for one remote cache pool. -/
structure RedisPipeline where
  deletes : List String
  hsets : List (String × Bind)
  deriving DecidableEq, Repr

/-- `redisFlusher` (not in src), modelled from the spec: queued commands per cache pool and the
stream messages, in order. -/
structure RedisFlusher where
  pipelines : GoMap String RedisPipeline
  events : List (String × Event)
  deriving Repr

namespace RedisFlusher

/-- A pipeline with nothing queued. -/
def empty : RedisFlusher := ⟨[], []⟩

/-- The pipeline of a cache pool. -/
def pipeline (rf : RedisFlusher) (code : String) : RedisPipeline :=
  GoMap.findD rf.pipelines code ⟨[], []⟩

/-- `Del(code, keys...)`: the keys queued for deletion on the pool's pipeline. -/
def del (rf : RedisFlusher) (code : String) (keys : List String) : RedisFlusher :=
  let p := rf.pipeline code
  { rf with pipelines := GoMap.insert rf.pipelines code { p with deletes := p.deletes ++ keys } }

/-- `HSet(code, key, values...)`: the hash write queued on the pool's pipeline. -/
def hset (rf : RedisFlusher) (code key : String) (values : Bind) : RedisFlusher :=
  let p := rf.pipeline code
  { rf with pipelines := GoMap.insert rf.pipelines code { p with hsets := p.hsets ++ [(key, values)] } }

/-- `Publish(stream, value)` and `PublishMap(stream, value)`. -/
def publish (rf : RedisFlusher) (stream : String) (ev : Event) : RedisFlusher :=
  { rf with events := rf.events ++ [(stream, ev)] }

end RedisFlusher

end Orm

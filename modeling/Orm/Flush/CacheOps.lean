import Orm.Flush.State

/-!
# The flush engine's cache, log and event operations

The helpers `flush` calls once per affected entity: the query keys of cached indexes
(`getCacheQueriesKeys`), the local-cache set and deletion buffers, dirty events
(`addDirtyQueues`), log rows (`addToLogQueue`), the search-index hash
(`fillRedisSearchFromBind`), the two per-entity cache paths (`updateCacheForInserted`,
`updateCacheAfterUpdate`) and the lazy envelope's query list (`fillLazyQuery`). Each is
translated from src line by line.

Two readings of Go that the translation makes explicit:

* `dbData` in `updateCacheAfterUpdate` is the entity's own row slice, so once `injectBind`
  has written the bind into it, it **is the new row**; only `old`, copied before, is the row
  before the update — and `old` is copied only when the schema has a local cache, a remote
  cache or a log, whatever the request cache does later;
* a slice read past the end panics (`getIdx`), so `getCacheQueriesKeys` on an empty row
  panics as soon as an index's tracked field is in the bind.
-/

namespace Orm

/-- The attributes of one cached-index key: the row's values of the index's query fields,
each read before the `FakeDelete` column is dropped. -/
def queryAttributes (s : TableSchema) (queryFields : List String) (data : List Value) :
    Except Fault (List Value) :=
  queryFields.foldlM (fun attrs q => do
    let v ← getIdx data (s.columnMapping q)
    return if s.hasFakeDelete && q = "FakeDelete" then attrs else attrs ++ [v]) []

/-- One step of `getCacheQueriesKeys`: the keys so far and the `addedDeleted` flag, updated
by one cached index. -/
def cacheQueriesKeysStep (s : TableSchema) (bind : Bind) (data : List Value)
    (acc : List String × Bool) (idx : String × CachedIndex) :
    Except Fault (List String × Bool) := do
  let ad := if !acc.2 && s.hasFakeDelete then GoMap.has bind "FakeDelete" else acc.2
  let keys := if ad && idx.2.trackedFields.isEmpty then acc.1 ++ [getCacheKeySearch s idx.1 []]
    else acc.1
  if idx.2.trackedFields.any (GoMap.has bind) then
    let attrs ← queryAttributes s idx.2.queryFields data
    return (keys ++ [getCacheKeySearch s idx.1 attrs], ad)
  else return (keys, ad)

/-- `getCacheQueriesKeys`: the query keys of every cached index the bind invalidates, built
from the row `data`. -/
def getCacheQueriesKeys (s : TableSchema) (bind : Bind) (data : List Value)
    (addedDeleted : Bool) : Except Fault (List String) :=
  Prod.fst <$> s.cachedIndexesAll.foldlM (cacheQueriesKeysStep s bind data) ([], addedDeleted)

/-- The local cache a flush writes for a schema: its own, else the request cache when the
engine has one. -/
def localCacheOf (s : TableSchema) : M (Option String) := do
  match s.localCache with
  | some c => return some c
  | none => return if (← get).engine.hasRequestCache then some requestCacheKey else none

/-- `addLocalCacheSet`: the key and its value appended to the pool's pending local-cache
sets. -/
def addLocalCacheSet (code key : String) (v : CacheValue) : M Unit :=
  modifyFlusher fun f => { f with localCacheSets := GoMap.push f.localCacheSets code [(key, v)] }

/-- `addLocalCacheDeletes`: the keys appended to the pool's pending local-cache deletes; no
key leaves the map as it is. -/
def addLocalCacheDeletes (code : String) (keys : List String) : M Unit :=
  if keys.isEmpty then pure ()
  else modifyFlusher fun f => { f with localCacheDeletes := GoMap.push f.localCacheDeletes code keys }

/-- The streams a dirty event goes to: those tracking `"ORM"` or a column of the bind. The
inner loop of `addDirtyQueues` breaks at the first such column. -/
def dirtyStreams (s : TableSchema) (bind : Bind) : List String :=
  (s.dirtyFields.filter fun sc => sc.2.any fun c => decide (c = "ORM") || GoMap.has bind c).map
    Prod.fst

/-- `addDirtyQueues`: publish the event to each matching stream, or, lazily, return it with
the streams. -/
def addDirtyQueues (bind : Bind) (s : TableSchema) (id : Nat) (action : String) (lazy : Bool) :
    M (Option DirtyQueueValue) := do
  let key : DirtyEvent := ⟨s.t, id, action⟩
  let streams := dirtyStreams s bind
  if !lazy then streams.forM fun stream => onRedisFlusher (·.publish stream (.dirty key))
  if !lazy || streams.isEmpty then return none
  return some ⟨key, streams⟩

/-- Whether every change is a skipped column (`skipped == len(changes)`). -/
def skipsAllChanges (s : TableSchema) (changes : Option Bind) : Bool :=
  match changes with
  | some ch => !s.skipLogs.isEmpty && (s.skipLogs.filter (GoMap.has ch)).length = ch.length
  | none => false

/-- `addToLogQueue`: the log row, published unless lazy. The engine's meta wins over the
entity's. -/
def addToLogQueue (s : TableSchema) (id : Nat) (before changes : Option Bind) (entityMeta : Bind)
    (lazy : Bool) : M (Option LogQueueValue) := do
  if !s.hasLog || skipsAllChanges s changes then return none
  let em := (← get).engine.logMetaData
  let meta := if entityMeta.isEmpty then em else GoMap.insertAll entityMeta em
  let v : LogQueueValue := ⟨s.logPoolName, s.logTableName, id, 0, meta, before, changes⟩
  if !lazy then onRedisFlusher (·.publish logChannelName (.log v))
  return some v

/-- `fillRedisSearchFromBind`. A `FakeDelete` value that is not a `uint64` panics at the type
assertion. -/
def fillRedisSearchFromBind (s : TableSchema) (bind : Bind) (id : Nat) : M Unit := do
  if !s.hasSearchCache then return
  let key := s.redisSearchPrefix ++ toString id
  if s.hasFakeDelete then
    match GoMap.find? bind "FakeDelete" with
    | some (.u64 n) => if 0 < n then onRedisFlusher (·.del s.searchCacheName [key])
    | some _ => throw (.panic "interface conversion: interface is not uint64")
    | none => pure ()
  let values := (if "ID" ∈ s.mapBindToRedisSearch then [("ID", Value.u64 id)] else []) ++
    s.mapBindToRedisSearch.filterMap fun k => (GoMap.find? bind k).map (k, ·)
  if s.mapBindToRedisSearch.any (GoMap.has bind) then
    onRedisFlusher (·.hset s.searchCacheName key values)

/-- `updateCacheForInserted`: the cache operations, log row and dirty event of an inserted
entity. -/
def updateCacheForInserted (e : Nat) (lazy : Bool) (id : Nat) (bind : Bind) :
    M (Option LogQueueValue × Option DirtyQueueValue) := do
  let ent ← getEntity e
  let s ← getTableSchema ent.t
  if let some code ← localCacheOf s then
    if !lazy then addLocalCacheSet code (s.getCacheKey id) (buildLocalCacheValue ent.dbData)
    else addLocalCacheDeletes code [s.getCacheKey id]
    addLocalCacheDeletes code (← liftExcept (getCacheQueriesKeys s bind ent.dbData true))
  if let some code := s.redisCache then
    onRedisFlusher (·.del code [s.getCacheKey id])
    let keys ← liftExcept (getCacheQueriesKeys s bind ent.dbData true)
    onRedisFlusher (·.del code keys)
  fillRedisSearchFromBind s bind id
  let log ← addToLogQueue s id none (some bind) ent.logMeta lazy
  let dirty ← addDirtyQueues bind s id "i" lazy
  return (log, dirty)

/-- `updateCacheAfterUpdate`: merge the bind into `DbData`, then the cache operations, dirty
event and log row of an updated entity. -/
def updateCacheAfterUpdate (e : Nat) (bind : Bind) (s : TableSchema) (currentID : Nat)
    (lazy : Bool) : M (Option LogQueueValue × Option DirtyQueueValue) := do
  let ent ← getEntity e
  let old := if s.localCache.isSome || s.redisCache.isSome || s.hasLog then ent.dbData else []
  let ent ← liftExcept (ent.injectBind s bind)
  setEntity e ent
  if let some code ← localCacheOf s then
    addLocalCacheSet code (s.getCacheKey currentID) (buildLocalCacheValue ent.dbData)
    addLocalCacheDeletes code (← liftExcept (getCacheQueriesKeys s bind ent.dbData false))
    addLocalCacheDeletes code (← liftExcept (getCacheQueriesKeys s bind old false))
  if let some code := s.redisCache then
    onRedisFlusher (·.del code [s.getCacheKey currentID])
    let keys ← liftExcept (getCacheQueriesKeys s bind ent.dbData false)
    onRedisFlusher (·.del code keys)
    let keys ← liftExcept (getCacheQueriesKeys s bind old false)
    onRedisFlusher (·.del code keys)
  fillRedisSearchFromBind s bind ent.id
  let dirty ← addDirtyQueues bind s currentID "u" lazy
  if s.hasLog then
    let before ← liftExcept (s.convertDBDataToMap old)
    return (← addToLogQueue s currentID (some before) (some bind) ent.logMeta lazy, dirty)
  return (none, dirty)

/-- `fillLazyQuery`: append the query; the log rows and dirty events **replace** those of the
envelope. -/
def fillLazyQuery (dbCode : String) (sql : Sql) (values : Option (List Value))
    (logEvents : List LogQueueValue) (dirtyData : List DirtyQueueValue) : M Unit :=
  modifyFlusher fun f =>
    let m := f.lazyMap
    let m := { m with q := some (m.q.getD [] ++ [⟨dbCode, sql, values⟩]) }
    let m := if logEvents.isEmpty then m else { m with l := some logEvents }
    let m := if dirtyData.isEmpty then m else { m with d := some dirtyData }
    { f with lazyMap := m }

/-! ### What the insert cache path never writes

The cache, log and event helpers write the flusher's buffers and pipelines only: a run of
`updateCacheForInserted` that returns leaves every entity and every pool as it was. The frame
of each helper is built construct by construct from the lemmas of `Preserves`. -/

end Orm

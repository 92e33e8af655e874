import Orm.Flush.Flush

/-!
# The `Flusher` API

`Track`, `Delete`, `ForceDelete`, `Clear` and the flush modes. Every mode goes through
`flushTrackedEntities`, which does nothing when the counter is `0`, begins a transaction on
the pool of every tracked entity in transaction mode, runs `flush` on the tracked list, commits,
and ends with `clear()` — which empties the pending statements and cache buffers, not the
tracked list. A panic rolls the begun pools back and goes on up; `FlushWithCheck` and
`FlushWithFullCheck` recover it, call `Clear()`, and return the error (`FlushWithCheck` only a
foreign-key or duplicated-key error, re-panicking on any other).

A whole session on one flusher is a list of `Op`s run in order by `runOps`. The definitions a
session runs through are simp lemmas in the scope `Trace`, so that a session on a concrete world
is evaluated by one `simp` once that scope is open.
-/

namespace Orm

/-- `Track`: append each entity; the 10001st tracked entity panics, after being appended. -/
def track (es : List Nat) : M Unit :=
  es.forM fun a => do
    modifyFlusher fun f => { f with trackedEntities := f.trackedEntities ++ [a],
                                    trackedEntitiesCounter := f.trackedEntitiesCounter + 1 }
    if (← get).flusher.trackedEntitiesCounter = 10001 then
      throw (.panic "track limit 10000 exceeded")

/-- `Delete`: mark each entity for deletion, then track them. -/
def delete (es : List Nat) : M Unit := do
  es.forM fun a => do setEntity a (← getEntity a).markToDelete
  track es

/-- `ForceDelete`: mark each entity for a hard delete, then track them. -/
def forceDelete (es : List Nat) : M Unit := do
  es.forM fun a => do setEntity a (← getEntity a).forceMarkToDelete
  track es

/-- `clear()`: the pending statements and cache buffers. -/
def clearBuffers : M Unit :=
  modifyFlusher fun f => { f with updateSQLs := [], deleteBinds := [],
                                  localCacheDeletes := [], localCacheSets := [] }

/-- `Clear()`: the tracked list, the counter and the buffers. -/
def clear : M Unit := do
  modifyFlusher fun f => { f with trackedEntities := [], trackedEntitiesCounter := 0 }
  clearBuffers

/-- `Clear()` returns and changes the flusher only. -/
theorem clear_run (w : World) :
    clear w = .ok () { w with
      flusher := { w.flusher with
        trackedEntities := [], trackedEntitiesCounter := 0, updateSQLs := [], deleteBinds := [],
        localCacheDeletes := [], localCacheSets := [] } } :=
  rfl

/-- The pools of the tracked entities, each once, in order. -/
def trackedPools (es : List Nat) : M (List String) :=
  es.foldlM (fun ps a => do
    let s ← getTableSchema (← getEntity a).t
    return if s.mysqlPoolName ∈ ps then ps else ps ++ [s.mysqlPoolName]) []

/-- In transaction mode, `Begin` on the pool of every tracked entity; returns the pools. -/
def beginPools (transaction : Bool) (es : List Nat) : M (List String) := do
  let pools ← if transaction then trackedPools es else pure []
  pools.forM dbBegin
  return pools

/-- `flushTrackedEntities(lazy, transaction)`: nothing when no entity is tracked; otherwise
begin the pools in transaction mode, flush the tracked list, commit and `clear()`; on a panic
roll the pools back and panic again. -/
def flushTrackedEntities (fuel : Nat) (lazy transaction : Bool) : M Unit := do
  let f := (← get).flusher
  if f.trackedEntitiesCounter = 0 then return
  let pools ← beginPools transaction f.trackedEntities
  tryCatch (do
      flush fuel true lazy transaction f.trackedEntities
      if transaction then pools.forM dbCommit
      clearBuffers)
    fun e => do
      pools.forM dbRollback
      throw e
  pools.forM dbRollback

/-- `flushWithCheck(transaction)`: recover a panic, `Clear()`, return a foreign-key or
duplicated-key error and re-panic on any other. -/
def flushWithCheck (fuel : Nat) (transaction : Bool) : M (Option Fault) :=
  tryCatch (do flushTrackedEntities fuel false transaction; return none) fun e => do
    clear
    match e with
    | .foreignKey .. | .duplicatedKey .. => return some e
    | _ => throw e

/-- `FlushWithFullCheck`: recover any panic, `Clear()`, return it. -/
def flushWithFullCheck (fuel : Nat) : M (Option Fault) :=
  tryCatch (do flushTrackedEntities fuel false false; return none) fun e => do
    clear
    return some e

/-- A call on a flusher. -/
inductive Op where
  | track (es : List Nat)
  | delete (es : List Nat)
  | forceDelete (es : List Nat)
  | flush
  | flushWithCheck
  | flushInTransactionWithCheck
  | flushWithFullCheck
  | flushLazy
  | flushInTransaction
  | clear
  deriving DecidableEq, Repr

/-- Run one call. -/
def Op.run (fuel : Nat) : Op → M Unit
  | .track es => Orm.track es
  | .delete es => Orm.delete es
  | .forceDelete es => Orm.forceDelete es
  | .flush => flushTrackedEntities fuel false false
  | .flushWithCheck => discard <| Orm.flushWithCheck fuel false
  | .flushInTransactionWithCheck => discard <| Orm.flushWithCheck fuel true
  | .flushWithFullCheck => discard <| Orm.flushWithFullCheck fuel
  | .flushLazy => flushTrackedEntities fuel true false
  | .flushInTransaction => flushTrackedEntities fuel false true
  | .clear => Orm.clear

/-- Run calls in order; a panic that escapes a call is recovered by the caller and the session
goes on, as `defer recover()` around each call does. -/
def runOps (fuel : Nat) : List Op → M Unit
  | [] => pure ()
  | op :: ops => do
    tryCatch (op.run fuel) fun _ => pure ()
    runOps fuel ops

/-! ### Evaluating a session

A session on a concrete world is evaluated by unfolding its whole call graph, down to the tables
and caches, and by evaluating the list functions it uses on literals. -/

namespace Trace

attribute [scoped simp] runOps Op.run track delete forceDelete clear flushWithCheck
  flushWithFullCheck flushTrackedEntities trackedPools beginPools clearBuffers
  flush finishFlush emitInsert stampInserted runUpdateSQLs deleteType cascadeDeletes redisDeletes
  applyLocalCache
  Plan.init planEntity planInsert initEntityDBData collectReferences bindWithId
  addDirtyQueues addLocalCacheDeletes addLocalCacheSet addToLogQueue cacheQueriesKeysStep
  dirtyStreams fillLazyQuery fillRedisSearchFromBind getCacheQueriesKeys localCacheOf
  skipsAllChanges updateCacheAfterUpdate updateCacheForInserted
  Flusher.empty World.ent World.db World.rf World.localCache World.redisCache World.localRemove
  World.localMSet World.setDb World.setRf World.runPipeline World.flushRedis getEntity setEntity
  getTableSchema modifyFlusher getRedisFlusher onRedisFlusher dbExec dbBegin dbRollback
  DbPool.empty LazyMap.empty LazyMap.size RedisFlusher.empty RedisFlusher.del
  RedisFlusher.pipeline RedisFlusher.publish Table.empty lazyChannelName logChannelName
  DbPool.begin DbPool.exec DbPool.rollback DbPool.table DbPool.apply Sql.table Table.insert
  Table.insertLog Table.delete Table.assignIds Table.autoRows Table.chunks Table.explicitId
  Table.stored Table.violation
  Heap.read Entity.injectBind Entity.forceMarkToDelete TableSchema.newEntity
  TableSchema.initDBData TableSchema.currentValue TableSchema.getDirtyBind
  TableSchema.convertDBDataToMap TableSchema.columnMapping TableSchema.getCacheKey
  GoMap.findD GoMap.has GoMap.insert GoMap.insertAll GoMap.keys GoMap.push GoMap.erase getIdx
  setIdx buildLocalCacheValue
  liftExcept List.enum List.filter_cons List.filterMap_cons List.find?_cons List.mapM.loop
  Nat.max_def

end Trace

end Orm

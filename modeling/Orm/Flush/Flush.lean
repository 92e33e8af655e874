import Orm.Flush.Plan

/-!
# `flusher.flush`

After the loop over the entities (`planEntity`), `flush` either recurses on the unsaved
references — first on the references, then on the other entities — or emits its work:

1. one batched `INSERT` per type (`emitInsert`), whose `LastInsertId` `L` is handed out as
   `L, L+A, ...` to the entities of the batch without a preset `ID`, in order
   (`stampInserted`); lazily, the `INSERT` goes into the envelope with placeholder id `0`;
2. in the root call only: the queued `UPDATE`s per pool (`runUpdateSQLs`), the deletes per type
   with their cascades (`deleteType`), and the collected local-cache deletions and sets
   (`applyLocalCache`);
3. the remote side (`finishFlush`): lazily the `cr` map of the envelope, in a transaction the
   pipeline handed to the engine, then the envelope's publication and, outside a transaction,
   in the root call, the pipeline's execution.

`flush` recurses through references and cascades, and a cascade loops until a search finds
no row; both are bounded by **fuel**, and a run that exhausts it ends in `Fault.outOfFuel`.
The recursive call of a cascade is the source's `f.flush(true, transaction, lazy, ...)`, which
fills the parameters `(root, lazy, transaction)`.
-/

namespace Orm

/-- The step after a batched `INSERT` for one entity: merge its bind, give it the next
auto-increment id when it has no `ID`, and run its insert cache path. Returns the next id. -/
def stampInserted (autoincrement : Nat) (id : Nat) (eb : Nat × Bind) : M Nat := do
  let (a, bind) := eb
  let s ← getTableSchema (← getEntity a).t
  let e ← liftExcept ((← getEntity a).injectBind s bind)
  setEntity a e
  if e.id = 0 then
    let data ← liftExcept (setIdx e.dbData 0 (.u64 id))
    setEntity a { e with id := id, dbData := data }
    discard <| updateCacheForInserted a false id bind
    return id + autoincrement
  discard <| updateCacheForInserted a false e.id bind
  return id

/-- The batched `INSERT` of one type. -/
def emitInsert (lazy : Bool) (p : Plan) (t : String) (values : List String) : M Unit := do
  let s ← getTableSchema t
  let binds := GoMap.findD p.insertBinds t []
  let ents := GoMap.findD p.insertReflectValues t []
  let args := GoMap.findD p.insertArguments t []
  let sql := Sql.insert s.tableName values binds.length
  if lazy then
    let evs ← (ents.zip binds).mapM fun eb => updateCacheForInserted eb.1 true 0 eb.2
    fillLazyQuery s.mysqlPoolName sql (if args.isEmpty then none else some args)
      (evs.filterMap (·.1)) (evs.filterMap (·.2))
  else
    let res ← dbExec s.mysqlPoolName sql args
    let autoincrement := ((← get).db s.mysqlPoolName).autoincrement
    discard <| (ents.zip binds).foldlM (stampInserted autoincrement) res.lastInsertId

/-- The queued `UPDATE`s: one `Exec` for a single statement, else one multi-statement `Query`,
inside a forced transaction from three statements on when the pool has none. -/
def runUpdateSQLs : M Unit := do
  (← get).flusher.updateSQLs.forM fun pq => do
    let (pool, queries) := pq
    if queries.length = 1 then
      queries.forM fun q => discard <| dbExec pool q []
    else
      let forced := 3 ≤ queries.length && !((← get).db pool).inTransaction
      if forced then dbBegin pool
      tryCatch (do
          queries.forM fun q => discard <| dbExec pool q []
          if forced then dbCommit pool)
        fun f => do
          if forced then dbRollback pool
          throw f

/-- The rows a cascade finds: entities loaded from the referencing rows, marked to delete. -/
def loadChildren (refSchema : TableSchema) (rows : List (Nat × Bind)) : M (List Nat) :=
  rows.mapM fun r => do
    let w ← get
    let a := w.nextEnt
    set { w with nextEnt := a + 1,
                 ents := GoMap.insert w.ents a (refSchema.fromRow refSchema.newEntity r.1 r.2).markToDelete }
    return a

/-- The cascade loop of one reference column: search the first page of 1000 referencing rows,
flush them as deletes, until the search finds none. -/
def cascadeLoop (recur : Bool → Bool → Bool → List Nat → M Unit) (lazy transaction : Bool)
    (refSchema : TableSchema) (refColumn : String) (ids : List Value) : Nat → M Unit
  | 0 => throw .outOfFuel
  | n + 1 => do
    let rows := (((← get).db refSchema.mysqlPoolName).table refSchema.tableName).search
      refColumn ids 1000
    if rows.isEmpty then return
    let children ← loadChildren refSchema rows
    recur true transaction lazy children
    cascadeLoop recur lazy transaction refSchema refColumn ids n

/-- The cascades of deleting `ids` of a schema: every reference column declared `cascade`. -/
def cascadeDeletes (recur : Bool → Bool → Bool → List Nat → M Unit) (lazy transaction : Bool)
    (s : TableSchema) (ids : List Value) (fuel : Nat) : M Unit :=
  s.usage.forM fun u => u.2.forM fun refColumn => do
    let refSchema ← getTableSchema u.1
    if refColumn ∈ refSchema.cascadeColumns then
      cascadeLoop recur lazy transaction refSchema refColumn ids fuel

/-- The deletes of one type: their events (lazily), the `DELETE` (after its cascades), and the
tombstones and invalidations of every entity now in `deleteBinds` for the type. -/
def deleteType (recur : Bool → Bool → Bool → List Nat → M Unit) (lazy transaction : Bool)
    (fuel : Nat) (t : String) : M Unit := do
  let s ← getTableSchema t
  let dels := GoMap.findD (← get).flusher.deleteBinds t []
  let ids := dels.map fun d => Value.u64 d.1
  let evs ← if lazy then
      dels.mapM fun d => do
        let e ← getEntity d.2
        let bind ← liftExcept (s.convertDBDataToMap e.dbData)
        let log ← addToLogQueue s d.1 (some bind) none e.logMeta true
        let dirty ← addDirtyQueues bind s d.1 "d" true
        return (log, dirty)
    else pure []
  let sql := Sql.delete s.tableName ids.length
  if lazy then
    fillLazyQuery s.mysqlPoolName sql (some ids) (evs.filterMap (·.1)) (evs.filterMap (·.2))
  else
    cascadeDeletes recur lazy transaction s ids fuel
    discard <| dbExec s.mysqlPoolName sql ids
  let localCode ← localCacheOf s
  (GoMap.findD (← get).flusher.deleteBinds t []).forM fun d => do
    let e ← getEntity d.2
    let bind ← liftExcept (s.convertDBDataToMap e.dbData)
    if !lazy then
      discard <| addDirtyQueues bind s d.1 "d" false
      discard <| addToLogQueue s d.1 (some bind) none e.logMeta false
    if let some code := localCode then
      addLocalCacheSet code (s.getCacheKey d.1) .nil
      addLocalCacheDeletes code (← liftExcept (getCacheQueriesKeys s bind e.dbData true))
    if let some code := s.redisCache then
      onRedisFlusher (·.del code [s.getCacheKey d.1])
      let keys ← liftExcept (getCacheQueriesKeys s bind e.dbData true)
      onRedisFlusher (·.del code keys)
    if s.hasSearchCache then
      onRedisFlusher (·.del s.searchCacheName [s.redisSearchPrefix ++ toString d.1])

/-- The collected local-cache deletions (removed at once, or put in the envelope) and sets
(applied, or queued for after the commit). -/
def applyLocalCache (lazy transaction : Bool) : M Unit := do
  let f := (← get).flusher
  if !f.localCacheDeletes.isEmpty then
    if lazy then
      modifyFlusher fun f => { f with lazyMap := { f.lazyMap with cl := some f.localCacheDeletes } }
    else f.localCacheDeletes.forM fun kv => modify (·.localRemove kv.1 kv.2)
  (← get).flusher.localCacheSets.forM fun kv =>
    if !transaction then modify (·.localMSet kv.1 kv.2)
    else modify fun w => { w with engine := { w.engine with
      afterCommitLocalCacheSets := GoMap.push w.engine.afterCommitLocalCacheSets kv.1 kv.2 } }

/-- The envelope's `cr` map: the keys each cache pool's pipeline deletes. -/
def redisDeletes (rf : RedisFlusher) (cr : GoMap String (List String)) :
    GoMap String (List String) :=
  rf.pipelines.foldl (fun cr kv => if kv.2.deletes.isEmpty then cr else GoMap.insert cr kv.1 kv.2.deletes) cr

/-- The end of `flush`: the remote side. -/
def finishFlush (root lazy transaction : Bool) : M Unit := do
  if lazy then
    let a ← getRedisFlusher
    let w ← get
    let cr := redisDeletes (w.rf a) (w.flusher.lazyMap.cr.getD [])
    modifyFlusher fun f => { f with lazyMap := { f.lazyMap with cr := some cr } }
  else if transaction then
    let a ← getRedisFlusher
    modify fun w => { w with engine := { w.engine with afterCommitRedisFlusher := some a } }
  let m := (← get).flusher.lazyMap
  if 0 < m.size then
    onRedisFlusher (·.publish lazyChannelName (.lazy m))
    modifyFlusher fun f => { f with lazyMap := LazyMap.empty }
  if let some a := (← get).flusher.redisFlusher then
    if !transaction && root then modify (·.flushRedis a)

/-- `flusher.flush(root, lazy, transaction, entities...)`, with fuel for its recursion. -/
def flush : Nat → Bool → Bool → Bool → List Nat → M Unit
  | 0, _, _, _, _ => throw .outOfFuel
  | fuel + 1, root, lazy, transaction, entities => do
    let p ← entities.foldlM (planEntity lazy) (Plan.init transaction)
    let transaction := p.transaction
    if !p.referencesToFlash.isEmpty then
      if lazy then throw (.panic "lazy flush for unsaved references is not supported")
      flush fuel false false transaction p.referencesToFlash
      let rest := entities.filter (· ∉ p.referencesToFlash)
      if !rest.isEmpty then flush fuel true false transaction rest
      return
    p.insertKeys.forM fun kv => emitInsert lazy p kv.1 kv.2
    if root then
      runUpdateSQLs
      ((← get).flusher.deleteBinds.map Prod.fst).forM (deleteType (flush fuel) lazy transaction fuel)
      applyLocalCache lazy transaction
    finishFlush root lazy transaction

end Orm

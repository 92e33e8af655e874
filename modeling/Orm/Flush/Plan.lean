import Orm.Flush.CacheOps

/-!
# Planning a flush: the loop over the entities

The first loop of `flusher.flush` visits every entity in order. It initialises `DbData`,
refuses lazy entities, raises the transaction flag when the entity's pool is inside a
transaction, and collects the entity's unsaved references. Once some reference has been
collected the remaining entities are only scanned for references; until then each dirty
entity is classified:

* **delete** (or soft delete on a schema without `FakeDelete`): recorded in
  `deleteBinds[type][ID]`;
* **insert** with `OnDuplicateKeyUpdate`: run at once (`flushOnDuplicateKeyUpdate`);
* **insert**: its bind, with a preset `ID`, joins its type's batch (`planInsert`); the batch's
  column list is the first entity's bind keys;
* **update**: the `UPDATE` statement is queued per pool (or put in the lazy envelope), and
  `updateCacheAfterUpdate` runs at once, merging the bind into `DbData` before any
  statement has run.

The loop's locals are the record `Plan`; `flush` folds `planEntity` over the entities.
-/

namespace Orm

/-- The locals of one `flush` call: the insert batches per type, the unsaved references,
and the transaction flag. -/
structure Plan where
  insertKeys : GoMap String (List String)
  insertArguments : GoMap String (List Value)
  insertBinds : GoMap String (List Bind)
  insertReflectValues : GoMap String (List Nat)
  /-- `referencesToFlash`, in insertion order. -/
  referencesToFlash : List Nat
  transaction : Bool

/-- The locals at the start of `flush`. -/
def Plan.init (transaction : Bool) : Plan :=
  ⟨[], [], [], [], [], transaction⟩

/-- `initIfNeeded(...).initDBData()` on an entity. -/
def initEntityDBData (a : Nat) : M Unit := do
  let e ← getEntity a
  let s ← getTableSchema e.t
  setEntity a { e with dbData := s.initDBData e.dbData }

/-- Add an entity to a set kept in insertion order. -/
def addRef (refs : List Nat) (r : Nat) : List Nat :=
  if r ∈ refs then refs else refs ++ [r]

/-- The scan of an entity's `refOne` and `refMany` fields for unsaved (`ID` `0`) entities. -/
def collectReferences (s : TableSchema) (e : Entity) (refs : List Nat) : M (List Nat) := do
  let refs ← s.refOne.foldlM (fun refs refName => do
    match GoMap.find? e.refOne refName with
    | none => return refs
    | some r =>
      initEntityDBData r
      return if (← getEntity r).id = 0 then addRef refs r else refs) refs
  s.refMany.foldlM (fun refs refName => do
    match GoMap.find? e.refMany refName with
    | none => return refs
    | some rs => rs.foldlM (fun refs r => do
        return if (← getEntity r).id = 0 then addRef refs r else refs) refs) refs

/-- The bind as the insert paths write it: with the entity's preset `ID`, when it has one. -/
def bindWithId (currentID : Nat) (bind : Bind) : Bind :=
  if 0 < currentID then GoMap.insert bind "ID" (.u64 currentID) else bind

/-- The insert branch of the loop: the bind (with a preset `ID`) joins its type's batch, whose
column list is fixed by the first entity of the type. -/
def planInsert (p : Plan) (t : String) (a currentID : Nat) (bind : Bind) : Plan :=
  let bind := bindWithId currentID bind
  let insertKeys :=
    if GoMap.has p.insertKeys t then p.insertKeys else GoMap.insert p.insertKeys t (GoMap.keys bind)
  { p with
    insertKeys := insertKeys
    insertArguments := GoMap.push p.insertArguments t
      ((GoMap.findD insertKeys t []).map fun k => GoMap.findD bind k .null)
    insertReflectValues := GoMap.push p.insertReflectValues t [a]
    insertBinds := GoMap.push p.insertBinds t [bind] }

/-- `entity.SetField(k, v)` with a canonical value (not in src). -/
def setField (a : Nat) (k : String) (v : Value) : M Unit := do
  let e ← getEntity a
  setEntity a { e with fields := GoMap.insert e.fields k v }

/-- `loadByID` (not in src), modelled from the spec: fill the entity from its row. -/
def loadByID (s : TableSchema) (id a : Nat) : M Unit := do
  match (((← get).db s.mysqlPoolName).table s.tableName).byId id with
  | some row => setEntity a (s.fromRow (← getEntity a) id row)
  | none => pure ()

/-- `SearchOne(where, entity)` (not in src): fill the entity from the first matching row. -/
def searchOne (s : TableSchema) (conds : Bind) (a : Nat) : M Unit := do
  match (((← get).db s.mysqlPoolName).table s.tableName).searchOne conds with
  | some (id, row) => setEntity a (s.fromRow (← getEntity a) id row)
  | none => pure ()

/-- The `OnDuplicateKeyUpdate` branch: one `INSERT ... ON DUPLICATE KEY UPDATE` at once. With
`1` row affected the entity is inserted, with `2` it is reloaded and updated, with `0` it is
loaded from the row of the first unique index whose columns are all bound. -/
def flushOnDuplicateKeyUpdate (lazy : Bool) (a : Nat) (s : TableSchema) (bind onUpdate : Bind) :
    M Unit := do
  if lazy then throw (.panic "lazy flush on duplicate key is not supported")
  let bind := bindWithId (← getEntity a).id bind
  let sql := Sql.insertOnDuplicateKeyUpdate s.tableName (GoMap.keys bind) (GoMap.keys onUpdate)
  let res ← dbExec s.mysqlPoolName sql (bind.map Prod.snd ++ onUpdate.map Prod.snd)
  if 0 < res.rowsAffected then
    let lastID := res.lastInsertId
    let e ← liftExcept ((← getEntity a).injectBind s bind)
    let data ← liftExcept (setIdx e.dbData 0 (.u64 lastID))
    setEntity a { e with id := lastID, dbData := data }
    if res.rowsAffected = 1 then
      discard <| updateCacheForInserted a lazy lastID bind
    else
      onUpdate.forM fun kv => setField a kv.1 kv.2
      let bind := (s.getDirtyBind (← get).ents (← getEntity a)).1
      loadByID s lastID a
      discard <| updateCacheAfterUpdate a bind s lastID false
  else
    match List.find? (fun idx => idx.2.all fun c => GoMap.findD bind c .null ≠ .null)
        s.uniqueIndices with
    | some idx => searchOne s (idx.2.map fun c => (c, GoMap.findD bind c .null)) a
    | none => pure ()

/-- A lazy flush refuses `OnDuplicateKeyUpdate` before it does anything. -/
theorem flushOnDuplicateKeyUpdate_lazy (a : Nat) (s : TableSchema) (bind onUpdate : Bind)
    (w : World) :
    flushOnDuplicateKeyUpdate true a s bind onUpdate w =
      .error (.panic "lazy flush on duplicate key is not supported") w :=
  rfl

/-- One iteration of the loop over the entities. -/
def planEntity (lazy : Bool) (p : Plan) (a : Nat) : M Plan := do
  initEntityDBData a
  let e ← getEntity a
  if e.lazy then throw (.panic "lazy entity and can't be flushed")
  let s ← getTableSchema e.t
  let transaction := p.transaction || ((← get).db s.mysqlPoolName).inTransaction
  let refs ← collectReferences s e p.referencesToFlash
  let p := { p with transaction := transaction, referencesToFlash := refs }
  if !refs.isEmpty then return p
  let (bind, isDirty) := s.getDirtyBind (← get).ents e
  if !isDirty then return p
  let currentID := e.id
  let e := if e.fakeDelete && !s.hasFakeDelete then { e with delete := true } else e
  setEntity a e
  if e.delete then
    modifyFlusher fun f =>
      let byId := GoMap.insert (GoMap.findD f.deleteBinds s.t []) currentID a
      { f with deleteBinds := GoMap.insert f.deleteBinds s.t byId }
    return p
  if !e.inDB then
    match e.onDuplicateKeyUpdate with
    | some onUpdate =>
      flushOnDuplicateKeyUpdate lazy a s bind onUpdate
      return p
    | none => return planInsert p s.t a currentID bind
  if !e.loaded then throw (.panic "entity is not loaded and can't be updated")
  let sql := Sql.update s.tableName bind currentID
  if lazy then
    let (log, dirty) ← updateCacheAfterUpdate a bind s currentID true
    fillLazyQuery s.mysqlPoolName sql none log.toList dirty.toList
  else
    modifyFlusher fun f => { f with updateSQLs := GoMap.push f.updateSQLs s.mysqlPoolName [sql] }
    discard <| updateCacheAfterUpdate a bind s currentID false
  return p

end Orm

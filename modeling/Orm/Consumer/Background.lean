import Orm.Flush.State

/-!
# The background consumer's lazy handler

`BackgroundConsumer.handleLazy` replays one lazy envelope: `handleQueries` executes its `q`
list, and after each statement whose text starts with `INSERT INTO` it stamps the insert's
`LastInsertId` onto **every** row of the envelope's `l` list and then, continuing the same
counter, onto every dirty event of its `d` list; it then writes the `l` rows with `handleLog`
and publishes the `d` events. `handleCache` then deletes the `cr` keys from the remote caches,
replacing the last `:`-separated part `0` of a key by an id of the list `handleQueries`
returned — the list has one entry per query, and the position read is the number of keys with
a `:` seen so far — and removes the `cl` keys from the local caches unchanged.

`Digest` dispatches each message of a batch by its stream (`digest`).

Shape decisions: the envelope is the `LazyMap` value the flush published (its serialisation
round trip is the identity); the log row's `added_at` time stamp is left out; the consumer's
own pipeline is a `rfs` address; a message of the search-indexer stream is not modelled.
-/

namespace Orm

/-- The consumer's state: its own pipeline and whether a `LogLogger` callback is set. -/
structure Consumer where
  redisFlusher : Nat
  hasLogLogger : Bool

/-- The test `sql[0:11] == "INSERT INTO"`; a statement shorter than 11 bytes panics. -/
def isInsertInto (sql : String) : Except Fault Bool :=
  if sql.length < 11 then .error (.panic "slice bounds out of range")
  else .ok (sql.toList.take 11 = "INSERT INTO".toList)

/-- The consumer recognises the flush's batched `INSERT` by its text. -/
@[simp] theorem isInsertInto_insert (t : String) (cols : List String) (n : Nat) :
    isInsertInto (Sql.insert t cols n).text = .ok true := by
  have : "INSERT INTO ".length = 12 := rfl
  simp [isInsertInto, Sql.text, String.length_append]
  omega

/-- An `UPDATE` is no insert. -/
@[simp] theorem isInsertInto_update (t : String) (sets : Bind) (id : Nat) :
    isInsertInto (Sql.update t sets id).text = .ok false := by
  have : "UPDATE ".length = 7 := rfl
  have : " SET ".length = 5 := rfl
  simp [isInsertInto, Sql.text, String.length_append]
  omega

/-- A `DELETE` is no insert. -/
@[simp] theorem isInsertInto_delete (t : String) (k : Nat) :
    isInsertInto (Sql.delete t k).text = .ok false := by
  have : "DELETE FROM `".length = 13 := rfl
  simp [isInsertInto, Sql.text, String.length_append]
  omega

/-- Stamp `id, id+A, ...` onto the log rows; returns the rows and the next id. -/
def stampLogs (a : Nat) : Nat → List LogQueueValue → List LogQueueValue × Nat
  | id, [] => ([], id)
  | id, r :: rs =>
    let (rs', id') := stampLogs a (id + a) rs
    ({ r with id := id } :: rs', id')

/-- Stamp `id, id+A, ...` onto the dirty events; returns the events and the next id. -/
def stampDirty (a : Nat) : Nat → List DirtyQueueValue → List DirtyQueueValue × Nat
  | id, [] => ([], id)
  | id, r :: rs =>
    let (rs', id') := stampDirty a (id + a) rs
    ({ r with event := { r.event with i := id } } :: rs', id')

/-- The stamping after one `INSERT`: the `l` rows from the insert's id on, then the `d` events
from where the `l` rows stopped. -/
def stampEnvelope (m : LazyMap) (id a : Nat) : LazyMap :=
  let (l, id) := match m.l with
    | some ls => let (ls, id) := stampLogs a id ls; (some ls, id)
    | none => (none, id)
  { m with l := l, d := m.d.map fun ds => (stampDirty a id ds).1 }

/-- A JSON column of the log row: the map's entries, `NULL` for a `nil` map. -/
def jsonColumn (b : Option Bind) : Value :=
  match b with
  | some b => .str (",".intercalate (b.map fun kv => kv.1 ++ ":" ++ kv.2.render))
  | none => .null

/-- `handleLog`: the audit-log row, inside a transaction when a `LogLogger` is set. -/
def handleLog (c : Consumer) (v : LogQueueValue) : M Unit := do
  let args := [.u64 v.id, .null, jsonColumn (if v.meta.isEmpty then none else some v.meta),
    jsonColumn v.before, jsonColumn v.changes]
  if c.hasLogLogger then dbBegin v.poolName
  tryCatch (do
      discard <| dbExec v.poolName (.insertLog v.tableName) args
      if c.hasLogLogger then dbCommit v.poolName)
    fun f => do
      dbRollback v.poolName
      throw f
  dbRollback v.poolName

/-- One query of the `q` list: execute it and, for an `INSERT`, stamp its id onto the envelope. -/
def handleQuery (acc : LazyMap × List Nat) (q : LazyQuery) : M (LazyMap × List Nat) := do
  let res ← dbExec q.code q.sql (q.args.getD [])
  if ← liftExcept (isInsertInto q.sql.text) then
    let a := ((← get).db q.code).autoincrement
    return (stampEnvelope acc.1 res.lastInsertId a, acc.2 ++ [res.lastInsertId])
  return (acc.1, acc.2 ++ [0])

/-- The end of `handleQueries`: each dirty event of the `d` list is published to its streams on
the consumer's pipeline, which is then flushed. -/
def publishDirty (c : Consumer) (ds : List DirtyQueueValue) : M Unit := do
  ds.forM fun dv => dv.streams.forM fun st =>
    modify fun w => w.setRf c.redisFlusher ((w.rf c.redisFlusher).publish st (.dirty dv.event))
  modify (·.flushRedis c.redisFlusher)

/-- Publishing touches no pool. -/
theorem publishDirty_keeps_dbs (c : Consumer) (ds : List DirtyQueueValue) :
    Keeps World.dbs (publishDirty c ds) := by
  apply Keeps.bind
  · exact keeps_forM _ fun _ _ => keeps_forM _ fun _ _ => keeps_modify _ fun _ => rfl
  · exact fun _ => keeps_modify _ fun w => w.flushRedis_dbs _

/-- `handleQueries`: the envelope as stamped, and the id of each query (`0` for a non-insert). -/
def handleQueries (c : Consumer) (m : LazyMap) : M (LazyMap × List Nat) := do
  match m.q with
  | none => return (m, [])
  | some qs =>
    let (m, ids) ← qs.foldlM handleQuery (m, [])
    (m.l.getD []).forM (handleLog c)
    if let some ds := m.d then publishDirty c ds
    return (m, ids)

/-- One `cr` key: split on `:`; a key with a `:` takes the next position of the id list, and a
last part `0` is replaced by the id there. Returns the key and the next position. -/
def resolveKey (ids : List Nat) (idKey : Nat) (key : String) : Except Fault (String × Nat) := do
  let parts := (key.toList.splitOn ':').map String.mk
  if parts.length ≤ 1 then return (key, idKey)
  let parts ← if parts.getLast? = some "0" then
      match ids[idKey]? with
      | some id => pure (parts.set (parts.length - 1) (toString id))
      | none => throw (.panic "index out of range")
    else pure parts
  return (":".intercalate parts, idKey + 1)

/-- A remote cache with keys deleted (`GetRedis(code).Del(keys...)`). -/
def World.redisDel (w : World) (code : String) (keys : List String) : World :=
  let m := keys.foldl GoMap.erase (w.redisCache code)
  { w with redisCaches := GoMap.insert w.redisCaches code m }

/-- `handleCache`: for each Redis pool of the envelope's `cr`, resolve its keys against the ids
of the queries and delete them. -/
def handleCache (m : LazyMap) (ids : List Nat) : M Unit := do
  if let some cr := m.cr then
    discard <| cr.foldlM (fun idKey kv => do
      let (keys, idKey) ← liftExcept <| kv.2.foldlM (fun acc key => do
        let (k, i) ← resolveKey ids acc.2 key
        return (acc.1 ++ [k], i)) ([], idKey)
      modify (·.redisDel kv.1 keys)
      return idKey) 0
  if let some cl := m.cl then
    cl.forM fun kv => modify (·.localRemove kv.1 kv.2)

/-- `handleLazy`: run the envelope's queries, then delete its cache keys with the ids they
gave. -/
def handleLazy (c : Consumer) (m : LazyMap) : M Unit := do
  let (m, ids) ← handleQueries c m
  handleCache m ids

/-- `Digest`'s dispatch of one message by its stream: an envelope of the lazy stream goes to
`handleLazy`, a row of the log stream to `handleLog`. -/
def digestEvent (c : Consumer) (msg : String × Event) : M Unit :=
  match msg.2 with
  | .lazy m => if msg.1 = lazyChannelName then handleLazy c m else pure ()
  | .log v => if msg.1 = logChannelName then handleLog c v else pure ()
  | .dirty _ => pure ()

/-- `Digest` over a batch of messages, in order; a panic stops the batch. -/
def digest (c : Consumer) (msgs : List (String × Event)) : M Unit :=
  msgs.forM (digestEvent c)

/-! The consumer's call graph is evaluated in the scope `Trace` as well, with the flush's
(`Orm.Flush.Flusher`). -/

namespace Trace

attribute [scoped simp] digest digestEvent handleLazy handleQueries handleQuery handleLog
  handleCache stampDirty stampEnvelope stampLogs jsonColumn publishDirty

end Trace

end Orm

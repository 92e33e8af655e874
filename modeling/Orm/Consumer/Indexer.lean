import Orm.Bind.Number

/-!
# The search-indexer event

`BackgroundConsumer.handleRedisIndexerEvent` looks the event's index up in every pool's index
map, runs the index's `Indexer` from the cursor saved under the event's key until it reports no
more rows, and then drops the older versions of the index: every name of the pool's index list
that starts with `Name + ":"` and whose **second `:`-separated part** parses below the event's
`IndexID`. A part that does not parse reads as `0`.

So a name with a non-numeric suffix, a version of another index whose name starts with
`Name + ":"`, and, for a name that itself holds a `:`, the current version are dropped too
(`indexer_drops_unrelated_indices`).

Shape decisions: the event is already decoded (a message that does not decode is acknowledged
and skipped); an `Indexer` is the function from the cursor to the next cursor and whether there
are more rows (the documents it pushes are not modelled), `none` when the index has none; a
redis search pool is its plain keys and its index list; the key prefix of the saved cursor is
not in src and is a parameter; the loop runs on fuel, and a run out of fuel is
`Fault.outOfFuel`.
-/

namespace Orm

/-- A `RedisSearchIndex`: its name and its `Indexer`. -/
structure RedisSearchIndex where
  name : String
  indexer : Option (Nat → Nat × Bool)

/-- A decoded `redisIndexerEvent`. -/
structure IndexerEvent where
  index : String
  indexID : Nat
  deriving DecidableEq, Repr

/-- A redis search pool: its plain keys and its indices. -/
structure SearchPool where
  keys : GoMap String String
  indices : List String
  deriving DecidableEq, Repr

/-- `strings.Split(s, ":")`: the parts between the colons, empty ones included. -/
def splitColon (s : String) : List String :=
  (s.toList.splitOn ':').map String.mk

/-- Whether the cleanup drops `oldName`: it starts with `Name + ":"` and its second part,
parsed as `strconv.ParseUint` returns it whatever its error, is below `IndexID`. -/
def dropsIndex (name : String) (indexID : Nat) (oldName : String) : Bool :=
  (name ++ ":").toList.isPrefixOf oldName.toList &&
    decide (parseUintValue ((splitColon oldName).getD 1 "") < indexID)

/-- The loop of the indexer from cursor `id`: it saves the next cursor while there are more
rows, and at the end deletes the saved cursor and drops the older indices. -/
def indexerLoop (pool : String) (index : RedisSearchIndex) (indexID : Nat) (idRedisKey : String) :
    Nat → Nat → SearchPool → Except Fault SearchPool
  | 0, _, _ => .error .outOfFuel
  | fuel + 1, id, p =>
    let (nextID, hasMore) := match index.indexer with
      | some f => f id
      | none => (0, false)
    let p := if hasMore then { p with keys := GoMap.insert p.keys idRedisKey (toString nextID) }
      else p
    if !hasMore then
      .ok { keys := GoMap.erase p.keys idRedisKey,
            indices := p.indices.filter fun old => !dropsIndex index.name indexID old }
    else if nextID ≤ id then
      .error (.panic ("loop detected in indxer for index " ++ index.name ++ " in pool " ++ pool))
    else indexerLoop pool index indexID idRedisKey fuel nextID p

/-- `handleRedisIndexerEvent` on the pools, for the cursor key prefix
`redisSearchForceIndexLastIDKeyPrefix`. -/
def handleRedisIndexerEvent (keyPrefix : String) (fuel : Nat)
    (registry : GoMap String (GoMap String RedisSearchIndex)) (ev : IndexerEvent)
    (pools : GoMap String SearchPool) : Except Fault (GoMap String SearchPool) :=
  match registry.findSome? fun pl => (GoMap.find? pl.2 ev.index).map (pl.1, ·) with
  | none => .ok pools
  | some (pool, index) =>
    let p := GoMap.findD pools pool ⟨[], []⟩
    let idRedisKey := keyPrefix ++ ev.index ++ toString ev.indexID
    let id := match GoMap.find? p.keys idRedisKey with
      | some s => parseUintValue s
      | none => 0
    match indexerLoop pool index ev.indexID idRedisKey fuel id p with
    | .ok p => .ok (GoMap.insert pools pool p)
    | .error f => .error f

/-- The index `idx` of pool `search`, whose indexer has nothing to index. -/
def idxRegistry : GoMap String (GoMap String RedisSearchIndex) :=
  [("search", [("idx", ⟨"idx", some fun _ => (0, false)⟩)])]

/-- Indexing version `2` of `idx` drops `idx:1`, but also the non-numeric `idx:x` and the
version `idx:sub:1` of the index `idx:sub`; only `idx:2` is kept. -/
theorem indexer_drops_unrelated_indices :
    handleRedisIndexerEvent "force:" 1 idxRegistry ⟨"idx", 2⟩
        [("search", ⟨[], ["idx:1", "idx:2", "idx:x", "idx:sub:1"]⟩)] =
      .ok [("search", ⟨[], ["idx:2"]⟩)] := by
  rfl

end Orm

import Orm.Flush.Flusher

/-!
# The batched `INSERT` of one type

The insert branch of the planning loop appends each new entity's bind to its type's batch.
The batch's column list is fixed by the **first** entity of the type (`planInsert_batch`):
every later entity's row is its bind read at those columns, a column missing from its bind
written as `NULL` and a column only it has left out. In particular a preset `ID` of a later
entity is dropped when the first entity had none, and the database gives that row an
auto-increment id while the entity keeps its own (`presetId_dropped`).
-/

namespace Orm

section Batch

variable (t : String)

/-- One step of the batch once the type's column list is fixed: the columns stay, and the
entity's row is its bind read at them. -/
theorem planInsert_of_has {q : Plan} (h : GoMap.has q.insertKeys t = true) (a id : Nat)
    (b : Bind) :
    (planInsert q t a id b).insertKeys = q.insertKeys ∧
      GoMap.findD (planInsert q t a id b).insertArguments t [] =
        GoMap.findD q.insertArguments t [] ++
          (GoMap.findD q.insertKeys t []).map fun k => GoMap.findD (bindWithId id b) k .null := by
  simp [planInsert, GoMap.push, h]

/-- The batch's columns and rows after the insert branch ran for a first entity and then for
any others of the same type. -/
theorem planInsert_batch (p : Plan) (a id : Nat) (b : Bind) (rest : List (Nat × Nat × Bind))
    (hk : GoMap.has p.insertKeys t = false) :
    let cols := GoMap.keys (bindWithId id b)
    let q := rest.foldl (fun q e => planInsert q t e.1 e.2.1 e.2.2) (planInsert p t a id b)
    GoMap.findD q.insertKeys t [] = cols ∧
      GoMap.findD q.insertArguments t [] = GoMap.findD p.insertArguments t [] ++
        ((a, id, b) :: rest).flatMap fun e =>
          cols.map fun k => GoMap.findD (bindWithId e.2.1 e.2.2) k .null := by
  intro cols
  have first : GoMap.findD (planInsert p t a id b).insertKeys t [] = cols ∧
      GoMap.has (planInsert p t a id b).insertKeys t = true ∧
      GoMap.findD (planInsert p t a id b).insertArguments t [] =
        GoMap.findD p.insertArguments t [] ++ cols.map fun k => GoMap.findD (bindWithId id b) k .null := by
    simp [planInsert, GoMap.push, hk, cols]
  suffices ∀ (q : Plan) (acc : List Value), GoMap.findD q.insertKeys t [] = cols →
      GoMap.has q.insertKeys t = true → GoMap.findD q.insertArguments t [] = acc →
      let q' := rest.foldl (fun q e => planInsert q t e.1 e.2.1 e.2.2) q
      GoMap.findD q'.insertKeys t [] = cols ∧ GoMap.findD q'.insertArguments t [] =
        acc ++ rest.flatMap fun e => cols.map fun k => GoMap.findD (bindWithId e.2.1 e.2.2) k .null by
    obtain ⟨h1, h2, h3⟩ := first
    simpa [List.flatMap_cons, List.append_assoc] using this _ _ h1 h2 h3
  induction rest with
  | nil => intro q acc h1 _ h3; simp [h1, h3]
  | cons e rest ih =>
    intro q acc h1 h2 h3
    obtain ⟨hk', ha'⟩ := planInsert_of_has t h2 e.1 e.2.1 e.2.2
    have := ih (planInsert q t e.1 e.2.1 e.2.2) _ (by rw [hk', h1]) (by rw [hk', h2]) rfl
    simpa [ha', h1, h3, List.append_assoc] using this

/-- A user without `ID` first, then a user with the preset `ID` `7`: the batch's one column is
`Name`, and the second row is `b` alone. -/
theorem planInsert_batch_presetId :
    GoMap.has (Plan.init false).insertKeys "orm.user" = false ∧
      let cols := GoMap.keys (bindWithId 0 [("Name", .str "a")])
      let q := [(1, 7, [("Name", Value.str "b")])].foldl
        (fun q e => planInsert q "orm.user" e.1 e.2.1 e.2.2)
        (planInsert (Plan.init false) "orm.user" 0 0 [("Name", .str "a")])
      GoMap.findD q.insertKeys "orm.user" [] = cols ∧
        GoMap.findD q.insertArguments "orm.user" [] =
          GoMap.findD (Plan.init false).insertArguments "orm.user" [] ++
            ((0, 0, [("Name", .str "a")]) :: [(1, 7, [("Name", Value.str "b")])]).flatMap fun e =>
              cols.map fun k => GoMap.findD (bindWithId e.2.1 e.2.2) k .null :=
  ⟨rfl, planInsert_batch "orm.user" (Plan.init false) 0 0 _ _ rfl⟩

end Batch

/-! ### A later entity's preset `ID` -/

/-- A type `orm.user` with one column `Name`, a local cache `lc` and a remote cache `rc`. -/
def userSchema : TableSchema where
  t := "orm.user"
  tableName := "user"
  mysqlPoolName := "default"
  columnNames := ["ID", "Name"]
  cachePrefix := "u"
  localCache := some "lc"
  redisCache := some "rc"
  cachedIndexesAll := []
  hasFakeDelete := false
  hasLog := false
  logTableName := ""
  logPoolName := ""
  skipLogs := []
  dirtyFields := []
  refOne := []
  refMany := []
  uniqueIndices := []
  cascadeColumns := []
  usage := []
  hasSearchCache := false
  searchCacheName := ""
  redisSearchPrefix := ""
  mapBindToRedisSearch := []

/-- A new user with the given preset `ID` (`0` for none). -/
def newUser (id : Nat) (name : String) : Entity :=
  { userSchema.newEntity with id := id, fields := [("Name", .str name)] }

/-- Two new users, the first without an `ID` and the second with `ID` `7`, on an empty
database. -/
def presetIdWorld : World where
  engine := ⟨[("orm.user", userSchema)], false, [], [], none⟩
  flusher := Flusher.empty
  ents := [(0, newUser 0 "a"), (1, newUser 7 "b")]
  nextEnt := 2
  rfs := []
  nextRf := 0
  dbs := []
  localCaches := []
  redisCaches := []
  streams := []

open Trace in
/-- `Track(a, b); Flush()`: the `INSERT`'s columns are `a`'s, so `b`'s row gets the
auto-increment id `2` while `b` keeps `ID` `7`, and the local cache holds `u:7` for a row the
table does not have. -/
theorem presetId_dropped (n : Nat) :
    match runOps (n + 1) [.track [0, 1], .flush] presetIdWorld with
    | .ok _ w =>
      (w.ent 1).id = 7 ∧
        ((w.db "default").table "user").rows = [(1, [("Name", .str "a")]), (2, [("Name", .str "b")])] ∧
        GoMap.find? (w.localCache "lc") "u:7" = some (.row [.u64 7, .str "b"])
    | .error _ _ => False := by
  simp [↓bind_run, ↓tryCatch_run, ↓map_run, ↓discard_run, ↓ite_apply, ↓dite_apply, presetIdWorld,
      newUser, userSchema]
  decide

end Orm

import Orm.Flush.Tracking

/-!
# The recursion of `flush`: references and cascades

`flush` recurses in two places, and neither recursion has a measure that decreases.

* **References.** When the planning loop collects unsaved references, `flush` flushes them with
  `root = false` and then the other entities with `root = true`. Nothing checks that the
  references' flush gave them an `ID`: when planning the references collects the same references
  again and changes nothing, every fuel runs out (`flush_reference_fixed_point_diverges`). A new
  entity whose reference field holds itself is such a fixed point
  (`self_reference_never_returns`). So is, without any cycle, a post whose new author is marked
  to delete: the references' flush plans the author as a delete, it keeps `ID` `0`, and the
  post collects it again (`deleted_reference_never_returns`).
* **Cascades.** The cascade of a deleted parent loads its children and flushes them with
  `f.flush(true, transaction, lazy, ...)`: a root call, which makes its own pass over the shared
  `deleteBinds`, where the parent's `DELETE` has not run yet. `deleteBinds` is a Go map, so the
  order of that pass is Go's random map order; the model fixes the parent-first order. In that
  order the nested call meets the parent's type first and runs the same cascade again, and the
  search finds the same child row every time (`cascadeLoop_diverges`), so `Delete(parent);
  Flush()` runs out of every fuel (`cascade_delete_never_returns`). Outside a transaction, a
  nested call that meets the child's type first deletes the child and ends the recursion, so in
  Go it ends almost surely; in transaction mode it hangs whatever the order, a case the model
  does not cover.
* **The root phase, again.** Each such root call runs the root phase over the shared
  `updateSQLs` and `deleteBinds`, which still hold what the caller queued: an `UPDATE` queued
  once runs once per round of the cascade (`cascade_reruns_update`).

In the model a run that does not end is one that runs out of **every** fuel with
`Fault.outOfFuel`. The two branch lemmas `flush_refs_error` and `flush_refs_ok` say once what
the reference branch does; every result of the module goes through them or through the
cascade's invariant `CascadeReads`.
-/

namespace Orm

/-- A schema of pool `default` with the given columns and nothing else: no cache, no log, no
streams, no references, no indexes. -/
def plainSchema (t tableName : String) (columnNames : List String) : TableSchema where
  t := t
  tableName := tableName
  mysqlPoolName := "default"
  columnNames := columnNames
  cachePrefix := ""
  localCache := none
  redisCache := none
  cachedIndexesAll := []
  hasFakeDelete := false
  hasLog := false
  logTableName := ""
  logPoolName := ""
  skipLogs := []
  dirtyFields := []
  refOne := []
  refMany := []
  uniqueIndices := []
  cascadeColumns := []
  usage := []
  hasSearchCache := false
  searchCacheName := ""
  redisSearchPrefix := ""
  mapBindToRedisSearch := []

/-- **The reference branch, when the references fail**: a planning loop that collects
references makes `flush` flush them first, and their panic is the flush's. -/
theorem flush_refs_error {fuel : Nat} {root tx : Bool} {entities : List Nat} {w w' w'' : World}
    {p : Plan} {f : Fault}
    (hp : entities.foldlM (planEntity false) (Plan.init tx) w = .ok p w')
    (hr : p.referencesToFlash ≠ [])
    (he : flush fuel false false p.transaction p.referencesToFlash w' = .error f w'') :
    flush (fuel + 1) root false tx entities w = .error f w'' := by
  simp [flush, hp, hr, he]

/-- **The reference branch, when the references return**: `flush` goes on with the other
entities. -/
theorem flush_refs_ok {fuel : Nat} {root tx : Bool} {entities rest : List Nat} {w w' w'' : World}
    {p : Plan}
    (hp : entities.foldlM (planEntity false) (Plan.init tx) w = .ok p w')
    (hr : p.referencesToFlash ≠ [])
    (hok : flush fuel false false p.transaction p.referencesToFlash w' = .ok ⟨⟩ w'')
    (hrest : entities.filter (· ∉ p.referencesToFlash) = rest) (hne : rest ≠ []) :
    flush (fuel + 1) root false tx entities w = flush fuel true false p.transaction rest w'' := by
  simp only [flush, bind_run, hp, hrest]
  simp [List.isEmpty_iff, hr, hne, hok]

/-- **A panic of the flush is the panic of `Flush()`**: with no transaction no pool was begun,
so the rollback does nothing and the panic goes on up with the flush's state. -/
theorem flushTrackedEntities_error {fuel : Nat} {lazy : Bool} {w w' : World} {f : Fault}
    (hc : w.flusher.trackedEntitiesCounter ≠ 0)
    (h : flush fuel true lazy false w.flusher.trackedEntities w = .error f w') :
    flushTrackedEntities fuel lazy false w = .error f w' := by
  simp [flushTrackedEntities, beginPools, hc, h]

/-! ### A reference fixed point -/

/-- **A reference fixed point never returns.** If planning `refs` from `w`, in either
transaction mode, collects exactly `refs` again and leaves `w` as it was, then flushing `refs`
from `w` runs out of every fuel, in the root call and in the recursive one. -/
theorem flush_reference_fixed_point_diverges (refs : List Nat) (w : World) (hne : refs ≠ [])
    (hfix : ∀ tx, ∃ p : Plan,
      refs.foldlM (planEntity false) (Plan.init tx) w = .ok p w ∧ p.referencesToFlash = refs)
    (fuel : Nat) (root tx : Bool) :
    flush fuel root false tx refs w = .error .outOfFuel w := by
  induction fuel generalizing root tx with
  | zero => rfl
  | succ n ih =>
    obtain ⟨p, hp, hr⟩ := hfix tx
    exact flush_refs_error hp (hr ▸ hne) (by rw [hr]; exact ih false p.transaction)

/-- `orm.node`, whose `Parent` field holds a node. -/
def nodeSchema : TableSchema :=
  { plainSchema "orm.node" "node" ["ID", "Parent"] with refOne := ["Parent"] }

/-- A new node whose `Parent` is the node itself. -/
def selfNode : Entity :=
  { nodeSchema.newEntity with refOne := [("Parent", 0)], dbData := [.null, .null] }

/-- `Track(n)` of the self-referencing new node. -/
def selfRefWorld : World where
  engine := ⟨[("orm.node", nodeSchema)], false, [], [], none⟩
  flusher := { Flusher.empty with trackedEntities := [0], trackedEntitiesCounter := 1 }
  ents := [(0, selfNode)]
  nextEnt := 1
  rfs := []
  nextRf := 0
  dbs := []
  localCaches := []
  redisCaches := []
  streams := []

/-- Planning the node collects the node and changes nothing. -/
theorem selfNode_replanned (tx : Bool) :
    [0].foldlM (planEntity false) (Plan.init tx) selfRefWorld =
      .ok { Plan.init tx with referencesToFlash := [0] } selfRefWorld := by
  cases tx <;> rfl

/-- `Track(n); Flush()` on the self-referencing node runs out of every fuel. -/
theorem self_reference_never_returns :
    (fun fuel => flushTrackedEntities fuel false false selfRefWorld) =
      fun _ => .error .outOfFuel selfRefWorld := by
  have h : ∀ fuel root,
      flush fuel root false false [0] selfRefWorld = .error .outOfFuel selfRefWorld := by
    intro fuel
    induction fuel with
    | zero => intro; rfl
    | succ n ih => intro; exact flush_refs_error (selfNode_replanned false) (by simp) (ih false)
  funext fuel
  exact flushTrackedEntities_error (by decide) (h fuel true)

/-- The self-referencing node is a reference fixed point. -/
theorem self_node_fixed_point :
    [0] ≠ [] ∧
      (∀ tx, ∃ p : Plan, [0].foldlM (planEntity false) (Plan.init tx) selfRefWorld =
        .ok p selfRefWorld ∧ p.referencesToFlash = [0]) ∧
      ∀ fuel root tx,
        flush fuel root false tx [0] selfRefWorld = .error .outOfFuel selfRefWorld :=
  ⟨by simp, fun tx => ⟨_, selfNode_replanned tx, rfl⟩,
    flush_reference_fixed_point_diverges [0] selfRefWorld (by simp)
      (fun tx => ⟨_, selfNode_replanned tx, rfl⟩)⟩

/-! ### A deleted unsaved reference -/

/-- `orm.post`, whose `Author` field holds a user. -/
def authoredSchema : TableSchema :=
  { plainSchema "orm.post" "post" ["ID", "Author"] with refOne := ["Author"] }

/-- `orm.user`, with one column `Name`. -/
def authorSchema : TableSchema :=
  plainSchema "orm.user" "user" ["ID", "Name"]

/-- A new post whose author is entity `1`. -/
def authoredPost : Entity :=
  { authoredSchema.newEntity with refOne := [("Author", 1)], dbData := [.null, .null] }

/-- A new user, marked to delete. -/
def deletedAuthor : Entity :=
  { authorSchema.newEntity with
    fields := [("Name", .str "a")], dbData := [.null, .null], fakeDelete := true }

/-- `Track(post); Delete(user)`, where the post's author is the new user. -/
def deletedRefWorld : World where
  engine := ⟨[("orm.post", authoredSchema), ("orm.user", authorSchema)], false, [], [], none⟩
  flusher := { Flusher.empty with trackedEntities := [0, 1], trackedEntitiesCounter := 2 }
  ents := [(0, authoredPost), (1, deletedAuthor)]
  nextEnt := 2
  rfs := []
  nextRf := 0
  dbs := []
  localCaches := []
  redisCaches := []
  streams := []

/-- The world after the references' flush: the user is in `deleteBinds`, still with `ID` `0`. -/
def deletedRefPlanned : World :=
  { deletedRefWorld with
    ents := [(0, authoredPost), (1, { deletedAuthor with delete := true })],
    flusher := { deletedRefWorld.flusher with deleteBinds := [("orm.user", [(0, 1)])] } }

/-- Planning the post collects the user and changes nothing; the user is then only scanned. -/
theorem deletedRef_planned (tx : Bool) :
    [0, 1].foldlM (planEntity false) (Plan.init tx) deletedRefWorld =
      .ok { Plan.init tx with referencesToFlash := [1] } deletedRefWorld := by
  cases tx <;> rfl

/-- After the references' flush the post collects the user again. -/
theorem deletedRef_replanned :
    [0].foldlM (planEntity false) (Plan.init false) deletedRefPlanned =
      .ok { Plan.init false with referencesToFlash := [1] } deletedRefPlanned := rfl

/-- **The references' flush** plans the user as a delete and returns: no `INSERT`, no `ID`. -/
theorem deletedAuthor_flushed (n : Nat) :
    flush (n + 1) false false false [1] deletedRefWorld = .ok ⟨⟩ deletedRefPlanned := rfl

/-- From then on, the references' flush changes nothing. -/
theorem deletedAuthor_reflushed (n : Nat) :
    flush (n + 1) false false false [1] deletedRefPlanned = .ok ⟨⟩ deletedRefPlanned := rfl

/-- From the planned state, `flush` of the post runs out of every fuel: the references' flush
leaves the user unsaved, and the post collects it again. -/
theorem deletedRef_diverges (fuel : Nat) :
    flush fuel true false false [0] deletedRefPlanned = .error .outOfFuel deletedRefPlanned := by
  induction fuel with
  | zero => rfl
  | succ n ih =>
    cases n with
    | zero => exact flush_refs_error deletedRef_replanned (by simp) rfl
    | succ m =>
      exact (flush_refs_ok deletedRef_replanned (by simp) (deletedAuthor_reflushed m) rfl
        (by simp)).trans ih

/-- `Track(post); Delete(user); Flush()`, where the post's author is the new user: the flush
runs out of every fuel. -/
theorem deleted_reference_never_returns (fuel : Nat) :
    ∃ w, flushTrackedEntities fuel false false deletedRefWorld = .error .outOfFuel w := by
  rcases fuel with _ | _ | n
  · exact ⟨_, flushTrackedEntities_error (by decide) rfl⟩
  · exact ⟨_, flushTrackedEntities_error (by decide)
      (flush_refs_error (deletedRef_planned false) (by simp) rfl)⟩
  · exact ⟨_, flushTrackedEntities_error (by decide)
      ((flush_refs_ok (deletedRef_planned false) (by simp) (deletedAuthor_flushed n) rfl
        (by simp)).trans (deletedRef_diverges (n + 1)))⟩

/-! ### A cascade -/

/-- `orm.parent`, referenced by the column `ParentID` of `orm.child`. -/
def parentSchema : TableSchema :=
  { plainSchema "orm.parent" "parent" ["ID", "Name"] with usage := [("orm.child", ["ParentID"])] }

/-- `orm.child`, whose reference `ParentID` to a parent is declared `cascade`. -/
def childSchema : TableSchema :=
  { plainSchema "orm.child" "child" ["ID", "ParentID"] with
    refOne := ["ParentID"], cascadeColumns := ["ParentID"] }

/-- The registry of the cascade. -/
def cascadeSchemas : GoMap String TableSchema :=
  [("orm.parent", parentSchema), ("orm.child", childSchema)]

/-- The pool `default`: parent `1` and its child `1`. -/
def cascadePool : DbPool :=
  { DbPool.empty with
    tables := [("parent", ⟨[(1, [("Name", .str "p")])], 2, []⟩),
      ("child", ⟨[(1, [("ParentID", .u64 1)])], 2, []⟩)] }

/-- Parent `1`, loaded. -/
def savedParent : Entity :=
  parentSchema.fromRow parentSchema.newEntity 1 [("Name", .str "p")]

/-- `Delete(parent)` of parent `1`, which has child `1`. -/
def cascadeWorld : World where
  engine := ⟨cascadeSchemas, false, [], [], none⟩
  flusher := { Flusher.empty with trackedEntities := [0], trackedEntitiesCounter := 1 }
  ents := [(0, savedParent.markToDelete)]
  nextEnt := 1
  rfs := []
  nextRf := 0
  dbs := [("default", cascadePool)]
  localCaches := []
  redisCaches := []
  streams := []

/-- What the pass over `orm.parent` reads of a world: the two schemas, the pool `default`, and
the parent first in `deleteBinds`, followed by at most one child. -/
structure CascadeReads (w : World) : Prop where
  parent : GoMap.find? w.engine.schemas "orm.parent" = some parentSchema
  child : GoMap.find? w.engine.schemas "orm.child" = some childSchema
  db : w.db "default" = cascadePool
  deletes : w.flusher.deleteBinds = [("orm.parent", [(1, 0)])] ∨
    ∃ c, w.flusher.deleteBinds = [("orm.parent", [(1, 0)]), ("orm.child", [(1, c)])]

/-- The pass over the parent runs the cascade first: when the cascade fails, so does the pass,
before its `DELETE`. -/
theorem deleteType_parent_diverges {n : Nat} {w w' : World} (hw : CascadeReads w)
    (h : cascadeLoop (flush n) false false childSchema "ParentID" [.u64 1] n w =
      .error .outOfFuel w') :
    deleteType (flush n) false false n "orm.parent" w = .error .outOfFuel w' := by
  have hdel : GoMap.findD w.flusher.deleteBinds "orm.parent" [] = [(1, 0)] := by
    rcases hw.deletes with h | ⟨c, h⟩ <;> simp [h, GoMap.findD, GoMap.find?]
  have hc : "ParentID" ∈ childSchema.cascadeColumns := by simp [childSchema]
  have hu : parentSchema.usage = [("orm.child", ["ParentID"])] := rfl
  simp only [deleteType, cascadeDeletes, getTableSchema, ↓bind_andThen, get_run, pure_run,
    Result.andThen_ok, Result.andThen_error, hw.parent, hw.child, hdel, hc, hu, h, ↓reduceIte,
    Bool.false_eq_true, forM_cons_run, List.map_cons, List.map_nil]

/-- **A root flush that plans nothing but deletes and updates** runs the root phase: the
queued `UPDATE`s, then the pass over `deleteBinds`, which starts with the parent. -/
theorem flush_parent_first_diverges {n : Nat} {es : List Nat} {w w₁ w₂ w₃ : World}
    (hp : es.foldlM (planEntity false) (Plan.init false) w = .ok (Plan.init false) w₁)
    (hu : runUpdateSQLs w₁ = .ok ⟨⟩ w₂) (hw₂ : CascadeReads w₂)
    (h : deleteType (flush n) false false n "orm.parent" w₂ = .error .outOfFuel w₃) :
    flush (n + 1) true false false es w = .error .outOfFuel w₃ := by
  simp only [flush, bind_run, hp]
  rcases hw₂.deletes with hd | ⟨c, hd⟩ <;> simp [Plan.init, hu, hd, h]

/-- The child the cascade finds, as `loadChildren` allocates it. -/
def loadedChild : Entity :=
  (childSchema.fromRow childSchema.newEntity 1 [("ParentID", .u64 1)]).markToDelete

/-- Planning a child the cascade loaded records it in `deleteBinds`, after the parent; it
keeps what the pass over the parent reads, the pools and the queued `UPDATE`s. -/
theorem child_planned {w : World} (hw : CascadeReads w) :
    ∃ w', [w.nextEnt].foldlM (planEntity false) (Plan.init false)
        { w with nextEnt := w.nextEnt + 1, ents := GoMap.insert w.ents w.nextEnt loadedChild } =
      .ok (Plan.init false) w' ∧ CascadeReads w' ∧ w'.dbs = w.dbs ∧
        w'.flusher.updateSQLs = w.flusher.updateSQLs := by
  obtain ⟨hp, hc, hd, hdel⟩ := hw
  have hd' : GoMap.findD w.dbs "default" DbPool.empty = cascadePool := hd
  have hin : cascadePool.inTransaction = false := rfl
  have hchild : GoMap.insert w.flusher.deleteBinds "orm.child"
      (GoMap.insert (GoMap.findD w.flusher.deleteBinds "orm.child" []) 1 w.nextEnt) =
        [("orm.parent", [(1, 0)]), ("orm.child", [(1, w.nextEnt)])] := by
    rcases hdel with h | ⟨c, h⟩ <;> simp [h, GoMap.insert, GoMap.findD, GoMap.has]
  simp [planEntity, initEntityDBData, getEntity, setEntity, getTableSchema, World.ent, World.db,
    hp, hc, hd', hin, hchild, collectReferences, modifyFlusher, Plan.init, loadedChild,
    TableSchema.fromRow, TableSchema.newEntity, Entity.markToDelete, childSchema, plainSchema,
    TableSchema.initDBData, TableSchema.getDirtyBind]
  exact ⟨hp, hc, hd, .inr ⟨_, rfl⟩⟩

/-- The cascade's search finds the child row, whatever was loaded before. -/
theorem loadChildren_child (w : World) :
    loadChildren childSchema [(1, [("ParentID", .u64 1)])] w =
      .ok [w.nextEnt] { w with nextEnt := w.nextEnt + 1,
                               ents := GoMap.insert w.ents w.nextEnt loadedChild } := rfl

/-- One round of the cascade loop: it finds the child row and flushes the loaded child, and a
panic of that flush is the loop's. -/
theorem cascadeLoop_succ_error {n : Nat} {w w' : World} {f : Fault} (hw : CascadeReads w)
    (h : flush (n + 1) true false false [w.nextEnt]
      { w with nextEnt := w.nextEnt + 1, ents := GoMap.insert w.ents w.nextEnt loadedChild } =
        .error f w') :
    cascadeLoop (flush (n + 1)) false false childSchema "ParentID" [.u64 1] (n + 1) w =
      .error f w' := by
  have hrows : ((w.db childSchema.mysqlPoolName).table childSchema.tableName).search "ParentID"
      [.u64 1] 1000 = [(1, [("ParentID", .u64 1)])] := by
    rw [show childSchema.mysqlPoolName = "default" from rfl, hw.db]; rfl
  simp [cascadeLoop, hrows, loadChildren_child, h]

/-- With no `UPDATE` queued, the root phase's first step does nothing. -/
theorem runUpdateSQLs_nil {w : World} (h : w.flusher.updateSQLs = []) :
    runUpdateSQLs w = .ok ⟨⟩ w := by
  simp [runUpdateSQLs, h]

/-- **The cascade loop never ends.** From every world the pass over the parent reads as in
`CascadeReads`, with no `UPDATE` queued, the loop over the children runs out of every fuel: its
recursive flush of the child is a root call, whose pass over `deleteBinds` meets the parent
first and runs its cascade again, before any `DELETE`. -/
theorem cascadeLoop_diverges (n : Nat) : ∀ w, CascadeReads w → w.flusher.updateSQLs = [] →
    ∃ w', cascadeLoop (flush n) false false childSchema "ParentID" [.u64 1] n w =
      .error .outOfFuel w' := by
  induction n with
  | zero => intro w _ _; exact ⟨w, rfl⟩
  | succ n ih =>
    intro w hw hu
    obtain ⟨w₁, hp, hw₁, -, hu₁⟩ := child_planned hw
    obtain ⟨w₂, h⟩ := ih w₁ hw₁ (hu₁.trans hu)
    exact ⟨w₂, cascadeLoop_succ_error hw (flush_parent_first_diverges hp
      (runUpdateSQLs_nil (hu₁.trans hu)) hw₁ (deleteType_parent_diverges hw₁ h))⟩

/-- Planning the parent records it in `deleteBinds`. -/
def cascadePlanned : World :=
  { cascadeWorld with
    ents := [(0, { savedParent.markToDelete with delete := true })],
    flusher := { cascadeWorld.flusher with deleteBinds := [("orm.parent", [(1, 0)])] } }

/-- `Delete(parent)` is planned into `deleteBinds`. -/
theorem parent_planned :
    [0].foldlM (planEntity false) (Plan.init false) cascadeWorld =
      .ok (Plan.init false) cascadePlanned := rfl

/-- `Delete(parent); Flush()` of a parent with one child whose reference column is declared
`cascade`: the flush runs out of every fuel. -/
theorem cascade_delete_never_returns (fuel : Nat) :
    ∃ w, flushTrackedEntities fuel false false cascadeWorld = .error .outOfFuel w := by
  have hw : CascadeReads cascadePlanned := ⟨rfl, rfl, rfl, .inl rfl⟩
  rcases fuel with _ | n
  · exact ⟨_, flushTrackedEntities_error (by decide) rfl⟩
  · obtain ⟨w, h⟩ := cascadeLoop_diverges n _ hw rfl
    exact ⟨w, flushTrackedEntities_error (by decide) (flush_parent_first_diverges parent_planned
      (runUpdateSQLs_nil rfl) hw (deleteType_parent_diverges hw h))⟩

/-! ### The root phase, run again -/

/-- `orm.account`, with one column `Name`, in the pool `accounts`. -/
def accountSchema : TableSchema :=
  { plainSchema "orm.account" "account" ["ID", "Name"] with mysqlPoolName := "accounts" }

/-- The `UPDATE` that renames account `1` to `b`. -/
def renameSql : Sql :=
  .update "account" [("Name", .str "b")] 1

/-- The pool `accounts` once account `1` is renamed, after `k` statements. -/
def accountsAt (k : Nat) : DbPool :=
  { DbPool.empty with
    tables := [("account", ⟨[(1, [("Name", .str "b")])], 2, []⟩)], executed := k }

/-- **The rename runs again**: with the rename queued, the root phase's first step executes it
once more; the row is already renamed, so only the pool's statement count changes. -/
theorem runUpdateSQLs_rename {w : World} {k : Nat}
    (hu : w.flusher.updateSQLs = [("accounts", [renameSql])])
    (ha : w.db "accounts" = accountsAt k) :
    runUpdateSQLs w = .ok ⟨⟩ (w.setDb "accounts" (accountsAt (k + 1))) := by
  simp [runUpdateSQLs, hu, dbExec, ha, liftExcept, renameSql]
  rfl

/-- **Every round of the cascade runs the rename again.** From every world the pass over the
parent reads as in `CascadeReads`, with the rename queued and run `k` times, the loop over the
children runs out of fuel `n` with the rename run `k + n` times: each round's flush of the
child is a root call, whose root phase runs the queued `UPDATE`s of the caller. -/
theorem cascadeLoop_reruns_update (n : Nat) : ∀ w k, CascadeReads w →
    w.flusher.updateSQLs = [("accounts", [renameSql])] → w.db "accounts" = accountsAt k →
    ∃ w', cascadeLoop (flush n) false false childSchema "ParentID" [.u64 1] n w =
      .error .outOfFuel w' ∧ (w'.db "accounts").executed = k + n := by
  induction n with
  | zero => intro w k _ _ ha; exact ⟨w, rfl, by simp [ha, accountsAt]⟩
  | succ n ih =>
    intro w k hw hu ha
    obtain ⟨w₁, hp, hw₁, hd₁, hu₁⟩ := child_planned hw
    have ha₁ : w₁.db "accounts" = accountsAt k := by rw [World.db, hd₁]; exact ha
    have hw₂ : CascadeReads (w₁.setDb "accounts" (accountsAt (k + 1))) :=
      ⟨hw₁.parent, hw₁.child, by simpa using hw₁.db, hw₁.deletes⟩
    obtain ⟨w₂, h, hk⟩ := ih _ (k + 1) hw₂ (hu₁.trans hu) (by simp)
    exact ⟨w₂, cascadeLoop_succ_error hw (flush_parent_first_diverges hp
      (runUpdateSQLs_rename (hu₁.trans hu) ha₁) hw₂ (deleteType_parent_diverges hw₂ h)),
      by omega⟩

/-- Account `1`, loaded with the name `a` and renamed to `b`. -/
def renamedAccount : Entity :=
  { accountSchema.fromRow accountSchema.newEntity 1 [("Name", .str "a")] with
    fields := [("Name", .str "b")] }

/-- `Track(account)` of account `1` renamed to `b`, then `Delete(parent)` of the parent with
one child. -/
def accountRenameWorld : World :=
  { cascadeWorld with
    engine := ⟨cascadeSchemas ++ [("orm.account", accountSchema)], false, [], [], none⟩
    flusher := { Flusher.empty with trackedEntities := [1, 0], trackedEntitiesCounter := 2 }
    ents := [(0, savedParent.markToDelete), (1, renamedAccount)]
    nextEnt := 2
    dbs := [("default", cascadePool), ("accounts",
      { DbPool.empty with tables := [("account", ⟨[(1, [("Name", .str "a")])], 2, []⟩)] })] }

/-- Planning the account queues the rename and merges it into the account's `DbData`. -/
def accountRenameQueued : World :=
  { accountRenameWorld with
    ents := [(0, savedParent.markToDelete),
      (1, { renamedAccount with dbData := [.u64 1, .str "b"] })]
    flusher := { accountRenameWorld.flusher with updateSQLs := [("accounts", [renameSql])] } }

/-- Planning the parent then records it in `deleteBinds`. -/
def accountRenamePlanned : World :=
  { accountRenameQueued with
    ents := [(0, { savedParent.markToDelete with delete := true }),
      (1, { renamedAccount with dbData := [.u64 1, .str "b"] })]
    flusher := { accountRenameQueued.flusher with deleteBinds := [("orm.parent", [(1, 0)])] } }

/-- Planning the account queues its `UPDATE`. -/
theorem account_planned :
    planEntity false (Plan.init false) 1 accountRenameWorld =
      .ok (Plan.init false) accountRenameQueued := by
  -- evaluate the left side before comparing the worlds
  obtain ⟨w, h, rfl⟩ : ∃ w, planEntity false (Plan.init false) 1 accountRenameWorld =
      .ok (Plan.init false) w ∧ w = accountRenameQueued := ⟨_, rfl, rfl⟩
  exact h

/-- Planning the tracked list queues the rename and records the parent. -/
theorem rename_planned :
    [1, 0].foldlM (planEntity false) (Plan.init false) accountRenameWorld =
      .ok (Plan.init false) accountRenamePlanned := by
  have hparent : planEntity false (Plan.init false) 0 accountRenameQueued =
      .ok (Plan.init false) accountRenamePlanned := rfl
  simp only [foldlM_cons_run, bind_run, account_planned, hparent, foldlM_nil_run]

/-- The root phase runs the rename a first time. -/
theorem rename_first_run :
    runUpdateSQLs accountRenamePlanned =
      .ok ⟨⟩ (accountRenamePlanned.setDb "accounts" (accountsAt 1)) := rfl

/-- `Track(account); Delete(parent); Flush()`, where the account is renamed and the parent has
one child whose reference column is declared `cascade`: when the flush runs out of fuel `fuel`,
the rename's one `UPDATE` has been executed `fuel` times. -/
theorem cascade_reruns_update (fuel : Nat) :
    ∃ w, flushTrackedEntities fuel false false accountRenameWorld = .error .outOfFuel w ∧
      (w.db "accounts").executed = fuel := by
  rcases fuel with _ | n
  · exact ⟨_, flushTrackedEntities_error (by decide) rfl, rfl⟩
  · have hw : CascadeReads (accountRenamePlanned.setDb "accounts" (accountsAt 1)) :=
      ⟨rfl, rfl, rfl, .inl rfl⟩
    obtain ⟨w, h, hk⟩ := cascadeLoop_reruns_update n _ 1 hw rfl rfl
    exact ⟨w, flushTrackedEntities_error (by decide) (flush_parent_first_diverges rename_planned
      rename_first_run hw (deleteType_parent_diverges hw h)), by omega⟩

end Orm

import Orm.Flush.QueryKeys

/-!
# Cache writes of a flush inside a transaction

Inside a transaction `applyLocalCache` queues the collected local-cache **sets** for after the
commit, and `finishFlush` hands the pipeline to the engine instead of running it. The
collected local-cache **deletions** are not queued: they are removed from the local cache at
once, whatever the transaction flag. A rollback then discards the queued writes but cannot
restore the removed keys (`transaction_flush_removes_local_keys`).
-/

namespace Orm

/-- `orm.user` with the cache-all index `all`, whose key every insert invalidates. -/
def cacheAllSchema : TableSchema :=
  { userSchema with cachedIndexesAll := [("all", ⟨[], []⟩)] }

/-- The key of the cache-all index. -/
def cacheAllKey : String :=
  getCacheKeySearch cacheAllSchema "all" []

/-- A new user on pool `default`, which is inside a transaction; the local cache holds the
cache-all key. -/
def txWorld : World where
  engine := ⟨[("orm.user", cacheAllSchema)], false, [], [], none⟩
  flusher := Flusher.empty
  ents := [(0, { cacheAllSchema.newEntity with fields := [("Name", .str "a")] })]
  nextEnt := 1
  rfs := []
  nextRf := 0
  dbs := [("default", { DbPool.empty with inTransaction := true })]
  localCaches := [("lc", [(cacheAllKey, .row [.u64 9])])]
  redisCaches := []
  streams := []

open Trace in
/-- `Track(u); Flush()` inside the pool's transaction, then `Rollback()`: the inserted row is
gone, and so is the local cache's cache-all key, which the flush removed at once. -/
theorem transaction_flush_removes_local_keys (n : Nat) :
    match (runOps (n + 1) [.track [0], .flush] >>= fun _ => dbRollback "default") txWorld with
    | .ok _ w => w.localCache "lc" = [] ∧ ((w.db "default").table "user").rows = []
    | .error _ _ => False := by
  simp [↓bind_run, ↓tryCatch_run, ↓map_run, ↓discard_run, ↓ite_apply, ↓dite_apply, txWorld,
      cacheAllKey, cacheAllSchema, userSchema]

end Orm

import Orm.Flush.Tracking
import Orm.Consumer.Background

/-!
# Replaying a lazy envelope

A lazy flush publishes its work as one envelope, and the background consumer replays it.
Three ways the replay differs from the synchronous flush of the same entities:

* `handleQueries` numbers the dirty events of the `d` list **after** the log rows of the `l`
  list, from one counter, so an inserted entity's dirty event carries the id after its own
  (`lazy_dirty_event_id`);
* the lazy update path still writes the new row into the local cache, at flush time, before
  the consumer has run its `UPDATE` (`lazy_update_sets_local_row`);
* the batched `INSERT` of new entities carries no `ID`, so each replay of the same envelope
  inserts its rows again (`lazy_insert_replayed_twice`).
-/

namespace Orm

/-- The background consumer, with its own pipeline at address `100` and no `LogLogger`. -/
def backgroundConsumer : Consumer :=
  ⟨100, false⟩

/-! ### The ids of dirty events -/

/-- `orm.post` with an audit log on pool `log` and a dirty stream `stream` that tracks every
change. -/
def loggedPostSchema : TableSchema :=
  { postSchema with hasLog := true, logTableName := "post_log", logPoolName := "log",
                    dirtyFields := [("stream", ["ORM"])] }

/-- A new logged post. -/
def loggedWorld : World where
  engine := ⟨[("orm.post", loggedPostSchema)], false, [], [], none⟩
  flusher := Flusher.empty
  ents := [(0, { loggedPostSchema.newEntity with fields := [("Title", .str "t")] })]
  nextEnt := 1
  rfs := []
  nextRf := 0
  dbs := []
  localCaches := []
  redisCaches := []
  streams := []

open Trace in
/-- `Track(p); Flush()` publishes the dirty event of row `1`; `Track(p); FlushLazy()` and the
consumer's replay insert the same row `1`, but publish the dirty event with id `2`, the id
after the log row's. -/
theorem lazy_dirty_event_id (n : Nat) :
    (match runOps (n + 1) [.track [0], .flush] loggedWorld with
      | .ok _ w => ("stream", Event.dirty ⟨"orm.post", 1, "i"⟩) ∈ w.streams
      | .error _ _ => False) ∧
    (match (runOps (n + 1) [.track [0], .flushLazy] >>= fun _ => do
        digest backgroundConsumer (← get).streams) loggedWorld with
      | .ok _ w =>
        ((w.db "default").table "post").rows.map Prod.fst = [1] ∧
          ("stream", Event.dirty ⟨"orm.post", 2, "i"⟩) ∈ w.streams ∧
          ("stream", Event.dirty ⟨"orm.post", 1, "i"⟩) ∉ w.streams
      | .error _ _ => False) := by
  simp [↓bind_run, ↓tryCatch_run, ↓map_run, ↓discard_run, ↓ite_apply, ↓dite_apply, loggedWorld,
      loggedPostSchema, postSchema, userSchema, backgroundConsumer]

/-! ### The local cache after a lazy update -/

/-- A loaded user `1` renamed from `a` to `b`. -/
def renamedCachedUser : Entity :=
  { userSchema.newEntity with
    id := 1, fields := [("Name", .str "b")], dbData := [.u64 1, .str "a"], loaded := true,
    inDB := true }

/-- The renamed user, whose row still holds `a`. -/
def lazyRenameWorld : World where
  engine := ⟨[("orm.user", userSchema)], false, [], [], none⟩
  flusher := Flusher.empty
  ents := [(0, renamedCachedUser)]
  nextEnt := 1
  rfs := []
  nextRf := 0
  dbs := [("default", { DbPool.empty with tables := [("user", ⟨[(1, [("Name", .str "a")])], 2, []⟩)] })]
  localCaches := []
  redisCaches := []
  streams := []

open Trace in
/-- `Track(u); FlushLazy()` stores the new row of `u` under `u:1` in the local cache while the
table still holds the old one. -/
theorem lazy_update_sets_local_row (n : Nat) :
    match runOps (n + 1) [.track [0], .flushLazy] lazyRenameWorld with
    | .ok _ w =>
      GoMap.find? (w.localCache "lc") "u:1" = some (.row [.u64 1, .str "b"]) ∧
        ((w.db "default").table "user").rows = [(1, [("Name", .str "a")])]
    | .error _ _ => False := by
  simp [↓bind_run, ↓tryCatch_run, ↓map_run, ↓discard_run, ↓ite_apply, ↓dite_apply, lazyRenameWorld,
      renamedCachedUser, userSchema]
  decide

/-! ### Replaying an envelope twice -/

/-- A new post without a log. -/
def newPostWorld : World where
  engine := ⟨[("orm.post", postSchema)], false, [], [], none⟩
  flusher := Flusher.empty
  ents := [(0, newPost "t")]
  nextEnt := 1
  rfs := []
  nextRf := 0
  dbs := []
  localCaches := []
  redisCaches := []
  streams := []

open Trace in
/-- `Track(p); FlushLazy()`, then the consumer handles the envelope twice: after the first
replay the table holds row `1`, after the second also row `2`. -/
theorem lazy_insert_replayed_twice :
    match (runOps 1 [.track [0], .flushLazy] >>= fun _ => do
        let msgs := (← get).streams
        digest backgroundConsumer msgs
        let once := (((← get).db "default").table "post").rows
        digest backgroundConsumer msgs
        return once) newPostWorld with
    | .ok once w =>
      once = [(1, [("Title", .str "t")])] ∧
        ((w.db "default").table "post").rows = [(1, [("Title", .str "t")]), (2, [("Title", .str "t")])]
    | .error _ _ => False := by
  simp [↓bind_run, ↓tryCatch_run, ↓map_run, ↓discard_run, ↓ite_apply, ↓dite_apply, newPostWorld,
      newPost, postSchema, userSchema, backgroundConsumer]

end Orm

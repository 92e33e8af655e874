import Orm.Flush.Transaction

/-!
# What a failed flush leaves behind

A flush writes into the entities while it plans and emits: the insert path stamps each entity
of a batch with its id and marks it in the DB right after the batch's `INSERT`, before the
statements of the other types run. When a later statement fails inside a transaction, the
rollback removes the inserted rows but not what was written into the entities, so an entity
that has no row looks saved and a second flush finds nothing dirty
(`rolledBack_insert_stays_saved`).

`Clear()` empties the tracked list, the counter and the pending statements and cache buffers,
but neither the lazy envelope nor the pipeline. A lazy flush that panics after one entity has
filled the envelope leaves it in the flusher, and the next flush of any mode publishes it,
even one with nothing to write (`stale_envelope_published`).
-/

namespace Orm

/-! ### An insert rolled back after a later statement failed -/

/-- A type `orm.post` with one column `Title` on the same pool, without caches. -/
def postSchema : TableSchema :=
  { userSchema with t := "orm.post", tableName := "post", columnNames := ["ID", "Title"],
                    cachePrefix := "p", localCache := none, redisCache := none }

/-- A new post. -/
def newPost (title : String) : Entity :=
  { postSchema.newEntity with fields := [("Title", .str title)] }

/-- A new user and a new post on pool `default`, whose second statement fails with a
duplicated key. -/
def failWorld : World where
  engine := ⟨[("orm.user", userSchema), ("orm.post", postSchema)], false, [], [], none⟩
  flusher := Flusher.empty
  ents := [(0, newUser 0 "a"), (1, newPost "t")]
  nextEnt := 2
  rfs := []
  nextRf := 0
  dbs := [("default", { DbPool.empty with failAt := some (1, .duplicatedKey "Duplicate entry" "PRIMARY") })]
  localCaches := []
  redisCaches := []
  streams := []

open Trace in
/-- `Track(u, p); FlushInTransactionWithCheck()` fails on the post's `INSERT` and rolls the
user's row back, yet the user keeps `ID` `1` and `InDB`; `Track(u); Flush()` then writes
nothing, and the user has no row. -/
theorem rolledBack_insert_stays_saved :
    match runOps 1 [.track [0, 1], .flushInTransactionWithCheck, .track [0], .flush]
        failWorld with
    | .ok _ w =>
      (w.ent 0).id = 1 ∧ (w.ent 0).inDB = true ∧ ((w.db "default").table "user").rows = []
    | .error _ _ => False := by
  simp [↓bind_run, ↓tryCatch_run, ↓map_run, ↓discard_run, ↓ite_apply, ↓dite_apply, failWorld,
      newUser, newPost, userSchema, postSchema]

/-! ### Nothing restores the entities

The checked flushers recover the failure of `flush` by rolling the begun transactions back and
calling `Clear()`; neither step reads or writes an entity. -/

/-- **A failed flush is not undone on the entities.** Whatever makes `flush` fail, in either
transaction mode, the checked flushers roll back the pools the flush began, in order, and then
call `Clear()`, which empties the tracked list. `flushWithCheck` returns a foreign-key or
duplicated-key error and re-panics with any other, and `flushWithFullCheck` returns the error.
Every entity is as the failed flush left it. -/
theorem failed_flush_leaves_entities (fuel : Nat) (transaction : Bool) (w w₀ wf : World)
    (pools : List String) (e : Fault) (hc : w.flusher.trackedEntitiesCounter ≠ 0)
    (hb : beginPools transaction w.flusher.trackedEntities w = .ok pools w₀)
    (hf : flush fuel true false transaction w.flusher.trackedEntities w₀ = .error e wf) :
    ∃ wr w₂, pools.forM dbRollback wf = .ok () wr ∧ clear wr = .ok () w₂ ∧
      w₂.ents = wf.ents ∧ w₂.flusher.trackedEntities = [] ∧
      flushWithCheck fuel transaction w =
        (match e with
          | .foreignKey .. | .duplicatedKey .. => .ok (some e) w₂
          | _ => .error e w₂) ∧
      (transaction = false → flushWithFullCheck fuel w = .ok (some e) w₂) := by
  obtain ⟨_, wr, hr, er⟩ :=
    keeps_forM World.ents (l := pools) (fun p _ => dbRollback_keeps_ents p) wf
  have hft : flushTrackedEntities fuel false transaction w = .error e wr := by
    simp [flushTrackedEntities, hc, hb, hf, hr]
  refine ⟨wr, _, hr, clear_run wr, er, rfl, ?_, fun ht => by
    subst ht; simp [flushWithFullCheck, hft, clear_run]⟩
  cases e <;> simp [flushWithCheck, hft, clear_run]

/-- The user and the post of `failWorld`, tracked. -/
def failTracked : World :=
  { failWorld with
    flusher := { Flusher.empty with trackedEntities := [0, 1], trackedEntitiesCounter := 2 } }

/-- `failTracked` with the transaction of pool `default` begun. -/
def failBegun : World :=
  failTracked.setDb "default" (failTracked.db "default").begin

open Trace in
/-- `FlushInTransactionWithCheck()` on the user and the post of `failWorld`: the post's `INSERT`
fails on the duplicated key, `default` is rolled back, the flusher is cleared, and the checked
flush returns that error with the entities as the failed flush left them. -/
theorem failed_transaction_leaves_entities :
    ∃ wf, failTracked.flusher.trackedEntitiesCounter ≠ 0 ∧
      beginPools true failTracked.flusher.trackedEntities failTracked = .ok ["default"] failBegun ∧
      flush 1 true false true failTracked.flusher.trackedEntities failBegun =
        .error (.duplicatedKey "Duplicate entry" "PRIMARY") wf ∧
      ∃ wr w₂, ["default"].forM dbRollback wf = .ok () wr ∧ clear wr = .ok () w₂ ∧
        w₂.ents = wf.ents ∧ w₂.flusher.trackedEntities = [] ∧
        flushWithCheck 1 true failTracked =
          .ok (some (.duplicatedKey "Duplicate entry" "PRIMARY")) w₂ ∧
        (true = false → flushWithFullCheck 1 failTracked =
          .ok (some (.duplicatedKey "Duplicate entry" "PRIMARY")) w₂) := by
  have hb : beginPools true failTracked.flusher.trackedEntities failTracked =
      .ok ["default"] failBegun := by
    simp [failBegun, failTracked, failWorld, newUser, newPost, userSchema, postSchema]
  obtain ⟨wf, hf⟩ : ∃ wf, flush 1 true false true failTracked.flusher.trackedEntities failBegun =
      .error (.duplicatedKey "Duplicate entry" "PRIMARY") wf := by
    simp [↓bind_run, ↓tryCatch_run, ↓map_run, ↓discard_run, ↓ite_apply, ↓dite_apply, failBegun,
        failTracked, failWorld, newUser, newPost, userSchema, postSchema]
  exact ⟨wf, by decide, hb, hf,
    failed_flush_leaves_entities 1 true failTracked failBegun wf ["default"] _ (by decide) hb hf⟩

/-! ### A lazy envelope left by a failed flush -/

/-- A loaded post `1` retitled from `a` to `b`. -/
def retitledPost : Entity :=
  { postSchema.newEntity with
    id := 1, fields := [("Title", .str "b")], dbData := [.u64 1, .str "a"], loaded := true,
    inDB := true }

/-- The retitled post and a new post inserted with `OnDuplicateKeyUpdate`. -/
def staleWorld : World where
  engine := ⟨[("orm.post", postSchema)], false, [], [], none⟩
  flusher := Flusher.empty
  ents := [(0, retitledPost), (1, { newPost "c" with onDuplicateKeyUpdate := some [] })]
  nextEnt := 2
  rfs := []
  nextRf := 0
  dbs := []
  localCaches := []
  redisCaches := []
  streams := []

open Trace in
/-- `Track(p, d); FlushLazy()` panics on `d` after `p`'s `UPDATE` entered the envelope. After
`Clear(); Track(p); Flush()`, where `p` has nothing left to write, that envelope is the one
message on the lazy stream. -/
theorem stale_envelope_published (n : Nat) :
    match runOps (n + 1) [.track [0, 1], .flushLazy, .clear, .track [0], .flush] staleWorld with
    | .ok _ w =>
      w.streams = [(lazyChannelName,
        .lazy ⟨some [⟨"default", .update "post" [("Title", .str "b")] 1, none⟩], none, none, none,
          none⟩)]
    | .error _ _ => False := by
  simp [↓bind_run, ↓tryCatch_run, ↓map_run, ↓discard_run, ↓ite_apply, ↓dite_apply, staleWorld,
      retitledPost, newPost, postSchema, userSchema, flushOnDuplicateKeyUpdate_lazy]

end Orm

import Orm.Flush.Failure

/-!
# The tracked list across flushes

`flushTrackedEntities` ends with `clear()`, which empties the pending statements and cache
buffers but not the tracked list or its counter. Every later flush on the same flusher flushes
the earlier entities again: a deleted entity is deleted once more, by a second `DELETE`, and
stays tracked (`deleted_entity_flushed_twice`).
-/

namespace Orm

/-- A post `1` that is in the database. -/
def savedPost : Entity :=
  { postSchema.newEntity with
    id := 1, fields := [("Title", .str "a")], dbData := [.u64 1, .str "a"], loaded := true,
    inDB := true }

/-- The saved post and its row. -/
def savedPostWorld : World where
  engine := ⟨[("orm.post", postSchema)], false, [], [], none⟩
  flusher := Flusher.empty
  ents := [(0, savedPost)]
  nextEnt := 1
  rfs := []
  nextRf := 0
  dbs := [("default", { DbPool.empty with tables := [("post", ⟨[(1, [("Title", .str "a")])], 2, []⟩)] })]
  localCaches := []
  redisCaches := []
  streams := []

open Trace in
/-- `ForceDelete(p); Flush(); Flush()`: both flushes run a `DELETE`, and `p` is still the one
tracked entity. -/
theorem deleted_entity_flushed_twice (n : Nat) :
    match runOps (n + 1) [.forceDelete [0], .flush, .flush] savedPostWorld with
    | .ok _ w =>
      (w.db "default").executed = 2 ∧ ((w.db "default").table "post").rows = [] ∧
        w.flusher.trackedEntities = [0] ∧ w.flusher.trackedEntitiesCounter = 1
    | .error _ _ => False := by
  simp [↓bind_run, ↓tryCatch_run, ↓map_run, ↓discard_run, ↓ite_apply, ↓dite_apply, savedPostWorld,
      savedPost, postSchema, userSchema]

end Orm

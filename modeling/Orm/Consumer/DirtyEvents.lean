import Orm.Consumer.Background
import Orm.Flush.Batch

/-!
# Dirty events, published now or replayed later

`addDirtyQueues` walks the schema's dirty-stream map and, for each stream, its tracked columns;
at the first column that is `"ORM"` or a key of the bind it takes the stream and **breaks**, so
a stream is taken at most once. Synchronously it publishes the event `{E, I, A}` to each stream
taken, on the flusher's pipeline; lazily it returns the event with the streams taken, `nil`
when there is none. The consumer's `publishDirty` later publishes such a record to its streams.

```
addDirtyQueues_events
lazy_dirty_events_replayed
```

The first says which streams get the event and that each gets it once, in both modes; the
second, that the consumer replaying the lazy record queues the very messages the synchronous
call queues.

The stream map is a Go map, so its keys are distinct; the model's association list states
this as a hypothesis.
-/

namespace Orm

section Streams

variable (s : TableSchema) (bind : Bind)

/-- The streams taken are those that track `"ORM"` or a column of the bind. -/
theorem mem_dirtyStreams (st : String) :
    st ∈ dirtyStreams s bind ↔
      ∃ cols, (st, cols) ∈ s.dirtyFields ∧ ∃ c ∈ cols, c = "ORM" ∨ GoMap.has bind c = true := by
  simp [dirtyStreams]

/-- Each stream is taken once: the inner loop breaks at its first matching column. -/
theorem dirtyStreams_nodup (hs : (GoMap.keys s.dirtyFields).Nodup) :
    (dirtyStreams s bind).Nodup :=
  hs.sublist ((List.filter_sublist _).map _)

end Streams

/-- Publishing `ev` to the streams `st :: ws`: the first publish takes the flusher's pipeline,
and each stream gets one message on it, in order. -/
theorem forM_publish_run (ev : Event) {w w₀ : World} {a : Nat}
    (h : getRedisFlusher w = .ok a w₀) (st : String) (ws : List String) :
    ((st :: ws).forM fun st => onRedisFlusher (·.publish st ev)) w =
      .ok ⟨⟩ (w₀.publishAll a ((st :: ws).map fun st => (st, ev))) := by
  induction ws generalizing st w w₀ with
  | nil => simp [onRedisFlusher_run h]
  | cons st' ws ih =>
    have h₀ : w₀.flusher.redisFlusher = some a := getRedisFlusher_some h
    have h₁ := getRedisFlusher_of_some (w := w₀.setRf a ((w₀.rf a).publish st ev)) h₀
    rw [forM_cons_run, bind_run, onRedisFlusher_run h]
    dsimp only
    rw [ih h₁]
    rfl

/-- Synchronously, the event is published on the flusher's pipeline to each stream taken, which
is taken only when some stream matches. -/
theorem addDirtyQueues_sync (bind : Bind) (s : TableSchema) (id : Nat) (action : String)
    (w : World) :
    ∃ a w₀, getRedisFlusher w = .ok a w₀ ∧
      addDirtyQueues bind s id action false w = .ok none
        (if dirtyStreams s bind = [] then w
          else w₀.publishAll a ((dirtyStreams s bind).map fun st => (st, .dirty ⟨s.t, id, action⟩))) := by
  obtain ⟨a, w₀, h⟩ := getRedisFlusher_ok w
  refine ⟨a, w₀, h, ?_⟩
  cases hws : dirtyStreams s bind with
  | nil => simp [addDirtyQueues, hws]
  | cons st ws =>
    simp [addDirtyQueues, hws, -List.forM_cons', -World.publishAll_cons, forM_publish_run _ h]

/-- Lazily, the event is returned with the streams taken, `none` when there is none. -/
theorem addDirtyQueues_lazy (bind : Bind) (s : TableSchema) (id : Nat) (action : String)
    (w : World) :
    addDirtyQueues bind s id action true w =
      .ok (if dirtyStreams s bind = [] then none
        else some ⟨⟨s.t, id, action⟩, dirtyStreams s bind⟩) w := by
  cases hws : dirtyStreams s bind <;> simp [addDirtyQueues, hws]

/-- **The streams of a dirty event.** The event `{E: type, I: id, A: action}` goes to exactly
the streams that track `"ORM"` or a column of the bind, once each: synchronously it is
published on the flusher's pipeline (taken only when some stream matches), and lazily it is
returned with exactly those streams, `none` when there is none. -/
theorem addDirtyQueues_events (bind : Bind) (s : TableSchema) (id : Nat) (action : String)
    (w : World) (hs : (GoMap.keys s.dirtyFields).Nodup) :
    (dirtyStreams s bind).Nodup ∧
    (∀ st, st ∈ dirtyStreams s bind ↔
      ∃ cols, (st, cols) ∈ s.dirtyFields ∧ ∃ c ∈ cols, c = "ORM" ∨ GoMap.has bind c = true) ∧
    (∃ a w₀, getRedisFlusher w = .ok a w₀ ∧
      addDirtyQueues bind s id action false w = .ok none
        (if dirtyStreams s bind = [] then w
          else w₀.publishAll a ((dirtyStreams s bind).map fun st => (st, .dirty ⟨s.t, id, action⟩)))) ∧
    addDirtyQueues bind s id action true w =
      .ok (if dirtyStreams s bind = [] then none
        else some ⟨⟨s.t, id, action⟩, dirtyStreams s bind⟩) w :=
  ⟨dirtyStreams_nodup s bind hs, mem_dirtyStreams s bind, addDirtyQueues_sync bind s id action w,
    addDirtyQueues_lazy bind s id action w⟩

/-- `orm.user` with three streams: `names` tracks `Name`, `ages` tracks `Age`, `all` tracks
every change. -/
def streamsSchema : TableSchema :=
  { userSchema with dirtyFields := [("names", ["Name"]), ("ages", ["Age"]), ("all", ["ORM"])] }

/-- A change of `Name` goes lazily to `names` and `all`, not to `ages`. -/
theorem addDirtyQueues_name_change :
    (GoMap.keys streamsSchema.dirtyFields).Nodup ∧
    addDirtyQueues [("Name", .str "b")] streamsSchema 1 "u" true presetIdWorld =
      .ok (some ⟨⟨"orm.user", 1, "u"⟩, ["names", "all"]⟩) presetIdWorld :=
  ⟨by decide, (addDirtyQueues_events [("Name", .str "b")] streamsSchema 1 "u" presetIdWorld
    (by decide)).2.2.2⟩

/-- The consumer's `publishDirty`: each record's event is published on the consumer's pipeline
to each of its streams, in order, and the pipeline is then flushed. -/
theorem publishDirty_run (c : Consumer) (ds : List DirtyQueueValue) (v : World) :
    publishDirty c ds v = .ok ⟨⟩ ((v.publishAll c.redisFlusher
      (ds.flatMap fun dv => dv.streams.map fun st => (st, .dirty dv.event))).flushRedis
      c.redisFlusher) := by
  have hst : ∀ (ev : Event) (ws : List String) (v : World),
      (ws.forM fun st => (modify fun (w : World) =>
        w.setRf c.redisFlusher ((w.rf c.redisFlusher).publish st ev) : M PUnit)) v =
      .ok ⟨⟩ (v.publishAll c.redisFlusher (ws.map fun st => (st, ev))) := by
    intro ev ws
    induction ws with
    | nil => intro v; rfl
    | cons st ws ih => intro v; exact ih _
  have hds : ∀ (ds : List DirtyQueueValue) (v : World),
      (ds.forM fun dv => dv.streams.forM fun st => (modify fun (w : World) =>
        w.setRf c.redisFlusher ((w.rf c.redisFlusher).publish st (.dirty dv.event)) : M PUnit)) v =
      .ok ⟨⟩ (v.publishAll c.redisFlusher
        (ds.flatMap fun dv => dv.streams.map fun st => (st, .dirty dv.event))) := by
    intro ds
    induction ds with
    | nil => intro v; rfl
    | cons dv ds ih => intro v; simp [hst, ih, World.publishAll_append, -World.publishAll_cons]
  simp [publishDirty, hds, -World.publishAll_cons]

/-- **Lazy and synchronous dirty events agree.** When `addDirtyQueues` returns a record in lazy
mode, the consumer publishing that record publishes on its own pipeline exactly the messages the
synchronous call publishes on the flusher's pipeline, and then flushes them. -/
theorem lazy_dirty_events_replayed (c : Consumer) (bind : Bind) (s : TableSchema) (id : Nat)
    (action : String) (w v : World) (dv : DirtyQueueValue)
    (h : addDirtyQueues bind s id action true w = .ok (some dv) w) :
    ∃ a w₀, getRedisFlusher w = .ok a w₀ ∧
      addDirtyQueues bind s id action false w =
        .ok none (w₀.publishAll a (dv.streams.map fun st => (st, .dirty dv.event))) ∧
      publishDirty c [dv] v = .ok ⟨⟩ ((v.publishAll c.redisFlusher
        (dv.streams.map fun st => (st, .dirty dv.event))).flushRedis c.redisFlusher) := by
  obtain ⟨a, w₀, hg, hsync⟩ := addDirtyQueues_sync bind s id action w
  rw [addDirtyQueues_lazy] at h
  by_cases hws : dirtyStreams s bind = []
  · simp [hws] at h
  · simp only [hws, if_false, EStateM.Result.ok.injEq, Option.some.injEq] at h hsync
    obtain ⟨rfl, -⟩ := h
    exact ⟨a, w₀, hg, hsync, by simpa using publishDirty_run c [_] v⟩

/-- The lazy record of a `Name` change, replayed by a consumer on pipeline `1`. -/
theorem name_change_replayed :
    addDirtyQueues [("Name", .str "b")] streamsSchema 1 "u" true presetIdWorld =
      .ok (some ⟨⟨"orm.user", 1, "u"⟩, ["names", "all"]⟩) presetIdWorld ∧
    publishDirty ⟨1, false⟩ [⟨⟨"orm.user", 1, "u"⟩, ["names", "all"]⟩] presetIdWorld =
      .ok ⟨⟩ ((presetIdWorld.publishAll 1 [("names", .dirty ⟨"orm.user", 1, "u"⟩),
        ("all", .dirty ⟨"orm.user", 1, "u"⟩)]).flushRedis 1) := by
  have hl : addDirtyQueues [("Name", .str "b")] streamsSchema 1 "u" true presetIdWorld =
      .ok (some ⟨⟨"orm.user", 1, "u"⟩, ["names", "all"]⟩) presetIdWorld := by
    simp [addDirtyQueues, dirtyStreams, streamsSchema, userSchema, GoMap.has, GoMap.find?]
  obtain ⟨-, -, -, -, hp⟩ := lazy_dirty_events_replayed ⟨1, false⟩ [("Name", .str "b")] streamsSchema
    1 "u" presetIdWorld presetIdWorld _ hl
  exact ⟨hl, hp⟩

end Orm

import Orm.Core.Redis

/-!
# The flusher, the engine and the world they act on

`flusher` is the struct of `Flush`: the tracked entities and their counter, the redis pipeline
it has taken, the update statements and delete binds pending per pool and type, the lazy
envelope, and the local-cache deletions and sets it has collected. `Engine` holds the validated
registry and the two after-commit queues of the transaction protocol. The **world** is both,
together with everything they act on: the entity heap, the heap of redis pipelines, the MySQL
pools, the local and remote caches and the streams.

Shape decisions:

* a run of the program is a computation in `EStateM Fault World`: a Go `panic` is an error
  that **keeps the state it was raised in**, so the code after a `recover` (the checked
  flushers) sees every mutation made before the panic, as in Go;
* pointers the code shares are heap addresses: entities (`ents`) and redis pipelines (`rfs`),
  so that `flusher.redisFlusher` and `engine.afterCommitRedisFlusher` can be the same pipeline;
* the engine's commit and rollback hooks are not in src and are **modelled from the spec**:
  a `Commit` of a pool in a transaction applies the queued local-cache sets and runs the queued
  pipeline, a `Rollback` discards both;
* the local LRU cache is a map without eviction, and a remote cache a map of keys;
* the heaps, the pools and the caches are maps (`GoMap`), so that a state of a run is plain
  data.
-/

namespace Orm

/-- The `flusher` struct. -/
structure Flusher where
  trackedEntities : List Nat
  trackedEntitiesCounter : Nat
  /-- The pipeline taken by `getRedisFlusher`, a `rfs` address. -/
  redisFlusher : Option Nat
  updateSQLs : GoMap String (List Sql)
  /-- Per type, the entities to delete by `ID`. -/
  deleteBinds : GoMap String (GoMap Nat Nat)
  lazyMap : LazyMap
  localCacheDeletes : GoMap String (List String)
  localCacheSets : GoMap String (List (String × CacheValue))

/-- A flusher with nothing tracked or pending. -/
def Flusher.empty : Flusher :=
  ⟨[], 0, none, [], [], LazyMap.empty, [], []⟩

/-- The part of the engine the flush reads and writes. -/
structure Engine where
  /-- The validated registry: the schemas by type name. -/
  schemas : GoMap String TableSchema
  hasRequestCache : Bool
  logMetaData : Bind
  afterCommitLocalCacheSets : GoMap String (List (String × CacheValue))
  /-- The queued pipeline, a `rfs` address. -/
  afterCommitRedisFlusher : Option Nat

/-- Everything a flush can read or change. The heaps, the pools and the caches are maps; an
address or a code that holds nothing reads as the empty value. -/
structure World where
  engine : Engine
  flusher : Flusher
  ents : Heap
  /-- The next free entity address (entities loaded by a search). -/
  nextEnt : Nat
  /-- The redis pipelines by address. -/
  rfs : GoMap Nat RedisFlusher
  nextRf : Nat
  /-- The MySQL pools by code. -/
  dbs : GoMap String DbPool
  /-- The local caches by code. -/
  localCaches : GoMap String (GoMap String CacheValue)
  /-- The remote caches by code. -/
  redisCaches : GoMap String (GoMap String CacheValue)
  /-- The messages published to streams, oldest first. -/
  streams : List (String × Event)

/-- A computation of the program: it may panic, and a panic keeps the state. -/
abbrev M := EStateM Fault World

/-- The local cache pool of the request cache. -/
def requestCacheKey : String := "_request"

namespace World

variable (w : World)

/-- The entity at an address. -/
def ent (a : Nat) : Entity :=
  w.ents.read a

/-- The pool of a code. -/
def db (pool : String) : DbPool :=
  GoMap.findD w.dbs pool DbPool.empty

/-- The pipeline at an address. -/
def rf (a : Nat) : RedisFlusher :=
  GoMap.findD w.rfs a RedisFlusher.empty

/-- The local cache of a code. -/
def localCache (code : String) : GoMap String CacheValue :=
  GoMap.findD w.localCaches code []

/-- The remote cache of a code. -/
def redisCache (code : String) : GoMap String CacheValue :=
  GoMap.findD w.redisCaches code []

/-- `LocalCache.Remove(keys...)` on the pool's map: the keys go. -/
def localRemove (code : String) (keys : List String) : World :=
  let m := keys.foldl GoMap.erase (w.localCache code)
  { w with localCaches := GoMap.insert w.localCaches code m }

/-- `LocalCache.MSet(pairs...)` on the pool's map: each key set to its value, in order. -/
def localMSet (code : String) (pairs : List (String × CacheValue)) : World :=
  let m := GoMap.insertAll (w.localCache code) pairs
  { w with localCaches := GoMap.insert w.localCaches code m }

/-- The world with pool `p` replaced. -/
def setDb (pool : String) (p : DbPool) : World :=
  { w with dbs := GoMap.insert w.dbs pool p }

@[simp] theorem db_setDb (pool code : String) (p : DbPool) :
    (w.setDb pool p).db code = if pool = code then p else w.db code := by
  simp [db, setDb]

@[simp] theorem ent_insert (a b : Nat) (e : Entity) :
    ({ w with ents := GoMap.insert w.ents a e } : World).ent b = if a = b then e else w.ent b :=
  Heap.read_insert _ _ _ _

/-- The world with pipeline `a` replaced. -/
def setRf (a : Nat) (rf : RedisFlusher) : World :=
  { w with rfs := GoMap.insert w.rfs a rf }

/-- Run one pool's queued commands on the remote caches. -/
def runPipeline (code : String) (p : RedisPipeline) : World :=
  let run (m : GoMap String CacheValue) : GoMap String CacheValue :=
    p.hsets.foldl (fun m kv => GoMap.insert m kv.1 (.hash kv.2)) (p.deletes.foldl GoMap.erase m)
  { w with redisCaches := GoMap.insert w.redisCaches code (run (w.redisCache code)) }

/-- `redisFlusher.Flush()` of pipeline `a`: run the commands, publish the messages, empty it. -/
def flushRedis (a : Nat) : World :=
  let rf := w.rf a
  let w' := rf.pipelines.foldl (fun w kv => w.runPipeline kv.1 kv.2) w
  { w'.setRf a RedisFlusher.empty with streams := w'.streams ++ rf.events }

/-! The pipelines and the caches are not the pools: running them leaves every pool as it was. -/

@[simp] theorem setRf_dbs (a : Nat) (rf : RedisFlusher) : (w.setRf a rf).dbs = w.dbs := rfl

@[simp] theorem runPipeline_dbs (code : String) (p : RedisPipeline) :
    (w.runPipeline code p).dbs = w.dbs := rfl

/-! Replacing a pipeline: it reads back, a second replacement overwrites the first, and the
flusher is untouched. -/

@[simp] theorem rf_setRf (a b : Nat) (rf : RedisFlusher) :
    (w.setRf a rf).rf b = if a = b then rf else w.rf b :=
  GoMap.findD_insert _ _ _ _ _

@[simp] theorem setRf_setRf (a : Nat) (rf rf' : RedisFlusher) :
    (w.setRf a rf).setRf a rf' = w.setRf a rf' := by
  simp [setRf]

@[simp] theorem setRf_flusher (a : Nat) (rf : RedisFlusher) : (w.setRf a rf).flusher = w.flusher :=
  rfl

/-- Messages published on pipeline `a`, in order. -/
def publishAll (a : Nat) (evs : List (String × Event)) : World :=
  evs.foldl (fun w ev => w.setRf a ((w.rf a).publish ev.1 ev.2)) w

@[simp] theorem publishAll_nil (a : Nat) : w.publishAll a [] = w := rfl

@[simp] theorem publishAll_cons (a : Nat) (ev : String × Event) (evs : List (String × Event)) :
    w.publishAll a (ev :: evs) = (w.setRf a ((w.rf a).publish ev.1 ev.2)).publishAll a evs :=
  rfl

theorem publishAll_append (a : Nat) (evs evs' : List (String × Event)) :
    w.publishAll a (evs ++ evs') = (w.publishAll a evs).publishAll a evs' :=
  List.foldl_append _ _ _ _

@[simp] theorem publishAll_flusher (a : Nat) (evs : List (String × Event)) :
    (w.publishAll a evs).flusher = w.flusher := by
  induction evs generalizing w <;> simp [*]

/-- Publishing appends the messages to pipeline `a` and changes no other pipeline. -/
@[simp] theorem rf_publishAll (a b : Nat) (evs : List (String × Event)) :
    (w.publishAll a evs).rf b =
      if a = b then { w.rf a with events := (w.rf a).events ++ evs } else w.rf b := by
  induction evs generalizing w with
  | nil => split <;> simp_all
  | cons ev evs ih => rw [publishAll_cons, ih]; by_cases h : a = b <;> simp [h, RedisFlusher.publish]

theorem flushRedis_dbs (a : Nat) : (w.flushRedis a).dbs = w.dbs := by
  suffices h : ∀ (ps : GoMap String RedisPipeline) (w : World),
      (ps.foldl (fun w kv => w.runPipeline kv.1 kv.2) w).dbs = w.dbs from h _ w
  intro ps
  induction ps with
  | nil => intro w; rfl
  | cons kv ps ih => intro w; exact ih _

end World

/-! ### Running a computation

Equations that run a computation of `M` from a given state, one step at a time: a bind runs
its first step and matches on the result. `simp` reduces such a match as soon as the step has
been evaluated to a result, so with these equations and the definitions of a program `simp`
executes the program call by value, normalising the state after each step. -/

section Run

variable {α β : Type} (s : World)

@[simp] theorem bind_run (x : M α) (f : α → M β) :
    (x >>= f) s = match x s with
      | .ok a s => f a s
      | .error e s => .error e s := by
  show EStateM.bind x f s = _
  simp only [EStateM.bind]
  cases x s <;> rfl

@[simp] theorem pure_run (a : α) : (pure a : M α) s = .ok a s := rfl

@[simp] theorem get_run : (get : M World) s = .ok s s := rfl

@[simp] theorem set_run (s' : World) : (set s' : M PUnit) s = .ok ⟨⟩ s' := rfl

@[simp] theorem modify_run (f : World → World) : (modify f : M PUnit) s = .ok ⟨⟩ (f s) := rfl

@[simp] theorem throw_run (e : Fault) : (throw e : M α) s = .error e s := rfl

@[simp] theorem tryCatch_run (x : M α) (h : Fault → M α) :
    (tryCatch x h) s = match x s with
      | .ok a s => .ok a s
      | .error e s => h e s := by
  show EStateM.tryCatch x h s = _
  simp only [EStateM.tryCatch]
  cases x s <;> rfl

@[simp] theorem map_run (f : α → β) (x : M α) :
    (f <$> x) s = match x s with
      | .ok a s => .ok (f a) s
      | .error e s => .error e s := by
  show EStateM.map f x s = _
  simp only [EStateM.map]
  cases x s <;> rfl

@[simp] theorem discard_run (x : M α) :
    (discard x : M PUnit) s = match x s with
      | .ok _ s => .ok ⟨⟩ s
      | .error e s => .error e s :=
  map_run s _ x

/-! The same equations in call-by-value form: a bind hands the result of its step to
`Result.andThen`, whose congruence rule lets `simp` rewrite only the step, so the rest of the
program is never looked into before its step has run. This is the form to run a program whose
step fails early: the form above would first simplify the whole rest of the program, only to
discard it. -/

/-- The rest of a program after a step: run it on the step's value and state, or pass the
step's panic on. -/
def Result.andThen (r : EStateM.Result Fault World α) (f : α → M β) :
    EStateM.Result Fault World β :=
  match r with
  | .ok a s => f a s
  | .error e s => .error e s

@[simp] theorem Result.andThen_ok (a : α) (f : α → M β) :
    Result.andThen (.ok a s) f = f a s := rfl

@[simp] theorem Result.andThen_error (e : Fault) (f : α → M β) :
    Result.andThen (.error e s : EStateM.Result Fault World α) f = .error e s := rfl

@[congr] theorem Result.andThen_congr {r r' : EStateM.Result Fault World α} (h : r = r')
    (f : α → M β) : Result.andThen r f = Result.andThen r' f := h ▸ rfl

theorem bind_andThen (x : M α) (f : α → M β) : (x >>= f) s = Result.andThen (x s) f :=
  (bind_run s x f).trans (by cases x s <;> rfl)

/-! The loops of the code, run from a state: one iteration, then the rest of the loop. Stated
with the state applied, so that `simp` unrolls a loop only when it is run. -/

@[simp] theorem forM_cons_run (f : α → M PUnit) (a : α) (l : List α) :
    (List.forM (a :: l) f) s = (f a >>= fun _ => List.forM l f) s := rfl

@[simp] theorem forM_nil_run (f : α → M PUnit) : (List.forM [] f) s = .ok ⟨⟩ s := rfl

@[simp] theorem foldlM_cons_run (f : β → α → M β) (b : β) (a : α) (l : List α) :
    (List.foldlM f b (a :: l)) s = (f b a >>= fun b => List.foldlM f b l) s := rfl

@[simp] theorem foldlM_nil_run (f : β → α → M β) (b : β) : (List.foldlM f b []) s = .ok b s := rfl

@[simp] theorem mapM_cons_run (f : α → M β) (a : α) (l : List α) :
    (List.mapM f (a :: l)) s = (do let b ← f a; let bs ← List.mapM f l; pure (b :: bs)) s := by
  rw [List.mapM_cons]

@[simp] theorem mapM_nil_run (f : α → M β) : (List.mapM f []) s = .ok [] s := rfl

/-! A run that returns, taken apart: a bind returned from both of its steps. -/

theorem bind_eq_ok {x : M α} {f : α → M β} {b : β} {s' : World} :
    (x >>= f) s = .ok b s' ↔ ∃ a s₁, x s = .ok a s₁ ∧ f a s₁ = .ok b s' := by
  rw [bind_run]; cases x s <;> simp [and_assoc]

end Run

/-! ### Frames

`Keeps view x`: from every state the computation `x` returns, and the part `view` of the world
is as it was. `Preserves view x` asks the second only of the runs that return, for a
computation that may panic. A program built from such steps keeps `view` too, and the lemmas
below build the frame of a program step by step, one per construct of its `do` block.
`Returns P x` says the same of the value returned. -/

section Frame

variable {α β γ : Type} (view : World → γ)

/-- `x` returns from every state and keeps `view`. -/
def Keeps (x : M α) : Prop :=
  ∀ w, ∃ a w', x w = .ok a w' ∧ view w' = view w

theorem keeps_pure (a : α) : Keeps view (pure a : M α) :=
  fun w => ⟨a, w, rfl, rfl⟩

theorem keeps_modify {f : World → World} (h : ∀ w, view (f w) = view w) :
    Keeps view (modify f : M PUnit) :=
  fun w => ⟨⟨⟩, f w, rfl, h w⟩

theorem Keeps.bind {x : M α} {f : α → M β} (hx : Keeps view x) (hf : ∀ a, Keeps view (f a)) :
    Keeps view (x >>= f) := fun w => by
  obtain ⟨a, w₁, h₁, e₁⟩ := hx w
  obtain ⟨b, w₂, h₂, e₂⟩ := hf a w₁
  exact ⟨b, w₂, by simp [h₁, h₂], e₂.trans e₁⟩

theorem keeps_forM {l : List α} {f : α → M PUnit} (h : ∀ a ∈ l, Keeps view (f a)) :
    Keeps view (l.forM f) := by
  induction l with
  | nil => exact keeps_pure view PUnit.unit
  | cons a l ih => exact (h a (.head _)).bind view fun _ => ih fun b hb => h b (.tail _ hb)

/-- Every run of `x` that returns leaves `view` as it was. Unlike `Keeps`, `x` may panic. -/
def Preserves (x : M α) : Prop :=
  ∀ ⦃w a w'⦄, x w = .ok a w' → view w' = view w

theorem Preserves.bind {x : M α} {f : α → M β} (hx : Preserves view x)
    (hf : ∀ a, Preserves view (f a)) : Preserves view (x >>= f) := by
  intro w b w' h
  obtain ⟨a, w₁, h₁, h₂⟩ := (bind_eq_ok w).1 h
  exact (hf a h₂).trans (hx h₁)

/-- Every value `x` returns satisfies `P`. -/
def Returns (P : α → Prop) (x : M α) : Prop :=
  ∀ ⦃w a w'⦄, x w = .ok a w' → P a

theorem returns_pure {P : α → Prop} {a : α} (h : P a) : Returns P (pure a : M α) := by
  rintro w _ _ ⟨⟩; exact h

theorem returns_throw (P : α → Prop) (e : Fault) : Returns P (throw e : M α) := by
  rintro w _ _ ⟨⟩

theorem returns_ite {P : α → Prop} {c : Prop} [Decidable c] {x y : M α} (hx : Returns P x)
    (hy : Returns P y) : Returns P (if c then x else y) := by
  split <;> assumption

theorem returns_bind {P : β → Prop} (x : M α) {f : α → M β} (hf : ∀ a, Returns P (f a)) :
    Returns P (x >>= f) := by
  intro w b w' h
  obtain ⟨a, w₁, -, h₂⟩ := (bind_eq_ok w).1 h
  exact hf a h₂

end Frame

/-! ### Primitive steps of the program -/

/-- Read an entity. -/
def getEntity (a : Nat) : M Entity :=
  return (← get).ent a

/-- Write an entity. -/
def setEntity (a : Nat) (e : Entity) : M Unit :=
  modify fun w => { w with ents := GoMap.insert w.ents a e }

/-- The registered schema of a type; an unregistered type has a `nil` schema, which the code
dereferences. -/
def getTableSchema (t : String) : M TableSchema := do
  match GoMap.find? (← get).engine.schemas t with
  | some s => return s
  | none => throw (.panic "invalid memory address or nil pointer dereference")

/-- Change the flusher's fields. -/
def modifyFlusher (f : Flusher → Flusher) : M Unit :=
  modify fun w => { w with flusher := f w.flusher }

/-- `getRedisFlusher`: the flusher's pipeline, else the engine's queued one, else a new one. -/
def getRedisFlusher : M Nat := do
  let w ← get
  match w.flusher.redisFlusher with
  | some a => return a
  | none =>
    match w.engine.afterCommitRedisFlusher with
    | some a =>
      set { w with flusher := { w.flusher with redisFlusher := some a } }
      return a
    | none =>
      set { w with flusher := { w.flusher with redisFlusher := some w.nextRf },
                   nextRf := w.nextRf + 1, rfs := GoMap.insert w.rfs w.nextRf RedisFlusher.empty }
      return w.nextRf

/-- `getRedisFlusher` always returns a pipeline. -/
theorem getRedisFlusher_ok (w : World) : ∃ a w₀, getRedisFlusher w = .ok a w₀ := by
  cases h₁ : w.flusher.redisFlusher <;> cases h₂ : w.engine.afterCommitRedisFlusher <;>
    simp [getRedisFlusher, h₁, h₂]

/-- After `getRedisFlusher` the flusher holds the pipeline it returned. -/
theorem getRedisFlusher_some {w w₀ : World} {a : Nat} (h : getRedisFlusher w = .ok a w₀) :
    w₀.flusher.redisFlusher = some a := by
  cases h₁ : w.flusher.redisFlusher <;> cases h₂ : w.engine.afterCommitRedisFlusher <;>
    simp [getRedisFlusher, h₁, h₂] at h <;> simp [← h.1, ← h.2, h₁]

/-- A flusher that holds a pipeline returns it and changes nothing. -/
theorem getRedisFlusher_of_some {w : World} {a : Nat} (h : w.flusher.redisFlusher = some a) :
    getRedisFlusher w = .ok a w := by
  simp [getRedisFlusher, h]

/-- Queue a change on the flusher's pipeline. -/
def onRedisFlusher (f : RedisFlusher → RedisFlusher) : M Unit := do
  let a ← getRedisFlusher
  modify fun w => w.setRf a (f (w.rf a))

theorem onRedisFlusher_run {w w₀ : World} {a : Nat} (h : getRedisFlusher w = .ok a w₀)
    (f : RedisFlusher → RedisFlusher) :
    onRedisFlusher f w = .ok ⟨⟩ (w₀.setRf a (f (w₀.rf a))) := by
  simp [onRedisFlusher, h]

/-- `Exec` on a pool. -/
def dbExec (pool : String) (sql : Sql) (args : List Value) : M ExecResult := do
  let w ← get
  let (p, r) := (w.db pool).exec sql args
  set (w.setDb pool p)
  liftExcept r

/-- `Begin` on a pool. -/
def dbBegin (pool : String) : M Unit :=
  modify fun w => w.setDb pool (w.db pool).begin

/-- `Commit` on a pool; a commit of a transaction applies the engine's after-commit queues
(modelled from the spec). -/
def dbCommit (pool : String) : M Unit :=
  modify fun w =>
    if (w.db pool).inTransaction then
      let w := w.setDb pool (w.db pool).commit
      let w := w.engine.afterCommitLocalCacheSets.foldl (fun w kv => w.localMSet kv.1 kv.2) w
      let w := match w.engine.afterCommitRedisFlusher with
        | some a => w.flushRedis a
        | none => w
      { w with engine := { w.engine with afterCommitLocalCacheSets := [],
                                         afterCommitRedisFlusher := none } }
    else w

/-- `Rollback` on a pool; a rollback of a transaction discards the after-commit queues. -/
def dbRollback (pool : String) : M Unit :=
  modify fun w =>
    if (w.db pool).inTransaction then
      { w.setDb pool (w.db pool).rollback with
        engine := { w.engine with afterCommitLocalCacheSets := [], afterCommitRedisFlusher := none } }
    else w

/-- A rollback touches no entity. -/
theorem dbRollback_keeps_ents (pool : String) : Keeps World.ents (dbRollback pool) :=
  keeps_modify _ fun w => by split <;> rfl

end Orm

import Orm.Cache.Lru
import Orm.Flush.State

/-!
# The local cache

`LocalCache` (`local_cache.go`) wraps one `lru.Cache` per pool. Every method takes the pool's
lock, runs its LRU calls, and, when the engine has a local-cache logger, logs one line with
the operation and the number of misses. The values are the code's: what `Set`, `MSet`,
`HMset` and the flush store, and the `ttlValue` that `GetSet` stores with its time.

What is proved:

* every operation keeps the LRU valid, so every run does (`run_valid`);
* the flush model keeps a local cache as a map without eviction (`World.localMSet`,
  `World.localRemove`); the real cache **approximates** that map: after the flush's sets and
  deletions every value it returns is the map's (`sound_localMSet`, `sound_localRemove`);
* `MGetFast` is `MGet` with a slice for a map: the same values, the same cache afterwards, the
  same log line (`mGetFast_eq_mGet`);
* `HMget` after `HMset` reads the fields just written (`hmGet_hmSet`);
* a second `GetSet` within the time-to-live returns the first one's value and never calls its
  provider (`getSet_getSet`).

The lock is not modelled: each method runs alone. `GetSet` reads the clock twice, once to
test the age and once to stamp the new value; both reads are `now`.
-/

namespace Orm

/-- A value in a local cache: one the code stores, or `GetSet`'s `ttlValue` with the time it
was stored at. -/
inductive LocalValue where
  | plain (v : CacheValue)
  | ttl (value : CacheValue) (time : Int)
  deriving DecidableEq, Repr

/-- One line of the local-cache logger: `message`, `operation`, `pool` and `misses`. -/
structure LocalLogLine where
  message : String
  operation : String
  pool : String
  misses : Int
  deriving DecidableEq, Repr

/-- A `LocalCache`: the pool's code, whether the engine has a local-cache logger, the LRU and
the lines logged so far. -/
structure LocalCache where
  code : String
  hasLogger : Bool
  lru : Lru String LocalValue
  log : List LocalLogLine

namespace LocalCache

variable (c : LocalCache)

/-- The panic of a type assertion on a cached value of another type. -/
def conversionPanic (target : String) : Fault :=
  .panic ("interface conversion: interface \x7b\x7d is not " ++ target)

/-- The cache with a log line for the call appended when the engine has a local-cache logger
(`fillLogFields`). -/
def logged (message operation : String) (misses : Int) : LocalCache :=
  if c.hasLogger then { c with log := c.log ++ [⟨message, operation, c.code, misses⟩] } else c

/-- The cache with another LRU. -/
def withLru (lru : Lru String LocalValue) : LocalCache :=
  { c with lru := lru }

/-- One `Get` of the LRU with its miss counted: the step of the loops of `MGet` and `MGetFast`. -/
def getCounted (acc : Nat × Lru String LocalValue) (key : String) :
    Option LocalValue × (Nat × Lru String LocalValue) :=
  let (value, lru) := acc.2.get key
  (value, (if value.isSome then acc.1 else acc.1 + 1, lru))

/-- `Get`: the LRU's value under the key, which a hit moves to the front, logged with its miss
count. -/
def get (key : String) : Option LocalValue × LocalCache :=
  let (value, lru) := c.lru.get key
  (value, (c.withLru lru).logged "[ORM][LOCAL][GET]" "get" (if value.isSome then 0 else 1))

/-- One iteration of `MGet`'s loop: `results[key] = value`. -/
def mGetStep (acc : GoMap String (Option LocalValue) × Nat × Lru String LocalValue)
    (key : String) : GoMap String (Option LocalValue) × Nat × Lru String LocalValue :=
  let (value, counted) := getCounted acc.2 key
  (GoMap.insert acc.1 key value, counted)

/-- `MGet`: the values by key, a miss as `nil`. -/
def mGet (keys : List String) : GoMap String (Option LocalValue) × LocalCache :=
  let (results, misses, lru) := keys.foldl mGetStep ([], 0, c.lru)
  (results, (c.withLru lru).logged "[ORM][LOCAL][MGET]" "mget" misses)

/-- One iteration of `MGetFast`'s loop: `results[i] = value`. -/
def mGetFastStep (acc : List (Option LocalValue) × Nat × Lru String LocalValue) (key : String) :
    List (Option LocalValue) × Nat × Lru String LocalValue :=
  let (value, counted) := getCounted acc.2 key
  (acc.1 ++ [value], counted)

/-- `MGetFast`: the values in the order of the keys, a miss as `nil`. -/
def mGetFast (keys : List String) : List (Option LocalValue) × LocalCache :=
  let (results, misses, lru) := keys.foldl mGetFastStep ([], 0, c.lru)
  (results, (c.withLru lru).logged "[ORM][LOCAL][MGET]" "mget" misses)

/-- `Set`; its log line carries the message of `MGet`. -/
def set (key : String) (value : LocalValue) : LocalCache :=
  (c.withLru (c.lru.add key value)).logged "[ORM][LOCAL][MGET]" "set" (-1)

/-- `MSet` of key-value pairs. -/
def mSet (pairs : List (String × LocalValue)) : LocalCache :=
  (c.withLru (pairs.foldl (fun lru kv => lru.add kv.1 kv.2) c.lru)).logged
    "[ORM][LOCAL][MSET]" "mset" (-1)

/-- One iteration of `HMget`'s loop over the fields: a missing key reads `nil`; a cached hash is
read at the field; any other value panics at the type assertion. -/
def hashFieldStep (value : Option LocalValue) (acc : GoMap String (Option Value) × Nat)
    (field : String) : Except Fault (GoMap String (Option Value) × Nat) :=
  match value with
  | none => .ok (GoMap.insert acc.1 field none, acc.2 + 1)
  | some (.plain (.hash m)) =>
    match GoMap.find? m field with
    | some v => .ok (GoMap.insert acc.1 field (some v), acc.2)
    | none => .ok (GoMap.insert acc.1 field none, acc.2 + 1)
  | some _ => .error (conversionPanic "map[string]interface \x7b\x7d")

/-- `HMget`'s loop: the fields read, and the misses. -/
def hashFields (value : Option LocalValue) (fields : List String) :
    Except Fault (GoMap String (Option Value) × Nat) :=
  fields.foldlM (hashFieldStep value) ([], 0)

/-- `HMget`: one `Get` of the key, then its hash's fields. -/
def hmGet (key : String) (fields : List String) :
    Except Fault (GoMap String (Option Value)) × LocalCache :=
  let (value, lru) := c.lru.get key
  match hashFields value fields with
  | .ok (results, misses) =>
    (.ok results, (c.withLru lru).logged "[ORM][LOCAL][HMGET]" "hmget" misses)
  | .error f => (.error f, c.withLru lru)

/-- `HMset`: one `Get` of the key; a missing key gets a new hash, which the fields are then
written into; a cached hash is written into where it stands; any other value panics at the type
assertion, once there is a field to write. -/
def hmSet (key : String) (fields : GoMap String Value) : Except Fault Unit × LocalCache :=
  let (value, lru) := c.lru.get key
  let done (lru : Lru String LocalValue) : Except Fault Unit × LocalCache :=
    (.ok (), (c.withLru lru).logged "[ORM][LOCAL][HMSET]" "hmset" (-1))
  match value with
  | none => done (lru.add key (.plain (.hash (GoMap.insertAll [] fields))))
  | some (.plain (.hash m)) => done (lru.replace key (.plain (.hash (GoMap.insertAll m fields))))
  | some _ =>
    if fields.isEmpty then done lru
    else (.error (conversionPanic "map[string]interface \x7b\x7d"), c.withLru lru)

/-- `Remove`: each key removed from the LRU, logged. -/
def remove (keys : List String) : LocalCache :=
  (c.withLru (keys.foldl Lru.remove c.lru)).logged "[ORM][LOCAL][REMOVE]" "remove" (-1)

/-- `GetObjectsCount`: the number of entries of the LRU. -/
def getObjectsCount : Nat :=
  c.lru.len

/-- `Clear`: the LRU emptied, logged. -/
def clear : LocalCache :=
  (c.withLru c.lru.clear).logged "[ORM][LOCAL][CLEAR]" "clear" (-1)

/-- `GetSet(key, ttl, provider)` at time `now`, the provider returning `provided`: a cached
`ttlValue` not older than `ttl` seconds is returned, else the provider's value is stored with
the time and returned. A cached value of another type panics at the type assertion. -/
def getSet (key : String) (ttl : Int) (provided : CacheValue) (now : Int) :
    Except Fault CacheValue × LocalCache :=
  let (value, c) := c.get key
  let store : Except Fault CacheValue × LocalCache := (.ok provided, c.set key (.ttl provided now))
  match value with
  | some (.ttl v time) => if now - time ≤ ttl then (.ok v, c) else store
  | some (.plain _) => (.error (conversionPanic "orm.ttlValue"), c)
  | none => store

@[simp] theorem lru_logged (message operation : String) (misses : Int) :
    (c.logged message operation misses).lru = c.lru := by
  unfold logged; split <;> rfl

@[simp] theorem code_logged (message operation : String) (misses : Int) :
    (c.logged message operation misses).code = c.code := by
  unfold logged; split <;> rfl

@[simp] theorem lru_withLru (lru : Lru String LocalValue) : (c.withLru lru).lru = lru := rfl

@[simp] theorem code_withLru (lru : Lru String LocalValue) : (c.withLru lru).code = c.code := rfl

/-! ### The loops of `MGet` and `MGetFast` -/

/-- The keys of a list that a cache does not hold. -/
def misses (l : Lru String LocalValue) (keys : List String) : Nat :=
  (keys.filter fun k => (l.lookup k).isNone).length

/-- The LRU after one `Get` per key. -/
def getAll (l : Lru String LocalValue) (keys : List String) : Lru String LocalValue :=
  keys.foldl (fun l k => (l.get k).2) l

theorem getCounted_eq (n : Nat) (l : Lru String LocalValue) (key : String) :
    getCounted (n, l) key =
      (l.lookup key, (if (l.lookup key).isSome then n else n + 1, (l.get key).2)) := by
  simp only [getCounted, ← Lru.get_fst]

theorem lookup_get_eq (l : Lru String LocalValue) (k : String) : (l.get k).2.lookup = l.lookup :=
  funext (Lru.lookup_get l k)

@[simp] theorem misses_get (l : Lru String LocalValue) (k : String) (keys : List String) :
    misses (l.get k).2 keys = misses l keys := by
  simp [misses]

theorem misses_cons (l : Lru String LocalValue) (k : String) (keys : List String) :
    misses l (k :: keys) = (if (l.lookup k).isSome then 0 else 1) + misses l keys := by
  cases h : l.lookup k <;> simp [misses, List.filter_cons, h, Nat.add_comm]

/-- `MGet`'s loop: each key's value is the one the cache held before the loop, since a `Get`
moves an entry but never changes a value. -/
theorem foldl_mGetStep (keys : List String) : ∀ (r : GoMap String (Option LocalValue)) (n : Nat)
    (l : Lru String LocalValue), keys.foldl mGetStep (r, n, l) =
      (keys.foldl (fun r k => GoMap.insert r k (l.lookup k)) r, n + misses l keys, getAll l keys) := by
  induction keys with
  | nil => intro r n l; simp [misses, getAll]
  | cons k keys ih =>
    intro r n l
    rw [List.foldl_cons, mGetStep, getCounted_eq]
    dsimp only
    rw [ih, lookup_get_eq, misses_get, misses_cons]
    refine Prod.ext rfl (Prod.ext ?_ rfl)
    split <;> simp [*]; omega

/-- `MGetFast`'s loop, read off the same way. -/
theorem foldl_mGetFastStep (keys : List String) : ∀ (r : List (Option LocalValue)) (n : Nat)
    (l : Lru String LocalValue), keys.foldl mGetFastStep (r, n, l) =
      (r ++ keys.map l.lookup, n + misses l keys, getAll l keys) := by
  induction keys with
  | nil => intro r n l; simp [misses, getAll]
  | cons k keys ih =>
    intro r n l
    rw [List.foldl_cons, mGetFastStep, getCounted_eq]
    dsimp only
    rw [ih, lookup_get_eq, misses_get, misses_cons]
    refine Prod.ext (by simp) (Prod.ext ?_ rfl)
    split <;> simp [*]; omega

theorem lru_mGet (keys : List String) : (c.mGet keys).2.lru = getAll c.lru keys := by
  simp [mGet, foldl_mGetStep]

theorem lru_mGetFast (keys : List String) : (c.mGetFast keys).2.lru = getAll c.lru keys := by
  simp [mGetFast, foldl_mGetFastStep]

/-- **`MGetFast` agrees with `MGet`**: key by key it returns what `MGet` returns for the key,
and it leaves the cache, its order and its log as `MGet` does. -/
theorem mGetFast_eq_mGet (keys : List String) :
    c.mGetFast keys = (keys.map fun k => GoMap.findD (c.mGet keys).1 k none, (c.mGet keys).2) := by
  simp only [mGetFast, mGet, foldl_mGetFastStep, foldl_mGetStep]
  refine Prod.ext ?_ rfl
  simp only [List.nil_append]
  exact List.map_congr_left fun k hk => by simp [GoMap.findD, GoMap.find?_foldl_insert, hk]

/-! ### Every call keeps the LRU valid -/

theorem valid_getAll {l : Lru String LocalValue} (h : l.Valid) (keys : List String) :
    (getAll l keys).Valid := by
  induction keys generalizing l with
  | nil => exact h
  | cons k keys ih => exact ih (h.get k)

theorem valid_foldl_add {l : Lru String LocalValue} (h : l.Valid)
    (pairs : List (String × LocalValue)) : (pairs.foldl (fun l kv => l.add kv.1 kv.2) l).Valid := by
  induction pairs generalizing l with
  | nil => exact h
  | cons kv pairs ih => exact ih (h.add kv.1 kv.2)

theorem valid_foldl_remove {l : Lru String LocalValue} (h : l.Valid) (keys : List String) :
    (keys.foldl Lru.remove l).Valid := by
  induction keys generalizing l with
  | nil => exact h
  | cons k keys ih => exact ih (h.remove k)

/-- `Get` returns what the cache holds and moves it to the front. -/
theorem get_eq (key : String) :
    c.get key = (c.lru.lookup key, ((c.withLru (c.lru.get key).2).logged "[ORM][LOCAL][GET]" "get"
      (if (c.lru.lookup key).isSome then 0 else 1))) := by
  simp only [get, ← Lru.get_fst]

theorem valid_get {c : LocalCache} (h : c.lru.Valid) (key : String) : (c.get key).2.lru.Valid := by
  rw [get_eq]; simpa using h.get key

theorem valid_set {c : LocalCache} (h : c.lru.Valid) (key : String) (v : LocalValue) :
    (c.set key v).lru.Valid := by
  simpa [set] using h.add key v

theorem valid_hmSet {c : LocalCache} (h : c.lru.Valid) (key : String) (fields : GoMap String Value) :
    (c.hmSet key fields).2.lru.Valid := by
  have hg := h.get key
  unfold hmSet
  dsimp only
  split
  · simpa using hg.add _ _
  · simpa using hg.replace _ _
  · split <;> simpa using hg

theorem valid_hmGet {c : LocalCache} (h : c.lru.Valid) (key : String) (fields : List String) :
    (c.hmGet key fields).2.lru.Valid := by
  unfold hmGet
  dsimp only
  split <;> simpa using h.get key

theorem valid_getSet {c : LocalCache} (h : c.lru.Valid) (key : String) (ttl : Int)
    (provided : CacheValue) (now : Int) : (c.getSet key ttl provided now).2.lru.Valid := by
  have hg := valid_get h key
  unfold getSet
  dsimp only
  split
  · split
    · exact hg
    · exact valid_set hg _ _
  · exact hg
  · exact valid_set hg _ _

end LocalCache

/-- A call of the local cache's API. -/
inductive LocalOp where
  | get (key : String)
  | mGet (keys : List String)
  | mGetFast (keys : List String)
  | set (key : String) (value : LocalValue)
  | mSet (pairs : List (String × LocalValue))
  | hmGet (key : String) (fields : List String)
  | hmSet (key : String) (fields : GoMap String Value)
  | remove (keys : List String)
  | getObjectsCount
  | clear
  | getSet (key : String) (ttl : Int) (provided : CacheValue) (now : Int)

/-- The cache after a call, whatever the call returned. -/
def LocalOp.apply (c : LocalCache) : LocalOp → LocalCache
  | .get key => (c.get key).2
  | .mGet keys => (c.mGet keys).2
  | .mGetFast keys => (c.mGetFast keys).2
  | .set key value => c.set key value
  | .mSet pairs => c.mSet pairs
  | .hmGet key fields => (c.hmGet key fields).2
  | .hmSet key fields => (c.hmSet key fields).2
  | .remove keys => c.remove keys
  | .getObjectsCount => c
  | .clear => c.clear
  | .getSet key ttl provided now => (c.getSet key ttl provided now).2

/-- The cache after a run of calls. -/
def LocalCache.run (c : LocalCache) (ops : List LocalOp) : LocalCache :=
  ops.foldl LocalOp.apply c

namespace LocalCache

theorem valid_apply {c : LocalCache} (h : c.lru.Valid) : ∀ op, (LocalOp.apply c op).lru.Valid
  | .get key => valid_get h key
  | .mGet keys => (lru_mGet c keys) ▸ valid_getAll h keys
  | .mGetFast keys => (lru_mGetFast c keys) ▸ valid_getAll h keys
  | .set key value => valid_set h key value
  | .mSet pairs => by simpa [LocalOp.apply, mSet] using valid_foldl_add h pairs
  | .hmGet key fields => valid_hmGet h key fields
  | .hmSet key fields => valid_hmSet h key fields
  | .remove keys => by simpa [LocalOp.apply, remove] using valid_foldl_remove h keys
  | .getObjectsCount => h
  | .clear => by simpa [LocalOp.apply, clear] using Lru.valid_clear c.lru
  | .getSet key ttl provided now => valid_getSet h key ttl provided now

/-- **Every run of the local cache keeps its LRU valid**: whatever calls are made, the keys
are distinct and a bounded cache never holds more entries than its bound. -/
theorem run_valid (ops : List LocalOp) : ∀ {c : LocalCache}, c.lru.Valid → (c.run ops).lru.Valid := by
  induction ops with
  | nil => exact id
  | cons op ops ih => exact fun h => ih (valid_apply h op)

/-- A cache bounded at two entries stays valid through sets, a `GetSet`, an `HMset` that evicts
and a removal. -/
theorem run_valid_bounded :
    (LocalCache.mk "default" false (Lru.new 2) []).lru.Valid ∧
      ((LocalCache.mk "default" false (Lru.new 2) []).run
        [.set "a" (.plain .nil), .getSet "b" 60 .nil 0, .hmSet "c" [("f", .str "1")],
          .remove ["a"], .getObjectsCount]).lru.Valid :=
  ⟨Lru.valid_new 2, run_valid _ (Lru.valid_new 2)⟩

end LocalCache

/-! ### The flush's local caches

The flush writes a local cache with `MSet` and `Remove` (`World.localMSet`,
`World.localRemove`), and the model of the flush keeps the cache as a map. -/

/-- The flush's local cache as a map of the cache's values. -/
def plainMap (m : GoMap String CacheValue) : GoMap String LocalValue :=
  m.map fun p => (p.1, .plain p.2)

@[simp] theorem plainMap_cons (p : String × CacheValue) (m : GoMap String CacheValue) :
    plainMap (p :: m) = (p.1, .plain p.2) :: plainMap m := rfl

@[simp] theorem find?_plainMap (m : GoMap String CacheValue) (k : String) :
    GoMap.find? (plainMap m) k = (GoMap.find? m k).map .plain := by
  induction m with
  | nil => rfl
  | cons p m ih => by_cases h : p.1 = k <;> simp_all [GoMap.find?, plainMap]

theorem find?_plainMap_insert (m : GoMap String CacheValue) (k : String) (v : CacheValue)
    (k' : String) : GoMap.find? (GoMap.insert (plainMap m) k (.plain v)) k' =
      GoMap.find? (plainMap (GoMap.insert m k v)) k' := by
  simp only [find?_plainMap, GoMap.find?_insert]; split <;> rfl

theorem find?_plainMap_erase (m : GoMap String CacheValue) (k k' : String) :
    GoMap.find? (GoMap.erase (plainMap m) k) k' = GoMap.find? (plainMap (GoMap.erase m k)) k' := by
  simp only [find?_plainMap, GoMap.find?_erase]; split <;> rfl

@[simp] theorem World.localCache_localMSet (w : World) (code code' : String)
    (pairs : List (String × CacheValue)) : (w.localMSet code pairs).localCache code' =
      if code = code' then GoMap.insertAll (w.localCache code) pairs else w.localCache code' := by
  simp [World.localMSet, World.localCache]

@[simp] theorem World.localCache_localRemove (w : World) (code code' : String)
    (keys : List String) : (w.localRemove code keys).localCache code' =
      if code = code' then keys.foldl GoMap.erase (w.localCache code) else w.localCache code' := by
  simp [World.localRemove, World.localCache]

namespace LocalCache

theorem sound_foldl_add {l : Lru String LocalValue} {m : GoMap String CacheValue} (hv : l.Valid)
    (hs : l.Sound (plainMap m)) (pairs : List (String × CacheValue)) :
    ((plainMap pairs).foldl (fun l kv => l.add kv.1 kv.2) l).Sound
      (plainMap (GoMap.insertAll m pairs)) := by
  induction pairs generalizing l m with
  | nil => exact hs
  | cons kv pairs ih =>
    exact ih (hv.add _ _) ((hs.add hv kv.1 (.plain kv.2)).congr (find?_plainMap_insert m _ _))

theorem sound_foldl_remove {l : Lru String LocalValue} {m : GoMap String CacheValue}
    (hs : l.Sound (plainMap m)) (keys : List String) :
    (keys.foldl Lru.remove l).Sound (plainMap (keys.foldl GoMap.erase m)) := by
  induction keys generalizing l m with
  | nil => exact hs
  | cons k keys ih => exact ih ((hs.remove k).congr (find?_plainMap_erase m k))

/-- **The local cache never returns a value the flush's map does not hold**: if every value
the cache holds is the map's, then so it is after the flush's `MSet` and after its `Remove`,
although `MSet` may evict entries the map keeps. -/
theorem sound_localMSet_localRemove {c : LocalCache} {w : World} (hv : c.lru.Valid)
    (hs : c.lru.Sound (plainMap (w.localCache c.code))) (pairs : List (String × CacheValue))
    (keys : List String) :
    (c.mSet (plainMap pairs)).lru.Sound (plainMap ((w.localMSet c.code pairs).localCache c.code)) ∧
      (c.remove keys).lru.Sound (plainMap ((w.localRemove c.code keys).localCache c.code)) := by
  simp only [mSet, remove, lru_logged, lru_withLru, World.localCache_localMSet,
    World.localCache_localRemove, if_true]
  exact ⟨sound_foldl_add hv hs pairs, sound_foldl_remove hs keys⟩

/-- A cache bounded at two entries that holds the flush's map; its `MSet` of two more keys
evicts the entry it held. -/
theorem sound_localMSet_localRemove_bounded :
    let c : LocalCache := ⟨"default", false, ⟨2, [("a", .plain (.row [.str "x"]))]⟩, []⟩
    let w : World := ⟨⟨[], false, [], [], none⟩, Flusher.empty, [], 0, [], 0, [],
      [("default", [("a", .row [.str "x"])])], [], []⟩
    c.lru.Valid ∧ c.lru.Sound (plainMap (w.localCache c.code)) ∧
      (c.mSet (plainMap [("b", .row [.str "y"]), ("c", .row [.str "z"])])).lru.Sound
          (plainMap ((w.localMSet c.code [("b", .row [.str "y"]), ("c", .row [.str "z"])]).localCache c.code)) ∧
        (c.remove ["a"]).lru.Sound (plainMap ((w.localRemove c.code ["a"]).localCache c.code)) :=
  have hv : Lru.Valid ⟨2, [("a", LocalValue.plain (.row [.str "x"]))]⟩ := ⟨by decide, by decide⟩
  have hs : Lru.Sound ⟨2, [("a", LocalValue.plain (.row [.str "x"]))]⟩ _ := Lru.Exact.sound fun _ => rfl
  ⟨hv, hs, sound_localMSet_localRemove hv hs _ _⟩

/-! ### `HMset`, then `HMget` -/

/-- `HMget`'s loop over a cached hash reads each field of the hash. -/
theorem foldlM_hashFieldStep (m : Bind) (fields : List String) :
    ∀ acc, ∃ n, fields.foldlM (hashFieldStep (some (.plain (.hash m)))) acc =
      .ok (fields.foldl (fun r f => GoMap.insert r f (GoMap.find? m f)) acc.1, n) := by
  induction fields with
  | nil => exact fun acc => ⟨acc.2, rfl⟩
  | cons f fields ih =>
    intro acc
    have step : ∃ n, hashFieldStep (some (.plain (.hash m))) acc f =
        .ok (GoMap.insert acc.1 f (GoMap.find? m f), n) := by
      cases h : GoMap.find? m f <;> simp [hashFieldStep, h]
    obtain ⟨n, hn⟩ := step
    obtain ⟨n', hn'⟩ := ih (GoMap.insert acc.1 f (GoMap.find? m f), n)
    exact ⟨n', by rw [List.foldlM_cons, hn, except_bind_ok, hn', List.foldl_cons]⟩

/-- `HMget` of a key the cache holds a hash under reads the hash. -/
theorem hmGet_of_lookup {c : LocalCache} {key : String} {m : Bind}
    (h : c.lru.lookup key = some (.plain (.hash m))) (fields : List String) :
    (c.hmGet key fields).1 = .ok (fields.foldl (fun r f => GoMap.insert r f (GoMap.find? m f)) []) := by
  obtain ⟨n, hn⟩ := foldlM_hashFieldStep m fields ([], 0)
  simp only [hmGet, Lru.get_fst, h, hashFields, hn]

/-- After an `HMset` that writes a field, the key holds a hash with the fields written into it. -/
theorem lookup_hmSet {c : LocalCache} {key : String} {fields : GoMap String Value}
    (h : (c.hmSet key fields).1 = .ok ()) (hf : fields ≠ []) :
    ∃ m, (c.hmSet key fields).2.lru.lookup key = some (.plain (.hash (GoMap.insertAll m fields))) := by
  rcases hv : c.lru.lookup key with _ | ((_ | _ | m) | _) <;>
    simp [hmSet, hv, hf] at h ⊢ <;> exact ⟨_, rfl⟩

/-- **`HMget` reads what `HMset` wrote**: after an `HMset` that did not panic, `HMget` of the
same key does not panic either, and it reads each field written at its last value. -/
theorem hmGet_hmSet {c : LocalCache} {key : String} {fields : GoMap String Value}
    (h : (c.hmSet key fields).1 = .ok ()) (fs : List String)
    (hfs : ∀ f ∈ fs, f ∈ GoMap.keys fields) :
    ∃ results, ((c.hmSet key fields).2.hmGet key fs).1 = .ok results ∧
      ∀ f ∈ fs, GoMap.find? results f = some (GoMap.find? fields.reverse f) := by
  by_cases hf : fields = []
  case pos =>
    subst hf
    obtain rfl : fs = [] := List.eq_nil_iff_forall_not_mem.2 fun f hm => by
      simpa [GoMap.keys] using hfs f hm
    exact ⟨[], rfl, by simp⟩
  case neg =>
    obtain ⟨m, hm⟩ := lookup_hmSet h hf
    refine ⟨_, hmGet_of_lookup hm fs, fun f hfm => ?_⟩
    have hk : GoMap.has fields.reverse f := (GoMap.has_iff _ _).2 (by
      simpa [GoMap.keys] using hfs f hfm)
    obtain ⟨v, hv⟩ := Option.isSome_iff_exists.1 hk
    rw [GoMap.find?_foldl_insert, if_pos hfm, GoMap.find?_insertAll, hv]
    rfl

/-- A new hash of two fields, read back at one of them. -/
theorem hmGet_hmSet_new :
    let c : LocalCache := ⟨"default", false, Lru.new 10, []⟩
    (c.hmSet "h" [("a", .str "1"), ("b", .u64 2)]).1 = .ok () ∧
      (∀ f ∈ ["a"], f ∈ GoMap.keys [("a", Value.str "1"), ("b", .u64 2)]) ∧
      ∃ results, ((c.hmSet "h" [("a", .str "1"), ("b", .u64 2)]).2.hmGet "h" ["a"]).1 = .ok results ∧
        ∀ f ∈ ["a"], GoMap.find? results f =
          some (GoMap.find? [("a", Value.str "1"), ("b", .u64 2)].reverse f) :=
  have hfs : ∀ f ∈ ["a"], f ∈ GoMap.keys [("a", Value.str "1"), ("b", .u64 2)] := by decide
  ⟨rfl, hfs, hmGet_hmSet (by rfl) ["a"] hfs⟩

/-! ### `GetSet`, twice -/

/-- A `GetSet` that finds a `ttlValue` not older than its time-to-live returns it. -/
theorem getSet_of_lookup {c : LocalCache} {key : String} {v : CacheValue} {t ttl now : Int}
    (h : c.lru.lookup key = some (.ttl v t)) (ht : now - t ≤ ttl) (provided : CacheValue) :
    (c.getSet key ttl provided now).1 = .ok v := by
  simp [getSet, get_eq, h, ht]

/-- After a `GetSet` that returned a value, the key holds that value with a time at which it was
fresh: the time of this call, or one not older than the time-to-live then. -/
theorem lookup_getSet {c : LocalCache} {key : String} {ttl now : Int} {provided v : CacheValue}
    (h : (c.getSet key ttl provided now).1 = .ok v) :
    ∃ t, (t = now ∨ now - t ≤ ttl) ∧
      (c.getSet key ttl provided now).2.lru.lookup key = some (.ttl v t) := by
  rcases hv : c.lru.lookup key with _ | (_ | ⟨u, t⟩)
  case none =>
    refine ⟨now, .inl rfl, ?_⟩
    simp_all [getSet, get_eq, set]
  case some.plain => simp [getSet, get_eq, hv] at h
  case some.ttl =>
    by_cases ht : now - t ≤ ttl
    · refine ⟨t, .inr ht, ?_⟩
      simp_all [getSet, get_eq]
    · refine ⟨now, .inl rfl, ?_⟩
      simp [getSet, get_eq, hv, ht, set] at h ⊢
      exact h ▸ rfl

/-- **A second `GetSet` within the time-to-live hits**: it returns the first one's value, and
not its own provider's, whenever it runs no later than the time-to-live after the value's
time. -/
theorem getSet_getSet {c : LocalCache} {key : String} {ttl now₁ : Int} {p₁ v : CacheValue}
    (h : (c.getSet key ttl p₁ now₁).1 = .ok v) :
    ∃ t, (t = now₁ ∨ now₁ - t ≤ ttl) ∧ ∀ p₂ now₂, now₂ - t ≤ ttl →
      ((c.getSet key ttl p₁ now₁).2.getSet key ttl p₂ now₂).1 = .ok v := by
  obtain ⟨t, ht, hl⟩ := lookup_getSet h
  exact ⟨t, ht, fun p₂ _ hn => getSet_of_lookup hl hn p₂⟩

/-- An empty cache: the first `GetSet` calls its provider at time 100, and a second one at
time 130 with a time-to-live of 60 seconds returns the same value. -/
theorem getSet_getSet_empty :
    let c : LocalCache := ⟨"default", false, Lru.new 10, []⟩
    (c.getSet "k" 60 (.row [.str "first"]) 100).1 = .ok (.row [.str "first"]) ∧
      ∃ t, (t = 100 ∨ 100 - t ≤ 60) ∧ ∀ p₂ now₂, now₂ - t ≤ 60 →
        ((c.getSet "k" 60 (.row [.str "first"]) 100).2.getSet "k" 60 p₂ now₂).1 =
          .ok (.row [.str "first"]) :=
  ⟨rfl, getSet_getSet (by rfl)⟩

end LocalCache

end Orm

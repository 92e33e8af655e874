import Orm.Core.Redis
import Orm.Consumer.Indexer

/-!
# The registry

`Registry` (`registry.go`) collects what an application registers before `Validate`: entity
types, search indexes, enums, local cache pools and Redis streams. Each register call writes
maps; `RegisterRedisStream` panics on a name already registered, and `RegisterEnum` reads
`values[0]`.

What is proved: every registered stream has its consumer groups stored under its pool
(`StreamsRecorded`); every register call keeps this, so every run of them does
(`run_streamsRecorded`).

The pools that hold a connection (MySQL, ClickHouse, Redis, Elastic) and `RegisterEnumStruct`,
whose `initEnum` is not in src, are left out. A nil map and an empty one read alike, so the maps
that `RegisterRedisStream` makes when the groups map is nil are made when it is empty.
-/

namespace Orm

/-- The stream the search indexer consumer reads. -/
def redisSearchIndexerChannelName : String := "orm-redis-search-channel"

/-- The consumer group `Validate` registers its streams with. -/
def asyncConsumerGroupName : String := "orm-async-consumer"

/-- A local cache pool as registered, `localCachePoolConfig`: its code and its size. -/
structure LocalCachePoolConfig where
  code : String
  limit : Int
  deriving DecidableEq, Repr

/-- The `enum` that `RegisterEnum` builds. -/
structure Enum where
  fields : List String
  defaultValue : String
  mapping : GoMap String String
  deriving DecidableEq, Repr

/-- `Registry`, with the maps the modelled calls write. An entity type is its name, and a search
index is registered with its `RedisPool`. -/
structure Registry where
  localCachePools : GoMap String LocalCachePoolConfig
  entities : GoMap String String
  redisSearchIndices : GoMap String (GoMap String RedisSearchIndex)
  enums : GoMap String Enum
  defaultEncoding : String
  /-- Pool to stream to the set of its consumer groups. -/
  redisStreamGroups : GoMap String (GoMap String (GoMap String Bool))
  /-- Stream to its pool. -/
  redisStreamPools : GoMap String String

namespace Registry

/-- `NewRegistry`: nothing registered. -/
def new : Registry := ⟨[], [], [], [], "", [], []⟩

variable (r : Registry)

/-- `SetDefaultEncoding`: the encoding stored. -/
def setDefaultEncoding (encoding : String) : Registry :=
  { r with defaultEncoding := encoding }

/-- `RegisterEntity`: each type under its name. -/
def registerEntity (types : List String) : Registry :=
  { r with entities := types.foldl (fun m t => GoMap.insert m t t) r.entities }

/-- `RegisterRedisSearchIndex`: each index, given with its `RedisPool`, under the pool and its
name. -/
def registerRedisSearchIndex (indices : List (String × RedisSearchIndex)) : Registry :=
  let add (m : GoMap String (GoMap String RedisSearchIndex)) (i : String × RedisSearchIndex) :=
    GoMap.insert m i.1 (GoMap.insert (GoMap.findD m i.1 []) i.2.name i.2)
  { r with redisSearchIndices := indices.foldl add r.redisSearchIndices }

/-- The `mapping` of `RegisterEnum`: each value to itself. -/
def enumMapping (values : List String) : GoMap String String :=
  values.foldl (fun m name => GoMap.insert m name name) []

/-- `RegisterEnum(code, values, defaultValue...)`: `values[0]` is read before the default, so
an empty list panics whatever the default. -/
def registerEnum (code : String) (values defaultValue : List String) : Except Fault Registry :=
  match values with
  | [] => .error (.panic "index out of range")
  | first :: _ =>
    let e : Enum := ⟨values, defaultValue.headD first, enumMapping values⟩
    .ok { r with enums := GoMap.insert r.enums code e }

/-- `RegisterLocalCache(size, code...)`: the pool `default` unless a code is given. -/
def registerLocalCache (size : Int) (code : List String) : Registry :=
  let dbCode := code.headD "default"
  { r with localCachePools := GoMap.insert r.localCachePools dbCode ⟨dbCode, size⟩ }

/-- The maps of `RegisterRedisStream`, made anew when the groups map is nil. -/
def streamMaps : Registry :=
  if r.redisStreamGroups.isEmpty then { r with redisStreamGroups := [], redisStreamPools := [] }
  else r

/-- `RegisterRedisStream(name, redisPool, groups)`: panics on a name already registered;
otherwise the stream is stored under its pool with its groups. -/
def registerRedisStream (name redisPool : String) (groups : List String) :
    Except Fault Registry :=
  let r := r.streamMaps
  if GoMap.has r.redisStreamPools name then
    .error (.panic ("stream with name " ++ name ++ " aleady exists"))
  else
    let groupsMap := groups.foldl (fun m group => GoMap.insert m group true) []
    .ok { r with
      redisStreamPools := GoMap.insert r.redisStreamPools name redisPool
      redisStreamGroups := GoMap.insert r.redisStreamGroups redisPool
        (GoMap.insert (GoMap.findD r.redisStreamGroups redisPool []) name groupsMap) }

/-! ### Registered streams -/

/-- Every registered stream has its consumer groups stored under its pool. -/
def StreamsRecorded : Prop :=
  ∀ name pool, GoMap.find? r.redisStreamPools name = some pool →
    GoMap.has (GoMap.findD r.redisStreamGroups pool []) name

theorem streamsRecorded_new : new.StreamsRecorded := by
  intro _ _ h; simp [new] at h

/-- With the streams recorded, the groups map is empty only when no stream is registered, so
making the maps anew changes nothing. -/
theorem StreamsRecorded.streamMaps {r : Registry} (h : r.StreamsRecorded) : r.streamMaps = r := by
  unfold Registry.streamMaps
  split
  case isTrue hg =>
    have hp : r.redisStreamPools = [] := by
      cases hps : r.redisStreamPools with
      | nil => rfl
      | cons p ps =>
        have := h p.1 p.2 (by simp [hps, GoMap.find?])
        simp [List.isEmpty_iff.1 hg, GoMap.findD, GoMap.has] at this
    cases r; simp_all [List.isEmpty_iff]
  case isFalse => rfl

/-- The registry after `RegisterRedisStream` of a new name. -/
theorem registerRedisStream_of_not_has {r : Registry} (h : r.StreamsRecorded)
    {name : String} (hn : GoMap.has r.redisStreamPools name = false) (redisPool : String)
    (groups : List String) :
    r.registerRedisStream name redisPool groups = .ok { r with
      redisStreamPools := GoMap.insert r.redisStreamPools name redisPool
      redisStreamGroups := GoMap.insert r.redisStreamGroups redisPool
        (GoMap.insert (GoMap.findD r.redisStreamGroups redisPool []) name
          (groups.foldl (fun m group => GoMap.insert m group true) [])) } := by
  simp only [registerRedisStream, h.streamMaps, hn]; rfl

theorem StreamsRecorded.registerRedisStream {r r' : Registry} (h : r.StreamsRecorded)
    {name redisPool : String} {groups : List String}
    (hr : r.registerRedisStream name redisPool groups = .ok r') : r'.StreamsRecorded := by
  cases hn : GoMap.has r.redisStreamPools name
  case true => simp [Registry.registerRedisStream, h.streamMaps, hn] at hr
  case false =>
    rw [registerRedisStream_of_not_has h hn] at hr
    cases hr
    intro n p hp
    rw [GoMap.find?_insert] at hp
    by_cases hnn : name = n
    · subst hnn
      obtain rfl : redisPool = p := by simpa using hp
      simp
    · rw [if_neg hnn] at hp
      by_cases hpp : redisPool = p
      · subst hpp; simp [hnn, h n _ hp]
      · simp [hpp, h n p hp]

end Registry

/-! ### Runs of register calls -/

/-- A register call. -/
inductive RegOp where
  | setDefaultEncoding (encoding : String)
  | registerEntity (types : List String)
  | registerRedisSearchIndex (indices : List (String × RedisSearchIndex))
  | registerEnum (code : String) (values defaultValue : List String)
  | registerLocalCache (size : Int) (code : List String)
  | registerRedisStream (name redisPool : String) (groups : List String)

/-- The registry after a call, or the call's panic. -/
def RegOp.apply (r : Registry) : RegOp → Except Fault Registry
  | .setDefaultEncoding encoding => .ok (r.setDefaultEncoding encoding)
  | .registerEntity types => .ok (r.registerEntity types)
  | .registerRedisSearchIndex indices => .ok (r.registerRedisSearchIndex indices)
  | .registerEnum code values defaultValue => r.registerEnum code values defaultValue
  | .registerLocalCache size code => .ok (r.registerLocalCache size code)
  | .registerRedisStream name redisPool groups => r.registerRedisStream name redisPool groups

/-- The registry after a run of calls, or the first panic. -/
def Registry.run (r : Registry) (ops : List RegOp) : Except Fault Registry :=
  ops.foldlM RegOp.apply r

namespace Registry

theorem StreamsRecorded.apply {r r' : Registry} (h : r.StreamsRecorded) {op : RegOp}
    (hr : op.apply r = .ok r') : r'.StreamsRecorded := by
  cases op with
  | registerEnum code values defaultValue =>
    cases values with
    | nil => cases hr
    | cons first rest => cases hr; exact h
  | registerRedisStream name redisPool groups => exact h.registerRedisStream hr
  | _ => cases hr; exact h

/-- **Every run of register calls keeps the streams recorded.** -/
theorem run_streamsRecorded (ops : List RegOp) :
    ∀ {r r' : Registry}, r.StreamsRecorded → r.run ops = .ok r' → r'.StreamsRecorded := by
  induction ops with
  | nil => intro r r' h hr; cases hr; exact h
  | cons op ops ih =>
    intro r r' h hr
    simp only [run, List.foldlM_cons] at hr
    cases ho : op.apply r with
    | error f => simp [ho] at hr
    | ok r₁ => rw [ho, except_bind_ok] at hr; exact ih (h.apply ho) hr

/-- Two streams on two pools, registered from a new registry. -/
theorem run_streamsRecorded_new :
    new.StreamsRecorded ∧ ∃ r', new.run [.registerRedisStream "a" "default" ["g"],
      .registerEntity ["orm.user"], .registerRedisStream "b" "other" ["g", "h"]] = .ok r' ∧
      r'.StreamsRecorded := by
  obtain ⟨r', hr⟩ : ∃ r', new.run [.registerRedisStream "a" "default" ["g"],
      .registerEntity ["orm.user"], .registerRedisStream "b" "other" ["g", "h"]] = .ok r' :=
    ⟨_, rfl⟩
  exact ⟨streamsRecorded_new, r', hr, run_streamsRecorded _ streamsRecorded_new hr⟩

end Registry

end Orm

import Orm.Registry.Registry
import Orm.Flush.Recursion

/-!
# `Registry.Validate`

`Validate` (`registry.go`) turns the registry into the validated registry the engine reads.
After the connection loops over the MySQL and ClickHouse pools, it scans the registered
entities. Each entity's schema, and its search index with the index's pool, comes from
`initTableSchema`, which is not in src and is a parameter here. The search indexes it collects
are the registry that the indexer consumer reads (`handleRedisIndexerEvent`). Two schemas with
the same cache prefix end the scan with `duplicated table cache prefix`. The scan then registers the streams the background consumer
reads, unless a stream of that name is already registered. Last, it runs `checkStruct`, also
a parameter, on every schema.

What is proved:

* the prefix check is exact: a registry it accepts has distinct cache prefixes, and a registry
  with two equal prefixes is rejected with the error that names the two tables
  (`validate_cachePrefixes`);
* hence the row keys `CachePrefix:ID` of two registered types never collide, whatever the
  ids (`validate_cacheKeys_disjoint`). The decimal digits of an id contain no `:`;
* an accepted registry has the lazy stream registered, the log stream when a schema has a log,
  and the search-indexer stream when there is a search index; every stream registered before
  keeps its pool, and the streams stay recorded (`validate_streams`).

The connection loops open connections and read server variables, and they compute pool limits
in floating point. They are left out: their outcome, an error or none, is the parameter
`pools`. `CreateEngine`, which `Validate` calls before `checkStruct`, is not in src and is left
out. The pool setup, `initTableSchema` and `checkStruct` return an error or none here, so the
model does not cover their panics, and it makes no claim that `Validate` never panics; the
results above are about the registries it returns.
-/

namespace Orm

/-- What `Validate` builds, `validatedRegistry`, with the maps the modelled code writes. -/
structure ValidatedRegistry where
  tableSchemas : GoMap String TableSchema
  entities : GoMap String String
  localCacheServers : GoMap String LocalCachePoolConfig
  enums : GoMap String Enum
  redisSearchIndexes : GoMap String (GoMap String RedisSearchIndex)
  redisStreamGroups : GoMap String (GoMap String (GoMap String Bool))
  redisStreamPools : GoMap String String

/-- The state of `Validate`'s loop over the registered entities. -/
structure SchemaScan where
  tableSchemas : GoMap String TableSchema
  /-- `cachePrefixes`: each prefix to the first schema that has it. -/
  cachePrefixes : GoMap String TableSchema
  entities : GoMap String String
  redisSearchIndexes : GoMap String (GoMap String RedisSearchIndex)
  hasLog : Bool

/-- The loop's start: the search indexes are a copy of the registered ones. -/
def scanStart (r : Registry) : SchemaScan :=
  ⟨[], [], [], r.redisSearchIndices, false⟩

/-- `_, has := r.redisStreamPools[name]; if !has { r.RegisterRedisStream(name, "default",
[]string{asyncConsumerGroupName}) }`. -/
def registerStreamIfAbsent (r : Registry) (name : String) : Except Fault Registry :=
  if GoMap.has r.redisStreamPools name then .ok r
  else r.registerRedisStream name "default" [asyncConsumerGroupName]

/-- The streams `Validate` registers after the loop: the lazy stream, the log stream when a
schema has a log, the search-indexer stream when there is a search index. -/
def registerStreams (r : Registry) (scan : SchemaScan) : Except Fault Registry := do
  let r ← registerStreamIfAbsent r lazyChannelName
  let r ← if scan.hasLog then registerStreamIfAbsent r logChannelName else pure r
  if !scan.redisSearchIndexes.isEmpty then registerStreamIfAbsent r redisSearchIndexerChannelName
  else pure r

/-- The loop of `checkStruct` over the schemas: the first error, wrapped by `errors.Wrapf`. -/
def checkStructs (checkStruct : TableSchema → Option String) (schemas : GoMap String TableSchema) :
    Option String :=
  schemas.findSome? fun p =>
    (checkStruct p.2).map fun e => "invalid entity struct '" ++ p.2.t ++ "': " ++ e

/-- The registry with `utf8mb4` as its encoding when none is set. -/
def withDefaultEncoding (r : Registry) : Registry :=
  if r.defaultEncoding = "" then r.setDefaultEncoding "utf8mb4" else r

@[simp] theorem entities_withDefaultEncoding (r : Registry) :
    (withDefaultEncoding r).entities = r.entities := by
  unfold withDefaultEncoding; split <;> rfl

section Validate

variable (initTableSchema : String → Except String (TableSchema × Option (String × RedisSearchIndex)))

/-- One iteration of the loop over `r.entities`. -/
def scanEntity (acc : SchemaScan) (entry : String × String) : Except String SchemaScan := do
  let (schema, index) ← initTableSchema entry.2
  let tableSchemas := GoMap.insert acc.tableSchemas entry.2 schema
  match GoMap.find? acc.cachePrefixes schema.cachePrefix with
  | some duplicated =>
    throw ("duplicated table cache prefix " ++ schema.tableName ++ " and " ++ duplicated.tableName)
  | none =>
    let redisSearchIndexes := match index with
      | some (pool, i) => GoMap.insert acc.redisSearchIndexes pool
          (GoMap.insert (GoMap.findD acc.redisSearchIndexes pool []) i.name i)
      | none => acc.redisSearchIndexes
    pure ⟨tableSchemas, GoMap.insert acc.cachePrefixes schema.cachePrefix schema,
      GoMap.insert acc.entities entry.1 entry.2, redisSearchIndexes, acc.hasLog || schema.hasLog⟩

/-- `Validate`: the registry as `Validate` leaves it, and the validated registry or the error
returned. A panic is `.error`. -/
def validate (pools : Except String Unit) (checkStruct : TableSchema → Option String)
    (r : Registry) : Except Fault (Registry × Except String ValidatedRegistry) :=
  let r := withDefaultEncoding r
  match pools with
  | .error e => .ok (r, .error e)
  | .ok () =>
    match r.entities.foldlM (scanEntity initTableSchema) (scanStart r) with
    | .error e => .ok (r, .error e)
    | .ok scan => do
      let r ← registerStreams r scan
      match checkStructs checkStruct scan.tableSchemas with
      | some e => pure (r, .error e)
      | none => pure (r, .ok ⟨scan.tableSchemas, scan.entities, r.localCachePools, r.enums,
          scan.redisSearchIndexes, r.redisStreamGroups, r.redisStreamPools⟩)

end Validate

/-! ### Registering the consumer streams -/

theorem has_streamMaps (r : Registry) (name : String) :
    GoMap.has r.streamMaps.redisStreamPools name = true → GoMap.has r.redisStreamPools name = true := by
  unfold Registry.streamMaps; split <;> simp [GoMap.has]

theorem registerStreamIfAbsent_ok (r : Registry) (name : String) :
    ∃ r', registerStreamIfAbsent r name = .ok r' := by
  unfold registerStreamIfAbsent Registry.registerRedisStream
  cases h : GoMap.has r.redisStreamPools name
  case true => exact ⟨r, rfl⟩
  case false =>
    have h' : GoMap.has r.streamMaps.redisStreamPools name = false :=
      Bool.eq_false_iff.2 fun h'' => by simp [has_streamMaps r name h''] at h
    simp [h']

/-! ### The streams an accepted registry has -/

/-- Every stream of `r` is registered in `r'` with the same pool. -/
def StreamsKept (r r' : Registry) : Prop :=
  ∀ n p, GoMap.find? r.redisStreamPools n = some p → GoMap.find? r'.redisStreamPools n = some p

theorem StreamsKept.trans {r₁ r₂ r₃ : Registry} (h₁ : StreamsKept r₁ r₂) (h₂ : StreamsKept r₂ r₃) :
    StreamsKept r₁ r₃ :=
  fun n p h => h₂ n p (h₁ n p h)

theorem StreamsKept.has {r r' : Registry} (h : StreamsKept r r') {n : String}
    (hn : GoMap.has r.redisStreamPools n) : GoMap.has r'.redisStreamPools n := by
  obtain ⟨p, hp⟩ := Option.isSome_iff_exists.1 hn
  simp [GoMap.has, h n p hp]

theorem registerStreamIfAbsent_spec {r r' : Registry} (h : r.StreamsRecorded) {name : String}
    (hr : registerStreamIfAbsent r name = .ok r') :
    r'.StreamsRecorded ∧ GoMap.has r'.redisStreamPools name ∧ StreamsKept r r' := by
  unfold registerStreamIfAbsent at hr
  cases hn : GoMap.has r.redisStreamPools name
  case true => simp only [hn, if_true] at hr; cases hr; exact ⟨h, hn, fun _ _ => id⟩
  case false =>
    simp only [hn] at hr
    refine ⟨h.registerRedisStream hr, ?_, fun n p hp => ?_⟩ <;>
      rw [Registry.registerRedisStream_of_not_has h hn] at hr <;> cases hr
    · simp
    · have hne : name ≠ n := by rintro rfl; simp [GoMap.has, hp] at hn
      simpa [GoMap.find?_insert, hne] using hp

/-- A stream registered when a condition holds: the streams stay recorded and kept, and the
stream is there when the condition holds. -/
theorem registerStreamIfAbsent_when {r r' : Registry} (h : r.StreamsRecorded) {c : Bool}
    {name : String} (hr : (if c then registerStreamIfAbsent r name else pure r) = .ok r') :
    r'.StreamsRecorded ∧ StreamsKept r r' ∧ (c = true → GoMap.has r'.redisStreamPools name) := by
  split at hr
  · obtain ⟨w, has, k⟩ := registerStreamIfAbsent_spec h hr
    exact ⟨w, k, fun _ => has⟩
  · cases hr
    exact ⟨h, fun _ _ => id, fun hc => absurd hc ‹_›⟩

theorem registerStreams_spec {r r' : Registry} (h : r.StreamsRecorded) {scan : SchemaScan}
    (hr : registerStreams r scan = .ok r') :
    r'.StreamsRecorded ∧ StreamsKept r r' ∧ GoMap.has r'.redisStreamPools lazyChannelName ∧
      (scan.hasLog → GoMap.has r'.redisStreamPools logChannelName) ∧
      (scan.redisSearchIndexes ≠ [] →
        GoMap.has r'.redisStreamPools redisSearchIndexerChannelName) := by
  obtain ⟨r₁, h₁⟩ := registerStreamIfAbsent_ok r lazyChannelName
  obtain ⟨w₁, has₁, k₁⟩ := registerStreamIfAbsent_spec h h₁
  simp only [registerStreams, h₁, except_bind_ok] at hr
  obtain ⟨r₂, h₂, hr⟩ : ∃ r₂,
      (if scan.hasLog then registerStreamIfAbsent r₁ logChannelName else pure r₁) = .ok r₂ ∧
        (if !scan.redisSearchIndexes.isEmpty then
          registerStreamIfAbsent r₂ redisSearchIndexerChannelName else pure r₂) = .ok r' := by
    split at hr
    · obtain ⟨r₂, h₂⟩ := registerStreamIfAbsent_ok r₁ logChannelName
      rw [h₂, except_bind_ok] at hr
      exact ⟨r₂, by rw [if_pos ‹_›, h₂], hr⟩
    · exact ⟨r₁, by rw [if_neg ‹_›]; rfl, hr⟩
  obtain ⟨w₂, k₂, has₂⟩ := registerStreamIfAbsent_when w₁ h₂
  obtain ⟨w₃, k₃, has₃⟩ := registerStreamIfAbsent_when w₂ hr
  exact ⟨w₃, (k₁.trans k₂).trans k₃, (k₂.trans k₃).has has₁, fun hl => k₃.has (has₂ hl),
    fun hne => has₃ (by simpa [List.isEmpty_iff] using hne)⟩

/-- An invariant of the steps of a fold in `Except` holds after the fold. -/
theorem foldlM_except_invariant {ε α β : Type} {f : β → α → Except ε β} (P : β → Prop)
    (hstep : ∀ b a b', P b → f b a = .ok b' → P b') (l : List α) :
    ∀ {b b'}, P b → l.foldlM f b = .ok b' → P b' := by
  induction l with
  | nil => intro b b' hb h; cases h; exact hb
  | cons a l ih =>
    intro b b' hb h
    rw [List.foldlM_cons] at h
    cases hf : f b a with
    | error e => rw [hf] at h; cases h
    | ok b₁ => rw [hf, except_bind_ok] at h; exact ih (hstep b a b₁ hb hf) h

/-- The loop's `hasLog` is set once a scanned schema has a log. -/
theorem hasLog_of_scan {init : String → Except String (TableSchema × Option (String × RedisSearchIndex))}
    {es : List (String × String)} {acc scan : SchemaScan}
    (h : es.foldlM (scanEntity init) acc = .ok scan)
    (hacc : (∃ p ∈ acc.tableSchemas, p.2.hasLog) → acc.hasLog) :
    (∃ p ∈ scan.tableSchemas, p.2.hasLog) → scan.hasLog := by
  refine foldlM_except_invariant (fun acc : SchemaScan => (∃ p ∈ acc.tableSchemas, p.2.hasLog) →
    acc.hasLog) (fun b e b' hb hs => ?_) es hacc h
  unfold scanEntity at hs
  cases hi : init e.2 with
  | error msg => simp [hi] at hs
  | ok sx =>
    simp only [hi, except_bind_ok] at hs
    split at hs
    · cases hs
    · cases hs
      rintro ⟨p, hp, hl⟩
      dsimp only at hp ⊢
      rcases GoMap.mem_insert hp with rfl | ⟨_, hp⟩
      · simp [show sx.1.hasLog from hl]
      · simp [hb ⟨p, hp, hl⟩]

/-- **The streams of an accepted registry.** After `Validate` accepts, the lazy stream is
registered; so is the log stream when a schema has a log, and the search-indexer stream when
there is a search index. Every stream registered before keeps its pool, and the streams stay
recorded. -/
theorem validate_streams {init : String → Except String (TableSchema × Option (String × RedisSearchIndex))}
    {pools : Except String Unit} {checkStruct : TableSchema → Option String} {r r' : Registry}
    {v : ValidatedRegistry} (hr : r.StreamsRecorded)
    (h : validate init pools checkStruct r = .ok (r', .ok v)) :
    r'.StreamsRecorded ∧ v.redisStreamPools = r'.redisStreamPools ∧
      GoMap.has v.redisStreamPools lazyChannelName ∧
      ((∃ p ∈ v.tableSchemas, p.2.hasLog) → GoMap.has v.redisStreamPools logChannelName) ∧
      (v.redisSearchIndexes ≠ [] →
        GoMap.has v.redisStreamPools redisSearchIndexerChannelName) ∧
      ∀ n p, GoMap.find? r.redisStreamPools n = some p →
        GoMap.find? v.redisStreamPools n = some p := by
  have hr₀ : (withDefaultEncoding r).StreamsRecorded := by
    unfold withDefaultEncoding; split <;> exact hr
  have k₀ : StreamsKept r (withDefaultEncoding r) := by
    unfold withDefaultEncoding; split <;> exact fun _ _ => id
  unfold validate at h
  dsimp only at h
  split at h
  · cases h
  · split at h
    · cases h
    next scan hs =>
      cases hreg : registerStreams (withDefaultEncoding r) scan with
      | error f => rw [hreg] at h; cases h
      | ok r₁ =>
        rw [hreg, except_bind_ok] at h
        split at h
        · cases h
        · cases h
          obtain ⟨w₁, k₁, hlazy, hlog, hidx⟩ := registerStreams_spec hr₀ hreg
          exact ⟨w₁, rfl, hlazy, fun hl => hlog (hasLog_of_scan hs (by simp [scanStart]) hl), hidx,
            k₀.trans k₁⟩

/-! ### The cache-prefix check -/

section Prefixes

variable {initTableSchema : String → Except String (TableSchema × Option (String × RedisSearchIndex))}
  {schemaOf : String → TableSchema × Option (String × RedisSearchIndex)}

/-- The map of the first schema of each prefix, for schemas with distinct prefixes. -/
def prefixMap (seen : List TableSchema) : GoMap String TableSchema :=
  seen.map fun s => (s.cachePrefix, s)

theorem find?_prefixMap_some {seen : List TableSchema} {p : String} {d : TableSchema}
    (h : GoMap.find? (prefixMap seen) p = some d) : d ∈ seen ∧ d.cachePrefix = p := by
  induction seen with
  | nil => simp [prefixMap] at h
  | cons s seen ih =>
    by_cases hs : s.cachePrefix = p
    · simp [prefixMap, GoMap.find?, hs] at h; subst h; exact ⟨.head _, hs⟩
    · simp only [prefixMap, List.map_cons, GoMap.find?, hs, if_false] at h
      exact (ih h).imp (.tail _) id

theorem find?_prefixMap_none {seen : List TableSchema} {s : TableSchema}
    (h : GoMap.find? (prefixMap seen) s.cachePrefix = none) :
    s.cachePrefix ∉ seen.map TableSchema.cachePrefix := by
  intro hm
  obtain ⟨d, hd, he⟩ := List.mem_map.1 hm
  exact (GoMap.find?_eq_none_iff _ _).1 h (d.cachePrefix, d) (List.mem_map.2 ⟨d, hd, rfl⟩) he

theorem insert_prefixMap {seen : List TableSchema} {s : TableSchema}
    (h : GoMap.find? (prefixMap seen) s.cachePrefix = none) :
    GoMap.insert (prefixMap seen) s.cachePrefix s = prefixMap (seen ++ [s]) := by
  unfold GoMap.insert
  rw [GoMap.has, h]
  simp [prefixMap]

theorem scanEntity_eq {acc : SchemaScan} {e : String × String}
    (he : initTableSchema e.2 = .ok (schemaOf e.2)) :
    scanEntity initTableSchema acc e =
      match GoMap.find? acc.cachePrefixes (schemaOf e.2).1.cachePrefix with
      | some duplicated => .error ("duplicated table cache prefix " ++ (schemaOf e.2).1.tableName ++
          " and " ++ duplicated.tableName)
      | none => .ok ⟨GoMap.insert acc.tableSchemas e.2 (schemaOf e.2).1,
          GoMap.insert acc.cachePrefixes (schemaOf e.2).1.cachePrefix (schemaOf e.2).1,
          GoMap.insert acc.entities e.1 e.2,
          match (schemaOf e.2).2 with
          | some (pool, i) => GoMap.insert acc.redisSearchIndexes pool
              (GoMap.insert (GoMap.findD acc.redisSearchIndexes pool []) i.name i)
          | none => acc.redisSearchIndexes,
          acc.hasLog || (schemaOf e.2).1.hasLog⟩ := by
  simp only [scanEntity, he, except_bind_ok]
  split <;> rfl

/-- **The loop's prefix check**, from schemas `seen` already scanned: it succeeds only when the
prefixes of the scanned and the new schemas are distinct, and its error names a new schema and
the first earlier one with its prefix. -/
theorem foldlM_scanEntity (es : List (String × String))
    (hi : ∀ e ∈ es, initTableSchema e.2 = .ok (schemaOf e.2)) :
    ∀ (seen : List TableSchema) (acc : SchemaScan), acc.cachePrefixes = prefixMap seen →
      (seen.map TableSchema.cachePrefix).Nodup →
      (∀ scan, es.foldlM (scanEntity initTableSchema) acc = .ok scan →
        ((seen ++ es.map fun e => (schemaOf e.2).1).map TableSchema.cachePrefix).Nodup) ∧
      (∀ msg, es.foldlM (scanEntity initTableSchema) acc = .error msg → ∃ a b,
        [a, b].Sublist (seen ++ es.map fun e => (schemaOf e.2).1) ∧
        a.cachePrefix = b.cachePrefix ∧
        msg = "duplicated table cache prefix " ++ b.tableName ++ " and " ++ a.tableName) := by
  induction es with
  | nil =>
    intro seen acc _ hnd
    exact ⟨fun _ _ => by simpa using hnd, fun _ h => by simp at h⟩
  | cons e es ih =>
    intro seen acc hacc hnd
    have ih' := ih fun e' he' => hi e' (.tail _ he')
    rw [List.foldlM_cons, scanEntity_eq (hi e (.head _)), hacc]
    split
    case h_1 d hd =>
      obtain ⟨hdm, hdp⟩ := find?_prefixMap_some hd
      refine ⟨fun _ h => by simp at h, fun msg h => ⟨d, (schemaOf e.2).1, ?_, hdp, ?_⟩⟩
      · simpa using (List.singleton_sublist.2 hdm).append (List.Sublist.cons₂ _ (List.nil_sublist _))
      · cases h; rfl
    case h_2 hd =>
      rw [except_bind_ok]
      have hnd' : ((seen ++ [(schemaOf e.2).1]).map TableSchema.cachePrefix).Nodup := by
        rw [List.map_append, List.map_singleton]
        exact hnd.append (List.nodup_singleton _)
          (List.disjoint_singleton.2 (find?_prefixMap_none hd))
      simpa using ih' (seen ++ [(schemaOf e.2).1]) _ (insert_prefixMap hd) hnd'

/-- A scan that succeeds: distinct prefixes. -/
theorem validate_ok_nodup {pools : Except String Unit} {checkStruct : TableSchema → Option String}
    {r r' : Registry} {v : ValidatedRegistry}
    (hi : ∀ e ∈ r.entities, initTableSchema e.2 = .ok (schemaOf e.2))
    (h : validate initTableSchema pools checkStruct r = .ok (r', .ok v)) :
    ((r.entities.map fun e => (schemaOf e.2).1).map TableSchema.cachePrefix).Nodup := by
  unfold validate at h
  dsimp only at h
  split at h
  · cases h
  · rw [entities_withDefaultEncoding] at h
    split at h
    · cases h
    next scan hs => simpa using (foldlM_scanEntity r.entities hi [] _ rfl List.nodup_nil).1 scan hs

/-- **`Validate`'s prefix check is exact.** A registry it accepts has distinct cache prefixes.
A registry with two equal prefixes is rejected, with the error that names the later table and
then the earlier one. -/
theorem validate_cachePrefixes (checkStruct : TableSchema → Option String) (r : Registry)
    (hi : ∀ e ∈ r.entities, initTableSchema e.2 = .ok (schemaOf e.2)) :
    (∀ r' v, validate initTableSchema (.ok ()) checkStruct r = .ok (r', .ok v) →
      ((r.entities.map fun e => (schemaOf e.2).1).map TableSchema.cachePrefix).Nodup) ∧
    (¬ ((r.entities.map fun e => (schemaOf e.2).1).map TableSchema.cachePrefix).Nodup →
      ∃ r' a b, [a, b].Sublist (r.entities.map fun e => (schemaOf e.2).1) ∧
        a.cachePrefix = b.cachePrefix ∧
        validate initTableSchema (.ok ()) checkStruct r =
          .ok (r', .error ("duplicated table cache prefix " ++ b.tableName ++ " and " ++
            a.tableName))) := by
  refine ⟨fun r' v h => validate_ok_nodup hi h, fun hnd => ?_⟩
  have hs := @foldlM_scanEntity initTableSchema schemaOf r.entities hi []
    (scanStart (withDefaultEncoding r)) rfl List.nodup_nil
  cases hf : r.entities.foldlM (scanEntity initTableSchema) (scanStart (withDefaultEncoding r)) with
  | ok scan => exact absurd (by simpa using hs.1 scan hf) hnd
  | error msg =>
    obtain ⟨a, b, hab, hp, rfl⟩ := hs.2 msg hf
    refine ⟨withDefaultEncoding r, a, b, by simpa using hab, hp, ?_⟩
    unfold validate
    dsimp only
    rw [entities_withDefaultEncoding, hf]

/-- The decimal digits of a number: no `:` among them. -/
theorem colon_not_mem_toDigitsCore (fuel n : Nat) (ds : List Char) (hds : ':' ∉ ds) :
    ':' ∉ Nat.toDigitsCore 10 fuel n ds := by
  have hd : ∀ k < 10, Nat.digitChar k ≠ ':' := by decide
  induction fuel generalizing n ds with
  | zero => exact hds
  | succ fuel ih =>
    have hds' : ':' ∉ Nat.digitChar (n % 10) :: ds :=
      List.not_mem_cons_of_ne_of_not_mem (hd _ (Nat.mod_lt _ (by decide))).symm hds
    show ':' ∉ if n / 10 = 0 then Nat.digitChar (n % 10) :: ds
      else Nat.toDigitsCore 10 fuel (n / 10) (Nat.digitChar (n % 10) :: ds)
    split
    · exact hds'
    · exact ih _ _ hds'

/-- A list split at the last occurrence of a separator. -/
theorem append_cons_inj_of_not_mem {x : Char} {a b c d : List Char} (hc : x ∉ c) (hd : x ∉ d)
    (h : a ++ x :: c = b ++ x :: d) : a = b ∧ c = d := by
  induction a generalizing b with
  | nil =>
    cases b with
    | nil => simpa using h
    | cons y b => cases h; exact absurd (by simp) hc
  | cons y a ih =>
    cases b with
    | nil => cases h; exact absurd (by simp) hd
    | cons z b =>
      simp only [List.cons_append, List.cons.injEq] at h
      obtain ⟨rfl, h⟩ := h
      exact (ih h).imp (congrArg _) id

/-- Two row keys `CachePrefix:ID` are equal only with equal prefixes: an id has no `:`. -/
theorem cachePrefix_eq_of_getCacheKey {s₁ s₂ : TableSchema} {id₁ id₂ : Nat}
    (h : s₁.getCacheKey id₁ = s₂.getCacheKey id₂) : s₁.cachePrefix = s₂.cachePrefix := by
  have hdata := congrArg String.data h
  simp only [TableSchema.getCacheKey, String.data_append, List.append_assoc] at hdata
  have hc : ∀ n : Nat, ':' ∉ (toString n).data := fun n =>
    colon_not_mem_toDigitsCore _ n [] (List.not_mem_nil _)
  exact String.ext (append_cons_inj_of_not_mem (hc id₁) (hc id₂) hdata).1

/-- **Registered types never share a row key**: in a registry `Validate` accepts, the row keys
of two entities differ, whatever their ids. -/
theorem validate_cacheKeys_disjoint {pools : Except String Unit}
    {checkStruct : TableSchema → Option String} {r r' : Registry} {v : ValidatedRegistry}
    (hi : ∀ e ∈ r.entities, initTableSchema e.2 = .ok (schemaOf e.2))
    (h : validate initTableSchema pools checkStruct r = .ok (r', .ok v)) :
    ∀ a b, [a, b].Sublist (r.entities.map fun e => (schemaOf e.2).1) →
      ∀ id₁ id₂, a.getCacheKey id₁ ≠ b.getCacheKey id₂ := by
  intro a b hab id₁ id₂ hk
  have hnd := (validate_ok_nodup hi h).sublist (hab.map TableSchema.cachePrefix)
  simp [cachePrefix_eq_of_getCacheKey hk] at hnd

end Prefixes

/-- The schemas of the scenarios: `orm.user` in table `users` with prefix `u`, any other type
in table `posts` with prefix `p`, or `u` as well when the prefix is `shared`. -/
def userPostSchema (shared : Bool) (t : String) : TableSchema × Option (String × RedisSearchIndex) :=
  ({ plainSchema t (if t = "orm.user" then "users" else "posts") ["ID"] with
      cachePrefix := if t = "orm.user" || shared then "u" else "p"
      hasLog := t = "orm.user" }, none)

/-- Two types with the prefixes `u` and `p`: `Validate` accepts them, and their row keys
differ. -/
theorem validate_userPost :
    (∀ e ∈ (Registry.new.registerEntity ["orm.user", "orm.post"]).entities,
      (fun t => (.ok (userPostSchema false t) : Except String _)) e.2 =
        .ok (userPostSchema false e.2)) ∧
    ∃ r' v, validate (fun t => .ok (userPostSchema false t)) (.ok ()) (fun _ => none)
        (Registry.new.registerEntity ["orm.user", "orm.post"]) = .ok (r', .ok v) ∧
      ∀ a b, [a, b].Sublist ((Registry.new.registerEntity ["orm.user", "orm.post"]).entities.map
        fun e => (userPostSchema false e.2).1) → ∀ id₁ id₂, a.getCacheKey id₁ ≠ b.getCacheKey id₂ := by
  obtain ⟨r', v, h⟩ : ∃ r' v, validate (fun t => .ok (userPostSchema false t)) (.ok ())
      (fun _ => none) (Registry.new.registerEntity ["orm.user", "orm.post"]) = .ok (r', .ok v) :=
    ⟨_, _, rfl⟩
  exact ⟨fun _ _ => rfl, r', v, h, validate_cacheKeys_disjoint (fun _ _ => rfl) h⟩

/-- The same registry, with the stream `orm-lazy-channel` registered on pool `events` first:
`Validate` keeps it there and registers the log stream, since `orm.user` has a log. -/
theorem validate_userPost_streams :
    ∃ r₀, (Registry.new.registerEntity ["orm.user", "orm.post"]).registerRedisStream
        lazyChannelName "events" ["g"] = .ok r₀ ∧ r₀.StreamsRecorded ∧
      ∃ r' v, validate (fun t => .ok (userPostSchema false t)) (.ok ()) (fun _ => none) r₀ =
          .ok (r', .ok v) ∧
        r'.StreamsRecorded ∧ v.redisStreamPools = r'.redisStreamPools ∧
        GoMap.has v.redisStreamPools lazyChannelName ∧
        ((∃ p ∈ v.tableSchemas, p.2.hasLog) → GoMap.has v.redisStreamPools logChannelName) ∧
        (v.redisSearchIndexes ≠ [] →
          GoMap.has v.redisStreamPools redisSearchIndexerChannelName) ∧
        ∀ n p, GoMap.find? r₀.redisStreamPools n = some p →
          GoMap.find? v.redisStreamPools n = some p := by
  obtain ⟨r₀, h₀⟩ : ∃ r₀, (Registry.new.registerEntity ["orm.user", "orm.post"]).registerRedisStream
      lazyChannelName "events" ["g"] = .ok r₀ := ⟨_, rfl⟩
  have hr : r₀.StreamsRecorded := by
    cases h₀; intro n p hp
    simp only [GoMap.find?_insert] at hp
    split_ifs at hp with hn
    · cases hp; subst hn; decide
    · simp [Registry.registerEntity, Registry.new, Registry.streamMaps] at hp
  obtain ⟨r', v, h⟩ : ∃ r' v, validate (fun t => .ok (userPostSchema false t)) (.ok ())
      (fun _ => none) r₀ = .ok (r', .ok v) := by
    cases h₀; exact ⟨_, _, rfl⟩
  exact ⟨r₀, h₀, hr, r', v, h, validate_streams hr h⟩

/-- `Validate` rejects the registry of the two types, naming the tables `posts` and `users`. -/
theorem validate_cachePrefixes_clash :
    (∀ e ∈ (Registry.new.registerEntity ["orm.user", "orm.post"]).entities,
      (fun t => (.ok (userPostSchema true t) : Except String _)) e.2 =
        .ok (userPostSchema true e.2)) ∧
      ∃ r' a b, [a, b].Sublist ((Registry.new.registerEntity ["orm.user", "orm.post"]).entities.map
          fun e => (userPostSchema true e.2).1) ∧
        a.cachePrefix = b.cachePrefix ∧
        validate (fun t => .ok (userPostSchema true t)) (.ok ()) (fun _ => none)
            (Registry.new.registerEntity ["orm.user", "orm.post"]) =
          .ok (r', .error ("duplicated table cache prefix " ++ b.tableName ++ " and " ++
            a.tableName)) :=
  ⟨fun _ _ => rfl, (@validate_cachePrefixes (fun t => .ok (userPostSchema true t))
    (userPostSchema true)
    (fun _ => none) (Registry.new.registerEntity ["orm.user", "orm.post"]) (fun _ _ => rfl)).2
    (by decide)⟩

end Orm

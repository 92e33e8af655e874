import Orm.Flush.Batch

/-!
# When the query keys of cached indexes can be built

`getCacheQueriesKeys` reads a row slot for every query field of every cached index whose
tracked fields meet the bind. On a row as wide as the schema it always succeeds
(`getCacheQueriesKeys_ok`); on the empty row it panics as soon as one such index has a query
field (`getCacheQueriesKeys_nil_row`).

`updateCacheAfterUpdate` copies the row before the update into `old` only when the schema has
a local cache, a remote cache or a log, yet it builds the keys from `old` whenever the request
cache stands in for the local one. On a schema with only the request cache, an update of a
tracked field of a parameterised index therefore panics while the flush is still planning
(`requestCache_update_panics`).
-/

namespace Orm

/-- `orm.user` with neither a local nor a remote cache, and an index `byName` over `Name`. -/
def requestOnlySchema : TableSchema :=
  { userSchema with localCache := none, redisCache := none,
                    cachedIndexesAll := [("byName", ⟨["Name"], ["Name"]⟩)] }

section Keys

variable (s : TableSchema) (bind : Bind)

theorem queryAttributes_ok (qs : List String) (data : List Value)
    (h : ∀ q ∈ qs, s.columnMapping q < data.length) :
    ∃ attrs, queryAttributes s qs data = .ok attrs :=
  foldlM_except_ok qs (fun _ q hq => by
    simp only [getIdx_of_lt (h q hq), except_bind_ok]
    exact ⟨_, rfl⟩) []

theorem queryAttributes_nil_row {qs : List String} (h : qs ≠ []) :
    queryAttributes s qs [] = .error (.panic "index out of range") := by
  obtain ⟨q, qs, rfl⟩ := List.exists_cons_of_ne_nil h
  simp [queryAttributes]

theorem cacheQueriesKeysStep_ok (data : List Value) (acc : List String × Bool)
    (idx : String × CachedIndex) (h : ∀ q ∈ idx.2.queryFields, s.columnMapping q < data.length) :
    ∃ r, cacheQueriesKeysStep s bind data acc idx = .ok r := by
  obtain ⟨attrs, ha⟩ := queryAttributes_ok s _ data h
  by_cases hb : idx.2.trackedFields.any (GoMap.has bind) <;>
    simp only [cacheQueriesKeysStep, hb, ha, ↓reduceIte, except_bind_ok, except_pure,
      Bool.false_eq_true] <;>
    exact ⟨_, rfl⟩

/-- On the empty row, an index step panics when the bind hits the index and the index has a
query field. -/
theorem cacheQueriesKeysStep_nil_row (acc : List String × Bool) (idx : String × CachedIndex)
    (hb : idx.2.trackedFields.any (GoMap.has bind)) (hq : idx.2.queryFields ≠ []) :
    cacheQueriesKeysStep s bind [] acc idx = .error (.panic "index out of range") := by
  simp only [cacheQueriesKeysStep, hb, ↓reduceIte, queryAttributes_nil_row s hq,
    except_bind_error]

/-- On the empty row, an index step panics with `index out of range` if at all. -/
theorem cacheQueriesKeysStep_nil_row_cases (acc : List String × Bool)
    (idx : String × CachedIndex) :
    (∃ r, cacheQueriesKeysStep s bind [] acc idx = .ok r) ∨
      cacheQueriesKeysStep s bind [] acc idx = .error (.panic "index out of range") := by
  by_cases hq : idx.2.queryFields = []
  · exact .inl (cacheQueriesKeysStep_ok s bind [] acc idx (by simp [hq]))
  by_cases hb : idx.2.trackedFields.any (GoMap.has bind)
  · exact .inr (cacheQueriesKeysStep_nil_row s bind acc idx hb hq)
  · left
    simp only [cacheQueriesKeysStep, hb, ↓reduceIte, except_pure, Bool.false_eq_true]
    exact ⟨_, rfl⟩

/-- On a row with a slot for every query field, the keys are always built. -/
theorem getCacheQueriesKeys_ok (data : List Value) (addedDeleted : Bool)
    (h : ∀ idx ∈ s.cachedIndexesAll, ∀ q ∈ idx.2.queryFields, s.columnMapping q < data.length) :
    ∃ keys, getCacheQueriesKeys s bind data addedDeleted = .ok keys := by
  obtain ⟨r, hr⟩ := foldlM_except_ok s.cachedIndexesAll
    (fun acc idx hi => cacheQueriesKeysStep_ok s bind data acc idx (h idx hi)) ([], addedDeleted)
  exact ⟨r.1, by simp [getCacheQueriesKeys, hr]⟩

/-- The keys of `byName` from a full row. -/
theorem getCacheQueriesKeys_byName :
    (∀ idx ∈ requestOnlySchema.cachedIndexesAll, ∀ q ∈ idx.2.queryFields,
        requestOnlySchema.columnMapping q < [Value.u64 1, .str "a"].length) ∧
      ∃ keys, getCacheQueriesKeys requestOnlySchema [("Name", .str "b")] [.u64 1, .str "a"] false =
        .ok keys :=
  have h : ∀ idx ∈ requestOnlySchema.cachedIndexesAll, ∀ q ∈ idx.2.queryFields,
      requestOnlySchema.columnMapping q < [Value.u64 1, .str "a"].length := by
    simp [requestOnlySchema, userSchema, TableSchema.columnMapping, List.enum, GoMap.findD]
  ⟨h, getCacheQueriesKeys_ok requestOnlySchema _ _ false h⟩

/-- On the empty row, one index that the bind hits and that has a query field makes the
whole computation panic. -/
theorem getCacheQueriesKeys_nil_row (addedDeleted : Bool)
    (h : ∃ idx ∈ s.cachedIndexesAll,
      idx.2.trackedFields.any (GoMap.has bind) ∧ idx.2.queryFields ≠ []) :
    getCacheQueriesKeys s bind [] addedDeleted = .error (.panic "index out of range") := by
  obtain ⟨idx, hi, hb, hq⟩ := h
  have := foldlM_except_error s.cachedIndexesAll _
    (fun acc idx _ => cacheQueriesKeysStep_nil_row_cases s bind acc idx)
    ⟨idx, hi, fun acc => cacheQueriesKeysStep_nil_row s bind acc idx hb hq⟩ ([], addedDeleted)
  simp [getCacheQueriesKeys, this]

/-- An update of `Name` computes the keys of `byName` from the empty row. -/
theorem getCacheQueriesKeys_byName_nil_row :
    (∃ idx ∈ requestOnlySchema.cachedIndexesAll,
        idx.2.trackedFields.any (GoMap.has [("Name", Value.str "b")]) ∧ idx.2.queryFields ≠ []) ∧
      getCacheQueriesKeys requestOnlySchema [("Name", .str "b")] [] false =
        .error (.panic "index out of range") :=
  have h : ∃ idx ∈ requestOnlySchema.cachedIndexesAll,
      idx.2.trackedFields.any (GoMap.has [("Name", Value.str "b")]) ∧ idx.2.queryFields ≠ [] :=
    ⟨_, List.mem_singleton_self _, by simp [GoMap.has], by simp⟩
  ⟨h, getCacheQueriesKeys_nil_row requestOnlySchema _ false h⟩

end Keys

/-! ### An update on a schema with only the request cache -/

/-- A loaded user `1` whose `Name` changed from `a` to `b`. -/
def renamedUser : Entity :=
  { requestOnlySchema.newEntity with
    id := 1, fields := [("Name", .str "b")], dbData := [.u64 1, .str "a"], loaded := true,
    inDB := true }

/-- The renamed user, on an engine with the request cache. -/
def renameWorld : World where
  engine := ⟨[("orm.user", requestOnlySchema)], true, [], [], none⟩
  flusher := Flusher.empty
  ents := [(0, renamedUser)]
  nextEnt := 1
  rfs := []
  nextRf := 0
  dbs := []
  localCaches := []
  redisCaches := []
  streams := []

/-- `Track(u); Flush()` panics with `index out of range` while planning: the key of `byName`
before the update is built from `old`, which was never copied. -/
theorem requestCache_update_panics (n : Nat) :
    ∃ w, (track [0] >>= fun _ => flushTrackedEntities (n + 1) false false) renameWorld =
      .error (.panic "index out of range") w :=
  ⟨_, rfl⟩

end Orm

import Mathlib.Data.List.Basic

/-!
# Canonical values, Go maps and binds

The flush engine moves three kinds of data around: canonical column values (what a bind
setter returns and what `DbData` holds), Go maps keyed by strings, and **binds** — the
column-to-value maps a dirty entity yields.

Shape decisions:

* a Go map is the **association list of its entries in iteration order** (`GoMap`). Lookup
  reads the first entry with the key, assignment replaces an entry in place or appends a new
  one, so a map the code builds is iterated in insertion order. For maps of at most eight
  entries this is one of the orders Go's runtime produces (a rotation by offset `0`), so a run
  of the model at such an input is a run of the program;
* a missing key reads as Go's zero value where the code indexes a map directly
  (`GoMap.findD`), and as `none` where it uses the comma-ok form (`GoMap.find?`);
* `Value` is the sum type of canonical DB scalars; `null` is Go's `nil`.
-/

namespace Orm

/-- A canonical DB scalar: the value a bind setter returns, a bind carries and a row holds. -/
inductive Value where
  | null
  | u64 (n : Nat)
  | i64 (n : Int)
  | str (s : String)
  | bool (b : Bool)
  deriving DecidableEq, Repr

/-- A Go `panic` (and the errors the checked flushers recover), or a run that ran out of fuel.
`duplicatedKey` and `foreignKey` are the driver errors `FlushWithCheck` classifies. -/
inductive Fault where
  | panic (msg : String)
  | duplicatedKey (message index : String)
  | foreignKey (message constraint : String)
  | outOfFuel
  deriving DecidableEq, Repr

section Except

variable {ε α β : Type}

/-! Pure code that may panic is a computation of `Except Fault`; these equations run it. -/

@[simp] theorem except_bind_ok (a : α) (f : α → Except ε β) :
    (Except.ok a : Except ε α) >>= f = f a := rfl

@[simp] theorem except_bind_error (e : ε) (f : α → Except ε β) :
    (Except.error e : Except ε α) >>= f = .error e := rfl

@[simp] theorem except_pure (a : α) : (pure a : Except ε α) = .ok a := rfl

/-- A fold succeeds when each of its steps succeeds from every accumulator. -/
theorem foldlM_except_ok {f : β → α → Except ε β} (l : List α)
    (h : ∀ b, ∀ a ∈ l, ∃ b', f b a = .ok b') (b : β) : ∃ r, l.foldlM f b = .ok r := by
  induction l generalizing b with
  | nil => exact ⟨b, rfl⟩
  | cons a l ih =>
    obtain ⟨b', hb⟩ := h b a (.head _)
    simp only [List.foldlM_cons, hb, except_bind_ok]
    exact ih (fun b a ha => h b a (.tail _ ha)) b'

/-- A fold whose steps fail with `e` if they fail at all, and one of whose steps always fails,
fails with `e`. -/
theorem foldlM_except_error {f : β → α → Except ε β} (l : List α) (e : ε)
    (h : ∀ b, ∀ a ∈ l, (∃ b', f b a = .ok b') ∨ f b a = .error e)
    (hbad : ∃ a ∈ l, ∀ b, f b a = .error e) (b : β) : l.foldlM f b = .error e := by
  induction l generalizing b with
  | nil => simp at hbad
  | cons a l ih =>
    rcases h b a (.head _) with ⟨b', hb⟩ | hb
    · obtain ⟨a', ha', hbad'⟩ := hbad
      have hl : a' ∈ l := by
        rcases List.mem_cons.mp ha' with rfl | hl
        · simp [hbad'] at hb
        · exact hl
      simp only [List.foldlM_cons, hb, except_bind_ok]
      exact ih (fun b a ha => h b a (.tail _ ha)) ⟨a', hl, hbad'⟩ b'
    · simp [hb]

end Except

section Result

variable {ε σ α β : Type}

/-! A stateful computation that may panic is an `EStateM`; a panic keeps the state. -/

/-- The state a computation leaves, whether it returned or panicked. -/
def finalState : EStateM.Result ε σ α → σ
  | .ok _ s => s
  | .error _ s => s

theorem finalState_bind (x : EStateM ε σ α) (f : α → EStateM ε σ β) (s : σ) :
    finalState ((x >>= f) s) = match x s with
      | .ok a s' => finalState (f a s')
      | .error _ s' => s' := by
  show finalState (EStateM.bind x f s) = _
  unfold EStateM.bind; cases x s <;> rfl

/-- A property of the state that every step keeps, whether it returns or panics, holds after a
run of the steps. -/
theorem finalState_forM {P : σ → Prop} {f : α → EStateM ε σ Unit}
    (hstep : ∀ a s, P s → P (finalState (f a s))) (l : List α) :
    ∀ s, P s → P (finalState (l.forM f s)) := by
  induction l with
  | nil => exact fun _ h => h
  | cons a l ih =>
    intro s h
    show P (finalState ((f a >>= fun _ => l.forM f) s))
    rw [finalState_bind]
    have := hstep a s h
    revert this
    cases f a s with
    | ok _ s' => exact ih s'
    | error _ s' => exact id

end Result

/-- Go's `s[i]`: a read past the end panics. -/
def getIdx (l : List Value) (i : Nat) : Except Fault Value :=
  match l[i]? with
  | some v => .ok v
  | none => .error (.panic "index out of range")

/-- Go's `s[i] = v`: a write past the end panics. -/
def setIdx (l : List Value) (i : Nat) (v : Value) : Except Fault (List Value) :=
  if i < l.length then .ok (l.set i v) else .error (.panic "index out of range")

@[simp] theorem getIdx_of_lt {l : List Value} {i : Nat} (h : i < l.length) :
    getIdx l i = .ok l[i] := by
  simp [getIdx, h]

@[simp] theorem getIdx_nil (i : Nat) : getIdx [] i = .error (.panic "index out of range") := rfl

/-- A Go map: its entries in iteration order. -/
abbrev GoMap (κ : Type) (ν : Type) := List (κ × ν)

namespace GoMap

variable {κ ν : Type} [DecidableEq κ]

/-- The comma-ok read `v, has := m[k]`. -/
def find? : GoMap κ ν → κ → Option ν
  | [], _ => none
  | (k', v) :: m, k => if k' = k then some v else find? m k

/-- The direct read `m[k]`, which yields the zero value `d` for a missing key. -/
def findD (m : GoMap κ ν) (k : κ) (d : ν) : ν :=
  (find? m k).getD d

/-- Whether the key is present. -/
def has (m : GoMap κ ν) (k : κ) : Bool :=
  (find? m k).isSome

/-- The assignment `m[k] = v`: replaces the entry in place, or appends a new one. -/
def insert (m : GoMap κ ν) (k : κ) (v : ν) : GoMap κ ν :=
  if has m k then m.map fun p => if p.1 = k then (k, v) else p else m ++ [(k, v)]

/-- `m[k] = append(m[k], xs...)`: the list under the key extended, a missing key read as the
empty list. -/
def push {α : Type} (m : GoMap κ (List α)) (k : κ) (xs : List α) : GoMap κ (List α) :=
  insert m k (findD m k [] ++ xs)

/-- The keys in iteration order. -/
def keys (m : GoMap κ ν) : List κ :=
  m.map Prod.fst

/-- `delete(m, k)`: the map without the key. -/
def erase (m : GoMap κ ν) (k : κ) : GoMap κ ν :=
  m.filter (·.1 ≠ k)

@[simp] theorem find?_nil (k : κ) : find? ([] : GoMap κ ν) k = none := rfl

@[simp] theorem find?_cons (k k' : κ) (v : ν) (m : GoMap κ ν) :
    find? ((k', v) :: m) k = if k' = k then some v else find? m k := rfl

theorem find?_append (m m' : GoMap κ ν) (k : κ) :
    find? (m ++ m') k = (find? m k).or (find? m' k) := by
  induction m with
  | nil => simp
  | cons p m ih => obtain ⟨k', v⟩ := p; by_cases h : k' = k <;> simp [h, ih]

theorem has_iff (m : GoMap κ ν) (k : κ) : has m k = true ↔ k ∈ keys m := by
  induction m with
  | nil => simp [has, keys]
  | cons p m ih =>
    obtain ⟨k', v⟩ := p
    by_cases h : k' = k
    · simp [has, keys, h]
    · simp only [has, keys] at ih ⊢
      simp [h, ih, Ne.symm h]

theorem find?_map_replace (m : GoMap κ ν) (k k' : κ) (v : ν) :
    find? (m.map fun p => if p.1 = k then (k, v) else p) k' =
      if k = k' then (find? m k').map fun _ => v else find? m k' := by
  induction m with
  | nil => simp
  | cons p m ih =>
    obtain ⟨j, u⟩ := p
    by_cases hj : j = k <;> by_cases hk : k = k' <;> simp_all

theorem find?_insert (m : GoMap κ ν) (k k' : κ) (v : ν) :
    find? (insert m k v) k' = if k = k' then some v else find? m k' := by
  unfold insert
  split
  case isTrue hm =>
    rw [find?_map_replace]
    by_cases hk : k = k'
    · subst hk; obtain ⟨u, hu⟩ := Option.isSome_iff_exists.1 hm; simp [hu]
    · simp [hk]
  case isFalse hm =>
    rw [find?_append]
    have hn : find? m k = none := by simpa [has] using hm
    by_cases hk : k = k'
    · subst hk; simp [hn]
    · cases h : find? m k' <;> simp [hk, h]

@[simp] theorem findD_insert (m : GoMap κ ν) (k k' : κ) (v d : ν) :
    findD (insert m k v) k' d = if k = k' then v else findD m k' d := by
  by_cases h : k = k' <;> simp [findD, find?_insert, h]

@[simp] theorem has_insert (m : GoMap κ ν) (k k' : κ) (v : ν) :
    has (insert m k v) k' = (k = k' || has m k') := by
  by_cases h : k = k' <;> simp [has, find?_insert, h]

/-- A property of every value of `m` and of the zero value holds of every direct read. -/
theorem findD_of_forall {P : ν → Prop} {m : GoMap κ ν} {d : ν} (hd : P d) (h : ∀ p ∈ m, P p.2)
    (k : κ) : P (findD m k d) := by
  induction m with
  | nil => exact hd
  | cons p m ih =>
    obtain ⟨k', v⟩ := p
    by_cases hk : k' = k
    · simpa [findD, hk] using h _ (.head _)
    · simpa [findD, hk] using ih fun p hp => h p (.tail _ hp)

theorem find?_eq_none_iff (m : GoMap κ ν) (k : κ) : find? m k = none ↔ ∀ p ∈ m, p.1 ≠ k := by
  induction m with
  | nil => simp
  | cons p m ih => obtain ⟨k', v⟩ := p; by_cases h : k' = k <;> simp [h, ih]

theorem insert_of_has {m : GoMap κ ν} {k : κ} (h : has m k = true) (v : ν) :
    insert m k v = m.map fun p => if p.1 = k then (k, v) else p := by
  simp [insert, h]

/-- An entry of `m[k] = v` is the new one, or an entry of `m` with another key. -/
theorem mem_insert {m : GoMap κ ν} {k : κ} {v : ν} {p : κ × ν} (hp : p ∈ insert m k v) :
    p = (k, v) ∨ (p.1 ≠ k ∧ p ∈ m) := by
  unfold insert at hp
  split at hp
  case isTrue =>
    obtain ⟨q, hq, rfl⟩ := List.mem_map.1 hp
    by_cases hk : q.1 = k <;> simp [hk, hq]
  case isFalse hm =>
    have hn := (find?_eq_none_iff m k).1 (by simpa [has] using hm)
    rcases List.mem_append.1 hp with hp | hp
    · exact .inr ⟨hn p hp, hp⟩
    · exact .inl (List.mem_singleton.1 hp)

/-- A second assignment to a key overwrites the first. -/
@[simp] theorem insert_insert (m : GoMap κ ν) (k : κ) (v v' : ν) :
    insert (insert m k v) k v' = insert m k v' := by
  rw [insert_of_has (by simp) v']
  by_cases h : has m k
  · rw [insert_of_has h, insert_of_has h, List.map_map]
    refine List.map_congr_left fun p _ => ?_
    by_cases hp : p.1 = k <;> simp [hp]
  · have hn := (find?_eq_none_iff m k).1 (by simpa [has] using h)
    simp only [insert, h, Bool.false_eq_true, if_false, List.map_append, List.map_cons,
      List.map_nil, if_true]
    congr 1
    conv_rhs => rw [← List.map_id m]
    exact List.map_congr_left fun p hp => if_neg (hn p hp)

/-! ### Assigning a list of entries

`insertAll m kvs` is the loop `for k, v := range kvs { m[k] = v }`. Assigning the same entries
twice is assigning them once (`insertAll_idem`): the value of each key is the last one `kvs`
assigns to it, `find? kvs.reverse k`. -/

/-- The assignments `m[k] = v` of `kvs`, in order. -/
def insertAll (m kvs : GoMap κ ν) : GoMap κ ν :=
  kvs.foldl (fun m kv => insert m kv.1 kv.2) m

@[simp] theorem insertAll_nil (m : GoMap κ ν) : insertAll m [] = m := rfl

@[simp] theorem insertAll_cons (m kvs : GoMap κ ν) (kv : κ × ν) :
    insertAll m (kv :: kvs) = insertAll (insert m kv.1 kv.2) kvs := rfl

theorem insertAll_append (m kvs kvs' : GoMap κ ν) :
    insertAll m (kvs ++ kvs') = insertAll (insertAll m kvs) kvs' :=
  List.foldl_append _ _ _ _

theorem find?_reverse_cons (kvs : GoMap κ ν) (kv : κ × ν) (k : κ) :
    find? (kv :: kvs).reverse k =
      (find? kvs.reverse k).or (if kv.1 = k then some kv.2 else none) := by
  obtain ⟨k', v⟩ := kv
  simp [find?_append]

theorem has_insertAll_of_has {m : GoMap κ ν} {k : κ} (h : has m k = true) (kvs : GoMap κ ν) :
    has (insertAll m kvs) k = true := by
  induction kvs generalizing m with
  | nil => exact h
  | cons kv kvs ih => exact ih (by simp [h])

/-- Every key `kvs` assigns is in the result. -/
theorem has_insertAll (m kvs : GoMap κ ν) : ∀ kv ∈ kvs, has (insertAll m kvs) kv.1 = true := by
  induction kvs generalizing m with
  | nil => simp
  | cons kv kvs ih =>
    intro kv' hkv'
    rcases List.mem_cons.1 hkv' with rfl | hkv'
    · exact has_insertAll_of_has (by simp) kvs
    · exact ih _ kv' hkv'

/-- When every key `kvs` assigns is present, the assignments replace entries in place, each
with the last value assigned to its key. -/
theorem insertAll_of_has {m kvs : GoMap κ ν} (h : ∀ kv ∈ kvs, has m kv.1 = true) :
    insertAll m kvs = m.map fun p => ((find? kvs.reverse p.1).map (p.1, ·)).getD p := by
  induction kvs generalizing m with
  | nil => simp
  | cons kv kvs ih =>
    have hm : ∀ kv' ∈ kvs, has (insert m kv.1 kv.2) kv'.1 = true := fun kv' hkv' => by
      simp [h kv' (.tail _ hkv')]
    rw [insertAll_cons, ih hm, insert_of_has (h kv (.head _)), List.map_map]
    refine List.map_congr_left fun p _ => ?_
    rw [find?_reverse_cons]
    by_cases hk : p.1 = kv.1
    · rw [← hk]; cases hl : find? kvs.reverse p.1 <;> simp [hl]
    · cases hl : find? kvs.reverse p.1 <;> simp [hk, hl, Ne.symm hk]

/-- An entry of the result whose key `kvs` never assigns was an entry of `m`. -/
theorem mem_of_mem_insertAll {m kvs : GoMap κ ν} {p : κ × ν} (hp : p ∈ insertAll m kvs)
    (hn : find? kvs.reverse p.1 = none) : p ∈ m := by
  induction kvs generalizing m with
  | nil => exact hp
  | cons kv kvs ih =>
    rw [find?_reverse_cons, Option.or_eq_none] at hn
    rcases mem_insert (ih hp hn.1) with rfl | ⟨-, hm⟩
    · simp at hn
    · exact hm

/-- An entry of the result whose key `kvs` assigns holds the last value assigned. -/
theorem snd_of_mem_insertAll {m kvs : GoMap κ ν} {p : κ × ν} (hp : p ∈ insertAll m kvs)
    {v : ν} (hv : find? kvs.reverse p.1 = some v) : p.2 = v := by
  induction kvs generalizing m with
  | nil => simp at hv
  | cons kv kvs ih =>
    rw [find?_reverse_cons] at hv
    cases hl : find? kvs.reverse p.1 with
    | some v' => rw [hl] at hv; cases hv; exact ih hp hl
    | none =>
      rcases mem_insert (mem_of_mem_insertAll hp hl) with rfl | ⟨hk, -⟩
      · simpa [hl] using hv
      · simp [hl, Ne.symm hk] at hv

theorem insertAll_idem (m kvs : GoMap κ ν) : insertAll (insertAll m kvs) kvs = insertAll m kvs := by
  rw [insertAll_of_has (has_insertAll m kvs)]
  conv_rhs => rw [← List.map_id (insertAll m kvs)]
  refine List.map_congr_left fun p hp => ?_
  cases hl : find? kvs.reverse p.1 with
  | none => rfl
  | some v => simp [← snd_of_mem_insertAll hp hl]

/-- A read after the assignments of `kvs`: the last value assigned, else the old one. -/
theorem find?_insertAll (m kvs : GoMap κ ν) (k : κ) :
    find? (insertAll m kvs) k = (find? kvs.reverse k).or (find? m k) := by
  induction kvs generalizing m with
  | nil => simp
  | cons kv kvs ih =>
    rw [insertAll_cons, ih, find?_insert, find?_reverse_cons, Option.or_assoc]
    by_cases hk : kv.1 = k <;> simp [hk]

/-- A read after the assignments `m[k] = f(k)` of a list of keys. -/
theorem find?_foldl_insert (f : κ → ν) (ks : List κ) (m : GoMap κ ν) (k : κ) :
    find? (ks.foldl (fun m k => insert m k (f k)) m) k = if k ∈ ks then some (f k) else find? m k := by
  induction ks generalizing m with
  | nil => simp
  | cons j ks ih =>
    rw [List.foldl_cons, ih, find?_insert]
    by_cases hk : k ∈ ks
    · simp [hk]
    · by_cases hj : j = k <;> simp [hk, hj, Ne.symm]

theorem mem_of_find?_eq_some {m : GoMap κ ν} {k : κ} {v : ν} (h : find? m k = some v) :
    (k, v) ∈ m := by
  induction m with
  | nil => simp at h
  | cons p m ih =>
    obtain ⟨j, u⟩ := p
    by_cases hj : j = k
    · subst hj; simp at h; simp [h]
    · simp [hj] at h; exact .tail _ (ih h)

/-- In a map with distinct keys, an entry is what its key reads. -/
theorem find?_of_mem {m : GoMap κ ν} (hm : (m.map Prod.fst).Nodup) {k : κ} {v : ν}
    (h : (k, v) ∈ m) : find? m k = some v := by
  induction m with
  | nil => simp at h
  | cons p m ih =>
    obtain ⟨j, u⟩ := p
    rw [List.map_cons, List.nodup_cons] at hm
    rcases List.mem_cons.1 h with h | h
    · cases h; simp
    · have hj : j ≠ k := fun e => hm.1 (List.mem_map.2 ⟨(k, v), h, e.symm⟩)
      simp [hj, ih hm.2 h]

@[simp] theorem find?_erase (m : GoMap κ ν) (k k' : κ) :
    find? (erase m k) k' = if k = k' then none else find? m k' := by
  induction m with
  | nil => simp [erase]
  | cons p m ih =>
    obtain ⟨j, v⟩ := p
    by_cases hj : j = k <;> by_cases hk : k = k' <;> simp_all [erase, List.filter_cons]

end GoMap

/-- A bind: column name to canonical value, in the map's iteration order. -/
abbrev Bind := GoMap String Value

/-- What a cache entry holds: the row value `buildLocalCacheValue(DbData)`, the `nil` tombstone
`cacheNilValue`, or a search-index hash. -/
inductive CacheValue where
  | row (data : List Value)
  | nil
  | hash (fields : Bind)
  deriving DecidableEq, Repr

/-- `buildLocalCacheValue` (not in src): the local cache stores the row vector itself. -/
def buildLocalCacheValue (dbData : List Value) : CacheValue :=
  .row dbData

end Orm

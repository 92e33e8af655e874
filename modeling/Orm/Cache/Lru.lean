import Orm.Core.Value

/-!
# The LRU under a local cache

`LocalCache` keeps its entries in groupcache's `lru.Cache`, which is not code of this
repository; its model follows the library's code. The cache is a list of entries, most
recently used first, and a bound `MaxEntries` (`0` for none):

* `Get` of a present key moves its entry to the front;
* `Add` of a present key moves the entry to the front with the new value; of a new key it
  pushes the entry to the front and, past the bound, drops the oldest entry (`RemoveOldest`);
* `Remove` drops the key's entry, `Clear` every entry, and `Len` counts them.

Two layers sit on the model. Every operation keeps the cache **valid** (`Lru.Valid`): its keys
are distinct and, under a bound, never more than the bound. And the cache **approximates a
map** (`Lru.Sound`): put beside the plain map that the same assignments and deletions build,
every value the cache holds is the map's value for the key. The cache may have forgotten an
entry; it never returns a value the map does not hold. Without a bound it forgets nothing and
is the map (`Lru.Exact`).
-/

namespace Orm

/-- groupcache's `lru.Cache`: the entries, most recently used first, and the bound. -/
structure Lru (κ ν : Type) where
  /-- `MaxEntries`; `0` is no bound. -/
  maxEntries : Nat
  entries : List (κ × ν)
  deriving Repr

namespace Lru

variable {κ ν : Type} [DecidableEq κ] (c : Lru κ ν)

/-- `lru.New(maxEntries)`: an empty cache with the bound; `0` means no bound. -/
def new (maxEntries : Nat) : Lru κ ν :=
  ⟨maxEntries, []⟩

/-- The value under a key, leaving the order as it is. -/
def lookup (k : κ) : Option ν :=
  GoMap.find? c.entries k

/-- `Get`: a hit moves the entry to the front. -/
def get (k : κ) : Option ν × Lru κ ν :=
  match GoMap.find? c.entries k with
  | some v => (some v, { c with entries := (k, v) :: GoMap.erase c.entries k })
  | none => (none, c)

/-- `RemoveOldest`: the entry at the back goes. -/
def removeOldest : Lru κ ν :=
  { c with entries := c.entries.dropLast }

/-- `Add`: a present key moves to the front with the new value; a new key is pushed to the
front, and past the bound the oldest entry goes. -/
def add (k : κ) (v : ν) : Lru κ ν :=
  if GoMap.has c.entries k then { c with entries := (k, v) :: GoMap.erase c.entries k }
  else if c.maxEntries ≠ 0 ∧ c.maxEntries < c.entries.length + 1 then
    removeOldest { c with entries := (k, v) :: c.entries }
  else { c with entries := (k, v) :: c.entries }

/-- A write through the reference an entry holds: its value changes where it stands. This is no
method of `lru.Cache`; it is what a caller does that mutates a cached map. -/
def replace (k : κ) (v : ν) : Lru κ ν :=
  { c with entries := c.entries.map fun p => if p.1 = k then (k, v) else p }

/-- `Remove`: the key's entry goes, wherever it is. -/
def remove (k : κ) : Lru κ ν :=
  { c with entries := GoMap.erase c.entries k }

/-- `Len`: the number of entries. -/
def len : Nat :=
  c.entries.length

/-- `Clear`: no entry, the bound kept. -/
def clear : Lru κ ν :=
  { c with entries := [] }

@[simp] theorem maxEntries_get (k : κ) : (c.get k).2.maxEntries = c.maxEntries := by
  unfold get; split <;> rfl

@[simp] theorem maxEntries_add (k : κ) (v : ν) : (c.add k v).maxEntries = c.maxEntries := by
  unfold add; split_ifs <;> rfl

/-! ### Reads -/

/-- `Get` returns the value under the key. -/
@[simp] theorem get_fst (k : κ) : (c.get k).1 = c.lookup k := by
  unfold get lookup; split <;> simp_all

/-- `Get` changes the order only: every key reads as before. -/
@[simp] theorem lookup_get (k k' : κ) : (c.get k).2.lookup k' = c.lookup k' := by
  unfold get lookup
  split
  · rename_i v hv
    by_cases h : k = k'
    · subst h; simp [hv]
    · simp [h]
  · rfl

/-- `Add` of a key makes it read the new value, the bound notwithstanding. -/
@[simp] theorem lookup_add_self (k : κ) (v : ν) : (c.add k v).lookup k = some v := by
  unfold add lookup
  split_ifs with hk hb
  · simp
  · cases hc : c.entries with
    | nil => simp [hc] at hb
    | cons e es => simp [removeOldest, hc, List.dropLast_cons₂]
  · simp

@[simp] theorem lookup_remove (k k' : κ) : (c.remove k).lookup k' = if k = k' then none else c.lookup k' := by
  simp [remove, lookup]

@[simp] theorem lookup_clear (k : κ) : c.clear.lookup k = none := rfl

@[simp] theorem lookup_replace (k k' : κ) (v : ν) :
    (c.replace k v).lookup k' = if k = k' then (c.lookup k').map fun _ => v else c.lookup k' :=
  GoMap.find?_map_replace _ _ _ _

/-! ### Validity -/

/-- The invariant of the cache: distinct keys and, under a bound, no more entries than it. -/
structure Valid : Prop where
  nodup : (c.entries.map Prod.fst).Nodup
  bounded : c.maxEntries ≠ 0 → c.entries.length ≤ c.maxEntries

omit [DecidableEq κ] in
theorem valid_new (maxEntries : Nat) : (new maxEntries : Lru κ ν).Valid :=
  ⟨List.nodup_nil, fun _ => Nat.zero_le _⟩

theorem nodup_erase {es : List (κ × ν)} (h : (es.map Prod.fst).Nodup) (k : κ) :
    ((GoMap.erase es k).map Prod.fst).Nodup :=
  (List.Sublist.map _ (List.filter_sublist _)).nodup h

theorem not_mem_erase (es : List (κ × ν)) (k : κ) : k ∉ (GoMap.erase es k).map Prod.fst := by
  simp [GoMap.erase]

theorem length_erase_le (es : List (κ × ν)) (k : κ) : (GoMap.erase es k).length ≤ es.length :=
  List.length_filter_le _ _

/-- The entry of a present key is erased, so moving it to the front keeps the length. -/
theorem length_erase_of_has {es : List (κ × ν)} (h : (es.map Prod.fst).Nodup) {k : κ}
    (hk : GoMap.has es k = true) : (GoMap.erase es k).length + 1 = es.length := by
  induction es with
  | nil => simp [GoMap.has] at hk
  | cons e es ih =>
    obtain ⟨j, v⟩ := e
    rw [List.map_cons, List.nodup_cons] at h
    by_cases hj : j = k
    · subst hj
      have hes : GoMap.erase es j = es := List.filter_eq_self.2 fun e he => by
        have : e.1 ≠ j := fun h' => h.1 (List.mem_map.2 ⟨e, he, h'⟩)
        simpa using this
      simp only [GoMap.erase] at hes ⊢
      rw [List.filter_cons_of_neg (by simp), hes, List.length_cons]
    · have hk' : GoMap.has es k = true := by simpa [GoMap.has, hj] using hk
      simpa [GoMap.erase, List.filter_cons, hj] using ih h.2 hk'

theorem Valid.get {c : Lru κ ν} (h : c.Valid) (k : κ) : (c.get k).2.Valid := by
  unfold Lru.get
  split
  · rename_i v hv
    have hk : GoMap.has c.entries k = true := by simp [GoMap.has, hv]
    refine ⟨?_, fun hm => ?_⟩
    · exact List.nodup_cons.2 ⟨not_mem_erase _ _, nodup_erase h.nodup k⟩
    · have := length_erase_of_has h.nodup hk
      simpa [this] using h.bounded hm
  · exact h

theorem Valid.add {c : Lru κ ν} (h : c.Valid) (k : κ) (v : ν) : (c.add k v).Valid := by
  unfold Lru.add
  split_ifs with hk hb
  · refine ⟨List.nodup_cons.2 ⟨not_mem_erase _ _, nodup_erase h.nodup k⟩, fun hm => ?_⟩
    have := length_erase_of_has h.nodup hk
    simpa [this] using h.bounded hm
  · have hn : k ∉ c.entries.map Prod.fst := by simpa [GoMap.has_iff, GoMap.keys] using hk
    simp only [removeOldest]
    refine ⟨((List.dropLast_sublist _).map Prod.fst).nodup (List.nodup_cons.2 ⟨hn, h.nodup⟩),
      fun _ => ?_⟩
    have := h.bounded hb.1
    simp; omega
  · have hn : k ∉ c.entries.map Prod.fst := by simpa [GoMap.has_iff, GoMap.keys] using hk
    refine ⟨List.nodup_cons.2 ⟨hn, h.nodup⟩, fun hm => ?_⟩
    simp only [not_and, not_lt] at hb
    exact hb hm

theorem Valid.replace {c : Lru κ ν} (h : c.Valid) (k : κ) (v : ν) : (c.replace k v).Valid := by
  have hk : (c.replace k v).entries.map Prod.fst = c.entries.map Prod.fst := by
    simp only [Lru.replace, List.map_map]
    exact List.map_congr_left fun p _ => by by_cases hp : p.1 = k <;> simp [hp]
  exact ⟨hk ▸ h.nodup, fun hm => by simpa [Lru.replace] using h.bounded hm⟩

theorem Valid.remove {c : Lru κ ν} (h : c.Valid) (k : κ) : (c.remove k).Valid :=
  ⟨nodup_erase h.nodup k, fun hm => (length_erase_le _ _).trans (h.bounded hm)⟩

omit [DecidableEq κ] in
theorem valid_clear : c.clear.Valid :=
  ⟨List.nodup_nil, fun _ => Nat.zero_le _⟩

/-! ### The map the cache approximates -/

/-- Every value the cache holds is the map's value for its key. -/
def Sound (m : GoMap κ ν) : Prop :=
  ∀ k v, c.lookup k = some v → GoMap.find? m k = some v

/-- The cache holds exactly the map. -/
def Exact (m : GoMap κ ν) : Prop :=
  ∀ k, c.lookup k = GoMap.find? m k

theorem Exact.sound {c : Lru κ ν} {m : GoMap κ ν} (h : c.Exact m) : c.Sound m :=
  fun k _ hv => (h k) ▸ hv

theorem Sound.congr {c : Lru κ ν} {m m' : GoMap κ ν} (h : c.Sound m)
    (he : ∀ k, GoMap.find? m k = GoMap.find? m' k) : c.Sound m' :=
  fun k v hv => he k ▸ h k v hv

theorem Exact.congr {c : Lru κ ν} {m m' : GoMap κ ν} (h : c.Exact m)
    (he : ∀ k, GoMap.find? m k = GoMap.find? m' k) : c.Exact m' :=
  fun k => (h k).trans (he k)

/-- What `Add` keeps of the old entries, it keeps with their values: a key other than the one
added reads as before, or not at all once evicted. -/
theorem lookup_add_of_ne {c : Lru κ ν} (h : c.Valid) {k k' : κ} (hk : k ≠ k') (v : ν) {v' : ν}
    (hv : (c.add k v).lookup k' = some v') : c.lookup k' = some v' := by
  unfold Lru.add at hv
  split_ifs at hv with hh hb
  · simpa [lookup, hk] using hv
  · simp only [lookup, removeOldest] at hv
    rcases List.mem_cons.1 ((List.dropLast_sublist _).subset (GoMap.mem_of_find?_eq_some hv))
      with he | he
    · exact (hk (congrArg Prod.fst he).symm).elim
    · exact GoMap.find?_of_mem h.nodup he
  · simpa [lookup, hk] using hv

theorem Sound.get {c : Lru κ ν} {m : GoMap κ ν} (h : c.Sound m) (k : κ) : (c.get k).2.Sound m :=
  fun k' v hv => h k' v (by rwa [lookup_get] at hv)

theorem Sound.add {c : Lru κ ν} {m : GoMap κ ν} (hc : c.Valid) (h : c.Sound m) (k : κ) (v : ν) :
    (c.add k v).Sound (GoMap.insert m k v) := by
  intro k' v' hv
  rw [GoMap.find?_insert]
  by_cases hk : k = k'
  · subst hk; simpa using hv
  · rw [if_neg hk]; exact h k' v' (lookup_add_of_ne hc hk v hv)

theorem Sound.remove {c : Lru κ ν} {m : GoMap κ ν} (h : c.Sound m) (k : κ) :
    (c.remove k).Sound (GoMap.erase m k) := by
  intro k' v hv
  rw [lookup_remove] at hv
  rw [GoMap.find?_erase]
  split_ifs at hv ⊢
  exact h k' v hv

/-- Without a bound `Add` evicts nothing: the cache is the map built by the same assignments. -/
theorem Exact.add {c : Lru κ ν} {m : GoMap κ ν} (h0 : c.maxEntries = 0) (h : c.Exact m) (k : κ)
    (v : ν) : (c.add k v).Exact (GoMap.insert m k v) := by
  intro k'
  rw [GoMap.find?_insert]
  by_cases hk : k = k'
  · subst hk; simp
  · rw [if_neg hk, ← h k']
    unfold Lru.add lookup
    split_ifs <;> simp_all

theorem Exact.remove {c : Lru κ ν} {m : GoMap κ ν} (h : c.Exact m) (k : κ) :
    (c.remove k).Exact (GoMap.erase m k) := by
  intro k'; simp [h k']

theorem Exact.get {c : Lru κ ν} {m : GoMap κ ν} (h : c.Exact m) (k : κ) : (c.get k).2.Exact m :=
  fun k' => by rw [lookup_get]; exact h k'

end Lru

end Orm

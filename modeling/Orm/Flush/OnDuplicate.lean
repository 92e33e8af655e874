import Orm.Flush.Recursion

/-!
# `OnDuplicateKeyUpdate` when no row is affected

A new entity with `OnDuplicateKeyUpdate` is flushed at once, by one `INSERT ... ON DUPLICATE KEY
UPDATE`. When the statement affects no row, the code does not learn which row it collided
with: the loop `OUTER` takes the **first** unique index, in the order `schema.uniqueIndices` is
visited, whose columns all hold a value in the bind, searches the table for the bind's values
on it, and loads the entity from the row it finds.

* The entity is loaded from a row `R` (its `ID` and columns, `InDB` set) when `R` is the one row
  holding the bind's values on that first index (`flushOnDuplicateKeyUpdate_zero_loads`).
* When no row holds them there, or no index has all its columns bound, the entity is left as
  it was, whatever row the `INSERT` collided with (`flushOnDuplicateKeyUpdate_zero_keeps`).

So a collision on a later index is not seen: with the unique indexes `Email` and `Name` visited
in that order, `Track(member); Flush()` of a new member whose `Name` is taken and whose `Email`
is free leaves the member with `ID` `0` and not `InDB` (`duplicate_name_not_loaded`), while
with `Name` visited first it loads the member from the row it collided with
(`duplicate_name_first_loads`).

Both results go through `flushOnDuplicateKeyUpdate_zero`, which says once what the branch does
after a statement that affected no row, and through the database's `DbPool.exec_onDuplicate_zero`
and `Table.searchOne_of_only`.
-/

namespace Orm

/-- The test of the loop `OUTER` over `schema.uniqueIndices`: every column of the index holds a
value in the bind. -/
def indexBound (bind : Bind) (index : String × List String) : Bool :=
  index.2.all fun c => GoMap.findD bind c .null ≠ .null

/-- **The branch after a statement that affected no row**: the statement left the schema's
table and the entities as they were, and the entity is loaded from what the search on the first
bound unique index finds. -/
theorem flushOnDuplicateKeyUpdate_zero {a id : Nat} {s : TableSchema} {bind onUpdate : Bind}
    {w : World}
    (h0 : ((w.db s.mysqlPoolName).exec
      (.insertOnDuplicateKeyUpdate s.tableName (GoMap.keys (bindWithId (w.ent a).id bind))
        (GoMap.keys onUpdate))
      ((bindWithId (w.ent a).id bind).map Prod.snd ++ onUpdate.map Prod.snd)).2 = .ok ⟨id, 0⟩) :
    ∃ w₁, flushOnDuplicateKeyUpdate false a s bind onUpdate w =
        (match List.find? (indexBound (bindWithId (w.ent a).id bind)) s.uniqueIndices with
          | some idx => searchOne s (idx.2.map fun c =>
              (c, GoMap.findD (bindWithId (w.ent a).id bind) c .null)) a
          | none => pure ()) w₁ ∧
      (w₁.db s.mysqlPoolName).table s.tableName = (w.db s.mysqlPoolName).table s.tableName ∧
      w₁.ents = w.ents := by
  obtain ⟨p', hp'⟩ : ∃ p', (w.db s.mysqlPoolName).exec _ _ = (p', .ok ⟨id, 0⟩) :=
    ⟨_, Prod.ext rfl h0⟩
  refine ⟨w.setDb s.mysqlPoolName p', ?_,
    by simpa [hp'] using DbPool.exec_onDuplicate_zero h0, rfl⟩
  simp only [flushOnDuplicateKeyUpdate, getEntity, dbExec, bind_run, get_run, pure_run, set_run,
    hp', liftExcept, Bool.false_eq_true, ↓reduceIte, Nat.lt_irrefl]
  rfl

/-- The search finds a row: the entity is loaded from it. -/
theorem searchOne_run_found {s : TableSchema} {conds : Bind} {a id : Nat} {row : Bind} {w : World}
    (h : ((w.db s.mysqlPoolName).table s.tableName).searchOne conds = some (id, row)) :
    searchOne s conds a w =
      .ok ⟨⟩ { w with ents := GoMap.insert w.ents a (s.fromRow (w.ent a) id row) } := by
  simp [searchOne, getEntity, setEntity, h]

/-- The search finds no row: nothing changes. -/
theorem searchOne_run_none {s : TableSchema} {conds : Bind} {a : Nat} {w : World}
    (h : ((w.db s.mysqlPoolName).table s.tableName).searchOne conds = none) :
    searchOne s conds a w = .ok ⟨⟩ w := by
  simp [searchOne, h]

/-- **Loaded from the row of the first bound index.** When the `INSERT ... ON DUPLICATE KEY
UPDATE` of a new entity affects no row, the entity is loaded from `R` (its `ID` and columns,
`InDB` set) whenever `R` is the one row of the table that holds the bind's values on the first
unique index, in the order the indexes are visited, whose columns all hold a value in the
bind. -/
theorem flushOnDuplicateKeyUpdate_zero_loads {a id : Nat} {s : TableSchema}
    {bind onUpdate : Bind} {w : World} {idx : String × List String} {R : Nat × Bind}
    (h0 : ((w.db s.mysqlPoolName).exec
      (.insertOnDuplicateKeyUpdate s.tableName (GoMap.keys (bindWithId (w.ent a).id bind))
        (GoMap.keys onUpdate))
      ((bindWithId (w.ent a).id bind).map Prod.snd ++ onUpdate.map Prod.snd)).2 = .ok ⟨id, 0⟩)
    (hidx : List.find? (indexBound (bindWithId (w.ent a).id bind)) s.uniqueIndices = some idx)
    (hR : R ∈ ((w.db s.mysqlPoolName).table s.tableName).rows)
    (hmatch : ∀ c ∈ idx.2,
      GoMap.findD R.2 c .null = GoMap.findD (bindWithId (w.ent a).id bind) c .null)
    (honly : ∀ p ∈ ((w.db s.mysqlPoolName).table s.tableName).rows, (∀ c ∈ idx.2,
      GoMap.findD p.2 c .null = GoMap.findD (bindWithId (w.ent a).id bind) c .null) → p = R) :
    ∃ w', flushOnDuplicateKeyUpdate false a s bind onUpdate w = .ok ⟨⟩ w' ∧
      w'.ent a = s.fromRow (w.ent a) R.1 R.2 := by
  obtain ⟨w₁, hrun, ht, he⟩ := flushOnDuplicateKeyUpdate_zero h0
  rw [hrun, hidx]
  exact ⟨_, searchOne_run_found (ht ▸ Table.searchOne_of_only hR hmatch honly),
    by simp [World.ent, he]⟩

/-- **Left as it was.** When the statement affects no row and no row of the table holds the
bind's values on the first unique index whose columns all hold a value in the bind (or no index
has all its columns bound), the entity is left as it was, whatever row the `INSERT` collided
with: a new entity keeps `ID` `0` and stays out of the database. -/
theorem flushOnDuplicateKeyUpdate_zero_keeps {a id : Nat} {s : TableSchema}
    {bind onUpdate : Bind} {w : World}
    (h0 : ((w.db s.mysqlPoolName).exec
      (.insertOnDuplicateKeyUpdate s.tableName (GoMap.keys (bindWithId (w.ent a).id bind))
        (GoMap.keys onUpdate))
      ((bindWithId (w.ent a).id bind).map Prod.snd ++ onUpdate.map Prod.snd)).2 = .ok ⟨id, 0⟩)
    (hnone : ∀ idx,
      List.find? (indexBound (bindWithId (w.ent a).id bind)) s.uniqueIndices = some idx →
      ∀ p ∈ ((w.db s.mysqlPoolName).table s.tableName).rows, ¬ ∀ c ∈ idx.2,
        GoMap.findD p.2 c .null = GoMap.findD (bindWithId (w.ent a).id bind) c .null) :
    ∃ w', flushOnDuplicateKeyUpdate false a s bind onUpdate w = .ok ⟨⟩ w' ∧
      w'.ent a = w.ent a := by
  obtain ⟨w₁, hrun, ht, he⟩ := flushOnDuplicateKeyUpdate_zero h0
  have hw₁ : w₁.ent a = w.ent a := by simp [World.ent, he]
  rw [hrun]
  cases hidx : List.find? (indexBound (bindWithId (w.ent a).id bind)) s.uniqueIndices with
  | none => exact ⟨_, rfl, hw₁⟩
  | some idx => exact ⟨_, searchOne_run_none (ht ▸ Table.searchOne_none (hnone idx hidx)), hw₁⟩

/-! ### Two unique indexes -/

/-- `orm.member`, whose unique indexes `Email` and `Name` are visited in the given order. -/
def memberSchema (uniqueIndices : GoMap String (List String)) : TableSchema :=
  { plainSchema "orm.member" "member" ["ID", "Email", "Name"] with uniqueIndices := uniqueIndices }

/-- The unique indexes, `Email` visited first. -/
def emailFirst : GoMap String (List String) :=
  [("Email", ["Email"]), ("Name", ["Name"])]

/-- The unique indexes, `Name` visited first. -/
def nameFirst : GoMap String (List String) :=
  [("Name", ["Name"]), ("Email", ["Email"])]

/-- The row of member `1`: `a@x`, named `ann`. -/
def annRow : Bind :=
  [("Email", .str "a@x"), ("Name", .str "ann")]

/-- The pool `default`, whose table `member` has both unique indexes and member `1`. -/
def memberPool : DbPool :=
  { DbPool.empty with tables := [("member", ⟨[(1, annRow)], 2, emailFirst⟩)] }

/-- The bind of a new member `b@x`, named `ann`. -/
def newMemberBind : Bind :=
  [("Email", .str "b@x"), ("Name", .str "ann")]

/-- A new member `b@x`, named `ann`, with `OnDuplicateKeyUpdate` and no assignment. -/
def newMember : Entity :=
  { (memberSchema emailFirst).newEntity with
    fields := newMemberBind, onDuplicateKeyUpdate := some [] }

/-- `Track(member)` of the new member, with the unique indexes visited in the given order. -/
def memberWorld (uniqueIndices : GoMap String (List String)) : World where
  engine := ⟨[("orm.member", memberSchema uniqueIndices)], false, [], [], none⟩
  flusher := { Flusher.empty with trackedEntities := [0], trackedEntitiesCounter := 1 }
  ents := [(0, newMember)]
  nextEnt := 1
  rfs := []
  nextRf := 0
  dbs := [("default", memberPool)]
  localCaches := []
  redisCaches := []
  streams := []

/-- `Track(member); Flush()` with `Email` visited first: the `INSERT` collides with member `1`
on `Name` and affects no row, and the new member is left with `ID` `0`, not `InDB`. -/
theorem duplicate_name_not_loaded :
    (memberPool.table "member").conflict newMemberBind = some (1, annRow) ∧
      (memberPool.exec (.insertOnDuplicateKeyUpdate "member" ["Email", "Name"] [])
        [.str "b@x", .str "ann"]).2 = .ok ⟨1, 0⟩ ∧
      ∃ w, flushTrackedEntities 1 false false (memberWorld emailFirst) = .ok ⟨⟩ w ∧
        (w.ent 0).id = 0 ∧ (w.ent 0).inDB = false :=
  ⟨rfl, rfl, _, rfl, rfl, rfl⟩

/-- With `Name` visited first, the branch loads the new member from member `1`. -/
theorem duplicate_name_first_loads :
    ∃ w', flushOnDuplicateKeyUpdate false 0 (memberSchema nameFirst) newMemberBind []
        (memberWorld nameFirst) = .ok ⟨⟩ w' ∧
      w'.ent 0 = (memberSchema nameFirst).fromRow ((memberWorld nameFirst).ent 0) 1 annRow :=
  @flushOnDuplicateKeyUpdate_zero_loads 0 1 (memberSchema nameFirst) newMemberBind []
    (memberWorld nameFirst) ("Name", ["Name"]) (1, annRow) rfl rfl (by decide) (by decide)
    (by decide)

/-- With `Email` visited first, the branch searches on `Email`, finds nothing, and leaves the
new member as it was. -/
theorem email_first_keeps_member :
    ∃ w', flushOnDuplicateKeyUpdate false 0 (memberSchema emailFirst) newMemberBind []
        (memberWorld emailFirst) = .ok ⟨⟩ w' ∧ w'.ent 0 = (memberWorld emailFirst).ent 0 :=
  @flushOnDuplicateKeyUpdate_zero_keeps 0 1 (memberSchema emailFirst) newMemberBind []
    (memberWorld emailFirst) rfl fun idx h => by
      cases (h : some ("Email", ["Email"]) = some idx)
      decide

end Orm

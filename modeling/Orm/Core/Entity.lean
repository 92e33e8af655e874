import Orm.Core.Schema

/-!
# Entities and their ORM state

An entity is the ORM record the flush engine reads and writes through `entity.getORM()`:
its `ID` field, its other field values, its reference fields, the row vector `DbData` of the
last DB-known state, and the `Loaded`, `InDB`, delete, fake-delete and lazy flags. Entities are
pointers in the program, so the model keeps them in a heap (a map from addresses to entities)
and refers to them by address; reference fields hold addresses.

Shape decisions:

* an entity's field values are kept as canonical values per column (`fields`), the values
  the column's bind setter yields for them; reference columns read the referenced entity's
  `ID` from the heap;
* `DbData` is empty while Go's slice is `nil`; `initDBData` (not in src) allocates a row of
  `nil`s of the schema's width;
* `getDirtyBind` is not in src and is **modelled from the spec**: a deleted entity is dirty
  with an empty bind; otherwise the bind holds every column (after `ID`) whose current value
  differs from `DbData` — every column for an entity not in the DB — and the entity is dirty
  when the bind is non-empty or its `ID` is `0`. The `UPDATE` literals of `updateBind` are
  the bind's values rendered by `Orm.sqlLiteral`;
* `injectBind` and `convertDBDataToMap` are translated from src; their slice accesses panic
  past the end of the row.
-/

namespace Orm

/-- The ORM state of one entity. -/
structure Entity where
  /-- The Go type's name. -/
  t : String
  /-- The `ID` field. -/
  id : Nat
  /-- Current canonical values of the ordinary columns. -/
  fields : Bind
  /-- Reference fields holding an entity, by heap address. -/
  refOne : GoMap String Nat
  /-- Reference-slice fields. -/
  refMany : GoMap String (List Nat)
  /-- `DbData`; empty while `nil`. -/
  dbData : List Value
  loaded : Bool
  inDB : Bool
  delete : Bool
  fakeDelete : Bool
  /-- `IsLazy()`: an entity loaded lazily, which cannot be flushed. -/
  lazy : Bool
  logMeta : Bind
  onDuplicateKeyUpdate : Option Bind
  deriving Repr

/-- The entity an address holding no entity reads as; a run never reads one. -/
def Entity.zero : Entity :=
  ⟨"", 0, [], [], [], [], false, false, false, false, false, [], none⟩

/-- The entity heap: the entities by address. -/
abbrev Heap := GoMap Nat Entity

/-- The entity at an address. -/
def Heap.read (h : Heap) (a : Nat) : Entity :=
  GoMap.findD h a Entity.zero

@[simp] theorem Heap.read_insert (h : Heap) (a b : Nat) (e : Entity) :
    Heap.read (GoMap.insert h a e) b = if a = b then e else Heap.read h b :=
  GoMap.findD_insert h a b e _

namespace TableSchema

variable (s : TableSchema)

/-- `initDBData` (not in src): allocate the `nil` row when `DbData` is `nil`. -/
def initDBData (data : List Value) : List Value :=
  if data = [] then List.replicate s.columnNames.length .null else data

/-- The current value of column `c` of entity `e`: the referenced entity's `ID` for a
reference field holding an entity (`nil` for an unsaved one), the `ID` as the `FakeDelete`
value of an entity marked for soft deletion, its field value otherwise (a loaded entity's
reference field holds the referenced `ID` there). -/
def currentValue (h : Heap) (e : Entity) (c : String) : Value :=
  if s.hasFakeDelete && e.fakeDelete && c = "FakeDelete" then .u64 e.id
  else if c ∈ s.refOne then
    match GoMap.find? e.refOne c with
    | some r => if (h.read r).id = 0 then .null else .u64 (h.read r).id
    | none => GoMap.findD e.fields c .null
  else GoMap.findD e.fields c .null

/-- `getDirtyBind` (not in src), modelled from the spec: the bind and whether the entity is
dirty. -/
def getDirtyBind (h : Heap) (e : Entity) : Bind × Bool :=
  if e.delete || (e.fakeDelete && !s.hasFakeDelete) then ([], true)
  else
    let data := s.initDBData e.dbData
    let bind := (s.columnNames.drop 1).filterMap fun c =>
      let v := s.currentValue h e c
      if e.inDB && data.getD (s.columnMapping c) .null = v then none else some (c, v)
    (bind, e.id = 0 || !bind.isEmpty)

/-- `convertDBDataToMap`: the row as a map of every column after `ID`. -/
def convertDBDataToMap (data : List Value) : Except Fault Bind :=
  (s.columnNames.drop 1).mapM fun name => do
    let v ← getIdx data (s.columnMapping name)
    return (name, v)

end TableSchema

/-- `injectBind`: write the bind into `DbData` by column mapping and set `Loaded` and `InDB`. -/
def Entity.injectBind (s : TableSchema) (e : Entity) (bind : Bind) : Except Fault Entity := do
  let data ← bind.foldlM (fun d kv => setIdx d (s.columnMapping kv.1) kv.2) (s.initDBData e.dbData)
  return { e with dbData := data, loaded := true, inDB := true }

/-- `markToDelete` (not in src): mark for deletion, soft where the schema has `FakeDelete`. -/
def Entity.markToDelete (e : Entity) : Entity :=
  { e with fakeDelete := true }

/-- `forceMarkToDelete` (not in src): mark for a hard delete. -/
def Entity.forceMarkToDelete (e : Entity) : Entity :=
  { e with delete := true }

/-- An entity filled from a row of its table (what a search or `loadByID` returns, not in
src): `ID`, the row as fields and as `DbData`, loaded and in the DB. -/
def TableSchema.fromRow (s : TableSchema) (e : Entity) (id : Nat) (row : Bind) : Entity :=
  { e with t := s.t, id := id, fields := row, refOne := [], refMany := [],
           dbData := s.columnNames.map fun c => if c = "ID" then .u64 id else GoMap.findD row c .null,
           loaded := true, inDB := true }

/-- A fresh entity object of a schema's type. -/
def TableSchema.newEntity (s : TableSchema) : Entity :=
  ⟨s.t, 0, [], [], [], [], false, false, false, false, false, [], none⟩

/-- The SQL literal an `UPDATE` writes for a value (the `updateBind` rendering, not in src). -/
def sqlLiteral : Value → String
  | .null => "NULL"
  | .u64 n => toString n
  | .i64 n => toString n
  | .str s => "'" ++ s ++ "'"
  | .bool b => if b then "1" else "0"

end Orm

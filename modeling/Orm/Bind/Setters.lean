import Orm.Bind.Any

/-!
# The setters of a bool column

A column has three functions: its **bind setter** turns any Go value into the canonical value
the flush binds (or refuses it with a `BindError`), its **field setter** writes a canonical value
into the entity's field, and its **field getter** reads the field back as a Go value. Dirty
detection relies on canonical values being fixed points of bind setter after field getter
after field setter.

For a bool column the three are `createBoolFieldBindSetter` (wrapped by
`createNullableFieldBindSetter` on a nullable column), `createBoolFieldSetter` or
`createBoolNullableFieldSetter`, and `createFieldGetter`. The bind setter takes a `nil` `*bool`
to the canonical `nil` whatever the column, but the field setter of a non-nullable column
asserts a `bool` and panics on it (`boolColumn_nil_pointer_panics`).

Shape decisions:

* which setters a column gets is decided by the schema builder, which is not in src; it is
  **modelled from the spec**: the nullable wrapper and the pointer field setter for a nullable
  column, the plain ones otherwise;
* `strings.ToLower` is `String.toLower`, which lowers ASCII letters only. The one non-ASCII
  capital that Go lowers to an ASCII letter, the Kelvin sign, gives `k`, which none of `true`,
  `1`, `yes` contains.
-/

namespace Orm

/-- `createBoolFieldBindSetter`: a bool or a non-nil `*bool` as it is, a nil `*bool` as `nil`,
an `int` as whether it is `1`, a string as whether its lower case is `true`, `1` or `yes`;
anything else is an invalid value. -/
def createBoolFieldBindSetter (columnName : String) : GoAny → Except BindError Value
  | .bool b => .ok (.bool b)
  | .boolPtr none => .ok .null
  | .boolPtr (some b) => .ok (.bool b)
  | .int n => .ok (.bool (n = 1))
  | .str s =>
    let s := s.toLower
    .ok (.bool (s = "true" || s = "1" || s = "yes"))
  | _ => .error ⟨columnName, "invalid value"⟩

/-- `createNullableFieldBindSetter`: `nil` passes as the canonical `nil`. -/
def createNullableFieldBindSetter (setter : GoAny → Except BindError Value) (v : GoAny) :
    Except BindError Value :=
  if v = .nil then .ok .null else setter v

/-- `createBoolFieldSetter`: the field's new value; the assertion `v.(bool)` panics on anything
else. -/
def createBoolFieldSetter : Value → Except Fault Bool
  | .bool b => .ok b
  | _ => .error (.panic "interface conversion: interface \x7b\x7d is nil, not bool")

/-- `createBoolNullableFieldSetter`: the `*bool` field's new value. -/
def createBoolNullableFieldSetter : Value → Except Fault (Option Bool)
  | .null => .ok none
  | .bool b => .ok (some b)
  | _ => .error (.panic "interface conversion: interface \x7b\x7d is not bool")

/-- `createFieldGetter` on a `*bool` field: `nil` for the nil pointer, else the pointer. -/
def boolNullableFieldGetter : Option Bool → GoAny
  | none => .nil
  | some b => .boolPtr (some b)

/-- A bool column. -/
structure BoolColumn where
  columnName : String
  nullable : Bool

namespace BoolColumn

variable (c : BoolColumn)

/-- The column's bind setter. -/
def bindSetter : GoAny → Except BindError Value :=
  if c.nullable then createNullableFieldBindSetter (createBoolFieldBindSetter c.columnName)
  else createBoolFieldBindSetter c.columnName

/-- Write a canonical value with the column's field setter and read the field back with its
getter. -/
def setAndGet (v : Value) : Except Fault GoAny :=
  if c.nullable then boolNullableFieldGetter <$> createBoolNullableFieldSetter v
  else GoAny.bool <$> createBoolFieldSetter v

end BoolColumn

/-- On a non-nullable bool column, a `nil` `*bool` is accepted as the canonical `nil`, which
the field setter cannot write. -/
theorem boolColumn_nil_pointer_panics (columnName : String) :
    (BoolColumn.mk columnName false).bindSetter (.boolPtr none) = .ok .null ∧
      (BoolColumn.mk columnName false).setAndGet .null =
        .error (.panic "interface conversion: interface \x7b\x7d is nil, not bool") :=
  ⟨rfl, rfl⟩

end Orm

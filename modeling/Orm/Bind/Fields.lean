import Orm.Bind.Text
import Orm.Bind.Setters
import Mathlib.Data.List.Basic
import Mathlib.Data.List.DropRight

/-!
# Field setters, the getter, and the round trip of a column

A column's **field setter** writes a canonical value into the entity's field, and
`createFieldGetter` reads the field back. Dirty detection binds what it reads back and compares
it with the value bound last, so a canonical value that does not come back as itself is seen as
a change at every flush. This module models the field setters of the integer, reference, string
and set columns, the getter, and the `AttrToString` setters not modelled with their columns'
bind setters. It proves that the values the bind setters return come back:

* on an integer column, every value does when the column's range `[min, max]` fits the field's
  Go type (`numberColumn_faithful`). `SetUint` and `SetInt` keep the low bits, so a wider range
  does not come back;
* on a set column, every value does, with no condition: the comma-joined text the bind setter
  keeps, split into a `[]string` and printed with `%v`, gives the same text again
  (`setColumn_faithful`);
* on a string column, every value does (`stringColumn_faithful`).

Shape decisions:

* a field is the Go value it holds, as a `GoAny`. The walk of `getSetterField` through the
  parents and arrays down to the field, and the writes through it, are in `Orm.Bind.FieldPath`;
* which setters, which Go type and which `nullable` flag a column's field gets is decided by the
  schema builder, which is not in src. It is **modelled from the spec**: an integer field is a
  pointer exactly when its column is nullable, and unsigned exactly when its column is; the
  getter of a string field is not nullable, since a string has no `nil`;
* a `[]string` of no element is the nil slice: the set field setter writes no other empty slice.
-/

namespace Orm

/-! ### The getter -/

/-- The kind `reflect` names in the panic of a method called on a value of another kind. -/
def GoAny.kindName : GoAny → String
  | .boolPtr _ | .intPtr _ | .uintPtr _ _ | .sintPtr _ _ | .floatPtr _ _ | .timePtr _
  | .entityPtr _ _ => "ptr"
  | .strs _ => "slice"
  | .time _ | .entity _ _ => "struct"
  | .reference _ _ => "uint64"
  | v => v.typeName

/-- `reflect.Value.IsNil` on a field holding the value: whether the pointer or the slice is nil,
or `none` for a kind without `nil`, on which `IsNil` panics. -/
def GoAny.isNil? : GoAny → Option Bool
  | .boolPtr p => some p.isNone
  | .intPtr p => some p.isNone
  | .uintPtr _ p => some p.isNone
  | .sintPtr _ p => some p.isNone
  | .floatPtr _ p => some p.isNone
  | .timePtr p => some p.isNone
  | .entityPtr _ p => some p.isNone
  | .strs xs => some xs.isEmpty
  | _ => none

/-- The panic of a `reflect.Value` method called on a value of another kind. -/
def kindPanic (method kind : String) : Fault :=
  .panic ("reflect: call of reflect.Value." ++ method ++ " on " ++ kind ++ " Value")

/-- `createFieldGetter`, on the field's value: `nil` for a nil pointer or slice of a nullable
column, else the value itself. -/
def createFieldGetter (nullable : Bool) (field : GoAny) : Except Fault GoAny :=
  if nullable then
    match field.isNil? with
    | some true => .ok .nil
    | some false => .ok field
    | none => .error (kindPanic "IsNil" field.kindName)
  else .ok field

/-! ### Field setters -/

/-- `v.(uint64)` on a canonical value. -/
def assertUint64 : Value → Except Fault Nat
  | .u64 n => .ok n
  | v => .error (assertionPanic v.toAny "uint64")

/-- `v.(int64)` on a canonical value. -/
def assertInt64 : Value → Except Fault Int
  | .i64 i => .ok i
  | v => .error (assertionPanic v.toAny "int64")

/-- The Go type of an integer field. -/
inductive IntType where
  | unsigned (w : UWidth)
  | signed (w : SWidth)
  /-- Go's `int`, 64 bits wide. -/
  | int
  deriving DecidableEq, Repr

def IntType.name : IntType → String
  | .unsigned w => w.name
  | .signed w => w.name
  | .int => "int"

def IntType.isUnsigned : IntType → Bool
  | .unsigned _ => true
  | _ => false

/-- `SetZero` on a field of type `t`, or on a pointer to one. -/
def IntType.zero : IntType → Bool → GoAny
  | .unsigned w, false => .uint w 0
  | .unsigned w, true => .uintPtr w none
  | .signed w, false => .sint w 0
  | .signed w, true => .sintPtr w none
  | .int, false => .int 0
  | .int, true => .intPtr none

/-- `SetUint(n)` on a field of type `t`, or, for a pointer field, on a new value of type `t` the
field then points to: the value keeps the low bits of `n`. It panics on a signed type. -/
def IntType.setUint : IntType → Bool → Nat → Except Fault GoAny
  | .unsigned w, false, n => .ok (.uint w (BitVec.ofNat _ n))
  | .unsigned w, true, n => .ok (.uintPtr w (some (BitVec.ofNat _ n)))
  | t, _, _ => .error (kindPanic "SetUint" t.name)

/-- `SetInt(i)`, likewise: the low bits of `i`. It panics on an unsigned type. -/
def IntType.setInt : IntType → Bool → Int → Except Fault GoAny
  | .signed w, false, i => .ok (.sint w (BitVec.ofInt _ i))
  | .signed w, true, i => .ok (.sintPtr w (some (BitVec.ofInt _ i)))
  | .int, false, i => .ok (.int (wrapInt64 i))
  | .int, true, i => .ok (.intPtr (some (wrapInt64 i)))
  | t, _, _ => .error (kindPanic "SetInt" t.name)

/-- `createNumberFieldSetter`, on a field of type `t`, a pointer to one on a nullable column. -/
def createNumberFieldSetter (unsigned nullable : Bool) (t : IntType) : Value → Except Fault GoAny
  | .null => .ok (t.zero nullable)
  | v =>
    if unsigned then assertUint64 v >>= t.setUint nullable
    else assertInt64 v >>= t.setInt nullable

/-- `createReferenceFieldSetter`, on a `Reference[T]` field, an id, of target type `t`: `nil`
writes the id `0`, and `SetUint` keeps the low 64 bits. -/
def createReferenceFieldSetter (t : String) : Value → Except Fault GoAny
  | .null => .ok (.reference t 0)
  | v => (fun n => .reference t (n % 2 ^ 64)) <$> assertUint64 v

/-- `createStringFieldSetter`: `""` for `nil`, else the asserted string. -/
def createStringFieldSetter : Value → Except Fault GoAny
  | .null => .ok (.str "")
  | v => GoAny.str <$> formatString v.toAny

/-- `createSetFieldSetter`: the nil slice for `nil`, else the asserted string split at its
commas. -/
def createSetFieldSetter : Value → Except Fault GoAny
  | .null => .ok (.strs [])
  | v => (fun s => .strs (splitComma s)) <$> formatString v.toAny

/-! ### The other `AttrToString` setters

`createFloatAttrToStringSetter` and `createDateTimeAttrToStringSetter` assert a `string`, as
`createStringAttrToStringSetter` does, and `createBoolAttrToStringSetter` asserts a `bool` and
prints it as `1` or `0`: each is `attrToStringSetter` with its assertion. -/

/-- `v.(bool)`, printed as `1` or `0`. -/
def formatBool : GoAny → Except Fault String
  | .bool b => .ok (if b then "1" else "0")
  | v => .error (assertionPanic v "bool")

/-- `createFloatAttrToStringSetter`: the column's text of a value, which must be a `string`
once bound. -/
def createFloatAttrToStringSetter (setter : GoAny → Except BindError Value) :
    GoAny → Bool → Except Fault (Except BindError String) :=
  attrToStringSetter formatString setter

/-- `createBoolAttrToStringSetter`: the column's text of a value, which must be a `bool` once
bound, as `1` or `0`. -/
def createBoolAttrToStringSetter (setter : GoAny → Except BindError Value) :
    GoAny → Bool → Except Fault (Except BindError String) :=
  attrToStringSetter formatBool setter

/-- `createDateTimeAttrToStringSetter`: the column's text of a value, which must be a `string`
once bound. -/
def createDateTimeAttrToStringSetter (setter : GoAny → Except BindError Value) :
    GoAny → Bool → Except Fault (Except BindError String) :=
  attrToStringSetter formatString setter

/-- `createNotSupportedAttrToStringSetter`: a `BindError` that names the value's type. -/
def createNotSupportedAttrToStringSetter (columnName : String) (v : GoAny) (_ : Bool) :
    Except Fault (Except BindError String) :=
  .ok (.error ⟨columnName, "type " ++ v.typeName ++ " is not supported"⟩)

/-! ### Columns -/

/-- A column's bind setter, field setter and getter, over the values its field holds. -/
structure Column where
  bindSetter : GoAny → Except Fault (Except BindError Value)
  fieldSetter : Value → Except Fault GoAny
  fieldGetter : GoAny → Except Fault GoAny

namespace Column

variable (c : Column)

/-- Write a canonical value into the field, read the field back, and bind what was read. -/
def rebind (v : Value) : Except Fault (Except BindError Value) :=
  c.fieldSetter v >>= c.fieldGetter >>= c.bindSetter

/-- Every value the bind setter returns comes back as itself. -/
def Faithful : Prop :=
  ∀ x v, c.bindSetter x = .ok (.ok v) → c.rebind v = .ok (.ok v)

end Column

/-- An integer column on a field of type `t`. -/
def numberColumn (columnName : String) (t : IntType) (nullable : Bool) (min : Int) (max : Nat) :
    Column where
  bindSetter v := .ok (createNumberFieldBindSetter columnName t.isUnsigned nullable min max v)
  fieldSetter := createNumberFieldSetter t.isUnsigned nullable t
  fieldGetter := createFieldGetter nullable

/-- A string column. -/
def stringColumn (columnName : String) (length : Nat) (required : Bool) : Column where
  bindSetter v := .ok (createStringFieldBindSetter columnName length required v)
  fieldSetter := createStringFieldSetter
  fieldGetter := createFieldGetter false

/-- A set column over the enum definition `d`, on the column's string setter. -/
def setColumn (columnName : String) (length : Nat) (stringRequired : Bool) (d : EnumDefinition)
    (nullable : Bool) : Column where
  bindSetter := createSetFieldBindSetter columnName (enumOf columnName length stringRequired d) d
  fieldSetter := createSetFieldSetter
  fieldGetter := createFieldGetter nullable

/-! ### Integer columns -/

/-- The column's range `[min, max]` lies in the range of the field's type. -/
def IntType.Holds : IntType → Int → Nat → Prop
  | .unsigned w, _, max => max < 2 ^ w.bits
  | .signed w, min, max => -2 ^ (w.bits - 1) ≤ min ∧ max < 2 ^ (w.bits - 1)
  | .int, min, max => -2 ^ 63 ≤ min ∧ max < 2 ^ 63

instance (t : IntType) (min : Int) (max : Nat) : Decidable (t.Holds min max) :=
  match t with
  | .unsigned w => inferInstanceAs (Decidable (max < 2 ^ w.bits))
  | .signed w => inferInstanceAs (Decidable (-2 ^ (w.bits - 1) ≤ min ∧ max < 2 ^ (w.bits - 1)))
  | .int => inferInstanceAs (Decidable (-2 ^ 63 ≤ min ∧ max < 2 ^ 63))

theorem nilValue_ok {columnName : String} {nullable : Bool} {r : Value}
    (h : nilValue columnName nullable = .ok r) : r = .null ∧ nullable = true := by
  cases nullable <;> simp [nilValue] at h
  exact ⟨h.symm, rfl⟩

/-- What the integer setter returns: `nil` on a nullable column, a `uint64` up to `max` on an
unsigned column, and on a signed one an `int64` at most `max` above zero and at least `min`
below it. -/
theorem createNumberFieldBindSetter_ok {columnName : String} {unsigned nullable : Bool}
    {min : Int} {max : Nat} {v : GoAny} {r : Value}
    (h : createNumberFieldBindSetter columnName unsigned nullable min max v = .ok r) :
    (r = .null ∧ nullable = true) ∨ (unsigned = true ∧ ∃ n : Nat, r = .u64 n ∧ n ≤ max) ∨
      (unsigned = false ∧ ∃ i : Int, r = .i64 i ∧ (0 < i → i ≤ max) ∧ (i < 0 → min ≤ i)) := by
  unfold createNumberFieldBindSetter at h
  split at h
  · exact .inl (nilValue_ok h)
  split at h
  · cases h
  · exact .inl (nilValue_ok h)
  · cases unsigned
    case false =>
      simp only [Bool.not_false, ↓reduceIte] at h
      split_ifs at h <;> simp only [reduceCtorEq, Except.ok.injEq] at h <;> subst h <;>
        exact .inr (.inr ⟨rfl, _, rfl,
          fun _ => by simp only [Bool.and_eq_true, decide_eq_true_eq, not_and] at *; omega,
          fun _ => by simp only [Bool.and_eq_true, decide_eq_true_eq, not_and] at *; omega⟩)
    case true =>
      simp only [Bool.not_true, Bool.false_eq_true, ↓reduceIte] at h
      split_ifs at h <;> simp only [reduceCtorEq, Except.ok.injEq] at h <;> subst h <;>
        exact .inr (.inl ⟨rfl, _, rfl, by omega⟩)

/-- A signed value in the range of its width comes back from its bits. -/
theorem toInt_ofInt_of_bounds (w : SWidth) {i : Int} (h₁ : -2 ^ (w.bits - 1) ≤ i)
    (h₂ : i < 2 ^ (w.bits - 1)) : (BitVec.ofInt w.bits i).toInt = i := by
  rw [BitVec.toInt_ofInt, Int.bmod_def]
  cases w <;> simp only [SWidth.bits] at * <;> norm_cast at * <;> split <;> omega

/-- The integer setter binds a `uint64` operand up to `max` on an unsigned column to itself. -/
theorem createNumberFieldBindSetter_of_u64 {columnName : String} {nullable : Bool} {min : Int}
    {max n : Nat} {v : GoAny} (hv : v ≠ .nil)
    (h : numberOperand columnName true v = .ok (some (n, 0))) (hn : n ≤ max) :
    createNumberFieldBindSetter columnName true nullable min max v = .ok (.u64 n) := by
  simp [createNumberFieldBindSetter, hv, h, hn]

/-- The integer setter binds an `int64` operand in the column's range on a signed column to
itself. -/
theorem createNumberFieldBindSetter_of_i64 {columnName : String} {nullable : Bool} {min : Int}
    {max : Nat} {i : Int} {v : GoAny} (hv : v ≠ .nil)
    (h : numberOperand columnName false v = .ok (some (0, i))) (hmax : 0 < i → i ≤ max)
    (hmin : i < 0 → min ≤ i) :
    createNumberFieldBindSetter columnName false nullable min max v = .ok (.i64 i) := by
  have hnmax : ¬(0 < i ∧ (max : Int) < i) := fun h => by omega
  have hnmin : ¬(i < 0 ∧ i < min) := fun h => by omega
  simp [createNumberFieldBindSetter, hv, h, hnmax, hnmin]

/-- **An integer column gives back every value it binds**, when its range fits the field's
type: written with `SetUint` or `SetInt`, read back and bound again, the value is the same, and
`nil` on a nullable column too. -/
theorem numberColumn_faithful (columnName : String) (t : IntType) (nullable : Bool) (min : Int)
    (max : Nat) (h : t.Holds min max) : (numberColumn columnName t nullable min max).Faithful := by
  intro x v hx
  rcases createNumberFieldBindSetter_ok (Except.ok.inj hx) with
    ⟨rfl, rfl⟩ | ⟨hu, n, rfl, hn⟩ | ⟨hu, i, rfl, hmax, hmin⟩
  · cases t <;> rfl
  · cases t with
    | unsigned w =>
      have hbits : (BitVec.ofNat w.bits n).toNat = n :=
        (BitVec.toNat_ofNat _ _).trans (Nat.mod_eq_of_lt (by simp only [IntType.Holds] at h; omega))
      cases nullable <;>
        exact congrArg Except.ok (createNumberFieldBindSetter_of_u64 (by simp)
          (by simp [numberOperand, hbits]) hn)
    | signed w => cases hu
    | int => cases hu
  · have hsign : ∀ {k : Nat}, -2 ^ k ≤ min → max < 2 ^ k → -2 ^ k ≤ i ∧ i < 2 ^ k := by
      intro k hk hm
      have : (max : Int) < 2 ^ k := by exact_mod_cast hm
      exact ⟨by by_cases h0 : i < 0 <;> omega, by by_cases h0 : 0 < i <;> omega⟩
    cases t with
    | unsigned w => cases hu
    | signed w =>
      obtain ⟨hlo, hhi⟩ := hsign h.1 h.2
      cases nullable <;>
        exact congrArg Except.ok (createNumberFieldBindSetter_of_i64 (by simp)
          (by simp [numberOperand, toInt_ofInt_of_bounds w hlo hhi]) hmax hmin)
    | int =>
      obtain ⟨hlo, hhi⟩ := hsign h.1 h.2
      cases nullable <;>
        exact congrArg Except.ok (createNumberFieldBindSetter_of_i64 (by simp)
          (by simp [numberOperand, wrapInt64_of_bounds hlo hhi]) hmax hmin)

/-- An `int8` column of range `[-128, 127]` gives back every value it binds. -/
theorem numberColumn_int8 :
    (IntType.signed .i8).Holds (-128) 127 ∧
      (numberColumn "Age" (.signed .i8) false (-128) 127).Faithful :=
  ⟨by decide, numberColumn_faithful "Age" (.signed .i8) false (-128) 127 (by decide)⟩

/-- A `uint8` field under a range up to `300`: `300` comes back as `44`. -/
example : (numberColumn "Age" (.unsigned .u8) false 0 300).rebind (.u64 300) =
    .ok (.ok (.u64 44)) := by
  rfl

/-! ### String columns -/

/-- **A string column gives back every value it binds**: a string is written and read as it is,
and the `nil` of a column that is not required is written as `""`, which binds to `nil`. -/
theorem stringColumn_faithful (columnName : String) (length : Nat) (required : Bool) :
    (stringColumn columnName length required).Faithful := by
  intro x v hx
  replace hx := Except.ok.inj hx
  cases x with
  | nil =>
    cases required <;> simp [createStringFieldBindSetter] at hx
    subst hx
    rfl
  | str s =>
    by_cases hs : s = ""
    · subst hs
      cases required <;> simp [createStringFieldBindSetter] at hx
      subst hx
      rfl
    · have hv : v = .str s := by
        simp only [createStringFieldBindSetter, hs, ↓reduceIte] at hx
        split at hx <;> simp_all
      subst hv
      simpa [Column.rebind, stringColumn, createStringFieldSetter, Value.toAny, formatString,
        createFieldGetter] using hx
  | _ => simp [createStringFieldBindSetter] at hx

/-! ### The set text

`setText` prints its input with `%v`, turns spaces into commas and trims brackets from both
ends, so its result has no space and no bracket at either end. Printed again from its
comma-separated options, as the set field holds them, it is the same text. -/

/-- The characters `strings.Trim(s, "[]")` cuts. -/
def isBracket (c : Char) : Bool :=
  c = '[' || c = ']'

/-- `strings.ReplaceAll(s, " ", ",")` on one character. -/
def spaceToComma (c : Char) : Char :=
  if c = ' ' then ',' else c

theorem trimBrackets_data (s : String) :
    (trimBrackets s).data = (s.data.dropWhile isBracket).rdropWhile isBracket :=
  rfl

theorem setText_strs_nil : setText (.strs []) = "" :=
  rfl

theorem setText_eq (v : GoAny) : setText v = trimBrackets ⟨v.fmtV.data.map spaceToComma⟩ :=
  rfl

theorem dropWhile_rdropWhile {α : Type} {p : α → Bool} {l : List α} (h : l.dropWhile p = l) :
    (l.rdropWhile p).dropWhile p = l.rdropWhile p := by
  obtain ⟨s, hs⟩ := List.rdropWhile_prefix p l
  cases hr : l.rdropWhile p with
  | nil => rfl
  | cons a r =>
    rw [hr, List.cons_append] at hs
    rw [← hs, List.dropWhile_eq_self_iff] at h
    exact List.dropWhile_cons_of_neg (h (by simp))

/-- Trimming twice trims nothing more. -/
theorem trimBrackets_trimBrackets (s : String) : trimBrackets (trimBrackets s) = trimBrackets s :=
  String.ext (by
    rw [trimBrackets_data, trimBrackets_data,
      dropWhile_rdropWhile (List.dropWhile_idempotent isBracket _),
      List.rdropWhile_idempotent])

/-- Brackets around a text are cut first. -/
theorem trimBrackets_wrap (u : List Char) :
    trimBrackets ⟨'[' :: (u ++ [']'])⟩ = trimBrackets ⟨u⟩ :=
  String.ext (by
    simp only [trimBrackets_data]
    rw [List.dropWhile_cons_of_pos (by decide), List.dropWhile_append]
    split
    case isTrue h =>
      rw [List.isEmpty_iff.1 h]
      rfl
    case isFalse => exact List.rdropWhile_concat_pos _ _ _ (by decide))

/-- `setText` has no space. -/
theorem space_not_mem_setText (v : GoAny) : ' ' ∉ (setText v).data := by
  intro h
  rw [setText_eq, trimBrackets_data] at h
  obtain ⟨c, -, hc⟩ := List.mem_map.1 (List.dropWhile_subset _ ((List.rdropWhile_prefix _ _).subset h))
  unfold spaceToComma at hc
  split_ifs at hc <;> simp_all

theorem map_intercalate {α β : Type} (f : α → β) (sep : List α) :
    ∀ L : List (List α), (sep.intercalate L).map f = (sep.map f).intercalate (L.map (List.map f))
  | [] => rfl
  | [a] => by simp [List.intercalate]
  | a :: b :: L => by
    have ih := map_intercalate f sep (b :: L)
    simp only [List.intercalate, List.map_cons, List.intersperse_cons₂, List.flatten_cons,
      List.map_append] at ih ⊢
    rw [ih]

theorem intercalate_cons_append {α : Type} (sep a b : List α) :
    ∀ L : List (List α), sep.intercalate ((a ++ b) :: L) = a ++ sep.intercalate (b :: L)
  | [] => by simp [List.intercalate]
  | c :: L => by simp [List.intercalate, List.intersperse_cons₂]

theorem intercalate_go_data (acc s : String) (l : List String) :
    (String.intercalate.go acc s l).data = s.data.intercalate ((acc :: l).map String.data) := by
  induction l generalizing acc with
  | nil =>
    show acc.data = _
    simp [List.intercalate]
  | cons b l ih =>
    show (String.intercalate.go (acc ++ s ++ b) s l).data = _
    rw [ih, List.map_cons, String.data_append, String.data_append, List.append_assoc,
      intercalate_cons_append, intercalate_cons_append]
    simp [List.intercalate, List.intersperse_cons₂]

theorem intercalate_data (s : String) :
    ∀ xs : List String, (s.intercalate xs).data = s.data.intercalate (xs.map String.data)
  | [] => rfl
  | a :: xs => intercalate_go_data a s xs

theorem map_data_splitComma (t : String) : (splitComma t).map String.data = t.data.splitOn ',' := by
  simp [splitComma, Function.comp_def]

/-- The options of a text without spaces, printed with `%v` with spaces turned into commas, are
the text between brackets. -/
theorem setText_strs_splitComma {t : String} (ht : ' ' ∉ t.data) :
    setText (.strs (splitComma t)) = trimBrackets t := by
  have hsp : t.data.map spaceToComma = t.data :=
    (List.map_congr_left fun c hc => if_neg fun (h : c = ' ') => ht (h ▸ hc)).trans
      (List.map_id _)
  have hcomma : ([','] : List Char) = [','].map spaceToComma := rfl
  have hmid : (String.intercalate " " (splitComma t)).data.map spaceToComma = t.data := by
    rw [intercalate_data, map_intercalate, map_data_splitComma,
      show (" " : String).data.map spaceToComma = [','] from rfl, hcomma, ← map_intercalate,
      List.intercalate_splitOn, hsp]
  have hl : ("[" : String).data.map spaceToComma = ['['] := rfl
  have hr : ("]" : String).data.map spaceToComma = [']'] := rfl
  rw [setText_eq]
  refine (congrArg trimBrackets (String.ext ?_)).trans (trimBrackets_wrap t.data)
  simp only [GoAny.fmtV, String.data_append, List.map_append, hmid, hl, hr]
  rfl

/-! ### Set columns -/

theorem emptyValue_ok {d : EnumDefinition} {columnName : String} {x : Value}
    (h : d.emptyValue columnName = .ok x) : x = .null ∧ d.required = false := by
  cases hd : d.required <;> simp [EnumDefinition.emptyValue, hd] at h
  exact ⟨h.symm, rfl⟩

/-- What the set setter returns: `nil` on a column that is not required, or its text, which is
not empty and whose options all pass the enum setter. -/
theorem createSetFieldBindSetter_ok {columnName : String}
    {enumSetter : GoAny → Except Fault (Except BindError Value)} {d : EnumDefinition}
    {v : GoAny} {x : Value} (h : createSetFieldBindSetter columnName enumSetter d v = .ok (.ok x)) :
    (x = .null ∧ d.required = false) ∨
      (x = .str (setText v) ∧ setText v ≠ "" ∧
        firstOptionError enumSetter (splitComma (setText v)) = .ok none) := by
  unfold createSetFieldBindSetter at h
  split at h
  · exact .inl (emptyValue_ok (Except.ok.inj h))
  dsimp only at h
  split at h
  · exact .inl (emptyValue_ok (Except.ok.inj h))
  case isFalse hne =>
    split at h
    · cases h
    · cases h
    case h_3 hf => exact .inr ⟨(Except.ok.inj (Except.ok.inj h)).symm, hne, hf⟩

/-- **A set column gives back every value it binds**: the text it keeps, written into the
`[]string` field as its comma-separated options and read back, prints as the same text, whose
options pass the enum setter as before; `nil` comes back as `nil`. -/
theorem setColumn_faithful (columnName : String) (length : Nat) (stringRequired : Bool)
    (d : EnumDefinition) (nullable : Bool) :
    (setColumn columnName length stringRequired d nullable).Faithful := by
  intro x v hx
  rcases createSetFieldBindSetter_ok hx with ⟨rfl, hreq⟩ | ⟨rfl, hne, hopts⟩
  · cases nullable <;>
      simp [Column.rebind, setColumn, createSetFieldSetter, createFieldGetter, GoAny.isNil?,
        createSetFieldBindSetter, EnumDefinition.emptyValue, hreq, setText_strs_nil]
  · have hback : setText (.strs (splitComma (setText x))) = setText x := by
      rw [setText_strs_splitComma (space_not_mem_setText x), setText, trimBrackets_trimBrackets]
    have hsplit : (splitComma (setText x)).isEmpty = false := by
      cases h : splitComma (setText x) with
      | nil => exact absurd (List.map_eq_nil_iff.1 h) (List.splitOnP_ne_nil _ _)
      | cons => rfl
    cases nullable <;>
      simp [Column.rebind, setColumn, createSetFieldSetter, Value.toAny, formatString,
        createFieldGetter, GoAny.isNil?, createSetFieldBindSetter, hback, hne, hopts, hsplit]

end Orm

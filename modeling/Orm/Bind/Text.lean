import Orm.Bind.Number

/-!
# The bind setters of string, enum, set and date columns

`createSetFieldBindSetter` prints its input with `%v`, turns spaces into commas, trims `[` and
`]` from both ends, splits the text at the commas and runs the enum setter on each option; it
returns the **text itself**. Nothing sorts the options or drops a repeated one, so `"b,a"` and
`"a,b"` bind to two values (`set_setter_keeps_order`); what is guaranteed is that every option
of the returned text is a member of the enum definition, or empty on a column that is not
required (`set_setter_options`).

The string setter binds `""` to `nil` on a column that is not required, and
`createStringAttrToStringSetter` asserts a `string` on what the setter returned; the date setter
calls `Location()` through a `*time.Time` without a `nil` check. Each of these, like the
reference setter on a `nil` pointer and the integer `AttrToString` setters on `nil`, panics
(`setters_panic`).

`enumDefinition` is not in src; it is modelled from the spec: the ordered members and the
`required` flag.
-/

namespace Orm

/-! ### Strings -/

/-- `createStringFieldBindSetter`; `len` counts bytes. -/
def createStringFieldBindSetter (columnName : String) (length : Nat) (required : Bool) :
    GoAny → Except BindError Value
  | .nil =>
    if required then .error ⟨columnName, "empty string not allowed"⟩ else .ok .null
  | .str s =>
    if s = "" then
      if required then .error ⟨columnName, "empty string not allowed"⟩ else .ok .null
    else if length > 0 && s.utf8ByteSize > length then
      .error ⟨columnName, "text too long, max " ++ toString length ++ " allowed"⟩
    else .ok (.str s)
  | _ => .error ⟨columnName, "invalid value"⟩

/-- The assertion `v.(string)`: a string as it is; any other value panics. -/
def formatString : GoAny → Except Fault String
  | .str s => .ok s
  | v => .error (assertionPanic v "string")

/-- `createStringAttrToStringSetter`: the column's text of a value, which must be a `string`
once bound. -/
def createStringAttrToStringSetter (setter : GoAny → Except BindError Value) :
    GoAny → Bool → Except Fault (Except BindError String) :=
  attrToStringSetter formatString setter

/-! ### Enums and sets -/

/-- `enumDefinition` (not in src), modelled from the spec: the members in definition order, and
whether a value is required. -/
structure EnumDefinition where
  fields : List String
  required : Bool
  deriving DecidableEq, Repr

/-- What the enum and set setters return for an empty value. -/
def EnumDefinition.emptyValue (d : EnumDefinition) (columnName : String) :
    Except BindError Value :=
  if d.required then .error ⟨columnName, "nil is not allowed"⟩ else .ok .null

/-- `createEnumFieldBindSetter`: `nil` and the empty text are the definition's empty value;
any other value, printed with `%s`, goes through the string setter and must then be a member. -/
def createEnumFieldBindSetter (columnName : String) (stringSetter : GoAny → Except BindError Value)
    (d : EnumDefinition) (v : GoAny) : Except Fault (Except BindError Value) :=
  if v = .nil then .ok (d.emptyValue columnName) else
  let s := v.fmtS
  if s = "" then .ok (d.emptyValue columnName) else
  match stringSetter (.str s) with
  | .error e => .ok (.error e)
  | .ok (.str x) =>
    .ok (if x ∈ d.fields then .ok (.str x) else .error ⟨columnName, "invalid value: " ++ s⟩)
  | .ok val => .error (assertionPanic val.toAny "string")

/-- `strings.Trim(s, "[]")`: the text without the brackets at either end. -/
def trimBrackets (s : String) : String :=
  let inCut (c : Char) : Bool := c = '[' || c = ']'
  ⟨((s.toList.dropWhile inCut).reverse.dropWhile inCut).reverse⟩

/-- The text the set setter keeps: `strings.Trim(strings.ReplaceAll(fmt.Sprintf("%v", v), " ",
","), "[]")`. -/
def setText (v : GoAny) : String :=
  trimBrackets ⟨v.fmtV.toList.map fun c => if c = ' ' then ',' else c⟩

/-- `strings.Split(s, ",")`: the parts between the commas, empty ones included. -/
def splitComma (s : String) : List String :=
  (s.toList.splitOn ',').map String.mk

/-- The loop over the options: the first `BindError` of the enum setter, if any. -/
def firstOptionError (enumSetter : GoAny → Except Fault (Except BindError Value)) :
    List String → Except Fault (Option BindError)
  | [] => .ok none
  | o :: os =>
    match enumSetter (.str o) with
    | .error f => .error f
    | .ok (.error e) => .ok (some e)
    | .ok (.ok _) => firstOptionError enumSetter os

/-- `createSetFieldBindSetter`: `nil` and the empty text are the definition's empty value; any
other value is printed as comma-separated text, each option goes through the enum setter, and
the text is kept. -/
def createSetFieldBindSetter (columnName : String)
    (enumSetter : GoAny → Except Fault (Except BindError Value)) (d : EnumDefinition)
    (v : GoAny) : Except Fault (Except BindError Value) :=
  if v = .nil ∨ v = .str "" then .ok (d.emptyValue columnName) else
  let toReturn := setText v
  if toReturn = "" then .ok (d.emptyValue columnName) else
  match firstOptionError enumSetter (splitComma toReturn) with
  | .error f => .error f
  | .ok (some e) => .ok (.error e)
  | .ok none => .ok (.ok (.str toReturn))

section SetSetter

variable (columnName : String) (length : Nat) (stringRequired : Bool) (d : EnumDefinition)

/-- The enum setter of a set column, on the column's string setter. -/
def enumOf : GoAny → Except Fault (Except BindError Value) :=
  createEnumFieldBindSetter columnName (createStringFieldBindSetter columnName length stringRequired) d

/-- **The enum setter on one option.** It never panics, and it accepts an option only when the
option is a member, or empty on a column that is not required. -/
theorem enumOf_option (o : String) :
    ∃ r, enumOf columnName length stringRequired d (.str o) = .ok r ∧
      ∀ x, r = .ok x → o ∈ d.fields ∨ (o = "" ∧ d.required = false) := by
  by_cases ho : o = ""
  · subst ho
    refine ⟨d.emptyValue columnName, by simp [enumOf, createEnumFieldBindSetter, GoAny.fmtS], ?_⟩
    cases hd : d.required <;> simp [EnumDefinition.emptyValue, hd]
  · by_cases hl : length > 0 && o.utf8ByteSize > length
    · refine ⟨.error ⟨columnName, "text too long, max " ++ toString length ++ " allowed"⟩, ?_,
        by simp⟩
      simp [enumOf, createEnumFieldBindSetter, GoAny.fmtS, createStringFieldBindSetter, ho, hl]
    · have hs : createStringFieldBindSetter columnName length stringRequired (.str o) =
          .ok (.str o) := by
        simp [createStringFieldBindSetter, ho, hl]
      by_cases hm : o ∈ d.fields
      · exact ⟨.ok (.str o), by simp [enumOf, createEnumFieldBindSetter, GoAny.fmtS, ho, hs, hm],
          fun _ _ => .inl hm⟩
      · exact ⟨.error ⟨columnName, "invalid value: " ++ o⟩,
          by simp [enumOf, createEnumFieldBindSetter, GoAny.fmtS, ho, hs, hm], by simp⟩

/-- **The loop over the options.** It never panics, and when it finds no error every option is
a member, or empty on a column that is not required. -/
theorem firstOptionError_enumOf (os : List String) :
    ∃ r, firstOptionError (enumOf columnName length stringRequired d) os = .ok r ∧
      (r = none → ∀ o ∈ os, o ∈ d.fields ∨ (o = "" ∧ d.required = false)) := by
  induction os with
  | nil => exact ⟨none, rfl, by simp⟩
  | cons o os ih =>
    obtain ⟨r, hr, hm⟩ := enumOf_option columnName length stringRequired d o
    obtain ⟨r', hr', hm'⟩ := ih
    cases r with
    | error e => exact ⟨some e, by simp [firstOptionError, hr], by simp⟩
    | ok x =>
      refine ⟨r', by simp [firstOptionError, hr, hr'], fun h o' ho' => ?_⟩
      rcases List.mem_cons.1 ho' with rfl | ho'
      · exact hm x rfl
      · exact hm' h o' ho'

/-- **What a set column binds.** The set setter never panics; it returns a `BindError`, `nil`,
or the text `setText v` itself, every comma-separated option of which is a member of the enum
definition, or empty on a column that is not required. -/
theorem set_setter_options (v : GoAny) :
    ∃ r, createSetFieldBindSetter columnName (enumOf columnName length stringRequired d) d v =
        .ok r ∧
      ∀ x, r = .ok x → x = .null ∨
        (x = .str (setText v) ∧
          ∀ o ∈ splitComma (setText v), o ∈ d.fields ∨ (o = "" ∧ d.required = false)) := by
  have hempty : ∀ x, d.emptyValue columnName = .ok x → x = .null := by
    intro x hx
    cases hd : d.required <;> simp [EnumDefinition.emptyValue, hd] at hx
    exact hx.symm
  unfold createSetFieldBindSetter
  split
  · exact ⟨_, rfl, fun x hx => .inl (hempty x hx)⟩
  · dsimp only
    split
    · exact ⟨_, rfl, fun x hx => .inl (hempty x hx)⟩
    · obtain ⟨r, hr, hm⟩ := firstOptionError_enumOf columnName length stringRequired d
        (splitComma (setText v))
      cases r with
      | some e => exact ⟨.error e, by simp [hr], by simp⟩
      | none =>
        exact ⟨.ok (.str (setText v)), by simp [hr],
          fun x hx => .inr ⟨(Except.ok.inj hx).symm, hm rfl⟩⟩

end SetSetter

/-- The set column `Tags` over `a, b`, not required, with a string setter of length `255`. -/
def tagsSetter : GoAny → Except Fault (Except BindError Value) :=
  createSetFieldBindSetter "Tags" (enumOf "Tags" 255 false ⟨["a", "b"], false⟩) ⟨["a", "b"], false⟩

/-- `"b,a"` and `"a,b"` denote the same set and bind to two values; `"a,a"` keeps the repeated
member, and `",a"` an empty option that is no member. -/
theorem set_setter_keeps_order :
    tagsSetter (.str "a,b") = .ok (.ok (.str "a,b")) ∧
      tagsSetter (.str "b,a") = .ok (.ok (.str "b,a")) ∧
      tagsSetter (.str "a,a") = .ok (.ok (.str "a,a")) ∧
      tagsSetter (.str ",a") = .ok (.ok (.str ",a")) := by
  refine ⟨?_, ?_, ?_, ?_⟩ <;> rfl

/-! ### Dates -/

/-- `createDateFieldBindSetter`; `format layout t` is `t.Format(layout)` and `parseInUTC layout s`
is `time.ParseInLocation(layout, s, time.UTC)`. -/
def createDateFieldBindSetter (format : String → GoTime → String)
    (parseInUTC : String → String → Option GoTime) (columnName layout : String) (nullable : Bool)
    (v : GoAny) : Except Fault (Except BindError Value) :=
  let inUTC (t : GoTime) : Except BindError Value :=
    if t.location ≠ "UTC" then .error ⟨columnName, "time must be in UTC location"⟩
    else .ok (.str (format layout t))
  match v with
  | .nil => .ok (nilValue columnName nullable)
  | .time t => .ok (inUTC t)
  | .timePtr (some t) => .ok (inUTC t)
  | .timePtr none => .error nilDereference
  | .str s =>
    .ok (match parseInUTC layout s with
      | some t => .ok (.str (format layout t))
      | none => .error ⟨columnName, "invalid time " ++ s⟩)
  | _ => .ok (.error ⟨columnName, "invalid value"⟩)

/-- Five calls that panic: the string `AttrToString` setter on `""` and on the `nil` the string
setter binds it to, the `uint64` one on the `nil` of a nullable column, the reference setter on
a `nil` entity pointer, and the date setter on a `nil` `*time.Time`. -/
theorem setters_panic (format : String → GoTime → String)
    (parseInUTC : String → String → Option GoTime) :
    createStringAttrToStringSetter (createStringFieldBindSetter "Name" 255 false) (.str "") false =
        .error (assertionPanic .nil "string") ∧
      createStringAttrToStringSetter (createStringFieldBindSetter "Name" 255 false) .nil true =
        .error (assertionPanic .nil "string") ∧
      createUint64AttrToStringSetter (createNumberFieldBindSetter "Age" true true 0 255) .nil false =
        .error (assertionPanic .nil "uint64") ∧
      createReferenceFieldBindSetter "Parent" "orm.parent"
          (createNumberFieldBindSetter "Parent" true true 0 (2 ^ 64 - 1)) true
          (.entityPtr "orm.parent" none) = .error zeroValuePanic ∧
      createDateFieldBindSetter format parseInUTC "At" "2006-01-02" true (.timePtr none) =
        .error nilDereference :=
  ⟨rfl, rfl, rfl, reference_setter_nil_pointer_panics _ _ _ _, rfl⟩

end Orm

import Orm.Bind.Any

/-!
# The bind setters of integer and reference columns

`createNumberFieldBindSetter` reads its input into two accumulators, `asUint64` for the
unsigned types and `asInt64` for the signed ones, the floats and the strings of a signed
column, and then checks the range of the one it returns. On a **signed** column it first
converts a non-zero `asUint64` with `int64(...)`, which wraps a value of `2^63` or more to a
negative one, and a negative value is then compared with `min` only: a `uint64` holding
`2^64 - 1` binds as `-1` on an `int8` column (`number_setter_wraps_uint64`). Every other input
that denotes an integer binds to that integer, in range, if it binds at all
(`number_setter_exact`).

`createReferenceFieldBindSetter` reads an entity of the target type, a `Reference[T]` value, or
an id through the `uint64` setter; it asks `reflect` for the type of what its input points to,
so a typed `nil` pointer panics (`reference_setter_nil_pointer_panics`). The `AttrToString`
setters of the two integer kinds assert the type of the value they format, and panic on the
`nil` a nullable column binds.

`ReferenceInterface` and the schema builder that picks a column's setters are not in src:
the model takes `Reference[T]` values to be the values that implement the interface.
-/

namespace Orm

/-! ### `strconv.ParseUint` and `strconv.ParseInt` in base 10 -/

/-- The value of a run of decimal digits after the digits read so far, `acc`. -/
def digitsValue (acc : Nat) : List Char → Option Nat
  | [] => some acc
  | c :: cs => if c.isDigit then digitsValue (acc * 10 + (c.toNat - '0'.toNat)) cs else none

/-- The value of a non-empty run of decimal digits. -/
def decimalDigits : List Char → Option Nat
  | [] => none
  | cs => digitsValue 0 cs

/-- The digit loop of `strconv.ParseUint` in base 10 after the value `acc` read so far: the
value, or the error with the value Go returns beside it — `0` at a character that is no digit,
`2^64 - 1` as soon as the value overflows. -/
def parseUintLoop (acc : Nat) : List Char → Except Nat Nat
  | [] => .ok acc
  | c :: cs =>
    if !c.isDigit then .error 0
    else
      let n := acc * 10 + (c.toNat - '0'.toNat)
      if n ≥ 2 ^ 64 then .error (2 ^ 64 - 1) else parseUintLoop n cs

/-- `strconv.ParseUint(s, 10, 64)`: the value, or the error with the value returned beside it. -/
def strconvParseUint (s : String) : Except Nat Nat :=
  match s.toList with
  | [] => .error 0
  | cs => parseUintLoop 0 cs

/-- The value `strconv.ParseUint` returns, whatever its error. -/
def parseUintValue (s : String) : Nat :=
  match strconvParseUint s with
  | .ok n | .error n => n

/-- `strconv.ParseUint(s, 10, 64)` where the code checks the error. -/
def parseUint64 (s : String) : Option Nat :=
  match strconvParseUint s with
  | .ok n => some n
  | .error _ => none

/-- The sign of `strconv.ParseInt`: a leading `+` or `-` is dropped, and `-` makes the value
negative. -/
def splitSign : List Char → Bool × List Char
  | [] => (false, [])
  | c :: cs => if c = '+' then (false, cs) else if c = '-' then (true, cs) else (false, c :: cs)

/-- `strconv.ParseInt(s, 10, 64)`: an optional sign, then digits, in `[-2^63, 2^63)`. -/
def parseInt64 (s : String) : Option Int :=
  let (neg, cs) := splitSign s.toList
  if neg then ((decimalDigits cs).filter (· ≤ 2 ^ 63)).map fun (n : Nat) => -(n : Int)
  else ((decimalDigits cs).filter (· < 2 ^ 63)).map Int.ofNat

/-! ### The integer setter -/

/-- What a setter returns for `nil`: a `BindError` on a non-nullable column, else `nil`. -/
def nilValue (columnName : String) (nullable : Bool) : Except BindError Value :=
  if !nullable then .error ⟨columnName, "nil is not allowed"⟩ else .ok .null

/-- The type switch of `createNumberFieldBindSetter`: `(asUint64, asInt64)` read from a value,
`none` for a `nil` pointer, or the `BindError` of a string that does not parse or of any other
type. -/
def numberOperand (columnName : String) (unsigned : Bool) :
    GoAny → Except BindError (Option (Nat × Int))
  | .str s =>
    if unsigned then
      match parseUint64 s with
      | some u => .ok (some (u, 0))
      | none => .error ⟨columnName, "invalid number " ++ s⟩
    else
      match parseInt64 s with
      | some i => .ok (some (0, i))
      | none => .error ⟨columnName, "invalid number " ++ s⟩
  | .uint _ n => .ok (some (n.toNat, 0))
  | .uintPtr _ p => .ok (p.map fun n => (n.toNat, 0))
  | .sint _ n => .ok (some (0, n.toInt))
  | .sintPtr _ p => .ok (p.map fun n => (0, n.toInt))
  | .int n => .ok (some (0, wrapInt64 n))
  | .intPtr p => .ok (p.map fun n => (0, wrapInt64 n))
  | .float _ x => .ok (some (0, truncInt64 x))
  | .floatPtr _ p => .ok (p.map fun x => (0, truncInt64 x))
  | _ => .error ⟨columnName, "invalid value"⟩

/-- `createNumberFieldBindSetter`: `nil` and a nil pointer bind to `nil` on a nullable column and
are refused on another; any other operand is checked against `[min, max]` and bound as a
`uint64` on an unsigned column, as an `int64` on a signed one. -/
def createNumberFieldBindSetter (columnName : String) (unsigned nullable : Bool) (min : Int)
    (max : Nat) (v : GoAny) : Except BindError Value :=
  if v = .nil then nilValue columnName nullable else
  match numberOperand columnName unsigned v with
  | .error e => .error e
  | .ok none => nilValue columnName nullable
  | .ok (some (asUint64, asInt64)) =>
    if !unsigned then
      let asInt64 := if asUint64 > 0 then wrapInt64 asUint64 else asInt64
      if asInt64 > 0 && asInt64.toNat > max then
        .error ⟨columnName, "value " ++ v.fmtD ++ " exceeded max allowed value"⟩
      else if asInt64 < 0 && asInt64 < min then
        .error ⟨columnName, "value " ++ v.fmtD ++ " exceeded min allowed value"⟩
      else .ok (.i64 asInt64)
    else if asInt64 < 0 then
      .error ⟨columnName, "negative number " ++ v.fmtD ++ " not allowed"⟩
    else
      let asUint64 := if asInt64 > 0 then asInt64.toNat else asUint64
      if asUint64 > max then
        .error ⟨columnName, "value " ++ v.fmtD ++ " exceeded max allowed value"⟩
      else .ok (.u64 asUint64)

/-- A `uint64` holding `2^64 - 1`, bound on a non-nullable `int8` column, binds as `-1`: the
value is far above `max`, and the setter returns another number. -/
theorem number_setter_wraps_uint64 :
    createNumberFieldBindSetter "Age" false false (-128) 127
      (.uint .u64 (BitVec.ofNat 64 (2 ^ 64 - 1))) = .ok (.i64 (-1)) :=
  rfl

/-! ### What the setter is exact on

Every input of an integer type, every pointer to one and every decimal string denotes an
integer (`GoAny.integerValue`). The setter reads that integer into one of its accumulators
unchanged (`numberOperand_value`); only the conversion of an unsigned value of `2^63` or more
for a signed column changes it. -/

/-- The integer a decimal string denotes: an optional sign, then digits, of any size. -/
def decimalValue (s : String) : Option Int :=
  let (neg, cs) := splitSign s.toList
  (decimalDigits cs).map fun (n : Nat) => if neg then -(n : Int) else n

/-- The integer an input denotes: `some (some n)` for an integer of any type, a pointer to one
or a decimal string of `n`, `some none` for a `nil` pointer, `none` for an input of another
type (a Go `int` outside 64 bits is no Go value). -/
def GoAny.integerValue : GoAny → Option (Option Int)
  | .int n => if wrapInt64 n = n then some (some n) else none
  | .intPtr none => some none
  | .intPtr (some n) => if wrapInt64 n = n then some (some n) else none
  | .uint _ n => some (some n.toNat)
  | .uintPtr _ p => some (p.map fun n => (n.toNat : Int))
  | .sint _ n => some (some n.toInt)
  | .sintPtr _ p => some (p.map BitVec.toInt)
  | .str s => (decimalValue s).map some
  | _ => none

/-- Whether the input is of an unsigned integer type or a pointer to one. -/
def GoAny.isUnsigned : GoAny → Bool
  | .uint _ _ | .uintPtr _ _ => true
  | _ => false

theorem wrapInt64_bounds (x : Int) : -2 ^ 63 ≤ wrapInt64 x ∧ wrapInt64 x < 2 ^ 63 := by
  unfold wrapInt64; omega

theorem wrapInt64_of_bounds {x : Int} (h₁ : -2 ^ 63 ≤ x) (h₂ : x < 2 ^ 63) : wrapInt64 x = x := by
  unfold wrapInt64; omega

theorem SWidth.toInt_bounds (w : SWidth) (n : BitVec w.bits) :
    -2 ^ 63 ≤ n.toInt ∧ n.toInt < 2 ^ 63 := by
  have := n.isLt
  rw [BitVec.toInt_eq_toNat_cond]
  cases w <;> simp only [SWidth.bits] at * <;> split <;> omega

/-- A run of digits has no sign. -/
theorem splitSign_of_decimalDigits {l : List Char} {u : Nat} (h : decimalDigits l = some u) :
    splitSign l = (false, l) := by
  match l, h with
  | c :: cs, h =>
    have hc : c.isDigit = true := by
      by_contra hc
      simp [decimalDigits, digitsValue, hc] at h
    have h₁ : c ≠ '+' := by rintro rfl; simp [Char.isDigit] at hc
    have h₂ : c ≠ '-' := by rintro rfl; simp [Char.isDigit] at hc
    simp [splitSign, h₁, h₂]

/-- The digit loop succeeds exactly on a run of digits whose value stays below `2^64`. -/
theorem parseUintLoop_ok {acc n : Nat} {cs : List Char} (hacc : acc < 2 ^ 64)
    (h : parseUintLoop acc cs = .ok n) : digitsValue acc cs = some n ∧ n < 2 ^ 64 := by
  induction cs generalizing acc with
  | nil => cases h; exact ⟨rfl, hacc⟩
  | cons c cs ih =>
    simp only [parseUintLoop] at h
    split at h
    · cases h
    · split at h
      · cases h
      · rename_i hd hlt
        simp only [Bool.not_eq_true', Bool.not_eq_false] at hd
        simp only [digitsValue, hd, if_true]
        exact ih (by omega) h

theorem decimalValue_of_parseUint64 {s : String} {u : Nat} (h : parseUint64 s = some u) :
    decimalValue s = some (u : Int) ∧ u < 2 ^ 64 := by
  have hd : decimalDigits s.toList = some u ∧ u < 2 ^ 64 := by
    unfold parseUint64 at h
    split at h
    · rename_i hp
      cases h
      unfold strconvParseUint at hp
      cases hcs : s.toList with
      | nil => rw [hcs] at hp; cases hp
      | cons c cs =>
        rw [hcs] at hp
        exact parseUintLoop_ok (by decide) hp
    · cases h
  refine ⟨?_, hd.2⟩
  rw [decimalValue, splitSign_of_decimalDigits hd.1]
  simp only [hd.1, Option.map_some', Bool.false_eq_true, if_false]

theorem decimalValue_of_parseInt64 {s : String} {i : Int} (h : parseInt64 s = some i) :
    decimalValue s = some i ∧ -2 ^ 63 ≤ i ∧ i < 2 ^ 63 := by
  unfold parseInt64 at h
  unfold decimalValue
  rcases hs : splitSign s.toList with ⟨_ | _, cs⟩ <;> simp only [hs] at h ⊢ <;>
    simp only [Bool.false_eq_true, ↓reduceIte, Option.map_eq_some', Option.filter_eq_some,
      Option.mem_def, decide_eq_true_eq] at h <;>
    obtain ⟨n, ⟨hn, hb⟩, rfl⟩ := h <;> simp [hn] <;> omega

/-- **The operand.** For an input that denotes `n`, the type switch reads `n` into `asInt64`
(within 64 bits), or into `asUint64` when the input is unsigned or the column is. -/
theorem numberOperand_value {columnName : String} {unsigned : Bool} {v : GoAny} {n : Int}
    {u : Nat} {i : Int} (hv : v.integerValue = some (some n))
    (hop : numberOperand columnName unsigned v = .ok (some (u, i))) :
    (u = 0 ∧ i = n ∧ -2 ^ 63 ≤ n ∧ n < 2 ^ 63) ∨
      (i = 0 ∧ (u : Int) = n ∧ (v.isUnsigned = true ∨ unsigned = true)) := by
  cases v with
  | str s =>
    simp only [numberOperand] at hop
    split at hop
    · split at hop <;> cases hop
      obtain ⟨hd, -⟩ := decimalValue_of_parseUint64 ‹_›
      simp only [GoAny.integerValue, hd, Option.map_some', Option.some.injEq] at hv
      exact .inr ⟨rfl, hv, .inr ‹_›⟩
    · split at hop <;> cases hop
      obtain ⟨hd, hb⟩ := decimalValue_of_parseInt64 ‹_›
      simp only [GoAny.integerValue, hd, Option.map_some', Option.some.injEq] at hv
      exact .inl ⟨rfl, hv, hv ▸ hb⟩
  | uint w m =>
    simp only [numberOperand, GoAny.integerValue, Option.some.injEq, Except.ok.injEq,
      Prod.mk.injEq] at hv hop
    exact .inr ⟨hop.2.symm, hop.1 ▸ hv, .inl rfl⟩
  | uintPtr w p =>
    cases p <;> simp only [numberOperand, GoAny.integerValue, Option.map_some', Option.map_none',
      Option.some.injEq, Except.ok.injEq, Prod.mk.injEq, reduceCtorEq] at hv hop
    exact .inr ⟨hop.2.symm, hop.1 ▸ hv, .inl rfl⟩
  | sint w m =>
    simp only [numberOperand, GoAny.integerValue, Option.some.injEq, Except.ok.injEq,
      Prod.mk.injEq] at hv hop
    exact .inl ⟨hop.1.symm, hop.2 ▸ hv, hv ▸ SWidth.toInt_bounds w m⟩
  | sintPtr w p =>
    cases p <;> simp only [numberOperand, GoAny.integerValue, Option.map_some', Option.map_none',
      Option.some.injEq, Except.ok.injEq, Prod.mk.injEq, reduceCtorEq] at hv hop
    exact .inl ⟨hop.1.symm, hop.2 ▸ hv, hv ▸ SWidth.toInt_bounds w _⟩
  | int m =>
    have hm : wrapInt64 m = m ∧ m = n := by
      simp only [GoAny.integerValue] at hv; split at hv <;> simp_all
    simp only [numberOperand, Except.ok.injEq, Option.some.injEq, Prod.mk.injEq] at hop
    exact .inl ⟨hop.1.symm, by rw [← hop.2, hm.1, hm.2], hm.2 ▸ hm.1 ▸ wrapInt64_bounds m⟩
  | intPtr p =>
    cases p with
    | none => simp [GoAny.integerValue] at hv
    | some m =>
      have hm : wrapInt64 m = m ∧ m = n := by
        simp only [GoAny.integerValue] at hv; split at hv <;> simp_all
      simp only [numberOperand, Option.map_some', Except.ok.injEq, Option.some.injEq,
        Prod.mk.injEq] at hop
      exact .inl ⟨hop.1.symm, by rw [← hop.2, hm.1, hm.2], hm.2 ▸ hm.1 ▸ wrapInt64_bounds m⟩
  | _ => simp [GoAny.integerValue] at hv

theorem numberOperand_ne_none {columnName : String} {unsigned : Bool} {v : GoAny} {n : Int}
    (hv : v.integerValue = some (some n)) : numberOperand columnName unsigned v ≠ .ok none := by
  cases v with
  | str s => simp only [numberOperand]; split <;> split <;> simp
  | intPtr p | uintPtr _ p | sintPtr _ p =>
    cases p <;> simp [GoAny.integerValue, numberOperand] at hv ⊢
  | _ => simp [GoAny.integerValue, numberOperand] at hv ⊢

/-- **Exact but for the wrap.** On a column with `min ≤ 0`, an input that denotes `n` binds, if
at all, to `n` itself, and `n` lies in the column's range (`[0, max]` on an unsigned column) —
unless the column is signed and the input an unsigned value of `2^63` or more. -/
theorem number_setter_exact (columnName : String) (unsigned nullable : Bool) (min : Int)
    (max : Nat) (hmin : min ≤ 0) (v : GoAny) (n : Int) (hv : v.integerValue = some (some n))
    (hwrap : unsigned = false → v.isUnsigned = true → n < 2 ^ 63) (r : Value)
    (hr : createNumberFieldBindSetter columnName unsigned nullable min max v = .ok r) :
    (if unsigned then 0 else min) ≤ n ∧ n ≤ max ∧
      r = if unsigned then .u64 n.toNat else .i64 n := by
  have hnil : v ≠ .nil := by rintro rfl; simp [GoAny.integerValue] at hv
  unfold createNumberFieldBindSetter at hr
  rw [if_neg hnil] at hr
  split at hr
  case h_1 => cases hr
  case h_2 hop => exact absurd hop (numberOperand_ne_none hv)
  case h_3 u i hop =>
    rcases numberOperand_value hv hop with ⟨rfl, rfl, hb⟩ | ⟨rfl, hu, hun⟩
    · -- the input is in `asInt64`
      cases unsigned <;> simp at hr ⊢ <;> split_ifs at hr <;>
        (simp only [reduceCtorEq, Except.ok.injEq] at hr; subst hr) <;>
        exact ⟨by omega, by omega, by simp <;> omega⟩
    · -- the input is in `asUint64`
      cases unsigned
      · have h63 := hwrap rfl (by simpa using hun)
        have hw : (if 0 < u then wrapInt64 u else 0) = n := by
          split_ifs
          · exact (wrapInt64_of_bounds (by omega) (by omega)).trans hu
          · omega
        simp only [Bool.not_false, if_true, gt_iff_lt, hw] at hr ⊢
        split_ifs at hr
        simp only [reduceCtorEq, Except.ok.injEq] at hr
        subst hr
        simp at *
        omega
      · simp at hr ⊢
        split_ifs at hr
        simp only [reduceCtorEq, Except.ok.injEq] at hr
        subst hr
        refine ⟨by omega, by omega, ?_⟩
        simp
        omega

/-- `"-5"` on an `int8` column binds as `-5`. -/
theorem number_setter_minus_five :
    createNumberFieldBindSetter "Age" false false (-128) 127 (.str "-5") = .ok (.i64 (-5)) ∧
      ((if false then 0 else -128) ≤ (-5 : Int) ∧ (-5 : Int) ≤ ((127 : Nat) : Int) ∧
        Value.i64 (-5) = if false then .u64 (-5 : Int).toNat else .i64 (-5)) :=
  have h : createNumberFieldBindSetter "Age" false false (-128) 127 (.str "-5") =
      .ok (.i64 (-5)) := rfl
  ⟨h, number_setter_exact "Age" false false (-128) 127 (by decide) (.str "-5") (-5) (by decide)
    (fun _ h => absurd h (by decide)) _ h⟩

/-! ### The `AttrToString` setters

`createUint64AttrToStringSetter`, `createInt64AttrToStringSetter` and
`createStringAttrToStringSetter` differ only in the type they assert and the text they make of
it: one definition with the assertion as a parameter. -/

/-- An `AttrToString` setter: with `fromBind` the input is asserted and formatted as it is,
otherwise the column's bind setter is applied first and its value is asserted and formatted. -/
def attrToStringSetter (assert : GoAny → Except Fault String)
    (setter : GoAny → Except BindError Value) (v : GoAny) (fromBind : Bool) :
    Except Fault (Except BindError String) :=
  if fromBind then Except.ok <$> assert v
  else
    match setter v with
    | .error e => .ok (.error e)
    | .ok v2 => Except.ok <$> assert v2.toAny

/-- `strconv.FormatUint(v.(uint64), 10)`: a `uint64` in decimal; any other value panics at the
assertion. -/
def formatUint64 : GoAny → Except Fault String
  | .uint .u64 n => .ok (toString n.toNat)
  | v => .error (assertionPanic v "uint64")

/-- `strconv.FormatInt(v.(int64), 10)`: an `int64` in decimal; any other value panics at the
assertion. -/
def formatInt64 : GoAny → Except Fault String
  | .sint .i64 n => .ok (toString n.toInt)
  | v => .error (assertionPanic v "int64")

/-- `createUint64AttrToStringSetter`: the column's text of a value, which must be a `uint64`
once bound. -/
def createUint64AttrToStringSetter (setter : GoAny → Except BindError Value) :
    GoAny → Bool → Except Fault (Except BindError String) :=
  attrToStringSetter formatUint64 setter

/-- `createInt64AttrToStringSetter`: the column's text of a value, which must be an `int64`
once bound. -/
def createInt64AttrToStringSetter (setter : GoAny → Except BindError Value) :
    GoAny → Bool → Except Fault (Except BindError String) :=
  attrToStringSetter formatInt64 setter

/-! ### The reference setter -/

/-- The panic of `reflect.Value.Type` on the zero `Value`. -/
def zeroValuePanic : Fault :=
  .panic "reflect: call of reflect.Value.Type on zero Value"

/-- `reflect.Indirect(reflect.ValueOf(v)).Type()`: the type a pointer points to, or the value's
own type; a `nil` pointer gives the zero `Value`, whose `Type()` panics. -/
def indirectType : GoAny → Except Fault String
  | .boolPtr none | .intPtr none | .uintPtr _ none | .sintPtr _ none | .floatPtr _ none
  | .timePtr none | .entityPtr _ none => .error zeroValuePanic
  | .boolPtr (some _) => .ok "bool"
  | .intPtr (some _) => .ok "int"
  | .uintPtr w (some _) => .ok w.name
  | .sintPtr w (some _) => .ok w.name
  | .floatPtr w (some _) => .ok w.name
  | .timePtr (some _) => .ok "time.Time"
  | .entityPtr t (some _) => .ok t
  | v => .ok v.typeName

/-- `elem.Field(0).Uint()` of an entity: its `ID`. -/
def entityId : GoAny → Nat
  | .entity _ id | .entityPtr _ (some id) => id
  | _ => 0

/-- `createReferenceFieldBindSetter`, for target type `t`. -/
def createReferenceFieldBindSetter (columnName t : String)
    (idSetter : GoAny → Except BindError Value) (nullable : Bool) (v : GoAny) :
    Except Fault (Except BindError Value) := do
  if v = .nil then return nilValue columnName nullable
  if (← indirectType v) = t then
    let id := entityId v
    if id = 0 then return nilValue columnName nullable
    return .ok (.u64 id)
  match v with
  | .reference rt id =>
    if rt ≠ t then return .error ⟨columnName, "invalid reference type"⟩
    if id = 0 then return nilValue columnName nullable
    return .ok (.u64 id)
  | _ =>
    match idSetter v with
    | .error e => return .error e
    | .ok id => return if id = .u64 0 then nilValue columnName nullable else .ok id

/-- A `nil` pointer to an entity of the target type panics, whatever the column. -/
theorem reference_setter_nil_pointer_panics (columnName t : String)
    (idSetter : GoAny → Except BindError Value) (nullable : Bool) :
    createReferenceFieldBindSetter columnName t idSetter nullable (.entityPtr t none) =
      .error zeroValuePanic := by
  simp [createReferenceFieldBindSetter, indirectType]

end Orm

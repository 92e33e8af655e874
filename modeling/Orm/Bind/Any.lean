import Orm.Core.Value
import Mathlib.Data.Rat.Defs
import Mathlib.Algebra.Group.Int

/-!
# Go values as the bind setters see them

A bind setter takes a Go `any` and switches on its dynamic type. `GoAny` has one constructor per
dynamic type, or per family of types that every setter of src treats alike, and one for every
other type; `BindError` is the error a setter returns.

Shape decisions:

* a value of a fixed-width integer type is the bit vector of its width, read as a natural
  number for an unsigned type and in two's complement for a signed one; `uint` is 64 bits wide
  on the platforms the code targets. Go's `int` is `GoAny.int`, an integer: a value of `int`
  outside 64 bits is no Go value, and the conversion `int64(v)` wraps it (`wrapInt64`);
* a float is the rational number it denotes (NaN and the infinities are left out), and Go's
  conversion `int64(f)` truncates toward zero; out of range Go leaves the result to the
  implementation, and the model wraps it;
* a pointer is an `Option` of what it points to, `none` being the `nil` pointer;
* a `time.Time` is its location's name and its instant (`GoTime`); formatting and parsing are
  parameters of the date setter;
* an entity is its type's name and its `ID` (field `0`), and a `Reference[T]` value, which the
  reference setter reads through `ReferenceInterface`, its target type and id;
* `fmt` prints `nil`, bools, integers, strings and string slices as Go does, and any other value
  as its type's name in angle brackets (the address a pointer prints is not modelled).
-/

namespace Orm

/-- The unsigned integer types: `uint8`, `uint16`, `uint32`, `uint64` and `uint`. -/
inductive UWidth where
  | u8 | u16 | u32 | u64 | uint
  deriving DecidableEq, Repr

/-- The signed integer types other than `int`: `int8`, `int16`, `int32` and `int64`. -/
inductive SWidth where
  | i8 | i16 | i32 | i64
  deriving DecidableEq, Repr

/-- `float32` and `float64`. -/
inductive FWidth where
  | f32 | f64
  deriving DecidableEq, Repr

def UWidth.bits : UWidth → Nat
  | .u8 => 8 | .u16 => 16 | .u32 => 32 | .u64 => 64 | .uint => 64

def SWidth.bits : SWidth → Nat
  | .i8 => 8 | .i16 => 16 | .i32 => 32 | .i64 => 64

def UWidth.name : UWidth → String
  | .u8 => "uint8" | .u16 => "uint16" | .u32 => "uint32" | .u64 => "uint64" | .uint => "uint"

def SWidth.name : SWidth → String
  | .i8 => "int8" | .i16 => "int16" | .i32 => "int32" | .i64 => "int64"

def FWidth.name : FWidth → String
  | .f32 => "float32" | .f64 => "float64"

/-- A `time.Time`: the name of its location and its instant. -/
structure GoTime where
  location : String
  instant : Int
  deriving DecidableEq, Repr

/-- A Go `any` as the bind setters see it. -/
inductive GoAny where
  /-- The untyped `nil`. -/
  | nil
  | bool (b : Bool)
  /-- A `*bool`; `none` is the `nil` pointer. -/
  | boolPtr (b : Option Bool)
  /-- An `int`. -/
  | int (n : Int)
  | str (s : String)
  /-- A value of any other dynamic type. -/
  | other
  /-- An `*int`. -/
  | intPtr (n : Option Int)
  | uint (w : UWidth) (n : BitVec w.bits)
  | uintPtr (w : UWidth) (n : Option (BitVec w.bits))
  | sint (w : SWidth) (n : BitVec w.bits)
  | sintPtr (w : SWidth) (n : Option (BitVec w.bits))
  | float (w : FWidth) (x : ℚ)
  | floatPtr (w : FWidth) (x : Option ℚ)
  /-- A `[]string`. -/
  | strs (xs : List String)
  | time (t : GoTime)
  | timePtr (t : Option GoTime)
  /-- An entity struct of the named type, by value. -/
  | entity (type : String) (id : Nat)
  /-- A pointer to an entity of the named type. -/
  | entityPtr (type : String) (id : Option Nat)
  /-- A `Reference[T]` value: its target type and id. -/
  | reference (type : String) (id : Nat)
  deriving DecidableEq, Repr

/-- The error a bind setter returns, `BindError{Field, Message}`: the column and what is wrong
with the value. -/
structure BindError where
  field : String
  message : String
  deriving DecidableEq, Repr

/-- Go's conversion `int64(x)` of an integer of a 64-bit type: the low 64 bits in two's
complement. -/
def wrapInt64 (x : Int) : Int :=
  (x + 2 ^ 63) % 2 ^ 64 - 2 ^ 63

/-- `int64(f)` of a float: truncated toward zero. -/
def truncInt64 (x : ℚ) : Int :=
  wrapInt64 (x.num.tdiv x.den)

/-- A canonical value as a Go `any`: what a setter called with `fromBind` receives. -/
def Value.toAny : Value → GoAny
  | .null => .nil
  | .u64 n => .uint .u64 (BitVec.ofNat 64 n)
  | .i64 n => .sint .i64 (BitVec.ofInt 64 n)
  | .str s => .str s
  | .bool b => .bool b

namespace GoAny

/-- The dynamic type's name, as `fmt` prints it. -/
def typeName : GoAny → String
  | .nil => "<nil>"
  | .bool _ => "bool"
  | .boolPtr _ => "*bool"
  | .int _ => "int"
  | .str _ => "string"
  | .other => "any"
  | .intPtr _ => "*int"
  | .uint w _ => w.name
  | .uintPtr w _ => "*" ++ w.name
  | .sint w _ => w.name
  | .sintPtr w _ => "*" ++ w.name
  | .float w _ => w.name
  | .floatPtr w _ => "*" ++ w.name
  | .strs _ => "[]string"
  | .time _ => "time.Time"
  | .timePtr _ => "*time.Time"
  | .entity t _ => t
  | .entityPtr t _ => "*" ++ t
  | .reference t _ => "orm.Reference[" ++ t ++ "]"

/-- What `fmt.Sprintf("%v", v)` prints: a bool, an integer or a string as Go prints it, a slice
of strings between brackets with its elements joined by spaces, and any other value as its
type between angle brackets. -/
def fmtV : GoAny → String
  | .nil => "<nil>"
  | .bool b => toString b
  | .int n => toString n
  | .uint _ n => toString n.toNat
  | .sint _ n => toString n.toInt
  | .str s => s
  | .strs xs => "[" ++ " ".intercalate xs ++ "]"
  | v => "<" ++ v.typeName ++ ">"

/-- The text `fmt` prints for a verb the value's type does not take: `%!verb(type=value)`. -/
def badVerb (verb : String) (v : GoAny) : String :=
  match v with
  | .nil => "%!" ++ verb ++ "(<nil>)"
  | v => "%!" ++ verb ++ "(" ++ v.typeName ++ "=" ++ v.fmtV ++ ")"

/-- What `fmt.Sprintf("%s", v)` prints: a string as it is, a slice of strings between brackets,
and for any other value the `%!s(type=value)` of a verb its type does not take. -/
def fmtS : GoAny → String
  | .str s => s
  | .strs xs => "[" ++ " ".intercalate xs ++ "]"
  | v => badVerb "s" v

/-- What `fmt.Sprintf("%d", v)` prints: an integer in decimal, and for any other value the
`%!d(type=value)` of a verb its type does not take. -/
def fmtD : GoAny → String
  | .int n => toString n
  | .uint _ n => toString n.toNat
  | .sint _ n => toString n.toInt
  | v => badVerb "d" v

end GoAny

/-- The panic of a method called through a `nil` pointer. -/
def nilDereference : Fault :=
  .panic "invalid memory address or nil pointer dereference"

/-- The panic of a failed type assertion `v.(T)`. -/
def assertionPanic (v : GoAny) (t : String) : Fault :=
  let held := match v with
    | .nil => "nil"
    | v => v.typeName
  .panic ("interface conversion: interface \x7b\x7d is " ++ held ++ ", not " ++ t)

end Orm

import Interpolation.Eval.Answer
import Interpolation.Number.Functions

/-!
# Methods of numbers

Numbers tell what they are made of, and decimals know many functions besides the operators.

Main definitions:

* `integerMethod`, `floatMethod`, `complexMethod`: methods of the common numbers.
* `decimalMethod`: methods of decimals.
-/

namespace Interpolation

open Interpolation.Text Interpolation.Number

/-! ## Integers and bytes -/

/-- The digits of a natural number in the base 256, the last one first. -/
def byteDigits : (count : Nat) → Nat → List UInt8
  | 0, _ => []
  | count + 1, n => UInt8.ofNat (n % 256) :: byteDigits count (n / 256)

/-- The natural number with digits in the base 256, the last one first. -/
def ofByteDigits (bs : List UInt8) : Nat := bs.foldr (fun b n => b.toNat + 256 * n) 0

/-- Whether an argument says that the last byte comes first. -/
def isLittle (callee : String) (order : Option Value) : Except Fault Bool := do
  match order with
  | none => return false
  | some v =>
    match String.ofList (← v.namedText callee "byteorder") with
    | "little" => return true
    | "big" => return false
    | _ => throw (.refused "ValueError" "byteorder must be either 'little' or 'big'")

/-- An integer as so many bytes, the last one first. -/
def bytesOfInt (n : Int) (length : Int) (signed : Bool) : Except Fault (List UInt8) :=
  if length < 0 then .error (.refused "ValueError" "length argument must be non-negative")
  else if n < 0 ∧ ¬ signed then
    .error (.refused "OverflowError" "can't convert negative int to unsigned")
  else
    let all : Int := 256 ^ length.toNat
    let isFitting := if signed then -all ≤ 2 * n && 2 * n < all else n < all
    if isFitting then .ok (byteDigits length.toNat (n % all).toNat)
    else .error (.refused "OverflowError" "int too big to convert")

/-- The integer that bytes stand for, the last one first. -/
def intOfBytes (bs : List UInt8) (signed : Bool) : Int :=
  let n : Int := ofByteDigits bs
  let all : Int := 256 ^ bs.length
  if signed && all ≤ 2 * n then n - all else n

/-- A method of an integer. -/
def integerMethod (n : Int) (isTruth : Bool) (name : String) (a : Arguments) : Look Answer := do
  let callee := (if isTruth then "bool." else "int.") ++ name
  match name with
  | "as_integer_ratio" => do a.nothing callee; return .integers [n, 1]
  | "bit_count" => do
    a.nothing callee
    return .int ((Nat.toDigits 2 n.natAbs).count '1' : Nat)
  | "bit_length" => do
    a.nothing callee
    return .int (if n = 0 then 0 else n.natAbs.log2 + 1 : Nat)
  | "conjugate" => do
    a.nothing callee
    return if isTruth then .int n else .itself
  | "to_bytes" => do
    let vs ← Parameters.bind ⟨"to_bytes()", ["length", "byteorder", "signed"], 2, 0⟩ a
    let length ← (argumentAt vs 0 (.int 1)).requireSize
    let little ← isLittle "to_bytes()" (vs[1]?).join
    let signed ← (argumentAt vs 2 (.bool false)).truth
    let bs ← bytesOfInt n length signed
    return .atom (.bytes (if little then bs else bs.reverse))
  | _ => throw (.notCallable "builtin_function_or_method")

/-! ## Floats -/

/-- A hexadecimal digit. -/
def hexDigit (n : Nat) : Char := ((Nat.toDigits 16 n)[0]?).getD '0'

/-- The thirteen hexadecimal digits of a fraction of so many parts. -/
def hexFraction (m : Nat) : List Char :=
  (List.range 13).map fun i => hexDigit (m / 16 ^ (12 - i) % 16)

/-- A float in hexadecimal notation. -/
def hexText (x : Float) : String :=
  let sign := if isNegative x then "-" else ""
  match Binary.ofFloat x with
  | .notANumber => "nan"
  | .infinite _ => sign ++ "inf"
  | .finite _ m e =>
    if m = 0 then sign ++ "0x0.0p+0"
    else
      -- a number below the normal ones has its first digit behind the point
      let top : Int := e + (m.log2 : Int)
      let isSmall := top < -1022
      let exponent : Int := if isSmall then -1022 else top
      let scaled := m * 2 ^ (e - exponent + 52).toNat / 2 ^ (exponent - e - 52).toNat
      sign ++ (if isSmall then "0x0." else "0x1.") ++ String.ofList (hexFraction (scaled % 2 ^ 52))
        ++ "p" ++ (if exponent < 0 then "-" else "+") ++ toString exponent.natAbs

/-- The hexadecimal digits at the beginning of a text, their number, and the rest. -/
def takeHex (value count : Nat) : List Char → Nat × Nat × List Char
  | [] => (value, count, [])
  | c :: s =>
    match "0123456789abcdef".toList.findIdx? (· == c.toLower) with
    | some d => takeHex (16 * value + d) (count + 1) s
    | none => (value, count, c :: s)

/-- The power of two at the end of a hexadecimal notation. -/
def hexExponent? : List Char → Option Int
  | [] => some 0
  | c :: s =>
    if c = 'p' ∨ c = 'P' then
      let (negative, digits) := splitSign s
      if digits.isEmpty || !digits.all Char.isDigit then none
      else
        let n : Nat := digits.foldl (fun n d => 10 * n + (d.toNat - 48)) 0
        some (if negative then -(n : Int) else n)
    else none

/-- The float that a hexadecimal notation without a sign stands for. -/
def readHexMagnitude (negative : Bool) (s : List Char) : Except Fault Float :=
  let invalid : Fault := .refused "ValueError" "invalid hexadecimal floating-point string"
  let s := match s with
    | '0' :: x :: rest => if x = 'x' ∨ x = 'X' then rest else s
    | _ => s
  let (whole, wholeCount, rest) := takeHex 0 0 s
  let (m, count, fraction, rest) := match rest with
    | '.' :: rest =>
      let (m, fraction, rest) := takeHex whole 0 rest
      (m, wholeCount + fraction, fraction, rest)
    | rest => (whole, wholeCount, 0, rest)
  match hexExponent? rest with
  | none => .error invalid
  | some e =>
    if count = 0 then .error invalid
    else if m = 0 then .ok (Binary.nearest negative 0 1)
    else
      let e : Int := e - 4 * (fraction : Int)
      let large : Fault :=
        .refused "OverflowError" "hexadecimal value too large to represent as a float"
      if e + (m.log2 : Int) > 1100 then .error large
      else if e + (m.log2 : Int) < -1200 then .ok (Binary.nearest negative 0 1)
      else
        match Binary.nearest? negative (m * 2 ^ e.toNat) (2 ^ (-e).toNat) with
        | some x => .ok x
        | none => .error large

/-- The float that a hexadecimal notation stands for. -/
def readHex (s : List Char) : Except Fault Float :=
  let (negative, rest) := splitSign (stripBy (fun c => isBlank c && c.toNat < 128) s)
  let word := String.ofList (rest.map Char.toLower)
  if word = "inf" ∨ word = "infinity" then .ok (Binary.infinity negative)
  else if word = "nan" then .ok Binary.nan
  else readHexMagnitude negative rest

/-- A number as a fraction in lowest terms, or the fault of one that is none. -/
def ratioOf (ratio : Option (Int × Int)) (isInfinite : Bool) : Except Fault Answer :=
  match ratio with
  | some (n, d) => .ok (.integers [n, d])
  | none =>
    if isInfinite then
      .error (.refused "OverflowError" "cannot convert Infinity to integer ratio")
    else .error (.refused "ValueError" "cannot convert NaN to integer ratio")

/-- A method of a float. -/
def floatMethod (x : Float) (name : String) (a : Arguments) : Except Fault Answer := do
  let callee := "float." ++ name
  match name with
  | "as_integer_ratio" => do
    a.nothing callee
    ratioOf (Decimal.ofFloat x).ratio? x.isInf
  | "conjugate" => do a.nothing callee; return .itself
  | "hex" => do a.nothing callee; return .text (hexText x)
  | "is_integer" => do a.nothing callee; return .bool (Binary.ofFloat x).isInteger
  | "fromhex" => do
    match (← a.one callee).text? with
    | some s => return .atom (.float (← readHex s.toList))
    | none => throw (.refused "TypeError" "bad argument type for built-in operation")
  | _ => throw (.notCallable "builtin_function_or_method")

/-- A method of a number with an imaginary part. -/
def complexMethod (re im : Float) (name : String) (a : Arguments) : Except Fault Answer := do
  a.nothing ("complex." ++ name)
  return .atom (.complex re (-im))

/-! ## Decimals -/

/-- A result of a function of decimals. -/
def ofDecimals (r : DecimalResult Decimal) : Except Fault Answer :=
  match r with
  | .ok d => .ok (.atom (.decimal d))
  | .error s => .error (.signal s)

/-- The decimal that an argument stands for. -/
def Value.requireDecimal (v : Value) : Except Fault Decimal :=
  match v.content, v.int? with
  | .decimal d, _ => .ok d
  | _, some n => .ok (Decimal.ofInt n)
  | _, Option.none =>
    .error (.refused "TypeError" ("conversion from " ++ v.typeWord ++ " to Decimal is not supported"))

/-- Refuses a context of decimals; there is only one, which nothing stands for. -/
def requireNoContext (v : Option Value) : Except Fault Unit :=
  match v with
  | none => .ok ()
  | some v =>
    if v.isNone then .ok ()
    else .error (.refused "TypeError" "optional argument must be a context")

/-- The other decimals that a function is asked with. -/
def decimalOperands (names : List String) (a : Arguments) : Except Fault (List Decimal) := do
  let vs ← (Parameters.unnamed (names ++ ["context"]) names.length).bind a
  requireNoContext (vs[names.length]?).join
  (vs.take names.length).mapM fun v => (v.getD .none).requireDecimal

/-- The direction of rounding that an argument names. -/
def roundingOf (v : Option Value) : Except Fault Rounding :=
  let named := match v with
    | none => some .halfEven
    | some v => if v.isNone then some .halfEven else v.text?.bind fun n => Rounding.names.lookup n
  match named with
  | some r => .ok r
  | none =>
    .error (.refused "TypeError" ("valid values for rounding are:\n  [ROUND_CEILING, ROUND_FLOOR, "
      ++ "ROUND_UP, ROUND_DOWN,\n   ROUND_HALF_UP, ROUND_HALF_DOWN, ROUND_HALF_EVEN,\n   ROUND_05UP]"))

/-- The functions of one decimal that take nothing else but a context. -/
def decimalFunction? (name : String) : Option (Decimal → DecimalResult Decimal) :=
  match name with
  | "exp" => some Decimal.exp
  | "ln" => some Decimal.ln
  | "log10" => some Decimal.log10
  | "logb" => some Decimal.logb
  | "logical_invert" => some Decimal.logicalInvert
  | "next_minus" => some (Decimal.next false)
  | "next_plus" => some (Decimal.next true)
  | "normalize" => some Decimal.normalize
  | "sqrt" => some Decimal.sqrt
  | _ => none

/-- The functions of two decimals. -/
def decimalPairing? (name : String) : Option (Decimal → Decimal → DecimalResult Decimal) :=
  let absolute (d : Decimal) : Decimal := d.withSign false
  match name with
  | "compare" => some (Decimal.compareAs false)
  | "compare_signal" => some (Decimal.compareAs true)
  | "compare_total" => some fun d e => .ok (Decimal.ofOrdering (d.total e))
  | "compare_total_mag" =>
    some fun d e => .ok (Decimal.ofOrdering ((absolute d).total (absolute e)))
  | "copy_sign" => some fun d e => .ok (d.withSign e.isNegative)
  | "logical_and" => some (Decimal.logical and)
  | "logical_or" => some (Decimal.logical or)
  | "logical_xor" => some (Decimal.logical xor)
  | "max" => some (Decimal.select true false)
  | "max_mag" => some (Decimal.select true true)
  | "min" => some (Decimal.select false false)
  | "min_mag" => some (Decimal.select false true)
  | "next_toward" => some Decimal.nextToward
  | "remainder_near" => some Decimal.remainderNear
  | "rotate" => some (Decimal.moveDigits true)
  | "scaleb" => some Decimal.scaleb
  | "shift" => some (Decimal.moveDigits false)
  | _ => none

/-- The properties of decimals. -/
def decimalProperty? (name : String) : Option (Decimal → Bool) :=
  match name with
  | "is_canonical" => some fun _ => true
  | "is_finite" => some fun d => match d with
    | .finite .. => true
    | _ => false
  | "is_infinite" => some fun d => match d with
    | .infinite _ => true
    | _ => false
  | "is_nan" => some Decimal.isNotANumber
  | "is_qnan" => some fun d => d.isNotANumber && !d.isSignal
  | "is_snan" => some Decimal.isSignal
  | "is_signed" => some Decimal.isNegative
  | "is_zero" => some Decimal.isZero
  | _ => none

/-- The sign, the digits and the exponent of a decimal. -/
def decimalParts (d : Decimal) : Answer :=
  let digits (n : Nat) : Answer :=
    .integers ((Nat.toDigits 10 n).map fun c => ((c.toNat - 48 : Nat) : Int))
  let (shown, last) := match d with
    | .finite _ c e => (digits c, Answer.int e)
    | .infinite _ => (digits 0, Answer.text "F")
    | .notANumber _ signal payload =>
      (if payload = 0 then .tuple [] else digits payload, Answer.text (if signal then "N" else "n"))
  .record .digits [.int (if d.isNegative then 1 else 0), shown, last]

/-- The decimal with just the digits that a float has. -/
def exactDecimal (x : Float) : Decimal :=
  match (Decimal.ofFloat x).ratio? with
  | some (n, d) =>
    let places := d.natAbs.log2
    .finite (isNegative x) (n.natAbs * 5 ^ places) (-(places : Int))
  | none => Decimal.ofFloat x

/-- A method of a decimal. -/
def decimalMethod (d : Decimal) (name : String) (a : Arguments) : Except Fault Answer := do
  let callee := "Decimal." ++ name
  match decimalFunction? name, decimalPairing? name, decimalProperty? name with
  | some f, _, _ => do
    let _ ← decimalOperands [] a
    ofDecimals (f d)
  | _, some f, _ => do
    let operands ← decimalOperands ["other"] a
    ofDecimals (f d ((operands[0]?).getD d))
  | _, _, some p => do
    a.nothing callee
    return .bool (p d)
  | none, none, none =>
    match name with
    | "adjusted" => do a.nothing callee; return .int d.adjusted
    | "as_integer_ratio" => do
      a.nothing callee
      ratioOf d.ratio? !d.isNotANumber
    | "as_tuple" => do a.nothing callee; return decimalParts d
    | "canonical" | "conjugate" => do a.nothing callee; return .itself
    | "copy_abs" => do a.nothing callee; ofDecimals (.ok (d.withSign false))
    | "copy_negate" => do a.nothing callee; ofDecimals (.ok (d.withSign !d.isNegative))
    | "radix" => do a.nothing callee; ofDecimals (.ok (Decimal.ofInt 10))
    | "is_normal" => do
      let _ ← decimalOperands [] a
      return .bool d.isNormal
    | "is_subnormal" => do
      let _ ← decimalOperands [] a
      return .bool d.isSubnormal
    | "number_class" => do
      let _ ← decimalOperands [] a
      return .text d.className
    | "to_eng_string" => do
      let _ ← decimalOperands [] a
      return .text d.engineeringText
    | "same_quantum" => do
      let operands ← decimalOperands ["other"] a
      return .bool (d.sameQuantum ((operands[0]?).getD d))
    | "fma" => do
      let operands ← decimalOperands ["other", "third"] a
      ofDecimals (d.fusedMultiplyAdd ((operands[0]?).getD d) ((operands[1]?).getD d))
    | "quantize" => do
      let vs ← (Parameters.unnamed ["exp", "rounding", "context"] 1).bind a
      requireNoContext (vs[2]?).join
      let r ← roundingOf (vs[1]?).join
      ofDecimals (d.quantizeTo r (← (argumentAt vs 0 .none).requireDecimal))
    | "to_integral" | "to_integral_exact" | "to_integral_value" => do
      let vs ← (Parameters.unnamed ["rounding", "context"] 0).bind a
      requireNoContext (vs[1]?).join
      ofDecimals (d.toIntegral (← roundingOf (vs[0]?).join))
    | "from_float" => do
      let v ← a.one callee
      match v.content, v.int? with
      | .float x, _ => ofDecimals (.ok (exactDecimal x))
      | _, some n => ofDecimals (.ok (Decimal.ofInt n))
      | _, none => throw (.refused "TypeError" "argument must be int or float")
    | _ => throw (.notCallable "builtin_function_or_method")

end Interpolation

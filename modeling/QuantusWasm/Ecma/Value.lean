import QuantusWasm.Ecma.Number

/-!
# ECMAScript values

The values a program tells apart by `typeof` and `instanceof Uint8Array`.
-/

namespace Ecma

/-- A JavaScript value. -/
inductive Value where
  | undefined
  | null
  | boolean (value : Bool)
  | number (value : Number)
  | bigint (value : Int)
  | string (value : Text)
  | uint8Array (value : List UInt8)
  /-- Any other object, function or symbol. -/
  | other
  deriving DecidableEq

/-- `BigInt.prototype.toString`. -/
def bigintToString (integer : Int) : List Char :=
  if integer < 0 then
    '-' :: Nat.toDigits 10 integer.natAbs
  else
    Nat.toDigits 10 integer.natAbs

namespace Value

/-- The integer a numeric value stands for, if it is one. -/
def integer? : Value → Option Int
  | .number value => value.integer?
  | .bigint value => some value
  | _ => none

/-- A number or bigint greater than zero. -/
def IsPositive : Value → Prop
  | .number value => value.greaterThanZero = true
  | .bigint value => 0 < value
  | _ => False

instance : DecidablePred IsPositive
  | .number value => inferInstanceAs (Decidable (value.greaterThanZero = true))
  | .bigint value => inferInstanceAs (Decidable (0 < value))
  | .undefined | .null | .boolean _ | .string _ | .uint8Array _ | .other =>
      inferInstanceAs (Decidable False)

end Value

end Ecma

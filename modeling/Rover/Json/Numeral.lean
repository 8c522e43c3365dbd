import Rover.Json.Reader

/-!
Digits are kept in 64 bits as far as these hold them, with the power of ten that is left; a float
comes of both by one multiplication or division, or by a few beyond the range of floats.
-/

set_option autoImplicit false

namespace Rover.Json

structure Numeral where
  negative : Bool
  significand : Nat
  exponent : Int
  -- A whole number without a point or an exponent, all of whose digits are kept.
  plain : Bool
deriving DecidableEq, Repr

-- Takes digits in behind those that are held, up to the first that 64 bits have no room for. The
-- number of digits that are left out comes with it.
def keep (held : Nat) : List UInt8 → Nat × Nat
  | [] => (held, 0)
  | digit :: rest =>
      let longer := 10 * held + digitValue digit
      if longer < 18446744073709551616 then keep longer rest else (held, rest.length + 1)

def maxPower : Nat := 308

def tenTo (power : Nat) : Float := Float.ofScientific 1 false power

-- What is beyond the largest float is none.
def raised? (value : Float) (power : Nat) : Option Float :=
  if power ≤ maxPower then
    let raised := value * tenTo power
    if raised.isInf then none else some raised
  else if value == 0.0 then some value
  else none

-- Divides by the largest power of ten a number of times, unless nothing is left, and then by the
-- power that remains.
def lowered : Nat → Float → Nat → Float
  | 0, value, power => value / tenTo power
  | times + 1, value, power =>
      if value == 0.0 then value else lowered times (value / tenTo maxPower) power

def scaled? (value : Float) (power : Int) : Option Float :=
  if 0 ≤ power then raised? value power.toNat
  else
    let digits := power.natAbs - 1
    some (lowered (digits / maxPower) value (digits % maxPower + 1))

namespace Numeral

-- A negative zero is no whole number.
def toInt? (numeral : Numeral) : Option Int :=
  if !numeral.plain then none
  else if numeral.negative then
    if numeral.significand = 0 then none else some (-numeral.significand)
  else some numeral.significand

def size? (numeral : Numeral) : Option Float :=
  let value := numeral.significand.toUInt64.toFloat
  if numeral.plain then some value else scaled? value numeral.exponent

def float? (numeral : Numeral) : Option Float :=
  numeral.size?.map fun size => if numeral.negative then -size else size

end Numeral

namespace Reader

def someDigits (atEnd : Defect) : Reader (List UInt8) := do
  match ← takeWhile isDigit with
  | [] => throw (if (← get).isEmpty then atEnd else .malformed)
  | digits => return digits

def wholeDigits (atEnd : Defect) : Reader (List UInt8) := do
  let digits ← someDigits atEnd
  if digits.head? = some 0x30 ∧ 1 < digits.length then throw .malformed else return digits

def fraction (atEnd : Defect) : Reader (Option (List UInt8)) := do
  match ← accept (· = dot) with
  | none => return none
  | some _ => return some (← someDigits atEnd)

def power (atEnd : Defect) : Reader (Option Int) := do
  match ← accept fun byte => byte = 0x65 || byte = 0x45 with
  | none => return none
  | some _ =>
      let sign ← accept fun byte => byte = plus || byte = minus
      let size := ofDigits (← someDigits atEnd)
      return some (if sign = some minus then -size else size)

-- Decimals may find room although digits before the point found none.
def ofParts (negative : Bool) (whole : List UInt8) (decimals : Option (List UInt8))
    (power : Option Int) : Numeral :=
  let behind := decimals.getD []
  let (held, lost) := keep 0 whole
  let (significand, lostToo) := keep held behind
  { negative
    significand
    exponent := (lost + lostToo : Nat) - behind.length + power.getD 0
    plain := lost = 0 && decimals.isNone && power.isNone }

-- `atEnd` is what it means when the text ends within the numeral.
def numeral (atEnd : Defect) : Reader Numeral := do
  let sign ← accept (· = minus)
  let whole ← wholeDigits atEnd
  let decimals ← fraction atEnd
  let power ← power atEnd
  return ofParts sign.isSome whole decimals power

def finiteNumeral : Reader Numeral := do
  let numeral ← numeral .truncated
  if numeral.size?.isNone then throw .malformed else return numeral

end Reader

end Rover.Json

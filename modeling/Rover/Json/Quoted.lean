import Rover.Json.Reader

set_option autoImplicit false

namespace Rover.Json

def hexValue? (byte : UInt8) : Option Nat :=
  if isDigit byte then some (digitValue byte)
  else if 0x61 ≤ byte ∧ byte ≤ 0x66 then some (byte.toNat - 0x61 + 10)
  else if 0x41 ≤ byte ∧ byte ≤ 0x46 then some (byte.toNat - 0x41 + 10)
  else none

def escaped? (letter : UInt8) : Option UInt8 :=
  match letter with
  | 0x22 => some quote
  | 0x5c => some backslash
  | 0x2f => some 0x2f
  | 0x62 => some 0x08
  | 0x66 => some 0x0c
  | 0x6e => some 0x0a
  | 0x72 => some 0x0d
  | 0x74 => some 0x09
  | _ => none

def isLeading (unit : Nat) : Bool := 0xd800 ≤ unit && unit ≤ 0xdbff

def isTrailing (unit : Nat) : Bool := 0xdc00 ≤ unit && unit ≤ 0xdfff

namespace Reader

-- Four hexadecimal digits. They are read before they are looked at.
def hexUnit : Reader Nat := do
  let a ← next
  let b ← next
  let c ← next
  let d ← next
  match hexValue? a, hexValue? b, hexValue? c, hexValue? d with
  | some a, some b, some c, some d => return ((16 * a + b) * 16 + c) * 16 + d
  | _, _, _, _ => throw .malformed

def literally (byte : UInt8) : Reader Unit := do
  if (← next) = byte then pure () else throw .malformed

def codePoint : Reader Nat := do
  let unit ← hexUnit
  if isTrailing unit then throw .malformed
  else if isLeading unit then
    literally backslash
    literally 0x75
    let other ← hexUnit
    if isTrailing other then return (unit - 0xd800) * 0x400 + (other - 0xdc00) + 0x10000
    else throw .malformed
  else return unit

def escape : Reader (List UInt8) := do
  let letter ← next
  if letter = 0x75 then return String.utf8EncodeChar (Char.ofNat (← codePoint))
  else
    match escaped? letter with
    | some byte => return [byte]
    | none => throw .malformed

-- An escape in a string that nobody looks into: halves may stand alone.
def looseEscape : Reader (List UInt8) := do
  let letter ← next
  if letter = 0x75 then
    discard hexUnit
    return []
  else if (escaped? letter).isSome then return []
  else throw .malformed

def quotedFrom (escape : Reader (List UInt8)) : Nat → List UInt8 → Reader (List UInt8)
  | 0, _ => throw .truncated
  | rounds + 1, taken => do
      let byte ← next
      if byte = quote then return taken.reverse
      else if byte = backslash then quotedFrom escape rounds ((← escape).reverse ++ taken)
      else if byte < 0x20 then throw .malformed
      else quotedFrom escape rounds (byte :: taken)

def quoted (escape : Reader (List UInt8)) : Reader (List UInt8) := do
  quotedFrom escape (← read) []

def text : Reader String := do
  match String.fromUTF8? ⟨(← quoted escape).toArray⟩ with
  | some text => return text
  | none => throw .malformed

def skipText : Reader Unit := discard (quoted looseEscape)

end Reader

end Rover.Json

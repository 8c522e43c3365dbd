import Rover.Json.Skip
import Rover.Settings.Key

/-!
An object, whose unknown members are skipped, or a list of the values in the order of the keys. What
the text leaves out keeps its default.
-/

set_option autoImplicit false

namespace Rover.Settings

open Json Json.Reader

def startsNumeral (byte : UInt8) : Bool := byte = minus || isDigit byte

def refuse {β : Type} : Reader β := do
  let first ← Reader.next
  if first = quote then
    discard text
    throw .mismatched
  else if first = openBracket || first = openBrace then throw .mismatched
  else
    match wordAfter? first with
    | some rest =>
        word rest
        throw .mismatched
    | none => throw .malformed

def value (settings : Settings) (key : Key) : Reader Settings := do
  if startsNumeral (← peek) then
    match settings.assign key (← finiteNumeral) with
    | some next => return next
    | none => throw .mismatched
  else refuse

def another (close : UInt8) (first : Bool) : Reader Bool := do
  let byte ← peek
  if byte = close then
    discard Reader.next
    return false
  else if first then return true
  else if byte = comma then
    discard Reader.next
    if (← peek) = close then throw .malformed else return true
  else throw .malformed

def members : Nat → Bool → List Key → Settings → Reader Settings
  | 0, _, _, _ => throw .truncated
  | rounds + 1, first, seen, settings => do
      if ← another closeBrace first then
        expect quote
        match Key.ofName? (← text) with
        | none =>
            expect colon
            skipValue
            members rounds false seen settings
        | some key =>
            if key ∈ seen then throw .mismatched
            else
              expect colon
              members rounds false (key :: seen) (← settings.value key)
      else return settings

def items : List Key → Bool → Settings → Reader Settings
  | [], _, settings => do
      expect closeBracket
      return settings
  | key :: rest, first, settings => do
      if ← another closeBracket first then items rest false (← settings.value key)
      else return settings

def document : Reader Settings := do
  let first ← peek
  if first = openBrace then
    discard Reader.next
    members (← read) true [] standard
  else if first = openBracket then
    discard Reader.next
    items Key.all true standard
  else if startsNumeral first then
    discard finiteNumeral
    throw .mismatched
  else refuse

def ofBytes? (bytes : List UInt8) : Except Defect Settings := document.run bytes

end Rover.Settings

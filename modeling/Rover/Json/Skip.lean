import Rover.Json.Numeral
import Rover.Json.Quoted

set_option autoImplicit false

namespace Rover.Json

inductive Bracket where
  | list
  | object
deriving DecidableEq, Repr

def Bracket.close : Bracket → UInt8
  | list => closeBracket
  | object => closeBrace

namespace Reader

def enter : Bracket → Reader Unit
  | .list => pure ()
  | .object => do
      expect quote
      skipText
      expect colon

def skipScalar : Reader (Option Bracket) := do
  let first ← peek
  if first = minus || isDigit first then
    discard (numeral .malformed)
    return none
  else
    discard next
    if first = quote then
      skipText
      return none
    else if first = openBracket then return some .list
    else if first = openBrace then return some .object
    else
      match wordAfter? first with
      | some rest =>
          word rest
          return none
      | none => throw .malformed

-- The rest of a value inside the brackets that are open. The flag says whether a value comes next
-- or the text stands behind one. Each round reads one byte or more.
def skipFrom : Nat → Bool → List Bracket → Reader Unit
  | 0, _, _ => throw .truncated
  | rounds + 1, true, opened => do
      match ← skipScalar with
      | none => skipFrom rounds false opened
      | some bracket =>
          if (← peek) = bracket.close then
            discard next
            skipFrom rounds false opened
          else
            enter bracket
            skipFrom rounds true (bracket :: opened)
  | _ + 1, false, [] => pure ()
  | rounds + 1, false, bracket :: outer => do
      let byte ← peek
      discard next
      if byte = comma then
        enter bracket
        skipFrom rounds true (bracket :: outer)
      else if byte = bracket.close then skipFrom rounds false outer
      else throw .malformed

def skipValue : Reader Unit := do skipFrom (← read) true []

end Reader

end Rover.Json

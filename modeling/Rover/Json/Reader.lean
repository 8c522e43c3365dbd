set_option autoImplicit false

namespace Rover.Json

inductive Defect where
  | truncated
  | malformed
  | mismatched
deriving DecidableEq, Repr

-- What is read is taken off the front of the bytes. The number that is passed along bounds the
-- rounds of every loop; it is larger than the length of the whole text.
abbrev Reader (β : Type) := ReaderT Nat (StateT (List UInt8) (Except Defect)) β

def quote : UInt8 := 0x22
def plus : UInt8 := 0x2b
def comma : UInt8 := 0x2c
def minus : UInt8 := 0x2d
def dot : UInt8 := 0x2e
def colon : UInt8 := 0x3a
def backslash : UInt8 := 0x5c
def openBracket : UInt8 := 0x5b
def closeBracket : UInt8 := 0x5d
def openBrace : UInt8 := 0x7b
def closeBrace : UInt8 := 0x7d

def isBlank (byte : UInt8) : Bool := byte = 0x20 || byte = 0x0a || byte = 0x0d || byte = 0x09

def isDigit (byte : UInt8) : Bool := 0x30 ≤ byte && byte ≤ 0x39

def digitValue (byte : UInt8) : Nat := byte.toNat - 0x30

def ofDigits (digits : List UInt8) : Nat :=
  digits.foldl (fun value digit => 10 * value + digitValue digit) 0

namespace Reader

def next : Reader UInt8 := fun _ text =>
  match text with
  | [] => .error .truncated
  | byte :: rest => .ok (byte, rest)

def accept (test : UInt8 → Bool) : Reader (Option UInt8) := fun _ text =>
  match text with
  | [] => .ok (none, [])
  | byte :: rest => if test byte then .ok (some byte, rest) else .ok (none, text)

def takeWhile (test : UInt8 → Bool) : Reader (List UInt8) := fun _ text =>
  .ok (text.takeWhile test, text.dropWhile test)

def peek : Reader UInt8 := fun _ text =>
  match text.dropWhile isBlank with
  | [] => .error .truncated
  | byte :: rest => .ok (byte, byte :: rest)

def expect (byte : UInt8) : Reader Unit := do
  if (← peek) = byte then discard next else throw .malformed

def word : List UInt8 → Reader Unit
  | [] => pure ()
  | byte :: rest => do
      if (← next) = byte then word rest else throw .malformed

def finish : Reader Unit := fun _ text =>
  match text.dropWhile isBlank with
  | [] => .ok ((), [])
  | _ :: _ => .error .malformed

def run {β : Type} (reader : Reader β) (text : List UInt8) : Except Defect β :=
  match (do let result ← reader; finish; return result : Reader β) (text.length + 1) text with
  | .ok (result, _) => .ok result
  | .error defect => .error defect

end Reader

def wordAfter? (first : UInt8) : Option (List UInt8) :=
  match first with
  | 0x6e => some [0x75, 0x6c, 0x6c]
  | 0x74 => some [0x72, 0x75, 0x65]
  | 0x66 => some [0x61, 0x6c, 0x73, 0x65]
  | _ => none

end Rover.Json

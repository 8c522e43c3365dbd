set_option autoImplicit false

namespace Rover.Line

abbrev Readings := Vector UInt16 8

def threshold (readings : Readings) : UInt16 :=
  let smallest := readings.toList.foldl min readings[0]
  let largest := readings.toList.foldl max readings[0]
  smallest + (largest - smallest) / 2

-- Channel 0 is the top bit.
def pattern (readings : Readings) : UInt8 :=
  let limit := threshold readings
  readings.toList.foldl
    (fun bits reading => bits <<< 1 ||| (decide (limit ≤ reading)).toUInt8) 0

def digits (bits : UInt8) : String :=
  String.ofList <| (List.range 8).reverse.map fun place =>
    if bits.toNat.testBit place then '1' else '0'

-- Where a line is: from -8 eighths to 8 eighths, positive toward channel 0.
structure Position where
  eighths : Int
deriving DecidableEq, Repr

namespace Position

def middle : Position := ⟨0⟩

def toFloat (position : Position) : Float := Float.ofInt position.eighths / 8.0

def text (position : Position) : String :=
  let size := position.eighths.natAbs
  let sign := if position.eighths < 0 then "-" else ""
  let part := match size % 8 with
    | 0 => ""
    | 1 => ".125"
    | 2 => ".25"
    | 3 => ".375"
    | 4 => ".5"
    | 5 => ".625"
    | 6 => ".75"
    | _ => ".875"
  s!"{sign}{size / 8}{part}"

def ofPattern? (bits : UInt8) : Option Position :=
  match bits with
  | 0b00011000 => some ⟨0⟩
  | 0b00010000 | 0b00111000 => some ⟨2⟩
  | 0b00001000 | 0b00011100 => some ⟨-2⟩
  | 0b00110000 => some ⟨3⟩
  | 0b00001100 => some ⟨-3⟩
  | 0b00100000 | 0b01110000 => some ⟨4⟩
  | 0b00000100 | 0b00001110 => some ⟨-4⟩
  | 0b01100000 | 0b11100000 => some ⟨5⟩
  | 0b00000110 | 0b00000111 => some ⟨-5⟩
  | 0b01000000 | 0b11110000 => some ⟨6⟩
  | 0b00000010 | 0b00001111 => some ⟨-6⟩
  | 0b11000000 => some ⟨7⟩
  | 0b00000011 => some ⟨-7⟩
  | 0b10000000 => some ⟨8⟩
  | 0b00000001 => some ⟨-8⟩
  | _ => none

end Position

end Rover.Line

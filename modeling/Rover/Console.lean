import Rover.Log

set_option autoImplicit false

namespace Rover

namespace Level

def colour? : Level → Option Nat
  | error => some 31
  | warn => some 33
  | info => some 32
  | debug => none
  | trace => none

def paint (level : Level) (text : String) : String :=
  match level.colour? with
  | some colour => s!"\x1b[0;{colour}m{text}\x1b[0m"
  | none => text

def thresholdName : Option Level → String
  | none => "OFF"
  | some level => level.name

end Level

inductive ConsoleFault where
  | installedBefore
deriving DecidableEq, Repr

def ConsoleFault.message : ConsoleFault → String
  | installedBefore =>
      "attempted to set a logger after the logging system was already initialized"

structure Console where
  installed : Bool := false
  threshold : Option Level := none
deriving DecidableEq, Repr

namespace Console

def install (console : Console) (threshold : Option Level) : Except ConsoleFault Console :=
  if console.installed then .error .installedBefore else .ok { installed := true, threshold }

def isEnabled (console : Console) (level : Level) : Bool := level.passes console.threshold

def format (level : Level) (time source message : String) : String :=
  level.paint s!"{level.name} ({time}) {source} {message}"

def print (console : Console) (level : Level) (time source message : String) : String :=
  if console.isEnabled level then format level time source message ++ "\n" else ""

end Console

def Entry.format (entry : Entry) (time : String) : String :=
  Console.format entry.level time entry.source.name entry.text

end Rover

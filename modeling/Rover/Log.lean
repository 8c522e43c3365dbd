/-!
A log keeps the entries that its threshold lets through, newest first. Lines name no fractions:
angles, errors and distances are left out.
-/

set_option autoImplicit false

namespace Rover

inductive Level where
  | error
  | warn
  | info
  | debug
  | trace
deriving DecidableEq, Repr

namespace Level

def rank : Level → Nat
  | error => 1
  | warn => 2
  | info => 3
  | debug => 4
  | trace => 5

def name : Level → String
  | error => "ERROR"
  | warn => "WARN"
  | info => "INFO"
  | debug => "DEBUG"
  | trace => "TRACE"

-- No threshold silences every level.
def passes (level : Level) : Option Level → Bool
  | none => false
  | some threshold => level.rank ≤ threshold.rank

end Level

inductive Source where
  | motor
  | regulator
  | speedControl
  | drive
  | lineSensor
  | settings
  | pilot
  | program
  | demo
deriving DecidableEq, Repr

def Source.name : Source → String
  | motor => "motor"
  | regulator => "regulator"
  | speedControl => "speed_control"
  | drive => "differential_drive"
  | lineSensor => "line_sensor"
  | settings => "robot::config"
  | pilot => "robot::pilot"
  | program => "robot"
  | demo => "robot::host"

structure Entry where
  level : Level
  source : Source
  text : String
deriving DecidableEq, Repr

structure Log where
  threshold : Option Level := none
  entries : List Entry := []
deriving DecidableEq, Repr

namespace Log

def say (log : Log) (level : Level) (source : Source) (text : String) : Log :=
  if level.passes log.threshold then
    { log with entries := { level, source, text } :: log.entries }
  else log

def count (log : Log) (level : Level) (source : Source) : Nat :=
  log.entries.countP fun entry => entry.level = level ∧ entry.source = source

end Log

end Rover

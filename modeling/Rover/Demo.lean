import Rover.Pilot
import Rover.Settings.File

set_option autoImplicit false

namespace Rover.Demo

def route : List (Command Nat) :=
  [.forwardFor 3, .pause 2000, .turnLeft 90, .pause 2000, .turnRight 90, .pause 2000,
    .forwardAt 80 50]

def commands : List (Command Float) := route.map (Command.map Float.ofNat)

-- The wheel speed of the simulated motors at full duty, in radians per second.
def fullDutySpeed : Float := 20.0

def motorLag : Nat := 150

def ticksPerSecond (pulses : Nat) : Int :=
  Scalar.truncate (fullDutySpeed * Float.ofNat pulses / (2.0 * Scalar.pi))

def plant (settings : Settings) : Plant := .proportional (ticksPerSecond settings.pulses) motorLag

def drive (settings : Settings) (log : Log) : Drive Float :=
  Drive.new { World.simulated settings.pulses (plant settings) 0 with log }
    settings.speedConfig settings.driveConfig

def travel (settings : Settings) (log : Log) : List (Report Float) × Drive Float :=
  (commands.foldl Pilot.send { drive := drive settings log }).finish

def sayResult (log : Log) (command : Command Nat) (result : Except PwmFault (Option Outcome)) :
    Log :=
  match result with
  | .ok (some outcome) => log.say .info .demo s!"{command.text}: {outcome.name}"
  | .ok none => log.say .error .demo s!"{command.text}: still running"
  | .error fault => log.say .error .demo s!"{command.text}: {fault.driveMessage}"

def run (file : SettingsFile) (log : Log) : Log :=
  let (settings, log) := Settings.load file log
  let (reports, drive) := travel settings log
  let log := (route.zip reports).foldl
    (fun log (command, report) => sayResult log command report.result) drive.world.log
  let ticks := drive.world.ticks
  log.say .info .demo
    s!"simulated {drive.world.now}ms, wheels moved {ticks.left}/{ticks.right} ticks"

def version : String := "0.1.0"

def program (file : SettingsFile) : List Entry :=
  let log : Log := { threshold := some .info }
  (run file (log.say .info .program s!"starting robot v{version}")).entries.reverse

end Rover.Demo

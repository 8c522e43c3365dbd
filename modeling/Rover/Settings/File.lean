import Rover.Settings.Document

set_option autoImplicit false

namespace Rover

inductive SettingsFile where
  | missing
  | directory
  | contents (bytes : List UInt8)
deriving DecidableEq, Repr

inductive SettingsFault where
  | missing
  | unreadable
  | defect (defect : Json.Defect)
deriving DecidableEq, Repr

namespace SettingsFault

def message : SettingsFault → String
  | missing => "no such file"
  | unreadable => "not a file"
  | defect .truncated => "the text ends too early"
  | defect .malformed => "not a JSON text"
  | defect .mismatched => "not the settings of a robot"

end SettingsFault

namespace Settings

def repairIf (unusable : Bool) (text : String) (put : Settings → Settings) (settings : Settings)
    (log : Log) : Settings × Log :=
  if unusable then (put settings, log.say .warn .settings text) else (settings, log)

def repaired (settings : Settings) (log : Log) : Settings × Log :=
  let (settings, log) := repairIf (settings.pulses = 0)
    s!"er must be positive, using {standard.pulses}"
    (fun settings => { settings with pulses := standard.pulses }) settings log
  let (settings, log) := repairIf (!decide (0.0 < settings.wheelRadius))
    "wrad must be positive, using 3.05"
    (fun settings => { settings with wheelRadius := standard.wheelRadius }) settings log
  let (settings, log) := repairIf (!decide (0.0 < settings.maxSpeed))
    "maxs must be positive, using 15"
    (fun settings => { settings with maxSpeed := standard.maxSpeed }) settings log
  repairIf (!settings.straightGain.isFinite) "ks must be finite, using 80"
    (fun settings => { settings with straightGain := standard.straightGain }) settings log

def read (file : SettingsFile) : Except SettingsFault Settings :=
  match file with
  | .missing => .error .missing
  | .directory => .error .unreadable
  | .contents bytes => (ofBytes? bytes).mapError .defect

def open? (file : SettingsFile) (log : Log) : Except SettingsFault Settings × Log :=
  let log := log.say .info .settings "opening the settings"
  match read file with
  | .ok settings =>
      let (settings, log) := settings.repaired log
      (.ok settings, log)
  | .error fault => (.error fault, log)

-- Never fails: where there are no settings the defaults are used.
def load (file : SettingsFile) (log : Log) : Settings × Log :=
  match open? file log with
  | (.ok settings, log) => (settings, log.say .info .settings "settings loaded")
  | (.error fault, log) =>
      let log := log.say .warn .settings s!"using default settings: {fault.message}"
      (standard, log.say .info .settings "settings loaded")

end Settings

end Rover

import Rover.Console
import Rover.Demo

set_option autoImplicit false

namespace Rover.Main

def settingsName : String := "settings.json"

def settingsFile : IO SettingsFile := do
  try
    let bytes ← IO.FS.readBinFile settingsName
    return .contents bytes.toList
  catch
    | .noFileOrDirectory _ _ _ => return .missing
    | _ => return .directory

end Rover.Main

def main : IO Unit := do
  let start ← IO.monoMsNow
  for entry in Rover.Demo.program (← Rover.Main.settingsFile) do
    IO.println (entry.format (toString ((← IO.monoMsNow) - start)))

import Rover.Command

set_option autoImplicit false

namespace Rover

variable {α : Type} [Scalar α]

structure Report (α : Type) where
  command : Command α
  result : Except PwmFault (Option Outcome)

structure Pilot (α : Type) where
  drive : Drive α
  queue : List (Command α) := []
  reports : List (Report α) := []

namespace Drive

def perform (drive : Drive α) (command : Command α) : Report α × Drive α :=
  match execute command (drive.sayAs .pilot .info command.name) with
  | .ok outcome next => ({ command, result := .ok outcome }, next)
  | .error fault next =>
      ({ command, result := .error fault },
        next.sayAs .pilot .error s!"{command.name} failed: {fault.driveMessage}")

end Drive

namespace Pilot

def send (pilot : Pilot α) (command : Command α) : Pilot α :=
  { pilot with queue := pilot.queue ++ [command] }

def work (pilot : Pilot α) : Pilot α :=
  match pilot.queue with
  | [] => pilot
  | command :: rest =>
      let (report, drive) := pilot.drive.perform command
      { drive, queue := rest, reports := pilot.reports ++ [report] }

def workMany : Nat → Pilot α → Pilot α
  | 0, pilot => pilot
  | count + 1, pilot => workMany count pilot.work

def catchUp (pilot : Pilot α) : Pilot α := pilot.workMany pilot.queue.length

def receive? (pilot : Pilot α) : Option (Report α × Pilot α) :=
  match pilot.reports with
  | [] => none
  | report :: rest => some (report, { pilot with reports := rest })

def receive (pilot : Pilot α) : Option (Report α × Pilot α) :=
  if pilot.reports.isEmpty then pilot.work.receive? else pilot.receive?

def receiveMany (pilot : Pilot α) (count : Nat) : List (Report α) × Pilot α :=
  match count with
  | 0 => ([], pilot)
  | left + 1 =>
      match pilot.receive with
      | none => ([], pilot)
      | some (report, next) =>
          let (reports, last) := next.receiveMany left
          (report :: reports, last)

def finish (pilot : Pilot α) : List (Report α) × Drive α :=
  let last := pilot.catchUp
  (last.reports, last.drive.sayAs .pilot .info "pilot done")

end Pilot

end Rover

import Mathlib.Logic.Relation
import Rover.Pilot

/-!
The pilot and the sender of its commands share the queue and the reports, and their moves interleave
in any way.
-/

set_option autoImplicit false

namespace Rover

open Relation (ReflTransGen)

variable {α : Type} [Scalar α]

def Report.ended (report : Report α) : Bool :=
  match report.result with
  | .ok none => false
  | _ => true

namespace Drive

def performAll (drive : Drive α) : List (Command α) → List (Report α) × Drive α
  | [] => ([], drive)
  | command :: rest =>
      let first := drive.perform command
      let others := first.2.performAll rest
      (first.1 :: others.1, others.2)

end Drive

namespace Pilot

omit [Scalar α] in
theorem send_all (commands : List (Command α)) (pilot : Pilot α) :
    commands.foldl send pilot = { pilot with queue := pilot.queue ++ commands } := by
  induction commands generalizing pilot with
  | nil => simp
  | cons command rest ih => simp [ih, send]

theorem work_many_all (pilot : Pilot α) : pilot.workMany pilot.queue.length =
    { drive := (pilot.drive.performAll pilot.queue).2
      queue := []
      reports := pilot.reports ++ (pilot.drive.performAll pilot.queue).1 } := by
  rcases pilot with ⟨drive, queue, reports⟩
  induction queue generalizing drive reports with
  | nil => simp [workMany, Drive.performAll]
  | cons command rest ih => simp [workMany, work, ih, Drive.performAll]

theorem finish_sent (drive : Drive α) (commands : List (Command α)) :
    (commands.foldl send { drive }).finish = ((drive.performAll commands).1,
      (drive.performAll commands).2.sayAs .pilot .info "pilot done") := by
  have caught := work_many_all { drive, queue := commands }
  rw [send_all, List.nil_append]
  simp only [finish, catchUp]
  rw [caught, List.nil_append]

end Pilot

inductive Hand (β : Type) where
  | free
  | taken (command : Command β)
  | done (report : Report β)
  | gone

-- The commands sent so far, and the reports that were received one by one or, after the sender has
-- closed the queue, collected.
structure Mission (α : Type) where
  pilot : Pilot α
  hand : Hand α := .free
  closed : Bool := false
  sent : List (Command α) := []
  received : List (Report α) := []
  collected : List (Report α) := []

namespace Mission

def begun (drive : Drive α) : Mission α := { pilot := { drive } }

end Mission

namespace Hand

def waiting : Hand α → List (Command α)
  | taken command => [command]
  | _ => []

def pending : Hand α → List (Report α)
  | done report => [report]
  | _ => []

def parting : Hand α → Drive α → Drive α
  | gone, drive => drive.sayAs .pilot .info "pilot done"
  | _, drive => drive

end Hand

namespace Mission

structure Sound (drive : Drive α) (mission : Mission α) (past : List (Command α)) : Prop where
  sent : mission.sent = past ++ (mission.hand.waiting ++ mission.pilot.queue)
  reports : mission.received ++ mission.collected ++
    (mission.pilot.reports ++ mission.hand.pending) = (drive.performAll past).1
  drive : mission.pilot.drive = mission.hand.parting (drive.performAll past).2
  early : mission.closed = false → mission.collected = []
  parted : mission.hand = .gone → mission.closed = true ∧ mission.pilot.queue = []

end Mission

end Rover

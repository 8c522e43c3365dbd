import Rover.Scalar
import Rover.Log
import Rover.Bridge
import Rover.Action
import Rover.Quadrature
import Rover.Regulator
import Rover.Wheel
import Rover.World
import Rover.Motor
import Rover.SpeedControl
import Rover.Profile
import Rover.Drive
import Rover.Command
import Rover.Pilot
import Rover.Expander
import Rover.I2c
import Rover.Line.Pattern
import Rover.Line.Sensor
import Rover.Line.Calibration
import Rover.Json.Reader
import Rover.Json.Numeral
import Rover.Json.Quoted
import Rover.Json.Skip
import Rover.Settings.Basic
import Rover.Settings.Key
import Rover.Settings.Document
import Rover.Settings.File
import Rover.Console
import Rover.Demo
import Rover.Main
import Rover.Proofs.Action
import Rover.Proofs.Lockstep
import Rover.Proofs.Likeness
import Rover.Proofs.Primitive
import Rover.Proofs.Rounds
import Rover.Proofs.Session
import Rover.Proofs.Effects
import Rover.Proofs.Journal
import Rover.Proofs.SafeStop
import Rover.Proofs.Exclusion
import Rover.Proofs.ClockShift
import Rover.Proofs.Approach
import Rover.Proofs.DistanceMove
import Rover.Proofs.Faults
import Rover.Proofs.Afresh
import Rover.Proofs.Odometer
import Rover.Proofs.Mission
import Rover.Proofs.Deadline
import Rover.Proofs.Blocking
import Rover.Proofs.Unpacked
import Rover.Proofs.Oddness
import Rover.Proofs.Mirror
import Rover.Proofs.Calibrating
import Rover.Proofs.Surface
import Rover.Proofs.Abreast
import Rover.Proofs.Opposed
import Rover.Proofs.Tandem
import Rover.Proofs.Reversal
import Rover.Proofs.Sensing
import Rover.Proofs.Sensitivity
import Rover.Proofs.Tracking
import Rover.Proofs.Remote
import Rover.Proofs.Route
import Rover.Proofs.Grammar
import Rover.Proofs.Skipping
import Rover.Proofs.Precision
import Rover.Proofs.Fractions
import Rover.Proofs.Decimals
import Rover.Proofs.Fields
import Rover.Proofs.Loading
import Rover.Proofs.Percents
import Rover.Proofs.Speedometer
import Rover.Proofs.Rotation
import Rover.Proofs.Windup
import Rover.Proofs.Exact
import Rover.Proofs.Remembered
import Rover.Proofs.Zeros
import Rover.Proofs.Standstill
import Rover.Proofs.Signs
import Rover.Proofs.Thresholding
import Rover.Proofs.Travel
import Rover.Proofs.Tally

import Mathlib.Data.Nat.Bitwise
import Rover.I2c
import Rover.Proofs.Sensing

/-!
The far end of the bus is a device that knows the frames by their bytes and nothing of the expander
that sends them.
-/

set_option autoImplicit false

namespace Rover

section Bytes

theorem word_of_nat (high low : UInt8) :
    (wordOf high low).toNat = 256 * high.toNat + low.toNat := by
  have small := low.toNat_lt
  have fits : high.toNat <<< 8 < 2 ^ 16 := by
    have bound := high.toNat_lt
    rw [Nat.shiftLeft_eq]
    omega
  have shifted : (high.toUInt16 <<< 8).toNat = high.toNat <<< 8 := Nat.mod_eq_of_lt fits
  rw [wordOf, UInt16.toNat_or, shifted, UInt8.toNat_toUInt16,
    ← Nat.shiftLeft_add_eq_or_of_lt small, Nat.shiftLeft_eq]
  omega

theorem high_byte_nat (word : UInt16) : (highByte word).toNat = word.toNat / 256 := by
  have bound := word.toNat_lt
  have shifted : (highByte word).toNat = word.toNat >>> 8 % 256 := rfl
  rw [shifted, Nat.shiftRight_eq_div_pow]
  omega

theorem low_byte_nat (word : UInt16) : (lowByte word).toNat = word.toNat % 256 := rfl

theorem bytes_nat (word : UInt16) :
    256 * (highByte word).toNat + (lowByte word).toNat = word.toNat := by
  rw [high_byte_nat, low_byte_nat]
  exact Nat.div_add_mod word.toNat 256

theorem pin_mask_nat (pin : UInt8) (low : pin < 16) : (pinMask pin).toNat = 2 ^ pin.toNat := by
  have bound : pin.toNat < 16 := low
  have shifted : (pinMask pin).toNat = 1 <<< (pin.toNat % 16) % 2 ^ 16 := rfl
  rw [shifted, Nat.mod_eq_of_lt bound, Nat.one_shiftLeft]
  exact Nat.mod_eq_of_lt (Nat.pow_lt_pow_right (by decide) bound)

theorem word_of_bytes (word : UInt16) :
    wordOf (UInt8.ofNat (word.toNat / 256)) (UInt8.ofNat (word.toNat % 256)) = word := by
  have bound := word.toNat_lt
  apply UInt16.toNat_inj.mp
  rw [word_of_nat, UInt8.toNat_ofNat', UInt8.toNat_ofNat']
  omega

theorem scaled_back (reading : UInt16) (narrow : reading < 16384) :
    (reading <<< 2) >>> 2 = reading := by
  have bound : reading.toNat < 16384 := narrow
  apply UInt16.toNat_inj.mp
  have shifted : ((reading <<< 2) >>> 2).toNat = (reading.toNat <<< 2 % 2 ^ 16) >>> 2 := rfl
  rw [shifted, Nat.shiftLeft_eq, Nat.shiftRight_eq_div_pow]
  omega

end Bytes

variable {ω β : Type}

inductive Event where
  | mode (pins : UInt8 → Bool) (mode : PinMode)
  | level (pins : UInt8 → Bool) (level : PinLevel)
  | read (pin : UInt8)
  | readPins
  | waited (millis : Nat)
  | failed

structure Surface (ω : Type) where
  next : Event → ω → ω
  reading : ω → UInt8 → UInt16
  pins : ω → UInt16
  narrow : ∀ state pin, reading state pin < 16384

section Port

structure PortFaults where
  commands : Nat → Bool
  readings : Nat → Bool

structure Port (ω : Type) where
  surface : Surface ω
  faults : PortFaults
  state : ω
  operations : Nat := 0

namespace Port

def step (port : Port ω) (event : Event) : Port ω :=
  { port with
    state := port.surface.next event port.state, operations := port.operations + 1 }

def wait (millis : Nat) (port : Port ω) : Port ω :=
  { port with state := port.surface.next (.waited millis) port.state }

def command (event : Event) : EStateM (BusFault Unit) (Port ω) Unit := fun port =>
  if port.faults.commands port.operations then .error ⟨()⟩ (port.step .failed)
  else .ok () (port.step event)

def answer (event : Event) (reply : Port ω → UInt16) : EStateM (BusFault Unit) (Port ω) UInt16 :=
  fun port =>
    if port.faults.readings port.operations then .error ⟨()⟩ (port.step .failed)
    else .ok (reply port) (port.step event)

instance : Expander (Port ω) Unit where
  setMode pin mode := command (.mode (· == pin) mode)
  write pin level := command (.level (· == pin) level)
  read pin := answer (.read pin) fun port => port.surface.reading port.state pin
  readPins := answer .readPins fun port => port.surface.pins port.state

end Port

end Port

section Device

inductive Question where
  | reading (pin : UInt8)
  | pins

namespace Question

def event : Question → Event
  | reading pin => .read pin
  | pins => .readPins

-- A reading stands above two clear bits.
def reply (surface : Surface ω) (state : ω) : Question → UInt16
  | reading pin => surface.reading state pin <<< 2
  | pins => surface.pins state

end Question

def maskedPins (high low : UInt8) (pin : UInt8) : Bool :=
  (256 * high.toNat + low.toNat).testBit pin.toNat

def heard? : List UInt8 → Option (Event ⊕ Question)
  | [0x04, high, low] => some (.inl (.mode (maskedPins high low) .input))
  | [0x05, high, low] => some (.inl (.mode (maskedPins high low) .inputPullUp))
  | [0x06, high, low] => some (.inl (.mode (maskedPins high low) .inputPullDown))
  | [0x07, high, low] => some (.inl (.mode (maskedPins high low) .output))
  | [0x08] => some (.inr .pins)
  | [0x09, high, low] => some (.inl (.level (maskedPins high low) .high))
  | [0x0a, high, low] => some (.inl (.level (maskedPins high low) .low))
  | [0x0b, pin, high, _] => some (.inl (.level (· == pin) (.pwm high)))
  | [0x0c, pin] => some (.inr (.reading pin))
  | _ => none

structure BusFaults where
  writes : Nat → Bool
  reads : Nat → Bool

-- The bus with the device at its far end, and the question that the device was asked last. An operation
-- is over with the frame of a command, with an answer or with the first transfer that fails.
structure Device (ω : Type) where
  address : UInt8
  surface : Surface ω
  faults : BusFaults
  state : ω
  operations : Nat := 0
  question : Option Question := none

namespace Device

def step (device : Device ω) (event : Event) : Device ω :=
  { device with
    state := device.surface.next event device.state, operations := device.operations + 1,
    question := none }

def wait (millis : Nat) (device : Device ω) : Device ω :=
  { device with state := device.surface.next (.waited millis) device.state }

def write (address : UInt8) (frame : List UInt8) : EStateM Unit (Device ω) Unit := fun device =>
  if address ≠ device.address then .error () device
  else if device.faults.writes device.operations then .error () (device.step .failed)
  else
    match heard? frame with
    | some (.inl event) => .ok () (device.step event)
    | some (.inr question) => .ok () { device with question := some question }
    | none => .error () (device.step .failed)

def read (address : UInt8) (length : Nat) : EStateM Unit (Device ω) (Vector UInt8 length) :=
  fun device =>
    if address ≠ device.address then .error () device
    else if device.faults.reads device.operations then .error () (device.step .failed)
    else
      match length, device.question with
      | 2, some question =>
          let word := (question.reply device.surface device.state).toNat
          .ok #v[UInt8.ofNat (word / 256), UInt8.ofNat (word % 256)] (device.step question.event)
      | _, _ => .error () (device.step .failed)

instance : I2cBus (Device ω) Unit where
  write := write
  read := read

end Device

end Device

section Link

structure Corresponds (direct : PortFaults) (bus : BusFaults) : Prop where
  commands : ∀ operation, direct.commands operation = bus.writes operation
  readings : ∀ operation,
    direct.readings operation = (bus.writes operation || bus.reads operation)

structure Linked (port : Port ω) (expander : I2cExpander (Device ω)) : Prop where
  address : expander.address = expander.bus.address
  surface : expander.bus.surface = port.surface
  faults : Corresponds port.faults expander.bus.faults
  state : expander.bus.state = port.state
  operations : expander.bus.operations = port.operations

def waitRemote (millis : Nat) (expander : I2cExpander (Device ω)) : I2cExpander (Device ω) :=
  { expander with bus := expander.bus.wait millis }

variable {port : Port ω} {expander : I2cExpander (Device ω)}

theorem linked_step (linked : Linked port expander) (event : Event) :
    Linked (port.step event) { expander with bus := expander.bus.step event } where
  address := linked.address
  surface := linked.surface
  faults := linked.faults
  state := by rw [Device.step, Port.step, linked.surface, linked.state]
  operations := congrArg (· + 1) linked.operations

theorem linked_wait (linked : Linked port expander) (millis : Nat) :
    Linked (port.wait millis) (waitRemote millis expander) where
  address := linked.address
  surface := linked.surface
  faults := linked.faults
  state := by rw [waitRemote, Device.wait, Port.wait, linked.surface, linked.state]
  operations := linked.operations

open I2cExpander LineSensor

theorem on_bus_ok (transfer : UInt8 → EStateM Unit (Device ω) β) (value : β) (bus : Device ω)
    (ended : transfer expander.address expander.bus = .ok value bus) :
    onBus transfer expander = .ok value { expander with bus } := by
  rw [onBus, ended]

theorem on_bus_error (transfer : UInt8 → EStateM Unit (Device ω) β) (bus : Device ω)
    (ended : transfer expander.address expander.bus = .error () bus) :
    onBus transfer expander = .error ⟨()⟩ { expander with bus } := by
  rw [onBus, ended]

section Transfers

variable (linked : Linked port expander)

include linked

theorem send_refused (opcode : Opcode) (operands : List UInt8)
    (refused : expander.bus.faults.writes port.operations = true) :
    send opcode operands expander =
      .error ⟨()⟩ { expander with bus := expander.bus.step .failed } := by
  apply on_bus_error
  change Device.write _ _ _ = _
  rw [Device.write, if_neg (not_not.mpr linked.address), linked.operations, if_pos refused]

theorem send_command (opcode : Opcode) (operands : List UInt8)
    (clear : expander.bus.faults.writes port.operations = false) (event : Event)
    (heard : heard? (opcode.byte :: operands) = some (.inl event)) :
    send opcode operands expander = .ok () { expander with bus := expander.bus.step event } := by
  apply on_bus_ok
  change Device.write _ _ _ = _
  rw [← linked.operations] at clear
  rw [Device.write, if_neg (not_not.mpr linked.address), clear, heard]
  rfl

theorem send_question (opcode : Opcode) (operands : List UInt8)
    (clear : expander.bus.faults.writes port.operations = false) (question : Question)
    (heard : heard? (opcode.byte :: operands) = some (.inr question)) :
    send opcode operands expander =
      .ok () { expander with bus := { expander.bus with question := some question } } := by
  apply on_bus_ok
  change Device.write _ _ _ = _
  rw [← linked.operations] at clear
  rw [Device.write, if_neg (not_not.mpr linked.address), clear, heard]
  rfl

theorem receive_refused (refused : expander.bus.faults.reads port.operations = true) :
    receiveWord expander = .error ⟨()⟩ { expander with bus := expander.bus.step .failed } := by
  have ended : receive 2 expander =
      .error ⟨()⟩ { expander with bus := expander.bus.step .failed } := by
    apply on_bus_error
    change Device.read _ _ _ = _
    rw [Device.read, if_neg (not_not.mpr linked.address), linked.operations, if_pos refused]
  change EStateM.bind _ _ _ = _
  rw [EStateM.bind, ended]

theorem receive_reply (question : Question)
    (clear : expander.bus.faults.reads port.operations = false)
    (asked : expander.bus.question = some question) : receiveWord expander =
      .ok (question.reply port.surface port.state)
        { expander with bus := expander.bus.step question.event } := by
  have word := word_of_bytes (question.reply port.surface port.state)
  rw [← linked.operations] at clear
  have ended : receive 2 expander = .ok
      #v[UInt8.ofNat ((question.reply port.surface port.state).toNat / 256),
        UInt8.ofNat ((question.reply port.surface port.state).toNat % 256)]
      { expander with bus := expander.bus.step question.event } := by
    apply on_bus_ok
    change Device.read _ _ _ = _
    rw [Device.read, if_neg (not_not.mpr linked.address), clear, asked, linked.surface,
      linked.state]
    rfl
  change EStateM.bind _ _ _ = _
  rw [EStateM.bind, ended]
  exact congrArg (EStateM.Result.ok · _) word

end Transfers

theorem command_agree (opcode : Opcode) (operands : List UInt8) (event : Event)
    (heard : heard? (opcode.byte :: operands) = some (.inl event)) :
    Agree (fun _ _ => True) (@Linked ω) (Port.command event) (send opcode operands) := by
  intro port expander linked
  have fails := linked.faults.commands port.operations
  cases fate : expander.bus.faults.writes port.operations with
  | true =>
      rw [Port.command, if_pos (fails.trans fate), send_refused linked opcode operands fate]
      exact .error _ _ _ _ trivial (linked_step linked .failed)
  | false =>
      rw [Port.command, fails, fate, send_command linked opcode operands fate event heard]
      exact .ok _ _ _ (linked_step linked event)

theorem question_agree (opcode : Opcode) (operands : List UInt8) (question : Question)
    (heard : heard? (opcode.byte :: operands) = some (.inr question)) :
    Agree (fun _ _ => True) (@Linked ω)
      (Port.answer question.event fun port => question.reply port.surface port.state)
      (send opcode operands >>= fun _ => receiveWord) := by
  intro port expander linked
  have fails := linked.faults.readings port.operations
  change SameEnd _ _ _ (EStateM.bind _ _ _)
  cases writeFate : expander.bus.faults.writes port.operations with
  | true =>
      rw [writeFate, Bool.true_or] at fails
      rw [Port.answer, if_pos fails, EStateM.bind, send_refused linked opcode operands writeFate]
      exact .error _ _ _ _ trivial (linked_step linked .failed)
  | false =>
      rw [writeFate, Bool.false_or] at fails
      rw [EStateM.bind, send_question linked opcode operands writeFate question heard]
      have asked : Linked port
          { expander with bus := { expander.bus with question := some question } } :=
        ⟨linked.address, linked.surface, linked.faults, linked.state, linked.operations⟩
      cases readFate : expander.bus.faults.reads port.operations with
      | true =>
          simp only [Port.answer, fails, readFate, receive_refused asked readFate]
          exact .error _ _ _ _ trivial (linked_step linked .failed)
      | false =>
          simp only [Port.answer, fails, readFate, receive_reply asked question readFate rfl]
          exact .ok _ _ _ (linked_step linked question.event)

theorem port_read (pin : UInt8) :
    (Expander.read pin : EStateM (BusFault Unit) (Port ω) UInt16) =
      (Port.answer (.read pin) fun port => port.surface.reading port.state pin <<< 2) >>=
        fun word => pure (word >>> 2) := by
  funext port
  have scaled := scaled_back _ (port.surface.narrow port.state pin)
  change Port.answer _ _ port = EStateM.bind _ _ port
  simp only [EStateM.bind, Port.answer]
  cases port.faults.readings port.operations with
  | true => rfl
  | false => exact congrArg (EStateM.Result.ok · _) scaled.symm

theorem remote_read (pin : UInt8) :
    (Expander.read pin : EStateM (BusFault Unit) (I2cExpander (Device ω)) UInt16) =
      (send .analogRead [pin] >>= fun _ => receiveWord) >>= fun word => pure (word >>> 2) :=
  (bind_assoc (send .analogRead [pin]) (fun _ => receiveWord) _).symm

theorem read_agree (pin : UInt8) :
    Agree (fun _ _ => True) (@Linked ω) (Expander.read pin) (Expander.read pin) := by
  rw [port_read, remote_read]
  exact agree_bind _ _ _ _ (question_agree .analogRead [pin] (.reading pin) rfl) fun _ =>
    agree_pure _

theorem masked_pins (pin : UInt8) (low : pin < 16) :
    maskedPins (highByte (pinMask pin)) (lowByte (pinMask pin)) = (· == pin) := by
  funext other
  rw [maskedPins, bytes_nat, pin_mask_nat pin low, Nat.testBit_two_pow]
  by_cases equal : other = pin
  · rw [equal, beq_self_eq_true, decide_eq_true rfl]
  · rw [beq_eq_false_iff_ne.mpr equal, decide_eq_false]
    exact fun same => equal (UInt8.toNat_inj.mp same.symm)

theorem set_mode_agree (pin : UInt8) (low : pin < 16) (mode : PinMode) :
    Agree (fun _ _ => True) (@Linked ω) (Expander.setMode pin mode) (Expander.setMode pin mode) := by
  apply command_agree mode.opcode
  rw [← masked_pins pin low]
  cases mode with
  | input | output | inputPullUp | inputPullDown => rfl

theorem write_agree (pin : UInt8) (low : pin < 16) (level : PinLevel) :
    Agree (fun _ _ => True) (@Linked ω) (Expander.write pin level) (Expander.write pin level) := by
  cases level with
  | low =>
      apply command_agree .digitalLow
      rw [← masked_pins pin low]
      rfl
  | high =>
      apply command_agree .digitalHigh
      rw [← masked_pins pin low]
      rfl
  | pwm duty => exact command_agree .analogWrite _ _ rfl

end Link

namespace LineSensor

open Line

variable {σ τ δ ε : Type}

structure Paired (links : σ → τ → Prop) (sensor : LineSensor σ) (other : LineSensor τ) : Prop where
  expander : links sensor.expander other.expander
  sensitivity : other.sensitivity = sensor.sensitivity
  previous : other.previous = sensor.previous

theorem paired_expander {faults : BusFault δ → BusFault ε → Prop} {links : σ → τ → Prop}
    (command : EStateM (BusFault δ) σ β) (other : EStateM (BusFault ε) τ β)
    (agree : Agree faults links command other) :
    Agree faults (Paired links) (onExpander command) (onExpander other) := by
  intro sensor another paired
  have ended := agree sensor.expander another.expander paired.expander
  simp only [onExpander, within]
  generalize command sensor.expander = result at ended
  generalize other another.expander = resultToo at ended
  cases ended with
  | ok value state next related => exact .ok _ _ _ ⟨related, paired.sensitivity, paired.previous⟩
  | error fault faultToo state next same related =>
      exact .error _ _ _ _ same ⟨related, paired.sensitivity, paired.previous⟩

theorem remote_twins :
    Twins (fun _ _ => True) (Paired (@Linked ω)) Port.wait waitRemote where
  sensitivity _ _ paired := paired.sensitivity
  previous _ _ paired := paired.previous
  setMode := paired_expander _ _ (set_mode_agree ledPin (by decide) .output)
  light := paired_expander _ _ (write_agree ledPin (by decide) .high)
  setSensitivity duty := by
    refine agree_bind _ _ _ _ (agree_modify _ _ fun sensor other paired => ?_) fun _ =>
      paired_expander _ _ (write_agree sensePin (by decide) (.pwm duty))
    exact ⟨paired.expander, rfl, paired.previous⟩
  analogRead channel := paired_expander _ _ (read_agree _)
  say _ _ _ _ paired := ⟨paired.expander, paired.sensitivity, paired.previous⟩
  remember _ _ _ paired := ⟨paired.expander, paired.sensitivity, rfl⟩
  wait _ _ millis paired :=
    ⟨linked_wait paired.expander millis, paired.sensitivity, paired.previous⟩

def remote (address : UInt8) (faults : BusFaults) (sensor : LineSensor (Port ω)) :
    LineSensor (I2cExpander (Device ω)) :=
  let port := sensor.expander
  { sensor with
    expander := {
      bus := {
        address, surface := port.surface, faults, state := port.state,
        operations := port.operations }
      address } }

theorem remote_session_same (sensor : LineSensor (Port ω)) (address : UInt8) (faults : BusFaults)
    (same : Corresponds sensor.expander.faults faults) (requests : List Request) :
    List.Forall₂ (SameEnd (fun _ _ => True) (Paired Linked)) (session Port.wait requests sensor)
      (session waitRemote requests (sensor.remote address faults)) :=
  remote_twins.session_agree requests sensor _ ⟨⟨rfl, rfl, same, rfl, rfl⟩, rfl, rfl⟩

def plate : Surface UInt8 where
  next
    | .level pins (.pwm duty), last => if pins sensePin then duty else last
    | _, last => last
  reading duty _ := if duty ≤ 150 then 800 else 40
  pins _ := 0
  narrow duty pin := by
    by_cases black : duty ≤ 150
    · rw [if_pos black]
      decide
    · rw [if_neg black]
      decide

-- The third channel of the second sweep goes unanswered, and so does the first write that calibrates.
def onPlate : LineSensor (Port UInt8) where
  expander := {
    surface := plate
    faults := ⟨(· == 13), fun operation => operation == 13 || operation == 12⟩
    state := 0 }

theorem plate_session_same : Corresponds onPlate.expander.faults ⟨(· == 13), (· == 12)⟩ ∧
    List.Forall₂ (SameEnd (fun _ _ => True) (Paired Linked))
      (session Port.wait [.begin, .trackSensors, .analogReadAll, .calibrate, .calibrate] onPlate)
      (session waitRemote [.begin, .trackSensors, .analogReadAll, .calibrate, .calibrate]
        (onPlate.remote 42 ⟨(· == 13), (· == 12)⟩)) :=
  have same : Corresponds onPlate.expander.faults ⟨(· == 13), (· == 12)⟩ :=
    ⟨fun _ => rfl, fun _ => rfl⟩
  ⟨same, remote_session_same onPlate 42 _ same _⟩

end LineSensor

end Rover

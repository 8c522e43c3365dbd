import Rover.Proofs.Decimals
import Rover.Settings.File

set_option autoImplicit false

namespace Rover.Settings

open Json

section Fields

inductive Field where
  | whole (value : Int)
  | count (value : Nat)
  | real (value : Float)
deriving Repr

def Key.get (key : Key) (settings : Settings) : Field :=
  match key with
  | version => .whole settings.version
  | pml1 => .whole settings.motorPins.left.first
  | pml2 => .whole settings.motorPins.left.second
  | pmr1 => .whole settings.motorPins.right.first
  | pmr2 => .whole settings.motorPins.right.second
  | pel1 => .whole settings.encoderPins.left.first
  | pel2 => .whole settings.encoderPins.left.second
  | per1 => .whole settings.encoderPins.right.first
  | per2 => .whole settings.encoderPins.right.second
  | wrad => .real settings.wheelRadius
  | wdist => .real settings.wheelSeparation
  | er => .count settings.pulses
  | kpa => .real settings.angle.kp
  | kia => .real settings.angle.ki
  | kda => .real settings.angle.kd
  | kpsl => .real settings.speedKp.left
  | kpsr => .real settings.speedKp.right
  | kdsl => .real settings.speedKd.left
  | kdsr => .real settings.speedKd.right
  | kis => .real settings.speedKi
  | ks => .real settings.straightGain
  | maxs => .real settings.maxSpeed

-- What the text of a number says for a key. A field is of the type of its default: a whole number of
-- 32 bits, one without a sign, or a float.
def Key.Takes (key : Key) (literal : Literal) (field : Field) : Prop :=
  match key.get standard, field with
  | .whole _, .whole value => literal.Whole value ∧ Word value
  | .count _, .count value => literal.Whole value ∧ value ≤ 4294967295
  | .real _, .real value => literal.Real value
  | _, _ => False

def Key.take? (key : Key) (numeral : Numeral) : Option Field :=
  match key with
  | version | pml1 | pml2 | pmr1 | pmr2 | pel1 | pel2 | per1 | per2 => numeral.int32?.map .whole
  | er => numeral.uint32?.map .count
  | wrad | wdist | kpa | kia | kda | kpsl | kpsr | kdsl | kdsr | kis | ks | maxs =>
      numeral.float?.map .real

theorem int32_iff (literal : Literal) (value : Int) :
    literal.Whole value ∧ Word value ↔ literal.numeral.int32? = some value := by
  rw [Numeral.int32?, Option.filter_eq_some_iff, Bool.and_eq_true, decide_eq_true_eq,
    decide_eq_true_eq]
  exact and_congr_left fun word => literal.whole_iff value word.1 (word.2.trans (by decide))

theorem uint32_iff (literal : Literal) (value : Nat) :
    literal.Whole value ∧ value ≤ 4294967295 ↔ literal.numeral.uint32? = some value := by
  simp only [Numeral.uint32?, Option.map_eq_some_iff, Option.filter_eq_some_iff, Bool.and_eq_true,
    decide_eq_true_eq]
  constructor
  · rintro ⟨whole, high⟩
    refine ⟨value, ⟨(literal.whole_iff value ?_ ?_).mp whole, ?_, ?_⟩, Int.toNat_natCast value⟩ <;>
      omega
  · rintro ⟨found, ⟨whole, low, high⟩, rfl⟩
    have size := Int.toNat_of_nonneg low
    rw [size]
    exact ⟨(literal.whole_iff found (by omega) high).mpr whole, by omega⟩

theorem takes_iff (key : Key) (literal : Literal) (field : Field) :
    key.Takes literal field ↔ key.take? literal.numeral = some field := by
  cases key with
  | version | pml1 | pml2 | pmr1 | pmr2 | pel1 | pel2 | per1 | per2 =>
      cases field <;> simp [Key.Takes, Key.get, Key.take?, int32_iff]
  | er => cases field <;> simp [Key.Takes, Key.get, Key.take?, uint32_iff]
  | wrad | wdist | kpa | kia | kda | kpsl | kpsr | kdsl | kdsr | kis | ks | maxs =>
      cases field <;> simp [Key.Takes, Key.get, Key.take?, literal.real_iff]

theorem size_of_whole (numeral : Numeral) (value : Int) (whole : numeral.toInt? = some value) :
    numeral.size?.isNone = false := by
  rw [Numeral.toInt?] at whole
  cases plain : numeral.plain with
  | true =>
      rw [Numeral.size?, plain]
      rfl
  | false =>
      rw [plain] at whole
      cases whole

theorem take_sized (key : Key) (numeral : Numeral) (field : Field)
    (taken : key.take? numeral = some field) : numeral.size?.isNone = false := by
  cases key with
  | version | pml1 | pml2 | pmr1 | pmr2 | pel1 | pel2 | per1 | per2 =>
      obtain ⟨value, whole, -⟩ := Option.map_eq_some_iff.mp taken
      exact size_of_whole numeral value (Option.filter_eq_some_iff.mp whole).1
  | er =>
      obtain ⟨pulses, count, -⟩ := Option.map_eq_some_iff.mp taken
      obtain ⟨value, whole, -⟩ := Option.map_eq_some_iff.mp count
      exact size_of_whole numeral value (Option.filter_eq_some_iff.mp whole).1
  | wrad | wdist | kpa | kia | kda | kpsl | kpsr | kdsl | kdsr | kis | ks | maxs =>
      obtain ⟨value, real, -⟩ := Option.map_eq_some_iff.mp taken
      obtain ⟨size, sized, -⟩ := Option.map_eq_some_iff.mp real
      rw [sized]
      rfl

theorem assign_refused (settings : Settings) (key : Key) (numeral : Numeral)
    (refused : key.take? numeral = none) : settings.assign key numeral = none := by
  cases key <;> exact Option.map_eq_none_iff.mpr (Option.map_eq_none_iff.mp refused)

structure Sets (key : Key) (field : Field) (before after : Settings) : Prop where
  here : key.get after = field
  elsewhere : ∀ other, other ≠ key → other.get after = other.get before

theorem assign_sets (settings : Settings) (key : Key) (numeral : Numeral) (field : Field)
    (taken : key.take? numeral = some field) :
    ∃ next, settings.assign key numeral = some next ∧ Sets key field settings next := by
  cases key with
  | version | pml1 | pml2 | pmr1 | pmr2 | pel1 | pel2 | per1 | per2 =>
      obtain ⟨value, whole, rfl⟩ := Option.map_eq_some_iff.mp taken
      simp only [assign, whole]
      refine ⟨_, rfl, rfl, fun other different => ?_⟩
      cases other <;> first | rfl | exact absurd rfl different
  | er =>
      obtain ⟨value, count, rfl⟩ := Option.map_eq_some_iff.mp taken
      simp only [assign, count]
      refine ⟨_, rfl, rfl, fun other different => ?_⟩
      cases other <;> first | rfl | exact absurd rfl different
  | wrad | wdist | kpa | kia | kda | kpsl | kpsr | kdsl | kdsr | kis | ks | maxs =>
      obtain ⟨value, real, rfl⟩ := Option.map_eq_some_iff.mp taken
      simp only [assign, real]
      refine ⟨_, rfl, rfl, fun other different => ?_⟩
      cases other <;> first | rfl | exact absurd rfl different

theorem get_injective (first second : Settings)
    (same : ∀ key : Key, key.get first = key.get second) : first = second := by
  rcases first with
    ⟨_, ⟨⟨_, _⟩, ⟨_, _⟩⟩, ⟨⟨_, _⟩, ⟨_, _⟩⟩, _, _, _, ⟨_, _, _⟩, ⟨_, _⟩, ⟨_, _⟩, _, _, _⟩
  rcases second with
    ⟨_, ⟨⟨_, _⟩, ⟨_, _⟩⟩, ⟨⟨_, _⟩, ⟨_, _⟩⟩, _, _, _, ⟨_, _, _⟩, ⟨_, _⟩, ⟨_, _⟩, _, _, _⟩
  cases same .version
  cases same .pml1
  cases same .pml2
  cases same .pmr1
  cases same .pmr2
  cases same .pel1
  cases same .pel2
  cases same .per1
  cases same .per2
  cases same .wrad
  cases same .wdist
  cases same .er
  cases same .kpa
  cases same .kia
  cases same .kda
  cases same .kpsl
  cases same .kpsr
  cases same .kdsl
  cases same .kdsr
  cases same .kis
  cases same .ks
  cases same .maxs
  rfl

end Fields

section Assignments

def assignAll (settings : Settings) (entries : List (Key × Literal)) : Option Settings :=
  entries.foldlM (fun settings entry => settings.assign entry.1 entry.2.numeral) settings

theorem assign_all_append (settings : Settings) (early late : List (Key × Literal)) :
    settings.assignAll (early ++ late) =
      (settings.assignAll early).bind fun next => next.assignAll late :=
  List.foldlM_append

structure Sound (entries : List (Key × Literal)) : Prop where
  distinct : (entries.map Prod.fst).Nodup
  typed : ∀ entry ∈ entries, ∃ field, entry.1.Takes entry.2 field

theorem sound_append (early late : List (Key × Literal)) :
    Sound (early ++ late) ↔ Sound early ∧ Sound late ∧
      ∀ key ∈ late.map Prod.fst, key ∉ early.map Prod.fst := by
  constructor
  · intro sound
    have distinct := sound.distinct
    rw [List.map_append, List.nodup_append] at distinct
    exact ⟨⟨distinct.1, fun entry member => sound.typed entry (List.mem_append_left late member)⟩,
      ⟨distinct.2.1, fun entry member => sound.typed entry (List.mem_append_right early member)⟩,
      fun key second first => distinct.2.2 key first key second rfl⟩
  · rintro ⟨first, second, apart⟩
    refine ⟨?_, fun entry member => ?_⟩
    · rw [List.map_append, List.nodup_append]
      exact ⟨first.distinct, second.distinct, fun key early other late same =>
        apart other late (same ▸ early)⟩
    · exact (List.mem_append.mp member).elim (first.typed entry) (second.typed entry)

theorem assign_all_sets (settings : Settings) (entries : List (Key × Literal))
    (sound : Sound entries) : ∃ settled, settings.assignAll entries = some settled ∧
      (∀ entry ∈ entries, ∀ field, entry.1.Takes entry.2 field → entry.1.get settled = field) ∧
      ∀ key, key ∉ entries.map Prod.fst → key.get settled = key.get settings := by
  induction entries generalizing settings with
  | nil =>
      exact ⟨settings, rfl, fun _ member => absurd member List.not_mem_nil, fun _ _ => rfl⟩
  | cons entry rest ih =>
      obtain ⟨fresh, distinct⟩ := List.nodup_cons.mp sound.distinct
      obtain ⟨field, takes⟩ := sound.typed entry List.mem_cons_self
      have taken := (takes_iff entry.1 entry.2 field).mp takes
      obtain ⟨next, assigned, sets⟩ := assign_sets settings entry.1 entry.2.numeral field taken
      obtain ⟨settled, all, present, absent⟩ := ih next
        ⟨distinct, fun other member => sound.typed other (List.mem_cons_of_mem entry member)⟩
      refine ⟨settled, ?_, ?_, ?_⟩
      · rw [assignAll, List.foldlM_cons, assigned]
        exact all
      · intro other member value takenToo
        rcases List.mem_cons.mp member with rfl | later
        · rw [absent _ fresh, sets.here]
          exact Option.some.inj (taken.symm.trans ((takes_iff _ _ _).mp takenToo))
        · exact present other later value takenToo
      · intro key missing
        rw [List.map_cons, List.mem_cons, not_or] at missing
        rw [absent key missing.2, sets.elsewhere key missing.1]

end Assignments

section Repairs

def Key.usable (key : Key) (field : Field) : Bool :=
  match key, field with
  | er, .count pulses => pulses ≠ 0
  | wrad, .real radius => decide (0.0 < radius)
  | maxs, .real speed => decide (0.0 < speed)
  | ks, .real gain => gain.isFinite
  | _, _ => true

def Key.repair (key : Key) (field : Field) : Field :=
  if key.usable field then field else key.get standard

theorem repair_if_sets (key : Key) (unusable : Bool) (name : String) (put : Settings → Settings)
    (settings next : Settings) (log after : Log)
    (repairs : repairIf unusable name put settings log = (next, after))
    (asks : unusable = !key.usable (key.get settings))
    (puts : Sets key (key.get standard) settings (put settings)) :
    Sets key (key.repair (key.get settings)) settings next := by
  rw [repairIf, asks] at repairs
  rw [Key.repair]
  cases usable : key.usable (key.get settings) with
  | true =>
      rw [usable] at repairs
      cases repairs
      exact ⟨rfl, fun _ _ => rfl⟩
  | false =>
      rw [usable] at repairs
      cases repairs
      exact puts

-- Four fields are looked at one after another, each with the repairs of those before it made.
theorem repaired_sets (settings : Settings) (log : Log) : ∃ first second third : Settings,
    Sets .er (Key.er.repair (Key.er.get settings)) settings first ∧
      Sets .wrad (Key.wrad.repair (Key.wrad.get first)) first second ∧
      Sets .maxs (Key.maxs.repair (Key.maxs.get second)) second third ∧
      Sets .ks (Key.ks.repair (Key.ks.get third)) third (settings.repaired log).1 := by
  rw [repaired]
  rcases pulses : repairIf (settings.pulses = 0) _ _ settings log with ⟨first, log⟩
  dsimp only
  rcases radius : repairIf (!decide (0.0 < first.wheelRadius)) _ _ first log with ⟨second, log⟩
  dsimp only
  rcases speed : repairIf (!decide (0.0 < second.maxSpeed)) _ _ second log with ⟨third, log⟩
  dsimp only
  rcases gain : repairIf (!third.straightGain.isFinite) _ _ third log with ⟨last, log⟩
  refine ⟨first, second, third, repair_if_sets .er _ _ _ _ _ _ _ pulses ?_ ?_,
    repair_if_sets .wrad _ _ _ _ _ _ _ radius rfl ?_,
    repair_if_sets .maxs _ _ _ _ _ _ _ speed rfl ?_,
    repair_if_sets .ks _ _ _ _ _ _ _ gain rfl ?_⟩
  case refine_1 => simp [Key.usable, Key.get]
  all_goals
    refine ⟨rfl, fun other different => ?_⟩
    cases other <;> first | rfl | exact absurd rfl different

theorem repaired_get (settings : Settings) (log : Log) (key : Key) :
    key.get (settings.repaired log).1 = key.repair (key.get settings) := by
  obtain ⟨first, second, third, pulses, radius, speed, gain⟩ := repaired_sets settings log
  by_cases last : key = .ks
  · subst last
    rw [gain.here, speed.elsewhere _ (by decide), radius.elsewhere _ (by decide),
      pulses.elsewhere _ (by decide)]
  rw [gain.elsewhere key last]
  by_cases quick : key = .maxs
  · subst quick
    rw [speed.here, radius.elsewhere _ (by decide), pulses.elsewhere _ (by decide)]
  rw [speed.elsewhere key quick]
  by_cases round : key = .wrad
  · subst round
    rw [radius.here, pulses.elsewhere _ (by decide)]
  rw [radius.elsewhere key round]
  by_cases count : key = .er
  · subst count
    exact pulses.here
  rw [pulses.elsewhere key count, Key.repair, if_pos]
  cases key <;> first | rfl | contradiction

theorem standard_usable (key : Key) : key.usable (key.get standard) = true := by
  cases key <;> decide +kernel

theorem repair_usable (key : Key) (field : Field) : key.usable (key.repair field) = true := by
  rw [Key.repair]
  by_cases usable : key.usable field = true
  · rw [if_pos usable, usable]
  · rw [if_neg usable, standard_usable]

theorem repair_standard (key : Key) : key.repair (key.get standard) = key.get standard := by
  rw [Key.repair, if_pos (standard_usable key)]

structure Fit (settings : Settings) : Prop where
  pulses : 1 ≤ settings.pulses
  radius : 0.0 < settings.wheelRadius
  speed : 0.0 < settings.maxSpeed
  gain : settings.straightGain.isFinite = true

theorem fit_of_usable (settings : Settings)
    (usable : ∀ key : Key, key.usable (key.get settings) = true) : Fit settings :=
  ⟨Nat.one_le_iff_ne_zero.mpr (of_decide_eq_true (usable .er)), of_decide_eq_true (usable .wrad),
    of_decide_eq_true (usable .maxs), usable .ks⟩

end Repairs

end Rover.Settings

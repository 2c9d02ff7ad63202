import KeywordHarvest.CommandLine
import KeywordHarvest.Proofs.CommandLine.Spelling
import KeywordHarvest.Proofs.Result

/-! A switch that is on before the arguments are read. Reading goes on in the same way and ends with
the same options and that switch on, unless the arguments turn it on themselves. What a switch is
stays on to the end, so where it is off in the end it was off at every step. -/

namespace KeywordHarvest.CommandLine

variable {which : Switch} {given next : Given} {progress : Progress}

namespace Given

theorem take_eq_ok {parameter : Parameter} {value : Option Bytes} :
    given.take parameter value = .ok next ↔
      ∃ bytes text, value = some bytes ∧ given.value parameter = none ∧
        Text.decode? bytes = some text ∧ checkValue parameter text = .ok () ∧
        next = given.setValue parameter text := by
  cases value with
  | none => simp [take]
  | some bytes =>
      cases before : given.value parameter with
      | some text => simp [take, before]
      | none =>
          cases decoded : Text.decode? bytes with
          | none => simp [take, before, decoded]
          | some text =>
              cases checked : checkValue parameter text with
              | error fault => simp [take, before, decoded, checked]
              | ok _ => simp [take, before, decoded, checked, eq_comm]

theorem turnOn_eq_ok {other : Switch} : given.turnOn other = .ok next ↔
    other ≠ .help ∧ other ≠ .version ∧ given.isOn other = false ∧ next = given.setOn other := by
  cases other with
  | help => simp [turnOn]
  | version => simp [turnOn]
  | stdout => cases before : given.isOn .stdout <;> simp [turnOn, before, eq_comm]
  | verbose => cases before : given.isOn .verbose <;> simp [turnOn, before, eq_comm]

end Given

namespace Progress

def turned (progress : Progress) (which : Switch) : Progress :=
  { progress with given := progress.given.setOn which }

/-- A step that is the same with a switch on, unless it turns that switch on. -/
def Indifferent (which : Switch) (step : Progress → Except Stop Progress) : Prop :=
  ∀ ⦃progress after⦄, step progress = .ok after → after.given.isOn which = false →
    progress.given.isOn which = false ∧ step (progress.turned which) = .ok (after.turned which)

theorem long_switch (which : Switch) :
    progress.long (Text.encode (Flag.switch which).name) none = progress.turnOn which := by
  simp only [long, Flag.ofName?_encode]

theorem short_value {parameter : Parameter} {byte first : UInt8} {value : Bytes}
    (stands : Flag.ofLetter? (Char.ofNat byte.toNat) = some (.parameter parameter))
    (apart : first ≠ 0x3D) :
    progress.short (byte :: first :: value) = progress.attach parameter (first :: value) := by
  simp [short.eq_def progress, stands, apart]

theorem Indifferent.bind {step : Progress → Except Stop Progress}
    {rest : Progress → Except Stop Given} (indifferent : Indifferent which step)
    (continues : ∀ {progress}, rest progress = .ok given →
      progress.given.isOn which = false ∧ rest (progress.turned which) = .ok (given.setOn which))
    (goes : (step progress >>= rest) = .ok given) :
    progress.given.isOn which = false ∧
      (step (progress.turned which) >>= rest) = .ok (given.setOn which) := by
  obtain ⟨next, stepped, goes⟩ := bind_eq_ok.mp goes
  obtain ⟨between, goes'⟩ := continues goes
  obtain ⟨clear, stepped'⟩ := indifferent stepped between
  exact ⟨clear, bind_eq_ok.mpr ⟨_, stepped', goes'⟩⟩

end Progress

theorem request_eq_ok {arguments : List Bytes} {asked : Request} :
    request arguments = .ok asked ↔
      ∃ given, Progress.start.read arguments = .ok given ∧ asked = given.request := by
  refine bind_eq_ok.trans (exists_congr fun given => and_congr_right fun _ => ?_)
  exact ⟨fun same => (Except.ok.inj same).symm, fun same => congrArg Except.ok same.symm⟩

end KeywordHarvest.CommandLine

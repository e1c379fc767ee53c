/-! What can be wrong with a configuration. -/

namespace HotFire

/-- Settings that are well formed and yet not to be run with. -/
inductive Flaw where
  | boundsInverted
  | calibrationNotFinite
  | hotflowTooShort
  | pollZero
  | tooManyPulses
  | rateOutOfRange
  deriving DecidableEq, Repr

def Flaw.message : Flaw → String
  | .boundsInverted => "pressure_min must be below pressure_max"
  | .calibrationNotFinite => "pressure calibration must be finite"
  | .hotflowTooShort => "hotflow_ms must exceed preignite_ms"
  | .pollZero => "poll_ms must be non-zero"
  | .tooManyPulses => "too many GITVC pulses"
  | .rateOutOfRange => "sampling frequency must be within 1 Hz..=1 MHz"

/-- `table` is the header under which `key` was looked for, empty for none. -/
inductive ConfigError where
  | unreadable (detail : String)
  | malformed (detail : String)
  | keyNotFound (table key : String)
  | invalidValue (table key value : String)
  | flawed (flaw : Flaw)
  deriving DecidableEq, Repr

def ConfigError.message : ConfigError → String
  | .unreadable detail => s!"cannot read config: {detail}"
  | .malformed detail => s!"malformed config: {detail}"
  | .keyNotFound table key => s!"key `{key}` not found in section `{table}`"
  | .invalidValue table key value => s!"invalid value `{value}` for {table}.{key}"
  | .flawed flaw => s!"validation failed: {flaw.message}"

end HotFire

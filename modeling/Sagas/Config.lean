import Sagas.Text.Blank
import Sagas.Text.Digits
import Sagas.Text.Quoted

/-!
# Configuration

How often a conflicting step is run again, and the filter for log events, read from named
variables. A variable that is not set, and a count that is not a number, give the default.
-/

namespace Sagas

/-- The settings of an orchestrator. -/
structure Config where
  concurrencyRetries : UInt32
  logLevel : String
  deriving DecidableEq, Repr

namespace Config

/-- No reruns, and events of level info. -/
def default : Config := ⟨0, "info"⟩

/-- A number of 32 bits with one more digit behind it, unless that takes more than 32 bits. -/
def push? (n : UInt32) (c : Char) : Option UInt32 :=
  let next := 10 * n.toNat + (c.toNat - 48)
  if Text.isDigit c ∧ next < UInt32.size then some (UInt32.ofNat next) else none

/-- A number of 32 bits: an optional plus sign and one or more digits. -/
def count? (cs : List Char) : Option UInt32 :=
  let digits := match cs with
    | '+' :: rest => rest
    | _ => cs
  if digits = [] then none else digits.foldlM push? 0

/-- The settings that a look-up of variables gives. -/
def ofLookup (lookup : String → Option String) : Config where
  concurrencyRetries :=
    ((lookup "SAGA_CONCURRENCY_RETRIES").bind fun value =>
      count? (Text.trim value.toList)).getD default.concurrencyRetries
  logLevel := (lookup "RUST_LOG").getD default.logLevel

/-- The settings with another number of reruns. -/
def withRetries (config : Config) (retries : UInt32) : Config :=
  { config with concurrencyRetries := retries }

/-- The inspected form. -/
def inspect (config : Config) : String :=
  "OrchestratorConfig \x7b concurrency_retries: " ++ toString config.concurrencyRetries ++
    ", log_level: " ++ Text.quote config.logLevel ++ " \x7d"

end Config

end Sagas

import LinkSieve.Matcher
import LinkSieve.Expression.PatternTable
import LinkSieve.Retrieval.Policy
import LinkSieve.Toml.Document
import LinkSieve.Files.System
/-!
# Configuration

A configuration file sets how patterns are matched, which patterns have names, and how retrievals are
repeated. Every setting may be left out, and settings with other names are ignored. The named patterns
are checked when the file is loaded.
-/

namespace LinkSieve

open Expression Retrieval

/-- Settings for retrievals, as they are written. -/
structure RetrievalRules where
  waitSeconds : Nat
  defaultRetryAfterSeconds : Nat
  maxAttempts : Nat
  deriving Repr, DecidableEq

namespace RetrievalRules

/-- The settings that hold where nothing else is said. -/
def default : RetrievalRules := ⟨0, 30, 5⟩

/-- The policy that the settings describe. At least one attempt is made. -/
def policy (rules : RetrievalRules) : Policy :=
  ⟨.ofSeconds rules.waitSeconds, .ofSeconds rules.defaultRetryAfterSeconds, max rules.maxAttempts 1⟩

end RetrievalRules

/-- A configuration. -/
structure Config where
  options : MatchOptions
  patterns : PatternTable
  retrieval : RetrievalRules
  deriving Repr

/-- The configuration of a program without a configuration file. -/
def Config.default : Config := ⟨.default, .empty, .default⟩

/-- Why the text of a configuration cannot be read. -/
inductive ConfigFault where
  | malformed (line : Nat)
  | unsuitable (key : String)
  deriving Repr, DecidableEq

/-- The wording of a fault. -/
def ConfigFault.message : ConfigFault → String
  | malformed line => "TOML parse error at line " ++ toString line
  | unsuitable key => "TOML parse error at key '" ++ key ++ "'"

/-- Why a configuration cannot be loaded. -/
inductive ConfigError where
  | read (path : String) (cause : Files.Error)
  | parse (path : String) (cause : ConfigFault)
  | pattern (path : String) (cause : DefinitionError)
  deriving Repr, DecidableEq

namespace ConfigError

/-- The wording of the cause. -/
def cause : ConfigError → String
  | read _ cause => cause.message
  | parse _ cause => cause.message
  | pattern _ cause => cause.message

/-- The wording of the error. -/
def message : ConfigError → String
  | read path cause => "Failed to read config file '" ++ path ++ "': " ++ cause.message
  | parse path cause => "Failed to parse config file '" ++ path ++ "': " ++ cause.message
  | pattern path cause => "Invalid pattern definition in '" ++ path ++ "': " ++ cause.message

end ConfigError

namespace Config

open Toml

/-- Reads a truth value. -/
def boolean? : Value → Option Bool
  | .boolean value => some value
  | _ => none

/-- Reads a whole number that is not negative and is below a bound. -/
def natural? (bound : Nat) : Value → Option Nat
  | .integer value => if 0 ≤ value ∧ value < bound then some value.toNat else none
  | _ => none

/-- Whether a value stands for nothing beside the key that it belongs to. -/
def isUnit : Value → Bool
  | .table _ entries => entries.isEmpty
  | .array items => items.isEmpty
  | _ => false

/-- Reads a policy: its name, or a table with its name as the only key and nothing in it. -/
def policy? : Value → Option InvalidPatternPolicy
  | .string name => InvalidPatternPolicy.ofName? name
  | .table _ [(name, value)] => if isUnit value then InvalidPatternPolicy.ofName? name else none
  | _ => none

/-- The only key of a time, where a table is asked for. No pattern and no setting has this name. -/
def timeKey : String := "$__toml_private_datetime"

/-- Reads a table of texts. -/
def patterns? : Value → Option PatternTable
  | .table _ entries => do
    let texts ← entries.mapM fun (name, value) =>
      match value with
      | .string text => some (name, text)
      | _ => none
    return .ofList texts
  | .datetime => some (.ofList [(timeKey, "")])
  | _ => none

/-- The settings for retrievals in the order in which an array gives them, each with the bound that
its number must stay below. -/
def setWait (rules : RetrievalRules) (value : Value) : Option RetrievalRules := do
  return { rules with waitSeconds := ← natural? UInt64.size value }

/-- Sets the pause that is made without a hint. -/
def setDefaultRetryAfter (rules : RetrievalRules) (value : Value) : Option RetrievalRules := do
  return { rules with defaultRetryAfterSeconds := ← natural? UInt64.size value }

/-- Sets the number of attempts. -/
def setMaxAttempts (rules : RetrievalRules) (value : Value) : Option RetrievalRules := do
  return { rules with maxAttempts := ← natural? UInt32.size value }

/-- Reads the settings for retrievals: a table, or an array with the settings in order. -/
def retrieval? : Value → Option RetrievalRules
  | .table _ entries =>
    entries.foldlM (fun rules (name, value) =>
      match name with
      | "wait_secs" => setWait rules value
      | "default_retry_after_secs" => setDefaultRetryAfter rules value
      | "max_attempts" => setMaxAttempts rules value
      | _ => some rules) .default
  | .array items =>
    ([setWait, setDefaultRetryAfter, setMaxAttempts].zip items).foldlM
      (fun rules (set, value) => set rules value) .default
  | .datetime => some .default
  | _ => none

/-- Reads a setting if it is there. -/
def setting {α : Type} (entries : Entries) (key : String) (read : Value → Option α) (default : α) :
    Except ConfigFault α :=
  match entries.lookup key with
  | none => .ok default
  | some value =>
    match read value with
    | some result => .ok result
    | none => .error (.unsuitable key)

/-- The configuration that a document describes. -/
def ofEntries (entries : Entries) : Except ConfigFault Config := do
  let caseSensitive ← setting entries "case_sensitive" boolean? MatchOptions.default.caseSensitive
  let onInvalidPattern ← setting entries "on_invalid_pattern" policy?
    MatchOptions.default.onInvalidPattern
  let patterns ← setting entries "patterns" patterns? .empty
  let retrieval ← setting entries "retrieval" retrieval? .default
  return ⟨⟨caseSensitive, onInvalidPattern⟩, patterns, retrieval⟩

/-- The configuration that a text describes. Its named patterns are not checked. -/
def ofText (text : String) : Except ConfigFault Config := do
  ofEntries (← (Toml.parse text).mapError fun error => .malformed error.line)

/-- The configuration that a text describes, with its named patterns checked. The path tells where the
text is from. -/
def parse (path text : String) : Except ConfigError Config := do
  let config ← (ofText text).mapError (.parse path)
  config.patterns.validate.mapError (.pattern path)
  return config

variable {m : Type → Type} [Monad m]

/-- Loads a configuration file. Without a path the settings are the default ones. -/
def load (system : Files.System m) (path : Option String) : m (Except ConfigError Config) := do
  match path with
  | none => return .ok .default
  | some path =>
    match ← system.readText path with
    | .error cause => return .error (.read path cause)
    | .ok text => return parse path text

end Config

end LinkSieve

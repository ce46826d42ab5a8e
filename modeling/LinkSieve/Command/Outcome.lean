import LinkSieve.Config
import LinkSieve.Filter
/-!
# Outcomes

A command either fails, with one message, or its status tells whether it found what it was asked for.
-/

namespace LinkSieve.Command

open Expression

/-- Why a command failed. The reasons of the pattern language are in words. -/
inductive Failure where
  | config (error : ConfigError)
  | definition (name : String) (error : DefinitionError)
  | expression (text : String) (error : FilterError String)
  | input (error : Files.Error)
  | page (path : String) (error : Files.Error)
  | pagePath (path : String) (error : Files.Error)
  | directory (path : String) (error : Files.Error)
  | output (path : String) (error : Files.Error)
  deriving Repr

namespace Failure

/-- The steps of a failure from the outermost one to its cause. An error that quotes its own cause is
followed by that cause once more. -/
def chain : Failure → List String
  | config error => ["Failed to load config", error.message, error.cause]
  | definition name error => ["Invalid pattern definition '" ++ name ++ "'", error.message]
  | expression text error =>
    ["Invalid filter expression: " ++ text, error.message id] ++
      match error with
      | .invalidPattern rejection => [rejection.cause]
      | _ => []
  | input error => ["Failed to read subjects from stdin", error.message]
  | page path error => ["Failed to read page '" ++ path ++ "'", error.message]
  | pagePath path error => ["Failed to resolve page path '" ++ path ++ "'", error.message]
  | directory path error => ["Failed to create directory '" ++ path ++ "'", error.message]
  | output path error => ["Failed to write output file '" ++ path ++ "'", error.message]

/-- The message of a failure. -/
def message (failure : Failure) : String := ": ".intercalate failure.chain

end Failure

/-- Whether a command found what it was asked for. -/
inductive Status where
  | found
  | notFound
  deriving Repr, DecidableEq

/-- The status that a condition stands for. -/
def Status.ofBool (condition : Bool) : Status := if condition then found else notFound

/-- The exit status of the program. -/
def Status.code : Status → Nat
  | found => 0
  | notFound => 1

/-- The exit status of a failure. -/
def failureCode : Nat := 2

end LinkSieve.Command

/-!
# Matchers

A matcher is one compiled pattern. How patterns are compiled is left to an engine, which either rejects
a pattern or gives a test on subjects. Nothing here depends on the pattern language.

A rejected pattern is an error, or, if the options say so, a matcher that no subject passes.
-/

namespace LinkSieve

/-- A pattern language: for a pattern and whether case counts, a test on subjects or a reason for
rejecting the pattern. -/
abbrev Engine (ε : Type) := (source : String) → (caseSensitive : Bool) → Except ε (String → Bool)

/-- The same pattern language, with its reasons in words. -/
def Engine.worded {ε : Type} (describe : ε → String) (engine : Engine ε) : Engine String :=
  fun source caseSensitive => (engine source caseSensitive).mapError describe

/-- What becomes of a rejected pattern. -/
inductive InvalidPatternPolicy where
  | fail
  | neverMatch
  deriving Repr, DecidableEq

/-- The spelling of a policy in configurations and on the command line. -/
def InvalidPatternPolicy.name : InvalidPatternPolicy → String
  | fail => "fail"
  | neverMatch => "never-match"

/-- The policy with a given spelling. -/
def InvalidPatternPolicy.ofName? (name : String) : Option InvalidPatternPolicy :=
  if name = fail.name then some fail
  else if name = neverMatch.name then some neverMatch
  else none

/-- Settings for all patterns of an expression. -/
structure MatchOptions where
  caseSensitive : Bool
  onInvalidPattern : InvalidPatternPolicy
  deriving Repr, DecidableEq

/-- Case does not count, and a rejected pattern is an error. -/
def MatchOptions.default : MatchOptions := ⟨false, .fail⟩

/-- A rejected pattern with the engine's reason. -/
structure InvalidPattern (ε : Type) where
  pattern : String
  cause : ε
  deriving Repr, DecidableEq

/-- The wording of a rejection, given that of its reason. -/
def InvalidPattern.message {ε : Type} (describe : ε → String) (error : InvalidPattern ε) : String :=
  "Invalid pattern \"" ++ error.pattern ++ "\": " ++ describe error.cause

/-- A pattern with its test. A matcher without a test stands for a rejected pattern. -/
structure Matcher where
  source : String
  test : Option (String → Bool)

namespace Matcher

/-- The matcher that no subject passes. -/
def never (source : String) : Matcher := ⟨source, none⟩

/-- Whether the matcher has a test. -/
def isCompiled (matcher : Matcher) : Bool := matcher.test.isSome

/-- Whether a subject passes. -/
def accepts (matcher : Matcher) (subject : String) : Bool :=
  match matcher.test with
  | some test => test subject
  | none => false

/-- Compiles a pattern under some options. -/
def compile {ε : Type} (engine : Engine ε) (options : MatchOptions) (source : String) :
    Except (InvalidPattern ε) Matcher :=
  match engine source options.caseSensitive with
  | .ok test => .ok ⟨source, some test⟩
  | .error cause =>
    match options.onInvalidPattern with
    | .fail => .error ⟨source, cause⟩
    | .neverMatch => .ok (never source)

end Matcher

end LinkSieve

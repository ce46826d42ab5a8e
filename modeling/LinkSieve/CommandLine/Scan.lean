import LinkSieve.CommandLine.Option
/-!
# Scanning arguments

Arguments are options and operands. An option is a name after two dashes or a letter after one. Its
value follows an equals sign, or is the next argument, or stands directly behind the letter. Letters
without values may share a dash. An argument of two dashes makes operands of all arguments after it, and
a single dash is an operand.

There are two levels of arguments: what stands before the name of the command, and what stands after
it.
-/

namespace LinkSieve.CommandLine

/-- Why a command line cannot be followed. -/
inductive UsageError where
  | unknownOption (option : String)
  | missingValue (name : String)
  | unexpectedValue (name : String)
  | invalidValue (name value : String)
  | repeated (name : String)
  | conflicting (name other : String)
  | missingOperand (name : String)
  | unexpectedOperand (text : String)
  | missingCommand
  | unknownCommand (text : String)
  deriving Repr, DecidableEq

/-- The wording of the error. -/
def UsageError.message : UsageError → String
  | unknownOption option => "unexpected argument '" ++ option ++ "'"
  | missingValue name => "a value is required for '--" ++ name ++ "'"
  | unexpectedValue name => "'--" ++ name ++ "' takes no value"
  | invalidValue name value => "invalid value '" ++ value ++ "' for '--" ++ name ++ "'"
  | repeated name => "'--" ++ name ++ "' cannot be used multiple times"
  | conflicting name other => "'--" ++ name ++ "' cannot be used with '--" ++ other ++ "'"
  | missingOperand name => "<" ++ name ++ "> is required"
  | unexpectedOperand text => "unexpected argument '" ++ text ++ "'"
  | missingCommand => "a command is required"
  | unknownCommand text => "unrecognized command '" ++ text ++ "'"

/-- What ends the reading of a command line early. -/
inductive Stop where
  | help
  | version
  | misuse (error : UsageError)
  deriving Repr, DecidableEq

/-- The options that were given, each with its name. -/
abbrev Given := List (String × Setting)

/-- What a level of arguments may hold. -/
structure Level where
  options : List OptionSpec
  /-- Whether it is the level before the name of the command. -/
  isOuter : Bool

/-- An option that is looked up by its name or by its letter. -/
inductive Found where
  | option (spec : OptionSpec)
  | help
  | version

namespace Level

/-- The option with a name. -/
def byName? (level : Level) (name : String) : Option Found :=
  if name = "help" then some .help
  else if name = "version" ∧ level.isOuter then some .version
  else (level.options.find? fun spec => spec.name = name).map .option

/-- The option with a letter. -/
def byLetter? (level : Level) (letter : Char) : Option Found :=
  if letter = 'h' then some .help
  else if letter = 'V' ∧ level.isOuter then some .version
  else (level.options.find? fun spec => spec.letter = some letter).map .option

end Level

/-- Adds an option to those that were given. -/
def give (given : Given) (spec : OptionSpec) (setting : Setting) : Except Stop Given :=
  if !spec.repeatable && given.any fun other => other.1 = spec.name then
    .error (.misuse (.repeated spec.name))
  else .ok (given ++ [(spec.name, setting)])

/-- Adds an option with its value. -/
def giveValue (given : Given) (spec : OptionSpec) (read : String → Option Setting)
    (value : String) : Except Stop Given :=
  match read value with
  | some setting => give given spec setting
  | none => .error (.misuse (.invalidValue spec.name value))

/-- The options that were given when an argument has been read, and, if the last of them still lacks
its value, that option with the way to read it. -/
structure Progress where
  given : Given
  pending : Option (OptionSpec × (String → Option Setting))

/-- Reads an option that is given by its name, and with a value if there is an equals sign. -/
def readName (level : Level) (given : Given) (text : List Char) : Except Stop Progress :=
  let (name, rest) := text.span (· ≠ '=')
  let name := String.ofList name
  match level.byName? name with
  | none => .error (.misuse (.unknownOption ("--" ++ name)))
  | some .help => if rest.isEmpty then .error .help else .error (.misuse (.unexpectedValue name))
  | some .version =>
    if rest.isEmpty then .error .version else .error (.misuse (.unexpectedValue name))
  | some (.option spec) =>
    match spec.form, rest with
    | .flag setting, [] => do return ⟨← give given spec setting, none⟩
    | .flag _, _ :: _ => .error (.misuse (.unexpectedValue name))
    | .valued read, [] => .ok ⟨given, some (spec, read)⟩
    | .valued read, _ :: value => do
      return ⟨← giveValue given spec read (String.ofList value), none⟩

/-- Reads options that are given by their letters. What follows a letter that takes a value is its
value, less an equals sign before it. -/
def readLetters (level : Level) (given : Given) : (letters : List Char) → Except Stop Progress
  | [] => .ok ⟨given, none⟩
  | letter :: rest =>
    match level.byLetter? letter with
    | none => .error (.misuse (.unknownOption (String.ofList ['-', letter])))
    | some .help => .error .help
    | some .version => .error .version
    | some (.option spec) =>
      match spec.form, rest with
      | .flag setting, rest => do readLetters level (← give given spec setting) rest
      | .valued read, [] => .ok ⟨given, some (spec, read)⟩
      | .valued read, '=' :: value | .valued read, value => do
        return ⟨← giveValue given spec read (String.ofList value), none⟩

/-- What an argument looks like. -/
inductive Shape where
  | operand
  /-- Two dashes. -/
  | separator
  /-- What stands after two dashes. -/
  | name (text : List Char)
  /-- What stands after one dash. -/
  | letters (text : List Char)
  deriving Repr, DecidableEq

/-- Tells options from operands. -/
def shape (argument : String) : Shape :=
  match argument.toList with
  | ['-', '-'] => .separator
  | '-' :: '-' :: text => .name text
  | '-' :: c :: text => .letters (c :: text)
  | _ => .operand

/-- A level of arguments after it was read: the options, the operands, and the arguments that belong
to the next level. -/
structure Scanned where
  given : Given
  operands : List String
  rest : List String

/-- Reads a level of arguments after some options and operands of it. The first operand of the outer
level ends that level. -/
def scan (level : Level) (given : Given) (operands : List String) :
    (arguments : List String) → Except Stop Scanned
  | [] => .ok ⟨given, operands, []⟩
  | argument :: rest =>
    let continueWith (progress : Except Stop Progress) : Except Stop Scanned :=
      match progress with
      | .error stop => .error stop
      | .ok ⟨given, none⟩ => scan level given operands rest
      | .ok ⟨given, some (spec, read)⟩ =>
        match rest with
        | [] => .error (.misuse (.missingValue spec.name))
        | value :: rest =>
          if shape value = .operand then
            match giveValue given spec read value with
            | .error stop => .error stop
            | .ok given => scan level given operands rest
          else .error (.misuse (.missingValue spec.name))
    match shape argument with
    | .operand =>
      if level.isOuter then .ok ⟨given, operands, argument :: rest⟩
      else scan level given (operands ++ [argument]) rest
    | .separator =>
      if level.isOuter then
        .error (.misuse (match rest with
          | [] => .missingCommand
          | operand :: _ => .unexpectedOperand operand))
      else .ok ⟨given, operands ++ rest, []⟩
    | .name text => continueWith (readName level given text)
    | .letters text => continueWith (readLetters level given text)

end LinkSieve.CommandLine

import LinkSieve.Command.Host
import LinkSieve.Files.Tree
/-!
# Transcripts

A transcript is a console as a value: it keeps everything that is put on it, in order. Any machine
whose state is a value becomes a host with a transcript beside that state.
-/

namespace LinkSieve

/-- The files in a monad that has more to it. -/
def Files.System.lift {m n : Type → Type} (lift : {α : Type} → m α → n α)
    (system : Files.System m) : Files.System n where
  read path := lift (system.read path)
  write path content := lift (system.write path content)
  copy source destination := lift (system.copy source destination)
  resolve path := lift (system.resolve path)
  size path := lift (system.size path)
  createDirectories path := lift (system.createDirectories path)

namespace Command

/-- What was put on a console. -/
structure Transcript where
  /-- The text on the standard output. -/
  shown : String
  /-- The lines on the standard error. -/
  messages : List String
  deriving Repr, DecidableEq

namespace Transcript

/-- A console before anything is put on it. -/
def empty : Transcript := ⟨"", []⟩

/-- The console after a text was put on the standard output. -/
def print (transcript : Transcript) (text : String) : Transcript :=
  { transcript with shown := transcript.shown ++ text }

/-- The console after a line was put on the standard error. -/
def complain (transcript : Transcript) (line : String) : Transcript :=
  { transcript with messages := transcript.messages ++ [line] }

end Transcript

variable {σ α : Type}

/-- A program that works beside a console and does not use it. -/
def besideConsole (program : StateM σ α) : StateM (σ × Transcript) α :=
  fun (state, transcript) =>
    let (result, state) := program state
    (result, (state, transcript))

/-- A program that only uses the console. -/
def onConsole (change : Transcript → Transcript) : StateM (σ × Transcript) Unit :=
  fun (state, transcript) => ((), (state, change transcript))

/-- The machine with a transcript for a console. -/
def Machine.transcribed (machine : Machine (StateM σ)) : Host (StateM (σ × Transcript)) where
  files := machine.files.lift besideConsole
  input := besideConsole machine.input
  pause duration := besideConsole (machine.pause duration)
  isTerminal := machine.isTerminal
  engine := machine.engine
  print text := onConsole (·.print text)
  complain line := onConsole (·.complain line)

/-- A machine whose files are a tree, with a given pattern language and a given input. It does not wait
and has no terminal. -/
def treeMachine (engine : Engine String) (input : Files.Content) : Machine (StateM Files.Tree) where
  files := Files.Tree.system
  input := pure input
  pause _ := pure ()
  isTerminal := false
  engine := engine

end Command

end LinkSieve

import LinkSieve.Text.Cut
/-!
# Styled text

Colours and other styles of a terminal, which are switched on by a control sequence and off by another.
-/

namespace LinkSieve.Terminal

/-- A style by the parameters of its control sequence. -/
structure Style where
  parameters : String
  deriving Repr, DecidableEq

namespace Style

/-- Bold and green. -/
def good : Style := ⟨"1;32"⟩

/-- Bold and red. -/
def bad : Style := ⟨"1;31"⟩

/-- Dimmed. -/
def faint : Style := ⟨"2"⟩

/-- A control sequence with some parameters. -/
def sequence (parameters : String) : List Char :=
  ['\x1b', '['] ++ parameters.toList ++ ['m']

/-- Switches all styles off. -/
def reset : List Char := sequence "0"

/-- The text in the style. A reset inside the text is followed by the style once more, so that the
style reaches to the end. -/
def apply (style : Style) (text : String) : String :=
  let start := sequence style.parameters
  String.ofList (start ++ Text.replaceAll reset (reset ++ start) text.toList ++ reset)

end Style

end LinkSieve.Terminal

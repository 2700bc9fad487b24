import CommandRouter.Pattern.Basic

/-!
# Writing patterns

The line of a pattern with single spaces between its words, all choices with their values spelled
out and integers in decimal. It is the second side of reading: `Pattern.parse` takes the line of a
well-formed pattern back to the pattern.
-/

namespace CommandRouter

/-- A choice with its value. -/
def Choice.line (c : Choice) : List Char := c.name.toList ++ '=' :: c.value.display.toList

/-- The list of choices of an option, or nothing if the option is free. -/
def OptionSpec.choiceLine (choices : List Choice) : List Char :=
  if choices.isEmpty then [] else '<' :: ([','].intercalate (choices.map Choice.line) ++ ['>'])

/-- An option as a word of a line. -/
def OptionSpec.line (o : OptionSpec) : List Char :=
  o.name.toList ++ (if o.required then [] else ['?']) ++ ':' :: o.kind.name.toList ++
    choiceLine o.choices

/-- The words of a pattern. -/
def Pattern.words (p : Pattern) : List (List Char) :=
  ('/' :: p.name.toList) :: (p.path.map String.toList ++ p.options.map OptionSpec.line)

/-- The line of a pattern. -/
def Pattern.render (p : Pattern) : String := .ofList ([' '].intercalate p.words)

end CommandRouter

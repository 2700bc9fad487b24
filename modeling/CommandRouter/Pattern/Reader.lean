import CommandRouter.Pattern.Basic
import CommandRouter.Text.Blank
import CommandRouter.Text.Cut

/-!
# Reading patterns

A line is read word by word from the left: `Pattern.start` reads the first word, and each further
word extends the pattern read so far by `Pattern.extend`, so that the leftmost faulty word decides
what is wrong with the line. How the words are spaced plays no part.

Inside a word the delimiters are found one after another: the first `:` ends the name of an option,
the first `<` after it the type, a comma ends a choice and the first `=` the name of a choice. What
follows may hold the earlier delimiters again.
-/

namespace CommandRouter

namespace Pattern

/-- Whether a character may occur in a name: an ASCII letter or digit, `_` or `-`. -/
def isNameChar (c : Char) : Bool := c.isAlphanum || c == '_' || c == '-'

/-- Whether a text is a name: 1 to 32 of the characters that names may have. -/
def isName (cs : List Char) : Bool :=
  decide (1 ≤ cs.length) && decide (cs.length ≤ 32) && cs.all isNameChar

/-- The text as a name. -/
def readName (cs : List Char) : Except Fault String :=
  if isName cs then .ok (.ofList cs) else .error (.invalidName (.ofList cs))

/-! ## Choices -/

/-- The value of a choice of an option of the given type. -/
def readChoiceValue (option : String) (kind : OptionType) (entry value : List Char) :
    Except Fault ChoiceValue :=
  if kind = .integer then
    match Decimal.signed? value with
    | some n => .ok (.integer (.ofInt n))
    | none => .error (.invalidChoiceValue option kind (.ofList entry))
  else .ok (.text (.ofList value))

/-- Reads one choice, given the choices before it. -/
def readChoice (option : String) (kind : OptionType) (before : List Choice) (entry : List Char) :
    Except Fault Choice := do
  let (name, value) := (Text.cutAt '=' entry).getD (entry, entry)
  if name.isEmpty || decide (maxChoiceName < name.length) || value.isEmpty then
    throw (.malformed (.badChoice (.ofList entry) option))
  if before.any fun c => c.name == .ofList name then
    throw (.malformed (.repeatedChoice (.ofList name) option))
  return ⟨.ofList name, ← readChoiceValue option kind entry value⟩

/-- Reads one more choice. -/
def addChoice (option : String) (kind : OptionType) (before : List Choice) (entry : List Char) :
    Except Fault (List Choice) := do
  return before ++ [← readChoice option kind before entry]

/-- Reads the choices between the angle brackets of an option. -/
def readChoices (option : String) (kind : OptionType) (body : List Char) :
    Except Fault (List Choice) := do
  if !kind.takesChoices then
    throw (.unsupportedChoices option kind)
  if body.isEmpty then
    throw (.malformed (.emptyChoices option))
  (body.splitOn ',').foldlM (addChoice option kind) []

/-! ## Options -/

/-- The type of an option and the text of its choices, if it has a list of them. -/
def cutChoices (option : String) (spec : List Char) :
    Except Fault (List Char × Option (List Char)) :=
  match Text.cutAt '<' spec with
  | none => .ok (spec, none)
  | some (type, rest) =>
    match Text.dropLast? '>' rest with
    | some body => .ok (type, some body)
    | none => .error (.malformed (.unclosedChoices option))

/-- Reads an option from the texts before and after its first colon. -/
def readOption (label spec : List Char) : Except Fault OptionSpec := do
  let optional := Text.dropLast? '?' label
  let name ← readName (optional.getD label)
  let (type, body) ← cutChoices name spec
  match OptionType.ofName? (.ofList type) with
  | none => throw (.unknownType name (.ofList type))
  | some kind =>
    let choices ← match body with
      | none => pure []
      | some body => readChoices name kind body
    return ⟨name, kind, optional.isNone, choices⟩

/-! ## Lines -/

/-- The pattern that the first word of a line stands for. -/
def start (word : List Char) : Except Fault Pattern :=
  match word with
  | '/' :: name => return { name := ← readName name }
  | _ => throw (.malformed .noSlash)

/-- The pattern extended by one more word, which is an option if it has a colon. -/
def extend (p : Pattern) (word : List Char) : Except Fault Pattern :=
  match Text.cutAt ':' word with
  | some (label, spec) => do
    let o ← readOption label spec
    if p.options.any fun seen => seen.name == o.name then
      throw (.malformed (.repeatedOption o.name))
    return { p with options := p.options ++ [o] }
  | none => do
    if !p.options.isEmpty then
      throw (.malformed .wordAfterOption)
    let name ← readName word
    if maxDepth ≤ p.path.length then
      throw .tooDeep
    return { p with path := p.path ++ [name] }

/-- Reads a pattern from its words. -/
def ofWords : List (List Char) → Except Fault Pattern
  | [] => .error (.malformed .empty)
  | first :: rest => do rest.foldlM extend (← start first)

/-- The line with its words separated by single spaces. -/
def collapse (line : String) : String := .ofList (Text.collapse line.toList)

/-- Reads a pattern. -/
def parse (line : String) : Except Error Pattern :=
  match Text.words line.toList with
  | [] => .error ⟨line, .malformed .empty⟩
  | words => (ofWords words).mapError fun fault => ⟨.ofList (Text.unwords words), fault⟩

/-- Checks that a text is a name. -/
def validateName (name : String) : Except Error Unit :=
  match readName name.toList with
  | .ok _ => .ok ()
  | .error fault => .error ⟨name, fault⟩

end Pattern

end CommandRouter

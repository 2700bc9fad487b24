import CommandRouter.Logging.Setup

/-!
# Trying out a set-up

A trial runs a program that logs in a given way and looks at what arrives where. The program asks of
three modules whether each level is logged, logs a line for each, and at last makes, enters, leaves
and ends a span.
-/

namespace CommandRouter

/-- What is seen in a place to which lines go. -/
structure SinkView where
  /-- The tags of the lines for the modules and levels, in order. -/
  probes : List String := []
  /-- Whether the module of the span can be seen. -/
  target : Bool := false
  /-- Whether a thread can be seen. -/
  threadIds : Bool := false
  /-- Whether a place in the program can be seen. -/
  location : Bool := false
  /-- How often each moment in the life of a span is logged. -/
  spanNew : Nat := 0
  spanEnter : Nat := 0
  spanExit : Nat := 0
  spanClose : Nat := 0
  /-- Whether it is said that the path of the file is missing. -/
  fallbackWarning : Bool := false
  /-- How many directives are said to be unreadable. -/
  badDirectives : Nat := 0
  deriving DecidableEq

namespace LogTrial

/-- The modules that log, each with its tag. -/
def modules : List (String × String) :=
  [("slashmux_core", "c"), ("slashmux_framework::mux", "m"), ("other", "o")]

/-- The module of the span. -/
def spanModule : String := "slashmux_framework::mux"

/-- The module that sets up logging. -/
def setupModule : String := "slashmux_runtime::logging"

/-- The modules and levels, in the order in which they are tried. -/
def cases : List ((String × String) × Level) :=
  modules.flatMap fun module => Level.all.map fun level => (module, level)

/-- The modules and levels that are said to be logged. -/
def enabled (f : LogFilter) : List (String × Level) :=
  (cases.filter fun ((module, _), level) => f.admits { target := module, level }).map
    fun ((module, _), level) => (module, level)

/-- The modules and levels of the lines that are logged. -/
def logged (f : LogFilter) : List ((String × String) × Level) :=
  cases.filter fun ((module, _), level) =>
    f.admits { target := module, level, fields := ["message"], isEvent := true }

/-- The tag of a line: that of its module and the first letter of its level. -/
def tag (module : String × String) (level : Level) : String :=
  module.2 ++ String.ofList (level.label.toList.take 1)

/-- What the lines of a set-up look like. -/
def lines (s : LogSetup) (f : LogFilter) : SinkView :=
  let probes := logged f
  let span := f.admits { target := spanModule, level := .error, span := some "dispatch" }
  let warning := s.lacksPath &&
    f.admits { target := setupModule, level := .warn, fields := ["message"], isEvent := true }
  let count (moment : Bool) : Nat := if span && moment then 1 else 0
  let e := s.spanEvents
  let spanLines := span && (e.new || e.enter || e.exit || e.close)
  let anyLine := !probes.isEmpty || spanLines || warning
  { probes := probes.map fun (module, level) => tag module level
    target := s.withTarget && (spanLines || probes.any fun (module, _) => module.1 == spanModule)
    threadIds := s.withThreadIds && anyLine
    location := s.withFile && anyLine
    spanNew := count e.new
    spanEnter := count e.enter
    spanExit := count e.exit
    spanClose := count e.close
    fallbackWarning := warning }

/-- Whether a text contains another one. -/
def containsText (part : List Char) : List Char → Bool
  | [] => part.isEmpty
  | c :: cs => part.isPrefixOf (c :: cs) || containsText part cs

/-- What is seen on the standard error output besides lines. -/
def complaints (s : LogSetup) (view : SinkView) : SinkView :=
  { view with
    target := view.target ||
      s.badDirectives.any fun d => containsText spanModule.toList d.toList
    badDirectives := s.badDirectives.length }

/-- What a trial finds. -/
structure Findings where
  /-- The modules and levels that are said to be logged. -/
  enabled : List (String × Level)
  /-- What arrives on the standard output. -/
  stdout : SinkView
  /-- What arrives on the standard error output. -/
  stderr : SinkView
  /-- What arrives in the file. -/
  file : SinkView

/-- Tries out a set-up. -/
def run (s : LogSetup) (environment : Option String) : Findings :=
  let f := s.filter environment
  let view := lines s f
  let at_ (d : Bool) : SinkView := if d then view else {}
  { enabled := enabled f
    stdout := at_ (s.destination = .stdout)
    stderr := complaints s (at_ (s.destination = .stderr))
    file := at_ (s.destination ≠ .stdout && s.destination ≠ .stderr) }

end LogTrial

end CommandRouter

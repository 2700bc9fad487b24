import CommandRouter.Logging.Filter

/-!
# Setting up logging

A set-up says what is logged, with which layout and where. It is taken from a configuration or made
step by step. The filter has the level of the set-up as its base, unless the environment gives
another one; directives of the set-up come on top of it.
-/

namespace CommandRouter

namespace SpanEvents

/-- Nothing in the life of a span. -/
def none : SpanEvents := {}

/-- The beginning and the end of a span. -/
def lifecycle : SpanEvents := { new := true, close := true }

/-- Everything in the life of a span. -/
def full : SpanEvents := ⟨true, true, true, true⟩

end SpanEvents

/-- What is logged, with which layout and where. -/
structure LogSetup where
  /-- The least important level that is logged. -/
  level : Level := .info
  /-- The directives that come on top of it, as they are written. -/
  directives : List String := []
  /-- The moments in the life of a span that are logged. -/
  spanEvents : SpanEvents := {}
  /-- The layout of the lines. -/
  format : LogFormat := .compact
  /-- Where the lines go. -/
  output : LogOutput := .stdout
  /-- The file that the lines go to, if they go to a file. -/
  filePath : Option String := none
  /-- Whether lines show the module. -/
  withTarget : Bool := true
  /-- Whether lines show the thread. -/
  withThreadIds : Bool := false
  /-- Whether lines show the place in the program. -/
  withFile : Bool := false
  deriving DecidableEq

namespace LogSetup

/-! ## Making -/

/-- The set-up that a configuration describes. -/
def ofConfig (c : LoggingConfig) : LogSetup :=
  { level := c.level
    directives := c.filters.map fun (module, level) => module ++ "=" ++ level.name
    spanEvents := c.spanEvents
    format := c.format
    output := c.output
    filePath := c.filePath
    withThreadIds := c.threadIds
    withFile := c.fileLocation }

/-- The set-up with one more directive. -/
def directive (s : LogSetup) (d : String) : LogSetup := { s with directives := s.directives ++ [d] }

/-! ## In words -/

/-- The set-up in words. -/
def text (s : LogSetup) : String :=
  let level := match s.level with
    | .trace => "Trace"
    | .debug => "Debug"
    | .info => "Info"
    | .warn => "Warn"
    | .error => "Error"
  let format := match s.format with
    | .compact => "Compact"
    | .full => "Full"
    | .pretty => "Pretty"
    | .json => "Json"
  let output := match s.output with
    | .stdout => "Stdout"
    | .stderr => "Stderr"
    | .file => "File"
  let directives := ", ".intercalate (s.directives.map Text.quoted)
  let path := (s.filePath.map Text.quoted).elim "None" fun p => s!"Some({p})"
  let e := s.spanEvents
  s!"LoggingBuilder \x7b level: Level({level}), directives: [{directives}], " ++
    s!"span_events: SpanEvents \x7b new: {e.new}, enter: {e.enter}, exit: {e.exit}, " ++
    s!"close: {e.close} \x7d, format: {format}, output: {output}, file_path: {path}, " ++
    s!"with_target: {s.withTarget}, with_thread_ids: {s.withThreadIds}, " ++
    s!"with_file: {s.withFile} \x7d"

/-! ## The filter -/

/-- The filter that the level of a set-up stands for. -/
def base (s : LogSetup) : LogFilter := .ofDirectives [{ limit := some s.level }]

/-- The filter before the directives: that of the environment if it gives one that can be read. -/
def start (s : LogSetup) (environment : Option String) : LogFilter :=
  (environment.bind LogFilter.parse).getD s.base

/-- The directives that cannot be read. -/
def badDirectives (s : LogSetup) : List String :=
  s.directives.filter fun d => (Directive.parse d).isNone

/-- The filter of a set-up. -/
def filter (s : LogSetup) (environment : Option String) : LogFilter :=
  (s.directives.filterMap Directive.parse).foldl LogFilter.add (s.start environment)

/-! ## Where the lines go -/

/-- Where lines go in the end. -/
inductive Destination where
  | stdout
  | stderr
  | file (path : String)
  deriving DecidableEq

/-- Whether the lines should go to a file that is not given. -/
def lacksPath (s : LogSetup) : Bool := s.output == .file && s.filePath.isNone

/-- Whether the layout is one that is not built in, in place of which the compact one is used. -/
def lacksFormat (s : LogSetup) : Bool := s.format == .json

/-- Where the lines go: without the file that they should go to, it is the standard output. -/
def destination (s : LogSetup) : Destination :=
  match s.output, s.filePath with
  | .stderr, _ => .stderr
  | .file, some path => .file path
  | _, _ => .stdout

end LogSetup

end CommandRouter

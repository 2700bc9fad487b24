import CommandRouter.Logging.Directive

/-!
# Log filters

A filter decides which events and spans are logged. Directives that name no span and no value are
*rules*: the most specific rule that fits decides, and what no rule fits is not logged. A rule is
more specific than another one if its target is longer. The other directives are *watches*: they
log the spans that they fit.
-/

namespace CommandRouter

/-- A place in a program that asks whether something is logged. -/
structure Callsite where
  /-- The module of the place. -/
  target : String
  /-- The level of what is logged. -/
  level : Level
  /-- The name of the span, if it is a span that is logged. -/
  span : Option String := none
  /-- The fields of the event or the span. -/
  fields : List String := []
  /-- Whether it is an event that is logged. -/
  isEvent : Bool := false

/-- Whether the module of a place is one of those whose names begin in the given way. -/
def Callsite.isBelow (c : Callsite) (target : String) : Bool :=
  target.toList.isPrefixOf c.target.toList

/-- A rule of a filter. -/
structure LogRule where
  /-- The beginning of the names of the modules. -/
  target : Option String := none
  /-- The names of the fields that an event must have. -/
  fields : List String := []
  /-- Down to which level is logged. -/
  limit : LogLimit
  deriving DecidableEq

/-- Decides what is logged. -/
structure LogFilter where
  /-- The rules, the most specific first. -/
  rules : List LogRule := []
  /-- The directives about spans. -/
  watches : List Directive := []

namespace Directive

/-- Whether the directive is about spans. -/
def isAboutSpans (d : Directive) : Bool := d.span.isSome || !d.fields.isEmpty

/-- The directive as a rule, if it names no span and no value. -/
def rule? (d : Directive) : Option LogRule :=
  if d.span.isNone && d.fields.all (·.value.isNone) then
    some ⟨d.target, d.fields.map (·.name), d.limit⟩
  else none

/-- Whether the directive fits a span. -/
def fits (d : Directive) (c : Callsite) : Bool :=
  c.span.isSome && d.target.all c.isBelow && (d.span.isNone || d.span == c.span) &&
    d.fields.all fun f => c.fields.contains f.name

end Directive

namespace LogRule

/-- Whether the rule fits a place. -/
def fits (r : LogRule) (c : Callsite) : Bool :=
  r.target.all c.isBelow && (!c.isEvent || r.fields.all c.fields.contains)

/-- How specific a rule is: first by the length of its target, then by the number of its fields. -/
def weight (r : LogRule) : Nat × Nat :=
  ((r.target.map fun t => t.utf8ByteSize + 1).getD 0, r.fields.length)

/-- Whether two rules are about the same things. -/
def replaces (r s : LogRule) : Bool := r.target == s.target && r.fields == s.fields

/-- Whether a rule comes before another one. -/
def precedes (r s : LogRule) : Bool :=
  let (a, m) := r.weight
  let (b, n) := s.weight
  decide (b < a) || (a == b && (decide (n < m) || (m == n &&
    (decide (s.target.getD "" < r.target.getD "") ||
      (s.target == r.target && decide (s.fields < r.fields))))))

end LogRule

namespace LogFilter

/-! ## Making -/

/-- The rules with one more rule, which takes the place of one about the same things. -/
def insertRule (r : LogRule) : List LogRule → List LogRule
  | [] => [r]
  | s :: rules =>
    if r.replaces s then r :: rules
    else if r.precedes s then r :: s :: rules
    else s :: insertRule r rules

/-- The filter with one more directive. -/
def add (f : LogFilter) (d : Directive) : LogFilter :=
  match d.rule? with
  | some r => { f with rules := insertRule r f.rules }
  | none => { f with watches := f.watches ++ [d] }

/-- The filter of the given directives; without any it logs nothing. -/
def ofDirectives (ds : List Directive) : LogFilter :=
  let watches := ds.filter (·.isAboutSpans)
  let rules := (ds.filter (!·.isAboutSpans) ++ watches).filterMap (·.rule?)
  ⟨rules.foldl (fun rules r => insertRule r rules) [], watches⟩

/-- The filter that a text describes: directives with commas between them. -/
def parse (text : String) : Option LogFilter :=
  let parts := (text.toList.splitOn ',').filter fun part => !part.isEmpty
  (parts.mapM fun part => Directive.parse (.ofList part)).map ofDirectives

/-! ## Deciding -/

/-- Whether anything at all is logged at a level. -/
def reaches (f : LogFilter) (level : Level) : Bool :=
  f.rules.any (·.limit.admits level) || f.watches.any (·.limit.admits level) ||
    f.watches.any fun d => d.fields.any (·.value.isSome)

/-- Whether the rules log what a place asks for. -/
def rulesAdmit (f : LogFilter) (c : Callsite) : Bool :=
  ((f.rules.find? (·.fits c)).map (·.limit.admits c.level)).getD false

/-- Whether what a place asks for is logged. -/
def admits (f : LogFilter) (c : Callsite) : Bool :=
  f.reaches c.level && (f.watches.any (·.fits c) || f.rulesAdmit c)

end LogFilter

end CommandRouter

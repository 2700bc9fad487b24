import CommandRouter.Scenario.Basic

/-!
# Playing scenarios

A host plays a scenario. It has the exchange and two tables of bots: those whose routes are being
declared and those that are live. A bot leaves the first table when it tries to go live, and the
second when it is told to stop, whether this succeeds or not. A bot that goes live takes the place
of a live bot of its name, which is forgotten but not stopped.
-/

namespace CommandRouter.Scenario

/-- A session, and bots under their names. -/
structure Host where
  /-- The session and what was done on it. -/
  exchange : Exchange
  /-- The bots whose routes are being declared. -/
  building : List (String × Bot) := []
  /-- The bots that are live. -/
  serving : List (String × LiveBot) := []

/-- A table with one more entry, which replaces another one of its name. -/
def put {α : Type} (name : String) (x : α) (table : List (String × α)) : List (String × α) :=
  (name, x) :: table.filter (·.1 != name)

/-- A table without the entry of a name. -/
def remove {α : Type} (name : String) (table : List (String × α)) : List (String × α) :=
  table.filter (·.1 != name)

namespace Host

/-! ## Single steps -/

/-- The host after something was done on the exchange that may fail. -/
def attempt (h : Host) (result : Except SessionError Exchange) : Outcome × Host :=
  match result with
  | .ok exchange => (.done, { h with exchange })
  | .error e => (.sessionError e, h)

/-- The host with its session changed. -/
def withSession (h : Host) (f : Session → Session) : Host :=
  { h with exchange := { h.exchange with session := f h.exchange.session } }

/-- Declares a route. -/
def handle (h : Host) (name pattern : String) (handler : Handler) : Outcome × Host :=
  match h.building.lookup name with
  | none => (.noBot, h)
  | some b =>
    match b.handle pattern handler with
    | .error e => (.botError e, h)
    | .ok (key, b) =>
      (.routes b.routeCount,
        { h with
          exchange := (h.exchange.report (.patternAdded key)).report (.handlerRegistered key)
          building := put name b h.building })

/-- Adds middlewares to a bot. -/
def use (h : Host) (name : String) (ms : List Middleware) : Outcome × Host :=
  match h.building.lookup name with
  | none => (.noBot, h)
  | some b => (.done, { h with building := put name (b.use ms) h.building })

/-- The state of a bot; of two bots of one name it is that of the live one. -/
def state (h : Host) (name : String) : Outcome :=
  match h.serving.lookup name, h.building.lookup name with
  | some b, _ => .serving b h.exchange.session.application?
  | none, some b => .building b
  | none, none => .noBot

/-- The router of a bot; of two bots of one name it is that of the one that is not live. -/
def router? (h : Host) (name : String) : Option Router :=
  ((h.building.lookup name).map (·.router)).or ((h.serving.lookup name).map (·.router))

/-- Routes an interaction to a bot. -/
def dispatch (h : Host) (name : String) (i : Interaction) : Outcome × Host :=
  match h.router? name with
  | none => (.noBot, h)
  | some r =>
    let (ran, exchange) := h.exchange.dispatch r i
    (.ran ran, { h with exchange })

/-- Lets a bot go live. -/
def serve (h : Host) (name : String) : Outcome × Host :=
  match h.building.lookup name with
  | none => (.noBot, h)
  | some b =>
    let h := { h with building := remove name h.building }
    match b.serve h.exchange with
    | (.error e, exchange) => (.botError e, { h with exchange })
    | (.ok live, exchange) =>
      (.served live, { h with exchange, serving := put name live h.serving })

/-- Stops a live bot. -/
def close (h : Host) (name : String) : Outcome × Host :=
  match h.serving.lookup name with
  | none => (.noBot, h)
  | some live =>
    let (result, exchange) := live.close h.exchange
    (match result with
      | .ok () => .done
      | .error e => .botError e,
      { h with exchange, serving := remove name h.serving })

/-- The faults with one of them set or lifted. -/
def setFault (f : Session.Faults) (error : Option SessionError) : Call → Session.Faults
  | .open => { f with opening := error }
  | .close => { f with closing := error }
  | .applicationId => { f with application := error.isSome }
  | .respond => { f with responding := error }
  | .permissions => { f with permissions := error }

/-- A report on the host; the notes in it are taken. -/
def report (h : Host) (outcome : Outcome) (during : List Report) : Report × Host :=
  let (trace, exchange) := h.exchange.takeNotes
  let s := exchange.session
  ({ outcome, trace, during, isOpen := s.isOpen, publishCount := s.publishCount,
     responseCount := s.responses.length }, { h with exchange })

/-- The host with the given bot run and the given work done meanwhile, with the reports on the
work. -/
def runUntil (h : Host) (name : String) (work : Host → List Report × Host) :
    Outcome × List Report × Host :=
  match h.building.lookup name with
  | none => (.noBot, [], h)
  | some b =>
    let h := { h with building := remove name h.building }
    let run := b.runUntil (fun exchange =>
      let (reports, h) := work { h with exchange }
      ((reports, h), h.exchange)) h.exchange
    match run.work with
    | none => (.ended run.result, [], { h with exchange := run.exchange })
    | some (reports, h) => (.ended run.result, reports, { h with exchange := run.exchange })

/-- Runs a bot until a signal comes. -/
def runUntilSignal (h : Host) (name : String) (signal : Signal) : Outcome × Host :=
  match h.building.lookup name with
  | none => (.noBot, h)
  | some b =>
    let run := b.runUntilSignal signal h.exchange
    (match run.result with
      | .ok () => .stopped
      | .error e => .botError e,
      { h with exchange := run.exchange, building := remove name h.building })

/-- Does a step that contains no further steps. -/
def act (h : Host) : Step → Outcome × Host
  | .begin name scope => (.began scope, { h with building := put name { scope } h.building })
  | .handle name pattern handler => h.handle name pattern handler
  | .use name ms => h.use name ms
  | .state name => (h.state name, h)
  | .dispatch name i => h.dispatch name i
  | .chain ms handler i =>
    (.unchanged ms.isEmpty, { h with exchange := h.exchange.run (Middleware.chain ms handler) i })
  | .serve name => h.serve name
  | .close name => h.close name
  | .runUntil name _ =>
    let (outcome, _, h) := h.runUntil name fun h => ([], h)
    (outcome, h)
  | .runUntilSignal name signal => h.runUntilSignal name signal
  | .openSession => h.attempt h.exchange.open
  | .closeSession => h.attempt h.exchange.close
  | .deliver i => h.attempt (h.exchange.deliver i)
  | .observe tag => (.done, { h with exchange := h.exchange.install (.observer tag) })
  | .publish application scope commands =>
    match h.exchange.publish application scope commands with
    | .ok (stored, exchange) => (.commands stored, { h with exchange })
    | .error e => (.sessionError e, h)
  | .published scope => (.published (h.exchange.session.published? scope), h)
  | .applicationId => (.applicationId h.exchange.session.application?, h)
  | .responses => (.responses h.exchange.session.responses, h)
  | .takeResponses =>
    (.responses h.exchange.session.takeResponses.1, h.withSession fun s => s.takeResponses.2)
  | .permissions user channel =>
    match h.exchange.session.permissions user channel with
    | .ok p => (.permissions p, h)
    | .error e => (.sessionError e, h)
  | .setPermissions user channel p =>
    (.done, h.withSession fun s => s.setPermissions user channel p)
  | .rejectPublish e => (.done, h.withSession fun s => { s with publishRejection := some e })
  | .fault call error =>
    (.done, h.withSession fun s => { s with faults := setFault s.faults error call })
  | .rest => (.done, h)
  | .unreadable e => (.unreadable e, h)
  | .unknown name => (.unknown name, h)

/-! ## Scenarios -/

mutual

/-- Does a step and reports on it. -/
def step (h : Host) : Step → Report × Host
  | .runUntil name during =>
    let (outcome, reports, h) := h.runUntil name fun h => h.steps during
    h.report outcome reports
  | s =>
    let (outcome, h) := h.act s
    h.report outcome []

/-- Does steps one after another and reports on each. -/
def steps (h : Host) : List Step → List Report × Host
  | [] => ([], h)
  | s :: ss =>
    let (report, h) := h.step s
    let (reports, h) := h.steps ss
    (report :: reports, h)

end

/-- Plays a scenario: for each step the report on it and the entries of the journal that it adds,
without the notes, which are in the report. -/
def play (h : Host) : List Step → List (Report × List Entry)
  | [] => []
  | s :: ss =>
    let (report, h) := h.step s
    let (entries, exchange) := h.exchange.takeJournal
    (report, entries) :: play { h with exchange } ss

end Host

end CommandRouter.Scenario

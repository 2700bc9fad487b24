import CommandRouter.Session.Local

/-!
# Exchanges

An exchange is a session together with the routers that are live on it and a journal of what was
done. A router that is installed as a callback carries a ticket; it takes part in a delivery only
while its ticket is among the live ones. A callback may be installed long before its ticket becomes
live, and its ticket may be withdrawn while it is still installed.
-/

namespace CommandRouter

/-- A session, the routers that are live on it, and what was done. -/
structure Exchange where
  /-- The session. -/
  session : Session
  /-- The tickets of the live routers. -/
  live : List Nat := []
  /-- The number of tickets handed out, which is the next ticket. -/
  tickets : Nat := 0
  /-- What was done, the first thing first. -/
  journal : List Entry := []

namespace Exchange

/-- Records what was done. Responses reach the session. -/
def record (x : Exchange) (entries : List Entry) : Exchange :=
  { x with
    session := entries.foldl Session.receive x.session
    journal := x.journal ++ entries }

/-- Records an event that belongs to no command. -/
def report (x : Exchange) (e : Event) : Exchange := x.record [.event e none]

/-! ## The connection -/

/-- Opens the session. -/
def «open» (x : Exchange) : Except SessionError Exchange :=
  x.session.open.map fun s => { x with session := s }.report (.sessionOpened s.applicationId)

/-- Closes the session. -/
def close (x : Exchange) : Except SessionError Exchange :=
  x.session.close.map fun s => { x with session := s }.report .sessionClosed

/-- Installs a callback. -/
def install (x : Exchange) (c : Callback) : Exchange := { x with session := x.session.install c }

/-- Publishes commands for a scope; the result has them as they are stored. -/
def publish (x : Exchange) (application : String) (scope : Scope)
    (commands : List ApplicationCommand) :
    Except SessionError (List ApplicationCommand × Exchange) :=
  (x.session.publish application scope commands).map fun (stored, s) =>
    (stored, { x with session := s })

/-! ## Interactions -/

/-- Routes an interaction; the result says whether a handler ran. -/
def dispatch (x : Exchange) (r : Router) (i : Interaction) : Bool × Exchange :=
  let (ran, entries) := r.dispatch x.session.view i
  (ran, x.record entries)

/-- Runs a handler on an interaction, outside of any router. -/
def run (x : Exchange) (h : Handler) (i : Interaction) : Exchange :=
  x.record ((h x.session.view i).map (Effect.entry none))

/-- Calls a callback with an interaction. -/
def call (i : Interaction) (x : Exchange) : Callback → Exchange
  | .router ticket r => if ticket ∈ x.live then (x.dispatch r i).2 else x
  | .observer tag => x.record [.note (.observed tag i.id)]

/-- Delivers an interaction to the callbacks that are installed, in the order of installation. -/
def deliver (x : Exchange) (i : Interaction) : Except SessionError Exchange :=
  if x.session.isOpen then
    let callbacks := x.session.callbacks
    .ok (callbacks.foldl (call i) (x.report (.delivering i.id callbacks.length)))
  else .error .notConnected

/-! ## Tickets -/

/-- Hands out a ticket, which is not live yet. -/
def issue (x : Exchange) : Nat × Exchange := (x.tickets, { x with tickets := x.tickets + 1 })

/-- Makes a ticket live. -/
def enliven (x : Exchange) (ticket : Nat) : Exchange := { x with live := ticket :: x.live }

/-- Withdraws a ticket. -/
def withdraw (x : Exchange) (ticket : Nat) : Exchange :=
  { x with live := x.live.filter (· != ticket) }

/-! ## The journal -/

/-- Takes the notes out of the journal. -/
def takeNotes (x : Exchange) : List Note × Exchange :=
  (x.journal.filterMap Entry.note?, { x with journal := x.journal.filter (·.note?.isNone) })

/-- Takes the journal. -/
def takeJournal (x : Exchange) : List Entry × Exchange := (x.journal, { x with journal := [] })

end Exchange

end CommandRouter

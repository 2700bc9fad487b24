import CommandRouter.Bot.Basic
import CommandRouter.Bot.Exchange

/-!
# Serving

A bot goes live in one piece: its router is installed, the session is opened, and its commands are
published. Only then does it receive interactions. If anything fails after the session was opened,
the session is closed again. A live bot can be stopped, after which it receives nothing, even if the
session could not be closed. `Bot.runUntil` goes live, does some work and stops.
-/

namespace CommandRouter

/-- A bot that is live; its routes do not change any more. -/
structure LiveBot where
  /-- The ticket of its router. -/
  ticket : Nat
  /-- Where its commands are visible. -/
  scope : Scope
  /-- Its handlers and middlewares. -/
  router : Router
  /-- Its commands as the platform stores them. -/
  commands : List ApplicationCommand

namespace Exchange

/-- Closes the session after a start that failed; a failure of this is only reported. -/
def abandon (x : Exchange) : Exchange :=
  match x.close with
  | .ok x => x
  | .error e => x.report (.cleanupFailed e)

end Exchange

namespace Bot

/-- Goes live on an open session. -/
def publish (b : Bot) (ticket : Nat) (x : Exchange) : Except BotError LiveBot × Exchange :=
  match x.session.application? with
  | none => (.error .applicationUnknown, x.abandon)
  | some application =>
    match x.publish application b.scope b.commands with
    | .error e => (.error (.publishFailed e), x.abandon)
    | .ok (stored, x) =>
      (.ok ⟨ticket, b.scope, b.router, stored⟩,
        (x.report (.commandsPublished stored.length b.scope)).enliven ticket)

/-- Goes live. -/
def serve (b : Bot) (x : Exchange) : Except BotError LiveBot × Exchange :=
  let (ticket, x) := x.issue
  let x := x.install (.router ticket b.router)
  match x.open with
  | .error e => (.error (.openFailed e), x)
  | .ok x => b.publish ticket x

end Bot

namespace LiveBot

/-- Stops: the bot receives nothing any more, and the session is closed. -/
def close (b : LiveBot) (x : Exchange) : Except BotError Unit × Exchange :=
  let x := x.withdraw b.ticket
  match x.close with
  | .error e => (.error (.closeFailed e), x)
  | .ok x => (.ok (), x.report .servingEnded)

end LiveBot

/-! ## Running -/

/-- What came of a run. -/
structure Run (α : Type) where
  /-- What the work gave, if the bot went live. -/
  work : Option α
  /-- Whether the bot went live and stopped. -/
  result : Except BotError Unit
  /-- The exchange in the end. -/
  exchange : Exchange

namespace Bot

variable {α : Type}

/-- Goes live, does the work and stops. If the bot cannot go live, the work is not done. -/
def runUntil (b : Bot) (work : Exchange → α × Exchange) (x : Exchange) : Run α :=
  match b.serve x with
  | (.error e, x) => ⟨none, .error e, x⟩
  | (.ok live, x) =>
    let (done, x) := work (x.report (.running live.commands.length live.scope))
    match live.close x with
    | (.error e, x) => ⟨some done, .error e, x⟩
    | (.ok (), x) => ⟨some done, .ok (), x.report .stopped⟩

/-- Goes live, waits for a signal and stops. -/
def runUntilSignal (b : Bot) (signal : Signal) (x : Exchange) : Run Unit :=
  b.runUntil (fun x => ((), x.report (.signalled signal))) (x.report .waiting)

end Bot

end CommandRouter

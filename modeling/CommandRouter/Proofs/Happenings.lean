import CommandRouter.Proofs.Delivery
import CommandRouter.Proofs.GoingLive
import CommandRouter.Scenario.Host

/-!
# What happens to bots

The history of a scenario, as far as it concerns which bots receive interactions. A bot is known by
its ticket, for its name may be given to another one. What is recorded are attempts to go live and
their results, orders to stop and their results, and the successful closings of the session, by
whomever it was closed. The steps inside a run take their place in the history between its beginning
and its end.
-/

namespace CommandRouter

/-- Something that decides which bots receive interactions. -/
inductive Happening where
  /-- The bot with the ticket and the router went live. -/
  | served (ticket : Nat) (r : Router)
  /-- The bot that had been given the ticket did not go live. -/
  | failed (ticket : Nat)
  /-- The bot with the ticket was told to stop. -/
  | stopped (ticket : Nat)
  /-- The session was closed. -/
  | disconnected

/-- The bot with the ticket and the router went live, and since then it was not told to stop and the
session was not closed. -/
def Standing (log : List Happening) (ticket : Nat) (r : Router) : Prop :=
  ∃ before after, log = before ++ .served ticket r :: after ∧
    .stopped ticket ∉ after ∧ .disconnected ∉ after

/-- What happens when a bot is to go live. A start that fails after the session was opened closes it
again if it can. -/
def Bot.happenings (b : Bot) (x : Exchange) : List Happening :=
  match b.serve x with
  | (.ok live, _) => [.served live.ticket live.router]
  | (.error (.openFailed _), _) => [.failed x.issue.1]
  | (.error _, x') => .failed x.issue.1 :: if x'.session.isOpen then [] else [.disconnected]

/-- What happens when a live bot is told to stop. -/
def LiveBot.happenings (b : LiveBot) (x : Exchange) : List Happening :=
  .stopped b.ticket ::
    match b.close x with
    | (.ok (), _) => [.disconnected]
    | (.error _, _) => []

/-- What happens when a bot is run, where something happens during its run. -/
def Bot.runHappenings (b : Bot) (during : Exchange → List Happening × Exchange) (x : Exchange) :
    List Happening :=
  b.happenings x ++
    match b.serve x with
    | (.error _, _) => []
    | (.ok live, x) =>
      let (log, x) := during (x.report (.running live.commands.length live.scope))
      log ++ live.happenings x

namespace Scenario.Host

/-- The host when a bot has gone live and its run begins. -/
def running (h : Host) (name : String) (live : LiveBot) (x : Exchange) : Host :=
  { h with
    exchange := x.report (.running live.commands.length live.scope)
    building := remove name h.building }

/-- The host when the run of a bot ends: it is told to stop. -/
def ended (h : Host) (live : LiveBot) : Host :=
  { h with
    exchange :=
      match live.close h.exchange with
      | (.ok (), x) => x.report .stopped
      | (.error _, x) => x }

section Runs

variable {h : Host} {name : String} {b : Bot} {live : LiveBot} {x : Exchange} {e : BotError}

/-- A run begins with the host on which the bot has gone live and ends with the order to stop. -/
theorem runUntil_of_serve (hb : h.building.lookup name = some b)
    (hserve : b.serve h.exchange = (.ok live, x)) (work : Host → List Report × Host) :
    h.runUntil name work =
      (.ended (live.close (work (h.running name live x)).2.exchange).1,
        (work (h.running name live x)).1, (work (h.running name live x)).2.ended live) := by
  simp only [runUntil, hb, Bot.runUntil, hserve, running, ended]
  generalize work _ = worked
  obtain ⟨reports, h'⟩ := worked
  cases hclose : live.close h'.exchange with
  | mk result x' => cases result <;> rfl

/-- Without a bot that has gone live there is no run. -/
theorem runUntil_of_serve_error (hb : h.building.lookup name = some b)
    (hserve : b.serve h.exchange = (.error e, x)) (work : Host → List Report × Host) :
    h.runUntil name work =
      (.ended (.error e), [], { h with exchange := x, building := remove name h.building }) := by
  simp only [runUntil, hb, Bot.runUntil, hserve]

/-- A host that runs a bot is left with the exchange that the run leaves. -/
theorem exchange_runUntil (h : Host) (name : String) (work : Host → List Report × Host) :
    (h.runUntil name work).2.2.exchange =
      match h.building.lookup name with
      | none => h.exchange
      | some b =>
        (b.runUntil (fun exchange =>
          let (reports, h) := work { h with exchange, building := remove name h.building }
          ((reports, h), h.exchange)) h.exchange).exchange := by
  unfold runUntil
  cases h.building.lookup name with
  | none => rfl
  | some b =>
    simp only
    split <;> rfl

end Runs

mutual

/-- What happens in a step. -/
def happenings (h : Host) : Step → List Happening
  | .serve name =>
    match h.building.lookup name with
    | none => []
    | some b => b.happenings h.exchange
  | .close name =>
    match h.serving.lookup name with
    | none => []
    | some live => live.happenings h.exchange
  | .runUntil name during =>
    match h.building.lookup name with
    | none => []
    | some b =>
      b.runHappenings (fun exchange =>
        let h := { h with exchange, building := remove name h.building }
        (h.allHappenings during, (h.steps during).2.exchange)) h.exchange
  | .runUntilSignal name signal =>
    match h.building.lookup name with
    | none => []
    | some b =>
      b.runHappenings (fun x => ([], x.report (.signalled signal))) (h.exchange.report .waiting)
  | .closeSession =>
    match h.exchange.close with
    | .ok _ => [.disconnected]
    | .error _ => []
  | _ => []

/-- What happens in steps that are done one after another. -/
def allHappenings (h : Host) : List Step → List Happening
  | [] => []
  | s :: ss => h.happenings s ++ (h.step s).2.allHappenings ss

end

/-- While the steps are done from one host on, the other host comes up between two steps, before the
first or after the last, at any depth of runs; until then the given things happened. -/
inductive Visits : Host → List Step → List Happening → Host → Prop where
  | here {h : Host} {ss : List Step} : Visits h ss [] h
  | after {h h' : Host} {s : Step} {ss : List Step} {log : List Happening}
      (hrest : Visits (h.step s).2 ss log h') : Visits h (s :: ss) (h.happenings s ++ log) h'
  | during {h h' : Host} {name : String} {b : Bot} {live : LiveBot} {x : Exchange}
      {inner ss : List Step} {log : List Happening} (hb : h.building.lookup name = some b)
      (hserve : b.serve h.exchange = (.ok live, x))
      (hinner : Visits (h.running name live x) inner log h') :
      Visits h (.runUntil name inner :: ss) (b.happenings h.exchange ++ log) h'

/-- When all steps are done, all that happens in them has happened. -/
theorem visits_steps (h : Host) (ss : List Step) :
    h.Visits ss (h.allHappenings ss) (h.steps ss).2 := by
  induction ss generalizing h with
  | nil => exact .here
  | cons s ss ih => exact .after (ih (h.step s).2)

/-- A host at the beginning of a scenario. -/
def initial (application : String) (permissions : List ((String × String) × Permissions)) : Host :=
  { exchange := { session := { applicationId := application, permissionTable := permissions } } }

end Scenario.Host

end CommandRouter

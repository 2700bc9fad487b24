import CommandRouter.Proofs.Runs
import CommandRouter.Proofs.Sightings
import CommandRouter.Proofs.Steps
import Mathlib.Data.List.Flatten

/-!
# Who caused an event

Every event in the journal carries the key of the command that was being handled when it was
reported, or no key. While a router works on an interaction, all that its middlewares, their
services and its handler report carries the key of this interaction, at any depth of the chain and
however often a part of the chain is run, also where a middleware went on with another interaction.
Everything that is reported between interactions carries no key. So a scenario is told by its
journal in *episodes*: those in which a router works on an interaction, in the order in which the
interactions come, and those between them.
-/

namespace CommandRouter

/-- The event of an effect that is one. -/
def Effect.event? : Effect → Option Event
  | event e => some e
  | _ => none

theorem Effect.event?_entry (e : Effect) (key : Option DispatchKey) :
    (e.entry key).event? = e.event?.map fun event => (event, key) := by
  cases e <;> rfl

/-- What is reported on behalf of a command carries its key. -/
theorem Effect.filterMap_event?_entry (es : List Effect) (key : Option DispatchKey) :
    (es.map (entry key)).filterMap Entry.event? =
      (es.filterMap event?).map fun event => (event, key) := by
  rw [List.filterMap_map, List.map_filterMap]
  exact List.filterMap_congr fun e _ => e.event?_entry key

/-! ## Routings -/

/-- A router works on an interaction, while the session answers its handlers in this way. -/
structure Routing where
  /-- The router. -/
  router : Router
  /-- What the session answers. -/
  view : SessionView
  /-- The interaction. -/
  interaction : Interaction

namespace Routing

/-- What is reported, each event with the key that it carries. -/
def reported (r : Routing) : List (Event × Option DispatchKey) :=
  (r.router.dispatch r.view r.interaction).2.filterMap Entry.event?

/-- What a routing may report: one event without a key if the interaction has no command, one with
the key of the command if there is no handler for it, and else the events of the chain, all with the
key of the command. -/
inductive Reports (r : Routing) : List (Event × Option DispatchKey) → Prop where
  | ignored (hcommand : r.interaction.command? = none) {e : Event} (hlevel : e.level = .debug) :
      Reports r [(e, none)]
  | missing {d : CommandData} (hcommand : r.interaction.command? = some d)
      (hhandler : r.router.handler? d.key = none) {e : Event} (hlevel : e.level = .debug) :
      Reports r [(e, some d.key)]
  | handled {d : CommandData} {h : Handler} (hcommand : r.interaction.command? = some d)
      (hhandler : r.router.handler? d.key = some h) :
      Reports r (((Middleware.chain r.router.middlewares h r.view r.interaction).filterMap
        Effect.event?).map fun e => (e, some d.key))

theorem reports_reported (r : Routing) : r.Reports r.reported := by
  unfold reported Router.dispatch
  cases hcommand : r.interaction.command? with
  | none => exact .ignored hcommand rfl
  | some d =>
    cases hhandler : r.router.handler? d.key with
    | none =>
      simp only [hhandler]
      exact .missing hcommand hhandler rfl
    | some h =>
      simp only [hhandler, Effect.filterMap_event?_entry]
      exact .handled hcommand hhandler

/-- No other key is carried than that of the command of the interaction. -/
theorem Reports.key_eq {r : Routing} {reports : List (Event × Option DispatchKey)} {e : Event}
    {key : DispatchKey} (h : r.Reports reports) (hmem : (e, some key) ∈ reports) :
    ∃ d, r.interaction.command? = some d ∧ key = d.key := by
  cases h with
  | ignored => simp at hmem
  | @missing d hcommand =>
    obtain ⟨-, hkey⟩ := Prod.mk.inj (List.mem_singleton.mp hmem)
    exact ⟨d, hcommand, Option.some.inj hkey⟩
  | @handled d _ hcommand =>
    obtain ⟨e', -, heq⟩ := List.mem_map.mp hmem
    exact ⟨d, hcommand, (Option.some.inj (Prod.mk.inj heq).2).symm⟩

end Routing

/-! ## Inside of a chain -/

/-- What is done in the calls of a plan is done in the plan, in the same order. -/
theorem Plan.flatMap_calls_sublist {α : Type} (next : Handler) (plan : Plan α) :
    ((plan.calls next).flatMap fun c => next c.1 c.2).Sublist (plan.effects next) := by
  induction plan with
  | done a => exact .slnil
  | act e rest ih => exact ih.cons e
  | run view i rest ih =>
    rw [calls, effects, List.flatMap_cons]
    exact (ih (next view i)).append_left _

namespace Stage

/-- What is done each time the inside of a chain is reached is done in the chain. -/
theorem flatMap_passes_sublist (h : Handler) (ss : List Stage) (view : SessionView)
    (i : Interaction) :
    ((passes h ss view i).flatMap fun c => h c.1 c.2).Sublist (chain ss h view i) := by
  induction ss generalizing view i with
  | nil =>
    rw [passes, List.flatMap_singleton]
    exact .refl _
  | cons s ss ih =>
    rw [passes_cons, chain_cons, List.flatMap_assoc]
    exact (List.Sublist.flatMap_right _ fun c _ => ih c.1 c.2).trans
      (Plan.flatMap_calls_sublist _ _)

/-- What is reported each time an inner part of the chain is reached carries the key of the command,
whatever interaction it is reached with. -/
theorem reported_inside {handlers : List (DispatchKey × Handler)} {outer inner : List Stage}
    {view : SessionView} {i : Interaction} {d : CommandData} {h : Handler}
    (hcommand : i.command? = some d) (hhandler : handlers.lookup d.key = some h) :
    ((((passes (chain inner h) outer view i).flatMap fun c => chain inner h c.1 c.2).filterMap
      Effect.event?).map fun e => (e, some d.key)).Sublist
      (Routing.mk (router handlers (outer ++ inner)) view i).reported := by
  have hdispatch : (router handlers (outer ++ inner)).dispatch view i =
      (true, (chain (outer ++ inner) h view i).map (Effect.entry (some d.key))) := by
    rw [Router.dispatch, hcommand]
    have hfound : (router handlers (outer ++ inner)).handler? d.key = some h := hhandler
    simp only [hfound]
    rfl
  rw [Routing.reported, hdispatch, Effect.filterMap_event?_entry, chain_append]
  exact ((flatMap_passes_sublist (chain inner h) outer view i).filterMap _).map _

end Stage

/-! ## Episodes -/

/-- What is reported in one go. -/
inductive Episode where
  /-- Events are reported while no router works on an interaction. -/
  | between (es : List Event)
  /-- A router works on an interaction. -/
  | routing (r : Routing)

namespace Episode

/-- What is reported, each event with the key that it carries. -/
def reported : Episode → List (Event × Option DispatchKey)
  | between es => es.map fun e => (e, none)
  | routing r => r.reported

/-- The routing of an episode that is one. -/
def routing? : Episode → Option Routing
  | between _ => none
  | routing r => some r

end Episode

/-- The routings in a run of a bot, where these take place during its work. -/
def Bot.runRoutings (b : Bot) (during : Exchange → List Routing) (x : Exchange) : List Routing :=
  match b.serve x with
  | (.error _, _) => []
  | (.ok live, x) => during (x.report (.running live.commands.length live.scope))

theorem Bot.runRoutings_nil (b : Bot) (x : Exchange) : b.runRoutings (fun _ => []) x = [] := by
  unfold runRoutings
  split <;> rfl

namespace Exchange

/-- The events in the journal, each with the key that it carries. -/
def events (x : Exchange) : List (Event × Option DispatchKey) := x.journal.filterMap Entry.event?

/-- From the one exchange to the other these routings take place, in this order, and what is
reported besides is reported between them. -/
def Proceeds (x : Exchange) (rs : List Routing) (x' : Exchange) : Prop :=
  ∃ episodes : List Episode, x'.events = x.events ++ episodes.flatMap Episode.reported ∧
    episodes.filterMap Episode.routing? = rs

variable {x x' x'' : Exchange} {rs rs' : List Routing}

theorem events_record (x : Exchange) (entries : List Entry) :
    (x.record entries).events = x.events ++ entries.filterMap Entry.event? := List.filterMap_append

theorem events_report (x : Exchange) (e : Event) : (x.report e).events = x.events ++ [(e, none)] :=
  x.events_record _

theorem events_takeNotes (x : Exchange) : x.takeNotes.2.events = x.events := by
  show (x.journal.filter _).filterMap Entry.event? = x.journal.filterMap Entry.event?
  rw [List.filterMap_filter]
  refine List.filterMap_congr fun entry _ => ?_
  cases entry <;> rfl

theorem events_dispatch (x : Exchange) (r : Router) (i : Interaction) :
    (x.dispatch r i).2.events = x.events ++ (Routing.mk r x.session.view i).reported :=
  x.events_record _

namespace Proceeds

theorem silent (h : x'.events = x.events) : Proceeds x [] x' := ⟨[], by simp [h], rfl⟩

theorem refl (x : Exchange) : Proceeds x [] x := silent rfl

theorem trans (h : Proceeds x rs x') (h' : Proceeds x' rs' x'') : Proceeds x (rs ++ rs') x'' := by
  obtain ⟨episodes, hevents, rfl⟩ := h
  obtain ⟨episodes', hevents', rfl⟩ := h'
  refine ⟨episodes ++ episodes', ?_, List.filterMap_append⟩
  rw [hevents', hevents, List.flatMap_append, List.append_assoc]

/-- Nothing is routed in the second part. -/
theorem andThen (h : Proceeds x rs x') (h' : Proceeds x' [] x'') : Proceeds x rs x'' := by
  have := h.trans h'
  rwa [List.append_nil] at this

/-- Nothing is routed, and no event carries a key. -/
theorem ofBetween (es : List Event) (h : x'.events = x.events ++ es.map fun e => (e, none)) :
    Proceeds x [] x' := ⟨[.between es], by simpa [Episode.reported] using h, rfl⟩

theorem report (x : Exchange) (e : Event) : Proceeds x [] (x.report e) :=
  ofBetween [e] (x.events_report e)

theorem dispatch (x : Exchange) (r : Router) (i : Interaction) :
    Proceeds x [⟨r, x.session.view, i⟩] (x.dispatch r i).2 :=
  ⟨[.routing ⟨r, x.session.view, i⟩], by simp [events_dispatch, Episode.reported], rfl⟩

/-- What a handler does outside of any router is reported without a key. -/
theorem run (x : Exchange) (h : Handler) (i : Interaction) : Proceeds x [] (x.run h i) := by
  refine ofBetween ((h x.session.view i).filterMap Effect.event?) ?_
  rw [Exchange.run, events_record, Effect.filterMap_event?_entry]

/-! ## The connection -/

theorem ofOpen (h : x.open = .ok x') : Proceeds x [] x' := by
  obtain ⟨-, -, rfl⟩ := open_eq_ok_iff.mp h
  exact report _ _

theorem ofClose (h : x.close = .ok x') : Proceeds x [] x' := by
  obtain ⟨-, -, rfl⟩ := close_eq_ok_iff.mp h
  exact report _ _

theorem ofPublish {application : String} {scope : Scope} {cs stored : List ApplicationCommand}
    (h : x.publish application scope cs = .ok (stored, x')) : Proceeds x [] x' := by
  obtain ⟨⟨cs', s⟩, -, heq⟩ := map_eq_ok_iff.mp h
  cases heq
  exact silent rfl

theorem abandon (x : Exchange) : Proceeds x [] x.abandon := by
  unfold Exchange.abandon
  split
  · rename_i hclose
    exact ofClose hclose
  · exact report x _

/-- An attempt to go live routes nothing. -/
theorem serve (b : Bot) (x : Exchange) : Proceeds x [] (b.serve x).2 := by
  have hprepared : Proceeds x [] (b.prepared x) := silent rfl
  have hopened : Proceeds x [] (b.opened x) := report (b.prepared x) _
  have hattempt := b.attempt_serve x
  generalize b.serve x = result at hattempt
  cases hattempt with
  | openFailed => exact hprepared
  | applicationUnknown | publishFailed => exact hopened.trans (abandon _)
  | live => exact hopened.trans (report (b.opened x) _)

theorem stop (live : LiveBot) (x : Exchange) : Proceeds x [] (live.close x).2 := by
  have hwithdrawn : Proceeds x [] (x.withdraw live.ticket) := silent rfl
  cases hclose : (x.withdraw live.ticket).close with
  | error e =>
    rw [LiveBot.close_of_error hclose]
    exact hwithdrawn
  | ok x' =>
    rw [LiveBot.close_of_ok hclose]
    exact (hwithdrawn.trans (ofClose hclose)).trans (report x' _)

/-- A run routes what is routed in its work, and nothing if the bot cannot go live. -/
theorem runUntil {α : Type} (b : Bot) {work : Exchange → α × Exchange}
    {rs : Exchange → List Routing} (hwork : ∀ x, Proceeds x (rs x) (work x).2) (x : Exchange) :
    Proceeds x (b.runRoutings rs x) (b.runUntil work x).exchange := by
  have hserved := serve b x
  unfold Bot.runRoutings Bot.runUntil
  generalize b.serve x = served at hserved
  obtain ⟨result, x'⟩ := served
  cases result with
  | error e => exact hserved
  | ok live =>
    have hrunning := hserved.trans (report x' (.running live.commands.length live.scope))
    have hworked := hrunning.trans (hwork _)
    simp only
    generalize work (x'.report (.running live.commands.length live.scope)) = worked at hworked
    have hstopped := hworked.andThen (stop live worked.2)
    generalize live.close worked.2 = stopped at hstopped
    obtain ⟨result, x''⟩ := stopped
    cases result with
    | error e => exact hstopped
    | ok done => exact hstopped.andThen (report x'' .stopped)

end Proceeds

/-! ## Deliveries -/

/-- The callbacks report what the live routers among them do. -/
theorem filterMap_event?_doings (x : Exchange) (i : Interaction) (cs : List Callback) :
    (cs.flatMap (x.doings i)).filterMap Entry.event? =
      (cs.filterMap x.liveRouter?).flatMap fun r =>
        (Routing.mk r.2 x.session.view i).reported := by
  induction cs with
  | nil => rfl
  | cons c cs ih =>
    rw [List.flatMap_cons, List.filterMap_append, ih]
    cases hc : x.liveRouter? c with
    | none =>
      rw [List.filterMap_cons_none hc, doings_of_liveRouter?_eq_none hc]
      cases c <;> rfl
    | some r =>
      rw [List.filterMap_cons_some hc, (doings_of_liveRouter? hc).2]
      rfl

/-- A delivery is reported without a key, and then each router that it enters works on the
interaction. -/
theorem events_deliver {i : Interaction} (h : x.deliver i = .ok x') :
    x'.events = x.events ++ (.delivering i.id x.session.callbacks.length, none) ::
      (x.entered i).flatMap fun r => (Routing.mk r.2 x.session.view i).reported := by
  cases hopen : x.session.isOpen with
  | false => simp [deliver, hopen] at h
  | true =>
    rw [deliver_of_isOpen hopen] at h
    cases h
    rw [events_record, entered_eq, if_pos hopen, List.filterMap_cons, filterMap_event?_doings]
    rfl

theorem Proceeds.deliver {i : Interaction} (h : x.deliver i = .ok x') :
    Proceeds x ((x.entered i).map fun r => ⟨r.2, x.session.view, i⟩) x' := by
  refine ⟨.between [.delivering i.id x.session.callbacks.length] ::
    (x.entered i).map fun r => .routing ⟨r.2, x.session.view, i⟩, ?_, ?_⟩
  · rw [events_deliver h, List.flatMap_cons, List.flatMap_map]
    rfl
  · rw [List.filterMap_cons_none rfl, List.filterMap_map]
    exact congrFun List.filterMap_eq_map _

end Exchange

/-! ## Scenarios -/

namespace Scenario.Host

open Exchange

mutual

/-- The routings that take place in a step, in order. -/
def routings (h : Host) : Step → List Routing
  | .dispatch name i => (h.router? name).toList.map fun r => ⟨r, h.exchange.session.view, i⟩
  | .deliver i => (h.exchange.entered i).map fun r => ⟨r.2, h.exchange.session.view, i⟩
  | .runUntil name during =>
    match h.building.lookup name with
    | none => []
    | some b =>
      b.runRoutings (fun exchange =>
        let h := { h with exchange, building := remove name h.building }
        h.allRoutings during) h.exchange
  | _ => []

/-- The routings that take place in steps that are done one after another. -/
def allRoutings (h : Host) : List Step → List Routing
  | [] => []
  | s :: ss => h.routings s ++ (h.step s).2.allRoutings ss

end

variable {h : Host}

theorem proceeds_report (h : Host) (outcome : Outcome) (during : List Report) :
    Proceeds h.exchange [] (h.report outcome during).2.exchange :=
  .silent h.exchange.events_takeNotes

/-- An attempt that routes nothing if it succeeds. -/
theorem proceeds_attempt {result : Except SessionError Exchange}
    (hresult : ∀ x, result = .ok x → Proceeds h.exchange [] x) :
    Proceeds h.exchange [] (h.attempt result).2.exchange := by
  cases result with
  | error e => exact .refl _
  | ok x => exact hresult x rfl

theorem proceeds_handle (h : Host) (name pattern : String) (handler : Handler) :
    Proceeds h.exchange [] (h.handle name pattern handler).2.exchange := by
  unfold Host.handle
  split
  · exact .refl _
  · split
    · exact .refl _
    · exact (Proceeds.report _ _).trans (.report _ _)

theorem proceeds_use (h : Host) (name : String) (ms : List Middleware) :
    Proceeds h.exchange [] (h.use name ms).2.exchange := by
  unfold Host.use
  split <;> exact .refl _

theorem proceeds_dispatch (h : Host) (name : String) (i : Interaction) :
    Proceeds h.exchange (h.routings (.dispatch name i)) (h.dispatch name i).2.exchange := by
  unfold routings Host.dispatch
  cases h.router? name with
  | none => exact .refl _
  | some r => exact .dispatch h.exchange r i

theorem proceeds_deliver (h : Host) (i : Interaction) :
    Proceeds h.exchange (h.routings (.deliver i))
      (h.attempt (h.exchange.deliver i)).2.exchange := by
  unfold routings
  cases hdeliver : h.exchange.deliver i with
  | ok x => exact .deliver hdeliver
  | error e =>
    -- A session that is closed enters no router.
    have hclosed : h.exchange.entered i = [] := by
      unfold Exchange.deliver at hdeliver
      split at hdeliver
      · cases hdeliver
      · rename_i hclosed
        rw [entered, if_neg hclosed]
    rw [hclosed]
    exact .refl _

theorem proceeds_serve (h : Host) (name : String) :
    Proceeds h.exchange [] (h.serve name).2.exchange := by
  rw [Host.serve]
  cases h.building.lookup name with
  | none => exact .refl _
  | some b =>
    have hserved := Proceeds.serve b h.exchange
    simp only
    generalize b.serve h.exchange = served at hserved
    obtain ⟨result, x⟩ := served
    cases result <;> exact hserved

theorem proceeds_close (h : Host) (name : String) :
    Proceeds h.exchange [] (h.close name).2.exchange := by
  rw [Host.close]
  cases h.serving.lookup name with
  | none => exact .refl _
  | some live => exact .stop live h.exchange

/-- A run routes what is routed in its work. -/
theorem proceeds_runUntil (h : Host) (name : String) {during : List Step}
    (hduring : ∀ h : Host, Proceeds h.exchange (h.allRoutings during) (h.steps during).2.exchange) :
    Proceeds h.exchange (h.routings (.runUntil name during))
      (h.runUntil name fun h => h.steps during).2.2.exchange := by
  rw [routings, exchange_runUntil]
  cases h.building.lookup name with
  | none => exact .refl _
  | some b => exact .runUntil b (fun _ => hduring _) h.exchange

theorem proceeds_runUntilSignal (h : Host) (name : String) (signal : Signal) :
    Proceeds h.exchange [] (h.runUntilSignal name signal).2.exchange := by
  rw [Host.runUntilSignal]
  cases h.building.lookup name with
  | none => exact .refl _
  | some b =>
    have hrun : Proceeds (h.exchange.report .waiting) (b.runRoutings (fun _ => []) _)
        (b.runUntilSignal signal h.exchange).exchange := .runUntil b (fun x => .report x _) _
    rw [Bot.runRoutings_nil] at hrun
    exact (Proceeds.report _ .waiting).trans hrun

/-- A step without steps inside it. -/
theorem proceeds_act (h : Host) {s : Step} (hplain : ∀ name during, s ≠ .runUntil name during) :
    Proceeds h.exchange (h.routings s) (h.act s).2.exchange := by
  cases s with
  | runUntil name during => exact absurd rfl (hplain name during)
  | dispatch name i => exact h.proceeds_dispatch name i
  | deliver i => exact h.proceeds_deliver i
  | handle name pattern handler => exact h.proceeds_handle name pattern handler
  | use name ms => exact h.proceeds_use name ms
  | chain ms handler i => exact .run h.exchange _ i
  | serve name => exact h.proceeds_serve name
  | close name => exact h.proceeds_close name
  | runUntilSignal name signal => exact h.proceeds_runUntilSignal name signal
  | openSession => exact proceeds_attempt fun x => .ofOpen
  | closeSession => exact proceeds_attempt fun x => .ofClose
  | publish application scope commands =>
    rw [Host.act]
    split
    · rename_i hpublish
      exact .ofPublish hpublish
    · exact .refl _
  | permissions user channel =>
    rw [Host.act]
    split <;> exact .refl _
  | _ => exact .silent rfl

mutual

/-- A step, with all that is done inside it: the induction is on the nesting of runs. -/
theorem proceeds_step (h : Host) (s : Step) :
    Proceeds h.exchange (h.routings s) (h.step s).2.exchange := by
  cases s with
  | runUntil name during =>
    rw [Host.step]
    exact (h.proceeds_runUntil name fun h => h.proceeds_steps during).andThen
      (proceeds_report _ _ _)
  | _ =>
    rw [step_eq_report h fun _ _ hs => by cases hs]
    exact (h.proceeds_act fun _ _ hs => by cases hs).andThen (proceeds_report _ _ _)

theorem proceeds_steps (h : Host) (ss : List Step) :
    Proceeds h.exchange (h.allRoutings ss) (h.steps ss).2.exchange := by
  cases ss with
  | nil => exact .refl _
  | cons s ss =>
    rw [Host.steps, allRoutings]
    exact (h.proceeds_step s).trans ((h.step s).2.proceeds_steps ss)

end

/-- Every event is attributed to the interaction that caused it. A scenario is told in episodes: the
routings that its steps call for, in order, and what is reported between them, which carries no key.
A step that routes an interaction reports what its routing does and nothing else; a delivery is
reported first and then does the same for each router that it enters. A routing reports one event
without a key for an interaction that has no command, one with the key of the command if there is no
handler, and else what the chain reports, all with this key and none with another. In a chain of
stages this includes all that an inner part of it reports, each time that it is reached and with
whatever interaction. -/
theorem events_attributed (h : Host) (ss : List Step) :
    Proceeds h.exchange (h.allRoutings ss) (h.steps ss).2.exchange ∧
    (∀ name i r, h.router? name = some r →
      (h.step (.dispatch name i)).2.exchange.events =
        h.exchange.events ++ (Routing.mk r h.exchange.session.view i).reported) ∧
    (∀ i, h.exchange.session.isOpen = true →
      (h.step (.deliver i)).2.exchange.events =
        h.exchange.events ++ (.delivering i.id h.exchange.session.callbacks.length, none) ::
          (h.exchange.entered i).flatMap fun r =>
            (Routing.mk r.2 h.exchange.session.view i).reported) ∧
    (∀ r : Routing, r.Reports r.reported ∧
      ∀ e key, (e, some key) ∈ r.reported →
        ∃ d, r.interaction.command? = some d ∧ key = d.key) ∧
    ∀ handlers (outer inner : List Stage) view i d handler, i.command? = some d →
      handlers.lookup d.key = some handler →
      ((((Stage.passes (Stage.chain inner handler) outer view i).flatMap fun c =>
        Stage.chain inner handler c.1 c.2).filterMap Effect.event?).map
          fun e => (e, some d.key)).Sublist
        (Routing.mk (Stage.router handlers (outer ++ inner)) view i).reported := by
  refine ⟨h.proceeds_steps ss, fun name i r hr => ?_, fun i hopen => ?_,
    fun r => ⟨r.reports_reported, fun e key => r.reports_reported.key_eq⟩,
    fun handlers outer inner view i d handler => Stage.reported_inside⟩
  · have hdispatch : (h.act (.dispatch name i)).2.exchange = (h.exchange.dispatch r i).2 := by
      rw [Host.act, Host.dispatch, hr]
    rw [step_eq_report h fun _ _ hs => by cases hs]
    show ((h.act (.dispatch name i)).2.exchange.takeNotes.2).events = _
    rw [events_takeNotes, hdispatch, events_dispatch]
  · obtain ⟨x, hdeliver⟩ : ∃ x, h.exchange.deliver i = .ok x := ⟨_, deliver_of_isOpen hopen i⟩
    have hact : (h.act (.deliver i)).2.exchange = x := by
      rw [Host.act, hdeliver]
      rfl
    rw [step_eq_report h fun _ _ hs => by cases hs]
    show ((h.act (.deliver i)).2.exchange.takeNotes.2).events = _
    rw [events_takeNotes, hact, events_deliver hdeliver]

/-- A chain that runs its inner part twice, where a layer fails after another one has put a new
interaction in the place of the one that came. After it come a command without a handler and an
interaction without a command, which is delivered. -/
theorem events_attributed_one_after_another :
    let other : Interaction := .ofCommand "9" (.ofOptions "other" [])
    let twice : List Middleware :=
      [.bracket "b" 2, Layer.middleware (.mapRequest fun _ => other), .logger, .failing "broken"]
    let script : List Step :=
      [.begin "m" .everywhere, .handle "m" "/ping" (.record "h"), .use "m" twice,
        .dispatch "m" (.ofCommand "1" (.ofOptions "ping" [])), .serve "m",
        .dispatch "m" (.ofCommand "2" (.ofOptions "pong" [])),
        .deliver { id := "3", kind := .ping }]
    let h := initial "app" []
    let last : Host := (h.steps script).2
    (h.allRoutings script).map (·.interaction.id) = ["1", "2", "3"] ∧
      Proceeds h.exchange (h.allRoutings script) last.exchange ∧
      last.exchange.events =
        [(.patternAdded ⟨"/ping"⟩, none), (.handlerRegistered ⟨"/ping"⟩, none),
          (.interactionSeen "-" "-", some ⟨"/ping"⟩), (.layerFailed "broken", some ⟨"/ping"⟩),
          (.interactionSeen "-" "-", some ⟨"/ping"⟩), (.layerFailed "broken", some ⟨"/ping"⟩),
          (.sessionOpened "app", none), (.commandsPublished 1 .everywhere, none),
          (.handlerMissing, some ⟨"/pong"⟩), (.delivering "3" 1, none),
          (.interactionIgnored "3" .ping, none)] := by
  intro other twice script h last
  exact ⟨by decide +kernel, (events_attributed h script).1, by decide +kernel⟩

end Scenario.Host

end CommandRouter

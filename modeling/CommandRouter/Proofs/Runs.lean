import CommandRouter.Proofs.Liveness

/-!
# Runs

A run brackets its work. If the bot cannot go live, nothing of the work is done; otherwise all of it
is, beginning on the host on which the bot went live, and then the session is closed once, whoever
may have opened it. However the run ends, no delivery enters the router of the bot any more. The
work may do anything, run other bots too, but it cannot make a ticket live again that was withdrawn:
tickets are handed out in order, and only a new one is ever made live.
-/

namespace CommandRouter

/-! ## Tickets -/

namespace Exchange

/-- Tickets that were handed out stay handed out, and none that was not live then is live now. -/
structure Onward (x x' : Exchange) : Prop where
  tickets : x.tickets ≤ x'.tickets
  live : ∀ ticket ∈ x'.live, ticket ∈ x.live ∨ x.tickets ≤ ticket

/-- The ticket was handed out and is not live. -/
structure Retired (ticket : Nat) (x : Exchange) : Prop where
  issued : ticket < x.tickets
  dead : ticket ∉ x.live

variable {x x' x'' : Exchange} {ticket : Nat}

namespace Onward

theorem refl (x : Exchange) : Onward x x := ⟨Nat.le_refl _, fun _ => Or.inl⟩

theorem trans (h : Onward x x') (h' : Onward x' x'') : Onward x x'' := by
  refine ⟨Nat.le_trans h.tickets h'.tickets, fun ticket hticket => ?_⟩
  rcases h'.live ticket hticket with hlive | hnew
  · exact h.live ticket hlive
  · exact Or.inr (Nat.le_trans h.tickets hnew)

theorem ofQuiet (h : Quiet x x') : Onward x x' :=
  ⟨Nat.le_of_eq h.tickets.symm, fun _ hticket => Or.inl (h.live ▸ hticket)⟩

theorem close (h : x.close = .ok x') : Onward x x' := by
  obtain ⟨-, -, rfl⟩ := close_eq_ok_iff.mp h
  exact ⟨Nat.le_refl _, fun _ => Or.inl⟩

theorem withdraw (x : Exchange) (ticket : Nat) : Onward x (x.withdraw ticket) :=
  ⟨Nat.le_refl _, fun _ hticket => Or.inl (List.mem_filter.mp hticket).1⟩

theorem abandon (x : Exchange) : Onward x x.abandon := by
  unfold Exchange.abandon
  split
  · rename_i hclose
    exact close hclose
  · exact ofQuiet (.report x _)

/-- An attempt to go live makes at most the ticket live that it hands out. -/
theorem serve (b : Bot) (x : Exchange) : Onward x (b.serve x).2 := by
  have hopened : Onward x (b.opened x) := ⟨Nat.le_succ _, fun _ => Or.inl⟩
  have hattempt := b.attempt_serve x
  generalize b.serve x = result at hattempt
  cases hattempt with
  | openFailed => exact ⟨Nat.le_succ _, fun _ => Or.inl⟩
  | applicationUnknown | publishFailed => exact hopened.trans (abandon _)
  | live =>
    refine ⟨Nat.le_succ _, fun ticket hticket => ?_⟩
    rcases List.mem_cons.mp hticket with rfl | hlive
    · exact Or.inr (Nat.le_refl _)
    · exact Or.inl hlive

theorem stop (live : LiveBot) (x : Exchange) : Onward x (live.close x).2 := by
  have hwithdrawn := withdraw x live.ticket
  cases hclose : (x.withdraw live.ticket).close with
  | error e =>
    rw [LiveBot.close_of_error hclose]
    exact hwithdrawn
  | ok x' =>
    rw [LiveBot.close_of_ok hclose]
    exact (hwithdrawn.trans (close hclose)).trans (ofQuiet (.report x' _))

/-- A run, where the work does so. -/
theorem runUntil {α : Type} (b : Bot) {work : Exchange → α × Exchange}
    (hwork : ∀ x, Onward x (work x).2) (x : Exchange) : Onward x (b.runUntil work x).exchange := by
  have hserved := serve b x
  unfold Bot.runUntil
  generalize b.serve x = served at hserved
  obtain ⟨result, x'⟩ := served
  cases result with
  | error e => exact hserved
  | ok live =>
    have hrunning := hserved.trans (ofQuiet (.report x' (.running live.commands.length live.scope)))
    have hworked := hrunning.trans (hwork _)
    simp only
    generalize work (x'.report (.running live.commands.length live.scope)) = worked at hworked
    have hstopped := hworked.trans (stop live worked.2)
    generalize live.close worked.2 = stopped at hstopped
    obtain ⟨result, x''⟩ := stopped
    cases result with
    | error e => exact hstopped
    | ok done => exact hstopped.trans (ofQuiet (.report x'' .stopped))

end Onward

/-- A ticket that is retired stays so. -/
theorem Retired.onward (h : Retired ticket x) (hon : Onward x x') : Retired ticket x' := by
  refine ⟨Nat.lt_of_lt_of_le h.issued hon.tickets, fun hlive => ?_⟩
  rcases hon.live ticket hlive with hold | hnew
  · exact h.dead hold
  · exact Nat.not_le.mpr h.issued hnew

/-- A ticket that is withdrawn is retired. -/
theorem retired_withdraw (hissued : ticket < x.tickets) : Retired ticket (x.withdraw ticket) :=
  ⟨hissued, fun hlive => by simp [withdraw] at hlive⟩

/-- No delivery enters a router whose ticket is retired. -/
theorem Retired.not_mem_entered (h : Retired ticket x) (i : Interaction) (r : Router) :
    (ticket, r) ∉ x.entered i := by
  rw [entered_eq, liveRouters_eq_filter]
  split
  · exact fun hmem => h.dead (of_decide_eq_true (List.mem_filter.mp hmem).2)
  · exact List.not_mem_nil

end Exchange

/-! ## Attempts to go live -/

namespace Bot

open Exchange

variable {b : Bot} {x x' : Exchange} {live : LiveBot} {e : BotError}

/-- A bot that goes live has the next ticket. -/
theorem eq_of_serve (hserve : b.serve x = (.ok live, x')) :
    live.ticket = x.tickets ∧ live.router = b.router ∧ x.tickets < x'.tickets := by
  have hattempt := b.attempt_serve x
  rw [hserve] at hattempt
  cases hattempt
  exact ⟨rfl, rfl, Nat.lt_succ_self _⟩

/-- If a bot does not go live, the ticket that was handed out to it is not used. -/
theorem retired_of_serve (hnumbered : ∀ ticket ∈ x.live, ticket < x.tickets)
    (hserve : b.serve x = (.error e, x')) : Retired x.tickets x' := by
  have hunused : x.tickets ∉ x.live := fun hmem => Nat.lt_irrefl _ (hnumbered _ hmem)
  have hopened : Retired x.tickets (b.opened x) := ⟨Nat.lt_succ_self _, hunused⟩
  have hattempt := b.attempt_serve x
  rw [hserve] at hattempt
  cases hattempt with
  | openFailed => exact ⟨Nat.lt_succ_self _, hunused⟩
  | applicationUnknown | publishFailed => exact hopened.onward (.abandon _)

/-- An attempt to go live installs at most the router of the bot, under the next ticket. -/
theorem mem_callbacks_serve {c : Callback} (hc : c ∈ (b.serve x).2.session.callbacks) :
    c ∈ x.session.callbacks ∨ c = .router x.tickets b.router := by
  have hprepared : ∀ {c}, c ∈ (b.prepared x).session.callbacks →
      c ∈ x.session.callbacks ∨ c = .router x.tickets b.router := fun hc =>
    (List.mem_append.mp hc).imp_right List.mem_singleton.mp
  have habandoned : ∀ {c}, c ∈ (b.opened x).abandon.session.callbacks →
      c ∈ (b.prepared x).session.callbacks := by
    intro c hc
    cases hfault : (b.opened x).session.faults.closing with
    | none =>
      rw [abandon_of_closable rfl hfault] at hc
      cases hc
    | some e =>
      rw [abandon_of_fault hfault] at hc
      exact hc
  have hattempt := b.attempt_serve x
  generalize b.serve x = result at hattempt hc
  cases hattempt with
  | openFailed | live => exact hprepared hc
  | applicationUnknown | publishFailed => exact hprepared (habandoned hc)

end Bot

/-! ## Scenarios -/

namespace Scenario.Host

open Exchange

theorem onward_serve (h : Host) (name : String) : Onward h.exchange (h.serve name).2.exchange := by
  rw [Host.serve]
  cases h.building.lookup name with
  | none => exact .refl _
  | some b =>
    have hserved := Onward.serve b h.exchange
    simp only
    generalize b.serve h.exchange = served at hserved
    obtain ⟨result, x⟩ := served
    cases result <;> exact hserved

theorem onward_close (h : Host) (name : String) : Onward h.exchange (h.close name).2.exchange := by
  rw [Host.close]
  cases h.serving.lookup name with
  | none => exact .refl _
  | some live => exact .stop live h.exchange

theorem onward_runUntilSignal (h : Host) (name : String) (signal : Signal) :
    Onward h.exchange (h.runUntilSignal name signal).2.exchange := by
  rw [Host.runUntilSignal]
  cases h.building.lookup name with
  | none => exact .refl _
  | some b =>
    exact (Onward.ofQuiet (.report _ .waiting)).trans
      (.runUntil b (fun x => .ofQuiet (.report x _)) _)

theorem onward_ended (h : Host) (live : LiveBot) :
    Onward h.exchange (h.ended live).exchange := by
  have hstopped := Onward.stop live h.exchange
  unfold ended
  generalize live.close h.exchange = stopped at hstopped
  obtain ⟨result, x⟩ := stopped
  cases result with
  | error e => exact hstopped
  | ok done => exact hstopped.trans (.ofQuiet (.report x _))

theorem onward_runUntil (h : Host) (name : String) {work : Host → List Report × Host}
    (hwork : ∀ h : Host, Onward h.exchange (work h).2.exchange) :
    Onward h.exchange (h.runUntil name work).2.2.exchange := by
  cases hb : h.building.lookup name with
  | none =>
    rw [Host.runUntil, hb]
    exact .refl _
  | some b =>
    have hserved := Onward.serve b h.exchange
    cases hserve : b.serve h.exchange with
    | mk result x =>
      rw [hserve] at hserved
      cases result with
      | error e =>
        rw [runUntil_of_serve_error hb hserve]
        exact hserved
      | ok live =>
        have hrunning : Onward h.exchange (h.running name live x).exchange :=
          hserved.trans (.ofQuiet (.report x _))
        rw [runUntil_of_serve hb hserve]
        exact (hrunning.trans (hwork _)).trans (onward_ended _ live)

/-- A step without steps inside it. -/
theorem onward_act (h : Host) {s : Step} (hplain : ∀ name during, s ≠ .runUntil name during) :
    Onward h.exchange (h.act s).2.exchange := by
  by_cases hs : s.Turns
  · cases hs with
    | serve name => exact h.onward_serve name
    | close name => exact h.onward_close name
    | runUntil name during => exact absurd rfl (hplain name during)
    | runUntilSignal name signal => exact h.onward_runUntilSignal name signal
    | closeSession =>
      show Onward h.exchange (h.attempt h.exchange.close).2.exchange
      cases hclose : h.exchange.close with
      | error e => exact .refl _
      | ok x => exact .close hclose
  · exact .ofQuiet (.act h hs)

theorem step_eq_report (h : Host) {s : Step} (hplain : ∀ name during, s ≠ .runUntil name during) :
    h.step s = (h.act s).2.report (h.act s).1 [] := by
  cases s with
  | runUntil name during => exact absurd rfl (hplain name during)
  | _ => rfl

mutual

/-- A step, with all that is done inside it: the induction is on the nesting of runs. -/
theorem onward_step (h : Host) (s : Step) : Onward h.exchange (h.step s).2.exchange := by
  cases s with
  | runUntil name during =>
    rw [Host.step]
    exact (h.onward_runUntil name fun h => h.onward_steps during).trans
      (.ofQuiet (.hostReport _ _ _))
  | _ =>
    rw [step_eq_report h fun _ _ hs => by cases hs]
    exact (h.onward_act fun _ _ hs => by cases hs).trans (.ofQuiet (.hostReport _ _ _))

theorem onward_steps (h : Host) (ss : List Step) : Onward h.exchange (h.steps ss).2.exchange := by
  cases ss with
  | nil => exact .refl _
  | cons s ss =>
    rw [Host.steps]
    exact (h.onward_step s).trans ((h.step s).2.onward_steps ss)

end

/-- The other host comes up later on: by steps that are done, by runs that begin and by the ends of
runs that had begun before. -/
inductive Later (h : Host) : Host → Prop where
  | here : Later h h
  | step {h' : Host} (hlater : Later h h') (s : Step) : Later h (h'.step s).2
  | began {h' : Host} {name : String} {b : Bot} {live : LiveBot} {x : Exchange}
      (hlater : Later h h') (hb : h'.building.lookup name = some b)
      (hserve : b.serve h'.exchange = (.ok live, x)) : Later h (h'.running name live x)
  | ended {h' : Host} (hlater : Later h h') (live : LiveBot) : Later h (h'.ended live)
  | reported {h' : Host} (hlater : Later h h') (outcome : Outcome) (during : List Report) :
      Later h (h'.report outcome during).2
  | taken {h' : Host} (hlater : Later h h') :
      Later h { h' with exchange := h'.exchange.takeJournal.2 }

theorem Later.onward {h h' : Host} (hlater : h.Later h') : Onward h.exchange h'.exchange := by
  induction hlater with
  | here => exact .refl _
  | step _ s ih => exact ih.trans (onward_step _ s)
  | @began h' _ b _ _ _ _ hserve ih =>
    have hserved := Onward.serve b h'.exchange
    rw [hserve] at hserved
    exact ih.trans (hserved.trans (.ofQuiet (.report _ _)))
  | ended _ live ih => exact ih.trans (onward_ended _ live)
  | reported _ outcome during ih => exact ih.trans (.ofQuiet (.hostReport _ _ _))
  | taken _ ih => exact ih.trans (.ofQuiet ⟨rfl, rfl, rfl, id⟩)

/-! ## What a run leaves -/

variable {h : Host} {name : String} {b : Bot} {live : LiveBot} {x : Exchange}

theorem length_steps (h : Host) (ss : List Step) : (h.steps ss).1.length = ss.length := by
  induction ss generalizing h with
  | nil => rfl
  | cons s ss ih => exact congrArg Nat.succ (ih _)

/-- Each step is done on the host that the steps before it leave. -/
theorem getElem?_steps (h : Host) (before : List Step) (s : Step) (rest : List Step) :
    (h.steps (before ++ s :: rest)).1[before.length]? = some ((h.steps before).2.step s).1 := by
  induction before generalizing h with
  | nil => rfl
  | cons s' before ih => exact ih (h.step s').2

/-- If the session cannot be closed at the end of a run, the bot is withdrawn all the same. -/
theorem ended_of_error {e : SessionError} (live : LiveBot)
    (hclose : h.exchange.session.close = .error e) :
    (live.close h.exchange).1 = .error (.closeFailed e) ∧
      h.ended live = { h with exchange := h.exchange.withdraw live.ticket } := by
  have hfailed : (h.exchange.withdraw live.ticket).close = .error e := by
    rw [Exchange.close]
    exact congrArg (Except.map _) hclose
  rw [ended, LiveBot.close_of_error hfailed]
  exact ⟨rfl, rfl⟩

theorem ended_of_ok {s : Session} (live : LiveBot) (hclose : h.exchange.session.close = .ok s) :
    (live.close h.exchange).1 = .ok () ∧
      h.ended live = { h with
        exchange := ((({ h.exchange.withdraw live.ticket with session := s }.report
          .sessionClosed).report .servingEnded).report .stopped) } := by
  have hclosed : (h.exchange.withdraw live.ticket).close =
      .ok ({ h.exchange.withdraw live.ticket with session := s }.report .sessionClosed) := by
    rw [Exchange.close]
    exact congrArg (Except.map _) hclose
  rw [ended, LiveBot.close_of_ok hclosed]
  exact ⟨rfl, rfl⟩

/-- A bot that is told to stop receives nothing any more. -/
theorem retired_ended (hissued : live.ticket < h.exchange.tickets) :
    Retired live.ticket (h.ended live).exchange := by
  have hwithdrawn := retired_withdraw hissued
  cases hclose : h.exchange.session.close with
  | error e =>
    rw [(ended_of_error live hclose).2]
    exact hwithdrawn
  | ok s =>
    rw [(ended_of_ok live hclose).2]
    exact ⟨hwithdrawn.issued, hwithdrawn.dead⟩

/-- When a run is over, the ticket that was handed out for it is retired. -/
theorem retired_runUntil (hnumbered : ∀ ticket ∈ h.exchange.live, ticket < h.exchange.tickets)
    (hb : h.building.lookup name = some b) {work : Host → List Report × Host}
    (hwork : ∀ h : Host, Onward h.exchange (work h).2.exchange) :
    Retired h.exchange.tickets (h.runUntil name work).2.2.exchange := by
  cases hserve : b.serve h.exchange with
  | mk result x =>
    cases result with
    | error e =>
      rw [runUntil_of_serve_error hb hserve]
      exact Bot.retired_of_serve hnumbered hserve
    | ok live =>
      obtain ⟨hticket, -, hissued⟩ := Bot.eq_of_serve hserve
      rw [runUntil_of_serve hb hserve, ← hticket]
      refine retired_ended (Nat.lt_of_lt_of_le ?_ (hwork _).tickets)
      rw [hticket]
      exact hissued

/-- A run brackets its work. If the bot cannot go live, its error is the result, and no step of the
work is done. Otherwise all steps are, each on the host that the ones before it leave, beginning
with the host on which the bot went live. Then the session is closed as it is, once, and that is
the result. After the run no delivery ever enters a router that was installed for it: a delivery
does what the other callbacks do. Wherever a scenario is interrupted, only tickets that were handed
out are live, as this takes. -/
theorem runUntil_brackets :
    (∀ (application : String) (permissions : List ((String × String) × Permissions))
      (script : List Step) (log : List Happening) (h : Host),
      (initial application permissions).Visits script log h →
        ∀ ticket ∈ h.exchange.live, ticket < h.exchange.tickets) ∧
    ∀ (h : Host) (name : String) (b : Bot) (inner : List Step),
      h.building.lookup name = some b →
      (∀ e x, b.serve h.exchange = (.error e, x) →
        h.step (.runUntil name inner) =
          ({ h with exchange := x, building := remove name h.building } : Host).report
            (.ended (.error e)) []) ∧
      (∀ live x, b.serve h.exchange = (.ok live, x) →
        let work := (h.running name live x).steps inner
        work.1.length = inner.length ∧
        (∀ before s rest, inner = before ++ s :: rest →
          work.1[before.length]? = some (((h.running name live x).steps before).2.step s).1) ∧
        ((h.step (.runUntil name inner)).1.outcome = .ended (.ok ()) ↔
          ∃ s, work.2.exchange.session.close = .ok s) ∧
        (∀ s, work.2.exchange.session.close = .ok s →
          h.step (.runUntil name inner) =
            ({ work.2 with
                exchange := ((({ work.2.exchange.withdraw live.ticket with session := s }.report
                  .sessionClosed).report .servingEnded).report .stopped) } : Host).report
              (.ended (.ok ())) work.1) ∧
        ∀ e, work.2.exchange.session.close = .error e →
          h.step (.runUntil name inner) =
            ({ work.2 with exchange := work.2.exchange.withdraw live.ticket } : Host).report
              (.ended (.error (.closeFailed e))) work.1) ∧
      (∀ c ∈ (b.serve h.exchange).2.session.callbacks,
        c ∈ h.exchange.session.callbacks ∨ c = .router h.exchange.tickets b.router) ∧
      ((∀ ticket ∈ h.exchange.live, ticket < h.exchange.tickets) →
        ∀ h', (h.step (.runUntil name inner)).2.Later h' → ∀ i,
          (∀ r, (h.exchange.tickets, r) ∉ h'.exchange.entered i) ∧
          (h'.exchange.session.isOpen = true →
            h'.exchange.deliver i = .ok (h'.exchange.record
              (.event (.delivering i.id h'.exchange.session.callbacks.length) none ::
                (h'.exchange.session.callbacks.filter fun c =>
                  c.ticket? != some h.exchange.tickets).flatMap (h'.exchange.doings i))))) := by
  refine ⟨fun _ _ _ _ h hvisits => (Tracked.of_visits hvisits).live_lt,
    fun h name b inner hb => ⟨fun e x hserve => ?_, fun live x hserve => ?_,
      fun c => Bot.mem_callbacks_serve, fun hnumbered h' hlater i => ?_⟩⟩
  · rw [Host.step, runUntil_of_serve_error hb hserve]
  · intro work
    have hstep : h.step (.runUntil name inner) =
        (work.2.ended live).report (.ended (live.close work.2.exchange).1) work.1 := by
      rw [Host.step, runUntil_of_serve hb hserve]
    refine ⟨length_steps _ inner, ?_, ?_, fun s hclose => ?_, fun e hclose => ?_⟩
    · rintro before s rest rfl
      exact getElem?_steps _ before s rest
    · rw [hstep]
      show Outcome.ended (live.close work.2.exchange).1 = .ended (.ok ()) ↔ _
      cases hclose : work.2.exchange.session.close with
      | ok s => simp [(ended_of_ok live hclose).1]
      | error e => simp [(ended_of_error live hclose).1]
    · obtain ⟨hresult, hended⟩ := ended_of_ok live hclose
      rw [hstep, hresult, hended]
    · obtain ⟨hresult, hended⟩ := ended_of_error live hclose
      rw [hstep, hresult, hended]
  · have hretired : Retired h.exchange.tickets (h.step (.runUntil name inner)).2.exchange := by
      rw [Host.step]
      exact (retired_runUntil hnumbered hb fun h => h.onward_steps inner).onward
        (.ofQuiet (.hostReport _ _ _))
    have hdead := hretired.onward hlater.onward
    exact ⟨hdead.not_mem_entered i, fun hopen => deliver_of_not_mem_live hopen hdead.dead i⟩

/-- While a bot runs, another one cannot go live, and the session is closed. So the run ends with an
error, and its bot receives nothing any more, even if a bot of its name goes live. -/
theorem runUntil_brackets_closed :
    let h := ((initial "app" []).steps [.begin "a" .everywhere, .begin "b" .everywhere]).2
    let inner : List Step := [.runUntil "b" [.rest], .closeSession]
    let after := h.step (.runUntil "a" inner)
    let h' := ((after.2.step (.begin "a" .everywhere)).2.step (.serve "a")).2
    let refused := (h.step (.serve "a")).2.step (.runUntil "b" inner)
    after.1.outcome = .ended (.error (.closeFailed .notConnected)) ∧
      after.1.during.length = 2 ∧ (∀ i r, (0, r) ∉ h'.exchange.entered i) ∧
      refused.1.outcome = .ended (.error (.openFailed (.connection "session already open"))) ∧
      refused.1.during = [] := by
  intro h inner after h' refused
  obtain ⟨hnumbered, hruns⟩ := runUntil_brackets
  obtain ⟨-, hlive, -, hlater⟩ := hruns h "a" {} inner rfl
  obtain ⟨hlength, -, -, -, herror⟩ := hlive ⟨0, .everywhere, {}, []⟩ _ rfl
  have hresult := herror .notConnected rfl
  obtain ⟨hrefused, -⟩ := hruns (h.step (.serve "a")).2 "b" {} inner rfl
  have hrefused := hrefused (.openFailed (.connection "session already open")) _ rfl
  refine ⟨congrArg (fun result => result.1.outcome) hresult,
    (congrArg (fun result => result.1.during.length) hresult).trans hlength, ?_,
    congrArg (fun result => result.1.outcome) hrefused,
    congrArg (fun result => result.1.during) hrefused⟩
  exact fun i =>
    (hlater (hnumbered _ _ _ _ h (visits_steps _ _)) h' (.step (.step .here _) _) i).1

end Scenario.Host

end CommandRouter

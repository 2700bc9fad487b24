import CommandRouter.Proofs.Happenings
import Mathlib.Data.List.Pairwise

/-!
# Who receives interactions

A delivery enters the router of a bot exactly if the bot went live and since then neither was told
to stop nor lost its session. A router may be installed without being live, and a ticket may be live
whose router is not installed any more; what is followed through a scenario is the list of routers
that are both. It changes only when a bot goes live, when one is told to stop, and when the session
is closed, and a bot can go live only when the list is empty.
-/

namespace CommandRouter

/-! ## Histories -/

/-- The ticket that was given out, where one was. -/
def Happening.ticket? : Happening → Option Nat
  | served ticket _ => some ticket
  | failed ticket => some ticket
  | _ => none

/-- The bots that are standing after one more thing happened. -/
def Happening.change (bots : List (Nat × Router)) : Happening → List (Nat × Router)
  | served ticket r => bots ++ [(ticket, r)]
  | failed _ => bots
  | stopped ticket => bots.filter fun b => b.1 ≠ ticket
  | disconnected => []

/-- The bots that are standing after a history. -/
def standing (log : List Happening) : List (Nat × Router) := log.foldl Happening.change []

variable {log : List Happening} {happening : Happening} {ticket : Nat} {r : Router}

theorem standing_append_singleton (log : List Happening) (happening : Happening) :
    standing (log ++ [happening]) = happening.change (standing log) := by
  rw [standing, List.foldl_append]
  rfl

theorem issued_append_singleton (log : List Happening) (happening : Happening) :
    (log ++ [happening]).filterMap Happening.ticket? =
      log.filterMap Happening.ticket? ++ happening.ticket?.toList := by
  rw [List.filterMap_append]
  cases happening <;> rfl

/-- A bot stands after one more thing happened if it went live then, or if it stood before and was
not affected. -/
theorem standing_iff_append_singleton :
    Standing (log ++ [happening]) ticket r ↔ happening = .served ticket r ∨
      Standing log ticket r ∧ happening ≠ .stopped ticket ∧ happening ≠ .disconnected := by
  constructor
  · rintro ⟨before, after, hlog, hstopped, hclosed⟩
    rcases List.eq_nil_or_concat after with rfl | ⟨after, last, rfl⟩
    · obtain ⟨-, hlast⟩ := List.append_inj' hlog rfl
      exact Or.inl (List.cons.inj hlast).1
    · rw [List.concat_eq_append, ← List.cons_append, ← List.append_assoc] at hlog
      obtain ⟨rfl, hlast⟩ := List.append_inj' hlog rfl
      obtain rfl := (List.cons.inj hlast).1
      rw [List.concat_eq_append, List.mem_append, List.mem_singleton, not_or] at hstopped hclosed
      exact Or.inr ⟨⟨before, after, rfl, hstopped.1, hclosed.1⟩, Ne.symm hstopped.2,
        Ne.symm hclosed.2⟩
  · rintro (rfl | ⟨⟨before, after, rfl, hstopped, hclosed⟩, hne, hne'⟩)
    · exact ⟨log, [], rfl, by simp, by simp⟩
    · refine ⟨before, after ++ [happening], by simp, ?_, ?_⟩
      · simp [hstopped, hne.symm]
      · simp [hclosed, hne'.symm]

theorem mem_standing_iff : (ticket, r) ∈ standing log ↔ Standing log ticket r := by
  induction log using List.reverseRecOn with
  | nil => simp [standing, Standing]
  | append_singleton log happening ih =>
    -- What happens last filters or extends the list in the same way as the relation.
    rw [standing_append_singleton, standing_iff_append_singleton, ← ih]
    cases happening with
    | served ticket' r' =>
      have hsame : (ticket, r) = (ticket', r') ↔
          Happening.served ticket' r' = .served ticket r := by simp [eq_comm]
      simp [Happening.change, hsame, or_comm]
    | failed ticket' => simp [Happening.change]
    | stopped ticket' => simp [Happening.change, ne_comm]
    | disconnected => simp [Happening.change]

/-! ## What is followed -/

/-- The history gives the tickets that were handed out, and the routers that are installed and live
are those of the bots that are standing: at most one, and none while the session is closed. -/
structure Tracked (log : List Happening) (x : Exchange) : Prop where
  issued : log.filterMap Happening.ticket? = List.range x.tickets
  live_lt : ∀ ticket ∈ x.live, ticket < x.tickets
  router_lt : ∀ r ∈ x.routers, r.1 < x.tickets
  standing : x.liveRouters = standing log
  closed : x.session.isOpen = false → x.liveRouters = []
  single : x.liveRouters.length ≤ 1

/-- Nothing is done to tickets and routers, and the session is not closed. -/
structure Quiet (x x' : Exchange) : Prop where
  live : x'.live = x.live
  tickets : x'.tickets = x.tickets
  routers : x'.routers = x.routers
  isOpen : x.session.isOpen = true → x'.session.isOpen = true

namespace Quiet

variable {x x' x'' : Exchange}

theorem refl (x : Exchange) : Quiet x x := ⟨rfl, rfl, rfl, id⟩

theorem trans (h : Quiet x x') (h' : Quiet x' x'') : Quiet x x'' :=
  ⟨h'.live.trans h.live, h'.tickets.trans h.tickets, h'.routers.trans h.routers,
    fun hopen => h'.isOpen (h.isOpen hopen)⟩

theorem record (x : Exchange) (entries : List Entry) : Quiet x (x.record entries) :=
  ⟨rfl, rfl, by simp [Exchange.routers], by simp⟩

theorem report (x : Exchange) (e : Event) : Quiet x (x.report e) := record x _

theorem ofOpen (h : x.open = .ok x') : Quiet x x' := by
  obtain ⟨-, -, rfl⟩ := Exchange.open_eq_ok_iff.mp h
  exact ⟨rfl, rfl, rfl, fun _ => rfl⟩

theorem deliver {i : Interaction} (h : x.deliver i = .ok x') : Quiet x x' := by
  cases hopen : x.session.isOpen with
  | false => simp [Exchange.deliver, hopen] at h
  | true =>
    rw [Exchange.deliver_of_isOpen hopen] at h
    cases h
    exact record x _

theorem observe (x : Exchange) (tag : String) : Quiet x (x.install (.observer tag)) := by
  refine ⟨rfl, rfl, ?_, id⟩
  simp [Exchange.routers, Exchange.install, Session.install, Callback.router?]

theorem publish {application : String} {scope : Scope} {cs stored : List ApplicationCommand}
    (h : x.publish application scope cs = .ok (stored, x')) : Quiet x x' := by
  cases hopen : x.session.isOpen with
  | false => simp [Exchange.publish, Session.publish, hopen, Except.map] at h
  | true =>
    cases hreject : x.session.publishRejection with
    | some e => simp [Exchange.publish, Session.publish_of_rejection hopen hreject, Except.map] at h
    | none =>
      rw [Exchange.publish, Session.publish_of_isOpen hopen hreject] at h
      cases h
      exact ⟨rfl, rfl, rfl, id⟩

end Quiet

namespace Tracked

variable {x x' : Exchange}

theorem ofQuiet (h : Tracked log x) (hquiet : Quiet x x') : Tracked log x' := by
  have hlive : x'.liveRouters = x.liveRouters := by
    rw [Exchange.liveRouters_eq_filter, Exchange.liveRouters_eq_filter, hquiet.live, hquiet.routers]
  refine
    { issued := by rw [h.issued, hquiet.tickets]
      live_lt := by rw [hquiet.live, hquiet.tickets]; exact h.live_lt
      router_lt := by rw [hquiet.routers, hquiet.tickets]; exact h.router_lt
      standing := hlive.trans h.standing
      closed := fun hclosed => ?_
      single := by rw [hlive]; exact h.single }
  -- A session that is closed now was closed before, for nothing quiet closes one.
  rw [hlive]
  refine h.closed (Bool.eq_false_iff.mpr fun hopen => ?_)
  rw [hquiet.isOpen hopen] at hclosed
  cases hclosed

/-- When the session is closed, no router is installed any more. -/
theorem disconnect (h : Tracked log x) (hclose : x.close = .ok x') :
    Tracked (log ++ [.disconnected]) x' := by
  obtain ⟨-, -, rfl⟩ := Exchange.close_eq_ok_iff.mp hclose
  exact
    { issued := by rw [issued_append_singleton]; exact (List.append_nil _).trans h.issued
      live_lt := h.live_lt
      router_lt := by simp [Exchange.routers]
      standing := by rw [standing_append_singleton]; rfl
      closed := fun _ => rfl
      single := Nat.zero_le 1 }

/-- When a ticket is withdrawn, its router is live no more. -/
theorem withdraw (h : Tracked log x) (ticket : Nat) :
    Tracked (log ++ [.stopped ticket]) (x.withdraw ticket) := by
  have hlive : (x.withdraw ticket).liveRouters = x.liveRouters.filter fun b => b.1 ≠ ticket := by
    rw [Exchange.liveRouters_eq_filter, Exchange.liveRouters_eq_filter, List.filter_filter]
    refine List.filter_congr fun r _ => ?_
    simp [Exchange.withdraw, and_comm]
  exact
    { issued := by rw [issued_append_singleton]; exact (List.append_nil _).trans h.issued
      live_lt := fun t ht => h.live_lt t (List.mem_filter.mp ht).1
      router_lt := h.router_lt
      standing := by rw [hlive, h.standing, standing_append_singleton]; rfl
      closed := fun hclosed => by rw [hlive, h.closed hclosed]; rfl
      single := by rw [hlive]; exact Nat.le_trans (List.length_filter_le _ _) h.single }

theorem issued_issue (h : Tracked log x) (hticket : happening.ticket? = some x.tickets) :
    (log ++ [happening]).filterMap Happening.ticket? = List.range (x.tickets + 1) := by
  rw [issued_append_singleton, h.issued, hticket, List.range_succ]
  rfl

theorem router_lt_issue (h : Tracked log x) (r : Router) :
    ∀ b ∈ x.routers ++ [(x.tickets, r)], b.1 < x.tickets + 1 := by
  intro b hb
  rw [List.mem_append, List.mem_singleton] at hb
  rcases hb with hb | rfl
  · exact Nat.lt_succ_of_lt (h.router_lt b hb)
  · exact Nat.lt_succ_self _

/-- A router that is installed under a new ticket is not live. -/
theorem prepare (h : Tracked log x) (b : Bot) :
    Tracked (log ++ [.failed x.issue.1]) (b.prepared x) := by
  have hrouters : (b.prepared x).routers = x.routers ++ [(x.tickets, b.router)] :=
    x.issue.2.routers_install x.tickets b.router
  have hlive : (b.prepared x).liveRouters = x.liveRouters := by
    have hnew : x.tickets ∉ x.live := fun hmem => Nat.lt_irrefl _ (h.live_lt _ hmem)
    have hsame : (b.prepared x).live = x.live := rfl
    rw [Exchange.liveRouters_eq_filter, Exchange.liveRouters_eq_filter, hrouters, hsame]
    simp [hnew]
  exact
    { issued := h.issued_issue rfl
      live_lt := fun t ht => Nat.lt_succ_of_lt (h.live_lt t ht)
      router_lt := hrouters ▸ h.router_lt_issue b.router
      standing := by rw [hlive, h.standing, standing_append_singleton]; rfl
      closed := fun hclosed => by rw [hlive]; exact h.closed hclosed
      single := by rw [hlive]; exact h.single }

/-- Giving up on an open session closes it if that can be done. -/
theorem abandon (h : Tracked log x) (hopen : x.session.isOpen = true) :
    Tracked (log ++ if x.abandon.session.isOpen then [] else [.disconnected]) x.abandon := by
  cases hfault : x.session.faults.closing with
  | none =>
    have hclose := Exchange.close_eq_ok_iff.mpr ⟨hfault, hopen, rfl⟩
    rw [Exchange.abandon_of_closable hopen hfault]
    exact h.disconnect hclose
  | some e =>
    rw [Exchange.abandon_of_fault hfault, Exchange.session_report, if_pos hopen, List.append_nil]
    exact h.ofQuiet (.report x _)

/-- A bot that goes live is the only one that stands. -/
theorem enliven (h : Tracked log x) (b : Bot) (hclosed : x.session.isOpen = false) :
    Tracked (log ++ [.served x.issue.1 b.router]) (b.lively x) := by
  have hrouters : (b.lively x).routers = x.routers ++ [(x.tickets, b.router)] :=
    x.issue.2.routers_install x.tickets b.router
  have hlive : (b.lively x).liveRouters = [(x.tickets, b.router)] := by
    have hsame : (b.lively x).live = x.tickets :: x.live := rfl
    -- No router was live before, for the session was closed; and none has the new ticket.
    have hold : x.routers.filter (fun r => decide (r.1 ∈ x.tickets :: x.live)) = [] := by
      rw [← h.closed hclosed, Exchange.liveRouters_eq_filter]
      refine List.filter_congr fun r hr => ?_
      have hne : r.1 ≠ x.tickets := Nat.ne_of_lt (h.router_lt r hr)
      simp [hne]
    rw [Exchange.liveRouters_eq_filter, hrouters, hsame, List.filter_append, hold]
    simp
  have hnone : CommandRouter.standing log = [] := h.standing.symm.trans (h.closed hclosed)
  refine
    { issued := h.issued_issue rfl
      live_lt := fun t ht => ?_
      router_lt := hrouters ▸ h.router_lt_issue b.router
      standing := by rw [hlive, standing_append_singleton, hnone]; rfl
      closed := fun hopen => ?_
      single := by rw [hlive]; exact Nat.le_refl 1 }
  · rcases List.mem_cons.mp ht with rfl | ht
    · exact Nat.lt_succ_self _
    · exact Nat.lt_succ_of_lt (h.live_lt t ht)
  · cases hopen

/-- A start that fails on the opened session leaves nobody live. -/
theorem fail (h : Tracked log x) (b : Bot) :
    Tracked (log ++ .failed x.issue.1 ::
      if (b.opened x).abandon.session.isOpen then [] else [.disconnected])
      (b.opened x).abandon := by
  have hopened : Tracked (log ++ [.failed x.issue.1]) (b.opened x) :=
    (h.prepare b).ofQuiet ⟨rfl, rfl, rfl, fun _ => rfl⟩
  rw [← List.singleton_append, ← List.append_assoc]
  exact hopened.abandon rfl

/-- An attempt to go live. -/
theorem serve (h : Tracked log x) (b : Bot) :
    Tracked (log ++ b.happenings x) (b.serve x).2 := by
  have hattempt := b.attempt_serve x
  unfold Bot.happenings
  generalize b.serve x = result at hattempt
  cases hattempt with
  | openFailed hfailed => exact h.prepare b
  | applicationUnknown hfault hclosed hid => exact h.fail b
  | publishFailed hfault hclosed hid hreject => exact h.fail b
  | live hfault hclosed hid hreject => exact h.enliven b hclosed

/-- An order to stop. -/
theorem stop (h : Tracked log x) (live : LiveBot) :
    Tracked (log ++ live.happenings x) (live.close x).2 := by
  have hwithdrawn := h.withdraw live.ticket
  rw [LiveBot.happenings, ← List.singleton_append, ← List.append_assoc]
  cases hclose : (x.withdraw live.ticket).close with
  | error e =>
    simp only [LiveBot.close_of_error hclose, List.append_nil]
    exact hwithdrawn
  | ok x' =>
    simp only [LiveBot.close_of_ok hclose]
    exact (hwithdrawn.disconnect hclose).ofQuiet (.report x' _)

/-- A run of a bot, where it is known what happens while it runs. -/
theorem runUntil {α : Type} (h : Tracked log x) (b : Bot) {work : Exchange → α × Exchange}
    {during : Exchange → List Happening × Exchange} (hsame : ∀ x, (during x).2 = (work x).2)
    (hduring : ∀ {log x}, Tracked log x → Tracked (log ++ (during x).1) (during x).2) :
    Tracked (log ++ b.runHappenings during x) (b.runUntil work x).exchange := by
  have hserved := h.serve b
  rw [Bot.runHappenings, ← List.append_assoc]
  cases hserve : b.serve x with
  | mk result x' =>
    rw [hserve] at hserved
    cases result with
    | error e =>
      simp only [Bot.runUntil, hserve, List.append_nil]
      exact hserved
    | ok live =>
      -- From the start of the run over what happens during it to the order to stop.
      have hbegun := hserved.ofQuiet (.report x' (.running live.commands.length live.scope))
      have hrunning := hduring hbegun
      rw [hsame] at hrunning
      have hstopped := hrunning.stop live
      simp only [Bot.runUntil, hserve]
      rw [hsame, ← List.append_assoc]
      generalize work (x'.report (.running live.commands.length live.scope)) = worked at *
      cases hclose : live.close worked.2 with
      | mk result x'' =>
        rw [hclose] at hstopped
        cases result with
        | error e => exact hstopped
        | ok done => exact hstopped.ofQuiet (.report x'' .stopped)

end Tracked

/-! ## Scenarios -/

/-- The step may let bots go live or stop them, or close the session. -/
inductive Scenario.Step.Turns : Scenario.Step → Prop where
  | serve (name : String) : Turns (.serve name)
  | close (name : String) : Turns (.close name)
  | runUntil (name : String) (during : List Scenario.Step) : Turns (.runUntil name during)
  | runUntilSignal (name : String) (signal : Signal) : Turns (.runUntilSignal name signal)
  | closeSession : Turns .closeSession

namespace Quiet

open Scenario

/-- An attempt that leaves the tickets and routers alone if it succeeds. -/
theorem attempt {h : Host} {result : Except SessionError Exchange}
    (hquiet : ∀ x, result = .ok x → Quiet h.exchange x) :
    Quiet h.exchange (h.attempt result).2.exchange := by
  cases result with
  | error e => exact .refl _
  | ok x => exact hquiet x rfl

/-- A change of the session that leaves the connection and the callbacks alone. -/
theorem withSession {h : Host} {f : Session → Session}
    (hcallbacks : (f h.exchange.session).callbacks = h.exchange.session.callbacks)
    (hopen : (f h.exchange.session).isOpen = h.exchange.session.isOpen) :
    Quiet h.exchange (h.withSession f).exchange :=
  ⟨rfl, rfl, congrArg (List.filterMap Callback.router?) hcallbacks, fun h => hopen.trans h⟩

theorem hostReport (h : Host) (outcome : Outcome) (during : List Report) :
    Quiet h.exchange (h.report outcome during).2.exchange := ⟨rfl, rfl, rfl, id⟩

theorem handle (h : Host) (name pattern : String) (handler : Handler) :
    Quiet h.exchange (h.handle name pattern handler).2.exchange := by
  unfold Host.handle
  split
  · exact .refl _
  · split
    · exact .refl _
    · exact (report _ _).trans (report _ _)

theorem use (h : Host) (name : String) (ms : List Middleware) :
    Quiet h.exchange (h.use name ms).2.exchange := by
  unfold Host.use
  split <;> exact .refl _

theorem dispatch (h : Host) (name : String) (i : Interaction) :
    Quiet h.exchange (h.dispatch name i).2.exchange := by
  unfold Host.dispatch
  split
  · exact .refl _
  · exact record _ _

/-- All steps but those that turn something leave the tickets and routers alone. -/
theorem act (h : Host) {s : Step} (hs : ¬s.Turns) : Quiet h.exchange (h.act s).2.exchange := by
  cases s with
  | serve name => exact absurd (.serve name) hs
  | close name => exact absurd (.close name) hs
  | runUntil name during => exact absurd (.runUntil name during) hs
  | runUntilSignal name signal => exact absurd (.runUntilSignal name signal) hs
  | closeSession => exact absurd .closeSession hs
  | handle name pattern handler => exact handle h name pattern handler
  | use name ms => exact use h name ms
  | dispatch name i => exact dispatch h name i
  | chain ms handler i => exact record _ _
  | openSession => exact attempt fun x => ofOpen
  | deliver i => exact attempt fun x => deliver
  | observe tag => exact observe _ tag
  | publish application scope commands =>
    rw [Host.act]
    split
    · rename_i hpublish
      exact publish hpublish
    · exact .refl _
  | takeResponses | setPermissions | rejectPublish | fault => exact withSession rfl rfl
  | permissions user channel =>
    rw [Host.act]
    split <;> exact .refl _
  | begin | state | published | applicationId | responses | rest | unreadable | unknown =>
    exact .refl _

end Quiet

theorem Scenario.Host.happenings_of_not_turns {h : Scenario.Host} {s : Scenario.Step}
    (hs : ¬s.Turns) : h.happenings s = [] := by
  cases s with
  | serve name => exact absurd (.serve name) hs
  | close name => exact absurd (.close name) hs
  | runUntil name during => exact absurd (.runUntil name during) hs
  | runUntilSignal name signal => exact absurd (.runUntilSignal name signal) hs
  | closeSession => exact absurd .closeSession hs
  | _ => rfl

namespace Tracked

open Scenario

variable {h h' : Host} {x : Exchange}

/-- Nothing is added to the history by what is not recorded in it. -/
theorem quietly (h : Tracked log x) {quiet : List Happening} (hquiet : quiet = []) :
    Tracked (log ++ quiet) x := by
  rw [hquiet, List.append_nil]
  exact h

/-- A step that lets a bot go live. -/
theorem step_serve (htracked : Tracked log h.exchange) (name : String) :
    Tracked (log ++ h.happenings (.serve name)) (h.serve name).2.exchange := by
  rw [Host.happenings, Host.serve]
  cases h.building.lookup name with
  | none => exact htracked.quietly rfl
  | some b =>
    have hserved := htracked.serve b
    simp only
    cases hserve : b.serve h.exchange with
    | mk result x =>
      rw [hserve] at hserved
      cases result <;> exact hserved

/-- A step that tells a bot to stop. -/
theorem step_close (htracked : Tracked log h.exchange) (name : String) :
    Tracked (log ++ h.happenings (.close name)) (h.close name).2.exchange := by
  rw [Host.happenings, Host.close]
  cases h.serving.lookup name with
  | none => exact htracked.quietly rfl
  | some live => exact htracked.stop live

theorem step_runUntilSignal (htracked : Tracked log h.exchange) (name : String) (signal : Signal) :
    Tracked (log ++ h.happenings (.runUntilSignal name signal))
      (h.runUntilSignal name signal).2.exchange := by
  rw [Host.happenings, Host.runUntilSignal]
  cases h.building.lookup name with
  | none => exact htracked.quietly rfl
  | some b =>
    refine (htracked.ofQuiet (.report _ .waiting)).runUntil b (fun _ => rfl) fun hwaiting => ?_
    exact (hwaiting.ofQuiet (.report _ _)).quietly rfl

theorem step_closeSession (htracked : Tracked log h.exchange) :
    Tracked (log ++ h.happenings .closeSession) (h.attempt h.exchange.close).2.exchange := by
  rw [Host.happenings]
  cases hclose : h.exchange.close with
  | error e => exact htracked.quietly rfl
  | ok x => exact htracked.disconnect hclose

/-- A run of a bot, where it is known what the steps inside it do. -/
theorem step_runUntil (htracked : Tracked log h.exchange) (name : String) {during : List Step}
    (hduring : ∀ {log : List Happening} {h : Host}, Tracked log h.exchange →
      Tracked (log ++ h.allHappenings during) (h.steps during).2.exchange) :
    Tracked (log ++ h.happenings (.runUntil name during))
      (h.runUntil name fun h => h.steps during).2.2.exchange := by
  rw [Host.happenings, Host.exchange_runUntil]
  cases h.building.lookup name with
  | none => exact htracked.quietly rfl
  | some b => exact htracked.runUntil b (fun _ => rfl) fun htracked => hduring htracked

/-- A step without steps inside it. -/
theorem act (htracked : Tracked log h.exchange) {s : Step}
    (hplain : ∀ name during, s ≠ .runUntil name during) :
    Tracked (log ++ h.happenings s) (h.act s).2.exchange := by
  by_cases hs : s.Turns
  · cases hs with
    | serve name => exact htracked.step_serve name
    | close name => exact htracked.step_close name
    | runUntil name during => exact absurd rfl (hplain name during)
    | runUntilSignal name signal => exact htracked.step_runUntilSignal name signal
    | closeSession => exact htracked.step_closeSession
  · exact (htracked.ofQuiet (.act h hs)).quietly (Host.happenings_of_not_turns hs)

mutual

/-- A step, with all that is done inside it: the induction is on the nesting of runs. -/
theorem step {log : List Happening} {h : Host} (htracked : Tracked log h.exchange) (s : Step) :
    Tracked (log ++ h.happenings s) (h.step s).2.exchange := by
  cases s with
  | runUntil name during =>
    rw [Host.step]
    exact (htracked.step_runUntil name fun htracked => htracked.steps during).ofQuiet
      (.hostReport _ _ _)
  | _ => exact (htracked.act fun _ _ hs => by cases hs).ofQuiet (.hostReport _ _ _)

theorem steps {log : List Happening} {h : Host} (htracked : Tracked log h.exchange)
    (ss : List Step) : Tracked (log ++ h.allHappenings ss) (h.steps ss).2.exchange := by
  cases ss with
  | nil => exact htracked.quietly rfl
  | cons s ss =>
    rw [Host.allHappenings, Host.steps, ← List.append_assoc]
    exact (htracked.step s).steps ss

end

/-- Wherever a scenario is interrupted, the history until then tells who receives interactions. -/
theorem visits {past log : List Happening} {ss : List Step} (hvisits : h.Visits ss log h')
    (htracked : Tracked past h.exchange) : Tracked (past ++ log) h'.exchange := by
  induction hvisits generalizing past with
  | here => exact htracked.quietly rfl
  | after _ ih =>
    rw [← List.append_assoc]
    exact ih (htracked.step _)
  | @during h _ _ b _ _ _ _ _ hb hserve _ ih =>
    have hserved := htracked.serve b
    rw [hserve] at hserved
    rw [← List.append_assoc]
    exact ih (hserved.ofQuiet (.report _ _))

theorem initial (application : String)
    (permissions : List ((String × String) × Permissions)) :
    Tracked [] (Host.initial application permissions).exchange where
  issued := rfl
  live_lt := nofun
  router_lt := nofun
  standing := rfl
  closed := fun _ => rfl
  single := Nat.zero_le 1

theorem of_visits {application : String} {permissions : List ((String × String) × Permissions)}
    {ss : List Step} (hvisits : (Host.initial application permissions).Visits ss log h) :
    Tracked log h.exchange := (initial application permissions).visits hvisits

/-- A ticket is given out once. -/
theorem eq_of_ticket? (htracked : Tracked log x) {a b : Happening} (ha : a ∈ log) (hb : b ∈ log)
    (hat : a.ticket? = some ticket) (hbt : b.ticket? = some ticket) : a = b := by
  by_contra hne
  -- The tickets in the history are `0, 1, 2, …`, so no two happenings have the same one.
  have hnodup : (log.filterMap Happening.ticket?).Nodup := htracked.issued ▸ List.nodup_range
  have : Std.Symm fun a b : Happening =>
      ∀ t, a.ticket? = some t → ∀ t', b.ticket? = some t' → t ≠ t' :=
    ⟨fun _ _ h t ht t' ht' => (h t' ht' t ht).symm⟩
  exact (List.pairwise_filterMap.mp hnodup).forall ha hb hne ticket hat ticket hbt rfl

end Tracked

/-- While a bot stands, the session is open, and its router is the one that is installed and
live. -/
theorem Tracked.liveRouters_of_standing {x : Exchange} (htracked : Tracked log x)
    (hstanding : Standing log ticket r) :
    x.session.isOpen = true ∧ x.liveRouters = [(ticket, r)] := by
  have hrouter : (ticket, r) ∈ x.liveRouters := by
    rw [htracked.standing]
    exact mem_standing_iff.mpr hstanding
  have honly : x.liveRouters = [(ticket, r)] := by
    obtain ⟨b, hb⟩ := List.length_eq_one_iff.mp
      (Nat.le_antisymm htracked.single (List.length_pos_of_mem hrouter))
    rw [hb, List.mem_singleton] at hrouter
    rw [hb, hrouter]
  refine ⟨Bool.not_eq_false _ |>.mp fun hclosed => ?_, honly⟩
  rw [htracked.closed hclosed] at hrouter
  cases hrouter

theorem Standing.served_mem (h : Standing log ticket r) : .served ticket r ∈ log := by
  obtain ⟨before, after, rfl, -⟩ := h
  simp

namespace Scenario.Host

/-- Wherever a scenario is interrupted, a delivery enters the router of a bot exactly if the bot
went live and since then neither was told to stop nor lost its session. Then the session is open and
the router is entered once, and no other router is. If this is so of no bot, a delivery does nothing
but what the observers note, and on a closed session it fails. -/
theorem entered_iff_standing {application : String}
    {permissions : List ((String × String) × Permissions)} {script : List Step}
    {log : List Happening} {h : Host}
    (hvisits : (initial application permissions).Visits script log h) :
    (∀ i ticket r, (ticket, r) ∈ h.exchange.entered i ↔ Standing log ticket r) ∧
    (∀ i ticket r, Standing log ticket r →
      h.exchange.session.isOpen = true ∧ h.exchange.entered i = [(ticket, r)] ∧
        ∃ before after, (∀ entry ∈ before ++ after, ∃ tag, entry = .note (.observed tag i.id)) ∧
          h.exchange.deliver i = .ok (h.exchange.record
            (.event (.delivering i.id h.exchange.session.callbacks.length) none ::
              (before ++ (r.dispatch h.exchange.session.view i).2 ++ after)))) ∧
    (h.exchange.session.isOpen = true → (∀ ticket r, ¬Standing log ticket r) →
      ∀ i, h.exchange.deliver i = .ok (h.exchange.record
        (.event (.delivering i.id h.exchange.session.callbacks.length) none ::
          h.exchange.session.callbacks.flatMap (Callback.remarks i)))) ∧
    (h.exchange.session.isOpen = false → ∀ i, h.exchange.deliver i = .error .notConnected) ∧
    h.exchange.liveRouters.length ≤ 1 ∧
    (h.exchange.session.isOpen = false → h.exchange.liveRouters = []) ∧
    ∀ ticket, .failed ticket ∈ log → ∀ i r, (ticket, r) ∉ h.exchange.entered i := by
  have htracked : Tracked log h.exchange := .of_visits hvisits
  have hlive : ∀ i, h.exchange.entered i = h.exchange.liveRouters := by
    intro i
    rw [Exchange.entered_eq]
    split
    · rfl
    · rename_i hclosed
      exact (htracked.closed (Bool.eq_false_iff.mpr hclosed)).symm
  have hmem : ∀ ticket r, (ticket, r) ∈ h.exchange.liveRouters ↔ Standing log ticket r := by
    intro ticket r
    rw [htracked.standing, mem_standing_iff]
  refine ⟨fun i ticket r => by rw [hlive, hmem], fun i ticket r hstanding => ?_,
    fun hopen hnone i => ?_, fun hclosed => Exchange.deliver_of_closed hclosed, htracked.single,
    htracked.closed, fun ticket hfailed i r hentered => ?_⟩
  · obtain ⟨hopen, honly⟩ := htracked.liveRouters_of_standing hstanding
    exact ⟨hopen, (hlive i).trans honly, Exchange.deliver_of_liveRouters hopen honly i⟩
  · have hempty : h.exchange.liveRouters = [] :=
      List.eq_nil_iff_forall_not_mem.mpr fun entry hentry =>
        hnone entry.1 entry.2 ((hmem entry.1 entry.2).mp hentry)
    exact Exchange.deliver_of_liveRouters_eq_nil hopen hempty i
  · rw [hlive, hmem] at hentered
    cases htracked.eq_of_ticket? hfailed hentered.served_mem rfl rfl

/-- A bot that cannot go live while another one runs does not take its place. -/
theorem entered_while_running :
    ∃ h : Host,
      (initial "app" []).Visits
        [.begin "a" .everywhere, .begin "b" .everywhere, .runUntil "a" [.serve "b"]]
        [.served 0 {}, .failed 1] h ∧
      h.exchange.session.isOpen = true ∧ ∀ i, h.exchange.entered i = [(0, {})] := by
  let h := initial "app" []
  let h' := (h.step (.begin "a" .everywhere)).2
  let h'' := (h'.step (.begin "b" .everywhere)).2
  have hrun := @Visits.during h'' _ "a" {} ⟨0, .everywhere, {}, []⟩ _ [.serve "b"] [] _ rfl rfl
    (.after .here)
  have hvisits : h.Visits
      [.begin "a" .everywhere, .begin "b" .everywhere, .runUntil "a" [.serve "b"]]
      [.served 0 {}, .failed 1] _ :=
    (Visits.after (h := h) (s := .begin "a" .everywhere)
      (Visits.after (h := h') (s := .begin "b" .everywhere) hrun) :)
  have hstanding : Standing [.served 0 {}, .failed 1] 0 {} :=
    ⟨[], [.failed 1], rfl, by simp, by simp⟩
  have hentered := fun i => (entered_iff_standing hvisits).2.1 i 0 {} hstanding
  exact ⟨_, hvisits, (hentered (.ofCommand "1" {})).1, fun i => (hentered i).2.1⟩

end Scenario.Host

end CommandRouter

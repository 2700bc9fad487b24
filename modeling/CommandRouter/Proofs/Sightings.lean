import CommandRouter.Proofs.AdminGate
import CommandRouter.Proofs.Containment
import CommandRouter.Proofs.Exchanges
import Mathlib.Data.List.ReduceOption
import Mathlib.Tactic.Choose

/-!
# Sightings

The logging middleware reports each interaction that it sees and goes on. Loggers may be put into a
chain at any places, behind filters and gates, or behind middlewares that run the rest of the chain
several times: what the chain did before it still does, in the same order, and there is one sighting
for each time that one of these loggers is reached.

A plan is told what was done in its runs, and with it the events that were reported. No middleware
of a program is told of events, so the plans here are *heedless*: they go on alike whether something
was logged in a run or not. A plan that counts sightings would see a logger behind it.
-/

namespace CommandRouter

/-! ## Lists merged into one -/

/-- The third list has the entries of the first and those of the second, each in their order. -/
inductive Interleaved {α : Type} : List α → List α → List α → Prop where
  | nil : Interleaved [] [] []
  | left (x : α) {xs ys zs : List α} (h : Interleaved xs ys zs) :
      Interleaved (x :: xs) ys (x :: zs)
  | right (y : α) {xs ys zs : List α} (h : Interleaved xs ys zs) :
      Interleaved xs (y :: ys) (y :: zs)

namespace Interleaved

variable {α β : Type} {xs ys zs xs' ys' zs' : List α}

theorem nil_right (xs : List α) : Interleaved xs [] xs := by
  induction xs with
  | nil => exact nil
  | cons x xs ih => exact left x ih

theorem append (h : Interleaved xs ys zs) (h' : Interleaved xs' ys' zs') :
    Interleaved (xs ++ xs') (ys ++ ys') (zs ++ zs') := by
  induction h with
  | nil => exact h'
  | left x _ ih => exact left x ih
  | right y _ ih => exact right y ih

theorem map (f : α → β) (h : Interleaved xs ys zs) :
    Interleaved (xs.map f) (ys.map f) (zs.map f) := by
  induction h with
  | nil => exact nil
  | left x _ ih => exact left (f x) ih
  | right y _ ih => exact right (f y) ih

/-- What is not seen of the second list is not seen of the merged one. -/
theorem filterMap_eq {f : α → Option β} (h : Interleaved xs ys zs) (hys : ∀ y ∈ ys, f y = none) :
    zs.filterMap f = xs.filterMap f := by
  induction h with
  | nil => rfl
  | left x _ ih => rw [List.filterMap_cons, List.filterMap_cons, ih hys]
  | right y _ ih =>
    obtain ⟨hy, hys⟩ := List.forall_mem_cons.mp hys
    rw [List.filterMap_cons_none hy, ih hys]

/-- A state that the entries of the second list leave as it is. -/
theorem foldl_eq {f : β → α → β} (h : Interleaved xs ys zs) (hys : ∀ y ∈ ys, ∀ b, f b y = b)
    (b : β) : zs.foldl f b = xs.foldl f b := by
  induction h generalizing b with
  | nil => rfl
  | left x _ ih => exact ih hys (f b x)
  | right y _ ih =>
    obtain ⟨hy, hys⟩ := List.forall_mem_cons.mp hys
    rw [List.foldl_cons, hy b, ih hys b]

theorem eq_of_nil (h : Interleaved xs [] zs) : zs = xs := by
  have hsame := h.filterMap_eq (f := some) nofun
  rwa [List.filterMap_some, List.filterMap_some] at hsame

end Interleaved

/-! ## Heedless plans -/

/-- The event by which a logger reports an interaction. -/
def Interaction.sighting (i : Interaction) : Event :=
  .interactionSeen ((i.invoker?.map (·.id)).getD "-") (i.channelId.getD "-")

namespace Effect

/-- The effect, unless it is a logger's. -/
def unlogged? : Effect → Option Effect
  | event (.interactionSeen ..) => none
  | e => some e

end Effect

namespace Plan

variable {α β : Type}

/-- The plan goes on alike after runs that differ in nothing but what was logged. -/
def Heedless : Plan α → Prop
  | done _ => True
  | act _ rest => rest.Heedless
  | run _ _ rest =>
    (∀ es es', es.filterMap Effect.unlogged? = es'.filterMap Effect.unlogged? →
      rest es = rest es') ∧ ∀ es, (rest es).Heedless

theorem heedless_done (a : α) : (done a).Heedless := trivial

theorem heedless_acts {rest : Plan α} (es : List Effect) (h : rest.Heedless) :
    (acts es rest).Heedless := by
  induction es with
  | nil => exact h
  | cons e es ih => exact ih

theorem heedless_runs {rest : Plan α} (view : SessionView) (i : Interaction) (h : rest.Heedless)
    (n : Nat) : (runs view i rest n).Heedless := by
  induction n with
  | zero => exact h
  | succ n ih => exact ⟨fun _ _ _ => rfl, fun _ => ih⟩

theorem Heedless.andThen {plan : Plan α} (h : plan.Heedless) {k : α → Plan β}
    (hk : ∀ a, (k a).Heedless) : (plan.andThen fun _ a => k a).Heedless := by
  induction plan with
  | done a => exact hk a
  | act e rest ih => exact ih h
  | run view i rest ih =>
    obtain ⟨hrest, hheedless⟩ := h
    refine ⟨fun es es' hes => ?_, fun es => ih es (hheedless es)⟩
    exact congrArg (fun plan : Plan α => plan.andThen fun _ a => k a) (hrest es es' hes)

/-- If a handler does what another one does and logs in between, then a heedless plan calls the two
on the same occasions, and what it does around the first is what it does around the second with what
is logged on these occasions in between. -/
theorem Heedless.interleaved {plan : Plan α} (h : plan.Heedless) {next next' : Handler}
    {added : SessionView → Interaction → List Effect}
    (hadded : ∀ view i, ∀ e ∈ added view i, e.unlogged? = none)
    (hnext : ∀ view i, Interleaved (next view i) (added view i) (next' view i)) :
    plan.calls next' = plan.calls next ∧
      Interleaved (plan.effects next) ((plan.calls next').flatMap fun c => added c.1 c.2)
        (plan.effects next') := by
  induction plan with
  | done a => exact ⟨rfl, .nil⟩
  | act e rest ih =>
    obtain ⟨hcalls, heffects⟩ := ih h
    exact ⟨hcalls, heffects.left e⟩
  | run view i rest ih =>
    obtain ⟨hrest, hheedless⟩ := h
    have hsame : rest (next' view i) = rest (next view i) :=
      hrest _ _ ((hnext view i).filterMap_eq (hadded view i))
    obtain ⟨hcalls, heffects⟩ := ih (next view i) (hheedless _)
    rw [calls, calls, effects, effects, hsame, hcalls, List.flatMap_cons]
    refine ⟨rfl, (hnext view i).append ?_⟩
    rwa [hcalls] at heffects

end Plan

/-! ## Stages -/

/-- A middleware with a heedless plan for every interaction. -/
structure Stage where
  /-- The middleware. -/
  middleware : Middleware
  /-- Its plans. -/
  plans : SessionView → Interaction → Plan Unit
  /-- The middleware goes through the plans. -/
  follows : ∀ view i, middleware.Follows view i (plans view i)
  /-- The plans are heedless. -/
  heedless : ∀ view i, (plans view i).Heedless

namespace Stage

/-- A middleware that is a ring for each interaction. -/
def ofRings (m : Middleware) (rings : SessionView → Interaction → Middleware.Ring)
    (h : ∀ view i, Middleware.Surrounds view i m (rings view i)) : Stage where
  middleware := m
  plans view i := (rings view i).plan view i
  follows view i := (h view i).follows
  heedless view i := Plan.heedless_acts _
    (Plan.heedless_runs view i (Plan.heedless_acts _ (Plan.heedless_done ())) _)

/-- The logging middleware. -/
def logger : Stage :=
  .ofRings .logger (fun _ i => ⟨[.event i.sighting], 1, []⟩) fun _ _ next => by
    simp [Middleware.logger, Interaction.sighting]

/-- The handler inside a chain of stages. -/
def chain (ss : List Stage) (h : Handler) : Handler := Middleware.chain (ss.map middleware) h

/-- The occasions on which the handler inside a chain of stages runs, in order. -/
def passes (h : Handler) : List Stage → SessionView → Interaction → List (SessionView × Interaction)
  | [], view, i => [(view, i)]
  | s :: ss, view, i =>
    ((s.plans view i).calls (chain ss h)).flatMap fun c => passes h ss c.1 c.2

theorem chain_cons (s : Stage) (ss : List Stage) (h : Handler) (view : SessionView)
    (i : Interaction) : chain (s :: ss) h view i = (s.plans view i).effects (chain ss h) :=
  s.follows view i (chain ss h)

theorem passes_cons (s : Stage) (ss : List Stage) (h : Handler) (view : SessionView)
    (i : Interaction) : passes h (s :: ss) view i =
      ((s.plans view i).calls (chain ss h)).flatMap fun c => passes h ss c.1 c.2 := rfl

theorem chain_append (ss ss' : List Stage) (h : Handler) :
    chain (ss ++ ss') h = chain ss (chain ss' h) := by
  rw [chain, List.map_append]
  exact Middleware.chain_append _ _ h

theorem chain_logger_cons (ss : List Stage) (h : Handler) (view : SessionView) (i : Interaction) :
    chain (logger :: ss) h view i = .event i.sighting :: chain ss h view i := rfl

theorem calls_logger (next : Handler) (view : SessionView) (i : Interaction) :
    (logger.plans view i).calls next = [(view, i)] := rfl

/-! ## Loggers put into a chain -/

/-- The stages with loggers put in, one for each gap. -/
def logged (places : List (Option Stage)) : List Stage := places.map (·.getD logger)

theorem logged_cons_none (places : List (Option Stage)) :
    logged (none :: places) = logger :: logged places := rfl

theorem logged_cons_some (s : Stage) (places : List (Option Stage)) :
    logged (some s :: places) = s :: logged places := rfl

theorem logged_append (outer inner : List (Option Stage)) :
    logged (outer ++ inner) = logged outer ++ logged inner := List.map_append

/-- The interactions that the loggers in the gaps see, in order. -/
def seen (h : Handler) :
    List (Option Stage) → SessionView → Interaction → List Interaction
  | [], _, _ => []
  | none :: places, view, i => i :: seen h places view i
  | some s :: places, view, i =>
    ((s.plans view i).calls (chain (logged places) h)).flatMap fun c => seen h places c.1 c.2

variable {h : Handler} {places outer inner : List (Option Stage)} {view : SessionView}
  {i : Interaction}

theorem unlogged?_of_mem_seen {e : Effect}
    (he : e ∈ (seen h places view i).map fun j => Effect.event j.sighting) :
    e.unlogged? = none := by
  obtain ⟨j, -, rfl⟩ := List.mem_map.mp he
  rfl

/-- A chain with loggers put in runs the handler on the same occasions, and does what it did without
them, with a sighting for each interaction that one of them sees. -/
theorem interleaved_chain (h : Handler) (places : List (Option Stage)) (view : SessionView)
    (i : Interaction) :
    passes h (logged places) view i = passes h places.reduceOption view i ∧
      Interleaved (chain places.reduceOption h view i)
        ((seen h places view i).map fun j => .event j.sighting)
        (chain (logged places) h view i) := by
  induction places generalizing view i with
  | nil => exact ⟨rfl, .nil_right _⟩
  | cons place places ih =>
    cases place with
    | none =>
      obtain ⟨hpasses, heffects⟩ := ih view i
      rw [List.reduceOption_cons_of_none, logged_cons_none, passes_cons, calls_logger,
        List.flatMap_singleton, chain_logger_cons, seen, List.map_cons]
      exact ⟨hpasses, heffects.right _⟩
    | some s =>
      obtain ⟨hcalls, heffects⟩ := (s.heedless view i).interleaved
        (fun view i e => unlogged?_of_mem_seen) fun view i => (ih view i).2
      rw [List.reduceOption_cons_of_some, logged_cons_some, passes_cons, passes_cons, chain_cons,
        chain_cons, seen, List.map_flatMap, ← hcalls]
      exact ⟨List.flatMap_congr fun c _ => (ih c.1 c.2).1, heffects⟩

/-- Where the part of a chain that begins with the first of the inner stages sees nothing each time
that it is reached, the loggers before it are all that see something. -/
theorem seen_append (houter : ∀ c ∈ passes (chain (logged inner) h) (logged outer) view i,
    seen h inner c.1 c.2 = []) :
    seen h (outer ++ inner) view i = seen (chain (logged inner) h) outer view i := by
  induction outer generalizing view i with
  | nil => exact houter (view, i) (List.mem_singleton_self _)
  | cons place outer ih =>
    have hchain : chain (logged (outer ++ inner)) h =
        chain (logged outer) (chain (logged inner) h) := by
      rw [logged_append, chain_append]
    have hmem : ∀ {c d}, c ∈ ((place.getD logger).plans view i).calls
          (chain (logged outer) (chain (logged inner) h)) →
        d ∈ passes (chain (logged inner) h) (logged outer) c.1 c.2 →
        seen h inner d.1 d.2 = [] :=
      fun hc hd => houter _ (List.mem_flatMap.mpr ⟨_, hc, hd⟩)
    cases place with
    | none =>
      rw [List.cons_append, seen, seen, ih fun d => hmem (List.mem_singleton_self (view, i))]
    | some s =>
      rw [List.cons_append, seen, seen, hchain]
      exact List.flatMap_congr fun c hc => ih fun d => hmem hc

end Stage

/-! ## Heedless middlewares -/

/-- The middleware has heedless plans. -/
def Middleware.Heedless (m : Middleware) : Prop := ∃ s : Stage, s.middleware = m

/-- The layer has heedless plans, around services that do not fail. -/
def Layer.Heedless (l : Layer) : Prop :=
  ∃ plans : SessionView → Interaction → Plan (Option ServiceError),
    (∀ view i, (plans view i).Heedless) ∧ ∀ (next : Handler) view i,
      l next.service view i = ((plans view i).effects next, (plans view i).result next)

theorem Layer.Heedless.middleware {l : Layer} (h : l.Heedless) : l.middleware.Heedless := by
  obtain ⟨plans, hheedless, hplans⟩ := h
  refine ⟨⟨l.middleware, fun view i => (plans view i).reporting,
    Layer.follows_reporting hplans, fun view i => ?_⟩, rfl⟩
  exact (hheedless view i).andThen fun err => Plan.heedless_acts _ (Plan.heedless_done ())

theorem Layer.heedless_checkPlan (view : SessionView)
    (outcome : Except ServiceError Interaction) : (checkPlan view outcome).Heedless := by
  cases outcome with
  | ok j => exact ⟨fun _ _ _ => rfl, fun _ => Plan.heedless_done none⟩
  | error e => exact Plan.heedless_done (some e)

theorem Layer.heedless_check (f : Interaction → Except ServiceError Interaction) :
    (check f).Heedless :=
  ⟨fun view i => checkPlan view (f i), fun view i => heedless_checkPlan view (f i),
    check_eq_checkPlan f⟩

namespace Middleware

theorem heedless_of_surrounds {m : Middleware} (h : ∀ view i, ∃ r, Surrounds view i m r) :
    m.Heedless := by
  choose rings hrings using h
  exact ⟨.ofRings m rings hrings, rfl⟩

/-- The gate is a ring for each interaction: it runs the rest of the chain once or not at all. -/
theorem heedless_requireAdmin : requireAdmin.Heedless := by
  refine heedless_of_surrounds fun view i => ?_
  by_cases h : Admits view i
  · exact ⟨⟨[], 1, []⟩, fun next => by simp [requireAdmin_of_admits h]⟩
  · refine ⟨⟨requireAdmin (fun _ _ => []) view i, 0, []⟩, fun next => ?_⟩
    simpa using requireAdmin_eq_of_not_admits h

theorem heedless_rename (id : String) : (rename id).Heedless := by
  rw [rename, Layer.mapRequest_eq_check]
  exact (Layer.heedless_check _).middleware

end Middleware

/-! ## Routers -/

namespace Stage

/-- The router with the handlers and the stages. -/
def router (handlers : List (DispatchKey × Handler)) (ss : List Stage) : Router :=
  { handlers, middlewares := ss.map middleware }

/-- The sightings in the course of a dispatch, if a handler runs. -/
def sightings (handlers : List (DispatchKey × Handler)) (places : List (Option Stage))
    (view : SessionView) (i : Interaction) : List Entry :=
  match i.command? with
  | none => []
  | some data =>
    match handlers.lookup data.key with
    | none => []
    | some h => (seen h places view i).map fun j => .event j.sighting (some data.key)

variable {handlers : List (DispatchKey × Handler)} {places : List (Option Stage)}
  {view : SessionView} {i : Interaction} {entry : Entry}

/-- A sighting is neither a note nor a response. -/
theorem silent_of_mem_sightings (h : entry ∈ sightings handlers places view i) :
    entry.note? = none ∧ entry.response? = none := by
  unfold sightings at h
  split at h
  · cases h
  · split at h
    · cases h
    · obtain ⟨j, -, rfl⟩ := List.mem_map.mp h
      exact ⟨rfl, rfl⟩

theorem interleaved_dispatch (handlers : List (DispatchKey × Handler))
    (places : List (Option Stage)) (view : SessionView) (i : Interaction) :
    ((router handlers (logged places)).dispatch view i).1 =
        ((router handlers places.reduceOption).dispatch view i).1 ∧
      Interleaved ((router handlers places.reduceOption).dispatch view i).2
        (sightings handlers places view i)
        ((router handlers (logged places)).dispatch view i).2 := by
  have hhandler : ∀ ss key, (router handlers ss).handler? key = handlers.lookup key :=
    fun _ _ => rfl
  simp only [Router.dispatch, sightings, hhandler]
  cases i.command? with
  | none => exact ⟨rfl, .nil_right _⟩
  | some data =>
    simp only
    cases handlers.lookup data.key with
    | none => exact ⟨rfl, .nil_right _⟩
    | some h =>
      have hmap := (interleaved_chain h places view i).2.map (Effect.entry (some data.key))
      rw [List.map_map] at hmap
      exact ⟨rfl, hmap⟩

end Stage

namespace Exchange

/-- Recording more entries that the session does not notice. -/
theorem record_of_interleaved {xs ys zs : List Entry} (x : Exchange) (h : Interleaved xs ys zs)
    (hys : ∀ y ∈ ys, y.response? = none) :
    x.record zs = { x.record xs with journal := x.journal ++ zs } := by
  have hreceive : ∀ y ∈ ys, ∀ s : Session, s.receive y = s := by
    intro y hy s
    have hsilent : ∀ entry ∈ [y], entry.response? = none :=
      List.forall_mem_singleton.mpr (hys y hy)
    exact Session.foldl_receive_of_silent hsilent
  simp only [record, h.foldl_eq hreceive]

end Exchange

namespace Stage

/-- Logging is transparent. Loggers may be put into a chain at any places. The handler runs on the
same occasions, and all is done that was done before, in the same order; there is one event more for
each interaction that one of the loggers sees, with the user who invoked it and the channel. So
nothing else changes in a dispatch: a handler runs as before, and the session and the notes are the
same. A middleware that does not run the rest of the chain hides the loggers behind it, and loggers
that see nothing leave no trace. The middlewares of this library are all heedless, as are those of
heedless layers. -/
theorem logger_transparent (places : List (Option Stage)) :
    (∀ h view i, passes h (logged places) view i = passes h places.reduceOption view i ∧
      Interleaved (chain places.reduceOption h view i)
        ((seen h places view i).map fun j => .event j.sighting) (chain (logged places) h view i)) ∧
    (∀ i : Interaction, i.sighting.level = .debug ∧ i.sighting.message = "interaction" ∧
      i.sighting.fields = [("user", .text ((i.invoker?.map (·.id)).getD "-")),
        ("channel", .text (i.channelId.getD "-"))]) ∧
    (∀ handlers (x : Exchange) i,
      let before := x.dispatch (router handlers places.reduceOption) i
      let after := x.dispatch (router handlers (logged places)) i
      after.1 = before.1 ∧ after.2 = { before.2 with journal := after.2.journal } ∧
      after.2.takeNotes.1 = before.2.takeNotes.1 ∧
      Interleaved before.2.journal (sightings handlers places x.session.view i)
        after.2.journal) ∧
    (∀ h view i outer stop inner, places = outer ++ some stop :: inner →
      (∀ c ∈ passes (chain (logged (some stop :: inner)) h) (logged outer) view i,
        (stop.plans c.1 c.2).calls (chain (logged inner) h) = []) →
      seen h places view i = seen (chain (logged (some stop :: inner)) h) outer view i) ∧
    (∀ h view i, seen h places view i = [] →
      chain (logged places) h view i = chain places.reduceOption h view i) ∧
    Middleware.logger.Heedless ∧ Middleware.requireAdmin.Heedless ∧
    (∀ name times, (Middleware.bracket name times).Heedless) ∧
    (∀ p, (Middleware.filter p).Heedless) ∧ (∀ reason, (Middleware.failing reason).Heedless) ∧
    (∀ id, (Middleware.rename id).Heedless) ∧
    ∀ l : Layer, l.Heedless → l.middleware.Heedless := by
  refine ⟨fun h => interleaved_chain h places, fun i => ⟨rfl, rfl, rfl⟩, fun handlers x i => ?_,
    fun h view i outer stop inner hplaces hstop => ?_, fun h view i hnone => ?_, ⟨logger, rfl⟩,
    Middleware.heedless_requireAdmin,
    fun name times => Middleware.heedless_of_surrounds fun _ _ =>
      ⟨_, Middleware.surrounds_bracket name times⟩,
    fun p => (Layer.heedless_check _).middleware, fun reason => (Layer.heedless_check _).middleware,
    Middleware.heedless_rename, fun l => Layer.Heedless.middleware⟩
  · intro before after
    obtain ⟨hran, hentries⟩ := interleaved_dispatch handlers places x.session.view i
    have hjournal : Interleaved before.2.journal (sightings handlers places x.session.view i)
        after.2.journal := (Interleaved.nil_right x.journal).append hentries
    refine ⟨hran, ?_, ?_, hjournal⟩
    · exact x.record_of_interleaved hentries fun y hy => (silent_of_mem_sightings hy).2
    · exact hjournal.filterMap_eq fun y hy => (silent_of_mem_sightings hy).1
  · subst hplaces
    refine seen_append fun c hc => ?_
    rw [seen, hstop c hc, List.flatMap_nil]
  · have heffects := (interleaved_chain h places view i).2
    rw [hnone] at heffects
    exact heffects.eq_of_nil

/-- A logger stands before a middleware that runs the rest twice, one behind it, and one behind a
filter that skips everything. The first sees an interaction once, the second twice, the last
never. -/
theorem logger_transparent_skipped :
    let view : SessionView := ⟨none, fun _ _ => .error .notConnected⟩
    let i := Interaction.ofCommand "1" (.ofOptions "ping" [])
    let twice : Stage := ofRings (.bracket "b" 2) _ fun _ _ => Middleware.surrounds_bracket "b" 2
    let never : Stage := ofRings (.filter fun _ => false) (fun _ _ => ⟨[], 0, []⟩) fun _ _ _ =>
      Middleware.filter_of_not_holds rfl
    seen (.record "h") [none, some twice, none, some never, none] view i = [i, i, i] ∧
      chain (logged [some never, none]) (.record "h") view i = chain [never] (.record "h") view i ∧
      (Layer.check fun i => .ok i).middleware.Heedless := by
  intro view i twice never
  obtain ⟨-, -, -, hstop, -⟩ := logger_transparent [none, some twice, none, some never, none]
  obtain ⟨-, -, -, -, hnone, -, -, -, -, -, -, hlayer⟩ := logger_transparent [some never, none]
  refine ⟨?_, hnone (.record "h") view i rfl, hlayer _ (Layer.heedless_check _)⟩
  exact hstop (.record "h") view i [none, some twice, none] never [none] rfl fun c hc => rfl

end Stage

end CommandRouter

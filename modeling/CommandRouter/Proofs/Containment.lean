import CommandRouter.Proofs.Plans

/-!
# Containment of failures

A layer that fails is turned into a handler before anything outside of it sees it, and what it has
inside is a handler turned into a service, which cannot fail. So a failure ends at the layer in
which it occurs: there it is reported once, unless the interaction was merely skipped, and the
middlewares before the layer go on as after any run. Nothing that a layer would do about a failure
inside of it is ever done.
-/

namespace CommandRouter

/-- The effect is the report of a layer that failed. -/
def Effect.isReport : Effect → Bool
  | .event (.layerFailed _) => true
  | _ => false

/-- On this interaction the layer has these effects and fails, without the service inside of it. -/
def Layer.FailsFirst (l : Layer) (view : SessionView) (i : Interaction) (effects : List Effect)
    (e : ServiceError) : Prop := ∀ inner : Service, l inner view i = (effects, some e)

/-- The two layers do the same around services that do not fail. -/
def Layer.SameOnSuccess (l l' : Layer) : Prop :=
  ∀ s : Service, (∀ view i, (s view i).2 = none) → l' s = l s

namespace Middleware

variable {outer inner : List Middleware} {l : Layer} {h next : Handler} {view : SessionView}
  {i : Interaction} {p : Interaction → Bool}

/-! ## One pass -/

theorem layer_eq (l : Layer) (next : Handler) (view : SessionView) (i : Interaction) :
    l.middleware next view i =
      (l next.service view i).1 ++ ServiceError.report (l next.service view i).2 :=
  Service.handler_eq _ view i

theorem layer_of_failsFirst {effects : List Effect} {e : ServiceError}
    (hl : l.FailsFirst view i effects e) :
    l.middleware next view i = effects ++ ServiceError.report (some e) := by
  rw [layer_eq, hl]

/-- A handler as a service does not fail, so only what a layer does on success plays a part. -/
theorem middleware_eq_of_sameOnSuccess {l' : Layer} (hl : l.SameOnSuccess l') :
    l'.middleware = l.middleware := by
  funext next
  rw [Layer.middleware, Layer.middleware, hl next.service fun _ _ => rfl]

theorem filter_of_holds (hp : p i = true) : filter p next view i = next view i := by
  rw [filter, layer_eq]
  simp [Layer.check, hp, Handler.service, ServiceError.report]

theorem failsFirst_filter (hp : p i = false) :
    Layer.FailsFirst (.check fun i => if p i then .ok i else .error .skipped) view i []
      .skipped := by
  intro inner
  simp [Layer.check, hp]

theorem filter_of_not_holds (hp : p i = false) : filter p next view i = [] :=
  layer_of_failsFirst (failsFirst_filter hp)

/-- The passes through a layer have as many reports more than what is done in them as there are
passes in which it fails and the interaction was not skipped. -/
theorem countP_isReport_passes (l : Layer) (next : Handler)
    (calls : List (SessionView × Interaction)) :
    (calls.flatMap fun c => l.middleware next c.1 c.2).countP Effect.isReport =
      (calls.flatMap fun c => (l next.service c.1 c.2).1).countP Effect.isReport +
        calls.countP fun c => (l next.service c.1 c.2).2.any (· != .skipped) := by
  induction calls with
  | nil => rfl
  | cons c calls ih =>
    have hreport : (ServiceError.report (l next.service c.1 c.2).2).countP Effect.isReport =
        if (l next.service c.1 c.2).2.any (· != .skipped) then 1 else 0 := by
      rcases (l next.service c.1 c.2).2 with _ | _ | reason <;> rfl
    rw [List.flatMap_cons, List.flatMap_cons, List.countP_append, List.countP_append,
      List.countP_cons, layer_eq, List.countP_append, hreport, ih]
    omega

/-! ## A layer in a chain -/

/-- What a layer that may fail means for the chain in which it stands. -/
structure Contained (outer : List Middleware) (l : Layer) (inner : List Middleware) (h : Handler) :
    Prop where
  /-- The layers before it, as the layer itself, have something inside that never fails. -/
  unfailing : ∀ view i, ((chain (l.middleware :: inner) h).service view i).2 = none ∧
    ((chain inner h).service view i).2 = none
  /-- What the layer would do about a failure inside of it plays no part. -/
  unobserved : ∀ l', l.SameOnSuccess l' →
    chain (outer ++ l'.middleware :: inner) h = chain (outer ++ l.middleware :: inner) h
  /-- Success and skipping are not reported. -/
  silent : ∀ view i effects err, err = none ∨ err = some .skipped →
    l (chain inner h).service view i = (effects, err) →
      chain (l.middleware :: inner) h view i = effects
  /-- Any other failure is reported by one event, behind all that was done. -/
  reported : ∀ view i effects reason,
    l (chain inner h).service view i = (effects, some (.failed reason)) →
      ∃ e : Event, e.level = .error ∧ e.message = s!"Handler service error: {reason}" ∧
        chain (l.middleware :: inner) h view i = effects ++ [.event e]
  /-- In a pass in which the layer fails first, nothing behind it has a part. -/
  unreached : ∀ view i effects e, l.FailsFirst view i effects e → ∀ inner' h',
    chain (l.middleware :: inner') h' view i = chain (l.middleware :: inner) h view i
  /-- Rings before the layer do their last things, whatever happens in it. -/
  completed : ∀ view i rings, List.Forall₂ (Surrounds view i) outer rings →
    (∀ r ∈ rings, r.times ≠ 0) →
      chain (l.middleware :: inner) h view i ++ rings.reverse.flatMap Ring.after <:+
        chain (outer ++ l.middleware :: inner) h view i
  /-- Middlewares with plans before the layer go through a plan together, whose calls are the passes
  through the layer. -/
  passes : (∀ m ∈ outer, m.Planned) → ∀ view i, ∃ plan, Follows view i (chain outer) plan ∧
    chain (outer ++ l.middleware :: inner) h view i =
      plan.effects (chain (l.middleware :: inner) h)
  /-- If the layer fails first in all passes, nothing behind it has a part in what is done. -/
  unentered : ∀ view i plan, Follows view i (chain outer) plan →
    (∀ c ∈ plan.calls (chain (l.middleware :: inner) h),
      ∃ effects e, l.FailsFirst c.1 c.2 effects e) →
    ∀ inner' h', chain (outer ++ l.middleware :: inner') h' view i =
      chain (outer ++ l.middleware :: inner) h view i
  /-- Besides the reports of others there is one for each pass in which the layer fails and the
  interaction was not skipped. -/
  counted : ∀ view i plan, Follows view i (chain outer) plan →
    (chain (outer ++ l.middleware :: inner) h view i).countP Effect.isReport =
      (plan.own (chain (l.middleware :: inner) h)).countP Effect.isReport +
        (((plan.calls (chain (l.middleware :: inner) h)).flatMap fun c =>
          (l (chain inner h).service c.1 c.2).1).countP Effect.isReport +
        (plan.calls (chain (l.middleware :: inner) h)).countP fun c =>
          (l (chain inner h).service c.1 c.2).2.any (· != .skipped))

theorem contained (outer : List Middleware) (l : Layer) (inner : List Middleware) (h : Handler) :
    Contained outer l inner h := by
  have hpass : ∀ (inner : List Middleware) (h : Handler),
      chain (l.middleware :: inner) h = l.middleware (chain inner h) := fun _ _ => rfl
  constructor
  case unfailing => exact fun view i => ⟨rfl, rfl⟩
  case unobserved =>
    intro l' hl
    rw [middleware_eq_of_sameOnSuccess hl]
  case silent =>
    rintro view i effects err herr hread
    rw [hpass, layer_eq, hread]
    rcases herr with rfl | rfl <;> exact List.append_nil effects
  case reported =>
    intro view i effects reason hread
    refine ⟨.layerFailed reason, rfl, rfl, ?_⟩
    rw [hpass, layer_eq, hread]
    rfl
  case unreached =>
    intro view i effects e hl inner' h'
    rw [hpass, hpass, layer_of_failsFirst hl, layer_of_failsFirst hl]
  case completed =>
    intro view i rings hrings htimes
    rw [chain_append, chain_eq_onion hrings]
    exact suffix_onion htimes
  case passes =>
    intro hplanned view i
    obtain ⟨plans, hplans⟩ := planned_chain hplanned
    exact ⟨plans view i, hplans view i, by rw [chain_append, hplans view i]⟩
  case unentered =>
    intro view i plan hplan hfails inner' h'
    rw [chain_append, chain_append, hplan, hplan]
    refine Plan.effects_congr fun c hc => ?_
    obtain ⟨effects, e, hl⟩ := hfails c hc
    rw [hpass, hpass, layer_of_failsFirst hl, layer_of_failsFirst hl]
  case counted =>
    intro view i plan hplan
    rw [chain_append, hplan, (Plan.effects_perm plan).countP_eq, List.countP_append, hpass,
      countP_isReport_passes]

/-- Failures are contained where they occur, as `Contained` says of every layer at every place in a
chain. A filter is such a layer: an interaction without its property leaves no trace, and where all
interactions that reach it have the property, the chain does what it does without the filter. -/
theorem failures_contained (outer inner : List Middleware) (h : Handler) :
    (∀ l : Layer, Contained outer l inner h ∧ (l.Planned → l.middleware.Planned)) ∧
    ∀ p : Interaction → Bool, (filter p).Planned ∧
      (∀ next view i, p i = false → filter p next view i = []) ∧
      (∀ next view i, p i = true → filter p next view i = next view i) ∧
      ∀ view i plan, Follows view i (chain outer) plan →
        (∀ c ∈ plan.calls (chain inner h), p c.2 = true) →
        chain (outer ++ filter p :: inner) h view i = chain (outer ++ inner) h view i := by
  refine ⟨fun l => ⟨contained outer l inner h, Layer.Planned.middleware⟩, fun p => ?_⟩
  refine ⟨(Layer.planned_check _).middleware, fun next view i => filter_of_not_holds,
    fun next view i => filter_of_holds, fun view i plan hplan hholds => ?_⟩
  rw [chain_append, chain_append, hplan, hplan]
  exact Plan.effects_congr fun c hc => filter_of_holds (hholds c hc)

/-- A layer that is run twice fails twice, and is reported twice; a filter in its place that every
interaction passes changes nothing. Logging, filters, changes of the interaction and layers that
fail may stand before it. -/
theorem failures_contained_twice :
    let view : SessionView := ⟨none, fun _ _ => .error .notConnected⟩
    let i := Interaction.ofCommand "1" (.ofOptions "ping" [])
    let l : Layer := .check fun _ => .error (.failed "down")
    l.FailsFirst view i [] (.failed "down") ∧
      [.event (.layerFailed "down"), .note (.text "twice-after")] <:+
        chain ([bracket "twice" 2] ++ l.middleware :: [bracket "b" 1]) (.record "h") view i ∧
      (chain ([bracket "twice" 2] ++ l.middleware :: [bracket "b" 1]) (.record "h")
        view i).countP Effect.isReport = 2 ∧
      (∀ inner h, chain ([bracket "twice" 2] ++ l.middleware :: inner) h view i =
        chain ([bracket "twice" 2] ++ l.middleware :: [bracket "b" 1]) (.record "h") view i) ∧
      chain ([bracket "twice" 2] ++ filter (fun _ => true) :: [bracket "b" 1]) (.record "h")
          view i =
        chain ([bracket "twice" 2] ++ [bracket "b" 1]) (.record "h") view i ∧
      ∃ plan, Follows view i (chain [logger, filter fun _ => true, rename "2", bracket "a" 3,
        failing "late"]) plan := by
  intro view i l
  obtain ⟨hlayers, hfilters⟩ :=
    failures_contained [bracket "twice" 2] [bracket "b" 1] (.record "h")
  have hbracket : Surrounds view i (bracket "twice" 2) _ := surrounds_bracket "twice" 2
  have hfails : l.FailsFirst view i [] (.failed "down") := fun _ => rfl
  refine ⟨hfails, ?_, ?_, fun inner h => ?_, ?_, ?_⟩
  · exact (hlayers l).1.completed view i _ (.cons hbracket .nil) (by simp)
  · rw [(hlayers l).1.counted view i _ hbracket.follows]
    rfl
  · refine (hlayers l).1.unentered view i _ hbracket.follows (fun c hc => ?_) inner h
    rw [Ring.eq_of_mem_calls hc]
    exact ⟨_, _, hfails⟩
  · exact (hfilters fun _ => true).2.2.2 view i _ hbracket.follows fun _ _ => rfl
  · obtain ⟨plan, hplan, -⟩ := ((failures_contained [logger, filter fun _ => true, rename "2",
      bracket "a" 3, failing "late"] [] (.record "h")).1 l).1.passes (by
        simp only [List.forall_mem_cons]
        exact ⟨planned_logger, (Layer.planned_check _).middleware,
          (Layer.planned_mapRequest _).middleware, planned_bracket "a" 3,
          (Layer.planned_check _).middleware, nofun⟩) view i
    exact ⟨plan, hplan⟩

end Middleware

end CommandRouter

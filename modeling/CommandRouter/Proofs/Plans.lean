import CommandRouter.Proofs.Chains

/-!
# Plans

What a middleware does with an interaction is a *plan*: it has effects of its own and runs the rest
of the chain, any number of times, on any interaction and under any answers of the session, and it
may go on differently after each run. The *calls* of a plan are these runs, in order: the occasions
on which the rest of the chain is reached. A layer has a plan too, which ends in its failure, if it
fails.

A plan learns nothing of the rest of the chain but what was done in its calls. So two handlers that
do the same when they are called serve it alike, and a chain of middlewares with plans has a plan.
-/

namespace CommandRouter

/-- What is done around the runs of a handler. -/
inductive Plan (α : Type) where
  /-- It ends with a result. -/
  | done (result : α)
  /-- It has an effect and goes on. -/
  | act (effect : Effect) (rest : Plan α)
  /-- It runs the handler and goes on, as what was done in the run demands. -/
  | run (view : SessionView) (i : Interaction) (rest : List Effect → Plan α)

namespace Plan

variable {α β : Type} {next next' : Handler}

/-- What is done around the given handler, and in its runs. -/
def effects (next : Handler) : Plan α → List Effect
  | done _ => []
  | act e rest => e :: rest.effects next
  | run view i rest => next view i ++ (rest (next view i)).effects next

/-- With what result the plan ends. -/
def result (next : Handler) : Plan α → α
  | done a => a
  | act _ rest => rest.result next
  | run view i rest => (rest (next view i)).result next

/-- The runs of the given handler. -/
def calls (next : Handler) : Plan α → List (SessionView × Interaction)
  | done _ => []
  | act _ rest => rest.calls next
  | run view i rest => (view, i) :: (rest (next view i)).calls next

/-- What is done around the given handler, without its runs. -/
def own (next : Handler) : Plan α → List Effect
  | done _ => []
  | act e rest => e :: rest.own next
  | run view i rest => (rest (next view i)).own next

/-- What is done is, but for the order, what the plan does and what is done in its calls. -/
theorem effects_perm (plan : Plan α) :
    (plan.effects next).Perm
      (plan.own next ++ (plan.calls next).flatMap fun c => next c.1 c.2) := by
  induction plan with
  | done _ => exact .refl _
  | act e rest ih => exact ih.cons e
  | run view i rest ih =>
    rw [effects, own, calls, List.flatMap_cons]
    exact ((ih (next view i)).append_left _).trans (List.perm_append_comm_assoc _ _ _)

/-- Handlers that do the same whenever they are called serve a plan alike. -/
theorem effects_congr {plan : Plan α} (h : ∀ c ∈ plan.calls next, next' c.1 c.2 = next c.1 c.2) :
    plan.effects next' = plan.effects next := by
  induction plan with
  | done _ => rfl
  | act e rest ih => rw [effects, effects, ih h]
  | run view i rest ih =>
    obtain ⟨hcall, hrest⟩ := List.forall_mem_cons.mp h
    rw [effects, effects, hcall, ih (next view i) hrest]

/-! ## One plan after another -/

/-- The plan that goes through the given effects. -/
def acts (es : List Effect) (rest : Plan α) : Plan α := es.foldr act rest

@[simp] theorem effects_acts (es : List Effect) (rest : Plan α) :
    (acts es rest).effects next = es ++ rest.effects next := by
  induction es with
  | nil => rfl
  | cons e es ih => rw [acts, List.foldr_cons, effects, ← acts, ih, List.cons_append]

theorem calls_acts (es : List Effect) (rest : Plan α) :
    (acts es rest).calls next = rest.calls next := by
  induction es with
  | nil => rfl
  | cons e es ih => rw [acts, List.foldr_cons, calls, ← acts, ih]

/-- The plan that runs the handler so many times. -/
def runs (view : SessionView) (i : Interaction) (rest : Plan α) : Nat → Plan α
  | 0 => rest
  | n + 1 => run view i fun _ => runs view i rest n

theorem effects_runs (view : SessionView) (i : Interaction) (rest : Plan α) (n : Nat) :
    (runs view i rest n).effects next =
      (List.replicate n (next view i)).flatten ++ rest.effects next := by
  induction n with
  | zero => rfl
  | succ n ih =>
    rw [runs, effects, ih, List.replicate_succ, List.flatten_cons, List.append_assoc]

theorem calls_runs (view : SessionView) (i : Interaction) (rest : Plan α) (n : Nat) :
    (runs view i rest n).calls next = List.replicate n (view, i) ++ rest.calls next := by
  induction n with
  | zero => rfl
  | succ n ih => rw [runs, calls, ih, List.replicate_succ, List.cons_append]

/-- A plan and then another, which may depend on what was done in the first and on its result. -/
def andThen : Plan α → (List Effect → α → Plan β) → Plan β
  | done a, k => k [] a
  | act e rest, k => act e (rest.andThen fun es a => k (e :: es) a)
  | run view i rest, k => run view i fun es => (rest es).andThen fun es' a => k (es ++ es') a

theorem effects_andThen (plan : Plan α) (k : List Effect → α → Plan β) :
    (plan.andThen k).effects next = plan.effects next ++
      (k (plan.effects next) (plan.result next)).effects next := by
  induction plan generalizing k with
  | done a => rfl
  | act e rest ih => rw [andThen, effects, ih, effects, result, List.cons_append]
  | run view i rest ih => rw [andThen, effects, ih, effects, result, List.append_assoc]

/-- The plan with each run replaced by a run inside of another plan. -/
def within (plans : SessionView → Interaction → Plan Unit) : Plan α → Plan α
  | done a => done a
  | act e rest => act e (rest.within plans)
  | run view i rest => (plans view i).andThen fun es _ => (rest es).within plans

theorem effects_within (plan : Plan α) (plans : SessionView → Interaction → Plan Unit) :
    (plan.within plans).effects next =
      plan.effects fun view i => (plans view i).effects next := by
  induction plan with
  | done a => rfl
  | act e rest ih => rw [within, effects, ih, effects]
  | run view i rest ih => rw [within, effects_andThen, ih, effects]

end Plan

/-! ## Middlewares and layers with plans -/

/-- For this interaction the middleware goes through the plan, whatever is next. -/
def Middleware.Follows (view : SessionView) (i : Interaction) (m : Middleware) (plan : Plan Unit) :
    Prop := ∀ next, m next view i = plan.effects next

/-- The middleware has a plan for every interaction. -/
def Middleware.Planned (m : Middleware) : Prop :=
  ∃ plans : SessionView → Interaction → Plan Unit, ∀ view i, m.Follows view i (plans view i)

/-- The layer has a plan for every interaction, around services that do not fail. -/
def Layer.Planned (l : Layer) : Prop :=
  ∃ plans : SessionView → Interaction → Plan (Option ServiceError),
    ∀ (next : Handler) view i,
      l next.service view i = ((plans view i).effects next, (plans view i).result next)

/-- The effects by which a service that becomes a handler reports how it ended. -/
def ServiceError.report : Option ServiceError → List Effect
  | some (failed reason) => [.event (.layerFailed reason)]
  | _ => []

/-- A service as a handler does what it does and reports how it ended. -/
theorem Service.handler_eq (s : Service) (view : SessionView) (i : Interaction) :
    s.handler view i = (s view i).1 ++ ServiceError.report (s view i).2 := by
  rcases h : s view i with ⟨effects, _ | _ | reason⟩ <;>
    simp [Service.handler, h, ServiceError.report]

/-- The plan of a layer as a middleware: how it ended is reported. -/
def Plan.reporting (plan : Plan (Option ServiceError)) : Plan Unit :=
  plan.andThen fun _ err => acts (ServiceError.report err) (done ())

/-- The middleware of a layer with plans follows them. -/
theorem Layer.follows_reporting {l : Layer}
    {plans : SessionView → Interaction → Plan (Option ServiceError)}
    (h : ∀ (next : Handler) view i,
      l next.service view i = ((plans view i).effects next, (plans view i).result next))
    (view : SessionView) (i : Interaction) :
    l.middleware.Follows view i (plans view i).reporting := by
  intro next
  rw [Layer.middleware, Service.handler_eq, h, Plan.reporting, Plan.effects_andThen,
    Plan.effects_acts, Plan.effects, List.append_nil]

theorem Layer.Planned.middleware {l : Layer} (h : l.Planned) : l.middleware.Planned := by
  obtain ⟨plans, hplans⟩ := h
  exact ⟨fun view i => (plans view i).reporting, Layer.follows_reporting hplans⟩

namespace Middleware

/-- A chain of middlewares with plans has a plan. -/
theorem planned_chain {ms : List Middleware} (h : ∀ m ∈ ms, m.Planned) : Planned (chain ms) := by
  induction ms with
  | nil =>
    refine ⟨fun view i => .run view i fun _ => .done (), fun view i next => ?_⟩
    rw [Plan.effects, Plan.effects, List.append_nil]
    rfl
  | cons m ms ih =>
    obtain ⟨⟨outer, houter⟩, hms⟩ := List.forall_mem_cons.mp h
    obtain ⟨inner, hinner⟩ := ih hms
    refine ⟨fun view i => (outer view i).within inner, fun view i next => ?_⟩
    have hrest : chain ms next = fun view i => (inner view i).effects next := by
      funext view i
      exact hinner view i next
    calc chain (m :: ms) next view i = m (chain ms next) view i := rfl
      _ = (outer view i).effects (chain ms next) := houter view i (chain ms next)
      _ = ((outer view i).within inner).effects next := by rw [hrest, Plan.effects_within]

/-- The plan of a ring. -/
def Ring.plan (r : Ring) (view : SessionView) (i : Interaction) : Plan Unit :=
  .acts r.before (.runs view i (.acts r.after (.done ())) r.times)

/-- A middleware that surrounds the rest of the chain with a ring follows its plan. -/
theorem Surrounds.follows {view : SessionView} {i : Interaction} {m : Middleware} {r : Ring}
    (h : Surrounds view i m r) : m.Follows view i (r.plan view i) := by
  intro next
  rw [h next, Ring.plan, Plan.effects_acts, Plan.effects_runs, Plan.effects_acts, Plan.effects,
    List.append_nil, List.append_assoc]

/-- A ring runs the rest of the chain on the interaction as it is. -/
theorem Ring.eq_of_mem_calls {r : Ring} {view : SessionView} {i : Interaction} {next : Handler}
    {c : SessionView × Interaction} (h : c ∈ (r.plan view i).calls next) : c = (view, i) := by
  rw [plan, Plan.calls_acts, Plan.calls_runs, Plan.calls_acts, Plan.calls, List.append_nil] at h
  exact List.eq_of_mem_replicate h

theorem planned_bracket (name : String) (times : Nat) : (bracket name times).Planned :=
  ⟨fun view i => Ring.plan ⟨_, times, _⟩ view i, fun _ _ => (surrounds_bracket name times).follows⟩

theorem planned_logger : logger.Planned :=
  ⟨fun view i => .act (.event (.interactionSeen ((i.invoker?.map (·.id)).getD "-")
    (i.channelId.getD "-"))) (.run view i fun _ => .done ()), fun view i next => by
      simp [logger, Plan.effects]⟩

end Middleware

namespace Layer

/-- The plan of a check with the given outcome. -/
def checkPlan (view : SessionView) : Except ServiceError Interaction → Plan (Option ServiceError)
  | .ok i => .run view i fun _ => .done none
  | .error e => .done (some e)

theorem check_eq_checkPlan (f : Interaction → Except ServiceError Interaction) (next : Handler)
    (view : SessionView) (i : Interaction) : check f next.service view i =
      ((checkPlan view (f i)).effects next, (checkPlan view (f i)).result next) := by
  cases hf : f i with
  | ok j => simp [check, checkPlan, hf, Plan.effects, Plan.result, Handler.service]
  | error e => simp [check, checkPlan, hf, Plan.effects, Plan.result]

theorem planned_check (f : Interaction → Except ServiceError Interaction) : (check f).Planned :=
  ⟨fun view i => checkPlan view (f i), check_eq_checkPlan f⟩

/-- A change of the interaction is a check that all of them pass, changed. -/
theorem mapRequest_eq_check (f : Interaction → Interaction) :
    mapRequest f = check fun i => .ok (f i) := rfl

theorem planned_mapRequest (f : Interaction → Interaction) : (mapRequest f).Planned := by
  rw [mapRequest_eq_check]
  exact planned_check _

end Layer

end CommandRouter

import CommandRouter.Proofs.Declarations
import CommandRouter.Router.Instruments

/-!
# Routing

What a bot publishes and what it routes agree. An invocation reaches a handler exactly if the tree
of commands has a leaf where its options lead, and the handler is the one that was declared for it.
-/

namespace CommandRouter

namespace Bot

variable {b : Bot} {routes : List (Pattern × Handler)} {scope : Scope} {script : List Declaration}
  {view : SessionView} {i : Interaction} {d : CommandData} {path : List String}

/-- The tree of the bot has a leaf to which the names lead. -/
def Publishes (b : Bot) (names : List String) : Prop := ∃ l ∈ b.registry.leaves, l.names = names

instance (b : Bot) (names : List String) : Decidable (b.Publishes names) :=
  inferInstanceAs (Decidable (∃ l ∈ _, _))

theorem Serves.publishes_iff (hb : b.Serves routes) {names : List String} :
    b.Publishes names ↔ ∃ r ∈ routes, r.1.segments = names := by
  constructor
  · rintro ⟨l, hl, rfl⟩
    obtain ⟨r, hr, rfl⟩ := hb.mem_leaves_iff.mp hl
    exact ⟨r, hr, rfl⟩
  · rintro ⟨r, hr, rfl⟩
    exact ⟨r.1.leaf, hb.mem_leaves_iff.mpr ⟨r, hr, rfl⟩, rfl⟩

/-- The result is that of the one accepted route to the names: of its handler, inside all
middlewares of the script, wherever they are declared. -/
def RunsRoute (scope : Scope) (script : List Declaration) (view : SessionView) (i : Interaction)
    (names : List String) (result : Bool × List Entry) : Prop :=
  ∃ n p h, RouteAt scope script n p h ∧ p.segments = names ∧
    (∀ m p' h', RouteAt scope script m p' h' → p'.segments = names → m = n) ∧
    result = (true, (Middleware.chain (script.flatMap Declaration.middlewares) h view i).map
      (Effect.entry (some p.key)))

/-! ## Interactions that reach no handler -/

/-- An interaction without a command is ignored. -/
theorem dispatch_of_no_command (r : Router) (h : i.command? = none) :
    r.dispatch view i = (false, [.event (.interactionIgnored i.id i.kind) none]) := by
  rw [Router.dispatch, h]

/-- A command under whose key no leaf is published has no handler. -/
theorem Serves.dispatch_unpublished (hb : b.Serves routes) (h : i.command? = some d)
    (hkey : ∀ name path, b.Publishes (name :: path) → DispatchKey.ofPath name path ≠ d.key) :
    b.router.dispatch view i = (false, [.event .handlerMissing (some d.key)]) := by
  have hnone : b.router.handler? d.key = none := by
    rw [hb.handler?_eq_none_iff]
    intro r hr
    exact hkey r.1.name r.1.path (hb.publishes_iff.mpr ⟨r, hr, rfl⟩)
  rw [Router.dispatch, h]
  simp only [hnone]

/-! ## Invocations -/

/-- An invocation finds the handler of the route with its names. -/
theorem Serves.handler?_of_leadAlong (hb : b.Serves routes)
    (hlead : DataOption.LeadAlong d.options path) (hnames : ∀ s ∈ d.name :: path, Pattern.IsName s)
    (hpub : b.Publishes (d.name :: path)) :
    ∃ p h, (p, h) ∈ routes ∧ p.segments = d.name :: path ∧ p.key = d.key ∧
      b.router.handler? d.key = some h := by
  have hkey : d.key = .ofPath d.name path := by rw [CommandData.key, hlead.path_eq]
  cases hh : b.router.handler? d.key with
  | none =>
    obtain ⟨r, hr, hsegments⟩ := hb.publishes_iff.mp hpub
    obtain ⟨hname, hpath⟩ := List.cons.inj hsegments
    refine absurd ?_ (hb.handler?_eq_none_iff.mp hh r hr)
    rw [hkey, Pattern.key, hname, hpath]
  | some h =>
    obtain ⟨p, hp, hpkey⟩ := hb.mem_of_handler? hh
    exact ⟨p, h, hp, segments_eq_of_key (hb.wellFormed _ hp) hnames (hpkey.trans hkey), hpkey, rfl⟩

/-- A handler that is found for an interaction runs as that of its route. -/
theorem runsRoute_of_handler? {n : Nat} {p : Pattern} {h : Handler} (hcommand : i.command? = some d)
    (hn : RouteAt scope script n p h) (hkey : p.key = d.key)
    (hh : (ofScript scope script).router.handler? d.key = some h) :
    RunsRoute scope script view i p.segments
      ((ofScript scope script).router.dispatch view i) := by
  refine ⟨n, p, h, hn, rfl, fun m p' h' hm hsegments => hm.unique hn hsegments, ?_⟩
  rw [Router.dispatch, hcommand, ← middlewares_ofScript scope script, hkey]
  simp only [hh]

/-- What is published is routed, to the handler that was declared for it. -/
theorem runsRoute_of_publishes (h : i.command? = some d)
    (hlead : DataOption.LeadAlong d.options path) (hnames : ∀ s ∈ d.name :: path, Pattern.IsName s)
    (hpub : (ofScript scope script).Publishes (d.name :: path)) :
    RunsRoute scope script view i (d.name :: path)
      ((ofScript scope script).router.dispatch view i) := by
  obtain ⟨routes, hb, hroutes⟩ := exists_serves scope script
  obtain ⟨p, handler, hp, hsegments, hkey, hh⟩ := hb.handler?_of_leadAlong hlead hnames hpub
  obtain ⟨n, hn⟩ := (hroutes p handler).mp hp
  rw [← hsegments]
  exact runsRoute_of_handler? h hn hkey hh

/-- Only what is published is routed. -/
theorem Serves.publishes_of_dispatch (hb : b.Serves routes) (h : i.command? = some d)
    (hlead : DataOption.LeadAlong d.options path) (hnames : ∀ s ∈ d.name :: path, Pattern.IsName s)
    (hran : (b.router.dispatch view i).1 = true) : b.Publishes (d.name :: path) := by
  have hkey : d.key = .ofPath d.name path := by rw [CommandData.key, hlead.path_eq]
  by_contra hpub
  rw [hb.dispatch_unpublished h ?_] at hran
  · cases hran
  · intro name path' hpub' heq
    obtain ⟨r, hr, hsegments⟩ := hb.publishes_iff.mp hpub'
    obtain ⟨hname, hpath⟩ := List.cons.inj hsegments
    rw [← hname, ← hpath, hkey] at heq
    exact hpub (hb.publishes_iff.mpr ⟨r, hr, segments_eq_of_key (hb.wellFormed _ hr) hnames heq⟩)

/-- Publication and routing agree. An interaction without a command, or with one under whose key
nothing is published, reaches no handler and no middleware. Any other reaches a handler exactly if a
leaf is published where its options lead: that of the one accepted route to the leaf, inside all
middlewares of the script. -/
theorem dispatch_iff_published (scope : Scope) (script : List Declaration) (view : SessionView)
    (i : Interaction) :
    (i.kind ≠ .applicationCommand ∧ i.kind ≠ .autocomplete ∨ i.data = none →
      (ofScript scope script).router.dispatch view i =
        (false, [.event (.interactionIgnored i.id i.kind) none])) ∧
    ∀ d, (i.kind = .applicationCommand ∨ i.kind = .autocomplete) → i.data = some d →
      ((∀ name path, (ofScript scope script).Publishes (name :: path) →
          DispatchKey.ofPath name path ≠ d.key) →
        (ofScript scope script).router.dispatch view i =
          (false, [.event .handlerMissing (some d.key)])) ∧
      ∀ path, DataOption.LeadAlong d.options path → (∀ s ∈ d.name :: path, Pattern.IsName s) →
        (((ofScript scope script).router.dispatch view i).1 = true ↔
          (ofScript scope script).Publishes (d.name :: path)) ∧
        ((ofScript scope script).Publishes (d.name :: path) →
          RunsRoute scope script view i (d.name :: path)
            ((ofScript scope script).router.dispatch view i)) := by
  obtain ⟨routes, hb, -⟩ := exists_serves scope script
  refine ⟨fun hnot => dispatch_of_no_command _ ?_, fun d hkind hdata => ?_⟩
  · rcases hnot with ⟨hcommand, hautocomplete⟩ | hdata
    · unfold Interaction.command?
      cases hkind : i.kind <;> simp_all [InteractionType.isCommand]
    · simp [Interaction.command?, hdata]
  · have hcommand : i.command? = some d := by
      rcases hkind with hkind | hkind <;>
        simp [Interaction.command?, InteractionType.isCommand, hkind, hdata]
    refine ⟨hb.dispatch_unpublished hcommand, fun path hlead hnames => ⟨⟨?_, fun hpub => ?_⟩, ?_⟩⟩
    · exact hb.publishes_of_dispatch hcommand hlead hnames
    · obtain ⟨n, p, h, -, -, -, hdispatch⟩ :=
        @runsRoute_of_publishes scope script view i d path hcommand hlead hnames hpub
      rw [hdispatch]
    · exact runsRoute_of_publishes hcommand hlead hnames

/-- A sub-command of a group is routed through a middleware that is declared after it. -/
theorem dispatch_through_later_middleware :
    RunsRoute .everywhere [.handle "/a g s x:string" (.record "first"),
        .handle "/a g" (.record "second"), .use [.bracket "outer" 1]]
      ⟨none, fun _ _ => .error .notConnected⟩
      (.ofCommand "1" (.ofPath "a" ["g", "s"] [.ofValue "x" .string (.string "v")]))
      ["a", "g", "s"]
      ((ofScript .everywhere [.handle "/a g s x:string" (.record "first"),
        .handle "/a g" (.record "second"), .use [.bracket "outer" 1]]).router.dispatch
        ⟨none, fun _ _ => .error .notConnected⟩
        (.ofCommand "1" (.ofPath "a" ["g", "s"] [.ofValue "x" .string (.string "v")]))) := by
  have hlead : DataOption.LeadAlong
      (CommandData.ofPath "a" ["g", "s"] [.ofValue "x" .string (.string "v")]).options
      ["g", "s"] := DataOption.leadAlong_ofPath (by simp) (by simp [DataOption.ofValue,
        OptionType.isNesting])
  have hroute := ((dispatch_iff_published .everywhere [.handle "/a g s x:string" (.record "first"),
      .handle "/a g" (.record "second"), .use [.bracket "outer" 1]]
      ⟨none, fun _ _ => .error .notConnected⟩ (.ofCommand "1" (.ofPath "a" ["g", "s"]
        [.ofValue "x" .string (.string "v")]))).2 _ (Or.inl rfl) rfl).2 ["g", "s"] hlead
  exact (hroute (by decide)).2 (by decide)

end Bot

end CommandRouter

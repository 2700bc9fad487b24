import CommandRouter.Proofs.Routing
import CommandRouter.Proofs.WireRoundTrip

/-!
# Payloads

Nothing is checked in the command of an interaction before it is routed. The platform is trusted to
send names without spaces, and one sub-command below a group; whatever else is sent is routed by the
names that are read off from it. The handler that runs may then be that of another way than the one
on which the payload lies. But the names that were read spell those of its pattern, and they are
those of its pattern if no space stands in them.
-/

namespace CommandRouter

/-! ## The way of a payload -/

namespace CommandData

/-- The way on which the payload lies: that of its first option if this is a sub-command, or a group
that begins with one. A group that does not has none. -/
def way? (d : CommandData) : Option (List String) :=
  match d.options.head? with
  | none => some []
  | some first =>
    match first.kind with
    | .subCommandGroup =>
      (first.options.head?.filter fun sub => sub.kind == .subCommand).map fun sub =>
        [first.name, sub.name]
    | .subCommand => some [first.name]
    | _ => some []

/-- The way of a payload that has one is the path that is read off from it. -/
theorem path_of_way? {d : CommandData} {path : List String} (h : d.way? = some path) :
    d.path = path := by
  unfold way? at h
  unfold CommandData.path
  cases hfirst : d.options.head? with
  | none => simpa [hfirst] using h
  | some first =>
    rw [hfirst] at h
    cases hkind : first.kind with
    | subCommandGroup =>
      simp only [hkind, Option.map_eq_some_iff, Option.filter_eq_some_iff] at h
      obtain ⟨sub, ⟨hsub, -⟩, rfl⟩ := h
      simp [hkind, hsub]
    | _ => simpa [hkind] using h

end CommandData

/-! ## The route of a payload -/

namespace Bot

variable {scope : Scope} {script : List Declaration} {view : SessionView} {i : Interaction}

/-- Where a handler runs, it is that of one accepted route, and its key is that of the payload. -/
theorem exists_runsRoute_of_dispatch
    (hran : ((ofScript scope script).router.dispatch view i).1 = true) :
    ∃ d, ∃ p : Pattern, i.command? = some d ∧ p.WellFormed ∧ p.key = d.key ∧
      RunsRoute scope script view i p.segments
        ((ofScript scope script).router.dispatch view i) := by
  obtain ⟨routes, hb, hroutes⟩ := exists_serves scope script
  cases hcommand : i.command? with
  | none =>
    rw [dispatch_of_no_command _ hcommand] at hran
    cases hran
  | some d =>
    cases hh : (ofScript scope script).router.handler? d.key with
    | none =>
      rw [Router.dispatch, hcommand] at hran
      simp only [hh] at hran
      cases hran
    | some h =>
      obtain ⟨p, hp, hkey⟩ := hb.mem_of_handler? hh
      obtain ⟨n, hn⟩ := (hroutes p h).mp hp
      exact ⟨d, p, rfl, hb.wellFormed _ hp, hkey, runsRoute_of_handler? hcommand hn hkey hh⟩

/-- The names that are read off from a payload spell the names of the pattern with its key. -/
theorem flatMap_namesIn_of_key {p : Pattern} {d : CommandData} (hp : p.WellFormed)
    (hkey : p.key = d.key) : (d.name :: d.path).flatMap Text.namesIn = p.segments := by
  have hnames : ∀ s ∈ p.segments, ' ' ∉ s.toList :=
    List.forall_mem_cons.mpr ⟨hp.name.not_mem (by decide),
      fun s hs => (hp.path s hs).not_mem (by decide)⟩
  have hspelled : p.segments.flatMap Text.namesIn = (d.name :: d.path).flatMap Text.namesIn :=
    DispatchKey.flatMap_namesIn_of_ofPath hkey
  rw [← hspelled, Text.flatMap_namesIn_of_not_mem hnames]

/-- Payloads that do not lie on the way of the pattern whose handler runs for them: a name with a
space in it, a group without a sub-command, and a group with a value. All can be received. -/
theorem runsRoute_of_foreign_payloads :
    let script : List Declaration :=
      [.handle "/math add" (.record "add"), .handle "/echo two layers" (.record "layers")]
    let view : SessionView := ⟨none, fun _ _ => .error .notConnected⟩
    let spaced := CommandData.ofOptions "math add" []
    let childless := CommandData.ofOptions "math" [{ name := "add", kind := .subCommandGroup }]
    let valued :=
      CommandData.ofOptions "echo" [.group "two" (.ofValue "layers" .boolean (.bool true))]
    let runs (d : CommandData) (names : List String) : Prop :=
      Interaction.codec.decode.ofJson (Interaction.ofCommand "1" d).encode =
          .ok (.ofCommand "1" d) ∧
        RunsRoute .everywhere script view (.ofCommand "1" d) names
          ((ofScript .everywhere script).router.dispatch view (.ofCommand "1" d))
    (runs spaced ["math", "add"] ∧ spaced.name ≠ "math" ∧ spaced.way? ≠ some ["add"]) ∧
      (runs childless ["math", "add"] ∧ childless.way? = none) ∧
      (runs valued ["echo", "two", "layers"] ∧ valued.way? = none) := by
  intro script view spaced childless valued runs
  have hruns : ∀ (d : CommandData) names, (∀ o ∈ d.options, o.Lasting) →
      (d.name :: d.path).flatMap Text.namesIn = names →
      ((ofScript .everywhere script).router.dispatch view (.ofCommand "1" d)).1 = true →
      runs d names := by
    intro d names hlasting hnames hran
    obtain ⟨d', p, hcommand, hp, hkey, hroute⟩ := exists_runsRoute_of_dispatch hran
    cases hcommand
    rw [← flatMap_namesIn_of_key hp hkey, hnames] at hroute
    refine ⟨(Interaction.restores ?_).ofJson, hroute⟩
    rintro d' ⟨⟩
    exact hlasting
  refine ⟨⟨hruns spaced _ nofun (by decide) (by decide), by decide, by decide⟩,
    ⟨hruns childless _ ?_ (by decide) (by decide), by decide⟩,
    ⟨hruns valued _ ?_ (by decide) (by decide), by decide⟩⟩
  · exact List.forall_mem_singleton.mpr (.intro nofun nofun)
  · refine List.forall_mem_singleton.mpr (.intro nofun (List.forall_mem_singleton.mpr ?_))
    refine .intro ?_ nofun
    rintro j ⟨⟩
    exact ⟨nofun, .bool true⟩

/-- Where a handler runs, it is that of exactly one accepted route, inside all middlewares of the
script, and the names that are read off from the payload spell those of its pattern. If no space
stands in them, they are the names of the pattern, and so is the way of the payload, if it has
one. -/
theorem dispatch_to_spelled_route (scope : Scope) (script : List Declaration) (view : SessionView)
    (i : Interaction) (hran : ((ofScript scope script).router.dispatch view i).1 = true) :
    ∃ d n p h, i.command? = some d ∧ RouteAt scope script n p h ∧
      (∀ m p' h', RouteAt scope script m p' h' → p'.segments = p.segments → m = n) ∧
      (ofScript scope script).router.dispatch view i =
        (true, (Middleware.chain (script.flatMap Declaration.middlewares) h view i).map
          (Effect.entry (some p.key))) ∧
      (d.name :: d.path).flatMap Text.namesIn = p.segments ∧
      ((∀ s ∈ d.name :: d.path, ' ' ∉ s.toList) →
        d.name = p.name ∧ d.path = p.path ∧ ∀ path, d.way? = some path → path = p.path) := by
  obtain ⟨d, p, hcommand, hp, hkey, n, p', h, hn, hsegments, hunique, hresult⟩ :=
    exists_runsRoute_of_dispatch hran
  have hspelled := flatMap_namesIn_of_key hp hkey
  rw [← hsegments] at hspelled
  refine ⟨d, n, p', h, hcommand, hn, fun m q h' hm hq => ?_, hresult, hspelled, fun hspaces => ?_⟩
  · exact hunique m q h' hm (hq.trans hsegments)
  · rw [Text.flatMap_namesIn_of_not_mem hspaces] at hspelled
    obtain ⟨hname, hpath⟩ := List.cons.inj hspelled
    refine ⟨hname, hpath, fun path hway => ?_⟩
    rw [← CommandData.path_of_way? hway, hpath]

/-- The payload of a sub-command of a group. -/
theorem dispatch_to_spelled_route_in_group :
    let script : List Declaration :=
      [.handle "/a g s x:string" (.record "first"), .use [.bracket "outer" 1]]
    let view : SessionView := ⟨none, fun _ _ => .error .notConnected⟩
    let i := Interaction.ofCommand "1" (.ofPath "a" ["g", "s"] [.ofValue "x" .string (.string "v")])
    ((ofScript .everywhere script).router.dispatch view i).1 = true ∧
      ∃ n p h, RouteAt .everywhere script n p h ∧ p.name = "a" ∧ p.path = ["g", "s"] := by
  intro script view i
  have hran : ((ofScript .everywhere script).router.dispatch view i).1 = true := by decide
  obtain ⟨d, n, p, h, hcommand, hn, -, -, -, hnames⟩ :=
    dispatch_to_spelled_route .everywhere script view i hran
  cases hcommand
  obtain ⟨hname, hpath, -⟩ := hnames (by decide)
  exact ⟨hran, n, p, h, hn, hname.symm, hpath.symm⟩

end Bot

end CommandRouter

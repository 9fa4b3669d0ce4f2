import MobileGs.Wfb.Demux

/-!
# The session flag

`session_established` is to say that a session packet of the air unit was accepted. The sink reads
it off wfb-ng's count of session packets, and `TakeSnapshot` clears that count. What is left is the
flag `session_seen_`, which is set by the first payload. So a snapshot between the session packet
and the first payload loses the session (`not_established_snapshot`), and only such a snapshot does
(`established_iff`).

Of the aggregator only its count of session packets is assumed (`CountsSessions`).
-/

set_option autoImplicit false

namespace MobileGs

namespace Wfb

open WfbReceiver

variable {σ : Type} (aggregator : Aggregator σ)

/-- wfb-ng counts the session packets it accepts, from zero, and `clear_stats` clears the count. -/
structure CountsSessions (acceptsSession : σ → RxPacket → Bool) : Prop where
  create : ∀ {keyFile epoch channelId created},
    aggregator.create keyFile epoch channelId = .ok created →
      (aggregator.counters created).countPSession = 0
  processPacket : ∀ state packet,
    (aggregator.counters (aggregator.processPacket state packet).1).countPSession =
      (aggregator.counters state).countPSession +
        if acceptsSession state packet = true then 1 else 0
  clearStats : ∀ state, (aggregator.counters (aggregator.clearStats state)).countPSession = 0

variable (acceptsSession : σ → RxPacket → Bool)

/-- The event is a session packet that the primary sink accepts. -/
def AcceptsSession (receiver : WfbReceiver σ) (event : Event) : Prop :=
  ∃ data frameMeta sink, event = .frame data frameMeta ∧
    Belongs receiver.radio.linkId receiver.primaryPort data ∧
    receiver.sinks receiver.primaryPort = some sink ∧
    acceptsSession sink.aggregator (rxPacket aggregator data frameMeta) = true

/-- A session packet of the primary stream was accepted in a run. -/
def SessionAccepted (receiver : WfbReceiver σ) (events : List Event) : Prop :=
  ∃ earlier event later, events = earlier ++ event :: later ∧
    AcceptsSession aggregator acceptsSession ((machine aggregator).after receiver earlier) event

/-- The receiver says that a session is established, and so would a snapshot. -/
def Established (receiver : WfbReceiver σ) : Prop :=
  receiver.sessionEstablished aggregator = true ∧
    ∀ nowMs, (receiver.takeSnapshot aggregator nowMs).2.sessionEstablished = true

/-- A snapshot finds that a payload was received, or that there is no session packet to forget. -/
def Settled (receiver : WfbReceiver σ) (event : Event) : Prop :=
  ∀ nowMs, event = .snapshot nowMs → ∀ sink, receiver.sinks receiver.primaryPort = some sink →
    sink.sessionSeen = true ∨ (aggregator.counters sink.aggregator).countPSession = 0

/-! ## The flag -/

/-- What no path changes in a snapshot: anything but its antennas and its best values. -/
theorem foldl_collect {β : Type} (field : LinkSnapshot → β)
    (keeps : ∀ (snapshot : LinkSnapshot) antennas bestRssi bestSnr numAntennas,
      field { snapshot with antennas, bestRssi, bestSnr, numAntennas } = field snapshot)
    (snapshot : LinkSnapshot) (accs : List PathAccumulator) :
    field (accs.foldl LinkSnapshot.collect snapshot) = field snapshot := by
  induction accs generalizing snapshot with
  | nil => rfl
  | cons acc rest ih =>
      rw [List.foldl_cons, ih, LinkSnapshot.collect]
      split
      · rfl
      · exact keeps snapshot _ _ _ _

theorem sessionEstablished_foldl (snapshot : LinkSnapshot) (accs : List PathAccumulator) :
    (accs.foldl LinkSnapshot.collect snapshot).sessionEstablished =
      snapshot.sessionEstablished :=
  foldl_collect LinkSnapshot.sessionEstablished (fun _ _ _ _ _ => rfl) snapshot accs

/-- A snapshot says what the receiver says. -/
theorem established_iff_of_sink {receiver : WfbReceiver σ} {sink : Sink σ}
    (registered : receiver.sinks receiver.primaryPort = some sink) :
    Established aggregator receiver ↔
      0 < (aggregator.counters sink.aggregator).countPSession ∨ sink.sessionSeen = true := by
  have flag : receiver.sessionEstablished aggregator = sink.sessionEstablished aggregator := by
    rw [sessionEstablished, registered]
    rfl
  have snapshot : ∀ nowMs, (receiver.takeSnapshot aggregator nowMs).2.sessionEstablished =
      sink.sessionEstablished aggregator := by
    intro nowMs
    rw [takeSnapshot, sessionEstablished_foldl, countersSnapshot, registered]
  have reads : sink.sessionEstablished aggregator = true ↔
      0 < (aggregator.counters sink.aggregator).countPSession ∨ sink.sessionSeen = true := by
    rw [Sink.sessionEstablished, Bool.or_eq_true, decide_eq_true_iff]
  constructor
  · rintro ⟨established, -⟩
    rwa [flag, reads] at established
  · intro either
    refine ⟨by rwa [flag, reads], fun nowMs => ?_⟩
    rwa [snapshot, reads]

theorem sessionAccepted_concat (receiver : WfbReceiver σ) (events : List Event) (event : Event) :
    SessionAccepted aggregator acceptsSession receiver (events ++ [event]) ↔
      SessionAccepted aggregator acceptsSession receiver events ∨
        AcceptsSession aggregator acceptsSession ((machine aggregator).after receiver events)
          event := by
  constructor
  · rintro ⟨earlier, other, later, split, accepts⟩
    rcases Mealy.split_concat split with ⟨rfl, rfl⟩ | ⟨front, inside⟩
    · exact .inr accepts
    · exact .inl ⟨earlier, other, front, inside, accepts⟩
  · rintro (⟨earlier, other, later, rfl, accepts⟩ | accepts)
    · exact ⟨earlier, other, later ++ [event], by simp, accepts⟩
    · exact ⟨events, event, [], rfl, accepts⟩

/-! ## Runs -/

/-- Behind an accepted session packet the primary sink says so, and before it has counted none. -/
structure Kept (accepted : Prop) (receiver : WfbReceiver σ) (sink : Sink σ) : Prop where
  registered : receiver.sinks receiver.primaryPort = some sink
  said : accepted →
    0 < (aggregator.counters sink.aggregator).countPSession ∨ sink.sessionSeen = true
  uncounted : ¬ accepted → (aggregator.counters sink.aggregator).countPSession = 0

variable {aggregator acceptsSession}

/-- A frame of the primary stream counts if it is a session packet, and a payload sets the flag. -/
theorem Kept.processFrame (counts : CountsSessions aggregator acceptsSession) {accepted : Prop}
    {receiver : WfbReceiver σ} {sink : Sink σ} (kept : Kept aggregator accepted receiver sink)
    (heard : Heard) :
    ∃ sink', Kept aggregator
      (accepted ∨ AcceptsSession aggregator acceptsSession receiver (.frame heard.1 heard.2))
      (receiver.processFrame aggregator heard.1 heard.2).1 sink' := by
  obtain ⟨registered, said, uncounted⟩ := kept
  have step := frameStep_processFrame aggregator receiver heard
  have moved := step.sinks receiver.primaryPort
  by_cases belongs : Belongs receiver.radio.linkId receiver.primaryPort heard.1
  · rw [if_pos belongs, registered] at moved
    have count : (aggregator.counters (sink.process aggregator heard).aggregator).countPSession =
        (aggregator.counters sink.aggregator).countPSession + _ :=
      counts.processPacket sink.aggregator (rxPacket aggregator heard.1 heard.2)
    have keepsSeen : sink.sessionSeen = true → (sink.process aggregator heard).sessionSeen = true :=
      fun seen => Bool.or_eq_true_iff.mpr (.inl seen)
    refine ⟨sink.process aggregator heard, ?_, ?_, ?_⟩
    · rw [step.primaryPort]
      exact moved
    · rintro (before | ⟨_, _, _, ⟨⟩, -, same, accepts⟩)
      · rcases said before with counted | seen
        · exact .inl (counted.trans_le (count ▸ Nat.le_add_right _ _))
        · exact .inr (keepsSeen seen)
      · cases registered.symm.trans same
        rw [if_pos accepts] at count
        exact .inl (by omega)
    · intro neither
      obtain ⟨notBefore, notNow⟩ := not_or.mp neither
      have refuses : ¬ acceptsSession sink.aggregator
          (rxPacket aggregator heard.1 heard.2) = true := fun accepts =>
        notNow ⟨heard.1, heard.2, sink, rfl, belongs, registered, accepts⟩
      rw [count, if_neg refuses, uncounted notBefore]
  · rw [if_neg belongs, registered] at moved
    refine ⟨sink, ?_, ?_, ?_⟩
    · rw [step.primaryPort]
      exact moved
    · rintro (before | ⟨_, _, _, ⟨⟩, belongs', -⟩)
      · exact said before
      · exact absurd belongs' belongs
    · exact fun neither => uncounted fun before => neither (.inl before)

/-- The primary sink of a receiver that was just given its video stream. -/
theorem sinks_addStream {radio : RadioConfig} {sinks : Byte → Option (Sink σ)} {callback : Bool}
    {keyFile : Option (List Byte)} {receiver : WfbReceiver σ}
    (added : WfbReceiver.addStream aggregator { radio, sinks } portVideo callback keyFile =
      .ok receiver) :
    ∃ created, aggregator.create keyFile 0 (channelId radio.linkId portVideo) = .ok created ∧
      receiver.sinks receiver.primaryPort = some { aggregator := created, callback } := by
  obtain ⟨created, createdOk, rfl⟩ := addStream_eq_ok_iff.mp added
  refine ⟨created, createdOk, ?_⟩
  simp only [Function.update_self]

/-- The sink behind a snapshot. -/
theorem sinks_takeSnapshot {receiver : WfbReceiver σ} {sink : Sink σ}
    (registered : receiver.sinks receiver.primaryPort = some sink) (nowMs : UInt64) :
    (receiver.takeSnapshot aggregator nowMs).1.sinks receiver.primaryPort =
      some { sink with aggregator := aggregator.clearStats sink.aggregator } := by
  simp only [takeSnapshot, resetSignal, clearStats, Function.update_self, registered,
    Option.map_some]

/-- A snapshot that clears nothing that matters. -/
theorem Kept.takeSnapshot (counts : CountsSessions aggregator acceptsSession) {accepted : Prop}
    {receiver : WfbReceiver σ} {sink : Sink σ} (kept : Kept aggregator accepted receiver sink)
    {nowMs : UInt64} (settled : Settled aggregator receiver (.snapshot nowMs)) :
    ∃ sink', Kept aggregator
      (accepted ∨ AcceptsSession aggregator acceptsSession receiver (.snapshot nowMs))
      (receiver.takeSnapshot aggregator nowMs).1 sink' := by
  obtain ⟨registered, said, -⟩ := kept
  refine ⟨_, sinks_takeSnapshot registered nowMs, ?_, fun _ => counts.clearStats _⟩
  rintro (before | ⟨_, _, _, ⟨⟩, -⟩)
  rcases settled nowMs rfl sink registered with seen | none
  · exact .inr seen
  · exact (said before).imp (fun counted => absurd none counted.ne') id

/-- **The latch.** Let the primary stream be registered once, with any others. From an accepted
session packet on the session stays established, if and only if every snapshot finds that a payload
was received or that no session packet is counted. -/
theorem established_iff (counts : CountsSessions aggregator acceptsSession)
    {radio : RadioConfig} {sinks : Byte → Option (Sink σ)} {callback : Bool}
    {keyFile : Option (List Byte)} {receiver : WfbReceiver σ}
    (added : WfbReceiver.addStream aggregator { radio, sinks } portVideo callback keyFile =
      .ok receiver)
    (events : List Event) :
    (∀ earlier later, events = earlier ++ later →
      SessionAccepted aggregator acceptsSession receiver earlier →
        Established aggregator ((machine aggregator).after receiver earlier)) ↔
      (machine aggregator).EveryStep
        (fun receiver _ event => Settled aggregator receiver event) receiver events := by
  apply Mealy.prefixes_iff_everyStep fun events => ∃ sink, Kept aggregator
    (SessionAccepted aggregator acceptsSession receiver events)
    ((machine aggregator).after receiver events) sink
  · obtain ⟨created, createdOk, registered⟩ := sinks_addStream added
    refine ⟨_, registered, ?_, fun _ => counts.create createdOk⟩
    rintro ⟨earlier, event, later, split, -⟩
    exact absurd split (by simp)
  · intro events event kept settled
    obtain ⟨sink, kept⟩ := kept
    rw [sessionAccepted_concat, Mealy.after_concat]
    cases event with
    | frame data frameMeta => exact kept.processFrame counts (data, frameMeta)
    | snapshot nowMs => exact kept.takeSnapshot counts settled
  · rintro events ⟨sink, kept⟩ accepted
    rw [established_iff_of_sink aggregator kept.registered]
    exact kept.said accepted
  · rintro events event ⟨sink, kept⟩ established nowMs rfl sink' same
    cases kept.registered.symm.trans same
    by_cases accepted : SessionAccepted aggregator acceptsSession receiver events
    · have after := established
        ((sessionAccepted_concat aggregator acceptsSession receiver events _).mpr (.inl accepted))
      rw [Mealy.after_concat] at after
      have reads := (established_iff_of_sink aggregator
        (sinks_takeSnapshot kept.registered nowMs)).mp after
      rw [counts.clearStats] at reads
      exact .inl (reads.resolve_left (Nat.lt_irrefl 0))
    · exact .inr (kept.uncounted accepted)

/-- Session packets as the sample aggregator knows them. -/
def plainSession (_ : Counters) (packet : RxPacket) : Bool := packet.payload.head? = some 2

theorem countsSessions_plain : CountsSessions plainAggregator plainSession where
  create := by
    rintro _ _ _ _ ⟨⟩
    rfl
  processPacket := by
    intro state packet
    unfold plainAggregator plainSession
    dsimp only
    split
    · rename_i session
      rw [if_pos (decide_eq_true session)]
      rfl
    · rename_i payload
      rw [if_neg fun session => payload (of_decide_eq_true session)]
      rfl
  clearStats _ := rfl

/-- A receiver with its video stream alone. -/
def videoReceiver : WfbReceiver Counters where
  radio := {}
  sinks := Function.update (fun _ => none) portVideo (some { aggregator := {}, callback := true })

/-- A payload comes before the snapshot. -/
theorem established_iff_payload :
    (∀ earlier later,
      [.frame (sampleFrame [2]) {}, .frame (sampleFrame [1]) {}, .snapshot 0] = earlier ++ later →
      SessionAccepted plainAggregator plainSession videoReceiver earlier →
        Established plainAggregator ((machine plainAggregator).after videoReceiver earlier)) ↔
      (machine plainAggregator).EveryStep
        (fun receiver _ event => Settled plainAggregator receiver event) videoReceiver
        [.frame (sampleFrame [2]) {}, .frame (sampleFrame [1]) {}, .snapshot 0] :=
  established_iff countsSessions_plain
    (show WfbReceiver.addStream plainAggregator { radio := {}, sinks := fun _ => none } portVideo
      true none = .ok videoReceiver from rfl) _

/-- A snapshot behind the session packet, before any payload, loses the session. -/
theorem not_established_snapshot :
    CountsSessions plainAggregator plainSession ∧
      ¬ ∀ earlier later,
        [.frame (sampleFrame [2]) {}, .snapshot 0] = earlier ++ later →
        SessionAccepted plainAggregator plainSession videoReceiver earlier →
          Established plainAggregator
            ((machine plainAggregator).after videoReceiver earlier) := by
  refine ⟨countsSessions_plain, fun always => ?_⟩
  have accepted : SessionAccepted plainAggregator plainSession videoReceiver
      [.frame (sampleFrame [2]) {}, .snapshot 0] :=
    ⟨[], .frame (sampleFrame [2]) {}, [.snapshot 0], rfl, sampleFrame [2], {},
      { aggregator := {}, callback := true }, rfl, by decide, rfl, by decide⟩
  have established := (always _ [] rfl accepted).1
  revert established
  decide

end Wfb

end MobileGs

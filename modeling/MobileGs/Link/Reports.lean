import MobileGs.Alink.Requests
import MobileGs.Foundations.Ledger
import MobileGs.Link.Model
import MobileGs.Wfb.Session

/-!
# Losses and reports

A round of the statistics thread takes a snapshot, which clears the counters, and hands it to the
controller if the reporting interval is over. What a snapshot of another round has counted is never
reported. So the losses reported are the losses counted in every run in which a round that does not
report finds nothing counted (`reported_everything`). Where the rounds come a reporting interval
apart there is no such round (`skipsNothing_of_spaced`), and a longer interval loses some
(`not_reported_everything`).
-/

set_option autoImplicit false

namespace MobileGs

namespace Link

open Alink Wfb

/-! ## What is counted and what is reported -/

section Readings

variable {σ R : Type}

/-- The snapshot of a round. -/
def Obs.taken : Obs R → Option LinkSnapshot
  | .stats snapshot => some snapshot
  | _ => none

/-- The snapshot handed to `Update`. -/
def Obs.reported : Obs R → Option LinkSnapshot
  | .updated snapshot _ => some snapshot
  | _ => none

/-- A snapshot with a loss or a recovery. -/
def lossy (snapshot : LinkSnapshot) : Bool :=
  decide (snapshot.packetsLost ≠ 0 ∨ snapshot.packetsFecRecovered ≠ 0)

theorem lossy_eq_false_iff {snapshot : LinkSnapshot} :
    lossy snapshot = false ↔ snapshot.packetsLost = 0 ∧ snapshot.packetsFecRecovered = 0 := by
  rw [lossy, decide_eq_false_iff_not, not_or, not_not, not_not]

/-- Up to the latest `Update`, the snapshots with a loss or a recovery were each handed to one
`Update`, in order, and so the losses and the recoveries of all `Update`s are those of all
snapshots. -/
structure ReportsLosses (trace : List (Obs R)) : Prop where
  once : (trace.filterMap Obs.reported).filter lossy =
    ((upToReport Obs.reported trace).filterMap Obs.taken).filter lossy
  lost : total LinkSnapshot.packetsLost (trace.filterMap Obs.reported) =
    total LinkSnapshot.packetsLost ((upToReport Obs.reported trace).filterMap Obs.taken)
  recovered : total LinkSnapshot.packetsFecRecovered (trace.filterMap Obs.reported) =
    total LinkSnapshot.packetsFecRecovered ((upToReport Obs.reported trace).filterMap Obs.taken)

theorem reportsLosses_of_balanced {trace : List (Obs R)}
    (balanced : Balanced Obs.taken Obs.reported lossy trace) : ReportsLosses trace where
  once := balanced
  lost := balanced.totals fun _ calm => (lossy_eq_false_iff.mp calm).1
  recovered := balanced.totals fun _ calm => (lossy_eq_false_iff.mp calm).2

/-- Nothing is taken and nothing is reported. -/
def Quiet (trace : List (Obs R)) : Prop :=
  ∀ obs ∈ trace, obs.taken = none ∧ obs.reported = none

theorem quiet_nil : Quiet ([] : List (Obs R)) := fun _ among => absurd among List.not_mem_nil

theorem quiet_cons {obs : Obs R} {rest : List (Obs R)} (taken : obs.taken = none)
    (reported : obs.reported = none) (quiet : Quiet rest) : Quiet (obs :: rest) := by
  rintro other (_ | ⟨_, among⟩)
  · exact ⟨taken, reported⟩
  · exact quiet other among

theorem Quiet.append {trace more : List (Obs R)} (quiet : Quiet trace) (quiet' : Quiet more) :
    Quiet (trace ++ more) := by
  intro obs among
  exact (List.mem_append.mp among).elim (quiet obs) (quiet' obs)

end Readings

/-! ## The calls that take no snapshot -/

section Calls

variable {σ R : Type} [Neg R] [OfScientific R] (aggregator : Aggregator σ)

namespace GroundStation

variable (station : GroundStation σ R)

theorem quiet_sendUplink (radioPort : Byte) (data : List Byte) :
    Quiet (station.sendUplink radioPort data) := by
  unfold sendUplink
  split
  · exact quiet_nil
  · exact quiet_cons rfl rfl quiet_nil

theorem quiet_setError (message : String) : Quiet (station.setError message).2 := by
  unfold setError
  dsimp only
  split
  · exact quiet_cons rfl rfl quiet_nil
  · exact quiet_nil

theorem quiet_openMirror (answers : StartAnswers) : Quiet (station.openMirror answers).2 := by
  unfold openMirror
  split
  · split
    · exact quiet_nil
    · split
      · exact quiet_cons rfl rfl quiet_nil
      · exact quiet_cons rfl rfl (quiet_cons rfl rfl quiet_nil)
  · exact quiet_nil

theorem quiet_failStart (message : String) : Quiet (station.failStart message).2 :=
  (station.quiet_setError message).append (quiet_cons rfl rfl quiet_nil)

theorem quiet_startSource (answers : StartAnswers) : Quiet (station.startSource answers).2 := by
  unfold startSource
  split
  · exact quiet_failStart _ _
  · dsimp only
    split
    · exact quiet_cons rfl rfl (quiet_cons rfl rfl quiet_nil)
    · exact quiet_cons rfl rfl quiet_nil

theorem quiet_makeSource (answers : StartAnswers) :
    Quiet (station.makeSource aggregator answers).2 := by
  unfold makeSource
  split
  · exact quiet_startSource _ answers
  · split
    · exact quiet_failStart _ _
    · exact quiet_startSource _ answers

theorem quiet_start (config : GsConfig R) (answers : StartAnswers) :
    Quiet (station.start aggregator config answers).2 := by
  unfold start
  split
  · exact quiet_cons rfl rfl quiet_nil
  · exact (quiet_openMirror _ answers).append (quiet_makeSource aggregator _ answers)

theorem quiet_stop : Quiet station.stop.2 := by
  unfold stop
  split
  · cases station.mirrorFd with
    | none => exact quiet_nil
    | some fd => exact quiet_cons rfl rfl quiet_nil
  · exact quiet_nil

theorem quiet_processFrame (data : List Byte) (frameMeta : FrameMeta) :
    Quiet (station.processFrame aggregator data frameMeta).2 := by
  unfold processFrame
  split
  · intro obs among
    obtain ⟨wfb, -, rfl⟩ := List.mem_map.mp among
    exact ⟨rfl, rfl⟩
  · exact quiet_nil

end GroundStation

/-! ## The rounds -/

/-- The receiver has counted no loss and no recovery since the last snapshot. -/
def NothingCounted (station : GroundStation σ R) : Prop :=
  ∀ receiver sink, station.receiver = some receiver →
    receiver.sinks receiver.primaryPort = some sink →
      (aggregator.counters sink.aggregator).countPLost = 0 ∧
        (aggregator.counters sink.aggregator).countPFecRecovered = 0

/-- A round that comes before the reporting interval is over, or that finds no controller, finds
nothing counted. -/
def SkipsNothing (station : GroundStation σ R) (event : Event R) : Prop :=
  ∀ tick, event = .tick tick → station.running = true →
    (station.alink = none ∨ tick.nowMs < station.nextAlinkMs) → NothingCounted aggregator station

theorem lossCounters_foldl (snapshot : LinkSnapshot) (accs : List PathAccumulator) :
    (accs.foldl LinkSnapshot.collect snapshot).packetsLost = snapshot.packetsLost ∧
      (accs.foldl LinkSnapshot.collect snapshot).packetsFecRecovered =
        snapshot.packetsFecRecovered :=
  ⟨foldl_collect LinkSnapshot.packetsLost (fun _ _ _ _ _ => rfl) snapshot accs,
    foldl_collect LinkSnapshot.packetsFecRecovered (fun _ _ _ _ _ => rfl) snapshot accs⟩

/-- Where nothing is counted, a snapshot shows no loss and no recovery. -/
theorem NothingCounted.lossy_takeSnapshot {station : GroundStation σ R}
    (nothing : NothingCounted aggregator station) (nowMs : UInt64) :
    lossy (station.takeSnapshot aggregator nowMs).2 = false := by
  rw [lossy_eq_false_iff]
  cases found : station.receiver with
  | none =>
      rw [GroundStation.takeSnapshot, found]
      exact ⟨rfl, rfl⟩
  | some receiver =>
      rw [GroundStation.takeSnapshot, found]
      dsimp only
      obtain ⟨lost, recovered⟩ := lossCounters_foldl
        (receiver.countersSnapshot aggregator nowMs) ((List.finRange 4).map receiver.paths)
      rw [WfbReceiver.takeSnapshot, lost, recovered, WfbReceiver.countersSnapshot]
      cases registered : receiver.sinks receiver.primaryPort with
      | none => exact ⟨rfl, rfl⟩
      | some sink => exact nothing receiver sink found registered

end Calls

variable {σ R : Type} [Add R] [Sub R] [Mul R] [Div R] [Neg R] [LT R] [DecidableLT R] [LE R]
  [DecidableLE R] [BEq R] [NatCast R] [IntCast R] [OfScientific R]
  (aggregator : Aggregator σ) (libm : Libm R)

/-- A part of a round that has the controller report either hands it the snapshot or has a reason
not to. -/
theorem report_cases (station : GroundStation σ R) (snapshot : LinkSnapshot) (tick : Tick) :
    ((station.report libm snapshot tick).2 = [] ∧
        (station.alink = none ∨ station.receiver = none ∨ tick.nowMs < station.nextAlinkMs)) ∨
      ∃ result later, (station.report libm snapshot tick).2 = .updated snapshot result :: later ∧
        Quiet later := by
  unfold GroundStation.report
  cases found : station.alink with
  | none => exact .inl ⟨rfl, .inl rfl⟩
  | some controller =>
      dsimp only
      split
      · exact .inr ⟨_, _, rfl, station.quiet_sendUplink _ _⟩
      · rename_i early
        refine .inl ⟨rfl, .inr ?_⟩
        rcases not_and_or.mp early with noReceiver | before
        · exact .inl (Option.not_isSome_iff_eq_none.mp noReceiver)
        · exact .inr (UInt64.not_le.mp before)

/-- The rounds keep the books, if those that do not report find nothing counted. -/
theorem books_statsRound {station : GroundStation σ R} {tick : Tick}
    (skips : SkipsNothing aggregator station (.tick tick)) {emitted : List (Obs R)}
    (books : Books Obs.taken Obs.reported lossy emitted) :
    Books Obs.taken Obs.reported lossy
      (emitted ++ (station.statsRound aggregator libm tick).2) := by
  unfold GroundStation.statsRound
  split
  · rename_i running
    obtain ⟨receiver, same, taken⟩ := station.takeSnapshot_eq aggregator tick.snapshotMs
    dsimp only
    rw [taken]
    rcases report_cases libm { station with receiver, stats := _ }
        (station.takeSnapshot aggregator tick.snapshotMs).2 tick with
      ⟨none, reason⟩ | ⟨result, later, reported, quiet⟩
    · rw [none]
      apply books.quiet
      · rintro obs (_ | ⟨_, ⟨⟩⟩)
        rfl
      · have nothing : NothingCounted aggregator station := by
          rcases reason with noController | noReceiver | early
          · exact skips tick rfl running (.inl noController)
          · intro receiver' sink found
            dsimp only at noReceiver
            rw [noReceiver, found] at same
            cases same
          · exact skips tick rfl running (.inr early)
        have calm := nothing.lossy_takeSnapshot aggregator tick.snapshotMs
        exact List.filter_cons_of_neg (by rw [calm]; exact Bool.false_ne_true)
    · rw [reported]
      apply books.report [.stats _] rfl
      · exact fun other among => (quiet other among).2
      · exact fun other among => (quiet other among).1
      · rfl
  · rw [List.append_nil]
    exact books

/-- **Every loss is reported.** In every run in which a round that does not report finds nothing
counted, the losses and recoveries of all `Update`s are those of all snapshots up to the latest
`Update`, each handed to one `Update`. -/
theorem reported_everything (station : GroundStation σ R) {events : List (Event R)}
    (skips : (machine aggregator libm).EveryStep
      (fun station _ event => SkipsNothing aggregator station event) station events) :
    (machine aggregator libm).Throughout (fun _ trace => ReportsLosses trace) station events := by
  rintro earlier later rfl
  apply reportsLosses_of_balanced
  refine Books.balanced (Mealy.invariant_of_everyStep
    (fun _ trace => Books Obs.taken Obs.reported lossy trace) books_nil ?_ skips.front)
  intro station emitted event books skips
  have quietly : ∀ {more : List (Obs R)}, Quiet more →
      Books Obs.taken Obs.reported lossy (emitted ++ more) := by
    intro more quiet
    exact books.quiet (fun obs among => (quiet obs among).2)
      (reading_of_none lossy fun obs among => (quiet obs among).1)
  cases event with
  | start config answers => exact quietly (station.quiet_start aggregator config answers)
  | stop => exact quietly station.quiet_stop
  | setAlinkConfig config => exact quietly quiet_nil
  | frame data frameMeta => exact quietly (station.quiet_processFrame aggregator data frameMeta)
  | tick tick => exact books_statsRound aggregator libm skips books
  | uplink data => exact quietly (station.quiet_sendUplink _ data)

/-! ## Rounds an interval apart -/

/-- The clock of a round. -/
def Event.tickMs : Event R → Option UInt64
  | .tick round => some round.nowMs
  | _ => none

/-- The event leaves the link up, under the configuration it has. -/
def Event.KeepsLink : Event R → Prop
  | .stop => False
  | .setAlinkConfig _ => False
  | _ => True

/-- The station runs with a receiver, a controller and a reporting interval. -/
structure Linked (interval : UInt64) (station : GroundStation σ R) : Prop where
  running : station.running = true
  controller : station.alink.isSome = true
  receiver : station.receiver.isSome = true
  interval_eq : station.config.alink.intervalMs.toInt64.toUInt64 = interval

variable {interval : UInt64} {station : GroundStation σ R}

/-- A round that is due schedules the next report an interval later. -/
theorem Linked.statsRound (linked : Linked interval station) {tick : Tick}
    (due : station.nextAlinkMs ≤ tick.nowMs) :
    let after := (station.statsRound aggregator libm tick).1
    Linked interval after ∧ after.nextAlinkMs = tick.nowMs + interval := by
  obtain ⟨running, controller, receiver, rfl⟩ := linked
  obtain ⟨controller', found⟩ := Option.isSome_iff_exists.mp controller
  obtain ⟨receiver', same, taken⟩ := station.takeSnapshot_eq aggregator tick.snapshotMs
  have both : receiver'.isSome = true ∧ tick.nowMs ≥ station.nextAlinkMs :=
    ⟨same.trans receiver, due⟩
  dsimp only
  rw [GroundStation.statsRound, if_pos running]
  dsimp only
  rw [taken, GroundStation.report]
  simp only [found, if_pos both]
  exact ⟨⟨running, rfl, both.1, rfl⟩, trivial⟩

/-- Between the rounds the schedule stands. -/
theorem Linked.step (linked : Linked interval station) {event : Event R}
    (keeps : event.KeepsLink) (noTick : event.tickMs = none) :
    let after := ((machine aggregator libm).step station event).1
    Linked interval after ∧ after.nextAlinkMs = station.nextAlinkMs := by
  cases event with
  | start config answers =>
      change Linked interval (station.start aggregator config answers).1 ∧
        (station.start aggregator config answers).1.nextAlinkMs = station.nextAlinkMs
      rw [GroundStation.start, if_pos linked.running]
      exact ⟨linked, rfl⟩
  | stop => exact keeps.elim
  | setAlinkConfig config => exact keeps.elim
  | frame data frameMeta =>
      obtain ⟨receiver, found⟩ := Option.isSome_iff_exists.mp linked.receiver
      change Linked interval (station.processFrame aggregator data frameMeta).1 ∧
        (station.processFrame aggregator data frameMeta).1.nextAlinkMs = station.nextAlinkMs
      rw [GroundStation.processFrame, found]
      exact ⟨⟨linked.running, linked.controller, rfl, linked.interval_eq⟩, rfl⟩
  | tick tick => cases noTick
  | uplink data => exact ⟨linked, rfl⟩

/-- Where the rounds come a reporting interval apart, each of them reports, and none skips
anything. -/
theorem skipsNothing_of_spaced (linked : Linked interval station) {events : List (Event R)}
    (keeps : ∀ event ∈ events, event.KeepsLink)
    (due : ∀ nowMs ∈ events.filterMap Event.tickMs, station.nextAlinkMs ≤ nowMs)
    (spaced : (events.filterMap Event.tickMs).Pairwise fun earlier later =>
      earlier.toNat + interval.toNat ≤ later.toNat) :
    (machine aggregator libm).EveryStep
      (fun station _ event => SkipsNothing aggregator station event) station events := by
  have checked : ∀ emitted, (machine aggregator libm).checksSteps
      (fun station _ event => SkipsNothing aggregator station event) station emitted events := by
    induction events generalizing station with
    | nil => exact fun _ => trivial
    | cons event rest ih =>
        intro emitted
        have keepsRest := fun other among => keeps other (List.mem_cons_of_mem event among)
        cases clock : event.tickMs with
        | none =>
            rw [List.filterMap_cons_none clock] at due spaced
            obtain ⟨linked', next⟩ :=
              linked.step aggregator libm (keeps event List.mem_cons_self) clock
            refine ⟨?_, ih linked' keepsRest (by rw [next]; exact due) spaced _⟩
            rintro _ rfl
            cases clock
        | some nowMs =>
            rw [List.filterMap_cons_some clock] at due spaced
            obtain ⟨apart, spacedRest⟩ := List.pairwise_cons.mp spaced
            obtain ⟨tick, rfl, rfl⟩ : ∃ tick : Tick, event = .tick tick ∧ tick.nowMs = nowMs := by
              cases event <;> cases clock
              exact ⟨_, rfl, rfl⟩
            have now : station.nextAlinkMs ≤ tick.nowMs := due _ List.mem_cons_self
            obtain ⟨linked', next⟩ := linked.statsRound aggregator libm now
            refine ⟨?_, ih linked' keepsRest ?_ spacedRest _⟩
            · rintro _ ⟨⟩ - (noController | early)
              · have controller := linked.controller
                rw [noController] at controller
                cases controller
              · exact absurd now (UInt64.not_le.mpr early)
            · intro laterMs among
              rw [next, UInt64.le_iff_toNat_le, UInt64.toNat_add]
              exact (Nat.mod_le _ _).trans (apart laterMs among)
  exact Mealy.checksSteps_iff.mp (checked [])

/-! ## Samples -/

/-- An aggregator without encryption that takes a packet whose first byte is 3 for a loss. -/
def lossyAggregator : Aggregator Counters :=
  { plainAggregator with
    processPacket := fun counters packet =>
      if packet.payload.head? = some 3 then
        ({ counters with countPLost := counters.countPLost + 1 }, [])
      else plainAggregator.processPacket counters packet }

/-- A round at a time. -/
def roundAt (nowMs : UInt64) : Event Float :=
  .tick { snapshotMs := nowMs, nowMs, drawn := (lossCall 0).drawn }

/-- A start with a reporting interval. -/
def startWith (intervalMs : Int32) : Event Float :=
  .start { alink := { enabled := true, intervalMs } } {}

/-- A loss, and the round that reports it. -/
theorem reported_everything_one :
    (machine lossyAggregator doubles).Throughout (fun _ trace => ReportsLosses trace) {}
      [startWith 100, .frame (sampleFrame [3]) {}, roundAt 100] := by
  have checked : (machine lossyAggregator doubles).checksSteps
      (fun station _ event => SkipsNothing lossyAggregator station event) {} []
      [startWith 100, .frame (sampleFrame [3]) {}, roundAt 100] := by
    refine ⟨?_, ?_, ?_, trivial⟩
    · rintro _ ⟨⟩
    · rintro _ ⟨⟩
    · rintro _ ⟨⟩ - (none | early)
      · cases none
      · exact absurd early (by decide)
  exact reported_everything lossyAggregator doubles {} (Mealy.checksSteps_iff.mp checked)

/-- A reporting interval of a second: the loss comes behind a report, and the round before the next
one clears it. -/
theorem not_reported_everything :
    ¬ (machine lossyAggregator doubles).Throughout (fun _ trace => ReportsLosses trace) {}
      [startWith 1000, roundAt 100, .frame (sampleFrame [3]) {}, roundAt 200, roundAt 1100] := by
  intro always
  have lost := always.last.lost
  revert lost
  decide

end Link

end MobileGs

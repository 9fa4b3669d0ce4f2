import MobileGs.Alink.Requests
import MobileGs.Link.Model

/-!
# The two copies of the adaptive-link configuration

A station keeps the configuration of the adaptive link with its own, for the reporting interval and
the switch, and a second time in the controller. `SetAlinkConfig` writes both. `Start` writes the
first, and makes a controller only if the new configuration asks for one. A controller that is there
before `Start` is then kept with the configuration it has.

So the copies agree while the station runs if and only if no `Start` without the adaptive link finds
a controller (`inStep_iff`). The app sets the adaptive link before every `Start`, and its `Start`
never asks for it (`not_inStep_app`).
-/

set_option autoImplicit false

namespace MobileGs

namespace Link

open Alink Wfb WfbReceiver

variable {σ R : Type} [Neg R] [OfScientific R] (aggregator : Aggregator σ)

/-! ## Whether a start succeeds -/

/-- The aggregators of the three streams accept the key. -/
def KeysLoad (radio : RadioConfig) (answers : StartAnswers) : Prop :=
  ∀ port ∈ [portVideo, portMavlinkRx, portTunnelRx], ∃ created,
    aggregator.create (answers.keyFile port) 0 (channelId radio.linkId port) = .ok created

/-- A `Start` with this configuration gets as far as the statistics thread. -/
def Launches (config : GsConfig R) (answers : StartAnswers) : Prop :=
  answers.sourceError = none ∧ (config.source = .udp ∨ KeysLoad aggregator config.radio answers)

theorem exists_addStream (receiver : WfbReceiver σ) {port : Byte} {keyFile : Option (List Byte)}
    {created : σ}
    (createdOk : aggregator.create keyFile 0 (channelId receiver.radio.linkId port) = .ok created)
    (callback : Bool) :
    ∃ added, receiver.addStream aggregator port callback keyFile = .ok added ∧
      added.radio = receiver.radio :=
  ⟨_, addStream_eq_ok_iff.mpr ⟨created, createdOk, rfl⟩, rfl⟩

/-- What a computation that succeeds was put together from. -/
theorem bind_eq_ok_iff {ε α β : Type} {first : Except ε α} {next : α → Except ε β} {result : β} :
    first.bind next = .ok result ↔ ∃ value, first = .ok value ∧ next value = .ok result := by
  constructor
  · intro ok
    cases first with
    | error => cases ok
    | ok value => exact ⟨value, rfl, ok⟩
  · rintro ⟨value, rfl, ok⟩
    exact ok

/-- The receiver is made if the keys load. -/
theorem makeReceiver_iff (radio : RadioConfig) (answers : StartAnswers) :
    (∃ receiver, GroundStation.makeReceiver aggregator radio answers = .ok receiver) ↔
      KeysLoad aggregator radio answers := by
  constructor
  · rintro ⟨receiver, made⟩
    obtain ⟨video, videoOk, made⟩ := bind_eq_ok_iff.mp made
    obtain ⟨telemetry, telemetryOk, tunnelOk⟩ := bind_eq_ok_iff.mp made
    obtain ⟨first, firstOk, rfl⟩ := addStream_eq_ok_iff.mp videoOk
    obtain ⟨second, secondOk, rfl⟩ := addStream_eq_ok_iff.mp telemetryOk
    obtain ⟨third, thirdOk, rfl⟩ := addStream_eq_ok_iff.mp tunnelOk
    intro port among
    simp only [List.mem_cons, List.not_mem_nil, or_false] at among
    rcases among with rfl | rfl | rfl
    · exact ⟨first, firstOk⟩
    · exact ⟨second, secondOk⟩
    · exact ⟨third, thirdOk⟩
  · intro load
    obtain ⟨first, firstOk⟩ := load portVideo (by simp)
    obtain ⟨second, secondOk⟩ := load portMavlinkRx (by simp)
    obtain ⟨third, thirdOk⟩ := load portTunnelRx (by simp)
    obtain ⟨video, videoOk, videoRadio⟩ := exists_addStream aggregator { radio } firstOk true
    obtain ⟨telemetry, telemetryOk, telemetryRadio⟩ :=
      exists_addStream aggregator video (by rw [videoRadio]; exact secondOk) true
    obtain ⟨tunnel, tunnelOk, -⟩ :=
      exists_addStream aggregator telemetry (by rw [telemetryRadio, videoRadio]; exact thirdOk) true
    exact ⟨tunnel, bind_eq_ok_iff.mpr
      ⟨video, videoOk, bind_eq_ok_iff.mpr ⟨telemetry, telemetryOk, tunnelOk⟩⟩⟩

/-! ## What a start leaves behind -/

namespace GroundStation

variable (station : GroundStation σ R) (config : GsConfig R) (answers : StartAnswers)

/-- The mirror moves nothing that matters here. -/
theorem openMirror_keeps :
    let mirrored := (station.openMirror answers).1
    mirrored.config = station.config ∧ mirrored.running = station.running ∧
      mirrored.alink = station.alink := by
  unfold openMirror
  split
  · split
    · exact ⟨rfl, rfl, rfl⟩
    · split <;> exact ⟨rfl, rfl, rfl⟩
  · exact ⟨rfl, rfl, rfl⟩

theorem startSource_of_ok (started : answers.sourceError = none) :
    (station.startSource answers).1 =
      { station with running := true, nextAlinkMs := answers.startedMs } := by
  rw [startSource, started]

theorem running_startSource (failed : answers.sourceError ≠ none) :
    (station.startSource answers).1.running = station.running := by
  cases failure : answers.sourceError with
  | none => exact absurd failure failed
  | some error =>
      rw [startSource, failure]
      rfl

/-- The source is made and starts. -/
theorem makeSource_of_launches (launches : Launches aggregator station.config answers) :
    let made := (station.makeSource aggregator answers).1
    made.running = true ∧ made.config = station.config ∧ made.alink = station.alink := by
  obtain ⟨started, keys⟩ := launches
  dsimp only
  rw [makeSource]
  by_cases udp : station.config.source = .udp
  · rw [if_pos udp, startSource_of_ok _ answers started]
    exact ⟨rfl, rfl, rfl⟩
  · obtain ⟨receiver, made⟩ :=
      (makeReceiver_iff aggregator station.config.radio answers).mpr (keys.resolve_left udp)
    rw [if_neg udp, made]
    dsimp only
    rw [startSource_of_ok _ answers started]
    exact ⟨rfl, rfl, rfl⟩

/-- A start that fails leaves the station as idle as it was. -/
theorem makeSource_of_fails (fails : ¬ Launches aggregator station.config answers) :
    (station.makeSource aggregator answers).1.running = station.running := by
  rw [makeSource]
  by_cases udp : station.config.source = .udp
  · rw [if_pos udp, running_startSource]
    exact fun started => fails ⟨started, .inl udp⟩
  · rw [if_neg udp]
    split
    · rfl
    · rename_i receiver made
      rw [running_startSource]
      exact fun started => fails
        ⟨started, .inr ((makeReceiver_iff aggregator _ answers).mp ⟨receiver, made⟩)⟩

/-- `Start` on a station that does not run: it has its new configuration, and a controller made for
it or the one that was there, when it makes the source. -/
theorem start_eq_makeSource (idle : station.running = false) :
    ∃ linked : GroundStation σ R,
      (station.start aggregator config answers).1 = (linked.makeSource aggregator answers).1 ∧
        linked.config = config ∧ linked.running = false ∧
        linked.alink =
          if config.alink.enabled then some (AlinkController.create config.alink)
          else station.alink := by
  obtain ⟨mirroredConfig, mirroredRunning, mirroredAlink⟩ := openMirror_keeps { station with
    config, statusCallback := answers.statusCallback, router := true } answers
  rw [start, if_neg (Bool.eq_false_iff.mp idle)]
  refine ⟨_, rfl, ?_, ?_, ?_⟩
  · split <;> exact mirroredConfig
  · split <;> exact mirroredRunning.trans idle
  · split
    · rfl
    · exact mirroredAlink

/-- `Start` on a station that does not run, when it succeeds. -/
theorem start_of_launches (idle : station.running = false)
    (launches : Launches aggregator config answers) :
    let started := (station.start aggregator config answers).1
    started.running = true ∧ started.config = config ∧
      started.alink =
        if config.alink.enabled then some (AlinkController.create config.alink)
        else station.alink := by
  obtain ⟨linked, same, rfl, -, alink⟩ := station.start_eq_makeSource aggregator config answers idle
  dsimp only
  rw [same, ← alink]
  exact linked.makeSource_of_launches aggregator answers launches

/-- `Start` on a station that does not run, when it fails. -/
theorem start_of_fails (idle : station.running = false)
    (fails : ¬ Launches aggregator config answers) :
    (station.start aggregator config answers).1.running = false := by
  obtain ⟨linked, same, rfl, still, -⟩ := station.start_eq_makeSource aggregator config answers idle
  rw [same, linked.makeSource_of_fails aggregator answers fails, still]

end GroundStation

/-! ## The copies -/

/-- The two copies agree: there is a controller if the adaptive link is on, and it has the
configuration of the station. -/
structure InStep (station : GroundStation σ R) : Prop where
  switch : station.alink.isSome = true ↔ station.config.alink.enabled = true
  same : ∀ controller, station.alink = some controller → controller.config = station.config.alink

/-- The two copies agree while the station runs. -/
def RunsInStep (station : GroundStation σ R) : Prop :=
  station.running = true → InStep station

/-- The event is not a `Start` that succeeds, without the adaptive link, where there is a
controller. -/
def FindsNoController (station : GroundStation σ R) (event : Event R) : Prop :=
  ∀ config answers, event = .start config answers → station.running = false →
    config.alink.enabled = false → Launches aggregator config answers → station.alink = none

/-- Whether the copies agree depends on the copies alone. -/
theorem InStep.congr {station station' : GroundStation σ R} (inStep : InStep station)
    (config : station'.config.alink = station.config.alink)
    (alink : station'.alink.map AlinkController.config =
      station.alink.map AlinkController.config) : InStep station' := by
  constructor
  · rw [config, ← inStep.switch, ← Option.isSome_map (f := AlinkController.config), alink,
      Option.isSome_map]
  · intro controller found
    rw [found] at alink
    obtain ⟨controller', found', same⟩ := Option.map_eq_some_iff.mp alink.symm
    rw [config, ← inStep.same controller' found', same]

/-- `SetAlinkConfig` writes both copies. -/
theorem inStep_setAlinkConfig (station : GroundStation σ R) (config : AlinkConfig R) :
    InStep (station.setAlinkConfig config) := by
  unfold GroundStation.setAlinkConfig
  cases enabled : config.enabled with
  | false =>
      constructor
      · simp [enabled]
      · rintro controller ⟨⟩
  | true =>
      cases found : station.alink with
      | none =>
          constructor
          · simp [enabled]
          · rintro controller ⟨⟩
            rfl
      | some controller =>
          constructor
          · simp [enabled]
          · rintro controller ⟨⟩
            rfl

/-- A `Start` that succeeds makes the copies agree if it makes a controller or finds none. -/
theorem inStep_start_iff {station : GroundStation σ R} {config : GsConfig R}
    {answers : StartAnswers} (idle : station.running = false)
    (launches : Launches aggregator config answers) :
    InStep (station.start aggregator config answers).1 ↔
      (config.alink.enabled = false → station.alink = none) := by
  obtain ⟨-, configured, alink⟩ := station.start_of_launches aggregator config answers idle launches
  cases enabled : config.alink.enabled with
  | false =>
      rw [enabled] at alink
      constructor
      · rintro ⟨switch, -⟩ -
        rw [configured, enabled, alink] at switch
        exact Option.not_isSome_iff_eq_none.mp fun found => Bool.noConfusion (switch.mp found)
      · intro noController
        constructor
        · rw [configured, enabled, alink, if_neg Bool.false_ne_true, noController rfl]
          exact Iff.rfl
        · intro controller found
          rw [alink, if_neg Bool.false_ne_true, noController rfl] at found
          cases found
  | true =>
      rw [enabled, if_pos rfl] at alink
      refine ⟨fun _ off => Bool.noConfusion off, fun _ => ⟨?_, ?_⟩⟩
      · rw [configured, enabled, alink]
        exact iff_of_true rfl rfl
      · intro controller found
        rw [alink] at found
        cases found
        rw [configured]
        rfl

/-! ## Runs -/

variable [Add R] [Sub R] [Mul R] [Div R] [LT R] [DecidableLT R] [LE R] [DecidableLE R] [BEq R]
  [NatCast R] [IntCast R] (libm : Libm R)

/-- The controller reports under the configuration it has. -/
theorem report_keeps (station : GroundStation σ R) (snapshot : LinkSnapshot) (tick : Tick) :
    let reported := (station.report libm snapshot tick).1
    reported.running = station.running ∧ reported.config = station.config ∧
      reported.alink.map AlinkController.config = station.alink.map AlinkController.config := by
  unfold GroundStation.report
  split
  · rename_i controller found
    split
    · refine ⟨rfl, rfl, ?_⟩
      rw [found, Option.map_some, AlinkController.config_update]
      rfl
    · exact ⟨rfl, rfl, rfl⟩
  · exact ⟨rfl, rfl, rfl⟩

/-- A round of the statistics thread moves neither copy. -/
theorem statsRound_keeps (station : GroundStation σ R) (tick : Tick) :
    let after := (station.statsRound aggregator libm tick).1
    after.running = station.running ∧ after.config = station.config ∧
      after.alink.map AlinkController.config = station.alink.map AlinkController.config := by
  dsimp only
  unfold GroundStation.statsRound
  split
  · obtain ⟨receiver, -, taken⟩ := station.takeSnapshot_eq aggregator tick.snapshotMs
    dsimp only
    rw [taken]
    exact report_keeps libm _ _ tick
  · exact ⟨rfl, rfl, rfl⟩

/-- One step keeps the copies in step if it is no `Start` that finds a controller it does not ask
for. -/
theorem runsInStep_step {station : GroundStation σ R} (inStep : RunsInStep station)
    {event : Event R} (noController : FindsNoController aggregator station event) :
    RunsInStep ((machine aggregator libm).step station event).1 := by
  intro running
  cases event with
  | start config answers =>
      change (station.start aggregator config answers).1.running = true at running
      change InStep (station.start aggregator config answers).1
      cases runs : station.running with
      | true =>
          rw [GroundStation.start, if_pos runs]
          exact inStep runs
      | false =>
          by_cases launches : Launches aggregator config answers
          · exact (inStep_start_iff aggregator runs launches).mpr fun off =>
              noController config answers rfl runs off launches
          · rw [station.start_of_fails aggregator config answers runs launches] at running
            cases running
  | stop =>
      change station.stop.1.running = true at running
      change InStep station.stop.1
      unfold GroundStation.stop at running ⊢
      split
      · rename_i runs
        rw [if_pos runs] at running
        cases running
      · rename_i idle
        rw [if_neg idle] at running
        exact inStep running
  | setAlinkConfig config => exact inStep_setAlinkConfig station config
  | frame data frameMeta =>
      change (station.processFrame aggregator data frameMeta).1.running = true at running
      change InStep (station.processFrame aggregator data frameMeta).1
      unfold GroundStation.processFrame at running ⊢
      cases found : station.receiver with
      | none =>
          rw [found] at running
          exact inStep running
      | some receiver =>
          rw [found] at running
          exact (inStep running).congr rfl rfl
  | tick tick =>
      obtain ⟨runs, config, alink⟩ := statsRound_keeps aggregator libm station tick
      refine (inStep (runs.symm.trans running)).congr ?_ alink
      exact congrArg GsConfig.alink config
  | uplink data => exact inStep running

/-- **One configuration.** In every state of a run in which the station runs, there is a controller
exactly if the adaptive link is on, and it has the configuration of the station, if and only if no
`Start` that succeeds without the adaptive link finds a controller. -/
theorem inStep_iff (events : List (Event R)) :
    (machine aggregator libm).Throughout (fun station _ => RunsInStep station) {} events ↔
      (machine aggregator libm).EveryStep
        (fun station _ event => FindsNoController aggregator station event) {} events := by
  apply Mealy.throughout_iff_everyStep fun station _ => RunsInStep station
  · rintro ⟨⟩
  · exact fun station _ event inStep noController =>
      runsInStep_step aggregator libm inStep noController
  · exact fun _ _ inStep => inStep
  · rintro station _ event - inStep config answers rfl idle off launches
    obtain ⟨running, -⟩ := station.start_of_launches aggregator config answers idle launches
    exact (inStep_start_iff aggregator idle launches).mp (inStep running) off

/-- The app turns the adaptive link on and starts. The controller is there, and the station's own
configuration says that it is off. -/
theorem not_inStep_app :
    ¬ (machine plainAggregator doubles).Throughout (fun station _ => RunsInStep station) {}
      [.setAlinkConfig { enabled := true, intervalMs := 500 }, .start {} {}] := by
  intro always
  have switch := (always.last rfl).switch
  exact Bool.noConfusion (switch.mp rfl)

end Link

end MobileGs

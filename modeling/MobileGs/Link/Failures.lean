import MobileGs.Link.Configuration

/-!
# Starts that fail

`Start` opens the socket of the mirror and makes the controller before it loads the keys and starts
the source. Where one of these fails, it takes the receiver, the source and the router down by hand,
and leaves the socket and the controller as they are. `Stop` would close the socket and drop the
controller, but it does nothing on a station that does not run.

So a failing `Start` leaves no receiver, source or router (`settled_after`), and it leaves all the
rest as it was exactly when it keeps no socket and makes no new controller (`cleansUp_iff`). In a
run whose failing `Start`s are such, no socket is open in any state in which the station does not
run (`nothingOpen_of_failsClean`).
-/

set_option autoImplicit false

namespace MobileGs

namespace Link

open Alink Wfb WfbReceiver

/-! ## Sockets of the mirror -/

section Sockets

variable {R : Type}

/-- The sockets a run opened, in order. -/
def mirrorsOpened (outputs : List (Obs R)) : List ℕ :=
  outputs.filterMap fun obs =>
    match obs with
    | .mirrorOpened fd => some fd
    | _ => none

/-- The sockets a run closed, in order. -/
def mirrorsClosed (outputs : List (Obs R)) : List ℕ :=
  outputs.filterMap fun obs =>
    match obs with
    | .mirrorClosed fd => some fd
    | _ => none

theorem mirrorsOpened_append (first later : List (Obs R)) :
    mirrorsOpened (first ++ later) = mirrorsOpened first ++ mirrorsOpened later :=
  List.filterMap_append

theorem mirrorsClosed_append (first later : List (Obs R)) :
    mirrorsClosed (first ++ later) = mirrorsClosed first ++ mirrorsClosed later :=
  List.filterMap_append

/-- The outputs have nothing to do with the mirror. -/
def Apart (outputs : List (Obs R)) : Prop :=
  mirrorsOpened outputs = [] ∧ mirrorsClosed outputs = []

theorem Apart.append {first later : List (Obs R)} (apart : Apart first) (apart' : Apart later) :
    Apart (first ++ later) := by
  rw [Apart, mirrorsOpened_append, mirrorsClosed_append, apart.1, apart.2, apart'.1, apart'.2]
  exact ⟨rfl, rfl⟩

end Sockets

variable {σ R : Type} [Neg R] [OfScientific R] (aggregator : Aggregator σ)

/-- A configuration with a mirror. -/
def AsksMirror (config : GsConfig R) : Prop :=
  config.videoMirrorHost ≠ "" ∧ config.videoMirrorPort > 0

instance decidableAsksMirror (config : GsConfig R) : Decidable (AsksMirror config) :=
  inferInstanceAs (Decidable (_ ∧ _))

/-- The socket a `Start` opens and connects. -/
def mirrorKept (config : GsConfig R) (answers : StartAnswers) : Option ℕ :=
  if AsksMirror config ∧ answers.mirrorConnects = true then answers.mirrorSocket else none

/-! ## One start -/

namespace GroundStation

variable (station : GroundStation σ R) (config : GsConfig R) (answers : StartAnswers)

/-- What opening the mirror does to the station, and which sockets it opens and closes. -/
theorem openMirror_cases :
    (station.openMirror answers).1 =
        { station with
          mirrorFd :=
            if AsksMirror station.config then mirrorKept station.config answers
            else station.mirrorFd } ∧
      mirrorsOpened (station.openMirror answers).2 =
        (mirrorKept station.config answers).toList ++
          mirrorsClosed (station.openMirror answers).2 ∧
      Obs.started false ∉ (station.openMirror answers).2 := by
  by_cases asks : station.config.videoMirrorHost ≠ "" ∧ station.config.videoMirrorPort > 0
  · have mirror : AsksMirror station.config := asks
    rw [openMirror, if_pos asks, if_pos mirror, mirrorKept]
    cases answers.mirrorSocket with
    | none => simp [mirrorsOpened, mirrorsClosed]
    | some fd =>
        cases answers.mirrorConnects with
        | false => simp [mirrorsOpened, mirrorsClosed]
        | true => simp [mirror, mirrorsOpened, mirrorsClosed]
  · have none : ¬ AsksMirror station.config := asks
    rw [openMirror, if_neg asks, if_neg none, mirrorKept, if_neg fun both => none both.1]
    exact ⟨rfl, rfl, List.not_mem_nil⟩

/-- The end of a start that fails. -/
theorem failStart_eq (message : String) :
    (station.failStart message).1 =
        { station with lastError := message, receiver := none, router := false } ∧
      Obs.started false ∈ (station.failStart message).2 ∧
      Apart (station.failStart message).2 := by
  rw [failStart, setError]
  refine ⟨rfl, by simp, ?_⟩
  cases station.statusCallback <;> exact ⟨rfl, rfl⟩

/-- What a part of `Start` does to the mirror, the controller and the rest, when it fails in the
given case. -/
structure Brings (fails : Prop) (before : GroundStation σ R)
    (result : GroundStation σ R × List (Obs R)) : Prop where
  mirror : result.1.mirrorFd = before.mirrorFd
  alink : result.1.alink = before.alink
  apart : Apart result.2
  told : Obs.started false ∈ result.2 ↔ fails
  down : fails → result.1.source = none ∧ result.1.receiver = none ∧ result.1.router = false

/-- The source is started, and taken away again when that fails. -/
theorem brings_startSource :
    Brings (answers.sourceError ≠ none) station (station.startSource answers) := by
  cases failure : answers.sourceError with
  | none =>
      rw [startSource, failure]
      refine ⟨rfl, rfl, ?_, ?_, fun no => absurd rfl no⟩
      · cases station.statusCallback <;> exact ⟨rfl, rfl⟩
      · cases station.statusCallback <;> simp
  | some error =>
      obtain ⟨left, told, apart⟩ := { station with source := none }.failStart_eq error
      rw [startSource, failure]
      dsimp only
      constructor
      · rw [left]
      · rw [left]
      · exact apart
      · exact iff_of_true told (by simp)
      · intro _
        rw [left]
        exact ⟨rfl, rfl, rfl⟩

/-- The source is made and started. -/
theorem brings_makeSource (bare : station.source = none) :
    Brings (¬ Launches aggregator station.config answers) station
      (station.makeSource aggregator answers) := by
  rw [makeSource]
  by_cases udp : station.config.source = .udp
  · have fails : ¬ Launches aggregator station.config answers ↔ answers.sourceError ≠ none :=
      not_congr ⟨fun launches => launches.1, fun started => ⟨started, .inl udp⟩⟩
    obtain ⟨mirror, alink, apart, told, down⟩ :=
      brings_startSource { station with source := some .udp } answers
    rw [if_pos udp]
    exact ⟨mirror, alink, apart, told.trans fails.symm, fun failed => down (fails.mp failed)⟩
  · rw [if_neg udp]
    have keys := makeReceiver_iff aggregator station.config.radio answers
    cases made : makeReceiver aggregator station.config.radio answers with
    | error text =>
        have failed : ¬ Launches aggregator station.config answers := by
          rintro ⟨-, udp' | load⟩
          · exact udp udp'
          · obtain ⟨receiver, ok⟩ := keys.mpr load
            rw [made] at ok
            cases ok
        obtain ⟨left, told, apart⟩ := station.failStart_eq ("could not load gs.key: " ++ text)
        dsimp only
        constructor
        · rw [left]
        · rw [left]
        · exact apart
        · exact iff_of_true told failed
        · intro _
          rw [left]
          exact ⟨bare, rfl, rfl⟩
    | ok receiver =>
        have load := keys.mp ⟨receiver, made⟩
        have fails : ¬ Launches aggregator station.config answers ↔ answers.sourceError ≠ none :=
          not_congr ⟨fun launches => launches.1, fun started => ⟨started, .inr load⟩⟩
        obtain ⟨mirror, alink, apart, told, down⟩ := brings_startSource
          { station with receiver := some receiver, source := some .devourer } answers
        exact ⟨mirror, alink, apart, told.trans fails.symm, fun failed => down (fails.mp failed)⟩

end GroundStation

/-- A station that does not run has no source, no receiver and no router. -/
def Settled (station : GroundStation σ R) : Prop :=
  station.running = false →
    station.source = none ∧ station.receiver = none ∧ station.router = false

/-- **What `Start` does** on a station that does not run, with the mirror, the controller and
whether it fails. -/
theorem start_cases {station : GroundStation σ R} (idle : station.running = false)
    (settled : Settled station) (config : GsConfig R) (answers : StartAnswers) :
    let result := station.start aggregator config answers
    result.1.mirrorFd =
        (if AsksMirror config then mirrorKept config answers else station.mirrorFd) ∧
      mirrorsOpened result.2 = (mirrorKept config answers).toList ++ mirrorsClosed result.2 ∧
      result.1.alink =
        (if config.alink.enabled then some (AlinkController.create config.alink)
          else station.alink) ∧
      (Obs.started false ∈ result.2 ↔ ¬ Launches aggregator config answers) ∧
      (¬ Launches aggregator config answers →
        result.1.source = none ∧ result.1.receiver = none ∧ result.1.router = false) := by
  let based := { station with config, statusCallback := answers.statusCallback, router := true }
  obtain ⟨opened, sockets, silent⟩ := based.openMirror_cases answers
  let linked :=
    if config.alink.enabled then
      { (based.openMirror answers).1 with alink := some (AlinkController.create config.alink) }
    else (based.openMirror answers).1
  have configured : linked.config = config := by
    simp only [linked, opened]
    split <;> rfl
  have bare : linked.source = none := by
    simp only [linked, opened]
    split <;> exact (settled idle).1
  have mirrored : linked.mirrorFd =
      if AsksMirror config then mirrorKept config answers else station.mirrorFd := by
    simp only [linked, opened]
    split <;> rfl
  have controlled : linked.alink =
      if config.alink.enabled then some (AlinkController.create config.alink)
      else station.alink := by
    simp only [linked, opened]
    split <;> rfl
  have started : station.start aggregator config answers =
      ((linked.makeSource aggregator answers).1,
        (based.openMirror answers).2 ++ (linked.makeSource aggregator answers).2) := by
    rw [GroundStation.start, if_neg (Bool.eq_false_iff.mp idle)]
  obtain ⟨mirror, alink, apart, told, down⟩ := linked.brings_makeSource aggregator answers bare
  rw [configured] at told down
  rw [started]
  refine ⟨mirror.trans mirrored, ?_, alink.trans controlled, ?_, down⟩
  · rw [mirrorsOpened_append, mirrorsClosed_append, apart.1, apart.2, List.append_nil,
      List.append_nil]
    exact sockets
  · rw [List.mem_append]
    exact ⟨fun either => told.mp (either.resolve_left silent), fun failed => .inr (told.mpr failed)⟩

/-! ## A failing start alone -/

/-- A failing `Start` keeps no socket for the mirror and makes no new controller. -/
def KeepsNothing (station : GroundStation σ R) (config : GsConfig R) (answers : StartAnswers) :
    Prop :=
  mirrorKept config answers = none ∧
    (config.alink.enabled = true →
      station.alink = some (AlinkController.create config.alink))

/-- A call of `Start` leaves no socket it opened, no source, receiver or router, and the controller
that was there. -/
structure CleansUp (station : GroundStation σ R)
    (result : GroundStation σ R × List (Obs R)) : Prop where
  sockets : (mirrorsOpened result.2).Perm (mirrorsClosed result.2)
  source : result.1.source = none
  receiver : result.1.receiver = none
  router : result.1.router = false
  alink : result.1.alink = station.alink

/-- **A failing `Start` cleans up exactly when it keeps nothing.** -/
theorem cleansUp_iff {station : GroundStation σ R} (idle : station.running = false)
    (settled : Settled station) {config : GsConfig R} {answers : StartAnswers}
    (fails : Obs.started false ∈ (station.start aggregator config answers).2) :
    CleansUp station (station.start aggregator config answers) ↔
      KeepsNothing station config answers := by
  obtain ⟨-, sockets, alink, told, down⟩ := start_cases aggregator idle settled config answers
  obtain ⟨source, receiver, router⟩ := down (told.mp fails)
  constructor
  · rintro ⟨closed, -, -, -, same⟩
    constructor
    · rw [sockets] at closed
      have lengths := closed.length_eq
      rw [List.length_append] at lengths
      cases kept : mirrorKept config answers with
      | none => rfl
      | some fd =>
          rw [kept, Option.toList_some, List.length_singleton] at lengths
          omega
    · intro enabled
      rw [alink, if_pos enabled] at same
      exact same.symm
  · rintro ⟨kept, same⟩
    refine ⟨?_, source, receiver, router, ?_⟩
    · rw [sockets, kept]
      exact List.Perm.refl _
    · rw [alink]
      split
      · rename_i enabled
        exact (same enabled).symm
      · rfl

/-! ## Runs -/

/-- A failing `Start` keeps nothing. -/
def FailsClean (station : GroundStation σ R) (event : Event R) : Prop :=
  ∀ config answers, event = .start config answers → station.running = false →
    Obs.started false ∈ (station.start aggregator config answers).2 →
      KeepsNothing station config answers

/-- The sockets that were opened are closed again, up to the one the station holds. -/
structure SocketsHeld (station : GroundStation σ R) (outputs : List (Obs R)) : Prop where
  balance : (mirrorsOpened outputs).Perm (station.mirrorFd.toList ++ mirrorsClosed outputs)
  idle : station.running = false → station.mirrorFd = none

/-- No socket of the mirror is open while the station does not run. -/
def NothingOpen (station : GroundStation σ R) (outputs : List (Obs R)) : Prop :=
  station.running = false → (mirrorsOpened outputs).Perm (mirrorsClosed outputs)

theorem apart_sendUplink (station : GroundStation σ R) (port : Byte) (data : List Byte) :
    Apart (station.sendUplink port data) := by
  rw [GroundStation.sendUplink]
  split <;> exact ⟨rfl, rfl⟩

/-- A frame has nothing to do with the mirror. -/
theorem processFrame_apart (station : GroundStation σ R) (data : List Byte)
    (frameMeta : FrameMeta) :
    (station.processFrame aggregator data frameMeta).1.mirrorFd = station.mirrorFd ∧
      (station.processFrame aggregator data frameMeta).1.running = station.running ∧
      Apart (station.processFrame aggregator data frameMeta).2 := by
  unfold GroundStation.processFrame
  split
  · refine ⟨rfl, rfl, ?_, ?_⟩
    · simp [mirrorsOpened, List.filterMap_map]
    · simp [mirrorsClosed, List.filterMap_map]
  · exact ⟨rfl, rfl, rfl, rfl⟩

/-- Outputs that have nothing to do with the mirror change nothing about its sockets. -/
theorem SocketsHeld.apart {station station' : GroundStation σ R} {outputs more : List (Obs R)}
    (held : SocketsHeld station outputs) (mirror : station'.mirrorFd = station.mirrorFd)
    (running : station'.running = station.running) (apart : Apart more) :
    SocketsHeld station' (outputs ++ more) := by
  constructor
  · rw [mirrorsOpened_append, mirrorsClosed_append, apart.1, apart.2, List.append_nil,
      List.append_nil, mirror]
    exact held.balance
  · rw [running, mirror]
    exact held.idle

variable [Add R] [Sub R] [Mul R] [Div R] [LT R] [DecidableLT R] [LE R] [DecidableLE R] [BEq R]
  [NatCast R] [IntCast R] (libm : Libm R)

/-- A round of the statistics thread has nothing to do with the mirror. -/
theorem statsRound_apart (station : GroundStation σ R) (tick : Tick) :
    (station.statsRound aggregator libm tick).1.mirrorFd = station.mirrorFd ∧
      Apart (station.statsRound aggregator libm tick).2 := by
  unfold GroundStation.statsRound
  split
  · obtain ⟨receiver, -, taken⟩ := station.takeSnapshot_eq aggregator tick.snapshotMs
    dsimp only
    rw [taken]
    unfold GroundStation.report
    split
    · split
      · exact ⟨rfl, apart_sendUplink _ _ _⟩
      · exact ⟨rfl, rfl, rfl⟩
    · exact ⟨rfl, rfl, rfl⟩
  · exact ⟨rfl, rfl, rfl⟩

/-- One step leaves a station that does not run without source, receiver and router. -/
theorem settled_step {station : GroundStation σ R} (settled : Settled station) (event : Event R) :
    Settled ((machine aggregator libm).step station event).1 := by
  intro idle'
  cases event with
  | start config answers =>
      cases idle : station.running with
      | true =>
          change (station.start aggregator config answers).1.running = false at idle'
          rw [GroundStation.start, if_pos idle, idle] at idle'
          cases idle'
      | false =>
          by_cases launches : Launches aggregator config answers
          · obtain ⟨running, -⟩ :=
              station.start_of_launches aggregator config answers idle launches
            exact absurd (idle'.symm.trans running) Bool.false_ne_true
          · exact (start_cases aggregator idle settled config answers).2.2.2.2 launches
  | stop =>
      change station.stop.1.running = false at idle'
      change station.stop.1.source = none ∧ station.stop.1.receiver = none ∧
        station.stop.1.router = false
      rw [GroundStation.stop] at idle' ⊢
      split
      · exact ⟨rfl, rfl, rfl⟩
      · rename_i idle
        exact settled (Bool.eq_false_of_not_eq_true idle)
  | setAlinkConfig config => exact settled idle'
  | frame data frameMeta =>
      have same := (processFrame_apart aggregator station data frameMeta).2.1
      have bare := settled (same.symm.trans idle')
      change (station.processFrame aggregator data frameMeta).1.source = none ∧
        (station.processFrame aggregator data frameMeta).1.receiver = none ∧
          (station.processFrame aggregator data frameMeta).1.router = false
      rw [GroundStation.processFrame, bare.2.1]
      exact bare
  | tick tick =>
      obtain ⟨same, -⟩ := statsRound_keeps aggregator libm station tick
      have idle : station.running = false := same.symm.trans idle'
      change (station.statsRound aggregator libm tick).1.source = none ∧
        (station.statsRound aggregator libm tick).1.receiver = none ∧
          (station.statsRound aggregator libm tick).1.router = false
      rw [GroundStation.statsRound, if_neg (Bool.eq_false_iff.mp idle)]
      exact settled idle
  | uplink data => exact settled idle'

/-- **No run** leaves a source, a receiver or a router in a station that does not run. -/
theorem settled_after (events : List (Event R)) :
    Settled ((machine aggregator libm).after {} events) :=
  Mealy.invariant_of_step (fun station _ => Settled station) (fun _ => ⟨rfl, rfl, rfl⟩)
    (fun _ _ event settled => settled_step aggregator libm settled event) events

/-- **One step** keeps the sockets balanced, if it is no failing `Start` that keeps one. -/
theorem socketsHeld_step {station : GroundStation σ R} {outputs : List (Obs R)} {event : Event R}
    (settled : Settled station) (held : SocketsHeld station outputs)
    (clean : FailsClean aggregator station event) :
    SocketsHeld ((machine aggregator libm).step station event).1
      (outputs ++ ((machine aggregator libm).step station event).2) := by
  cases event with
  | start config answers =>
      change SocketsHeld (station.start aggregator config answers).1
        (outputs ++ (station.start aggregator config answers).2)
      cases idle : station.running with
      | true =>
          rw [GroundStation.start, if_pos idle]
          exact held.apart rfl rfl ⟨rfl, rfl⟩
      | false =>
          obtain ⟨mirror, sockets, -, told, -⟩ :=
            start_cases aggregator idle settled config answers
          have kept : (station.start aggregator config answers).1.mirrorFd =
              mirrorKept config answers := by
            rw [mirror, held.idle idle]
            split
            · rfl
            · rename_i none
              rw [mirrorKept, if_neg fun both => none both.1]
          constructor
          · have balance := held.balance
            rw [held.idle idle, Option.toList_none, List.nil_append] at balance
            rw [mirrorsOpened_append, mirrorsClosed_append, sockets, kept]
            refine (balance.append_right _).trans ?_
            rw [← List.append_assoc, ← List.append_assoc]
            exact List.perm_append_comm.append_right _
          · intro idle'
            rw [kept]
            refine (clean config answers rfl idle (told.mpr fun launches => ?_)).1
            obtain ⟨running, -⟩ :=
              station.start_of_launches aggregator config answers idle launches
            exact absurd (idle'.symm.trans running) Bool.false_ne_true
  | stop =>
      change SocketsHeld station.stop.1 (outputs ++ station.stop.2)
      rw [GroundStation.stop]
      split
      · constructor
        · have closed :
              mirrorsOpened (station.mirrorFd.map (Obs.mirrorClosed (R := R))).toList = [] ∧
                mirrorsClosed (station.mirrorFd.map (Obs.mirrorClosed (R := R))).toList =
                  station.mirrorFd.toList := by
            cases station.mirrorFd <;> exact ⟨rfl, rfl⟩
          rw [mirrorsOpened_append, mirrorsClosed_append, closed.1, closed.2, List.append_nil]
          exact held.balance.trans List.perm_append_comm
        · exact fun _ => rfl
      · exact held.apart rfl rfl ⟨rfl, rfl⟩
  | setAlinkConfig config => exact held.apart rfl rfl ⟨rfl, rfl⟩
  | frame data frameMeta =>
      obtain ⟨mirror, running, apart⟩ := processFrame_apart aggregator station data frameMeta
      exact held.apart mirror running apart
  | tick tick =>
      obtain ⟨mirror, apart⟩ := statsRound_apart aggregator libm station tick
      exact held.apart mirror (statsRound_keeps aggregator libm station tick).1 apart
  | uplink data => exact held.apart rfl rfl (apart_sendUplink station portMavlinkTx data)

/-- **No socket is left open** by a run whose failing `Start`s keep nothing. -/
theorem nothingOpen_of_failsClean {events : List (Event R)}
    (clean : (machine aggregator libm).EveryStep
      (fun station _ event => FailsClean aggregator station event) {} events) :
    (machine aggregator libm).Throughout NothingOpen {} events := by
  rintro earlier later rfl
  have held := Mealy.invariant_of_everyStep
    (fun station outputs => Settled station ∧ SocketsHeld station outputs)
    ⟨fun _ => ⟨rfl, rfl, rfl⟩, List.Perm.refl _, fun _ => rfl⟩
    (fun _ _ event held clean => ⟨settled_step aggregator libm held.1 event,
      socketsHeld_step aggregator libm held.1 held.2 clean⟩) clean.front
  intro idle
  have balance := held.2.balance
  rwa [held.2.idle idle] at balance

/-- **When a failing `Start` leaves everything as it was.** In every state of a station that does
not run, it does exactly if it keeps no socket for the mirror and makes no new controller. In a run
from the beginning every failing `Start` does, and no socket is open in any state in which the
station does not run, if and only if every failing `Start` keeps nothing. -/
theorem failures_iff :
    (∀ (station : GroundStation σ R) (config : GsConfig R) (answers : StartAnswers),
      station.running = false → Settled station →
        Obs.started false ∈ (station.start aggregator config answers).2 →
          (CleansUp station (station.start aggregator config answers) ↔
            KeepsNothing station config answers)) ∧
      ∀ events : List (Event R),
        ((machine aggregator libm).EveryStep
            (fun station _ event => ∀ config answers, event = .start config answers →
              station.running = false →
                Obs.started false ∈ (station.start aggregator config answers).2 →
                  CleansUp station (station.start aggregator config answers)) {} events ∧
          (machine aggregator libm).Throughout NothingOpen {} events) ↔
        (machine aggregator libm).EveryStep
          (fun station _ event => FailsClean aggregator station event) {} events := by
  refine ⟨fun station config answers idle settled fails =>
    cleansUp_iff aggregator idle settled fails, fun events => ⟨?_, fun clean => ⟨?_, ?_⟩⟩⟩
  · rintro ⟨cleans, -⟩ earlier event later split config answers start idle fails
    exact (cleansUp_iff aggregator idle (settled_after aggregator libm earlier) fails).mp
      (cleans earlier event later split config answers start idle fails)
  · intro earlier event later split config answers start idle fails
    exact (cleansUp_iff aggregator idle (settled_after aggregator libm earlier) fails).mpr
      (clean earlier event later split config answers start idle fails)
  · exact nothingOpen_of_failsClean aggregator libm clean

/-- A configuration with a mirror on this machine. -/
def mirroredConfig : GsConfig Float where
  videoMirrorHost := "127.0.0.1"
  videoMirrorPort := 5600

/-- The mirror gets a socket, and the source does not start. -/
def failingAnswers : StartAnswers where
  mirrorSocket := some 7
  mirrorConnects := true
  sourceError := some "no adapter"

/-- The mirror gets another socket, and everything succeeds. -/
def succeedingAnswers : StartAnswers where
  mirrorSocket := some 8
  mirrorConnects := true

/-- A failing `Start`, one that succeeds, and `Stop`: the first socket stays open for good. -/
theorem mirror_leaks :
    (GroundStation.start plainAggregator {} mirroredConfig failingAnswers).2 =
        [.mirrorOpened 7, .status "no adapter", .started false] ∧
      mirrorsOpened ((machine plainAggregator doubles).outputs {}
        [.start mirroredConfig failingAnswers, .start mirroredConfig succeedingAnswers, .stop]) =
          [7, 8] ∧
      mirrorsClosed ((machine plainAggregator doubles).outputs {}
        [.start mirroredConfig failingAnswers, .start mirroredConfig succeedingAnswers, .stop]) =
          [8] :=
  ⟨rfl, rfl, rfl⟩

/-- Two failing `Start`s in a row without a mirror, and the station they leave. -/
theorem failures_iff_bare :
    let failing : StartAnswers := { sourceError := some "no adapter" }
    let events : List (Event Float) := [.start {} failing, .start {} failing]
    CleansUp {}
        (GroundStation.start plainAggregator ({} : GroundStation Counters Float) {} failing) ∧
      (machine plainAggregator doubles).Throughout NothingOpen {} events := by
  intro failing events
  have keeps : ∀ station : GroundStation Counters Float, KeepsNothing station {} failing := by
    intro station
    exact ⟨rfl, fun enabled => absurd enabled (by decide)⟩
  obtain ⟨once, runs⟩ := failures_iff plainAggregator doubles
  have told : Obs.started false ∈
      (GroundStation.start plainAggregator ({} : GroundStation Counters Float) {} failing).2 :=
    List.mem_cons_of_mem _ List.mem_cons_self
  refine ⟨(once {} {} failing rfl (fun _ => ⟨rfl, rfl, rfl⟩) told).mpr (keeps {}),
    ((runs events).mpr ?_).2⟩
  have checked : (machine plainAggregator doubles).checksSteps
      (fun station _ event => FailsClean plainAggregator station event) {} [] events := by
    refine ⟨?_, ?_, trivial⟩
    · rintro _ _ ⟨⟩ - -
      exact keeps _
    · rintro _ _ ⟨⟩ - -
      exact keeps _
  exact Mealy.checksSteps_iff.mp checked

end Link

end MobileGs

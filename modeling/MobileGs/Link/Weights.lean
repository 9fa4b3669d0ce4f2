import Mathlib.Data.Rat.Floor
import MobileGs.Alink.Exact
import MobileGs.Link.Reports
import MobileGs.Wfb.Signal

/-!
# The weight of recoveries

With much redundancy more recoveries are to be expected, so the controller is made to weigh them by
the FEC parameters of the session. A snapshot has a field for each of the two, and `TakeSnapshot`
fills in everything but these. They stay at the -1 of the header, which says that they are not
known, and the recoveries count as they are (`fec_takeSnapshot`, `adjustFecRecovered_unknown`).

So the controller computes the weighed error ratio only where the weight makes no difference: where
nothing was recovered, or where `n` is `k + 5` (`weighed_iff`).

The FEC parameters are not among what the receiver uses of wfb-ng's aggregator. They are any
functions of its state (`SessionFec`).
-/

set_option autoImplicit false

namespace MobileGs

namespace Link

open Alink Wfb WfbReceiver

/-- The FEC parameters of the session an aggregator is in. -/
structure SessionFec (σ : Type) where
  k : σ → ℕ
  n : σ → ℕ
  le : ∀ state, k state ≤ n state

/-! ## Snapshots -/

section Snapshots

variable {σ : Type} (aggregator : Aggregator σ)

/-- A snapshot knows no FEC parameters. -/
theorem fec_takeSnapshot (receiver : WfbReceiver σ) (nowMs : UInt64) :
    (receiver.takeSnapshot aggregator nowMs).2.fecK = -1 ∧
      (receiver.takeSnapshot aggregator nowMs).2.fecN = -1 := by
  have unset : (receiver.countersSnapshot aggregator nowMs).fecK = -1 ∧
      (receiver.countersSnapshot aggregator nowMs).fecN = -1 := by
    unfold countersSnapshot
    split <;> exact ⟨rfl, rfl⟩
  constructor
  · exact (foldl_collect LinkSnapshot.fecK (fun _ _ _ _ _ => rfl) _ _).trans unset.1
  · exact (foldl_collect LinkSnapshot.fecN (fun _ _ _ _ _ => rfl) _ _).trans unset.2

/-- A snapshot has antennas exactly when a path has frames. -/
theorem numAntennas_takeSnapshot_pos (receiver : WfbReceiver σ) (nowMs : UInt64) :
    0 < (receiver.takeSnapshot aggregator nowMs).2.numAntennas ↔
      ∃ i, (receiver.paths i).count ≠ 0 := by
  have collected := collected_countersSnapshot aggregator receiver nowMs
  have antennas := antennas_foldl collected ((List.finRange 4).map receiver.paths)
  have numbered := (collected.foldl ((List.finRange 4).map receiver.paths)).numbered
  rw [antennas_countersSnapshot, List.nil_append] at antennas
  rw [antennas, List.length_mapIdx] at numbered
  have few : (((List.finRange 4).map receiver.paths).filter fun acc => acc.count ≠ 0).length ≤ 4 :=
    List.length_filter_le _ _
  rw [takeSnapshot, numbered, Int32.lt_iff_toInt_lt, Int32.toInt_ofNat_of_lt (by omega)]
  have counted : (0 : Int32).toInt <
      ((((List.finRange 4).map receiver.paths).filter fun acc => acc.count ≠ 0).length : ℤ) ↔
        0 < (((List.finRange 4).map receiver.paths).filter fun acc => acc.count ≠ 0).length :=
    Int.natCast_pos
  rw [counted, List.length_filter_pos_iff]
  constructor
  · rintro ⟨acc, among, some⟩
    obtain ⟨i, -, rfl⟩ := List.mem_map.mp among
    exact ⟨i, of_decide_eq_true some⟩
  · rintro ⟨i, some⟩
    exact ⟨_, List.mem_map_of_mem (List.mem_finRange i), decide_eq_true some⟩

/-- A snapshot has the packet counters of the primary sink. -/
theorem packets_takeSnapshot {receiver : WfbReceiver σ} {sink : Sink σ}
    (registered : receiver.sinks receiver.primaryPort = some sink) (nowMs : UInt64) :
    (receiver.takeSnapshot aggregator nowMs).2.packetsAll =
        (aggregator.counters sink.aggregator).countPAll ∧
      (receiver.takeSnapshot aggregator nowMs).2.packetsFecRecovered =
        (aggregator.counters sink.aggregator).countPFecRecovered := by
  have counters : (receiver.countersSnapshot aggregator nowMs).packetsAll =
        (aggregator.counters sink.aggregator).countPAll ∧
      (receiver.countersSnapshot aggregator nowMs).packetsFecRecovered =
        (aggregator.counters sink.aggregator).countPFecRecovered := by
    rw [countersSnapshot, registered]
    exact ⟨rfl, rfl⟩
  constructor
  · exact (foldl_collect LinkSnapshot.packetsAll (fun _ _ _ _ _ => rfl) _ _).trans counters.1
  · exact (lossCounters_foldl _ _).2.trans counters.2

end Snapshots

/-! ## Error ratios -/

section Ratios

variable {R : Type} [Field R] [LinearOrder R] [IsStrictOrderedRing R]

/-- The error ratio with the recoveries weighed by FEC parameters. -/
def negotiatedRatio (k n : ℕ) (snapshot : LinkSnapshot) : R :=
  (5.0 * (snapshot.packetsLost : R) + (snapshot.packetsFecRecovered : R) * 6.0 / (1 + n - k)) /
    ((snapshot.packetsAll : R) / ((snapshot.numAntennas.toInt : ℤ) : R))

/-- The snapshot has traffic. -/
def Traffic (snapshot : LinkSnapshot) : Prop :=
  0 < snapshot.packetsAll ∧ 0 < snapshot.numAntennas

omit [LinearOrder R] [IsStrictOrderedRing R] in
/-- Without FEC parameters the recoveries count as they are. -/
theorem adjustFecRecovered_unknown (fecRecovered : R) :
    adjustFecRecovered fecRecovered (-1) (-1) = fecRecovered :=
  if_pos (.inl (by decide))

/-- **Where the weight makes no difference.** -/
theorem errorRatio_eq_iff {snapshot : LinkSnapshot} (unknown : snapshot.fecK = -1)
    (unknown' : snapshot.fecN = -1) (traffic : Traffic snapshot) {k n : ℕ} (le : k ≤ n) :
    (errorRatio snapshot : R) = negotiatedRatio k n snapshot ↔
      snapshot.packetsFecRecovered = 0 ∨ n = k + 5 := by
  have packets : (snapshot.packetsAll : R) ≠ 0 := Nat.cast_ne_zero.mpr traffic.1.ne'
  have antennas : ((snapshot.numAntennas.toInt : ℤ) : R) ≠ 0 :=
    Int.cast_ne_zero.mpr (Int32.lt_iff_toInt_lt.mp traffic.2).ne'
  have ordered : (k : R) ≤ n := Nat.cast_le.mpr le
  have positive : (1 + n - k : R) ≠ 0 := by linarith
  have six : (6.0 : R) = 6 := by norm_num
  have weight : (1 + n - k : R) = 6 ↔ n = k + 5 := by
    constructor
    · intro one
      have equal : (n : R) = ((k + 5 : ℕ) : R) := by
        push_cast
        linarith
      exact Nat.cast_injective equal
    · rintro rfl
      push_cast
      ring
  rw [errorRatio, unknown, unknown', adjustFecRecovered_unknown, negotiatedRatio, six,
    div_left_inj' (div_ne_zero packets antennas), add_right_inj, eq_div_iff positive,
    mul_eq_mul_left_iff, weight, Nat.cast_eq_zero, or_comm]

end Ratios

/-! ## Rounds -/

variable {σ R : Type} [Field R] [LinearOrder R] (aggregator : Aggregator σ) (libm : Libm R)

/-- A round of a station that runs, with the controller's report due. -/
structure Due (station : GroundStation σ R) (tick : Tick) : Prop where
  running : station.running = true
  controller : station.alink.isSome = true
  due : station.nextAlinkMs ≤ tick.nowMs

omit [Field R] [LinearOrder R] in
theorem not_updated_of_quiet {trace : List (Obs R)} (quiet : Quiet trace) (snapshot : LinkSnapshot)
    (result : AlinkResult R) : Obs.updated snapshot result ∉ trace :=
  fun among => Option.some_ne_none snapshot (quiet _ among).2

/-- Only a round scores a snapshot. -/
theorem not_updated_of_noTick {station : GroundStation σ R} {event : Event R}
    (noTick : event.tickMs = none) (snapshot : LinkSnapshot) (result : AlinkResult R) :
    Obs.updated snapshot result ∉ ((machine aggregator libm).step station event).2 := by
  apply not_updated_of_quiet
  cases event with
  | start config answers => exact station.quiet_start aggregator config answers
  | stop => exact station.quiet_stop
  | setAlinkConfig config => exact quiet_nil
  | frame data frameMeta => exact station.quiet_processFrame aggregator data frameMeta
  | tick tick => cases noTick
  | uplink data => exact station.quiet_sendUplink _ data

/-- A round in which a report is due scores the snapshot it takes. -/
theorem updated_mem_iff {station : GroundStation σ R} {receiver : WfbReceiver σ}
    (found : station.receiver = some receiver) (tick : Tick) (snapshot : LinkSnapshot)
    (result : AlinkResult R) :
    Obs.updated snapshot result ∈ (station.statsRound aggregator libm tick).2 ↔
      Due station tick ∧ snapshot = (receiver.takeSnapshot aggregator tick.snapshotMs).2 ∧
        ∃ controller, station.alink = some controller ∧
          result = (controller.update libm
            { snapshot, unixTimeS := tick.nowMs / 1000, drawn := tick.drawn }).2 := by
  rw [GroundStation.statsRound]
  split
  · rename_i running
    rw [GroundStation.takeSnapshot, found]
    dsimp only
    have other : Obs.updated snapshot result ≠
        Obs.stats (receiver.takeSnapshot aggregator tick.snapshotMs).2 := by
      rintro ⟨⟩
    rw [List.mem_cons, or_iff_right other, GroundStation.report]
    dsimp only
    cases controlled : station.alink with
    | none =>
        refine iff_of_false List.not_mem_nil ?_
        rintro ⟨-, -, controller, ⟨⟩, -⟩
    | some controller =>
        dsimp only
        by_cases due : station.nextAlinkMs ≤ tick.nowMs
        · rw [if_pos ⟨rfl, due⟩, List.mem_cons,
            or_iff_left (not_updated_of_quiet (GroundStation.quiet_sendUplink _ _ _) _ _)]
          constructor
          · intro same
            cases same
            exact ⟨⟨running, by rw [controlled]; rfl, due⟩, rfl, controller, rfl, rfl⟩
          · rintro ⟨-, rfl, _, ⟨⟩, rfl⟩
            rfl
        · rw [if_neg fun both => due both.2]
          refine iff_of_false List.not_mem_nil ?_
          rintro ⟨⟨-, -, due'⟩, -⟩
          exact due due'
  · rename_i idle
    refine iff_of_false List.not_mem_nil ?_
    rintro ⟨⟨running, -, -⟩, -⟩
    exact idle running

/-- A snapshot with traffic is scored with its recoveries weighed by the FEC parameters of the
session it was taken in. -/
def Weighed (fec : SessionFec σ) (station : GroundStation σ R) (event : Event R) : Prop :=
  ∀ receiver sink snapshot result, station.receiver = some receiver →
    receiver.sinks receiver.primaryPort = some sink →
      Obs.updated snapshot result ∈ ((machine aggregator libm).step station event).2 →
        Traffic snapshot →
          result.errorRatio =
            negotiatedRatio (fec.k sink.aggregator) (fec.n sink.aggregator) snapshot

/-- A round that has traffic to report finds nothing recovered, or five more packets than data
packets in a block. -/
def WeightOne (fec : SessionFec σ) (station : GroundStation σ R) (event : Event R) : Prop :=
  ∀ tick receiver sink, event = .tick tick → Due station tick →
    station.receiver = some receiver → receiver.sinks receiver.primaryPort = some sink →
      0 < (aggregator.counters sink.aggregator).countPAll →
        (∃ i, (receiver.paths i).count ≠ 0) →
          (aggregator.counters sink.aggregator).countPFecRecovered = 0 ∨
            fec.n sink.aggregator = fec.k sink.aggregator + 5

variable [IsStrictOrderedRing R]

/-- An update with the snapshot of a receiver that has traffic. -/
theorem errorRatio_update_iff {receiver : WfbReceiver σ} {sink : Sink σ}
    (registered : receiver.sinks receiver.primaryPort = some sink) {nowMs : UInt64}
    (controller : AlinkController R) {call : Call}
    (taken : call.snapshot = (receiver.takeSnapshot aggregator nowMs).2)
    (traffic : Traffic call.snapshot) {k n : ℕ} (le : k ≤ n) :
    (controller.update libm call).2.errorRatio = negotiatedRatio k n call.snapshot ↔
      (aggregator.counters sink.aggregator).countPFecRecovered = 0 ∨ n = k + 5 := by
  have some : (call.snapshot.packetsAll : R) > 0.0 ∧ call.snapshot.numAntennas > 0 := by
    refine ⟨?_, traffic.2⟩
    norm_num
    exact traffic.1
  have ratio : (controller.update libm call).2.errorRatio = errorRatio call.snapshot := by
    change ((controller.requestIdr call.snapshot call.drawn).filterNoise call.snapshot).2.1 = _
    rw [AlinkController.filterNoise, if_pos some]
  obtain ⟨unknown, unknown'⟩ := fec_takeSnapshot aggregator receiver nowMs
  obtain ⟨-, recovered⟩ := packets_takeSnapshot aggregator registered nowMs
  rw [← taken] at unknown unknown' recovered
  rw [ratio, errorRatio_eq_iff unknown unknown' traffic le, recovered]

/-- **One step.** -/
theorem weighed_step (fec : SessionFec σ) (station : GroundStation σ R) (event : Event R) :
    Weighed aggregator libm fec station event ↔ WeightOne aggregator fec station event := by
  cases clock : event.tickMs with
  | none =>
      constructor
      · rintro - tick _ _ rfl
        cases clock
      · intro _ _ _ _ _ _ _ updated
        exact absurd updated (not_updated_of_noTick aggregator libm clock _ _)
  | some nowMs =>
      obtain ⟨tick, rfl⟩ : ∃ tick : Tick, event = .tick tick := by
        cases event <;> cases clock
        exact ⟨_, rfl⟩
      constructor
      · rintro weighed _ receiver sink ⟨⟩ due found registered packets path
        obtain ⟨controller, controlled⟩ := Option.isSome_iff_exists.mp due.controller
        have traffic : Traffic (receiver.takeSnapshot aggregator tick.snapshotMs).2 := by
          refine ⟨?_, (numAntennas_takeSnapshot_pos aggregator receiver _).mpr path⟩
          rw [(packets_takeSnapshot aggregator registered _).1]
          exact packets
        have ratio := weighed receiver sink _ _ found registered
          ((updated_mem_iff aggregator libm found tick _ _).mpr
            ⟨due, rfl, controller, controlled, rfl⟩) traffic
        exact (errorRatio_update_iff aggregator libm registered controller rfl traffic
          (fec.le _)).mp ratio
      · intro one receiver sink snapshot result found registered updated traffic
        obtain ⟨due, taken, controller, -, rfl⟩ :=
          (updated_mem_iff aggregator libm found tick _ _).mp updated
        have packets := traffic.1
        have path := traffic.2
        rw [taken, (packets_takeSnapshot aggregator registered _).1] at packets
        rw [taken, numAntennas_takeSnapshot_pos] at path
        exact (errorRatio_update_iff aggregator libm registered controller taken traffic
          (fec.le _)).mpr (one tick receiver sink rfl due found registered packets path)

/-- **When recoveries are weighed.** In every run, the error ratio of each update with traffic is
the one weighed by the FEC parameters of the session, if and only if each round that reports traffic
finds nothing recovered or a weight of one. -/
theorem weighed_iff (fec : SessionFec σ) (station : GroundStation σ R) (events : List (Event R)) :
    (machine aggregator libm).EveryStep
        (fun station _ event => Weighed aggregator libm fec station event) station events ↔
      (machine aggregator libm).EveryStep
        (fun station _ event => WeightOne aggregator fec station event) station events := by
  constructor
  · intro weighed earlier event later split
    exact (weighed_step aggregator libm fec _ event).mp (weighed earlier event later split)
  · intro one earlier event later split
    exact (weighed_step aggregator libm fec _ event).mpr (one earlier event later split)

/-- An aggregator without encryption in a block of which every packet was recovered. -/
def recoveringAggregator : Aggregator Counters :=
  { plainAggregator with
    processPacket := fun counters packet =>
      ({ counters with
          countPAll := counters.countPAll + 1
          countPFecRecovered := counters.countPFecRecovered + 1 }, [packet.payload]) }

/-- Eight data packets and four more in a block. -/
def eightOfTwelve : SessionFec Counters where
  k _ := 8
  n _ := 12
  le _ := by decide

/-- A round that reports. -/
def reportingTick : Tick where
  snapshotMs := 100
  nowMs := 100
  drawn := (lossCall 0).drawn

/-- A packet on one path, which was recovered. -/
def recoveredEvents : List (Event ℚ) :=
  [.start { alink := { enabled := true } } {}, .frame (sampleFrame [1]) { paths := 1 }]

/-- Five more packets than data packets in a block: the packet recovered counts as one. -/
theorem weighed_iff_five :
    (machine recoveringAggregator (exactLibm fun t _ : ℚ => t)).EveryStep
      (fun station _ event => Weighed recoveringAggregator (exactLibm fun t _ => t)
        { k := fun _ => 8, n := fun _ => 13, le := fun _ => by decide } station event) {}
      (recoveredEvents ++ [.tick reportingTick]) :=
  (weighed_iff recoveringAggregator _ _ {} _).mpr
    fun _ _ _ _ _ _ _ _ _ _ _ _ _ => .inr rfl

/-- The packet recovered counts as one, and not as six fifths. -/
theorem not_weighed_one :
    ¬ (machine recoveringAggregator (exactLibm fun t _ : ℚ => t)).EveryStep
      (fun station _ event => Weighed recoveringAggregator (exactLibm fun t _ => t) eightOfTwelve
        station event) {} (recoveredEvents ++ [.tick reportingTick]) := by
  intro weighed
  have one := (weighed_step recoveringAggregator _ eightOfTwelve _ _).mp weighed.last
  have due : Due ((machine recoveringAggregator (exactLibm fun t _ : ℚ => t)).after {}
      recoveredEvents) reportingTick := ⟨rfl, rfl, by decide⟩
  rcases one reportingTick _ _ rfl due rfl rfl (by decide) ⟨0, by decide⟩ with none | same
  · exact absurd none (by decide)
  · exact absurd same (by decide)

end Link

end MobileGs

import Mathlib.Tactic.IntervalCases
import MobileGs.Foundations.Sections
import MobileGs.Foundations.Summary
import MobileGs.Wfb.Demux

/-!
# The signal in a snapshot

The receiver keeps an accumulator for each path, and `TakeSnapshot` reads and resets them. What they
hold is a function of the accounted frames since the last snapshot (`pathOf`), and with fewer than
`2 ^ 24` of them nothing in them wraps (`summarizes_fed`).

A frame with more than `i` paths has more than any smaller number of them. So the paths that were
seen come first, and the numbers a snapshot gives its antennas are those of the paths
(`antennas_takeSnapshot`). Every snapshot of a run then shows exactly its section of the frames
(`snapshots_exact`).
-/

set_option autoImplicit false

namespace MobileGs

namespace Wfb

open WfbReceiver

/-! ## Accumulators -/

/-- The frames with more than `i` paths. -/
def seenOn (i : Fin 4) (frames : List FrameMeta) : List FrameMeta :=
  frames.filter fun frameMeta => decide ((i.val : ℤ) < frameMeta.paths)

/-- An accumulator that was fed some frames. -/
def fed (i : Fin 4) (seen : List FrameMeta) : PathAccumulator :=
  seen.foldl (fun (acc : PathAccumulator) frameMeta =>
    acc.add (frameMeta.rssi i) (frameMeta.snr i)) {}

theorem fed_concat (i : Fin 4) (seen : List FrameMeta) (frameMeta : FrameMeta) :
    fed i (seen ++ [frameMeta]) = (fed i seen).add (frameMeta.rssi i) (frameMeta.snr i) := by
  rw [fed, List.foldl_append]
  rfl

/-- The accumulator of a path behind some frames. -/
def pathOf (frames : List FrameMeta) (i : Fin 4) : PathAccumulator := fed i (seenOn i frames)

theorem seenOn_concat (i : Fin 4) (frames : List FrameMeta) (frameMeta : FrameMeta) :
    seenOn i (frames ++ [frameMeta]) =
      if (i.val : ℤ) < frameMeta.paths then seenOn i frames ++ [frameMeta]
      else seenOn i frames := by
  rw [seenOn, List.filter_append]
  by_cases has : (i.val : ℤ) < frameMeta.paths
  · simp only [List.filter_cons, List.filter_nil, has, decide_true, if_true]
    rfl
  · simp only [List.filter_cons, List.filter_nil, has, decide_false, Bool.false_eq_true, if_false,
      List.append_nil]
    rfl

/-- Accumulating a frame. -/
theorem paths_accumulateSignal {σ : Type} {receiver : WfbReceiver σ} {frames : List FrameMeta}
    (holds : receiver.paths = pathOf frames) (frameMeta : FrameMeta) :
    (receiver.accumulateSignal frameMeta).paths = pathOf (frames ++ [frameMeta]) := by
  funext i
  have capped : (i.val : ℤ) < min frameMeta.paths 4 ↔ (i.val : ℤ) < frameMeta.paths := by
    have below := i.isLt
    omega
  rw [accumulateSignal, pathOf, seenOn_concat]
  dsimp only
  rw [holds]
  by_cases has : (i.val : ℤ) < frameMeta.paths
  · rw [if_pos has, if_pos (capped.mpr has), fed_concat]
    rfl
  · rw [if_neg has, if_neg fun below => has (capped.mp below)]
    rfl

/-- **Nothing wraps** in an accumulator of fewer than `2 ^ 24` frames. -/
theorem summarizes_fed (i : Fin 4) {seen : List FrameMeta} (few : seen.length < 2 ^ 24) :
    Summarizes (seen.map fun frameMeta => frameMeta.rssi i) (fed i seen).count
        (fed i seen).rssiSum (fed i seen).rssiMin (fed i seen).rssiMax ∧
      Summarizes (seen.map fun frameMeta => frameMeta.snr i) (fed i seen).count
        (fed i seen).snrSum (fed i seen).snrMin (fed i seen).snrMax := by
  induction seen using List.reverseRecOn with
  | nil => exact ⟨summarizes_nil _ _, summarizes_nil _ _⟩
  | append_singleton seen frameMeta ih =>
      rw [List.length_append, List.length_singleton] at few
      obtain ⟨rssi, snr⟩ := ih (by omega)
      rw [fed_concat, List.map_append, List.map_append]
      exact ⟨rssi.concat _ (by rwa [List.length_map]), snr.concat _ (by rwa [List.length_map])⟩

theorem length_seenOn_le (i : Fin 4) (frames : List FrameMeta) :
    (seenOn i frames).length ≤ frames.length := List.length_filter_le _ _

theorem count_pathOf_eq_zero_iff {frames : List FrameMeta} (few : frames.length < 2 ^ 24)
    (i : Fin 4) : (pathOf frames i).count = 0 ↔ seenOn i frames = [] := by
  have summary := (summarizes_fed i ((length_seenOn_le i frames).trans_lt few)).1
  exact summary.count_eq_zero_iff.trans List.map_eq_nil_iff

/-- What an antenna of a snapshot says of the frames of its path. -/
structure PathStat (i : Fin 4) (frames : List FrameMeta) (stat : AntennaStat) : Prop where
  antennaId : stat.antennaId.toInt = i.val
  count : stat.count.toInt = (seenOn i frames).length
  rssi : ExactStats ((seenOn i frames).map fun frameMeta => frameMeta.rssi i) stat.rssiMin
    stat.rssiAvg stat.rssiMax
  snr : ExactStats ((seenOn i frames).map fun frameMeta => frameMeta.snr i) stat.snrMin
    stat.snrAvg stat.snrMax

/-- The entry of a path that was seen. -/
theorem pathStat_pathOf {frames : List FrameMeta} (few : frames.length < 2 ^ 24) {i : Fin 4}
    (seen : seenOn i frames ≠ []) :
    PathStat i frames ((pathOf frames i).stat (Int32.ofNat i.val)) := by
  obtain ⟨rssi, snr⟩ := summarizes_fed i ((length_seenOn_le i frames).trans_lt few)
  have small := i.isLt
  constructor
  · exact Int32.toInt_ofNat_of_lt (by omega)
  · exact rssi.count_eq.trans (congrArg Nat.cast (List.length_map _))
  · exact rssi.exact fun none => seen (List.map_eq_nil_iff.mp none)
  · exact snr.exact fun none => seen (List.map_eq_nil_iff.mp none)

/-! ## Paths seen -/

/-- The number of paths of the frame with the most, at most four. -/
def pathsSeen (frames : List FrameMeta) : ℕ :=
  frames.foldr (fun frameMeta seen => max (min frameMeta.paths 4).toNat seen) 0

theorem lt_pathsSeen_iff {frames : List FrameMeta} {k : ℕ} :
    k < pathsSeen frames ↔ ∃ frameMeta ∈ frames, (k : ℤ) < min frameMeta.paths 4 := by
  induction frames with
  | nil => simp [pathsSeen]
  | cons frameMeta rest ih =>
      have most : pathsSeen (frameMeta :: rest) =
          max (min frameMeta.paths 4).toNat (pathsSeen rest) := rfl
      rw [most, lt_max_iff, ih]
      simp only [List.mem_cons, exists_eq_or_imp, Int.lt_toNat]

theorem pathsSeen_le (frames : List FrameMeta) : pathsSeen frames ≤ 4 := by
  by_contra more
  obtain ⟨frameMeta, -, below⟩ := lt_pathsSeen_iff.mp (not_le.mp more)
  omega

/-- The paths seen come first. -/
theorem seenOn_ne_nil_iff {frames : List FrameMeta} {i : Fin 4} :
    seenOn i frames ≠ [] ↔ i.val < pathsSeen frames := by
  rw [lt_pathsSeen_iff, Ne, seenOn, List.filter_eq_nil_iff]
  have small := i.isLt
  simp only [decide_eq_true_eq, not_forall, not_not, exists_prop]
  constructor
  · rintro ⟨frameMeta, among, has⟩
    exact ⟨frameMeta, among, by omega⟩
  · rintro ⟨frameMeta, among, has⟩
    exact ⟨frameMeta, among, by omega⟩

/-! ## The snapshot -/

/-- The antennas of a snapshot are numbered, and its best values are the best of theirs. -/
structure Collected (snapshot : LinkSnapshot) : Prop where
  numbered : snapshot.numAntennas = Int32.ofNat snapshot.antennas.length
  bestRssi : snapshot.bestRssi.toInt =
    (snapshot.antennas.map fun stat => stat.rssiAvg.toInt).foldl max (-105)
  bestSnr : snapshot.bestSnr.toInt =
    (snapshot.antennas.map fun stat => stat.snrAvg.toInt).foldl max 0

theorem toInt_max (a b : Int32) : (max a b).toInt = max a.toInt b.toInt := by
  by_cases le : a ≤ b
  · have taken : max a b = b := if_pos le
    rw [taken, max_eq_right (Int32.le_iff_toInt_le.mp le)]
  · have taken : max a b = a := if_neg le
    rw [Int32.le_iff_toInt_le, not_le] at le
    rw [taken, max_eq_left le.le]

theorem ofNat_succ (n : ℕ) : Int32.ofNat (n + 1) = Int32.ofNat n + 1 := Int32.ofNat_add n 1

/-- An accumulator with frames in it adds an antenna. -/
theorem collect_of_count {snapshot : LinkSnapshot} {acc : PathAccumulator} (some : acc.count ≠ 0) :
    snapshot.collect acc =
      { snapshot with
        antennas := snapshot.antennas ++ [acc.stat snapshot.numAntennas]
        bestRssi := max snapshot.bestRssi (acc.stat snapshot.numAntennas).rssiAvg.toInt32
        bestSnr := max snapshot.bestSnr (acc.stat snapshot.numAntennas).snrAvg.toInt32
        numAntennas := snapshot.numAntennas + 1 } := if_neg some

theorem Collected.collect {snapshot : LinkSnapshot} (collected : Collected snapshot)
    (acc : PathAccumulator) : Collected (snapshot.collect acc) := by
  obtain ⟨numbered, bestRssi, bestSnr⟩ := collected
  by_cases none : acc.count = 0
  · rw [LinkSnapshot.collect, if_pos none]
    exact ⟨numbered, bestRssi, bestSnr⟩
  · rw [collect_of_count none]
    constructor
    · dsimp only
      rw [List.length_append, List.length_singleton, ofNat_succ, numbered]
    · dsimp only
      rw [List.map_append, List.foldl_append, toInt_max, bestRssi, Int8.toInt_toInt32]
      rfl
    · dsimp only
      rw [List.map_append, List.foldl_append, toInt_max, bestSnr, Int8.toInt_toInt32]
      rfl

theorem Collected.foldl {snapshot : LinkSnapshot} (collected : Collected snapshot)
    (accs : List PathAccumulator) : Collected (accs.foldl LinkSnapshot.collect snapshot) := by
  induction accs generalizing snapshot with
  | nil => exact collected
  | cons acc rest ih => exact ih (collected.collect acc)

/-- The antennas are those of the accumulators with frames in them, numbered in order. -/
theorem antennas_foldl {snapshot : LinkSnapshot} (collected : Collected snapshot)
    (accs : List PathAccumulator) :
    (accs.foldl LinkSnapshot.collect snapshot).antennas =
      snapshot.antennas ++ (accs.filter fun acc => acc.count ≠ 0).mapIdx fun j acc =>
        acc.stat (Int32.ofNat (snapshot.antennas.length + j)) := by
  induction accs generalizing snapshot with
  | nil => exact (List.append_nil _).symm
  | cons acc rest ih =>
      rw [List.foldl_cons, ih (collected.collect acc)]
      by_cases none : acc.count = 0
      · rw [LinkSnapshot.collect, if_pos none, List.filter_cons_of_neg (by simpa using none)]
      · rw [collect_of_count none, List.filter_cons_of_pos (by simpa using none),
          List.mapIdx_cons, List.append_assoc]
        dsimp only
        rw [List.length_append, List.length_singleton, collected.numbered, Nat.add_zero]
        simp only [Nat.add_assoc, Nat.add_comm 1]
        rfl

/-- The numbers of the first paths are the paths. -/
theorem mapIdx_take_finRange (bound : ℕ) (accs : Fin 4 → PathAccumulator) :
    (((List.finRange 4).take bound).map accs).mapIdx (fun j acc =>
        acc.stat (Int32.ofNat (0 + j))) =
      ((List.finRange 4).take bound).map fun i => (accs i).stat (Int32.ofNat i.val) := by
  apply List.ext_getElem
  · rw [List.length_mapIdx, List.length_map, List.length_map]
  · intro j lt lt'
    simp

theorem filter_finRange {bound : ℕ} (le : bound ≤ 4) :
    (List.finRange 4).filter (fun i => decide (i.val < bound)) =
      (List.finRange 4).take bound := by
  interval_cases bound <;> rfl

variable {σ : Type} (aggregator : Aggregator σ)

theorem collected_countersSnapshot (receiver : WfbReceiver σ) (nowMs : UInt64) :
    Collected (receiver.countersSnapshot aggregator nowMs) := by
  unfold countersSnapshot
  split <;> exact ⟨rfl, rfl, rfl⟩

theorem antennas_countersSnapshot (receiver : WfbReceiver σ) (nowMs : UInt64) :
    (receiver.countersSnapshot aggregator nowMs).antennas = [] := by
  unfold countersSnapshot
  split <;> rfl

/-- **The antennas of a snapshot** are the paths seen. -/
theorem antennas_takeSnapshot {receiver : WfbReceiver σ} {frames : List FrameMeta}
    (holds : receiver.paths = pathOf frames) (few : frames.length < 2 ^ 24) (nowMs : UInt64) :
    (receiver.takeSnapshot aggregator nowMs).2.antennas =
      ((List.finRange 4).take (pathsSeen frames)).map fun i =>
        (pathOf frames i).stat (Int32.ofNat i.val) := by
  have live : (fun i => decide ((pathOf frames i).count ≠ 0)) =
      fun i : Fin 4 => decide (i.val < pathsSeen frames) := by
    funext i
    rw [decide_eq_decide, Ne, count_pathOf_eq_zero_iff few, ← seenOn_ne_nil_iff]
  rw [takeSnapshot, antennas_foldl (collected_countersSnapshot aggregator receiver nowMs),
    antennas_countersSnapshot, holds, List.filter_map, List.nil_append, List.length_nil]
  have first : (List.finRange 4).filter ((fun acc : PathAccumulator => decide (acc.count ≠ 0)) ∘
      pathOf frames) = (List.finRange 4).take (pathsSeen frames) := by
    rw [← filter_finRange (pathsSeen_le frames), ← live]
    rfl
  rw [first, mapIdx_take_finRange]

/-- A snapshot shows exactly these frames. -/
structure SnapshotOf (frames : List FrameMeta) (snapshot : LinkSnapshot) : Prop where
  seen : ∀ k : ℕ, k < snapshot.antennas.length ↔
    ∃ frameMeta ∈ frames, (k : ℤ) < min frameMeta.paths 4
  stats : ∀ (i : Fin 4) (stat : AntennaStat), snapshot.antennas[i.val]? = some stat →
    PathStat i frames stat
  bestRssi : snapshot.bestRssi.toInt =
    (snapshot.antennas.map fun stat => stat.rssiAvg.toInt).foldl max (-105)
  bestSnr : snapshot.bestSnr.toInt =
    (snapshot.antennas.map fun stat => stat.snrAvg.toInt).foldl max 0
  numAntennas : snapshot.numAntennas.toInt = snapshot.antennas.length

theorem snapshotOf_takeSnapshot {receiver : WfbReceiver σ} {frames : List FrameMeta}
    (holds : receiver.paths = pathOf frames) (few : frames.length < 2 ^ 24) (nowMs : UInt64) :
    SnapshotOf frames (receiver.takeSnapshot aggregator nowMs).2 := by
  have antennas := antennas_takeSnapshot aggregator holds few nowMs
  have collected : Collected (receiver.takeSnapshot aggregator nowMs).2 :=
    (collected_countersSnapshot aggregator receiver nowMs).foldl _
  have most := pathsSeen_le frames
  have length : (receiver.takeSnapshot aggregator nowMs).2.antennas.length = pathsSeen frames := by
    rw [antennas, List.length_map, List.length_take, List.length_finRange]
    omega
  constructor
  · intro k
    rw [length, lt_pathsSeen_iff]
  · intro i stat here
    obtain ⟨inside, same⟩ := List.getElem?_eq_some_iff.mp here
    have seen : seenOn i frames ≠ [] := seenOn_ne_nil_iff.mpr (length ▸ inside)
    have entry : stat = (pathOf frames i).stat (Int32.ofNat i.val) := by
      rw [← same]
      simp [antennas]
    rw [entry]
    exact pathStat_pathOf few seen
  · exact collected.bestRssi
  · exact collected.bestSnr
  · rw [collected.numbered]
    exact Int32.toInt_ofNat_of_lt (by omega)

/-! ## Runs -/

/-- What a frame that is accounted reports. -/
def accounted (linkId : UInt32) (primaryPort : Byte) (registered : Bool) :
    Event → Option FrameMeta
  | .frame data frameMeta =>
      if Belongs linkId primaryPort data ∧ registered then some frameMeta else none
  | .snapshot _ => none

def Event.isSnapshot : Event → Bool
  | .frame _ _ => false
  | .snapshot _ => true

def Obs.snapshot? : Obs → Option LinkSnapshot
  | .snapshot taken => some taken
  | _ => none

/-- The accumulators hold these frames, and the receiver is configured like this. -/
structure Holds (linkId : UInt32) (primaryPort : Byte) (registered : Bool)
    (frames : List FrameMeta) (receiver : WfbReceiver σ) : Prop where
  paths_eq : receiver.paths = pathOf frames
  linkId_eq : receiver.radio.linkId = linkId
  primaryPort_eq : receiver.primaryPort = primaryPort
  registered_eq : (receiver.sinks primaryPort).isSome = registered

theorem snapshots_processFrame (receiver : WfbReceiver σ) (heard : Heard) :
    (receiver.processFrame aggregator heard.1 heard.2).2.filterMap Obs.snapshot? = [] := by
  unfold processFrame
  dsimp only
  split
  · rfl
  · split
    · rfl
    · rw [List.filterMap_cons, List.filterMap_map]
      exact List.filterMap_eq_nil_iff.mpr fun _ _ => rfl

theorem Holds.processFrame {linkId : UInt32} {primaryPort : Byte} {registered : Bool}
    {frames : List FrameMeta} {receiver : WfbReceiver σ}
    (holds : Holds linkId primaryPort registered frames receiver) (heard : Heard) :
    Holds linkId primaryPort registered
      (frames ++ (accounted linkId primaryPort registered (.frame heard.1 heard.2)).toList)
      (receiver.processFrame aggregator heard.1 heard.2).1 := by
  obtain ⟨paths, rfl, rfl, rfl⟩ := holds
  have step := frameStep_processFrame aggregator receiver heard
  have moved := step.paths
  refine ⟨?_, congrArg RadioConfig.linkId step.radio, step.primaryPort, ?_⟩
  · rw [accounted]
    split
    · rename_i counts
      rw [if_pos counts] at moved
      exact moved.trans (paths_accumulateSignal paths heard.2)
    · rename_i skips
      rw [if_neg skips] at moved
      rw [moved, paths, Option.toList_none, List.append_nil]
  · rw [step.sinks]
    split
    · exact Option.isSome_map
    · rfl

theorem Holds.takeSnapshot {linkId : UInt32} {primaryPort : Byte} {registered : Bool}
    {frames : List FrameMeta} {receiver : WfbReceiver σ}
    (holds : Holds linkId primaryPort registered frames receiver) (nowMs : UInt64) :
    Holds linkId primaryPort registered [] (receiver.takeSnapshot aggregator nowMs).1 := by
  obtain ⟨-, rfl, rfl, rfl⟩ := holds
  refine ⟨rfl, rfl, rfl, ?_⟩
  simp only [WfbReceiver.takeSnapshot, resetSignal, clearStats, Function.update_self,
    Option.isSome_map]

/-- One event, against the sections of the frames. -/
theorem Holds.step {linkId : UInt32} {primaryPort : Byte} {registered : Bool}
    {frames : List FrameMeta} {receiver : WfbReceiver σ}
    (holds : Holds linkId primaryPort registered frames receiver) (event : Event) :
    Holds linkId primaryPort registered
        ((sections (accounted linkId primaryPort registered) Event.isSnapshot).step
          frames event).1
        (((machine aggregator).viewed Obs.snapshot?).step receiver event).1 ∧
      List.Forall₂ (fun section' snapshot => section'.length < 2 ^ 24 →
          SnapshotOf section' snapshot)
        ((sections (accounted linkId primaryPort registered) Event.isSnapshot).step
          frames event).2
        (((machine aggregator).viewed Obs.snapshot?).step receiver event).2 := by
  cases event with
  | frame data frameMeta =>
      refine ⟨holds.processFrame aggregator (data, frameMeta), ?_⟩
      have silent := snapshots_processFrame aggregator receiver (data, frameMeta)
      simp only [Mealy.viewed, machine, silent]
      exact .nil
  | snapshot nowMs =>
      refine ⟨holds.takeSnapshot aggregator nowMs, .cons ?_ .nil⟩
      exact fun few => snapshotOf_takeSnapshot aggregator holds.paths_eq few nowMs

/-- **The snapshots of a run.** Let a receiver be constructed and given any streams. Over any run in
which fewer than `2 ^ 24` frames of the primary stream come between two snapshots, each such frame
is in one section of the run, and every snapshot shows its section exactly. -/
theorem snapshots_exact (radio : RadioConfig) (sinks : Byte → Option (Sink σ))
    (events : List Event)
    (few : ∀ section' ∈ (sections (accounted radio.linkId portVideo (sinks portVideo).isSome)
      Event.isSnapshot).outputs [] events, section'.length < 2 ^ 24) :
    List.Forall₂ SnapshotOf
        ((sections (accounted radio.linkId portVideo (sinks portVideo).isSome)
          Event.isSnapshot).outputs [] events)
        (((machine aggregator).outputs { radio, sinks } events).filterMap Obs.snapshot?) ∧
      ((sections (accounted radio.linkId portVideo (sinks portVideo).isSome)
          Event.isSnapshot).outputs [] events).flatten ++
          (sections (accounted radio.linkId portVideo (sinks portVideo).isSome)
            Event.isSnapshot).after [] events =
        events.filterMap (accounted radio.linkId portVideo (sinks portVideo).isSome) := by
  refine ⟨?_, flatten_sections _ _ [] events⟩
  have start : Holds radio.linkId portVideo (sinks portVideo).isSome []
      ({ radio, sinks } : WfbReceiver σ) := ⟨rfl, rfl, rfl, rfl⟩
  have shown : List.Forall₂ (fun section' snapshot => section'.length < 2 ^ 24 →
        SnapshotOf section' snapshot)
      ((sections (accounted radio.linkId portVideo (sinks portVideo).isSome)
        Event.isSnapshot).outputs [] events)
      (((machine aggregator).viewed Obs.snapshot?).outputs { radio, sinks } events) := by
    refine (Mealy.forall₂_simulation
      (Holds radio.linkId portVideo (sinks portVideo).isSome) ?_ start
      (List.forall₂_same.mpr fun event _ => rfl)).2
    rintro frames receiver event _ holds rfl
    exact holds.step aggregator event
  rw [Mealy.outputs_viewed] at shown
  refine ((List.forall₂_and_left _ _).mpr ⟨few, shown⟩).imp ?_
  rintro section' snapshot ⟨small, exact'⟩
  exact exact' small

/-- Two frames on two paths, and a snapshot. -/
theorem snapshots_exact_two :
    List.Forall₂ SnapshotOf
        ((sections (accounted 7669206 portVideo true) Event.isSnapshot).outputs []
          [.frame (sampleFrame [1]) { paths := 2 }, .frame (sampleFrame [1]) { paths := 2 },
            .snapshot 0])
        (((machine plainAggregator).outputs
            { radio := {}
              sinks := fun _ => some { aggregator := {}, callback := true } }
            [.frame (sampleFrame [1]) { paths := 2 }, .frame (sampleFrame [1]) { paths := 2 },
              .snapshot 0]).filterMap Obs.snapshot?) ∧
      ((sections (accounted 7669206 portVideo true) Event.isSnapshot).outputs []
            [.frame (sampleFrame [1]) { paths := 2 }, .frame (sampleFrame [1]) { paths := 2 },
              .snapshot 0]).flatten ++
          (sections (accounted 7669206 portVideo true) Event.isSnapshot).after []
            [.frame (sampleFrame [1]) { paths := 2 }, .frame (sampleFrame [1]) { paths := 2 },
              .snapshot 0] =
        [.frame (sampleFrame [1]) { paths := 2 }, .frame (sampleFrame [1]) { paths := 2 },
          .snapshot 0].filterMap (accounted 7669206 portVideo true) :=
  snapshots_exact plainAggregator {} (fun _ => some { aggregator := {}, callback := true }) _
    (by decide)

end Wfb

end MobileGs

import Mathlib.Algebra.Order.Group.Multiset
import Mathlib.Tactic.Abel
import MobileGs.Threads.Model

/-!
# Lifetimes

A thread stands in front of a pointer it has tested, or inside a call on an object. The run is
anchored as long as these pointers and objects are still there (`Anchored`). Joins keep it so for
the receiver, and for what the statistics thread sends through. Two things are not kept by joins.
`Stop` and a failing `Start` reset the source before the router's thread is joined, and
`SetAlinkConfig` drops the controller while the statistics thread runs.

So a run is anchored throughout exactly when none of these resets comes while the other thread is
behind its test (`anchored_throughout_iff`). In such a run no null pointer is followed and no object
is used behind its end, and when the station is at rest its source and its receiver were destroyed
once (`objects_outlive_calls`).
-/

set_option autoImplicit false

namespace MobileGs

namespace Threads

open Handles

/-! ## The application's phases -/

def StatsPoint.there : StatsPoint → Bool
  | .none => false
  | _ => true

def RxPoint.there : RxPoint → Bool
  | .none => false
  | _ => true

/-- A source and a receiver, the statistics thread, and the source's thread. -/
structure Crew where
  source : Bool
  receiver : Bool
  stats : Bool
  rx : Bool
  deriving DecidableEq

def GroundStation.crew (station : GroundStation) : Crew where
  source := station.source.isSome
  receiver := station.receiver.isSome
  stats := station.stats.there
  rx := station.rx.there

/-- What is there, by where the application stands. -/
def GroundStation.expected (station : GroundStation) : Crew :=
  match station.call with
  | .idle =>
      if station.running then ⟨true, station.devourer, true, true⟩ else ⟨false, false, false, false⟩
  | .starting _ => ⟨false, false, false, false⟩
  | .making => ⟨false, false, false, false⟩
  | .connecting => ⟨true, station.devourer, false, false⟩
  | .failing => ⟨false, false, false, false⟩
  | .joinStats => ⟨true, station.devourer, true, true⟩
  | .stopSource => ⟨true, station.devourer, false, true⟩
  | .resetSource => ⟨true, station.devourer, false, false⟩
  | .stopRouter => ⟨false, station.devourer, false, false⟩
  | .finish => ⟨false, station.devourer, false, false⟩

/-- What is there fits where the application stands. -/
structure Phased (station : GroundStation) : Prop where
  crew : station.crew = station.expected
  calls : station.running = true → station.call = .idle
  router : station.call = .idle ∧ station.running = false ∨ station.call = .finish →
    station.poll = .none

/-! ## Anchors -/

/-- The source a thread is about to send through, or sends through, is there. -/
def Sending.Anchored (source : Option Object) : Sending → Prop
  | .checked => source.isSome = true
  | .transmitting object => source = some object

instance decidableSendingAnchored (source : Option Object) :
    ∀ sending : Sending, Decidable (sending.Anchored source)
  | .checked => inferInstanceAs (Decidable (source.isSome = true))
  | .transmitting object => inferInstanceAs (Decidable (source = some object))

def StatsPoint.Anchored (station : GroundStation) : StatsPoint → Prop
  | .found => station.receiver.isSome = true
  | .snapshotting receiver => station.receiver = some receiver
  | .checked => station.alink.isSome = true
  | .updating controller => station.alink = some controller
  | .sending point => point.Anchored station.source
  | _ => True

def RxPoint.Anchored (station : GroundStation) : RxPoint → Prop
  | .inFrame receiver => station.receiver = some receiver
  | _ => True

def PollPoint.Anchored (station : GroundStation) : PollPoint → Prop
  | .sending point => point.Anchored station.source
  | _ => True

/-- What the threads are about to follow, or stand in, is there. -/
structure Anchored (station : GroundStation) : Prop where
  stats : station.stats.Anchored station
  rx : station.rx.Anchored station
  poll : station.poll.Anchored station

def PollPoint.isSending : PollPoint → Bool
  | .sending _ => true
  | _ => false

def StatsPoint.updates : StatsPoint → Bool
  | .checked => true
  | .updating _ => true
  | _ => false

/-- No reset comes while another thread is behind its test: that of the source while the router's
thread sends, that of the controller while the statistics thread updates it. -/
def Undisturbed (station : GroundStation) (_ : List Obs) : Event → Prop
  | .startSource success =>
      success = false → station.call = .connecting → station.poll.isSending = false
  | .resetSource => station.call = .resetSource → station.poll.isSending = false
  | .setAlinkConfig enabled =>
      enabled = false → station.call = .idle → station.stats.updates = false
  | _ => True

instance decidableUndisturbed (station : GroundStation) (trace : List Obs) :
    ∀ event : Event, Decidable (Undisturbed station trace event)
  | .startSource success =>
      inferInstanceAs (Decidable
        (success = false → station.call = .connecting → station.poll.isSending = false))
  | .resetSource =>
      inferInstanceAs (Decidable (station.call = .resetSource → station.poll.isSending = false))
  | .setAlinkConfig enabled =>
      inferInstanceAs (Decidable
        (enabled = false → station.call = .idle → station.stats.updates = false))
  | .start _ _ _ | .startAlink | .startMake _ | .failJoin | .stop | .stopStats | .stopSource
  | .stopRouter | .finish | .setChannel | .statsSection _ | .rxSection | .pollSection =>
      .isTrue trivial

/-! ## The phases of a run -/

section Phases

variable {station station' : GroundStation}

/-- A section of another thread stays in its thread. -/
theorem Phased.section (phased : Phased station) (crew : station'.crew = station.crew)
    (devourer : station'.devourer = station.devourer)
    (running : station'.running = station.running) (call : station'.call = station.call)
    (poll : station.poll = .none → station'.poll = .none) : Phased station' := by
  have expected : station'.expected = station.expected := by
    simp only [GroundStation.expected, devourer, running, call]
  constructor
  · rw [crew, expected]
    exact phased.crew
  · rw [running, call]
    exact phased.calls
  · rw [running, call]
    exact fun at' => poll (phased.router at')

theorem statsSection_phased (phased : Phased station) (due : Bool) :
    Phased (station.statsSection due).1 := by
  unfold GroundStation.statsSection
  have stays : ∀ {point : StatsPoint}, station.stats.there = true → point.there = true →
      Phased { station with stats := point } := by
    intro point before behind
    refine phased.section ?_ rfl rfl rfl id
    simp only [GroundStation.crew, before, behind]
  split
  · exact phased
  · rename_i point
    exact stays (by rw [point]; rfl) (by split <;> rfl)
  · rename_i point
    exact stays (by rw [point]; rfl) (by split <;> rfl)
  · rename_i point
    exact stays (by rw [point]; rfl) (by split <;> rfl)
  · rename_i point
    exact stays (by rw [point]; rfl) (by cases station.receiver <;> rfl)
  · rename_i receiver point
    exact stays (by rw [point]; rfl) rfl
  · rename_i point
    exact stays (by rw [point]; rfl) (by split <;> rfl)
  · rename_i point
    exact stays (by rw [point]; rfl) (by cases station.alink <;> rfl)
  · rename_i controller point
    exact stays (by rw [point]; rfl) rfl
  · rename_i point
    exact stays (by rw [point]; rfl) (by split <;> rfl)
  · rename_i sending point
    refine stays (by rw [point]; rfl) ?_
    cases (station.sendSection sending).1 <;> rfl
  · exact phased

theorem rxSection_phased (phased : Phased station) : Phased station.rxSection.1 := by
  unfold GroundStation.rxSection
  have stays : ∀ {point : RxPoint}, station.rx.there = true → point.there = true →
      Phased { station with rx := point } := by
    intro point before behind
    refine phased.section ?_ rfl rfl rfl id
    simp only [GroundStation.crew, before, behind]
  split
  · exact phased
  · rename_i point
    split
    · exact stays (by rw [point]; rfl) (by cases station.receiver <;> rfl)
    · exact phased
  · rename_i receiver point
    exact stays (by rw [point]; rfl) rfl

theorem pollSection_phased (phased : Phased station) : Phased station.pollSection.1 := by
  unfold GroundStation.pollSection
  split
  · exact phased
  · rename_i point
    exact phased.section rfl rfl rfl rfl fun none => by rw [point] at none; cases none
  · rename_i sending point
    exact phased.section rfl rfl rfl rfl fun none => by rw [point] at none; cases none

/-! ### Sections of the application -/

theorem start_phased (phased : Phased station) (devourer alinkEnabled pipe : Bool) :
    Phased (station.start devourer alinkEnabled pipe).1 := by
  unfold GroundStation.start
  split
  · exact phased
  · split
    · exact phased
    · obtain ⟨crew, calls, router⟩ := phased
      constructor <;> simp_all [GroundStation.crew, GroundStation.expected]

theorem startAlink_phased (phased : Phased station) : Phased station.startAlink.1 := by
  unfold GroundStation.startAlink
  split
  · obtain ⟨crew, calls, router⟩ := phased
    constructor <;> simp_all [GroundStation.crew, GroundStation.expected]
  · obtain ⟨crew, calls, router⟩ := phased
    constructor <;> simp_all [GroundStation.crew, GroundStation.expected]
  · exact phased

theorem startMake_phased (phased : Phased station) (keys : Bool) :
    Phased (station.startMake keys).1 := by
  unfold GroundStation.startMake
  split
  · exact phased
  · split
    · split
      · obtain ⟨crew, calls, router⟩ := phased
        constructor <;> simp_all [GroundStation.crew, GroundStation.expected]
      · obtain ⟨crew, calls, router⟩ := phased
        constructor <;> simp_all [GroundStation.crew, GroundStation.expected]
    · obtain ⟨crew, calls, router⟩ := phased
      constructor <;> simp_all [GroundStation.crew, GroundStation.expected]

theorem startSource_phased (phased : Phased station) (success : Bool) :
    Phased (station.startSource success).1 := by
  unfold GroundStation.startSource
  split
  · exact phased
  · split
    · obtain ⟨crew, calls, router⟩ := phased
      constructor <;>
        simp_all [GroundStation.crew, GroundStation.expected, StatsPoint.there, RxPoint.there]
    · obtain ⟨crew, calls, router⟩ := phased
      constructor <;> simp_all [GroundStation.crew, GroundStation.expected]

theorem failJoin_phased (phased : Phased station) : Phased station.failJoin.1 := by
  unfold GroundStation.failJoin
  split
  · obtain ⟨crew, calls, router⟩ := phased
    constructor <;> simp_all [GroundStation.crew, GroundStation.expected]
  · exact phased

theorem stop_phased (phased : Phased station) : Phased station.stop.1 := by
  unfold GroundStation.stop
  split
  · exact phased
  · split
    · obtain ⟨crew, calls, router⟩ := phased
      constructor <;> simp_all [GroundStation.crew, GroundStation.expected]
    · exact phased

theorem stopStats_phased (phased : Phased station) : Phased station.stopStats.1 := by
  unfold GroundStation.stopStats
  split
  · obtain ⟨crew, calls, router⟩ := phased
    constructor <;> simp_all [GroundStation.crew, GroundStation.expected, StatsPoint.there]
  · exact phased

theorem stopSource_phased (phased : Phased station) : Phased station.stopSource.1 := by
  unfold GroundStation.stopSource
  split
  · obtain ⟨crew, calls, router⟩ := phased
    constructor <;> simp_all [GroundStation.crew, GroundStation.expected, RxPoint.there]
  · exact phased

theorem resetSource_phased (phased : Phased station) : Phased station.resetSource.1 := by
  unfold GroundStation.resetSource
  split
  · obtain ⟨crew, calls, router⟩ := phased
    constructor <;> simp_all [GroundStation.crew, GroundStation.expected]
  · exact phased

theorem stopRouter_phased (phased : Phased station) : Phased station.stopRouter.1 := by
  unfold GroundStation.stopRouter
  split
  · obtain ⟨crew, calls, router⟩ := phased
    constructor <;> simp_all [GroundStation.crew, GroundStation.expected]
  · exact phased

theorem finish_phased (phased : Phased station) : Phased station.finish.1 := by
  unfold GroundStation.finish
  split
  · obtain ⟨crew, calls, router⟩ := phased
    constructor <;> simp_all [GroundStation.crew, GroundStation.expected]
  · exact phased

theorem setAlinkConfig_phased (phased : Phased station) (enabled : Bool) :
    Phased (station.setAlinkConfig enabled).1 := by
  unfold GroundStation.setAlinkConfig
  split
  · exact phased
  · split
    · split
      · exact phased
      · exact ⟨phased.crew, phased.calls, phased.router⟩
    · exact ⟨phased.crew, phased.calls, phased.router⟩

theorem setChannel_phased (phased : Phased station) : Phased station.setChannel.1 := by
  unfold GroundStation.setChannel
  split
  · exact phased
  · exact phased

/-- What is there, one by one. -/
theorem Phased.finds (phased : Phased station) {crew : Crew} (expected : station.expected = crew) :
    station.source.isSome = crew.source ∧ station.receiver.isSome = crew.receiver ∧
      station.stats.there = crew.stats ∧ station.rx.there = crew.rx := by
  have found := phased.crew.trans expected
  exact ⟨congrArg Crew.source found, congrArg Crew.receiver found, congrArg Crew.stats found,
    congrArg Crew.rx found⟩

/-- Around the making and the end of the source there is no thread but the router's. -/
theorem Phased.alone (phased : Phased station)
    (at' : (∃ enabled, station.call = .starting enabled) ∨ station.call = .making ∨
      station.call = .connecting ∨ station.call = .resetSource ∨ station.call = .finish) :
    station.stats.there = false ∧ station.rx.there = false := by
  rcases at' with ⟨enabled, at'⟩ | at' | at' | at' | at'
  all_goals
    obtain ⟨-, -, stats, rx⟩ := phased.finds (show station.expected = _ by
      simp only [GroundStation.expected, at']; rfl)
    exact ⟨stats, rx⟩

/-- The source and the receiver are made where there are none. -/
theorem Phased.unmade (phased : Phased station) (making : station.call = .making) :
    station.source = none ∧ station.receiver = none := by
  obtain ⟨source, receiver, -⟩ := phased.finds (show station.expected = _ by
    simp only [GroundStation.expected, making]; rfl)
  exact ⟨by simpa using source, by simpa using receiver⟩

/-- A source is started that was made. -/
theorem Phased.connects (phased : Phased station) (connecting : station.call = .connecting) :
    ∃ source, station.source = some source := by
  obtain ⟨source, -⟩ := phased.finds (show station.expected = _ by
    simp only [GroundStation.expected, connecting]; rfl)
  exact Option.isSome_iff_exists.mp source

/-- At the end of `Stop` the source is gone. -/
theorem Phased.finishes (phased : Phased station) (finish : station.call = .finish) :
    station.source = none := by
  obtain ⟨source, -⟩ := phased.finds (show station.expected = _ by
    simp only [GroundStation.expected, finish]; rfl)
  simpa using source

theorem phased_step (phased : Phased station) (event : Event) :
    Phased (machine.step station event).1 := by
  cases event with
  | start devourer alinkEnabled pipe => exact start_phased phased devourer alinkEnabled pipe
  | startAlink => exact startAlink_phased phased
  | startMake keys => exact startMake_phased phased keys
  | startSource success => exact startSource_phased phased success
  | failJoin => exact failJoin_phased phased
  | stop => exact stop_phased phased
  | stopStats => exact stopStats_phased phased
  | stopSource => exact stopSource_phased phased
  | resetSource => exact resetSource_phased phased
  | stopRouter => exact stopRouter_phased phased
  | finish => exact finish_phased phased
  | setAlinkConfig enabled => exact setAlinkConfig_phased phased enabled
  | setChannel => exact setChannel_phased phased
  | statsSection due => exact statsSection_phased phased due
  | rxSection => exact rxSection_phased phased
  | pollSection => exact pollSection_phased phased

end Phases

/-! ## Anchors along a run -/

section Anchors

variable {station : GroundStation}

theorem anchored_of_statsGone {point : StatsPoint} (gone : point.there = false) :
    point.Anchored station := by
  cases point with
  | none => trivial
  | _ => cases gone

theorem anchored_of_rxGone {point : RxPoint} (gone : point.there = false) :
    point.Anchored station := by
  cases point with
  | none => trivial
  | _ => cases gone

theorem anchored_of_notSending {point : PollPoint} (quiet : point.isSending = false) :
    point.Anchored station := by
  cases point with
  | sending sending => cases quiet
  | _ => trivial

/-- The controller matters to a statistics thread that updates it, and at no other point. -/
theorem anchored_of_notUpdating {station' : GroundStation} {point : StatsPoint}
    (anchored : point.Anchored station) (quiet : point.updates = false)
    (source : station'.source = station.source) (receiver : station'.receiver = station.receiver) :
    point.Anchored station' := by
  cases point with
  | checked => cases quiet
  | updating controller => cases quiet
  | found | snapshotting _ =>
      rw [StatsPoint.Anchored, receiver]
      exact anchored
  | sending _ =>
      rw [StatsPoint.Anchored, source]
      exact anchored
  | _ => trivial

/-- Where there is no controller, none is updated. -/
theorem notUpdating_of_noAlink (anchored : station.stats.Anchored station)
    (none : station.alink = none) : station.stats.updates = false := by
  cases point : station.stats with
  | checked | updating _ =>
      rw [point, StatsPoint.Anchored, none] at anchored
      cases anchored
  | _ => rfl

/-- Where there is no source, no thread sends. -/
theorem notSending_of_noSource (anchored : station.poll.Anchored station)
    (none : station.source = none) : station.poll.isSending = false := by
  cases point : station.poll with
  | sending sending =>
      rw [point, PollPoint.Anchored, none] at anchored
      cases sending <;> cases anchored
  | _ => rfl

/-- Inside `SendUplink` the source stays the one that was tested. -/
theorem sendSection_anchored (sending : Sending) :
    ∀ next ∈ (station.sendSection sending).1, next.Anchored station.source := by
  intro next goesOn
  cases sending with
  | checked =>
      obtain ⟨source, there, rfl⟩ := Option.map_eq_some_iff.mp goesOn
      exact there
  | transmitting source => cases goesOn

theorem statsSection_anchored (anchored : Anchored station) (due : Bool) :
    Anchored (station.statsSection due).1 := by
  have stays : ∀ {point : StatsPoint}, point.Anchored station →
      Anchored { station with stats := point } :=
    fun point => ⟨point, anchored.rx, anchored.poll⟩
  unfold GroundStation.statsSection
  split
  · exact anchored
  · exact stays (by split <;> trivial)
  · exact stays (by split <;> trivial)
  · refine stays ?_
    split
    · rename_i found
      exact found
    · trivial
  · refine stays ?_
    cases there : station.receiver with
    | none => trivial
    | some receiver => exact there
  · exact stays trivial
  · refine stays ?_
    split
    · rename_i reports
      simp only [Bool.and_eq_true] at reports
      exact reports.1.1
    · trivial
  · refine stays ?_
    cases there : station.alink with
    | none => trivial
    | some controller => exact there
  · exact stays trivial
  · refine stays ?_
    split
    · rename_i sends
      simp only [GroundStation.sends, Bool.and_eq_true] at sends
      exact sends.1
    · trivial
  · rename_i sending point
    refine stays ?_
    cases goesOn : (station.sendSection sending).1 with
    | none => trivial
    | some next => exact sendSection_anchored sending next goesOn
  · exact anchored

theorem rxSection_anchored (anchored : Anchored station) : Anchored station.rxSection.1 := by
  have stays : ∀ {point : RxPoint}, point.Anchored station →
      Anchored { station with rx := point } :=
    fun point => ⟨anchored.stats, point, anchored.poll⟩
  unfold GroundStation.rxSection
  split
  · exact anchored
  · split
    · refine stays ?_
      cases there : station.receiver with
      | none => trivial
      | some receiver => exact there
    · exact anchored
  · exact stays trivial

theorem pollSection_anchored (anchored : Anchored station) : Anchored station.pollSection.1 := by
  have stays : ∀ {point : PollPoint}, point.Anchored station →
      Anchored { station with poll := point } :=
    fun point => ⟨anchored.stats, anchored.rx, point⟩
  unfold GroundStation.pollSection
  split
  · exact anchored
  · refine stays ?_
    split
    · rename_i sends
      simp only [GroundStation.sends, Bool.and_eq_true] at sends
      exact sends.1
    · trivial
  · rename_i sending point
    refine stays ?_
    cases goesOn : (station.sendSection sending).1 with
    | none => trivial
    | some next => exact sendSection_anchored sending next goesOn

/-! ### Sections of the application -/

theorem start_anchored (anchored : Anchored station) (devourer alinkEnabled pipe : Bool) :
    Anchored (station.start devourer alinkEnabled pipe).1 := by
  unfold GroundStation.start
  split
  · exact anchored
  · split
    · exact anchored
    · exact ⟨anchored.stats, anchored.rx, by cases pipe <;> trivial⟩

theorem startAlink_anchored (phased : Phased station) (anchored : Anchored station) :
    Anchored station.startAlink.1 := by
  unfold GroundStation.startAlink
  split
  · rename_i at'
    have alone := phased.alone (.inl ⟨true, at'⟩)
    exact ⟨anchored_of_statsGone alone.1, anchored.rx, anchored.poll⟩
  · exact ⟨anchored.stats, anchored.rx, anchored.poll⟩
  · exact anchored

theorem startMake_anchored (phased : Phased station) (anchored : Anchored station) (keys : Bool) :
    Anchored (station.startMake keys).1 := by
  unfold GroundStation.startMake
  split
  · exact anchored
  · rename_i at'
    have making : station.call = .making := by simpa using at'
    have alone := phased.alone (.inr (.inl making))
    have quiet := notSending_of_noSource anchored.poll (phased.unmade making).1
    split
    · split
      · exact ⟨anchored_of_statsGone alone.1, anchored_of_rxGone alone.2,
          anchored_of_notSending quiet⟩
      · exact ⟨anchored.stats, anchored.rx, anchored.poll⟩
    · exact ⟨anchored_of_statsGone alone.1, anchored.rx, anchored_of_notSending quiet⟩

theorem startSource_anchored (phased : Phased station) (anchored : Anchored station)
    (success : Bool) (undisturbed : Undisturbed station [] (.startSource success)) :
    Anchored (station.startSource success).1 := by
  unfold GroundStation.startSource
  split
  · exact anchored
  · rename_i at'
    have connecting : station.call = .connecting := by simpa using at'
    have alone := phased.alone (.inr (.inr (.inl connecting)))
    split
    · exact ⟨trivial, trivial, anchored.poll⟩
    · rename_i fails
      have quiet := undisturbed (by simpa using fails) connecting
      exact ⟨anchored_of_statsGone alone.1, anchored_of_rxGone alone.2,
        anchored_of_notSending quiet⟩

theorem failJoin_anchored (anchored : Anchored station) : Anchored station.failJoin.1 := by
  unfold GroundStation.failJoin
  split
  · exact ⟨anchored.stats, anchored.rx, trivial⟩
  · exact anchored

theorem stop_anchored (anchored : Anchored station) : Anchored station.stop.1 := by
  unfold GroundStation.stop
  split
  · exact anchored
  · split
    · exact ⟨anchored.stats, anchored.rx, anchored.poll⟩
    · exact anchored

theorem stopStats_anchored (anchored : Anchored station) : Anchored station.stopStats.1 := by
  unfold GroundStation.stopStats
  split
  · exact ⟨trivial, anchored.rx, anchored.poll⟩
  · exact anchored

theorem stopSource_anchored (anchored : Anchored station) : Anchored station.stopSource.1 := by
  unfold GroundStation.stopSource
  split
  · exact ⟨anchored.stats, trivial, anchored.poll⟩
  · exact anchored

theorem resetSource_anchored (phased : Phased station) (anchored : Anchored station)
    (undisturbed : Undisturbed station [] .resetSource) : Anchored station.resetSource.1 := by
  unfold GroundStation.resetSource
  split
  · rename_i at'
    have alone := phased.alone (.inr (.inr (.inr (.inl at'))))
    exact ⟨anchored_of_statsGone alone.1, anchored.rx, anchored_of_notSending (undisturbed at')⟩
  · exact anchored

theorem stopRouter_anchored (anchored : Anchored station) : Anchored station.stopRouter.1 := by
  unfold GroundStation.stopRouter
  split
  · exact ⟨anchored.stats, anchored.rx, trivial⟩
  · exact anchored

theorem finish_anchored (phased : Phased station) (anchored : Anchored station) :
    Anchored station.finish.1 := by
  unfold GroundStation.finish
  split
  · rename_i at'
    have alone := phased.alone (.inr (.inr (.inr (.inr at'))))
    exact ⟨anchored_of_statsGone alone.1, anchored_of_rxGone alone.2, anchored.poll⟩
  · exact anchored

theorem setAlinkConfig_anchored (anchored : Anchored station) (enabled : Bool)
    (undisturbed : Undisturbed station [] (.setAlinkConfig enabled)) :
    Anchored (station.setAlinkConfig enabled).1 := by
  unfold GroundStation.setAlinkConfig
  split
  · exact anchored
  · rename_i at'
    split
    · split
      · exact anchored
      · rename_i nothing
        have quiet := notUpdating_of_noAlink anchored.stats nothing
        exact ⟨anchored_of_notUpdating anchored.stats quiet rfl rfl, anchored.rx, anchored.poll⟩
    · rename_i disabled
      have quiet := undisturbed (by simpa using disabled) (by simpa using at')
      exact ⟨anchored_of_notUpdating anchored.stats quiet rfl rfl, anchored.rx, anchored.poll⟩

theorem setChannel_anchored (anchored : Anchored station) : Anchored station.setChannel.1 := by
  unfold GroundStation.setChannel
  split
  · exact anchored
  · exact anchored

/-- **A section keeps the threads anchored, unless it resets what one of them is behind a test
of.** -/
theorem anchored_step (phased : Phased station) (anchored : Anchored station) {trace : List Obs}
    {event : Event} (undisturbed : Undisturbed station trace event) :
    Anchored (machine.step station event).1 := by
  cases event with
  | start devourer alinkEnabled pipe => exact start_anchored anchored devourer alinkEnabled pipe
  | startAlink => exact startAlink_anchored phased anchored
  | startMake keys => exact startMake_anchored phased anchored keys
  | startSource success => exact startSource_anchored phased anchored success undisturbed
  | failJoin => exact failJoin_anchored anchored
  | stop => exact stop_anchored anchored
  | stopStats => exact stopStats_anchored anchored
  | stopSource => exact stopSource_anchored anchored
  | resetSource => exact resetSource_anchored phased anchored undisturbed
  | stopRouter => exact stopRouter_anchored anchored
  | finish => exact finish_anchored phased anchored
  | setAlinkConfig enabled => exact setAlinkConfig_anchored anchored enabled undisturbed
  | setChannel => exact setChannel_anchored anchored
  | statsSection due => exact statsSection_anchored anchored due
  | rxSection => exact rxSection_anchored anchored
  | pollSection => exact pollSection_anchored anchored

/-- A reset behind a test leaves a thread without an anchor. -/
theorem undisturbed_of_anchored {trace : List Obs} {event : Event}
    (behind : Anchored (machine.step station event).1) : Undisturbed station trace event := by
  have noSource : ∀ {station' : GroundStation}, station'.source = none →
      station'.poll = station.poll → Anchored station' → station.poll.isSending = false := by
    intro station' none poll anchored'
    rw [← poll]
    exact notSending_of_noSource anchored'.poll none
  cases event with
  | startSource success =>
      intro fails connecting
      refine noSource ?_ ?_ behind
      · simp [machine, GroundStation.startSource, fails, connecting]
      · simp [machine, GroundStation.startSource, fails, connecting]
  | resetSource =>
      intro resets
      refine noSource ?_ ?_ behind
      · simp [machine, GroundStation.resetSource, resets]
      · simp [machine, GroundStation.resetSource, resets]
  | setAlinkConfig enabled =>
      intro disabled idle
      have stats := behind.stats
      simp only [machine, GroundStation.setAlinkConfig, disabled, idle, ne_eq, not_true_eq_false,
        if_false, Bool.false_eq_true] at stats
      cases point : station.stats with
      | checked =>
          rw [point] at stats
          cases stats
      | updating controller =>
          rw [point] at stats
          cases stats
      | _ => rfl
  | _ => trivial

/-- What every section finds. -/
structure Steady (station : GroundStation) : Prop where
  phased : Phased station
  anchored : Anchored station

theorem steady_fresh : Steady {} :=
  ⟨⟨rfl, fun no => (by cases no), fun _ => rfl⟩, ⟨trivial, trivial, trivial⟩⟩

theorem steady_step (steady : Steady station) {trace : List Obs} {event : Event}
    (undisturbed : Undisturbed station trace event) : Steady (machine.step station event).1 :=
  ⟨phased_step steady.phased event, anchored_step steady.phased steady.anchored undisturbed⟩

end Anchors

/-- **The threads are anchored throughout a run exactly when no reset comes while another thread is
behind its test.** -/
theorem anchored_throughout_iff (events : List Event) :
    machine.Throughout (fun station _ => Anchored station) {} events ↔
      machine.EveryStep Undisturbed {} events := by
  refine Mealy.throughout_iff_everyStep (fun station _ => Steady station) steady_fresh
    (fun _ _ _ steady => steady_step steady) (fun _ _ steady => steady.anchored) ?_ events
  rintro station trace event - behind
  exact undisturbed_of_anchored behind

/-! ## Objects -/

/-- The objects the station holds. -/
def GroundStation.held (station : GroundStation) : Multiset Object :=
  ↑station.source.toList + ↑station.receiver.toList + ↑station.alink.toList

/-- What a step does to the objects, and that it follows no null pointer. -/
structure StepMoves (station station' : GroundStation) (emitted : List Obs) : Prop where
  moves : Moves Object.serial station.held station.nextSerial (emitted.flatMap Obs.calls)
    station'.held station'.nextSerial
  sound : ∀ kind, .null kind ∉ emitted

section Objects

variable {station : GroundStation}

theorem calls_release (pointer : Option Object) :
    (GroundStation.release pointer).flatMap Obs.calls = pointer.toList.map .close := by
  cases pointer <;> rfl

theorem null_release (pointer : Option Object) (kind : Kind) :
    .null kind ∉ GroundStation.release pointer := by
  cases pointer <;> simp [GroundStation.release]

/-- A pointer is reset. -/
theorem moves_release (pointer : Option Object) {held rest : Multiset Object} (next : ℕ)
    (whole : held = ↑pointer.toList + rest) :
    Moves Object.serial held next ((GroundStation.release pointer).flatMap Obs.calls) rest
      next := by
  rw [calls_release, whole]
  cases pointer with
  | none =>
      rw [Option.toList_none, Multiset.coe_nil, zero_add]
      exact .nil _ _ _
  | some object => exact .close rest object next

theorem source_held {source : Object} (there : station.source = some source) :
    source ∈ station.held := by
  simp [GroundStation.held, there]

theorem receiver_held {receiver : Object} (there : station.receiver = some receiver) :
    receiver ∈ station.held := by
  simp [GroundStation.held, there]

theorem alink_held {controller : Object} (there : station.alink = some controller) :
    controller ∈ station.held := by
  simp [GroundStation.held, there]

/-- What is held behind a step may be written in another way. -/
theorem StepMoves.of {station' : GroundStation} {emitted : List Obs} {held' : Multiset Object}
    (moves : Moves Object.serial station.held station.nextSerial (emitted.flatMap Obs.calls) held'
      station'.nextSerial)
    (behind : station'.held = held') (sound : ∀ kind, .null kind ∉ emitted) :
    StepMoves station station' emitted :=
  ⟨behind ▸ moves, sound⟩

/-- A step that calls nothing. -/
theorem StepMoves.silent {station' : GroundStation} {emitted : List Obs}
    (held : station'.held = station.held) (next : station'.nextSerial = station.nextSerial)
    (calls : emitted.flatMap Obs.calls = []) (sound : ∀ kind, .null kind ∉ emitted) :
    StepMoves station station' emitted := by
  refine ⟨?_, sound⟩
  rw [held, next, calls]
  exact .nil _ _ _

theorem StepMoves.nothing (station : GroundStation) : StepMoves station station [] :=
  .silent rfl rfl rfl (by simp)

/-- A step that uses an object that is there. -/
theorem StepMoves.used {station' : GroundStation} {object : Object}
    (held : station'.held = station.held) (next : station'.nextSerial = station.nextSerial)
    (there : object ∈ station.held) : StepMoves station station' [.call (.use object)] := by
  refine ⟨?_, by simp⟩
  rw [held, next]
  exact .use there _

theorem sendSection_moves {station' : GroundStation} (held : station'.held = station.held)
    (next : station'.nextSerial = station.nextSerial) {sending : Sending}
    (anchored : sending.Anchored station.source) :
    StepMoves station station' (station.sendSection sending).2 := by
  cases sending with
  | checked =>
      obtain ⟨source, there⟩ := Option.isSome_iff_exists.mp anchored
      simp only [GroundStation.sendSection, there, GroundStation.follow]
      exact .used held next (source_held there)
  | transmitting source => exact .used held next (source_held anchored)

theorem statsSection_moves (anchored : Anchored station) (due : Bool) :
    StepMoves station (station.statsSection due).1 (station.statsSection due).2 := by
  have stats := anchored.stats
  unfold GroundStation.statsSection
  split
  · exact .silent rfl rfl rfl (by simp)
  · exact .silent rfl rfl rfl (by simp)
  · exact .silent rfl rfl rfl (by simp)
  · exact .silent rfl rfl rfl (by simp)
  · rename_i point
    rw [point] at stats
    obtain ⟨receiver, there⟩ := Option.isSome_iff_exists.mp stats
    simp only [there, GroundStation.follow]
    exact .used (by simp [GroundStation.held, there]) rfl (receiver_held there)
  · rename_i receiver point
    rw [point] at stats
    exact .used rfl rfl (receiver_held stats)
  · exact .silent rfl rfl rfl (by simp)
  · rename_i point
    rw [point] at stats
    obtain ⟨controller, there⟩ := Option.isSome_iff_exists.mp stats
    simp only [there, GroundStation.follow]
    exact .used (by simp [GroundStation.held, there]) rfl (alink_held there)
  · rename_i controller point
    rw [point] at stats
    exact .used rfl rfl (alink_held stats)
  · exact .silent rfl rfl rfl (by simp)
  · rename_i sending point
    rw [point] at stats
    refine sendSection_moves ?_ ?_ stats
    · rfl
    · rfl
  · exact .silent rfl rfl rfl (by simp)

theorem pollSection_moves (anchored : Anchored station) :
    StepMoves station station.pollSection.1 station.pollSection.2 := by
  have poll := anchored.poll
  unfold GroundStation.pollSection
  split
  · exact .silent rfl rfl rfl (by simp)
  · exact .silent rfl rfl rfl (by simp)
  · rename_i sending point
    rw [point] at poll
    refine sendSection_moves ?_ ?_ poll
    · rfl
    · rfl

/-- The source's thread has the receiver as long as it is there. -/
theorem Phased.receives (phased : Phased station) (rx : station.rx.there = true)
    (devourer : station.devourer = true) : station.receiver.isSome = true := by
  have crew := phased.crew
  simp only [GroundStation.crew, GroundStation.expected] at crew
  cases at' : station.call <;> simp_all
  split at crew <;> simp_all

theorem rxSection_moves (phased : Phased station) (anchored : Anchored station) :
    StepMoves station station.rxSection.1 station.rxSection.2 := by
  have rx := anchored.rx
  unfold GroundStation.rxSection
  split
  · exact .silent rfl rfl rfl (by simp)
  · rename_i point
    split
    · rename_i devourer
      obtain ⟨receiver, there⟩ :=
        Option.isSome_iff_exists.mp (phased.receives (by rw [point]; rfl) devourer)
      simp only [there, GroundStation.follow]
      exact .used (by simp [GroundStation.held, there]) rfl (receiver_held there)
    · exact .silent rfl rfl rfl (by simp)
  · rename_i receiver point
    rw [point] at rx
    exact .used rfl rfl (receiver_held rx)

/-- An object is made. -/
theorem moves_made (station : GroundStation) (kind : Kind) :
    Moves Object.serial station.held station.nextSerial [.grant (station.made kind)]
      (station.made kind ::ₘ station.held) (station.nextSerial + 1) :=
  .grant station.held rfl

/-- A receiver is made, and its keys are installed. -/
theorem moves_receiver (station : GroundStation) :
    Moves Object.serial station.held station.nextSerial
      [.grant (station.made .receiver), .use (station.made .receiver)]
      (station.made .receiver ::ₘ station.held) (station.nextSerial + 1) :=
  (moves_made station .receiver).append (.use (Multiset.mem_cons_self _ _) _)

/-! ### Sections of the application -/

theorem start_moves (station : GroundStation) (devourer alinkEnabled pipe : Bool) :
    StepMoves station (station.start devourer alinkEnabled pipe).1
      (station.start devourer alinkEnabled pipe).2 := by
  unfold GroundStation.start
  split
  · exact .nothing station
  · split
    · exact .silent rfl rfl rfl (by simp)
    · exact .silent rfl rfl rfl (by simp)

theorem startAlink_moves (station : GroundStation) :
    StepMoves station station.startAlink.1 station.startAlink.2 := by
  unfold GroundStation.startAlink
  split
  · have granted := moves_made station .alink
    refine .of (granted.append (moves_release station.alink _ ?_)) rfl
      (by simp [null_release])
    simp only [GroundStation.held, Option.toList_some, Multiset.coe_singleton,
      ← Multiset.singleton_add]
    abel
  · exact .silent rfl rfl rfl (by simp)
  · exact .nothing station

theorem startMake_moves (phased : Phased station) (keys : Bool) :
    StepMoves station (station.startMake keys).1 (station.startMake keys).2 := by
  unfold GroundStation.startMake
  split
  · exact .nothing station
  · rename_i at'
    have making : station.call = .making := by simpa using at'
    obtain ⟨noSource, noReceiver⟩ := phased.unmade making
    have receiver := moves_receiver station
    split
    · split
      · have source : Moves Object.serial (station.made .receiver ::ₘ station.held)
            (station.nextSerial + 1) [.grant ⟨.source, station.nextSerial + 1⟩]
            (⟨.source, station.nextSerial + 1⟩ ::ₘ station.made .receiver ::ₘ station.held)
            (station.nextSerial + 2) := .grant _ rfl
        refine .of (receiver.append source) ?_ (by simp)
        simp only [GroundStation.held, noSource, noReceiver, Option.toList_some,
          Option.toList_none, Multiset.coe_singleton, Multiset.coe_nil,
          ← Multiset.singleton_add]
        abel
      · exact .of (receiver.append (.close station.held _ _)) rfl (by simp)
    · refine .of (moves_made station .source) ?_ (by simp)
      simp only [GroundStation.held, noSource, Option.toList_some, Option.toList_none,
        Multiset.coe_singleton, Multiset.coe_nil, ← Multiset.singleton_add]
      abel

theorem startSource_moves (phased : Phased station) (success : Bool) :
    StepMoves station (station.startSource success).1 (station.startSource success).2 := by
  unfold GroundStation.startSource
  split
  · exact .nothing station
  · rename_i at'
    have connecting : station.call = .connecting := by simpa using at'
    obtain ⟨source, there⟩ := phased.connects connecting
    have used : Moves Object.serial station.held station.nextSerial [.use source]
        station.held station.nextSerial := .use (source_held there) _
    simp only [there, GroundStation.follow]
    split
    · exact .of used (by simp [GroundStation.held, there]) (by simp)
    · have released : Moves Object.serial station.held station.nextSerial
          ((GroundStation.release (some source)).flatMap Obs.calls)
          (↑station.receiver.toList + ↑station.alink.toList) station.nextSerial :=
        moves_release (some source) _ (by rw [GroundStation.held, there, add_assoc])
      have all : Moves Object.serial station.held station.nextSerial
          (([Obs.call (.use source)] ++ GroundStation.release (some source) ++
            GroundStation.release station.receiver).flatMap Obs.calls)
          ↑station.alink.toList station.nextSerial := by
        rw [List.flatMap_append, List.flatMap_append]
        exact (used.append released).append (moves_release station.receiver _ rfl)
      exact .of all (by simp [GroundStation.held]) (by simp [null_release])

theorem failJoin_moves (station : GroundStation) :
    StepMoves station station.failJoin.1 station.failJoin.2 := by
  unfold GroundStation.failJoin
  split
  · exact .silent rfl rfl rfl (by simp)
  · exact .nothing station

theorem stop_moves (station : GroundStation) :
    StepMoves station station.stop.1 station.stop.2 := by
  unfold GroundStation.stop
  split
  · exact .nothing station
  · split
    · exact .silent rfl rfl rfl (by simp)
    · exact .silent rfl rfl rfl (by simp)

theorem stopStats_moves (station : GroundStation) :
    StepMoves station station.stopStats.1 station.stopStats.2 := by
  unfold GroundStation.stopStats
  split
  · exact .silent rfl rfl rfl (by simp)
  · exact .nothing station

theorem stopSource_moves (station : GroundStation) :
    StepMoves station station.stopSource.1 station.stopSource.2 := by
  unfold GroundStation.stopSource
  split
  · cases there : station.source with
    | none => exact .silent (by simp [GroundStation.held, there]) rfl rfl (by simp)
    | some source =>
        exact .used (by simp [GroundStation.held, there]) rfl (source_held there)
  · exact .nothing station

theorem resetSource_moves (station : GroundStation) :
    StepMoves station station.resetSource.1 station.resetSource.2 := by
  unfold GroundStation.resetSource
  split
  · refine ⟨moves_release station.source _ ?_, null_release _⟩
    simp only [GroundStation.held, Option.toList_none, Multiset.coe_nil]
    abel
  · exact .nothing station

theorem stopRouter_moves (station : GroundStation) :
    StepMoves station station.stopRouter.1 station.stopRouter.2 := by
  unfold GroundStation.stopRouter
  split
  · exact .silent rfl rfl rfl (by simp)
  · exact .nothing station

theorem finish_moves (phased : Phased station) :
    StepMoves station station.finish.1 station.finish.2 := by
  unfold GroundStation.finish
  split
  · rename_i at'
    have noSource := phased.finishes at'
    have receiver : Moves Object.serial station.held station.nextSerial
        ((GroundStation.release station.receiver).flatMap Obs.calls) ↑station.alink.toList
        station.nextSerial := by
      refine moves_release station.receiver _ ?_
      simp only [GroundStation.held, noSource, Option.toList_none, Multiset.coe_nil]
      abel
    have alink := moves_release station.alink station.nextSerial (add_zero _).symm
    have all : Moves Object.serial station.held station.nextSerial
        ((GroundStation.release station.receiver ++ GroundStation.release station.alink ++
          [Obs.stopReturned]).flatMap Obs.calls) 0 station.nextSerial := by
      rw [List.flatMap_append, List.flatMap_append]
      exact (receiver.append alink).append (.nil _ _ _)
    exact .of all (by simp [GroundStation.held, noSource]) (by simp [null_release])
  · exact .nothing station

theorem setAlinkConfig_moves (station : GroundStation) (enabled : Bool) :
    StepMoves station (station.setAlinkConfig enabled).1 (station.setAlinkConfig enabled).2 := by
  unfold GroundStation.setAlinkConfig
  split
  · exact .nothing station
  · split
    · split
      · rename_i controller there
        exact .used rfl rfl (alink_held there)
      · rename_i none
        refine .of (moves_made station .alink) ?_ (by simp)
        simp only [GroundStation.held, none, Option.toList_some, Option.toList_none,
          Multiset.coe_singleton, Multiset.coe_nil, ← Multiset.singleton_add]
        abel
    · refine ⟨moves_release station.alink _ ?_, null_release _⟩
      simp only [GroundStation.held, Option.toList_none, Multiset.coe_nil]
      abel

theorem setChannel_moves (station : GroundStation) :
    StepMoves station station.setChannel.1 station.setChannel.2 := by
  unfold GroundStation.setChannel
  split
  · exact .nothing station
  · cases there : station.source with
    | none => exact .silent rfl rfl rfl (by simp)
    | some source => exact .used rfl rfl (source_held there)

theorem step_moves (steady : Steady station) (event : Event) :
    StepMoves station (machine.step station event).1 (machine.step station event).2 := by
  obtain ⟨phased, anchored⟩ := steady
  cases event with
  | start devourer alinkEnabled pipe => exact start_moves station devourer alinkEnabled pipe
  | startAlink => exact startAlink_moves station
  | startMake keys => exact startMake_moves phased keys
  | startSource success => exact startSource_moves phased success
  | failJoin => exact failJoin_moves station
  | stop => exact stop_moves station
  | stopStats => exact stopStats_moves station
  | stopSource => exact stopSource_moves station
  | resetSource => exact resetSource_moves station
  | stopRouter => exact stopRouter_moves station
  | finish => exact finish_moves phased
  | setAlinkConfig enabled => exact setAlinkConfig_moves station enabled
  | setChannel => exact setChannel_moves station
  | statsSection due => exact statsSection_moves anchored due
  | rxSection => exact rxSection_moves phased anchored
  | pollSection => exact pollSection_moves anchored

/-- At rest a station holds no more than its controller. -/
theorem Phased.rests (phased : Phased station) (idle : station.call = .idle)
    (stopped : station.running = false) : station.held = ↑station.alink.toList := by
  obtain ⟨source, receiver, -⟩ := phased.finds (show station.expected = _ by
    simp only [GroundStation.expected, idle, stopped]; rfl)
  have noSource : station.source = none := by simpa using source
  have noReceiver : station.receiver = none := by simpa using receiver
  simp [GroundStation.held, noSource, noReceiver]

/-- A run without disturbing resets moves the objects that are held. -/
theorem run_moves {events : List Event} (undisturbed : machine.EveryStep Undisturbed {} events) :
    Steady (machine.after {} events) ∧
      Moves Object.serial 0 0 ((machine.outputs {} events).flatMap Obs.calls)
        (machine.after {} events).held (machine.after {} events).nextSerial :=
  moves_of_everyStep Obs.calls Object.serial GroundStation.held GroundStation.nextSerial
    steady_fresh
    (fun _ _ event steady met => ⟨steady_step steady met, (step_moves steady event).moves⟩)
    undisturbed

/-- It follows no null pointer. -/
theorem run_sound {events : List Event} (undisturbed : machine.EveryStep Undisturbed {} events)
    (kind : Kind) : .null kind ∉ machine.outputs {} events := by
  have run : Steady (machine.after {} events) ∧ .null kind ∉ machine.outputs {} events := by
    refine Mealy.invariant_of_everyStep
      (fun station trace => Steady station ∧ Obs.null kind ∉ trace)
      ⟨steady_fresh, List.not_mem_nil⟩ ?_ undisturbed
    rintro station trace event ⟨steady, sound⟩ met
    refine ⟨steady_step steady met, ?_⟩
    rw [List.mem_append, not_or]
    exact ⟨sound, (step_moves steady event).sound kind⟩
  exact run.2

end Objects

/-- **In a run without disturbing resets every object outlives its calls.** No null pointer is
followed, no object is used behind its end, and none is ended twice. At rest all but the controller
that is still set have been ended. -/
theorem objects_outlive_calls {events : List Event}
    (undisturbed : machine.EveryStep Undisturbed {} events) :
    Safe id ((machine.outputs {} events).flatMap Obs.calls) ∧
      (∀ kind, .null kind ∉ machine.outputs {} events) ∧
      ((machine.after {} events).call = .idle → (machine.after {} events).running = false →
        ∀ object, .grant object ∈ (machine.outputs {} events).flatMap Obs.calls →
          (machine.after {} events).alink ≠ some object →
          ((machine.outputs {} events).flatMap Obs.calls).count (.close object) = 1) := by
  obtain ⟨⟨phased, -⟩, moves⟩ := run_moves undisturbed
  refine ⟨moves.safe_self, run_sound undisturbed, fun idle stopped object granted other => ?_⟩
  refine moves.dropped granted ?_
  rw [phased.rests idle stopped, Multiset.mem_coe, Option.mem_toList]
  exact other

/-- An adapter is started with adaptive link and stopped, while a frame comes in, a report goes out
and a client's frame goes up. -/
private def session : List Event :=
  [.start true true true, .startAlink, .startMake true, .startSource true, .rxSection,
    .statsSection true, .statsSection true, .pollSection, .statsSection true, .statsSection true,
    .statsSection true, .statsSection true, .rxSection, .statsSection true, .pollSection,
    .statsSection true, .statsSection true, .stop, .statsSection true, .pollSection,
    .statsSection true, .statsSection true, .stopStats, .stopSource, .resetSource, .pollSection,
    .stopRouter, .finish]

theorem objects_outlive_calls_session :
    (∀ kind, .null kind ∉ machine.outputs {} session) ∧
      ((machine.outputs {} session).flatMap Obs.calls).count (.close ⟨.source, 2⟩) = 1 := by
  obtain ⟨-, sound, ended⟩ := @objects_outlive_calls session (by decide)
  exact ⟨sound, ended (by decide) (by decide) ⟨.source, 2⟩ (by decide) (by decide)⟩

/-- A frame is on its way up when `Stop` resets the source: a null pointer is followed. -/
example : .null .source ∈ machine.outputs {}
    [.start true false true, .startAlink, .startMake true, .startSource true, .pollSection, .stop,
      .statsSection false, .stopStats, .stopSource, .resetSource, .pollSection] := by
  decide

end Threads

end MobileGs

import MobileGs.Foundations.Countdown
import MobileGs.Router.Descriptors

/-!
# The end of the poll loop

`Stop` waits for the loop, which may be anywhere, also in front of descriptors it has yet to walk.
Once `running_` is cleared each section of the loop brings it closer to its end
(`loopLeft_step`), whatever the system answers and whatever is called meanwhile. So `Stop` returns,
and leaves no endpoint (`poll_loop_ends`).

The walk holds the mutex, and it ends as well (`lockLeft_step`).
-/

set_option autoImplicit false

namespace MobileGs

namespace Router

/-- The event is the section of the loop that comes at the point it has reached. -/
def Event.isTurn : LoopPoint → Event → Bool
  | .head, .loopTest => true
  | .rebuild, .loopRebuild _ => true
  | .collect, .loopCollect => true
  | .poll _, .loopPoll _ => true
  | .lock _, .loopLock => true
  | .walk slots _, .loopSlot _ => !slots.isEmpty
  | .walk slots _, .loopClose => slots.isEmpty
  | _, _ => false

/-- A loop that has not ended has a section that comes next. -/
theorem exists_turn {point : LoopPoint} (alive : point ≠ .stopped) (ends : point ≠ .returned) :
    ∃ event : Event, event.isTurn point = true := by
  cases point with
  | stopped => exact absurd rfl alive
  | head => exact ⟨.loopTest, rfl⟩
  | rebuild => exact ⟨.loopRebuild [], rfl⟩
  | collect => exact ⟨.loopCollect, rfl⟩
  | poll slots => exact ⟨.loopPoll .woken, rfl⟩
  | lock slots => exact ⟨.loopLock, rfl⟩
  | walk slots toClose =>
      cases slots with
      | nil => exact ⟨.loopClose, rfl⟩
      | cons slot rest => exact ⟨.loopSlot {}, rfl⟩
  | returned => exact absurd rfl ends

/-- How many sections the loop has left once `running_` is cleared. -/
def LoopPoint.loopLeft : LoopPoint → ℕ
  | .stopped => 0
  | .returned => 0
  | .head => 1
  | .poll _ => 2
  | .collect => 3
  | .rebuild => 4
  | .walk slots _ => slots.length + 2
  | .lock slots => slots.length + 3

/-- The descriptors the loop has in front of it. -/
def LoopPoint.ahead : LoopPoint → ℕ
  | .walk slots _ => slots.length
  | .lock slots => slots.length
  | _ => 0

theorem LoopPoint.loopLeft_le (point : LoopPoint) : point.loopLeft ≤ point.ahead + 4 := by
  cases point <;> simp [loopLeft, ahead]

theorem LoopPoint.loopLeft_pos {point : LoopPoint} (alive : point ≠ .stopped)
    (unfinished : point ≠ .returned) : 0 < point.loopLeft := by
  cases point <;> simp_all [loopLeft]

/-- How many sections the loop has left until it releases the mutex. -/
def LoopPoint.lockLeft : LoopPoint → ℕ
  | .walk slots _ => slots.length + 1
  | _ => 0

/-- `Stop` waits for the loop. -/
structure Waiting (router : MavlinkRouter) : Prop where
  stopping : router.stopping = true
  running : router.running = false
  alive : router.loop ≠ .stopped

/-- What the walk at a descriptor leaves of the descriptors. -/
theorem loopSlot_walks (router : MavlinkRouter) {slot : Slot} {rest : List Slot}
    {toClose : List ℕ} (walking : router.loop = .walk (slot :: rest) toClose)
    (answer : SlotAnswer) :
    ∃ toClose', (router.loopSlot answer).1.loop = .walk rest toClose' ∧
      (router.loopSlot answer).1.stopping = router.stopping ∧
      (router.loopSlot answer).1.running = router.running := by
  simp only [MavlinkRouter.loopSlot, walking]
  split
  · exact ⟨_, rfl, rfl, rfl⟩
  · rename_i endpoint found
    cases MavlinkRouter.slotAction endpoint slot answer with
    | ignore => exact ⟨_, rfl, rfl, rfl⟩
    | close => exact ⟨_, rfl, rfl, rfl⟩
    | accept fd => exact ⟨_, rfl, rfl, rfl⟩
    | handle source data => exact ⟨_, rfl, rfl, rfl⟩

/-- The walk is not at a descriptor. -/
theorem loopSlot_elsewhere {router : MavlinkRouter}
    (elsewhere : ¬ ∃ slot rest toClose, router.loop = .walk (slot :: rest) toClose)
    (answer : SlotAnswer) : (router.loopSlot answer).1 = router := by
  unfold MavlinkRouter.loopSlot
  split
  · rename_i slot rest toClose point
    exact absurd ⟨slot, rest, toClose, point⟩ elsewhere
  · rfl

/-- The thread is there while the router runs or waits for it. -/
structure Threaded (router : MavlinkRouter) : Prop where
  exclusive : router.stopping = true → router.running = false
  alive : router.running = true ∨ router.stopping = true → router.loop ≠ .stopped

/-- A section of the loop leaves a loop. -/
theorem Threaded.goesOn {router router' : MavlinkRouter} (threaded : Threaded router)
    (stops : router'.stopping = router.stopping) (runs : router'.running = router.running)
    (alive : router'.loop = router.loop ∨ router'.loop ≠ .stopped) : Threaded router' := by
  refine ⟨by rw [stops, runs]; exact threaded.exclusive, fun serves => ?_⟩
  rw [stops, runs] at serves
  rcases alive with same | alive
  · rw [same]
    exact threaded.alive serves
  · exact alive

theorem threaded_step {router : MavlinkRouter} (threaded : Threaded router) (event : Event) :
    Threaded (machine.step router event).1 := by
  have same : Threaded router := threaded
  cases event with
  | setEndpoints endpoints =>
      simp only [machine, MavlinkRouter.setEndpoints]
      split
      · exact same
      · exact threaded.goesOn rfl rfl (.inl rfl)
  | start pipe =>
      simp only [machine, MavlinkRouter.start]
      split
      · exact same
      · rename_i idle
        split
        · exact same
        · split
          · exact same
          · exact ⟨fun stopping => absurd stopping idle, fun _ => by simp⟩
  | stopRequest =>
      simp only [machine, MavlinkRouter.stopRequest]
      split
      · rename_i running
        exact ⟨fun _ => rfl, fun _ => threaded.alive (.inl running)⟩
      · exact same
  | stopJoin =>
      simp only [machine, MavlinkRouter.stopJoin]
      split
      · rename_i ends
        simp only [Bool.and_eq_true] at ends
        have halted := threaded.exclusive ends.1
        refine ⟨fun no => (by cases no), fun serves => ?_⟩
        rcases serves with running | stopping
        · rw [halted] at running
          cases running
        · cases stopping
      · exact same
  | feedDownlink data nowMs taken =>
      simp only [machine, MavlinkRouter.feedDownlink]
      split
      · exact same
      · exact threaded.goesOn rfl rfl (.inl rfl)
  | loopTest =>
      simp only [machine, MavlinkRouter.loopTest]
      split
      · refine threaded.goesOn rfl rfl (.inr ?_)
        dsimp only
        split <;> simp
      · exact same
  | loopRebuild calls =>
      simp only [machine, MavlinkRouter.loopRebuild]
      split
      · refine threaded.goesOn ?_ ?_ (.inr (by simp))
        · simp only [MavlinkRouter.rebuildEndpoints]
          split <;> rfl
        · simp only [MavlinkRouter.rebuildEndpoints]
          split <;> rfl
      · exact same
  | loopCollect =>
      simp only [machine, MavlinkRouter.loopCollect]
      split
      · exact threaded.goesOn rfl rfl (.inr (by simp))
      · exact same
  | loopPoll result =>
      simp only [machine, MavlinkRouter.loopPoll]
      split
      · refine threaded.goesOn rfl rfl (.inr ?_)
        cases running : router.running <;> cases result <;> simp
      · exact same
  | loopLock =>
      simp only [machine, MavlinkRouter.loopLock]
      split
      · exact threaded.goesOn rfl rfl (.inr (by simp))
      · exact same
  | loopSlot answer =>
      simp only [machine]
      by_cases walks : ∃ slot rest toClose, router.loop = .walk (slot :: rest) toClose
      · obtain ⟨slot, rest, toClose, point⟩ := walks
        obtain ⟨toClose', there, stops, runs⟩ := loopSlot_walks router point answer
        exact threaded.goesOn stops runs (.inr (by rw [there]; simp))
      · rw [loopSlot_elsewhere walks answer]
        exact same
  | loopClose =>
      simp only [machine, MavlinkRouter.loopClose]
      split
      · exact threaded.goesOn rfl rfl (.inr (by simp))
      · exact same

theorem threaded_run (uplink : Bool) (events : List Event) :
    Threaded (machine.after { uplink } events) :=
  machine.invariant_of_step (fun router _ => Threaded router)
    ⟨fun no => (by cases no), fun serves => (by rcases serves with no | no <;> cases no)⟩
    (fun _ _ event threaded => threaded_step threaded event) events

/-- The event does not let `Stop` return. -/
def Meanwhile (event : Event) : Prop := event ≠ .stopJoin

instance (event : Event) : Decidable (Meanwhile event) :=
  inferInstanceAs (Decidable (event ≠ .stopJoin))

/-! ## Sections -/

/-- `Stop` still waits behind an event, and a section of the loop has brought it closer to its
end. -/
structure Closer (router : MavlinkRouter) (event : Event) (router' : MavlinkRouter) : Prop where
  waiting : Waiting router'
  left : router'.loop.loopLeft ≤
    router.loop.loopLeft - if event.isTurn router.loop then 1 else 0

section Closer

variable {router router' : MavlinkRouter} {event : Event}

/-- The loop stays, and the section is not the one that comes next. -/
theorem Closer.stays (waiting : Waiting router) (loop : router'.loop = router.loop)
    (stops : router'.stopping = router.stopping) (runs : router'.running = router.running)
    (idle : event.isTurn router.loop = false) : Closer router event router' := by
  refine ⟨⟨stops.trans waiting.stopping, runs.trans waiting.running, loop ▸ waiting.alive⟩, ?_⟩
  rw [idle, loop]
  exact le_rfl

/-- The loop goes on to a point with less left. -/
theorem Closer.goesOn (waiting : Waiting router) (there : router'.loop ≠ .stopped)
    (stops : router'.stopping = router.stopping) (runs : router'.running = router.running)
    (less : router'.loop.loopLeft + 1 ≤ router.loop.loopLeft) : Closer router event router' := by
  refine ⟨⟨stops.trans waiting.stopping, runs.trans waiting.running, there⟩, ?_⟩
  split <;> omega

/-- A call that leaves the loop where it is. -/
theorem Closer.call (waiting : Waiting router) (loop : router'.loop = router.loop)
    (stops : router'.stopping = router.stopping) (runs : router'.running = router.running)
    (noSection : ∀ point, event.isTurn point = false) : Closer router event router' :=
  .stays waiting loop stops runs (noSection _)

variable (waiting : Waiting router)
include waiting

theorem setEndpoints_closer (endpoints : List MavlinkEndpoint) :
    Closer router (.setEndpoints endpoints) (router.setEndpoints endpoints).1 := by
  unfold MavlinkRouter.setEndpoints
  split
  · exact .call waiting rfl rfl rfl fun point => (by cases point <;> rfl)
  · exact .call waiting rfl rfl rfl fun point => (by cases point <;> rfl)

theorem start_closer (pipe : Bool) : Closer router (.start pipe) (router.start pipe).1 := by
  simp only [MavlinkRouter.start, waiting.stopping]
  exact .call waiting rfl rfl rfl fun point => (by cases point <;> rfl)

theorem stopRequest_closer : Closer router .stopRequest router.stopRequest.1 := by
  simp only [MavlinkRouter.stopRequest, waiting.running]
  exact .call waiting rfl rfl rfl fun point => (by cases point <;> rfl)

theorem feedDownlink_closer (data : List Byte) (nowMs : UInt64) (taken : List (Option ℕ)) :
    Closer router (.feedDownlink data nowMs taken)
      (router.feedDownlink data nowMs taken).1 := by
  unfold MavlinkRouter.feedDownlink
  split
  · exact .call waiting rfl rfl rfl fun point => (by cases point <;> rfl)
  · exact .call waiting rfl rfl rfl fun point => (by cases point <;> rfl)

theorem loopTest_closer : Closer router .loopTest router.loopTest.1 := by
  unfold MavlinkRouter.loopTest
  split
  · rename_i point
    refine .goesOn waiting ?_ rfl rfl ?_
    · simp [waiting.running]
    · rw [waiting.running, point]
      exact le_rfl
  · rename_i elsewhere
    refine .stays waiting rfl rfl rfl ?_
    cases point : router.loop <;> simp_all [Event.isTurn]

theorem loopRebuild_closer (calls : List SocketCalls) :
    Closer router (.loopRebuild calls) (router.loopRebuild calls).1 := by
  unfold MavlinkRouter.loopRebuild
  split
  · rename_i point
    refine .goesOn waiting (by simp) ?_ ?_ (by rw [point]; rfl)
    · simp only [MavlinkRouter.rebuildEndpoints]
      split <;> rfl
    · simp only [MavlinkRouter.rebuildEndpoints]
      split <;> rfl
  · rename_i elsewhere
    refine .stays waiting rfl rfl rfl ?_
    cases point : router.loop <;> simp_all [Event.isTurn]

theorem loopCollect_closer : Closer router .loopCollect router.loopCollect.1 := by
  unfold MavlinkRouter.loopCollect
  split
  · rename_i point
    exact .goesOn waiting (by simp) rfl rfl (by rw [point]; rfl)
  · rename_i elsewhere
    refine .stays waiting rfl rfl rfl ?_
    cases point : router.loop <;> simp_all [Event.isTurn]

theorem loopPoll_closer (result : PollResult) :
    Closer router (.loopPoll result) (router.loopPoll result).1 := by
  unfold MavlinkRouter.loopPoll
  split
  · rename_i slots point
    refine .goesOn waiting ?_ rfl rfl ?_
    · cases result <;> simp [waiting.running]
    · rw [point]
      cases result <;> simp [waiting.running, LoopPoint.loopLeft]
  · rename_i elsewhere
    refine .stays waiting rfl rfl rfl ?_
    cases point : router.loop <;> simp_all [Event.isTurn]

theorem loopLock_closer : Closer router .loopLock router.loopLock.1 := by
  unfold MavlinkRouter.loopLock
  split
  · rename_i slots point
    exact .goesOn waiting (by simp) rfl rfl (by rw [point]; exact le_rfl)
  · rename_i elsewhere
    refine .stays waiting rfl rfl rfl ?_
    cases point : router.loop <;> simp_all [Event.isTurn]

theorem loopSlot_closer (answer : SlotAnswer) :
    Closer router (.loopSlot answer) (router.loopSlot answer).1 := by
  by_cases walks : ∃ slot rest toClose, router.loop = .walk (slot :: rest) toClose
  · obtain ⟨slot, rest, toClose, point⟩ := walks
    obtain ⟨toClose', there, stops, runs⟩ := loopSlot_walks router point answer
    refine .goesOn waiting ?_ stops runs ?_
    · rw [there]
      simp
    · rw [there, point]
      exact le_rfl
  · have elsewhere : Event.isTurn router.loop (.loopSlot answer) = false := by
      cases point : router.loop with
      | walk slots toClose =>
          cases slots with
          | nil => rfl
          | cons slot rest => exact absurd ⟨slot, rest, toClose, point⟩ walks
      | _ => rfl
    rw [loopSlot_elsewhere walks]
    exact .stays waiting rfl rfl rfl elsewhere

theorem loopClose_closer : Closer router .loopClose router.loopClose.1 := by
  unfold MavlinkRouter.loopClose
  split
  · rename_i toClose point
    exact .goesOn waiting (by simp) rfl rfl (by rw [point]; exact le_rfl)
  · rename_i elsewhere
    refine .stays waiting rfl rfl rfl ?_
    cases point : router.loop with
    | walk slots toClose =>
        cases slots with
        | nil => exact absurd point (elsewhere toClose)
        | cons slot rest => rfl
    | _ => rfl

/-- **A section of the loop brings it closer to its end, and nothing else moves it.** -/
theorem loopLeft_step (meanwhile : Meanwhile event) :
    Closer router event (machine.step router event).1 := by
  cases event with
  | setEndpoints endpoints => exact setEndpoints_closer waiting endpoints
  | start pipe => exact start_closer waiting pipe
  | stopRequest => exact stopRequest_closer waiting
  | stopJoin => exact absurd rfl meanwhile
  | feedDownlink data nowMs taken => exact feedDownlink_closer waiting data nowMs taken
  | loopTest => exact loopTest_closer waiting
  | loopRebuild calls => exact loopRebuild_closer waiting calls
  | loopCollect => exact loopCollect_closer waiting
  | loopPoll result => exact loopPoll_closer waiting result
  | loopLock => exact loopLock_closer waiting
  | loopSlot answer => exact loopSlot_closer waiting answer
  | loopClose => exact loopClose_closer waiting

end Closer

/-! ## Runs -/

theorem waiting_run {router : MavlinkRouter} (waiting : Waiting router) {events : List Event}
    (meanwhile : ∀ event ∈ events, Meanwhile event) :
    Waiting (machine.after router events) ∧
      (machine.after router events).loop.loopLeft ≤ router.loop.loopLeft -
        machine.turns (fun router event => event.isTurn router.loop) router events :=
  Mealy.countdown Waiting Meanwhile _ (fun router => router.loop.loopLeft)
    (fun _ _ waiting meanwhile =>
      ⟨(loopLeft_step waiting meanwhile).waiting, (loopLeft_step waiting meanwhile).left⟩)
    waiting meanwhile

/-- The join succeeds once the loop has ended. -/
theorem stopJoin_ended {router : MavlinkRouter} (waiting : Waiting router)
    (ended : router.loop = .returned) :
    router.stopJoin.1.stopping = false ∧ router.stopJoin.1.endpoints = [] := by
  have joins : (router.stopping && router.loop = .returned) = true := by
    rw [waiting.stopping, ended]
    rfl
  rw [MavlinkRouter.stopJoin, if_pos joins]
  exact ⟨rfl, rfl⟩

/-- **The loop ends, and `Stop` returns.** While `Stop` waits a loop that has not returned has a
section that comes next. Before it has taken four sections more than there are descriptors in front
of it, it has returned, whatever the system answers and whatever is called meanwhile. Once it has,
`Stop` returns and leaves no endpoint. -/
theorem poll_loop_ends (uplink : Bool) {events later : List Event}
    (waits : (machine.after { uplink } events).stopping = true)
    (meanwhile : ∀ event ∈ later, Meanwhile event) :
    ((machine.after { uplink } (events ++ later)).loop ≠ .returned →
      (∃ event : Event, event.isTurn (machine.after { uplink } (events ++ later)).loop = true) ∧
        machine.turns (fun router event => event.isTurn router.loop)
          (machine.after { uplink } events) later <
            (machine.after { uplink } events).loop.ahead + 4) ∧
      ((machine.after { uplink } (events ++ later)).loop = .returned →
        (machine.after { uplink } (events ++ later ++ [.stopJoin])).stopping = false ∧
          (machine.after { uplink } (events ++ later ++ [.stopJoin])).endpoints = []) := by
  have threaded := threaded_run uplink events
  have waiting : Waiting (machine.after { uplink } events) :=
    ⟨waits, threaded.exclusive waits, threaded.alive (.inr waits)⟩
  obtain ⟨still, left⟩ := waiting_run waiting meanwhile
  rw [← Mealy.after_append] at still left
  constructor
  · intro unfinished
    have some := LoopPoint.loopLeft_pos still.alive unfinished
    have most := (machine.after { uplink } events).loop.loopLeft_le
    exact ⟨exists_turn still.alive unfinished, by omega⟩
  · intro ended
    rw [Mealy.after_concat]
    exact stopJoin_ended still ended

/-- A stop while the loop is in front of a server and its client. -/
theorem poll_loop_ends_walking :
    (machine.after { uplink := true }
      ([.setEndpoints [{ kind := .tcpServer, host := "" }], .start true, .loopTest,
          .loopRebuild [{ socket := some 5, bind := true, listen := true }], .loopCollect,
          .loopPoll .ready, .loopLock, .loopSlot { pollin := true, accepted := some 6 },
          .loopClose, .loopTest, .loopRebuild [], .loopCollect, .loopPoll .ready, .stopRequest] ++
        [.loopLock, .setEndpoints [], .loopSlot {}, .start true,
          .loopSlot { pollin := true, received := some [] }, .loopClose, .stopRequest,
          .loopTest] ++ [.stopJoin])).endpoints = [] :=
  ((poll_loop_ends true (by decide) (by decide)).2 (by decide)).2

/-! ## The mutex -/

/-- **A section of the walk brings it closer to the release of the mutex**, and what is called
meanwhile waits. -/
theorem lockLeft_step {router : MavlinkRouter} (locked : router.locked = true) (event : Event) :
    (machine.step router event).1.loop.lockLeft ≤
      router.loop.lockLeft - if event.isTurn router.loop then 1 else 0 := by
  obtain ⟨slots, toClose, walking⟩ : ∃ slots toClose, router.loop = .walk slots toClose := by
    unfold MavlinkRouter.locked at locked
    split at locked
    · exact ⟨_, _, ‹_›⟩
    · cases locked
  have stays : ∀ {router' : MavlinkRouter}, router'.loop = router.loop →
      event.isTurn router.loop = false → router'.loop.lockLeft ≤
        router.loop.lockLeft - if event.isTurn router.loop then 1 else 0 := by
    intro router' same idle
    rw [same, idle]
    exact le_rfl
  cases event with
  | setEndpoints endpoints =>
      simp only [machine, MavlinkRouter.setEndpoints, locked]
      exact stays rfl (by rw [walking]; rfl)
  | start pipe =>
      simp only [machine, MavlinkRouter.start]
      split
      · exact stays rfl (by rw [walking]; rfl)
      · split
        · exact stays rfl (by rw [walking]; rfl)
        · split
          · exact stays rfl (by rw [walking]; rfl)
          · exact Nat.zero_le _
  | stopRequest =>
      simp only [machine, MavlinkRouter.stopRequest]
      split <;> exact stays rfl (by rw [walking]; rfl)
  | stopJoin =>
      exact stays (by simp [machine, MavlinkRouter.stopJoin, walking]) (by rw [walking]; rfl)
  | feedDownlink data nowMs taken =>
      simp only [machine, MavlinkRouter.feedDownlink, locked, Bool.or_true, if_true]
      exact stays rfl (by rw [walking]; rfl)
  | loopTest =>
      exact stays (by simp [machine, MavlinkRouter.loopTest, walking]) (by rw [walking]; rfl)
  | loopRebuild calls =>
      exact stays (by simp [machine, MavlinkRouter.loopRebuild, walking]) (by rw [walking]; rfl)
  | loopCollect =>
      exact stays (by simp [machine, MavlinkRouter.loopCollect, walking]) (by rw [walking]; rfl)
  | loopPoll result =>
      exact stays (by simp [machine, MavlinkRouter.loopPoll, walking]) (by rw [walking]; rfl)
  | loopLock =>
      exact stays (by simp [machine, MavlinkRouter.loopLock, walking]) (by rw [walking]; rfl)
  | loopSlot answer =>
      cases slots with
      | nil =>
          have elsewhere :
              ¬ ∃ slot rest toClose, router.loop = .walk (slot :: rest) toClose := by
            rintro ⟨slot, rest, toClose', point⟩
            rw [walking] at point
            cases point
          simp only [machine, loopSlot_elsewhere elsewhere]
          exact stays rfl (by rw [walking]; rfl)
      | cons slot rest =>
          obtain ⟨toClose', there, -⟩ := loopSlot_walks router walking answer
          simp only [machine, there, walking]
          exact le_rfl
  | loopClose =>
      cases slots with
      | nil =>
          simp only [machine, MavlinkRouter.loopClose, walking]
          exact Nat.zero_le _
      | cons slot rest =>
          exact stays (by simp [machine, MavlinkRouter.loopClose, walking]) (by rw [walking]; rfl)

end Router

end MobileGs

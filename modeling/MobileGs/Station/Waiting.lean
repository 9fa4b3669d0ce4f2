import MobileGs.Router.Stopping
import MobileGs.Station.EndToEnd

/-!
# Payloads that wait

A telemetry payload waits while the router's loop walks its descriptors with the mutex held, and the
receive thread waits with it, holding the receiver's mutex in turn. The walk ends, so the payload is
handed over (`payload_handed_over`).
-/

set_option autoImplicit false

namespace MobileGs

namespace Station

open Router ReceivePath

variable {σ : Type} (aggregator : Wfb.Aggregator σ)

/-- The event is the section that the router's loop comes to next. -/
def ReceivePath.loopTurn (path : ReceivePath σ) : PathEvent → Bool
  | .router event => event.isTurn path.ports.mavlink.loop
  | _ => false

/-- While the mutex is held, no callback touches the router. -/
theorem mavlink_waits {path : ReceivePath σ} (locked : path.ports.mavlink.locked = true)
    {event : PathEvent} (other : ∀ event', event ≠ .router event') :
    ((pathMachine aggregator).step path event).1.ports.mavlink = path.ports.mavlink := by
  cases event with
  | frame heard =>
      simp only [pathMachine, frame]
      split <;> rfl
  | deliver nowMs taken =>
      simp only [pathMachine, deliver]
      split
      · rfl
      · rename_i port data rest waiting
        split
        · rfl
        · rename_i free
          have notTelemetry : port ≠ Wfb.portMavlinkRx := fun telemetry => free ⟨telemetry, locked⟩
          simp only [onPayload, if_neg notTelemetry]
          split
          · rfl
          · split <;> rfl
  | datagram data =>
      simp only [pathMachine, datagram]
      split <;> rfl
  | snapshot nowMs =>
      simp only [pathMachine, snapshot]
      split <;> rfl
  | setCodec codec => rfl
  | router event => exact absurd rfl (other event)

/-- A telemetry payload stays in front while it waits. -/
theorem pending_waits {path : ReceivePath σ} (locked : path.ports.mavlink.locked = true)
    {data : List Byte} {rest : List (Byte × List Byte)}
    (waits : path.pending = (Wfb.portMavlinkRx, data) :: rest) (event : PathEvent) :
    ((pathMachine aggregator).step path event).1.pending =
      (Wfb.portMavlinkRx, data) :: rest := by
  cases event with
  | frame heard =>
      simp only [pathMachine, frame]
      split
      · rename_i nothing
        rw [waits] at nothing
        cases nothing
      · exact waits
  | deliver nowMs taken =>
      simp only [pathMachine, deliver, waits, locked, and_self, if_true]
  | datagram data =>
      simp only [pathMachine, datagram]
      split
      · exact waits
      · exact waits
  | snapshot nowMs =>
      simp only [pathMachine, snapshot]
      split
      · exact waits
      · exact waits
  | setCodec codec => exact waits
  | router event => exact waits

theorem lockLeft_path {path : ReceivePath σ} (locked : path.ports.mavlink.locked = true)
    (event : PathEvent) :
    ((pathMachine aggregator).step path event).1.ports.mavlink.loop.lockLeft ≤
      path.ports.mavlink.loop.lockLeft - if path.loopTurn event then 1 else 0 := by
  by_cases routed : ∃ event', event = .router event'
  · obtain ⟨event', rfl⟩ := routed
    by_cases feeds : ∃ data nowMs taken, event' = .feedDownlink data nowMs taken
    · obtain ⟨data, nowMs, taken, rfl⟩ := feeds
      have idle : path.loopTurn (.router (.feedDownlink data nowMs taken)) = false := by
        rw [loopTurn]
        cases path.ports.mavlink.loop <;> rfl
      rw [idle]
      exact le_rfl
    · have step : ((pathMachine aggregator).step path (.router event')).1.ports.mavlink =
          (Router.machine.step path.ports.mavlink event').1 := by
        cases event' with
        | feedDownlink data nowMs taken => exact absurd ⟨data, nowMs, taken, rfl⟩ feeds
        | _ => rfl
      rw [step]
      exact lockLeft_step locked event'
  · have other : ∀ event', event ≠ .router event' := fun event' same => routed ⟨event', same⟩
    have idle : path.loopTurn event = false := by
      cases event with
      | router event' => exact absurd rfl (other event')
      | _ => rfl
    rw [mavlink_waits aggregator locked other, idle]
    exact le_rfl

theorem lockLeft_pos {router : MavlinkRouter} (locked : router.locked = true) :
    0 < router.loop.lockLeft := by
  unfold MavlinkRouter.locked at locked
  split at locked
  · rename_i point
    rw [point]
    exact Nat.succ_pos _
  · cases locked

/-- A payload is handed over when the mutex is free. -/
theorem deliver_free {path : ReceivePath σ} (free : path.ports.mavlink.locked = false)
    {port : Byte} {data : List Byte} {rest : List (Byte × List Byte)}
    (waits : path.pending = (port, data) :: rest) (nowMs : UInt64) (taken : List (Option ℕ)) :
    (path.deliver nowMs taken).1.pending = rest ∧
      .delivered port data ∈ (path.deliver nowMs taken).2 := by
  have behind := Behind.payload { path with pending := rest } port data nowMs taken
  simp only [deliver, waits, free, Bool.false_eq_true, and_false, if_false]
  exact ⟨behind.pending, List.mem_cons_self⟩

/-- **A payload that waits is handed over.** While the router's loop holds the mutex it has a
section that comes next. As many sections as descriptors are left to walk, and one, release the
mutex in any run, whatever else is heard or called meanwhile. The payload is still in front there,
and is then handed to its callback. -/
theorem payload_handed_over (path : ReceivePath σ) {data : List Byte}
    {rest : List (Byte × List Byte)} (waits : path.pending = (Wfb.portMavlinkRx, data) :: rest)
    {events : List PathEvent}
    (sections : path.ports.mavlink.loop.lockLeft ≤
      (pathMachine aggregator).turns loopTurn path events) :
    (path.ports.mavlink.locked = true → ∃ event, path.loopTurn event = true) ∧
      ∃ front later, events = front ++ later ∧ ∀ nowMs taken,
        (((pathMachine aggregator).after path front).deliver nowMs taken).1.pending = rest ∧
          .delivered Wfb.portMavlinkRx data ∈
            (((pathMachine aggregator).after path front).deliver nowMs taken).2 := by
  refine ⟨fun locked => ?_, ?_⟩
  · have walks : path.ports.mavlink.loop ≠ .stopped ∧ path.ports.mavlink.loop ≠ .returned := by
      constructor
      · intro point
        rw [MavlinkRouter.locked, point] at locked
        cases locked
      · intro point
        rw [MavlinkRouter.locked, point] at locked
        cases locked
    obtain ⟨event, turn⟩ := exists_turn walks.1 walks.2
    exact ⟨.router event, turn⟩
  · obtain ⟨front, later, split, free, still⟩ := Mealy.reached
      (fun path : ReceivePath σ => path.ports.mavlink.locked = false)
      (fun path => path.pending = (Wfb.portMavlinkRx, data) :: rest) loopTurn
      (fun path => path.ports.mavlink.loop.lockLeft)
      (fun path held => lockLeft_pos (by simpa using held))
      (fun path event waits held => by
        have locked : path.ports.mavlink.locked = true := by simpa using held
        exact ⟨pending_waits aggregator locked waits event,
          lockLeft_path aggregator locked event⟩) waits sections
    exact ⟨front, later, split, fun nowMs taken => deliver_free free still nowMs taken⟩

/-- A telemetry payload, while the loop is in front of a server. -/
def waitingPath : ReceivePath Wfb.Counters :=
  (pathMachine Wfb.plainAggregator).after (startPath (some {}) plainSinks .h264 false)
    [.router (.setEndpoints [{ kind := .udpServer, host := "" }]), .router (.start true),
      .router .loopTest, .router (.loopRebuild [{ socket := some 5, bind := true }]),
      .router .loopCollect, .router (.loopPoll .ready), telemetryFrame, .router .loopLock]

theorem payload_handed_over_walking :
    ∃ front later,
      [.deliver 1 [], .router (.loopSlot {}), .snapshot 2, .router .loopClose] = front ++ later ∧
        ∀ nowMs taken,
          (((pathMachine Wfb.plainAggregator).after waitingPath front).deliver
              nowMs taken).1.pending = [] ∧
            .delivered Wfb.portMavlinkRx [0xfe, 0x24] ∈
              (((pathMachine Wfb.plainAggregator).after waitingPath front).deliver
                nowMs taken).2 :=
  (payload_handed_over Wfb.plainAggregator waitingPath (by decide +kernel)
    (by decide +kernel)).2

end Station

end MobileGs

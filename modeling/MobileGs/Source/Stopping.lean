import MobileGs.Foundations.Countdown
import MobileGs.Source.UdpSource

/-!
# The end of a UDP source

`Stop` waits for the thread, which may be anywhere in its loop, also in a `recv` that finds nothing.
The shut down socket lets that `recv` return, and each section then brings the thread closer to its
end (`joining_loop`). So `Stop` returns, whatever `poll` and `recv` answer in between
(`stop_returns`).
-/

set_option autoImplicit false

namespace MobileGs

namespace Source

/-- How many sections the thread has left, when it is asked to stop and its socket is shut down. -/
def LoopPoint.left : LoopPoint → ℕ
  | .none => 0
  | .returned => 0
  | .test => 1
  | .deliver _ => 2
  | .recv => 3
  | .poll => 4

/-- An event that is a section of the thread. -/
def Event.isLoop : Event → Bool
  | .loop _ => true
  | _ => false

/-- `Stop` waits for the thread. -/
structure Joining (source : UdpSource) : Prop where
  stopping : source.stopping = .join
  running : source.running = false
  shut : source.shut = true
  thread : source.loop ≠ .none

/-- Neither `Start` is called meanwhile, nor does the join succeed. -/
def Meanwhile : Event → Prop
  | .start _ => False
  | .stopJoin => False
  | _ => True

instance : ∀ event, Decidable (Meanwhile event)
  | .start _ => inferInstanceAs (Decidable False)
  | .stopRequest => inferInstanceAs (Decidable True)
  | .stopShutdown => inferInstanceAs (Decidable True)
  | .stopJoin => inferInstanceAs (Decidable False)
  | .loop _ => inferInstanceAs (Decidable True)
  | .arrive _ => inferInstanceAs (Decidable True)

/-- A section of the thread brings it closer to its end. -/
theorem joining_loop {source : UdpSource} (joining : Joining source) (answer : LoopAnswer) :
    Joining (source.loopStep answer).1 ∧
      (source.loopStep answer).1.loop.left ≤ source.loop.left - 1 := by
  obtain ⟨stopping, running, shut, thread⟩ := joining
  have goesOn (loop : LoopPoint) (queued : List (List Byte)) (there : loop ≠ .none) :
      Joining { source with loop, queued } := ⟨stopping, running, shut, there⟩
  unfold UdpSource.loopStep
  split
  · rename_i point
    exact absurd point thread
  · rename_i point
    have off : (if source.running then LoopPoint.poll else .returned) = .returned := by
      rw [running]
      rfl
    rw [off, point]
    exact ⟨goesOn _ _ (by simp), by simp [LoopPoint.left]⟩
  · rename_i point
    rw [point]
    refine ⟨goesOn _ _ (by split <;> simp), ?_⟩
    split <;> simp [LoopPoint.left]
  · rename_i point
    rw [point]
    split
    · exact ⟨goesOn _ _ (by simp), by simp [LoopPoint.left]⟩
    · split
      · exact ⟨goesOn _ _ (by simp), by simp [LoopPoint.left]⟩
      · refine ⟨goesOn _ _ (by split <;> simp), ?_⟩
        dsimp only
        split <;> simp [LoopPoint.left]
  · rename_i data point
    rw [point]
    exact ⟨goesOn _ _ (by simp), by simp [LoopPoint.left]⟩
  · rename_i point
    exact ⟨⟨stopping, running, shut, thread⟩, by rw [point]; simp [LoopPoint.left]⟩

/-- Whatever else happens leaves the thread where it is. -/
theorem joining_step {source : UdpSource} (joining : Joining source) {event : Event}
    (meanwhile : Meanwhile event) :
    Joining (machine.step source event).1 ∧
      (machine.step source event).1.loop.left ≤
        source.loop.left - if event.isLoop then 1 else 0 := by
  cases event with
  | start calls => exact meanwhile.elim
  | stopRequest =>
      simp only [machine, UdpSource.stopRequest, joining.running, joining.stopping]
      exact ⟨joining, le_rfl⟩
  | stopShutdown =>
      simp only [machine, UdpSource.stopShutdown, joining.stopping]
      exact ⟨joining, le_rfl⟩
  | stopJoin => exact meanwhile.elim
  | loop answer => exact joining_loop joining answer
  | arrive data =>
      simp only [machine, UdpSource.arrive]
      split
      · exact ⟨⟨joining.stopping, joining.running, joining.shut, joining.thread⟩, le_rfl⟩
      · exact ⟨joining, le_rfl⟩

theorem joining_run {source : UdpSource} (joining : Joining source) {events : List Event}
    (meanwhile : ∀ event ∈ events, Meanwhile event) :
    Joining (machine.after source events) ∧
      (machine.after source events).loop.left ≤
        source.loop.left - events.countP Event.isLoop := by
  rw [← machine.turns_eq_countP Event.isLoop source]
  exact Mealy.countdown Joining Meanwhile (fun _ => Event.isLoop) (fun source => source.loop.left)
    (fun _ _ joining meanwhile => joining_step joining meanwhile) joining meanwhile

/-- **`Stop` returns.** When it has shut the socket down and waits for the thread, four sections of
the thread are enough, whatever `poll` and `recv` answer and whatever arrives. -/
theorem stop_returns (config : UdpSourceConfig) {events later : List Event}
    (starts : machine.EveryStep StartsStopped (makeUdpSource config) events)
    (waits : (machine.after (makeUdpSource config) events).stopping = .join)
    (meanwhile : ∀ event ∈ later, Meanwhile event)
    (sections : 4 ≤ later.countP Event.isLoop) :
    .stopReturned ∈
      (machine.step (machine.after (makeUdpSource config) (events ++ later)) .stopJoin).2 := by
  obtain ⟨consistent, -⟩ := run_moves config starts
  have thread : (machine.after (makeUdpSource config) events).loop ≠ .none := by
    intro none
    have closed := consistent.thread.mp none
    have isOpen := consistent.holds.mpr (.inr (by rw [waits]; simp))
    rw [closed] at isOpen
    cases isOpen
  have stopped : (machine.after (makeUdpSource config) events).running = false := by
    by_contra running
    have idle := consistent.requested (by simpa using running)
    rw [waits] at idle
    cases idle
  obtain ⟨joining, left⟩ :=
    joining_run ⟨waits, stopped, consistent.shutDown waits, thread⟩ meanwhile
  rw [← Mealy.after_append] at joining left
  have most : (machine.after (makeUdpSource config) events).loop.left ≤ 4 := by
    cases (machine.after (makeUdpSource config) events).loop <;> simp [LoopPoint.left]
  have returned : (machine.after (makeUdpSource config) (events ++ later)).loop = .returned := by
    have none : (machine.after (makeUdpSource config) (events ++ later)).loop.left = 0 := by
      omega
    have there := joining.thread
    cases point : (machine.after (makeUdpSource config) (events ++ later)).loop <;>
      simp_all [LoopPoint.left]
  simp only [machine, UdpSource.stopJoin]
  rw [if_pos ⟨joining.stopping, returned⟩]
  exact List.mem_append_right _ (List.mem_singleton_self _)

/-- A stop that comes while the thread is about to poll. -/
theorem stop_returns_polling :
    .stopReturned ∈
      (machine.step
        (machine.after (makeUdpSource {})
          ([.start { socket := some 7, bind := true }, .loop ⟨true, false⟩, .stopRequest,
              .stopShutdown] ++
            [.loop ⟨true, false⟩, .arrive [1], .loop ⟨true, false⟩, .loop ⟨true, false⟩,
              .loop ⟨true, false⟩])) .stopJoin).2 :=
  stop_returns {} (by decide) (by decide) (by decide) (by decide)

end Source

end MobileGs

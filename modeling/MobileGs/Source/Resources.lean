import MobileGs.Source.DevourerSource

/-!
# What a USB source acquires

The resources of the source are inside one another: the handle needs the context, the claimed
interface the handle, the device all of them. `Start` acquires them in this order and `Cleanup`
gives them back in the reverse order, wherever `Start` fails (`start_brackets`).

`Transmit` and `SetChannel` test for a device before they call it, and a `Stop` on another thread
can give the device back before it has answered. The resources are safe exactly when that happens to
no such call (`resources_safe_iff`). Then none is given back while something inside it is open, and
a stopped source has kept nothing (`resources_nested`).
-/

set_option autoImplicit false

namespace MobileGs

namespace Source

namespace Devourer

open Handles

/-- `Start` is called where the source is stopped: the station makes a source for each of its own
starts. -/
def StartsStopped (source : DevourerSource) (_ : List Obs) : Event → Prop
  | .start _ => source.running = false ∧ source.stopping = .idle
  | _ => True

instance (source : DevourerSource) (trace : List Obs) :
    ∀ event, Decidable (StartsStopped source trace event)
  | .start _ => inferInstanceAs (Decidable (_ ∧ _))
  | .stopRequest => inferInstanceAs (Decidable True)
  | .stopRxLoop => inferInstanceAs (Decidable True)
  | .stopJoin => inferInstanceAs (Decidable True)
  | .packet _ => inferInstanceAs (Decidable True)
  | .rxEnds => inferInstanceAs (Decidable True)
  | .setChannel _ _ => inferInstanceAs (Decidable True)
  | .transmit _ => inferInstanceAs (Decidable True)
  | .goOn _ _ => inferInstanceAs (Decidable True)

/-- The device that answers to a call was not given back since the call found it. -/
def FindsDevice (source : DevourerSource) (_ : List Obs) : Event → Prop
  | .goOn index _ => ∀ call ∈ source.pending[index]?, call.device ∈ source.stack
  | _ => True

instance (source : DevourerSource) (trace : List Obs) :
    ∀ event, Decidable (FindsDevice source trace event)
  | .start _ => inferInstanceAs (Decidable True)
  | .stopRequest => inferInstanceAs (Decidable True)
  | .stopRxLoop => inferInstanceAs (Decidable True)
  | .stopJoin => inferInstanceAs (Decidable True)
  | .packet _ => inferInstanceAs (Decidable True)
  | .rxEnds => inferInstanceAs (Decidable True)
  | .setChannel _ _ => inferInstanceAs (Decidable True)
  | .transmit _ => inferInstanceAs (Decidable True)
  | .goOn _ _ => inferInstanceAs (Decidable (∀ _ ∈ _, _))

/-! ## What is acquired -/

/-- The calls of an observation. -/
def Obs.calls : Obs → List (Call Resource)
  | .call made => [made]
  | .startReturned _ => []
  | .stopReturned => []
  | .frame _ _ => []
  | .channelSet _ => []
  | .transmitted _ _ => []

/-- A source that neither runs nor is being stopped. -/
structure Stopped (source : DevourerSource) : Prop where
  running : source.running = false
  stopping : source.stopping = .idle
  rx : source.rx = .none

/-- A stopped source has acquired nothing, and where there is a thread there is its device. -/
structure Consistent (source : DevourerSource) : Prop where
  stopped : source.running = false → source.stopping = .idle → source.stack = [] ∧ source.rx = .none
  thread : source.rx ≠ .none → source.device.isSome = true
  requested : source.running = true → source.stopping = .idle

/-- What a step does to the source and what it has acquired. -/
structure StepBrackets (source source' : DevourerSource) (emitted : List Obs) : Prop where
  consistent : Consistent source'
  brackets : Brackets Resource.serial source.stack source.nextSerial (emitted.flatMap Obs.calls)
    source'.stack source'.nextSerial

section Steps

variable {source : DevourerSource}

theorem calls_uses (resources : List Resource) :
    (DevourerSource.uses resources).flatMap Obs.calls = resources.map .use := by
  rw [DevourerSource.uses, List.flatMap_map]
  exact List.map_eq_flatMap.symm

theorem calls_cleanup (source : DevourerSource) :
    source.cleanup.2.flatMap Obs.calls = source.stack.map .close := by
  rw [DevourerSource.cleanup, List.flatMap_map]
  exact List.map_eq_flatMap.symm

/-- A step that uses what is there. -/
theorem stepBrackets_used (source' : DevourerSource) {emitted : List Obs} {used : List Resource}
    (consistent : Consistent source') (stack : source'.stack = source.stack)
    (serial : source'.nextSerial = source.nextSerial)
    (calls : emitted.flatMap Obs.calls = used.map .use)
    (held : ∀ resource ∈ used, resource ∈ source.stack) : StepBrackets source source' emitted := by
  refine ⟨consistent, ?_⟩
  rw [stack, serial, calls]
  exact .uses held _

theorem device_held : ∀ resource ∈ source.device.toList, resource ∈ source.stack := by
  intro resource among
  simp only [DevourerSource.stack, List.append_assoc]
  exact List.mem_append_left _ among

/-- What a call begins with, and the rest of it. -/
theorem StepBrackets.behind (source' : DevourerSource) {first : List Obs}
    {rest : DevourerSource × List Obs}
    (begins : Brackets Resource.serial source.stack source.nextSerial (first.flatMap Obs.calls)
      source'.stack source'.nextSerial)
    (goesOn : StepBrackets source' rest.1 rest.2) :
    StepBrackets source (DevourerSource.behind first rest).1
      (DevourerSource.behind first rest).2 := by
  refine ⟨goesOn.consistent, ?_⟩
  rw [DevourerSource.behind, List.flatMap_append]
  exact begins.append goesOn.brackets

/-! ## `Start` -/

/-- What was acquired before a failure is given back. -/
theorem failStart_brackets (stopped : Stopped source) (error : String) :
    StepBrackets source (source.failStart error).1 (source.failStart error).2 := by
  refine ⟨⟨fun _ _ => ⟨rfl, stopped.rx⟩, fun thread => absurd stopped.rx thread, ?_⟩, ?_⟩
  · intro running
    rw [show (source.failStart error).1.running = source.running from rfl, stopped.running]
      at running
    cases running
  · rw [DevourerSource.failStart, List.flatMap_append, calls_cleanup]
    exact (Brackets.closes _ source.stack _).append (.nil _ [] _)

theorem bringUp_brackets (stopped : Stopped source) (device : source.device.isSome = true)
    (answers : StartAnswers) :
    StepBrackets source (source.bringUp answers).1 (source.bringUp answers).2 := by
  refine StepBrackets.behind source ?_ ?_
  · rw [calls_uses]
    exact .uses device_held _
  · split
    · exact failStart_brackets stopped _
    · exact ⟨⟨fun no => (by cases no), fun _ => device, fun _ => stopped.stopping⟩, .nil _ _ _⟩

theorem makeDevice_brackets (stopped : Stopped source) (noDriver : source.driver = none)
    (noDevice : source.device = none) (answers : StartAnswers) :
    StepBrackets source (source.makeDevice answers).1 (source.makeDevice answers).2 := by
  obtain ⟨running, stopping, rx⟩ := stopped
  let driver : Resource := ⟨.driver, source.nextSerial⟩
  let driven := { source with driver := some driver, nextSerial := source.nextSerial + 1 }
  let device : Resource := ⟨.device, driven.nextSerial⟩
  have driverOnTop : driven.stack = driver :: source.stack := by
    simp [DevourerSource.stack, driven, noDriver, noDevice]
  refine StepBrackets.behind driven ?_ ?_
  · rw [List.flatMap_cons, calls_uses, driverOnTop]
    have acquired : Brackets Resource.serial source.stack source.nextSerial [.grant driver]
        (driver :: source.stack) driven.nextSerial := .grant source.stack rfl
    exact acquired.append (.uses (fun _ among => among) _)
  · split
    · refine StepBrackets.behind _ ?_
        (@bringUp_brackets { driven with
          device := some device
          nextSerial := driven.nextSerial + 1
          channel := makeChannel source.radioChannel source.radioBandwidth }
          ⟨running, stopping, rx⟩ rfl answers)
      have deviceOnTop : ({ driven with
          device := some device
          nextSerial := driven.nextSerial + 1
          channel := makeChannel source.radioChannel source.radioBandwidth } :
            DevourerSource).stack = device :: driven.stack := by
        simp [DevourerSource.stack, driven, noDevice]
      rw [deviceOnTop]
      exact Brackets.grant driven.stack rfl
    · exact @failStart_brackets driven ⟨running, stopping, rx⟩ _

theorem claimInterface_brackets (stopped : Stopped source) (noLock : source.lock = none)
    (noDriver : source.driver = none) (noDevice : source.device = none)
    (answers : StartAnswers) :
    StepBrackets source (source.claimInterface answers).1 (source.claimInterface answers).2 := by
  obtain ⟨running, stopping, rx⟩ := stopped
  let lock : Resource := ⟨.lock, source.nextSerial⟩
  let claimed :=
    if answers.locked then { source with lock := some lock, nextSerial := source.nextSerial + 1 }
    else source
  have handleHeld : ∀ resource ∈ source.handle.toList ++ source.handle.toList,
      resource ∈ source.stack := by
    intro resource among
    simp only [DevourerSource.stack, List.mem_append]
    exact .inl (.inr ((List.mem_append.mp among).elim id id))
  have still : Stopped claimed ∧ claimed.driver = none ∧ claimed.device = none := by
    simp only [claimed]
    split
    · exact ⟨⟨running, stopping, rx⟩, noDriver, noDevice⟩
    · exact ⟨⟨running, stopping, rx⟩, noDriver, noDevice⟩
  refine StepBrackets.behind claimed ?_ ?_
  · rw [List.flatMap_append, calls_uses]
    refine (Brackets.uses handleHeld _).append ?_
    simp only [claimed]
    split
    · have lockOnTop : ({ source with
          lock := some lock, nextSerial := source.nextSerial + 1 } : DevourerSource).stack =
            lock :: source.stack := by
        simp [DevourerSource.stack, noLock, noDriver, noDevice]
      rw [lockOnTop]
      exact Brackets.grant source.stack rfl
    · exact .nil _ _ _
  · split
    · exact makeDevice_brackets still.1 still.2.1 still.2.2 answers
    · exact failStart_brackets still.1 _
    · exact failStart_brackets still.1 _

theorem adoptDescriptor_brackets (stopped : Stopped source) (noHandle : source.handle = none)
    (noLock : source.lock = none) (noDriver : source.driver = none)
    (noDevice : source.device = none) (answers : StartAnswers) :
    StepBrackets source (source.adoptDescriptor answers).1 (source.adoptDescriptor answers).2 := by
  obtain ⟨running, stopping, rx⟩ := stopped
  refine StepBrackets.behind source ?_ ?_
  · rw [calls_uses]
    refine .uses (fun resource among => ?_) _
    simp only [DevourerSource.stack]
    exact List.mem_append_right _ among
  · split
    · exact failStart_brackets ⟨running, stopping, rx⟩ _
    · refine StepBrackets.behind _ ?_
        (@claimInterface_brackets { source with
          handle := some ⟨.handle, source.nextSerial⟩, nextSerial := source.nextSerial + 1 }
          ⟨running, stopping, rx⟩ noLock noDriver noDevice answers)
      have handleOnTop : ({ source with
          handle := some ⟨.handle, source.nextSerial⟩
          nextSerial := source.nextSerial + 1 } : DevourerSource).stack =
            ⟨.handle, source.nextSerial⟩ :: source.stack := by
        simp [DevourerSource.stack, noHandle, noLock, noDriver, noDevice]
      rw [handleOnTop]
      exact Brackets.grant source.stack rfl

/-- **`Start`**, however far it gets. -/
theorem start_brackets (stopped : Stopped source) (bare : source.stack = [])
    (answers : StartAnswers) :
    StepBrackets source (source.start answers).1 (source.start answers).2 := by
  obtain ⟨running, stopping, rx⟩ := stopped
  have nothing : source.device = none ∧ source.driver = none ∧ source.lock = none ∧
      source.handle = none ∧ source.context = none := by
    simpa [DevourerSource.stack, and_assoc] using bare
  obtain ⟨noDevice, noDriver, noLock, noHandle, noContext⟩ := nothing
  have consistent : Consistent source :=
    ⟨fun _ _ => ⟨bare, rx⟩, fun thread => absurd rx thread, fun _ => stopping⟩
  unfold DevourerSource.start
  split
  · exact ⟨consistent, .nil _ _ _⟩
  · split
    · exact ⟨consistent, .nil _ _ _⟩
    · refine StepBrackets.behind _ ?_
        (@adoptDescriptor_brackets { source with
          context := some ⟨.context, source.nextSerial⟩, nextSerial := source.nextSerial + 1 }
          ⟨running, stopping, rx⟩ noHandle noLock noDriver noDevice answers)
      have contextOnTop : ({ source with
          context := some ⟨.context, source.nextSerial⟩
          nextSerial := source.nextSerial + 1 } : DevourerSource).stack =
            ⟨.context, source.nextSerial⟩ :: source.stack := by
        simp [DevourerSource.stack, noContext, noHandle, noLock, noDriver, noDevice]
      rw [contextOnTop]
      exact Brackets.grant source.stack rfl

/-! ## The other calls -/

theorem cleanup_brackets (source' : DevourerSource) (consistent : Consistent source')
    (bare : source'.stack = []) (serial : source'.nextSerial = source.nextSerial) :
    StepBrackets source source' (source.cleanup.2 ++ [.stopReturned]) := by
  refine ⟨consistent, ?_⟩
  rw [bare, serial, List.flatMap_append, calls_cleanup]
  exact (Brackets.closes _ source.stack _).append (.nil _ [] _)

theorem stop_brackets (consistent : Consistent source) :
    StepBrackets source source.stopRequest.1 source.stopRequest.2 ∧
      StepBrackets source source.stopRxLoop.1 source.stopRxLoop.2 ∧
      StepBrackets source source.stopJoin.1 source.stopJoin.2 := by
  have unchanged : StepBrackets source source [] := ⟨consistent, .nil _ _ _⟩
  refine ⟨?_, ?_, ?_⟩
  · unfold DevourerSource.stopRequest
    split
    · refine ⟨⟨fun _ no => (by cases no), consistent.thread, fun no => (by cases no)⟩, ?_⟩
      exact .nil _ _ _
    · rename_i halted
      split
      · rename_i idle
        obtain ⟨-, rx⟩ := consistent.stopped (by simpa using halted) idle
        exact cleanup_brackets _
          ⟨fun _ _ => ⟨rfl, rx⟩, fun thread => absurd rx thread, fun _ => idle⟩ rfl rfl
      · exact unchanged
  · unfold DevourerSource.stopRxLoop
    split
    · rename_i asked
      refine stepBrackets_used _ ⟨fun _ no => (by cases no), consistent.thread, ?_⟩ rfl rfl
        (calls_uses _) device_held
      intro running
      rw [consistent.requested running] at asked
      cases asked
    · exact unchanged
  · unfold DevourerSource.stopJoin
    split
    · exact cleanup_brackets _
        ⟨fun _ _ => ⟨rfl, rfl⟩, fun thread => absurd rfl thread, fun _ => rfl⟩ rfl rfl
    · exact unchanged

theorem receive_brackets (consistent : Consistent source) (packet : Packet) :
    StepBrackets source (source.receive packet).1 (source.receive packet).2 := by
  unfold DevourerSource.receive
  split
  · refine stepBrackets_used _ consistent rfl rfl ?_ device_held
    rw [List.flatMap_append, calls_uses]
    split <;> exact List.append_nil _
  · exact ⟨consistent, .nil _ _ _⟩

theorem endRx_brackets (consistent : Consistent source) :
    StepBrackets source source.endRx.1 source.endRx.2 := by
  unfold DevourerSource.endRx
  split
  · rename_i receiving
    have there := consistent.thread (by rw [receiving]; simp)
    refine stepBrackets_used _ ⟨fun halted idle => ?_, fun _ => there, consistent.requested⟩ rfl rfl
      (calls_uses _) device_held
    have none := (consistent.stopped halted idle).2
    rw [receiving] at none
    cases none
  · exact ⟨consistent, .nil _ _ _⟩

/-- A call that tests for a device. -/
theorem test_brackets (consistent : Consistent source) :
    (∀ channel bandwidth, StepBrackets source (source.setChannel channel bandwidth).1
      (source.setChannel channel bandwidth).2) ∧
    ∀ frame, StepBrackets source (source.transmit frame).1 (source.transmit frame).2 := by
  constructor
  · intro channel bandwidth
    unfold DevourerSource.setChannel
    split
    · exact ⟨consistent, .nil _ _ _⟩
    · exact ⟨⟨consistent.stopped, consistent.thread, consistent.requested⟩, .nil _ _ _⟩
  · intro frame
    unfold DevourerSource.transmit
    split
    · exact ⟨consistent, .nil _ _ _⟩
    · exact ⟨⟨consistent.stopped, consistent.thread, consistent.requested⟩, .nil _ _ _⟩

/-- The device answers to a call. -/
theorem goOn_brackets (consistent : Consistent source) {index : ℕ} (success : Bool)
    (finds : ∀ call ∈ source.pending[index]?, call.device ∈ source.stack) :
    StepBrackets source (source.goOn index success).1 (source.goOn index success).2 := by
  unfold DevourerSource.goOn
  split
  · exact ⟨consistent, .nil _ _ _⟩
  · rename_i call found
    have used : (Obs.call (.use call.device) :: [DevourerSource.answered success call]).flatMap
        Obs.calls = [call.device].map .use := by
      cases call <;> rfl
    refine stepBrackets_used _ ⟨consistent.stopped, consistent.thread, consistent.requested⟩ rfl rfl
      used fun resource among => ?_
    rw [List.mem_singleton.mp among]
    exact finds call found

/-- **One step.** -/
theorem step_brackets (consistent : Consistent source) {trace : List Obs} {event : Event}
    (starts : StartsStopped source trace event) (finds : FindsDevice source trace event) :
    StepBrackets source (machine.step source event).1 (machine.step source event).2 := by
  cases event with
  | start answers =>
      obtain ⟨bare, rx⟩ := consistent.stopped starts.1 starts.2
      exact start_brackets ⟨starts.1, starts.2, rx⟩ bare answers
  | stopRequest => exact (stop_brackets consistent).1
  | stopRxLoop => exact (stop_brackets consistent).2.1
  | stopJoin => exact (stop_brackets consistent).2.2
  | packet packet => exact receive_brackets consistent packet
  | rxEnds => exact endRx_brackets consistent
  | setChannel channel bandwidth => exact (test_brackets consistent).1 channel bandwidth
  | transmit frame => exact (test_brackets consistent).2 frame
  | goOn index success => exact goOn_brackets consistent success finds

end Steps

/-! ## Runs -/

/-- `MakeDevourerSource`. The station sets the callback before it starts the source. -/
abbrev makeDevourerSource (channel : Int32) (bandwidth : Bandwidth) : DevourerSource :=
  { radioChannel := channel, radioBandwidth := bandwidth, callback := true }

/-- The calls of a run. -/
def resourceCalls (channel : Int32) (bandwidth : Bandwidth) (events : List Event) :
    List (Call Resource) :=
  (machine.outputs (makeDevourerSource channel bandwidth) events).flatMap Obs.calls

/-- What a run has acquired, when its calls find their devices. -/
theorem run_brackets (channel : Int32) (bandwidth : Bandwidth) {events : List Event}
    (starts : machine.EveryStep StartsStopped (makeDevourerSource channel bandwidth) events)
    (finds : machine.EveryStep FindsDevice (makeDevourerSource channel bandwidth) events) :
    Consistent (machine.after (makeDevourerSource channel bandwidth) events) ∧
      Brackets Resource.serial [] 0 (resourceCalls channel bandwidth events)
        (machine.after (makeDevourerSource channel bandwidth) events).stack
        (machine.after (makeDevourerSource channel bandwidth) events).nextSerial :=
  chain_of_everyStep
    (fun source : DevourerSource => (source.stack, source.nextSerial))
    (fun before emitted behind =>
      Brackets Resource.serial before.1 before.2 (emitted.flatMap Obs.calls) behind.1 behind.2)
    (fun _ => .nil _ _ _)
    (fun first second => by
      rw [List.flatMap_append]
      exact first.append second)
    Consistent
    ⟨fun _ _ => ⟨rfl, rfl⟩, fun thread => absurd rfl thread, fun no => (by cases no)⟩
    (fun source trace event consistent met =>
      ⟨(step_brackets consistent met.1 met.2).consistent,
        (step_brackets consistent met.1 met.2).brackets⟩)
    (starts.and finds)

/-- Where only open resources are used, the device that answers to a call is there. -/
theorem findsDevice_of_owned (channel : Int32) (bandwidth : Bandwidth) {events : List Event}
    (starts : machine.EveryStep StartsStopped (makeDevourerSource channel bandwidth) events)
    (owned : Along Owned 0 (resourceCalls channel bandwidth events)) :
    machine.EveryStep FindsDevice (makeDevourerSource channel bandwidth) events := by
  induction events using List.reverseRecOn with
  | nil => exact fun _ _ _ split => absurd split (by simp)
  | append_singleton events event ih =>
      rw [resourceCalls, Mealy.outputs_concat, List.flatMap_append] at owned
      obtain ⟨before, now⟩ := along_append.mp owned
      have finds := ih starts.front before
      obtain ⟨-, brackets⟩ := run_brackets channel bandwidth starts.front finds
      refine finds.concat ?_
      cases event with
      | goOn index success =>
          intro call found
          have emitted : (machine.step (machine.after (makeDevourerSource channel bandwidth) events)
              (.goOn index success)).2 =
                [.call (.use call.device), DevourerSource.answered success call] := by
            change (DevourerSource.goOn _ index success).2 = _
            rw [DevourerSource.goOn, Option.mem_def.mp found]
          have acquired : after 0 ((machine.outputs (makeDevourerSource channel bandwidth)
              events).flatMap Obs.calls) =
                (machine.after (makeDevourerSource channel bandwidth) events).stack :=
            brackets.moves.runs.left
          rw [emitted, acquired] at now
          exact Multiset.mem_coe.mp now.1
      | _ => trivial

/-- **When the resources are safe**: none is used or given back behind its end exactly when no
device is given back between the test and the answer of a `Transmit` or a `SetChannel`. -/
theorem resources_safe_iff (channel : Int32) (bandwidth : Bandwidth) {events : List Event}
    (starts : machine.EveryStep StartsStopped (makeDevourerSource channel bandwidth) events) :
    Safe id (resourceCalls channel bandwidth events) ↔
      machine.EveryStep FindsDevice (makeDevourerSource channel bandwidth) events := by
  constructor
  · exact fun safe => findsDevice_of_owned channel bandwidth starts safe.owned
  · exact fun finds => (run_brackets channel bandwidth starts finds).2.moves.safe_self

/-- **The resources of every run.** None is used or given back behind its end exactly when no
device is given back between the test and the answer of a `Transmit` or a `SetChannel`. Then none is
given back while one is open that was acquired inside it. The receive thread has its device as long
as it is there. Where the source does not run and no `Stop` is under way, there is no thread, and
all that was acquired was given back once. -/
theorem resources_nested (channel : Int32) (bandwidth : Bandwidth) {events : List Event}
    (starts : machine.EveryStep StartsStopped (makeDevourerSource channel bandwidth) events) :
    (Safe id (resourceCalls channel bandwidth events) ↔
      machine.EveryStep FindsDevice (makeDevourerSource channel bandwidth) events) ∧
    (machine.EveryStep FindsDevice (makeDevourerSource channel bandwidth) events →
      (∀ earlier inner between outer later,
        resourceCalls channel bandwidth events =
            earlier ++ .grant inner :: (between ++ .close outer :: later) →
          .grant outer ∈ earlier → .close inner ∈ between) ∧
      ((machine.after (makeDevourerSource channel bandwidth) events).rx ≠ .none →
        (machine.after (makeDevourerSource channel bandwidth) events).device.isSome = true) ∧
      ((machine.after (makeDevourerSource channel bandwidth) events).running = false →
        (machine.after (makeDevourerSource channel bandwidth) events).stopping = .idle →
          (machine.after (makeDevourerSource channel bandwidth) events).rx = .none ∧
            ∀ resource, .grant resource ∈ resourceCalls channel bandwidth events →
              (resourceCalls channel bandwidth events).count (.close resource) = 1)) := by
  refine ⟨resources_safe_iff channel bandwidth starts, fun finds => ?_⟩
  obtain ⟨consistent, brackets⟩ := run_brackets channel bandwidth starts finds
  have moves := brackets.moves
  refine ⟨?_, consistent.thread, fun halted idle => ?_⟩
  · intro earlier inner between outer later whole inside
    have nested := brackets.nested
    have distinct := brackets.serial.nodup
    rw [whole] at nested distinct
    exact nested.inner_first distinct inside
  · obtain ⟨bare, rx⟩ := consistent.stopped halted idle
    refine ⟨rx, fun resource acquired => ?_⟩
    rw [bare] at moves
    exact moves.released acquired

/-- An adapter that is in use the first time, and taken out while it receives the second time. -/
def takenOut : List Event :=
  [.start { claim := .busy, locked := false }, .start {}, .transmit [0], .goOn 0 true, .rxEnds,
    .setChannel 36 .k40, .goOn 0 false, .stopRequest, .stopRxLoop, .stopJoin, .stopRequest]

/-- The context of the first start and the device of the second were given back once. -/
theorem resources_nested_takenOut :
    (resourceCalls 161 .k20 takenOut).count (.close ⟨.context, 0⟩) = 1 ∧
      (resourceCalls 161 .k20 takenOut).count (.close ⟨.device, 6⟩) = 1 := by
  obtain ⟨-, safe⟩ := @resources_nested 161 .k20 takenOut (by decide)
  obtain ⟨-, -, released⟩ := safe (by decide)
  obtain ⟨-, once⟩ := released (by decide) (by decide)
  exact ⟨once ⟨.context, 0⟩ (by decide), once ⟨.device, 6⟩ (by decide)⟩

/-- A frame is on its way to a device that a `Stop` gives back. -/
example : ¬ machine.EveryStep FindsDevice (makeDevourerSource 161 .k20)
    [.start {}, .transmit [0], .stopRequest, .stopRxLoop, .rxEnds, .stopJoin, .goOn 0 true] := by
  decide

end Devourer

end Source

end MobileGs

import MobileGs.App.DecoderThreads
import MobileGs.Foundations.Holders

/-!
# The codecs of the video decoder

`start` makes a codec and `stop` releases it, while the receive thread may be anywhere. Each codec
that was started is released once. One whose `configure` or `start` throws is forgotten: it is never
released (`codecs_released`).
-/

set_option autoImplicit false

namespace MobileGs

namespace App

open Handles

/-- What a synchronized call has done to `codec` and `running` at each point. -/
def Phase (threads : DecoderThreads) : Prop :=
  match threads.call with
  | .idle => threads.codec = none → threads.running = false
  | .stopCodec codec _ => threads.codec = some codec
  | .releaseCodec codec _ => threads.codec = some codec
  | .clearCodec _ => True
  | .clearRunning _ => threads.codec = none
  | .setRunning _ => threads.codec.isSome = true ∧ threads.running = false
  | .started _ => threads.codec.isSome = true
  | _ => threads.codec = none ∧ threads.running = false

/-- The calls on codecs that were started. The receive thread owns none. -/
def ThreadObs.calls : ThreadObs → List (Call MediaCodec)
  | .made codec true => [.grant codec]
  | .stopped codec => [.use codec]
  | .released codec => [.close codec]
  | _ => []

/-- The codec that was started and is not released. -/
def DecoderThreads.held (threads : DecoderThreads) : Multiset MediaCodec :=
  match threads.call with
  | .clearCodec _ => 0
  | .setCodec codec _ => {codec}
  | _ => (threads.codec.toList : Multiset MediaCodec)

/-- What a step does to the codecs. -/
def CodecMoves (threads threads' : DecoderThreads) (emitted : List ThreadObs) : Prop :=
  Phase threads' ∧ Moves MediaCodec.number threads.held threads.nextCodec
    (emitted.flatMap ThreadObs.calls) threads'.held threads'.nextCodec

section Codecs

variable {threads : DecoderThreads}

theorem FeedMove.calls {threads' : DecoderThreads} {emitted : List ThreadObs}
    (move : FeedMove threads threads' emitted) : emitted.flatMap ThreadObs.calls = [] := by
  cases move with
  | goes _ _ _ _ _ emits =>
      refine List.flatMap_eq_nil_iff.mpr fun obs among => ?_
      obtain ⟨shown, rfl⟩ | ⟨codec, rfl, -⟩ := emits obs among <;> rfl
  | throws _ _ _ => rfl
  | halts _ _ _ => rfl

/-- The receive thread may clear `running` at any time. -/
theorem FeedMove.running_le {threads' : DecoderThreads} {emitted : List ThreadObs}
    (move : FeedMove threads threads' emitted) (running : threads'.running = true) :
    threads.running = true := by
  cases move with
  | goes _ same _ _ _ _ => rwa [← same]
  | throws _ _ same => rwa [← same]
  | halts _ _ cleared =>
      rw [cleared] at running
      cases running

theorem Phase.alongside {threads' : DecoderThreads} (phase : Phase threads)
    (alongside : Alongside threads threads')
    (running : threads'.running = true → threads.running = true) : Phase threads' := by
  have cleared : threads.running = false → threads'.running = false := by
    intro halted
    by_contra runs
    rw [running (by simpa using runs)] at halted
    cases halted
  unfold Phase at phase ⊢
  rw [alongside.call, alongside.codec]
  cases point : threads.call <;> rw [point] at phase <;> dsimp only at phase ⊢
  case idle => exact fun gone => cleared (phase gone)
  case setRunning => exact ⟨phase.1, cleared phase.2⟩
  all_goals first | exact phase | exact ⟨phase.1, cleared phase.2⟩

theorem held_alongside {threads' : DecoderThreads} (alongside : Alongside threads threads') :
    threads'.held = threads.held := by
  rw [DecoderThreads.held, DecoderThreads.held, alongside.call, alongside.codec]

/-- A section of `submitNal` leaves the codecs alone. -/
theorem feed_codecs (phase : Phase threads) (answers : FeedAnswers) :
    CodecMoves threads (threads.feedStep answers).1 (threads.feedStep answers).2 := by
  obtain ⟨alongside, move⟩ := @feedStep_cases threads answers
  refine ⟨phase.alongside alongside move.running_le, ?_⟩
  rw [held_alongside alongside, alongside.nextCodec, move.calls]
  exact .nil _ _ _

theorem begin_codecs (phase : Phase threads) (request : DecoderRequest) :
    CodecMoves threads (threads.begin request).1 (threads.begin request).2 := by
  have unchanged : CodecMoves threads threads [] := ⟨phase, .nil _ _ _⟩
  have stops : ∀ next, threads.call = .idle → CodecMoves threads
      { threads with call := threads.codec.elim (.clearCodec next) (.stopCodec · next) }
      [.began request] := by
    intro next idle
    cases current : threads.codec with
    | none =>
        refine ⟨trivial, ?_⟩
        simp only [DecoderThreads.held, idle, current]
        exact .nil _ _ _
    | some codec =>
        refine ⟨rfl, ?_⟩
        simp only [DecoderThreads.held, idle, current]
        exact .nil _ _ _
  cases request with
  | start codecType =>
      rw [DecoderThreads.begin]
      split
      · exact unchanged
      · rename_i idle
        exact stops (some codecType) (not_not.mp idle)
  | stop =>
      rw [DecoderThreads.begin]
      split
      · exact unchanged
      · rename_i idle
        exact stops none (not_not.mp idle)
  | submitNal nal =>
      rw [DecoderThreads.begin]
      split
      · exact unchanged
      · exact ⟨phase, .nil _ _ _⟩

/-- A section of `start` or `stop` starts a codec, or releases the one that is held. -/
theorem call_codecs (phase : Phase threads) (answers : CallAnswers) :
    CodecMoves threads (threads.callStep answers).1 (threads.callStep answers).2 := by
  unfold Phase at phase
  unfold CodecMoves DecoderThreads.callStep DecoderThreads.held Phase
  cases point : threads.call <;> rw [point] at phase <;> dsimp only at phase ⊢
  case idle =>
    rw [point]
    exact ⟨phase, .nil _ _ _⟩
  case stopCodec codec next =>
    rw [phase]
    exact ⟨rfl, .use (Multiset.mem_singleton_self codec) _⟩
  case releaseCodec codec next =>
    rw [phase]
    exact ⟨trivial, .close 0 codec _⟩
  case clearCodec next => exact ⟨rfl, .nil _ _ _⟩
  case clearRunning next => exact ⟨⟨phase, rfl⟩, .nil _ _ _⟩
  case clearKeyframe next =>
    rw [phase.1]
    cases next with
    | none => exact ⟨fun _ => phase.2, .nil _ _ _⟩
    | some codecType => exact ⟨⟨rfl, phase.2⟩, .nil _ _ _⟩
  case setType codecType => exact ⟨phase, .nil _ _ _⟩
  case make codecType =>
    rw [phase.1]
    cases answers.making with
    | whole => exact ⟨⟨rfl, phase.2⟩, .grant 0 rfl⟩
    | broken message => exact ⟨⟨rfl, phase.2⟩, .nil _, .none rfl (Nat.le_succ _)⟩
    | refused message => exact ⟨⟨rfl, phase.2⟩, .nil _ _ _⟩
  case setCodec codec codecType => exact ⟨⟨rfl, phase.2⟩, .nil _ _ _⟩
  case setRunning codecType => exact ⟨phase.1, .nil _ _ _⟩
  case started codecType =>
    refine ⟨fun gone => ?_, .nil _ _ _⟩
    rw [gone] at phase
    cases phase
  case failed =>
    rw [phase.1]
    exact ⟨fun _ => rfl, .nil _ _ _⟩

/-- **One step.** -/
theorem step_codecs (phase : Phase threads) (event : ThreadEvent) :
    CodecMoves threads (decoderThreads.step threads event).1
      (decoderThreads.step threads event).2 := by
  cases event with
  | begin request => exact begin_codecs phase request
  | call answers => exact call_codecs phase answers
  | feed answers => exact feed_codecs phase answers

end Codecs

/-- What holds of the codecs along every run. -/
theorem run_codecs (events : List ThreadEvent) :
    CodecMoves {} (decoderThreads.after {} events) (decoderThreads.outputs {} events) :=
  have always : decoderThreads.EveryStep (fun _ _ _ => True) {} events := fun _ _ _ _ => trivial
  have rest : Phase {} := fun _ => rfl
  moves_of_everyStep ThreadObs.calls MediaCodec.number DecoderThreads.held
    DecoderThreads.nextCodec rest
    (fun _ _ event phase _ => step_codecs phase event) always

/-- What is made has the next number, and it is made once. -/
structure Numbered (threads : DecoderThreads) (trace : List ThreadObs) : Prop where
  made : ∀ codec whole, .made codec whole ∈ trace → codec.number < threads.nextCodec
  once : ∀ codec, .made codec false ∈ trace → .made codec true ∉ trace

/-- What a step makes. -/
theorem mem_made {threads : DecoderThreads} {event : ThreadEvent} {codec : MediaCodec}
    {whole : Bool} (among : .made codec whole ∈ (decoderThreads.step threads event).2) :
    codec.number = threads.nextCodec ∧
      (decoderThreads.step threads event).1.nextCodec = threads.nextCodec + 1 ∧
      .made codec (!whole) ∉ (decoderThreads.step threads event).2 := by
  cases event with
  | begin request =>
      cases request <;> simp only [decoderThreads, DecoderThreads.begin] at among <;>
        split at among <;> simp at among
  | call answers =>
      cases point : threads.call with
      | make codecType =>
          cases making : answers.making <;>
            simp only [decoderThreads, DecoderThreads.callStep, point, making, List.mem_cons,
              List.not_mem_nil, or_false] at among ⊢
          · obtain ⟨rfl, rfl⟩ := ThreadObs.made.inj among
            simp
          · rcases among with same | no
            · obtain ⟨rfl, rfl⟩ := ThreadObs.made.inj same
              simp
            · cases no
          · cases among
      | _ => simp [decoderThreads, DecoderThreads.callStep, point] at among
  | feed answers =>
      obtain ⟨-, move⟩ := @feedStep_cases threads answers
      simp only [decoderThreads] at among
      generalize (threads.feedStep answers).2 = emitted at move among
      cases move with
      | goes _ _ _ _ _ emits =>
          obtain ⟨shown, no⟩ | ⟨other, no, -⟩ := emits _ among <;> cases no
      | throws _ _ _ => simp at among
      | halts _ _ _ => cases among

theorem nextCodec_le_step (threads : DecoderThreads) (event : ThreadEvent)
    (phase : Phase threads) :
    threads.nextCodec ≤ (decoderThreads.step threads event).1.nextCodec :=
  (step_codecs phase event).2.serial.le

theorem Numbered.step {threads : DecoderThreads} {trace : List ThreadObs} (phase : Phase threads)
    (numbered : Numbered threads trace) (event : ThreadEvent) :
    Numbered (decoderThreads.step threads event).1
      (trace ++ (decoderThreads.step threads event).2) := by
  constructor
  · intro codec whole among
    rcases List.mem_append.mp among with earlier | now
    · exact (numbered.made codec whole earlier).trans_le (nextCodec_le_step threads event phase)
    · obtain ⟨number, next, -⟩ := mem_made now
      omega
  · intro codec broken whole
    rcases List.mem_append.mp broken with earlier | now <;>
      rcases List.mem_append.mp whole with earlier' | now'
    · exact numbered.once codec earlier earlier'
    · have below := numbered.made codec false earlier
      have number := (mem_made now').1
      omega
    · have below := numbered.made codec true earlier'
      have number := (mem_made now).1
      omega
    · exact (mem_made now).2.2 now'

/-- **The codecs of every run**, however the threads interleave. Each is released at most once. Only
those that were started are released, and while the decoder has none and no call is under way, each
of these has been. -/
theorem codecs_released (events : List ThreadEvent) :
    let trace := decoderThreads.outputs {} events
    (∀ codec, trace.count (.released codec) ≤ 1) ∧
      (∀ codec, .made codec false ∈ trace → .released codec ∉ trace) ∧
      ((decoderThreads.after {} events).call = .idle →
        (decoderThreads.after {} events).codec = none →
        ∀ codec, .made codec true ∈ trace → trace.count (.released codec) = 1) := by
  intro trace
  obtain ⟨phase, moves⟩ := run_codecs events
  have closes : ∀ (obs : List ThreadObs) (codec : MediaCodec),
      (obs.flatMap ThreadObs.calls).count (.close codec) = obs.count (.released codec) := by
    intro obs codec
    induction obs with
    | nil => rfl
    | cons first rest ih =>
        rw [List.flatMap_cons, List.count_append, ih, List.count_cons, Nat.add_comm]
        congr 1
        cases first with
        | made other whole => cases whole <;> rfl
        | released other => simp [ThreadObs.calls, List.count_singleton]
        | _ => rfl
  have granted : ∀ codec, .grant codec ∈ trace.flatMap ThreadObs.calls ↔
      .made codec true ∈ trace := by
    intro codec
    rw [List.mem_flatMap]
    constructor
    · rintro ⟨obs, among, call⟩
      cases obs with
      | made other whole =>
          cases whole with
          | false => cases call
          | true =>
              obtain rfl : codec = other := by simpa [ThreadObs.calls] using call
              exact among
      | _ => simp [ThreadObs.calls] at call
    · exact fun among => ⟨_, among, List.mem_singleton_self _⟩
  have rest : Phase {} := fun _ => rfl
  have none : DecoderThreads.held {} = 0 := rfl
  rw [none] at moves
  have numbered : Phase (decoderThreads.after {} events) ∧
      Numbered (decoderThreads.after {} events) trace :=
    Mealy.invariant_of_step (fun threads trace => Phase threads ∧ Numbered threads trace)
      ⟨rest, ⟨by simp, by simp⟩⟩
      (fun _ _ event kept => ⟨(step_codecs kept.1 event).1, kept.2.step kept.1 event⟩) events
  refine ⟨fun codec => ?_, fun codec broken released => ?_, fun idle gone codec whole => ?_⟩
  · rw [← closes]
    exact moves.safe_self.once codec
  · have balance := count_after moves.runs.owned codec
    have one : 0 < (decoderThreads.outputs {} events).count (.released codec) :=
      List.count_pos_iff.mpr released
    rw [closes, Multiset.count_zero] at balance
    have handed :
        codec ∈ grants ((decoderThreads.outputs {} events).flatMap ThreadObs.calls) :=
      List.count_pos_iff.mp (by omega)
    exact numbered.2.once codec broken ((granted codec).mp (mem_grants.mp handed))
  · rw [← closes]
    refine moves.dropped ((granted codec).mpr whole) ?_
    rw [DecoderThreads.held, idle, gone]
    exact Multiset.notMem_zero codec

end App

end MobileGs

import Mathlib.Logic.Function.Basic
import MobileGs.App.VideoDecoder

/-!
# The video decoder between its threads

`start` and `stop` are synchronized and run on the main thread. `submitNal` is not: the receive
thread takes `codec`, tests `running`, and then works with the codec it has taken, whatever becomes
of the decoder meanwhile. An event is the beginning of a call or one section of it, between two
points where the other thread can run. A call that waits for the monitor changes nothing.

A codec is known by its number and the type it was made for. What it answers to a call comes with
the event. A codec that does not execute throws, and behind `release` none executes.

What a section of `submitNal` does is said once (`feedStep_cases`): it goes on with the codec it has
taken or returns, or the codec throws, or the decoder is stopped behind that.
-/

set_option autoImplicit false

namespace MobileGs

namespace App

structure MediaCodec where
  number : ℕ
  mime : String
  deriving DecidableEq

/-- The point a synchronized call has reached. Within `stop` it is known what type `start` goes on
with, if it is `start` that stops. -/
inductive CallPoint where
  | idle
  /-- about to stop the codec -/
  | stopCodec (codec : MediaCodec) (next : Option VideoCodec)
  /-- about to release it -/
  | releaseCodec (codec : MediaCodec) (next : Option VideoCodec)
  /-- about to clear `codec` -/
  | clearCodec (next : Option VideoCodec)
  /-- about to clear `running` -/
  | clearRunning (next : Option VideoCodec)
  /-- about to clear `sawKeyframe` -/
  | clearKeyframe (next : Option VideoCodec)
  /-- about to set `configuredCodec` -/
  | setType (codecType : VideoCodec)
  /-- about to make, configure and start a codec -/
  | make (codecType : VideoCodec)
  /-- about to set `codec` -/
  | setCodec (codec : MediaCodec) (codecType : VideoCodec)
  /-- about to set `running` -/
  | setRunning (codecType : VideoCodec)
  /-- about to clear `sawKeyframe` once more -/
  | started (codecType : VideoCodec)
  /-- in the handler of the exception -/
  | failed
  deriving DecidableEq

/-- The point the receive thread has reached in `submitNal`. -/
inductive FeedPoint where
  | idle
  /-- about to test `running` -/
  | taken (codec : MediaCodec) (nal : List Byte)
  /-- about to test `sawKeyframe` -/
  | running (codec : MediaCodec) (nal : List Byte)
  /-- about to look for a keyframe -/
  | waiting (codec : MediaCodec) (nal : List Byte)
  /-- about to set `sawKeyframe` -/
  | keyframe (codec : MediaCodec) (nal : List Byte)
  /-- about to call `dequeueInputBuffer` -/
  | input (codec : MediaCodec) (nal : List Byte)
  /-- about to call `getInputBuffer` -/
  | buffer (codec : MediaCodec) (nal : List Byte)
  /-- about to call `queueInputBuffer`, with the NAL if it fits -/
  | queue (codec : MediaCodec) (nal : Option (List Byte))
  /-- about to call `dequeueOutputBuffer` -/
  | output (codec : MediaCodec)
  /-- about to call `releaseOutputBuffer` -/
  | render (codec : MediaCodec)
  /-- about to ask for the format of the output -/
  | format (codec : MediaCodec)
  /-- about to clear `running`, behind an exception of the codec -/
  | failed (codec : MediaCodec)
  deriving DecidableEq

/-- `VideoDecoder`, with the codecs that execute. -/
structure DecoderThreads where
  codec : Option MediaCodec := none
  configuredCodec : VideoCodec := .auto
  running : Bool := false
  framesDecoded : ℕ := 0
  framesDropped : ℕ := 0
  sawKeyframe : Bool := false
  call : CallPoint := .idle
  feed : FeedPoint := .idle
  nextCodec : ℕ := 0
  executing : MediaCodec → Bool := fun _ => false

/-- How the making of a codec ends: it is started, `configure` or `start` throws, or there is no
codec of this type. -/
inductive Making where
  | whole
  | broken (message : String)
  | refused (message : String)
  deriving DecidableEq

/-- What the system answers to a section of a synchronized call: whether a codec that is stopped
does stop, and how the making of one ends. -/
structure CallAnswers where
  stops : Bool := true
  making : Making := .whole

/-- What the codec answers to a section of `submitNal`: an exception, the index of a buffer, and
how much fits into an input buffer, if there is one. -/
structure FeedAnswers where
  throws : Option String := none
  index : Int32 := 0
  remaining : Option ℕ := some 65536

/-- A call of the decoder. -/
inductive DecoderRequest where
  | start (codecType : VideoCodec)
  | stop
  | submitNal (nal : List Byte)
  deriving DecidableEq

inductive ThreadEvent where
  /-- A call begins, with its first section. -/
  | begin (call : DecoderRequest)
  /-- The next section of `start` or `stop`. -/
  | call (answers : CallAnswers)
  /-- The next section of `submitNal`. -/
  | feed (answers : FeedAnswers)

/-- What a run does, with what the decoder shows to others. -/
inductive ThreadObs where
  | began (call : DecoderRequest)
  | made (codec : MediaCodec) (whole : Bool)
  | stopped (codec : MediaCodec)
  | released (codec : MediaCodec)
  /-- The receive thread calls a codec. -/
  | called (codec : MediaCodec) (throws : Bool)
  | shows (obs : DecoderObs)
  deriving DecidableEq

namespace DecoderThreads

variable (threads : DecoderThreads)

/-- `start`, `stop` or `submitNal`, up to the first point where the other thread can run. -/
def begin (call : DecoderRequest) : DecoderThreads × List ThreadObs :=
  match call with
  | .start codecType =>
      if threads.call ≠ .idle then (threads, [])
      else
        ({ threads with
            call := threads.codec.elim (.clearCodec (some codecType))
              (.stopCodec · (some codecType)) },
          [.began call])
  | .stop =>
      if threads.call ≠ .idle then (threads, [])
      else
        ({ threads with call := threads.codec.elim (.clearCodec none) (.stopCodec · none) },
          [.began call])
  | .submitNal nal =>
      if threads.feed ≠ .idle then (threads, [])
      else ({ threads with feed := threads.codec.elim .idle (.taken · nal) }, [.began call])

/-- The next section of `start` or `stop`. -/
def callStep (answers : CallAnswers) : DecoderThreads × List ThreadObs :=
  match threads.call with
  | .idle => (threads, [])
  | .stopCodec codec next =>
      ({ threads with
          call := .releaseCodec codec next
          executing :=
            if answers.stops then Function.update threads.executing codec false
            else threads.executing },
        [.stopped codec])
  | .releaseCodec codec next =>
      ({ threads with
          call := .clearCodec next
          executing := Function.update threads.executing codec false },
        [.released codec])
  | .clearCodec next => ({ threads with codec := none, call := .clearRunning next }, [])
  | .clearRunning next => ({ threads with running := false, call := .clearKeyframe next }, [])
  | .clearKeyframe next =>
      ({ threads with sawKeyframe := false, call := next.elim .idle .setType }, [])
  | .setType codecType =>
      ({ threads with configuredCodec := codecType, call := .make codecType }, [])
  | .make codecType =>
      let codec : MediaCodec := ⟨threads.nextCodec, mime codecType⟩
      let error (message : String) : DecoderObs :=
        .error ("could not start the " ++ mime codecType ++ " decoder: " ++ message)
      match answers.making with
      | .whole =>
          ({ threads with
              call := .setCodec codec codecType
              nextCodec := threads.nextCodec + 1
              executing := Function.update threads.executing codec true },
            [.made codec true])
      | .broken message =>
          ({ threads with call := .failed, nextCodec := threads.nextCodec + 1 },
            [.made codec false, .shows (error message)])
      | .refused message => ({ threads with call := .failed }, [.shows (error message)])
  | .setCodec codec codecType =>
      ({ threads with codec := some codec, call := .setRunning codecType }, [])
  | .setRunning codecType => ({ threads with running := true, call := .started codecType }, [])
  | .started codecType =>
      ({ threads with sawKeyframe := false, call := .idle }, [.shows (.started codecType)])
  | .failed => ({ threads with codec := none, running := false, call := .idle }, [])

/-- The receive thread calls a codec. One that does not execute throws. -/
def onCodec (codec : MediaCodec) (answers : FeedAnswers)
    (returns : DecoderThreads × List DecoderObs) : DecoderThreads × List ThreadObs :=
  let throws := if threads.executing codec then answers.throws else answers.throws <|> some "null"
  match throws with
  | none => (returns.1, .called codec false :: returns.2.map .shows)
  | some message =>
      ({ threads with feed := .failed codec },
        [.called codec true, .shows (.error ("the decoder failed: " ++ message))])

/-- The next section of `submitNal`. -/
def feedStep (answers : FeedAnswers) : DecoderThreads × List ThreadObs :=
  let dropped := { threads with framesDropped := threads.framesDropped + 1 }
  match threads.feed with
  | .idle => (threads, [])
  | .taken codec nal =>
      ({ threads with feed := if threads.running then .running codec nal else .idle }, [])
  | .running codec nal =>
      ({ threads with
          feed := if threads.sawKeyframe then .input codec nal else .waiting codec nal }, [])
  | .waiting codec nal =>
      ({ threads with
          feed :=
            if isKeyframe threads.configuredCodec nal then .keyframe codec nal else .idle }, [])
  | .keyframe codec nal =>
      ({ threads with sawKeyframe := true, feed := .input codec nal }, [])
  | .input codec nal =>
      threads.onCodec codec answers
        (if answers.index < 0 then { dropped with feed := .idle }
          else { threads with feed := .buffer codec nal }, [])
  | .buffer codec nal =>
      threads.onCodec codec answers
        (match answers.remaining with
          | none => { threads with feed := .idle }
          | some remaining =>
              if remaining < nal.length then { dropped with feed := .queue codec none }
              else { threads with feed := .queue codec (some nal) }, [])
  | .queue codec none =>
      threads.onCodec codec answers ({ threads with feed := .idle }, [.queuedEmpty])
  | .queue codec (some nal) =>
      threads.onCodec codec answers
        ({ threads with feed := .output codec }, [.queued threads.configuredCodec nal])
  | .output codec =>
      threads.onCodec codec answers
        ({ threads with
            feed :=
              if answers.index ≥ 0 then .render codec
              else if answers.index = infoOutputFormatChanged then .format codec
              else .idle }, [])
  | .render codec =>
      let framesDecoded := threads.framesDecoded + 1
      threads.onCodec codec answers
        ({ threads with framesDecoded, feed := .output codec },
          if framesDecoded = 1 then [.firstFrame] else [])
  | .format codec => threads.onCodec codec answers ({ threads with feed := .output codec }, [])
  | .failed _ => ({ threads with running := false, feed := .idle }, [])

end DecoderThreads

/-- The threads of the decoder as a machine. -/
def decoderThreads : Mealy DecoderThreads ThreadEvent ThreadObs where
  step threads
    | .begin call => threads.begin call
    | .call answers => threads.callStep answers
    | .feed answers => threads.feedStep answers

/-! ## One section -/

namespace FeedPoint

/-- The codec the receive thread has taken. -/
def holds : FeedPoint → Option MediaCodec
  | .idle => none
  | .taken codec _ => some codec
  | .running codec _ => some codec
  | .waiting codec _ => some codec
  | .keyframe codec _ => some codec
  | .input codec _ => some codec
  | .buffer codec _ => some codec
  | .queue codec _ => some codec
  | .output codec => some codec
  | .render codec => some codec
  | .format codec => some codec
  | .failed _ => none

/-- The codec it goes on to call: it has found the decoder running. -/
def uses : FeedPoint → Option MediaCodec
  | .taken _ _ => none
  | point => point.holds

theorem holds_of_uses {point : FeedPoint} {codec : MediaCodec} (uses : point.uses = some codec) :
    point.holds = some codec := by
  cases point <;> first | exact uses | cases uses

end FeedPoint

/-- What a section of `submitNal` leaves alone. -/
structure Alongside (threads threads' : DecoderThreads) : Prop where
  codec : threads'.codec = threads.codec
  configuredCodec : threads'.configuredCodec = threads.configuredCodec
  call : threads'.call = threads.call
  nextCodec : threads'.nextCodec = threads.nextCodec
  executing : threads'.executing = threads.executing

/-- What a section of `submitNal` does. -/
inductive FeedMove (threads threads' : DecoderThreads) : List ThreadObs → Prop where
  /-- It goes on, or it returns. -/
  | goes {emitted : List ThreadObs} (before : ∀ codec, threads.feed ≠ .failed codec)
      (running : threads'.running = threads.running)
      (holds : ∀ codec, threads'.feed.holds = some codec → threads.feed.holds = some codec)
      (uses : ∀ codec, threads'.feed.uses = some codec →
        threads.feed.uses = some codec ∨ threads.feed.holds = some codec ∧ threads.running = true)
      (point : ∀ codec, threads'.feed ≠ .failed codec)
      (emits : ∀ obs ∈ emitted, (∃ shown, obs = .shows shown) ∨
        ∃ codec, obs = .called codec false ∧ threads.executing codec = true) :
      FeedMove threads threads' emitted
  /-- The codec throws. -/
  | throws {codec : MediaCodec} {text : String} (uses : threads.feed.uses = some codec)
      (point : threads'.feed = .failed codec) (running : threads'.running = threads.running) :
      FeedMove threads threads' [.called codec true, .shows (.error text)]
  /-- The decoder is stopped behind that. -/
  | halts {codec : MediaCodec} (point : threads.feed = .failed codec)
      (idle : threads'.feed = .idle) (running : threads'.running = false) :
      FeedMove threads threads' []

section Moves

variable {threads : DecoderThreads}

/-- A section that calls no codec. -/
theorem feedMove_silent {threads' : DecoderThreads} (before : ∀ codec, threads.feed ≠ .failed codec)
    (running : threads'.running = threads.running)
    (holds : ∀ codec, threads'.feed.holds = some codec → threads.feed.holds = some codec)
    (uses : ∀ codec, threads'.feed.uses = some codec →
      threads.feed.uses = some codec ∨ threads.feed.holds = some codec ∧ threads.running = true)
    (point : ∀ codec, threads'.feed ≠ .failed codec) : FeedMove threads threads' [] :=
  .goes before running holds uses point (List.forall_mem_nil _)

/-- A section that calls the codec it uses, and goes on with it or returns. -/
theorem feedMove_onCodec {codec : MediaCodec} (uses : threads.feed.uses = some codec)
    (answers : FeedAnswers) {threads' : DecoderThreads} (shown : List DecoderObs)
    (alongside : Alongside threads threads') (running : threads'.running = threads.running)
    (next : threads'.feed = .idle ∨ threads'.feed.uses = some codec) :
    Alongside threads (threads.onCodec codec answers (threads', shown)).1 ∧
      FeedMove threads (threads.onCodec codec answers (threads', shown)).1
        (threads.onCodec codec answers (threads', shown)).2 := by
  unfold DecoderThreads.onCodec
  dsimp only
  split
  · rename_i returned
    have executes : threads.executing codec = true := by
      by_contra halted
      rw [if_neg halted] at returned
      simp at returned
    refine ⟨alongside, .goes ?_ running ?_ ?_ ?_ ?_⟩
    · rintro other failed
      rw [failed] at uses
      cases uses
    · intro other holds
      rcases next with idle | goesOn
      · rw [idle] at holds
        cases holds
      · rw [← holds, FeedPoint.holds_of_uses uses, FeedPoint.holds_of_uses goesOn]
    · intro other uses'
      rcases next with idle | goesOn
      · rw [idle] at uses'
        cases uses'
      · exact .inl (by rw [uses, ← goesOn, uses'])
    · rintro other failed
      rcases next with idle | goesOn
      · rw [idle] at failed
        cases failed
      · rw [failed] at goesOn
        cases goesOn
    · intro obs among
      rcases List.mem_cons.mp among with rfl | later
      · exact .inr ⟨codec, rfl, executes⟩
      · obtain ⟨shown, -, rfl⟩ := List.mem_map.mp later
        exact .inl ⟨shown, rfl⟩
  · exact ⟨⟨rfl, rfl, rfl, rfl, rfl⟩, .throws uses rfl rfl⟩

/-- **One section of `submitNal`.** -/
theorem feedStep_cases (answers : FeedAnswers) :
    Alongside threads (threads.feedStep answers).1 ∧
      FeedMove threads (threads.feedStep answers).1 (threads.feedStep answers).2 := by
  have same : Alongside threads threads := ⟨rfl, rfl, rfl, rfl, rfl⟩
  unfold DecoderThreads.feedStep
  dsimp only
  split
  · rename_i point
    have quiet : ∀ codec, threads.feed ≠ .failed codec := by simp [point]
    exact ⟨same, feedMove_silent quiet rfl (fun _ holds => holds) (fun _ uses => .inl uses) quiet⟩
  · rename_i codec nal point
    refine ⟨⟨rfl, rfl, rfl, rfl, rfl⟩, feedMove_silent (by simp [point]) rfl ?_ ?_ ?_⟩ <;>
      dsimp only <;> split
    all_goals rename_i running; simp [point, running, FeedPoint.holds, FeedPoint.uses]
  · rename_i codec nal point
    refine ⟨⟨rfl, rfl, rfl, rfl, rfl⟩, feedMove_silent (by simp [point]) rfl ?_ ?_ ?_⟩ <;>
      dsimp only <;> split
    all_goals simp [point, FeedPoint.holds, FeedPoint.uses]
  · rename_i codec nal point
    refine ⟨⟨rfl, rfl, rfl, rfl, rfl⟩, feedMove_silent (by simp [point]) rfl ?_ ?_ ?_⟩ <;>
      dsimp only <;> split
    all_goals simp [point, FeedPoint.holds, FeedPoint.uses]
  · rename_i codec nal point
    refine ⟨⟨rfl, rfl, rfl, rfl, rfl⟩, feedMove_silent (by simp [point]) rfl ?_ ?_ ?_⟩
    all_goals simp [point, FeedPoint.holds, FeedPoint.uses]
  · rename_i codec nal point
    refine feedMove_onCodec (by rw [point]; rfl) answers _ ?_ ?_ ?_ <;> split
    all_goals first | exact ⟨rfl, rfl, rfl, rfl, rfl⟩ | rfl | exact .inl rfl | exact .inr rfl
  · rename_i codec nal point
    refine feedMove_onCodec (by rw [point]; rfl) answers _ ?_ ?_ ?_ <;> repeat' split
    all_goals first | exact ⟨rfl, rfl, rfl, rfl, rfl⟩ | rfl | exact .inl rfl | exact .inr rfl
  · rename_i codec point
    exact feedMove_onCodec (by rw [point]; rfl) answers _ ⟨rfl, rfl, rfl, rfl, rfl⟩ rfl (.inl rfl)
  · rename_i codec nal point
    exact feedMove_onCodec (by rw [point]; rfl) answers _ ⟨rfl, rfl, rfl, rfl, rfl⟩ rfl (.inr rfl)
  · rename_i codec point
    refine feedMove_onCodec (by rw [point]; rfl) answers _ ⟨rfl, rfl, rfl, rfl, rfl⟩ rfl ?_
    dsimp only
    repeat' split
    all_goals first | exact .inl rfl | exact .inr rfl
  · rename_i codec point
    exact feedMove_onCodec (by rw [point]; rfl) answers _ ⟨rfl, rfl, rfl, rfl, rfl⟩ rfl (.inr rfl)
  · rename_i codec point
    exact feedMove_onCodec (by rw [point]; rfl) answers _ ⟨rfl, rfl, rfl, rfl, rfl⟩ rfl (.inr rfl)
  · rename_i codec point
    exact ⟨⟨rfl, rfl, rfl, rfl, rfl⟩, .halts point rfl rfl⟩

end Moves

end App

end MobileGs

import MobileGs.App.DecoderCodecs

/-!
# The calls of the video decoder, one at a time

`VideoDecoder` does a call as one step, and `DecoderThreads` does it section by section. While the
calls do not overlap, they agree: a run of the sections is a run of whole calls, with the same
calls in the same order, the same outputs, and in the end the same decoder (`calls_apart`).

What is left of a call at each of its points is told by `restOfCall` and `restOfFeed`. A section
takes what is left before it to what is left behind it, for some answers of the codec.
-/

set_option autoImplicit false

namespace MobileGs

namespace App

/-- The decoder, with its codec known by the type it was made for. -/
def DecoderThreads.view (threads : DecoderThreads) : VideoDecoder where
  codec := threads.codec.map MediaCodec.mime
  configuredCodec := threads.configuredCodec
  running := threads.running
  framesDecoded := threads.framesDecoded
  framesDropped := threads.framesDropped
  sawKeyframe := threads.sawKeyframe

/-- What others see of a section. -/
def ThreadObs.shown? : ThreadObs → Option DecoderObs
  | .shows obs => some obs
  | _ => none

/-- The call that begins with a section. -/
def ThreadObs.began? : ThreadObs → Option DecoderRequest
  | .began request => some request
  | _ => none

/-- The call that a step of `VideoDecoder` is. -/
def DecoderEvent.request : DecoderEvent → DecoderRequest
  | .start codecType _ => .start codecType
  | .stop => .stop
  | .submitNal nal _ => .submitNal nal

/-! ## What is left of a call -/

/-- What is left of `start` when it is about to make a codec. -/
def restOfMaking (decoder : VideoDecoder) (codecType : VideoCodec) :
    Option String → VideoDecoder × List DecoderObs
  | none =>
      ({ decoder with codec := some (mime codecType), running := true, sawKeyframe := false },
        [.started codecType])
  | some message =>
      ({ decoder with codec := none, running := false },
        [.error ("could not start the " ++ mime codecType ++ " decoder: " ++ message)])

/-- What is left of a call that is about to stop the decoder, or does. -/
def restOfStop (decoder : VideoDecoder) (error : Option String) :
    Option VideoCodec → VideoDecoder × List DecoderObs
  | none => (decoder.stop, [])
  | some codecType => decoder.start codecType error

/-- What is left of a synchronized call, with the exception of the codec's making. -/
def restOfCall (decoder : VideoDecoder) (error : Option String) :
    CallPoint → VideoDecoder × List DecoderObs
  | .idle => (decoder, [])
  | .stopCodec _ next => restOfStop decoder error next
  | .releaseCodec _ next => restOfStop decoder error next
  | .clearCodec next => restOfStop decoder error next
  | .clearRunning next => restOfStop decoder error next
  | .clearKeyframe next => restOfStop decoder error next
  | .setType codecType =>
      restOfMaking { decoder with configuredCodec := codecType } codecType error
  | .make codecType => restOfMaking decoder codecType error
  | .setCodec codec codecType =>
      ({ decoder with codec := some codec.mime, running := true, sawKeyframe := false },
        [.started codecType])
  | .setRunning codecType =>
      ({ decoder with running := true, sawKeyframe := false }, [.started codecType])
  | .started codecType => ({ decoder with sawKeyframe := false }, [.started codecType])
  | .failed => ({ decoder with codec := none, running := false }, [])

/-- What the `catch` block of `submitNal` makes of the `try` block. -/
def caught (fed : VideoDecoder × List DecoderObs × Option String) :
    VideoDecoder × List DecoderObs :=
  match fed.2.2 with
  | none => (fed.1, fed.2.1)
  | some message =>
      ({ fed.1 with running := false }, fed.2.1 ++ [.error ("the decoder failed: " ++ message)])

/-- What is left of `submitNal`, with the answers of the codec. -/
def restOfFeed (decoder : VideoDecoder) (answers : CodecAnswers) :
    FeedPoint → VideoDecoder × List DecoderObs
  | .idle => (decoder, [])
  | .taken _ nal =>
      if decoder.running = false then (decoder, [])
      else if decoder.sawKeyframe = false ∧ isKeyframe decoder.configuredCodec nal = false then
        (decoder, [])
      else caught ({ decoder with sawKeyframe := true }.feed nal answers)
  | .running _ nal =>
      if decoder.sawKeyframe = false ∧ isKeyframe decoder.configuredCodec nal = false then
        (decoder, [])
      else caught ({ decoder with sawKeyframe := true }.feed nal answers)
  | .waiting _ nal =>
      if isKeyframe decoder.configuredCodec nal = false then (decoder, [])
      else caught ({ decoder with sawKeyframe := true }.feed nal answers)
  | .keyframe _ nal => caught ({ decoder with sawKeyframe := true }.feed nal answers)
  | .input _ nal => caught (decoder.feed nal answers)
  | .buffer _ nal => caught (decoder.feed nal { answers with inputIndex := .ok 0 })
  | .queue _ (some nal) =>
      caught (decoder.feed nal
        { answers with inputIndex := .ok 0, remaining := .ok (some nal.length) })
  | .queue _ none =>
      match answers.queue with
      | .error message => caught (decoder, [], some message)
      | .ok () => (decoder, [.queuedEmpty])
  | .output _ => caught (decoder.drainOutput answers.outputIndices)
  | .render _ => caught (decoder.drainOutput answers.outputIndices)
  | .format _ => caught (decoder.drainOutput answers.outputIndices)
  | .failed _ => ({ decoder with running := false }, [])

/-! ## One section -/

section Sections

variable {threads : DecoderThreads}

/-- A section takes what is left of a call to the rest, and shows the difference. -/
def Advances (before : VideoDecoder × List DecoderObs) (emitted : List ThreadObs)
    (behind : VideoDecoder × List DecoderObs) : Prop :=
  before = (behind.1, emitted.filterMap ThreadObs.shown? ++ behind.2)

theorem Advances.silent {before behind : VideoDecoder × List DecoderObs} (same : before = behind) :
    Advances before [] behind :=
  same

/-- A section of `start` or `stop`. -/
theorem call_advances (phase : Phase threads) (answers : CallAnswers) (later : Option String) :
    ∃ error, Advances (restOfCall threads.view error threads.call) (threads.callStep answers).2
      (restOfCall (threads.callStep answers).1.view later (threads.callStep answers).1.call) := by
  rw [Phase] at phase
  rw [DecoderThreads.callStep]
  cases point : threads.call <;> rw [point] at phase <;> dsimp only at phase ⊢
  case idle =>
    rw [point]
    exact ⟨none, rfl⟩
  case stopCodec codec next => exact ⟨later, rfl⟩
  case releaseCodec codec next => exact ⟨later, rfl⟩
  case clearCodec next =>
    refine ⟨later, ?_⟩
    cases next <;> cases later <;> rfl
  case clearRunning next =>
    refine ⟨later, ?_⟩
    cases next <;> cases later <;> rfl
  case clearKeyframe next =>
    refine ⟨later, ?_⟩
    have gone : threads.view.codec = none := by rw [DecoderThreads.view, phase.1]; rfl
    cases next with
    | none =>
        rw [restOfCall, restOfStop, VideoDecoder.stop]
        simp [Advances, restOfCall, DecoderThreads.view, phase.1, phase.2]
    | some codecType =>
        cases later <;> simp [Advances, restOfCall, restOfStop, restOfMaking, VideoDecoder.start,
          VideoDecoder.stop, DecoderThreads.view]
  case setType codecType => exact ⟨later, rfl⟩
  case make codecType =>
    cases answers.making with
    | whole => exact ⟨none, rfl⟩
    | broken message => exact ⟨some message, rfl⟩
    | refused message => exact ⟨some message, rfl⟩
  case setCodec codec codecType => exact ⟨none, rfl⟩
  case setRunning codecType => exact ⟨none, rfl⟩
  case started codecType => exact ⟨none, rfl⟩
  case failed => exact ⟨none, rfl⟩

theorem caught_append (shown : List DecoderObs)
    (fed : VideoDecoder × List DecoderObs × Option String) :
    caught (fed.1, shown ++ fed.2.1, fed.2.2) = ((caught fed).1, shown ++ (caught fed).2) := by
  rw [caught, caught]
  cases fed.2.2 with
  | none => rfl
  | some message => exact congrArg (Prod.mk _) (List.append_assoc _ _ _)

/-- The codec throws, or the section goes on. -/
theorem onCodec_advances (codec : MediaCodec) (answers : FeedAnswers)
    (returns : DecoderThreads × List DecoderObs) (later : CodecAnswers)
    (before : CodecAnswers → VideoDecoder × List DecoderObs)
    (throws : ∀ message, ∃ earlier, before earlier = caught (threads.view, [], some message))
    (goesOn : ∃ earlier, before earlier =
      ((restOfFeed returns.1.view later returns.1.feed).1,
        returns.2 ++ (restOfFeed returns.1.view later returns.1.feed).2)) :
    ∃ earlier, Advances (before earlier) (threads.onCodec codec answers returns).2
      (restOfFeed (threads.onCodec codec answers returns).1.view later
        (threads.onCodec codec answers returns).1.feed) := by
  rw [DecoderThreads.onCodec]
  split
  · obtain ⟨earlier, same⟩ := goesOn
    refine ⟨earlier, ?_⟩
    have shown : (returns.2.map ThreadObs.shows).filterMap ThreadObs.shown? = returns.2 := by
      rw [List.filterMap_map]
      exact List.filterMap_some
    rw [Advances, List.filterMap_cons_none rfl, shown]
    exact same
  · rename_i message _
    obtain ⟨earlier, same⟩ := throws message
    exact ⟨earlier, same⟩

theorem drain_throws (decoder : VideoDecoder) (message : String) :
    ∃ earlier : CodecAnswers, caught (decoder.drainOutput earlier.outputIndices) =
      caught (decoder, [], some message) :=
  ⟨{ outputIndices := [.error message] }, rfl⟩

/-- A section of `submitNal`, at one of its points. -/
def FeedAdvances (threads : DecoderThreads) (point : FeedPoint)
    (behind : DecoderThreads × List ThreadObs) (later : CodecAnswers) : Prop :=
  ∃ earlier, Advances (restOfFeed threads.view earlier point) behind.2
    (restOfFeed behind.1.view later behind.1.feed)

section Feed

variable (answers : FeedAnswers) (later : CodecAnswers) (codec : MediaCodec) (nal : List Byte)

theorem taken_advances (point : threads.feed = .taken codec nal) :
    FeedAdvances threads (.taken codec nal) (threads.feedStep answers) later := by
  rw [DecoderThreads.feedStep, point]
  refine ⟨later, .silent ?_⟩
  by_cases running : threads.running = true
  · rw [restOfFeed, if_neg (by simp [DecoderThreads.view, running])]
    simp only [if_pos running]
    rfl
  · rw [restOfFeed, if_pos (by simpa [DecoderThreads.view] using running)]
    simp only [if_neg running]
    rfl

theorem running_advances (point : threads.feed = .running codec nal) :
    FeedAdvances threads (.running codec nal) (threads.feedStep answers) later := by
  rw [DecoderThreads.feedStep, point]
  refine ⟨later, .silent ?_⟩
  by_cases saw : threads.sawKeyframe = true
  · have seen : { threads.view with sawKeyframe := true } = threads.view := by
      simp [DecoderThreads.view, saw]
    rw [restOfFeed, if_neg (by simp [DecoderThreads.view, saw]), seen]
    simp only [if_pos saw]
    rfl
  · have unseen : threads.view.sawKeyframe = false := by simpa [DecoderThreads.view] using saw
    simp only [if_neg saw, restOfFeed]
    by_cases opens : isKeyframe threads.configuredCodec nal = false
    · rw [if_pos ⟨unseen, opens⟩]
      exact (if_pos opens).symm
    · rw [if_neg (fun both => opens both.2)]
      exact (if_neg opens).symm

theorem waiting_advances (point : threads.feed = .waiting codec nal) :
    FeedAdvances threads (.waiting codec nal) (threads.feedStep answers) later := by
  rw [DecoderThreads.feedStep, point]
  refine ⟨later, .silent ?_⟩
  by_cases opens : isKeyframe threads.configuredCodec nal = true
  · rw [restOfFeed, if_neg (by simp [DecoderThreads.view, opens])]
    simp only [if_pos opens]
    rfl
  · rw [restOfFeed, if_pos (by simpa [DecoderThreads.view] using opens)]
    simp only [if_neg opens]
    rfl

theorem input_advances (point : threads.feed = .input codec nal) :
    FeedAdvances threads (.input codec nal) (threads.feedStep answers) later := by
  rw [DecoderThreads.feedStep, point]
  refine onCodec_advances codec answers _ later
    (fun earlier => restOfFeed threads.view earlier (.input codec nal))
    (fun message => ⟨{ inputIndex := .error message }, rfl⟩)
    ⟨{ later with inputIndex := .ok answers.index }, ?_⟩
  rw [restOfFeed, VideoDecoder.feed]
  by_cases negative : answers.index < 0
  · simp only [if_pos negative]
    rfl
  · simp only [if_neg negative]
    rfl

theorem buffer_advances (point : threads.feed = .buffer codec nal) :
    FeedAdvances threads (.buffer codec nal) (threads.feedStep answers) later := by
  rw [DecoderThreads.feedStep, point]
  refine onCodec_advances codec answers _ later
    (fun earlier => restOfFeed threads.view earlier (.buffer codec nal))
    (fun message => ⟨{ remaining := .error message }, rfl⟩)
    ⟨{ later with remaining := .ok answers.remaining }, ?_⟩
  cases answers.remaining with
  | none => rfl
  | some remaining =>
      simp only [restOfFeed, VideoDecoder.feed]
      by_cases short : remaining < nal.length
      · simp only [if_pos short]
        cases later.queue <;> rfl
      · simp only [if_neg short, if_neg (lt_irrefl _)]
        rfl

theorem queueEmpty_advances (point : threads.feed = .queue codec none) :
    FeedAdvances threads (.queue codec none) (threads.feedStep answers) later := by
  rw [DecoderThreads.feedStep, point]
  exact onCodec_advances codec answers _ later
    (fun earlier => restOfFeed threads.view earlier (.queue codec none))
    (fun message => ⟨{ queue := .error message }, rfl⟩)
    ⟨{ later with queue := .ok () }, rfl⟩

theorem queue_advances (point : threads.feed = .queue codec (some nal)) :
    FeedAdvances threads (.queue codec (some nal)) (threads.feedStep answers) later := by
  rw [DecoderThreads.feedStep, point]
  refine onCodec_advances codec answers _ later
    (fun earlier => restOfFeed threads.view earlier (.queue codec (some nal)))
    (fun message => ⟨{ queue := .error message }, ?_⟩)
    ⟨{ later with queue := .ok () }, ?_⟩
  · simp only [restOfFeed, VideoDecoder.feed, if_neg (lt_irrefl _)]
    rfl
  · simp only [restOfFeed, VideoDecoder.feed, if_neg (lt_irrefl _)]
    exact caught_append [_] (threads.view.drainOutput later.outputIndices)

theorem output_advances (point : threads.feed = .output codec) :
    FeedAdvances threads (.output codec) (threads.feedStep answers) later := by
  rw [DecoderThreads.feedStep, point]
  refine onCodec_advances codec answers _ later
    (fun earlier => restOfFeed threads.view earlier (.output codec))
    (drain_throws threads.view) ?_
  by_cases filled : answers.index ≥ 0
  · simp only [if_pos filled]
    exact ⟨later, rfl⟩
  · by_cases changed : answers.index = infoOutputFormatChanged
    · simp only [if_neg filled, if_pos changed]
      exact ⟨later, rfl⟩
    · simp only [if_neg filled, if_neg changed]
      exact ⟨{ outputIndices := [] }, rfl⟩

theorem render_advances (point : threads.feed = .render codec) :
    FeedAdvances threads (.render codec) (threads.feedStep answers) later := by
  rw [DecoderThreads.feedStep, point]
  refine onCodec_advances codec answers _ later
    (fun earlier => restOfFeed threads.view earlier (.render codec))
    (drain_throws threads.view) ⟨{ outputIndices := .ok 0 :: later.outputIndices }, ?_⟩
  have shown : (0 : Int32) ≥ 0 := by decide
  simp only [restOfFeed, VideoDecoder.drainOutput, if_pos shown]
  exact caught_append _ ({ threads.view with
    framesDecoded := threads.framesDecoded + 1 }.drainOutput later.outputIndices)

theorem format_advances (point : threads.feed = .format codec) :
    FeedAdvances threads (.format codec) (threads.feedStep answers) later := by
  rw [DecoderThreads.feedStep, point]
  exact onCodec_advances codec answers _ later
    (fun earlier => restOfFeed threads.view earlier (.format codec))
    (drain_throws threads.view) ⟨later, rfl⟩

/-- A section of `submitNal`. -/
theorem feed_advances :
    FeedAdvances threads threads.feed (threads.feedStep answers) later := by
  cases point : threads.feed with
  | idle =>
      rw [DecoderThreads.feedStep, point]
      exact ⟨later, by rw [point]; rfl⟩
  | taken codec nal => exact taken_advances answers later codec nal point
  | running codec nal => exact running_advances answers later codec nal point
  | waiting codec nal => exact waiting_advances answers later codec nal point
  | keyframe codec nal =>
      rw [DecoderThreads.feedStep, point]
      exact ⟨later, rfl⟩
  | input codec nal => exact input_advances answers later codec nal point
  | buffer codec nal => exact buffer_advances answers later codec nal point
  | queue codec nal =>
      cases nal with
      | none => exact queueEmpty_advances answers later codec point
      | some nal => exact queue_advances answers later codec nal point
  | output codec => exact output_advances answers later codec point
  | render codec => exact render_advances answers later codec point
  | format codec => exact format_advances answers later codec point
  | failed codec =>
      rw [DecoderThreads.feedStep, point]
      exact ⟨later, rfl⟩

end Feed

end Sections

/-! ## Runs -/

/-- A thread goes on only while the other one is in no call. -/
def OneCall (threads : DecoderThreads) (_ : List ThreadObs) : ThreadEvent → Prop
  | .begin (.submitNal _) => threads.call = .idle
  | .begin _ => threads.feed = .idle
  | .call _ => threads.feed = .idle
  | .feed _ => threads.call = .idle

instance decidableOneCall (threads : DecoderThreads) (trace : List ThreadObs) :
    ∀ event, Decidable (OneCall threads trace event)
  | .begin (.start _) => inferInstanceAs (Decidable (threads.feed = .idle))
  | .begin .stop => inferInstanceAs (Decidable (threads.feed = .idle))
  | .begin (.submitNal _) => inferInstanceAs (Decidable (threads.call = .idle))
  | .call _ => inferInstanceAs (Decidable (threads.feed = .idle))
  | .feed _ => inferInstanceAs (Decidable (threads.call = .idle))

/-- The calls that have begun, done as a whole, lead to this decoder and show these outputs. -/
def Whole (trace : List ThreadObs) (rest : VideoDecoder × List DecoderObs) : Prop :=
  ∃ calls : List DecoderEvent,
    calls.map DecoderEvent.request = trace.filterMap ThreadObs.began? ∧
      VideoDecoder.machine.run {} calls =
        (rest.1, trace.filterMap ThreadObs.shown? ++ rest.2)

/-- A run of sections follows a run of calls: with what is left of the call that is under way, the
sections do what the calls do. -/
inductive Follows (threads : DecoderThreads) (trace : List ThreadObs) : Prop where
  | call (idle : threads.feed = .idle)
      (rest : ∀ error, Whole trace (restOfCall threads.view error threads.call))
  | feed (idle : threads.call = .idle)
      (rest : ∀ answers, Whole trace (restOfFeed threads.view answers threads.feed))

section Runs

variable {threads : DecoderThreads} {trace : List ThreadObs}

/-- Between the calls the decoder is that of the whole calls. -/
theorem Follows.between (follows : Follows threads trace) (call : threads.call = .idle)
    (feed : threads.feed = .idle) : Whole trace (threads.view, []) := by
  cases follows with
  | call _ rest =>
      have whole := rest none
      rwa [call] at whole
  | feed _ rest =>
      have whole := rest {}
      rwa [feed] at whole

theorem Whole.advances {before behind : VideoDecoder × List DecoderObs} {emitted : List ThreadObs}
    (whole : Whole trace before) (advances : Advances before emitted behind)
    (began : emitted.filterMap ThreadObs.began? = []) : Whole (trace ++ emitted) behind := by
  obtain ⟨calls, requests, run⟩ := whole
  refine ⟨calls, ?_, ?_⟩
  · rw [requests, List.filterMap_append, began, List.append_nil]
  · rw [run, advances, List.filterMap_append, List.append_assoc]

/-- A call begins. -/
theorem Whole.begins (whole : Whole trace (threads.view, [])) (event : DecoderEvent)
    {rest : VideoDecoder × List DecoderObs}
    (step : VideoDecoder.machine.step threads.view event = rest) :
    Whole (trace ++ [.began event.request]) rest := by
  obtain ⟨calls, requests, run⟩ := whole
  refine ⟨calls ++ [event], ?_, ?_⟩
  · rw [List.map_append, requests, List.filterMap_append]
    rfl
  · have silent : [ThreadObs.began event.request].filterMap ThreadObs.shown? = [] := rfl
    rw [Mealy.run_append, run, Mealy.run_singleton, step, List.filterMap_append, silent,
      List.append_nil]

theorem began_callStep (answers : CallAnswers) :
    (threads.callStep answers).2.filterMap ThreadObs.began? = [] := by
  rw [DecoderThreads.callStep]
  cases threads.call with
  | make codecType => cases answers.making <;> rfl
  | _ => rfl

theorem began_feedStep (answers : FeedAnswers) :
    (threads.feedStep answers).2.filterMap ThreadObs.began? = [] := by
  obtain ⟨-, move⟩ := @feedStep_cases threads answers
  generalize (threads.feedStep answers).2 = emitted at move
  cases move with
  | goes _ _ _ _ _ emits =>
      refine List.filterMap_eq_nil_iff.mpr fun obs among => ?_
      obtain ⟨shown, rfl⟩ | ⟨codec, rfl, -⟩ := emits obs among <;> rfl
  | throws _ _ _ => rfl
  | halts _ _ _ => rfl

/-- A call of `submitNal` is what is left of it where it begins. -/
theorem submitNal_eq (nal : List Byte) (answers : CodecAnswers) :
    threads.view.submitNal nal answers =
      restOfFeed threads.view answers (threads.codec.elim .idle (.taken · nal)) := by
  rw [VideoDecoder.submitNal]
  cases current : threads.codec with
  | none => exact if_pos (by simp [DecoderThreads.view, current])
  | some codec => exact if_neg (by simp [DecoderThreads.view, current])

/-- **One section.** -/
theorem follows_step (phase : Phase threads) (follows : Follows threads trace) {event : ThreadEvent}
    (apart : OneCall threads trace event) :
    Follows (decoderThreads.step threads event).1
      (trace ++ (decoderThreads.step threads event).2) := by
  have unchanged : Follows threads (trace ++ []) := by rwa [List.append_nil]
  cases event with
  | begin request =>
      cases request with
      | start codecType =>
          change Follows (threads.begin _).1 (trace ++ (threads.begin _).2)
          rw [DecoderThreads.begin]
          split
          · exact unchanged
          · rename_i idle
            have whole := follows.between (not_not.mp idle) apart
            refine .call apart fun error => whole.begins (.start codecType error) ?_
            cases threads.codec <;> rfl
      | stop =>
          change Follows (threads.begin _).1 (trace ++ (threads.begin _).2)
          rw [DecoderThreads.begin]
          split
          · exact unchanged
          · rename_i idle
            have whole := follows.between (not_not.mp idle) apart
            refine .call apart fun error => whole.begins .stop ?_
            cases threads.codec <;> rfl
      | submitNal nal =>
          change Follows (threads.begin _).1 (trace ++ (threads.begin _).2)
          rw [DecoderThreads.begin]
          split
          · exact unchanged
          · rename_i idle
            have whole := follows.between apart (not_not.mp idle)
            exact .feed apart fun answers =>
              whole.begins (.submitNal nal answers) (submitNal_eq nal answers)
  | call answers =>
      have idle : threads.feed = .idle := apart
      have same : (threads.callStep answers).1.feed = threads.feed := by
        rw [DecoderThreads.callStep]
        cases threads.call with
        | make codecType => cases answers.making <;> rfl
        | _ => rfl
      refine .call (same.trans idle) fun later => ?_
      obtain ⟨error, advances⟩ := call_advances phase answers later
      refine Whole.advances ?_ advances (began_callStep answers)
      have between := fun call => follows.between call idle
      cases follows with
      | call _ rest => exact rest error
      | feed call _ =>
          rw [call]
          exact between call
  | feed answers =>
      have idle : threads.call = .idle := apart
      obtain ⟨alongside, -⟩ := @feedStep_cases threads answers
      refine .feed (alongside.call.trans idle) fun later => ?_
      obtain ⟨earlier, advances⟩ := feed_advances answers later
      refine Whole.advances ?_ advances (began_feedStep answers)
      have between := follows.between idle
      cases follows with
      | call feed _ =>
          rw [feed]
          exact between feed
      | feed _ rest => exact rest earlier

end Runs

/-- **Calls that do not overlap.** Let each thread go on only while the other one is in no call.
Between the calls the run of the sections is a run of whole calls: the same calls in the same order,
the same outputs, and the same decoder. -/
theorem calls_apart {events : List ThreadEvent}
    (apart : decoderThreads.EveryStep OneCall {} events)
    (call : (decoderThreads.after {} events).call = .idle)
    (feed : (decoderThreads.after {} events).feed = .idle) :
    ∃ calls : List DecoderEvent,
      calls.map DecoderEvent.request =
          (decoderThreads.outputs {} events).filterMap ThreadObs.began? ∧
        VideoDecoder.machine.after {} calls = (decoderThreads.after {} events).view ∧
        VideoDecoder.machine.outputs {} calls =
          (decoderThreads.outputs {} events).filterMap ThreadObs.shown? := by
  have start : Phase {} ∧ Follows {} [] := by
    refine ⟨fun _ => rfl, .call rfl fun error => ⟨[], rfl, rfl⟩⟩
  obtain ⟨-, follows⟩ := Mealy.invariant_of_everyStep
    (fun threads trace => Phase threads ∧ Follows threads trace) start
    (fun _ _ event kept met =>
      ⟨(step_codecs kept.1 event).1, follows_step kept.1 kept.2 met⟩) apart
  obtain ⟨calls, requests, run⟩ := follows.between call feed
  rw [List.append_nil] at run
  exact ⟨calls, requests, congrArg Prod.fst run, congrArg Prod.snd run⟩

/-- A decoder is started and given a keyframe, and its codec throws at the next NAL. -/
def fedApart : List ThreadEvent :=
  .begin (.start .h264) :: List.replicate 8 (.call {}) ++
    .begin (.submitNal [0, 0, 0, 1, 0x65]) :: List.replicate 9 (.feed {}) ++
      [.feed { index := -1 }, .begin (.submitNal [0, 0, 0, 1, 0x41]), .feed {}, .feed {},
        .feed { throws := some "stalled" }, .feed {}]

theorem calls_apart_fed :
    ∃ calls : List DecoderEvent,
      calls.map DecoderEvent.request =
          [.start .h264, .submitNal [0, 0, 0, 1, 0x65], .submitNal [0, 0, 0, 1, 0x41]] ∧
        VideoDecoder.machine.outputs {} calls =
          [.started .h264, .queued .h264 [0, 0, 0, 1, 0x65], .firstFrame,
            .error "the decoder failed: stalled"] := by
  have apart : decoderThreads.EveryStep OneCall {} fedApart := by decide +kernel
  obtain ⟨calls, requests, -, shown⟩ := calls_apart apart (by decide +kernel) (by decide +kernel)
  refine ⟨calls, requests.trans ?_, shown.trans ?_⟩
  · decide +kernel
  · decide +kernel

end App

end MobileGs

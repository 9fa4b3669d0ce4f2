import MobileGs.App.Settings
import MobileGs.Foundations.LittleEndian
import MobileGs.Foundations.Mealy

/-!
# The video decoder

`VideoDecoder` feeds NAL units to a `MediaCodec`. From `start` on it waits for a keyframe or a
parameter set: until the first one comes, `submitNal` returns at once, and `sawKeyframe` says that
it came. But it is set before the codec is asked for an input buffer. Where there is none, or it is
too small, the keyframe is dropped with the latch open, and any NAL may be the first to be fed
(`fed_midGop`).

So the first NAL fed behind a `start` is a keyframe exactly where a NAL that finds the latch open
and nothing fed is one (`keyframeFirst_iff`). It is if every NAL that opens the latch is queued.

The answers of the codec are part of the events. An exception it throws is known by its message.
-/

set_option autoImplicit false

namespace MobileGs

namespace App

/-! ## Keyframes -/

/-- Where the NAL header is, behind an Annex-B start code if there is one. -/
def headerOffset (nal : List Byte) : Option ℕ :=
  if nal.getD 0 0 = 0 ∧ nal.getD 1 0 = 0 then
    if nal.getD 2 0 = 1 then some 3
    else if nal.length > 4 ∧ nal.getD 2 0 = 0 ∧ nal.getD 3 0 = 1 then some 4
    else none
  else some 0

/-- The part of `isKeyframe` that looks at the first byte behind the start code. -/
def keyframeHeader (configuredCodec : VideoCodec) (first : Byte) : Bool :=
  match configuredCodec with
  | .h265 =>
      let type := (first >>> 1) &&& 0x3f
      (16 ≤ type && type ≤ 21) || type == 32 || type == 33 || type == 34
  | _ =>
      let type := first &&& 0x1f
      type == 5 || type == 7 || type == 8

/-- `isKeyframe`. -/
def isKeyframe (configuredCodec : VideoCodec) (nal : List Byte) : Bool :=
  if nal.length < 5 then false
  else
    match headerOffset nal with
    | none => false
    | some offset =>
        if offset ≥ nal.length then false
        else keyframeHeader configuredCodec (nal.getD offset 0)

theorem ne_nil_of_isKeyframe {configuredCodec : VideoCodec} {nal : List Byte}
    (keyframe : isKeyframe configuredCodec nal = true) : nal ≠ [] := by
  rintro rfl
  cases keyframe

/-! ## The decoder -/

/-- `VideoDecoder`. The codec is known by the type it was made for. -/
structure VideoDecoder where
  codec : Option String := none
  configuredCodec : VideoCodec := .auto
  running : Bool := false
  framesDecoded : ℕ := 0
  framesDropped : ℕ := 0
  sawKeyframe : Bool := false

/-- What a run does: it starts a codec, hands it a NAL or gives an input buffer back empty, and
calls `onFirstFrame` and `onError`. A NAL comes with the codec it is fed to. -/
inductive DecoderObs where
  | started (codecType : VideoCodec)
  | queued (codecType : VideoCodec) (nal : List Byte)
  | queuedEmpty
  | firstFrame
  | error (text : String)
  deriving DecidableEq

/-- What the codec answers to a `submitNal`: the index of an input buffer, how much fits into the
buffer, if there is one, whether it can be queued, and the indices of the output buffers. -/
structure CodecAnswers where
  inputIndex : Except String Int32 := .ok 0
  remaining : Except String (Option ℕ) := .ok (some 65536)
  queue : Except String Unit := .ok ()
  outputIndices : List (Except String Int32) := []

inductive DecoderEvent where
  | start (codecType : VideoCodec) (error : Option String)
  | stop
  | submitNal (nal : List Byte) (answers : CodecAnswers)

def infoOutputFormatChanged : Int32 := -2

/-- The type `start` makes a decoder for. -/
def mime : VideoCodec → String
  | .h265 => "video/hevc"
  | _ => "video/avc"

namespace VideoDecoder

variable (decoder : VideoDecoder)

/-- `stop`. -/
def stop : VideoDecoder := { decoder with codec := none, running := false, sawKeyframe := false }

/-- `start`, with the exception of the codec's making, if there is one. -/
def start (codecType : VideoCodec) (error : Option String) : VideoDecoder × List DecoderObs :=
  let stopped := { decoder.stop with configuredCodec := codecType }
  match error with
  | none =>
      ({ stopped with codec := some (mime codecType), running := true, sawKeyframe := false },
        [.started codecType])
  | some message =>
      ({ stopped with codec := none, running := false },
        [.error ("could not start the " ++ mime codecType ++ " decoder: " ++ message)])

/-- `drainOutput`, with the exception that ends it, if there is one. -/
def drainOutput (decoder : VideoDecoder) :
    List (Except String Int32) → VideoDecoder × List DecoderObs × Option String
  | [] => (decoder, [], none)
  | .error message :: _ => (decoder, [], some message)
  | .ok index :: rest =>
      if index ≥ 0 then
        let framesDecoded := decoder.framesDecoded + 1
        let drained := drainOutput { decoder with framesDecoded } rest
        (drained.1, (if framesDecoded = 1 then [.firstFrame] else []) ++ drained.2.1, drained.2.2)
      else if index = infoOutputFormatChanged then drainOutput decoder rest
      else (decoder, [], none)

/-- The `try` block of `submitNal`, with the exception that ends it, if there is one. -/
def feed (nal : List Byte) (answers : CodecAnswers) :
    VideoDecoder × List DecoderObs × Option String :=
  let dropped := { decoder with framesDropped := decoder.framesDropped + 1 }
  match answers.inputIndex with
  | .error message => (decoder, [], some message)
  | .ok inputIndex =>
      if inputIndex < 0 then (dropped, [], none)
      else
        match answers.remaining with
        | .error message => (decoder, [], some message)
        | .ok none => (decoder, [], none)
        | .ok (some remaining) =>
            if remaining < nal.length then
              match answers.queue with
              | .error message => (dropped, [], some message)
              | .ok () => (dropped, [.queuedEmpty], none)
            else
              match answers.queue with
              | .error message => (decoder, [], some message)
              | .ok () =>
                  let drained := decoder.drainOutput answers.outputIndices
                  (drained.1, .queued decoder.configuredCodec nal :: drained.2.1, drained.2.2)

/-- `submitNal`. -/
def submitNal (nal : List Byte) (answers : CodecAnswers) : VideoDecoder × List DecoderObs :=
  if decoder.codec.isNone then (decoder, [])
  else if decoder.running = false then (decoder, [])
  else if decoder.sawKeyframe = false ∧ isKeyframe decoder.configuredCodec nal = false then
    (decoder, [])
  else
    let fed := { decoder with sawKeyframe := true }.feed nal answers
    match fed.2.2 with
    | none => (fed.1, fed.2.1)
    | some message =>
        ({ fed.1 with running := false },
          fed.2.1 ++ [.error ("the decoder failed: " ++ message)])

/-- The decoder as a machine. -/
def machine : Mealy VideoDecoder DecoderEvent DecoderObs where
  step decoder
    | .start codecType error => decoder.start codecType error
    | .stop => (decoder.stop, [])
    | .submitNal nal answers => decoder.submitNal nal answers

end VideoDecoder

/-! ## What is fed -/

/-- The output starts no codec and hands it no NAL. -/
def Aside : DecoderObs → Prop
  | .started _ => False
  | .queued _ _ => False
  | _ => True

/-- Data has been queued since the latest start, seen from one output to the next. -/
def see (fed : Bool) : DecoderObs → Bool
  | .started _ => false
  | .queued _ nal => fed || !nal.isEmpty
  | _ => fed

/-- Data has been queued since the latest start. -/
def fedIn (emitted : List DecoderObs) : Bool := emitted.foldl see false

theorem fedIn_append_aside (emitted : List DecoderObs) {more : List DecoderObs}
    (aside : ∀ obs ∈ more, Aside obs) : fedIn (emitted ++ more) = fedIn emitted := by
  induction more using List.reverseRecOn with
  | nil => rw [List.append_nil]
  | append_singleton more obs ih =>
      have front := ih fun other among => aside other (List.mem_append_left _ among)
      have last := aside obs (List.mem_append_right _ List.mem_cons_self)
      rw [← List.append_assoc, fedIn, List.foldl_concat]
      cases obs with
      | started _ => exact last.elim
      | queued _ _ => exact last.elim
      | queuedEmpty => exact front
      | firstFrame => exact front
      | error _ => exact front

theorem fedIn_queued (emitted : List DecoderObs) (codecType : VideoCodec) (nal : List Byte)
    {more : List DecoderObs} (aside : ∀ obs ∈ more, Aside obs) :
    fedIn (emitted ++ .queued codecType nal :: more) = (fedIn emitted || !nal.isEmpty) := by
  rw [List.append_cons, fedIn_append_aside _ aside, fedIn, List.foldl_concat]
  rfl

/-- The first NAL queued with data behind each start is a keyframe or a parameter set. -/
def KeyframeFirst (emitted : List DecoderObs) : Prop :=
  ∀ earlier codecType nal later, emitted = earlier ++ .queued codecType nal :: later →
    nal ≠ [] → fedIn earlier = false → isKeyframe codecType nal = true

/-- The codec takes a NAL: it has an input buffer for it, and it can be queued. -/
structure CodecAnswers.Takes (answers : CodecAnswers) (nal : List Byte) : Prop where
  inputIndex : ∃ inputIndex, answers.inputIndex = .ok inputIndex ∧ 0 ≤ inputIndex
  remaining : ∃ remaining, answers.remaining = .ok (some remaining) ∧ nal.length ≤ remaining
  queue : answers.queue = .ok ()

namespace VideoDecoder

variable (decoder : VideoDecoder)

/-- Draining the output leaves the input alone. -/
theorem drainOutput_keeps (indices : List (Except String Int32)) :
    (∃ framesDecoded, (decoder.drainOutput indices).1 = { decoder with framesDecoded }) ∧
      ∀ obs ∈ (decoder.drainOutput indices).2.1, Aside obs := by
  induction indices generalizing decoder with
  | nil => exact ⟨⟨_, rfl⟩, List.forall_mem_nil _⟩
  | cons index rest ih =>
      cases index with
      | error message => exact ⟨⟨_, rfl⟩, List.forall_mem_nil _⟩
      | ok index =>
          rw [drainOutput]
          split
          · obtain ⟨⟨framesDecoded, same⟩, aside⟩ :=
              ih { decoder with framesDecoded := decoder.framesDecoded + 1 }
            refine ⟨⟨framesDecoded, same⟩, fun obs among => ?_⟩
            rcases List.mem_append.mp among with first | later
            · split at first
              · rw [List.mem_singleton.mp first]
                trivial
              · cases first
            · exact aside obs later
          · split
            · exact ih decoder
            · exact ⟨⟨_, rfl⟩, List.forall_mem_nil _⟩

/-- The `try` block moves the counters, and it feeds the NAL exactly when the codec takes it. -/
theorem feed_cases (nal : List Byte) (answers : CodecAnswers) :
    (∃ framesDecoded framesDropped,
        (decoder.feed nal answers).1 = { decoder with framesDecoded, framesDropped }) ∧
      ((answers.Takes nal ∧ ∃ more,
          (decoder.feed nal answers).2.1 = .queued decoder.configuredCodec nal :: more ∧
            ∀ obs ∈ more, Aside obs) ∨
        (¬ answers.Takes nal ∧ ∀ obs ∈ (decoder.feed nal answers).2.1, Aside obs)) := by
  rw [feed]
  cases index : answers.inputIndex with
  | error message =>
      refine ⟨⟨_, _, rfl⟩, .inr ⟨?_, List.forall_mem_nil _⟩⟩
      rintro ⟨⟨_, ok, -⟩, -, -⟩
      cases index.symm.trans ok
  | ok inputIndex =>
      dsimp only
      split
      · rename_i negative
        refine ⟨⟨_, _, rfl⟩, .inr ⟨?_, List.forall_mem_nil _⟩⟩
        rintro ⟨⟨_, ok, nonneg⟩, -, -⟩
        cases index.symm.trans ok
        exact Int32.not_le.mpr negative nonneg
      · rename_i nonneg
        cases buffer : answers.remaining with
        | error message =>
            refine ⟨⟨_, _, rfl⟩, .inr ⟨?_, List.forall_mem_nil _⟩⟩
            rintro ⟨-, ⟨_, ok, -⟩, -⟩
            cases buffer.symm.trans ok
        | ok found =>
            cases found with
            | none =>
                refine ⟨⟨_, _, rfl⟩, .inr ⟨?_, List.forall_mem_nil _⟩⟩
                rintro ⟨-, ⟨_, ok, -⟩, -⟩
                cases buffer.symm.trans ok
            | some remaining =>
                dsimp only
                split
                · rename_i small
                  have refuses : ¬ answers.Takes nal := by
                    rintro ⟨-, ⟨_, ok, fits⟩, -⟩
                    cases buffer.symm.trans ok
                    exact Nat.not_le.mpr small fits
                  cases answers.queue with
                  | error message =>
                      exact ⟨⟨_, _, rfl⟩,
                        .inr ⟨refuses, List.forall_mem_nil _⟩⟩
                  | ok _ =>
                      refine ⟨⟨_, _, rfl⟩, .inr ⟨refuses, fun obs among => ?_⟩⟩
                      rw [List.mem_singleton.mp among]
                      trivial
                · rename_i fits
                  cases queue : answers.queue with
                  | error message =>
                      refine ⟨⟨_, _, rfl⟩,
                        .inr ⟨?_, List.forall_mem_nil _⟩⟩
                      rintro ⟨-, -, ok⟩
                      cases queue.symm.trans ok
                  | ok _ =>
                      obtain ⟨⟨framesDecoded, same⟩, aside⟩ :=
                        decoder.drainOutput_keeps answers.outputIndices
                      exact ⟨⟨framesDecoded, _, same⟩,
                        .inl ⟨⟨⟨_, index, Int32.not_lt.mp nonneg⟩,
                          ⟨_, buffer, Nat.not_lt.mp fits⟩, queue⟩, _, rfl, aside⟩⟩

/-- A call of `submitNal` goes past the latch. -/
structure Passes (nal : List Byte) : Prop where
  codec : decoder.codec.isSome = true
  running : decoder.running = true
  latch : decoder.sawKeyframe = true ∨ isKeyframe decoder.configuredCodec nal = true

theorem submitNal_of_not_passes {nal : List Byte} (passes : ¬ decoder.Passes nal)
    (answers : CodecAnswers) : decoder.submitNal nal answers = (decoder, []) := by
  rw [submitNal]
  split
  · rfl
  · rename_i codec
    split
    · rfl
    · rename_i running
      split
      · rfl
      · rename_i latch
        refine absurd ⟨?_, ?_, ?_⟩ passes
        · exact Option.isSome_iff_ne_none.mpr fun none => codec (by rw [none]; rfl)
        · exact Bool.eq_true_of_not_eq_false running
        · exact (not_and_or.mp latch).imp Bool.eq_true_of_not_eq_false Bool.eq_true_of_not_eq_false

theorem submitNal_of_passes {nal : List Byte} (passes : decoder.Passes nal)
    (answers : CodecAnswers) :
    let fed := { decoder with sawKeyframe := true }.feed nal answers
    decoder.submitNal nal answers =
      match fed.2.2 with
      | none => (fed.1, fed.2.1)
      | some message =>
          ({ fed.1 with running := false },
            fed.2.1 ++ [.error ("the decoder failed: " ++ message)]) := by
  obtain ⟨codec, running, latch⟩ := passes
  have made : ¬ decoder.codec.isNone = true := by
    rw [Option.isNone_iff_eq_none]
    exact Option.isSome_iff_ne_none.mp codec
  have waits : ¬ (decoder.sawKeyframe = false ∧
      isKeyframe decoder.configuredCodec nal = false) := by
    rintro ⟨shut, other⟩
    rcases latch with saw | keyframe
    · exact absurd (shut.symm.trans saw) Bool.false_ne_true
    · exact absurd (other.symm.trans keyframe) Bool.false_ne_true
  rw [submitNal, if_neg made, if_neg (Bool.not_eq_false _ ▸ running), if_neg waits]

/-- **What `submitNal` does** past the latch: it opens it, and it feeds the NAL exactly when the
codec takes it. -/
theorem submitNal_cases {nal : List Byte} (passes : decoder.Passes nal) (answers : CodecAnswers) :
    (decoder.submitNal nal answers).1.codec = decoder.codec ∧
      (decoder.submitNal nal answers).1.sawKeyframe = true ∧
      ((answers.Takes nal ∧ ∃ more,
          (decoder.submitNal nal answers).2 = .queued decoder.configuredCodec nal :: more ∧
            ∀ obs ∈ more, Aside obs) ∨
        (¬ answers.Takes nal ∧ ∀ obs ∈ (decoder.submitNal nal answers).2, Aside obs)) := by
  obtain ⟨⟨framesDecoded, framesDropped, same⟩, took⟩ :=
    { decoder with sawKeyframe := true }.feed_cases nal answers
  rw [decoder.submitNal_of_passes passes]
  cases ({ decoder with sawKeyframe := true }.feed nal answers).2.2 with
  | none => exact ⟨by rw [same], by rw [same], took⟩
  | some message =>
      refine ⟨by rw [same], by rw [same], ?_⟩
      have told : ∀ {more : List DecoderObs}, (∀ obs ∈ more, Aside obs) →
          ∀ obs ∈ more ++ [.error ("the decoder failed: " ++ message)], Aside obs := by
        intro more aside obs among
        rcases List.mem_append.mp among with earlier | last
        · exact aside obs earlier
        · rw [List.mem_singleton.mp last]
          trivial
      rcases took with ⟨takes, more, queued, aside⟩ | ⟨refuses, aside⟩
      · refine .inl ⟨takes, _, ?_, told aside⟩
        rw [queued]
        rfl
      · exact .inr ⟨refuses, told aside⟩

end VideoDecoder

/-! ## Runs -/

/-- Nothing more is queued. -/
theorem KeyframeFirst.append {emitted more : List DecoderObs} (first : KeyframeFirst emitted)
    (others : ∀ codecType nal, DecoderObs.queued codecType nal ∉ more) :
    KeyframeFirst (emitted ++ more) := by
  intro earlier codecType nal later split
  rcases Mealy.split_append split with ⟨front, inside, -⟩ | ⟨gone, -, inside⟩
  · exact first earlier codecType nal front inside
  · exact absurd (by rw [inside]; simp) (others codecType nal)

/-- One more NAL is queued. -/
theorem KeyframeFirst.queued {emitted : List DecoderObs} (first : KeyframeFirst emitted)
    {codecType : VideoCodec} {nal : List Byte}
    (keyframe : nal ≠ [] → fedIn emitted = false → isKeyframe codecType nal = true) :
    KeyframeFirst (emitted ++ [.queued codecType nal]) := by
  intro earlier codecType' nal' later split
  rcases Mealy.split_concat split with ⟨rfl, same⟩ | ⟨front, inside⟩
  · cases same
    exact keyframe
  · exact first earlier codecType' nal' front inside

/-- A NAL that finds the latch open, nothing queued since the start and room in the codec is a
keyframe. -/
def Resumes (decoder : VideoDecoder) (emitted : List DecoderObs) (event : DecoderEvent) : Prop :=
  ∀ nal answers, event = .submitNal nal answers → decoder.codec.isSome = true →
    decoder.running = true → decoder.sawKeyframe = true → fedIn emitted = false →
      answers.Takes nal → nal ≠ [] → isKeyframe decoder.configuredCodec nal = true

/-- The codec takes a NAL that opens the latch. -/
def OpeningTaken (decoder : VideoDecoder) (event : DecoderEvent) : Prop :=
  ∀ nal answers, event = .submitNal nal answers → decoder.codec.isSome = true →
    decoder.running = true → decoder.sawKeyframe = false →
      isKeyframe decoder.configuredCodec nal = true → answers.Takes nal

namespace VideoDecoder

/-- One step keeps the first NAL a keyframe exactly if it resumes on one. -/
theorem keyframeFirst_step {decoder : VideoDecoder} {emitted : List DecoderObs}
    (first : KeyframeFirst emitted) (event : DecoderEvent) :
    KeyframeFirst (emitted ++ (machine.step decoder event).2) ↔
      Resumes decoder emitted event := by
  cases event with
  | start codecType error =>
      refine iff_of_true (first.append ?_) (fun _ _ other => by cases other)
      cases error <;> simp [machine, start]
  | stop =>
      refine iff_of_true (first.append ?_) (fun _ _ other => by cases other)
      exact fun _ _ => List.not_mem_nil
  | submitNal nal answers =>
      change KeyframeFirst (emitted ++ (decoder.submitNal nal answers).2) ↔ _
      by_cases passes : decoder.Passes nal
      · obtain ⟨-, -, ⟨takes, more, queued, aside⟩ | ⟨refuses, aside⟩⟩ :=
          decoder.submitNal_cases passes answers
        · rw [queued]
          constructor
          · rintro after _ _ ⟨⟩ - - - unfed - data
            exact after emitted _ nal more rfl data unfed
          · intro resumes
            rw [List.append_cons]
            refine (first.queued fun data unfed => ?_).append fun _ _ => aside _
            rcases passes.latch with saw | keyframe
            · exact resumes nal answers rfl passes.codec passes.running saw unfed takes data
            · exact keyframe
        · refine iff_of_true (first.append fun _ _ => aside _) ?_
          rintro _ _ ⟨⟩ - - - - takes
          exact absurd takes refuses
      · rw [decoder.submitNal_of_not_passes passes]
        refine iff_of_true (first.append fun _ _ => List.not_mem_nil) ?_
        rintro _ _ ⟨⟩ codec running saw
        exact absurd ⟨codec, running, .inl saw⟩ passes

/-- A decoder with the latch open has been fed, if the codec took the NAL that opened it. -/
theorem fed_of_openingTaken {events : List DecoderEvent}
    (taken : machine.EveryStep (fun decoder _ event => OpeningTaken decoder event) {} events) :
    (machine.after {} events).codec.isSome = true →
      (machine.after {} events).sawKeyframe = true →
        fedIn (machine.outputs {} events) = true := by
  refine Mealy.invariant_of_everyStep (fun decoder emitted => decoder.codec.isSome = true →
    decoder.sawKeyframe = true → fedIn emitted = true) (fun none => by cases none) ?_ taken
  intro decoder emitted event fed taken
  cases event with
  | start codecType error =>
      cases error with
      | none =>
          rintro - ⟨⟩
      | some message =>
          rintro ⟨⟩
  | stop => rintro ⟨⟩
  | submitNal nal answers =>
      change (decoder.submitNal nal answers).1.codec.isSome = true →
        (decoder.submitNal nal answers).1.sawKeyframe = true →
          fedIn (emitted ++ (decoder.submitNal nal answers).2) = true
      by_cases passes : decoder.Passes nal
      · obtain ⟨-, -, ⟨takes, more, queued, aside⟩ | ⟨refuses, aside⟩⟩ :=
          decoder.submitNal_cases passes answers
        · intro _ _
          rw [queued, fedIn_queued _ _ _ aside, Bool.or_eq_true]
          rcases passes.latch with saw | keyframe
          · exact .inl (fed passes.codec saw)
          · rw [Bool.not_eq_true', List.isEmpty_eq_false_iff]
            exact .inr (ne_nil_of_isKeyframe keyframe)
        · intro _ _
          rw [fedIn_append_aside _ aside]
          cases latch : decoder.sawKeyframe with
          | true => exact fed passes.codec latch
          | false =>
              have keyframe := passes.latch.resolve_left (by rw [latch]; exact Bool.false_ne_true)
              exact absurd (taken nal answers rfl passes.codec passes.running latch keyframe)
                refuses
      · rw [decoder.submitNal_of_not_passes passes, List.append_nil]
        exact fed

/-- **When the first NAL is a keyframe.** In every run the first NAL that is queued with data behind
each start is a keyframe or a parameter set, if and only if each NAL that finds the latch open,
nothing queued since the start and room in the codec is one. That is so if the codec takes each NAL
that opens the latch. -/
theorem keyframeFirst_iff (events : List DecoderEvent) :
    (machine.Throughout (fun _ emitted => KeyframeFirst emitted) {} events ↔
        machine.EveryStep Resumes {} events) ∧
      (machine.EveryStep (fun decoder _ event => OpeningTaken decoder event) {} events →
        machine.EveryStep Resumes {} events) := by
  constructor
  · apply Mealy.throughout_iff_everyStep fun _ emitted => KeyframeFirst emitted
    · exact fun _ _ _ _ split => absurd split (by simp)
    · exact fun _ _ event first resumes => (keyframeFirst_step first event).mpr resumes
    · exact fun _ _ first => first
    · exact fun _ _ event first after => (keyframeFirst_step first event).mp after
  · rintro taken earlier event later rfl nal answers rfl codec - saw unfed
    rw [fed_of_openingTaken taken.front codec saw] at unfed
    cases unfed

end VideoDecoder

/-- An IDR slice in H.264. -/
def idrNal : List Byte := [0, 0, 0, 1, 0x65, 0x88]

/-- A slice that is no keyframe. -/
def sliceNal : List Byte := [0, 0, 0, 1, 0x41, 0x9a]

/-- Both are taken. -/
theorem keyframeFirst_iff_taken :
    VideoDecoder.machine.EveryStep Resumes {}
      [.start .auto none, .submitNal idrNal {}, .submitNal sliceNal {}] := by
  have checked : VideoDecoder.machine.checksSteps
      (fun decoder _ event => OpeningTaken decoder event) {} []
      [.start .auto none, .submitNal idrNal {}, .submitNal sliceNal {}] := by
    refine ⟨?_, ?_, ?_, trivial⟩
    · rintro _ _ ⟨⟩
    · rintro _ _ ⟨⟩ - - - -
      exact ⟨⟨0, rfl, by decide⟩, ⟨65536, rfl, by decide⟩, rfl⟩
    · rintro _ _ ⟨⟩ - - - -
      exact ⟨⟨0, rfl, by decide⟩, ⟨65536, rfl, by decide⟩, rfl⟩
  exact (VideoDecoder.keyframeFirst_iff _).2 (Mealy.checksSteps_iff.mp checked)

/-- The codec has no input buffer for the keyframe, and then it has one for the slice. -/
theorem fed_midGop :
    ¬ KeyframeFirst (VideoDecoder.machine.outputs {}
      [.start .auto none, .submitNal idrNal { inputIndex := .ok (-1) },
        .submitNal sliceNal {}]) := by
  intro first
  exact absurd (first [.started .auto] .auto sliceNal [] (by decide) (by decide) rfl) (by decide)

end App

end MobileGs

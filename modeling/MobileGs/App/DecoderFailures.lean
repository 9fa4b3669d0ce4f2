import MobileGs.App.DecoderCodecs

/-!
# Exceptions of the codecs

The receive thread may call a codec that was released, since it has taken it before, and the codec
throws. That happens at most once more behind the first exception (`late_calls`). Each exception
stops the decoder, and that may be another one by then, with a codec that has not failed. So a
decoder that was started runs until its own codec throws, if and only if no exception stops another
decoder (`halted_own_iff`).
-/

set_option autoImplicit false

namespace MobileGs

namespace App

/-! ## Codecs that throw -/

/-- How often a codec has thrown in `submitNal`. -/
def failures (codec : MediaCodec) (trace : List ThreadObs) : ℕ :=
  trace.count (.called codec true)

/-- What is known of the codec the decoder has, of the one it had, and of the next one. -/
structure Used (threads : DecoderThreads) (trace : List ThreadObs) : Prop where
  phase : Phase threads
  current : ∀ codec, threads.codec = some codec → codec.number < threads.nextCodec
  holds : ∀ codec, threads.feed.holds = some codec → codec.number < threads.nextCodec
  failed : ∀ codec, 0 < failures codec trace → codec.number < threads.nextCodec
  fresh : ∀ codec codecType, threads.call = .setCodec codec codecType →
    codec.number < threads.nextCodec ∧ failures codec trace = 0 ∧
      threads.feed.holds ≠ some codec
  starting : ∀ codec codecType, threads.codec = some codec →
    threads.call = .setRunning codecType →
      failures codec trace = 0 ∧ threads.feed.uses ≠ some codec
  uses : ∀ codec, threads.codec = some codec → threads.feed.uses = some codec →
    failures codec trace = 0
  once : ∀ codec, threads.codec = some codec → failures codec trace ≤ 1 ∧
    (failures codec trace = 1 → threads.running = false ∨ threads.feed = .failed codec)
  twice : ∀ codec, threads.codec ≠ some codec →
    failures codec trace + (if threads.feed.holds = some codec then 1 else 0) ≤ 2
  thrown : ∀ codec, threads.feed = .failed codec → 0 < failures codec trace

section Throws

variable {threads : DecoderThreads} {trace : List ThreadObs}

theorem failures_append (codec : MediaCodec) (trace emitted : List ThreadObs) :
    failures codec (trace ++ emitted) = failures codec trace + failures codec emitted :=
  List.count_append

theorem used_fresh : Used {} [] where
  phase := fun _ => rfl
  current := fun _ no => by cases no
  holds := fun _ no => by cases no
  failed := fun _ no => by cases no
  fresh := fun _ _ no => by cases no
  starting := fun _ _ no => by cases no
  uses := fun _ no => by cases no
  once := fun _ no => by cases no
  twice := fun _ _ => by simp [failures, FeedPoint.holds]
  thrown := fun _ no => by cases no

/-- Outputs that are no exceptions. -/
theorem Used.quiet (used : Used threads trace) {emitted : List ThreadObs}
    (quiet : ∀ codec, failures codec emitted = 0) : Used threads (trace ++ emitted) := by
  have same : ∀ codec, failures codec (trace ++ emitted) = failures codec trace :=
    fun codec => by rw [failures_append, quiet, Nat.add_zero]
  refine ⟨used.phase, used.current, used.holds, ?_, ?_, ?_, ?_, ?_, ?_, ?_⟩
  · simpa only [same] using used.failed
  · simpa only [same] using used.fresh
  · simpa only [same] using used.starting
  · simpa only [same] using used.uses
  · simpa only [same] using used.once
  · simpa only [same] using used.twice
  · simpa only [same] using used.thrown

/-- While a codec waits to be set, the decoder has none. -/
theorem Used.gone (used : Used threads trace) {codec : MediaCodec} {codecType : VideoCodec}
    (point : threads.call = .setCodec codec codecType) : threads.codec = none := by
  have phase := used.phase
  rw [Phase, point] at phase
  exact phase.1

theorem Used.halted (used : Used threads trace) {codecType : VideoCodec}
    (point : threads.call = .setRunning codecType) : threads.running = false := by
  have phase := used.phase
  rw [Phase, point] at phase
  exact phase.2

/-! ### The synchronized calls -/

/-- A section that leaves `codec` and the receive thread alone. -/
theorem Used.keeps (used : Used threads trace) {threads' : DecoderThreads} (phase : Phase threads')
    (codec : threads'.codec = threads.codec) (feed : threads'.feed = threads.feed)
    (next : threads.nextCodec ≤ threads'.nextCodec)
    (running : threads'.running = true → threads.running = true)
    (setCodec : ∀ other codecType, threads'.call ≠ .setCodec other codecType)
    (setRunning : ∀ codecType, threads'.call ≠ .setRunning codecType) : Used threads' trace := by
  refine ⟨phase, ?_, ?_, ?_, ?_, ?_, ?_, ?_, ?_, ?_⟩
  · exact fun other now => (used.current other (codec ▸ now)).trans_le next
  · exact fun other now => (used.holds other (feed ▸ now)).trans_le next
  · exact fun other now => (used.failed other now).trans_le next
  · exact fun other codecType now => absurd now (setCodec other codecType)
  · exact fun _ codecType _ now => absurd now (setRunning codecType)
  · exact fun other now uses => used.uses other (codec ▸ now) (feed ▸ uses)
  · intro other now
    obtain ⟨few, halted⟩ := used.once other (codec ▸ now)
    rw [feed]
    refine ⟨few, fun one => (halted one).imp_left fun halted => ?_⟩
    by_contra runs
    rw [running (by simpa using runs)] at halted
    cases halted
  · rw [codec, feed]
    exact used.twice
  · rw [feed]
    exact used.thrown

/-- `codec` is cleared. What the decoder had may throw once while it has it, and once behind
that. -/
theorem Used.clears (used : Used threads trace) {threads' : DecoderThreads}
    (phase : Phase threads') (codec : threads'.codec = none) (feed : threads'.feed = threads.feed)
    (next : threads'.nextCodec = threads.nextCodec)
    (setCodec : ∀ other codecType, threads'.call ≠ .setCodec other codecType) :
    Used threads' trace := by
  have none : ∀ other, threads'.codec ≠ some other := fun other no => by
    rw [codec] at no
    cases no
  refine ⟨phase, fun other now => absurd now (none other), ?_, ?_, ?_,
    fun other _ now => absurd now (none other), fun other now => absurd now (none other),
    fun other now => absurd now (none other), ?_, ?_⟩
  · rw [feed, next]
    exact used.holds
  · rw [next]
    exact used.failed
  · exact fun other codecType now => absurd now (setCodec other codecType)
  · intro other _
    rw [feed]
    by_cases current : threads.codec = some other
    · have few := (used.once other current).1
      split <;> omega
    · exact used.twice other current
  · rw [feed]
    exact used.thrown

/-- A codec is made. Nothing is known of one with its number. -/
theorem Used.makes (used : Used threads trace) {threads' : DecoderThreads} (mime : String)
    {codecType : VideoCodec} (phase : Phase threads') (codec : threads'.codec = threads.codec)
    (running : threads'.running = threads.running) (feed : threads'.feed = threads.feed)
    (next : threads'.nextCodec = threads.nextCodec + 1)
    (call : threads'.call = .setCodec ⟨threads.nextCodec, mime⟩ codecType) :
    Used threads' trace := by
  have below : ∀ other : MediaCodec, other.number < threads.nextCodec →
      other.number < threads'.nextCodec := fun _ known => next ▸ Nat.lt_succ_of_lt known
  refine ⟨phase, fun other now => below other (used.current other (codec ▸ now)),
    fun other held => below other (used.holds other (feed ▸ held)),
    fun other some => below other (used.failed other some), ?_, ?_, ?_, ?_, ?_, ?_⟩
  · intro other type made
    obtain ⟨rfl, -⟩ := CallPoint.setCodec.inj (call.symm.trans made)
    refine ⟨next ▸ Nat.lt_succ_self _, ?_, fun held => ?_⟩
    · by_contra some
      exact absurd (used.failed _ (Nat.pos_of_ne_zero some)) (lt_irrefl _)
    · exact absurd (used.holds _ (feed ▸ held)) (lt_irrefl _)
  · intro other type _ now
    rw [call] at now
    cases now
  · rw [codec, feed]
    exact used.uses
  · rw [codec, feed, running]
    exact used.once
  · rw [codec, feed]
    exact used.twice
  · rw [feed]
    exact used.thrown

/-- The codec that was made is set. -/
theorem Used.sets (used : Used threads trace) {threads' : DecoderThreads} {codec : MediaCodec}
    {codecType : VideoCodec} (point : threads.call = .setCodec codec codecType)
    (phase : Phase threads') (current : threads'.codec = some codec)
    (feed : threads'.feed = threads.feed) (next : threads'.nextCodec = threads.nextCodec)
    (setCodec : ∀ other codecType, threads'.call ≠ .setCodec other codecType) :
    Used threads' trace := by
  obtain ⟨below, zero, free⟩ := used.fresh codec codecType point
  have same : ∀ other, threads'.codec = some other → other = codec :=
    fun other now => Option.some.inj (now.symm.trans current)
  refine ⟨phase, ?_, ?_, ?_, fun other type now => absurd now (setCodec other type), ?_, ?_, ?_, ?_,
    ?_⟩
  · intro other now
    rw [same other now, next]
    exact below
  · rw [feed, next]
    exact used.holds
  · rw [next]
    exact used.failed
  · intro other _ now _
    rw [same other now, feed]
    exact ⟨zero, fun uses => free (FeedPoint.holds_of_uses uses)⟩
  · intro other now _
    rw [same other now]
    exact zero
  · intro other now
    rw [same other now, zero]
    exact ⟨zero_le_one, fun no => by cases no⟩
  · intro other _
    rw [feed]
    refine used.twice other ?_
    rw [used.gone point]
    exact fun no => by cases no
  · rw [feed]
    exact used.thrown

/-- `running` is set. The codec has not thrown before that. -/
theorem Used.runs (used : Used threads trace) {threads' : DecoderThreads} {codecType : VideoCodec}
    (point : threads.call = .setRunning codecType) (phase : Phase threads')
    (codec : threads'.codec = threads.codec) (feed : threads'.feed = threads.feed)
    (next : threads'.nextCodec = threads.nextCodec)
    (setCodec : ∀ other codecType, threads'.call ≠ .setCodec other codecType)
    (setRunning : ∀ codecType, threads'.call ≠ .setRunning codecType) : Used threads' trace := by
  refine ⟨phase, ?_, ?_, ?_, fun other type now => absurd now (setCodec other type),
    fun _ type _ now => absurd now (setRunning type), ?_, ?_, ?_, ?_⟩
  · rw [codec, next]
    exact used.current
  · rw [feed, next]
    exact used.holds
  · rw [next]
    exact used.failed
  · rw [codec, feed]
    exact used.uses
  · intro other now
    rw [(used.starting other codecType (codec ▸ now) point).1]
    exact ⟨zero_le_one, fun no => by cases no⟩
  · rw [codec, feed]
    exact used.twice
  · rw [feed]
    exact used.thrown

/-! ### The receive thread -/

/-- `submitNal` takes the codec. -/
theorem Used.takes (used : Used threads trace) {threads' : DecoderThreads}
    (alongside : Alongside threads threads') (running : threads'.running = threads.running)
    (idle : threads.feed = .idle)
    (holds : ∀ codec, threads'.feed.holds = some codec → threads.codec = some codec)
    (uses : ∀ codec, threads'.feed.uses ≠ some codec)
    (point : ∀ codec, threads'.feed ≠ .failed codec) : Used threads' trace := by
  have number := alongside.nextCodec
  refine ⟨used.phase.alongside alongside (by rw [running]; exact id), ?_, ?_, ?_, ?_, ?_,
    fun codec _ no => absurd no (uses codec), ?_, ?_, fun codec no => absurd no (point codec)⟩
  · rw [alongside.codec, number]
    exact used.current
  · rw [number]
    exact fun codec held => used.current codec (holds codec held)
  · rw [number]
    exact used.failed
  · intro codec codecType waits
    rw [alongside.call] at waits
    obtain ⟨below, zero, -⟩ := used.fresh codec codecType waits
    rw [number]
    refine ⟨below, zero, fun held => ?_⟩
    have current := holds codec held
    rw [used.gone waits] at current
    cases current
  · intro codec codecType now waits
    rw [alongside.codec] at now
    rw [alongside.call] at waits
    exact ⟨(used.starting codec codecType now waits).1, uses codec⟩
  · intro codec now
    rw [alongside.codec] at now
    obtain ⟨few, halted⟩ := used.once codec now
    rw [running]
    refine ⟨few, fun one => .inl ((halted one).resolve_right ?_)⟩
    rw [idle]
    exact FeedPoint.noConfusion
  · intro codec gone
    rw [alongside.codec] at gone
    rw [if_neg (fun held => gone (holds codec held))]
    have bound := used.twice codec gone
    omega

/-- A section of `submitNal` that goes on or returns. -/
theorem Used.goes (used : Used threads trace) {threads' : DecoderThreads} (phase : Phase threads')
    (alongside : Alongside threads threads') (before : ∀ codec, threads.feed ≠ .failed codec)
    (running : threads'.running = threads.running)
    (holds : ∀ codec, threads'.feed.holds = some codec → threads.feed.holds = some codec)
    (uses : ∀ codec, threads'.feed.uses = some codec →
      threads.feed.uses = some codec ∨ threads.feed.holds = some codec ∧ threads.running = true)
    (point : ∀ codec, threads'.feed ≠ .failed codec) : Used threads' trace := by
  have number := alongside.nextCodec
  refine ⟨phase, ?_, ?_, ?_, ?_, ?_, ?_, ?_, ?_, fun codec failed => absurd failed (point codec)⟩
  · rw [alongside.codec, number]
    exact used.current
  · rw [number]
    exact fun codec held => used.holds codec (holds codec held)
  · rw [number]
    exact used.failed
  · intro codec codecType waits
    rw [alongside.call] at waits
    obtain ⟨below, zero, free⟩ := used.fresh codec codecType waits
    rw [number]
    exact ⟨below, zero, fun held => free (holds codec held)⟩
  · intro codec codecType now waits
    rw [alongside.codec] at now
    rw [alongside.call] at waits
    obtain ⟨zero, unused⟩ := used.starting codec codecType now waits
    refine ⟨zero, fun goesOn => ?_⟩
    rcases uses codec goesOn with already | ⟨-, runs⟩
    · exact unused already
    · rw [used.halted waits] at runs
      cases runs
  · intro codec now goesOn
    rw [alongside.codec] at now
    rcases uses codec goesOn with already | ⟨-, runs⟩
    · exact used.uses codec now already
    · -- The decoder runs, so its codec has not thrown.
      obtain ⟨few, stopped⟩ := used.once codec now
      have zero : failures codec trace ≠ 1 := by
        intro one
        rcases stopped one with no | no
        · rw [runs] at no
          cases no
        · exact before codec no
      omega
  · intro codec now
    rw [alongside.codec] at now
    obtain ⟨few, stopped⟩ := used.once codec now
    rw [running]
    exact ⟨few, fun one => .inl ((stopped one).resolve_right (before codec))⟩
  · intro codec gone
    rw [alongside.codec] at gone
    have bound := used.twice codec gone
    split
    · rename_i held
      rwa [if_pos (holds codec held)] at bound
    · omega

/-- A section in which the codec throws. -/
theorem Used.throws (used : Used threads trace) {threads' : DecoderThreads} {thrower : MediaCodec}
    (text : String) (phase : Phase threads') (alongside : Alongside threads threads')
    (uses : threads.feed.uses = some thrower) (point : threads'.feed = .failed thrower)
    (running : threads'.running = threads.running) :
    Used threads' (trace ++ [.called thrower true, .shows (.error text)]) := by
  have number := alongside.nextCodec
  have more : ∀ codec, failures codec
      (trace ++ [.called thrower true, .shows (.error text)]) =
        failures codec trace + if codec = thrower then 1 else 0 := by
    intro codec
    rw [failures_append, failures, failures, List.count_cons, List.count_singleton]
    by_cases same : codec = thrower
    · simp [same]
    · simp [same, Ne.symm same]
  have held := FeedPoint.holds_of_uses uses
  have none : threads'.feed.holds = Option.none := by rw [point]; rfl
  refine ⟨phase, ?_, ?_, ?_, ?_, ?_, ?_, ?_, ?_, ?_⟩
  · rw [alongside.codec, number]
    exact used.current
  · rw [none]
    exact fun _ no => by cases no
  · intro codec some
    rw [more] at some
    rw [number]
    split at some
    · rename_i same
      exact same ▸ used.holds thrower held
    · exact used.failed codec some
  · intro codec codecType point
    rw [alongside.call] at point
    obtain ⟨below, zero, free⟩ := used.fresh codec codecType point
    have other : codec ≠ thrower := by
      rintro rfl
      exact free held
    rw [more, if_neg other, number, none]
    exact ⟨below, zero, fun no => by cases no⟩
  · intro codec codecType now point'
    rw [alongside.codec] at now
    rw [alongside.call] at point'
    obtain ⟨zero, unused⟩ := used.starting codec codecType now point'
    have other : codec ≠ thrower := by
      rintro rfl
      exact unused uses
    rw [more, if_neg other, point]
    exact ⟨zero, fun no => by cases no⟩
  · intro codec _ no
    rw [point] at no
    cases no
  · intro codec now
    rw [alongside.codec] at now
    rw [more, point, running]
    split
    · rename_i same
      subst same
      rw [used.uses codec now uses]
      exact ⟨le_rfl, fun _ => .inr rfl⟩
    · obtain ⟨few, stopped⟩ := used.once codec now
      refine ⟨few, fun one => .inl ((stopped one).resolve_right fun failed => ?_)⟩
      rw [failed] at held
      cases held
  · intro codec gone
    rw [alongside.codec] at gone
    have bound := used.twice codec gone
    rw [more, none]
    split at bound <;> split <;> simp_all
  · intro codec failed
    obtain rfl := FeedPoint.failed.inj (point.symm.trans failed)
    rw [more, if_pos rfl]
    omega

/-- The section behind that, which stops the decoder. -/
theorem Used.halts (used : Used threads trace) {threads' : DecoderThreads}
    (phase : Phase threads') (alongside : Alongside threads threads')
    (idle : threads'.feed = .idle) (running : threads'.running = false) : Used threads' trace := by
  have number := alongside.nextCodec
  have none : threads'.feed.holds = Option.none := by rw [idle]; rfl
  have unused : threads'.feed.uses = Option.none := by rw [idle]; rfl
  refine ⟨phase, ?_, ?_, ?_, ?_, ?_, ?_, ?_, ?_, ?_⟩
  · rw [alongside.codec, number]
    exact used.current
  · rw [none]
    exact fun _ no => by cases no
  · rw [number]
    exact used.failed
  · intro codec codecType point
    rw [alongside.call] at point
    obtain ⟨below, zero, -⟩ := used.fresh codec codecType point
    rw [number, none]
    exact ⟨below, zero, fun no => by cases no⟩
  · intro codec codecType now point
    rw [alongside.codec] at now
    rw [alongside.call] at point
    rw [unused]
    exact ⟨(used.starting codec codecType now point).1, fun no => by cases no⟩
  · intro codec _ no
    rw [unused] at no
    cases no
  · intro codec now
    rw [alongside.codec] at now
    exact ⟨(used.once codec now).1, fun _ => .inl running⟩
  · intro codec gone
    rw [alongside.codec] at gone
    have bound := used.twice codec gone
    rw [none, if_neg (by simp)]
    omega
  · intro codec failed
    rw [idle] at failed
    cases failed

/-! ### Steps -/

theorem used_begin (used : Used threads trace) (request : DecoderRequest) :
    Used (threads.begin request).1 (trace ++ (threads.begin request).2) := by
  have phase := (begin_codecs used.phase request).1
  have quiet : ∀ codec, failures codec (threads.begin request).2 = 0 := by
    intro codec
    refine List.count_eq_zero.mpr ?_
    cases request <;> rw [DecoderThreads.begin] <;> split <;> simp
  refine Used.quiet ?_ quiet
  cases request with
  | start codecType =>
      rw [DecoderThreads.begin] at phase ⊢
      split at phase
      · rw [if_pos (by assumption)]
        exact used
      · rw [if_neg (by assumption)]
        refine used.keeps phase rfl rfl le_rfl id ?_ ?_ <;> cases threads.codec <;> simp
  | stop =>
      rw [DecoderThreads.begin] at phase ⊢
      split at phase
      · rw [if_pos (by assumption)]
        exact used
      · rw [if_neg (by assumption)]
        refine used.keeps phase rfl rfl le_rfl id ?_ ?_ <;> cases threads.codec <;> simp
  | submitNal nal =>
      rw [DecoderThreads.begin]
      split
      · exact used
      · rename_i idle
        refine used.takes ⟨rfl, rfl, rfl, rfl, rfl⟩ rfl (not_not.mp idle) ?_ ?_ ?_ <;>
          cases threads.codec <;> simp [FeedPoint.holds, FeedPoint.uses]

theorem used_feed (used : Used threads trace) (answers : FeedAnswers) :
    Used (threads.feedStep answers).1 (trace ++ (threads.feedStep answers).2) := by
  have phase := (feed_codecs used.phase answers).1
  obtain ⟨alongside, move⟩ := @feedStep_cases threads answers
  revert alongside move phase
  generalize (threads.feedStep answers).1 = threads'
  generalize (threads.feedStep answers).2 = emitted
  intro phase alongside move
  cases move with
  | goes before running holds uses point emits =>
      refine (used.goes phase alongside before running holds uses point).quiet fun codec => ?_
      refine List.count_eq_zero.mpr fun among => ?_
      obtain ⟨shown, no⟩ | ⟨other, no, -⟩ := emits _ among <;> cases no
  | throws uses point running => exact used.throws _ phase alongside uses point running
  | halts _ idle running =>
      rw [List.append_nil]
      exact used.halts phase alongside idle running

theorem failures_callStep (codec : MediaCodec) (answers : CallAnswers) :
    failures codec (threads.callStep answers).2 = 0 := by
  refine List.count_eq_zero.mpr ?_
  rw [DecoderThreads.callStep]
  cases threads.call with
  | make codecType => cases answers.making <;> simp
  | _ => simp

theorem used_call (used : Used threads trace) (answers : CallAnswers) :
    Used (threads.callStep answers).1 (trace ++ (threads.callStep answers).2) := by
  have phase := (call_codecs used.phase answers).1
  have before := used.phase
  refine Used.quiet ?_ fun codec => failures_callStep codec answers
  rw [Phase] at before
  revert phase
  rw [DecoderThreads.callStep]
  cases point : threads.call <;> rw [point] at before <;> dsimp only at before ⊢ <;> intro phase
  case idle => exact used
  case stopCodec codec next => exact used.keeps phase rfl rfl le_rfl id (by simp) (by simp)
  case releaseCodec codec next => exact used.keeps phase rfl rfl le_rfl id (by simp) (by simp)
  case clearCodec next => exact used.clears phase rfl rfl rfl (by simp)
  case clearRunning next =>
    exact used.keeps phase rfl rfl le_rfl (fun no => by cases no) (by simp) (by simp)
  case clearKeyframe next =>
    refine used.keeps phase rfl rfl le_rfl id ?_ ?_ <;> cases next <;> simp
  case setType codecType => exact used.keeps phase rfl rfl le_rfl id (by simp) (by simp)
  case make codecType =>
    revert phase
    cases answers.making with
    | whole => exact fun phase => used.makes _ phase rfl rfl rfl rfl rfl
    | broken message =>
        exact fun phase => used.keeps phase rfl rfl (Nat.le_succ _) id (by simp) (by simp)
    | refused message => exact fun phase => used.keeps phase rfl rfl le_rfl id (by simp) (by simp)
  case setCodec codec codecType => exact used.sets point phase rfl rfl rfl (by simp)
  case setRunning codecType => exact used.runs point phase rfl rfl rfl (by simp) (by simp)
  case started codecType => exact used.keeps phase rfl rfl le_rfl id (by simp) (by simp)
  case failed =>
    exact used.keeps phase before.1.symm rfl le_rfl (fun no => by cases no) (by simp) (by simp)

/-- **One step.** -/
theorem used_step (used : Used threads trace) (event : ThreadEvent) :
    Used (decoderThreads.step threads event).1
      (trace ++ (decoderThreads.step threads event).2) := by
  cases event with
  | begin request => exact used_begin used request
  | call answers => exact used_call used answers
  | feed answers => exact used_feed used answers

end Throws

/-- A codec that was released does not execute, and has thrown at every call since. -/
structure Late (threads : DecoderThreads) (trace : List ThreadObs) : Prop where
  released : ∀ codec, .released codec ∈ trace →
    codec.number < threads.nextCodec ∧ threads.executing codec = false
  throws : ∀ earlier codec later, trace = earlier ++ .released codec :: later →
    .called codec false ∉ later

section Late

variable {threads : DecoderThreads} {trace : List ThreadObs}

/-- What a step releases and calls. -/
theorem step_executing (phase : Phase threads) (event : ThreadEvent) :
    (∀ codec, .called codec false ∈ (decoderThreads.step threads event).2 →
        threads.executing codec = true) ∧
      (∀ codec, .released codec ∈ (decoderThreads.step threads event).2 →
        (decoderThreads.step threads event).2 = [.released codec] ∧ threads.codec = some codec ∧
          (decoderThreads.step threads event).1.executing codec = false) ∧
      ∀ codec : MediaCodec, codec.number < threads.nextCodec → threads.executing codec = false →
        (decoderThreads.step threads event).1.executing codec = false := by
  cases event with
  | begin request =>
      cases request <;> simp only [decoderThreads, DecoderThreads.begin] <;> split <;> simp
  | call answers =>
      rw [Phase] at phase
      cases point : threads.call with
      | stopCodec codec next =>
          simp only [decoderThreads, DecoderThreads.callStep, point]
          refine ⟨by simp, by simp, fun other _ halted => ?_⟩
          split
          · rw [Function.update_apply]
            split
            · rfl
            · exact halted
          · exact halted
      | releaseCodec codec next =>
          rw [point] at phase
          simp only [decoderThreads, DecoderThreads.callStep, point]
          refine ⟨by simp, fun other among => ?_, fun other _ halted => ?_⟩
          · obtain rfl : other = codec := by simpa using among
            exact ⟨rfl, phase, Function.update_self ..⟩
          · rw [Function.update_apply]
            split
            · rfl
            · exact halted
      | make codecType =>
          simp only [decoderThreads, DecoderThreads.callStep, point]
          cases answers.making with
          | whole =>
              refine ⟨by simp, by simp, fun other below halted => ?_⟩
              have different : other ≠ ⟨threads.nextCodec, mime codecType⟩ := by
                rintro rfl
                exact absurd below (lt_irrefl _)
              exact (Function.update_of_ne different ..).trans halted
          | broken message => simp
          | refused message => simp
      | _ => simp [decoderThreads, DecoderThreads.callStep, point]
  | feed answers =>
      obtain ⟨alongside, move⟩ := @feedStep_cases threads answers
      refine ⟨fun codec called => ?_, fun codec no => ?_, fun codec _ halted => ?_⟩
      · change _ ∈ (threads.feedStep answers).2 at called
        generalize (threads.feedStep answers).2 = emitted at move called
        cases move with
        | goes _ _ _ _ _ emits =>
            obtain ⟨shown, no⟩ | ⟨other, same, executes⟩ := emits _ called
            · cases no
            · obtain ⟨rfl, -⟩ := ThreadObs.called.inj same
              exact executes
        | throws _ _ _ => simp at called
        | halts _ _ _ => cases called
      · change _ ∈ (threads.feedStep answers).2 at no
        generalize (threads.feedStep answers).2 = emitted at move no
        cases move with
        | goes _ _ _ _ _ emits =>
            obtain ⟨shown, no⟩ | ⟨other, no, -⟩ := emits _ no <;> cases no
        | throws _ _ _ => simp at no
        | halts _ _ _ => cases no
      · change (threads.feedStep answers).1.executing codec = false
        rwa [alongside.executing]

theorem Late.step (late : Late threads trace) (used : Used threads trace) (event : ThreadEvent) :
    Late (decoderThreads.step threads event).1
      (trace ++ (decoderThreads.step threads event).2) := by
  obtain ⟨executes, releases, stays⟩ := step_executing used.phase event
  have next := nextCodec_le_step threads event used.phase
  constructor
  · intro codec among
    rcases List.mem_append.mp among with earlier | now
    · obtain ⟨below, halted⟩ := late.released codec earlier
      exact ⟨below.trans_le next, stays codec below halted⟩
    · obtain ⟨-, current, halted⟩ := releases codec now
      exact ⟨(used.current codec current).trans_le next, halted⟩
  · intro earlier codec later split called
    rcases Mealy.split_append split with ⟨front, inside, rfl⟩ | ⟨gone, -, whole⟩
    · rcases List.mem_append.mp called with before | now
      · exact late.throws earlier codec front inside before
      · have halted := (late.released codec (inside ▸ by simp)).2
        rw [executes codec now] at halted
        cases halted
    · obtain ⟨single, -, -⟩ := releases codec (whole ▸ by simp)
      have alone : gone ++ .released codec :: later = [.released codec] := whole.symm.trans single
      have empty : later = [] := by
        cases gone with
        | nil => exact (List.cons.inj alone).2
        | cons first rest => simp at alone
      rw [empty] at called
      cases called

end Late

theorem run_used (events : List ThreadEvent) :
    Used (decoderThreads.after {} events) (decoderThreads.outputs {} events) ∧
      Late (decoderThreads.after {} events) (decoderThreads.outputs {} events) :=
  Mealy.invariant_of_step (fun threads trace => Used threads trace ∧ Late threads trace)
    ⟨used_fresh, ⟨by simp, by simp⟩⟩
    (fun _ _ event kept => ⟨used_step kept.1 event, kept.2.step kept.1 event⟩) events

/-- **Calls behind the release.** However the threads interleave, the receive thread calls a codec
that was released without success only, and no codec throws more than twice. -/
theorem late_calls (events : List ThreadEvent) (codec : MediaCodec) :
    failures codec (decoderThreads.outputs {} events) ≤ 2 ∧
      ∀ earlier later, decoderThreads.outputs {} events = earlier ++ .released codec :: later →
        .called codec false ∉ later := by
  obtain ⟨used, late⟩ := run_used events
  refine ⟨?_, fun earlier later => late.throws earlier codec later⟩
  by_cases current : (decoderThreads.after {} events).codec = some codec
  · have few := (used.once codec current).1
    omega
  · have bound := used.twice codec current
    omega

/-! ## Who stops the decoder -/

/-- `start` has set `running`, and no other call has begun. -/
def Started (threads : DecoderThreads) : Prop :=
  match threads.call with
  | .idle => True
  | .started _ => True
  | _ => False

instance decidableStarted (threads : DecoderThreads) : Decidable (Started threads) := by
  unfold Started
  split <;> infer_instance

/-- A decoder that was started runs, unless its own codec has thrown. -/
def OwnFailure (threads : DecoderThreads) (trace : List ThreadObs) : Prop :=
  Started threads → ∀ codec, threads.codec = some codec → threads.running = false →
    0 < failures codec trace

/-- An exception stops no decoder that runs with another codec. -/
def StopsOwn (threads : DecoderThreads) (_ : List ThreadObs) : ThreadEvent → Prop
  | .feed _ => ∀ codec, threads.feed = .failed codec → Started threads → threads.running = true →
      threads.codec = some codec
  | _ => True

section Stops

variable {threads : DecoderThreads} {trace : List ThreadObs}

/-- A step that leaves the decoder as it is. -/
theorem OwnFailure.keeps (own : OwnFailure threads trace) {threads' : DecoderThreads}
    {emitted : List ThreadObs} (started : Started threads' → Started threads)
    (codec : threads'.codec = threads.codec) (running : threads'.running = threads.running) :
    OwnFailure threads' (trace ++ emitted) := by
  intro now other current halted
  rw [failures_append]
  exact Nat.add_pos_left
    (own (started now) other (codec ▸ current) (running ▸ halted)) _

theorem started_alongside {threads' : DecoderThreads} (alongside : Alongside threads threads') :
    Started threads' ↔ Started threads := by
  rw [Started, Started, alongside.call]

theorem ownFailure_step (used : Used threads trace) (own : OwnFailure threads trace)
    {event : ThreadEvent} (stopsOwn : StopsOwn threads trace event) :
    OwnFailure (decoderThreads.step threads event).1
      (trace ++ (decoderThreads.step threads event).2) := by
  cases event with
  | begin request =>
      have stops : ∀ next, ¬ Started { threads with
          call := threads.codec.elim (.clearCodec next) (.stopCodec · next) } := by
        intro next
        cases current : threads.codec <;> exact id
      cases request <;> simp only [decoderThreads, DecoderThreads.begin] <;> split
      · exact own.keeps id rfl rfl
      · exact fun started => absurd started (stops _)
      · exact own.keeps id rfl rfl
      · exact fun started => absurd started (stops _)
      · exact own.keeps id rfl rfl
      · exact own.keeps id rfl rfl
  | call answers =>
      have phase := used.phase
      rw [Phase] at phase
      cases point : threads.call <;> rw [point] at phase <;>
        simp only [decoderThreads, DecoderThreads.callStep, point] at phase ⊢
      case idle => exact own.keeps id rfl rfl
      case clearKeyframe next =>
        intro _ codec current
        rw [phase.1] at current
        cases current
      case make codecType => cases answers.making <;> exact fun no => no.elim
      case setRunning codecType => exact fun _ _ _ halted => (by cases halted)
      case started codecType =>
        refine own.keeps (fun _ => ?_) rfl rfl
        rw [Started, point]
        trivial
      case failed => exact fun _ _ current => (by cases current)
      all_goals exact fun no => no.elim
  | feed answers =>
      obtain ⟨alongside, move⟩ := @feedStep_cases threads answers
      change OwnFailure (threads.feedStep answers).1 (trace ++ (threads.feedStep answers).2)
      revert alongside move
      generalize (threads.feedStep answers).1 = threads'
      generalize (threads.feedStep answers).2 = emitted
      intro alongside move
      have started := (started_alongside alongside).mp
      cases move with
      | goes _ running _ _ _ _ => exact own.keeps started alongside.codec running
      | throws _ _ running => exact own.keeps started alongside.codec running
      | halts point _ _ =>
          intro now codec current _
          rw [alongside.codec] at current
          rw [List.append_nil]
          cases running : threads.running with
          | false => exact own (started now) codec current running
          | true =>
              have same := stopsOwn _ point (started now) running
              obtain rfl := Option.some.inj (same.symm.trans current)
              exact used.thrown _ point

/-- Where an exception stops another decoder, that one has not failed. -/
theorem stopsOwn_of_ownFailure (used : Used threads trace) {event : ThreadEvent}
    (behind : OwnFailure (decoderThreads.step threads event).1
      (trace ++ (decoderThreads.step threads event).2)) : StopsOwn threads trace event := by
  cases event with
  | begin request => trivial
  | call answers => trivial
  | feed answers =>
      intro thrower point started running
      have halts : decoderThreads.step threads (.feed answers) =
          ({ threads with running := false, feed := .idle }, []) := by
        simp only [decoderThreads, DecoderThreads.feedStep, point]
      rw [halts, List.append_nil] at behind
      cases current : threads.codec with
      | none =>
          have phase := used.phase
          rw [Phase] at phase
          rw [Started] at started
          cases call : threads.call <;> rw [call] at phase started <;> try exact started.elim
          · rw [phase current] at running
            cases running
          · rw [current] at phase
            cases phase
      | some codec =>
          have failed : 0 < failures codec trace := behind started codec current rfl
          obtain ⟨few, stopped⟩ := used.once codec current
          rcases stopped (by omega) with halted | failing
          · rw [running] at halted
            cases halted
          · rw [FeedPoint.failed.inj (point.symm.trans failing)]

end Stops

/-- **Who stops a decoder.** In every state of a run a decoder that was started runs unless its own
codec has thrown, if and only if the receive thread never stops a decoder that runs behind the
exception of another codec. -/
theorem halted_own_iff (events : List ThreadEvent) :
    decoderThreads.Throughout OwnFailure {} events ↔
      decoderThreads.EveryStep StopsOwn {} events :=
  Mealy.throughout_iff_everyStep
    (fun threads trace => Used threads trace ∧ OwnFailure threads trace)
    ⟨used_fresh, fun _ _ no => by cases no⟩
    (fun _ _ event kept met => ⟨used_step kept.1 event, ownFailure_step kept.1 kept.2 met⟩)
    (fun _ _ kept => kept.2)
    (fun _ _ _ kept behind => stopsOwn_of_ownFailure kept.1 behind) events

/-- A codec fails. The next NAL is taken to it still, and before `running` is tested, the decoder is
started once more. -/
def overtaken : List ThreadEvent :=
  let keyframe := List.replicate 4 (.feed {})
  let start := .begin (.start .h264) :: List.replicate 10 (.call {})
  start ++ .begin (.submitNal [0, 0, 0, 1, 0x65]) :: keyframe ++
    [.feed { throws := some "" }, .feed {}, .begin (.submitNal [0, 0, 0, 1, 0x65])] ++ start ++
    keyframe ++ [.feed {}, .feed {}]

/-- The first codec throws twice, and the second time it stops the other one. -/
example :
    failures ⟨0, "video/avc"⟩ (decoderThreads.outputs {} overtaken) = 2 ∧
      failures ⟨1, "video/avc"⟩ (decoderThreads.outputs {} overtaken) = 0 ∧
      (decoderThreads.after {} overtaken).codec = some ⟨1, "video/avc"⟩ ∧
      (decoderThreads.after {} overtaken).running = false := by
  decide +kernel

end App

end MobileGs

import Mathlib.Logic.Function.Basic
import MobileGs.App.Settings
import MobileGs.Foundations.Holders
import MobileGs.Foundations.LittleEndian

/-!
# The video recorder

`VideoRecorder` writes the NAL units it is given to a file. `start` and `stop` are synchronized, and
`write` is not: the receive thread tests `recording`, takes the stream, writes and counts, while the
main thread may start and stop. Where a write fails, the receive thread calls `stop` itself. An
event is one section of a call between two points where the other thread can run. A call that waits
for the monitor changes nothing.

A stream is known by its number, with the name of its file and whether it is open. What the
directory, the opening of the file and each write answer comes with the event. A call of `write` is
known by its number too.

There is one open stream at most, and each is closed once (`streams_closed`). While nothing stops
the recording and no write fails, the file gets all that is handed over (`recorded_all`).
-/

set_option autoImplicit false

namespace MobileGs

namespace App

open Handles

/-- A NAL unit a call of `write` was given. -/
structure HandedNal where
  number : ℕ
  data : List Byte
  deriving DecidableEq

/-- The point the receive thread has reached in `write`. -/
inductive WriterPoint where
  | idle
  /-- about to read `output` -/
  | tested (nal : HandedNal)
  /-- about to write to the stream -/
  | holding (nal : HandedNal) (stream : ℕ)
  /-- about to count the bytes -/
  | written (nal : HandedNal)
  /-- about to call `stop` -/
  | failed
  /-- in `stop` -/
  | stopping
  deriving DecidableEq

/-- Who is in a synchronized call, and how far. -/
inductive Monitor where
  | free
  | starting (target : String)
  | stopping (byWriter : Bool)
  deriving DecidableEq

/-- `VideoRecorder`, with the streams it has opened and the files. -/
structure VideoRecorder where
  output : Option ℕ := none
  file : Option String := none
  recording : Bool := false
  bytesWritten : ℕ := 0
  monitor : Monitor := .free
  writer : WriterPoint := .idle
  handed : ℕ := 0
  nextStream : ℕ := 0
  nameOf : ℕ → String := fun _ => ""
  isOpen : ℕ → Bool := fun _ => false
  disk : String → List Byte

/-- What a write put into a file. -/
structure Entry where
  number : ℕ
  stream : ℕ
  bytes : List Byte
  complete : Bool
  deriving DecidableEq

/-- What a run does. -/
inductive RecorderObs where
  | startReturned (success : Bool)
  | opened (stream : ℕ) (target : String)
  | closed (stream : ℕ)
  | handed (data : List Byte)
  | wrote (entry : Entry)
  deriving DecidableEq

inductive RecorderEvent where
  /-- `start`, up to the opened stream. `directory` says that the directory is there, `opens` that
  the file can be opened. -/
  | startEnter (directory : Bool) (stamp : String) (codec : VideoCodec) (opens : Bool)
  /-- `start`, behind the opened stream -/
  | startFinish
  /-- `stop`, up to the test of `recording` -/
  | stopEnter (byWriter : Bool)
  /-- `stop` closes the stream -/
  | stopFinish
  | write (data : List Byte)
  | take
  /-- The stream is written to. A write that fails has written so many bytes. -/
  | put (fails : Option ℕ)
  | count
  deriving DecidableEq

/-- The name of the file of a recording. -/
def recordingName (stamp : String) (codec : VideoCodec) : String :=
  "flight-" ++ stamp ++ "." ++ if codec = .h265 then "h265" else "h264"

namespace VideoRecorder

def startEnter (recorder : VideoRecorder) (directory : Bool) (stamp : String)
    (codec : VideoCodec) (opens : Bool) : VideoRecorder × List RecorderObs :=
  if recorder.monitor ≠ .free then (recorder, [])
  else if recorder.recording then (recorder, [.startReturned true])
  else if directory = false then (recorder, [.startReturned false])
  else if opens = false then (recorder, [.startReturned false])
  else
    let stream := recorder.nextStream
    let target := recordingName stamp codec
    ({ recorder with
        output := some stream
        monitor := .starting target
        nextStream := stream + 1
        nameOf := Function.update recorder.nameOf stream target
        isOpen := Function.update recorder.isOpen stream true
        disk := Function.update recorder.disk target [] },
      [.opened stream target])

def startFinish (recorder : VideoRecorder) : VideoRecorder × List RecorderObs :=
  match recorder.monitor with
  | .starting target =>
      ({ recorder with
          file := some target, bytesWritten := 0, recording := true, monitor := .free },
        [.startReturned true])
  | _ => (recorder, [])

/-- The receive thread calls `stop` where a write has failed. -/
def stopEnter (recorder : VideoRecorder) (byWriter : Bool) :
    VideoRecorder × List RecorderObs :=
  if recorder.monitor ≠ .free ∨ byWriter = true ∧ recorder.writer ≠ .failed then (recorder, [])
  else if recorder.recording = false then
    ({ recorder with writer := if byWriter then .idle else recorder.writer }, [])
  else
    ({ recorder with
        recording := false
        monitor := .stopping byWriter
        writer := if byWriter then .stopping else recorder.writer }, [])

def stopFinish (recorder : VideoRecorder) : VideoRecorder × List RecorderObs :=
  match recorder.monitor with
  | .stopping byWriter =>
      ({ recorder with
          output := none
          monitor := .free
          writer := if byWriter then .idle else recorder.writer
          isOpen := recorder.output.elim recorder.isOpen fun stream =>
            Function.update recorder.isOpen stream false },
        recorder.output.toList.map .closed)
  | _ => (recorder, [])

/-- `write`, up to the test of `recording`. -/
def write (recorder : VideoRecorder) (data : List Byte) : VideoRecorder × List RecorderObs :=
  if recorder.writer = .idle then
    ({ recorder with
        handed := recorder.handed + 1
        writer := if recorder.recording then .tested ⟨recorder.handed, data⟩ else .idle },
      [.handed data])
  else (recorder, [])

/-- `write` reads `output`. -/
def take (recorder : VideoRecorder) : VideoRecorder × List RecorderObs :=
  match recorder.writer with
  | .tested nal =>
      ({ recorder with writer := recorder.output.elim .idle (.holding nal) }, [])
  | _ => (recorder, [])

/-- `write` writes to the stream. A stream that is closed throws. -/
def put (recorder : VideoRecorder) (fails : Option ℕ) : VideoRecorder × List RecorderObs :=
  match recorder.writer with
  | .holding nal stream =>
      if recorder.isOpen stream = false then ({ recorder with writer := .failed }, [])
      else
        let bytes := fails.elim nal.data nal.data.take
        let name := recorder.nameOf stream
        ({ recorder with
            writer := if fails.isSome then .failed else .written nal
            disk := Function.update recorder.disk name (recorder.disk name ++ bytes) },
          [.wrote ⟨nal.number, stream, bytes, fails.isNone⟩])
  | _ => (recorder, [])

/-- `write` counts the bytes. -/
def count (recorder : VideoRecorder) : VideoRecorder × List RecorderObs :=
  match recorder.writer with
  | .written nal =>
      ({ recorder with
          bytesWritten := recorder.bytesWritten + nal.data.length, writer := .idle }, [])
  | _ => (recorder, [])

end VideoRecorder

/-- The recorder as a machine. -/
def recorderMachine : Mealy VideoRecorder RecorderEvent RecorderObs where
  step recorder
    | .startEnter directory stamp codec opens => recorder.startEnter directory stamp codec opens
    | .startFinish => recorder.startFinish
    | .stopEnter byWriter => recorder.stopEnter byWriter
    | .stopFinish => recorder.stopFinish
    | .write data => recorder.write data
    | .take => recorder.take
    | .put fails => recorder.put fails
    | .count => recorder.count

/-! ## The streams -/

/-- The stream is open while there is a recording, and while a call begins or ends one. -/
structure Locked (recorder : VideoRecorder) : Prop where
  free : recorder.monitor = .free → (recorder.recording = true ↔ recorder.output.isSome = true)
  busy : recorder.monitor ≠ .free → recorder.recording = false ∧ recorder.output.isSome = true
  isOpen : ∀ stream, recorder.isOpen stream = true ↔ recorder.output = some stream
  latest : ∀ stream, recorder.output = some stream → stream + 1 = recorder.nextStream

/-- The calls on streams. -/
def RecorderObs.calls : RecorderObs → List (Call ℕ)
  | .startReturned _ => []
  | .opened stream _ => [.grant stream]
  | .closed stream => [.close stream]
  | .handed _ => []
  | .wrote _ => []

/-- The stream that is open. -/
def VideoRecorder.held (recorder : VideoRecorder) : Multiset ℕ :=
  (recorder.output.toList : Multiset ℕ)

/-- What a step does to the streams. -/
def StreamMoves (recorder recorder' : VideoRecorder) (emitted : List RecorderObs) : Prop :=
  Locked recorder' ∧ Moves id recorder.held recorder.nextStream
    (emitted.flatMap RecorderObs.calls) recorder'.held recorder'.nextStream

section Streams

variable {recorder : VideoRecorder}

theorem locked_fresh (disk : String → List Byte) : Locked { disk } where
  free := by simp
  busy := fun busy => absurd rfl busy
  isOpen := by simp
  latest := fun _ no => by cases no

/-- A step that keeps the streams. -/
theorem streamMoves_same (recorder' : VideoRecorder) {emitted : List RecorderObs}
    (locked : Locked recorder') (output : recorder'.output = recorder.output)
    (next : recorder'.nextStream = recorder.nextStream)
    (none : emitted.flatMap RecorderObs.calls = []) :
    StreamMoves recorder recorder' emitted := by
  refine ⟨locked, ?_⟩
  rw [VideoRecorder.held, VideoRecorder.held, output, next, none]
  exact .nil _ _ _

/-- What the receive thread does outside `stop` leaves the streams alone. -/
theorem Locked.writer (locked : Locked recorder) (writer : WriterPoint) (handed bytesWritten : ℕ)
    (disk : String → List Byte) :
    Locked { recorder with writer, handed, bytesWritten, disk } :=
  ⟨locked.free, locked.busy, locked.isOpen, locked.latest⟩

theorem start_streams (locked : Locked recorder) (directory : Bool) (stamp : String)
    (codec : VideoCodec) (opens : Bool) :
    StreamMoves recorder (recorder.startEnter directory stamp codec opens).1
        (recorder.startEnter directory stamp codec opens).2 ∧
      StreamMoves recorder recorder.startFinish.1 recorder.startFinish.2 := by
  constructor
  · unfold VideoRecorder.startEnter
    split
    · exact streamMoves_same _ locked rfl rfl rfl
    · rename_i monitor
      have free : recorder.monitor = .free := not_not.mp monitor
      split
      · exact streamMoves_same _ locked rfl rfl rfl
      · rename_i halted
        split
        · exact streamMoves_same _ locked rfl rfl rfl
        · split
          · exact streamMoves_same _ locked rfl rfl rfl
          · have closed : recorder.output = none := by
              rw [← Option.not_isSome_iff_eq_none, ← locked.free free]
              exact halted
            refine ⟨⟨fun no => (by cases no), fun _ => ⟨by simpa using halted, rfl⟩, ?_, ?_⟩, ?_⟩
            · intro stream
              rcases eq_or_ne stream recorder.nextStream with rfl | other
              · simp
              · have shut : recorder.isOpen stream ≠ true := by simp [locked.isOpen, closed]
                simp [Function.update_of_ne other, shut, Ne.symm other]
            · rintro stream same
              obtain rfl := Option.some.inj same
              rfl
            · rw [VideoRecorder.held, closed]
              exact .grant 0 rfl
  · unfold VideoRecorder.startFinish
    split
    · rename_i target monitor
      obtain ⟨-, opened⟩ := locked.busy (by rw [monitor]; simp)
      exact streamMoves_same _
        ⟨fun _ => ⟨fun _ => opened, fun _ => rfl⟩, fun busy => absurd rfl busy, locked.isOpen,
          locked.latest⟩ rfl rfl rfl
    · exact streamMoves_same _ locked rfl rfl rfl

theorem stop_streams (locked : Locked recorder) (byWriter : Bool) :
    StreamMoves recorder (recorder.stopEnter byWriter).1 (recorder.stopEnter byWriter).2 ∧
      StreamMoves recorder recorder.stopFinish.1 recorder.stopFinish.2 := by
  constructor
  · unfold VideoRecorder.stopEnter
    split
    · exact streamMoves_same _ locked rfl rfl rfl
    · rename_i enters
      have free : recorder.monitor = .free := by
        by_contra busy
        exact enters (.inl busy)
      split
      · exact streamMoves_same _ (locked.writer _ _ _ _) rfl rfl rfl
      · rename_i recording
        have opened := (locked.free free).mp (by simpa using recording)
        exact streamMoves_same _
          ⟨fun no => (by cases no), fun _ => ⟨rfl, opened⟩, locked.isOpen, locked.latest⟩ rfl rfl
          rfl
  · unfold VideoRecorder.stopFinish
    split
    · rename_i monitor
      obtain ⟨halted, opened⟩ := locked.busy (by rw [monitor]; simp)
      obtain ⟨stream, output⟩ := Option.isSome_iff_exists.mp opened
      refine ⟨⟨fun _ => by simp [halted], fun busy => absurd rfl busy, ?_,
        fun _ no => by cases no⟩, ?_⟩
      · intro other
        rw [output]
        rcases eq_or_ne other stream with rfl | different
        · simp
        · have shut : recorder.isOpen other ≠ true := by
            simp [locked.isOpen, output, Ne.symm different]
          simp [Function.update_of_ne different, shut]
      · rw [VideoRecorder.held, output]
        exact .close 0 stream _
    · exact streamMoves_same _ locked rfl rfl rfl

theorem write_streams (locked : Locked recorder) (data : List Byte) (fails : Option ℕ) :
    StreamMoves recorder (recorder.write data).1 (recorder.write data).2 ∧
      StreamMoves recorder recorder.take.1 recorder.take.2 ∧
      StreamMoves recorder (recorder.put fails).1 (recorder.put fails).2 ∧
      StreamMoves recorder recorder.count.1 recorder.count.2 := by
  have unchanged : StreamMoves recorder recorder [] := streamMoves_same _ locked rfl rfl rfl
  refine ⟨?_, ?_, ?_, ?_⟩
  · unfold VideoRecorder.write
    split
    · exact streamMoves_same _ (locked.writer _ _ _ _) rfl rfl rfl
    · exact unchanged
  · unfold VideoRecorder.take
    split
    · exact streamMoves_same _ (locked.writer _ _ _ _) rfl rfl rfl
    · exact unchanged
  · unfold VideoRecorder.put
    split
    · split
      · exact streamMoves_same _ (locked.writer _ _ _ _) rfl rfl rfl
      · exact streamMoves_same _ (locked.writer _ _ _ _) rfl rfl rfl
    · exact unchanged
  · unfold VideoRecorder.count
    split
    · exact streamMoves_same _ (locked.writer _ _ _ _) rfl rfl rfl
    · exact unchanged

/-- **One step.** -/
theorem step_streams (locked : Locked recorder) (event : RecorderEvent) :
    StreamMoves recorder (recorderMachine.step recorder event).1
      (recorderMachine.step recorder event).2 := by
  cases event with
  | startEnter directory stamp codec opens =>
      exact (start_streams locked directory stamp codec opens).1
  | startFinish => exact (start_streams locked true "" .auto true).2
  | stopEnter byWriter => exact (stop_streams locked byWriter).1
  | stopFinish => exact (stop_streams locked true).2
  | write data => exact (write_streams locked data none).1
  | take => exact (write_streams locked [] none).2.1
  | put fails => exact (write_streams locked [] fails).2.2.1
  | count => exact (write_streams locked [] none).2.2.2

end Streams

/-- The calls on streams of a run. -/
def streamCalls (disk : String → List Byte) (events : List RecorderEvent) : List (Call ℕ) :=
  (recorderMachine.outputs { disk } events).flatMap RecorderObs.calls

/-- What holds of the streams along every run. -/
theorem run_streams (disk : String → List Byte) (events : List RecorderEvent) :
    StreamMoves { disk } (recorderMachine.after { disk } events)
      (recorderMachine.outputs { disk } events) :=
  have always : recorderMachine.EveryStep (fun _ _ _ => True) { disk } events :=
    fun _ _ _ _ => trivial
  moves_of_everyStep RecorderObs.calls id VideoRecorder.held VideoRecorder.nextStream
    (locked_fresh disk) (fun _ _ event locked _ => step_streams locked event) always

/-- **The streams of every run**, however the two threads interleave. Each is closed at most once.
When nothing is recorded and no call begins or ends a recording, each was closed. -/
theorem streams_closed (disk : String → List Byte) (events : List RecorderEvent) :
    (∀ stream, (streamCalls disk events).count (.close stream) ≤ 1) ∧
      ((recorderMachine.after { disk } events).monitor = .free →
        (recorderMachine.after { disk } events).recording = false →
          ∀ stream, .grant stream ∈ streamCalls disk events →
            (streamCalls disk events).count (.close stream) = 1) := by
  obtain ⟨locked, moves⟩ := run_streams disk events
  refine ⟨moves.safe_self.once, fun free halted stream opened => ?_⟩
  have closed : (recorderMachine.after { disk } events).output = none := by
    rw [← Option.not_isSome_iff_eq_none, ← locked.free free, halted]
    simp
  rw [VideoRecorder.held, VideoRecorder.held, closed] at moves
  exact moves.released opened

/-! ## A recording that nothing disturbs -/

/-- The NAL units that were handed over. -/
def handedNals (trace : List RecorderObs) : List (List Byte) :=
  trace.filterMap fun
    | .handed data => some data
    | _ => none

theorem handedNals_append (trace emitted : List RecorderObs) :
    handedNals (trace ++ emitted) = handedNals trace ++ handedNals emitted :=
  List.filterMap_append

/-- Neither is the recording stopped, nor does a write fail. -/
def Undisturbed : RecorderEvent → Prop
  | .stopEnter _ => False
  | .put fails => fails = none
  | _ => True

instance : ∀ event, Decidable (Undisturbed event)
  | .startEnter _ _ _ _ => inferInstanceAs (Decidable True)
  | .startFinish => inferInstanceAs (Decidable True)
  | .stopEnter _ => inferInstanceAs (Decidable False)
  | .stopFinish => inferInstanceAs (Decidable True)
  | .write _ => inferInstanceAs (Decidable True)
  | .take => inferInstanceAs (Decidable True)
  | .put fails => inferInstanceAs (Decidable (fails = none))
  | .count => inferInstanceAs (Decidable True)

/-- A recording to a stream is under way. -/
structure Recording (recorder : VideoRecorder) (stream : ℕ) : Prop where
  monitor : recorder.monitor = .free
  recording : recorder.recording = true
  output : recorder.output = some stream
  isOpen : recorder.isOpen stream = true
  holds : ∀ nal other, recorder.writer = .holding nal other → other = stream

/-- What was handed over and is not yet in the file. -/
def VideoRecorder.unwritten (recorder : VideoRecorder) : List Byte :=
  match recorder.writer with
  | .tested nal => nal.data
  | .holding nal _ => nal.data
  | _ => []

/-- What was handed over and is not yet counted. -/
def VideoRecorder.uncounted (recorder : VideoRecorder) : List Byte :=
  match recorder.writer with
  | .tested nal => nal.data
  | .holding nal _ => nal.data
  | .written nal => nal.data
  | _ => []

/-- What a recorder has of the units handed to it, from one state to another. -/
structure Grows (stream : ℕ) (recorder : VideoRecorder) (nals : List (List Byte))
    (recorder' : VideoRecorder) : Prop where
  recording : Recording recorder' stream
  name : recorder'.nameOf stream = recorder.nameOf stream
  content : recorder'.disk (recorder.nameOf stream) ++ recorder'.unwritten =
    recorder.disk (recorder.nameOf stream) ++ recorder.unwritten ++ nals.flatten
  counted : recorder'.bytesWritten + recorder'.uncounted.length =
    recorder.bytesWritten + recorder.uncounted.length + nals.flatten.length

theorem Grows.refl {stream : ℕ} {recorder : VideoRecorder} (recording : Recording recorder stream) :
    Grows stream recorder [] recorder :=
  ⟨recording, rfl, (List.append_nil _).symm, rfl⟩

theorem Grows.trans {stream : ℕ} {first between last : VideoRecorder} {nals more : List (List Byte)}
    (grows : Grows stream first nals between) (later : Grows stream between more last) :
    Grows stream first (nals ++ more) last := by
  refine ⟨later.recording, later.name.trans grows.name, ?_, ?_⟩
  · have content := later.content
    rw [grows.name] at content
    rw [content, grows.content, List.flatten_append, List.append_assoc, List.append_assoc]
  · rw [later.counted, grows.counted, List.flatten_append, List.length_append, Nat.add_assoc]

/-- **One step** of an undisturbed recording. -/
theorem grows_step {stream : ℕ} {recorder : VideoRecorder} (recording : Recording recorder stream)
    {event : RecorderEvent} (undisturbed : Undisturbed event) :
    Grows stream recorder (handedNals (recorderMachine.step recorder event).2)
      (recorderMachine.step recorder event).1 := by
  obtain ⟨monitor, records, output, isOpen, holds⟩ := recording
  have same := Grows.refl ⟨monitor, records, output, isOpen, holds⟩
  cases event with
  | startEnter directory stamp codec opens =>
      simp only [recorderMachine, VideoRecorder.startEnter, monitor, records]
      exact same
  | startFinish =>
      simp only [recorderMachine, VideoRecorder.startFinish, monitor]
      exact same
  | stopEnter byWriter => exact undisturbed.elim
  | stopFinish =>
      simp only [recorderMachine, VideoRecorder.stopFinish, monitor]
      exact same
  | write data =>
      simp only [recorderMachine, VideoRecorder.write]
      split
      · rename_i idle
        refine ⟨⟨monitor, records, output, isOpen, fun _ _ no => ?_⟩, rfl, ?_, ?_⟩
        · rw [records] at no
          cases no
        · simp [VideoRecorder.unwritten, handedNals, idle]
        · simp [VideoRecorder.uncounted, handedNals, idle]
      · exact same
  | take =>
      simp only [recorderMachine, VideoRecorder.take]
      split
      · rename_i nal point
        refine ⟨⟨monitor, records, output, isOpen, fun _ _ held => ?_⟩, rfl, ?_, ?_⟩
        · rw [output] at held
          cases held
          rfl
        · simp [VideoRecorder.unwritten, handedNals, output, point]
        · simp [VideoRecorder.uncounted, handedNals, output, point]
      · exact same
  | put fails =>
      obtain rfl : fails = none := undisturbed
      simp only [recorderMachine, VideoRecorder.put]
      split
      · rename_i nal other point
        obtain rfl := holds nal other point
        rw [if_neg (by rw [isOpen]; simp)]
        refine ⟨⟨monitor, records, output, isOpen, fun _ _ no => by cases no⟩, rfl, ?_, ?_⟩
        · simp [VideoRecorder.unwritten, handedNals, point]
        · simp [VideoRecorder.uncounted, handedNals, point]
      · exact same
  | count =>
      simp only [recorderMachine, VideoRecorder.count]
      split
      · rename_i nal point
        refine ⟨⟨monitor, records, output, isOpen, fun _ _ no => by cases no⟩, rfl, ?_, ?_⟩
        · simp [VideoRecorder.unwritten, handedNals, point]
        · simp [VideoRecorder.uncounted, handedNals, point]
      · exact same

/-- **A recording gets all that is handed over**, while nothing stops it and no write fails,
whatever else is called in between. Behind the last section of `write`, the file has grown by all
these units, and `bytesWritten` by their length. -/
theorem recorded_all {recorder : VideoRecorder} {stream : ℕ} (recording : Recording recorder stream)
    (idle : recorder.writer = .idle) {events : List RecorderEvent}
    (undisturbed : ∀ event ∈ events, Undisturbed event)
    (returned : (recorderMachine.after recorder events).writer = .idle) :
    (recorderMachine.after recorder events).disk (recorder.nameOf stream) =
        recorder.disk (recorder.nameOf stream) ++
          (handedNals (recorderMachine.outputs recorder events)).flatten ∧
      (recorderMachine.after recorder events).bytesWritten =
        recorder.bytesWritten +
          (handedNals (recorderMachine.outputs recorder events)).flatten.length := by
  have met : recorderMachine.EveryStep (fun _ _ event => Undisturbed event) recorder events := by
    rintro earlier event later rfl
    exact undisturbed event (List.mem_append_right _ List.mem_cons_self)
  have grows := Mealy.invariant_of_everyStep
    (fun recorder' trace => Grows stream recorder (handedNals trace) recorder')
    (Grows.refl recording)
    (fun recorder' trace event grows undisturbed => by
      rw [handedNals_append]
      exact grows.trans (grows_step grows.recording undisturbed)) met
  have content := grows.content
  have counted := grows.counted
  simp only [VideoRecorder.unwritten, idle, returned, List.append_nil] at content
  simp only [VideoRecorder.uncounted, idle, returned, List.length_nil, Nat.add_zero] at counted
  exact ⟨content, counted⟩

/-- A started recorder. -/
def startedRecorder : VideoRecorder :=
  recorderMachine.after { disk := fun _ => [] } [.startEnter true "s" .h265 true, .startFinish]

theorem recording_started : Recording startedRecorder 0 where
  monitor := rfl
  recording := rfl
  output := rfl
  isOpen := rfl
  holds := fun _ _ no => by cases no

theorem recorded_all_two :
    (recorderMachine.after startedRecorder
        [.write [1, 2], .take, .startEnter true "t" .h264 true, .put none, .count, .write [3],
          .take, .put none, .count]).disk (startedRecorder.nameOf 0) = [1, 2, 3] :=
  (recorded_all recording_started (by decide) (by decide) (by decide)).1

end App

end MobileGs

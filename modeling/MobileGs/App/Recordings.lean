import MobileGs.App.VideoRecorder

/-!
# The files of the recorder

While the receive thread writes, the main thread can stop a recording and start the next one, and a
failed write stops a recording too. Each file still gets whole NAL units, in the order in which they
were handed over, and no unit goes to two files. At most the last unit of a file is cut, where its
write failed (`recordings_intact`). A file whose name is used again is begun anew.

The reason is that a write goes to the open stream or throws, and that the receive thread ends the
recording behind a cut unit before it writes again (`Sound.torn`).
-/

set_option autoImplicit false

namespace MobileGs

namespace App

/-- What the writes put into files, in order. -/
def entries (trace : List RecorderObs) : List Entry :=
  trace.filterMap fun
    | .wrote entry => some entry
    | _ => none

theorem entries_append (trace emitted : List RecorderObs) :
    entries (trace ++ emitted) = entries trace ++ entries emitted :=
  List.filterMap_append

/-- What the writes put into a stream. -/
def contentOf (trace : List RecorderObs) (stream : ℕ) : List Byte :=
  ((entries trace).filter (·.stream = stream)).flatMap Entry.bytes

/-- A stream with the last use of its name. -/
def Last (recorder : VideoRecorder) (stream : ℕ) : Prop :=
  stream < recorder.nextStream ∧
    ∀ other < recorder.nextStream, recorder.nameOf other = recorder.nameOf stream → other ≤ stream

/-- **What is in the files.** -/
structure Intact (recorder : VideoRecorder) (trace : List RecorderObs) : Prop where
  /-- A write puts its own unit into a file, or a front of it. -/
  whole : ∀ entry ∈ entries trace, ∃ nal, (handedNals trace)[entry.number]? = some nal ∧
    entry.bytes <+: nal ∧ (entry.complete = true → entry.bytes = nal)
  /-- The units are written in order, each once. -/
  inOrder : (entries trace).Pairwise fun earlier later => earlier.number < later.number
  /-- Nothing follows a unit that is cut. -/
  cutLast : (entries trace).Pairwise fun earlier later =>
    earlier.complete = false → earlier.stream ≠ later.stream
  /-- A file holds what was put into the last stream with its name. -/
  content : ∀ stream, Last recorder stream →
    recorder.disk (recorder.nameOf stream) = contentOf trace stream

/-- The unit a call of `write` has in hand. -/
def WriterPoint.nal : WriterPoint → Option HandedNal
  | .tested nal => some nal
  | .holding nal _ => some nal
  | .written nal => some nal
  | _ => none

/-- The unit that is still to be written. -/
def WriterPoint.pending : WriterPoint → Option HandedNal
  | .tested nal => some nal
  | .holding nal _ => some nal
  | _ => none

/-- The receive thread is about to end a recording. -/
def WriterPoint.ends : WriterPoint → Bool
  | .failed => true
  | .stopping => true
  | _ => false

/-- The invariant. -/
structure Sound (recorder : VideoRecorder) (trace : List RecorderObs) : Prop where
  locked : Locked recorder
  intact : Intact recorder trace
  handed : (handedNals trace).length = recorder.handed
  /-- The unit in hand is the last one that was handed over. -/
  inHand : ∀ nal, recorder.writer.nal = some nal →
    nal.number + 1 = recorder.handed ∧ (handedNals trace)[nal.number]? = some nal.data
  /-- What is still to be written comes behind what was written. -/
  pending : ∀ nal, recorder.writer.pending = some nal →
    ∀ entry ∈ entries trace, entry.number < nal.number
  known : ∀ entry ∈ entries trace, entry.stream < recorder.nextStream
  /-- A stream with a cut unit is closed, or is about to be. -/
  torn : ∀ entry ∈ entries trace, entry.complete = false →
    recorder.isOpen entry.stream = false ∨ recorder.writer.ends = true
  /-- The receive thread is in `stop` where it holds the monitor for that. -/
  stops : recorder.writer = .stopping ↔ recorder.monitor = .stopping true

theorem sound_fresh (disk : String → List Byte) : Sound { disk } [] where
  locked := locked_fresh disk
  intact :=
    { whole := fun _ among => absurd among List.not_mem_nil
      inOrder := .nil
      cutLast := .nil
      content := fun _ last => absurd last.1 (Nat.not_lt_zero _) }
  handed := rfl
  inHand := fun _ no => by cases no
  pending := fun _ no => by cases no
  known := fun _ among => absurd among List.not_mem_nil
  torn := fun _ among => absurd among List.not_mem_nil
  stops := by simp

section Steps

variable {recorder : VideoRecorder} {trace : List RecorderObs}

/-- Nothing is handed over, and nothing is written. -/
structure Silent (emitted : List RecorderObs) : Prop where
  entries : entries emitted = []
  handed : handedNals emitted = []

theorem silent_nil : Silent [] := ⟨rfl, rfl⟩

theorem Silent.entries_eq {emitted : List RecorderObs} (silent : Silent emitted) :
    App.entries (trace ++ emitted) = App.entries trace := by
  rw [entries_append, silent.entries, List.append_nil]

theorem Silent.handed_eq {emitted : List RecorderObs} (silent : Silent emitted) :
    handedNals (trace ++ emitted) = handedNals trace := by
  rw [handedNals_append, silent.handed, List.append_nil]

/-- A step that leaves the files alone. -/
theorem Intact.silent (intact : Intact recorder trace) (recorder' : VideoRecorder)
    {emitted : List RecorderObs} (silent : Silent emitted) (disk : recorder'.disk = recorder.disk)
    (names : recorder'.nameOf = recorder.nameOf)
    (next : recorder'.nextStream = recorder.nextStream) :
    Intact recorder' (trace ++ emitted) := by
  refine ⟨?_, ?_, ?_, ?_⟩
  · rw [silent.entries_eq, silent.handed_eq]
    exact intact.whole
  · rw [silent.entries_eq]
    exact intact.inOrder
  · rw [silent.entries_eq]
    exact intact.cutLast
  · intro stream last
    rw [disk, names, contentOf, silent.entries_eq]
    refine intact.content stream ?_
    rwa [Last, names, next] at last

/-- The numbers of the entries are those of calls that have been made. -/
theorem Sound.number_lt (sound : Sound recorder trace) {entry : Entry}
    (among : entry ∈ entries trace) : entry.number < recorder.handed := by
  obtain ⟨nal, found, -⟩ := sound.intact.whole entry among
  rw [← sound.handed]
  exact (List.getElem?_eq_some_iff.mp found).1

/-! ## `start` and `stop` -/

/-- A file is begun. -/
theorem Intact.opened (sound : Sound recorder trace) (target : String)
    (recorder' : VideoRecorder) (next : recorder'.nextStream = recorder.nextStream + 1)
    (names : recorder'.nameOf = Function.update recorder.nameOf recorder.nextStream target)
    (disk : recorder'.disk = Function.update recorder.disk target []) :
    Intact recorder' (trace ++ [.opened recorder.nextStream target]) := by
  have silent : Silent [.opened recorder.nextStream target] := ⟨rfl, rfl⟩
  refine ⟨?_, ?_, ?_, ?_⟩
  · rw [silent.entries_eq, silent.handed_eq]
    exact sound.intact.whole
  · rw [silent.entries_eq]
    exact sound.intact.inOrder
  · rw [silent.entries_eq]
    exact sound.intact.cutLast
  · rintro stream ⟨within, last⟩
    rw [contentOf, silent.entries_eq, disk, names]
    rw [next] at within last
    rw [names] at last
    rcases eq_or_ne stream recorder.nextStream with rfl | other
    · have none : (entries trace).filter (·.stream = recorder.nextStream) = [] := by
        refine List.filter_eq_nil_iff.mpr fun entry among => ?_
        have known := sound.known entry among
        simpa using Nat.ne_of_lt known
      rw [none, Function.update_self, Function.update_self]
      rfl
    · have before : stream < recorder.nextStream := by omega
      have different : recorder.nameOf stream ≠ target := by
        intro same
        have above := last recorder.nextStream (Nat.lt_succ_self _)
          (by rw [Function.update_self, Function.update_of_ne other, same])
        omega
      rw [Function.update_of_ne other, Function.update_of_ne different]
      refine sound.intact.content stream ⟨before, fun rival below same => ?_⟩
      refine last rival (Nat.lt_succ_of_lt below) ?_
      rw [Function.update_of_ne other, Function.update_of_ne (Nat.ne_of_lt below), same]

/-- A step that leaves the files alone, and hands nothing over. -/
theorem Sound.silent (sound : Sound recorder trace) (recorder' : VideoRecorder)
    {emitted : List RecorderObs} (silent : Silent emitted) (locked : Locked recorder')
    (kept : recorder'.disk = recorder.disk ∧ recorder'.nameOf = recorder.nameOf ∧
      recorder'.nextStream = recorder.nextStream ∧ recorder'.handed = recorder.handed)
    (inHand : ∀ nal, recorder'.writer.nal = some nal → recorder.writer.nal = some nal)
    (pending : ∀ nal, recorder'.writer.pending = some nal → recorder.writer.pending = some nal)
    (torn : ∀ stream, recorder.isOpen stream = false ∨ recorder.writer.ends = true →
      recorder'.isOpen stream = false ∨ recorder'.writer.ends = true)
    (stops : recorder'.writer = .stopping ↔ recorder'.monitor = .stopping true) :
    Sound recorder' (trace ++ emitted) := by
  obtain ⟨disk, names, next, handed⟩ := kept
  refine ⟨locked, sound.intact.silent recorder' silent disk names next, ?_, ?_, ?_, ?_, ?_, stops⟩
  · rw [silent.handed_eq, handed]
    exact sound.handed
  · intro nal same
    rw [silent.handed_eq, handed]
    exact sound.inHand nal (inHand nal same)
  · intro nal same
    rw [silent.entries_eq]
    exact sound.pending nal (pending nal same)
  · rw [silent.entries_eq, next]
    exact sound.known
  · rw [silent.entries_eq]
    exact fun entry among cut => torn entry.stream (sound.torn entry among cut)

/-- A call that changes nothing. -/
theorem Sound.unchanged (sound : Sound recorder trace) {emitted : List RecorderObs}
    (silent : Silent emitted) : Sound recorder (trace ++ emitted) :=
  sound.silent recorder silent sound.locked ⟨rfl, rfl, rfl, rfl⟩ (fun _ same => same)
    (fun _ same => same) (fun _ closed => closed) sound.stops

theorem Sound.startEnter (sound : Sound recorder trace) (directory : Bool) (stamp : String)
    (codec : VideoCodec) (opens : Bool) :
    Sound (recorder.startEnter directory stamp codec opens).1
      (trace ++ (recorder.startEnter directory stamp codec opens).2) := by
  have locked := (start_streams sound.locked directory stamp codec opens).1.1
  unfold VideoRecorder.startEnter at locked ⊢
  split
  · exact sound.unchanged silent_nil
  · rename_i monitor
    have free : recorder.monitor = .free := not_not.mp monitor
    split
    · exact sound.unchanged ⟨rfl, rfl⟩
    · rename_i halted
      split
      · exact sound.unchanged ⟨rfl, rfl⟩
      · rename_i there
        split
        · exact sound.unchanged ⟨rfl, rfl⟩
        · rename_i opens
          rw [if_neg monitor, if_neg halted, if_neg there, if_neg opens] at locked
          have silent : Silent [.opened recorder.nextStream (recordingName stamp codec)] :=
            ⟨rfl, rfl⟩
          have notStopping : recorder.writer ≠ .stopping := by
            rw [ne_eq, sound.stops, free]
            simp
          refine ⟨locked, .opened sound (recordingName stamp codec) _ rfl rfl rfl, ?_, ?_, ?_, ?_,
            ?_, ?_⟩
          · rw [silent.handed_eq]
            exact sound.handed
          · rw [silent.handed_eq]
            exact sound.inHand
          · rw [silent.entries_eq]
            exact sound.pending
          · rw [silent.entries_eq]
            exact fun entry among => Nat.lt_succ_of_lt (sound.known entry among)
          · rw [silent.entries_eq]
            intro entry among cut
            refine (sound.torn entry among cut).imp_left fun closed => ?_
            have old : entry.stream ≠ recorder.nextStream := Nat.ne_of_lt (sound.known entry among)
            exact (Function.update_of_ne old true recorder.isOpen).trans closed
          · simp [notStopping]

theorem Sound.startFinish (sound : Sound recorder trace) :
    Sound recorder.startFinish.1 (trace ++ recorder.startFinish.2) := by
  have locked := (start_streams sound.locked true "" .auto true).2.1
  unfold VideoRecorder.startFinish at locked ⊢
  split
  · rename_i target monitor
    rw [monitor] at locked
    have notStopping : recorder.writer ≠ .stopping := by
      rw [ne_eq, sound.stops, monitor]
      simp
    refine sound.silent _ ⟨rfl, rfl⟩ locked ⟨rfl, rfl, rfl, rfl⟩ (fun _ same => same)
      (fun _ same => same) (fun _ closed => closed) ?_
    simp [notStopping]
  · exact sound.unchanged silent_nil

theorem Sound.stopEnter (sound : Sound recorder trace) (byWriter : Bool) :
    Sound (recorder.stopEnter byWriter).1 (trace ++ (recorder.stopEnter byWriter).2) := by
  have locked := (stop_streams sound.locked byWriter).1.1
  unfold VideoRecorder.stopEnter at locked ⊢
  split
  · exact sound.unchanged silent_nil
  · rename_i enters
    rw [if_neg enters] at locked
    have free : recorder.monitor = .free := by
      by_contra busy
      exact enters (.inl busy)
    have failed : byWriter = true → recorder.writer = .failed := by
      intro writer
      by_contra other
      exact enters (.inr ⟨writer, other⟩)
    have notStopping : recorder.writer ≠ .stopping := by
      rw [ne_eq, sound.stops, free]
      simp
    split
    · -- Nothing is recorded, so no stream is open.
      rename_i halted
      rw [if_pos halted] at locked
      have closed : ∀ stream, recorder.isOpen stream = false := by
        intro stream
        have none : recorder.output = none := by
          rw [← Option.not_isSome_iff_eq_none, ← sound.locked.free free, halted]
          simp
        rw [← Bool.not_eq_true, sound.locked.isOpen, none]
        simp
      refine sound.silent _ silent_nil locked ⟨rfl, rfl, rfl, rfl⟩ ?_ ?_
        (fun stream _ => .inl (closed stream)) ?_
      · cases byWriter with
        | false => exact fun _ same => same
        | true => exact fun _ no => by cases no
      · cases byWriter with
        | false => exact fun _ same => same
        | true => exact fun _ no => by cases no
      · cases byWriter with
        | false => simp [notStopping, free]
        | true => simp [free]
    · rename_i records
      rw [if_neg records] at locked
      refine sound.silent _ silent_nil locked ⟨rfl, rfl, rfl, rfl⟩ ?_ ?_ ?_ ?_
      · cases byWriter with
        | false => exact fun _ same => same
        | true => exact fun _ no => by cases no
      · cases byWriter with
        | false => exact fun _ same => same
        | true => exact fun _ no => by cases no
      · cases byWriter with
        | false => exact fun _ closed => closed
        | true => exact fun _ _ => .inr rfl
      · cases byWriter with
        | false => simp [notStopping]
        | true => simp

theorem Sound.stopFinish (sound : Sound recorder trace) :
    Sound recorder.stopFinish.1 (trace ++ recorder.stopFinish.2) := by
  have locked := (stop_streams sound.locked true).2.1
  unfold VideoRecorder.stopFinish at locked ⊢
  split
  · rename_i byWriter monitor
    rw [monitor] at locked
    have silent : Silent (recorder.output.toList.map .closed) := by
      cases recorder.output with
      | none => exact silent_nil
      | some stream => exact ⟨rfl, rfl⟩
    have closed : ∀ stream, (recorder.output.elim recorder.isOpen fun stream =>
        Function.update recorder.isOpen stream false) stream = false := by
      intro stream
      rw [← Bool.not_eq_true]
      intro isOpen
      have open' := (locked.isOpen stream).mp isOpen
      cases open'
    have notStopping : byWriter = false → recorder.writer ≠ .stopping := by
      rintro rfl
      rw [ne_eq, sound.stops, monitor]
      simp
    refine sound.silent _ silent locked ⟨rfl, rfl, rfl, rfl⟩ ?_ ?_
      (fun stream _ => .inl (closed stream)) ?_
    · cases byWriter with
      | false => exact fun _ same => same
      | true => exact fun _ no => by cases no
    · cases byWriter with
      | false => exact fun _ same => same
      | true => exact fun _ no => by cases no
    · cases byWriter with
      | false => simp [notStopping rfl]
      | true => simp
  · exact sound.unchanged silent_nil

/-! ## `write` -/

theorem Sound.write (sound : Sound recorder trace) (data : List Byte) :
    Sound (recorder.write data).1 (trace ++ (recorder.write data).2) := by
  unfold VideoRecorder.write
  split
  · rename_i idle
    have entriesSame : entries (trace ++ [.handed data]) = entries trace := by
      rw [entries_append]
      exact List.append_nil _
    have nals : handedNals (trace ++ [.handed data]) = handedNals trace ++ [data] := by
      rw [handedNals_append]
      rfl
    have last : (handedNals trace ++ [data])[recorder.handed]? = some data := by
      rw [← sound.handed]
      exact List.getElem?_concat_length
    have taken : ∀ nal, (if recorder.recording then WriterPoint.tested ⟨recorder.handed, data⟩
        else .idle).nal = some nal → nal = ⟨recorder.handed, data⟩ := by
      intro nal
      cases recorder.recording with
      | false => exact fun no => by cases no
      | true => exact fun same => (Option.some.inj same).symm
    refine ⟨sound.locked.writer _ _ _ _, ⟨?_, ?_, ?_, ?_⟩, ?_, ?_, ?_, ?_, ?_, ?_⟩
    · rw [entriesSame, nals]
      intro entry among
      obtain ⟨nal, found, front, whole⟩ := sound.intact.whole entry among
      refine ⟨nal, ?_, front, whole⟩
      rw [List.getElem?_append_left (List.getElem?_eq_some_iff.mp found).1, found]
    · rw [entriesSame]
      exact sound.intact.inOrder
    · rw [entriesSame]
      exact sound.intact.cutLast
    · intro stream last
      rw [contentOf, entriesSame]
      exact sound.intact.content stream last
    · rw [nals, List.length_append, sound.handed]
      rfl
    · intro nal same
      rw [nals, taken nal same]
      exact ⟨rfl, last⟩
    · intro nal same
      have isNew : nal = ⟨recorder.handed, data⟩ := by
        refine taken nal ?_
        cases records : recorder.recording with
        | false =>
            rw [records] at same
            cases same
        | true =>
            rw [records] at same
            exact same
      rw [entriesSame, isNew]
      exact fun entry among => sound.number_lt among
    · rw [entriesSame]
      exact sound.known
    · rw [entriesSame]
      intro entry among cut
      rcases sound.torn entry among cut with closed | ends
      · exact .inl closed
      · rw [idle] at ends
        cases ends
    · have free : recorder.monitor ≠ .stopping true := by
        rw [ne_eq, ← sound.stops, idle]
        simp
      cases recorder.recording <;> simp [free]
  · exact sound.unchanged silent_nil

theorem Sound.take (sound : Sound recorder trace) :
    Sound recorder.take.1 (trace ++ recorder.take.2) := by
  unfold VideoRecorder.take
  split
  · rename_i nal point
    have free : recorder.monitor ≠ .stopping true := by
      rw [ne_eq, ← sound.stops, point]
      simp
    refine sound.silent _ silent_nil (sound.locked.writer _ _ _ _) ⟨rfl, rfl, rfl, rfl⟩ ?_ ?_ ?_ ?_
    · rw [point]
      cases recorder.output with
      | none => exact fun _ no => by cases no
      | some stream => exact fun _ same => same
    · rw [point]
      cases recorder.output with
      | none => exact fun _ no => by cases no
      | some stream => exact fun _ same => same
    · rw [point]
      exact fun stream closed => closed.imp_right fun no => by cases no
    · cases recorder.output <;> simp [free]
  · exact sound.unchanged silent_nil

/-- The open stream is the last one with its name. -/
theorem Sound.last_open (sound : Sound recorder trace) {stream : ℕ}
    (isOpen : recorder.isOpen stream = true) : Last recorder stream := by
  have latest := sound.locked.latest stream ((sound.locked.isOpen stream).mp isOpen)
  exact ⟨by omega, fun other below _ => by omega⟩

/-- A write to the open stream. -/
theorem Intact.put (sound : Sound recorder trace) {nal : HandedNal} {stream : ℕ}
    (point : recorder.writer = .holding nal stream) (isOpen : recorder.isOpen stream = true)
    (fails : Option ℕ) (recorder' : VideoRecorder)
    (names : recorder'.nameOf = recorder.nameOf)
    (next : recorder'.nextStream = recorder.nextStream)
    (disk : recorder'.disk = Function.update recorder.disk (recorder.nameOf stream)
      (recorder.disk (recorder.nameOf stream) ++ fails.elim nal.data nal.data.take)) :
    Intact recorder' (trace ++
      [.wrote ⟨nal.number, stream, fails.elim nal.data nal.data.take, fails.isNone⟩]) := by
  have entriesGrow : entries (trace ++
      [.wrote ⟨nal.number, stream, fails.elim nal.data nal.data.take, fails.isNone⟩]) =
        entries trace ++
          [⟨nal.number, stream, fails.elim nal.data nal.data.take, fails.isNone⟩] := by
    rw [entries_append]
    rfl
  have nals : handedNals (trace ++
      [.wrote ⟨nal.number, stream, fails.elim nal.data nal.data.take, fails.isNone⟩]) =
        handedNals trace := by
    rw [handedNals_append]
    exact List.append_nil _
  have pending := sound.pending nal (by rw [point]; rfl)
  have lastOpen := sound.last_open isOpen
  refine ⟨?_, ?_, ?_, ?_⟩
  · rw [entriesGrow, nals]
    intro entry among
    rcases List.mem_append.mp among with before | now
    · exact sound.intact.whole entry before
    · obtain rfl := List.mem_singleton.mp now
      refine ⟨nal.data, (sound.inHand nal (by rw [point]; rfl)).2, ?_, ?_⟩
      · cases fails with
        | none => exact List.prefix_rfl
        | some count => exact List.take_prefix _ _
      · cases fails with
        | none => exact fun _ => rfl
        | some count => exact fun no => by cases no
  · rw [entriesGrow]
    refine List.pairwise_append.mpr ⟨sound.intact.inOrder, List.pairwise_singleton _ _, ?_⟩
    intro entry among last now
    obtain rfl := List.mem_singleton.mp now
    exact pending entry among
  · rw [entriesGrow]
    refine List.pairwise_append.mpr ⟨sound.intact.cutLast, List.pairwise_singleton _ _, ?_⟩
    intro entry among last now cut same
    obtain rfl := List.mem_singleton.mp now
    rcases sound.torn entry among cut with closed | ends
    · rw [same, isOpen] at closed
      cases closed
    · rw [point] at ends
      cases ends
  · intro other last
    rw [Last, next, names] at last
    have grown : contentOf (trace ++
        [.wrote ⟨nal.number, stream, fails.elim nal.data nal.data.take, fails.isNone⟩]) other =
          contentOf trace other ++
            if stream = other then fails.elim nal.data nal.data.take else [] := by
      rw [contentOf, entriesGrow, List.filter_append, List.flatMap_append]
      by_cases same : stream = other
      · simp [contentOf, same]
      · simp [contentOf, same]
    rw [grown, disk, names]
    rcases eq_or_ne stream other with rfl | different
    · rw [Function.update_self, if_pos rfl, sound.intact.content stream last]
    · have names : recorder.nameOf other ≠ recorder.nameOf stream := by
        intro same
        have above := lastOpen.2 other last.1 same
        have below := last.2 stream lastOpen.1 same.symm
        omega
      rw [Function.update_of_ne names, if_neg different, List.append_nil,
        sound.intact.content other last]

theorem Sound.put (sound : Sound recorder trace) (fails : Option ℕ) :
    Sound (recorder.put fails).1 (trace ++ (recorder.put fails).2) := by
  unfold VideoRecorder.put
  split
  · rename_i nal stream point
    have free : recorder.monitor ≠ .stopping true := by
      rw [ne_eq, ← sound.stops, point]
      simp
    split
    · refine sound.silent _ silent_nil (sound.locked.writer _ _ _ _) ⟨rfl, rfl, rfl, rfl⟩
        (fun _ no => by cases no) (fun _ no => by cases no) (fun _ _ => .inr rfl) ?_
      simp [free]
    · rename_i notClosed
      have isOpen : recorder.isOpen stream = true := by simpa using notClosed
      have entriesGrow := entries_append trace
        [.wrote ⟨nal.number, stream, fails.elim nal.data nal.data.take, fails.isNone⟩]
      have nals : handedNals (trace ++
          [.wrote ⟨nal.number, stream, fails.elim nal.data nal.data.take, fails.isNone⟩]) =
            handedNals trace := by
        rw [handedNals_append]
        exact List.append_nil _
      have noneLeft : ∀ nal', (if fails.isSome then WriterPoint.failed
          else .written nal).pending ≠ some nal' := by
        cases fails <;> simp [WriterPoint.pending]
      refine ⟨sound.locked.writer _ _ _ _, .put sound point isOpen fails _ rfl rfl rfl, ?_, ?_, ?_,
        ?_, ?_, ?_⟩
      · rw [nals]
        exact sound.handed
      · intro nal' same
        rw [nals]
        refine sound.inHand nal' ?_
        rw [point]
        cases fails with
        | none => exact same
        | some count => cases same
      · exact fun nal' same => absurd same (noneLeft nal')
      · rw [entriesGrow]
        intro entry among
        rcases List.mem_append.mp among with before | now
        · exact sound.known entry before
        · obtain rfl := List.mem_singleton.mp now
          exact (sound.last_open isOpen).1
      · rw [entriesGrow]
        intro entry among cut
        rcases List.mem_append.mp among with before | now
        · refine (sound.torn entry before cut).imp_right fun ends => ?_
          rw [point] at ends
          cases ends
        · obtain rfl := List.mem_singleton.mp now
          refine .inr ?_
          cases fails with
          | none => cases cut
          | some count => rfl
      · cases fails <;> simp [free]
  · exact sound.unchanged silent_nil

theorem Sound.count (sound : Sound recorder trace) :
    Sound recorder.count.1 (trace ++ recorder.count.2) := by
  unfold VideoRecorder.count
  split
  · rename_i nal point
    have free : recorder.monitor ≠ .stopping true := by
      rw [ne_eq, ← sound.stops, point]
      simp
    refine sound.silent _ silent_nil (sound.locked.writer _ _ _ _) ⟨rfl, rfl, rfl, rfl⟩
      (fun _ no => by cases no) (fun _ no => by cases no) ?_ ?_
    · rw [point]
      exact fun stream closed => closed.imp_right fun no => by cases no
    · simp [free]
  · exact sound.unchanged silent_nil

end Steps

/-- **The files of every run**, however the receive thread and the main thread interleave. -/
theorem recordings_intact (disk : String → List Byte) (events : List RecorderEvent) :
    Intact (recorderMachine.after { disk } events) (recorderMachine.outputs { disk } events) := by
  have sound := Mealy.invariant_of_step (m := recorderMachine) Sound (sound_fresh disk)
    (fun recorder trace event sound => by
      cases event with
      | startEnter directory stamp codec opens =>
          exact sound.startEnter directory stamp codec opens
      | startFinish => exact sound.startFinish
      | stopEnter byWriter => exact sound.stopEnter byWriter
      | stopFinish => exact sound.stopFinish
      | write data => exact sound.write data
      | take => exact sound.take
      | put fails => exact sound.put fails
      | count => exact sound.count) events
  exact sound.intact

/-- A recording is stopped and another one started while a unit is on its way: the unit is dropped,
and since the write to the closed stream throws, the new recording is stopped. -/
example :
    (recorderMachine.after { disk := fun _ => [] }
      [.startEnter true "1" .h264 true, .startFinish, .write [7], .take, .stopEnter false,
        .stopFinish, .startEnter true "2" .h264 true, .startFinish, .put none, .stopEnter true,
        .stopFinish]).recording = false := by
  decide

end App

end MobileGs

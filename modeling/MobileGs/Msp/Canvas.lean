import MobileGs.Foundations.RowMajor
import MobileGs.Msp.Frame

/-!
# The canvas a DisplayPort stream draws

What DisplayPort is for: a table of cells that messages clear, write to, resize and
publish. The machine works on whole messages and knows nothing of bytes, frames, checksums
or the order in which cells are stored.

The decoder's frame is the canvas row by row (`Canvas.render`), and a message handled by the
decoder does to the frame what it does to the canvas (`run_frame`). So a stream of valid
frames, with other bytes than `$` between them and cut into chunks in any way, is dispatched
message by message, and the callback receives what the canvas publishes
(`pushes_stream`).
-/

set_option autoImplicit false

namespace MobileGs

namespace Msp

/-! ## The canvas -/

/-- A table of cells. Only the cells inside the table matter. -/
structure Canvas where
  rows : ℕ
  cols : ℕ
  cell : ℕ → ℕ → OsdCell

namespace Canvas

def blank (rows cols : ℕ) : Canvas := ⟨rows, cols, fun _ _ => {}⟩

def clear (canvas : Canvas) : Canvas := blank canvas.rows canvas.cols

/-- A new size blanks the canvas, the present size leaves it as it is. -/
def resize (canvas : Canvas) (rows cols : ℕ) : Canvas :=
  if canvas.rows = rows ∧ canvas.cols = cols then canvas else blank rows cols

/-- The characters that are written: those before the first NUL. -/
def run (characters : List Byte) : List Byte := characters.takeWhile (· ≠ 0)

/-- Write a run of characters to a row, from a column on up to the right edge. -/
def put (canvas : Canvas) (row col : ℕ) (attributes : Byte) (characters : List Byte) :
    Canvas :=
  { canvas with
    cell := fun r c =>
      if r = row ∧ col ≤ c ∧ c < col + (run characters).length ∧ c < canvas.cols then
        { glyph := ((run characters).getD (c - col) 0).toUInt16 |||
            ((attributes &&& 3).toUInt16 <<< 8)
          attributes }
      else canvas.cell r c }

/-- A write that starts off the canvas is ignored. -/
def write (canvas : Canvas) (row col : ℕ) (attributes : Byte) (characters : List Byte) :
    Canvas :=
  if row < canvas.rows ∧ col < canvas.cols then canvas.put row col attributes characters
  else canvas

/-- The cells of the canvas, row by row. -/
def render (canvas : Canvas) : OsdFrame :=
  ⟨canvas.rows, canvas.cols, rowMajor canvas.rows canvas.cols canvas.cell⟩

end Canvas

/-- What a message asks the canvas to do. -/
inductive Drawing where
  | clear
  | write (row col : ℕ) (attributes : Byte) (characters : List Byte)
  | publish
  | resize (rows cols : ℕ)
  | release
  | nothing

/-- The drawing a DisplayPort payload stands for. -/
def Drawing.ofPayload : List Byte → Drawing
  | [] => .nothing
  | cmd :: arguments =>
      match DisplayPortCmd.ofByte? cmd, arguments with
      | some .clear, _ => .clear
      | some .writeString, row :: col :: attributes :: characters =>
          .write row.toNat col.toNat attributes characters
      | some .drawScreen, _ => .publish
      | some .options, _ :: variant :: _ => if variant = 0 then .resize 16 30 else .resize 20 53
      | some .release, _ => .release
      | _, _ => .nothing

/-- A message is a drawing when its function is DisplayPort. -/
def Drawing.ofMessage (message : Message) : Drawing :=
  if message.1 = 182 then .ofPayload message.2 else .nothing

/-- The canvas after a drawing, and what it publishes. -/
def Canvas.draw (canvas : Canvas) : Drawing → Canvas × List Canvas
  | .clear => (canvas.clear, [])
  | .write row col attributes characters => (canvas.write row col attributes characters, [])
  | .publish => (canvas, [canvas])
  | .resize rows cols => (canvas.resize rows cols, [])
  | .release => (canvas.clear, [canvas.clear])
  | .nothing => (canvas, [])

/-- The canvas as a machine over messages. -/
def canvasMachine : Mealy Canvas Message Canvas where
  step canvas message := canvas.draw (.ofMessage message)

/-! ## The decoder's frame is the canvas -/

theorem render_clear (canvas : Canvas) : canvas.render.clear = canvas.clear.render := by
  simp only [OsdFrame.clear, Canvas.render, Canvas.clear, Canvas.blank, length_rowMajor,
    rowMajor_const]

theorem render_blank (rows cols : ℕ) :
    (Canvas.blank rows cols).render = ⟨rows, cols, List.replicate (rows * cols) {}⟩ := by
  simp only [Canvas.render, Canvas.blank, rowMajor_const]

theorem render_resize (canvas : Canvas) {rows cols : ℕ} (someRow : 0 < rows)
    (someCol : 0 < cols) (room : rows * cols < 2 ^ 64) :
    canvas.render.setCanvas rows cols = (canvas.resize rows cols).render := by
  have positive : ¬ ((rows : ℤ) ≤ 0 ∨ (cols : ℤ) ≤ 0) := by omega
  unfold OsdFrame.setCanvas Canvas.resize
  rw [if_neg positive]
  simp only [Canvas.render, Int.natCast_inj, Int.toNat_natCast, Store.assign]
  split
  · rfl
  · rw [Nat.mod_eq_of_lt room]
    exact (render_blank rows cols).symm

theorem run_cons {character : Byte} (printable : character ≠ 0) (rest : List Byte) :
    Canvas.run (character :: rest) = character :: Canvas.run rest := by
  rw [Canvas.run, List.takeWhile_cons_of_pos (by simpa using printable)]
  rfl

/-- One character of a run: its cell, and the rest of the run behind it. -/
theorem put_cons (canvas : Canvas) {row col : ℕ} {attributes character : Byte}
    {rest : List Byte} (printable : character ≠ 0) (within : col < canvas.cols) :
    canvas.put row col attributes (character :: rest) =
      Canvas.put
        { canvas with
          cell := fun r c =>
            if r = row ∧ c = col then writtenCell attributes character else canvas.cell r c }
        row (col + 1) attributes rest := by
  unfold Canvas.put
  rw [run_cons printable]
  congr 1
  funext r c
  simp only [List.length_cons]
  by_cases first : r = row ∧ c = col
  · obtain ⟨rfl, rfl⟩ := first
    rw [if_pos (by omega), if_neg (by omega), if_pos ⟨rfl, rfl⟩, Nat.sub_self]
    rfl
  · rw [if_neg first]
    by_cases later : r = row ∧ col + 1 ≤ c ∧ c < col + 1 + (Canvas.run rest).length ∧
        c < canvas.cols
    · obtain ⟨k, rfl⟩ : ∃ k, c = col + 1 + k := Nat.exists_eq_add_of_le later.2.1
      have index : col + 1 + k - col = k + 1 := by omega
      have index' : col + 1 + k - (col + 1) = k := by omega
      rw [if_pos later, if_pos (by omega), index, index', List.getD_cons_succ]
    · rw [if_neg later, if_neg (by omega)]

/-- A run that is empty or starts at the right edge writes nothing. -/
theorem put_nothing (canvas : Canvas) {row col : ℕ} {attributes : Byte}
    {characters : List Byte} (ends : Canvas.run characters = [] ∨ canvas.cols ≤ col) :
    canvas.put row col attributes characters = canvas := by
  unfold Canvas.put
  congr 1
  funext r c
  apply if_neg
  rintro ⟨-, from_col, before, inside⟩
  rcases ends with empty | edge
  · rw [empty, List.length_nil] at before
    omega
  · omega

/-- **The loop over the characters writes the run.** -/
theorem render_writeRun (row : ℕ) (attributes : Byte) (canvas : Canvas) (col : ℕ)
    (characters : List Byte) :
    OsdFrame.writeRun row attributes canvas.render col characters =
      (canvas.put row col attributes characters).render := by
  induction characters generalizing canvas col with
  | nil =>
      rw [put_nothing canvas (.inl rfl)]
      rfl
  | cons character rest ih =>
      unfold OsdFrame.writeRun
      split
      · rename_i edge
        rw [put_nothing canvas (.inr edge)]
      · rename_i inside
        have within : col < canvas.cols := Nat.lt_of_not_le inside
        split
        · rename_i nul
          rw [put_nothing canvas (.inl (by rw [nul]; rfl))]
        · rename_i printable
          rw [put_cons canvas printable within, ← ih]
          congr 1
          simp only [Canvas.render, rowMajor_set canvas.cell _ within]

/-- The decoder's frame is the canvas, and the callback is set. -/
structure Shows (decoder : MspOsdDecoder) (canvas : Canvas) : Prop where
  listening : decoder.callback = true
  frame : decoder.frame = canvas.render

/-- Handling a payload touches the frame and the counter of frames only. -/
theorem handleDisplayPort_keeps (decoder : MspOsdDecoder) (payload : List Byte) :
    ∃ frame frames,
      (decoder.handleDisplayPort payload).1 =
        { decoder with frame := frame, frames := frames } := by
  unfold MspOsdDecoder.handleDisplayPort MspOsdDecoder.setCanvas
  repeat' split
  all_goals exact ⟨_, _, rfl⟩

/-- **A payload does to the decoder's frame what it does to the canvas.** -/
theorem handleDisplayPort_draws {decoder : MspOsdDecoder} {canvas : Canvas}
    (shows : Shows decoder canvas) (payload : List Byte) :
    (decoder.handleDisplayPort payload).1.frame =
        (canvas.draw (.ofPayload payload)).1.render ∧
      (decoder.handleDisplayPort payload).2 =
        (canvas.draw (.ofPayload payload)).2.map fun shown => .published shown.render := by
  cases payload with
  | nil => exact ⟨shows.frame, rfl⟩
  | cons cmd arguments =>
      simp only [MspOsdDecoder.handleDisplayPort, Drawing.ofPayload]
      cases DisplayPortCmd.ofByte? cmd with
      | none => exact ⟨shows.frame, rfl⟩
      | some known =>
          cases known with
          | heartbeat => exact ⟨shows.frame, rfl⟩
          | sys => exact ⟨shows.frame, rfl⟩
          | clear =>
              refine ⟨?_, rfl⟩
              simp only [shows.frame, render_clear]
              rfl
          | release =>
              simp only [MspOsdDecoder.publish, shows.listening, shows.frame, render_clear]
              exact ⟨rfl, rfl⟩
          | drawScreen =>
              simp only [MspOsdDecoder.publish, shows.listening, shows.frame]
              exact ⟨rfl, rfl⟩
          | options =>
              rcases arguments with _ | ⟨_, _ | ⟨variant, _⟩⟩
              · exact ⟨shows.frame, rfl⟩
              · exact ⟨shows.frame, rfl⟩
              · simp only [MspOsdDecoder.setCanvas, shows.frame]
                split
                · have standard : 0 < osdRowsSd ∧ 0 < osdColsSd := by decide
                  exact ⟨render_resize canvas standard.1 standard.2 (by decide), rfl⟩
                · have high : 0 < osdRowsHd ∧ 0 < osdColsHd := by decide
                  exact ⟨render_resize canvas high.1 high.2 (by decide), rfl⟩
          | writeString =>
              rcases arguments with _ | ⟨row, _ | ⟨col, _ | ⟨attributes, characters⟩⟩⟩
              · exact ⟨shows.frame, rfl⟩
              · exact ⟨shows.frame, rfl⟩
              · exact ⟨shows.frame, rfl⟩
              · simp only [shows.frame, Canvas.draw, Canvas.write]
                split
                · rename_i off
                  rw [if_neg (by simp only [Canvas.render] at off; omega)]
                  exact ⟨shows.frame, rfl⟩
                · rename_i on
                  rw [if_pos (by simp only [Canvas.render] at on; omega)]
                  exact ⟨render_writeRun _ _ _ _ _, rfl⟩

/-- A dispatched message is one step of the canvas. -/
theorem dispatchMessage_draws {decoder : MspOsdDecoder} {canvas : Canvas}
    (shows : Shows decoder canvas) :
    Shows decoder.dispatchMessage.1
        (canvasMachine.step canvas (decoder.function, decoder.payload)).1 ∧
      decoder.dispatchMessage.1.checksumErrors = decoder.checksumErrors ∧
      decoder.dispatchMessage.2 = .message decoder.function decoder.payload ::
        (canvasMachine.step canvas (decoder.function, decoder.payload)).2.map
          fun shown => .published shown.render := by
  have counted : Shows { decoder with messages := decoder.messages + 1 } canvas :=
    ⟨shows.listening, shows.frame⟩
  unfold MspOsdDecoder.dispatchMessage canvasMachine Drawing.ofMessage
  by_cases displayPort : decoder.function = mspDisplayPort
  · obtain ⟨frame, published⟩ := handleDisplayPort_draws counted decoder.payload
    obtain ⟨_, _, keeps⟩ := handleDisplayPort_keeps
      { decoder with messages := decoder.messages + 1 } decoder.payload
    simp only [if_pos displayPort]
    have native : decoder.function = 182 := displayPort
    simp only [if_pos native]
    refine ⟨⟨?_, frame⟩, ?_, by rw [published]⟩
    · rw [keeps]
      exact shows.listening
    · rw [keeps]
  · have other : ¬ decoder.function = 182 := displayPort
    simp only [if_neg displayPort, if_neg other]
    exact ⟨counted, trivial, rfl⟩

/-! ## Streams -/

/-- Bytes other than `$`. -/
structure Filler where
  bytes : List Byte := []
  plain : dollar ∉ bytes := by decide

/-- Frames on the wire, each behind its filler. -/
def stream (items : List (Filler × MspFrame)) : List Byte :=
  items.flatMap fun item => item.1.bytes ++ item.2.bytes

/-- The messages dispatched among outputs. -/
def messagesOf (outputs : List Output) : List Message :=
  outputs.filterMap fun output =>
    match output with
    | .message function payload => some (function, payload)
    | .published _ => none

/-- The frames given to the callback among outputs. -/
def publishedOf (outputs : List Output) : List OsdFrame :=
  outputs.filterMap fun output =>
    match output with
    | .message _ _ => none
    | .published frame => some frame

theorem messagesOf_append (first later : List Output) :
    messagesOf (first ++ later) = messagesOf first ++ messagesOf later :=
  List.filterMap_append

@[simp] theorem messagesOf_message (function : UInt16) (payload : List Byte)
    (outputs : List Output) :
    messagesOf (.message function payload :: outputs) =
      (function, payload) :: messagesOf outputs := rfl

theorem publishedOf_append (first later : List Output) :
    publishedOf (first ++ later) = publishedOf first ++ publishedOf later :=
  List.filterMap_append

theorem messagesOf_published (shown : List Canvas) :
    messagesOf (shown.map fun canvas => .published canvas.render) = [] := by
  simp [messagesOf, List.filterMap_map]

theorem publishedOf_published (shown : List Canvas) :
    publishedOf (shown.map fun canvas => .published canvas.render) =
      shown.map Canvas.render := by
  simp [publishedOf, List.filterMap_map]

/-- Handling a payload dispatches nothing further. -/
theorem messagesOf_handleDisplayPort (decoder : MspOsdDecoder) (payload : List Byte) :
    messagesOf (decoder.handleDisplayPort payload).2 = [] := by
  have publishes : ∀ decoder : MspOsdDecoder, messagesOf decoder.publish = [] := by
    intro decoder
    unfold MspOsdDecoder.publish
    split <;> rfl
  unfold MspOsdDecoder.handleDisplayPort
  repeat' split
  all_goals first | rfl | exact publishes _

theorem messagesOf_dispatchMessage (decoder : MspOsdDecoder) :
    messagesOf decoder.dispatchMessage.2 = [(decoder.function, decoder.payload)] := by
  simp only [MspOsdDecoder.dispatchMessage, messagesOf_message]
  split
  · rw [messagesOf_handleDisplayPort]
  · rfl

open MspOsdDecoder

/-- **A frame is one step of the canvas.** -/
theorem run_frame {decoder : MspOsdDecoder} {canvas : Canvas} (idle : decoder.state = .idle)
    (shows : Shows decoder canvas) (frame : MspFrame) :
    (bytewise.run decoder frame.bytes).1.state = .idle ∧
      Shows (bytewise.run decoder frame.bytes).1 (canvasMachine.step canvas frame.message).1 ∧
      (bytewise.run decoder frame.bytes).1.checksumErrors = decoder.checksumErrors ∧
      (bytewise.run decoder frame.bytes).2 =
        .message frame.message.1 frame.message.2 ::
          (canvasMachine.step canvas frame.message).2.map
            fun shown => .published shown.render := by
  have reads : Shows (frame.read decoder) canvas ∧
      (frame.read decoder).checksumErrors = decoder.checksumErrors ∧
      ((frame.read decoder).function, (frame.read decoder).payload) = frame.message := by
    cases frame <;> exact ⟨⟨shows.listening, shows.frame⟩, rfl, rfl⟩
  obtain ⟨shown, clean, message⟩ := reads
  obtain ⟨draws, errors, emitted⟩ := dispatchMessage_draws shown
  rw [run_bytes idle frame, ← message]
  exact ⟨rfl, ⟨draws.listening, draws.frame⟩, errors.trans clean, emitted⟩

/-- The decoder on a stream of frames follows the canvas on their messages. -/
theorem run_stream {decoder : MspOsdDecoder} {canvas : Canvas} (idle : decoder.state = .idle)
    (shows : Shows decoder canvas) (items : List (Filler × MspFrame)) (trailing : Filler) :
    messagesOf (bytewise.run decoder (stream items ++ trailing.bytes)).2 =
        items.map (fun item => item.2.message) ∧
      (bytewise.run decoder (stream items ++ trailing.bytes)).1.checksumErrors =
        decoder.checksumErrors ∧
      publishedOf (bytewise.run decoder (stream items ++ trailing.bytes)).2 =
        (canvasMachine.outputs canvas (items.map fun item => item.2.message)).map
          Canvas.render := by
  induction items generalizing decoder canvas with
  | nil =>
      have ignored := run_filler idle trailing.plain []
      rw [List.append_nil] at ignored
      rw [stream, List.flatMap_nil, List.nil_append, ignored]
      exact ⟨rfl, rfl, rfl⟩
  | cons item items ih =>
      obtain ⟨idle', shows', clean, emitted⟩ := run_frame idle shows item.2
      obtain ⟨messages, errors, published⟩ := ih idle' shows'
      rw [stream] at messages errors published ⊢
      rw [List.flatMap_cons, List.append_assoc, List.append_assoc,
        run_filler idle item.1.plain, bytewise.run_append]
      simp only [messagesOf_append, publishedOf_append, messages, errors, clean, published,
        emitted, List.map_cons, Mealy.outputs_cons, List.map_append, true_and]
      constructor
      · rw [← List.singleton_append, messagesOf_append, messagesOf_published]
        rfl
      · rw [← List.singleton_append, publishedOf_append, publishedOf_published]
        rfl

end Msp

end MobileGs

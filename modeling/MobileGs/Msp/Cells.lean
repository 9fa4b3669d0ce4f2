import MobileGs.Foundations.BigEndian
import MobileGs.Foundations.RowMajor
import MobileGs.Msp.Soundness

/-!
# The cells of the canvas

The frame of the decoder is a grid: it has a row and a column, as many cells as the two make, and in
each cell a glyph of the page its attributes select (`OsdFrame.WellFormed`). WRITE_STRING puts its
cells one by one (`CellWrite`, `writeRun_eq`), each of them inside its row.

A byte does one of four things to the frame (`Redraw`): nothing, a clear, a resize, or a series of
writes, and these are all the writes there are to the frame it leaves (`Edit.Sound`). Each keeps the
grid. A call of `SetCanvas` does if the cells of the new size can be counted and stored. The sizes
are stored first, so of one whose cells are not there is no grid (`not_grid_wrapped`). The canvas is
a grid in every run whose calls all find room for their cells, whatever their order
(`canvasCalls_grid`).
-/

set_option autoImplicit false

namespace MobileGs

namespace Msp

open MspOsdDecoder

/-! ## Grids -/

/-- A new size has cells that can be counted and that there is room for. -/
def Store.Room (store : Store) (frame : OsdFrame) (rows cols : ℤ) : Prop :=
  0 < rows ∧ 0 < cols → ¬ ((frame.rows : ℤ) = rows ∧ (frame.cols : ℤ) = cols) →
    rows.toNat * cols.toNat < 2 ^ store.sizeBits ∧ store.thrown = none

/-- The glyph is one of the page the attributes select. -/
structure OsdCell.Paged (cell : OsdCell) : Prop where
  glyph : cell.glyph ≤ 0x3ff
  page : cell.glyph >>> 8 = (cell.attributes &&& 3).toUInt16

/-- The cells make a grid. -/
structure OsdFrame.WellFormed (frame : OsdFrame) : Prop where
  rows : 0 < frame.rows
  cols : 0 < frame.cols
  size : frame.cells.length = frame.rows * frame.cols
  paged : ∀ cell ∈ frame.cells, cell.Paged

theorem paged_blank : OsdCell.Paged {} where
  glyph := by decide
  page := by decide

/-- A character and a font page do not overlap. -/
theorem toNat_glyph (attributes character : Byte) :
    (writtenCell attributes character).glyph.toNat =
      (attributes &&& 3).toNat * 256 + character.toNat := by
  have page : (attributes &&& 3).toNat < 4 := by
    rw [UInt8.toNat_and]
    exact Nat.lt_of_le_of_lt Nat.and_le_right (by decide)
  have byte := character.toNat_lt
  have shifted : (fontPage attributes).toNat = (attributes &&& 3).toNat <<< 8 := by
    rw [fontPage, UInt16.toNat_shiftLeft, UInt8.toNat_toUInt16]
    change (attributes &&& 3).toNat <<< 8 % 2 ^ 16 = _
    rw [Nat.shiftLeft_eq]
    exact Nat.mod_eq_of_lt (by omega)
  rw [writtenCell, UInt16.toNat_or, UInt8.toNat_toUInt16, shifted, Nat.or_comm]
  exact shiftLeft_or _ byte

theorem paged_writtenCell (attributes character : Byte) :
    (writtenCell attributes character).Paged := by
  have glyph := toNat_glyph attributes character
  have page : (attributes &&& 3).toNat < 4 := by
    rw [UInt8.toNat_and]
    exact Nat.lt_of_le_of_lt Nat.and_le_right (by decide)
  have byte := character.toNat_lt
  constructor
  · rw [UInt16.le_iff_toNat_le, glyph]
    change _ ≤ 1023
    omega
  · apply UInt16.toNat_inj.mp
    rw [UInt16.toNat_shiftRight, glyph, UInt8.toNat_toUInt16]
    change ((attributes &&& 3).toNat * 256 + character.toNat) >>> 8 = _
    rw [Nat.shiftRight_eq_div_pow]
    change _ = (attributes &&& 3).toNat
    omega

/-! ## The calls of `at` -/

/-- A cell `WRITE_STRING` puts, by its arguments of `at`. -/
structure CellWrite where
  row : ℕ
  col : ℕ
  cell : OsdCell
  deriving DecidableEq, Repr

/-- `at(row, col) = cell`. -/
def OsdFrame.put (frame : OsdFrame) (write : CellWrite) : OsdFrame :=
  { frame with cells := frame.cells.set (write.row * frame.cols + write.col) write.cell }

/-- The writes of the loop over the characters. -/
def runWrites (cols row : ℕ) (attributes : Byte) : ℕ → List Byte → List CellWrite
  | _, [] => []
  | targetCol, character :: rest =>
      if targetCol ≥ cols then []
      else if character = 0 then []
      else
        ⟨row, targetCol, writtenCell attributes character⟩ ::
          runWrites cols row attributes (targetCol + 1) rest

/-- **The loop is its writes**, one after another. -/
theorem writeRun_eq (row : ℕ) (attributes : Byte) (frame : OsdFrame) (col : ℕ)
    (characters : List Byte) :
    OsdFrame.writeRun row attributes frame col characters =
      (runWrites frame.cols row attributes col characters).foldl OsdFrame.put frame := by
  induction characters generalizing frame col with
  | nil => rfl
  | cons character rest ih =>
      unfold OsdFrame.writeRun runWrites
      split
      · rfl
      · split
        · rfl
        · exact ih _ (col + 1)

/-- A write inside its row, and inside the cells. -/
structure CellWrite.Within (frame : OsdFrame) (write : CellWrite) : Prop where
  row : write.row < frame.rows
  col : write.col < frame.cols
  index : write.row * frame.cols + write.col < frame.cells.length

/-- The writes of a loop stay in their row, and their glyphs on their page. -/
theorem mem_runWrites {cols row col : ℕ} {attributes : Byte} {characters : List Byte}
    {write : CellWrite} (member : write ∈ runWrites cols row attributes col characters) :
    write.row = row ∧ write.col < cols ∧ write.cell.Paged := by
  induction characters generalizing col with
  | nil => exact absurd member List.not_mem_nil
  | cons character rest ih =>
      unfold runWrites at member
      split at member
      · exact absurd member List.not_mem_nil
      · rename_i inside
        split at member
        · exact absurd member List.not_mem_nil
        · rcases List.mem_cons.mp member with rfl | later
          · exact ⟨rfl, Nat.lt_of_not_le inside, paged_writtenCell _ _⟩
          · exact ih later

namespace OsdFrame.WellFormed

variable {frame : OsdFrame}

theorem put (wellFormed : frame.WellFormed) {write : CellWrite} (paged : write.cell.Paged) :
    (frame.put write).WellFormed where
  rows := wellFormed.rows
  cols := wellFormed.cols
  size := by
    rw [OsdFrame.put, List.length_set]
    exact wellFormed.size
  paged cell member := by
    rcases List.mem_or_eq_of_mem_set member with before | rfl
    · exact wellFormed.paged cell before
    · exact paged

theorem puts (wellFormed : frame.WellFormed) {writes : List CellWrite}
    (paged : ∀ write ∈ writes, write.cell.Paged) :
    (writes.foldl OsdFrame.put frame).WellFormed := by
  induction writes generalizing frame with
  | nil => exact wellFormed
  | cons write rest ih =>
      exact ih (wellFormed.put (paged write List.mem_cons_self)) fun other among =>
        paged other (List.mem_cons_of_mem _ among)

/-- A blank grid. -/
theorem blank {rows cols : ℕ} (someRow : 0 < rows) (someCol : 0 < cols) :
    (OsdFrame.mk rows cols (List.replicate (rows * cols) {})).WellFormed where
  rows := someRow
  cols := someCol
  size := List.length_replicate
  paged cell member := by
    rw [List.eq_of_mem_replicate member]
    exact paged_blank

theorem clear (wellFormed : frame.WellFormed) : frame.clear.WellFormed := by
  rw [OsdFrame.clear, wellFormed.size]
  exact blank wellFormed.rows wellFormed.cols

theorem setCanvas (wellFormed : frame.WellFormed) {rows cols : ℤ} {store : Store}
    (room : store.Room frame rows cols) : (frame.setCanvas rows cols store).WellFormed := by
  unfold OsdFrame.setCanvas
  split
  · exact wellFormed
  · rename_i positive
    split
    · exact wellFormed
    · rename_i other
      obtain ⟨fits, stored⟩ := room (not_or.mp positive |>.imp not_le.mp not_le.mp) other
      rw [Store.assign, stored]
      dsimp only
      rw [Nat.mod_eq_of_lt fits]
      exact blank (by omega) (by omega)

end OsdFrame.WellFormed

/-- **A canvas of the present size, or of none, changes nothing.** -/
theorem setCanvas_same (frame : OsdFrame) {rows cols : ℤ} (store : Store)
    (same : rows ≤ 0 ∨ cols ≤ 0 ∨ ((frame.rows : ℤ) = rows ∧ (frame.cols : ℤ) = cols)) :
    frame.setCanvas rows cols store = frame := by
  unfold OsdFrame.setCanvas
  split
  · rfl
  · rename_i positive
    rw [if_pos]
    omega

/-! ## What a byte does to the frame -/

/-- What the frame can become, and the writes that make it so. -/
inductive Redraw (frame : OsdFrame) : List CellWrite → OsdFrame → Prop where
  | keep : Redraw frame [] frame
  | clear : Redraw frame [] frame.clear
  | standard : Redraw frame [] (frame.setCanvas osdRowsSd osdColsSd)
  | high : Redraw frame [] (frame.setCanvas osdRowsHd osdColsHd)
  | puts (writes : List CellWrite) : Redraw frame writes (writes.foldl OsdFrame.put frame)

/-- The frame in front of a byte, the writes it makes, and the frame behind it. -/
structure Edit where
  before : OsdFrame
  writes : List CellWrite
  after : OsdFrame
  deriving DecidableEq, Repr

/-- The writes are those that were made, each inside its row and inside the cells, and each of a
glyph of its page. -/
structure Edit.Sound (edit : Edit) : Prop where
  redraw : Redraw edit.before edit.writes edit.after
  within : ∀ write ∈ edit.writes, write.Within edit.before
  paged : ∀ write ∈ edit.writes, write.cell.Paged

theorem Redraw.wellFormed {frame frame' : OsdFrame} {writes : List CellWrite}
    (redraw : Redraw frame writes frame') (paged : ∀ write ∈ writes, write.cell.Paged)
    (wellFormed : frame.WellFormed) : frame'.WellFormed := by
  cases redraw with
  | keep => exact wellFormed
  | clear => exact wellFormed.clear
  | standard => exact wellFormed.setCanvas fun _ _ => ⟨by decide, rfl⟩
  | high => exact wellFormed.setCanvas fun _ _ => ⟨by decide, rfl⟩
  | puts writes => exact wellFormed.puts paged

/-- The writes of a string that starts on the canvas are inside its row. -/
theorem within_runWrites {frame : OsdFrame} (wellFormed : frame.WellFormed) {row col : ℕ}
    (inRow : row < frame.rows) {attributes : Byte} {characters : List Byte} {write : CellWrite}
    (member : write ∈ runWrites frame.cols row attributes col characters) :
    write.Within frame := by
  obtain ⟨rfl, inCol, -⟩ := mem_runWrites member
  refine ⟨inRow, inCol, ?_⟩
  rw [wellFormed.size]
  exact rowMajor_index_lt inRow inCol

/-- The writes of `HandleDisplayPort`. -/
def displayPortWrites (frame : OsdFrame) : List Byte → List CellWrite
  | cmd :: row :: col :: attributes :: characters =>
      if DisplayPortCmd.ofByte? cmd = some .writeString then
        if row.toNat ≥ frame.rows ∨ col.toNat ≥ frame.cols then []
        else runWrites frame.cols row.toNat attributes col.toNat characters
      else []
  | _ => []

/-- **A payload redraws the frame**, by the writes it makes. -/
theorem handleDisplayPort_redraw (decoder : MspOsdDecoder) (payload : List Byte) :
    Redraw decoder.frame (displayPortWrites decoder.frame payload)
      (decoder.handleDisplayPort payload).1.frame := by
  cases payload with
  | nil => exact .keep
  | cons cmd arguments =>
      simp only [handleDisplayPort]
      cases known : DisplayPortCmd.ofByte? cmd with
      | none =>
          rcases arguments with _ | ⟨_, _ | ⟨_, _ | ⟨_, _⟩⟩⟩ <;>
            simp only [displayPortWrites, known, reduceCtorEq, if_false] <;> exact .keep
      | some subcommand =>
          have others : subcommand ≠ .writeString →
              displayPortWrites decoder.frame (cmd :: arguments) = [] := by
            intro other
            unfold displayPortWrites
            split
            · rename_i split
              rw [← (List.cons.inj split).1, known, if_neg]
              exact fun same => other (Option.some.inj same)
            · rfl
          cases subcommand with
          | heartbeat =>
              rw [others (by decide)]
              exact .keep
          | sys =>
              rw [others (by decide)]
              exact .keep
          | clear =>
              rw [others (by decide)]
              exact .clear
          | release =>
              rw [others (by decide)]
              exact .clear
          | drawScreen =>
              rw [others (by decide)]
              exact .keep
          | options =>
              rw [others (by decide)]
              rcases arguments with _ | ⟨_, _ | ⟨variant, _⟩⟩
              · exact .keep
              · exact .keep
              · dsimp only
                split
                · exact .standard
                · exact .high
          | writeString =>
              rcases arguments with _ | ⟨row, _ | ⟨col, _ | ⟨attributes, characters⟩⟩⟩
              · exact .keep
              · exact .keep
              · exact .keep
              · rw [displayPortWrites, if_pos known]
                dsimp only
                split
                · exact .keep
                · rw [writeRun_eq]
                  exact .puts _

/-- Every one of them is inside its row, and of a glyph of its page. -/
theorem displayPortWrites_within {frame : OsdFrame} (wellFormed : frame.WellFormed)
    (payload : List Byte) :
    ∀ write ∈ displayPortWrites frame payload, write.Within frame ∧ write.cell.Paged := by
  intro write member
  unfold displayPortWrites at member
  split at member
  · split at member
    · split at member
      · exact absurd member List.not_mem_nil
      · rename_i on
        exact ⟨within_runWrites wellFormed (Nat.lt_of_not_le fun off => on (.inl off)) member,
          (mem_runWrites member).2.2⟩
    · exact absurd member List.not_mem_nil
  · exact absurd member List.not_mem_nil

/-- The writes of `HandleByte`. -/
def MspOsdDecoder.byteWrites (decoder : MspOsdDecoder) (byte : Byte) : List CellWrite :=
  if decoder.AtChecksum ∧ decoder.checksum = byte ∧ decoder.function = mspDisplayPort then
    displayPortWrites decoder.frame decoder.payload
  else []

/-- **A byte redraws the frame**, by the writes it makes. -/
theorem handleByte_redraw (decoder : MspOsdDecoder) (byte : Byte) :
    Redraw decoder.frame (decoder.byteWrites byte) (decoder.handleByte byte).1.frame := by
  by_cases complete : decoder.AtChecksum
  · rw [handleByte_atChecksum complete]
    by_cases right : decoder.checksum = byte
    · rw [checkFrame_right right]
      by_cases displayPort : decoder.function = mspDisplayPort
      · rw [byteWrites, if_pos ⟨complete, right, displayPort⟩, dispatchMessage]
        simp only [if_pos displayPort]
        exact handleDisplayPort_redraw { decoder with messages := decoder.messages + 1 }
          decoder.payload
      · rw [byteWrites, if_neg fun all => displayPort all.2.2, dispatchMessage]
        simp only [if_neg displayPort]
        exact .keep
    · rw [checkFrame_wrong right, byteWrites, if_neg fun all => right all.2.1]
      exact .keep
  · rw [byteWrites, if_neg fun all => complete all.1, (handleByte_quiet complete byte).frame]
    exact .keep

/-- What a byte does to the frame. -/
def MspOsdDecoder.edit (decoder : MspOsdDecoder) (byte : Byte) : Edit where
  before := decoder.frame
  writes := decoder.byteWrites byte
  after := (decoder.handleByte byte).1.frame

theorem edit_sound {decoder : MspOsdDecoder} (wellFormed : decoder.frame.WellFormed)
    (byte : Byte) : (decoder.edit byte).Sound := by
  have within : ∀ write ∈ decoder.byteWrites byte,
      write.Within decoder.frame ∧ write.cell.Paged := by
    unfold byteWrites
    split
    · exact displayPortWrites_within wellFormed decoder.payload
    · exact fun _ none => absurd none List.not_mem_nil
  exact ⟨handleByte_redraw decoder byte, fun write member => (within write member).1,
    fun write member => (within write member).2⟩

theorem Edit.Sound.wellFormed {edit : Edit} (sound : edit.Sound)
    (wellFormed : edit.before.WellFormed) : edit.after.WellFormed :=
  sound.redraw.wellFormed sound.paged wellFormed

/-! ## Runs -/

/-- The calls of the two sides of the decoder. -/
inductive CanvasCall where
  | push (data : List Byte)
  | setCanvas (rows cols : ℤ) (store : Store)

/-- The decoder fed byte by byte, with what each of them does to the frame. -/
def edits : Mealy MspOsdDecoder Byte Edit where
  step decoder byte := ((decoder.handleByte byte).1, [decoder.edit byte])

/-- A sequence of calls of `Push` and `SetCanvas`. -/
def canvasCalls : Mealy MspOsdDecoder CanvasCall Edit where
  step decoder
    | .push data => ((decoder.push data).1, edits.outputs decoder data)
    | .setCanvas rows cols store => (decoder.setCanvas rows cols store, [])

/-- The edits are those of `Push`. -/
theorem after_edits (decoder : MspOsdDecoder) (data : List Byte) :
    edits.after decoder data = (decoder.push data).1 := by
  induction data generalizing decoder with
  | nil => rfl
  | cons byte rest ih => exact ih _

/-- There is room for the cells of a new size. -/
def CanvasCall.Room (decoder : MspOsdDecoder) : CanvasCall → Prop
  | .push _ => True
  | .setCanvas rows cols store => store.Room decoder.frame rows cols

instance (decoder : MspOsdDecoder) (call : CanvasCall) : Decidable (call.Room decoder) := by
  cases call with
  | push data => exact inferInstanceAs (Decidable True)
  | setCanvas rows cols store => exact inferInstanceAs (Decidable (_ → _ → _))

/-- The frame is a grid, and every edit so far was sound. -/
def Drawn (decoder : MspOsdDecoder) (edited : List Edit) : Prop :=
  decoder.frame.WellFormed ∧ ∀ edit ∈ edited, edit.Sound

theorem Drawn.push {decoder : MspOsdDecoder} {edited : List Edit} (drawn : Drawn decoder edited)
    (data : List Byte) :
    Drawn (edits.after decoder data) (edited ++ edits.outputs decoder data) := by
  refine Mealy.invariant_of_step (fun decoder emitted => Drawn decoder (edited ++ emitted))
    (by rwa [List.append_nil]) ?_ data
  rintro decoder emitted byte ⟨wellFormed, sound⟩
  have now := edit_sound wellFormed byte
  refine ⟨now.wellFormed wellFormed, fun edit member => ?_⟩
  rw [← List.append_assoc] at member
  rcases List.mem_append.mp member with before | last
  · exact sound edit before
  · rw [List.mem_singleton.mp last]
    exact now

theorem wellFormed_initial (callback : Bool) :
    (MspOsdDecoder.frame { callback }).WellFormed :=
  OsdFrame.WellFormed.blank (by decide) (by decide)

/-- What holds between the calls: the frame is a grid, every edit was sound, and a canvas of the
present size, or of none, changes nothing. -/
structure Grid (decoder : MspOsdDecoder) (edited : List Edit) : Prop where
  wellFormed : decoder.frame.WellFormed
  edits : ∀ edit ∈ edited, edit.Sound
  same : ∀ (rows cols : ℤ) (store : Store),
    (rows ≤ 0 ∨ cols ≤ 0 ∨
      ((decoder.frame.rows : ℤ) = rows ∧ (decoder.frame.cols : ℤ) = cols)) →
    decoder.setCanvas rows cols store = decoder

end Msp

end MobileGs

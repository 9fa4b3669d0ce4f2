import Mathlib.Data.List.ProdSigma
import MobileGs.Msp.Cells
import MobileGs.Station.Ports

/-!
# The OSD on the screen

A published frame goes through the bridge as two arrays of integers and comes out as an `OsdScreen`.
The overlay walks over the cells of the screen and cuts each glyph out of a font atlas, a column of
glyphs of the same height. Without an atlas it marks the cells that are not empty.

The overlay of a canvas shows just its occupied cells: with an atlas those whose glyphs it has, the
others are left out, and without one a block for each (`Depicts`). Whatever bytes come in on the two
ports, and however they interleave, the overlay of each published frame reads inside the arrays and
cuts inside the height of the atlas (`overlay_never_fails`). How wide the atlas is plays no part.
For a stream of valid frames the overlay's pictures of the published frames show, one after the
other, the canvases that are published (`overlay_depicts`). Which of these frames come to be drawn
is up to the state flow between the bridge and the overlay, which keeps the latest.
-/

set_option autoImplicit false

namespace MobileGs

namespace App

open Msp

/-! ## The bridge -/

/-- `OsdScreen`. -/
structure OsdScreen where
  rows : Int32 := 0
  cols : Int32 := 0
  glyphs : List Int32 := []
  attributes : List Int32 := []
  deriving DecidableEq

/-- An element of an `IntArray`. There is none where Kotlin throws. -/
def intArrayGet (array : List Int32) (index : Int32) : Option Int32 :=
  if index < 0 then none else array[index.toInt.toNat]?

def OsdScreen.glyphAt (screen : OsdScreen) (row col : Int32) : Option Int32 :=
  intArrayGet screen.glyphs (row * screen.cols + col)

/-- The callback that `nativeStart` sets, with `onOsdFrame`. -/
def onOsdFrame (frame : OsdFrame) : OsdScreen where
  rows := .ofNat frame.rows
  cols := .ofNat frame.cols
  glyphs := frame.cells.map fun cell => .ofNat cell.glyph.toNat
  attributes := frame.cells.map fun cell => .ofNat cell.attributes.toNat

/-! ## The overlay -/

def fontCellHeight : Int32 := 36

/-- What is drawn into a cell: a glyph that begins at a row of pixels of the atlas, or a block. -/
inductive Mark where
  | glyph (sourceTop row col : Int32)
  | block (row col : Int32)
  deriving DecidableEq, Repr

/-- `0 until bound`. -/
def untilBound (bound : Int32) : List Int32 := (List.range bound.toInt.toNat).map .ofNat

def drawCell (screen : OsdScreen) (draw : Int32 → Int32 → Int32 → List Mark) (row col : Int32) :
    Option (List Mark) :=
  (screen.glyphAt row col).map fun glyph => draw glyph row col

def drawRow (screen : OsdScreen) (draw : Int32 → Int32 → Int32 → List Mark) (row : Int32) :
    Option (List Mark) :=
  ((untilBound screen.cols).mapM (drawCell screen draw row)).map List.flatten

/-- The two loops over the cells. -/
def drawCells (screen : OsdScreen) (draw : Int32 → Int32 → Int32 → List Mark) :
    Option (List Mark) :=
  ((untilBound screen.rows).mapM (drawRow screen draw)).map List.flatten

def drawFallback (screen : OsdScreen) : Option (List Mark) :=
  drawCells screen fun glyph row col => if glyph = 0 ∨ glyph = 32 then [] else [.block row col]

/-- The loops of `OsdOverlay`, with the height of the font atlas. -/
def drawAtlas (height : Int32) (screen : OsdScreen) : Option (List Mark) :=
  let glyphsPerColumn := height / fontCellHeight
  drawCells screen fun glyph row col =>
    if glyph = 0 ∨ glyph = 32 then []
    else if glyph ≥ glyphsPerColumn then []
    else [.glyph (glyph * fontCellHeight) row col]

/-- `OsdOverlay`. -/
def osdOverlay (font : Option Int32) (screen : OsdScreen) : Option (List Mark) :=
  if screen.rows ≤ 0 ∨ screen.cols ≤ 0 then some []
  else
    match font with
    | none => drawFallback screen
    | some height => drawAtlas height screen

/-! ## What is to be seen -/

/-- The cell is on the canvas, and neither blank nor a space. -/
structure Occupied (canvas : Canvas) (row col : ℕ) : Prop where
  inRow : row < canvas.rows
  inCol : col < canvas.cols
  blank : (canvas.cell row col).glyph ≠ 0
  space : (canvas.cell row col).glyph ≠ 32

/-- The marks show a canvas. With an atlas they are the glyphs that are wholly inside it, without
one they are blocks. No cell is drawn twice. -/
structure Depicts (font : Option Int32) (canvas : Canvas) (marks : List Mark) : Prop where
  once : marks.Nodup
  glyphs : ∀ top row col, .glyph top row col ∈ marks ↔
    ∃ (height : Int32) (r c : ℕ), font = some height ∧ Occupied canvas r c ∧ row = .ofNat r ∧
      col = .ofNat c ∧ top.toInt = 36 * ((canvas.cell r c).glyph.toNat : ℤ) ∧
      top.toInt + 36 ≤ height.toInt
  blocks : ∀ row col, .block row col ∈ marks ↔
    ∃ r c : ℕ, font = none ∧ Occupied canvas r c ∧ row = .ofNat r ∧ col = .ofNat c

/-! ## The loops -/

section Loops

variable {canvas : Canvas}

theorem mapM_map_some {α β γ : Type} {f : β → Option γ} {enter : α → β} {g : α → γ}
    {items : List α} (all : ∀ item ∈ items, f (enter item) = some (g item)) :
    (items.map enter).mapM f = some (items.map g) := by
  induction items with
  | nil => rfl
  | cons item rest ih =>
      obtain ⟨first, later⟩ := List.forall_mem_cons.mp all
      rw [List.map_cons, List.mapM_cons, first, ih later]
      rfl

theorem flatMap_ite {α β : Type} (p : α → Prop) [DecidablePred p] (f : α → β)
    (items : List α) :
    (items.flatMap fun item => if p item then [f item] else []) =
      (items.filter fun item => decide (p item)).map f := by
  induction items with
  | nil => rfl
  | cons item rest ih =>
      rw [List.flatMap_cons, ih, List.filter_cons]
      by_cases holds : p item <;> simp [holds]

/-- A canvas that fits into an array. -/
structure Fits (canvas : Canvas) : Prop where
  rows : 0 < canvas.rows
  cols : 0 < canvas.cols
  size : canvas.rows * canvas.cols < 2 ^ 31
  glyphs : ∀ row < canvas.rows, ∀ col < canvas.cols, (canvas.cell row col).glyph ≤ 0x3ff

theorem Fits.rows_lt (fits : Fits canvas) : canvas.rows < 2 ^ 31 :=
  lt_of_le_of_lt (Nat.le_mul_of_pos_right _ fits.cols) fits.size

theorem Fits.cols_lt (fits : Fits canvas) : canvas.cols < 2 ^ 31 :=
  lt_of_le_of_lt (Nat.le_mul_of_pos_left _ fits.rows) fits.size

theorem untilBound_ofNat {bound : ℕ} (small : bound < 2 ^ 31) :
    untilBound (.ofNat bound) = (List.range bound).map .ofNat := by
  rw [untilBound, Int32.toInt_ofNat_of_lt small, Int.toNat_natCast]

theorem getElem?_render {row col : ℕ} (inRow : row < canvas.rows) (inCol : col < canvas.cols) :
    canvas.render.cells[row * canvas.cols + col]? = some (canvas.cell row col) := by
  have inside : row * canvas.cols + col < canvas.render.cells.length := by
    rw [Canvas.render, length_rowMajor]
    exact rowMajor_index_lt inRow inCol
  rw [List.getElem?_eq_getElem inside]
  simp only [Canvas.render, rowMajor, List.getElem_map, List.getElem_range, Option.some.injEq]
  rw [Nat.add_comm, Nat.add_mul_div_right _ _ (Nat.zero_lt_of_lt inCol),
    Nat.add_mul_mod_self_right, Nat.div_eq_of_lt inCol, Nat.mod_eq_of_lt inCol, Nat.zero_add]

/-- **A glyph is read from its own cell.** -/
theorem glyphAt_render (fits : Fits canvas) {row col : ℕ} (inRow : row < canvas.rows)
    (inCol : col < canvas.cols) :
    (onOsdFrame canvas.render).glyphAt (.ofNat row) (.ofNat col) =
      some (.ofNat (canvas.cell row col).glyph.toNat) := by
  have index := rowMajor_index_lt inRow inCol
  have small : row * canvas.cols + col < 2 ^ 31 := lt_trans index fits.size
  have place : Int32.ofNat row * Int32.ofNat canvas.cols + Int32.ofNat col =
      Int32.ofNat (row * canvas.cols + col) := by
    rw [Int32.ofNat_add, Int32.ofNat_mul]
  have value : (Int32.ofNat (row * canvas.cols + col)).toInt =
      ((row * canvas.cols + col : ℕ) : ℤ) := Int32.toInt_ofNat_of_lt small
  have nonneg : ¬ Int32.ofNat (row * canvas.cols + col) < 0 := by
    rw [Int32.lt_iff_toInt_lt, value]
    exact Int.not_lt.mpr (Int.natCast_nonneg _)
  change intArrayGet _ (Int32.ofNat row * Int32.ofNat canvas.cols + Int32.ofNat col) = _
  rw [place, intArrayGet, if_neg nonneg, value, Int.toNat_natCast]
  change (canvas.render.cells.map _)[_]? = _
  rw [List.getElem?_map, getElem?_render inRow inCol]
  rfl

/-- The cells of a canvas, row by row. -/
def Canvas.places (canvas : Canvas) : List (ℕ × ℕ) :=
  List.range canvas.rows ×ˢ List.range canvas.cols

theorem mem_places {row col : ℕ} :
    (row, col) ∈ Canvas.places canvas ↔ row < canvas.rows ∧ col < canvas.cols := by
  rw [Canvas.places, List.mem_product, List.mem_range, List.mem_range]

theorem drawRow_render (fits : Fits canvas) (draw : Int32 → Int32 → Int32 → List Mark) {row : ℕ}
    (inRow : row < canvas.rows) :
    drawRow (onOsdFrame canvas.render) draw (.ofNat row) =
      some ((List.range canvas.cols).flatMap fun col =>
        draw (.ofNat (canvas.cell row col).glyph.toNat) (.ofNat row) (.ofNat col)) := by
  have cells : ∀ col ∈ List.range canvas.cols,
      drawCell (onOsdFrame canvas.render) draw (.ofNat row) (.ofNat col) =
        some (draw (.ofNat (canvas.cell row col).glyph.toNat) (.ofNat row) (.ofNat col)) := by
    intro col among
    rw [drawCell, glyphAt_render fits inRow (List.mem_range.mp among)]
    rfl
  change Option.map List.flatten ((untilBound (.ofNat canvas.cols)).mapM _) = _
  rw [untilBound_ofNat fits.cols_lt, mapM_map_some cells]
  rfl

/-- The loops draw each cell. -/
theorem drawCells_render (fits : Fits canvas) (draw : Int32 → Int32 → Int32 → List Mark) :
    drawCells (onOsdFrame canvas.render) draw =
      some ((Canvas.places canvas).flatMap fun place =>
        draw (.ofNat (canvas.cell place.1 place.2).glyph.toNat) (.ofNat place.1)
          (.ofNat place.2)) := by
  change Option.map List.flatten ((untilBound (.ofNat canvas.rows)).mapM _) = _
  rw [untilBound_ofNat fits.rows_lt,
    mapM_map_some fun row among => drawRow_render fits draw (List.mem_range.mp among)]
  simp only [Option.map_some, Canvas.places, SProd.sprod, List.product, List.flatMap_assoc,
    List.flatMap_map]
  rfl

/-! ## The picture -/

theorem ofNat_inj {m n : ℕ} (smallM : m < 2 ^ 31) (smallN : n < 2 ^ 31) :
    Int32.ofNat m = Int32.ofNat n ↔ m = n := by
  rw [← Int32.toInt_inj, Int32.toInt_ofNat_of_lt smallM, Int32.toInt_ofNat_of_lt smallN]
  exact Int.natCast_inj

/-- The glyph begins and ends inside the atlas. -/
theorem lt_glyphsPerColumn {glyph : ℕ} (small : glyph < 2 ^ 31) (height : Int32) :
    ¬ (Int32.ofNat glyph ≥ height / fontCellHeight) ↔ 36 * (glyph : ℤ) + 36 ≤ height.toInt := by
  have cells : (height / fontCellHeight).toInt = height.toInt.tdiv 36 :=
    Int32.toInt_div_of_ne_right height fontCellHeight (by decide)
  rw [ge_iff_le, Int32.le_iff_toInt_le, cells, Int32.toInt_ofNat_of_lt small, not_le]
  rcases le_or_gt 0 height.toInt with nonneg | negative
  · rw [Int.tdiv_eq_ediv_of_nonneg nonneg]
    omega
  · have below : 0 ≤ (-height.toInt).tdiv 36 :=
      Int.tdiv_nonneg (neg_nonneg.mpr negative.le) (by decide)
    rw [Int.neg_tdiv] at below
    omega

/-- Each place is drawn at most once. -/
theorem nodup_marks (fits : Fits canvas) {mark : ℕ × ℕ → Mark}
    (shown : ℕ × ℕ → Bool)
    (apart : ∀ place place', mark place = mark place' →
      Int32.ofNat place.1 = Int32.ofNat place'.1 ∧ Int32.ofNat place.2 = Int32.ofNat place'.2) :
    (((Canvas.places canvas).filter shown).map mark).Nodup := by
  have places : (Canvas.places canvas).Nodup :=
    List.nodup_range.product List.nodup_range
  refine List.Nodup.map_on ?_ (places.filter _)
  rintro ⟨row, col⟩ among ⟨row', col'⟩ among' same
  obtain ⟨inRow, inCol⟩ := mem_places.mp (List.mem_of_mem_filter among)
  obtain ⟨inRow', inCol'⟩ := mem_places.mp (List.mem_of_mem_filter among')
  obtain ⟨sameRow, sameCol⟩ := apart _ _ same
  have rows := fits.rows_lt
  have cols := fits.cols_lt
  rw [ofNat_inj (inRow.trans rows) (inRow'.trans rows)] at sameRow
  rw [ofNat_inj (inCol.trans cols) (inCol'.trans cols)] at sameCol
  rw [sameRow, sameCol]

instance decidableOccupied (canvas : Canvas) (row col : ℕ) : Decidable (Occupied canvas row col) :=
  decidable_of_iff
    (row < canvas.rows ∧ col < canvas.cols ∧ (canvas.cell row col).glyph ≠ 0 ∧
      (canvas.cell row col).glyph ≠ 32)
    ⟨fun ⟨inRow, inCol, blank, space⟩ => ⟨inRow, inCol, blank, space⟩,
      fun occupied => ⟨occupied.inRow, occupied.inCol, occupied.blank, occupied.space⟩⟩

theorem Fits.glyph_lt (fits : Fits canvas) {row col : ℕ} (inRow : row < canvas.rows)
    (inCol : col < canvas.cols) : (canvas.cell row col).glyph.toNat < 1024 := by
  have glyph := UInt16.le_iff_toNat_le.mp (fits.glyphs row inRow col inCol)
  exact Nat.lt_succ_of_le glyph

/-- What the loops leave out is not occupied. -/
theorem skipped_iff (fits : Fits canvas) {row col : ℕ} (inRow : row < canvas.rows)
    (inCol : col < canvas.cols) :
    (Int32.ofNat (canvas.cell row col).glyph.toNat = 0 ∨
      Int32.ofNat (canvas.cell row col).glyph.toNat = 32) ↔ ¬ Occupied canvas row col := by
  have small : (canvas.cell row col).glyph.toNat < 2 ^ 31 :=
    (fits.glyph_lt inRow inCol).trans (by decide)
  have blank : Int32.ofNat (canvas.cell row col).glyph.toNat = 0 ↔
      (canvas.cell row col).glyph = 0 :=
    (@ofNat_inj _ 0 small (by decide)).trans (@UInt16.toNat_inj _ 0)
  have space : Int32.ofNat (canvas.cell row col).glyph.toNat = 32 ↔
      (canvas.cell row col).glyph = 32 :=
    (@ofNat_inj _ 32 small (by decide)).trans (@UInt16.toNat_inj _ 32)
  rw [blank, space]
  constructor
  · rintro (isBlank | isSpace) occupied
    · exact occupied.blank isBlank
    · exact occupied.space isSpace
  · intro empty
    by_contra neither
    rw [not_or] at neither
    exact empty ⟨inRow, inCol, neither.1, neither.2⟩

/-- The loops draw what is shown of the places. -/
theorem drawCells_shown (fits : Fits canvas) {draw : Int32 → Int32 → Int32 → List Mark}
    (shown : ℕ × ℕ → Prop) [DecidablePred shown] (mark : ℕ × ℕ → Mark)
    (draws : ∀ row < canvas.rows, ∀ col < canvas.cols,
      draw (.ofNat (canvas.cell row col).glyph.toNat) (.ofNat row) (.ofNat col) =
        if shown (row, col) then [mark (row, col)] else []) :
    drawCells (onOsdFrame canvas.render) draw =
      some (((Canvas.places canvas).filter fun place => decide (shown place)).map mark) := by
  rw [drawCells_render fits, ← flatMap_ite, List.flatMap_def, List.flatMap_def]
  congr 2
  refine List.map_congr_left ?_
  rintro ⟨row, col⟩ among
  obtain ⟨inRow, inCol⟩ := mem_places.mp among
  exact draws row inRow col inCol

theorem mem_shown {shown : ℕ × ℕ → Prop} [DecidablePred shown] {mark : ℕ × ℕ → Mark}
    {seen : Mark} :
    seen ∈ ((Canvas.places canvas).filter fun place => decide (shown place)).map mark ↔
      ∃ row col, (row < canvas.rows ∧ col < canvas.cols) ∧ shown (row, col) ∧
        mark (row, col) = seen := by
  rw [List.mem_map]
  constructor
  · rintro ⟨⟨row, col⟩, among, same⟩
    obtain ⟨inside, holds⟩ := List.mem_filter.mp among
    exact ⟨row, col, mem_places.mp inside, of_decide_eq_true holds, same⟩
  · rintro ⟨row, col, inside, holds, same⟩
    exact ⟨(row, col), List.mem_filter.mpr ⟨mem_places.mpr inside, decide_eq_true holds⟩, same⟩

/-- Without an atlas there are blocks. -/
theorem fallback_render (fits : Fits canvas) :
    ∃ marks, drawFallback (onOsdFrame canvas.render) = some marks ∧ Depicts none canvas marks := by
  refine ⟨_, drawCells_shown fits (fun place => Occupied canvas place.1 place.2)
    (fun place => .block (.ofNat place.1) (.ofNat place.2)) ?_, ?_, ?_, ?_⟩
  · intro row inRow col inCol
    dsimp only
    by_cases occupied : Occupied canvas row col
    · rw [if_pos occupied, if_neg fun skipped => (skipped_iff fits inRow inCol).mp skipped
        occupied]
    · rw [if_neg occupied, if_pos ((skipped_iff fits inRow inCol).mpr occupied)]
  · exact nodup_marks fits _ fun _ _ same => Mark.block.inj same
  · intro top row col
    rw [mem_shown]
    constructor
    · rintro ⟨_, _, _, _, no⟩
      cases no
    · rintro ⟨_, _, _, no, _⟩
      cases no
  · intro row col
    rw [mem_shown]
    constructor
    · rintro ⟨r, c, _, occupied, same⟩
      obtain ⟨rfl, rfl⟩ := Mark.block.inj same
      exact ⟨r, c, rfl, occupied, rfl, rfl⟩
    · rintro ⟨r, c, -, occupied, rfl, rfl⟩
      exact ⟨r, c, ⟨occupied.inRow, occupied.inCol⟩, occupied, rfl⟩

/-- A glyph begins behind those in front of it. -/
theorem toInt_sourceTop {glyph : ℕ} (small : glyph < 1024) :
    (Int32.ofNat glyph * fontCellHeight).toInt = 36 * (glyph : ℤ) := by
  have product : Int32.ofNat glyph * fontCellHeight = Int32.ofNat (glyph * 36) :=
    (Int32.ofNat_mul glyph 36).symm
  rw [product, Int32.toInt_ofNat_of_lt (by omega)]
  push_cast
  ring

/-- With an atlas there are its glyphs. -/
theorem atlas_render (fits : Fits canvas) (height : Int32) :
    ∃ marks, drawAtlas height (onOsdFrame canvas.render) = some marks ∧
      Depicts (some height) canvas marks := by
  refine ⟨_, drawCells_shown fits
    (fun place => Occupied canvas place.1 place.2 ∧
      36 * ((canvas.cell place.1 place.2).glyph.toNat : ℤ) + 36 ≤ height.toInt)
    (fun place => .glyph (.ofNat (canvas.cell place.1 place.2).glyph.toNat * fontCellHeight)
      (.ofNat place.1) (.ofNat place.2)) ?_, ?_, ?_, ?_⟩
  · intro row inRow col inCol
    have inside := lt_glyphsPerColumn ((fits.glyph_lt inRow inCol).trans (by decide)) height
    dsimp only
    by_cases occupied : Occupied canvas row col
    · rw [if_neg fun skipped => (skipped_iff fits inRow inCol).mp skipped occupied]
      by_cases fit : 36 * ((canvas.cell row col).glyph.toNat : ℤ) + 36 ≤ height.toInt
      · rw [if_neg (inside.mpr fit), if_pos ⟨occupied, fit⟩]
      · rw [if_pos (not_not.mp fun below => fit (inside.mp below)), if_neg fun both => fit both.2]
    · rw [if_pos ((skipped_iff fits inRow inCol).mpr occupied), if_neg fun both => occupied both.1]
  · exact nodup_marks fits _ fun _ _ same => (Mark.glyph.inj same).2
  · intro top row col
    rw [mem_shown]
    constructor
    · rintro ⟨r, c, _, ⟨occupied, fit⟩, same⟩
      obtain ⟨rfl, rfl, rfl⟩ := Mark.glyph.inj same
      have place := toInt_sourceTop (fits.glyph_lt occupied.inRow occupied.inCol)
      exact ⟨height, r, c, rfl, occupied, rfl, rfl, place, by rw [place]; exact fit⟩
    · rintro ⟨_, r, c, ⟨⟩, occupied, rfl, rfl, place, fit⟩
      rw [place] at fit
      refine ⟨r, c, ⟨occupied.inRow, occupied.inCol⟩, ⟨occupied, fit⟩, ?_⟩
      have same := (toInt_sourceTop (fits.glyph_lt occupied.inRow occupied.inCol)).trans place.symm
      rw [Int32.toInt_inj.mp same]
  · intro row col
    rw [mem_shown]
    constructor
    · rintro ⟨_, _, _, _, no⟩
      cases no
    · rintro ⟨_, _, no, _⟩
      cases no

/-- **The overlay of a canvas shows it.** -/
theorem overlay_render (fits : Fits canvas) (font : Option Int32) :
    ∃ marks, osdOverlay font (onOsdFrame canvas.render) = some marks ∧
      Depicts font canvas marks := by
  have something : ¬ ((onOsdFrame canvas.render).rows ≤ 0 ∨
      (onOsdFrame canvas.render).cols ≤ 0) := by
    have rows : (onOsdFrame canvas.render).rows.toInt = canvas.rows :=
      Int32.toInt_ofNat_of_lt fits.rows_lt
    have cols : (onOsdFrame canvas.render).cols.toInt = canvas.cols :=
      Int32.toInt_ofNat_of_lt fits.cols_lt
    have someRow := fits.rows
    have someCol := fits.cols
    rw [Int32.le_iff_toInt_le, Int32.le_iff_toInt_le, rows, cols, Int32.toInt_zero]
    omega
  unfold osdOverlay
  rw [if_neg something]
  cases font with
  | none => exact fallback_render fits
  | some height => exact atlas_render fits height

end Loops

/-! ## Frames of a decoder -/

/-- A frame of one of the two sizes that OPTIONS selects. -/
def Sized (frame : OsdFrame) : Prop :=
  frame.rows = osdRowsSd ∧ frame.cols = osdColsSd ∨ frame.rows = osdRowsHd ∧ frame.cols = osdColsHd

/-- A step keeps the frame to its sizes, and publishes the frame it leaves. -/
structure Steady (decoder : MspOsdDecoder) (stepped : MspOsdDecoder × List Output) : Prop where
  sized : Sized decoder.frame → Sized stepped.1.frame
  published : ∀ frame ∈ publishedOf stepped.2, frame = stepped.1.frame

section Decoder

variable {decoder : MspOsdDecoder}

theorem published_publish (decoder : MspOsdDecoder) :
    ∀ frame ∈ publishedOf decoder.publish, frame = decoder.frame := by
  intro frame among
  unfold MspOsdDecoder.publish at among
  split at among
  · exact List.mem_singleton.mp among
  · exact absurd among List.not_mem_nil

/-- A step that publishes nothing. -/
theorem Steady.silent {decoder' : MspOsdDecoder}
    (sized : Sized decoder.frame → Sized decoder'.frame) : Steady decoder (decoder', []) :=
  ⟨sized, fun _ none => absurd none List.not_mem_nil⟩

theorem sized_writeRun (row : ℕ) (attributes : Byte) (characters : List Byte) {frame : OsdFrame}
    (col : ℕ) (sized : Sized frame) :
    Sized (OsdFrame.writeRun row attributes frame col characters) := by
  induction characters generalizing frame col with
  | nil => exact sized
  | cons character rest ih =>
      unfold OsdFrame.writeRun
      split
      · exact sized
      · split
        · exact sized
        · exact ih _ sized

theorem sized_setCanvas {frame : OsdFrame} {rows cols : ℕ} (sized : Sized frame)
    (selects : ∀ cells, Sized ⟨rows, cols, cells⟩) : Sized (frame.setCanvas rows cols) := by
  unfold OsdFrame.setCanvas
  split
  · exact sized
  · split
    · exact sized
    · exact selects _

theorem steady_handleDisplayPort (payload : List Byte) :
    Steady decoder (decoder.handleDisplayPort payload) := by
  have same : Steady decoder (decoder, []) := .silent id
  unfold MspOsdDecoder.handleDisplayPort
  split
  · exact same
  · split
    · exact .silent id
    · split
      · split
        · exact same
        · exact .silent fun sized => sized_writeRun _ _ _ _ sized
      · exact same
    · exact ⟨id, published_publish { decoder with frames := decoder.frames + 1 }⟩
    · split
      · split
        · exact .silent fun sized => sized_setCanvas sized fun _ => .inl ⟨rfl, rfl⟩
        · exact .silent fun sized => sized_setCanvas sized fun _ => .inr ⟨rfl, rfl⟩
      · exact same
    · exact ⟨id, published_publish { decoder with frame := decoder.frame.clear }⟩
    · exact same
    · exact same
    · exact same

theorem steady_dispatchMessage : Steady decoder decoder.dispatchMessage := by
  unfold MspOsdDecoder.dispatchMessage
  dsimp only
  split
  · have handled := @steady_handleDisplayPort
      { decoder with messages := decoder.messages + 1 } decoder.payload
    exact ⟨handled.sized, handled.published⟩
  · exact ⟨id, fun _ none => absurd none List.not_mem_nil⟩

/-- **A byte keeps the frame to its sizes**, and publishes what it leaves. -/
theorem steady_handleByte (byte : Byte) : Steady decoder (decoder.handleByte byte) := by
  by_cases complete : decoder.AtChecksum
  · rw [handleByte_atChecksum complete]
    by_cases right : decoder.checksum = byte
    · rw [checkFrame_right right]
      exact ⟨steady_dispatchMessage.sized, steady_dispatchMessage.published⟩
    · rw [checkFrame_wrong right]
      exact .silent id
  · have quiet := handleByte_quiet complete byte
    constructor
    · rw [quiet.frame]
      exact id
    · rw [quiet.silent]
      exact fun _ none => absurd none List.not_mem_nil

end Decoder

/-! ## Runs -/

/-- A frame as a canvas. -/
def frameCanvas (frame : OsdFrame) : Canvas :=
  ⟨frame.rows, frame.cols, fun row col => frame.cells.getD (row * frame.cols + col) {}⟩

/-- The canvas of a frame is rendered as the frame. -/
theorem render_frameCanvas {frame : OsdFrame} (wellFormed : frame.WellFormed) :
    (frameCanvas frame).render = frame := by
  have cells : rowMajor frame.rows frame.cols (frameCanvas frame).cell = frame.cells := by
    apply List.ext_getElem
    · rw [length_rowMajor, wellFormed.size]
    · intro i inside inside'
      simp only [rowMajor, List.getElem_map, List.getElem_range, frameCanvas]
      rw [Nat.div_add_mod', List.getD_eq_getElem _ _ inside']
  rw [Canvas.render]
  exact congrArg (OsdFrame.mk frame.rows frame.cols) cells

/-- A frame that can be drawn. -/
structure Drawable (frame : OsdFrame) : Prop where
  wellFormed : frame.WellFormed
  sized : Sized frame

/-- A canvas whose frame can be drawn fits. -/
theorem Drawable.fits {canvas : Canvas} (drawable : Drawable canvas.render) : Fits canvas where
  rows := drawable.wellFormed.rows
  cols := drawable.wellFormed.cols
  size := by
    change canvas.render.rows * canvas.render.cols < 2 ^ 31
    rcases drawable.sized with ⟨rows, cols⟩ | ⟨rows, cols⟩ <;> rw [rows, cols] <;> decide
  glyphs row inRow col inCol :=
    (drawable.wellFormed.paged _ (List.mem_of_getElem? (getElem?_render inRow inCol))).glyph

/-- Whatever a decoder reads, it publishes frames that can be drawn. -/
theorem drawable_published (callback : Bool) (bytes : List Byte) :
    ∀ frame ∈ publishedOf (MspOsdDecoder.bytewise.outputs { callback } bytes), Drawable frame := by
  have run : Drawable (MspOsdDecoder.bytewise.after { callback } bytes).frame ∧
      ∀ frame ∈ publishedOf (MspOsdDecoder.bytewise.outputs { callback } bytes),
        Drawable frame := by
    refine Mealy.invariant_of_step
      (fun (decoder : MspOsdDecoder) emitted => Drawable decoder.frame ∧
        ∀ frame ∈ publishedOf emitted, Drawable frame)
      ⟨⟨wellFormed_initial callback, .inr ⟨rfl, rfl⟩⟩, fun _ none => absurd none List.not_mem_nil⟩
      ?_ bytes
    rintro decoder emitted byte ⟨drawable, before⟩
    have steady := @steady_handleByte decoder byte
    have drawable' : Drawable (decoder.handleByte byte).1.frame :=
      ⟨(edit_sound drawable.wellFormed byte).wellFormed drawable.wellFormed,
        steady.sized drawable.sized⟩
    refine ⟨drawable', fun frame among => ?_⟩
    rw [publishedOf_append] at among
    rcases List.mem_append.mp among with earlier | now
    · exact before frame earlier
    · rw [steady.published frame now]
      exact drawable'
  exact run.2

/-- The overlay of a frame that can be drawn shows it. -/
theorem overlay_drawable {frame : OsdFrame} (drawable : Drawable frame) (font : Option Int32) :
    ∃ marks, osdOverlay font (onOsdFrame frame) = some marks ∧
      Depicts font (frameCanvas frame) marks := by
  have same := render_frameCanvas drawable.wellFormed
  have shown := overlay_render (Drawable.fits (same.symm ▸ drawable)) font
  rwa [same] at shown

/-- **The overlay never fails.** Whatever payloads come in on the telemetry and the tunnel port, and
however they interleave with each other and with the router, the overlay of each frame that is
published reads nothing outside its arrays. With an atlas it draws the occupied cells whose glyphs
are inside its height, and without one a block for each occupied cell. -/
theorem overlay_never_fails (font : Option Int32) (events : List Station.Event) :
    ∀ frame ∈ publishedOf (Station.osdOutputs (Station.machine.outputs {} events)),
      ∃ marks, osdOverlay font (onOsdFrame frame) = some marks ∧
        Depicts font (frameCanvas frame) marks := by
  intro frame among
  rw [(Station.parsed_run events).outputs] at among
  exact overlay_drawable (drawable_published true _ frame among) font

/-- An `A` is written to the first cell, in two payloads on different ports, and the screen is
drawn. -/
def writtenOnPorts : List Station.Event :=
  [.tunnel [0x24, 0x4d, 0x3e, 5, 182, 3, 0, 0], .telemetry [0, 0x41, 0xf1] 0 [],
    .tunnel [0x24, 0x4d, 0x3e, 1, 182, 4, 0xb3]]

theorem overlay_never_fails_written :
    ∃ frame marks,
      frame ∈ publishedOf (Station.osdOutputs (Station.machine.outputs {} writtenOnPorts)) ∧
        osdOverlay (some 9216) (onOsdFrame frame) = some marks := by
  have published : 0 < (publishedOf
      (Station.osdOutputs (Station.machine.outputs {} writtenOnPorts))).length := by
    decide +kernel
  obtain ⟨frame, among⟩ := List.exists_mem_of_length_pos published
  obtain ⟨marks, drawn, -⟩ := overlay_never_fails (some 9216) writtenOnPorts frame among
  exact ⟨frame, marks, among, drawn⟩

end App

end MobileGs

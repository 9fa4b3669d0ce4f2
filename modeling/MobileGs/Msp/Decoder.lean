import Mathlib.Data.Int.Notation
import Mathlib.Logic.Function.Iterate
import MobileGs.Foundations.LittleEndian
import MobileGs.Foundations.Mealy

/-!
# The MSP DisplayPort decoder

`MspOsdDecoder` reads a byte at a time. The state machine of `HandleByte` recognises MSP v1
and v2 frames, and a frame whose checksum is right is dispatched. A DisplayPort message
draws on a grid of characters, which the callback receives whole.

A step emits the messages it dispatches and the frames it publishes (`Output`). `Push` is
a block of steps.
-/

set_option autoImplicit false

namespace MobileGs

namespace Msp

def mspDisplayPort : UInt16 := 182

def osdRowsSd : ℕ := 16
def osdColsSd : ℕ := 30
def osdRowsHd : ℕ := 20
def osdColsHd : ℕ := 53

/-! ## Bytes of the header -/

def dollar : Byte := 0x24
def letterM : Byte := 0x4d
def letterX : Byte := 0x58
def toController : Byte := 0x3c
def fromController : Byte := 0x3e
def errorMark : Byte := 0x21

/-- One of the three direction bytes. -/
def isDirection (byte : Byte) : Bool :=
  byte == toController || byte == fromController || byte == errorMark

/-! ## Checksums -/

/-- One shift of the CRC register. -/
def crc8Shift (crc : Byte) : Byte :=
  if crc &&& 0x80 != 0 then (crc <<< 1) ^^^ 0xd5 else crc <<< 1

/-- `Crc8DvbS2`: CRC-8/DVB-S2 with one more byte. -/
def crc8DvbS2 (crc byte : Byte) : Byte := crc8Shift^[8] (crc ^^^ byte)

/-! ## The character grid -/

/-- `DisplayPortCmd`. -/
inductive DisplayPortCmd where
  | heartbeat
  | release
  | clear
  | writeString
  | drawScreen
  | options
  | sys
  deriving DecidableEq, Repr

/-- The subcommand a byte is cast to, when the enumeration names it. -/
def DisplayPortCmd.ofByte? (byte : Byte) : Option DisplayPortCmd :=
  match byte.toNat with
  | 0 => some .heartbeat
  | 1 => some .release
  | 2 => some .clear
  | 3 => some .writeString
  | 4 => some .drawScreen
  | 5 => some .options
  | 6 => some .sys
  | _ => none

/-- `OsdCell`. -/
structure OsdCell where
  glyph : UInt16 := 0
  attributes : Byte := 0
  deriving DecidableEq, Repr

/-- `OsdFrame`: the cells row by row. -/
structure OsdFrame where
  rows : ℕ := 0
  cols : ℕ := 0
  cells : List OsdCell := []
  deriving DecidableEq, Repr

/-- The font page the attributes select. -/
def fontPage (attributes : Byte) : UInt16 := (attributes &&& 0x03).toUInt16 <<< 8

/-- The cell a character is written as. -/
def writtenCell (attributes character : Byte) : OsdCell where
  glyph := character.toUInt16 ||| fontPage attributes
  attributes := attributes

/-- The loop over the characters of WRITE_STRING. -/
def OsdFrame.writeRun (row : ℕ) (attributes : Byte) : OsdFrame → ℕ → List Byte → OsdFrame
  | frame, _, [] => frame
  | frame, targetCol, character :: rest =>
      if targetCol ≥ frame.cols then frame
      else if character = 0 then frame
      else
        writeRun row attributes
          { frame with
            cells := frame.cells.set (row * frame.cols + targetCol)
              (writtenCell attributes character) }
          (targetCol + 1) rest

/-- What storing cells depends on: the width of `size_t`, and the cells that are left if there is no
room for those to be stored and `assign` throws. -/
structure Store where
  sizeBits : ℕ := 64
  thrown : Option (List OsdCell) := none
  deriving DecidableEq, Repr

/-- `cells.assign`, with blank cells. Their number is a `size_t`. -/
def Store.assign (store : Store) (count : ℕ) : List OsdCell :=
  match store.thrown with
  | none => List.replicate (count % 2 ^ store.sizeBits) {}
  | some left => left

/-- `SetCanvas`, on the frame. The sizes are stored before the cells. -/
def OsdFrame.setCanvas (frame : OsdFrame) (rows cols : ℤ) (store : Store := {}) : OsdFrame :=
  if rows ≤ 0 ∨ cols ≤ 0 then frame
  else if (frame.rows : ℤ) = rows ∧ (frame.cols : ℤ) = cols then frame
  else
    { rows := rows.toNat, cols := cols.toNat, cells := store.assign (rows.toNat * cols.toNat) }

/-- `Clear`, on the frame. -/
def OsdFrame.clear (frame : OsdFrame) : OsdFrame :=
  { frame with cells := List.replicate frame.cells.length {} }

/-! ## The decoder -/

/-- `MspOsdDecoder::State`. -/
inductive State where
  | idle
  | headerM
  | headerArrow
  | v1Size
  | v1Command
  | v1Payload
  | v1Checksum
  | v2Flags
  | v2FunctionLo
  | v2FunctionHi
  | v2SizeLo
  | v2SizeHi
  | v2Payload
  | v2Checksum
  deriving DecidableEq, Repr

/-- `MspOsdDecoder`. `callback` says whether `callback_` is set. -/
structure MspOsdDecoder where
  state : State := .idle
  v2 : Bool := false
  function : UInt16 := 0
  expectedSize : UInt16 := 0
  checksum : Byte := 0
  payload : List Byte := []
  frame : OsdFrame := ({} : OsdFrame).setCanvas osdRowsHd osdColsHd
  callback : Bool := false
  frames : ℕ := 0
  messages : ℕ := 0
  checksumErrors : ℕ := 0
  deriving DecidableEq

/-- What a step does beyond the decoder's state: a message is dispatched, or a frame is
given to the callback. -/
inductive Output where
  | message (function : UInt16) (payload : List Byte)
  | published (frame : OsdFrame)
  deriving DecidableEq, Repr

namespace MspOsdDecoder

/-- `SetCanvas`. -/
def setCanvas (decoder : MspOsdDecoder) (rows cols : ℤ) (store : Store := {}) : MspOsdDecoder :=
  { decoder with frame := decoder.frame.setCanvas rows cols store }

/-- The callback's call with the present frame. -/
def publish (decoder : MspOsdDecoder) : List Output :=
  if decoder.callback then [.published decoder.frame] else []

/-- `HandleDisplayPort`. -/
def handleDisplayPort (decoder : MspOsdDecoder) (payload : List Byte) :
    MspOsdDecoder × List Output :=
  match payload with
  | [] => (decoder, [])
  | cmd :: arguments =>
      match DisplayPortCmd.ofByte? cmd with
      | some .clear => ({ decoder with frame := decoder.frame.clear }, [])
      | some .writeString =>
          match arguments with
          | row :: col :: attributes :: characters =>
              if row.toNat ≥ decoder.frame.rows ∨ col.toNat ≥ decoder.frame.cols then
                (decoder, [])
              else
                ({ decoder with
                    frame := OsdFrame.writeRun row.toNat attributes decoder.frame col.toNat
                      characters }, [])
          | _ => (decoder, [])
      | some .drawScreen =>
          let drawn := { decoder with frames := decoder.frames + 1 }
          (drawn, drawn.publish)
      | some .options =>
          match arguments with
          | _ :: variant :: _ =>
              if variant = 0 then (decoder.setCanvas osdRowsSd osdColsSd, [])
              else (decoder.setCanvas osdRowsHd osdColsHd, [])
          | _ => (decoder, [])
      | some .release =>
          let released := { decoder with frame := decoder.frame.clear }
          (released, released.publish)
      | some .heartbeat => (decoder, [])
      | some .sys => (decoder, [])
      | none => (decoder, [])

/-- `DispatchMessage`. -/
def dispatchMessage (decoder : MspOsdDecoder) : MspOsdDecoder × List Output :=
  let counted := { decoder with messages := decoder.messages + 1 }
  let handled :=
    if decoder.function = mspDisplayPort then counted.handleDisplayPort decoder.payload
    else (counted, [])
  (handled.1, .message decoder.function decoder.payload :: handled.2)

/-- The last byte of a frame, in either version. -/
def checkFrame (decoder : MspOsdDecoder) (byte : Byte) : MspOsdDecoder × List Output :=
  let checked :=
    if decoder.checksum = byte then decoder.dispatchMessage
    else ({ decoder with checksumErrors := decoder.checksumErrors + 1 }, [])
  ({ checked.1 with state := .idle }, checked.2)

/-- `HandleByte`. -/
def handleByte (decoder : MspOsdDecoder) (byte : Byte) : MspOsdDecoder × List Output :=
  match decoder.state with
  | .idle => if byte = dollar then ({ decoder with state := .headerM }, []) else (decoder, [])
  | .headerM =>
      if byte = letterM then ({ decoder with v2 := false, state := .headerArrow }, [])
      else if byte = letterX then ({ decoder with v2 := true, state := .headerArrow }, [])
      else if byte = dollar then (decoder, [])
      else ({ decoder with state := .idle }, [])
  | .headerArrow =>
      if isDirection byte then
        ({ decoder with
            payload := []
            checksum := 0
            state := if decoder.v2 then .v2Flags else .v1Size }, [])
      else ({ decoder with state := .idle }, [])
  | .v1Size =>
      ({ decoder with
          expectedSize := byte.toUInt16
          checksum := byte
          state := .v1Command }, [])
  | .v1Command =>
      ({ decoder with
          function := byte.toUInt16
          checksum := decoder.checksum ^^^ byte
          state := if decoder.expectedSize > 0 then .v1Payload else .v1Checksum }, [])
  | .v1Payload =>
      ({ decoder with
          payload := decoder.payload ++ [byte]
          checksum := decoder.checksum ^^^ byte
          state :=
            if decoder.payload.length + 1 ≥ decoder.expectedSize.toNat then .v1Checksum
            else .v1Payload }, [])
  | .v1Checksum => decoder.checkFrame byte
  | .v2Flags => ({ decoder with checksum := crc8DvbS2 0 byte, state := .v2FunctionLo }, [])
  | .v2FunctionLo =>
      ({ decoder with
          function := byte.toUInt16
          checksum := crc8DvbS2 decoder.checksum byte
          state := .v2FunctionHi }, [])
  | .v2FunctionHi =>
      ({ decoder with
          function := decoder.function ||| (byte.toUInt16 <<< 8)
          checksum := crc8DvbS2 decoder.checksum byte
          state := .v2SizeLo }, [])
  | .v2SizeLo =>
      ({ decoder with
          expectedSize := byte.toUInt16
          checksum := crc8DvbS2 decoder.checksum byte
          state := .v2SizeHi }, [])
  | .v2SizeHi =>
      let expectedSize := decoder.expectedSize ||| (byte.toUInt16 <<< 8)
      ({ decoder with
          expectedSize := expectedSize
          checksum := crc8DvbS2 decoder.checksum byte
          state :=
            if expectedSize > 1024 then .idle
            else if expectedSize > 0 then .v2Payload else .v2Checksum }, [])
  | .v2Payload =>
      ({ decoder with
          payload := decoder.payload ++ [byte]
          checksum := crc8DvbS2 decoder.checksum byte
          state :=
            if decoder.payload.length + 1 ≥ decoder.expectedSize.toNat then .v2Checksum
            else .v2Payload }, [])
  | .v2Checksum => decoder.checkFrame byte

/-- The decoder fed byte by byte. -/
def bytewise : Mealy MspOsdDecoder Byte Output where
  step := handleByte

/-- The decoder given chunk after chunk. -/
def pushes : Mealy MspOsdDecoder (List Byte) Output := bytewise.blocks

/-- `Push`. -/
def push (decoder : MspOsdDecoder) (data : List Byte) : MspOsdDecoder × List Output :=
  bytewise.run decoder data

end MspOsdDecoder

end Msp

end MobileGs

import MobileGs.Foundations.Nesting
import MobileGs.Wfb.Receiver

/-!
# The packet source on a USB adapter

`DevourerSource` drives an adapter in userspace. `Start` opens a libusb context, adopts the
descriptor of the adapter, claims its interface, makes the driver and the device, and brings the
device up. Where a step fails, `Cleanup` gives back what is there. The receive thread waits in
`StartRxLoop` for packets until `Stop` ends it, and `Stop` then joins the thread and cleans up.

An event is a call, one section of a call, or what the receive thread sees. `Stop` has three
sections. `Transmit` and `SetChannel` have two: they test whether there is a device, and the call of
it comes to its end (`Pending`). Other threads take steps in between. What libusb and the device
answer comes with the event. Beside the calls on what it has acquired, the source hands over frames,
whose signal it turns from a magnitude into a signed number (`toInt_toRssi`).
-/

set_option autoImplicit false

namespace MobileGs

namespace Source

namespace Devourer

open Handles Wfb

/-! ## Channels -/

/-- `Bandwidth`. -/
inductive Bandwidth where
  | k5
  | k10
  | k20
  | k40
  | k80
  deriving DecidableEq, Repr

/-- `ChannelWidth_t`, as far as it is used. -/
inductive ChannelWidth where
  | width5
  | width10
  | width20
  | width40
  | width80
  deriving DecidableEq, Repr

/-- `ToChannelWidth`. -/
def toChannelWidth : Bandwidth → ChannelWidth
  | .k5 => .width5
  | .k10 => .width10
  | .k40 => .width40
  | .k80 => .width80
  | .k20 => .width20

structure SelectedChannel where
  channel : UInt8 := 0
  channelOffset : UInt8 := 0
  channelWidth : ChannelWidth := .width20
  deriving DecidableEq, Repr

/-- `MakeChannel`. -/
def makeChannel (channel : Int32) (bandwidth : Bandwidth) : SelectedChannel where
  channel := channel.toUInt32.toUInt8
  channelOffset := 0
  channelWidth := toChannelWidth bandwidth

/-! ## Resources -/

inductive Kind where
  | context
  | handle
  | lock
  | driver
  | device
  deriving DecidableEq, Repr

/-- Something the source acquires, with a serial number of its own. -/
structure Resource where
  kind : Kind
  serial : ℕ
  deriving DecidableEq, Repr

/-- The result of a libusb call. -/
inductive Rc where
  | success
  | busy
  | error (name : String)
  deriving DecidableEq, Repr

/-- `libusb_error_name`. -/
def Rc.name : Rc → String
  | .success => "LIBUSB_SUCCESS"
  | .busy => "LIBUSB_ERROR_BUSY"
  | .error name => name

/-- What the steps of `Start` answer. `wrapped` says whether the call that adopts the descriptor
gives a handle, `locked` whether the one that claims the interface gives the lock. The last one is
the text of the exception of `InitWrite`, if it throws. -/
structure StartAnswers where
  option : Rc := .success
  init : Rc := .success
  wrap : Rc := .success
  wrapped : Bool := true
  claim : Rc := .success
  locked : Bool := true
  recognised : Bool := true
  initWrite : Option String := none

/-- Where the receive thread is. -/
inductive RxPoint where
  /-- no thread -/
  | none
  /-- in `StartRxLoop` -/
  | receiving
  /-- the thread function has returned -/
  | returned
  deriving DecidableEq

/-- The point a call of `Stop` has reached. -/
inductive StopPoint where
  | idle
  | stopRxLoop
  | join
  deriving DecidableEq

/-- A call that has found a device: it is about to call the device, or the device has not answered
yet. -/
inductive Pending where
  | transmit (device : Resource) (frame : List Byte)
  | setChannel (device : Resource)
  deriving DecidableEq

/-- The device it has found. -/
def Pending.device : Pending → Resource
  | .transmit device _ => device
  | .setChannel device => device

/-- `DevourerSource`, with its `RadioConfig` as far as it reads it. `callback` says whether
`on_frame_` is set. -/
structure DevourerSource where
  radioChannel : Int32 := 161
  radioBandwidth : Bandwidth := .k20
  callback : Bool := false
  context : Option Resource := none
  handle : Option Resource := none
  lock : Option Resource := none
  driver : Option Resource := none
  device : Option Resource := none
  channel : SelectedChannel := {}
  running : Bool := false
  rx : RxPoint := .none
  stopping : StopPoint := .idle
  pending : List Pending := []
  nextSerial : ℕ := 0

/-- `Packet`, as far as it is read. -/
structure Packet where
  data : List Byte
  rssi : Fin 2 → UInt8
  snr : Fin 2 → Int8
  dataRate : UInt16
  bw : UInt8

inductive Obs where
  | call (call : Call Resource)
  | startReturned (error : Option String)
  | stopReturned
  | frame (data : List Byte) (frameMeta : FrameMeta)
  | channelSet (success : Bool)
  | transmitted (frame : List Byte) (success : Bool)

inductive Event where
  | start (answers : StartAnswers)
  | stopRequest
  | stopRxLoop
  | stopJoin
  /-- The device calls back with a packet. -/
  | packet (packet : Packet)
  /-- `StartRxLoop` returns or throws. -/
  | rxEnds
  | setChannel (channel : Int32) (bandwidth : Bandwidth)
  | transmit (frame : List Byte)
  /-- The device answers to one of the calls that have found it. `success` says that
  `SetMonitorChannel` does not throw, or what `send_packet` answers. -/
  | goOn (index : ℕ) (success : Bool)

namespace DevourerSource

/-- What is acquired, the latest first. -/
def stack (source : DevourerSource) : List Resource :=
  source.device.toList ++ source.driver.toList ++ source.lock.toList ++ source.handle.toList ++
    source.context.toList

/-- Calls on what is there. -/
def uses (resources : List Resource) : List Obs :=
  resources.map fun resource => .call (.use resource)

/-- `Cleanup`. -/
def cleanup (source : DevourerSource) : DevourerSource × List Obs :=
  ({ source with device := none, driver := none, lock := none, handle := none, context := none },
    source.stack.map fun resource => .call (.close resource))

/-- The end of a `Start` that has acquired something. -/
def failStart (source : DevourerSource) (error : String) : DevourerSource × List Obs :=
  (source.cleanup.1, source.cleanup.2 ++ [.startReturned (some error)])

/-- Observations in front of those of the rest of a call. -/
def behind (first : List Obs) (rest : DevourerSource × List Obs) : DevourerSource × List Obs :=
  (rest.1, first ++ rest.2)

/-- The end of `Start`: the device is brought up, and the thread is started. -/
def bringUp (source : DevourerSource) (answers : StartAnswers) : DevourerSource × List Obs :=
  behind (uses source.device.toList) <|
    match answers.initWrite with
    | some what => source.failStart ("adapter bring-up failed: " ++ what)
    | none => ({ source with running := true, rx := .receiving }, [.startReturned none])

/-- `Start` makes the driver, and the driver the device. -/
def makeDevice (source : DevourerSource) (answers : StartAnswers) : DevourerSource × List Obs :=
  let driver : Resource := ⟨.driver, source.nextSerial⟩
  let driven := { source with driver := some driver, nextSerial := source.nextSerial + 1 }
  behind (.call (.grant driver) :: uses driven.stack) <|
    if answers.recognised then
      let device : Resource := ⟨.device, driven.nextSerial⟩
      behind [.call (.grant device)] <|
        bringUp { driven with
          device := some device
          nextSerial := driven.nextSerial + 1
          channel := makeChannel source.radioChannel source.radioBandwidth } answers
    else driven.failStart "unsupported Wi-Fi chip - devourer did not recognise it"

/-- `Start` finds the interface and claims it. -/
def claimInterface (source : DevourerSource) (answers : StartAnswers) :
    DevourerSource × List Obs :=
  let lock : Resource := ⟨.lock, source.nextSerial⟩
  let claimed :=
    if answers.locked then { source with lock := some lock, nextSerial := source.nextSerial + 1 }
    else source
  behind (uses (source.handle.toList ++ source.handle.toList) ++
      if answers.locked then [.call (.grant lock)] else []) <|
    match answers.claim with
    | .success => claimed.makeDevice answers
    | .busy => claimed.failStart "the adapter is already in use by another app"
    | .error name => claimed.failStart ("could not claim the adapter: " ++ name)

/-- `Start` adopts the descriptor. -/
def adoptDescriptor (source : DevourerSource) (answers : StartAnswers) :
    DevourerSource × List Obs :=
  let handle : Resource := ⟨.handle, source.nextSerial⟩
  behind (uses source.context.toList) <|
    if answers.wrap ≠ .success ∨ answers.wrapped = false then
      source.failStart ("could not adopt the USB descriptor: " ++ answers.wrap.name)
    else
      behind [.call (.grant handle)] <|
        claimInterface { source with
          handle := some handle, nextSerial := source.nextSerial + 1 } answers

/-- `Start`. -/
def start (source : DevourerSource) (answers : StartAnswers) : DevourerSource × List Obs :=
  if answers.option ≠ .success then
    (source, [.startReturned (some "libusb refused NO_DEVICE_DISCOVERY")])
  else if answers.init ≠ .success then
    (source, [.startReturned (some ("libusb_init failed: " ++ answers.init.name))])
  else
    let context : Resource := ⟨.context, source.nextSerial⟩
    behind [.call (.grant context)] <|
      adoptDescriptor { source with
        context := some context, nextSerial := source.nextSerial + 1 } answers

/-- `Stop`, up to the call of `StopRxLoop`. A source that does not run is cleaned up. -/
def stopRequest (source : DevourerSource) : DevourerSource × List Obs :=
  if source.running then ({ source with running := false, stopping := .stopRxLoop }, [])
  else if source.stopping = .idle then
    (source.cleanup.1, source.cleanup.2 ++ [.stopReturned])
  else (source, [])

/-- `Stop` calls `StopRxLoop`. -/
def stopRxLoop (source : DevourerSource) : DevourerSource × List Obs :=
  if source.stopping = .stopRxLoop then
    ({ source with stopping := .join }, uses source.device.toList)
  else (source, [])

/-- The thread is joined once its function has returned, then `Cleanup`. -/
def stopJoin (source : DevourerSource) : DevourerSource × List Obs :=
  if source.stopping = .join ∧ source.rx = .returned then
    ({ source.cleanup.1 with stopping := .idle, rx := .none },
      source.cleanup.2 ++ [.stopReturned])
  else (source, [])

/-- The magnitude of a signal, in dBm, as a signed number. -/
def toRssi (magnitude : UInt8) : Int8 :=
  Int8.ofInt (if (magnitude.toNat : ℤ) > 127 then -128 else -magnitude.toNat)

/-- The sign is changed, as far as the type reaches. -/
theorem toInt_toRssi (magnitude : UInt8) :
    (toRssi magnitude).toInt = max (-128) (-(magnitude.toNat : ℤ)) := by
  have bound := magnitude.toNat_lt
  unfold toRssi
  split
  · rw [max_eq_left (by omega)]
    rfl
  · rw [max_eq_right (by omega), Int8.toInt_ofInt_of_le (by omega) (by omega)]

/-- The two paths of a packet. -/
def frameMetaOf (packet : Packet) : FrameMeta where
  paths := 2
  rssi i := if inside : i.val < 2 then toRssi (packet.rssi ⟨i.val, inside⟩) else 0
  snr i := if inside : i.val < 2 then packet.snr ⟨i.val, inside⟩ else 0
  mcsIndex := packet.dataRate.toUInt8
  bandwidth := packet.bw

/-- The callback of `RxLoop`. -/
def receive (source : DevourerSource) (packet : Packet) : DevourerSource × List Obs :=
  if source.rx = .receiving then
    (source, uses source.device.toList ++
      if source.callback = false ∨ packet.data = [] then []
      else [.frame packet.data (frameMetaOf packet)])
  else (source, [])

/-- The end of `RxLoop`. -/
def endRx (source : DevourerSource) : DevourerSource × List Obs :=
  if source.rx = .receiving then
    ({ source with rx := .returned }, uses source.device.toList)
  else (source, [])

/-- `SetChannel`, up to the end of its test. -/
def setChannel (source : DevourerSource) (channel : Int32) (bandwidth : Bandwidth) :
    DevourerSource × List Obs :=
  match source.device with
  | none => (source, [.channelSet false])
  | some device =>
      ({ source with
          channel := makeChannel channel bandwidth
          pending := source.pending ++ [.setChannel device] }, [])

/-- `Transmit`, up to the end of its test. -/
def transmit (source : DevourerSource) (frame : List Byte) : DevourerSource × List Obs :=
  match source.device with
  | none => (source, [.transmitted frame false])
  | some device => ({ source with pending := source.pending ++ [.transmit device frame] }, [])

/-- What a call returns when the device has answered. -/
def answered (success : Bool) : Pending → Obs
  | .transmit _ frame => .transmitted frame success
  | .setChannel _ => .channelSet success

/-- The rest of `SetChannel` and of `Transmit`. The device is used up to its answer. -/
def goOn (source : DevourerSource) (index : ℕ) (success : Bool) : DevourerSource × List Obs :=
  match source.pending[index]? with
  | none => (source, [])
  | some call =>
      ({ source with pending := source.pending.eraseIdx index },
        [.call (.use call.device), answered success call])

end DevourerSource

/-- The source as a machine. -/
def machine : Mealy DevourerSource Event Obs where
  step source
    | .start answers => source.start answers
    | .stopRequest => source.stopRequest
    | .stopRxLoop => source.stopRxLoop
    | .stopJoin => source.stopJoin
    | .packet packet => source.receive packet
    | .rxEnds => source.endRx
    | .setChannel channel bandwidth => source.setChannel channel bandwidth
    | .transmit frame => source.transmit frame
    | .goOn index success => source.goOn index success

end Devourer

end Source

end MobileGs

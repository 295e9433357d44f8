import Vsoshlb.Library.Framing
import Vsoshlb.Monitoring.ServiceCore

/-!
# The writer of captured packets

`PcapWriter` writes pcap records to one `DataWriter` for each event, and obeys the control messages
in its queue.
-/

namespace Vsoshlb.Monitoring

open Framing

abbrev Byte := BitVec 8

/-- `pcap_hdr_s`. -/
structure PcapHdr where
  magicNumber : BitVec 32
  versionMajor : BitVec 16
  versionMinor : BitVec 16
  thiszone : BitVec 32
  sigfigs : BitVec 32
  snaplen : BitVec 32
  network : BitVec 32
deriving DecidableEq

/-- `pcaprec_hdr_s`. -/
structure PcaprecHdr where
  tsSec : BitVec 32
  tsUsec : BitVec 32
  inclLen : BitVec 32
  origLen : BitVec 32
deriving DecidableEq

instance : Nontrivial PcapHdr := ⟨⟨0, 0, 0, 0, 0, 0, 0⟩, ⟨1, 0, 0, 0, 0, 0, 0⟩, by decide⟩

instance : Nontrivial PcaprecHdr := ⟨⟨0, 0, 0, 0⟩, ⟨1, 0, 0, 0⟩, by decide⟩

/-- The layout of the two headers in memory. -/
structure PcapStructs where
  pcapHdr : FixedCodec PcapHdr Byte
  pcaprecHdr : FixedCodec PcaprecHdr Byte

/-- The fields in the order of the libpcap file format, without padding, on a little-endian machine.
-/
def PcapStructs.littleEndian : PcapStructs where
  pcapHdr :=
    (FixedCodec.prod (.word 4) <| .prod (.word 2) <| .prod (.word 2) <| .prod (.word 4) <|
      .prod (.word 4) <| .prod (.word 4) (.word 4)).comap
      (fun hdr : PcapHdr ↦ (hdr.magicNumber, hdr.versionMajor, hdr.versionMinor, hdr.thiszone,
        hdr.sigfigs, hdr.snaplen, hdr.network))
      (fun v ↦ ⟨v.1, v.2.1, v.2.2.1, v.2.2.2.1, v.2.2.2.2.1, v.2.2.2.2.2.1, v.2.2.2.2.2.2⟩)
      fun _ ↦ rfl
  pcaprecHdr :=
    (FixedCodec.prod (.word 4) <| .prod (.word 4) <| .prod (.word 4) (.word 4)).comap
      (fun hdr : PcaprecHdr ↦ (hdr.tsSec, hdr.tsUsec, hdr.inclLen, hdr.origLen))
      (fun v ↦ ⟨v.1, v.2.1, v.2.2.1, v.2.2.2⟩) fun _ ↦ rfl

def kPcapWriterMagic : BitVec 32 := 0xa1b2c3d4

def kVersionMajor : BitVec 16 := 2

def kVersionMinor : BitVec 16 := 4

def kGmt : BitVec 32 := 0

def kAccuracy : BitVec 32 := 0

def kMaxSnapLen : BitVec 32 := 0xFFFF

def kEthernet : BitVec 32 := 1

/-! ## Messages -/

/-- `PcapMsg`. The packet is copied when the message is made, so as much as was captured is there;
an empty message has no packet. -/
structure PcapMsg where
  pckt : Option (List Byte)
  origLen : BitVec 32
  capturedLen : BitVec 32
  capturedLen_le : ∀ bytes ∈ pckt, capturedLen.toNat ≤ bytes.length

namespace PcapMsg

def emptyMsg (msg : PcapMsg) : Bool := msg.pckt.isNone

/-- Only the length changes; the packet keeps all its bytes. -/
def trim (snaplen : BitVec 32) (msg : PcapMsg) : PcapMsg :=
  { msg with
    capturedLen := if snaplen < msg.capturedLen then snaplen else msg.capturedLen
    capturedLen_le := fun bytes hbytes ↦ by
      have hle := msg.capturedLen_le bytes hbytes
      split_ifs with hlt
      · exact (Nat.le_of_lt hlt).trans hle
      · exact hle }

end PcapMsg

structure PcapMsgMeta where
  msg : PcapMsg
  event : BitVec 32
  packetLimit : BitVec 32
  restart : Bool
  control : Bool
  stop : Bool
  shutdown : Bool

/-- The cast keeps the low byte of the number. -/
def PcapMsgMeta.getEventId (msg : PcapMsgMeta) : EventId := msg.event.setWidth 8

/-- What the clock says when a record is written. -/
structure Clock where
  nowSec : BitVec 32
  nowUsec : BitVec 32

/-! ## Data writers -/

class DataWriter (W : Type) where
  writeData : List Byte → W → W
  writeHeader : List Byte → W → W
  available : ℕ → W → Bool
  restart : W → W
  stop : W → W

/-- `IOBufWriter`: the buffer's capacity and the data in it. -/
structure IOBufWriter where
  capacity : ℕ
  bytes : List Byte
deriving DecidableEq

namespace IOBufWriter

/-- `memcpy` to the writable tail. Nothing is checked here. -/
def writeData (data : List Byte) (writer : IOBufWriter) : IOBufWriter :=
  { writer with
    bytes := writer.bytes ++ data }

def available (amount : ℕ) (writer : IOBufWriter) : Bool :=
  decide (amount ≤ writer.capacity - writer.bytes.length)

def restart (writer : IOBufWriter) : IOBufWriter :=
  { writer with
    bytes := [] }

instance : DataWriter IOBufWriter where
  writeData := writeData
  writeHeader := writeData
  available := available
  restart := restart
  stop := id

end IOBufWriter

/-- `PipeWriter` with a destination: what it wrote to the pipe, in order. -/
structure PipeWriter where
  pipe : List Byte
  enabled : Bool
  headerBuf : Option (List Byte)
deriving DecidableEq

namespace PipeWriter

def writeData (data : List Byte) (writer : PipeWriter) : PipeWriter :=
  if data.length = 0 then
    writer
  else if writer.enabled = false then
    writer
  else
    { writer with
      pipe := writer.pipe ++ data }

/-- The header stays in a buffer of its own. -/
def writeHeader (data : List Byte) (writer : PipeWriter) : PipeWriter :=
  { writer with
    headerBuf := some data }

instance : DataWriter PipeWriter where
  writeData := writeData
  writeHeader := writeHeader
  available _ _ := true
  restart writer :=
    { writer with
      enabled := true }
  stop writer :=
    { writer with
      enabled := false }

end PipeWriter

/-! ## The writer -/

structure PcapWriter (W : Type) where
  dataWriters : EventId → Option W
  enabledEvents : EventIds
  headerExists : EventIds
  packetAmount : BitVec 32
  packetLimit : BitVec 32
  packetLimitOverride : Bool
  bufferFull : BitVec 32
  snaplen : BitVec 32

namespace PcapWriter

variable {W : Type} [DataWriter W] (structs : PcapStructs)

/-- The constructor with a writer for each event. -/
def new (dataWriters : EventId → Option W) (packetLimit snaplen : BitVec 32) : PcapWriter W where
  dataWriters := dataWriters
  enabledEvents := ∅
  headerExists := ∅
  packetAmount := 0
  packetLimit := packetLimit
  packetLimitOverride := false
  bufferFull := 0
  snaplen := snaplen

/-- `snaplen_ ?: kMaxSnapLen`. -/
def captureLen (w : PcapWriter W) : BitVec 32 :=
  if w.snaplen = 0 then kMaxSnapLen else w.snaplen

def setDataWriter (writerId : EventId) (writer : W) (w : PcapWriter W) : PcapWriter W :=
  { w with
    dataWriters := Function.update w.dataWriters writerId (some writer) }

def recHdr (clock : Clock) (msg : PcapMsg) : PcaprecHdr where
  tsSec := clock.nowSec
  tsUsec := clock.nowUsec
  inclLen := msg.capturedLen
  origLen := msg.origLen

/-- `writePacket`. Nothing is returned where the packet of an empty message is read. -/
def writePacket (clock : Clock) (msg : PcapMsg) (writerId : EventId) (w : PcapWriter W) :
    Option (PcapWriter W) :=
  match w.dataWriters writerId with
  | none => some w
  | some writer =>
    let writer := DataWriter.writeData (structs.pcaprecHdr.encode (recHdr clock msg)) writer
    msg.pckt.map fun bytes ↦
      w.setDataWriter writerId (DataWriter.writeData (bytes.take msg.capturedLen.toNat) writer)

def fileHdr (w : PcapWriter W) : PcapHdr where
  magicNumber := kPcapWriterMagic
  versionMajor := kVersionMajor
  versionMinor := kVersionMinor
  thiszone := kGmt
  sigfigs := kAccuracy
  snaplen := w.captureLen
  network := kEthernet

def writePcapHeader (writerId : EventId) (w : PcapWriter W) : Bool × PcapWriter W :=
  if writerId ∈ w.headerExists then
    (true, w)
  else
    match w.dataWriters writerId with
    | none => (false, w)
    | some writer =>
      if DataWriter.available structs.pcapHdr.size writer = false then
        (false, w)
      else
        let writer := DataWriter.writeHeader (structs.pcapHdr.encode w.fileHdr) writer
        (true,
          { w.setDataWriter writerId writer with
            headerExists := insert writerId w.headerExists })

def restartWriters (packetLimit : BitVec 32) (w : PcapWriter W) : PcapWriter W :=
  { w with
    headerExists := ∅
    dataWriters := fun writerId ↦ (w.dataWriters writerId).map DataWriter.restart
    packetLimit := packetLimit
    packetAmount := 0 }

def stopWriters (w : PcapWriter W) : PcapWriter W :=
  { w with
    dataWriters := fun writerId ↦ (w.dataWriters writerId).map DataWriter.stop
    packetLimit := 0
    packetAmount := 0 }

/-- The control messages other than the one that ends the loop. -/
def handleControl (msg : PcapMsgMeta) (w : PcapWriter W) : PcapWriter W :=
  if msg.restart then
    w.restartWriters msg.packetLimit
  else if msg.stop then
    w.stopWriters
  else
    w

/-- The part of the loop that captures a packet whose event has a header. -/
def capture (clock : Clock) (msg : PcapMsg) (eventId : EventId) (w : PcapWriter W) :
    Option (PcapWriter W) :=
  let msg := msg.trim w.captureLen
  match w.dataWriters eventId with
  | none => some w
  | some writer =>
    if DataWriter.available (msg.capturedLen.toNat + structs.pcaprecHdr.size) writer = false then
      some { w with
        bufferFull := w.bufferFull + 1 }
    else
      (w.writePacket structs clock msg eventId).map fun w ↦
        { w with
          packetAmount := w.packetAmount + 1 }

/-- One message of the queue, and the time when it is handled. -/
def handleMsg (w : PcapWriter W) (read : Clock × PcapMsgMeta) : Option (PcapWriter W) :=
  let msg := read.2
  if msg.control then
    some (w.handleControl msg)
  else if w.packetLimitOverride = false ∧ w.packetLimit ≤ w.packetAmount then
    some w
  else if msg.getEventId ∉ w.enabledEvents then
    some w
  else
    let header := w.writePcapHeader structs msg.getEventId
    if header.1 = false then
      some header.2
    else
      header.2.capture structs read.1 msg.msg msg.getEventId

/-- `runMulti` on the messages of the queue, up to the one that shuts it down. -/
def runMulti : List (Clock × PcapMsgMeta) → PcapWriter W → Option (PcapWriter W)
  | [], w => some w
  | read :: queue, w =>
    if read.2.control ∧ read.2.shutdown then
      some w
    else
      (w.handleMsg structs read).bind (runMulti queue)

/-- Without a shutdown every message is handled. -/
theorem runMulti_eq_foldlM {queue : List (Clock × PcapMsgMeta)}
    (hqueue : ∀ read ∈ queue, read.2.control → read.2.shutdown = false) (w : PcapWriter W) :
    runMulti structs queue w = queue.foldlM (handleMsg structs) w := by
  induction queue generalizing w with
  | nil => rfl
  | cons read queue ih =>
    have hread : ¬ (read.2.control ∧ read.2.shutdown) := fun h ↦
      Bool.false_ne_true ((hqueue read List.mem_cons_self h.1).symm.trans h.2)
    rw [runMulti, if_neg hread, List.foldlM_cons]
    congr 1
    funext w'
    exact ih (fun read' h ↦ hqueue read' (List.mem_cons_of_mem read h)) w'

end PcapWriter

/-! ## Records -/

variable (structs : PcapStructs)

/-- The captured bytes of a packet. -/
def PcapMsg.captured (msg : PcapMsg) : List Byte :=
  (msg.pckt.getD []).take msg.capturedLen.toNat

/-- The record header and the captured bytes. -/
def record (written : Clock × PcapMsg) : List Byte :=
  structs.pcaprecHdr.encode (PcapWriter.recHdr written.1 written.2) ++ written.2.captured

/-- Records one after the other. -/
def recordFrames : Frames Byte := lengthPrefixed structs.pcaprecHdr fun hdr ↦ hdr.inclLen.toNat

theorem PcapMsg.exists_pckt {msg : PcapMsg} (hmsg : msg.emptyMsg = false) :
    ∃ bytes, msg.pckt = some bytes := by
  rw [emptyMsg, Option.isNone_eq_false_iff] at hmsg
  exact Option.isSome_iff_exists.mp hmsg

theorem PcapMsg.length_captured {msg : PcapMsg} (hmsg : msg.emptyMsg = false) :
    msg.captured.length = msg.capturedLen.toNat := by
  obtain ⟨bytes, hbytes⟩ := exists_pckt hmsg
  rw [captured, hbytes, Option.getD_some, List.length_take,
    min_eq_left (msg.capturedLen_le bytes hbytes)]

theorem isFrame_record {written : Clock × PcapMsg} (hmsg : written.2.emptyMsg = false) :
    IsFrame (recordFrames structs) (record structs written) :=
  isFrame_lengthPrefixed (PcapMsg.length_captured hmsg)

theorem PcapWriter.writePacket_eq {W : Type} [DataWriter W] {w : PcapWriter W} {writerId : EventId}
    {writer : W} (hwriter : w.dataWriters writerId = some writer) {msg : PcapMsg}
    (hmsg : msg.emptyMsg = false) (clock : Clock) :
    w.writePacket structs clock msg writerId = some (w.setDataWriter writerId
      (DataWriter.writeData msg.captured
        (DataWriter.writeData (structs.pcaprecHdr.encode (recHdr clock msg)) writer))) := by
  obtain ⟨bytes, hbytes⟩ := PcapMsg.exists_pckt hmsg
  have hcaptured : msg.captured = bytes.take msg.capturedLen.toNat := by
    rw [PcapMsg.captured, hbytes, Option.getD_some]
  rw [writePacket, hwriter, hcaptured, hbytes]
  rfl

end Vsoshlb.Monitoring

import Vsoshlb.Monitoring.Monitor
import Vsoshlb.Monitoring.PerfRing

/-!
# The reports of the program

The program reports a packet by `submit_event`: the kernel copies a description of it and the
beginning of the packet into a sample. `VsoshlbEventReader` makes a message of the sample, which
comes to the clients as a record.
-/

namespace Vsoshlb.Monitoring

open Framing RingBuffer

/-- `struct event_metadata`. -/
structure EventMetadata where
  event : BitVec 32
  pktSize : BitVec 32
  dataLen : BitVec 32
deriving DecidableEq

/-- The fields are packed, on a little-endian machine. -/
def eventMetadata : FixedCodec EventMetadata Byte :=
  (FixedCodec.prod (.word 4) <| .prod (.word 4) (.word 4)).comap
    (fun md : EventMetadata ↦ (md.event, md.pktSize, md.dataLen))
    (fun v ↦ ⟨v.1, v.2.1, v.2.2⟩) fun _ ↦ rfl

def MAX_EVENT_SIZE : BitVec 32 := 128

/-- `min_helper`, which compares its arguments as `int`. -/
def minHelper (a b : BitVec 32) : BitVec 32 := if a.slt b then a else b

/-- `bpf_perf_event_output` with so many bytes of the packet. What the kernel adds to have samples
of a multiple of eight bytes is an input. -/
def perfEventOutput (padding : List Byte) (md : EventMetadata) (packet : List Byte) :
    Option (List Byte) :=
  if md.dataLen.toNat ≤ packet.length then
    some (eventMetadata.encode md ++ (packet.take md.dataLen.toNat ++ padding))
  else
    none

/-- How much of the packet is copied. -/
def reportLen (metadataOnly : Bool) (size : BitVec 32) : BitVec 32 :=
  if metadataOnly then 0 else minHelper size MAX_EVENT_SIZE

/-- `submit_event`: the data of the sample, where the reports are enabled. -/
def submitEvent (ctlArray : BitVec 32 → Option (BitVec 64)) (padding : List Byte)
    (eventId size : BitVec 32) (metadataOnly : Bool) (packet : List Byte) : Option (List Byte) :=
  match ctlArray 5 with
  | none => none
  | some gk =>
    if gk = 0 then
      none
    else
      perfEventOutput padding ⟨eventId, size, reportLen metadataOnly size⟩ packet

/-- The constructor of `PcapMsg` for a packet that is there. -/
def PcapMsg.ofPacket (pckt : ℕ → Byte) (origLen capturedLen : BitVec 32) : PcapMsg where
  pckt := some (block pckt 0 capturedLen.toNat)
  origLen := origLen
  capturedLen := capturedLen
  capturedLen_le := by simp [length_block]

/-- The constructor of `PcapMsgMeta` for a packet. -/
def PcapMsgMeta.ofPacket (msg : PcapMsg) (event : BitVec 32) : PcapMsgMeta where
  msg := msg
  event := event
  packetLimit := 0
  restart := false
  control := false
  stop := false
  shutdown := false

/-- `handlePerfBufferEvent`, up to the queue. The sample has so many bytes, and memory goes on
behind it. The line that makes `pcap_msg_meta` is not in the source; it is taken to be the
constructor for `pcap_msg` and `mdata->event`. -/
def handlePerfBufferEvent (data : ℕ → Byte) (size : ℕ) : Option PcapMsgMeta :=
  if size < eventMetadata.size then
    none
  else
    let mdata := eventMetadata.decode (block data 0 eventMetadata.size)
    some (.ofPacket (.ofPacket (fun i ↦ data (eventMetadata.size + i)) mdata.pktSize mdata.dataLen)
      mdata.event)

/-! ## A report on its way -/

variable {ctlArray : BitVec 32 → Option (BitVec 64)} {padding packet sample : List Byte}
variable {eventId size : BitVec 32} {metadataOnly : Bool} {data : ℕ → Byte}

theorem submitEvent_eq_some (h : submitEvent ctlArray padding eventId size metadataOnly packet =
      some sample) :
    (reportLen metadataOnly size).toNat ≤ packet.length ∧
      sample = eventMetadata.encode ⟨eventId, size, reportLen metadataOnly size⟩ ++
        (packet.take (reportLen metadataOnly size).toNat ++ padding) := by
  unfold submitEvent at h
  split at h
  · cases h
  · split_ifs at h
    unfold perfEventOutput at h
    dsimp only at h
    split_ifs at h with hroom
    exact ⟨hroom, (Option.some.inj h).symm⟩

/-- The message has what the program put into the sample, whatever follows it. -/
theorem handlePerfBufferEvent_submitEvent
    (h : submitEvent ctlArray padding eventId size metadataOnly packet = some sample)
    (hdata : block data 0 sample.length = sample) :
    ∃ msg, handlePerfBufferEvent data sample.length = some (.ofPacket msg eventId) ∧
      msg.pckt = some (packet.take (reportLen metadataOnly size).toNat) ∧ msg.origLen = size ∧
      msg.capturedLen = reportLen metadataOnly size := by
  obtain ⟨hroom, rfl⟩ := submitEvent_eq_some h
  obtain ⟨hheader, hrest⟩ := block_eq_append hdata
  obtain ⟨hpacket, -⟩ := block_eq_append hrest
  rw [eventMetadata.length_encode] at hheader hpacket
  have hlength : (packet.take (reportLen metadataOnly size).toNat).length =
      (reportLen metadataOnly size).toNat := by
    rw [List.length_take, min_eq_left hroom]
  rw [hlength, Nat.zero_add, ← block_from] at hpacket
  have hsize : ¬ (eventMetadata.encode ⟨eventId, size, reportLen metadataOnly size⟩ ++
      (packet.take (reportLen metadataOnly size).toNat ++ padding)).length <
        eventMetadata.size := by
    rw [List.length_append, eventMetadata.length_encode]
    exact Nat.not_lt.mpr (Nat.le_add_right _ _)
  unfold handlePerfBufferEvent
  rw [if_neg hsize, hheader, eventMetadata.decode_encode]
  exact ⟨_, rfl, congrArg some hpacket, rfl, rfl⟩

theorem toNat_minHelper {a b : BitVec 32} (ha : a.toNat < 2 ^ 31) (hb : b.toNat < 2 ^ 31) :
    (minHelper a b).toNat = min a.toNat b.toNat := by
  have hslt : a.slt b = decide (a.toNat < b.toNat) := by
    rw [BitVec.slt_eq_decide, BitVec.toInt_eq_toNat_of_lt (by omega),
      BitVec.toInt_eq_toNat_of_lt (by omega)]
    simp only [Int.ofNat_lt]
  unfold minHelper
  rw [hslt]
  by_cases hlt : a.toNat < b.toNat
  · simp only [hlt, decide_true, if_true, min_eq_left (Nat.le_of_lt hlt)]
  · simp only [hlt, decide_false, Bool.false_eq_true, if_false, min_eq_right (Nat.le_of_not_lt hlt)]

theorem toNat_reportLen {n : ℕ} (hn : n < 2 ^ 31) (metadataOnly : Bool) :
    (reportLen metadataOnly (BitVec.ofNat 32 n)).toNat = if metadataOnly then 0 else min n 128 := by
  have hsize : (BitVec.ofNat 32 n).toNat = n := by
    rw [BitVec.toNat_ofNat]
    exact Nat.mod_eq_of_lt (by omega)
  unfold reportLen
  cases metadataOnly with
  | true => rfl
  | false =>
    have hmax : MAX_EVENT_SIZE.toNat = 128 := rfl
    have hmin := @toNat_minHelper (BitVec.ofNat 32 n) MAX_EVENT_SIZE (by rwa [hsize]) (by decide)
    rw [hsize, hmax] at hmin
    exact hmin

theorem toNat_trim (snaplen : BitVec 32) (msg : PcapMsg) :
    (msg.trim snaplen).capturedLen.toNat = min snaplen.toNat msg.capturedLen.toNat := by
  unfold PcapMsg.trim
  dsimp only
  split_ifs with hlt
  · exact (min_eq_left (Nat.le_of_lt hlt)).symm
  · exact (min_eq_right (BitVec.not_lt.mp hlt)).symm

/-- What a client gets of a packet that was reported: the length of the packet, and a record with as
much of its beginning as the program copies and the monitor keeps. -/
theorem submitEvent_reaches (structs : PcapStructs) (clock : Clock) (captureLen : BitVec 32)
    (hpacket : packet.length < 2 ^ 31)
    (h : submitEvent ctlArray padding eventId (BitVec.ofNat 32 packet.length) metadataOnly packet =
      some sample)
    (hdata : block data 0 sample.length = sample) :
    ∃ (msg : PcapMsgMeta) (n : BitVec 32),
      handlePerfBufferEvent data sample.length = some msg ∧
      (∀ Sub : Type, Reports (.write msg : MonitorStep Sub)) ∧
      n.toNat = min captureLen.toNat (if metadataOnly then 0 else min packet.length 128) ∧
      eventOf structs msg.getEventId (clock, msg.msg.trim captureLen) =
        ⟨eventId.setWidth 8, BitVec.ofNat 32 packet.length,
          structs.pcaprecHdr.encode ⟨clock.nowSec, clock.nowUsec, n,
            BitVec.ofNat 32 packet.length⟩ ++ packet.take n.toNat⟩ := by
  obtain ⟨msg, hmsg, hpckt, horigLen, hcapturedLen⟩ := handlePerfBufferEvent_submitEvent h hdata
  have hlength := toNat_trim captureLen msg
  rw [hcapturedLen, toNat_reportLen hpacket] at hlength
  have htrim : (msg.trim captureLen).capturedLen.toNat ≤
      (reportLen metadataOnly (BitVec.ofNat 32 packet.length)).toNat := by
    rw [toNat_trim, hcapturedLen]
    exact min_le_right _ _
  have hcaptured : (msg.trim captureLen).captured =
      packet.take (msg.trim captureLen).capturedLen.toNat := by
    have hbytes : (msg.trim captureLen).pckt = some (packet.take
        (reportLen metadataOnly (BitVec.ofNat 32 packet.length)).toNat) := hpckt
    rw [PcapMsg.captured, hbytes, Option.getD_some, List.take_take, min_eq_left htrim]
  have hrecHdr : PcapWriter.recHdr clock (msg.trim captureLen) = ⟨clock.nowSec, clock.nowUsec,
      (msg.trim captureLen).capturedLen, BitVec.ofNat 32 packet.length⟩ := by
    rw [← horigLen]
    rfl
  have hnotEmpty : msg.emptyMsg = false := by rw [PcapMsg.emptyMsg, hpckt, Option.isNone_some]
  have horig : (msg.trim captureLen).origLen = BitVec.ofNat 32 packet.length := horigLen
  refine ⟨_, (msg.trim captureLen).capturedLen, hmsg, fun _ _ ↦ hnotEmpty, hlength, ?_⟩
  calc eventOf structs (PcapMsgMeta.ofPacket msg eventId).getEventId (clock, msg.trim captureLen)
      = ⟨eventId.setWidth 8, (msg.trim captureLen).origLen,
          structs.pcaprecHdr.encode (PcapWriter.recHdr clock (msg.trim captureLen)) ++
            (msg.trim captureLen).captured⟩ := rfl
    _ = _ := by rw [horig, hrecHdr, hcaptured]

/-- The sample for a packet of four bytes that is too big, with four bytes that the kernel adds. -/
def fourBytesSample : List Byte := [1, 0, 0, 0, 4, 0, 0, 0, 4, 0, 0, 0, 1, 2, 3, 4, 0, 0, 0, 0]

theorem fourBytesSample_reaches : ∃ (msg : PcapMsgMeta) (n : BitVec 32),
    submitEvent (fun _ ↦ some 1) [0, 0, 0, 0] 1 4 false [1, 2, 3, 4] = some fourBytesSample ∧
      handlePerfBufferEvent (recordAt fourBytesSample) 20 = some msg ∧
      (∀ Sub : Type, Reports (.write msg : MonitorStep Sub)) ∧
      n.toNat = min 3 (min 4 128) ∧
      eventOf .littleEndian msg.getEventId (⟨7, 9⟩, msg.msg.trim 3) =
        ⟨PACKET_TOOBIG, 4, PcapStructs.littleEndian.pcaprecHdr.encode ⟨7, 9, n, 4⟩ ++
          [1, 2, 3, 4].take n.toNat⟩ := by
  have hsample : submitEvent (fun _ ↦ some 1) [0, 0, 0, 0] 1
      (BitVec.ofNat 32 ([1, 2, 3, 4] : List Byte).length) false [1, 2, 3, 4] =
        some fourBytesSample := by decide +kernel
  have hdata : block (recordAt fourBytesSample) 0 fourBytesSample.length = fourBytesSample := by
    decide +kernel
  obtain ⟨msg, n, hreaches⟩ :=
    submitEvent_reaches .littleEndian ⟨7, 9⟩ 3 (by decide) hsample hdata
  exact ⟨msg, n, hsample, hreaches⟩

end Vsoshlb.Monitoring

import Vsoshlb.Library.Runs
import Vsoshlb.Monitoring.PcapWriter

/-!
# The events that come out of a pipe

`EventPipeCallback` reads the records that `PipeWriter` wrote to a pipe, in whatever pieces they
arrive, and sends an event for each record to the clients that subscribed to it. What a read leaves
over is kept for the next one.
-/

namespace Vsoshlb.Monitoring

open Framing

/-- `Event`. -/
structure Event where
  id : EventId
  pktsize : BitVec 32
  data : List Byte
deriving DecidableEq

/-- `folly::io::Cursor` over one buffer. -/
structure Cursor where
  data : List Byte
  pos : ℕ

namespace Cursor

def rest (cursor : Cursor) : List Byte := cursor.data.drop cursor.pos

def canAdvance (amount : ℕ) (cursor : Cursor) : Bool := decide (amount ≤ cursor.rest.length)

def skip (amount : ℕ) (cursor : Cursor) : Cursor := ⟨cursor.data, cursor.pos + amount⟩

def retreat (amount : ℕ) (cursor : Cursor) : Cursor := ⟨cursor.data, cursor.pos - amount⟩

@[simp] theorem rest_skip (amount : ℕ) (cursor : Cursor) :
    (cursor.skip amount).rest = cursor.rest.drop amount := by
  simp only [rest, skip, List.drop_drop]

theorem skip_skip (m n : ℕ) (cursor : Cursor) :
    (cursor.skip m).skip n = cursor.skip (m + n) := by
  simp only [skip, Nat.add_assoc]

@[simp] theorem retreat_skip (amount : ℕ) (cursor : Cursor) :
    (cursor.skip amount).retreat amount = cursor := by
  simp only [retreat, skip, Nat.add_sub_cancel]

end Cursor

variable {Sub : Type} (structs : PcapStructs)

/-- An `EventPipeCallback` as the reader of its pipe: what `readBuffer_` holds, and what was sent to
each client. -/
structure EventPipeReader (Sub : Type) extends EventPipeCallback Sub where
  readBuffer : List Byte
  eventEnabled : Bool
  eventId : EventId
  sent : ClientId → List Event

namespace EventPipeReader

/-- The callback of an event that has just been enabled. -/
def new (eventId : EventId) (subsmap : ClientId → Option Sub) : EventPipeReader Sub where
  cbSubsmap := subsmap
  readBuffer := []
  eventEnabled := true
  eventId := eventId
  sent _ := []

/-- The loop over the subscribers, where the event is enabled. -/
def send (msg : Event) (reader : EventPipeReader Sub) : EventPipeReader Sub :=
  if reader.eventEnabled then
    { reader with
      sent := fun cid ↦
        if (reader.cbSubsmap cid).isSome then reader.sent cid ++ [msg] else reader.sent cid }
  else
    reader

/-- The part of the loop that looks for a complete record. The cursor backs up to have the header
in the data, or to leave it in the buffer. -/
def nextEvent (eventId : EventId) (rcursor : Cursor) : Option Event × Cursor :=
  let recHdrSz := structs.pcaprecHdr.size
  if rcursor.canAdvance recHdrSz then
    let recHdr := structs.pcaprecHdr.decode (rcursor.rest.take recHdrSz)
    let rcursor := rcursor.skip recHdrSz
    if rcursor.canAdvance recHdr.inclLen.toNat then
      let rcursor := rcursor.retreat recHdrSz
      let amount := recHdrSz + recHdr.inclLen.toNat
      (some ⟨eventId, recHdr.origLen, rcursor.rest.take amount⟩, rcursor.skip amount)
    else
      (none, rcursor.retreat recHdrSz)
  else
    (none, rcursor)

/-- The loop, for so many rounds. Nothing is returned where these do not suffice. -/
def readRecords : ℕ → Cursor → EventPipeReader Sub → Option (Cursor × EventPipeReader Sub)
  | 0, _, _ => none
  | rounds + 1, rcursor, reader =>
    let next := nextEvent structs reader.eventId rcursor
    match next.1 with
    | none => some (next.2, reader)
    | some msg => readRecords rounds next.2 (reader.send msg)

/-- `readBuffer`. Every round but the last one takes some bytes of the buffer. -/
def readBuf (buf : List Byte) (reader : EventPipeReader Sub) : Option (EventPipeReader Sub) :=
  (readRecords structs (buf.length + 1) ⟨buf, 0⟩ reader).map fun result ↦
    { result.2 with
      readBuffer := result.2.readBuffer ++ buf.drop result.1.pos }

/-- `readDataAvailable`: the data that was read comes after what the buffer had. -/
def readDataAvailable (reader : EventPipeReader Sub) (data : List Byte) :
    Option (EventPipeReader Sub) :=
  readBuf structs (reader.readBuffer ++ data)
    { reader with
      readBuffer := [] }

end EventPipeReader

/-! ## What is written -/

/-- The event for a message. -/
def eventOf (eventId : EventId) (written : Clock × PcapMsg) : Event :=
  ⟨eventId, written.2.origLen, record structs written⟩

/-- The original length as the record's header has it. -/
def frameEvent (eventId : EventId) (frame : List Byte) : Event :=
  ⟨eventId, (structs.pcaprecHdr.decode (frame.take structs.pcaprecHdr.size)).origLen, frame⟩

theorem frameEvent_record (eventId : EventId) (written : Clock × PcapMsg) :
    frameEvent structs eventId (record structs written) = eventOf structs eventId written := by
  have htake : (record structs written).take structs.pcaprecHdr.size =
      structs.pcaprecHdr.encode (PcapWriter.recHdr written.1 written.2) := by
    rw [record, ← structs.pcaprecHdr.length_encode (PcapWriter.recHdr written.1 written.2),
      List.take_left]
  rw [frameEvent, htake, structs.pcaprecHdr.decode_encode]
  rfl

/-! ## What is read -/

namespace EventPipeReader

variable {structs}

/-- The cursor backs up to where it was. -/
theorem nextEvent_of_none {rcursor : Cursor} (eventId : EventId)
    (h : (recordFrames structs).frameLength rcursor.rest = none) :
    nextEvent structs eventId rcursor = (none, rcursor) := by
  simp only [recordFrames, lengthPrefixed] at h
  simp only [nextEvent, Cursor.canAdvance, Cursor.rest_skip, Cursor.retreat_skip, List.length_drop,
    decide_eq_true_eq]
  split_ifs with hheader hpayload
  · rw [if_neg (Nat.not_lt.mpr hheader), if_pos (by omega)] at h
    cases h
  · rfl
  · rfl

/-- The event has the complete record, and the cursor passes it. -/
theorem nextEvent_of_some {rcursor : Cursor} {n : ℕ} (eventId : EventId)
    (h : (recordFrames structs).frameLength rcursor.rest = some n) :
    nextEvent structs eventId rcursor =
      (some (frameEvent structs eventId (rcursor.rest.take n)), rcursor.skip n) := by
  simp only [recordFrames, lengthPrefixed] at h
  split_ifs at h with hheader hpayload
  obtain rfl := Option.some.inj h
  simp only [nextEvent, Cursor.canAdvance, Cursor.rest_skip, Cursor.retreat_skip, List.length_drop,
    decide_eq_true_eq, frameEvent, List.take_take, Nat.min_eq_left (Nat.le_add_right _ _)]
  rw [if_pos (Nat.le_of_not_lt hheader), if_pos (by omega)]

@[simp] theorem send_eventId (msg : Event) (reader : EventPipeReader Sub) :
    (reader.send msg).eventId = reader.eventId := by
  unfold send
  split_ifs <;> rfl

def sendAll (msgs : List Event) (reader : EventPipeReader Sub) : EventPipeReader Sub :=
  msgs.foldl (fun reader msg ↦ reader.send msg) reader

/-- Only what was sent changes. -/
theorem exists_sendAll_eq (msgs : List Event) (reader : EventPipeReader Sub) :
    ∃ sent, reader.sendAll msgs = { reader with
      sent := sent } := by
  refine Runs.foldl_invariant (fun r : EventPipeReader Sub ↦ ∃ sent, r = { reader with
    sent := sent }) ⟨reader.sent, rfl⟩ msgs ?_
  rintro _ msg ⟨sent, rfl⟩
  unfold send
  split_ifs
  · exact ⟨_, rfl⟩
  · exact ⟨sent, rfl⟩

theorem sendAll_setReadBuffer (msgs : List Event) (buf : List Byte) (reader : EventPipeReader Sub) :
    { reader with
      readBuffer := buf }.sendAll msgs =
    { reader.sendAll msgs with
      readBuffer := buf } := by
  induction msgs generalizing reader with
  | nil => rfl
  | cons msg msgs ih =>
    have hsend : { reader with
        readBuffer := buf }.send msg = { reader.send msg with
        readBuffer := buf } := by
      unfold send
      dsimp only
      split_ifs <;> rfl
    calc { reader with
        readBuffer := buf }.sendAll (msg :: msgs)
        = { reader.send msg with
            readBuffer := buf }.sendAll msgs := congrArg (sendAll msgs) hsend
      _ = { reader.sendAll (msg :: msgs) with
            readBuffer := buf } := ih (reader.send msg)

/-- A client that subscribed is sent every event once, in order. -/
theorem sendAll_sent {reader : EventPipeReader Sub} {cid : ClientId}
    (henabled : reader.eventEnabled = true) (hcid : (reader.cbSubsmap cid).isSome)
    (msgs : List Event) : (reader.sendAll msgs).sent cid = reader.sent cid ++ msgs := by
  induction msgs generalizing reader with
  | nil => exact (List.append_nil _).symm
  | cons msg msgs ih =>
    have hsend : reader.send msg = { reader with
        sent := fun cid ↦
          if (reader.cbSubsmap cid).isSome then reader.sent cid ++ [msg] else reader.sent cid } :=
      if_pos henabled
    have hlater : ((reader.send msg).sendAll msgs).sent cid = (reader.send msg).sent cid ++ msgs :=
      ih (by rw [hsend]; exact henabled) (by rw [hsend]; exact hcid)
    calc (reader.sendAll (msg :: msgs)).sent cid
        = (reader.send msg).sent cid ++ msgs := hlater
      _ = reader.sent cid ++ [msg] ++ msgs := by
          rw [hsend]
          exact congrArg (· ++ msgs) (if_pos hcid)
      _ = reader.sent cid ++ msg :: msgs := by rw [List.append_assoc, List.singleton_append]

/-- Every round takes a complete record, up to the one that finds none. -/
theorem readRecords_of_splits {frames : List (List Byte)} {tail : List Byte} {rounds : ℕ}
    {rcursor : Cursor} {reader : EventPipeReader Sub}
    (h : Splits (recordFrames structs) rcursor.rest frames tail)
    (hrounds : frames.length < rounds) :
    readRecords structs rounds rcursor reader =
      some (rcursor.skip frames.flatten.length,
        reader.sendAll (frames.map (frameEvent structs reader.eventId))) := by
  induction frames generalizing rounds rcursor reader with
  | nil =>
    obtain ⟨rounds, rfl⟩ : ∃ k, rounds = k + 1 := Nat.exists_eq_succ_of_ne_zero (by omega)
    rw [readRecords, nextEvent_of_none reader.eventId h.frameLength_eq_none]
    rfl
  | cons frame frames ih =>
    obtain ⟨hlength, hframe, hlater⟩ := h.uncons
    obtain ⟨rounds, rfl⟩ : ∃ k, rounds = k + 1 := Nat.exists_eq_succ_of_ne_zero (by omega)
    rw [readRecords, nextEvent_of_some reader.eventId hlength, hframe]
    rw [← Cursor.rest_skip] at hlater
    have hrest := @ih _ _ (reader.send (frameEvent structs reader.eventId frame)) hlater
      (Nat.lt_of_succ_lt_succ hrounds)
    rw [send_eventId] at hrest
    rw [List.flatten_cons, List.length_append, ← Cursor.skip_skip]
    exact hrest

/-- A read sends the records that are complete by now and keeps what comes after them. -/
theorem readDataAvailable_of_splits {frames : List (List Byte)} {tail data : List Byte}
    {reader : EventPipeReader Sub}
    (h : Splits (recordFrames structs) (reader.readBuffer ++ data) frames tail) :
    readDataAvailable structs reader data =
      some { reader.sendAll (frames.map (frameEvent structs reader.eventId)) with
        readBuffer := tail } := by
  have hrounds : frames.length < (reader.readBuffer ++ data).length + 1 :=
    Nat.lt_succ_of_le h.length_le
  have hleft : (reader.readBuffer ++ data).drop frames.flatten.length = tail := by
    rw [← h.bytes, List.drop_left]
  have hrest : Splits (recordFrames structs) (Cursor.rest ⟨reader.readBuffer ++ data, 0⟩) frames
      tail := h
  rw [readDataAvailable, readBuf, readRecords_of_splits hrest hrounds, Option.map_some,
    sendAll_setReadBuffer]
  simp only [Cursor.skip, Nat.zero_add, hleft, List.nil_append]

/-- The state of a reader that some bytes of the pipe have reached: it sent the complete records
among them, and keeps the rest. -/
structure HasRead (structs : PcapStructs) (eventId : EventId) (cid : ClientId)
    (arrived : List Byte) (frames : List (List Byte)) (reader : EventPipeReader Sub) : Prop where
  splits : Splits (recordFrames structs) arrived frames reader.readBuffer
  sent : reader.sent cid = frames.map (frameEvent structs eventId)
  id : reader.eventId = eventId
  enabled : reader.eventEnabled = true
  subscribed : (reader.cbSubsmap cid).isSome

variable {eventId : EventId} {cid : ClientId} {arrived : List Byte} {frames : List (List Byte)}
  {reader : EventPipeReader Sub}

theorem HasRead.new {subsmap : ClientId → Option Sub} (hcid : (subsmap cid).isSome) :
    HasRead structs eventId cid [] [] (new eventId subsmap) :=
  ⟨Splits.nil, rfl, rfl, rfl, hcid⟩

theorem HasRead.readDataAvailable (h : HasRead structs eventId cid arrived frames reader)
    (data : List Byte) :
    ∃ reader' later, readDataAvailable structs reader data = some reader' ∧
      HasRead structs eventId cid (arrived ++ data) (frames ++ later) reader' := by
  obtain ⟨later, tail, hmore⟩ := exists_splits (recordFrames structs) (reader.readBuffer ++ data)
  refine ⟨_, later, readDataAvailable_of_splits hmore, ?_⟩
  obtain ⟨sent, hsent⟩ := exists_sendAll_eq (later.map (frameEvent structs reader.eventId)) reader
  have hevents := sendAll_sent h.enabled h.subscribed
    (later.map (frameEvent structs reader.eventId))
  rw [hsent, h.sent, h.id, ← List.map_append] at hevents
  rw [hsent]
  exact ⟨h.splits.append hmore, hevents, h.id, h.enabled, h.subscribed⟩

/-- However the bytes arrive. -/
theorem HasRead.readAll (h : HasRead structs eventId cid arrived frames reader)
    (reads : List (List Byte)) :
    ∃ reader' frames',
      reads.foldlM (EventPipeReader.readDataAvailable structs) reader = some reader' ∧
        HasRead structs eventId cid (arrived ++ reads.flatten) frames' reader' := by
  induction reads generalizing arrived frames reader with
  | nil => exact ⟨reader, frames, rfl, by rwa [List.flatten_nil, List.append_nil]⟩
  | cons data reads ih =>
    obtain ⟨reader', later, hread, h'⟩ := h.readDataAvailable data
    obtain ⟨reader'', frames', hreads, h''⟩ := ih h'
    refine ⟨reader'', frames', ?_, ?_⟩
    · rw [List.foldlM_cons, hread]
      exact hreads
    · rwa [List.flatten_cons, ← List.append_assoc]

end EventPipeReader

/-! ## From the writer to the clients -/

namespace PcapWriter

/-- The packets of some messages, written one after the other. -/
def writePackets (writerId : EventId) (msgs : List (Clock × PcapMsg)) (w : PcapWriter PipeWriter) :
    Option (PcapWriter PipeWriter) :=
  msgs.foldlM (fun w written ↦ w.writePacket structs written.1 written.2 writerId) w

end PcapWriter

theorem PipeWriter.writeData_of_enabled (pipe data : List Byte) (headerBuf : Option (List Byte)) :
    PipeWriter.writeData data ⟨pipe, true, headerBuf⟩ = ⟨pipe ++ data, true, headerBuf⟩ := by
  unfold PipeWriter.writeData
  split_ifs with hsize hdisabled
  · rw [List.eq_nil_of_length_eq_zero hsize, List.append_nil]
  · cases hdisabled
  · rfl

variable {structs} {writerId : EventId} {headerBuf : Option (List Byte)}

theorem PcapWriter.writePacket_pipe {w : PcapWriter PipeWriter} {pipe : List Byte}
    (hw : w.dataWriters writerId = some ⟨pipe, true, headerBuf⟩) {written : Clock × PcapMsg}
    (hmsg : written.2.emptyMsg = false) :
    ∃ w', w.writePacket structs written.1 written.2 writerId = some w' ∧
      w'.dataWriters writerId = some ⟨pipe ++ record structs written, true, headerBuf⟩ := by
  refine ⟨_, writePacket_eq structs hw hmsg written.1, ?_⟩
  simp only [setDataWriter, Function.update_self, DataWriter.writeData,
    PipeWriter.writeData_of_enabled, record, List.append_assoc]

theorem PcapWriter.writePackets_pipe {w : PcapWriter PipeWriter} {pipe : List Byte}
    (hw : w.dataWriters writerId = some ⟨pipe, true, headerBuf⟩) {msgs : List (Clock × PcapMsg)}
    (hmsgs : ∀ written ∈ msgs, written.2.emptyMsg = false) :
    ∃ w', w.writePackets structs writerId msgs = some w' ∧ w'.dataWriters writerId =
      some ⟨pipe ++ (msgs.map (record structs)).flatten, true, headerBuf⟩ := by
  induction msgs generalizing w pipe with
  | nil => exact ⟨w, rfl, by rw [hw, List.map_nil, List.flatten_nil, List.append_nil]⟩
  | cons written msgs ih =>
    obtain ⟨w', hwrite, hw'⟩ := writePacket_pipe hw
      (hmsgs written List.mem_cons_self)
    obtain ⟨w'', hwrites, hw''⟩ := ih hw' fun m hm ↦ hmsgs m (List.mem_cons_of_mem written hm)
    refine ⟨w'', ?_, ?_⟩
    · rw [writePackets, List.foldlM_cons, hwrite]
      exact hwrites
    · rw [hw'', List.map_cons, List.flatten_cons, List.append_assoc]

/-- The reader has sent the events of the first messages, and keeps what has arrived of the record
that comes next. -/
structure SentExactly (structs : PcapStructs) (eventId : EventId) (cid : ClientId)
    (arrived : List Byte) (handled later : List (Clock × PcapMsg)) (reader : EventPipeReader Sub) :
    Prop where
  sent : reader.sent cid = handled.map (eventOf structs eventId)
  arrived : arrived = (handled.map (record structs)).flatten ++ reader.readBuffer
  retained : IsIncomplete reader.readBuffer (later.map (record structs))

variable {eventId : EventId} {cid : ClientId}

/-- The frames that a reader has found at the beginning of a stream of records are the first
records. -/
theorem EventPipeReader.HasRead.sentExactly {arrived : List Byte} {frames : List (List Byte)}
    {reader : EventPipeReader Sub} (h : HasRead structs eventId cid arrived frames reader)
    {msgs : List (Clock × PcapMsg)} (hmsgs : ∀ written ∈ msgs, written.2.emptyMsg = false)
    (hpre : arrived <+: (msgs.map (record structs)).flatten) :
    ∃ handled later, msgs = handled ++ later ∧
      SentExactly structs eventId cid arrived handled later reader := by
  have hrecords : ∀ frame ∈ msgs.map (record structs), IsFrame (recordFrames structs) frame := by
    intro frame hframe
    obtain ⟨written, hwritten, rfl⟩ := List.mem_map.mp hframe
    exact isFrame_record structs (hmsgs written hwritten)
  obtain ⟨rest, hsplit, hrest⟩ := h.splits.of_prefix hrecords hpre
  obtain ⟨handled, later, rfl, rfl, rfl⟩ := List.map_eq_append_iff.mp hsplit
  refine ⟨handled, later, rfl, ?_, h.splits.bytes.symm, hrest⟩
  rw [h.sent, List.map_map]
  exact List.map_congr_left fun written _ ↦ frameEvent_record structs eventId written

/-- When all has arrived, nothing is left to send or to keep. -/
theorem SentExactly.eq_nil {handled later : List (Clock × PcapMsg)} {reader : EventPipeReader Sub}
    (h : SentExactly structs eventId cid ((handled ++ later).map (record structs)).flatten handled
      later reader) : reader.readBuffer = [] ∧ later = [] := by
  have harrived := h.arrived
  rw [List.map_append, List.flatten_append] at harrived
  obtain ⟨hempty, hlater⟩ := h.retained.eq_nil (List.append_cancel_left harrived).symm
  exact ⟨hempty, List.map_eq_nil_iff.mp hlater⟩

/-- Whatever the pieces in which the bytes of the written packets are read, a subscribed client is
sent their events in order, each with the record and the packet's original length, and every read
leaves just the incomplete last record. -/
theorem events_survive_pipe (structs : PcapStructs) (eventId : EventId)
    {w : PcapWriter PipeWriter} (hpipe : w.dataWriters writerId = some ⟨[], true, headerBuf⟩)
    {msgs : List (Clock × PcapMsg)} (hmsgs : ∀ written ∈ msgs, written.2.emptyMsg = false)
    {subsmap : ClientId → Option Sub} (hcid : (subsmap cid).isSome) :
    ∃ w' stream, w.writePackets structs writerId msgs = some w' ∧
      w'.dataWriters writerId = some ⟨stream, true, headerBuf⟩ ∧
      ∀ reads : List (List Byte), (∀ data ∈ reads, data ≠ []) → reads.flatten = stream →
        (∀ earlier, earlier <+: reads → ∃ reader handled later,
          earlier.foldlM (EventPipeReader.readDataAvailable structs) (.new eventId subsmap) =
            some reader ∧
          msgs = handled ++ later ∧
          SentExactly structs eventId cid earlier.flatten handled later reader) ∧
        ∃ reader,
          reads.foldlM (EventPipeReader.readDataAvailable structs) (.new eventId subsmap) =
            some reader ∧
          reader.sent cid = msgs.map (eventOf structs eventId) ∧ reader.readBuffer = [] := by
  obtain ⟨w', hwrite, hstream⟩ := PcapWriter.writePackets_pipe hpipe hmsgs
  rw [List.nil_append] at hstream
  refine ⟨w', _, hwrite, hstream, fun reads _ hreads ↦ ?_⟩
  have hearlier : ∀ earlier, earlier <+: reads → ∃ reader handled later,
      earlier.foldlM (EventPipeReader.readDataAvailable structs) (.new eventId subsmap) =
        some reader ∧
      msgs = handled ++ later ∧
      SentExactly structs eventId cid earlier.flatten handled later reader := by
    rintro earlier ⟨rest, rfl⟩
    obtain ⟨reader, frames, hrun, hread⟩ :=
      (EventPipeReader.HasRead.new hcid :
        EventPipeReader.HasRead structs eventId cid [] [] _).readAll earlier
    have hpre : earlier.flatten <+: (msgs.map (record structs)).flatten := by
      rw [← hreads, List.flatten_append]
      exact List.prefix_append _ _
    obtain ⟨handled, later, hsplit, hsent⟩ := hread.sentExactly hmsgs hpre
    exact ⟨reader, handled, later, hrun, hsplit, hsent⟩
  refine ⟨hearlier, ?_⟩
  obtain ⟨reader, handled, later, hrun, rfl, hsent⟩ := hearlier reads List.prefix_rfl
  rw [hreads] at hsent
  obtain ⟨hempty, rfl⟩ := hsent.eq_nil
  rw [List.append_nil]
  exact ⟨reader, hrun, hsent.sent, hempty⟩

/-- The messages of two packets, of which the first one was captured in part and the second one
not at all. -/
def twoPackets : List (Clock × PcapMsg) :=
  [(⟨7, 9⟩, ⟨some [1, 2, 3], 60, 2, by simp⟩), (⟨8, 0⟩, ⟨some [4], 40, 0, by simp⟩)]

/-- The first piece ends in a header, the second one in the payload. -/
def twoPacketReads : List (List Byte) :=
  [[7, 0, 0, 0, 9, 0, 0, 0, 2, 0], [0, 0, 60, 0, 0, 0, 1],
    [2, 8, 0, 0, 0, 0, 0, 0, 0, 0, 0, 0, 0, 40, 0, 0, 0]]

def oneClient : ClientId → Option Unit := fun cid ↦ if cid = 1 then some () else none

theorem split_header_survives :
    ∃ reader, twoPacketReads.foldlM (EventPipeReader.readDataAvailable .littleEndian)
        (.new TCP_NONSYN_LRUMISS oneClient) = some reader ∧
      reader.sent 1 =
        [⟨TCP_NONSYN_LRUMISS, 60, [7, 0, 0, 0, 9, 0, 0, 0, 2, 0, 0, 0, 60, 0, 0, 0, 1, 2]⟩,
          ⟨TCP_NONSYN_LRUMISS, 40, [8, 0, 0, 0, 0, 0, 0, 0, 0, 0, 0, 0, 40, 0, 0, 0]⟩] ∧
      reader.readBuffer = [] := by
  let w : PcapWriter PipeWriter := .new (fun _ ↦ some ⟨[], true, none⟩) 0 0
  have hpipe : w.dataWriters 0 = some ⟨[], true, none⟩ := rfl
  have hmsgs : ∀ written ∈ twoPackets, written.2.emptyMsg = false := by decide
  have hcid : (oneClient 1).isSome := rfl
  obtain ⟨w', stream, hwrite, hstream, hreads⟩ :=
    events_survive_pipe .littleEndian TCP_NONSYN_LRUMISS hpipe hmsgs hcid
  have hall : twoPacketReads.flatten = stream := by
    have hrun : (w.writePackets .littleEndian 0 twoPackets).map (fun w ↦ w.dataWriters 0) =
        some (some ⟨twoPacketReads.flatten, true, none⟩) := by decide +kernel
    rw [hwrite, Option.map_some, hstream] at hrun
    exact (congrArg PipeWriter.pipe (Option.some.inj (Option.some.inj hrun))).symm
  obtain ⟨-, reader, hrun, hsent, hempty⟩ := hreads twoPacketReads (by decide) hall
  exact ⟨reader, hrun, hsent.trans (by decide +kernel), hempty⟩

end Vsoshlb.Monitoring

import Vsoshlb.Monitoring.CaptureBuffers
import Vsoshlb.Monitoring.Delivery
import Vsoshlb.Monitoring.EventPipe

/-!
# The monitor at work

`VsoshlbMonitor` puts what the kernel reports into a queue. A thread takes the messages from the
queue and writes the packets to the pipes of their events, and `MonitoringServiceCore` reads the
pipes and sends the events to the clients that have subscribed. These go on side by side, in any
order.

Every event has its pipe here, and the pipes are the only storage.
-/

namespace Vsoshlb.Monitoring

open Framing

variable {Sub : Type} (structs : PcapStructs)

/-! ## The system -/

/-- The end of a pipe that an event's callback reads: how much of it was read, and what the callback
has beside its clients. -/
structure PipeEnd where
  position : ℕ
  readBuffer : List Byte
  sent : ClientId → List Event

/-- The queue, the thread that writes, and the callbacks that read. The messages that the queue took
and those that came out of it are kept as they go by. -/
structure Monitor (Sub : Type) where
  queue : List PcapMsgMeta
  running : Bool
  writer : PcapWriter PipeWriter
  core : MonitoringServiceCore Sub
  ends : EventId → PipeEnd
  taken : List PcapMsgMeta
  handled : List (Clock × PcapMsgMeta)

inductive MonitorStep (Sub : Type) where
  | write (msg : PcapMsgMeta)
  | work (clock : Clock)
  | read (eventId : EventId) (amount : ℕ)
  | client (call : SubscriptionCall Sub)

namespace Monitor

/-- A monitor whose constructor and whose service's `initialize` have returned. -/
def start (events : List EventId) (packetLimit snaplen : BitVec 32) : Monitor Sub where
  queue := []
  running := true
  writer :=
    { PcapWriter.new (fun eventId ↦ if eventId ∈ events then some ⟨[], true, none⟩ else none)
        packetLimit snaplen with
      enabledEvents := events.toFinset
      packetLimitOverride := true }
  core := startCore events fun _ ↦ true
  ends _ := ⟨0, [], fun _ ↦ []⟩
  taken := []
  handled := []

/-- `queue_->write`. A message for which there is no room is lost; `blockingWrite` waits until there
is room. -/
def write (capacity : ℕ) (msg : PcapMsgMeta) (s : Monitor Sub) : Monitor Sub :=
  if s.queue.length < capacity then
    { s with
      queue := s.queue ++ [msg]
      taken := s.taken ++ [msg] }
  else
    s

/-- A round of `runMulti`, which waits while the queue is empty. -/
def work (clock : Clock) (s : Monitor Sub) : Option (Monitor Sub) :=
  if s.running = false then
    some s
  else
    match s.queue with
    | [] => some s
    | msg :: queue =>
      let s :=
        { s with
          queue := queue
          handled := s.handled ++ [(clock, msg)] }
      if msg.control ∧ msg.shutdown then
        some { s with
          running := false }
      else
        (s.writer.handleMsg structs (clock, msg)).map fun writer ↦
          { s with
            writer := writer }

/-- What was written to the pipe of an event. -/
def pipe (eventId : EventId) (s : Monitor Sub) : List Byte :=
  ((s.writer.dataWriters eventId).map PipeWriter.pipe).getD []

/-- What was read from it. -/
def arrived (eventId : EventId) (s : Monitor Sub) : List Byte :=
  (s.pipe eventId).take (s.ends eventId).position

/-- The callback of an event, with the clients that the core has for it. -/
def reader (eventId : EventId) (cb : EventPipeCallback Sub) (s : Monitor Sub) :
    EventPipeReader Sub where
  cbSubsmap := cb.cbSubsmap
  readBuffer := (s.ends eventId).readBuffer
  eventEnabled := true
  eventId := eventId
  sent := (s.ends eventId).sent

def setEnd (eventId : EventId) (pipeEnd : PipeEnd) (s : Monitor Sub) : Monitor Sub :=
  { s with
    ends := Function.update s.ends eventId pipeEnd }

/-- The event base reads some bytes from a pipe, no more than there are. -/
def read (eventId : EventId) (amount : ℕ) (s : Monitor Sub) : Option (Monitor Sub) :=
  match s.core.eventPipeCbs eventId with
  | none => some s
  | some cb =>
    let data := ((s.pipe eventId).drop (s.ends eventId).position).take amount
    ((s.reader eventId cb).readDataAvailable structs data).map fun reader ↦
      s.setEnd eventId
        ⟨(s.ends eventId).position + data.length, reader.readBuffer, reader.sent⟩

def next (capacity : ℕ) (s : Monitor Sub) : MonitorStep Sub → Option (Monitor Sub)
  | .write msg => some (s.write capacity msg)
  | .work clock => s.work structs clock
  | .read eventId amount => s.read structs eventId amount
  | .client call => (deliveryStep s.core call).map fun core ↦
      { s with
        core := core }

end Monitor

/-! ## What the monitor is for -/

/-- The packets of an event that are to be sent, and whether more are to come. -/
structure Stream where
  enabled : Bool
  packets : List (Clock × PcapMsg)

/-- Packets for the event go to the stream unless the monitor is stopped. -/
def Stream.handle (captureLen : BitVec 32) (eventId : EventId) (stream : Stream)
    (read : Clock × PcapMsgMeta) : Stream :=
  if read.2.control then
    if read.2.shutdown then
      stream
    else if read.2.restart then
      { stream with
        enabled := true }
    else if read.2.stop then
      { stream with
        enabled := false }
    else
      stream
  else if read.2.getEventId = eventId ∧ stream.enabled then
    { stream with
      packets := stream.packets ++ [(read.1, read.2.msg.trim captureLen)] }
  else
    stream

def streamOf (captureLen : BitVec 32) (eventId : EventId) (handled : List (Clock × PcapMsgMeta)) :
    Stream :=
  handled.foldl (Stream.handle captureLen eventId) ⟨true, []⟩

/-- What is to be sent for an event, by the messages that were handled so far. -/
def Monitor.stream (eventId : EventId) (s : Monitor Sub) : Stream :=
  streamOf s.writer.captureLen eventId s.handled

theorem streamOf_concat (captureLen : BitVec 32) (eventId : EventId)
    (handled : List (Clock × PcapMsgMeta)) (read : Clock × PcapMsgMeta) :
    streamOf captureLen eventId (handled ++ [read]) =
      (streamOf captureLen eventId handled).handle captureLen eventId read := by
  rw [streamOf, List.foldl_concat]
  rfl

/-- A packet that is reported is there. -/
def Reports : MonitorStep Sub → Prop
  | .write msg => msg.control = false → msg.msg.emptyMsg = false
  | _ => True

/-! ## The writer -/

section Writer

variable {structs} {w w' : PcapWriter PipeWriter} {eventId : EventId} {stream : Stream}

/-- The pipe of the event has the records of the stream. -/
structure WritesStream (structs : PcapStructs) (captureLen : BitVec 32)
    (w : PcapWriter PipeWriter) (eventId : EventId) (stream : Stream) : Prop where
  writer : ∃ headerBuf, w.dataWriters eventId =
    some ⟨(stream.packets.map (record structs)).flatten, stream.enabled, headerBuf⟩
  enabled : eventId ∈ w.enabledEvents
  unlimited : w.packetLimitOverride = true
  captureLen : w.captureLen = captureLen
  whole : ∀ written ∈ stream.packets, written.2.emptyMsg = false

/-- A record goes to the pipe of a writer that is enabled. -/
theorem PipeWriter.writeData_writeData (pipe header data : List Byte) (enabled : Bool)
    (headerBuf : Option (List Byte)) :
    PipeWriter.writeData data (PipeWriter.writeData header ⟨pipe, enabled, headerBuf⟩) =
      ⟨if enabled then pipe ++ (header ++ data) else pipe, enabled, headerBuf⟩ := by
  cases enabled with
  | true =>
    rw [writeData_of_enabled, writeData_of_enabled, List.append_assoc]
    rfl
  | false =>
    have hskip (bytes : List Byte) :
        PipeWriter.writeData bytes ⟨pipe, false, headerBuf⟩ = ⟨pipe, false, headerBuf⟩ :=
      (congrArg _ (if_pos rfl)).trans (ite_self _)
    rw [hskip, hskip]
    rfl

variable {captureLen : BitVec 32}

/-- Only the header's buffer changes. -/
theorem WritesStream.writePcapHeader (h : WritesStream structs captureLen w eventId stream)
    (other : EventId) :
    WritesStream structs captureLen (w.writePcapHeader structs other).2 eventId stream ∧
      ((w.writePcapHeader structs other).1 = false → other ≠ eventId) := by
  unfold PcapWriter.writePcapHeader
  by_cases hexists : other ∈ w.headerExists
  · rw [if_pos hexists]
    exact ⟨h, fun hfalse ↦ absurd hfalse.symm Bool.false_ne_true⟩
  rw [if_neg hexists]
  obtain ⟨headerBuf, hwriter⟩ := h.writer
  cases hother : w.dataWriters other with
  | none =>
    refine ⟨h, fun _ heq ↦ ?_⟩
    rw [heq, hwriter] at hother
    cases hother
  | some writer =>
    dsimp only
    rw [if_neg (by simp [DataWriter.available])]
    refine ⟨⟨?_, h.enabled, h.unlimited, h.captureLen, h.whole⟩, fun hfalse ↦
      absurd hfalse.symm Bool.false_ne_true⟩
    by_cases heq : eventId = other
    · subst heq
      obtain rfl := Option.some.inj (hwriter.symm.trans hother)
      exact ⟨_, Function.update_self ..⟩
    · exact ⟨headerBuf, (Function.update_of_ne heq ..).trans hwriter⟩

/-- A packet of the event is written, unless the writer is stopped; other packets are not. -/
theorem WritesStream.capture (h : WritesStream structs captureLen w eventId stream)
    (clock : Clock) {msg : PcapMsg} (hmsg : msg.emptyMsg = false) (other : EventId) :
    ∃ w', w.capture structs clock msg other = some w' ∧
      WritesStream structs captureLen w' eventId
        (if other = eventId ∧ stream.enabled then
          { stream with
            packets := stream.packets ++ [(clock, msg.trim captureLen)] }
        else stream) := by
  obtain ⟨headerBuf, hwriter⟩ := h.writer
  have hempty : (msg.trim captureLen).emptyMsg = false := hmsg
  unfold PcapWriter.capture
  dsimp only
  rw [h.captureLen]
  cases hother : w.dataWriters other with
  | none =>
    have hne : other ≠ eventId := by
      rintro rfl
      rw [hwriter] at hother
      cases hother
    rw [if_neg fun heq ↦ hne heq.1]
    exact ⟨w, rfl, h⟩
  | some writer =>
    dsimp only
    rw [if_neg (by simp [DataWriter.available]),
      PcapWriter.writePacket_eq structs hother hempty clock]
    refine ⟨_, rfl, ?_⟩
    by_cases heq : other = eventId
    · subst heq
      obtain rfl := Option.some.inj (hwriter.symm.trans hother)
      have hupdated := PipeWriter.writeData_writeData (stream.packets.map (record structs)).flatten
        (structs.pcaprecHdr.encode (PcapWriter.recHdr clock (msg.trim captureLen)))
        (msg.trim captureLen).captured stream.enabled headerBuf
      by_cases henabled : stream.enabled = true
      · rw [if_pos ⟨rfl, henabled⟩]
        rw [if_pos henabled] at hupdated
        refine ⟨⟨headerBuf, (Function.update_self ..).trans (congrArg some ?_)⟩, h.enabled,
          h.unlimited, h.captureLen, ?_⟩
        · rw [List.map_append, List.flatten_append]
          exact hupdated.trans (by simp [record])
        · intro written hwritten
          rcases List.mem_append.mp hwritten with hearlier | hnew
          · exact h.whole written hearlier
          · rw [List.mem_singleton.mp hnew]
            exact hempty
      · rw [if_neg fun hboth ↦ henabled hboth.2]
        rw [if_neg henabled] at hupdated
        exact ⟨⟨headerBuf, (Function.update_self ..).trans (congrArg some hupdated)⟩, h.enabled,
          h.unlimited, h.captureLen, h.whole⟩
    · rw [if_neg fun hboth ↦ heq hboth.1]
      exact ⟨⟨headerBuf, (Function.update_of_ne (Ne.symm heq) ..).trans hwriter⟩, h.enabled,
        h.unlimited, h.captureLen, h.whole⟩

/-- The control messages enable and disable all writers. -/
theorem WritesStream.handleControl (h : WritesStream structs captureLen w eventId stream)
    {read : Clock × PcapMsgMeta} (hcontrol : read.2.control = true)
    (hshutdown : read.2.shutdown = false) :
    WritesStream structs captureLen (w.handleControl read.2) eventId
      (stream.handle captureLen eventId read) := by
  obtain ⟨headerBuf, hwriter⟩ := h.writer
  unfold PcapWriter.handleControl Stream.handle
  rw [if_pos hcontrol, if_neg (ne_true_of_eq_false hshutdown)]
  split_ifs
  · exact ⟨⟨headerBuf, congrArg (Option.map DataWriter.restart) hwriter⟩, h.enabled, h.unlimited,
      h.captureLen, h.whole⟩
  · exact ⟨⟨headerBuf, congrArg (Option.map DataWriter.stop) hwriter⟩, h.enabled, h.unlimited,
      h.captureLen, h.whole⟩
  · exact h

/-- A message of the queue does to the pipe what it does to the stream. -/
theorem WritesStream.handleMsg (h : WritesStream structs captureLen w eventId stream)
    {read : Clock × PcapMsgMeta} (hread : IsMessage read.2) :
    ∃ w', w.handleMsg structs read = some w' ∧
      WritesStream structs captureLen w' eventId (stream.handle captureLen eventId read) := by
  unfold PcapWriter.handleMsg
  dsimp only
  by_cases hcontrol : read.2.control = true
  · rw [if_pos hcontrol]
    exact ⟨_, rfl, h.handleControl hcontrol (hread.noShutdown hcontrol)⟩
  have hpacket : read.2.msg.emptyMsg = false := by rwa [IsMessage, if_neg hcontrol] at hread
  have hother (heq : read.2.getEventId ≠ eventId) :
      stream.handle captureLen eventId read = stream :=
    (if_neg hcontrol).trans (if_neg fun hboth ↦ heq hboth.1)
  rw [if_neg hcontrol, if_neg fun hlimit ↦ Bool.false_ne_true (hlimit.1.symm.trans h.unlimited)]
  by_cases henabled : read.2.getEventId ∈ w.enabledEvents
  · rw [if_neg (not_not_intro henabled)]
    obtain ⟨hheader, hne⟩ := h.writePcapHeader read.2.getEventId
    split_ifs with hfailed
    · rw [hother (hne hfailed)]
      exact ⟨_, rfl, hheader⟩
    · rw [Stream.handle, if_neg hcontrol]
      exact hheader.capture read.1 hpacket read.2.getEventId
  · rw [if_pos henabled, hother fun heq ↦ henabled (heq ▸ h.enabled)]
    exact ⟨w, rfl, h⟩

/-- Every message of the queue can be handled. -/
theorem exists_handleMsg (w : PcapWriter PipeWriter) {read : Clock × PcapMsgMeta}
    (hread : IsMessage read.2) : ∃ w', w.handleMsg structs read = some w' := by
  have hcapture (w : PcapWriter PipeWriter) (hpacket : read.2.msg.emptyMsg = false) :
      ∃ w', w.capture structs read.1 read.2.msg read.2.getEventId = some w' := by
    unfold PcapWriter.capture
    dsimp only
    cases hwriter : w.dataWriters read.2.getEventId with
    | none => exact ⟨w, rfl⟩
    | some writer =>
      have hempty : (read.2.msg.trim w.captureLen).emptyMsg = false := hpacket
      dsimp only
      rw [PcapWriter.writePacket_eq structs hwriter hempty read.1]
      split_ifs <;> exact ⟨_, rfl⟩
  unfold PcapWriter.handleMsg
  dsimp only
  by_cases hcontrol : read.2.control = true
  · rw [if_pos hcontrol]
    exact ⟨_, rfl⟩
  rw [if_neg hcontrol]
  rw [IsMessage, if_neg hcontrol] at hread
  split_ifs
  · exact ⟨w, rfl⟩
  · exact ⟨_, rfl⟩
  · exact hcapture _ hread
  · exact ⟨w, rfl⟩

end Writer

/-! ## One step -/

namespace Monitor

variable {structs} {captureLen : BitVec 32} {eventId : EventId} {s s' : Monitor Sub}
variable {frames : List (List Byte)}

/-- The callback of an event has found these records in what it read of the pipe, and keeps the
rest. -/
structure HasFound (structs : PcapStructs) (eventId : EventId) (s : Monitor Sub)
    (frames : List (List Byte)) : Prop where
  splits : Splits (recordFrames structs) (s.arrived eventId) frames (s.ends eventId).readBuffer
  position : (s.ends eventId).position ≤ (s.pipe eventId).length

/-- A step finds some more records, and sends their events to the clients of the callback. -/
def Advances (structs : PcapStructs) (eventId : EventId) (s s' : Monitor Sub) : Prop :=
  ∀ frames, HasFound structs eventId s frames → ∃ later,
    HasFound structs eventId s' (frames ++ later) ∧
      ∀ cid, Holds s.core eventId cid → (s'.ends eventId).sent cid =
        (s.ends eventId).sent cid ++ later.map (frameEvent structs eventId)

/-- What is read of a pipe stays when more is written to it. -/
theorem Advances.of_prefix (hends : s'.ends eventId = s.ends eventId)
    (hpipe : s.pipe eventId <+: s'.pipe eventId) : Advances structs eventId s s' := by
  intro frames h
  obtain ⟨more, hmore⟩ := hpipe
  have harrived : s'.arrived eventId = s.arrived eventId := by
    rw [arrived, hends, ← hmore, List.take_append_of_le_length h.position, arrived]
  refine ⟨[], ⟨?_, ?_⟩, fun cid _ ↦ ?_⟩
  · rw [harrived, hends, List.append_nil]
    exact h.splits
  · rw [hends, ← hmore, List.length_append]
    exact h.position.trans (Nat.le_add_right _ _)
  · rw [hends, List.map_nil, List.append_nil]

theorem arrived_append (eventId : EventId) (amount : ℕ) (s : Monitor Sub) :
    (s.pipe eventId).take ((s.ends eventId).position +
      (((s.pipe eventId).drop (s.ends eventId).position).take amount).length) =
      s.arrived eventId ++ ((s.pipe eventId).drop (s.ends eventId).position).take amount := by
  rw [List.take_add, ← List.prefix_iff_eq_take.mp (List.take_prefix amount _), arrived]

theorem setEnd_self (eventId : EventId) (pipeEnd : PipeEnd) (s : Monitor Sub) :
    (s.setEnd eventId pipeEnd).ends eventId = pipeEnd := Function.update_self ..

theorem setEnd_of_ne {other : EventId} (hne : other ≠ eventId) (pipeEnd : PipeEnd)
    (s : Monitor Sub) : (s.setEnd eventId pipeEnd).ends other = s.ends other :=
  Function.update_of_ne hne ..

/-- The clients of the event that is read are sent what the read completes. -/
theorem read_advances {cb : EventPipeCallback Sub} (hcb : s.core.eventPipeCbs eventId = some cb)
    (amount : ℕ) :
    ∃ pipeEnd, s.read structs eventId amount = some (s.setEnd eventId pipeEnd) ∧
      Advances structs eventId s (s.setEnd eventId pipeEnd) := by
  unfold read
  rw [hcb]
  dsimp only
  set data := ((s.pipe eventId).drop (s.ends eventId).position).take amount with hdata
  obtain ⟨later, tail, hmore⟩ := exists_splits (recordFrames structs)
    ((s.ends eventId).readBuffer ++ data)
  have hread := @EventPipeReader.readDataAvailable_of_splits Sub structs later tail data
    (s.reader eventId cb) hmore
  obtain ⟨sent, hsent⟩ := EventPipeReader.exists_sendAll_eq
    (later.map (frameEvent structs eventId)) (s.reader eventId cb)
  have hid : (s.reader eventId cb).eventId = eventId := rfl
  rw [hid, hsent] at hread
  rw [hread]
  refine ⟨_, rfl, fun frames h ↦ ⟨later, ⟨?_, ?_⟩, fun cid hheld ↦ ?_⟩⟩
  · rw [arrived, setEnd_self]
    have harrived := arrived_append eventId amount s
    rw [← hdata] at harrived
    exact harrived ▸ h.splits.append hmore
  · have hposition := h.position
    rw [setEnd_self]
    calc (s.ends eventId).position + data.length
        ≤ (s.ends eventId).position + ((s.pipe eventId).length - (s.ends eventId).position) := by
          apply Nat.add_le_add_left
          rw [hdata, List.length_take, List.length_drop]
          exact min_le_right _ _
      _ = (s.pipe eventId).length := Nat.add_sub_cancel' hposition
  · obtain ⟨cb', hcb', hcid⟩ := hheld
    obtain rfl := Option.some.inj (hcb.symm.trans hcb')
    have hall := @EventPipeReader.sendAll_sent Sub (s.reader eventId cb) cid rfl hcid
      (later.map (frameEvent structs eventId))
    rw [hsent] at hall
    rw [setEnd_self]
    exact hall

/-! ## The invariant -/

/-- The messages that were taken are those that were handled and those that wait, in order; the pipe
of every event has the records of its stream, and its reader the beginning of the pipe. -/
structure Sound (structs : PcapStructs) (captureLen : BitVec 32) (s : Monitor Sub) : Prop where
  consistent : Consistent s.core
  fifo : s.taken = s.handled.map Prod.snd ++ s.queue
  reports : ∀ msg ∈ s.queue, msg.control = false → msg.msg.emptyMsg = false
  writes : ∀ eventId ∈ s.core.enabledEvents,
    WritesStream structs captureLen s.writer eventId (streamOf captureLen eventId s.handled)
  found : ∀ eventId ∈ s.core.enabledEvents, ∃ frames, HasFound structs eventId s frames

/-- What a step does, and what it leaves to the clients. -/
structure Keeps (structs : PcapStructs) (captureLen : BitVec 32) (step : MonitorStep Sub)
    (s s' : Monitor Sub) : Prop where
  sound : Sound structs captureLen s'
  enabledEvents : s'.core.enabledEvents = s.core.enabledEvents
  advances : ∀ eventId ∈ s.core.enabledEvents, Advances structs eventId s s'
  holds : ∀ eventId ∈ s.core.enabledEvents, ∀ cid, step ≠ .client (.canceled cid) →
    Holds s.core eventId cid → Holds s'.core eventId cid

theorem pipe_of_writes {stream : Stream}
    (h : WritesStream structs captureLen s.writer eventId stream) :
    s.pipe eventId = (stream.packets.map (record structs)).flatten := by
  obtain ⟨headerBuf, hwriter⟩ := h.writer
  rw [pipe, hwriter]
  rfl

theorem prefix_handle (captureLen : BitVec 32) (eventId : EventId) (stream : Stream)
    (read : Clock × PcapMsgMeta) :
    stream.packets <+: (stream.handle captureLen eventId read).packets := by
  unfold Stream.handle
  split_ifs
  all_goals first
    | exact List.prefix_rfl
    | exact List.prefix_append _ _

/-- The rest of the invariant comes from the advance of every event. -/
theorem Sound.keeps (h : Sound structs captureLen s) {step : MonitorStep Sub}
    (hconsistent : Consistent s'.core) (hfifo : s'.taken = s'.handled.map Prod.snd ++ s'.queue)
    (hreports : ∀ msg ∈ s'.queue, msg.control = false → msg.msg.emptyMsg = false)
    (henabled : s'.core.enabledEvents = s.core.enabledEvents)
    (hwrites : ∀ eventId ∈ s.core.enabledEvents,
      WritesStream structs captureLen s'.writer eventId (streamOf captureLen eventId s'.handled))
    (hadvances : ∀ eventId ∈ s.core.enabledEvents, Advances structs eventId s s')
    (hholds : ∀ eventId ∈ s.core.enabledEvents, ∀ cid, step ≠ .client (.canceled cid) →
      Holds s.core eventId cid → Holds s'.core eventId cid) :
    Keeps structs captureLen step s s' where
  sound :=
    { consistent := hconsistent
      fifo := hfifo
      reports := hreports
      writes := henabled ▸ hwrites
      found := by
        intro eventId hmem
        rw [henabled] at hmem
        obtain ⟨frames, hfound⟩ := h.found eventId hmem
        obtain ⟨later, hlater, -⟩ := hadvances eventId hmem frames hfound
        exact ⟨_, hlater⟩ }
  enabledEvents := henabled
  advances := hadvances
  holds := hholds

theorem Sound.unchanged (h : Sound structs captureLen s) (step : MonitorStep Sub) :
    Keeps structs captureLen step s s :=
  h.keeps h.consistent h.fifo h.reports rfl h.writes
    (fun _ _ ↦ Advances.of_prefix rfl List.prefix_rfl) fun _ _ _ _ hheld ↦ hheld

theorem Sound.write (h : Sound structs captureLen s) (capacity : ℕ) {msg : PcapMsgMeta}
    (hmsg : msg.control = false → msg.msg.emptyMsg = false) :
    Keeps structs captureLen (.write msg) s (s.write capacity msg) := by
  unfold Monitor.write
  split_ifs
  · refine h.keeps h.consistent ?_ ?_ rfl h.writes
      (fun _ _ ↦ Advances.of_prefix rfl List.prefix_rfl) fun _ _ _ _ hheld ↦ hheld
    · rw [h.fifo, List.append_assoc]
    · intro other hother
      rcases List.mem_append.mp hother with hearlier | hnew
      · exact h.reports other hearlier
      · rwa [List.mem_singleton.mp hnew]
  · exact h.unchanged _

/-- The message at the head of the queue has been handled. -/
theorem Sound.handled (h : Sound structs captureLen s) {msg : PcapMsgMeta}
    (hqueue : s.queue = msg :: s'.queue) {clock : Clock} (hcore : s'.core = s.core)
    (hends : s'.ends = s.ends) (htaken : s'.taken = s.taken)
    (hhandled : s'.handled = s.handled ++ [(clock, msg)])
    (hwrites : ∀ eventId ∈ s.core.enabledEvents, WritesStream structs captureLen s'.writer eventId
      ((streamOf captureLen eventId s.handled).handle captureLen eventId (clock, msg))) :
    Keeps structs captureLen (.work clock) s s' := by
  refine h.keeps (hcore ▸ h.consistent) ?_ (fun other hother ↦ ?_) (by rw [hcore])
    (fun eventId henabled ↦ ?_) (fun eventId henabled ↦ ?_)
    fun _ _ _ _ hheld ↦ hcore.symm ▸ hheld
  · rw [htaken, hhandled, h.fifo, hqueue, List.map_append, List.append_assoc]
    rfl
  · exact h.reports other (hqueue ▸ List.mem_cons_of_mem msg hother)
  · rw [hhandled, streamOf_concat]
    exact hwrites eventId henabled
  · apply Advances.of_prefix (by rw [hends])
    obtain ⟨more, hmore⟩ := prefix_handle captureLen eventId
      (streamOf captureLen eventId s.handled) (clock, msg)
    rw [pipe_of_writes (h.writes eventId henabled), pipe_of_writes (hwrites eventId henabled),
      ← hmore, List.map_append, List.flatten_append]
    exact List.prefix_append _ _

theorem Sound.work (h : Sound structs captureLen s) (clock : Clock) :
    ∃ s', s.work structs clock = some s' ∧ Keeps structs captureLen (.work clock) s s' := by
  unfold Monitor.work
  split_ifs with hrunning
  · exact ⟨s, rfl, h.unchanged _⟩
  cases hqueue : s.queue with
  | nil => exact ⟨s, rfl, h.unchanged _⟩
  | cons msg queue =>
    dsimp only
    split_ifs with hshutdown
    · refine ⟨_, rfl, h.handled hqueue rfl rfl rfl rfl fun eventId henabled ↦ ?_⟩
      rw [Stream.handle, if_pos hshutdown.1, if_pos hshutdown.2]
      exact h.writes eventId henabled
    · have hmessage : IsMessage msg := by
        unfold IsMessage
        split_ifs with hcontrol
        · exact Bool.eq_false_of_not_eq_true fun h ↦ hshutdown ⟨hcontrol, h⟩
        · exact h.reports msg (hqueue ▸ List.mem_cons_self) (Bool.eq_false_of_not_eq_true hcontrol)
      obtain ⟨writer, hwriter⟩ := @exists_handleMsg structs s.writer (clock, msg) hmessage
      rw [hwriter]
      refine ⟨_, rfl, h.handled hqueue rfl rfl rfl rfl fun eventId henabled ↦ ?_⟩
      obtain ⟨writer', hwriter', hwrites⟩ := @WritesStream.handleMsg structs _ _ _ _
        (h.writes eventId henabled) (clock, msg) hmessage
      obtain rfl := Option.some.inj (hwriter.symm.trans hwriter')
      exact hwrites

theorem Sound.read (h : Sound structs captureLen s) (eventId : EventId) (amount : ℕ) :
    ∃ s', s.read structs eventId amount = some s' ∧
      Keeps structs captureLen (.read eventId amount) s s' := by
  cases hcb : s.core.eventPipeCbs eventId with
  | none =>
    refine ⟨s, ?_, h.unchanged _⟩
    rw [Monitor.read, hcb]
  | some cb =>
    obtain ⟨pipeEnd, hread, hadvances⟩ := @read_advances Sub structs eventId s cb hcb amount
    refine ⟨_, hread, h.keeps h.consistent h.fifo h.reports rfl h.writes (fun other _ ↦ ?_)
      fun _ _ _ _ hheld ↦ hheld⟩
    by_cases heq : other = eventId
    · rw [heq]
      exact hadvances
    · exact Advances.of_prefix (setEnd_of_ne heq pipeEnd s) List.prefix_rfl

/-- No call but its own cancellation takes a client from a callback. -/
theorem holds_deliveryStep {core core' : MonitoringServiceCore Sub} (h : Consistent core)
    {call : SubscriptionCall Sub} (hstep : deliveryStep core call = some core')
    (henabled : eventId ∈ core.enabledEvents) {cid : ClientId} (hcall : call ≠ .canceled cid)
    (hheld : Holds core eventId cid) : Holds core' eventId cid := by
  obtain ⟨core'', hends, hcase⟩ := deliveryStep_ends h call
  obtain rfl := Option.some.inj (hends.symm.trans hstep)
  cases call with
  | subscribed client sub events =>
    rcases hcase with ⟨-, rfl⟩ | ⟨-, hsubscribed⟩
    · exact hheld
    · exact (hsubscribed.holds eventId henabled cid).mpr (Or.inl hheld)
  | canceled client =>
    apply (Canceled.holds hcase eventId cid).mpr
    exact ⟨hheld, fun hboth ↦ hcall (congrArg _ hboth.1.symm)⟩

theorem Sound.client (h : Sound structs captureLen s) (call : SubscriptionCall Sub) :
    ∃ core, deliveryStep s.core call = some core ∧
      Keeps structs captureLen (.client call) s { s with
        core := core } := by
  obtain ⟨core, hstep, hcase⟩ := deliveryStep_ends h.consistent call
  have henabled : core.enabledEvents = s.core.enabledEvents := by
    cases call with
    | subscribed cid sub events =>
      rcases hcase with ⟨-, rfl⟩ | ⟨-, hsubscribed⟩
      · rfl
      · exact hsubscribed.setup.enabledEvents
    | canceled cid => exact (Canceled.setup hcase).enabledEvents
  refine ⟨core, hstep, h.keeps (deliveryStep_consistent h.consistent hstep) h.fifo h.reports
    henabled h.writes (fun _ _ ↦ Advances.of_prefix rfl List.prefix_rfl) ?_⟩
  intro eventId hmem cid hcall hheld
  exact holds_deliveryStep h.consistent hstep hmem (fun heq ↦ hcall (congrArg _ heq)) hheld

/-- Every step can be taken, and keeps the invariant. -/
theorem Sound.next (h : Sound structs captureLen s) (capacity : ℕ) {step : MonitorStep Sub}
    (hreports : Reports step) :
    ∃ s', s.next structs capacity step = some s' ∧ Keeps structs captureLen step s s' := by
  cases step with
  | write msg => exact ⟨_, rfl, h.write capacity hreports⟩
  | work clock => exact h.work clock
  | read eventId amount => exact h.read eventId amount
  | client call =>
    obtain ⟨core, hstep, hkeeps⟩ := h.client call
    refine ⟨_, ?_, hkeeps⟩
    rw [Monitor.next, hstep]
    rfl

theorem mem_of_mem_startCore {events : List EventId} {pipe2 : EventId → Bool}
    (h : eventId ∈ (startCore events pipe2 : MonitoringServiceCore Sub).enabledEvents) :
    eventId ∈ events := by
  have hsubset : (startCore events pipe2 : MonitoringServiceCore Sub).enabledEvents ⊆
      events.toFinset := by
    apply Runs.foldl_invariant_of_mem
      (fun core : MonitoringServiceCore Sub ↦ core.enabledEvents ⊆ events.toFinset)
      (Finset.empty_subset _)
    intro core event hevent hcore
    unfold MonitoringServiceCore.setUpEvent
    split_ifs
    · exact hcore
    · exact Finset.insert_subset (List.mem_toFinset.mpr hevent) hcore
  exact List.mem_toFinset.mp (hsubset h)

theorem start_sound (structs : PcapStructs) (events : List EventId)
    (packetLimit snaplen : BitVec 32) :
    Sound structs (start events packetLimit snaplen : Monitor Sub).writer.captureLen
      (start events packetLimit snaplen : Monitor Sub) where
  consistent := (startCore_fresh events _).consistent rfl
  fifo := rfl
  reports := nofun
  writes _ henabled :=
    { writer := ⟨none, if_pos (mem_of_mem_startCore henabled)⟩
      enabled := List.mem_toFinset.mpr (mem_of_mem_startCore henabled)
      unlimited := rfl
      captureLen := rfl
      whole := nofun }
  found _ _ := ⟨[], ⟨Splits.nil, Nat.zero_le _⟩⟩

/-! ## Every run -/

/-- Between two states, a client was sent the events of packets of the stream: of those after the
packets that had been read by then, up to the last one that was read since. -/
structure SentSince (structs : PcapStructs) (eventId : EventId) (cid : ClientId)
    (s s' : Monitor Sub) (before during after : List (Clock × PcapMsg)) : Prop where
  stream : (s'.stream eventId).packets = before ++ during ++ after
  earlier : Splits (recordFrames structs) (s.arrived eventId) (before.map (record structs))
    (s.ends eventId).readBuffer
  arrived : Splits (recordFrames structs) (s'.arrived eventId)
    ((before ++ during).map (record structs)) (s'.ends eventId).readBuffer
  sent : (s'.ends eventId).sent cid =
    (s.ends eventId).sent cid ++ during.map (eventOf structs eventId)
  drained : (s'.ends eventId).position = (s'.pipe eventId).length → after = []

/-- What a client of an event's callback was sent since the callback had found some records. -/
structure Follows (structs : PcapStructs) (eventId : EventId) (cid : ClientId)
    (frames : List (List Byte)) (sent : List Event) (s : Monitor Sub) : Prop where
  held : Holds s.core eventId cid
  found : ∃ later, HasFound structs eventId s (frames ++ later) ∧
    (s.ends eventId).sent cid = sent ++ later.map (frameEvent structs eventId)

variable {cid : ClientId} {sent : List Event} {step : MonitorStep Sub}

theorem Follows.keeps (h : Follows structs eventId cid frames sent s)
    (henabled : eventId ∈ s.core.enabledEvents) (hkeeps : Keeps structs captureLen step s s')
    (hstays : step ≠ .client (.canceled cid)) : Follows structs eventId cid frames sent s' where
  held := hkeeps.holds eventId henabled cid hstays h.held
  found := by
    obtain ⟨later, hfound, hsent⟩ := h.found
    obtain ⟨more, hmore, hsends⟩ := hkeeps.advances eventId henabled _ hfound
    refine ⟨later ++ more, List.append_assoc .. ▸ hmore, ?_⟩
    calc (s'.ends eventId).sent cid
        = (s.ends eventId).sent cid ++ more.map (frameEvent structs eventId) := hsends cid h.held
      _ = sent ++ later.map (frameEvent structs eventId) ++
            more.map (frameEvent structs eventId) := by rw [hsent]
      _ = sent ++ (later ++ more).map (frameEvent structs eventId) := by
          rw [List.append_assoc, List.map_append]

theorem Sound.run (h : Sound structs captureLen s) (capacity : ℕ)
    {steps : List (MonitorStep Sub)} (hreports : ∀ step ∈ steps, Reports step) :
    ∃ s', steps.foldlM (Monitor.next structs capacity) s = some s' ∧
      Sound structs captureLen s' := by
  apply Runs.exists_run (fun u step hstep hu ↦ ?_) h
  obtain ⟨u', hnext, hkeeps⟩ := hu.next capacity (hreports step hstep)
  exact ⟨u', hnext, hkeeps.sound⟩

/-- A client that does not cancel goes on to be sent the events that are found. -/
theorem Follows.run (h : Follows structs eventId cid frames sent s)
    (hsound : Sound structs captureLen s) (henabled : eventId ∈ s.core.enabledEvents)
    (capacity : ℕ) {steps : List (MonitorStep Sub)} (hreports : ∀ step ∈ steps, Reports step)
    (hstays : .client (.canceled cid) ∉ steps) :
    ∃ s', steps.foldlM (Monitor.next structs capacity) s = some s' ∧
      Sound structs captureLen s' ∧ eventId ∈ s'.core.enabledEvents ∧
      Follows structs eventId cid frames sent s' := by
  let Followed (u : Monitor Sub) : Prop := Sound structs captureLen u ∧
    eventId ∈ u.core.enabledEvents ∧ Follows structs eventId cid frames sent u
  have hnext (u : Monitor Sub) (step : MonitorStep Sub) (hstep : step ∈ steps)
      (hu : Followed u) : ∃ u', u.next structs capacity step = some u' ∧ Followed u' := by
    obtain ⟨hu, hmem, hfollows⟩ := hu
    obtain ⟨u', hu', hkeeps⟩ := hu.next capacity (hreports step hstep)
    exact ⟨u', hu', hkeeps.sound, hkeeps.enabledEvents.symm ▸ hmem,
      hfollows.keeps hmem hkeeps fun heq ↦ hstays (heq ▸ hstep)⟩
  exact Runs.exists_run hnext ⟨hsound, henabled, h⟩

/-- The records that were found are those of the first packets of the stream. -/
theorem Follows.sentSince {s₀ : Monitor Sub} (h : Follows structs eventId cid frames
    ((s₀.ends eventId).sent cid) s) (hsound : Sound structs captureLen s)
    (henabled : eventId ∈ s.core.enabledEvents) (hfound : HasFound structs eventId s₀ frames) :
    ∃ before during after, SentSince structs eventId cid s₀ s before during after := by
  obtain ⟨later, hlater, hsent⟩ := h.found
  have hwrites := hsound.writes eventId henabled
  have hpipe := pipe_of_writes hwrites
  have hpackets : (s.stream eventId).packets = (streamOf captureLen eventId s.handled).packets := by
    rw [Monitor.stream, hwrites.captureLen]
  have hrecords : ∀ frame ∈ (streamOf captureLen eventId s.handled).packets.map (record structs),
      IsFrame (recordFrames structs) frame := by
    intro frame hframe
    obtain ⟨written, hwritten, rfl⟩ := List.mem_map.mp hframe
    exact isFrame_record structs (hwrites.whole written hwritten)
  have hpre : s.arrived eventId <+:
      ((streamOf captureLen eventId s.handled).packets.map (record structs)).flatten := by
    rw [← hpipe]
    exact List.take_prefix _ _
  obtain ⟨rest, hsplit, hrest⟩ := hlater.splits.of_prefix hrecords hpre
  obtain ⟨read, after, hread, hfirst, rfl⟩ := List.map_eq_append_iff.mp hsplit
  obtain ⟨before, during, rfl, rfl, rfl⟩ := List.map_eq_append_iff.mp hfirst
  refine ⟨before, during, after, hpackets.trans hread, hfound.splits, ?_, ?_, ?_⟩
  · rw [List.map_append]
    exact hlater.splits
  · rw [hsent, List.map_map]
    congr 1
    exact List.map_congr_left fun written _ ↦ frameEvent_record structs eventId written
  · intro hall
    have hbytes : s.arrived eventId = s.pipe eventId := by
      rw [arrived, hall, List.take_length]
    have hflatten := hlater.splits.bytes
    rw [hbytes, hpipe, hsplit, @List.flatten_append _ (_ ++ _)] at hflatten
    exact List.map_eq_nil_iff.mp (hrest.eq_nil (List.append_cancel_left hflatten)).2

end Monitor

/-- In whatever order messages are written and handled, pipes are read, and clients come and go: the
messages that the queue took are handled in their order, and a client that stays with an event is
sent every packet of the event's stream from then on, once and in order, as soon as its record has
been read. -/
theorem Monitor.run_delivers (structs : PcapStructs) (capacity : ℕ) (events : List EventId)
    (packetLimit snaplen : BitVec 32) {earlier later : List (MonitorStep Sub)}
    (hreports : ∀ step ∈ earlier ++ later, Reports step) {s : Monitor Sub}
    (hrun : earlier.foldlM (Monitor.next structs capacity) (.start events packetLimit snaplen) =
      some s)
    {eventId : EventId} {cid : ClientId} (hheld : Holds s.core eventId cid)
    (hstays : .client (.canceled cid) ∉ later) :
    ∃ s', later.foldlM (Monitor.next structs capacity) s = some s' ∧
      s'.taken = s'.handled.map Prod.snd ++ s'.queue ∧
      ∃ before during after, SentSince structs eventId cid s s' before during after := by
  obtain ⟨t, ht, hsound⟩ := (start_sound structs events packetLimit snaplen).run capacity
    fun step hstep ↦ hreports step (List.mem_append_left later hstep)
  obtain rfl := Option.some.inj (hrun.symm.trans ht)
  obtain ⟨cb, hcb, -⟩ := id hheld
  have henabled : eventId ∈ s.core.enabledEvents :=
    (hsound.consistent.callbacks eventId).mp (hcb ▸ rfl)
  obtain ⟨frames, hfound⟩ := hsound.found eventId henabled
  have hnow : Follows structs eventId cid frames ((s.ends eventId).sent cid) s :=
    ⟨hheld, [], by rwa [List.append_nil], by rw [List.map_nil, List.append_nil]⟩
  obtain ⟨s', hrun', hsound', hmem, hfollows⟩ := hnow.run hsound henabled capacity
    (fun step hstep ↦ hreports step (List.mem_append_right earlier hstep)) hstays
  exact ⟨s', hrun', hsound'.fifo, hfollows.sentSince hsound' hmem hfound⟩

theorem threeBytes_captured :
    ∀ bytes ∈ some [(1 : Byte), 2, 3], (3 : BitVec 32).toNat ≤ bytes.length :=
  fun _ hbytes ↦ Option.some.inj hbytes ▸ le_refl 3

/-- A packet of three bytes, reported for `TCP_NONSYN_LRUMISS`. -/
def threeBytes : PcapMsgMeta :=
  ⟨⟨some [1, 2, 3], 60, 3, threeBytes_captured⟩, 0, 0, false, false, false, false⟩

/-- A client subscribes while a first packet waits to be written. -/
def subscribedEarlier : List (MonitorStep Unit) :=
  [.write threeBytes, .client (.subscribed 1 () {TCP_NONSYN_LRUMISS})]

/-- With room for one message, the packet that comes before the first one has been written is lost.
-/
def readLater : List (MonitorStep Unit) :=
  [.write threeBytes, .work ⟨7, 0⟩, .write threeBytes, .read TCP_NONSYN_LRUMISS 10, .work ⟨8, 0⟩,
    .read TCP_NONSYN_LRUMISS 100]

theorem readLater_delivers : ∃ s s' : Monitor Unit,
    subscribedEarlier.foldlM (Monitor.next .littleEndian 1) (.start [TCP_NONSYN_LRUMISS] 0 0) =
        some s ∧
      readLater.foldlM (Monitor.next .littleEndian 1) s = some s' ∧
      s'.taken = s'.handled.map Prod.snd ++ s'.queue ∧
      ∃ before during after,
        Monitor.SentSince .littleEndian TCP_NONSYN_LRUMISS 1 s s' before during after := by
  have hended : (subscribedEarlier.foldlM (Monitor.next .littleEndian 1)
      (.start [TCP_NONSYN_LRUMISS] 0 0)).map (fun s ↦
        heldSubscription s.core TCP_NONSYN_LRUMISS 1) = some (some ()) := by decide +kernel
  obtain ⟨s, hrun, hheld⟩ := Option.map_eq_some_iff.mp hended
  have hreports : ∀ step ∈ subscribedEarlier ++ readLater, Reports step := by
    simp [subscribedEarlier, readLater, Reports, threeBytes, PcapMsg.emptyMsg]
  have hstays : .client (.canceled 1) ∉ readLater := by simp [readLater]
  obtain ⟨s', hrun', hdelivers⟩ := Monitor.run_delivers .littleEndian 1 [TCP_NONSYN_LRUMISS] 0 0
    hreports hrun (holds_of_heldSubscription hheld) hstays
  exact ⟨s, s', hrun, hrun', hdelivers⟩

end Vsoshlb.Monitoring

import Vsoshlb.Library.Runs
import Vsoshlb.Monitoring.PcapWriter
import Mathlib.Algebra.BigOperators.Group.Finset.Piecewise

/-!
# What the capture buffers hold

With an `IOBufWriter` for each event, a header is written when the first packet of the event comes
and a record only where all of it fits. So every buffer is a pcap file at any time, and the packets
in all of them together keep the limit of the last restart.
-/

namespace Vsoshlb.Monitoring

open Framing

variable {structs : PcapStructs}

/-- The buffer has nothing in it, or the file header and these records. -/
structure WellFormed (structs : PcapStructs) (hdr : PcapHdr) (writer : IOBufWriter)
    (records : List (List Byte)) : Prop where
  within : writer.bytes.length ≤ writer.capacity
  layout : writer.bytes = [] ∧ records = [] ∨
    writer.bytes = structs.pcapHdr.encode hdr ++ records.flatten
  whole : ∀ record ∈ records, IsFrame (recordFrames structs) record

/-- A buffer has its header once the writer says so. -/
structure HasRecords (structs : PcapStructs) (w : PcapWriter IOBufWriter)
    (records : EventId → List (List Byte)) : Prop where
  wellFormed : ∀ eventId writer, w.dataWriters eventId = some writer →
    WellFormed structs w.fileHdr writer (records eventId)
  header : ∀ eventId writer, w.dataWriters eventId = some writer →
    (eventId ∈ w.headerExists ↔ writer.bytes ≠ [])
  noWriter : ∀ eventId, w.dataWriters eventId = none → records eventId = []

/-- The limit holds for the records of any events. A writer that is not stopped has counted them. -/
structure KeepsLimit (limit : BitVec 32) (w : PcapWriter IOBufWriter)
    (records : EventId → List (List Byte)) : Prop where
  noOverride : w.packetLimitOverride = false
  bounded : ∀ events : Finset EventId, ∑ eventId ∈ events, (records eventId).length ≤ limit.toNat
  counted : w.packetLimit = 0 ∨ w.packetLimit = limit ∧
    ∀ events : Finset EventId,
      ∑ eventId ∈ events, (records eventId).length ≤ w.packetAmount.toNat

/-- The message is a packet, or it restarts or stops the writers. -/
def IsMessage (msg : PcapMsgMeta) : Prop :=
  if msg.control then msg.shutdown = false else msg.msg.emptyMsg = false

def IsRestart (msg : PcapMsgMeta) : Prop := msg.control = true ∧ msg.restart = true

def IsStop (msg : PcapMsgMeta) : Prop :=
  msg.control = true ∧ msg.restart = false ∧ msg.stop = true

instance (msg : PcapMsgMeta) : Decidable (IsMessage msg) :=
  inferInstanceAs (Decidable
    (if msg.control then msg.shutdown = false else msg.msg.emptyMsg = false))

instance (msg : PcapMsgMeta) : Decidable (IsRestart msg) := inferInstanceAs (Decidable (_ ∧ _))

/-- The writer of a capture with empty buffers. -/
def startCapture (capacity : EventId → Option ℕ) (enabledEvents : EventIds)
    (packetLimit snaplen : BitVec 32) : PcapWriter IOBufWriter :=
  { PcapWriter.new (fun eventId ↦ (capacity eventId).map fun n ↦ ⟨n, []⟩) packetLimit snaplen with
    enabledEvents := enabledEvents }

/-! ## A header and a record -/

section Buffer

variable {hdr : PcapHdr} {writer : IOBufWriter} {records : List (List Byte)}

theorem WellFormed.nil (capacity : ℕ) : WellFormed structs hdr ⟨capacity, []⟩ [] :=
  ⟨Nat.zero_le _, .inl ⟨rfl, rfl⟩, by simp⟩

theorem encode_pcapHdr_ne_nil (hdr : PcapHdr) : structs.pcapHdr.encode hdr ≠ [] := by
  intro h
  have hsize := structs.pcapHdr.length_encode hdr
  rw [h] at hsize
  exact structs.pcapHdr.size_pos.ne hsize

theorem WellFormed.records_eq_nil (h : WellFormed structs hdr writer records)
    (hempty : writer.bytes = []) : records = [] := by
  rcases h.layout with ⟨-, hrecords⟩ | hbytes
  · exact hrecords
  · rw [hempty] at hbytes
    exact absurd (List.append_eq_nil_iff.mp hbytes.symm).1 (encode_pcapHdr_ne_nil hdr)

/-- A buffer determines its records. -/
theorem WellFormed.unique {records' : List (List Byte)} (h : WellFormed structs hdr writer records)
    (h' : WellFormed structs hdr writer records') : records = records' := by
  rcases h.layout with ⟨hempty, hrecords⟩ | hbytes
  · rw [hrecords, h'.records_eq_nil hempty]
  rcases h'.layout with ⟨hempty, hrecords⟩ | hbytes'
  · rw [hrecords, h.records_eq_nil hempty]
  · exact frames_eq_of_flatten_eq h.whole h'.whole
      (List.append_cancel_left (hbytes.symm.trans hbytes'))

/-- The header goes into an empty buffer that has the room. -/
theorem WellFormed.writeHeader (h : WellFormed structs hdr writer records)
    (hempty : writer.bytes = [])
    (hroom : writer.available structs.pcapHdr.size = true) :
    WellFormed structs hdr (writer.writeData (structs.pcapHdr.encode hdr)) records where
  within := by
    have hsize := structs.pcapHdr.length_encode hdr
    simp only [IOBufWriter.available, hempty, List.length_nil, Nat.sub_zero,
      decide_eq_true_eq] at hroom
    simpa only [IOBufWriter.writeData, hempty, List.nil_append, hsize] using hroom
  layout := by
    right
    rw [h.records_eq_nil hempty, List.flatten_nil, List.append_nil, IOBufWriter.writeData, hempty,
      List.nil_append]
  whole := h.whole

/-- A record goes behind the header where all of it fits. -/
theorem WellFormed.writeRecord (h : WellFormed structs hdr writer records)
    (hheader : writer.bytes ≠ []) (written : Clock × PcapMsg)
    (hmsg : written.2.emptyMsg = false)
    (hroom : writer.available (written.2.capturedLen.toNat + structs.pcaprecHdr.size) = true) :
    WellFormed structs hdr
      ((writer.writeData
        (structs.pcaprecHdr.encode (PcapWriter.recHdr written.1 written.2))).writeData
          written.2.captured)
      (records ++ [record structs written]) where
  within := by
    have hsize := structs.pcaprecHdr.length_encode (PcapWriter.recHdr written.1 written.2)
    have hcaptured := PcapMsg.length_captured hmsg
    have hwithin := h.within
    simp only [IOBufWriter.available, decide_eq_true_eq] at hroom
    simp only [IOBufWriter.writeData, List.length_append, hsize, hcaptured]
    omega
  layout := by
    right
    rcases h.layout with ⟨hempty, -⟩ | hbytes
    · exact absurd hempty hheader
    · simp only [IOBufWriter.writeData, hbytes, record, List.flatten_append, List.flatten_singleton,
        List.append_assoc]
  whole := by
    intro r hr
    rcases List.mem_append.mp hr with hr | hr
    · exact h.whole r hr
    · rw [List.mem_singleton.mp hr]
      exact isFrame_record structs hmsg

end Buffer

/-! ## The parts of the loop -/

/-- Nothing changes that counts the packets or bounds them. -/
structure SameCounters (w w' : PcapWriter IOBufWriter) : Prop where
  packetAmount : w'.packetAmount = w.packetAmount
  packetLimit : w'.packetLimit = w.packetLimit
  packetLimitOverride : w'.packetLimitOverride = w.packetLimitOverride

variable {w w' : PcapWriter IOBufWriter} {records records' : EventId → List (List Byte)}
  {eventId : EventId}

/-- A buffer with a header takes the place of another one. -/
theorem HasRecords.update (h : HasRecords structs w records) {writer : IOBufWriter}
    {held : List (List Byte)} (hwriter : WellFormed structs w.fileHdr writer held)
    (hbytes : writer.bytes ≠ [])
    (hwriters : w'.dataWriters = Function.update w.dataWriters eventId (some writer))
    (hheader : w'.headerExists = insert eventId w.headerExists) (hhdr : w'.fileHdr = w.fileHdr) :
    HasRecords structs w' (Function.update records eventId held) where
  wellFormed event other hother := by
    rw [hwriters] at hother
    rw [hhdr]
    rcases eq_or_ne event eventId with rfl | hne
    · rw [Function.update_self] at hother ⊢
      rwa [← Option.some.inj hother]
    · rw [Function.update_of_ne hne] at hother ⊢
      exact h.wellFormed event other hother
  header event other hother := by
    rw [hwriters] at hother
    rw [hheader, Finset.mem_insert]
    rcases eq_or_ne event eventId with rfl | hne
    · rw [Function.update_self] at hother
      rw [← Option.some.inj hother]
      exact iff_of_true (.inl rfl) hbytes
    · rw [Function.update_of_ne hne] at hother
      rw [or_iff_right hne]
      exact h.header event other hother
  noWriter event hnone := by
    rw [hwriters] at hnone
    rcases eq_or_ne event eventId with rfl | hne
    · rw [Function.update_self] at hnone
      cases hnone
    · rw [Function.update_of_ne hne] at hnone ⊢
      exact h.noWriter event hnone

/-- A header appears where the buffer is empty and has the room. -/
theorem HasRecords.writePcapHeader (h : HasRecords structs w records) (eventId : EventId) :
    HasRecords structs (w.writePcapHeader structs eventId).2 records ∧
      ((w.writePcapHeader structs eventId).1 = true →
        eventId ∈ (w.writePcapHeader structs eventId).2.headerExists) ∧
      SameCounters w (w.writePcapHeader structs eventId).2 := by
  unfold PcapWriter.writePcapHeader
  split_ifs with hexists
  · exact ⟨h, fun _ ↦ hexists, rfl, rfl, rfl⟩
  cases hwriter : w.dataWriters eventId with
  | none => exact ⟨h, fun hfalse ↦ (by cases hfalse), rfl, rfl, rfl⟩
  | some writer =>
    dsimp only
    split_ifs with hroom
    · exact ⟨h, fun hfalse ↦ (by cases hfalse), rfl, rfl, rfl⟩
    have hempty : writer.bytes = [] := by
      by_contra hbytes
      exact hexists ((h.header eventId writer hwriter).mpr hbytes)
    have hheaded := (h.wellFormed eventId writer hwriter).writeHeader hempty
      (Bool.eq_true_of_not_eq_false hroom)
    have hbytes : (writer.writeData (structs.pcapHdr.encode w.fileHdr)).bytes ≠ [] := by
      rw [IOBufWriter.writeData, hempty, List.nil_append]
      exact encode_pcapHdr_ne_nil w.fileHdr
    refine ⟨?_, fun _ ↦ Finset.mem_insert_self eventId _, rfl, rfl, rfl⟩
    rw [← Function.update_eq_self eventId records]
    exact h.update hheaded hbytes rfl rfl rfl

/-- What a packet does to the records: nothing, or there is one more. -/
inductive Captures (w w' : PcapWriter IOBufWriter) (records records' : EventId → List (List Byte)) :
    Prop where
  | none (same : records' = records) (amount : w'.packetAmount = w.packetAmount)
  | one (eventId : EventId) (record : List Byte)
      (more : records' = Function.update records eventId (records eventId ++ [record]))
      (amount : w'.packetAmount = w.packetAmount + 1)

theorem HasRecords.capture (h : HasRecords structs w records) (hheader : eventId ∈ w.headerExists)
    (clock : Clock) {msg : PcapMsg} (hmsg : msg.emptyMsg = false) :
    ∃ w' records', w.capture structs clock msg eventId = some w' ∧
      HasRecords structs w' records' ∧ Captures w w' records records' ∧
      w'.packetLimit = w.packetLimit ∧ w'.packetLimitOverride = w.packetLimitOverride := by
  unfold PcapWriter.capture
  cases hwriter : w.dataWriters eventId with
  | none => exact ⟨w, records, rfl, h, .none rfl rfl, rfl, rfl⟩
  | some writer =>
    dsimp only
    split_ifs with hroom
    · exact ⟨_, records, rfl, ⟨h.wellFormed, h.header, h.noWriter⟩, .none rfl rfl, rfl, rfl⟩
    have hfull := (h.header eventId writer hwriter).mp hheader
    have hheld := (h.wellFormed eventId writer hwriter).writeRecord hfull
      (clock, msg.trim w.captureLen) hmsg (Bool.eq_true_of_not_eq_false hroom)
    have htrimmed : (msg.trim w.captureLen).emptyMsg = false := hmsg
    rw [PcapWriter.writePacket_eq structs hwriter htrimmed]
    refine ⟨_, _, rfl, h.update hheld ?_ rfl (Finset.insert_eq_self.mpr hheader).symm rfl,
      .one eventId _ rfl rfl, rfl, rfl⟩
    exact fun hnil ↦ hfull (List.append_eq_nil_iff.mp (List.append_eq_nil_iff.mp hnil).1).1

theorem Captures.prefix_records (h : Captures w w' records records') (event : EventId) :
    records event <+: records' event := by
  cases h with
  | none same _ => rw [same]
  | one eventId record more _ =>
    rw [more]
    rcases eq_or_ne event eventId with rfl | hne
    · rw [Function.update_self]
      exact List.prefix_append _ _
    · rw [Function.update_of_ne hne]

/-- One record more is one record more over all events. -/
theorem sum_update_le (records : EventId → List (List Byte)) (eventId : EventId)
    (record : List Byte) (events : Finset EventId) :
    ∑ event ∈ events, (Function.update records eventId (records eventId ++ [record]) event).length ≤
      ∑ event ∈ events, (records event).length + 1 := by
  have hterm : ∀ event,
      (Function.update records eventId (records eventId ++ [record]) event).length =
        (records event).length + if event = eventId then 1 else 0 := by
    intro event
    rcases eq_or_ne event eventId with rfl | hne
    · rw [Function.update_self, List.length_append, List.length_singleton, if_pos rfl]
    · rw [Function.update_of_ne hne, if_neg hne, Nat.add_zero]
  simp only [hterm, Finset.sum_add_distrib, Finset.sum_ite_eq']
  split_ifs <;> omega

theorem KeepsLimit.of_sameCounters {limit : BitVec 32} (h : KeepsLimit limit w records)
    (hsame : SameCounters w w') : KeepsLimit limit w' records where
  noOverride := hsame.packetLimitOverride.trans h.noOverride
  bounded := h.bounded
  counted := by
    rw [hsame.packetLimit, hsame.packetAmount]
    exact h.counted

/-- A packet is captured only while fewer packets than the limit have been counted. -/
theorem KeepsLimit.captures {limit : BitVec 32} (h : KeepsLimit limit w records)
    (hroom : w.packetAmount < w.packetLimit) (hcaptures : Captures w w' records records')
    (hlimit : w'.packetLimit = w.packetLimit)
    (hoverride : w'.packetLimitOverride = w.packetLimitOverride) :
    KeepsLimit limit w' records' := by
  have hactive : w.packetLimit ≠ 0 := by
    rintro hzero
    rw [hzero] at hroom
    exact BitVec.not_lt_zero hroom
  obtain ⟨heq, hcounted⟩ := h.counted.resolve_left hactive
  cases hcaptures with
  | none same amount =>
    rw [same]
    exact ⟨hoverride.trans h.noOverride, h.bounded, .inr ⟨hlimit.trans heq, by rwa [amount]⟩⟩
  | one eventId record more amount =>
    have hnext : w'.packetAmount.toNat = w.packetAmount.toNat + 1 := by
      rw [amount]
      bv_omega
    have hlt : w.packetAmount.toNat < limit.toNat := by
      rw [← heq]
      exact hroom
    have hsum : ∀ events : Finset EventId,
        ∑ event ∈ events, (records' event).length ≤ w'.packetAmount.toNat := by
      intro events
      have hmore := sum_update_le records eventId record events
      have hless := hcounted events
      rw [more, hnext]
      omega
    refine ⟨hoverride.trans h.noOverride, fun events ↦ ?_, .inr ⟨hlimit.trans heq, hsum⟩⟩
    have hless := hsum events
    omega

/-! ## The messages -/

/-- The buffers hold these records, which keep the limit. -/
structure Kept (structs : PcapStructs) (limit : BitVec 32) (w : PcapWriter IOBufWriter)
    (records : EventId → List (List Byte)) : Prop where
  hasRecords : HasRecords structs w records
  keepsLimit : KeepsLimit limit w records

variable {limit : BitVec 32}

theorem Kept.handlePacket (h : Kept structs limit w records) {read : Clock × PcapMsgMeta}
    (hcontrol : read.2.control = false) (hmsg : read.2.msg.emptyMsg = false) :
    ∃ w' records', w.handleMsg structs read = some w' ∧ Kept structs limit w' records' ∧
      ∀ event, records event <+: records' event := by
  have hskip : ∃ w' records', some w = some w' ∧ Kept structs limit w' records' ∧
      ∀ event, records event <+: records' event :=
    ⟨w, records, rfl, h, fun _ ↦ List.prefix_rfl⟩
  unfold PcapWriter.handleMsg
  dsimp only
  rw [if_neg (Bool.not_eq_true _ ▸ hcontrol)]
  split_ifs with hfull henabled hheader
  · exact hskip
  · obtain ⟨hrecords, -, hcounters⟩ := h.hasRecords.writePcapHeader read.2.getEventId
    exact ⟨_, records, rfl, ⟨hrecords, h.keepsLimit.of_sameCounters hcounters⟩,
      fun _ ↦ List.prefix_rfl⟩
  · obtain ⟨hrecords, hexists, hcounters⟩ := h.hasRecords.writePcapHeader read.2.getEventId
    obtain ⟨w', records', hrun, hrecords', hcaptures, hlimit, hoverride⟩ :=
      hrecords.capture (hexists (Bool.eq_true_of_not_eq_false hheader)) read.1 hmsg
    have hroom : w.packetAmount < w.packetLimit := by
      by_contra hle
      exact hfull ⟨h.keepsLimit.noOverride, BitVec.not_lt.mp hle⟩
    rw [← hcounters.packetAmount, ← hcounters.packetLimit] at hroom
    have hkeeps :=
      (h.keepsLimit.of_sameCounters hcounters).captures hroom hcaptures hlimit hoverride
    exact ⟨w', records', hrun, ⟨hrecords', hkeeps⟩, hcaptures.prefix_records⟩
  · exact hskip

/-- Every buffer is emptied, and the count starts again. -/
theorem Kept.restartWriters (h : Kept structs limit w records) (packetLimit : BitVec 32) :
    Kept structs packetLimit (w.restartWriters packetLimit) (fun _ ↦ []) where
  hasRecords := by
    refine ⟨fun event writer hwriter ↦ ?_, fun event writer hwriter ↦ ?_, fun _ _ ↦ rfl⟩ <;>
      obtain ⟨old, -, rfl⟩ := Option.map_eq_some_iff.mp hwriter
    · exact WellFormed.nil old.capacity
    · exact iff_of_false (Finset.notMem_empty event) (fun hne ↦ hne rfl)
  keepsLimit := by
    refine ⟨h.keepsLimit.noOverride, fun events ↦ ?_, .inr ⟨rfl, fun events ↦ ?_⟩⟩ <;>
      simp

theorem stopWriters_dataWriters (w : PcapWriter IOBufWriter) :
    w.stopWriters.dataWriters = w.dataWriters :=
  funext fun _ ↦ Option.map_id'

theorem Kept.stopWriters (h : Kept structs limit w records) :
    Kept structs limit w.stopWriters records where
  hasRecords := by
    refine ⟨?_, ?_, ?_⟩ <;> rw [stopWriters_dataWriters]
    · exact h.hasRecords.wellFormed
    · exact h.hasRecords.header
    · exact h.hasRecords.noWriter
  keepsLimit := ⟨h.keepsLimit.noOverride, h.keepsLimit.bounded, .inl rfl⟩

/-- The limit that counts after a message. -/
def limitAfter (limit : BitVec 32) (read : Clock × PcapMsgMeta) : BitVec 32 :=
  if IsRestart read.2 then read.2.packetLimit else limit

theorem handleMsg_restart {read : Clock × PcapMsgMeta} (hrestart : IsRestart read.2)
    (w : PcapWriter IOBufWriter) :
    w.handleMsg structs read = some (w.restartWriters read.2.packetLimit) :=
  (if_pos hrestart.1).trans (congrArg some (if_pos hrestart.2))

theorem handleMsg_stop {read : Clock × PcapMsgMeta} (hstop : IsStop read.2)
    (w : PcapWriter IOBufWriter) : w.handleMsg structs read = some w.stopWriters := by
  have hrestart : ¬ (read.2.restart = true) := Bool.not_eq_true _ ▸ hstop.2.1
  exact (if_pos hstop.1).trans (congrArg some ((if_neg hrestart).trans (if_pos hstop.2.2)))

theorem Kept.handleMsg (h : Kept structs limit w records) {read : Clock × PcapMsgMeta}
    (hmsg : IsMessage read.2) :
    ∃ w' records', w.handleMsg structs read = some w' ∧
      Kept structs (limitAfter limit read) w' records' ∧
      (¬ IsRestart read.2 → ∀ event, records event <+: records' event) := by
  cases hcontrol : read.2.control with
  | false =>
    have hpacket : read.2.msg.emptyMsg = false := by
      rwa [IsMessage, if_neg (Bool.not_eq_true _ ▸ hcontrol)] at hmsg
    have hkeep : limitAfter limit read = limit :=
      if_neg fun hrestart ↦ Bool.false_ne_true (hcontrol.symm.trans hrestart.1)
    obtain ⟨w', records', hrun, hholds, hgrows⟩ := h.handlePacket hcontrol hpacket
    exact ⟨w', records', hrun, by rwa [hkeep], fun _ ↦ hgrows⟩
  | true =>
    by_cases hrestart : IsRestart read.2
    · have hlimit : limitAfter limit read = read.2.packetLimit := if_pos hrestart
      rw [handleMsg_restart hrestart, hlimit]
      exact ⟨_, _, rfl, h.restartWriters read.2.packetLimit, fun hnot ↦ absurd hrestart hnot⟩
    · have hrun : w.handleMsg structs read = some (w.handleControl read.2) := if_pos hcontrol
      have hlimit : limitAfter limit read = limit := if_neg hrestart
      have hhandle : w.handleControl read.2 = if read.2.stop then w.stopWriters else w :=
        if_neg fun hr ↦ hrestart ⟨hcontrol, hr⟩
      rw [hrun, hhandle, hlimit]
      refine ⟨_, records, rfl, ?_, fun _ _ ↦ List.prefix_rfl⟩
      split_ifs
      · exact h.stopWriters
      · exact h

/-! ## The runs -/

theorem IsMessage.noShutdown {msg : PcapMsgMeta} (hmsg : IsMessage msg) (hcontrol : msg.control) :
    msg.shutdown = false := by
  rwa [IsMessage, if_pos hcontrol] at hmsg

theorem runMulti_cons {read : Clock × PcapMsgMeta} (hmsg : IsMessage read.2)
    (queue : List (Clock × PcapMsgMeta)) (w : PcapWriter IOBufWriter) :
    PcapWriter.runMulti structs (read :: queue) w =
      (w.handleMsg structs read).bind (PcapWriter.runMulti structs queue) :=
  if_neg fun h ↦ Bool.false_ne_true ((hmsg.noShutdown h.1).symm.trans h.2)

theorem runMulti_append {earlier later : List (Clock × PcapMsgMeta)}
    (hqueue : ∀ read ∈ earlier ++ later, IsMessage read.2) (w : PcapWriter IOBufWriter) :
    PcapWriter.runMulti structs (earlier ++ later) w =
      (PcapWriter.runMulti structs earlier w).bind (PcapWriter.runMulti structs later) := by
  have hearlier : ∀ read ∈ earlier, IsMessage read.2 :=
    fun read h ↦ hqueue read (List.mem_append_left later h)
  have hlater : ∀ read ∈ later, IsMessage read.2 :=
    fun read h ↦ hqueue read (List.mem_append_right earlier h)
  rw [PcapWriter.runMulti_eq_foldlM structs fun read h ↦ (hqueue read h).noShutdown,
    PcapWriter.runMulti_eq_foldlM structs fun read h ↦ (hearlier read h).noShutdown,
    List.foldlM_append]
  congr 1
  funext w'
  exact (PcapWriter.runMulti_eq_foldlM structs (fun read h ↦ (hlater read h).noShutdown) w').symm

theorem Kept.run (h : Kept structs limit w records) {queue : List (Clock × PcapMsgMeta)}
    (hqueue : ∀ read ∈ queue, IsMessage read.2) :
    ∃ w' records', PcapWriter.runMulti structs queue w = some w' ∧
      Kept structs (queue.foldl limitAfter limit) w' records' ∧
      ((∀ read ∈ queue, ¬ IsRestart read.2) → ∀ event, records event <+: records' event) := by
  rw [PcapWriter.runMulti_eq_foldlM structs fun read h ↦ (hqueue read h).noShutdown]
  induction queue generalizing w records limit with
  | nil => exact ⟨w, records, rfl, h, fun _ _ ↦ List.prefix_rfl⟩
  | cons read queue ih =>
    obtain ⟨w₁, records₁, hhandle, h₁, hgrows₁⟩ := h.handleMsg (hqueue read List.mem_cons_self)
    obtain ⟨w₂, records₂, hrun, h₂, hgrows₂⟩ :=
      ih h₁ fun read' h ↦ hqueue read' (List.mem_cons_of_mem read h)
    refine ⟨w₂, records₂, ?_, h₂, fun hnot event ↦ ?_⟩
    · rw [List.foldlM_cons, hhandle]
      exact hrun
    · have hlater := hgrows₂ (fun read' h ↦ hnot read' (List.mem_cons_of_mem read h)) event
      exact (hgrows₁ (hnot read List.mem_cons_self) event).trans hlater

theorem foldl_limitAfter {queue : List (Clock × PcapMsgMeta)}
    (hqueue : ∀ read ∈ queue, ¬ IsRestart read.2) (limit : BitVec 32) :
    queue.foldl limitAfter limit = limit :=
  Runs.foldl_invariant_of_mem (· = limit) rfl fun _ read hread h ↦
    (if_neg (hqueue read hread)).trans h

/-- Stopped writers capture nothing until they are restarted. -/
structure Stopped (w : PcapWriter IOBufWriter) (dataWriters : EventId → Option IOBufWriter) :
    Prop where
  noOverride : w.packetLimitOverride = false
  noLimit : w.packetLimit = 0
  same : w.dataWriters = dataWriters

theorem Stopped.handleMsg {dataWriters : EventId → Option IOBufWriter} (h : Stopped w dataWriters)
    {read : Clock × PcapMsgMeta} (hrestart : ¬ IsRestart read.2)
    (hrun : w.handleMsg structs read = some w') : Stopped w' dataWriters := by
  have hle : w.packetLimit ≤ w.packetAmount := by
    rw [h.noLimit]
    exact Nat.zero_le _
  unfold PcapWriter.handleMsg at hrun
  dsimp only at hrun
  split_ifs at hrun with hcontrol hfull henabled
  · obtain rfl := Option.some.inj hrun
    have hhandle : w.handleControl read.2 = if read.2.stop then w.stopWriters else w :=
      if_neg fun hr ↦ hrestart ⟨hcontrol, hr⟩
    rw [hhandle]
    split_ifs
    · exact ⟨h.noOverride, rfl, (stopWriters_dataWriters w).trans h.same⟩
    · exact h
  · obtain rfl := Option.some.inj hrun
    exact h
  all_goals exact absurd ⟨h.noOverride, hle⟩ hfull

theorem Stopped.run {dataWriters : EventId → Option IOBufWriter} (h : Stopped w dataWriters)
    {queue : List (Clock × PcapMsgMeta)} (hqueue : ∀ read ∈ queue, ¬ IsRestart read.2)
    (hrun : queue.foldlM (PcapWriter.handleMsg structs) w = some w') : Stopped w' dataWriters :=
  Runs.invariant_of_along (I := fun w ↦ Stopped w dataWriters)
    (fun _ _ _ hs hrestart hstep ↦ hs.handleMsg hrestart hstep) h
    (Runs.along_of_forall hqueue w) hrun

theorem startCapture_kept (capacity : EventId → Option ℕ) (enabledEvents : EventIds)
    (packetLimit snaplen : BitVec 32) :
    Kept structs packetLimit (startCapture capacity enabledEvents packetLimit snaplen)
      (fun _ ↦ []) where
  hasRecords := by
    refine ⟨fun event writer hwriter ↦ ?_, fun event writer hwriter ↦ ?_, fun _ _ ↦ rfl⟩ <;>
      obtain ⟨size, -, rfl⟩ := Option.map_eq_some_iff.mp hwriter
    · exact WellFormed.nil size
    · exact iff_of_false (Finset.notMem_empty event) (fun hne ↦ hne rfl)
  keepsLimit := ⟨rfl, fun events ↦ by simp, .inr ⟨rfl, fun events ↦ by simp⟩⟩

/-- The writer has handled the messages, and its buffers hold these records. -/
def Handled (structs : PcapStructs) (start : PcapWriter IOBufWriter)
    (queue : List (Clock × PcapMsgMeta)) (w : PcapWriter IOBufWriter)
    (records : EventId → List (List Byte)) : Prop :=
  PcapWriter.runMulti structs queue start = some w ∧ HasRecords structs w records

theorem HasRecords.unique (h : HasRecords structs w records) (h' : HasRecords structs w records') :
    records = records' := by
  funext event
  cases hwriter : w.dataWriters event with
  | none => rw [h.noWriter event hwriter, h'.noWriter event hwriter]
  | some writer =>
    exact (h.wellFormed event writer hwriter).unique (h'.wellFormed event writer hwriter)

section Capture

variable {start : PcapWriter IOBufWriter} {startLimit : BitVec 32}
  {earlier later queue : List (Clock × PcapMsgMeta)}

/-- A restart empties the buffers, and its limit bounds what comes into them. -/
theorem Kept.since_restart (hstart : Kept structs startLimit start fun _ ↦ [])
    {restart : Clock × PcapMsgMeta}
    (hqueue : ∀ read ∈ earlier ++ restart :: later, IsMessage read.2)
    (hholds : Kept structs ((earlier ++ restart :: later).foldl limitAfter startLimit) w records)
    (hrestart : IsRestart restart.2) (hlater : ∀ read ∈ later, ¬ IsRestart read.2) :
    (∃ w₁, Handled structs start (earlier ++ [restart]) w₁ fun _ ↦ []) ∧
      ∀ events : Finset EventId,
        ∑ event ∈ events, (records event).length ≤ restart.2.packetLimit.toNat := by
  constructor
  · have hqueue₁ : ∀ read ∈ earlier ++ [restart], IsMessage read.2 :=
      fun read h ↦ hqueue read (by simp only [List.mem_append, List.mem_cons] at h ⊢; tauto)
    obtain ⟨w₀, records₀, hrun₀, hholds₀, -⟩ :=
      hstart.run fun read h ↦ hqueue read (List.mem_append_left _ h)
    have hmsg : IsMessage restart.2 := hqueue₁ restart (List.mem_append_right _ List.mem_cons_self)
    refine ⟨w₀.restartWriters restart.2.packetLimit, ?_, (hholds₀.restartWriters _).hasRecords⟩
    rw [runMulti_append hqueue₁, hrun₀, Option.bind_some, runMulti_cons hmsg,
      handleMsg_restart hrestart]
    rfl
  · have hlimit : (earlier ++ restart :: later).foldl limitAfter startLimit =
        restart.2.packetLimit := by
      rw [List.foldl_append, List.foldl_cons, foldl_limitAfter hlater]
      exact if_pos hrestart
    rw [hlimit] at hholds
    exact hholds.keepsLimit.bounded

/-- Between restarts the records stay, and a stop ends their coming. -/
theorem Kept.without_restart (hstart : Kept structs startLimit start fun _ ↦ [])
    (hqueue : ∀ read ∈ earlier ++ later, IsMessage read.2)
    (hhandled : Handled structs start (earlier ++ later) w records)
    (hlater : ∀ read ∈ later, ¬ IsRestart read.2) :
    ∃ w₁ records₁, Handled structs start earlier w₁ records₁ ∧
      (∀ event, records₁ event <+: records event) ∧
      ∀ stop packets, later = stop :: packets → IsStop stop.2 → w.dataWriters = w₁.dataWriters := by
  have hqueue₂ : ∀ read ∈ later, IsMessage read.2 :=
    fun read h ↦ hqueue read (List.mem_append_right earlier h)
  obtain ⟨w₁, records₁, hrun₁, hholds₁, -⟩ :=
    hstart.run fun read h ↦ hqueue read (List.mem_append_left later h)
  obtain ⟨w₂, records₂, hrun₂, hholds₂, hgrows⟩ := hholds₁.run hqueue₂
  obtain ⟨hrun, hrecords⟩ := hhandled
  rw [runMulti_append hqueue, hrun₁, Option.bind_some] at hrun
  obtain rfl : w₂ = w := Option.some.inj (hrun₂.symm.trans hrun)
  obtain rfl := hholds₂.hasRecords.unique hrecords
  refine ⟨w₁, records₁, ⟨hrun₁, hholds₁.hasRecords⟩, hgrows hlater, ?_⟩
  rintro stop packets rfl hstop
  have hpackets : ∀ read ∈ packets, IsMessage read.2 :=
    fun read h ↦ hqueue₂ read (List.mem_cons_of_mem stop h)
  have hstopped : Stopped w₁.stopWriters w₁.dataWriters :=
    ⟨hholds₁.keepsLimit.noOverride, rfl, stopWriters_dataWriters w₁⟩
  rw [runMulti_cons (hqueue₂ stop List.mem_cons_self), handleMsg_stop hstop, Option.bind_some,
    PcapWriter.runMulti_eq_foldlM structs fun read h ↦ (hpackets read h).noShutdown] at hrun
  exact (hstopped.run (fun read h ↦ hlater read (List.mem_cons_of_mem stop h)) hrun).same

end Capture

/-- After any messages that are packets, or that restart or stop the writers, every buffer is
within its capacity and holds nothing or a file header and whole records. After the last restart
the buffers were empty, and no more records than its limit have come into all of them since; no
record leaves a buffer in between, and none comes after a stop. -/
theorem captures_wellFormed (structs : PcapStructs) (capacity : EventId → Option ℕ)
    (enabledEvents : EventIds) (packetLimit snaplen : BitVec 32)
    {queue : List (Clock × PcapMsgMeta)} (hqueue : ∀ read ∈ queue, IsMessage read.2) :
    let start := startCapture capacity enabledEvents packetLimit snaplen
    ∃ w records, Handled structs start queue w records ∧
      (∀ earlier restart later, queue = earlier ++ restart :: later → IsRestart restart.2 →
        (∀ read ∈ later, ¬ IsRestart read.2) →
        (∃ w₁, Handled structs start (earlier ++ [restart]) w₁ fun _ ↦ []) ∧
        ∀ events : Finset EventId,
          ∑ event ∈ events, (records event).length ≤ restart.2.packetLimit.toNat) ∧
      ∀ earlier later, queue = earlier ++ later → (∀ read ∈ later, ¬ IsRestart read.2) →
        ∃ w₁ records₁, Handled structs start earlier w₁ records₁ ∧
          (∀ event, records₁ event <+: records event) ∧
          ∀ stop packets, later = stop :: packets → IsStop stop.2 →
            w.dataWriters = w₁.dataWriters := by
  intro start
  have hstart : Kept structs packetLimit start fun _ ↦ [] :=
    startCapture_kept capacity enabledEvents packetLimit snaplen
  obtain ⟨w, records, hrun, hholds, -⟩ := hstart.run hqueue
  refine ⟨w, records, ⟨hrun, hholds.hasRecords⟩, ?_, ?_⟩
  · rintro earlier restart later rfl hrestart hlater
    exact hstart.since_restart hqueue hholds hrestart hlater
  · rintro earlier later rfl hlater
    exact hstart.without_restart hqueue ⟨hrun, hholds.hasRecords⟩ hlater

/-- A restart with room for one packet, and two packets. -/
def twoPacketsOneAllowed : List (Clock × PcapMsgMeta) :=
  let packet : PcapMsgMeta := ⟨⟨some [1, 2, 3], 60, 3, by simp⟩, 0, 0, false, false, false, false⟩
  [(⟨6, 0⟩, ⟨⟨none, 0, 0, by simp⟩, 0, 1, true, true, false, false⟩), (⟨7, 9⟩, packet),
    (⟨8, 0⟩, packet)]

theorem one_packet_captured :
    ∃ w records, Handled .littleEndian (startCapture (fun _ ↦ some 100) {TCP_NONSYN_LRUMISS} 0 0)
        twoPacketsOneAllowed w records ∧
      (records TCP_NONSYN_LRUMISS).length ≤ 1 ∧
      w.dataWriters TCP_NONSYN_LRUMISS = some ⟨100,
        [0xd4, 0xc3, 0xb2, 0xa1, 2, 0, 4, 0, 0, 0, 0, 0, 0, 0, 0, 0, 0xff, 0xff, 0, 0, 1, 0, 0, 0,
          7, 0, 0, 0, 9, 0, 0, 0, 3, 0, 0, 0, 60, 0, 0, 0, 1, 2, 3]⟩ := by
  have hqueue : ∀ read ∈ twoPacketsOneAllowed, IsMessage read.2 := by decide
  obtain ⟨w, records, hhandled, hrestart, -⟩ :=
    captures_wellFormed .littleEndian (fun _ ↦ some 100) {TCP_NONSYN_LRUMISS} 0 0 hqueue
  refine ⟨w, records, hhandled, ?_, ?_⟩
  · have hsum := (hrestart [] _ _ rfl (by decide) (by decide)).2 {TCP_NONSYN_LRUMISS}
    rwa [Finset.sum_singleton] at hsum
  · have hrun : (PcapWriter.runMulti .littleEndian twoPacketsOneAllowed
          (startCapture (fun _ ↦ some 100) {TCP_NONSYN_LRUMISS} 0 0)).map
            (fun w ↦ w.dataWriters TCP_NONSYN_LRUMISS) = some (some ⟨100,
        [0xd4, 0xc3, 0xb2, 0xa1, 2, 0, 4, 0, 0, 0, 0, 0, 0, 0, 0, 0, 0xff, 0xff, 0, 0, 1, 0, 0, 0,
          7, 0, 0, 0, 9, 0, 0, 0, 3, 0, 0, 0, 60, 0, 0, 0, 1, 2, 3]⟩) := by decide +kernel
    rw [hhandled.1] at hrun
    exact Option.some.inj hrun

end Vsoshlb.Monitoring

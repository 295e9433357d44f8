import Vsoshlb.Library.RingBuffer
import Vsoshlb.Monitoring.PcapWriter

/-!
# The ring of perf events

`handlePerfEvent` goes from record to record through the ring that the kernel fills, and gives the
data of each sample to a handler. A record that goes around the end of the ring is put together in a
buffer first. The header of a record is read where it stands, before anything is known about where
the record ends; the kernel aligns records so that no header goes around the end.

Pointers are counted from the begin of the ring. What lies outside of it is part of the memory, too.
-/

namespace Vsoshlb.Monitoring

open RingBuffer

def PERF_RECORD_SAMPLE : BitVec 32 := 9

/-- `sizeof(perf_event_header)`. -/
def perfHeaderSize : ℕ := 8

/-! ## Records -/

/-- The fields of a record, by the bytes at a pointer: `header.type`, `header.size` and `size`. -/
def headerType (event : ℕ → Byte) : BitVec 32 := event 3 ++ event 2 ++ event 1 ++ event 0

def headerSize (event : ℕ → Byte) : BitVec 16 := event 7 ++ event 6

def sampleSize (event : ℕ → Byte) : BitVec 32 := event 11 ++ event 10 ++ event 9 ++ event 8

/-- The call of `eventHandler` for a record. Of other records, lost ones among them, there is only a
line in the log. -/
def handleRecord (event : ℕ → Byte) : Option (List Byte) :=
  if headerType event = PERF_RECORD_SAMPLE then
    some (block event 12 (sampleSize event).toNat)
  else
    none

/-! ## `handlePerfEvent` -/

/-- One round of the loop: where it leaves `begin` and `buffer`, and the call of the handler. The
check of the length aborts. -/
def perfRound (memory : ℤ → Byte) (bufferSize : ℕ) (start : ℤ) (buffer : List Byte) :
    Option (ℤ × List Byte × Option (List Byte)) :=
  let event := fun i : ℕ ↦ memory (start + i)
  if start + (headerSize event).toNat > bufferSize then
    let len := bufferSize - start
    if len < (headerSize event).toNat then
      -- `assign` replaces what `resize` leaves
      let buffer := block event 0 len.toNat
      let buffer := buffer.take len.toNat ++
        block (fun i : ℕ ↦ memory i) 0 ((headerSize event).toNat - len).toNat ++
          buffer.drop len.toNat
      let event := fun i ↦ buffer.getD i 0
      some ((headerSize event).toNat - len, buffer, handleRecord event)
    else
      none
  else if start + (headerSize event).toNat = bufferSize then
    some (0, buffer, handleRecord event)
  else
    some (start + (headerSize event).toNat, buffer, handleRecord event)

/-- The loop, for so many rounds: the calls of the handler and the buffer at its end. Nothing is
returned where the rounds do not suffice. -/
def perfLoop (memory : ℤ → Byte) (bufferSize : ℕ) (stop : ℤ) :
    ℕ → ℤ → List Byte → Option (List (List Byte) × List Byte)
  | 0, _, _ => none
  | rounds + 1, start, buffer =>
    if start = stop then
      some ([], buffer)
    else
      match perfRound memory bufferSize start buffer with
      | none => none
      | some next =>
        (perfLoop memory bufferSize stop rounds next.1 next.2.1).map fun rest ↦
          (next.2.2.toList ++ rest.1, rest.2)

/-- `handlePerfEvent` for a header that is there: the calls of the handler, `data_tail` and the
buffer. For a null header the source returns at once. -/
def handlePerfEvent (memory : ℤ → Byte) (pageSize pages rounds : ℕ) (dataTail dataHead : BitVec 64)
    (buffer : List Byte) : Option (List (List Byte) × BitVec 64 × List Byte) :=
  if dataHead = dataTail then
    some ([], dataTail, buffer)
  else
    let bufferSize := pageSize * pages
    (perfLoop memory bufferSize ((dataHead.toNat % bufferSize : ℕ) : ℤ) rounds
      ((dataTail.toNat % bufferSize : ℕ) : ℤ) buffer).map fun result ↦
        (result.1, dataHead, result.2)

/-! ## What the ring holds -/

/-- The bytes of a record as they lie behind a pointer to it. -/
def recordAt (record : List Byte) (i : ℕ) : Byte := record.getD i 0

/-- A record has the size that its header says, and a sample has room for its data. -/
structure IsPerfRecord (bufferSize : ℕ) (record : List Byte) : Prop where
  size : (headerSize (recordAt record)).toNat = record.length
  pos : 0 < record.length
  aligned : 8 ∣ record.length
  lt : record.length < bufferSize
  sample : headerType (recordAt record) = PERF_RECORD_SAMPLE →
    12 + (sampleSize (recordAt record)).toNat ≤ record.length

/-- The bytes from `data_tail` to `data_head` are these records. -/
structure RingHolds (memory : ℤ → Byte) (bufferSize : ℕ) (dataTail dataHead : BitVec 64)
    (records : List (List Byte)) : Prop where
  isRecord : ∀ record ∈ records, IsPerfRecord bufferSize record
  aligned : 8 ∣ bufferSize
  used : records.flatten.length < bufferSize
  bytes : window (fun i : ℕ ↦ memory i) bufferSize dataTail.toNat records.flatten.length =
    records.flatten
  head : dataHead.toNat % bufferSize = (dataTail.toNat + records.flatten.length) % bufferSize

/-- The data of the samples among the records. -/
def sampleData (record : List Byte) : Option (List Byte) :=
  if headerType (recordAt record) = PERF_RECORD_SAMPLE then
    some ((record.drop 12).take (sampleSize (recordAt record)).toNat)
  else
    none

/-- Every sample is handled once, in order, and the ring is empty in the end. -/
def DeliversRecords (memory : ℤ → Byte) (pageSize pages : ℕ) (dataTail dataHead : BitVec 64)
    (records : List (List Byte)) : Prop :=
  ∀ buffer rounds, records.length < rounds → ∃ buffer',
    handlePerfEvent memory pageSize pages rounds dataTail dataHead buffer =
      some (records.filterMap sampleData, dataHead, buffer')

/-- No header of a record that begins at these positions goes around the end of the ring. -/
def HeadersWhole (bufferSize : ℕ) (tail : ℕ) : List (List Byte) → Prop
  | [] => True
  | record :: records => tail % bufferSize + perfHeaderSize ≤ bufferSize ∧
    HeadersWhole bufferSize (tail + record.length) records

/-! ## One record -/

section Record

variable {bufferSize : ℕ} {record : List Byte}

theorem IsPerfRecord.header_le (h : IsPerfRecord bufferSize record) :
    perfHeaderSize ≤ record.length :=
  Nat.le_of_dvd h.pos h.aligned

/-- The fields of the header are read from its eight bytes. -/
theorem headerSize_congr {event event' : ℕ → Byte}
    (h : ∀ i < perfHeaderSize, event i = event' i) : headerSize event = headerSize event' := by
  rw [headerSize, headerSize, h 7 (by decide), h 6 (by decide)]

/-- What is handled is read from the bytes of the record. -/
theorem handleRecord_eq (h : IsPerfRecord bufferSize record) {event : ℕ → Byte}
    (hevent : ∀ i < record.length, event i = recordAt record i) :
    handleRecord event = sampleData record := by
  have hheader := h.header_le
  have htype : headerType event = headerType (recordAt record) := by
    unfold perfHeaderSize at hheader
    rw [headerType, headerType, hevent 3 (by omega), hevent 2 (by omega), hevent 1 (by omega),
      hevent 0 (by omega)]
  unfold handleRecord sampleData
  rw [htype]
  split_ifs with hsample
  · have hroom := h.sample hsample
    have hsize : sampleSize event = sampleSize (recordAt record) := by
      rw [sampleSize, sampleSize, hevent 11 (by omega), hevent 10 (by omega),
        hevent 9 (by omega), hevent 8 (by omega)]
    rw [hsize]
    congr 1
    apply List.ext_getElem?
    intro i
    rcases Nat.lt_or_ge i (sampleSize (recordAt record)).toNat with hi | hi
    · rw [getElem?_block hi, hevent _ (by omega), List.getElem?_take_of_lt hi,
        List.getElem?_drop, recordAt, List.getD_eq_getElem?_getD,
        List.getElem?_eq_getElem (by omega)]
      rfl
    · rw [List.getElem?_eq_none (by rw [length_block]; exact hi),
        List.getElem?_eq_none (by rw [List.length_take]; omega)]
  · rfl

variable {memory : ℤ → Byte} {tail : ℕ}

/-- The record stands at its position as far as the end of the ring. -/
theorem memory_eq_recordAt
    (hbytes : window (fun i : ℕ ↦ memory i) bufferSize tail record.length = record) {i : ℕ}
    (hi : i < record.length) (hend : tail % bufferSize + i < bufferSize) :
    memory (((tail % bufferSize : ℕ) : ℤ) + i) = recordAt record i := by
  have hget := @getElem?_window Byte (fun i : ℕ ↦ memory i) bufferSize tail record.length i hi
  have hmod : (tail + i) % bufferSize = tail % bufferSize + i := by
    rw [← Nat.mod_add_mod, Nat.mod_eq_of_lt hend]
  rw [hbytes, hmod] at hget
  rw [recordAt, List.getD_eq_getElem?_getD, hget, Int.natCast_add]
  rfl

/-- A record that goes around the end of the ring is put together as it is. -/
theorem assembled_eq (h : IsPerfRecord bufferSize record)
    (hbytes : window (fun i : ℕ ↦ memory i) bufferSize tail record.length = record)
    (hwrap : bufferSize < tail % bufferSize + record.length) :
    block (fun i : ℕ ↦ memory (((tail % bufferSize : ℕ) : ℤ) + i)) 0
        (bufferSize - tail % bufferSize) ++
      block (fun i : ℕ ↦ memory i) 0 (record.length - (bufferSize - tail % bufferSize)) =
        record := by
  have hsize : 0 < bufferSize := Nat.lt_trans h.pos h.lt
  have hsplit := @window_of_lt Byte (fun i : ℕ ↦ memory i) _ _ _ hsize (Nat.le_of_lt h.lt) hwrap
  have hfront : block (fun i : ℕ ↦ memory (((tail % bufferSize : ℕ) : ℤ) + i)) 0
        (bufferSize - tail % bufferSize) =
      block (fun i : ℕ ↦ memory i) (tail % bufferSize) (bufferSize - tail % bufferSize) := by
    unfold block
    apply List.map_congr_left
    intro i _
    dsimp only
    rw [Nat.zero_add, Int.natCast_add]
  rw [hfront, ← hsplit, hbytes]

/-- The position behind a record that goes around the end. -/
theorem position_around (h : IsPerfRecord bufferSize record)
    (hwrap : bufferSize < tail % bufferSize + record.length) :
    (record.length : ℤ) - (bufferSize - ((tail % bufferSize : ℕ) : ℤ)) =
      (((tail % bufferSize + record.length) % bufferSize : ℕ) : ℤ) := by
  have hstart := Nat.mod_lt tail (Nat.lt_trans h.pos h.lt)
  have hlt := h.lt
  have hmod : (tail % bufferSize + record.length) % bufferSize =
      tail % bufferSize + record.length - bufferSize := by
    rw [@Nat.mod_eq_sub_mod (tail % bufferSize + record.length) bufferSize (by omega)]
    exact Nat.mod_eq_of_lt (by omega)
  omega

/-- A round takes the record at its position, and goes on to the position after it. -/
theorem perfRound_record (h : IsPerfRecord bufferSize record)
    (hbytes : window (fun i : ℕ ↦ memory i) bufferSize tail record.length = record)
    (hwhole : tail % bufferSize + perfHeaderSize ≤ bufferSize) (buffer : List Byte) :
    ∃ buffer', perfRound memory bufferSize ((tail % bufferSize : ℕ) : ℤ) buffer =
      some ((((tail + record.length) % bufferSize : ℕ) : ℤ), buffer', sampleData record) := by
  have hstart := Nat.mod_lt tail (Nat.lt_trans h.pos h.lt)
  have hlt := h.lt
  have hheader := h.header_le
  have hsize : (headerSize fun i : ℕ ↦ memory (((tail % bufferSize : ℕ) : ℤ) + i)).toNat =
      record.length := by
    rw [headerSize_congr fun i hi ↦ memory_eq_recordAt hbytes (by omega) (by omega)]
    exact h.size
  have hnext : (tail + record.length) % bufferSize =
      (tail % bufferSize + record.length) % bufferSize := (Nat.mod_add_mod _ _ _).symm
  unfold perfRound
  dsimp only
  rw [hsize, hnext]
  split_ifs with hwrap hcheck hedge
  · -- the record goes around the end
    have hwrap' : bufferSize < tail % bufferSize + record.length := by omega
    have hlen : ((bufferSize : ℤ) - ((tail % bufferSize : ℕ) : ℤ)).toNat =
        bufferSize - tail % bufferSize := by omega
    have hrest : ((record.length : ℤ) - (bufferSize - ((tail % bufferSize : ℕ) : ℤ))).toNat =
        record.length - (bufferSize - tail % bufferSize) := by omega
    have hassembled := assembled_eq h hbytes hwrap'
    rw [hlen, hrest, List.take_of_length_le (by rw [length_block]),
      List.drop_eq_nil_of_le (by rw [length_block]), List.append_nil, hassembled]
    have hevent : (fun i ↦ record.getD i 0) = recordAt record := rfl
    rw [hevent, h.size, position_around h hwrap', handleRecord_eq h fun i _ ↦ rfl]
    exact ⟨record, rfl⟩
  · exact absurd hcheck (by omega)
  · -- it ends where the ring ends
    refine ⟨buffer, ?_⟩
    have hposition : tail % bufferSize + record.length = bufferSize := by omega
    rw [hposition, Nat.mod_self, handleRecord_eq h fun i hi ↦
      memory_eq_recordAt hbytes hi (by omega)]
    rfl
  · refine ⟨buffer, ?_⟩
    have hposition : (tail % bufferSize + record.length) % bufferSize =
        tail % bufferSize + record.length := Nat.mod_eq_of_lt (by omega)
    rw [hposition, handleRecord_eq h fun i hi ↦ memory_eq_recordAt hbytes hi (by omega),
      Int.natCast_add]

end Record

/-! ## The whole ring -/

/-- The loop goes through all records, and ends behind the last one. -/
theorem perfLoop_records {memory : ℤ → Byte} {bufferSize tail rounds : ℕ}
    {records : List (List Byte)} (hrecords : ∀ record ∈ records, IsPerfRecord bufferSize record)
    (hused : records.flatten.length < bufferSize)
    (hbytes : window (fun i : ℕ ↦ memory i) bufferSize tail records.flatten.length =
      records.flatten)
    (hwhole : HeadersWhole bufferSize tail records) (hrounds : records.length < rounds)
    (buffer : List Byte) :
    ∃ buffer', perfLoop memory bufferSize
      (((tail + records.flatten.length) % bufferSize : ℕ) : ℤ) rounds
      ((tail % bufferSize : ℕ) : ℤ) buffer = some (records.filterMap sampleData, buffer') := by
  induction records generalizing tail rounds buffer with
  | nil =>
    obtain ⟨rounds, rfl⟩ := Nat.exists_eq_add_one_of_ne_zero (Nat.ne_of_gt hrounds)
    exact ⟨buffer, if_pos rfl⟩
  | cons record records ih =>
    obtain ⟨rounds, rfl⟩ := Nat.exists_eq_add_one_of_ne_zero (Nat.ne_zero_of_lt hrounds)
    have hrecord := hrecords record List.mem_cons_self
    rw [List.flatten_cons] at hbytes hused ⊢
    obtain ⟨hfirst, hrest⟩ := window_eq_append hbytes
    rw [List.length_append] at hused ⊢
    obtain ⟨between, hround⟩ := perfRound_record hrecord hfirst hwhole.1 buffer
    obtain ⟨buffer', hloop⟩ := @ih (tail + record.length) rounds
      (fun r hr ↦ hrecords r (List.mem_cons_of_mem _ hr)) (by omega) hrest hwhole.2
      (Nat.lt_of_succ_lt_succ hrounds) between
    have hmore : ((tail % bufferSize : ℕ) : ℤ) ≠
        (((tail + (record.length + records.flatten.length)) % bufferSize : ℕ) : ℤ) := by
      have hpos := hrecord.pos
      have hne := @mod_ne_add_mod bufferSize tail (record.length + records.flatten.length)
        (by omega) hused
      omega
    refine ⟨buffer', ?_⟩
    rw [perfLoop, if_neg hmore, hround]
    dsimp only
    rw [← Nat.add_assoc, hloop]
    cases hdata : sampleData record with
    | none => simp [hdata]
    | some data => simp [hdata]

/-- In a ring of a multiple of eight bytes, records that begin at a multiple of eight have whole
headers. -/
theorem headersWhole_of_aligned {bufferSize tail : ℕ} {records : List (List Byte)}
    (hsize : 8 ∣ bufferSize) (htail : 8 ∣ tail)
    (hrecords : ∀ record ∈ records, IsPerfRecord bufferSize record) :
    HeadersWhole bufferSize tail records := by
  induction records generalizing tail with
  | nil => trivial
  | cons record records ih =>
    have hrecord := hrecords record List.mem_cons_self
    constructor
    · have hlt := Nat.mod_lt tail (Nat.lt_trans hrecord.pos hrecord.lt)
      have haligned : 8 ∣ tail % bufferSize := (Nat.dvd_mod_iff hsize).mpr htail
      unfold perfHeaderSize
      omega
    · exact ih (Nat.dvd_add htail hrecord.aligned) fun r hr ↦
        hrecords r (List.mem_cons_of_mem _ hr)

/-- Without a byte between the two counters there is no record. -/
theorem RingHolds.eq_nil_of_head_eq {memory : ℤ → Byte} {bufferSize : ℕ}
    {dataTail dataHead : BitVec 64} {records : List (List Byte)}
    (h : RingHolds memory bufferSize dataTail dataHead records) (heq : dataHead = dataTail) :
    records = [] := by
  cases records with
  | nil => rfl
  | cons record records =>
    have hhead := h.head
    have hused := h.used
    have hpos := (h.isRecord record List.mem_cons_self).pos
    rw [heq] at hhead
    rw [List.flatten_cons, List.length_append] at hhead hused
    exact absurd hhead (mod_ne_add_mod (by omega) hused)

/-- Every sample is delivered once and in order, at any offset at which no header goes around the
end of the ring. At a multiple of eight none does. -/
theorem handlePerfEvent_delivers (memory : ℤ → Byte) (pageSize pages : ℕ)
    (dataTail dataHead : BitVec 64) (records : List (List Byte))
    (h : RingHolds memory (pageSize * pages) dataTail dataHead records) :
    (HeadersWhole (pageSize * pages) dataTail.toNat records →
      DeliversRecords memory pageSize pages dataTail dataHead records) ∧
    (8 ∣ dataTail.toNat → HeadersWhole (pageSize * pages) dataTail.toNat records) := by
  constructor
  · intro hwhole buffer rounds hrounds
    obtain ⟨buffer', hloop⟩ := perfLoop_records h.isRecord h.used h.bytes hwhole hrounds buffer
    unfold handlePerfEvent
    split_ifs with hempty
    · have hnil : records = [] := h.eq_nil_of_head_eq hempty
      rw [hempty, hnil]
      exact ⟨buffer, rfl⟩
    · refine ⟨buffer', ?_⟩
      dsimp only
      rw [h.head, hloop]
      rfl
  · intro htail
    exact headersWhole_of_aligned h.aligned htail h.isRecord

/-- A page with the given bytes from a position on, and zeros around it. -/
def pageMemory (tail : ℤ) (bytes : List Byte) (p : ℤ) : Byte :=
  if 0 ≤ p ∧ p < 4096 then bytes.getD ((p - tail) % 4096).toNat 0 else 0

/-- A sample with four bytes of data. -/
def fourBytes : List Byte := [9, 0, 0, 0, 0, 0, 16, 0, 4, 0, 0, 0, 1, 2, 3, 4]

theorem fourBytes_isPerfRecord : IsPerfRecord 4096 fourBytes :=
  ⟨by decide, by decide, by decide, by decide, fun _ ↦ by decide⟩

/-- The sample goes around the end of the page behind its header. -/
theorem handlePerfEvent_delivers_around :
    ∃ buffer', handlePerfEvent (pageMemory 4088 fourBytes) 4096 1 2 4088 4104 [] =
      some ([[1, 2, 3, 4]], 4104, buffer') := by
  have hholds : RingHolds (pageMemory 4088 fourBytes) (4096 * 1) 4088 4104 [fourBytes] :=
    ⟨fun record hrecord ↦ by
      rw [List.mem_singleton.mp hrecord]
      exact fourBytes_isPerfRecord, by decide, by decide, by decide +kernel, by decide⟩
  have hdelivers := handlePerfEvent_delivers (pageMemory 4088 fourBytes) 4096 1 4088 4104
    [fourBytes] hholds
  exact hdelivers.1 (hdelivers.2 (by decide)) [] 2 (by decide)

/-- Four bytes before the end of the page the size of the sample is read behind the page. With zeros
there the loop stays where it is. -/
theorem handlePerfEvent_stays :
    RingHolds (pageMemory 4092 fourBytes) (4096 * 1) 4092 4108 [fourBytes] ∧
    (∀ buffer rounds,
      handlePerfEvent (pageMemory 4092 fourBytes) 4096 1 rounds 4092 4108 buffer = none) ∧
    ¬ DeliversRecords (pageMemory 4092 fourBytes) 4096 1 4092 4108 [fourBytes] := by
  have hround (buffer : List Byte) : perfRound (pageMemory 4092 fourBytes) 4096 4092 buffer =
      some (4092, buffer, some []) := by
    rfl
  have hloop (rounds : ℕ) (buffer : List Byte) :
      perfLoop (pageMemory 4092 fourBytes) 4096 12 rounds 4092 buffer = none := by
    induction rounds generalizing buffer with
    | zero => rfl
    | succ rounds ih =>
      rw [perfLoop, if_neg (by decide), hround]
      dsimp only
      rw [ih]
      rfl
  have hnone (buffer : List Byte) (rounds : ℕ) :
      handlePerfEvent (pageMemory 4092 fourBytes) 4096 1 rounds 4092 4108 buffer = none :=
    congrArg (Option.map _) (hloop rounds buffer)
  refine ⟨⟨fun record hrecord ↦ by
    rw [List.mem_singleton.mp hrecord]
    exact fourBytes_isPerfRecord, by decide, by decide, by decide +kernel, by decide⟩, hnone, ?_⟩
  intro hdelivers
  obtain ⟨buffer', hsome⟩ := hdelivers [] 2 (by decide)
  rw [hnone] at hsome
  cases hsome

end Vsoshlb.Monitoring

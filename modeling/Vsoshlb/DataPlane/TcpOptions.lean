import Vsoshlb.DataPlane.Packet

/-!
# Server ids in the options of a TCP header

The options of a TCP header are a list of single bytes and of records with a kind and a length. The
loop over them stops at the option with a server id if the option is one of the first fifteen. But
the function around it starts the loop with no options at all, nothing reads the id, and nothing is
written through the pointer for it.
-/

namespace Vsoshlb.DataPlane

/-! ## Options -/

/-- An option before the end of the list. -/
inductive TcpOption where
  | nop
  | tlv (kind : BitVec 8) (value : Frame)
deriving DecidableEq, Repr

def TCP_HDR_OPT_KIND_TPR : BitVec 8 := 0xB7

def TCP_HDR_OPT_MAX_OPT_CHECKS : ℕ := 15

namespace TcpOption

def bytes : TcpOption → Frame
  | nop => [1]
  | tlv kind value => kind :: BitVec.ofNat 8 (value.length + 2) :: value

/-- The kinds of the end of the list and of the single byte are no kinds of a record, and the length
of a record is a byte. -/
def WellFormed : TcpOption → Prop
  | nop => True
  | tlv kind value => kind ≠ 0 ∧ kind ≠ 1 ∧ value.length + 2 < 256

def HasServerId : TcpOption → Prop
  | nop => False
  | tlv kind _ => kind = TCP_HDR_OPT_KIND_TPR

end TcpOption

/-- The bytes are those of the options, with an end of the list and padding after them where they do
not fill the area. -/
structure IsOptionsArea (area : Frame) (options : List TcpOption) : Prop where
  wellFormed : ∀ option ∈ options, option.WellFormed
  bytes : ∃ padding : Frame, area = options.flatMap TcpOption.bytes ++ padding ∧
    (padding = [] ∨ padding.head? = some 0)

/-- One of the first fifteen options is the first one with a server id, and the id is `serverId`. -/
def CarriesOption (area : Frame) (serverId : BitVec 32) : Prop :=
  ∃ before value after,
    IsOptionsArea area (before ++ .tlv TCP_HDR_OPT_KIND_TPR value :: after) ∧
      before.length < TCP_HDR_OPT_MAX_OPT_CHECKS ∧ (∀ option ∈ before, ¬ option.HasServerId) ∧
      value.length = 4 ∧ serverId = value.byte 3 ++ value.byte 2 ++ value.byte 1 ++ value.byte 0

/-- The options of a TCP packet that is no quotation. -/
def optionsArea (frame : Frame) (isIpv6 : Bool) : Frame :=
  let off := calcOffset isIpv6 false
  let doff := (frame.byte (off + 12) >>> 4).toNat
  (frame.drop (off + tcphdrSize)).take (doff * 4 - tcphdrSize)

/-! ## The lookup -/

/-- `tcp_hdr_opt_lookup_server_id`: whether it returns 0, and what `*server_id` holds after it. -/
def tcpHdrOptServerId (frame : Frame) (_isIpv6 : Bool) (serverId : BitVec 32) : Bool × BitVec 32 :=
  (tcpHdrOptLookupServerId frame, serverId)

/-- The lookup delivers the server id of the options, and nothing where there is none. -/
structure FindsServerId (frame : Frame) (isIpv6 : Bool) : Prop where
  found : ∀ serverId, serverId ≠ 0 → CarriesOption (optionsArea frame isIpv6) serverId →
    ∀ old, tcpHdrOptServerId frame isIpv6 old = (true, serverId)
  missed : (∀ serverId, serverId ≠ 0 → ¬ CarriesOption (optionsArea frame isIpv6) serverId) →
    ∀ old, tcpHdrOptServerId frame isIpv6 old = (false, old)

/-- The lookup is right if and only if there is nothing to find. -/
theorem findsServerId_iff (frame : Frame) (isIpv6 : Bool) :
    FindsServerId frame isIpv6 ↔
      ∀ serverId, serverId ≠ 0 → ¬ CarriesOption (optionsArea frame isIpv6) serverId := by
  have hmissed (old : BitVec 32) : tcpHdrOptServerId frame isIpv6 old = (false, old) := by
    rw [tcpHdrOptServerId, tcpHdrOptLookupServerId_eq_false]
  constructor
  · intro h serverId hne hcarries
    have hfound := h.found serverId hne hcarries 0
    rw [hmissed] at hfound
    cases hfound
  · intro hnone
    exact ⟨fun serverId hne hcarries ↦ absurd hcarries (hnone serverId hne), fun _ ↦ hmissed⟩

/-! ## The loop -/

section Loop

variable {frame : Frame}

/-- No step of the loop reads a server id. -/
theorem parseHdrOptRaw_serverId (state : HdrOptState) :
    (parseHdrOptRaw frame state).2.serverId = state.serverId := by
  unfold parseHdrOptRaw
  dsimp only
  split_ifs <;> rfl

theorem hdrOptLoop_serverId (checks : ℕ) (state : HdrOptState) :
    (hdrOptLoop frame checks state).serverId = state.serverId := by
  induction checks generalizing state with
  | zero => rfl
  | succ checks ih =>
    have hstep := @parseHdrOptRaw_serverId frame state
    unfold hdrOptLoop
    generalize parseHdrOptRaw frame state = parsed at hstep ⊢
    obtain ⟨err, after⟩ := parsed
    dsimp only at hstep ⊢
    split_ifs
    · exact hstep
    · exact (ih after).trans hstep

theorem byte_drop (n i : ℕ) : Frame.byte (frame.drop n) i = frame.byte (n + i) := by
  simp only [Frame.byte, List.getD_eq_getElem?_getD, List.getElem?_drop]

/-- The state behind `n` bytes. -/
def HdrOptState.advance (state : HdrOptState) (n : ℕ) : HdrOptState :=
  { state with
    hdrBytesRemaining := state.hdrBytesRemaining - BitVec.ofNat 8 n
    byteOffset := state.byteOffset + BitVec.ofNat 8 n }

/-- There are at least `n` bytes of options left, at an offset that is in range. -/
structure HdrOptState.HasBytes (state : HdrOptState) (n : ℕ) : Prop where
  remaining : n ≤ state.hdrBytesRemaining.toNat
  offset : state.byteOffset.toNat + n < 256

theorem HdrOptState.advance_toNat {state : HdrOptState} {n : ℕ} (h : state.HasBytes n) :
    (state.advance n).hdrBytesRemaining.toNat = state.hdrBytesRemaining.toNat - n ∧
      (state.advance n).byteOffset.toNat = state.byteOffset.toNat + n := by
  have hremaining := h.remaining
  have hoffset := h.offset
  have hn : (BitVec.ofNat 8 n).toNat = n := by
    rw [BitVec.toNat_ofNat]
    omega
  constructor
  · have hle : BitVec.ofNat 8 n ≤ state.hdrBytesRemaining := by
      rw [BitVec.le_def, hn]
      exact hremaining
    simp only [HdrOptState.advance]
    rw [BitVec.toNat_sub_of_le hle, hn]
  · simp only [HdrOptState.advance]
    rw [BitVec.toNat_add_of_lt (by omega), hn]

theorem HdrOptState.advance_advance (state : HdrOptState) (n k : ℕ) :
    (state.advance n).advance k = state.advance (n + k) := by
  simp only [HdrOptState.advance, BitVec.ofNat_add, BitVec.add_assoc]
  congr 1
  exact sub_sub _ _ _

theorem HdrOptState.HasBytes.advance {state : HdrOptState} {n k : ℕ} (h : state.HasBytes (n + k)) :
    (state.advance n).HasBytes k := by
  have hremaining := h.remaining
  have hoffset := h.offset
  obtain ⟨hleft, hat⟩ := @HdrOptState.advance_toNat state n ⟨by omega, by omega⟩
  exact ⟨by omega, by omega⟩

/-- The frame goes on with the given bytes at the offset of the state. -/
def HdrOptState.At (frame : Frame) (state : HdrOptState) (bytes : Frame) : Prop :=
  frame.drop state.byteOffset.toNat = bytes

theorem HdrOptState.At.byte {state : HdrOptState} {bytes : Frame} (h : state.At frame bytes)
    (i : ℕ) : frame.byte (state.byteOffset.toNat + i) = bytes.byte i := by
  rw [← byte_drop, h]

theorem HdrOptState.At.length {state : HdrOptState} {bytes : Frame} (h : state.At frame bytes)
    (hbytes : bytes ≠ []) : frame.length = state.byteOffset.toNat + bytes.length := by
  have hdrop := congrArg List.length h
  have hpos := List.length_pos_iff.mpr hbytes
  rw [List.length_drop] at hdrop
  omega

theorem HdrOptState.At.advance {state : HdrOptState} {bytes rest : Frame}
    (h : state.At frame (bytes ++ rest)) (hbytes : state.HasBytes bytes.length) :
    (state.advance bytes.length).At frame rest := by
  unfold HdrOptState.At
  rw [(HdrOptState.advance_toNat hbytes).2, ← List.drop_drop, h, List.drop_left]

/-- The state is at an option with the server id. -/
structure StopsAt (frame : Frame) (serverId : BitVec 32) (stop : HdrOptState) : Prop where
  kind : frame.byte stop.byteOffset.toNat = TCP_HDR_OPT_KIND_TPR
  serverId : serverId =
    frame.byte (stop.byteOffset.toNat + 5) ++ frame.byte (stop.byteOffset.toNat + 4) ++
      frame.byte (stop.byteOffset.toNat + 3) ++ frame.byte (stop.byteOffset.toNat + 2)

/-- One step goes over an option without a server id. -/
theorem parseHdrOptRaw_skips {option : TcpOption} {rest : Frame} {state : HdrOptState}
    (hwf : option.WellFormed) (hother : ¬ option.HasServerId)
    (hat : state.At frame (option.bytes ++ rest)) (hbytes : state.HasBytes option.bytes.length) :
    parseHdrOptRaw frame state = (0, state.advance option.bytes.length) := by
  have hlength := hat.length (by cases option <;> simp [TcpOption.bytes])
  have hkind := hat.byte 0
  have hlen := hat.byte 1
  rw [Nat.add_zero] at hkind
  rw [List.length_append] at hlength
  cases option with
  | nop =>
    have hone : frame.byte state.byteOffset.toNat = 1 := hkind
    simp only [TcpOption.bytes, List.length_singleton] at hlength
    unfold parseHdrOptRaw
    dsimp only
    rw [if_neg (by omega), hone, if_neg (by decide), if_pos rfl]
    rfl
  | tlv kind value =>
    obtain ⟨hzero, hone, hshort⟩ := hwf
    have hremaining := hbytes.remaining
    simp only [TcpOption.bytes, List.length_cons] at hlength hremaining
    have hother' : kind ≠ 0xB7 := hother
    have hkind' : frame.byte state.byteOffset.toNat = kind := hkind
    have hlen' : frame.byte (state.byteOffset.toNat + 1) = BitVec.ofNat 8 (value.length + 2) := hlen
    have hlenNat : (BitVec.ofNat 8 (value.length + 2)).toNat = value.length + 2 := by
      rw [BitVec.toNat_ofNat]
      omega
    unfold parseHdrOptRaw
    dsimp only
    rw [if_neg (by omega), hkind', if_neg hzero, if_neg hone, if_neg (by omega), hlen',
      if_neg (by omega), if_neg hother']
    rfl

/-- The option with a server id is the end of the loop. -/
theorem parseHdrOptRaw_stops {value rest : Frame} {state : HdrOptState} (hvalue : value.length = 4)
    (hat : state.At frame ((TcpOption.tlv TCP_HDR_OPT_KIND_TPR value).bytes ++ rest))
    (hremaining : 6 ≤ state.hdrBytesRemaining.toNat) :
    parseHdrOptRaw frame state = (1, state) := by
  have hlength := hat.length (by simp [TcpOption.bytes])
  have hkind := hat.byte 0
  have hlen := hat.byte 1
  rw [Nat.add_zero] at hkind
  simp only [List.length_append, TcpOption.bytes, List.length_cons, hvalue] at hlength
  have hkind' : frame.byte state.byteOffset.toNat = 0xB7 := hkind
  have hlen' : frame.byte (state.byteOffset.toNat + 1) = 6 := by
    rw [hlen]
    simp [TcpOption.bytes, hvalue, Frame.byte]
  have hsix : (6 : BitVec 8).toNat = 6 := rfl
  unfold parseHdrOptRaw
  dsimp only
  rw [if_neg (by omega), hkind', if_neg (by decide), if_neg (by decide), if_neg (by omega), hlen',
    if_neg (by omega), if_pos rfl, if_neg (by decide), if_neg (by omega)]

/-- The loop goes over the options before the first one with a server id, and stops there. -/
theorem hdrOptLoop_stops {before : List TcpOption} {value rest : Frame} {checks : ℕ}
    {state : HdrOptState} (hwf : ∀ option ∈ before, option.WellFormed)
    (hother : ∀ option ∈ before, ¬ option.HasServerId) (hvalue : value.length = 4)
    (hchecks : before.length < checks)
    (hat : state.At frame (before.flatMap TcpOption.bytes ++
      ((TcpOption.tlv TCP_HDR_OPT_KIND_TPR value).bytes ++ rest)))
    (hbytes : state.HasBytes ((before.flatMap TcpOption.bytes).length + 6)) :
    hdrOptLoop frame checks state = state.advance (before.flatMap TcpOption.bytes).length := by
  induction before generalizing checks state with
  | nil =>
    obtain ⟨n, rfl⟩ : ∃ n, checks = n + 1 := ⟨checks - 1, by simp at hchecks; omega⟩
    have hremaining : 6 ≤ state.hdrBytesRemaining.toNat := by
      have hle := hbytes.remaining
      simp at hle
      omega
    have hstart : state.advance 0 = state := by simp [HdrOptState.advance]
    rw [hdrOptLoop, parseHdrOptRaw_stops hvalue hat hremaining]
    simp [hstart]
  | cons option before ih =>
    obtain ⟨n, rfl⟩ : ∃ n, checks = n + 1 := ⟨checks - 1, by simp at hchecks; omega⟩
    rw [List.flatMap_cons, List.append_assoc] at hat
    rw [List.flatMap_cons, List.length_append, Nat.add_assoc] at hbytes
    have hfirst : state.HasBytes option.bytes.length :=
      ⟨by have := hbytes.remaining; omega, by have := hbytes.offset; omega⟩
    have hstep := parseHdrOptRaw_skips (hwf option List.mem_cons_self)
      (hother option List.mem_cons_self) hat hfirst
    have hrest := hbytes.advance
    have hleft : (state.advance option.bytes.length).hdrBytesRemaining ≠ 0 := by
      intro hzero
      have hremaining := hrest.remaining
      rw [hzero] at hremaining
      simp at hremaining
    calc
      _ = hdrOptLoop frame n (state.advance option.bytes.length) := by
        rw [hdrOptLoop, hstep]
        exact if_neg (not_or.mpr ⟨not_not.mpr rfl, hleft⟩)
      _ = (state.advance option.bytes.length).advance (before.flatMap TcpOption.bytes).length :=
        ih (fun o ho ↦ hwf o (List.mem_cons_of_mem _ ho))
          (fun o ho ↦ hother o (List.mem_cons_of_mem _ ho)) (by simpa using hchecks)
          (hat.advance hfirst) hrest
      _ = _ := by
        rw [HdrOptState.advance_advance, List.flatMap_cons, List.length_append]

/-- From the options on, the loop comes to the server id. -/
theorem hdrOptLoop_finds {pos len : ℕ} {serverId : BitVec 32} (hrange : pos + len < 256)
    (hcarries : CarriesOption ((frame.drop pos).take len) serverId) {stop : HdrOptState}
    (hstop : hdrOptLoop frame TCP_HDR_OPT_MAX_OPT_CHECKS
      ⟨0, BitVec.ofNat 8 pos, BitVec.ofNat 8 len⟩ = stop) :
    StopsAt frame serverId stop := by
  obtain ⟨before, value, after, harea, hchecks, hother, hvalue, rfl⟩ := hcarries
  obtain ⟨padding, hbytes, -⟩ := harea.bytes
  rw [List.flatMap_append, List.flatMap_cons, List.append_assoc, List.append_assoc] at hbytes
  have hat : HdrOptState.At frame ⟨0, BitVec.ofNat 8 pos, BitVec.ofNat 8 len⟩
      (before.flatMap TcpOption.bytes ++ ((TcpOption.tlv TCP_HDR_OPT_KIND_TPR value).bytes ++
        (after.flatMap TcpOption.bytes ++ padding ++ (frame.drop pos).drop len))) := by
    have hpos : (BitVec.ofNat 8 pos).toNat = pos := by
      rw [BitVec.toNat_ofNat]
      omega
    calc
      frame.drop (BitVec.ofNat 8 pos).toNat =
          (frame.drop pos).take len ++ (frame.drop pos).drop len := by
        rw [hpos, List.take_append_drop]
      _ = _ := by
        rw [hbytes]
        simp only [List.append_assoc]
  have hlength : (before.flatMap TcpOption.bytes).length + 6 ≤ len := by
    have hle := List.length_take_le len (frame.drop pos)
    rw [hbytes] at hle
    simp only [List.length_append, TcpOption.bytes, List.length_cons, hvalue] at hle
    omega
  have hroom : HdrOptState.HasBytes ⟨0, BitVec.ofNat 8 pos, BitVec.ofNat 8 len⟩
      ((before.flatMap TcpOption.bytes).length + 6) := by
    constructor
    · simp only [BitVec.toNat_ofNat]
      omega
    · simp only [BitVec.toNat_ofNat]
      omega
  have hwf : ∀ option ∈ before, option.WellFormed := fun option hmem ↦
    harea.wellFormed option (List.mem_append_left _ hmem)
  rw [hdrOptLoop_stops hwf hother hvalue hchecks hat hroom] at hstop
  have hend := hat.advance ⟨by have := hroom.remaining; omega, by have := hroom.offset; omega⟩
  rw [hstop] at hend
  obtain ⟨b₀, b₁, b₂, b₃, rfl⟩ : ∃ b₀ b₁ b₂ b₃, value = [b₀, b₁, b₂, b₃] := by
    match value, hvalue with
    | [b₀, b₁, b₂, b₃], _ => exact ⟨b₀, b₁, b₂, b₃, rfl⟩
  constructor
  · exact hend.byte 0
  · rw [hend.byte 5, hend.byte 4, hend.byte 3, hend.byte 2]
    rfl

end Loop

/-! ## From the options' offset and length -/

section From

variable (frame : Frame)

/-- `tcp_hdr_opt_lookup_server_id`, had it the offset of the TCP header and the length of the
options. -/
def tcpHdrOptLookupFrom (tcpOffset : ℕ) (tcpHdrOptLen : BitVec 8) : Bool :=
  if frame.length < tcpOffset + tcphdrSize then
    false
  else if tcpHdrOptLen.toNat < 6 then
    false
  else
    let optState : HdrOptState := ⟨0, BitVec.ofNat 8 (tcphdrSize + tcpOffset), tcpHdrOptLen⟩
    (hdrOptLoop frame TCP_HDR_OPT_MAX_OPT_CHECKS optState).serverId ≠ 0

theorem tcpHdrOptLookupServerId_eq_from :
    tcpHdrOptLookupServerId frame = tcpHdrOptLookupFrom frame 0 0 := rfl

/-- The length of the options of a TCP packet. -/
def optionsLength (isIpv6 : Bool) : ℕ :=
  (frame.byte (calcOffset isIpv6 false + 12) >>> 4).toNat * 4 - tcphdrSize

theorem optionsLength_le (isIpv6 : Bool) : optionsLength frame isIpv6 ≤ 40 := by
  have hdoff : (frame.byte (calcOffset isIpv6 false + 12) >>> 4).toNat < 16 := by
    rw [BitVec.toNat_ushiftRight, Nat.shiftRight_eq_div_pow]
    omega
  unfold optionsLength tcphdrSize
  omega

variable {frame}

/-- From the offset and the length of the options of a packet with a server id, the loop would stop
at the option with the id. But the lookup would return the same as it does, since nothing reads the
id there. -/
theorem tcpHdrOptLookupFrom_options {isIpv6 : Bool} {serverId : BitVec 32}
    (hcarries : CarriesOption (optionsArea frame isIpv6) serverId) :
    StopsAt frame serverId (hdrOptLoop frame TCP_HDR_OPT_MAX_OPT_CHECKS
        ⟨0, BitVec.ofNat 8 (calcOffset isIpv6 false + tcphdrSize),
          BitVec.ofNat 8 (optionsLength frame isIpv6)⟩) ∧
      ∀ tcpOffset tcpHdrOptLen,
        tcpHdrOptLookupFrom frame tcpOffset tcpHdrOptLen = tcpHdrOptLookupServerId frame := by
  have hlength := optionsLength_le frame isIpv6
  have hoffset : calcOffset isIpv6 false + tcphdrSize ≤ 74 := by cases isIpv6 <;> decide
  have hrange : calcOffset isIpv6 false + tcphdrSize + optionsLength frame isIpv6 < 256 := by omega
  refine ⟨hdrOptLoop_finds hrange hcarries rfl, fun tcpOffset tcpHdrOptLen ↦ ?_⟩
  rw [tcpHdrOptLookupServerId_eq_false]
  unfold tcpHdrOptLookupFrom
  dsimp only
  rw [hdrOptLoop_serverId]
  split_ifs <;> rfl

end From

/-! ## A packet with a server id -/

/-- An ACK from 192.0.2.7:40000 to 10.0.0.1:80 with two single bytes and server id 100 in its
options. -/
def tprFrame : Frame :=
  List.replicate 12 0 ++ [0x08, 0x00] ++
    [0x45, 0x00, 0x00, 0x30, 0x00, 0x00, 0x00, 0x00, 0x40, 0x06, 0x00, 0x00,
      192, 0, 2, 7, 10, 0, 0, 1] ++
    [0x9c, 0x40, 0x00, 0x50, 0, 0, 0, 1, 0, 0, 0, 1, 0x70, 0x10, 0, 0, 0, 0, 0, 0] ++
    [1, 1, 0xB7, 6, 100, 0, 0, 0]

theorem tprFrame_carries : CarriesOption (optionsArea tprFrame false) 100 :=
  ⟨[.nop, .nop], [100, 0, 0, 0], [],
    ⟨by simp [TcpOption.WellFormed, TCP_HDR_OPT_KIND_TPR], [], by decide +kernel, Or.inl rfl⟩,
    by decide, by simp [TcpOption.HasServerId], rfl, by decide⟩

/-- The server id of the packet is not found. -/
theorem tprFrame_not_found :
    CarriesOption (optionsArea tprFrame false) 100 ∧
      tprFrame.length = calcOffset false false + 28 ∧
      tcpHdrOptServerId tprFrame false 0 = (false, 0) ∧ ¬ FindsServerId tprFrame false := by
  have hmissed : tcpHdrOptServerId tprFrame false 0 = (false, 0) := by decide +kernel
  refine ⟨tprFrame_carries, by decide +kernel, hmissed, fun h ↦ ?_⟩
  have hfound := h.found 100 (by decide) tprFrame_carries 0
  rw [hmissed] at hfound
  exact absurd hfound (by decide)

end Vsoshlb.DataPlane

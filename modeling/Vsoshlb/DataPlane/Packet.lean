import Vsoshlb.ControlPlane.Address

/-!
# Frames and flows

A frame is the list of its bytes. `data` is its first byte and `data_end` the position after the
last one, so `p + n > data_end` says that the frame is shorter than `p + n`. Ports are read the way
a little-endian machine reads them, which is also how the map of VIPs stores them.

Some outputs of the parsers are never written: a parser of the headers below sets the addresses and
the flags of a packet but neither its protocol nor the offset of the next header.
-/

namespace Vsoshlb.DataPlane

/-! ## Frames -/

abbrev Frame := List (BitVec 8)

namespace Frame

variable (frame : Frame)

def byte (i : ℕ) : BitVec 8 := frame.getD i 0

def u16 (i : ℕ) : BitVec 16 := frame.byte (i + 1) ++ frame.byte i

/-- Four bytes, the first one on top. -/
def be32 (i : ℕ) : BitVec 32 :=
  frame.byte i ++ frame.byte (i + 1) ++ frame.byte (i + 2) ++ frame.byte (i + 3)

def be128 (i : ℕ) : BitVec 128 :=
  frame.be32 i ++ frame.be32 (i + 4) ++ frame.be32 (i + 8) ++ frame.be32 (i + 12)

end Frame

/-! ## Flows -/

/-- `struct flow_key`. An IPv4 address is the first four bytes of its union. -/
structure FlowKey where
  src : BitVec 128
  dst : BitVec 128
  sport : BitVec 16
  dport : BitVec 16
  proto : BitVec 8
deriving DecidableEq, Repr

/-- `struct packet_description`. -/
structure PacketDescription where
  flow : FlowKey
  realIndex : BitVec 32
  flags : BitVec 8
  tos : BitVec 8
deriving DecidableEq, Repr

/-- The member `src` or `dst` of a union of sixteen bytes. -/
def ipv4Part (addr : BitVec 128) : BitVec 32 := addr.extractLsb' 96 32

def setIpv4Part (addr : BitVec 128) (ipv4 : BitVec 32) : BitVec 128 :=
  ipv4 ++ addr.extractLsb' 0 96

/-- The bytes of an IPv6 address. -/
def bytes128 (addr : BitVec 128) : Frame :=
  (List.range 16).map fun i ↦ addr.extractLsb' (8 * (15 - i)) 8

def hasFlag {w : ℕ} (flags flag : BitVec w) : Bool := flags &&& flag ≠ 0

def F_ICMP : BitVec 8 := 1

def F_SYN_SET : BitVec 8 := 2

/-! ## Return values -/

inductive XdpAction where
  | drop
  | pass
  | tx
deriving DecidableEq, Repr

def IPPROTO_ICMP : BitVec 8 := 1

def IPPROTO_IPIP : BitVec 8 := 4

def IPPROTO_TCP : BitVec 8 := 6

def IPPROTO_UDP : BitVec 8 := 17

def IPPROTO_IPV6 : BitVec 8 := 41

def IPPROTO_FRAGMENT : BitVec 8 := 44

def IPPROTO_ICMPV6 : BitVec 8 := 58

/-- The sizes of the headers. -/
def ethhdrSize : ℕ := 14

def iphdrSize : ℕ := 20

def ipv6hdrSize : ℕ := 40

def icmphdrSize : ℕ := 8

def tcphdrSize : ℕ := 20

def udphdrSize : ℕ := 8

/-! ## Parsing -/

/-- `parse_l3_headers`, with the value that `*protocol` has at the call. The result is `none` for
`FURTHER_PROCESSING`. -/
def parseL3Headers (frame : Frame) (protocol : BitVec 8) (nhOff : ℕ) (isIpv6 : Bool)
    (pckt : PacketDescription) : Option XdpAction × PacketDescription :=
  if isIpv6 then
    if frame.length < nhOff + ipv6hdrSize then
      (some .drop, pckt)
    else
      let tos := (frame.byte nhOff &&& 0x0F) <<< 4 &&& 0xF0
      let pckt := { pckt with tos := tos ||| (frame.byte (nhOff + 1) >>> 4 &&& 0x0F) }
      if protocol = IPPROTO_FRAGMENT then
        (some .drop, pckt)
      else if protocol = IPPROTO_ICMPV6 then
        (none, pckt)
      else
        (none, { pckt with
          flow.src := frame.be128 (nhOff + 8)
          flow.dst := frame.be128 (nhOff + 24) })
  else
    if frame.length < nhOff + iphdrSize then
      (some .drop, pckt)
    else if frame.byte nhOff &&& 0x0F ≠ 5 then
      (some .drop, pckt)
    else
      let pckt := { pckt with tos := frame.byte (nhOff + 1) }
      -- `PCKT_FRAGMENTED`
      if hasFlag (frame.u16 (nhOff + 6)) 65343 then
        (some .drop, pckt)
      else if protocol = IPPROTO_ICMP then
        (none, pckt)
      else
        (none, { pckt with
          flow.src := setIpv4Part pckt.flow.src (frame.be32 (nhOff + 12))
          flow.dst := setIpv4Part pckt.flow.dst (frame.be32 (nhOff + 16)) })

def calcOffset (isIpv6 isIcmp : Bool) : ℕ :=
  if isIpv6 then
    ethhdrSize + ipv6hdrSize + if isIcmp then icmphdrSize + ipv6hdrSize else 0
  else
    ethhdrSize + iphdrSize + if isIcmp then icmphdrSize + iphdrSize else 0

/-- The ports of the packet, exchanged where it comes from the quotation of an ICMP error. -/
def setPorts (source dest : BitVec 16) (pckt : PacketDescription) : PacketDescription :=
  if hasFlag pckt.flags F_ICMP then
    { pckt with
      flow.sport := dest
      flow.dport := source }
  else
    { pckt with
      flow.sport := source
      flow.dport := dest }

/-- `parse_udp`, with `none` for `false`. -/
def parseUdp (frame : Frame) (isIpv6 : Bool) (pckt : PacketDescription) :
    Option PacketDescription :=
  let off := calcOffset isIpv6 (hasFlag pckt.flags F_ICMP)
  if frame.length < off + udphdrSize then
    none
  else
    some (setPorts (frame.u16 off) (frame.u16 (off + 2)) pckt)

/-- `parse_tcp`, with `none` for `false`. -/
def parseTcp (frame : Frame) (isIpv6 : Bool) (pckt : PacketDescription) :
    Option PacketDescription :=
  let off := calcOffset isIpv6 (hasFlag pckt.flags F_ICMP)
  if frame.length < off + tcphdrSize then
    none
  else
    let syn := hasFlag (frame.byte (off + 13)) 2
    let pckt := if syn then { pckt with flags := pckt.flags ||| F_SYN_SET } else pckt
    some (setPorts (frame.u16 off) (frame.u16 (off + 2)) pckt)

/-! ## Server ids -/

/-- `struct quic_parse_result`. The `int` that holds the server id is kept as its bits. -/
structure QuicParseResult where
  serverId : BitVec 32
  cidVersion : BitVec 8
  isInitial : Bool
deriving DecidableEq, Repr

/-- What `parse_quic` makes of the eight bytes of a connection id at `connId`. -/
def parseConnId (frame : Frame) (connId : ℕ) (result : QuicParseResult) : QuicParseResult :=
  let id (i : ℕ) : BitVec 32 := (frame.byte (connId + i)).setWidth 32
  let connIdVersion := frame.byte connId >>> 6
  let result := { result with cidVersion := connIdVersion }
  if connIdVersion = 1 then
    { result with serverId := (id 0 &&& 0x3F) <<< 10 ||| id 1 <<< 2 ||| id 2 >>> 6 }
  else if connIdVersion = 2 then
    { result with serverId := id 1 <<< 16 ||| id 2 <<< 8 ||| id 3 }
  else if connIdVersion = 3 then
    { result with serverId := id 1 <<< 24 ||| id 2 <<< 16 ||| id 3 <<< 8 ||| id 4 }
  else
    result

/-- `parse_quic`. A long header has its connection id after six bytes, a short one after one. -/
def parseQuic (frame : Frame) (isIpv6 : Bool) (pckt : PacketDescription) : QuicParseResult :=
  let result : QuicParseResult := ⟨-1, 0xFF, false⟩
  let off := calcOffset isIpv6 (hasFlag pckt.flags F_ICMP)
  let quicData := off + udphdrSize
  if frame.length < quicData + 1 then
    result
  else
    let pktType := frame.byte quicData
    if pktType &&& 0x80 = 0x80 then
      if frame.length < quicData + 14 then
        result
      else if (pktType &&& 0x30).toNat < 0x20 then
        { result with isInitial := true }
      else if (frame.byte (quicData + 5)).toNat < 8 then
        result
      else
        parseConnId frame (quicData + 6) result
    else if frame.length < quicData + 9 then
      result
    else
      parseConnId frame (quicData + 1) result

/-- `struct udp_stable_rt_result`. -/
structure UdpStableRtResult where
  serverId : BitVec 32
  isStableRtPkt : Bool
deriving DecidableEq, Repr

/-- `parse_udp_stable_rt_hdr`. -/
def parseUdpStableRtHdr (frame : Frame) (isIpv6 : Bool) (pckt : PacketDescription) :
    UdpStableRtResult :=
  let result : UdpStableRtResult := ⟨0, false⟩
  let off := calcOffset isIpv6 (hasFlag pckt.flags F_ICMP)
  let udpData := off + udphdrSize
  if frame.length < udpData + 1 then
    result
  else if frame.byte udpData ≠ 0x52 then
    result
  else if frame.length < udpData + 8 then
    result
  else
    let id (i : ℕ) : BitVec 32 := (frame.byte (udpData + i)).setWidth 32
    ⟨id 1 <<< 16 ||| id 2 <<< 8 ||| id 3, true⟩

/-- `struct hdr_opt_state`. -/
structure HdrOptState where
  serverId : BitVec 32
  byteOffset : BitVec 8
  hdrBytesRemaining : BitVec 8
deriving DecidableEq, Repr

/-- `parse_hdr_opt_raw`. It recognises the option of a server id and does not read the id. -/
def parseHdrOptRaw (frame : Frame) (state : HdrOptState) : ℤ × HdrOptState :=
  let tcpOpt := state.byteOffset.toNat
  if frame.length < tcpOpt + 1 then
    (-1, state)
  else
    let kind := frame.byte tcpOpt
    if kind = 0 then
      (-1, state)
    else if kind = 1 then
      (0, { state with
        hdrBytesRemaining := state.hdrBytesRemaining - 1
        byteOffset := state.byteOffset + 1 })
    else if state.hdrBytesRemaining.toNat < 2 ∨ frame.length < tcpOpt + 2 then
      (-1, state)
    else
      let hdrLen := frame.byte (tcpOpt + 1)
      if state.hdrBytesRemaining.toNat < hdrLen.toNat then
        (-1, state)
      else if kind = 0xB7 then
        if hdrLen ≠ 6 then
          (-1, state)
        else if frame.length < tcpOpt + 6 then
          (-1, state)
        else
          (1, state)
      else
        (0, { state with
          hdrBytesRemaining := state.hdrBytesRemaining - hdrLen
          byteOffset := state.byteOffset + hdrLen })

/-- The loop over the options, at most `checks` of them. -/
def hdrOptLoop (frame : Frame) : ℕ → HdrOptState → HdrOptState
  | 0, state => state
  | checks + 1, state =>
    let (err, state) := parseHdrOptRaw frame state
    if err ≠ 0 ∨ state.hdrBytesRemaining = 0 then state else hdrOptLoop frame checks state

/-- `tcp_hdr_opt_lookup_server_id` returns 0. Neither the offset of the header nor the length of
the options is computed, and `*server_id` is not written. -/
def tcpHdrOptLookupServerId (frame : Frame) : Bool :=
  let tcpOffset := 0
  let tcpHdrOptLen : BitVec 8 := 0
  if frame.length < tcpOffset + tcphdrSize then
    false
  else if tcpHdrOptLen.toNat < 6 then
    false
  else
    let optState : HdrOptState := ⟨0, BitVec.ofNat 8 (tcphdrSize + tcpOffset), tcpHdrOptLen⟩
    (hdrOptLoop frame 15 optState).serverId ≠ 0

/-- With a length of zero there is nothing to look through. -/
@[simp]
theorem tcpHdrOptLookupServerId_eq_false (frame : Frame) :
    tcpHdrOptLookupServerId frame = false := by
  simp [tcpHdrOptLookupServerId]

end Vsoshlb.DataPlane

import Vsoshlb.DataPlane.Stickiness

/-!
# Encapsulation

`process_packet` ends by putting a new header in front of the packet. The real decides the family of
that header and the packet the rest of it. `encap_v6` looks at the family of the packet; `encap_v4`
does not, and takes every packet for an IPv4 one.

Fields of more than a byte hold what the machine has in a register, so the fields of the network
have their bytes exchanged. The checksum of an IPv4 header is computed by a loop without a body.
-/

namespace Vsoshlb.DataPlane

open EarlyExit

/-! ## Bytes of words -/

/-- The bytes of a word in memory, the lowest one first. -/
def bytes16 (word : BitVec 16) : Frame := [word.extractLsb' 0 8, word.extractLsb' 8 8]

def bytes32 (word : BitVec 32) : Frame :=
  [word.extractLsb' 0 8, word.extractLsb' 8 8, word.extractLsb' 16 8, word.extractLsb' 24 8]

/-- Two bytes, the first one on top. -/
def Frame.be16 (frame : Frame) (i : ℕ) : BitVec 16 := frame.byte i ++ frame.byte (i + 1)

/-! ## Headers -/

def DEFAULT_TTL : BitVec 8 := 64

def IPIP_V4_PREFIX : BitVec 32 := 4268

def IPIP_V6_PREFIX1 : BitVec 32 := 1

def IPIP_V6_PREFIX2 : BitVec 32 := 0

def IPIP_V6_PREFIX3 : BitVec 32 := 0

def BE_ETH_P_IP : BitVec 16 := 8

def BE_ETH_P_IPV6 : BitVec 16 := 56710

/-- `struct iphdr`. -/
structure Iphdr where
  version : BitVec 4
  ihl : BitVec 4
  tos : BitVec 8
  totLen : BitVec 16
  id : BitVec 16
  fragOff : BitVec 16
  ttl : BitVec 8
  protocol : BitVec 8
  check : BitVec 16
  saddr : BitVec 32
  daddr : BitVec 32

def Iphdr.bytes (iph : Iphdr) : Frame :=
  [iph.version ++ iph.ihl, iph.tos] ++ bytes16 iph.totLen ++ bytes16 iph.id ++
    bytes16 iph.fragOff ++ [iph.ttl, iph.protocol] ++ bytes16 iph.check ++ bytes32 iph.saddr ++
    bytes32 iph.daddr

/-- `struct ipv6hdr`, with the bytes of its addresses. -/
structure Ipv6hdr where
  version : BitVec 4
  priority : BitVec 4
  flowLbl : Fin 3 → BitVec 8
  payloadLen : BitVec 16
  nexthdr : BitVec 8
  hopLimit : BitVec 8
  saddr : Frame
  daddr : Frame

def Ipv6hdr.bytes (ip6h : Ipv6hdr) : Frame :=
  [ip6h.version ++ ip6h.priority, ip6h.flowLbl 0, ip6h.flowLbl 1, ip6h.flowLbl 2] ++
    bytes16 ip6h.payloadLen ++ [ip6h.nexthdr, ip6h.hopLimit] ++ ip6h.saddr ++ ip6h.daddr

/-- `create_encap_ipv6_src`. -/
def createEncapIpv6Src (port : BitVec 16) (src : BitVec 32) : Frame :=
  bytes32 IPIP_V6_PREFIX1 ++ bytes32 IPIP_V6_PREFIX2 ++ bytes32 IPIP_V6_PREFIX3 ++
    bytes32 (src ^^^ port.setWidth 32)

/-- `create_encap_ipv4_src`. -/
def createEncapIpv4Src (port : BitVec 16) (src : BitVec 32) : BitVec 32 :=
  let ipSuffix := (bigEndian port).setWidth 32 <<< 16 ^^^ src
  0xFFFF0000 &&& ipSuffix ||| IPIP_V4_PREFIX

/-- `ipv4_csum_inline`. Its loop over the header has an empty body. -/
def ipv4CsumInline (_iph : Iphdr) (csum : BitVec 64) : BitVec 64 := csum

/-- `create_v4_hdr`. -/
def createV4Hdr (tos : BitVec 8) (saddr daddr : BitVec 32) (pktBytes : BitVec 16)
    (proto : BitVec 8) : Iphdr :=
  let iph : Iphdr :=
    { version := 4
      ihl := 5
      tos := tos
      totLen := bigEndian (pktBytes + 20)
      id := 0
      fragOff := 0
      ttl := DEFAULT_TTL
      protocol := proto
      check := 0
      saddr := saddr
      daddr := daddr }
  { iph with check := (ipv4CsumInline iph 0).setWidth 16 }

/-- `create_v6_hdr`. -/
def createV6Hdr (tc : BitVec 8) (saddr daddr : Frame) (payloadLen : BitVec 16)
    (proto : BitVec 8) : Ipv6hdr where
  version := 6
  priority := ((tc &&& 0xF0) >>> 4).setWidth 4
  flowLbl i := if i = 0 then (tc &&& 0x0F) <<< 4 else 0
  payloadLen := bigEndian payloadLen
  nexthdr := proto
  hopLimit := DEFAULT_TTL
  saddr := saddr
  daddr := daddr

/-! ## Encapsulation -/

/-- `ctl_value.mac`. -/
def ctlMac (cval : BitVec 64) : Frame := (List.range 6).map fun i ↦ cval.extractLsb' (8 * i) 8

/-- The new Ethernet header. The packet leaves from where it came to. -/
def newEth (cval : BitVec 64) (hProto : BitVec 16) (frame : Frame) : Frame :=
  ctlMac cval ++ frame.take 6 ++ bytes16 hProto

/-- There is no room for the headers once the frame has grown by `hdrSize`. -/
def OutOfBounds (hdrSize : ℕ) (frame : Frame) : Prop :=
  frame.length + hdrSize < ethhdrSize ∨ frame.length + hdrSize < hdrSize + ethhdrSize ∨
    frame.length + hdrSize < ethhdrSize + hdrSize

instance (hdrSize : ℕ) (frame : Frame) : Decidable (OutOfBounds hdrSize frame) :=
  inferInstanceAs (Decidable (_ ∨ _ ∨ _))

/-- `encap_v6`, with `none` for `false`. `adjustHead` tells whether the frame could grow. -/
def encapV6 (adjustHead : Bool) (cval : BitVec 64) (isIpv6 : Bool) (pckt : PacketDescription)
    (dst : RealDefinition) (pktBytes : BitVec 32) (frame : Frame) : Option Frame :=
  if adjustHead = false then
    none
  else if OutOfBounds ipv6hdrSize frame then
    none
  else
    let proto := if isIpv6 then IPPROTO_IPV6 else IPPROTO_IPIP
    let saddr := createEncapIpv6Src pckt.flow.sport
      (if isIpv6 then reverseBytes (pckt.flow.src.extractLsb' 0 32)
        else reverseBytes (ipv4Part pckt.flow.src))
    let payloadLen : BitVec 16 :=
      if isIpv6 then (pktBytes + 40).setWidth 16 else pktBytes.setWidth 16
    let ip6h := createV6Hdr pckt.tos saddr (bytes128 dst.addr) payloadLen proto
    some (newEth cval BE_ETH_P_IPV6 frame ++ ip6h.bytes ++ frame.drop ethhdrSize)

/-- `encap_v4`, with `none` for `false`. -/
def encapV4 (adjustHead : Bool) (cval : BitVec 64) (pckt : PacketDescription)
    (dst : RealDefinition) (pktBytes : BitVec 32) (frame : Frame) : Option Frame :=
  let ipSrc := createEncapIpv4Src pckt.flow.sport (reverseBytes (ipv4Part pckt.flow.src))
  if adjustHead = false then
    none
  else if OutOfBounds iphdrSize frame then
    none
  else
    let iph := createV4Hdr pckt.tos ipSrc (reverseBytes (ipv4Part dst.addr)) (pktBytes.setWidth 16)
      IPPROTO_IPIP
    some (newEth cval BE_ETH_P_IP frame ++ iph.bytes ++ frame.drop ethhdrSize)

/-- The choice between the two at the end of `process_packet`. -/
def encapsulate (adjustHead : Bool) (cval : BitVec 64) (isIpv6 : Bool) (pckt : PacketDescription)
    (dst : RealDefinition) (pktBytes : BitVec 16) (frame : Frame) : Option Frame :=
  if hasFlag dst.flags F_IPV6 then
    encapV6 adjustHead cval isIpv6 pckt dst (pktBytes.setWidth 32) frame
  else
    encapV4 adjustHead cval pckt dst (pktBytes.setWidth 32) frame

/-! ## What a header says -/

namespace Frame

variable (frame : Frame) (isIpv6 : Bool)

/-- The length field of the IP header: for IPv6 it leaves out the header itself. -/
def ipLengthField : BitVec 16 :=
  if isIpv6 then frame.be16 (ethhdrSize + 4) else frame.be16 (ethhdrSize + 2)

/-- The length of the IP packet with its header. -/
def ipLength : ℕ := (if isIpv6 then ipv6hdrSize else 0) + (frame.ipLengthField isIpv6).toNat

def ipProtocol : BitVec 8 :=
  if isIpv6 then frame.byte (ethhdrSize + 6) else frame.byte (ethhdrSize + 9)

def ipHeaderSize (isIpv6 : Bool) : ℕ := if isIpv6 then ipv6hdrSize else iphdrSize

end Frame

/-- The outer header names the family of the packet inside, and its length covers that packet and
itself. -/
structure OuterMatches (outerIpv6 isIpv6 : Bool) (outer inner : Frame) : Prop where
  ipip : outer.ipProtocol outerIpv6 = IPPROTO_IPIP ↔ isIpv6 = false
  ipv6 : outer.ipProtocol outerIpv6 = IPPROTO_IPV6 ↔ isIpv6 = true
  length : outer.ipLength outerIpv6 = Frame.ipHeaderSize outerIpv6 + inner.ipLength isIpv6

section Headers

variable {cval : BitVec 64} {hProto : BitVec 16} {frame : Frame} {isIpv6 adjustHead : Bool}
variable {pckt : PacketDescription} {dst : RealDefinition} {pktBytes : BitVec 16} {written : Frame}

theorem bigEndian_bigEndian (word : BitVec 16) : bigEndian (bigEndian word) = word := by
  apply BitVec.eq_of_getLsbD_eq
  intro i hi
  rw [bigEndian_getLsbD]
  by_cases hlow : i < 8
  · have hhigh : ¬ 8 + i < 8 := by omega
    simp [bigEndian_getLsbD, hlow, hhigh]
  · have hlt : i - 8 < 8 := by omega
    have hback : 8 + (i - 8) = i := by omega
    simp [bigEndian_getLsbD, hlow, hlt, hback]

theorem newEth_length (hframe : ethhdrSize ≤ frame.length) :
    (newEth cval hProto frame).length = ethhdrSize := by
  have htake : min 6 frame.length = 6 := min_eq_left (le_trans (by decide) hframe)
  simp [newEth, ctlMac, bytes16, htake, ethhdrSize]

theorem byte_append {front : Frame} (rest : Frame) {n : ℕ} (hfront : front.length = n) (i : ℕ) :
    Frame.byte (front ++ rest) (n + i) = rest.byte i := by
  have hle : front.length ≤ n + i := by omega
  unfold Frame.byte
  rw [List.getD_eq_getElem?_getD, List.getElem?_append_right hle, hfront, Nat.add_sub_cancel_left,
    ← List.getD_eq_getElem?_getD]

theorem be16_append {front : Frame} (rest : Frame) {n : ℕ} (hfront : front.length = n) (i : ℕ) :
    Frame.be16 (front ++ rest) (n + i) = rest.be16 i := by
  unfold Frame.be16
  rw [byte_append rest hfront i, Nat.add_assoc, byte_append rest hfront (i + 1)]

/-- A length is read as it was meant when it is written in the order of the network. -/
theorem be16_bytes (word : BitVec 16) : Frame.be16 (bytes16 (bigEndian word)) 0 = word :=
  bigEndian_bigEndian word

theorem encapV4_eq_some
    (h : encapV4 adjustHead cval pckt dst (pktBytes.setWidth 32) frame = some written) :
    ethhdrSize ≤ frame.length ∧ ∃ saddr daddr,
      written = newEth cval BE_ETH_P_IP frame ++
        (createV4Hdr pckt.tos saddr daddr pktBytes IPPROTO_IPIP).bytes ++
          frame.drop ethhdrSize := by
  unfold encapV4 at h
  dsimp only at h
  split_ifs at h with hadjust hbounds
  rw [BitVec.setWidth_setWidth_of_le _ (by decide), BitVec.setWidth_eq] at h
  have hlength : ethhdrSize ≤ frame.length := by
    unfold OutOfBounds at hbounds
    omega
  exact ⟨hlength, _, _, (Option.some.inj h).symm⟩

theorem encapV6_eq_some
    (h : encapV6 adjustHead cval isIpv6 pckt dst (pktBytes.setWidth 32) frame = some written) :
    ethhdrSize ≤ frame.length ∧ ∃ saddr : Frame, saddr.length = 16 ∧
      written = newEth cval BE_ETH_P_IPV6 frame ++
        (createV6Hdr pckt.tos saddr (bytes128 dst.addr)
          (if isIpv6 then pktBytes + 40 else pktBytes)
          (if isIpv6 then IPPROTO_IPV6 else IPPROTO_IPIP)).bytes ++ frame.drop ethhdrSize := by
  have hpayload : (pktBytes.setWidth 32 + 40).setWidth 16 = pktBytes + 40 := by
    rw [BitVec.setWidth_add _ _ (by decide), BitVec.setWidth_setWidth_of_le _ (by decide),
      BitVec.setWidth_eq]
    rfl
  unfold encapV6 at h
  dsimp only at h
  split at h
  · cases h
  · split at h
    · cases h
    · rename_i hbounds
      rw [BitVec.setWidth_setWidth_of_le _ (by decide), BitVec.setWidth_eq, hpayload] at h
      have hlength : ethhdrSize ≤ frame.length := by
        unfold OutOfBounds at hbounds
        omega
      exact ⟨hlength, _, rfl, (Option.some.inj h).symm⟩

/-- The fields of an outer IPv4 header. -/
theorem encapV4_fields
    (h : encapV4 adjustHead cval pckt dst (pktBytes.setWidth 32) frame = some written) :
    written.ipProtocol false = IPPROTO_IPIP ∧ written.ipLengthField false = pktBytes + 20 := by
  obtain ⟨hframe, saddr, daddr, rfl⟩ := encapV4_eq_some h
  have heth := @newEth_length cval BE_ETH_P_IP frame hframe
  rw [List.append_assoc]
  constructor
  · exact byte_append _ heth 9
  · exact (be16_append _ heth 2).trans (be16_bytes (pktBytes + 20))

/-- The fields of an outer IPv6 header. -/
theorem encapV6_fields
    (h : encapV6 adjustHead cval isIpv6 pckt dst (pktBytes.setWidth 32) frame = some written) :
    written.ipProtocol true = (if isIpv6 then IPPROTO_IPV6 else IPPROTO_IPIP) ∧
      written.ipLengthField true = if isIpv6 then pktBytes + 40 else pktBytes := by
  obtain ⟨hframe, saddr, _, rfl⟩ := encapV6_eq_some h
  have heth := @newEth_length cval BE_ETH_P_IPV6 frame hframe
  generalize (if isIpv6 then pktBytes + 40 else pktBytes) = payloadLen
  rw [List.append_assoc]
  constructor
  · exact byte_append _ heth 6
  · exact (be16_append _ heth 4).trans (be16_bytes payloadLen)

/-- `encap_v4` is right about IPv4 packets and wrong about IPv6 packets. -/
theorem encapV4_outerMatches_iff (hpktBytes : pktBytes = frame.ipLengthField isIpv6)
    (hsize : ethhdrSize + frame.ipLength isIpv6 ≤ 65529)
    (h : encapV4 adjustHead cval pckt dst (pktBytes.setWidth 32) frame = some written) :
    OuterMatches false isIpv6 written frame ↔ isIpv6 = false := by
  obtain ⟨hprotocol, hlength⟩ := encapV4_fields h
  constructor
  · intro hmatches
    exact hmatches.ipip.mp hprotocol
  · rintro rfl
    refine ⟨by simp [hprotocol], by simp [hprotocol, IPPROTO_IPIP, IPPROTO_IPV6], ?_⟩
    have hfits : pktBytes.toNat + 20 < 2 ^ 16 := by
      simp only [Frame.ipLength, ← hpktBytes, ethhdrSize, Bool.false_eq_true, if_false] at hsize
      omega
    calc
      _ = (pktBytes + 20).toNat := by simp [Frame.ipLength, hlength]
      _ = pktBytes.toNat + 20 := BitVec.toNat_add_of_lt hfits
      _ = _ := by simp [Frame.ipHeaderSize, Frame.ipLength, ← hpktBytes, iphdrSize, Nat.add_comm]

/-- `encap_v6` is right about every packet. -/
theorem encapV6_outerMatches (hpktBytes : pktBytes = frame.ipLengthField isIpv6)
    (hsize : ethhdrSize + frame.ipLength isIpv6 ≤ 65529)
    (h : encapV6 adjustHead cval isIpv6 pckt dst (pktBytes.setWidth 32) frame = some written) :
    OuterMatches true isIpv6 written frame := by
  obtain ⟨hprotocol, hlength⟩ := encapV6_fields h
  cases isIpv6 with
  | false =>
    refine ⟨by simp [hprotocol], by simp [hprotocol, IPPROTO_IPIP, IPPROTO_IPV6], ?_⟩
    simp [Frame.ipLength, Frame.ipHeaderSize, hlength, hpktBytes]
  | true =>
    refine ⟨by simp [hprotocol, IPPROTO_IPIP, IPPROTO_IPV6], by simp [hprotocol], ?_⟩
    have hfits : pktBytes.toNat + 40 < 2 ^ 16 := by
      simp only [Frame.ipLength, ← hpktBytes, ethhdrSize, ipv6hdrSize, if_true] at hsize
      omega
    calc
      _ = ipv6hdrSize + (pktBytes + 40).toNat := by simp [Frame.ipLength, hlength]
      _ = ipv6hdrSize + (pktBytes.toNat + 40) := by rw [BitVec.toNat_add_of_lt hfits]; rfl
      _ = _ := by
        simp [Frame.ipHeaderSize, Frame.ipLength, ← hpktBytes, ipv6hdrSize, Nat.add_comm]

theorem encapsulate_outerMatches_iff (hpktBytes : pktBytes = frame.ipLengthField isIpv6)
    (hsize : ethhdrSize + frame.ipLength isIpv6 ≤ 65529)
    (h : encapsulate adjustHead cval isIpv6 pckt dst pktBytes frame = some written) :
    OuterMatches (hasFlag dst.flags F_IPV6) isIpv6 written frame ↔
      isIpv6 = false ∨ hasFlag dst.flags F_IPV6 = true := by
  unfold encapsulate at h
  split_ifs at h with hfamily
  · rw [hfamily]
    simp [encapV6_outerMatches hpktBytes hsize h]
  · rw [Bool.not_eq_true] at hfamily
    rw [hfamily]
    simp [encapV4_outerMatches_iff hpktBytes hsize h]

/-- The packet itself follows its new header. -/
theorem encapsulate_payload
    (h : encapsulate adjustHead cval isIpv6 pckt dst pktBytes frame = some written) :
    written.drop (ethhdrSize + Frame.ipHeaderSize (hasFlag dst.flags F_IPV6)) =
      frame.drop ethhdrSize := by
  unfold encapsulate at h
  split_ifs at h with hfamily
  · obtain ⟨hframe, saddr, hsaddr, rfl⟩ := encapV6_eq_some h
    rw [hfamily]
    apply List.drop_left'
    rw [List.length_append, newEth_length hframe]
    simp [Ipv6hdr.bytes, createV6Hdr, bytes16, bytes128, hsaddr, Frame.ipHeaderSize, ipv6hdrSize]
  · obtain ⟨hframe, saddr, daddr, rfl⟩ := encapV4_eq_some h
    rw [Bool.not_eq_true] at hfamily
    rw [hfamily]
    apply List.drop_left'
    rw [List.length_append, newEth_length hframe]
    simp [Iphdr.bytes, bytes16, bytes32, Frame.ipHeaderSize, iphdrSize]

end Headers

/-! ## The real of a packet -/

variable {build : Build} {maps : KernelMaps} {env : Env}

/-- The real of the packet is one of `reals`. -/
def Selected (maps : KernelMaps) (m : Machine) : Prop :=
  ∃ key, (maps.reals key).isSome ∧ m.dst = maps.reals key

def Undecided (maps : KernelMaps) (m : Machine) : Prop := m.dst = none ∨ Selected maps m

/-- What `process_packet` makes of the frame in the state in which it comes to an end. -/
def sentFrame (maps : KernelMaps) (env : Env) (m : Machine) : Option Frame :=
  match maps.ctlArray 0, m.dst with
  | some cval, some dst => encapsulate env.encap cval env.isIpv6 m.pckt dst env.pktBytes env.frame
  | _, _ => none

theorem countQuic_undecided (f : QuicPacketsStats → QuicPacketsStats) :
    Triple (Undecided maps) (countQuic f) (fun _ ↦ Undecided maps) (fun _ _ ↦ True) :=
  .modify fun _ hs ↦ hs

theorem checkAndUpdateRealIndexInLru_dst (curTime : BitVec 64) (lruMap : LruMap) (m : Machine) :
    (checkAndUpdateRealIndexInLru build curTime lruMap m).2.dst = m.dst := by
  simp only [checkAndUpdateRealIndexInLru]
  generalize hlooked : m.record (.lruLookup lruMap m.pckt.flow) = looked
  have hdst : looked.dst = m.dst := by rw [← hlooked, Machine.record_dst]
  split
  · split
    · exact hdst
    · exact hdst
  · obtain ⟨f, hflood⟩ := @isUnderFlood_snd build curTime looked
    split
    · rw [hflood]
      exact hdst
    · rw [hflood]
      exact hdst

/-- Only here does the pointer to the real become set. -/
theorem routeToIndex_undecided (lruMap : LruMap) (key : BitVec 32) :
    Triple (Undecided maps) (routeToIndex build maps env lruMap key) (fun _ ↦ Undecided maps)
      (fun _ _ ↦ True) := by
  refine .bind (.modify (Q := fun _ m ↦ m.dst = maps.reals key) fun _ _ ↦ rfl) fun _ ↦ ?_
  refine .bind (.when (Q := fun _ ↦ Selected maps) (fun _ ↦ ?_) fun hsome m hm ↦ ?_) fun _ ↦ ?_
  · exact .bind (.modify (Q := fun _ _ ↦ True) fun _ _ ↦ trivial) fun _ ↦ .exit fun _ _ ↦ trivial
  · exact ⟨key, Option.isSome_iff_ne_none.mpr (by simpa using hsome), hm⟩
  · refine .bind (.act (Q := fun _ ↦ Undecided maps) fun m hm ↦ Or.inr ?_) fun _ ↦
      .bind (countQuic_undecided _) fun _ ↦ countQuic_undecided _
    obtain ⟨k, hk, hdst⟩ := hm
    exact ⟨k, hk, (checkAndUpdateRealIndexInLru_dst env.curTime lruMap m).trans hdst⟩

theorem routeQuic_undecided (lruMap : LruMap) :
    Triple (Undecided maps) (routeQuic build maps env lruMap) (fun _ ↦ Undecided maps)
      (fun _ _ ↦ True) := by
  refine .read_bind fun _ _ ↦ .ite (fun _ ↦ ?_) fun _ ↦ ?_
  · exact countOrDrop_triple (fun _ hs ↦ hs) fun _ _ ↦ trivial
  · refine .read_bind fun _ _ ↦ .exitIf_bind (fun _ _ _ ↦ trivial) fun _ ↦ ?_
    refine .ite (fun _ ↦ .bind (countQuic_undecided _) fun _ ↦ ?_) fun _ ↦
      .ite (fun _ ↦ countQuic_undecided _) fun _ ↦ countQuic_undecided _
    exact .ite (fun _ ↦ countQuic_undecided _) fun _ ↦ .ite (fun _ ↦ countQuic_undecided _) fun _ ↦
      routeToIndex_undecided lruMap _

theorem routeByServerId_undecided (vipInfo : VipMeta) (lruMap : LruMap) :
    Triple (Undecided maps) (routeByServerId build maps env vipInfo lruMap)
      (fun _ ↦ Undecided maps) (fun _ _ ↦ True) := by
  refine .bind (.when (fun _ ↦ routeQuic_undecided lruMap) fun _ _ hs ↦ hs) fun _ ↦ ?_
  refine .read_bind fun _ _ ↦ .when (fun _ ↦ .modify fun m hm ↦ ?_) fun _ _ hs ↦ hs
  obtain ⟨hdst, -⟩ := @processUdpStableRouting_kept maps env.frame env.isIpv6 m
  simp only [Undecided, Selected, hdst]
  exact hm

/-- A packet that comes to its end has a real. -/
theorem deliver_selected (vipInfo : VipMeta) (originalSport : BitVec 16) :
    Triple (Selected maps) (deliver build maps env vipInfo originalSport)
      (fun _ ↦ Selected maps) (fun _ _ ↦ True) := by
  refine .exitIf_bind (fun _ _ _ ↦ trivial) fun _ ↦ ?_
  refine .bind (countOrDrop_triple (fun _ hs ↦ hs) fun _ _ ↦ trivial) fun _ ↦ ?_
  refine .read_bind fun _ _ ↦ .read_bind fun _ _ ↦ .exitIf_bind (fun _ _ _ ↦ trivial) fun _ ↦ ?_
  refine .bind (.modify (Q := fun _ ↦ Selected maps) fun _ hs ↦ hs) fun _ ↦ .read_bind fun _ _ ↦ ?_
  refine .exitIf_bind (fun _ _ _ ↦ trivial) fun _ ↦ ?_
  exact .bind (.modify (Q := fun _ ↦ Selected maps) fun _ hs ↦ hs) fun _ ↦ .pure fun _ hs ↦ hs

theorem balance_selected (vip : VipDefinition) (vipInfo : VipMeta) :
    Triple (fun m ↦ m.dst = none) (balance build maps env vip vipInfo) (fun _ ↦ Selected maps)
      (fun _ _ ↦ True) := by
  refine .bind (.when (fun _ ↦ rejectTooBig_triple (fun _ _ _ hs ↦ hs) fun _ _ _ ↦ trivial)
    fun _ _ hs ↦ hs) fun _ ↦ ?_
  refine .bind (countOrDrop_triple (fun _ hs ↦ hs) fun _ _ ↦ trivial) fun _ ↦ ?_
  refine .bind (.modify (Q := fun _ ↦ Undecided maps) fun _ hs ↦ Or.inl hs) fun _ ↦ ?_
  have hmap : Triple (Undecided maps) (findLruMap build maps env) (fun _ ↦ Undecided maps)
      (fun _ _ ↦ True) := findLruMap_triple (fun _ _ _ hs ↦ hs) fun _ _ ↦ trivial
  refine .bind hmap fun lruMap ↦ .bind (routeByServerId_undecided vipInfo lruMap) fun _ ↦ ?_
  refine .read_bind fun _ _ ↦ .read_bind_at fun m hm ↦ ?_
  refine .bind (Q := fun _ ↦ Selected maps) ?_ fun _ ↦ deliver_selected vipInfo _
  refine .when (fun hnone ↦ ?_) fun hsome t ht ↦ ?_
  · have hunrouted (t : Machine) (ht : m = t) : Unrouted m.pckt.flags t :=
      ht ▸ ⟨Option.isNone_iff_eq_none.mp hnone, rfl⟩
    exact (selectReal_unrouted vip lruMap).conseq hunrouted (fun _ _ h ↦ h.elim)
      fun _ _ _ ↦ trivial
  · exact ht ▸ hm.resolve_left fun hnone ↦ hsome (Option.isNone_iff_eq_none.mpr hnone)

theorem processPacket_selected :
    Triple (fun m ↦ m.dst = none) (processPacket build maps env) (fun _ ↦ Selected maps)
      (fun _ _ ↦ True) := by
  intro m hm
  have hclassify : Triple (SameRouting m) (classify build maps env) (fun _ t ↦ t.dst = none)
      (fun _ _ ↦ True) :=
    classify_sameRouting.conseq (fun _ h ↦ h) (fun _ _ h ↦ h.1.trans hm) fun _ _ h ↦ h
  exact Triple.bind hclassify (fun found ↦ balance_selected found.1 found.2) m (.refl m)

end Vsoshlb.DataPlane

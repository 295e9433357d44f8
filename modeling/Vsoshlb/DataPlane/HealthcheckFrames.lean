import Vsoshlb.DataPlane.Healthcheck

/-!
# What becomes of the packets of a health check

The headers that the program writes reach the real, cover the packet and name its protocol, with one
exception: in front of an IPv4 header the type in the Ethernet header stays that of the packet. A
packet is encapsulated once, whatever programs and maps it meets on its way.
-/

namespace Vsoshlb.DataPlane

open EarlyExit

/-! ## The frame that is sent -/

/-- An Ethernet header, new headers and the packet. -/
def hcFrame (edst esrc : HcMac) (hProto : BitVec 16) (headers payload : Frame) : Frame :=
  edst.toList ++ esrc.toList ++ bytes16 hProto ++ (headers ++ payload)

/-- What the headers of a sent frame say, for a real whose address is an IPv6 address or not. The
type of the Ethernet header stays what it was when the real has an IPv4 address. -/
structure HcEncapsulated (gue outerIpv6 : Bool) (addr : BitVec 128) (inner outer : Frame) :
    Prop where
  etherType : outer.etherType = if outerIpv6 then BE_ETH_P_IPV6 else inner.etherType
  version : outer.ipVersion = if outerIpv6 then 6 else 4
  daddr : outer.ipDaddr outerIpv6 = if outerIpv6 then addr else setIpv4Part 0 (ipv4Part addr)
  protocol : outer.ipProtocol outerIpv6 =
    if gue then IPPROTO_UDP
    else if outerIpv6 ∧ inner.etherType = BE_ETH_P_IPV6 then IPPROTO_IPV6
    else IPPROTO_IPIP
  lengthField : outer.ipLengthField outerIpv6 =
    BitVec.ofNat 16 inner.length - 14 + (if gue then 8 else 0) + if outerIpv6 then 0 else 20
  payload :
    outer.drop (ethhdrSize + (Frame.ipHeaderSize outerIpv6 + if gue then udphdrSize else 0)) =
      inner.drop ethhdrSize

section Frames

variable {edst esrc : HcMac} {hProto : BitVec 16} {headers payload : Frame} {skb : SkBuff}

theorem hcFrame_front (edst esrc : HcMac) (hProto : BitVec 16) :
    (edst.toList ++ esrc.toList ++ bytes16 hProto).length = ethhdrSize := by
  simp [bytes16, ethhdrSize]

theorem hcFrame_etherType : (hcFrame edst esrc hProto headers payload).etherType = hProto := by
  have hmacs : (edst.toList ++ esrc.toList).length = 12 := by simp
  rw [hcFrame, List.append_assoc, Frame.etherType, Frame.u16, byte_append _ hmacs 1,
    byte_append _ hmacs 0]
  exact u16_bytes hProto _

theorem hcFrame_append (more : Frame) :
    hcFrame edst esrc hProto (headers ++ more) payload =
      edst.toList ++ esrc.toList ++ bytes16 hProto ++ (headers ++ (more ++ payload)) := by
  rw [hcFrame, List.append_assoc headers]

theorem hcFrame_drop {n : ℕ} (hheaders : headers.length = n) :
    (hcFrame edst esrc hProto headers payload).drop (ethhdrSize + n) = payload := by
  rw [hcFrame, ← List.append_assoc]
  apply List.drop_left'
  rw [List.length_append, hcFrame_front, hheaders]

/-- The type of the Ethernet header, as bytes. -/
theorem bytes16_etherType {frame : Frame} (hframe : ethhdrSize ≤ frame.length) :
    bytes16 frame.etherType = (frame.drop 12).take 2 := by
  have hlow : 12 < frame.length := lt_of_lt_of_le (by decide) hframe
  have hhigh : 13 < frame.length := lt_of_lt_of_le (by decide) hframe
  have hbytes : bytes16 frame.etherType = [frame.byte 12, frame.byte 13] := by
    unfold bytes16 Frame.etherType Frame.u16
    rw [BitVec.extractLsb'_append_eq_right, BitVec.extractLsb'_append_eq_left]
  rw [hbytes, List.drop_eq_getElem_cons hlow, List.drop_eq_getElem_cons hhigh,
    List.take_succ_cons, List.take_succ_cons, List.take_zero]
  simp [Frame.byte, hlow, hhigh]

theorem insertHeaders_setMacs (hframe : ethhdrSize ≤ skb.frame.length) :
    ((skb.insertHeaders headers).setMacs esrc edst).frame =
      hcFrame edst esrc skb.frame.etherType headers (skb.frame.drop ethhdrSize) := by
  have hroom : 12 ≤ (skb.frame.take ethhdrSize).length := by
    rw [List.length_take_of_le hframe]
    decide
  simp only [SkBuff.insertHeaders, SkBuff.setMacs, hcFrame, bytes16_etherType hframe]
  rw [List.append_assoc (skb.frame.take ethhdrSize), List.drop_append_of_le_length hroom,
    List.drop_take, ← List.append_assoc]
  rfl

theorem setEtherType_setMacs (hframe : ethhdrSize ≤ skb.frame.length) :
    (((skb.setEtherType hProto).insertHeaders headers).setMacs esrc edst).frame =
      hcFrame edst esrc hProto headers (skb.frame.drop ethhdrSize) := by
  have hmacs : (skb.frame.take 12).length = 12 :=
    List.length_take_of_le (le_trans (by decide) hframe)
  have hfront : (skb.frame.take 12 ++ bytes16 hProto).length = ethhdrSize := by
    rw [List.length_append, hmacs]
    rfl
  have hlength : ethhdrSize ≤ (skb.setEtherType hProto).frame.length := by
    simp only [SkBuff.setEtherType]
    rw [List.length_append, hfront]
    exact Nat.le_add_right _ _
  have htype : (skb.setEtherType hProto).frame.etherType = hProto := by
    simp only [SkBuff.setEtherType, Frame.etherType, Frame.u16]
    rw [List.append_assoc, byte_append _ hmacs 1, byte_append _ hmacs 0]
    exact u16_bytes hProto _
  have hpayload : (skb.setEtherType hProto).frame.drop ethhdrSize = skb.frame.drop ethhdrSize :=
    List.drop_left' hfront
  rw [insertHeaders_setMacs hlength, htype, hpayload]

variable {addr : BitVec 128} {inner : Frame}

/-- What a new IPv4 header says. -/
theorem hcEncapsulated_v4 (gue : Bool) (tos : BitVec 8) (saddr : BitVec 32) {pktLen : BitVec 16}
    (hpktLen : pktLen = BitVec.ofNat 16 inner.length - 14 + if gue then 8 else 0) {more : Frame}
    (hmore : more.length = if gue then udphdrSize else 0) :
    HcEncapsulated gue false addr inner (hcFrame edst esrc inner.etherType
      ((createV4Hdr tos saddr (reverseBytes (ipv4Part addr)) pktLen
        (if gue then IPPROTO_UDP else IPPROTO_IPIP)).bytes ++ more) (inner.drop ethhdrSize)) := by
  have hfields := v4Hdr_fields (hcFrame_front edst esrc inner.etherType) tos saddr (ipv4Part addr)
    pktLen (if gue then IPPROTO_UDP else IPPROTO_IPIP) (more ++ inner.drop ethhdrSize)
  rw [← hcFrame_append] at hfields
  obtain ⟨hversion, hdaddr, hprotocol, hlength⟩ := hfields
  refine ⟨?_, hversion, ?_, ?_, ?_, ?_⟩
  · simp [hcFrame_etherType]
  · simpa using hdaddr
  · simpa using hprotocol
  · rw [← hpktLen]
    exact hlength
  · apply hcFrame_drop
    rw [List.length_append, hmore]
    rfl

/-- What a new IPv6 header says. -/
theorem hcEncapsulated_v6 (gue : Bool) (tc : BitVec 8) {saddr : Frame} (hsaddr : saddr.length = 16)
    {pktLen : BitVec 16}
    (hpktLen : pktLen = BitVec.ofNat 16 inner.length - 14 + if gue then 8 else 0)
    {proto : BitVec 8}
    (hproto : proto = if gue then IPPROTO_UDP
      else if inner.etherType = BE_ETH_P_IPV6 then IPPROTO_IPV6 else IPPROTO_IPIP) {more : Frame}
    (hmore : more.length = if gue then udphdrSize else 0) :
    HcEncapsulated gue true addr inner (hcFrame edst esrc BE_ETH_P_IPV6
      ((createV6Hdr tc saddr (bytes128 addr) pktLen proto).bytes ++ more)
      (inner.drop ethhdrSize)) := by
  have hfields := v6Hdr_fields (hcFrame_front edst esrc BE_ETH_P_IPV6) tc hsaddr addr pktLen proto
    (more ++ inner.drop ethhdrSize)
  rw [← hcFrame_append] at hfields
  obtain ⟨hversion, hdaddr, hprotocol, hlength⟩ := hfields
  refine ⟨?_, hversion, ?_, ?_, ?_, ?_⟩
  · simp [hcFrame_etherType]
  · simpa using hdaddr
  · simpa using hprotocol.trans hproto
  · rw [← hpktLen]
    simpa using hlength
  · apply hcFrame_drop
    rw [List.length_append, hmore]
    simp [Ipv6hdr.bytes, createV6Hdr, bytes16, bytes128, hsaddr, Frame.ipHeaderSize, ipv6hdrSize]

end Frames

section Encapsulated

variable {build : HcBuild} {maps : HcMaps} {env : HcEnv} {real : BeAddr} {isIpv6 : Bool}
variable {skb sent : SkBuff} (esrc edst : HcMac)

theorem hcEncapIpip_encapsulated (hfamily : isIpv6 = decide (skb.frame.etherType = BE_ETH_P_IPV6))
    (h : hcEncapIpip build maps env real isIpv6 skb = some sent) :
    sent.mark = skb.mark ∧ HcEncapsulated false (decide (real.flags = V6DADDR)) real.addr skb.frame
      (sent.setMacs esrc edst).frame := by
  have hle := skb.headlen_le
  have hpktLen : skb.pktLen = BitVec.ofNat 16 skb.frame.length - 14 + if false then 8 else 0 :=
    (BitVec.add_zero _).symm
  unfold hcEncapIpip at h
  by_cases hreal : real.flags = V6DADDR
  · rw [if_pos hreal] at h
    cases hsrc : maps.hcPcktSrcsMap V6_SRC_INDEX with
    | none => simp [hsrc] at h
    | some src =>
      simp only [hsrc] at h
      split at h
      · cases h
      · split at h
        · cases h
        · rename_i hbounds
          obtain rfl := Option.some.inj h
          refine ⟨rfl, ?_⟩
          rw [decide_eq_true hreal, setEtherType_setMacs (by omega),
            ← List.append_nil (Ipv6hdr.bytes _)]
          apply hcEncapsulated_v6 false
          · split_ifs
            · rfl
            · rfl
          · exact hpktLen
          · simp [hfamily]
          · rfl
  · rw [if_neg hreal] at h
    cases hsrc : maps.hcPcktSrcsMap V4_SRC_INDEX with
    | none => simp [hsrc] at h
    | some src =>
      simp only [hsrc] at h
      split at h
      · cases h
      · split at h
        · cases h
        · rename_i hbounds
          obtain rfl := Option.some.inj h
          refine ⟨rfl, ?_⟩
          rw [decide_eq_false hreal, insertHeaders_setMacs (by omega),
            ← List.append_nil (Iphdr.bytes _)]
          exact hcEncapsulated_v4 false _ _ hpktLen rfl

theorem hcEncapGue_encapsulated (h : hcEncapGue maps env real skb = some sent) :
    sent.mark = skb.mark ∧ HcEncapsulated true (decide (real.flags = V6DADDR)) real.addr skb.frame
      (sent.setMacs esrc edst).frame := by
  have hle := skb.headlen_le
  unfold hcEncapGue at h
  dsimp only at h
  by_cases hreal : real.flags = V6DADDR
  · rw [if_pos hreal] at h
    cases hsrc : maps.hcPcktSrcsMap V6_SRC_INDEX with
    | none => simp [hsrc] at h
    | some src =>
      simp only [hsrc] at h
      split at h
      · cases h
      · split at h
        · cases h
        · rename_i hbounds
          obtain rfl := Option.some.inj h
          refine ⟨rfl, ?_⟩
          rw [decide_eq_true hreal, setEtherType_setMacs (by omega)]
          exact hcEncapsulated_v6 true _ rfl rfl rfl rfl
  · rw [if_neg hreal] at h
    cases hsrc : maps.hcPcktSrcsMap V4_SRC_INDEX with
    | none => simp [hsrc] at h
    | some src =>
      simp only [hsrc] at h
      split at h
      · cases h
      · split at h
        · cases h
        · rename_i hbounds
          obtain rfl := Option.some.inj h
          refine ⟨rfl, ?_⟩
          rw [decide_eq_false hreal, insertHeaders_setMacs (by omega)]
          exact hcEncapsulated_v4 true _ _ rfl rfl

/-- What becomes of a packet that is encapsulated. -/
theorem hcEncap_encapsulated (hfamily : isIpv6 = decide (skb.frame.etherType = BE_ETH_P_IPV6))
    (h : hcEncap build maps env real isIpv6 skb = some sent) :
    sent.mark = skb.mark ∧ HcEncapsulated build.gueEncap (decide (real.flags = V6DADDR)) real.addr
      skb.frame (sent.setMacs esrc edst).frame := by
  unfold hcEncap at h
  cases hgue : build.gueEncap with
  | true =>
    rw [hgue, if_pos rfl] at h
    exact hcEncapGue_encapsulated esrc edst h
  | false =>
    rw [hgue, if_neg Bool.false_ne_true] at h
    exact hcEncapIpip_encapsulated esrc edst hfamily h

end Encapsulated

/-! ## One packet -/

section Packet

variable {build : HcBuild} {maps : HcMaps} {env : HcEnv} {skb : SkBuff} {stats : HcStats}

/-- The real of a packet. No real has the mark 0. -/
def hcRealOf (maps : HcMaps) (skb : SkBuff) : Option BeAddr :=
  if skb.mark = 0 then none else maps.hcRealsMap skb.mark

/-- A packet of a health check that is too big. -/
def HcTooBig (build : HcBuild) (maps : HcMaps) (skb : SkBuff) : Prop :=
  (hcRealOf maps skb).isSome ∧ 0 < build.hcMaxPacketSize ∧
    build.hcMaxPacketSize < skb.frame.length

instance (build : HcBuild) (maps : HcMaps) (skb : SkBuff) : Decidable (HcTooBig build maps skb) :=
  inferInstanceAs (Decidable (_ ∧ _ ∧ _))

/-- The packet that is sent for another one: to the addresses of the two interfaces and, in its new
headers, to the real. -/
structure HcSent (build : HcBuild) (maps : HcMaps) (skb sent : SkBuff) (real : BeAddr)
    (ifindex : BitVec 32) : Prop where
  known : hcRealOf maps skb = some real
  long : ethhdrSize ≤ skb.frame.length
  fits : ¬ HcTooBig build maps skb
  interface : maps.hcCtrlMap HC_MAIN_INTF_POSITION = some ifindex
  dstMac : (maps.hcPcktMacs HC_DST_MAC_POS).map Vector.toList = some (sent.frame.take 6)
  srcMac : (maps.hcPcktMacs HC_SRC_MAC_POS).map Vector.toList =
    some ((sent.frame.drop 6).take 6)
  mark : sent.mark = 0
  headers : HcEncapsulated build.gueEncap (decide (real.flags = V6DADDR)) real.addr skb.frame
    sent.frame

/-- How the program ends, and which of the counters it increases. -/
def HcEnds (build : HcBuild) (maps : HcMaps) (skb : SkBuff) (stats : HcStats) (action : TcAction)
    (m : HcMachine) : Prop :=
  match action with
  | .unspec => hcRealOf maps skb = none ∧ m.skb = skb ∧ m.hcStatsMap = some stats.skipped
  | .shot => (hcRealOf maps skb).isSome ∧ m.hcStatsMap =
      some (if HcTooBig build maps skb then stats.dropped.tooBig else stats.dropped)
  | .redirect ifindex => m.hcStatsMap = some stats.processed ∧
      ∃ real, HcSent build maps skb m.skb real ifindex

theorem hcRequire_triple {α : Type} {P : HcMachine → Prop} {E : TcAction → HcMachine → Prop}
    {a : Option α}
    (hdrop : ∀ m, P m → E .shot { m with hcStatsMap := m.hcStatsMap.map HcStats.dropped }) :
    Triple P (hcRequire a) (fun b m ↦ a = some b ∧ P m) E := by
  cases a with
  | some b => exact .pure fun m hm ↦ ⟨rfl, hm⟩
  | none =>
    refine .bind (Q := fun _ m ↦ E .shot m) (.modify hdrop) fun _ ↦ .exit fun m hm ↦ hm

theorem hcDropIf_triple {P : HcMachine → Prop} {E : TcAction → HcMachine → Prop} {c : Prop}
    [Decidable c]
    (hdrop : ∀ m, P m → E .shot { m with hcStatsMap := m.hcStatsMap.map HcStats.dropped }) :
    Triple P (hcDropIf c) (fun _ m ↦ ¬ c ∧ P m) E := by
  refine .when (fun _ ↦ ?_) fun hc m hm ↦ ⟨hc, hm⟩
  exact .bind (Q := fun _ m ↦ E .shot m) (.modify hdrop) fun _ ↦ .exit fun m hm ↦ hm

theorem setMacs_take {sent : SkBuff} {esrc edst : HcMac} :
    (sent.setMacs esrc edst).frame.take 6 = edst.toList ∧
      ((sent.setMacs esrc edst).frame.drop 6).take 6 = esrc.toList := by
  have hdst : edst.toList.length = 6 := Vector.length_toList
  have hsrc : esrc.toList.length = 6 := Vector.length_toList
  simp only [SkBuff.setMacs, List.append_assoc]
  constructor
  · exact List.take_left' hdst
  · rw [List.drop_left' hdst]
    exact List.take_left' hsrc

theorem lookUpHcKeyStats_triple {P : HcMachine → Prop} {E : TcAction → HcMachine → Prop}
    (hcKey : Option VipDefinition) : Triple P (lookUpHcKeyStats maps hcKey) (fun _ ↦ P) E := by
  unfold lookUpHcKeyStats
  split
  · exact .pure fun m hm ↦ hm
  · exact .read_bind fun _ _ ↦ .pure fun m hm ↦ hm

theorem hcForward_ends {real : BeAddr} (hreal : hcRealOf maps skb = some real) :
    Triple (fun m ↦ m.hcStatsMap = some stats) (hcForward build maps env skb real)
      (HcEnds build maps skb stats) (HcEnds build maps skb stats) := by
  have hknown : (hcRealOf maps skb).isSome := by rw [hreal, Option.isSome_some]
  by_cases hbig : HcTooBig build maps skb
  · -- the first check of the program
    have hcond : 0 < build.hcMaxPacketSize ∧ build.hcMaxPacketSize < skb.frame.length := hbig.2
    refine .bind (Q := fun _ _ ↦ False) (.when (fun _ ↦ ?_) fun hno ↦ absurd hcond hno)
      fun _ _ hm ↦ hm.elim
    refine .bind (.modify (Q := fun _ m ↦ m.hcStatsMap = some stats.dropped.tooBig) ?_) fun _ ↦
      .exit fun m hm ↦ ⟨hknown, by rw [if_pos hbig, hm]⟩
    intro m hm
    rw [hm]
    rfl
  · have hcond : ¬ (0 < build.hcMaxPacketSize ∧ build.hcMaxPacketSize < skb.frame.length) :=
      fun h ↦ hbig ⟨hknown, h⟩
    have hdrop : ∀ m : HcMachine, m.hcStatsMap = some stats →
        HcEnds build maps skb stats .shot
          { m with hcStatsMap := m.hcStatsMap.map HcStats.dropped } := by
      intro m hm
      exact ⟨hknown, by simp only [if_neg hbig, hm, Option.map_some]⟩
    refine .bind (Q := fun _ m ↦ m.hcStatsMap = some stats)
      (.when (fun h ↦ absurd h hcond) fun _ m hm ↦ hm) fun _ ↦ ?_
    refine .bind (hcRequire_triple hdrop) fun ifindex ↦ .fact fun hifindex ↦ ?_
    refine .bind (hcRequire_triple hdrop) fun esrc ↦ .fact fun hesrc ↦ ?_
    refine .bind (hcRequire_triple hdrop) fun edst ↦ .fact fun hedst ↦ ?_
    refine .bind (hcDropIf_triple hdrop) fun _ ↦ .fact fun hheader ↦ ?_
    refine .bind (.modify (Q := fun _ m ↦ m.hcStatsMap = some stats) fun m hm ↦ hm) fun _ ↦ ?_
    refine .bind (hcRequire_triple hdrop) fun sent ↦ .fact fun hsent ↦ ?_
    obtain ⟨hmark, hheaders⟩ := hcEncap_encapsulated esrc edst rfl hsent
    have hout : HcSent build maps skb (sent.setMacs esrc edst) real ifindex :=
      { known := hreal
        long := (Nat.le_of_not_lt hheader).trans skb.headlen_le
        fits := hbig
        interface := hifindex
        dstMac := by rw [hedst, setMacs_take.1, Option.map_some]
        srcMac := by rw [hesrc, setMacs_take.2, Option.map_some]
        mark := hmark
        headers := hheaders }
    refine .bind (hcDropIf_triple hdrop) fun _ ↦ .fact fun _ ↦ ?_
    refine .bind (.modify (Q := fun _ m ↦ m.hcStatsMap = some stats ∧
      m.skb = sent.setMacs esrc edst) fun m hm ↦ ⟨hm, rfl⟩) fun _ ↦ ?_
    refine .bind (.modify (Q := fun _ m ↦ m.hcStatsMap = some stats.processed ∧
      m.skb = sent.setMacs esrc edst) fun m hm ↦ ⟨by rw [hm.1]; rfl, hm.2⟩) fun _ ↦ ?_
    exact .bind (lookUpHcKeyStats_triple _) fun _ ↦ .pure fun m hm ↦
      ⟨hm.1, real, hm.2 ▸ hout⟩

/-- Every packet that the program sees is counted as skipped, as dropped or as processed. -/
theorem healthcheckEncap_ends :
    Triple (fun m ↦ m.skb = skb ∧ m.hcStatsMap = some stats) (healthcheckEncap build maps env)
      (HcEnds build maps skb stats) (HcEnds build maps skb stats) := by
  have hskip (hnone : hcRealOf maps skb = none) :
      Triple (fun m ↦ m.skb = skb ∧ m.hcStatsMap = some stats) hcSkip
        (HcEnds build maps skb stats) (HcEnds build maps skb stats) := by
    refine .bind (.modify (Q := fun _ m ↦ m.skb = skb ∧ m.hcStatsMap = some stats.skipped) ?_)
      fun _ ↦ .exit fun m hm ↦ ⟨hnone, hm⟩
    intro m hm
    exact ⟨hm.1, by rw [hm.2]; rfl⟩
  refine .read_bind fun m hm ↦ .exitIf_bind (fun hnone ↦ ?_) fun _ ↦ .read_bind fun m hm ↦ ?_
  · rw [hm.2] at hnone
    cases hnone
  · rw [hm.1]
    refine .ite (fun hmark ↦ hskip (if_pos hmark)) fun hmark ↦ ?_
    cases hreal : maps.hcRealsMap skb.mark with
    | none => exact hskip ((if_neg hmark).trans hreal)
    | some real =>
      exact (hcForward_ends ((if_neg hmark).trans hreal)).conseq (fun _ h ↦ h.2)
        (fun _ _ h ↦ h) fun _ _ h ↦ h

end Packet

/-! ## Headers that are right -/

section WellFormed

variable {gue outerIpv6 : Bool} {addr : BitVec 128} {inner outer : Frame}

theorem HcEncapsulated.length (h : HcEncapsulated gue outerIpv6 addr inner outer)
    (hlong : ethhdrSize ≤ inner.length) (hshort : inner.length ≤ 65521) :
    outer.ipLength outerIpv6 = Frame.ipHeaderSize outerIpv6 +
      ((if gue then udphdrSize else 0) + (inner.length - ethhdrSize)) := by
  have hfourteen : (14 : BitVec 16) = BitVec.ofNat 16 ethhdrSize := rfl
  have hpacket : (BitVec.ofNat 16 inner.length - 14).toNat = inner.length - ethhdrSize := by
    rw [hfourteen, BitVec.toNat_sub_of_le]
    · rw [BitVec.toNat_ofNat, BitVec.toNat_ofNat, Nat.mod_eq_of_lt (by omega),
        Nat.mod_eq_of_lt (by decide)]
    · rw [BitVec.le_def, BitVec.toNat_ofNat, BitVec.toNat_ofNat, Nat.mod_eq_of_lt (by decide),
        Nat.mod_eq_of_lt (by omega)]
      exact hlong
  have hfits : inner.length - ethhdrSize + 28 < 2 ^ 16 := by
    simp only [ethhdrSize]
    omega
  have hudp : ((if gue then 8 else 0 : BitVec 16)).toNat = if gue then udphdrSize else 0 := by
    cases gue <;> rfl
  have hip : ((if outerIpv6 then 0 else 20 : BitVec 16)).toNat = if outerIpv6 then 0 else 20 := by
    cases outerIpv6 <;> rfl
  have hfield := congrArg BitVec.toNat h.lengthField
  rw [BitVec.toNat_add, BitVec.toNat_add, hpacket, hudp, hip] at hfield
  unfold Frame.ipLength
  rw [hfield]
  simp only [Frame.ipHeaderSize, ipv6hdrSize, iphdrSize, udphdrSize]
  split_ifs <;> omega

end WellFormed

/-! ## A packet that meets the program again -/

/-- The passes of a packet, each with the maps and answers that it finds, until it is dropped. -/
def hcTrip (build : HcBuild) : List (HcMaps × HcEnv) → HcMachine → List TcAction × HcMachine
  | [], m => ([], m)
  | (maps, env) :: passes, m =>
    let (action, m) := (healthcheckEncap build maps env).result m
    if action = .shot then
      ([action], m)
    else
      let (actions, m) := hcTrip build passes m
      (action :: actions, m)

/-- What can become of a packet on its way. -/
inductive HcFate (build : HcBuild) (passes : List (HcMaps × HcEnv)) (skb : SkBuff) :
    List TcAction → SkBuff → Prop where
  | unchanged (n : ℕ) : HcFate build passes skb (List.replicate n .unspec) skb
  | dropped (n : ℕ) (left : SkBuff) :
    HcFate build passes skb (List.replicate n .unspec ++ [.shot]) left
  | sent (before after : ℕ) {maps : HcMaps} {env : HcEnv} (hmaps : (maps, env) ∈ passes)
    {left : SkBuff} {real : BeAddr} {ifindex : BitVec 32}
    (hsent : HcSent build maps skb left real ifindex) :
    HcFate build passes skb
      (List.replicate before .unspec ++ .redirect ifindex :: List.replicate after .unspec) left

section Trip

variable {build : HcBuild} {m : HcMachine}

theorem HcEnds.stats_isSome {maps : HcMaps} {skb : SkBuff} {stats : HcStats} {action : TcAction}
    (h : HcEnds build maps skb stats action m) : m.hcStatsMap.isSome := by
  cases action with
  | unspec => rw [h.2.2, Option.isSome_some]
  | shot => rw [h.2, Option.isSome_some]
  | redirect ifindex => rw [h.1, Option.isSome_some]

/-- A packet without a mark passes as it is. -/
theorem hcTrip_unmarked (passes : List (HcMaps × HcEnv)) (hstats : m.hcStatsMap.isSome)
    (hmark : m.skb.mark = 0) :
    ∃ n, (hcTrip build passes m).1 = List.replicate n .unspec ∧
      (hcTrip build passes m).2.skb = m.skb := by
  induction passes generalizing m with
  | nil => exact ⟨0, rfl, rfl⟩
  | cons pass passes ih =>
    obtain ⟨maps, env⟩ := pass
    obtain ⟨stats, hsome⟩ := Option.isSome_iff_exists.mp hstats
    have hends := (@healthcheckEncap_ends build maps env m.skb stats).result ⟨rfl, hsome⟩
    have hnone : hcRealOf maps m.skb = none := if_pos hmark
    rw [hcTrip]
    generalize (healthcheckEncap build maps env).result m = ended at hends ⊢
    obtain ⟨action, m'⟩ := ended
    have hstats' := hends.stats_isSome
    cases action with
    | unspec =>
      have hskb : m'.skb = m.skb := hends.2.1
      obtain ⟨n, hactions, hrest⟩ := ih hstats' (hskb ▸ hmark)
      refine ⟨n + 1, ?_, hrest.trans hskb⟩
      simp [hactions, List.replicate_succ]
    | shot =>
      have hreal := hends.1
      rw [hnone] at hreal
      cases hreal
    | redirect ifindex =>
      obtain ⟨-, real, hsent⟩ := hends
      have hreal := hsent.known
      rw [hnone] at hreal
      cases hreal

/-- However often a packet meets the program, and whatever is in the maps each time: it passes until
it is dropped, or until it is encapsulated, after which nothing changes it any more. -/
theorem hcTrip_fate (passes : List (HcMaps × HcEnv)) (hstats : m.hcStatsMap.isSome) :
    HcFate build passes m.skb (hcTrip build passes m).1 (hcTrip build passes m).2.skb := by
  induction passes generalizing m with
  | nil => exact .unchanged 0
  | cons pass passes ih =>
    obtain ⟨maps, env⟩ := pass
    obtain ⟨stats, hsome⟩ := Option.isSome_iff_exists.mp hstats
    have hends := (@healthcheckEncap_ends build maps env m.skb stats).result ⟨rfl, hsome⟩
    rw [hcTrip]
    generalize (healthcheckEncap build maps env).result m = ended at hends ⊢
    obtain ⟨action, m'⟩ := ended
    have hstats' := hends.stats_isSome
    cases action with
    | unspec =>
      have hskb : m'.skb = m.skb := hends.2.1
      have hfate := ih hstats'
      rw [hskb] at hfate
      simp only [reduceCtorEq, if_false]
      generalize (hcTrip build passes m').1 = actions at hfate ⊢
      generalize (hcTrip build passes m').2.skb = left at hfate ⊢
      cases hfate with
      | unchanged n => exact .unchanged (n + 1)
      | dropped n left => exact .dropped (n + 1) left
      | sent before after hmaps hsent =>
        exact .sent (before + 1) after (List.mem_cons_of_mem _ hmaps) hsent
    | shot => exact .dropped 0 m'.skb
    | redirect ifindex =>
      obtain ⟨-, real, hsent⟩ := hends
      obtain ⟨n, hactions, hleft⟩ := @hcTrip_unmarked build m' passes hstats' hsent.mark
      simp only [reduceCtorEq, if_false]
      rw [hactions, hleft]
      exact .sent 0 n List.mem_cons_self hsent

/-- A marked segment that meets the program a second time. -/
theorem marked_ack_fate : HcFate .plain [(.sample, .sample), (.sample, .sample)] (.ack 7)
    [.redirect 2, .unspec]
    (hcTrip .plain [(.sample, .sample), (.sample, .sample)] (.sample 7)).2.skb :=
  @hcTrip_fate .plain (.sample 7) [(.sample, .sample), (.sample, .sample)] rfl

end Trip

end Vsoshlb.DataPlane

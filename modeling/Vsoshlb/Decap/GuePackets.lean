import Vsoshlb.Decap.TcDecap

/-!
# What becomes of the packets at a real

The program changes a packet exactly where it carries another one in GUE headers. What goes up then
is the packet inside, behind the Ethernet header of the one outside. Both programs that write GUE
headers write headers that are taken off again.
-/

namespace Vsoshlb.Decap

open DataPlane EarlyExit

/-! ## Packets -/

/-- The IP header is whole, has no options and is not that of a fragment. -/
structure AcceptedHeader (isIpv6 : Bool) (frame : Frame) : Prop where
  length : ethhdrSize + Frame.ipHeaderSize isIpv6 ≤ frame.length
  options : isIpv6 = false → frame.byte ethhdrSize &&& 0x0F = 5
  fragOff : isIpv6 = false → hasFlag (frame.u16 (ethhdrSize + 6)) 65343 = false
  nexthdr : isIpv6 = true → frame.ipProtocol true ≠ IPPROTO_FRAGMENT

/-- The frame is of the family, and long enough for the program to look at it. -/
structure Reached (isIpv6 : Bool) (frame : Frame) : Prop where
  etherType : frame.etherType = if isIpv6 then BE_ETH_P_IPV6 else BE_ETH_P_IP
  length : hdrLen isIpv6 ≤ frame.length

/-- The frame carries a packet in GUE headers, behind an IP header that the program accepts. -/
structure CarriesGue (isIpv6 : Bool) (frame : Frame) : Prop where
  reached : Reached isIpv6 frame
  header : AcceptedHeader isIpv6 frame
  protocol : frame.ipProtocol isIpv6 = IPPROTO_UDP
  port : frame.udpDest isIpv6 = GUE_DPORT

instance (isIpv6 : Bool) (frame : Frame) : Decidable (AcceptedHeader isIpv6 frame) :=
  decidable_of_iff (_ ∧ _ ∧ _ ∧ _)
    ⟨fun h ↦ ⟨h.1, h.2.1, h.2.2.1, h.2.2.2⟩, fun h ↦ ⟨h.length, h.options, h.fragOff, h.nexthdr⟩⟩

instance (isIpv6 : Bool) (frame : Frame) : Decidable (Reached isIpv6 frame) :=
  decidable_of_iff (_ ∧ _) ⟨fun h ↦ ⟨h.1, h.2⟩, fun h ↦ ⟨h.etherType, h.length⟩⟩

instance (isIpv6 : Bool) (frame : Frame) : Decidable (CarriesGue isIpv6 frame) :=
  decidable_of_iff (_ ∧ _ ∧ _ ∧ _)
    ⟨fun h ↦ ⟨h.1, h.2.1, h.2.2.1, h.2.2.2⟩, fun h ↦ ⟨h.reached, h.header, h.protocol, h.port⟩⟩

/-- The program counts the packet, whatever is inside. -/
def Examined (frame : Frame) : Prop := ∃ isIpv6, Reached isIpv6 frame ∧ AcceptedHeader isIpv6 frame

instance (frame : Frame) : Decidable (Examined frame) := by
  unfold Examined
  infer_instance

/-- The first byte of what is inside says that it is an IPv6 packet. -/
def SaysIpv6 (isIpv6 : Bool) (frame : Frame) : Prop :=
  frame.byte (ethhdrSize + Frame.ipHeaderSize isIpv6 + udphdrSize) &&& GUEV1_IPV6MASK ≠ 0

instance (isIpv6 : Bool) (frame : Frame) : Decidable (SaysIpv6 isIpv6 frame) :=
  inferInstanceAs (Decidable (_ ≠ _))

/-- Only the bytes of the two buffers that are linear differ. -/
structure SamePacket (skb skb' : TcSkb) : Prop where
  frame : skb'.frame = skb.frame
  mark : skb'.mark = skb.mark
  protocol : skb'.protocol = skb.protocol

/-- What was inside of the UDP packet is behind the Ethernet header. -/
structure Unpacked (isIpv6 : Bool) (skb skb' : TcSkb) : Prop where
  frame : skb'.frame = skb.frame.take ethhdrSize ++ skb.frame.udpPayload isIpv6
  mark : skb'.mark = skb.mark
  protocol : skb'.protocol =
    if isIpv6 = true ∧ ¬ SaysIpv6 isIpv6 skb.frame then BE_ETH_P_IP else skb.protocol

/-- What can become of a packet and of the counters. -/
inductive Fate (skb : TcSkb) (stats : DecapStats) : TcAction → TcSkb → DecapStats → Prop where
  | passed {skb' : TcSkb} (hreached : ∀ isIpv6, ¬ Reached isIpv6 skb.frame)
    (hsame : SamePacket skb skb') : Fate skb stats .unspec skb' stats
  | refused {isIpv6 : Bool} {skb' : TcSkb} (hreached : Reached isIpv6 skb.frame)
    (hheader : ¬ AcceptedHeader isIpv6 skb.frame) (hsame : SamePacket skb skb') :
    Fate skb stats .shot skb' stats
  | seen {isIpv6 : Bool} {skb' : TcSkb} (hreached : Reached isIpv6 skb.frame)
    (hheader : AcceptedHeader isIpv6 skb.frame) (hgue : ¬ CarriesGue isIpv6 skb.frame)
    (hsame : SamePacket skb skb') : Fate skb stats .unspec skb' stats.seen
  | unpacked {isIpv6 : Bool} {skb' : TcSkb} (hgue : CarriesGue isIpv6 skb.frame)
    (hunpacked : Unpacked isIpv6 skb skb') :
    Fate skb stats .unspec skb' (stats.seen.decapped isIpv6)

/-- The helpers do what they are asked for. -/
structure DecapEnv.Succeeds (env : DecapEnv) : Prop where
  pullData : env.pullData = true
  changeProto : env.changeProto = true
  adjustRoom : env.adjustRoom = true
  tooShort : env.tooShort = false

/-- The type in an Ethernet header tells the families apart. -/
theorem etherType_injective :
    Function.Injective fun isIpv6 : Bool ↦ if isIpv6 then BE_ETH_P_IPV6 else BE_ETH_P_IP := by
  intro isIpv6 isIpv6' h
  revert h
  cases isIpv6 <;> cases isIpv6' <;> decide

theorem Reached.unique {isIpv6 isIpv6' : Bool} {frame : Frame} (h : Reached isIpv6 frame)
    (h' : Reached isIpv6' frame) : isIpv6 = isIpv6' :=
  etherType_injective (h.etherType.symm.trans h'.etherType)

theorem CarriesGue.iff_eq {isIpv6 isIpv6' : Bool} {frame : Frame} (h : CarriesGue isIpv6 frame) :
    CarriesGue isIpv6' frame ↔ isIpv6' = isIpv6 :=
  ⟨fun h' ↦ h'.reached.unique h.reached, fun hsame ↦ hsame ▸ h⟩

/-- As which family the frame can be taken. -/
theorem CarriesGue.only {isIpv6 : Bool} {frame : Frame} (h : CarriesGue isIpv6 frame) :
    (∀ isIpv6', CarriesGue isIpv6' frame ↔ isIpv6' = isIpv6) ∧
      ∀ isIpv6', Reached isIpv6' frame → AcceptedHeader isIpv6' frame :=
  ⟨fun _ ↦ h.iff_eq, fun _ h' ↦ h.reached.unique h' ▸ h.header⟩

/-! ## The bytes that the program reaches -/

section Reach

variable {frame front : Frame} {n i : ℕ} {isIpv6 : Bool}

theorem byte_take (hi : i < n) : Frame.byte (frame.take n) i = frame.byte i := by
  simp [Frame.byte, List.getD_eq_getElem?_getD, hi]

theorem u16_take (hi : i + 1 < n) : Frame.u16 (frame.take n) i = frame.u16 i := by
  rw [Frame.u16, Frame.u16, byte_take hi, byte_take (Nat.lt_of_succ_lt hi)]

theorem u16_eq_bigEndian : frame.u16 i = bigEndian (frame.be16 i) := by
  unfold Frame.u16 Frame.be16 bigEndian
  rw [BitVec.extractLsb'_append_eq_right, BitVec.extractLsb'_append_eq_left]

theorem ipProtocol_take (hn : ethhdrSize + Frame.ipHeaderSize isIpv6 ≤ n) :
    Frame.ipProtocol (frame.take n) isIpv6 = frame.ipProtocol isIpv6 := by
  cases isIpv6 with
  | false => exact byte_take (lt_of_lt_of_le (by decide) hn)
  | true => exact byte_take (lt_of_lt_of_le (by decide) hn)

theorem acceptedHeader_take (hn : ethhdrSize + Frame.ipHeaderSize isIpv6 ≤ n)
    (hframe : n ≤ frame.length) :
    AcceptedHeader isIpv6 (frame.take n) ↔ AcceptedHeader isIpv6 frame := by
  have hprotocol := @ipProtocol_take frame n isIpv6 hn
  have hlength : (frame.take n).length = n := List.length_take_of_le hframe
  cases isIpv6 with
  | false =>
    have hfirst : Frame.byte (frame.take n) ethhdrSize = frame.byte ethhdrSize :=
      byte_take (lt_of_lt_of_le (by decide) hn)
    have hfragOff : Frame.u16 (frame.take n) (ethhdrSize + 6) = frame.u16 (ethhdrSize + 6) :=
      u16_take (lt_of_lt_of_le (by decide) hn)
    constructor
    · intro h
      exact ⟨hn.trans hframe, hfirst ▸ h.options, hfragOff ▸ h.fragOff, by simp⟩
    · intro h
      exact ⟨hn.trans hlength.ge, hfirst ▸ h.options, hfragOff ▸ h.fragOff, by simp⟩
  | true =>
    constructor
    · intro h
      exact ⟨hn.trans hframe, by simp, by simp, hprotocol ▸ h.nexthdr⟩
    · intro h
      exact ⟨hn.trans hlength.ge, by simp, by simp, hprotocol ▸ h.nexthdr⟩

theorem etherType_append (hfront : front.length = ethhdrSize) (rest : Frame) :
    Frame.etherType (front ++ rest) = front.etherType := by
  have htake : (front ++ rest).take ethhdrSize = front := List.take_left' hfront
  calc
    _ = Frame.u16 ((front ++ rest).take ethhdrSize) 12 := (u16_take (by decide)).symm
    _ = front.etherType := by
      rw [htake]
      rfl

end Reach

/-! ## The parsers -/

section Parsers

variable {frame : Frame} {isIpv6 : Bool} {flow : FlowKey}

/-- `process_l3_headers` accepts what the definition says, and finds the protocol. -/
theorem processL3Headers_eq_some (h : AcceptedHeader isIpv6 frame) :
    ∃ flow', processL3Headers frame ethhdrSize isIpv6 flow = some flow' ∧
      flow'.proto = frame.ipProtocol isIpv6 := by
  cases isIpv6 with
  | false =>
    have hlong : ¬ frame.length < ethhdrSize + iphdrSize := Nat.not_lt.mpr h.length
    simp only [processL3Headers, Bool.false_eq_true, if_false, hlong, h.options rfl,
      h.fragOff rfl, ne_eq, not_true_eq_false]
    exact ⟨_, rfl, rfl⟩
  | true =>
    have hlong : ¬ frame.length < ethhdrSize + ipv6hdrSize := Nat.not_lt.mpr h.length
    have hnexthdr : frame.byte (ethhdrSize + 6) ≠ IPPROTO_FRAGMENT := h.nexthdr rfl
    simp only [processL3Headers, if_true, hlong, hnexthdr, if_false]
    exact ⟨_, rfl, rfl⟩

theorem processL3Headers_eq_none (h : ¬ AcceptedHeader isIpv6 frame) :
    processL3Headers frame ethhdrSize isIpv6 flow = none := by
  by_contra hsome
  apply h
  cases isIpv6 with
  | false =>
    simp only [processL3Headers, Bool.false_eq_true, if_false] at hsome
    split_ifs at hsome with hshort hoptions hfragOff
    · exact absurd rfl hsome
    · exact absurd rfl hsome
    · exact absurd rfl hsome
    · exact ⟨Nat.le_of_not_lt hshort, fun _ ↦ not_ne_iff.mp hoptions,
        fun _ ↦ (Bool.not_eq_true _).mp hfragOff, by simp⟩
  | true =>
    simp only [processL3Headers, if_true] at hsome
    split_ifs at hsome with hshort hnexthdr
    · exact absurd rfl hsome
    · exact absurd rfl hsome
    · exact ⟨Nat.le_of_not_lt hshort, by simp, by simp, fun _ ↦ hnexthdr⟩

/-- The destination port of a packet whose UDP header is all there. -/
theorem parseUdp_dport (hlength : hdrLen isIpv6 ≤ frame.length) :
    ∃ pckt, parseUdp frame isIpv6 ⟨flow, 0, 0, 0⟩ = some pckt ∧
      (pckt.flow.dport = bigEndian GUE_DPORT ↔ frame.udpDest isIpv6 = GUE_DPORT) := by
  have hflags : hasFlag (0 : BitVec 8) F_ICMP = false := rfl
  have hoff : calcOffset isIpv6 false = ethhdrSize + Frame.ipHeaderSize isIpv6 := by
    cases isIpv6 with
    | false => rfl
    | true => rfl
  have hlong : ¬ frame.length < ethhdrSize + Frame.ipHeaderSize isIpv6 + udphdrSize := by
    unfold hdrLen at hlength
    omega
  have hdport : frame.u16 (ethhdrSize + Frame.ipHeaderSize isIpv6 + 2) =
      bigEndian (frame.udpDest isIpv6) := by
    rw [Frame.udpDest, ← Nat.add_assoc, u16_eq_bigEndian]
  simp only [parseUdp, hflags, hoff, hlong, if_false, Option.some.injEq, exists_eq_left', setPorts,
    Bool.false_eq_true, hdport]
  exact bigEndian_injective.eq_iff

end Parsers

/-! ## One packet -/

section Packet

variable {env : DecapEnv} {isIpv6 : Bool} {skb : TcSkb} {stats : DecapStats}

/-- The packet and the counters, with the first `n` bytes of the packet in reach. -/
structure Ready (skb : TcSkb) (stats : DecapStats) (n : ℕ) (m : DecapMachine) : Prop where
  same : SamePacket skb m.skb
  reach : n ≤ m.skb.headlen
  counters : m.decapCounters = some stats

/-- How the program ends. -/
def Ends (skb : TcSkb) (stats : DecapStats) (action : TcAction) (m : DecapMachine) : Prop :=
  ∃ stats', m.decapCounters = some stats' ∧ Fate skb stats action m.skb stats'

theorem Ready.frame_take {m : DecapMachine} {n : ℕ} (h : Ready skb stats n m) :
    m.skb.data = skb.frame.take m.skb.headlen := by rw [TcSkb.data, h.same.frame]

theorem Ready.frame_le {m : DecapMachine} {n : ℕ} (h : Ready skb stats n m) :
    m.skb.headlen ≤ skb.frame.length := h.same.frame ▸ m.skb.headlen_le

theorem pullHeaders_ready (hanswers : env.Succeeds) (n len : ℕ) :
    Triple (Ready skb stats n) (pullHeaders env len)
      (fun _ m ↦ len ≤ skb.frame.length ∧ Ready skb stats len m)
      (fun action m ↦ action = .unspec ∧ skb.frame.length < len ∧ Ready skb stats n m) := by
  refine .read_bind_at fun s hs ↦ ?_
  have hframe := hs.same.frame
  refine .ite (fun hshort ↦ ?_) fun hlong ↦ .pure fun m hm ↦ ?_
  · by_cases hpull : env.pullData = true ∧ len ≤ s.skb.frame.length
    · rw [dif_pos hpull]
      refine .modify fun m hm ↦ ?_
      obtain rfl := hm
      exact ⟨hframe ▸ hpull.2, ⟨hframe, hs.same.mark, hs.same.protocol⟩, le_refl len, hs.counters⟩
    · rw [dif_neg hpull]
      refine .exit fun m hm ↦ ?_
      obtain rfl := hm
      rw [hanswers.pullData, hframe] at hpull
      exact ⟨rfl, Nat.lt_of_not_le fun hle ↦ hpull ⟨rfl, hle⟩, hs⟩
  · obtain rfl := hm
    have hreach := Nat.le_of_not_lt hlong
    exact ⟨hreach.trans hs.frame_le, hs.same, hreach, hs.counters⟩

/-- What a removal behind the Ethernet header leaves. -/
theorem removeHeaders_frame (hlong : ethhdrSize ≤ skb.frame.length) (n k : ℕ) :
    ((skb.removeHeaders n).removeHeaders k).frame = (skb.removeHeaders (n + k)).frame := by
  have hfront : (skb.frame.take ethhdrSize).length = ethhdrSize := List.length_take_of_le hlong
  simp only [TcSkb.removeHeaders]
  rw [List.take_left' hfront, ← List.drop_drop, List.drop_left' hfront, List.drop_drop,
    Nat.add_assoc]

theorem adjustRoom_triple (hanswers : env.Succeeds) {P : DecapMachine → Prop}
    {Q : Unit → DecapMachine → Prop} {E : TcAction → DecapMachine → Prop} {n : ℕ}
    (h : ∀ m, P m → Q () { m with skb := m.skb.removeHeaders n }) :
    Triple P (adjustRoom env n) Q E := by
  have hanswer : ¬ env.adjustRoom = false := by simp [hanswers.adjustRoom]
  exact .exitIf_bind (fun hc ↦ absurd hc hanswer) fun _ ↦ .modify h

theorem processEncapedGuePckt_unpacked (hanswers : env.Succeeds)
    {E : TcAction → DecapMachine → Prop} :
    Triple (Ready skb stats (hdrLen isIpv6)) (processEncapedGuePckt env isIpv6)
      (fun _ m ↦ Unpacked isIpv6 skb m.skb ∧ m.decapCounters = some stats) E := by
  have hanswer : ¬ env.tooShort = true := by simp [hanswers.tooShort]
  cases isIpv6 with
  | false =>
    refine .exitIf_bind (fun hc ↦ absurd hc hanswer) fun _ ↦ ?_
    refine adjustRoom_triple hanswers fun m hm ↦ ?_
    refine ⟨⟨?_, hm.same.mark, hm.same.protocol⟩, hm.counters⟩
    simp only [TcSkb.removeHeaders, hm.same.frame]
    rfl
  | true =>
    refine .exitIf_bind (fun hc ↦ absurd hc hanswer) fun _ ↦ .read_bind_at fun s hs ↦ ?_
    have hframe := hs.same.frame
    have hmarker : s.skb.data.byte (ipv6hdrSize + ethhdrSize + udphdrSize) =
        skb.frame.byte (ethhdrSize + Frame.ipHeaderSize true + udphdrSize) := by
      rw [hs.frame_take]
      exact byte_take hs.reach
    have hlong : ethhdrSize ≤ s.skb.frame.length :=
      le_trans (by decide) (hs.reach.trans s.skb.headlen_le)
    refine .ite (fun hipv6 ↦ ?_) fun hipv4 ↦ ?_
    · refine adjustRoom_triple hanswers fun m hm ↦ ?_
      obtain rfl := hm
      rw [hmarker] at hipv6
      refine ⟨⟨?_, hs.same.mark, ?_⟩, hs.counters⟩
      · simp only [TcSkb.removeHeaders, hframe]
        rfl
      · rw [if_neg fun h ↦ h.2 hipv6]
        exact hs.same.protocol
    · rw [hmarker] at hipv4
      refine .bind (Q := fun _ m ↦ m = { s with skb := s.skb.changeProto })
        (.when (fun _ ↦ .modify fun m hm ↦ by rw [← hm]) fun hno ↦ absurd hanswers.changeProto hno)
        fun _ ↦ adjustRoom_triple hanswers fun m hm ↦ ?_
      obtain rfl := hm
      refine ⟨⟨?_, hs.same.mark, ?_⟩, hs.counters⟩
      · -- the two removals together take off both headers
        apply (removeHeaders_frame hlong (ipv6hdrSize - iphdrSize) (iphdrSize + udphdrSize)).trans
        simp only [TcSkb.removeHeaders, hframe]
        rfl
      · rw [if_pos ⟨rfl, hipv4⟩]
        rfl

/-- The fields that the program reads are those of the frame. -/
theorem carriesGue_iff {n : ℕ} (hreached : Reached isIpv6 skb.frame) (hn : hdrLen isIpv6 ≤ n)
    (hheader : AcceptedHeader isIpv6 skb.frame) :
    CarriesGue isIpv6 skb.frame ↔
      Frame.ipProtocol (skb.frame.take n) isIpv6 = IPPROTO_UDP ∧
        Frame.udpDest (skb.frame.take n) isIpv6 = GUE_DPORT := by
  have hheaders : ethhdrSize + (Frame.ipHeaderSize isIpv6 + udphdrSize) < n := by
    unfold hdrLen at hn
    omega
  have hprotocol : Frame.ipProtocol (skb.frame.take n) isIpv6 = skb.frame.ipProtocol isIpv6 :=
    ipProtocol_take (by omega)
  have hport : Frame.udpDest (skb.frame.take n) isIpv6 = skb.frame.udpDest isIpv6 := by
    unfold udphdrSize at hheaders
    unfold Frame.udpDest Frame.be16
    rw [byte_take (by omega), byte_take (by omega)]
  rw [hprotocol, hport]
  exact ⟨fun h ↦ ⟨h.protocol, h.port⟩, fun h ↦ ⟨hreached, hheader, h.1, h.2⟩⟩

theorem processPacket_ends (hanswers : env.Succeeds) (hreached : Reached isIpv6 skb.frame) :
    Triple (Ready skb stats (hdrLen isIpv6)) (processPacket env isIpv6) (Ends skb stats)
      (Ends skb stats) := by
  refine .read_bind_at fun s hs ↦ ?_
  have hn := hs.reach
  have hlong := hs.frame_le
  have htake := @acceptedHeader_take skb.frame s.skb.headlen isIpv6
    (by unfold hdrLen at hn; omega) hlong
  rw [hs.frame_take]
  by_cases hheader : AcceptedHeader isIpv6 skb.frame
  · obtain ⟨flow, hflow, hproto⟩ := @processL3Headers_eq_some _ isIpv6 ⟨0, 0, 0, 0, 0⟩
      (htake.mpr hheader)
    have hlength : (skb.frame.take s.skb.headlen).length = s.skb.headlen :=
      List.length_take_of_le hlong
    obtain ⟨pckt, hpckt, hdport⟩ := @parseUdp_dport (skb.frame.take s.skb.headlen) isIpv6 flow
      (hlength.symm ▸ hn)
    have hcarries := carriesGue_iff hreached hn hheader
    rw [← hproto, ← hdport] at hcarries
    have hsome : ¬ s.decapCounters.isNone = true := by simp [hs.counters]
    have hends (m : DecapMachine) (hm : Ready skb stats.seen (hdrLen isIpv6) m)
        (hgue : ¬ CarriesGue isIpv6 skb.frame) : Ends skb stats .unspec m :=
      ⟨stats.seen, hm.counters, .seen hreached hheader hgue hm.same⟩
    rw [hflow]
    refine .bind (Q := fun flow' m ↦ flow' = flow ∧ m = s)
      (.orExit (fun flow' h m hm ↦ ⟨(Option.some.inj h).symm, hm.symm⟩) fun h ↦ by cases h)
      fun _ ↦ .fact fun hsame ↦ ?_
    obtain rfl := hsame
    refine .read_bind_at fun m hm ↦ ?_
    obtain rfl := hm
    refine .exitIf_bind (fun h ↦ absurd h hsome) fun _ ↦ ?_
    refine .bind (.modify (Q := fun _ ↦ Ready skb stats.seen (hdrLen isIpv6)) ?_) fun _ ↦ ?_
    · intro m hm
      obtain rfl := hm
      exact ⟨hs.same, hs.reach, by rw [hs.counters]; rfl⟩
    refine .bind (Q := fun _ ↦ Ends skb stats .unspec) (.when (fun hudp ↦ ?_) fun hudp m hm ↦ ?_)
      fun _ ↦ .pure fun m hm ↦ hm
    · rw [hpckt]
      refine .bind (Q := fun pckt' m ↦ pckt' = pckt ∧ Ready skb stats.seen (hdrLen isIpv6) m)
        (.orExit (fun pckt' h m hm ↦ ⟨(Option.some.inj h).symm, hm⟩) fun h ↦ by cases h)
        fun _ ↦ .fact fun hsame ↦ ?_
      obtain rfl := hsame
      refine .when (fun hport ↦ ?_) fun hport m hm ↦ hends m hm fun h ↦ hport (hcarries.mp h).2
      have hgue := hcarries.mpr ⟨hudp, hport⟩
      refine .bind (.modify (Q := fun _ ↦
        Ready skb (stats.seen.decapped isIpv6) (hdrLen isIpv6)) ?_) fun _ ↦ ?_
      · intro m hm
        exact ⟨hm.same, hm.reach, by rw [hm.counters]; rfl⟩
      exact (processEncapedGuePckt_unpacked hanswers).conseq (fun _ h ↦ h)
        (fun _ m h ↦ ⟨_, h.2, .unpacked hgue h.1⟩) fun _ _ h ↦ h
    · exact hends m hm fun h ↦ hudp (hcarries.mp h).1
  · rw [processL3Headers_eq_none fun h ↦ hheader (htake.mp h)]
    refine .bind (Q := fun _ _ ↦ False) (.orExit (fun _ h ↦ by cases h) fun _ m hm ↦ ?_)
      fun _ _ h ↦ h.elim
    obtain rfl := hm
    exact ⟨stats, hs.counters, .refused hreached hheader hs.same⟩

/-- Every packet passes, is refused for its IP header, or is counted, and it loses its headers where
they are GUE headers. -/
theorem tcdecap_ends (hanswers : env.Succeeds) :
    Triple (Ready skb stats ethhdrSize) (tcdecap env) (Ends skb stats) (Ends skb stats) := by
  refine .read_bind_at fun s hs ↦ ?_
  have hlong := hs.frame_le
  have hlength : s.skb.data.length = s.skb.headlen := by
    rw [hs.frame_take]
    exact List.length_take_of_le hlong
  have htype : s.skb.data.etherType = skb.frame.etherType := by
    rw [hs.frame_take]
    exact u16_take (lt_of_lt_of_le (by decide) hs.reach)
  have hshort : ¬ s.skb.data.length < ethhdrSize := by
    rw [hlength]
    exact Nat.not_lt.mpr hs.reach
  -- a packet of one of the two families
  have hfamily (isIpv6 : Bool)
      (h : skb.frame.etherType = if isIpv6 then BE_ETH_P_IPV6 else BE_ETH_P_IP) :
      Triple (Eq s) (do pullHeaders env (hdrLen isIpv6); processPacket env isIpv6) (Ends skb stats)
        (Ends skb stats) := by
    refine .bind (((pullHeaders_ready hanswers ethhdrSize (hdrLen isIpv6)).conseq
      (fun m hm ↦ hm ▸ hs) (fun _ _ h ↦ h) ?_)) fun _ ↦ .fact fun hle ↦
        processPacket_ends hanswers ⟨h, hle⟩
    rintro action m ⟨rfl, hless, hm⟩
    refine ⟨stats, hm.counters, .passed (fun other hother ↦ ?_) hm.same⟩
    have hsame : other = isIpv6 := etherType_injective (hother.etherType.symm.trans h)
    exact absurd hother.length (Nat.not_le.mpr (hsame ▸ hless))
  refine .exitIf_bind (fun h ↦ absurd h hshort) fun _ ↦ ?_
  rw [htype]
  refine .ite (hfamily false) fun hnot4 ↦ .ite (hfamily true) fun hnot6 ↦ .pure fun m hm ↦ ?_
  obtain rfl := hm
  refine ⟨stats, hs.counters, .passed (fun isIpv6 hreached ↦ ?_) hs.same⟩
  cases isIpv6 with
  | false => exact hnot4 hreached.etherType
  | true => exact hnot6 hreached.etherType

end Packet

/-! ## Packets one after the other -/

/-- What the program makes of the packets of a host, and the counters at the end. -/
def receiveAll : List (DecapEnv × TcSkb) → Option DecapStats →
    List (TcAction × TcSkb) × Option DecapStats
  | [], counters => ([], counters)
  | (env, skb) :: packets, counters =>
    let (action, m) := (tcdecap env).result ⟨skb, counters⟩
    let (results, counters) := receiveAll packets m.decapCounters
    ((action, m.skb) :: results, counters)

/-- The counters after the packets. -/
def DecapStats.after (stats : DecapStats) (frames : List Frame) : DecapStats where
  decapV4 := stats.decapV4 + BitVec.ofNat 64 (frames.countP fun frame ↦ CarriesGue false frame)
  decapV6 := stats.decapV6 + BitVec.ofNat 64 (frames.countP fun frame ↦ CarriesGue true frame)
  total := stats.total + BitVec.ofNat 64 (frames.countP fun frame ↦ Examined frame)

section Packets

variable {skb skb' : TcSkb} {stats stats' : DecapStats} {action : TcAction}

theorem CarriesGue.examined {isIpv6 : Bool} {frame : Frame} (h : CarriesGue isIpv6 frame) :
    Examined frame := ⟨isIpv6, h.reached, h.header⟩

/-- The counters count what the definitions say. -/
theorem Fate.stats_eq (h : Fate skb stats action skb' stats') :
    stats' = stats.after [skb.frame] := by
  have hgue {isIpv6 : Bool} (hreached : Reached isIpv6 skb.frame)
      (hno : ¬ CarriesGue isIpv6 skb.frame) (other : Bool) : ¬ CarriesGue other skb.frame :=
    fun h ↦ hno (hreached.unique h.reached ▸ h)
  unfold DecapStats.after
  cases h with
  | passed hreached hsame =>
    have hno (isIpv6 : Bool) : ¬ CarriesGue isIpv6 skb.frame := fun h ↦ hreached isIpv6 h.reached
    have hexamined : ¬ Examined skb.frame := fun ⟨isIpv6, h, _⟩ ↦ hreached isIpv6 h
    simp [hno, hexamined]
  | refused hreached hheader hsame =>
    have hno := hgue hreached fun h ↦ hheader h.header
    have hexamined : ¬ Examined skb.frame :=
      fun ⟨_, h, haccepted⟩ ↦ hheader (hreached.unique h ▸ haccepted)
    simp [hno, hexamined]
  | seen hreached hheader hno hsame =>
    have hexamined : Examined skb.frame := ⟨_, hreached, hheader⟩
    simp [hgue hreached hno, hexamined, DecapStats.seen]
  | @unpacked isIpv6 _ hcarries hunpacked =>
    have hexamined := hcarries.examined
    cases isIpv6 with
    | false =>
      have hno : ¬ CarriesGue true skb.frame :=
        fun h ↦ Bool.false_ne_true (hcarries.reached.unique h.reached)
      simp [hcarries, hno, hexamined, DecapStats.seen, DecapStats.decapped]
    | true =>
      have hno : ¬ CarriesGue false skb.frame :=
        fun h ↦ Bool.false_ne_true (h.reached.unique hcarries.reached)
      simp [hcarries, hno, hexamined, DecapStats.seen, DecapStats.decapped]

/-- A packet in GUE headers goes up unpacked. -/
theorem Fate.unpacked_of_carries {isIpv6 : Bool} (hgue : CarriesGue isIpv6 skb.frame)
    (h : Fate skb stats action skb' stats') : action = .unspec ∧ Unpacked isIpv6 skb skb' := by
  have hreached := hgue.reached
  cases h with
  | passed hno hsame => exact absurd hreached (hno isIpv6)
  | refused hother hheader hsame =>
    exact absurd hgue.header (hother.unique hreached ▸ hheader)
  | seen hother hheader hno hsame => exact absurd hgue (hother.unique hreached ▸ hno)
  | unpacked hother hunpacked =>
    exact ⟨rfl, hother.reached.unique hreached ▸ hunpacked⟩

/-- Any other packet is left as it is. -/
theorem Fate.same_of_not_carries (hno : ∀ isIpv6, ¬ CarriesGue isIpv6 skb.frame)
    (h : Fate skb stats action skb' stats') : SamePacket skb skb' := by
  cases h with
  | passed hreached hsame => exact hsame
  | refused hreached hheader hsame => exact hsame
  | seen hreached hheader hgue hsame => exact hsame
  | unpacked hgue hunpacked => exact absurd hgue (hno _)

/-- It goes up as well, if its header is accepted. -/
theorem Fate.passed_of_accepted (hno : ∀ isIpv6, ¬ CarriesGue isIpv6 skb.frame)
    (haccepted : ∀ isIpv6, Reached isIpv6 skb.frame → AcceptedHeader isIpv6 skb.frame)
    (h : Fate skb stats action skb' stats') : action = .unspec ∧ SamePacket skb skb' := by
  refine ⟨?_, h.same_of_not_carries hno⟩
  cases h with
  | passed hreached hsame => rfl
  | refused hreached hheader hsame => exact absurd (haccepted _ hreached) hheader
  | seen hreached hheader hgue hsame => rfl
  | unpacked hgue hunpacked => rfl

theorem DecapStats.after_append (stats : DecapStats) (frames more : List Frame) :
    (stats.after frames).after more = stats.after (frames ++ more) := by
  simp only [DecapStats.after, List.countP_append, BitVec.ofNat_add, BitVec.add_assoc]

/-- What the program does to one packet, on its own. -/
theorem tcdecap_fate {env : DecapEnv} (hanswers : env.Succeeds) (hlinear : ethhdrSize ≤ skb.headlen)
    (stats : DecapStats) :
    ∃ action m, (tcdecap env).result ⟨skb, some stats⟩ = (action, m) ∧
      m.decapCounters = some (stats.after [skb.frame]) ∧
      Fate skb stats action m.skb (stats.after [skb.frame]) := by
  obtain ⟨stats', hcounters, hfate⟩ := (@tcdecap_ends env skb stats hanswers).result
    (s := ⟨skb, some stats⟩) ⟨⟨rfl, rfl, rfl⟩, hlinear, rfl⟩
  have hstats := hfate.stats_eq
  exact ⟨_, _, rfl, hstats ▸ hcounters, hstats ▸ hfate⟩

/-- The packets go their ways in the order that they came in, and the counters count them. -/
theorem receiveAll_fate {packets : List (DecapEnv × TcSkb)}
    (hpackets : ∀ packet ∈ packets, packet.1.Succeeds ∧ ethhdrSize ≤ packet.2.headlen)
    (stats : DecapStats) :
    (receiveAll packets (some stats)).2 =
        some (stats.after (packets.map fun packet ↦ packet.2.frame)) ∧
      List.Forall₂ (fun packet result ↦ ∃ before after,
        Fate packet.2 before result.1 result.2 after) packets
        (receiveAll packets (some stats)).1 := by
  induction packets generalizing stats with
  | nil => exact ⟨by simp [receiveAll, DecapStats.after], .nil⟩
  | cons packet packets ih =>
    obtain ⟨env, skb⟩ := packet
    obtain ⟨hanswers, hlinear⟩ := hpackets (env, skb) List.mem_cons_self
    obtain ⟨action, m, hresult, hcounters, hfate⟩ := tcdecap_fate hanswers hlinear stats
    obtain ⟨hstats, hresults⟩ := ih (fun packet h ↦ hpackets packet (List.mem_cons_of_mem _ h))
      (stats.after [skb.frame])
    simp only [receiveAll, hresult, hcounters]
    refine ⟨?_, .cons ⟨_, _, hfate⟩ hresults⟩
    rw [hstats, DecapStats.after_append]
    rfl

end Packets

/-- A frame as it comes to a host, with nothing but its Ethernet header in reach. -/
def TcSkb.received (frame : Frame) : TcSkb where
  mark := 0
  frame := frame
  headlen := min ethhdrSize frame.length
  headlen_le := min_le_right _ _
  protocol := frame.etherType

def DecapEnv.sample : DecapEnv := ⟨true, true, true, false⟩

theorem DecapEnv.sample_succeeds : DecapEnv.sample.Succeeds := ⟨rfl, rfl, rfl, rfl⟩

/-- A segment in GUE headers to a real with an IPv4 address. -/
def gueAck : Frame :=
  (gueEncapsulate (fun _ ↦ some (RealDefinition.sample 0)) none true 0 ⟨FlowKey.ack, 0, 0, 0⟩
    (RealDefinition.sample 2) false (Frame.ack.ipLengthField false) Frame.ack).getD []

/-- That frame, and the segment as it is. -/
def gueAckPackets : List (DecapEnv × TcSkb) :=
  [(.sample, .received gueAck), (.sample, .received Frame.ack)]

theorem gueAckPackets_fate :
    (receiveAll gueAckPackets (some ⟨0, 0, 0⟩)).2 =
        some (DecapStats.after ⟨0, 0, 0⟩ [gueAck, Frame.ack]) ∧
      List.Forall₂ (fun packet result ↦ ∃ before after,
        Fate packet.2 before result.1 result.2 after) gueAckPackets
        (receiveAll gueAckPackets (some ⟨0, 0, 0⟩)).1 := by
  apply receiveAll_fate
  intro packet hpacket
  rcases List.mem_pair.mp hpacket with rfl | rfl
  · exact ⟨DecapEnv.sample_succeeds, by decide⟩
  · exact ⟨DecapEnv.sample_succeeds, by decide⟩

example : DecapStats.after ⟨0, 0, 0⟩ [gueAck, Frame.ack] = ⟨1, 0, 2⟩ := by decide

/-! ## GUE headers -/

section Headers

variable {front ipHdr payload : Frame} {udph : Udphdr} {isIpv6 : Bool}

/-- A UDP header after an IP header. -/
theorem udpHeader_fields (hfront : front.length = ethhdrSize)
    (hipHdr : ipHdr.length = Frame.ipHeaderSize isIpv6) (hdest : udph.dest = bigEndian GUE_DPORT)
    (hpayload : payload ≠ []) :
    let frame := front ++ (ipHdr ++ (udph.bytes ++ payload))
    hdrLen isIpv6 ≤ frame.length ∧ frame.udpDest isIpv6 = GUE_DPORT ∧
      frame.udpPayload isIpv6 = payload := by
  have hfronts : (front ++ ipHdr).length = ethhdrSize + Frame.ipHeaderSize isIpv6 := by
    rw [List.length_append, hfront, hipHdr]
  have hheaders : (front ++ (ipHdr ++ udph.bytes)).length =
      ethhdrSize + (Frame.ipHeaderSize isIpv6 + udphdrSize) := by
    rw [← List.append_assoc, List.length_append, hfronts, Nat.add_assoc]
    rfl
  have hframe : front ++ (ipHdr ++ (udph.bytes ++ payload)) =
      front ++ (ipHdr ++ udph.bytes) ++ payload := by
    simp only [List.append_assoc]
  have hpositive := List.length_pos_of_ne_nil hpayload
  refine ⟨?_, ?_, ?_⟩
  · rw [hframe, List.length_append, hheaders]
    unfold hdrLen
    omega
  · rw [Frame.udpDest, ← List.append_assoc, ← Nat.add_assoc, be16_append _ hfronts 2,
      Udphdr.be16_dest, hdest, bigEndian_bigEndian]
  · rw [Frame.udpPayload, hframe]
    exact List.drop_left' hheaders

/-- An IPv4 header, a UDP header and a packet, as both programs write them. -/
theorem carriesGue_v4 (hfront : front.length = ethhdrSize) (htype : front.etherType = BE_ETH_P_IP)
    (tos : BitVec 8) (saddr daddr : BitVec 32) (len : BitVec 16)
    (hdest : udph.dest = bigEndian GUE_DPORT) (hpayload : payload ≠ []) :
    let frame := front ++ ((createV4Hdr tos saddr daddr len IPPROTO_UDP).bytes ++
      (udph.bytes ++ payload))
    CarriesGue false frame ∧ frame.udpPayload false = payload := by
  obtain ⟨hlength, hport, hinside⟩ := @udpHeader_fields front
    (createV4Hdr tos saddr daddr len IPPROTO_UDP).bytes payload udph false hfront rfl hdest hpayload
  obtain ⟨hfirst, hfragOff, hprotocol, -⟩ := iphdr_fields hfront
    (createV4Hdr tos saddr daddr len IPPROTO_UDP) (udph.bytes ++ payload)
  refine ⟨⟨⟨(etherType_append hfront _).trans htype, hlength⟩, ?_, hprotocol, hport⟩, hinside⟩
  exact
    { length := le_trans (by decide) hlength
      options := fun _ ↦ (congrArg (· &&& 0x0F) hfirst).trans (by simp [createV4Hdr])
      fragOff := fun _ ↦
        (congrArg (hasFlag · 65343) hfragOff).trans (by simp [createV4Hdr, hasFlag])
      nexthdr := by simp }

/-- An IPv6 header, a UDP header and a packet. -/
theorem carriesGue_v6 (hfront : front.length = ethhdrSize)
    (htype : front.etherType = BE_ETH_P_IPV6) (tc : BitVec 8) (saddr daddr : BitVec 128)
    (len : BitVec 16) (hdest : udph.dest = bigEndian GUE_DPORT) (hpayload : payload ≠ []) :
    let frame := front ++ ((createV6Hdr tc (bytes128 saddr) (bytes128 daddr) len
      IPPROTO_UDP).bytes ++ (udph.bytes ++ payload))
    CarriesGue true frame ∧ frame.udpPayload true = payload := by
  obtain ⟨hlength, hport, hinside⟩ := @udpHeader_fields front
    (createV6Hdr tc (bytes128 saddr) (bytes128 daddr) len IPPROTO_UDP).bytes payload udph true
    hfront rfl hdest hpayload
  obtain ⟨hprotocol, -⟩ := ipv6hdr_fields hfront
    (createV6Hdr tc (bytes128 saddr) (bytes128 daddr) len IPPROTO_UDP) rfl rfl
    (udph.bytes ++ payload)
  refine ⟨⟨⟨(etherType_append hfront _).trans htype, hlength⟩, ?_, hprotocol, hport⟩, hinside⟩
  exact
    { length := le_trans (by decide) hlength
      options := by simp
      fragOff := by simp
      nexthdr := fun _ h ↦
        absurd (hprotocol.symm.trans h) (by decide : IPPROTO_UDP ≠ IPPROTO_FRAGMENT) }

end Headers

end Vsoshlb.Decap

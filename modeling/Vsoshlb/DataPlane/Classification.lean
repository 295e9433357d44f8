import Vsoshlb.DataPlane.ProcessPacket

/-!
# From the frame to the VIP

Until the program has found the VIP of a packet it writes the description of the packet and its
counters. The pointer to the real and the LRU maps stay as they are, and nothing is asked of the
ring.
-/

namespace Vsoshlb.DataPlane

open EarlyExit

/-- The two states have the same real, the same LRU maps, and the same accesses behind them, and
the same hash if any. -/
def SameRouting (m₀ m : Machine) : Prop :=
  m.dst = m₀.dst ∧ m.lru = m₀.lru ∧ m.accesses = m₀.accesses ∧ m.hash = m₀.hash

theorem SameRouting.refl (m : Machine) : SameRouting m m := ⟨rfl, rfl, rfl, rfl⟩

variable {build : Build} {maps : KernelMaps} {env : Env} {m₀ : Machine}

theorem countOrDrop_sameRouting (key : BitVec 32) (f : LbStats → LbStats) :
    Triple (SameRouting m₀) (countOrDrop key f) (fun _ ↦ SameRouting m₀) (fun _ _ ↦ True) :=
  countOrDrop_triple (fun _ hs ↦ hs) fun _ _ ↦ trivial

theorem sendIcmpReply_sameRouting (frame : Frame) (hdrSize : ℕ) :
    Triple (SameRouting m₀) (sendIcmpReply frame hdrSize) (fun _ ↦ SameRouting m₀)
      (fun _ _ ↦ True) :=
  .exitIf_bind (fun _ _ _ ↦ trivial) fun _ ↦ .exit fun _ _ ↦ trivial

theorem parseIcmpv6_sameRouting :
    Triple (SameRouting m₀) (parseIcmpv6 build env) (fun _ ↦ SameRouting m₀) (fun _ _ ↦ True) := by
  refine .exitIf_bind (fun _ _ _ ↦ trivial) fun _ ↦ ?_
  refine .bind (.when (fun _ ↦ sendIcmpReply_sameRouting _ _) fun _ _ hs ↦ hs) fun _ ↦ ?_
  refine .exitIf_bind (fun _ _ _ ↦ trivial) fun _ ↦ ?_
  refine .bind (.when (fun _ ↦ countOrDrop_sameRouting _ _) fun _ _ hs ↦ hs) fun _ ↦ ?_
  exact .exitIf_bind (fun _ _ _ ↦ trivial) fun _ ↦ .modify fun _ hs ↦ hs

theorem parseIcmp_sameRouting :
    Triple (SameRouting m₀) (parseIcmp build env) (fun _ ↦ SameRouting m₀) (fun _ _ ↦ True) := by
  refine .exitIf_bind (fun _ _ _ ↦ trivial) fun _ ↦ ?_
  refine .bind (.when (fun _ ↦ sendIcmpReply_sameRouting _ _) fun _ _ hs ↦ hs) fun _ ↦ ?_
  refine .exitIf_bind (fun _ _ _ ↦ trivial) fun _ ↦ ?_
  refine .bind (.when (fun _ ↦ countOrDrop_sameRouting _ _) fun _ _ hs ↦ hs) fun _ ↦ ?_
  refine .exitIf_bind (fun _ _ _ ↦ trivial) fun _ ↦ ?_
  exact .exitIf_bind (fun _ _ _ ↦ trivial) fun _ ↦ .modify fun _ hs ↦ hs

theorem handleIfIcmp_sameRouting :
    Triple (SameRouting m₀) (handleIfIcmp build env) (fun _ ↦ SameRouting m₀) (fun _ _ ↦ True) :=
  .ite (fun _ ↦ parseIcmpv6_sameRouting) fun _ ↦ .ite (fun _ ↦ parseIcmp_sameRouting) fun _ ↦
    .pure fun _ hs ↦ hs

/-- Decapsulation ends the program. -/
theorem decapsulate_exits {P : Machine → Prop} :
    Triple P (decapsulate build maps env) (fun _ ↦ P) (fun _ _ ↦ True) := by
  refine .bind (Q := fun _ _ ↦ True) ?_ fun _ ↦ .exit fun _ _ ↦ trivial
  intro s _
  cases checkDecapDst build maps env s with
  | mk outcome t =>
    cases outcome with
    | ok a => trivial
    | error r => trivial

theorem parseL3_sameRouting :
    Triple (SameRouting m₀) (parseL3 env) (fun _ ↦ SameRouting m₀) (fun _ _ ↦ True) := by
  refine .read_bind fun s _ ↦ ?_
  generalize parseL3Headers env.frame env.protocol env.nhOff env.isIpv6 s.pckt = parsed
  obtain ⟨action, pckt⟩ := parsed
  refine .bind (.modify (Q := fun _ ↦ SameRouting m₀) fun _ hs ↦ hs) fun _ ↦ ?_
  cases action with
  | none => exact .pure fun _ hs ↦ hs
  | some action => exact .exit fun _ _ ↦ trivial

theorem parseL4_sameRouting :
    Triple (SameRouting m₀) (parseL4 build maps env) (fun _ ↦ SameRouting m₀) (fun _ _ ↦ True) := by
  refine .read_bind fun _ _ ↦ .ite (fun _ ↦ ?_) fun _ ↦ .ite (fun _ ↦ ?_) fun _ ↦
    .exit fun _ _ ↦ trivial
  · refine .bind (.orExit (Q := fun _ ↦ SameRouting m₀) (fun _ _ _ hs ↦ hs) fun _ _ _ ↦ trivial)
      fun _ ↦ ?_
    exact .modify fun _ hs ↦ hs
  · refine .bind (.orExit (Q := fun _ ↦ SameRouting m₀) (fun _ _ _ hs ↦ hs) fun _ _ _ ↦ trivial)
      fun _ ↦ ?_
    exact .bind (.modify (Q := fun _ ↦ SameRouting m₀) fun _ hs ↦ hs) fun _ ↦
      .when (fun _ ↦ decapsulate_exits) fun _ _ hs ↦ hs

theorem parseHeaders_sameRouting :
    Triple (SameRouting m₀) (parseHeaders build maps env) (fun _ ↦ SameRouting m₀)
      (fun _ _ ↦ True) := by
  refine .bind parseL3_sameRouting fun _ ↦ .bind handleIfIcmp_sameRouting fun _ ↦ ?_
  refine .read_bind fun _ _ ↦ .bind (.when (fun _ ↦ decapsulate_exits) fun _ _ hs ↦ hs) ?_
  exact fun _ ↦ parseL4_sameRouting

/-- The program finds the VIP of a packet without touching what it routes by. -/
theorem classify_sameRouting :
    Triple (SameRouting m₀) (classify build maps env) (fun _ ↦ SameRouting m₀)
      (fun _ _ ↦ True) := by
  refine .bind parseHeaders_sameRouting fun _ ↦ .read_bind fun _ _ ↦ ?_
  refine .bind (.orExit (Q := fun _ ↦ SameRouting m₀) (fun _ _ _ hs ↦ hs) fun _ _ _ ↦ trivial)
    fun found ↦ ?_
  exact .bind (.modify (Q := fun _ ↦ SameRouting m₀) fun _ hs ↦ hs) fun _ ↦ .pure fun _ hs ↦ hs

/-- A packet whose headers parse goes to the VIP of its flow. -/
theorem classify_of_parseHeaders {m t : Machine} {vip : VipDefinition} {vipInfo : VipMeta}
    {matched : FlowKey} (hparse : parseHeaders build maps env m = (.ok (), t))
    (hvip : findVip maps env.isIpv6 t.pckt.flow = some (vip, vipInfo, matched)) :
    classify build maps env m = (.ok (vip, vipInfo), { t with pckt.flow := matched }) := by
  have hlookup : lookupVip maps env t = (.ok (vip, vipInfo), { t with pckt.flow := matched }) := by
    simp only [lookupVip, Prog.bind_apply, Prog.read, Prog.orExit, hvip, Prog.pure_apply,
      Prog.modify]
  rw [classify, Prog.bind_apply, hparse]
  exact hlookup

/-! ## The addresses of a client -/

/-- Sixteen bytes that hold an IPv4 address. -/
def IsIpv4 (addr : BitVec 128) : Prop := setIpv4Part 0 (ipv4Part addr) = addr

theorem ipv4Part_setIpv4Part (addr : BitVec 128) (ipv4 : BitVec 32) :
    ipv4Part (setIpv4Part addr ipv4) = ipv4 := by
  rw [ipv4Part, setIpv4Part, BitVec.extractLsb'_append_eq_left]

theorem isIpv4_setIpv4Part (ipv4 : BitVec 32) : IsIpv4 (setIpv4Part 0 ipv4) := by
  rw [IsIpv4, ipv4Part_setIpv4Part]

theorem isIpv4_zero : IsIpv4 0 := by
  rw [IsIpv4]
  decide

/-- The addresses of an IPv4 packet are IPv4 addresses, if they are its own and no quotation's. -/
def OwnAddresses (env : Env) (m : Machine) : Prop :=
  hasFlag m.pckt.flags F_ICMP = false → env.isIpv6 = false →
    IsIpv4 m.pckt.flow.src ∧ IsIpv4 m.pckt.flow.dst

theorem hasFlag_or_self (flags : BitVec 8) : hasFlag (flags ||| F_ICMP) F_ICMP = true := by
  revert flags
  decide

theorem hasFlag_or_syn (flags : BitVec 8) :
    hasFlag (flags ||| F_SYN_SET) F_ICMP = hasFlag flags F_ICMP := by
  revert flags
  decide

theorem countOrDrop_ownAddresses (key : BitVec 32) (f : LbStats → LbStats) :
    Triple (OwnAddresses env) (countOrDrop key f) (fun _ ↦ OwnAddresses env) (fun _ _ ↦ True) :=
  countOrDrop_triple (fun _ hs ↦ hs) fun _ _ ↦ trivial

theorem sendIcmpReply_ownAddresses (frame : Frame) (hdrSize : ℕ) :
    Triple (OwnAddresses env) (sendIcmpReply frame hdrSize) (fun _ ↦ OwnAddresses env)
      (fun _ _ ↦ True) :=
  .exitIf_bind (fun _ _ _ ↦ trivial) fun _ ↦ .exit fun _ _ ↦ trivial

/-- The quotation of an ICMP error comes with its flag. -/
theorem handleIfIcmp_ownAddresses :
    Triple (OwnAddresses env) (handleIfIcmp build env) (fun _ ↦ OwnAddresses env)
      (fun _ _ ↦ True) := by
  refine .ite (fun _ ↦ ?_) fun _ ↦ .ite (fun _ ↦ ?_) fun _ ↦ .pure fun _ hs ↦ hs
  · refine .exitIf_bind (fun _ _ _ ↦ trivial) fun _ ↦ ?_
    refine .bind (.when (fun _ ↦ sendIcmpReply_ownAddresses _ _) fun _ _ hs ↦ hs) fun _ ↦ ?_
    refine .exitIf_bind (fun _ _ _ ↦ trivial) fun _ ↦ ?_
    refine .bind (.when (fun _ ↦ countOrDrop_ownAddresses _ _) fun _ _ hs ↦ hs) fun _ ↦ ?_
    refine .exitIf_bind (fun _ _ _ ↦ trivial) fun _ ↦ .modify fun m _ hnoIcmp ↦ ?_
    rw [hasFlag_or_self] at hnoIcmp
    cases hnoIcmp
  · refine .exitIf_bind (fun _ _ _ ↦ trivial) fun _ ↦ ?_
    refine .bind (.when (fun _ ↦ sendIcmpReply_ownAddresses _ _) fun _ _ hs ↦ hs) fun _ ↦ ?_
    refine .exitIf_bind (fun _ _ _ ↦ trivial) fun _ ↦ ?_
    refine .bind (.when (fun _ ↦ countOrDrop_ownAddresses _ _) fun _ _ hs ↦ hs) fun _ ↦ ?_
    refine .exitIf_bind (fun _ _ _ ↦ trivial) fun _ ↦ ?_
    refine .exitIf_bind (fun _ _ _ ↦ trivial) fun _ ↦ .modify fun m _ hnoIcmp ↦ ?_
    rw [hasFlag_or_self] at hnoIcmp
    cases hnoIcmp

/-- The header of an IPv4 packet fills four of the sixteen bytes, and the others are zero before. -/
theorem parseL3Headers_isIpv4 {frame : Frame} {protocol : BitVec 8} {nhOff : ℕ}
    {pckt : PacketDescription} (hpckt : pckt.flow.src = 0 ∧ pckt.flow.dst = 0) :
    IsIpv4 (parseL3Headers frame protocol nhOff false pckt).2.flow.src ∧
      IsIpv4 (parseL3Headers frame protocol nhOff false pckt).2.flow.dst := by
  have hzero : IsIpv4 pckt.flow.src ∧ IsIpv4 pckt.flow.dst := by
    rw [hpckt.1, hpckt.2]
    exact ⟨isIpv4_zero, isIpv4_zero⟩
  simp only [parseL3Headers, if_neg Bool.false_ne_true]
  split_ifs
  · exact hzero
  · exact hzero
  · exact hzero
  · exact hzero
  · rw [hpckt.1, hpckt.2]
    exact ⟨isIpv4_setIpv4Part _, isIpv4_setIpv4Part _⟩

theorem parseL3_ownAddresses :
    Triple (fun m ↦ m.pckt.flow.src = 0 ∧ m.pckt.flow.dst = 0) (parseL3 env)
      (fun _ ↦ OwnAddresses env) (fun _ _ ↦ True) := by
  refine .read_bind fun s hs ↦ ?_
  have hparsed : env.isIpv6 = false →
      IsIpv4 (parseL3Headers env.frame env.protocol env.nhOff env.isIpv6 s.pckt).2.flow.src ∧
        IsIpv4 (parseL3Headers env.frame env.protocol env.nhOff env.isIpv6 s.pckt).2.flow.dst := by
    intro hfamily
    rw [hfamily]
    exact parseL3Headers_isIpv4 hs
  generalize parseL3Headers env.frame env.protocol env.nhOff env.isIpv6 s.pckt = parsed
    at hparsed ⊢
  obtain ⟨action, pckt⟩ := parsed
  refine .bind (.modify (Q := fun _ ↦ OwnAddresses env) fun _ _ _ ↦ hparsed) fun _ ↦ ?_
  cases action with
  | none => exact .pure fun _ hs ↦ hs
  | some action => exact .exit fun _ _ ↦ trivial

/-- The ports do not change the addresses, nor whether the packet is a quotation. -/
theorem ownAddresses_of_ports {m m' : Machine} (h : OwnAddresses env m)
    (hicmp : hasFlag m'.pckt.flags F_ICMP = hasFlag m.pckt.flags F_ICMP)
    (hsrc : m'.pckt.flow.src = m.pckt.flow.src) (hdst : m'.pckt.flow.dst = m.pckt.flow.dst) :
    OwnAddresses env m' := by
  intro hnoIcmp hfamily
  rw [hsrc, hdst]
  exact h (hicmp ▸ hnoIcmp) hfamily

theorem setPorts_kept (source dest : BitVec 16) (pckt : PacketDescription) :
    (setPorts source dest pckt).flags = pckt.flags ∧
      (setPorts source dest pckt).flow.src = pckt.flow.src ∧
      (setPorts source dest pckt).flow.dst = pckt.flow.dst ∧
      (setPorts source dest pckt).flow.proto = pckt.flow.proto := by
  unfold setPorts
  split_ifs
  · exact ⟨rfl, rfl, rfl, rfl⟩
  · exact ⟨rfl, rfl, rfl, rfl⟩

/-- Behind the offset of the header `parse_udp` does nothing but set the ports. -/
theorem parseUdp_eq {frame : Frame} {isIpv6 : Bool} {pckt pckt' : PacketDescription}
    (h : parseUdp frame isIpv6 pckt = some pckt') :
    pckt' = setPorts (frame.u16 (calcOffset isIpv6 (hasFlag pckt.flags F_ICMP)))
      (frame.u16 (calcOffset isIpv6 (hasFlag pckt.flags F_ICMP) + 2)) pckt := by
  unfold parseUdp at h
  dsimp only at h
  split_ifs at h
  exact (Option.some.inj h).symm

/-- `parse_tcp` may set the flag of a SYN as well. -/
theorem parseTcp_eq {frame : Frame} {isIpv6 : Bool} {pckt pckt' : PacketDescription}
    (h : parseTcp frame isIpv6 pckt = some pckt') :
    ∃ flags, hasFlag flags F_ICMP = hasFlag pckt.flags F_ICMP ∧
      pckt' = setPorts (frame.u16 (calcOffset isIpv6 (hasFlag pckt.flags F_ICMP)))
        (frame.u16 (calcOffset isIpv6 (hasFlag pckt.flags F_ICMP) + 2))
        { pckt with flags := flags } := by
  unfold parseTcp at h
  dsimp only at h
  rw [if_neg fun hshort ↦ by rw [if_pos hshort] at h; cases h] at h
  obtain rfl := Option.some.inj h
  split_ifs
  · exact ⟨pckt.flags ||| F_SYN_SET, hasFlag_or_syn _, rfl⟩
  · exact ⟨pckt.flags, rfl, rfl⟩

theorem parseUdp_kept {frame : Frame} {isIpv6 : Bool} {pckt pckt' : PacketDescription}
    (h : parseUdp frame isIpv6 pckt = some pckt') :
    hasFlag pckt'.flags F_ICMP = hasFlag pckt.flags F_ICMP ∧ pckt'.flow.src = pckt.flow.src ∧
      pckt'.flow.dst = pckt.flow.dst ∧ pckt'.flow.proto = pckt.flow.proto := by
  rw [parseUdp_eq h]
  obtain ⟨hflags, hkept⟩ := setPorts_kept
    (frame.u16 (calcOffset isIpv6 (hasFlag pckt.flags F_ICMP)))
    (frame.u16 (calcOffset isIpv6 (hasFlag pckt.flags F_ICMP) + 2)) pckt
  exact ⟨by rw [hflags], hkept⟩

theorem parseTcp_kept {frame : Frame} {isIpv6 : Bool} {pckt pckt' : PacketDescription}
    (h : parseTcp frame isIpv6 pckt = some pckt') :
    hasFlag pckt'.flags F_ICMP = hasFlag pckt.flags F_ICMP ∧ pckt'.flow.src = pckt.flow.src ∧
      pckt'.flow.dst = pckt.flow.dst ∧ pckt'.flow.proto = pckt.flow.proto := by
  obtain ⟨flags, hicmp, rfl⟩ := parseTcp_eq h
  obtain ⟨hflags, hkept⟩ := setPorts_kept
    (frame.u16 (calcOffset isIpv6 (hasFlag pckt.flags F_ICMP)))
    (frame.u16 (calcOffset isIpv6 (hasFlag pckt.flags F_ICMP) + 2)) { pckt with flags := flags }
  exact ⟨by rw [hflags, hicmp], hkept⟩

theorem parseHeaders_ownAddresses :
    Triple (fun m ↦ m.pckt.flow.src = 0 ∧ m.pckt.flow.dst = 0) (parseHeaders build maps env)
      (fun _ ↦ OwnAddresses env) (fun _ _ ↦ True) := by
  refine .bind parseL3_ownAddresses fun _ ↦ .bind handleIfIcmp_ownAddresses fun _ ↦ ?_
  refine .read_bind fun _ _ ↦ .bind (.when (fun _ ↦ decapsulate_exits) fun _ _ hs ↦ hs) fun _ ↦ ?_
  refine .read_bind fun s hs ↦ .ite (fun _ ↦ ?_) fun _ ↦ .ite (fun _ ↦ ?_) fun _ ↦
    .exit fun _ _ ↦ trivial
  · refine .bind (.orExit (Q := fun pckt _ ↦ parseTcp env.frame env.isIpv6 s.pckt = some pckt)
      (fun _ hpckt _ _ ↦ hpckt) fun _ _ _ ↦ trivial) fun pckt ↦ .modify fun _ hpckt ↦ ?_
    obtain ⟨hicmp, hsrc, hdst, -⟩ := parseTcp_kept hpckt
    exact ownAddresses_of_ports hs hicmp hsrc hdst
  · refine .bind (.orExit (Q := fun pckt _ ↦ parseUdp env.frame env.isIpv6 s.pckt = some pckt)
      (fun _ hpckt _ _ ↦ hpckt) fun _ _ _ ↦ trivial) fun pckt ↦ ?_
    refine .bind (.modify (Q := fun _ ↦ OwnAddresses env) fun _ hpckt ↦ ?_) fun _ ↦
      .when (fun _ ↦ decapsulate_exits) fun _ _ hs ↦ hs
    obtain ⟨hicmp, hsrc, hdst, -⟩ := parseUdp_kept hpckt
    exact ownAddresses_of_ports hs hicmp hsrc hdst

/-- The addresses of an IPv4 packet that is no ICMP error fill four bytes each. -/
theorem isIpv4_of_parseHeaders {m t : Machine}
    (hparse : parseHeaders build maps env m.start = (.ok (), t))
    (hclient : hasFlag t.pckt.flags F_ICMP = false) (hfamily : env.isIpv6 = false) :
    IsIpv4 t.pckt.flow.src ∧ IsIpv4 t.pckt.flow.dst :=
  parseHeaders_ownAddresses.ok ⟨rfl, rfl⟩ hparse hclient hfamily

/-- Packets of other protocols go to the stack of the host. -/
theorem proto_of_parseHeaders {m t : Machine}
    (hparse : parseHeaders build maps env m = (.ok (), t)) :
    t.pckt.flow.proto = IPPROTO_TCP ∨ t.pckt.flow.proto = IPPROTO_UDP := by
  let Known (m : Machine) : Prop :=
    m.pckt.flow.proto = IPPROTO_TCP ∨ m.pckt.flow.proto = IPPROTO_UDP
  have htriple : Triple (fun _ ↦ True) (parseHeaders build maps env) (fun _ ↦ Known)
      (fun _ _ ↦ True) := by
    refine .bind (Q := fun _ _ ↦ True) (fun s _ ↦ ?_) fun _ ↦
      .bind (Q := fun _ _ ↦ True) (fun s _ ↦ ?_) fun _ ↦ .read_bind fun _ _ ↦
      .bind (.when (fun _ ↦ decapsulate_exits) fun _ _ hs ↦ hs) fun _ ↦ .read_bind fun s _ ↦ ?_
    · split
      · trivial
      · trivial
    · split
      · trivial
      · trivial
    · refine .ite (fun htcp ↦ ?_) fun _ ↦ .ite (fun hudp ↦ ?_) fun _ ↦ .exit fun _ _ ↦ trivial
      · refine .bind (.orExit (Q := fun pckt _ ↦ parseTcp env.frame env.isIpv6 s.pckt = some pckt)
          (fun _ hpckt _ _ ↦ hpckt) fun _ _ _ ↦ trivial) fun pckt ↦ .modify fun _ hpckt ↦ ?_
        exact Or.inl ((parseTcp_kept hpckt).2.2.2.trans htcp)
      · refine .bind (.orExit (Q := fun pckt _ ↦ parseUdp env.frame env.isIpv6 s.pckt = some pckt)
          (fun _ hpckt _ _ ↦ hpckt) fun _ _ _ ↦ trivial) fun pckt ↦ ?_
        refine .bind (.modify (Q := fun _ ↦ Known) fun _ hpckt ↦ ?_) fun _ ↦
          .when (fun _ ↦ decapsulate_exits) fun _ _ hs ↦ hs
        exact Or.inr ((parseUdp_kept hpckt).2.2.2.trans hudp)
  exact htriple.ok trivial hparse

/-! ## The VIP of a flow -/

/-- A flow goes to the VIP of its port, or to the VIP that takes every port. -/
theorem findVip_cases {isIpv6 : Bool} {flow matched : FlowKey} {vip : VipDefinition}
    {vipInfo : VipMeta} (h : findVip maps isIpv6 flow = some (vip, vipInfo, matched)) :
    (maps.vipMap (vipDefinition isIpv6 flow)).isSome ∧ vip = vipDefinition isIpv6 flow ∧
        matched = flow ∨
      maps.vipMap (vipDefinition isIpv6 flow) = none ∧ flow.dport ≠ 0 ∧
        vip = { vipDefinition isIpv6 flow with port := 0 } ∧
        matched =
          if hasFlag vipInfo.flags F_HASH_DPORT_ONLY = false ∧
              hasFlag vipInfo.flags F_HASH_SRC_DST_PORT = false then { flow with dport := 0 }
          else flow := by
  unfold findVip at h
  dsimp only at h
  cases hown : maps.vipMap (vipDefinition isIpv6 flow) with
  | some info =>
    rw [hown] at h
    simp only [Option.some.injEq, Prod.mk.injEq] at h
    exact Or.inl ⟨rfl, h.1.symm, h.2.2.symm⟩
  | none =>
    rw [hown] at h
    dsimp only at h
    right
    cases hwild : maps.vipMap { vipDefinition isIpv6 flow with port := 0 } with
    | none =>
      rw [hwild] at h
      cases h
    | some info =>
      have hport : flow.dport ≠ 0 := by
        intro hzero
        rw [← hzero, show flow.dport = (vipDefinition isIpv6 flow).port from rfl, hown] at hwild
        cases hwild
      rw [hwild] at h
      dsimp only at h
      split at h
      · rename_i hflags
        simp only [Option.some.injEq, Prod.mk.injEq] at h
        obtain ⟨rfl, rfl, rfl⟩ := h
        exact ⟨rfl, hport, rfl, (if_pos hflags).symm⟩
      · rename_i hflags
        simp only [Option.some.injEq, Prod.mk.injEq] at h
        obtain ⟨rfl, rfl, rfl⟩ := h
        exact ⟨rfl, hport, rfl, (if_neg hflags).symm⟩

end Vsoshlb.DataPlane

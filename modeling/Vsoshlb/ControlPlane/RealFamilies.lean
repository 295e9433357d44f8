import Vsoshlb.ControlPlane.Calls
import Vsoshlb.ControlPlane.StoredKeys
import Vsoshlb.DataPlane.Encap

/-!
# The family of a real and that of its packets

The control plane marks the entry of an IPv6 real with a flag, and the flag decides how a packet is
encapsulated. Nothing keeps `modifyRealsForVip` from adding an IPv4 real to an IPv6 service, and the
packets of such a pair leave with a header that calls them IPv4 packets and is too short for them.
-/

namespace Vsoshlb

open DataPlane

/-- The calls that build up services. -/
def Op.ConfiguresService : Op → Prop
  | .addVip .. | .modifyRealsForVip .. => True
  | _ => False

/-- What `updateRealsMap` writes for a real. -/
def realDefinition (real : IPAddress) (flags : BitVec 8) : BeAddr :=
  { parseAddrToBe real with flags := (parseAddrToBe real).flags ||| flags &&& ~~~V6DADDR }

/-- An entry of `reals`: none has been written, or that of a real. -/
def RealsEncoded (maps : BpfMaps) : Prop :=
  ∀ num, maps.reals num = ⟨0, 0⟩ ∨
    ∃ real flags, real ≠ .unspec ∧ maps.reals num = realDefinition real flags

/-- The flag of an entry is the family of its real. -/
theorem hasFlag_realDefinition {real : IPAddress} (hreal : real ≠ .unspec) (flags : BitVec 8) :
    hasFlag (realDefinition real flags).flags F_IPV6 = true ↔ ∃ addr, real = .v6 addr := by
  cases real with
  | unspec => exact absurd rfl hreal
  | v4 addr =>
    have hflags : ∀ flags, hasFlag ((0 : BitVec 8) ||| flags &&& ~~~V6DADDR) F_IPV6 = false := by
      decide
    have hentry : hasFlag (realDefinition (.v4 addr) flags).flags F_IPV6 = false := hflags flags
    simp [hentry]
  | v6 addr =>
    have hflags : ∀ flags, hasFlag (V6DADDR ||| flags &&& ~~~V6DADDR) F_IPV6 = true := by
      decide
    have hentry : hasFlag (realDefinition (.v6 addr) flags).flags F_IPV6 = true := hflags flags
    simp [hentry]

theorem RealsEncoded.ipv6_iff {maps : BpfMaps} (h : RealsEncoded maps) (num : ℕ) :
    hasFlag (maps.reals num).flags F_IPV6 = true ↔
      ∃ addr flags, maps.reals num = realDefinition (.v6 addr) flags := by
  constructor
  · intro hflag
    rcases h num with hzero | ⟨real, flags, hreal, hentry⟩
    · rw [hzero] at hflag
      exact absurd hflag (by decide)
    · rw [hentry, hasFlag_realDefinition hreal] at hflag
      obtain ⟨addr, rfl⟩ := hflag
      exact ⟨addr, flags, hentry⟩
  · rintro ⟨addr, flags, hentry⟩
    rw [hentry]
    exact (hasFlag_realDefinition (by simp) flags).mpr ⟨addr, rfl⟩

/-! ## One call -/

variable {folly : Folly} {config : Config} {chash : HashFunction → ConsistentHash} {s : State}

theorem RealsEncoded.bpfCall (h : RealsEncoded s.maps) {write : BpfMaps → BpfMaps}
    (hwrite : RealsEncoded (write s.maps)) : RealsEncoded (s.bpfCall write).2.maps := by
  rw [State.bpfCall_maps]
  split_ifs
  · exact hwrite
  · exact h

theorem updateRealsMap_encoded (h : RealsEncoded s.maps) {real : IPAddress} (hreal : real ≠ .unspec)
    (num : ℕ) (flags : BitVec 8) : RealsEncoded (updateRealsMap real num flags s).2.maps := by
  refine h.bpfCall fun num' ↦ ?_
  by_cases hnum : num' = num
  · subst hnum
    exact Or.inr ⟨real, flags, hreal, Function.update_self ..⟩
  · dsimp only
    rw [Function.update_of_ne hnum]
    exact h num'

theorem increaseRefCountForReal_encoded (h : RealsEncoded s.maps) {real : IPAddress}
    (hreal : real ≠ .unspec) (flags : BitVec 8) :
    RealsEncoded (increaseRefCountForReal config real flags s).2.maps := by
  unfold increaseRefCountForReal
  dsimp only
  split
  · exact h
  · split
    · exact h
    · dsimp only
      split_ifs
      · exact h
      · apply updateRealsMap_encoded _ hreal
        exact h

theorem realsLoop_encoded (action : ModifyAction) (reals : List NewReal) (acc : Batch × State)
    (h : RealsEncoded acc.2.maps) :
    RealsEncoded (realsLoop folly config action reals acc).2.maps := by
  refine realsLoop_invariant (I := fun s ↦ RealsEncoded s.maps) (fun s hs ↦ hs)
    (fun raddr flags s hraddr hs ↦ increaseRefCountForReal_encoded hs hraddr flags)
    (fun raddr s hs ↦ ?_) action reals h
  rw [decreaseRefCountForReal_maps]
  exact hs

theorem programHashRing_encoded (h : RealsEncoded s.maps) (u : Unspecified)
    (positions : List RealPos) (vipNum : ℕ) :
    RealsEncoded (programHashRing config u positions vipNum s).maps := by
  unfold programHashRing
  split_ifs
  · exact h
  · exact h
  · exact h.bpfCall h

theorem addVip_encoded (h : RealsEncoded s.maps) (vip : VipKey) (flags : BitVec 32) :
    RealsEncoded (addVip folly config vip flags s).2.maps := by
  rcases @addVip_cases folly config vip flags s with
    ⟨-, s', hcall, rfl | rfl⟩ | ⟨-, vipNum, vipNums, vipDef, taken, -, -, rfl, hcall⟩
  · rw [hcall]
    exact h
  · rw [hcall]
    exact h
  · rw [hcall]
    dsimp only
    split_ifs
    · exact h
    · apply RealsEncoded.bpfCall
      · exact h
      · exact h

theorem modifyRealsForVip_encoded (h : RealsEncoded s.maps) {u : Unspecified}
    {action : ModifyAction} {reals : List NewReal} {vip : VipKey} {reply : Bool × State}
    (hcall : modifyRealsForVip folly config chash u action reals vip s = some reply) :
    RealsEncoded reply.2.maps := by
  rcases modifyRealsForVip_cases hcall with
    rfl | ⟨v, batch, looped, positions, w, -, hloop, -, rfl⟩
  · exact h
  · have hlooped := @realsLoop_encoded folly config action reals (⟨v.getReals u.vipReals, []⟩, s) h
    rw [hloop] at hlooped
    refine programHashRing_encoded ?_ u positions w.vipNum
    exact hlooped

theorem step_encoded {s' : State} {call : Call} (hop : call.op.ConfiguresService)
    (hstep : step folly config chash s call = some s') (h : RealsEncoded s.maps) :
    RealsEncoded s'.maps := by
  obtain ⟨op, u⟩ := call
  cases op with
  | addVip vip flags => exact Option.some.inj hstep ▸ addVip_encoded h vip flags
  | modifyRealsForVip action reals vip =>
    obtain ⟨reply, hcall, rfl⟩ := Option.map_eq_some_iff.mp hstep
    exact modifyRealsForVip_encoded h hcall
  | _ => exact hop.elim

theorem run_encoded {mac : List (BitVec 8)} {features : Features} {outcomes : List Bool}
    {calls : List Call} (hcalls : ∀ call ∈ calls, call.op.ConfiguresService)
    (hrun : run folly config chash mac features .empty outcomes calls = some s) :
    RealsEncoded s.maps :=
  Runs.invariant_of_along (fun _ _ _ h hop hstep ↦ step_encoded hop hstep h) (fun _ ↦ Or.inl rfl)
    (Runs.along_of_forall hcalls _) hrun

/-! ## Every packet -/

/-- In the states that calls on services lead to, the header of a packet matches it if and only if
it is an IPv4 packet or its real an IPv6 address. -/
theorem sentFrame_outerMatches_iff {mac : List (BitVec 8)} {features : Features}
    {outcomes : List Bool} {calls : List Call}
    (hcalls : ∀ call ∈ calls, call.op.ConfiguresService)
    (hrun : run folly config chash mac features .empty outcomes calls = some s) {build : Build}
    {maps : KernelMaps}
    (hreals : ∀ key dst, maps.reals key = some dst → dst = s.maps.reals key.toNat)
    {env : Env} (hpktBytes : env.pktBytes = env.frame.ipLengthField env.isIpv6)
    (hmax : build.maxPcktSize ≤ 65529)
    (hsize : ethhdrSize + env.frame.ipLength env.isIpv6 ≤ build.maxPcktSize) {m t : Machine}
    {action : XdpAction} (hprocess : processPacket build maps env m.start = (.ok action, t))
    {outer : Frame} (hsent : sentFrame maps env t = some outer) :
    ∃ dst, t.dst = some dst ∧
      (OuterMatches (hasFlag dst.flags F_IPV6) env.isIpv6 outer env.frame ↔
        env.isIpv6 = false ∨ ∃ addr flags, dst = realDefinition (.v6 addr) flags) := by
  obtain ⟨key, hkey, hdst⟩ := processPacket_selected.ok rfl hprocess
  obtain ⟨dst, hdef⟩ := Option.isSome_iff_exists.mp hkey
  have hselected : t.dst = some dst := hdst.trans hdef
  refine ⟨dst, hselected, ?_⟩
  have hentry : dst = s.maps.reals key.toNat := hreals key dst hdef
  have hfamily := (run_encoded hcalls hrun).ipv6_iff key.toNat
  rw [← hentry] at hfamily
  rw [← hfamily]
  unfold sentFrame at hsent
  rw [hselected] at hsent
  split at hsent
  · rename_i cval real _ hreal
    obtain rfl := Option.some.inj hreal
    exact encapsulate_outerMatches_iff hpktBytes (hsize.trans hmax) hsent
  · cases hsent

/-! ## An IPv6 service -/

/-- A QUIC service at fc00::1 with the given real. -/
def serviceCalls (real : String) : List Call :=
  [(Op.addVip ⟨"fc00::1", 443, IPPROTO_UDP⟩ F_QUIC_VIP).sorted id,
    (Op.modifyRealsForVip .add [⟨real, 1, 0⟩] ⟨"fc00::1", 443, IPPROTO_UDP⟩).sorted id]

theorem serviceCalls_configure (real : String) :
    ∀ call ∈ serviceCalls real, call.op.ConfiguresService := by
  simp [serviceCalls, Op.sorted, Op.ConfiguresService]

/-- The balancer with that service. -/
def serviceState (real : String) : State :=
  (runSample [] (serviceCalls real)).getD (.sample [])

/-- The maps of the balancer as the kernel sees them. -/
def serviceMaps (real : String) : KernelMaps :=
  { KernelMaps.sample 0 with
    vipMap := (serviceState real).maps.vipMap
    reals := fun key ↦
      if key.toNat < 3 then some ((serviceState real).maps.reals key.toNat) else none
    serverIdMap := fun id ↦
      if id.toNat < 0x00fffffe then
        some (BitVec.ofNat 32 ((serviceState real).maps.serverIdMap id.toNat))
      else
        none }

/-- A QUIC packet from fc00::7:40000 to fc00::1:443 whose connection id has server id 1. -/
def quic6Frame : Frame :=
  List.replicate 12 0 ++ [0x86, 0xdd] ++ [0x60, 0, 0, 0, 0, 17, 17, 64] ++
    [0xfc, 0, 0, 0, 0, 0, 0, 0, 0, 0, 0, 0, 0, 0, 0, 7] ++
    [0xfc, 0, 0, 0, 0, 0, 0, 0, 0, 0, 0, 0, 0, 0, 0, 1] ++
    [0x9c, 0x40, 0x01, 0xbb, 0, 17, 0, 0] ++ [0x40, 0x40, 0, 0x40, 0, 0, 0, 0, 0]

def quic6Env : Env where
  frame := quic6Frame
  nhOff := ethhdrSize
  isIpv6 := true
  cpuNum := 0
  now := 1000
  adjustTail := true
  adjustHead := true
  encap := true
  decap := .pass
  protocol := IPPROTO_UDP
  flowProto := IPPROTO_UDP
  thOff := ethhdrSize + ipv6hdrSize
  pktBytes := 17
  key := 5
  curTime := 5

/-- The end of the packet. -/
def servedMachine (real : String) : Machine :=
  (processPacket .plain (serviceMaps real) quic6Env emptyMachine.start).2

/-- The frame that leaves. -/
def servedFrame (real : String) : Frame :=
  (sentFrame (serviceMaps real) quic6Env (servedMachine real)).getD []

theorem serviceState_run {real : String} (h : (runSample [] (serviceCalls real)).isSome) :
    runSample [] (serviceCalls real) = some (serviceState real) := by
  obtain ⟨s, hs⟩ := Option.isSome_iff_exists.mp h
  rw [serviceState, hs, Option.getD_some]

theorem serviceMaps_reals {real : String} {key : BitVec 32} {dst : RealDefinition}
    (h : (serviceMaps real).reals key = some dst) :
    dst = (serviceState real).maps.reals key.toNat := by
  simp only [serviceMaps] at h
  split_ifs at h
  exact (Option.some.inj h).symm

theorem servedFrame_sent {real : String}
    (h : (sentFrame (serviceMaps real) quic6Env (servedMachine real)).isSome) :
    sentFrame (serviceMaps real) quic6Env (servedMachine real) = some (servedFrame real) := by
  obtain ⟨frame, hframe⟩ := Option.isSome_iff_exists.mp h
  rw [servedFrame, hframe, Option.getD_some]

/-- The service with an IPv6 real. -/
theorem served_outerMatches :
    ∃ dst, (servedMachine "a00:1::").dst = some dst ∧
      (OuterMatches (hasFlag dst.flags F_IPV6) true (servedFrame "a00:1::") quic6Frame ↔
        true = false ∨ ∃ addr flags, dst = realDefinition (.v6 addr) flags) :=
  @sentFrame_outerMatches_iff .sample .sample (fun _ ↦ .single) (serviceState "a00:1::") []
    ⟨true, true, true⟩ [] (serviceCalls "a00:1::") (serviceCalls_configure _)
    (serviceState_run (by decide +kernel)) .plain (serviceMaps "a00:1::")
    (fun _ _ h ↦ serviceMaps_reals h) quic6Env (by decide +kernel) (by decide +kernel)
    (by decide +kernel) emptyMachine (servedMachine "a00:1::") .tx
    (Prod.ext (by decide +kernel) rfl) (servedFrame "a00:1::")
    (servedFrame_sent (by decide +kernel))

/-- An IPv4 real is added to the IPv6 service. Its packets of 57 bytes leave as IPv4 packets of 37
bytes in an IPv4 packet. -/
theorem mixed_service_not_outerMatches :
    (∀ call ∈ serviceCalls "10.0.0.2", call.op.ConfiguresService) ∧
      runSample [] (serviceCalls "10.0.0.2") = some (serviceState "10.0.0.2") ∧
      (processPacket .plain (serviceMaps "10.0.0.2") quic6Env emptyMachine.start).1 = .ok .tx ∧
      (servedMachine "10.0.0.2").dst = some (realDefinition (.v4 0x0a000002) 0) ∧
      quic6Frame.ipLength true = 57 ∧
      sentFrame (serviceMaps "10.0.0.2") quic6Env (servedMachine "10.0.0.2") =
        some (servedFrame "10.0.0.2") ∧
      (servedFrame "10.0.0.2").ipProtocol false = IPPROTO_IPIP ∧
      (servedFrame "10.0.0.2").ipLength false = 37 ∧
      ¬ OuterMatches false true (servedFrame "10.0.0.2") quic6Frame := by
  have hprotocol : (servedFrame "10.0.0.2").ipProtocol false = IPPROTO_IPIP := by decide +kernel
  refine ⟨serviceCalls_configure _, serviceState_run (by decide +kernel), by decide +kernel,
    by decide +kernel, by decide +kernel, servedFrame_sent (by decide +kernel), hprotocol,
    by decide +kernel, fun h ↦ ?_⟩
  exact absurd (h.ipip.mp hprotocol) (by decide)

end Vsoshlb

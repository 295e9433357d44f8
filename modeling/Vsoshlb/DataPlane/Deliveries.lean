import Mathlib.Data.BitVec
import Vsoshlb.DataPlane.Forwarding

/-!
# The counters of VIPs and reals

A packet that comes to `deliver` is counted for its VIP and for the index of its real, each time
with its bytes. Nothing else changes these counters.
-/

namespace Vsoshlb.DataPlane

open EarlyExit

/-! ## Sums of counters -/

instance : Zero LbStats := ⟨⟨0, 0⟩⟩

instance : Add LbStats := ⟨fun a b ↦ ⟨a.v1 + b.v1, a.v2 + b.v2⟩⟩

namespace LbStats

variable (a b : LbStats)

@[simp]
theorem zero_v1 : (0 : LbStats).v1 = 0 := rfl

@[simp]
theorem zero_v2 : (0 : LbStats).v2 = 0 := rfl

@[simp]
theorem add_v1 : (a + b).v1 = a.v1 + b.v1 := rfl

@[simp]
theorem add_v2 : (a + b).v2 = a.v2 + b.v2 := rfl

variable {a b} in
theorem ext (hv1 : a.v1 = b.v1) (hv2 : a.v2 = b.v2) : a = b := by
  cases a
  cases b
  congr

instance : AddCommMonoid LbStats where
  add_assoc a b c := ext (add_assoc a.v1 b.v1 c.v1) (add_assoc a.v2 b.v2 c.v2)
  zero_add a := ext (zero_add a.v1) (zero_add a.v2)
  add_zero a := ext (add_zero a.v1) (add_zero a.v2)
  add_comm a b := ext (add_comm a.v1 b.v1) (add_comm a.v2 b.v2)
  nsmul := nsmulRec

end LbStats

/-! ## Packets that are delivered -/

/-- The VIP and the real that a packet is counted for, and its bytes. -/
structure Delivery where
  vipNum : BitVec 32
  realIndex : BitVec 32
  bytes : BitVec 64
deriving DecidableEq, Repr

def Delivery.amount (delivery : Delivery) : LbStats := ⟨1, delivery.bytes⟩

variable (build : Build) (maps : KernelMaps) (env : Env)

/-- What the packet is counted for, if it comes to `deliver` and past its first check. -/
def delivery (m : Machine) : Option Delivery :=
  match classify build maps env m.start with
  | (.error _, _) => none
  | (.ok (vip, vipInfo), t) =>
    match chooseReal build maps env vip vipInfo t with
    | (.error _, _) => none
    | (.ok _, t) =>
      if (maps.ctlArray 0).isSome then
        some ⟨BitVec.ofNat 32 vipInfo.vipNum, t.pckt.realIndex, env.pktBytes.setWidth 64⟩
      else
        none

/-- What a delivery adds to the counters that `p` selects. -/
def amountFor (p : Delivery → Bool) (delivered : Option Delivery) : LbStats :=
  match delivered with
  | some delivery => if p delivery then delivery.amount else 0
  | none => 0

def vipCounters (m : Machine) (num : BitVec 32) : LbStats := (m.stats num).getD 0

def realCounters (m : Machine) (index : BitVec 32) : LbStats := (m.realsStats index).getD 0

/-- The numbers of the VIPs are below their limit. -/
def NumbersFit (build : Build) (maps : KernelMaps) : Prop :=
  ∀ vip vipInfo, maps.vipMap vip = some vipInfo → vipInfo.vipNum < build.maxVips.toNat

variable {build maps env}

/-! ## Before the delivery -/

/-- The counters of VIPs and reals are those of another state. -/
structure SameCounters (build : Build) (m₀ m : Machine) : Prop where
  provisioned : Provisioned build m
  vips : ∀ key : BitVec 32, key.toNat < build.maxVips.toNat → m.stats key = m₀.stats key
  reals : m.realsStats = m₀.realsStats

/-- The counter at an offset is not that of a VIP. -/
theorem ne_add_offset (hfit : build.CountersFit) {key offset : BitVec 32}
    (hkey : key.toNat < build.maxVips.toNat) (hoffset : offset.toNat ≤ lastCounter) :
    key ≠ build.maxVips + offset := by
  rintro rfl
  rw [hfit.toNat_add hoffset] at hkey
  exact absurd hkey (Nat.not_lt.mpr (Nat.le_add_right _ _))

section SameCounters

variable (hfit : build.CountersFit) (m₀ : Machine)

include hfit

theorem sameCounters_uncounted : Uncounted build (SameCounters build m₀) where
  bump f hoffset hm :=
    { provisioned := provisioned_uncounted.bump f hoffset hm.provisioned
      vips := fun key hkey ↦ by
        rw [← hm.vips key hkey]
        exact Function.update_of_ne (ne_add_offset hfit hkey hoffset) _ _
      reals := hm.reals }

theorem sameCounters_unrouting : Unrouting build (SameCounters build m₀) where
  toUncounted := sameCounters_uncounted hfit m₀
  pckt pckt hm := ⟨provisioned_unrouting.pckt pckt hm.provisioned, hm.vips, hm.reals⟩

theorem sameCounters_undelivered : Undelivered build (SameCounters build m₀) where
  toUncounted := sameCounters_uncounted hfit m₀
  quiet hm h :=
    { provisioned := provisioned_undelivered.quiet hm.provisioned h
      vips := by rw [h.stats]; exact hm.vips
      reals := h.realsStats.trans hm.reals }
  quic _ hm := ⟨hm.provisioned.mapQuic _, hm.vips, hm.reals⟩
  tpr hf hm := ⟨provisioned_undelivered.tpr hf hm.provisioned, hm.vips, hm.reals⟩

end SameCounters

theorem findVip_vipMap {isIpv6 : Bool} {flow : FlowKey} {found : VipDefinition × VipMeta × FlowKey}
    (h : findVip maps isIpv6 flow = some found) : maps.vipMap found.1 = some found.2.1 := by
  unfold findVip at h
  dsimp only at h
  cases hown : maps.vipMap (vipDefinition isIpv6 flow) with
  | some info =>
    rw [hown] at h
    obtain rfl := Option.some.inj h
    exact hown
  | none =>
    rw [hown] at h
    dsimp only at h
    cases hwild : maps.vipMap { vipDefinition isIpv6 flow with port := 0 } with
    | none =>
      rw [hwild] at h
      cases h
    | some info =>
      rw [hwild] at h
      dsimp only at h
      split at h
      · obtain rfl := Option.some.inj h
        exact hwild
      · obtain rfl := Option.some.inj h
        exact hwild

/-- The VIP that is found is one of the map. -/
theorem classify_vipMap {m t : Machine} {vip : VipDefinition} {vipInfo : VipMeta}
    (h : classify build maps env m = (.ok (vip, vipInfo), t)) :
    maps.vipMap vip = some vipInfo := by
  have hparsed : Triple (fun _ ↦ True) (parseHeaders build maps env) (fun _ _ ↦ True)
      fun _ _ ↦ True := by
    intro m _
    cases parseHeaders build maps env m with
    | mk outcome t =>
      cases outcome with
      | ok _ => trivial
      | error _ => trivial
  have hfound : Triple (fun _ ↦ True) (classify build maps env)
      (fun found _ ↦ maps.vipMap found.1 = some found.2) fun _ _ ↦ True := by
    refine .bind hparsed fun _ ↦ .read_bind fun m _ ↦ ?_
    refine .bind (.orExit (Q := fun found _ ↦ maps.vipMap found.1 = some found.2.1)
      (fun found hfound _ _ ↦ findVip_vipMap hfound) fun _ _ _ ↦ trivial) fun found ↦ ?_
    exact .bind (.modify (Q := fun _ _ ↦ maps.vipMap found.1 = some found.2.1)
      fun _ hvip ↦ hvip) fun _ ↦ .pure fun _ hvip ↦ hvip
  exact hfound.ok trivial h

/-! ## The delivery -/

/-- The counters after a delivery. -/
structure CountedFor (delivery : Delivery) (t m : Machine) : Prop where
  vips : m.stats = Function.update t.stats delivery.vipNum
    ((t.stats delivery.vipNum).map (· + delivery.amount))
  reals : m.realsStats = Function.update t.realsStats delivery.realIndex
    ((t.realsStats delivery.realIndex).map (· + delivery.amount))
  quicStats : m.quicStats = t.quicStats

theorem addV1_addV2 (bytes : BitVec 64) :
    (fun stats : LbStats ↦ (stats.addV1 1).addV2 bytes) = (· + ⟨1, bytes⟩) := by
  funext stats
  rfl

theorem deliver_counts {vipInfo : VipMeta} {t : Machine} {delivery : Delivery}
    (hvipNum : BitVec.ofNat 32 vipInfo.vipNum = delivery.vipNum)
    (hindex : t.pckt.realIndex = delivery.realIndex)
    (hbytes : env.pktBytes.setWidth 64 = delivery.bytes) (hctl : (maps.ctlArray 0).isSome)
    (hvip : (t.stats delivery.vipNum).isSome) (originalSport : BitVec 16) :
    Triple (Eq t) (deliver build maps env vipInfo originalSport)
      (fun _ ↦ CountedFor delivery t) fun _ ↦ CountedFor delivery t := by
  unfold deliver
  dsimp only
  rw [hvipNum, hbytes, addV1_addV2]
  refine .exitIf_bind (fun hnone ↦ ?_) fun _ ↦ ?_
  · rw [Option.isNone_iff_eq_none.mp hnone] at hctl
    cases hctl
  · refine .bind (Q := fun _ m ↦ m = t.bump delivery.vipNum (· + delivery.amount))
      (.read_bind_at ?_) fun _ ↦ ?_
    · rintro m rfl
      refine .exitIf_bind (fun hnone ↦ ?_) fun _ ↦ .modify ?_
      · rw [Option.isNone_iff_eq_none.mp hnone] at hvip
        cases hvip
      · rintro m rfl
        rfl
    · refine .read_bind fun m hm ↦ .read_bind fun m' hm' ↦ ?_
      have hreal : m.pckt.realIndex = delivery.realIndex := by rw [hm, Machine.bump_pckt, hindex]
      rw [hreal]
      refine .exitIf_bind (fun hnone ↦ ?_) fun _ ↦ ?_
      · -- no counters for the real
        rintro m'' rfl
        rw [hm'] at hnone
        have hmissing : t.realsStats delivery.realIndex = none := Option.isNone_iff_eq_none.mp hnone
        refine ⟨rfl, ?_, rfl⟩
        rw [hmissing, Option.map_none, ← hmissing, Function.update_eq_self]
        rfl
      · refine .bind (.modify (Q := fun _ ↦ CountedFor delivery t) ?_) fun _ ↦ ?_
        · rintro m'' rfl
          exact ⟨rfl, rfl, rfl⟩
        · refine .read_bind fun _ _ ↦ .exitIf_bind (fun _ _ h ↦ h) fun _ ↦ ?_
          exact .bind (.modify (Q := fun _ ↦ CountedFor delivery t) fun _ h ↦ ⟨h.1, h.2, h.3⟩)
            fun _ ↦ .pure fun _ h ↦ h

/-! ## One packet -/

/-- A packet that does not come to `deliver` changes none of the counters, and a packet that does
changes those that it is counted for. -/
theorem processPacket_counts (hfit : build.CountersFit) (hnumbers : NumbersFit build maps)
    {m : Machine} (hm : Provisioned build m) :
    match delivery build maps env m with
    | none => SameCounters build m ((processPacket build maps env).result m.start).2
    | some delivery => delivery.vipNum.toNat < build.maxVips.toNat ∧
        ∃ t, SameCounters build m t ∧
          CountedFor delivery t ((processPacket build maps env).result m.start).2 := by
  have hstart : SameCounters build m m.start :=
    ⟨⟨hm.stats, hm.quicStats⟩, fun _ _ ↦ rfl, rfl⟩
  have hclassified : Keeps (SameCounters build m) (classify build maps env) :=
    (sameCounters_unrouting hfit m).classify
  have hfound := hclassified m.start hstart
  unfold delivery
  cases hclass : classify build maps env m.start with
  | mk outcome t =>
    rw [hclass] at hfound
    cases outcome with
    | error action =>
      have hended : (processPacket build maps env).result m.start = (action, t) := by
        simp only [processPacket, Prog.result, Prog.bind_apply, hclass]
      rw [hended]
      exact hfound
    | ok found =>
      obtain ⟨vip, vipInfo⟩ := found
      have hvip := classify_vipMap hclass
      have hended : (processPacket build maps env).result m.start =
          (chooseReal build maps env vip vipInfo >>= deliver build maps env vipInfo).result t := by
        rw [← balance_eq, processPacket, Prog.result_bind hclass]
      have hkept : Keeps (SameCounters build m) (chooseReal build maps env vip vipInfo) :=
        (sameCounters_undelivered hfit m).chooseReal fun _ _ _ _ _ hm ↦
          ⟨hm.provisioned.mapQuic _, hm.vips, hm.reals⟩
      have hchosen := hkept t hfound
      dsimp only
      rw [hended]
      cases hchoose : chooseReal build maps env vip vipInfo t with
      | mk outcome t' =>
        rw [hchoose] at hchosen
        cases outcome with
        | error action =>
          have hleft : (chooseReal build maps env vip vipInfo >>=
              deliver build maps env vipInfo).result t = (action, t') := by
            simp only [Prog.result, Prog.bind_apply, hchoose]
          rw [hleft]
          exact hchosen
        | ok sport =>
          rw [Prog.result_bind hchoose]
          dsimp only
          by_cases hctl : (maps.ctlArray 0).isSome
          · rw [if_pos hctl]
            have hnum := hnumbers vip vipInfo hvip
            have htoNat : (BitVec.ofNat 32 vipInfo.vipNum).toNat = vipInfo.vipNum := by
              rw [BitVec.toNat_ofNat]
              exact Nat.mod_eq_of_lt (hnum.trans build.maxVips.isLt)
            have hlt : (BitVec.ofNat 32 vipInfo.vipNum).toNat < build.maxVips.toNat := by
              rw [htoNat]
              exact hnum
            have hcounter := hchosen.provisioned.stats _ (le_trans hlt.le (Nat.le_add_right _ _))
            exact ⟨hlt, t', hchosen,
              (deliver_counts rfl rfl rfl hctl hcounter sport).result rfl⟩
          · rw [if_neg hctl]
            have hdropped : Keeps (SameCounters build m) (deliver build maps env vipInfo sport) :=
              Triple.exitIf_bind (fun _ _ h ↦ h) fun hsome ↦
                absurd (Option.isSome_iff_ne_none.mpr (mt Option.isNone_iff_eq_none.mpr hsome)) hctl
            exact hdropped.result hchosen

/-- The packets that are counted are those that get a real, if the balancer has its mac address. -/
theorem delivery_isSome_iff (hfit : build.CountersFit) {m : Machine} (hm : Provisioned build m) :
    (delivery build maps env m).isSome ↔
      (maps.ctlArray 0).isSome ∧ ∃ real, Forwardable build maps env m real := by
  unfold delivery Forwardable
  cases hclass : classify build maps env m.start with
  | mk outcome t =>
    cases outcome with
    | error action =>
      refine iff_of_false (fun h ↦ by cases h) ?_
      rintro ⟨-, real, -, vip, vipInfo, t', hfound, -⟩
      cases hfound
    | ok found =>
      obtain ⟨ht, hnone⟩ := classify_ready hm hclass
      have hreturns := @chooseReal_returns_iff build maps env found.1 found.2 hfit t ht hnone
      dsimp only
      constructor
      · intro hcounted
        cases hchoose : chooseReal build maps env found.1 found.2 t with
        | mk outcome t' =>
          rw [hchoose] at hcounted
          cases outcome with
          | error action => cases hcounted
          | ok sport =>
            obtain ⟨hsize, hrouted⟩ := hreturns.mp ⟨sport, t', hchoose⟩
            obtain ⟨real, hreal⟩ := Option.isSome_iff_exists.mp hrouted.2.2.2.2
            refine ⟨?_, real, hsize, found.1, found.2, t, rfl, hrouted, hreal⟩
            by_contra hctl
            dsimp only at hcounted
            rw [if_neg hctl] at hcounted
            cases hcounted
      · rintro ⟨hctl, real, hsize, vip, vipInfo, t', hfound, hrouted, -⟩
        cases hfound
        obtain ⟨sport, t', hchoose⟩ := hreturns.mpr ⟨hsize, hrouted⟩
        rw [hchoose]
        dsimp only
        rw [if_pos hctl]
        rfl

section Step

variable (hfit : build.CountersFit) (hnumbers : NumbersFit build maps) {m : Machine}
variable (hm : Provisioned build m)

include hfit hnumbers hm

theorem processPacket_provisioned :
    Provisioned build ((processPacket build maps env).result m.start).2 := by
  have hcounts := @processPacket_counts build maps env hfit hnumbers m hm
  cases hdelivery : delivery build maps env m with
  | none =>
    rw [hdelivery] at hcounts
    exact hcounts.provisioned
  | some delivered =>
    rw [hdelivery] at hcounts
    obtain ⟨-, t, ht, hcounted⟩ := hcounts
    refine ⟨fun key hkey ↦ ?_, ?_⟩
    · rw [hcounted.vips, Function.update_apply]
      split_ifs with heq
      · rw [Option.isSome_map, ← heq]
        exact ht.provisioned.stats key hkey
      · exact ht.provisioned.stats key hkey
    · rw [hcounted.quicStats]
      exact ht.provisioned.quicStats

theorem processPacket_realsStats (index : BitVec 32) :
    (((processPacket build maps env).result m.start).2.realsStats index).isSome =
      (m.realsStats index).isSome := by
  have hcounts := @processPacket_counts build maps env hfit hnumbers m hm
  cases hdelivery : delivery build maps env m with
  | none =>
    rw [hdelivery] at hcounts
    rw [hcounts.reals]
  | some delivered =>
    rw [hdelivery] at hcounts
    obtain ⟨-, t, ht, hcounted⟩ := hcounts
    rw [hcounted.reals, Function.update_apply, ← ht.reals]
    split_ifs with heq
    · rw [Option.isSome_map, heq]
    · rfl

/-- The counters of a VIP after a packet. -/
theorem processPacket_vipCounters {num : BitVec 32} (hnum : num.toNat < build.maxVips.toNat) :
    vipCounters ((processPacket build maps env).result m.start).2 num =
      vipCounters m num +
        amountFor (fun delivery ↦ delivery.vipNum = num) (delivery build maps env m) := by
  have hcounts := @processPacket_counts build maps env hfit hnumbers m hm
  obtain ⟨stats, hstats⟩ := Option.isSome_iff_exists.mp
    (hm.stats num (le_trans hnum.le (Nat.le_add_right _ _)))
  cases hdelivery : delivery build maps env m with
  | none =>
    rw [hdelivery] at hcounts
    simp only [vipCounters, amountFor, add_zero, hcounts.vips num hnum]
  | some delivered =>
    rw [hdelivery] at hcounts
    obtain ⟨-, t, ht, hcounted⟩ := hcounts
    by_cases heq : delivered.vipNum = num
    · have hsame : t.stats num = some stats := (ht.vips num hnum).trans hstats
      simp [vipCounters, amountFor, heq, hcounted.vips, hsame, hstats]
    · simp [vipCounters, amountFor, heq, hcounted.vips, Function.update_of_ne (Ne.symm heq),
        ht.vips num hnum]

/-- The counters of a real after a packet. -/
theorem processPacket_realCounters {index : BitVec 32} (hindex : (m.realsStats index).isSome) :
    realCounters ((processPacket build maps env).result m.start).2 index =
      realCounters m index +
        amountFor (fun delivery ↦ delivery.realIndex = index) (delivery build maps env m) := by
  have hcounts := @processPacket_counts build maps env hfit hnumbers m hm
  obtain ⟨stats, hstats⟩ := Option.isSome_iff_exists.mp hindex
  cases hdelivery : delivery build maps env m with
  | none =>
    rw [hdelivery] at hcounts
    simp only [realCounters, amountFor, add_zero, hcounts.reals]
  | some delivered =>
    rw [hdelivery] at hcounts
    obtain ⟨-, t, ht, hcounted⟩ := hcounts
    by_cases heq : delivered.realIndex = index
    · simp [realCounters, amountFor, heq, hcounted.reals, ht.reals, hstats]
    · simp [realCounters, amountFor, heq, hcounted.reals, Function.update_of_ne (Ne.symm heq),
        ht.reals]

end Step

end Vsoshlb.DataPlane

import Vsoshlb.DataPlane.Classification

/-!
# What routing leaves alone

Once the VIP of a packet is known, the program counts, notes positions, and looks up and updates the
LRU maps under the key of the packet. None of this changes the key, so a statement about the key and
about the accesses so far goes through all steps up to `get_packet_dst` as soon as it goes through a
lookup and an update. What `get_packet_dst` makes of it holds to the end of the program.
-/

namespace Vsoshlb.DataPlane

open EarlyExit

/-- The statement is about the key, the hash and the accesses, and goes through every access to an
LRU map under the key. -/
structure StableUnderLookups (P : Machine → Prop) : Prop where
  quiet : ∀ {m m' : Machine}, P m → m'.pckt.flow = m.pckt.flow → m'.hash = m.hash →
    m'.accesses = m.accesses → P m'
  lookup : ∀ {m : Machine} lruMap, P m → P (m.record (.lruLookup lruMap m.pckt.flow))
  update : ∀ {m : Machine} lruMap entry, P m → P (m.updateLru lruMap m.pckt.flow entry)

/-- The statement is about the hash and the accesses alone. -/
def Settled (E : Machine → Prop) : Prop :=
  ∀ m m' : Machine, m'.hash = m.hash → m'.accesses = m.accesses → E m → E m'

section Steps

variable {build : Build} {maps : KernelMaps} {env : Env} {vipInfo : VipMeta}
variable {P E : Machine → Prop}

namespace StableUnderLookups

theorem countOrDrop (hP : StableUnderLookups P) (hE : ∀ m, P m → E m) (key : BitVec 32)
    (f : LbStats → LbStats) :
    Triple P (countOrDrop key f) (fun _ ↦ P) (fun _ ↦ E) :=
  countOrDrop_triple (fun _ hs ↦ hP.quiet hs rfl rfl rfl) hE

theorem findLruMap (hP : StableUnderLookups P) (hE : ∀ m, P m → E m) :
    Triple P (findLruMap build maps env) (fun _ ↦ P) (fun _ ↦ E) :=
  findLruMap_triple (fun _ _ _ hs ↦ hP.quiet hs rfl rfl rfl) hE

theorem countQuic (hP : StableUnderLookups P) (f : QuicPacketsStats → QuicPacketsStats) :
    Triple P (countQuic f) (fun _ ↦ P) (fun _ ↦ E) :=
  .modify fun _ hs ↦ hP.quiet hs rfl rfl rfl

theorem countTpr (hP : StableUnderLookups P) (f : TprPacketsStats → TprPacketsStats) :
    Triple P (countTpr f) (fun _ ↦ P) (fun _ ↦ E) :=
  .modify fun _ hs ↦ hP.quiet hs rfl rfl rfl

/-- The check of a server id against the LRU map goes by the key of the packet. -/
theorem checkAndUpdateRealIndexInLru (hP : StableUnderLookups P) (curTime : BitVec 64)
    (lruMap : LruMap) {m : Machine} (h : P m) :
    P (checkAndUpdateRealIndexInLru build curTime lruMap m).2 := by
  have hlooked := hP.lookup lruMap h
  simp only [DataPlane.checkAndUpdateRealIndexInLru]
  generalize m.record (.lruLookup lruMap m.pckt.flow) = looked at hlooked ⊢
  split
  · split
    · exact hlooked
    · exact hP.quiet hlooked rfl rfl rfl
  · obtain ⟨f, hflood⟩ := @isUnderFlood_snd build curTime looked
    have hcounted : P (isUnderFlood build curTime looked).2 := by
      rw [hflood]
      exact hP.quiet hlooked rfl rfl rfl
    split
    · exact hcounted
    · exact hP.update lruMap _ hcounted

theorem routeByCid (hP : StableUnderLookups P) (hE : ∀ m, P m → E m) (lruMap : LruMap)
    (qpr : QuicParseResult) :
    Triple P (routeByCid build maps env lruMap qpr) (fun _ ↦ P) (fun _ ↦ E) := by
  refine .bind (hP.countQuic _) fun _ ↦ ?_
  refine .ite (fun _ ↦ hP.countQuic _) fun _ ↦ .ite (fun _ ↦ hP.countQuic _) fun _ ↦ ?_
  refine .bind (.modify (Q := fun _ ↦ P) fun _ hs ↦ hP.quiet hs rfl rfl rfl) fun _ ↦ ?_
  refine .bind (.when (Q := fun _ ↦ P) (fun _ ↦ .bind (hP.countQuic _) fun _ ↦ .exit hE)
    fun _ _ hs ↦ hs) fun _ ↦ ?_
  refine .bind (.act (Q := fun _ ↦ P) fun _ ↦
    hP.checkAndUpdateRealIndexInLru env.curTime lruMap) fun _ ↦ ?_
  exact .bind (hP.countQuic _) fun _ ↦ hP.countQuic _

theorem routeQuic (hP : StableUnderLookups P) (hE : ∀ m, P m → E m) (lruMap : LruMap) :
    Triple P (routeQuic build maps env lruMap) (fun _ ↦ P) (fun _ ↦ E) := by
  refine .read_bind fun _ _ ↦ .ite (fun _ ↦ hP.countOrDrop hE _ _) fun _ ↦ ?_
  refine .read_bind fun _ _ ↦ .exitIf_bind (fun _ ↦ hE) fun _ ↦ ?_
  exact .ite (fun _ ↦ hP.routeByCid hE lruMap _) fun _ ↦
    .ite (fun _ ↦ hP.countQuic _) fun _ ↦ hP.countQuic _

theorem processUdpStableRouting (hP : StableUnderLookups P) {m : Machine} (h : P m) :
    P (processUdpStableRouting maps env.frame env.isIpv6 m) := by
  simp only [DataPlane.processUdpStableRouting]
  split
  · exact h
  · split
    · split
      · exact hP.quiet h rfl rfl rfl
      · split
        · exact hP.quiet h rfl rfl rfl
        · exact hP.quiet h rfl rfl rfl
    · exact hP.quiet h rfl rfl rfl

theorem routeByServerId (hP : StableUnderLookups P) (hE : ∀ m, P m → E m) (lruMap : LruMap) :
    Triple P (routeByServerId build maps env vipInfo lruMap) (fun _ ↦ P) (fun _ ↦ E) := by
  refine .bind (.when (fun _ ↦ hP.routeQuic hE lruMap) fun _ _ hs ↦ hs) fun _ ↦ ?_
  exact .read_bind fun _ _ ↦ .when (fun _ ↦ .modify fun _ ↦ hP.processUdpStableRouting)
    fun _ _ hs ↦ hs

theorem routeTcp (hP : StableUnderLookups P) (hE : ∀ m, P m → E m) (lruMap : LruMap) :
    Triple P (routeTcp build maps env vipInfo lruMap) (fun _ ↦ P) (fun _ ↦ E) := by
  refine .read_bind fun _ _ ↦ .when (fun _ ↦ ?_) fun _ _ hs ↦ hs
  refine .read_bind fun _ _ ↦ .exitIf_bind (fun _ ↦ hE) fun _ ↦ ?_
  refine .ite (fun _ ↦ hP.countTpr _) fun _ ↦ ?_
  refine .bind (.act (Q := fun _ ↦ P) fun s hs ↦ ?_) fun _ ↦
    .ite (fun _ ↦ .bind ?_ fun _ ↦ hP.countTpr _) fun _ ↦ hP.countTpr _
  · rw [tcpHdrOptLookup_eq]
    exact hs
  · refine .when (fun _ ↦ .bind (.act (Q := fun _ ↦ P) fun _ ↦
      hP.checkAndUpdateRealIndexInLru env.curTime lruMap) fun _ ↦ ?_) fun _ _ hs ↦ hs
    exact .when (fun _ ↦ hP.countTpr _) fun _ _ hs ↦ hs

theorem connectionTableLookup (hP : StableUnderLookups P) (now : BitVec 64) (lruMap : LruMap)
    (isGlobalLru : Bool) :
    Triple P (Prog.modify (connectionTableLookup build now lruMap isGlobalLru)) (fun _ ↦ P)
      (fun (_ : XdpAction) ↦ E) := by
  refine .modify fun m h ↦ ?_
  have hlooked := hP.lookup lruMap h
  simp only [DataPlane.connectionTableLookup]
  generalize m.record (.lruLookup lruMap m.pckt.flow) = looked at hlooked ⊢
  split
  · exact hlooked
  · split
    · split
      · exact hlooked
      · exact hP.quiet hlooked rfl rfl rfl
    · exact hP.quiet hlooked rfl rfl rfl

theorem performGlobalLruLookup (hP : StableUnderLookups P) (hE : ∀ m, P m → E m)
    (cpuNum : BitVec 32) (now : BitVec 64) :
    Triple P (performGlobalLruLookup build maps cpuNum now) (fun _ ↦ P) (fun _ ↦ E) := by
  have hmap : Triple P (findGlobalLruMap build maps cpuNum) (fun _ ↦ P) (fun _ ↦ E) := by
    unfold findGlobalLruMap
    split
    · exact .pure fun _ hs ↦ hs
    · exact .bind (.modify (Q := fun _ ↦ P) fun _ hs ↦ hP.quiet hs rfl rfl rfl) fun _ ↦
        .pure fun _ hs ↦ hs
  refine .read_bind fun _ _ ↦ .exitIf_bind (fun _ ↦ hE) fun _ ↦ ?_
  refine .bind hmap fun _ ↦ .bind (hP.connectionTableLookup now _ true) fun _ ↦ ?_
  exact .read_bind fun _ _ ↦ .when (fun _ ↦ .modify fun _ hs ↦ hP.quiet hs rfl rfl rfl)
    fun _ _ hs ↦ hs

/-- From `get_packet_dst` on `E` takes the place of `P`. -/
theorem routeByHash (hP : StableUnderLookups P) (hE : ∀ m, P m → E m) (hsettled : Settled E)
    (vip : VipDefinition) (lruMap : LruMap)
    (hdst : ∀ m, P m → E (getPacketDst build maps env.key vipInfo env.isIpv6 lruMap m).2) :
    Triple P (routeByHash build maps env vip vipInfo lruMap) (fun _ ↦ E) (fun _ ↦ E) := by
  have hmiss : Triple E (updateVipLruMissStats vip env.isIpv6) (fun _ ↦ E) (fun _ ↦ E) := by
    refine .read_bind fun _ _ ↦ .bind (.orExit (Q := fun _ ↦ E) (fun _ _ _ hs ↦ hs)
      fun _ _ hs ↦ hs) fun _ ↦ ?_
    refine .bind (.modify (Q := fun _ ↦ E) fun _ ↦ hsettled _ _ rfl rfl) fun _ ↦ ?_
    exact .read_bind fun _ _ ↦ .exitIf (fun _ _ hs ↦ hs) fun _ _ hs ↦ hs
  refine .read_bind fun _ _ ↦ ?_
  refine .bind (.when (fun _ ↦ hP.countOrDrop hE _ _) fun _ _ hs ↦ hs) fun _ ↦ ?_
  refine .bind (.act (Q := fun _ ↦ E) hdst) fun _ ↦ .exitIf_bind (fun _ _ hs ↦ hs) fun _ ↦ ?_
  exact .bind hmiss fun _ ↦ .modify fun _ ↦ hsettled _ _ rfl rfl

theorem selectReal (hP : StableUnderLookups P) (hE : ∀ m, P m → E m) (hsettled : Settled E)
    (vip : VipDefinition) (lruMap : LruMap)
    (hdst : ∀ m, P m → E (getPacketDst build maps env.key vipInfo env.isIpv6 lruMap m).2) :
    Triple P (selectReal build maps env vip vipInfo lruMap) (fun _ ↦ E) (fun _ ↦ E) := by
  refine .bind (.when (fun _ ↦ hP.routeTcp hE lruMap) fun _ _ hs ↦ hs) fun _ ↦ ?_
  refine .read_bind fun _ _ ↦
    .bind (.when (fun _ ↦ hP.connectionTableLookup _ _ _) fun _ _ hs ↦ hs) fun _ ↦ ?_
  refine .read_bind fun _ _ ↦
    .bind (.when (fun _ ↦ hP.performGlobalLruLookup hE _ _) fun _ _ hs ↦ hs) fun _ ↦ ?_
  exact .read_bind fun _ _ ↦ .when (fun _ ↦ hP.routeByHash hE hsettled vip lruMap hdst) fun _ ↦ hE

end StableUnderLookups

theorem Settled.deliver (hsettled : Settled E) (originalSport : BitVec 16) :
    Triple E (deliver build maps env vipInfo originalSport) (fun _ ↦ E) (fun _ ↦ E) := by
  refine .exitIf_bind (fun _ _ hs ↦ hs) fun _ ↦ ?_
  refine .bind (countOrDrop_triple (fun _ ↦ hsettled _ _ rfl rfl) fun _ hs ↦ hs) fun _ ↦ ?_
  refine .read_bind fun _ _ ↦ .read_bind fun _ _ ↦ .exitIf_bind (fun _ _ hs ↦ hs) fun _ ↦ ?_
  refine .bind (.modify (Q := fun _ ↦ E) fun _ ↦ hsettled _ _ rfl rfl) fun _ ↦ ?_
  refine .read_bind fun _ _ ↦ .exitIf_bind (fun _ _ hs ↦ hs) fun _ ↦ ?_
  exact .bind (.modify (Q := fun _ ↦ E) fun _ ↦ hsettled _ _ rfl rfl) fun _ ↦ .pure fun _ hs ↦ hs

/-- A packet with its VIP, from the flow that the VIP left of it to the end of the program. -/
theorem balance_triple (hP : StableUnderLookups P) (hE : ∀ m, P m → E m) (hsettled : Settled E)
    (vip : VipDefinition) {start : Machine → Prop}
    (hbump : ∀ key f m, start m → start (m.bump key f)) (hexit : ∀ m, start m → E m)
    (hstart : ∀ m, start m → P { m with pckt.flow := hideSourcePort vipInfo m.pckt.flow })
    (hdst : ∀ lruMap m, P m →
      E (getPacketDst build maps env.key vipInfo env.isIpv6 lruMap m).2) :
    Triple start (balance build maps env vip vipInfo) (fun _ ↦ E) (fun _ ↦ E) := by
  refine .bind (.when (fun _ ↦ rejectTooBig_triple hbump fun _ ↦ hexit) fun _ _ hs ↦ hs)
    fun _ ↦ ?_
  refine .bind (countOrDrop_triple (hbump _ _) hexit) fun _ ↦ ?_
  refine .bind (.modify (Q := fun _ ↦ P) hstart) fun _ ↦ .bind (hP.findLruMap hE) fun lruMap ↦ ?_
  refine .bind (hP.routeByServerId hE lruMap) fun _ ↦ .read_bind fun _ _ ↦ .read_bind fun _ _ ↦ ?_
  exact .bind (.when (fun _ ↦ hP.selectReal hE hsettled vip lruMap (hdst lruMap)) fun _ ↦ hE)
    fun _ ↦ hsettled.deliver _

end Steps

end Vsoshlb.DataPlane

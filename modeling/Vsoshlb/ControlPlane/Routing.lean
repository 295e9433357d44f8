import Vsoshlb.ControlPlane.Services

/-!
# Calls on routing tables and settings

Source routing rules, the mapping of QUIC server ids, decapsulation and healthcheck destinations,
the mac address of the next hop and the sampling of LRU misses.
-/

namespace Vsoshlb

open HashTable (Walk)

def kError : ℤ := -1

def kMaxQuicIdV2 : ℕ := 0x00fffffe

def kMacAddrPos : ℕ := 0

def kHcDstMacPos : ℕ := 1

def kMacBytes : ℕ := 6

structure QuicReal where
  address : String
  id : ℕ
deriving DecidableEq, Repr

variable (folly : Folly) (config : Config)

/-! ## Source routing -/

/-- `modifyLpmSrcRule`, for the map that `lpmKey` stands for. -/
def modifyLpmSrcRule (action : ModifyAction) (src : CIDRNetwork) (rnum : ℕ) (s : State) :
    Bool × State :=
  s.bpfCall fun maps ↦
    { maps with
      lpmSrc := Function.update maps.lpmSrc (lpmKey src)
        (match action with
        | .add => some rnum
        | .del => none) }

def srcRoutingEnabled (s : State) : Bool := s.features.srcRouting || config.testing

/-- The loop of `addSrcRoutingRule` for a parsed destination. -/
def addSrcNetworks (dst : IPAddress) : List CIDRNetwork → State → ℤ × State
  | [], s => (0, s)
  | src :: srcs, s =>
    if HashTable.size s.tables.lpmSrcMapping + 1 > config.maxLpmSrcSize then
      (kError, s)
    else
      let (rnum, s) := increaseRefCountForReal config dst 0 s
      if rnum = config.maxReals then
        (kError, s)
      else
        let s := { s with tables.lpmSrcMapping := s.tables.lpmSrcMapping.insert src rnum }
        addSrcNetworks dst srcs
          (if config.testing then s else (modifyLpmSrcRule .add src rnum s).2)

/-- `addSrcRoutingRule` on networks. -/
def addSrcRoutingRule (srcs : List CIDRNetwork) (dst : String) (s : State) : ℤ × State :=
  if srcRoutingEnabled config s = false then
    (kError, s)
  else
    match validateHost folly config dst s with
    | (none, s) => (kError, s)
    | (some raddr, s) => addSrcNetworks config raddr srcs s

/-- The loop that collects `src_networks`; `total` is the number of sources given. -/
def collectNetworks (total : ℕ) :
    List String → List CIDRNetwork → ℤ → State → List CIDRNetwork × ℤ × State
  | [], networks, numErrors, s => (networks, numErrors, s)
  | src :: srcs, networks, numErrors, s =>
    match validateAddress folly config src true s with
    | (.network, s) =>
      if HashTable.size s.tables.lpmSrcMapping + networks.length + 1 > config.maxLpmSrcSize then
        (networks, numErrors + (total - networks.length), s)
      else
        collectNetworks total srcs (networks ++ (folly.createNetwork src).toList) numErrors s
    | (_, s) => collectNetworks total srcs networks (numErrors + 1) s

/-- `addSrcRoutingRule` on the texts of networks. -/
def addSrcRoutingRuleText (srcs : List String) (dst : String) (s : State) : ℤ × State :=
  if srcRoutingEnabled config s = false then
    (kError, s)
  else
    match validateHost folly config dst s with
    | (none, s) => (kError, s)
    | (some _, s) =>
      let (networks, numErrors, s) := collectNetworks folly config srcs.length srcs [] 0 s
      let (rval, s) := addSrcRoutingRule folly config networks dst s
      (if rval = kError then rval else numErrors, s)

def delSrcNetwork (s : State) (src : CIDRNetwork) : State :=
  match s.tables.lpmSrcMapping.lookup src with
  | none => s
  | some rnum =>
    let (dst, s) := numToRealsAt rnum s
    let s := decreaseRefCountForReal dst s
    let s := if config.testing then s else (modifyLpmSrcRule .del src rnum s).2
    { s with tables.lpmSrcMapping := s.tables.lpmSrcMapping.erase src }

/-- `delSrcRoutingRule` on networks. -/
def delSrcRoutingRule (srcs : List CIDRNetwork) (s : State) : Bool × State :=
  if srcRoutingEnabled config s = false then
    (false, s)
  else
    (true, srcs.foldl (delSrcNetwork config) s)

/-- `delSrcRoutingRule` on the texts of networks. -/
def delSrcRoutingRuleText (srcs : List String) (s : State) : Bool × State :=
  if srcRoutingEnabled config s = false then
    (false, s)
  else
    delSrcRoutingRule config (srcs.filterMap folly.createNetwork) s

/-- The loop body of `clearAllSrcRoutingRules`. A number without a name is the end of
`numToReals_`, and following it has no result. -/
def clearSrcRule (s : State) (rule : CIDRNetwork × ℕ) : Option State := do
  let dst ← s.tables.numToReals.lookup rule.2
  let s := decreaseRefCountForReal dst s
  return if config.testing then s else (modifyLpmSrcRule .del rule.1 rule.2 s).2

def clearAllSrcRoutingRules (u : Unspecified) (s : State) : Option (Bool × State) :=
  if srcRoutingEnabled config s = false then
    some (false, s)
  else do
    let s ← (u.srcRules.order s.tables.lpmSrcMapping).foldlM (clearSrcRule config) s
    return (true, { s with tables.lpmSrcMapping := ∅ })

/-- `getSrcRoutingRuleCidr`; `getSrcRoutingRule` only formats the networks differently. -/
def getSrcRoutingRuleCidr (u : Unspecified) (s : State) : List (CIDRNetwork × IPAddress) × State :=
  if srcRoutingEnabled config s = false then
    ([], s)
  else
    (u.srcRules.order s.tables.lpmSrcMapping).foldl (fun (acc : _ × State) src ↦
      let (real, s) := numToRealsAt src.2 acc.2
      (acc.1 ++ [(src.1, real)], s)) ([], s)

/-! ## QUIC server ids -/

def delQuicStep (s : State) (real : QuicReal) : State :=
  match validateHost folly config real.address s with
  | (none, s) => s
  | (some raddr, s) =>
    if config.enableCidV3 = false ∧ real.id > kMaxQuicIdV2 then
      s
    else
      match s.tables.quicMapping.lookup real.id with
      | none => s
      | some current =>
        if current ≠ raddr then
          s
        else
          let s := decreaseRefCountForReal raddr s
          { s with tables.quicMapping := s.tables.quicMapping.erase real.id }

/-- The loop body for `ADD` once the address is known to differ from the mapped one. -/
def mapQuicReal (raddr : IPAddress) (id : ℕ) (toUpdate : Finmap fun _ : ℕ ↦ ℕ) (s : State) :
    (Finmap fun _ : ℕ ↦ ℕ) × State :=
  let (rnum, s) := increaseRefCountForReal config raddr 0 s
  if rnum = config.maxReals then
    (toUpdate, s)
  else
    (toUpdate.insert id rnum, { s with
      tables.quicMapping := s.tables.quicMapping.insert id raddr })

def addQuicStep (acc : (Finmap fun _ : ℕ ↦ ℕ) × State) (real : QuicReal) :
    (Finmap fun _ : ℕ ↦ ℕ) × State :=
  let (toUpdate, s) := acc
  match validateHost folly config real.address s with
  | (none, s) => (toUpdate, s)
  | (some raddr, s) =>
    if config.enableCidV3 = false ∧ real.id > kMaxQuicIdV2 then
      (toUpdate, s)
    else
      match s.tables.quicMapping.lookup real.id with
      | none => mapQuicReal config raddr real.id toUpdate s
      | some current =>
        if current = raddr then
          (toUpdate, s)
        else
          mapQuicReal config raddr real.id toUpdate (decreaseRefCountForReal current s)

def updateServerIdMap (s : State) (mapping : ℕ × ℕ) : State :=
  (s.bpfCall fun maps ↦
    { maps with serverIdMap := Function.update maps.serverIdMap mapping.1 mapping.2 }).2

/-- Deletions leave `to_update` empty. -/
def modifyQuicRealsMapping (u : Unspecified) (action : ModifyAction) (reals : List QuicReal)
    (s : State) : State :=
  match action with
  | .del => reals.foldl (delQuicStep folly config) s
  | .add =>
    let (toUpdate, s) := reals.foldl (addQuicStep folly config) (∅, s)
    if config.testing then s else (u.quicUpdates.order toUpdate).foldl updateServerIdMap s

/-- `invalidateServerIds`: the id is deleted from the hash table or set to zero in the array. -/
def invalidateServerIds (serverIds : List ℤ) (s : State) : State :=
  serverIds.foldl (fun s serverId ↦ updateServerIdMap s (uint32 serverId, 0)) s

def revalidateServerIds (quicReals : List QuicReal) (s : State) : State :=
  quicReals.foldl (fun s real ↦
    match getIndexForReal folly config real.address s with
    | (none, s) => s
    | (some realIndex, s) => updateServerIdMap s (real.id, realIndex)) s

/-! ## Decapsulation and healthcheck destinations -/

def modifyDecapDst (action : ModifyAction) (dst : IPAddress) (flags : ℕ) (s : State) :
    Bool × State :=
  s.bpfCall fun maps ↦
    { maps with
      decapDst := Function.update maps.decapDst (parseAddrToBe dst)
        (match action with
        | .add => some flags
        | .del => none) }

def addInlineDecapDst (dst : String) (s : State) : Bool × State :=
  if s.features.inlineDecap = false ∧ config.testing = false then
    (false, s)
  else
    match validateHost folly config dst s with
    | (none, s) => (false, s)
    | (some daddr, s) =>
      if daddr ∈ s.tables.decapDsts then
        (false, s)
      else if s.tables.decapDsts.card + 1 > config.maxDecapDst then
        (false, s)
      else
        let s := { s with tables.decapDsts := insert daddr s.tables.decapDsts }
        (true, if config.testing then s else (modifyDecapDst .add daddr 0 s).2)

def delInlineDecapDst (dst : String) (s : State) : Bool × State :=
  if s.features.inlineDecap = false ∧ config.testing = false then
    (false, s)
  else
    match validateHost folly config dst s with
    | (none, s) => (false, s)
    | (some daddr, s) =>
      if daddr ∈ s.tables.decapDsts then
        let s := { s with tables.decapDsts := s.tables.decapDsts.erase daddr }
        (true, if config.testing then s else (modifyDecapDst .del daddr 0 s).2)
      else
        (false, s)

/-- The update or deletion in `hc_reals_map`, which testing mode leaves out. -/
def setHcReal (somark : ℕ) (addr : Option BeAddr) (s : State) : Bool × State :=
  if config.testing then
    (true, s)
  else
    s.bpfCall fun maps ↦ { maps with hcRealsMap := Function.update maps.hcRealsMap somark addr }

/-- Tunnels based on metadata want an IPv4 address in host order. -/
def hcRealAddr (directHealthchecking : Bool) : IPAddress → BeAddr
  | .v4 addr =>
    if directHealthchecking then parseAddrToBe (.v4 addr) else parseAddrToInt (.v4 addr)
  | hcaddr => parseAddrToBe hcaddr

def addHealthcheckerDst (somark : ℕ) (dst : String) (s : State) : Bool × State :=
  if config.enableHc = false then
    (false, s)
  else
    match validateHost folly config dst s with
    | (none, s) => (false, s)
    | (some hcaddr, s) =>
      if s.tables.hcReals.lookup somark = none ∧
          HashTable.size s.tables.hcReals = config.maxReals then
        (false, s)
      else
        let addr := hcRealAddr s.features.directHealthchecking hcaddr
        let (ok, s) := setHcReal config somark (some addr) s
        if ok then
          (true, { s with tables.hcReals := s.tables.hcReals.insert somark hcaddr })
        else
          (false, s)

def delHealthcheckerDst (somark : ℕ) (s : State) : Bool × State :=
  if config.enableHc = false then
    (false, s)
  else
    match s.tables.hcReals.lookup somark with
    | none => (false, s)
    | some _ =>
      let (ok, s) := setHcReal config somark none s
      if ok then
        (true, { s with tables.hcReals := s.tables.hcReals.erase somark })
      else
        (false, s)

/-! ## The mac address of the next hop -/

def changeMac (newMac : List (BitVec 8)) (s : State) : Bool × State :=
  if newMac.length ≠ kMacBytes then
    (false, s)
  else
    let s := { s with tables.ctlMac := newMac }
    if config.testing then
      (true, s)
    else
      let (ok, s) := s.bpfCall fun maps ↦
        { maps with ctlArray := Function.update maps.ctlArray kMacAddrPos newMac }
      if ok = false then
        (false, s)
      else if s.features.directHealthchecking then
        s.bpfCall fun maps ↦
          { maps with hcPcktMacs := Function.update maps.hcPcktMacs kHcDstMacPos newMac }
      else
        (true, s)

/-! ## Sampling LRU misses -/

/-- `logVipLruMissStats` up to the loop that zeroes the statistics. The text of an address is
replaced by its canonical text first. -/
def logVipLruMissStats (vip : VipKey) (s : State) : Option Bool × State :=
  match validateHost folly config vip.address s with
  | (none, s) => (some false, s)
  | (some address, s) =>
    let vip := { vip with address := folly.str address }
    let s := { s with tables.lruMissStatsVip := some vip }
    match vipKeyToVipDefinition folly vip with
    | none => (none, s)
    | some vipDef =>
      let (ok, s) := s.bpfCall fun maps ↦ { maps with vipMissStats := some vipDef }
      (some ok, s)

/-- The reads of `getVipLruMissStats` from the second table on: every real's counter is looked up in
the map and its name in `numToReals_`, until a lookup fails. -/
def readLruMissStats : List ℕ → State → Option (List IPAddress) × State
  | [], s => (some [], s)
  | num :: nums, s =>
    let (ok, s) := s.bpfCall id
    if ok = false then
      (none, s)
    else
      let (real, s) := numToRealsAt num s
      let (reals, s) := readLruMissStats nums s
      (reals.map (real :: ·), s)

def getVipLruMissStats (u : Unspecified) (vip : VipKey) (s : State) :
    Option (List IPAddress) × State :=
  match validateHost folly config vip.address s with
  | (none, s) => (none, s)
  | (some address, s) =>
    let vip := { vip with address := folly.str address }
    if s.tables.lruMissStatsVip ≠ some vip then
      (none, s)
    else
      match s.tables.vips.lookup vip with
      | none => (none, s)
      | some v => readLruMissStats (v.getReals u.vipReals) s

end Vsoshlb

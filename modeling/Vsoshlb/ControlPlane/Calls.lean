import Vsoshlb.Library.Runs
import Vsoshlb.ControlPlane.Routing

/-!
# Runs of the control plane

A call is an operation with its arguments and with what it leaves to the implementation. The
return value of a call does not matter to the calls after it, so a run only threads the state; a
call that throws leaves a state like any other. `List.foldlM step` is the run of a list of calls.
-/

namespace Vsoshlb

inductive Op where
  | addVip (vip : VipKey) (flags : BitVec 32)
  | delVip (vip : VipKey)
  | modifyVip (vip : VipKey) (flag : BitVec 32) (set : Bool)
  | changeHashFunctionForVip (vip : VipKey) (func : HashFunction)
  | addHcKey (hcKey : VipKey)
  | delHcKey (hcKey : VipKey)
  | modifyReal (real : String) (flags : BitVec 8) (set : Bool)
  | modifyRealsForVip (action : ModifyAction) (reals : List NewReal) (vip : VipKey)
  | getRealsForVip (vip : VipKey)
  | getIndexForReal (real : String)
  | addSrcRoutingRule (srcs : List CIDRNetwork) (dst : String)
  | addSrcRoutingRuleText (srcs : List String) (dst : String)
  | delSrcRoutingRule (srcs : List CIDRNetwork)
  | delSrcRoutingRuleText (srcs : List String)
  | clearAllSrcRoutingRules
  | getSrcRoutingRule
  | modifyQuicRealsMapping (action : ModifyAction) (reals : List QuicReal)
  | invalidateServerIds (serverIds : List ℤ)
  | revalidateServerIds (quicReals : List QuicReal)
  | addInlineDecapDst (dst : String)
  | delInlineDecapDst (dst : String)
  | addHealthcheckerDst (somark : ℕ) (dst : String)
  | delHealthcheckerDst (somark : ℕ)
  | changeMac (newMac : List (BitVec 8))
  | logVipLruMissStats (vip : VipKey)
  | getVipLruMissStats (vip : VipKey)
  | featureDiscovering (features : Features)

structure Call where
  op : Op
  unspecified : Unspecified

variable (folly : Folly) (config : Config) (chash : HashFunction → ConsistentHash)

def step (s : State) (call : Call) : Option State :=
  let u := call.unspecified
  match call.op with
  | .addVip vip flags => some (addVip folly config vip flags s).2
  | .delVip vip => some (delVip folly config u vip s).2
  | .modifyVip vip flag set => some (modifyVip folly config vip flag set s).2
  | .changeHashFunctionForVip vip func =>
    (changeHashFunctionForVip folly config chash u vip func s).map Prod.snd
  | .addHcKey hcKey => some (addHcKey folly config hcKey s).2
  | .delHcKey hcKey => some (delHcKey folly config hcKey s).2
  | .modifyReal real flags set => some (modifyReal folly config real flags set s).2
  | .modifyRealsForVip action reals vip =>
    (modifyRealsForVip folly config chash u action reals vip s).map Prod.snd
  | .getRealsForVip vip => some (getRealsForVip u vip s).2
  | .getIndexForReal real => some (getIndexForReal folly config real s).2
  | .addSrcRoutingRule srcs dst => some (addSrcRoutingRule folly config srcs dst s).2
  | .addSrcRoutingRuleText srcs dst => some (addSrcRoutingRuleText folly config srcs dst s).2
  | .delSrcRoutingRule srcs => some (delSrcRoutingRule config srcs s).2
  | .delSrcRoutingRuleText srcs => some (delSrcRoutingRuleText folly config srcs s).2
  | .clearAllSrcRoutingRules => (clearAllSrcRoutingRules config u s).map Prod.snd
  | .getSrcRoutingRule => some (getSrcRoutingRuleCidr config u s).2
  | .modifyQuicRealsMapping action reals =>
    some (modifyQuicRealsMapping folly config u action reals s)
  | .invalidateServerIds serverIds => some (invalidateServerIds serverIds s)
  | .revalidateServerIds quicReals => some (revalidateServerIds folly config quicReals s)
  | .addInlineDecapDst dst => some (addInlineDecapDst folly config dst s).2
  | .delInlineDecapDst dst => some (delInlineDecapDst folly config dst s).2
  | .addHealthcheckerDst somark dst => some (addHealthcheckerDst folly config somark dst s).2
  | .delHealthcheckerDst somark => some (delHealthcheckerDst config somark s).2
  | .changeMac newMac => some (changeMac config newMac s).2
  | .logVipLruMissStats vip => some (logVipLruMissStats folly config vip s).2
  | .getVipLruMissStats vip => some (getVipLruMissStats folly config u vip s).2
  | .featureDiscovering features => some { s with features := features }

/-- The state after the calls, from a new balancer. -/
def run (mac : List (BitVec 8)) (features : Features) (maps : BpfMaps) (outcomes : List Bool)
    (calls : List Call) : Option State :=
  calls.foldlM (step folly config chash) (State.new config mac features maps outcomes)

/-! ## A small balancer

For runs on fixed inputs: a few addresses, two VIPs, two reals and rings of two slots. -/

def Folly.sample : Folly :=
  .ofTexts
    [("10.0.0.1", .v4 0x0a000001), ("10.0.0.2", .v4 0x0a000002), ("10.0.0.3", .v4 0x0a000003),
      ("fc00::1", .v6 0xfc000000000000000000000000000001),
      ("FC00::1", .v6 0xfc000000000000000000000000000001),
      ("a00:1::", .v6 0x0a000001000000000000000000000000)]

def Config.sample : Config where
  enableHc := true
  testing := false
  enableCidV3 := false
  maxVips := 2
  maxReals := 3
  chRingSize := 2
  maxLpmSrcSize := 2
  maxDecapDst := 1
  hashFunction := .maglev

def State.sample (outcomes : List Bool) : State :=
  .new .sample [] ⟨true, true, true⟩ .empty outcomes

/-- A call whose iterations go by the order of the keys. -/
def Op.sorted (op : Op) (ringKeys : ℕ → ℕ) : Call := ⟨op, .sorted ringKeys⟩

/-- A run of the small balancer. -/
def runSample (outcomes : List Bool) (calls : List Call) : Option State :=
  calls.foldlM (step .sample .sample fun _ ↦ .single) (.sample outcomes)

end Vsoshlb

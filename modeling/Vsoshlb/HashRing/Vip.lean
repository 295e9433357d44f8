import Mathlib.Data.BitVec
import Vsoshlb.Library.HashTable
import Vsoshlb.HashRing.ConsistentHash

/-!
# A VIP and its consistent hashing ring

`Vip.h` and `Vip.cpp`. A `Vip` keeps the weight and hash of each of its reals and the ring computed
from them. Every update answers with the ring slots that changed. `std::unordered_map` iteration
takes its order from a `Walk`; `std::sort` leaves the order of equal hashes open, and a stable sort
of an arbitrary walk covers every outcome.
-/

namespace Vsoshlb

open HashTable (Walk)

structure RealPos where
  real : ℕ
  pos : ℕ
deriving DecidableEq, Repr

inductive ModifyAction where
  | add
  | del
deriving DecidableEq, Repr

structure UpdateReal where
  action : ModifyAction
  updatedReal : Endpoint
deriving DecidableEq, Repr

/-- What a VIP stores about one of its reals. -/
structure VipReal where
  weight : ℕ
  hash : ℕ
deriving DecidableEq, Repr

abbrev VipReals := Finmap fun _ : ℕ ↦ VipReal

structure Vip where
  vipNum : ℕ
  vipFlags : BitVec 32
  chRingSize : ℕ
  reals : VipReals
  chRing : List ℤ
  chash : HashFunction
deriving DecidableEq

def compareEndpoints (a b : Endpoint) : Bool := a.hash < b.hash

/-- `std::sort` with `compareEndpoints`. -/
def sortEndpoints (endpoints : List Endpoint) : List Endpoint :=
  endpoints.insertionSort fun a b ↦ compareEndpoints b a = false

/-- The endpoint of a table entry. -/
def VipReal.endpoint (entry : ℕ × VipReal) : Endpoint :=
  ⟨entry.1, entry.2.weight, entry.2.hash⟩

/-- The loop of `calculateHashRing` from slot `i` on: the differences and the ring it leaves.
A new ring that is too short is read past its end. -/
def diffRings (i : ℕ) : List ℤ → List ℤ → Option (List RealPos × List ℤ)
  | [], _ => some ([], [])
  | _ :: _, [] => none
  | old :: olds, new :: news => do
    let (delta, ring) ← diffRings (i + 1) olds news
    if new ≠ old then
      some (⟨uint32 new, i⟩ :: delta, new :: ring)
    else
      some (delta, old :: ring)

/-- The update loop of `getEndpoints`: the table it leaves and `reals_changed`. Reading
`reals_[num]` creates a zero entry for an unknown number. -/
def applyUpdate (state : VipReals × Bool) (ureal : UpdateReal) : VipReals × Bool :=
  match ureal.action with
  | .del => (state.1.erase ureal.updatedReal.num, true)
  | .add =>
    let cur := (state.1.lookup ureal.updatedReal.num).getD ⟨0, 0⟩
    if cur.weight ≠ ureal.updatedReal.weight then
      (state.1.insert ureal.updatedReal.num
        ⟨ureal.updatedReal.weight, ureal.updatedReal.hash⟩, true)
    else
      (state.1.insert ureal.updatedReal.num cur, state.2)

def applyUpdates (reals : VipReals) (ureals : List UpdateReal) : VipReals × Bool :=
  ureals.foldl applyUpdate (reals, false)

/-- The endpoints of the entries with a weight other than zero. -/
def weightedEndpoints (walk : Walk ℕ VipReal) (reals : VipReals) : List Endpoint :=
  ((walk.order reals).filter fun entry ↦ entry.2.weight ≠ 0).map VipReal.endpoint

namespace Vip

def new (vipNum : ℕ) (vipFlags : BitVec 32) (ringSize : ℕ) (func : HashFunction) : Vip where
  vipNum := vipNum
  vipFlags := vipFlags
  chRingSize := ringSize
  reals := ∅
  chRing := List.replicate ringSize (-1)
  chash := func

def setVipFlags (v : Vip) (flags : BitVec 32) : Vip :=
  { v with vipFlags := v.vipFlags ||| flags }

def unsetVipFlags (v : Vip) (flags : BitVec 32) : Vip :=
  { v with vipFlags := v.vipFlags &&& ~~~flags }

def setHashFunction (v : Vip) (func : HashFunction) : Vip :=
  { v with chash := func }

def getReals (walk : Walk ℕ VipReal) (v : Vip) : List ℕ :=
  (walk.order v.reals).map Prod.fst

def getRealsAndWeight (walk : Walk ℕ VipReal) (v : Vip) : List Endpoint :=
  sortEndpoints ((walk.order v.reals).map VipReal.endpoint)

def getEndpoints (walk : Walk ℕ VipReal) (v : Vip) (ureals : List UpdateReal) :
    List Endpoint × Vip :=
  let (reals, realsChanged) := applyUpdates v.reals ureals
  (if realsChanged then sortEndpoints (weightedEndpoints walk reals) else [],
    { v with reals := reals })

section Ring

variable (chash : HashFunction → ConsistentHash)

def calculateHashRing (v : Vip) (endpoints : List Endpoint) : Option (List RealPos × Vip) := do
  if endpoints.length ≠ 0 then
    let newChRing ← (chash v.chash).generateHashRing endpoints v.chRingSize
    let (delta, ring) ← diffRings 0 v.chRing newChRing
    return (delta, { v with chRing := ring })
  else
    return ([], v)

def batchRealsUpdate (walk : Walk ℕ VipReal) (v : Vip) (ureals : List UpdateReal) :
    Option (List RealPos × Vip) :=
  let (endpoints, v) := v.getEndpoints walk ureals
  v.calculateHashRing chash endpoints

def recalculateHashRing (walk : Walk ℕ VipReal) (v : Vip) : Option (List RealPos × Vip) :=
  v.calculateHashRing chash (v.getRealsAndWeight walk)

def addReal (walk : Walk ℕ VipReal) (v : Vip) (real : Endpoint) : Option (List RealPos × Vip) :=
  v.batchRealsUpdate chash walk [⟨.add, real⟩]

def delReal (walk : Walk ℕ VipReal) (v : Vip) (realNum : ℕ) : Option (List RealPos × Vip) :=
  v.batchRealsUpdate chash walk [⟨.del, ⟨realNum, 0, 0⟩⟩]

end Ring

end Vip

end Vsoshlb

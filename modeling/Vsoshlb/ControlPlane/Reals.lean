import Vsoshlb.ControlPlane.State

/-!
# Reals and their reference counts

A real gets a number when its first user appears and loses it with its last one. `reals_` keeps the
number, the count and the flags under the address, `numToReals_` the address under the number, and
free numbers wait in the queue `realNums_`. Counts are `uint32_t`s.
-/

namespace Vsoshlb

/-- `refCount++` -/
def increment32 (refCount : ℕ) : ℕ := (refCount + 1) % 2 ^ 32

/-- `refCount--` -/
def decrement32 (refCount : ℕ) : ℕ := if refCount = 0 then 2 ^ 32 - 1 else refCount - 1

theorem increment32_of_lt {refCount : ℕ} (h : refCount + 1 < 2 ^ 32) :
    increment32 refCount = refCount + 1 :=
  Nat.mod_eq_of_lt h

theorem decrement32_of_pos {refCount : ℕ} (h : 0 < refCount) :
    decrement32 refCount = refCount - 1 := by
  rw [decrement32, if_neg (Nat.pos_iff_ne_zero.mp h)]

theorem decrement32_eq_zero_iff {refCount : ℕ} : decrement32 refCount = 0 ↔ refCount = 1 := by
  unfold decrement32
  split_ifs with hzero
  · simp [hzero]
  · omega

theorem increment32_ne (refCount : ℕ) : increment32 refCount ≠ refCount := by
  unfold increment32
  omega

theorem decrement32_ne (refCount : ℕ) : decrement32 refCount ≠ refCount := by
  unfold decrement32
  split_ifs with hzero
  · omega
  · omega

variable (config : Config)

def updateRealsMap (real : IPAddress) (num : ℕ) (flags : BitVec 8) (s : State) : Bool × State :=
  let realAddr := parseAddrToBe real
  let flags := flags &&& ~~~V6DADDR
  s.bpfCall fun maps ↦
    { maps with
      reals := Function.update maps.reals num { realAddr with flags := realAddr.flags ||| flags } }

def decreaseRefCountForReal (real : IPAddress) (s : State) : State :=
  match s.tables.reals.lookup real with
  | none => s
  | some rmeta =>
    let refCount := decrement32 rmeta.refCount
    if refCount = 0 then
      { s with
        tables.realNums := s.tables.realNums ++ [rmeta.num]
        tables.reals := s.tables.reals.erase real
        tables.numToReals := s.tables.numToReals.erase rmeta.num }
    else
      { s with
        tables.reals := s.tables.reals.insert real { rmeta with refCount := refCount } }

/-- The number of the real, or `maxReals` when it is new and no number is free. -/
def increaseRefCountForReal (real : IPAddress) (flags : BitVec 8) (s : State) : ℕ × State :=
  let flags := flags &&& ~~~V6DADDR
  match s.tables.reals.lookup real with
  | some rmeta =>
    (rmeta.num, { s with
      tables.reals :=
        s.tables.reals.insert real { rmeta with refCount := increment32 rmeta.refCount } })
  | none =>
    match s.tables.realNums with
    | [] => (config.maxReals, s)
    | rnum :: realNums =>
      let s := { s with
        tables.realNums := realNums
        tables.numToReals := s.tables.numToReals.insert rnum real
        tables.reals := s.tables.reals.insert real ⟨rnum, 1, flags⟩ }
      (rnum, if config.testing then s else (updateRealsMap real rnum flags s).2)

section Entries

variable {config : Config} {real raddr : IPAddress} {s : State}

theorem updateRealsMap_tables (real : IPAddress) (num : ℕ) (flags : BitVec 8) (s : State) :
    (updateRealsMap real num flags s).2.tables = s.tables :=
  State.bpfCall_tables _ s

theorem increaseRefCountForReal_of_lookup {r : RealMeta}
    (hreal : s.tables.reals.lookup real = some r) (flags : BitVec 8) :
    increaseRefCountForReal config real flags s = (r.num, { s with
      tables.reals :=
        s.tables.reals.insert real { r with refCount := increment32 r.refCount } }) := by
  simp only [increaseRefCountForReal, hreal]

theorem increaseRefCountForReal_of_nil (hreal : s.tables.reals.lookup real = none)
    (hnums : s.tables.realNums = []) (flags : BitVec 8) :
    increaseRefCountForReal config real flags s = (config.maxReals, s) := by
  simp only [increaseRefCountForReal, hreal, hnums]

/-- A new real takes the first free number. -/
theorem increaseRefCountForReal_of_cons {rnum : ℕ} {realNums : List ℕ}
    (hreal : s.tables.reals.lookup real = none) (hnums : s.tables.realNums = rnum :: realNums)
    (flags : BitVec 8) :
    (increaseRefCountForReal config real flags s).1 = rnum ∧
      (increaseRefCountForReal config real flags s).2.tables = { s.tables with
        realNums := realNums
        numToReals := s.tables.numToReals.insert rnum real
        reals := s.tables.reals.insert real ⟨rnum, 1, flags &&& ~~~V6DADDR⟩ } := by
  simp only [increaseRefCountForReal, hreal, hnums, true_and]
  split_ifs
  · rfl
  · exact updateRealsMap_tables _ _ _ _

theorem increaseRefCountForReal_lookup_of_ne (hne : raddr ≠ real) (flags : BitVec 8) :
    (increaseRefCountForReal config real flags s).2.tables.reals.lookup raddr =
      s.tables.reals.lookup raddr := by
  cases hreal : s.tables.reals.lookup real with
  | some r =>
    rw [increaseRefCountForReal_of_lookup hreal]
    exact Finmap.lookup_insert_of_ne _ hne
  | none =>
    cases hnums : s.tables.realNums with
    | nil => rw [increaseRefCountForReal_of_nil hreal hnums]
    | cons rnum realNums =>
      rw [(increaseRefCountForReal_of_cons hreal hnums flags).2]
      exact Finmap.lookup_insert_of_ne _ hne

theorem decreaseRefCountForReal_lookup_of_ne (hne : raddr ≠ real) :
    (decreaseRefCountForReal real s).tables.reals.lookup raddr = s.tables.reals.lookup raddr := by
  unfold decreaseRefCountForReal
  cases s.tables.reals.lookup real with
  | none => rfl
  | some rmeta =>
    dsimp only
    split_ifs
    · exact Finmap.lookup_erase_ne hne
    · exact Finmap.lookup_insert_of_ne _ hne

theorem decreaseRefCountForReal_lookup {r : RealMeta} (h : s.tables.reals.lookup real = some r) :
    (decreaseRefCountForReal real s).tables.reals.lookup real =
      if decrement32 r.refCount = 0 then none
      else some { r with refCount := decrement32 r.refCount } := by
  unfold decreaseRefCountForReal
  simp only [h]
  split_ifs
  · exact Finmap.lookup_erase _ _
  · exact Finmap.lookup_insert _

theorem decreaseRefCountForReal_of_lookup_none
    (h : s.tables.reals.lookup real = none) : decreaseRefCountForReal real s = s := by
  simp [decreaseRefCountForReal, h]

theorem decreaseRefCountForReal_maps (real : IPAddress) (s : State) :
    (decreaseRefCountForReal real s).maps = s.maps := by
  unfold decreaseRefCountForReal
  split
  · rfl
  · dsimp only
    split_ifs
    · rfl
    · rfl

theorem decreaseRefCountForReal_realNums {r : RealMeta}
    (hreal : s.tables.reals.lookup real = some r) :
    (decreaseRefCountForReal real s).tables.realNums =
      if r.refCount = 1 then s.tables.realNums ++ [r.num] else s.tables.realNums := by
  unfold decreaseRefCountForReal
  simp only [hreal, decrement32_eq_zero_iff]
  split_ifs
  · rfl
  · rfl

end Entries

/-- `numToReals_[num]`: an unknown number gets an address without a family. -/
def numToRealsAt (num : ℕ) (s : State) : IPAddress × State :=
  match s.tables.numToReals.lookup num with
  | some real => (real, s)
  | none => (.unspec, { s with tables.numToReals := s.tables.numToReals.insert num .unspec })

end Vsoshlb

import Mathlib.Algebra.Ring.Int.Defs
import Mathlib.Algebra.Ring.Nat

/-!
# Endpoints and the consistent hashing interface

`CHHelpers.h`: an endpoint is a real server's number with its weight and the hash of its address,
and a `ConsistentHash` turns a list of endpoints into a ring of `int` slots. The call may fail to
return, so its result is optional. Ring slots are 32-bit `int`s while numbers are `uint32_t`s; the
two conversions between them are kept explicit.
-/

namespace Vsoshlb

/-- The value of a `uint32_t` stored in an `int`. -/
@[irreducible]
def int32 (num : ℕ) : ℤ := Int.bmod num (2 ^ 32)

/-- The value of an `int` stored in a `uint32_t`. -/
@[irreducible]
def uint32 (slot : ℤ) : ℕ := (slot % 2 ^ 32).toNat

theorem int32_of_lt {num : ℕ} (h : num < 2 ^ 31) : int32 num = num := by
  unfold int32
  rw [Int.bmod_eq_of_le_mul_two] <;> omega

theorem int32_ne_neg_one {num : ℕ} (h : num < 2 ^ 32 - 1) : int32 num ≠ -1 := by
  unfold int32 Int.bmod
  dsimp only
  split_ifs <;> omega

structure Endpoint where
  num : ℕ
  weight : ℕ
  hash : ℕ
deriving DecidableEq, Repr

/-- The endpoint under a new number. -/
def Endpoint.rename (rename : ℕ → ℕ) (e : Endpoint) : Endpoint :=
  { e with num := rename e.num }

inductive HashFunction where
  | maglev
  | maglevV2
deriving DecidableEq, Repr

/-- The virtual interface of a hashing scheme. `none` stands for a call that does not return. -/
structure ConsistentHash where
  generateHashRing : List Endpoint → ℕ → Option (List ℤ)

/-- On a non-empty list the scheme returns a ring of the requested size whose slots hold numbers
of the given endpoints. -/
def ConsistentHash.FillsRing (chash : ConsistentHash) : Prop :=
  ∀ endpoints ringSize, endpoints ≠ [] →
    ∃ ring, chash.generateHashRing endpoints ringSize = some ring ∧ ring.length = ringSize ∧
      ∀ slot ∈ ring, ∃ e ∈ endpoints, slot = int32 e.num

/-- The same of a scheme that may not return. -/
def ConsistentHash.KeepsRing (chash : ConsistentHash) : Prop :=
  ∀ endpoints ringSize ring, endpoints ≠ [] →
    chash.generateHashRing endpoints ringSize = some ring →
    ring.length = ringSize ∧ ∀ slot ∈ ring, ∃ e ∈ endpoints, slot = int32 e.num

theorem ConsistentHash.FillsRing.keepsRing {chash : ConsistentHash} (h : chash.FillsRing) :
    chash.KeepsRing := by
  intro endpoints ringSize ring hne hring
  obtain ⟨ring', hring', hfilled⟩ := h endpoints ringSize hne
  obtain rfl := Option.some.inj (hring.symm.trans hring')
  exact hfilled

/-- The ring of a single endpoint, which every scheme of the balancer builds in the same way. -/
def ConsistentHash.single : ConsistentHash where
  generateHashRing
    | [], ringSize => some (List.replicate ringSize (-1))
    | e :: _, ringSize => some (List.replicate ringSize (int32 e.num))

theorem ConsistentHash.single_fillsRing : ConsistentHash.single.FillsRing := by
  intro endpoints ringSize hne
  obtain ⟨e, rest, rfl⟩ := List.exists_cons_of_ne_nil hne
  refine ⟨List.replicate ringSize (int32 e.num), rfl, List.length_replicate, ?_⟩
  intro slot hslot
  exact ⟨e, List.mem_cons_self, List.eq_of_mem_replicate hslot⟩

end Vsoshlb

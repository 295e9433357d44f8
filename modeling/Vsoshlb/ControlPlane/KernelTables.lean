import Vsoshlb.ControlPlane.VipMap

/-!
# The kernel's reals, source rules and decapsulation addresses

The balancer writes `reals` under the number of a real, `lpm_src_v4` and `lpm_src_v6` under the
prefix of a rule and `decap_dst` under an address, next to a table of its own in each case. Whatever
the calls, the maps show the tables: the two tries and `decap_dst` have an entry for every element
and no other, and the array has the bytes and flags of every real that has a number. Slots of
numbers that are free keep what was in them.
-/

namespace Vsoshlb

open HashTable

variable {folly : Folly} {config : Config} {chash : HashFunction → ConsistentHash} {s s' : State}

/-! ## What the maps should hold -/

/-- The entry of a real in the array. -/
def realEntry (real : IPAddress) (flags : BitVec 8) : BeAddr :=
  { parseAddrToBe real with flags := (parseAddrToBe real).flags ||| flags }

/-- The trie and the key of a rule for a network with a family. -/
def lpmDefinition (network : CIDRNetwork) : Option LpmKey :=
  if network.1 = .unspec then none else some (lpmKey network)

/-- The tables and maps that the calls below are about. -/
def State.registry (s : State) : (Finmap fun _ : IPAddress ↦ RealMeta) × List ℕ × (ℕ → BeAddr) :=
  (s.tables.reals, s.tables.realNums, s.maps.reals)

def State.rules (s : State) : (Finmap fun _ : CIDRNetwork ↦ ℕ) × (LpmKey → Option ℕ) :=
  (s.tables.lpmSrcMapping, s.maps.lpmSrc)

def State.decap (s : State) : Finset IPAddress × (BeAddr → Option ℕ) :=
  (s.tables.decapDsts, s.maps.decapDst)

/-- Every number occurs once, in the pool or with a real, and the array shows the reals. -/
structure RealsShown (s : State) : Prop where
  pool : ∀ n, IdPool.total RealMeta.num s.tables.realNums s.tables.reals n ≤ 1
  flags : ∀ real r, s.tables.reals.lookup real = some r → r.flags &&& ~~~V6DADDR = r.flags
  entry : ∀ real r, s.tables.reals.lookup real = some r →
    s.maps.reals r.num = realEntry real r.flags

/-- The two tries are the image of the rules. -/
abbrev RulesShown (s : State) : Prop :=
  Image.IsImage lpmDefinition id s.tables.lpmSrcMapping s.maps.lpmSrc

/-- `decap_dst` is the image of the addresses, which have a family. -/
structure DecapShown (s : State) : Prop where
  specified : .unspec ∉ s.tables.decapDsts
  entry : ∀ key, s.maps.decapDst key =
    if key ∈ s.tables.decapDsts.image parseAddrToBe then some 0 else none

structure KernelShows (s : State) : Prop where
  outcomes : s.outcomes = []
  reals : RealsShown s
  rules : RulesShown s
  decap : DecapShown s

theorem RealsShown.congr (h : RealsShown s) (hsame : s'.registry = s.registry) :
    RealsShown s' := by
  simp only [State.registry, Prod.mk.injEq] at hsame
  obtain ⟨hreals, hnums, hmap⟩ := hsame
  refine ⟨?_, ?_, ?_⟩
  · rw [hreals, hnums]
    exact h.pool
  · rw [hreals]
    exact h.flags
  · rw [hreals, hmap]
    exact h.entry

theorem RulesShown.congr (h : RulesShown s) (hsame : s'.rules = s.rules) : RulesShown s' := by
  simp only [State.rules, Prod.mk.injEq] at hsame
  rw [RulesShown, hsame.1, hsame.2]
  exact h

theorem DecapShown.congr (h : DecapShown s) (hsame : s'.decap = s.decap) : DecapShown s' := by
  simp only [State.decap, Prod.mk.injEq] at hsame
  refine ⟨?_, ?_⟩
  · rw [hsame.1]
    exact h.specified
  · rw [hsame.1, hsame.2]
    exact h.entry

/-! ## Encodings -/

theorem lpmDefinition_injective {a b : CIDRNetwork} {key : LpmKey}
    (ha : lpmDefinition a = some key) (hb : lpmDefinition b = some key) : a = b := by
  obtain ⟨a, n⟩ := a
  obtain ⟨b, m⟩ := b
  have hkey := ha.trans hb.symm
  cases a with
  | unspec => cases ha
  | v4 addr =>
    cases b with
    | unspec => cases hb
    | v4 addr' => simpa [lpmDefinition, lpmKey, and_comm] using hkey
    | v6 addr' => simp [lpmDefinition, lpmKey] at hkey
  | v6 addr =>
    cases b with
    | unspec => cases hb
    | v4 addr' => simp [lpmDefinition, lpmKey] at hkey
    | v6 addr' => simpa [lpmDefinition, lpmKey, and_comm] using hkey

theorem parseAddrToBe_injective {a b : IPAddress} (ha : a ≠ .unspec) (hb : b ≠ .unspec)
    (h : parseAddrToBe a = parseAddrToBe b) : a = b := by
  have haddr := (parseAddrToBe_addr_eq_iff ha hb).mp (congrArg BeAddr.addr h)
  have hflags := congrArg BeAddr.flags h
  cases a with
  | unspec => exact absurd rfl ha
  | v4 addr =>
    cases b with
    | unspec => exact absurd rfl hb
    | v4 addr' => exact haddr
    | v6 addr' => exact absurd hflags (by simp [parseAddrToBe, V6DADDR])
  | v6 addr =>
    cases b with
    | unspec => exact absurd rfl hb
    | v4 addr' => exact absurd hflags (by simp [parseAddrToBe, V6DADDR])
    | v6 addr' => exact haddr

/-! ## Reals -/

section Reals

variable {real : IPAddress} {r : RealMeta}

/-- A real is written, under a number that no other real has. -/
theorem RealsShown.write (h : RealsShown s) (real : IPAddress) (r' : RealMeta)
    (hpool : ∀ n, IdPool.total RealMeta.num s'.tables.realNums s'.tables.reals n ≤ 1)
    (hflags : r'.flags &&& ~~~V6DADDR = r'.flags)
    (hother : ∀ a w, s.tables.reals.lookup a = some w → a ≠ real → w.num ≠ r'.num)
    (hreals : s'.tables.reals = s.tables.reals.insert real r')
    (hmap : s'.maps.reals =
      Function.update s.maps.reals r'.num (realEntry real (r'.flags &&& ~~~V6DADDR))) :
    RealsShown s' := by
  refine ⟨hpool, fun a w ha ↦ ?_, fun a w ha ↦ ?_⟩
  · rw [hreals, lookup_insert_ite] at ha
    split_ifs at ha
    · obtain rfl := Option.some.inj ha
      exact hflags
    · exact h.flags a w ha
  · rw [hreals, lookup_insert_ite] at ha
    rw [hmap]
    split_ifs at ha with heq
    · obtain rfl := Option.some.inj ha
      rw [Function.update_self, hflags, heq]
    · rw [Function.update_of_ne (hother a w ha heq)]
      exact h.entry a w ha

end Reals

/-! ## Rules and decapsulation addresses -/

/-- `lpmSrcMapping` and its trie get a rule. -/
theorem RulesShown.add (h : RulesShown s) {network : CIDRNetwork}
    (hspecified : network.1 ≠ .unspec) (rnum : ℕ)
    (hsame : s'.rules = (s.tables.lpmSrcMapping.insert network rnum,
      Function.update s.maps.lpmSrc (lpmKey network) (some rnum))) : RulesShown s' := by
  simp only [State.rules, Prod.mk.injEq] at hsame
  have hkey : lpmDefinition network = some (lpmKey network) := if_neg hspecified
  rw [RulesShown, hsame.1, hsame.2]
  cases hold : s.tables.lpmSrcMapping.lookup network with
  | some rnum₀ => exact h.update hold hkey rnum
  | none =>
    refine h.insert hkey (fun network' rnum' hnetwork' heq ↦ ?_) rnum
    obtain rfl := lpmDefinition_injective heq hkey
    rw [hold] at hnetwork'
    cases hnetwork'

theorem RulesShown.del (h : RulesShown s) {network : CIDRNetwork} {rnum : ℕ}
    (hrule : s.tables.lpmSrcMapping.lookup network = some rnum)
    (hsame : s'.rules = (s.tables.lpmSrcMapping.erase network,
      Function.update s.maps.lpmSrc (lpmKey network) none)) : RulesShown s' := by
  simp only [State.rules, Prod.mk.injEq] at hsame
  obtain ⟨key, hkey, -⟩ := h.entry network rnum hrule
  have hlpm : lpmKey network = key := by
    unfold lpmDefinition at hkey
    split_ifs at hkey
    exact Option.some.inj hkey
  rw [RulesShown, hsame.1, hsame.2, hlpm]
  exact h.erase hrule hkey

theorem DecapShown.add (h : DecapShown s) {address : IPAddress} (hspecified : address ≠ .unspec)
    (hsame : s'.decap = (insert address s.tables.decapDsts,
      Function.update s.maps.decapDst (parseAddrToBe address) (some 0))) : DecapShown s' := by
  simp only [State.decap, Prod.mk.injEq] at hsame
  refine ⟨?_, fun key ↦ ?_⟩
  · rw [hsame.1, Finset.mem_insert, not_or]
    exact ⟨hspecified.symm, h.specified⟩
  · rw [hsame.1, hsame.2, Finset.image_insert]
    by_cases hkey : key = parseAddrToBe address
    · subst hkey
      rw [Function.update_self, if_pos (Finset.mem_insert_self _ _)]
    · rw [Function.update_of_ne hkey, h.entry key]
      simp [hkey]

theorem DecapShown.del (h : DecapShown s) {address : IPAddress}
    (hmem : address ∈ s.tables.decapDsts)
    (hsame : s'.decap = (s.tables.decapDsts.erase address,
      Function.update s.maps.decapDst (parseAddrToBe address) none)) : DecapShown s' := by
  simp only [State.decap, Prod.mk.injEq] at hsame
  have hfamily : ∀ other ∈ s.tables.decapDsts, other ≠ .unspec :=
    fun other hother heq ↦ h.specified (heq ▸ hother)
  refine ⟨?_, fun key ↦ ?_⟩
  · rw [hsame.1]
    exact fun h' ↦ h.specified (Finset.mem_of_mem_erase h')
  · rw [hsame.1, hsame.2]
    by_cases hkey : key = parseAddrToBe address
    · subst hkey
      rw [Function.update_self, if_neg]
      intro himage
      obtain ⟨other, hother, heq⟩ := Finset.mem_image.mp himage
      obtain ⟨hne, hother⟩ := Finset.mem_erase.mp hother
      exact hne (parseAddrToBe_injective (hfamily other hother) (hfamily address hmem) heq)
    · rw [Function.update_of_ne hkey, h.entry key]
      refine if_congr ?_ rfl rfl
      simp only [Finset.mem_image, Finset.mem_erase]
      constructor
      · rintro ⟨other, hother, rfl⟩
        exact ⟨other, ⟨fun heq ↦ hkey (by rw [heq]), hother⟩, rfl⟩
      · rintro ⟨other, ⟨-, hother⟩, heq⟩
        exact ⟨other, hother, heq⟩

/-! ## All three at once -/

/-- What a call leaves alone that has nothing to do with the three maps. -/
structure Apart (s s' : State) : Prop where
  registry : s'.registry = s.registry
  rules : s'.rules = s.rules
  decap : s'.decap = s.decap
  outcomes : s.outcomes = [] → s'.outcomes = []

theorem Apart.refl (s : State) : Apart s s := ⟨rfl, rfl, rfl, id⟩

theorem Apart.trans {s'' : State} (h : Apart s s') (h' : Apart s' s'') : Apart s s'' where
  registry := h'.registry.trans h.registry
  rules := h'.rules.trans h.rules
  decap := h'.decap.trans h.decap
  outcomes hnil := h'.outcomes (h.outcomes hnil)

theorem KernelShows.apart (h : KernelShows s) (hapart : Apart s s') : KernelShows s' where
  outcomes := hapart.outcomes h.outcomes
  reals := h.reals.congr hapart.registry
  rules := h.rules.congr hapart.rules
  decap := h.decap.congr hapart.decap

/-- A write to another map. -/
theorem bpfCall_apart {write : BpfMaps → BpfMaps} (hreals : (write s.maps).reals = s.maps.reals)
    (hlpmSrc : (write s.maps).lpmSrc = s.maps.lpmSrc)
    (hdecapDst : (write s.maps).decapDst = s.maps.decapDst) :
    Apart s (s.bpfCall write).2 := by
  refine ⟨?_, ?_, ?_, fun hnil ↦ by rw [State.bpfCall_outcomes, hnil]; rfl⟩
  · rw [State.registry, State.registry, State.bpfCall_tables, State.bpfCall_maps]
    split_ifs
    · rw [hreals]
    · rfl
  · rw [State.rules, State.rules, State.bpfCall_tables, State.bpfCall_maps]
    split_ifs
    · rw [hlpmSrc]
    · rfl
  · rw [State.decap, State.decap, State.bpfCall_tables, State.bpfCall_maps]
    split_ifs
    · rw [hdecapDst]
    · rfl

theorem rejected_apart (s : State) : Apart s s.rejected := ⟨rfl, rfl, rfl, id⟩

end Vsoshlb

import Mathlib.Logic.Function.Basic
import Vsoshlb.Library.HashTable

/-!
# A map kept as the image of a table

One side keeps a table under its own keys, the other a map under encoded keys. The map is the image
of the table when every entry of the table has its own encoded entry and the map has no other.
Adding, changing and removing an entry on both sides keeps that up, as long as the encoded keys of
the table stay distinct.
-/

namespace Image

open HashTable

variable {K V D E : Type} [DecidableEq K] [DecidableEq D] {encode : K → Option D} {value : V → E}

structure IsImage (encode : K → Option D) (value : V → E) (t : Finmap fun _ : K ↦ V)
    (m : D → Option E) : Prop where
  entry : ∀ k v, t.lookup k = some v → ∃ d, encode k = some d ∧ m d = some (value v)
  distinct : ∀ k k' v v', t.lookup k = some v → t.lookup k' = some v' →
    encode k = encode k' → k = k'
  complete : ∀ d e, m d = some e → ∃ k v, t.lookup k = some v ∧ encode k = some d

omit [DecidableEq D] in
theorem isImage_empty : IsImage encode value (∅ : Finmap fun _ : K ↦ V) fun _ ↦ none where
  entry := by simp
  distinct := by simp
  complete := by simp

variable {t : Finmap fun _ : K ↦ V} {m : D → Option E} {k : K} {d : D}

omit [DecidableEq D] in
/-- The encoded key of an entry other than `k` is not the one of `k`. -/
theorem IsImage.encode_ne (h : IsImage encode value t m) {v v' : V} (hk : t.lookup k = some v)
    (hd : encode k = some d) {k' : K} (hk' : t.lookup k' = some v') (hne : k' ≠ k) {d' : D}
    (hd' : encode k' = some d') : d' ≠ d := by
  rintro rfl
  exact hne (h.distinct k' k v' v hk' hk (hd'.trans hd.symm))

/-- A new entry whose encoded key no other entry has. -/
theorem IsImage.insert (h : IsImage encode value t m) (hd : encode k = some d)
    (hfresh : ∀ k' v', t.lookup k' = some v' → encode k' ≠ some d) (v : V) :
    IsImage encode value (t.insert k v) (Function.update m d (some (value v))) where
  entry k' v' hk' := by
    rw [lookup_insert_ite] at hk'
    split_ifs at hk' with heq
    · obtain rfl := Option.some.inj hk'
      exact ⟨d, heq ▸ hd, Function.update_self ..⟩
    · obtain ⟨d', hd', hm⟩ := h.entry k' v' hk'
      have hne : d' ≠ d := fun hdd ↦ hfresh k' v' hk' (hdd ▸ hd')
      exact ⟨d', hd', by rw [Function.update_of_ne hne, hm]⟩
  distinct k₁ k₂ v₁ v₂ h₁ h₂ henc := by
    rw [lookup_insert_ite] at h₁ h₂
    split_ifs at h₁ h₂ with hk₁ hk₂ hk₂
    · exact hk₁.trans hk₂.symm
    · exact absurd (henc.symm.trans (hk₁ ▸ hd)) (hfresh k₂ v₂ h₂)
    · exact absurd (henc.trans (hk₂ ▸ hd)) (hfresh k₁ v₁ h₁)
    · exact h.distinct k₁ k₂ v₁ v₂ h₁ h₂ henc
  complete d' e hm := by
    by_cases hdd : d' = d
    · exact ⟨k, v, Finmap.lookup_insert t, hdd ▸ hd⟩
    · rw [Function.update_of_ne hdd] at hm
      obtain ⟨k', v', hk', hd'⟩ := h.complete d' e hm
      by_cases heq : k' = k
      · exact ⟨k, v, Finmap.lookup_insert t, heq ▸ hd'⟩
      · exact ⟨k', v', by rw [Finmap.lookup_insert_of_ne t heq, hk'], hd'⟩

/-- A new value for an entry of the table. -/
theorem IsImage.update (h : IsImage encode value t m) {v : V} (hk : t.lookup k = some v)
    (hd : encode k = some d) (w : V) :
    IsImage encode value (t.insert k w) (Function.update m d (some (value w))) where
  entry k' v' hk' := by
    rw [lookup_insert_ite] at hk'
    split_ifs at hk' with heq
    · obtain rfl := Option.some.inj hk'
      exact ⟨d, heq ▸ hd, Function.update_self ..⟩
    · obtain ⟨d', hd', hm⟩ := h.entry k' v' hk'
      exact ⟨d', hd', by rw [Function.update_of_ne (h.encode_ne hk hd hk' heq hd'), hm]⟩
  distinct k₁ k₂ v₁ v₂ h₁ h₂ henc := by
    have hold : ∀ k' v', (t.insert k w).lookup k' = some v' → ∃ v₀, t.lookup k' = some v₀ := by
      intro k' v' hk'
      rw [lookup_insert_ite] at hk'
      split_ifs at hk' with heq
      · exact ⟨v, heq ▸ hk⟩
      · exact ⟨v', hk'⟩
    obtain ⟨v₁', h₁'⟩ := hold k₁ v₁ h₁
    obtain ⟨v₂', h₂'⟩ := hold k₂ v₂ h₂
    exact h.distinct k₁ k₂ v₁' v₂' h₁' h₂' henc
  complete d' e hm := by
    by_cases hdd : d' = d
    · exact ⟨k, w, Finmap.lookup_insert t, hdd ▸ hd⟩
    · rw [Function.update_of_ne hdd] at hm
      obtain ⟨k', v', hk', hd'⟩ := h.complete d' e hm
      by_cases heq : k' = k
      · exact ⟨k, w, Finmap.lookup_insert t, heq ▸ hd'⟩
      · exact ⟨k', v', by rw [Finmap.lookup_insert_of_ne t heq, hk'], hd'⟩

theorem IsImage.erase (h : IsImage encode value t m) {v : V} (hk : t.lookup k = some v)
    (hd : encode k = some d) :
    IsImage encode value (t.erase k) (Function.update m d none) where
  entry k' v' hk' := by
    rw [lookup_erase_ite] at hk'
    split_ifs at hk' with heq
    obtain ⟨d', hd', hm⟩ := h.entry k' v' hk'
    exact ⟨d', hd', by rw [Function.update_of_ne (h.encode_ne hk hd hk' heq hd'), hm]⟩
  distinct k₁ k₂ v₁ v₂ h₁ h₂ henc := by
    rw [lookup_erase_ite] at h₁ h₂
    split_ifs at h₁ h₂
    exact h.distinct k₁ k₂ v₁ v₂ h₁ h₂ henc
  complete d' e hm := by
    by_cases hdd : d' = d
    · rw [hdd, Function.update_self] at hm
      exact absurd hm (by simp)
    · rw [Function.update_of_ne hdd] at hm
      obtain ⟨k', v', hk', hd'⟩ := h.complete d' e hm
      have hne : k' ≠ k := by
        rintro rfl
        exact hdd (Option.some.inj (hd'.symm.trans hd))
      exact ⟨k', v', by rw [lookup_erase_ite, if_neg hne, hk'], hd'⟩

omit [DecidableEq D] in
/-- A change that no encoded value shows. -/
theorem IsImage.congr_value (h : IsImage encode value t m) {v w : V} (hk : t.lookup k = some v)
    (hw : value w = value v) : IsImage encode value (t.insert k w) m := by
  classical
  obtain ⟨d, hd, hm⟩ := h.entry k v hk
  have hupdate := h.update hk hd w
  rwa [hw, ← hm, Function.update_eq_self] at hupdate

end Image

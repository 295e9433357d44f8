import Vsoshlb.DataPlane.TcpOptions

/-!
# The cursor in the options of a TCP header

`parse_hdr_opt_raw` counts the bytes of the options down and its offset up, by lengths that the
packet claims. Their sum is the end of the options, and stays it. So all that is read lies between
the cursor and that end, and in the frame.
-/

namespace Vsoshlb.DataPlane

def TCP_HDR_OPT_LEN_TPR : ℕ := 6

/-! ## The bytes that are read -/

/-- `parse_hdr_opt_raw` with the positions of the bytes it reads. -/
def parseHdrOptRawReads (frame : Frame) (state : HdrOptState) : (ℤ × HdrOptState) × List ℕ :=
  let tcpOpt := state.byteOffset.toNat
  if frame.length < tcpOpt + 1 then
    ((-1, state), [])
  else
    let kind := frame.byte tcpOpt
    if kind = 0 then
      ((-1, state), [tcpOpt])
    else if kind = 1 then
      ((0, { state with
        hdrBytesRemaining := state.hdrBytesRemaining - 1
        byteOffset := state.byteOffset + 1 }), [tcpOpt])
    else if state.hdrBytesRemaining.toNat < 2 ∨ frame.length < tcpOpt + 2 then
      ((-1, state), [tcpOpt])
    else
      let hdrLen := frame.byte (tcpOpt + 1)
      if state.hdrBytesRemaining.toNat < hdrLen.toNat then
        ((-1, state), [tcpOpt, tcpOpt + 1])
      else if kind = 0xB7 then
        if hdrLen ≠ 6 then
          ((-1, state), [tcpOpt, tcpOpt + 1])
        else if frame.length < tcpOpt + 6 then
          ((-1, state), [tcpOpt, tcpOpt + 1])
        else
          ((1, state), [tcpOpt, tcpOpt + 1])
      else
        ((0, { state with
          hdrBytesRemaining := state.hdrBytesRemaining - hdrLen
          byteOffset := state.byteOffset + hdrLen }), [tcpOpt, tcpOpt + 1])

theorem parseHdrOptRawReads_fst (frame : Frame) (state : HdrOptState) :
    (parseHdrOptRawReads frame state).1 = parseHdrOptRaw frame state := by
  unfold parseHdrOptRawReads parseHdrOptRaw
  dsimp only
  by_cases hframe : frame.length < state.byteOffset.toNat + 1
  · rw [if_pos hframe, if_pos hframe]
  · rw [if_neg hframe, if_neg hframe]
    by_cases hend : frame.byte state.byteOffset.toNat = 0
    · rw [if_pos hend, if_pos hend]
    · rw [if_neg hend, if_neg hend]
      by_cases hnop : frame.byte state.byteOffset.toNat = 1
      · rw [if_pos hnop, if_pos hnop]
      · rw [if_neg hnop, if_neg hnop]
        -- an option with a length
        split_ifs
        · rfl
        · rfl
        · rfl
        · rfl
        · rfl
        · rfl

/-- The states in which the loop calls `parse_hdr_opt`. -/
def hdrOptCalls (frame : Frame) : ℕ → HdrOptState → List HdrOptState
  | 0, _ => []
  | checks + 1, state =>
    let parsed := parseHdrOptRaw frame state
    state :: if parsed.1 ≠ 0 ∨ parsed.2.hdrBytesRemaining = 0 then [] else
      hdrOptCalls frame checks parsed.2

/-- The loop ends in the state that its last call leaves. -/
theorem hdrOptLoop_eq_getLast (frame : Frame) (checks : ℕ) (state : HdrOptState) :
    hdrOptLoop frame checks state =
      ((hdrOptCalls frame checks state).getLast?.map
        fun last ↦ (parseHdrOptRaw frame last).2).getD state := by
  induction checks generalizing state with
  | zero => rfl
  | succ checks ih =>
    rw [hdrOptLoop, hdrOptCalls]
    dsimp only
    split_ifs with hstop
    · rfl
    · rw [ih]
      cases checks with
      | zero => rfl
      | succ checks =>
        rw [hdrOptCalls]
        rfl

/-! ## One call -/

/-- The cursor stands before the end of the options. -/
structure HdrOptState.Cursor (stop : ℕ) (state : HdrOptState) : Prop where
  remaining : 1 ≤ state.hdrBytesRemaining.toNat
  sum : state.byteOffset.toNat + state.hdrBytesRemaining.toNat = stop

/-- What a call does, and what it reads. -/
inductive ParseCase (frame : Frame) (state : HdrOptState) : (ℤ × HdrOptState) × List ℕ → Prop where
  | gaveUp (reads : List ℕ) : ParseCase frame state ((-1, state), reads)
  | found (reads : List ℕ) (kind : frame.byte state.byteOffset.toNat = TCP_HDR_OPT_KIND_TPR)
      (len : (frame.byte (state.byteOffset.toNat + 1)).toNat = TCP_HDR_OPT_LEN_TPR)
      (fits : TCP_HDR_OPT_LEN_TPR ≤ state.hdrBytesRemaining.toNat)
      (inFrame : state.byteOffset.toNat + TCP_HDR_OPT_LEN_TPR ≤ frame.length) :
      ParseCase frame state ((1, state), reads)
  | skipped (reads : List ℕ) (n : ℕ) (fits : n ≤ state.hdrBytesRemaining.toNat) :
      ParseCase frame state ((0, state.advance n), reads)

theorem parseHdrOptRaw_case {frame : Frame} {state : HdrOptState}
    (h : 1 ≤ state.hdrBytesRemaining.toNat) :
    ParseCase frame state (parseHdrOptRawReads frame state) := by
  unfold parseHdrOptRawReads
  dsimp only
  split_ifs with hframe hend hnop hshort hlong htpr hlen hcut
  · exact .gaveUp _
  · exact .gaveUp _
  · exact .skipped _ 1 h
  · exact .gaveUp _
  · exact .gaveUp _
  · exact .gaveUp _
  · exact .gaveUp _
  · have hsix : (frame.byte (state.byteOffset.toNat + 1)).toNat = TCP_HDR_OPT_LEN_TPR := by
      rw [not_not.mp hlen]
      rfl
    exact .found _ htpr hsix (by omega) (Nat.not_lt.mp hcut)
  · have hadvance := @ParseCase.skipped frame state
      [state.byteOffset.toNat, state.byteOffset.toNat + 1] _ (Nat.not_lt.mp hlong)
    rw [HdrOptState.advance, BitVec.ofNat_toNat, BitVec.setWidth_eq] at hadvance
    exact hadvance

/-- What is read lies before the end of the options and before that of the frame. -/
theorem parseHdrOptRaw_reads {frame : Frame} {state : HdrOptState} {stop : ℕ}
    (h : state.Cursor stop) {p : ℕ} (hp : p ∈ (parseHdrOptRawReads frame state).2) :
    p < frame.length ∧ state.byteOffset.toNat ≤ p ∧ p < stop := by
  have hremaining := h.remaining
  have hsum := h.sum
  unfold parseHdrOptRawReads at hp
  dsimp only at hp
  -- the second byte is read only where there are two left, in the options and in the frame
  have hone (hframe : ¬ frame.length < state.byteOffset.toNat + 1)
      (hp : p ∈ [state.byteOffset.toNat]) :
      p < frame.length ∧ state.byteOffset.toNat ≤ p ∧ p < stop := by
    obtain rfl := List.mem_singleton.mp hp
    omega
  have htwo (hshort : ¬ (state.hdrBytesRemaining.toNat < 2 ∨
      frame.length < state.byteOffset.toNat + 2))
      (hp : p ∈ [state.byteOffset.toNat, state.byteOffset.toNat + 1]) :
      p < frame.length ∧ state.byteOffset.toNat ≤ p ∧ p < stop := by
    simp only [List.mem_cons, List.not_mem_nil, or_false] at hp
    omega
  split_ifs at hp with hframe hend hnop hshort hlong htpr hlen hcut
  · simp at hp
  · exact hone hframe hp
  · exact hone hframe hp
  · exact hone hframe hp
  · exact htwo hshort hp
  · exact htwo hshort hp
  · exact htwo hshort hp
  · exact htwo hshort hp
  · exact htwo hshort hp

/-- A call that goes on moves the cursor by a number of bytes, in both fields, and not past the
end. -/
theorem parseHdrOptRaw_moves {frame : Frame} {state : HdrOptState} {stop : ℕ}
    (h : state.Cursor stop) (hstop : stop ≤ 255) (hzero : (parseHdrOptRaw frame state).1 = 0) :
    ∃ n, (parseHdrOptRaw frame state).2.byteOffset.toNat = state.byteOffset.toNat + n ∧
      (parseHdrOptRaw frame state).2.hdrBytesRemaining.toNat + n =
        state.hdrBytesRemaining.toNat := by
  have hsum := h.sum
  have hcase := @parseHdrOptRaw_case frame state h.remaining
  rw [← parseHdrOptRawReads_fst] at hzero ⊢
  generalize parseHdrOptRawReads frame state = parsed at hcase hzero ⊢
  cases hcase with
  | gaveUp reads => cases hzero
  | found reads kind len fits inFrame => cases hzero
  | skipped reads n fits =>
    obtain ⟨hremaining, hoffset⟩ := @HdrOptState.advance_toNat state n ⟨fits, by omega⟩
    refine ⟨n, hoffset, ?_⟩
    rw [hremaining]
    exact Nat.sub_add_cancel fits

theorem parseHdrOptRaw_found {frame : Frame} {state : HdrOptState}
    (h : 1 ≤ state.hdrBytesRemaining.toNat) (hone : (parseHdrOptRaw frame state).1 = 1) :
    frame.byte state.byteOffset.toNat = TCP_HDR_OPT_KIND_TPR ∧
      (frame.byte (state.byteOffset.toNat + 1)).toNat = TCP_HDR_OPT_LEN_TPR ∧
      TCP_HDR_OPT_LEN_TPR ≤ state.hdrBytesRemaining.toNat ∧
      state.byteOffset.toNat + TCP_HDR_OPT_LEN_TPR ≤ frame.length := by
  have hcase := @parseHdrOptRaw_case frame state h
  rw [← parseHdrOptRawReads_fst] at hone
  generalize parseHdrOptRawReads frame state = parsed at hcase hone
  cases hcase with
  | gaveUp reads => cases hone
  | found reads kind len fits inFrame => exact ⟨kind, len, fits, inFrame⟩
  | skipped reads n fits => cases hone

/-! ## A run of the loop -/

/-- Every call of a run finds the cursor before the same end, and not before its start. -/
theorem hdrOptCalls_cursor {frame : Frame} {checks stop : ℕ} {state : HdrOptState}
    (h : state.Cursor stop) (hstop : stop ≤ 255) :
    ∀ call ∈ hdrOptCalls frame checks state,
      call.Cursor stop ∧ state.byteOffset.toNat ≤ call.byteOffset.toNat := by
  induction checks generalizing state with
  | zero =>
    intro call hcall
    cases hcall
  | succ checks ih =>
    intro call hcall
    rw [hdrOptCalls] at hcall
    rcases List.mem_cons.mp hcall with rfl | hlater
    · exact ⟨h, le_refl _⟩
    · split_ifs at hlater with hends
      · cases hlater
      · obtain ⟨hzero, hleft⟩ := not_or.mp hends
        obtain ⟨n, hoffset, hremaining⟩ := parseHdrOptRaw_moves h hstop (not_not.mp hzero)
        have hpos : (parseHdrOptRaw frame state).2.hdrBytesRemaining.toNat ≠ 0 :=
          fun hnone ↦ hleft (BitVec.eq_of_toNat_eq hnone)
        have hsum := h.sum
        have hnext : (parseHdrOptRaw frame state).2.Cursor stop := ⟨by omega, by omega⟩
        obtain ⟨hcursor, hle⟩ := ih hnext call hlater
        exact ⟨hcursor, by omega⟩

/-- The cursor is sound in every call, and so in every call of a run. -/
theorem optionCursor_sound (frame : Frame) (stop : ℕ) (hstop : stop ≤ 255) (state : HdrOptState)
    (h : state.Cursor stop) :
    ((∀ p ∈ (parseHdrOptRawReads frame state).2, p < frame.length) ∧
      ((parseHdrOptRaw frame state).1 = 0 →
        (parseHdrOptRaw frame state).2.byteOffset.toNat +
            (parseHdrOptRaw frame state).2.hdrBytesRemaining.toNat = stop ∧
          state.byteOffset.toNat ≤ (parseHdrOptRaw frame state).2.byteOffset.toNat ∧
          (parseHdrOptRaw frame state).2.hdrBytesRemaining.toNat ≤
            state.hdrBytesRemaining.toNat) ∧
      ((parseHdrOptRaw frame state).1 = 1 →
        frame.byte state.byteOffset.toNat = TCP_HDR_OPT_KIND_TPR ∧
          (frame.byte (state.byteOffset.toNat + 1)).toNat = TCP_HDR_OPT_LEN_TPR ∧
          state.byteOffset.toNat + TCP_HDR_OPT_LEN_TPR ≤ stop ∧
          state.byteOffset.toNat + TCP_HDR_OPT_LEN_TPR ≤ frame.length)) ∧
    ∀ checks, ∀ call ∈ hdrOptCalls frame checks state,
      (∀ p ∈ (parseHdrOptRawReads frame call).2,
        state.byteOffset.toNat ≤ p ∧ p < stop ∧ p < frame.length) ∧
      ((parseHdrOptRaw frame call).1 = 1 → state.byteOffset.toNat ≤ call.byteOffset.toNat ∧
        call.byteOffset.toNat + TCP_HDR_OPT_LEN_TPR ≤ stop ∧
        call.byteOffset.toNat + TCP_HDR_OPT_LEN_TPR ≤ frame.length) := by
  have hsum := h.sum
  refine ⟨⟨fun p hp ↦ (parseHdrOptRaw_reads h hp).1, fun hzero ↦ ?_, fun hone ↦ ?_⟩,
    fun checks call hcall ↦ ?_⟩
  · obtain ⟨n, hoffset, hremaining⟩ := parseHdrOptRaw_moves h hstop hzero
    omega
  · obtain ⟨hkind, hlen, hfits, hframe⟩ := parseHdrOptRaw_found h.remaining hone
    exact ⟨hkind, hlen, by omega, hframe⟩
  · obtain ⟨hcursor, hstart⟩ := hdrOptCalls_cursor h hstop call hcall
    have hcallSum := hcursor.sum
    constructor
    · intro p hp
      obtain ⟨hframe, hle, hlt⟩ := parseHdrOptRaw_reads hcursor hp
      exact ⟨le_trans hstart hle, hlt, hframe⟩
    · intro hone
      obtain ⟨-, -, hfits, hframe⟩ := parseHdrOptRaw_found hcursor.remaining hone
      exact ⟨hstart, by omega, hframe⟩

/-- In the packet with a server id the third call comes to the option. -/
theorem optionCursor_sound_tpr :
    (hdrOptCalls tprFrame 15 ⟨0, 54, 8⟩).length = 3 ∧
    ∀ call ∈ hdrOptCalls tprFrame 15 ⟨0, 54, 8⟩,
      ∀ p ∈ (parseHdrOptRawReads tprFrame call).2, 54 ≤ p ∧ p < 62 ∧ p < tprFrame.length := by
  refine ⟨by decide +kernel, fun call hcall ↦ ?_⟩
  exact ((optionCursor_sound tprFrame 62 (by decide) ⟨0, 54, 8⟩ ⟨by decide, by decide⟩).2 15 call
    hcall).1

end Vsoshlb.DataPlane

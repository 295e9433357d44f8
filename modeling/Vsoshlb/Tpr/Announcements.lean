import Mathlib.Data.List.Induction
import Vsoshlb.Tpr.SockOps

/-!
# What the sockets say

Any callbacks, in any order, whatever the helpers answer and whichever entries of the maps are
found. As a server the program writes no id but the one that `server_infos` has at the time. As a
client it keeps the first id that it hears for as long as its socket lives, and writes no other id.
Where it has none it writes the id 0.
-/

namespace Vsoshlb.Tpr.SockOps

/-! ## Runs of one socket -/

/-- A callback, with the entries of `tpr_stats` and `server_infos` that it finds. -/
structure Callback where
  hasStats : Bool
  info : Option ServerInfo
  skops : SkOps

/-- A socket, and the options that were written for it. -/
structure Talk where
  sk : SkState
  written : List TcpOpt

/-- A socket with the flags and counters that it starts with. -/
def Talk.new (cbFlags : BitVec 32) (stats : Stats) : Talk where
  sk := ⟨⟨cbFlags, none⟩, stats, false, none⟩
  written := []

/-- Every callback has a header of its own to write. -/
def Talk.callback (gServerExclusivePort : BitVec 32) (talk : Talk) (cb : Callback) : Talk :=
  let sk := (tcpPktRouter gServerExclusivePort cb.hasStats cb.info cb.skops
    { talk.sk with
      written := none }).2
  ⟨sk, talk.written ++ sk.written.toList⟩

/-- The socket after the callbacks. -/
def talk (gServerExclusivePort cbFlags : BitVec 32) (stats : Stats) (callbacks : List Callback) :
    Talk :=
  callbacks.foldl (Talk.callback gServerExclusivePort) (.new cbFlags stats)

/-- The id that a client can keep from a segment: that of the server's option. -/
def SkOps.loadedId (skops : SkOps) : Option (BitVec 32) :=
  let loaded := skops.loadHdrOpt TCP_SRV_HDR_OPT_KIND
  if loaded.1.slt 0 = false ∧ loaded.2.serverId ≠ 0 ∧ skops.hasSk ∧ skops.hasSkStorage then
    some loaded.2.serverId
  else
    none

/-- The id that a client hears in a callback: when the connection is there, and in a SYN-ACK. -/
def SkOps.heard (skops : SkOps) : Option (BitVec 32) :=
  match skops.op with
  | .activeEstablished => skops.loadedId
  | .parseHdrOpt =>
    if skops.skbTcpFlags &&& TCPHDR_SYNACK = TCPHDR_SYNACK then skops.loadedId else none
  | _ => none

def Callback.heard (cb : Callback) : Option (BitVec 32) :=
  match cb.info with
  | some info => if cb.hasStats ∧ info.runningMode = .client then cb.skops.heard else none
  | none => none

/-- The id that the program gets from the storage of the socket. -/
def SkOps.readId (skops : SkOps) (kept : Option (BitVec 32)) : Option (BitVec 32) :=
  if skops.hasSkStorage then kept else none

/-- What a callback may write: as a server the id of the entry, as a client the id that the socket
keeps. -/
def Callback.Announces (cb : Callback) (kept : Option (BitVec 32)) (opt : TcpOpt) : Prop :=
  ∃ info, cb.info = some info ∧
    (info.runningMode = .server ∧
        opt = ⟨TCP_SRV_HDR_OPT_KIND, TCP_HDR_OPT_LEN, info.serverId⟩ ∨
      info.runningMode = .client ∧
        opt = ⟨TCP_HDR_OPT_KIND, TCP_HDR_OPT_LEN, (cb.skops.readId kept).getD 0⟩)

/-! ## What a callback leaves alone -/

section Frame

variable {skops : SkOps} {sk sk' sk'' : SkState}

/-- The socket keeps an id if it has none, and no header is written. -/
structure Hears (id : Option (BitVec 32)) (sk sk' : SkState) : Prop where
  sidStore : sk'.sidStore = sk.sidStore.or id
  written : sk'.written = sk.written
  serverIdSet : sk'.stats.serverIdSet = sk.stats.serverIdSet

/-- Nothing is heard. -/
abbrev Quiet (sk sk' : SkState) : Prop := Hears none sk sk'

theorem Hears.refl (sk : SkState) : Quiet sk sk := ⟨Option.or_none.symm, rfl, rfl⟩

theorem Quiet.then {id : Option (BitVec 32)} (h : Quiet sk sk') (h' : Hears id sk' sk'') :
    Hears id sk sk'' where
  sidStore := by rw [h'.sidStore, h.sidStore, Option.or_none]
  written := h'.written.trans h.written
  serverIdSet := h'.serverIdSet.trans h.serverIdSet

theorem Hears.then {id : Option (BitVec 32)} (h : Hears id sk sk') (h' : Quiet sk' sk'') :
    Hears id sk sk'' where
  sidStore := by rw [h'.sidStore, Option.or_none, h.sidStore]
  written := h'.written.trans h.written
  serverIdSet := h'.serverIdSet.trans h.serverIdSet

theorem quiet_count (f : Stats → Stats)
    (hf : ∀ stats, (f stats).serverIdSet = stats.serverIdSet) (sk : SkState) :
    Quiet sk (sk.count f) :=
  ⟨Option.or_none.symm, rfl, hf sk.stats⟩

theorem quiet_setCbFlags (flags : BitVec 32) (sk : SkState) :
    Quiet sk (setCbFlags skops flags sk).2 := by
  unfold setCbFlags
  split_ifs
  · exact ⟨Option.or_none.symm, rfl, rfl⟩
  · exact quiet_count .addErrorSysCalls (fun _ ↦ rfl) sk

theorem quiet_unsetHdrCbFlags (sk : SkState) : Quiet sk (unsetHdrCbFlags skops sk).2 :=
  (quiet_setCbFlags _ sk).then (quiet_setCbFlags _ _)

theorem quiet_setHdrCbFlags (sk : SkState) : Quiet sk (setHdrCbFlags skops sk) :=
  (quiet_setCbFlags _ sk).then (quiet_setCbFlags _ _)

theorem quiet_handleHdrOptLen (sk : SkState) : Quiet sk (handleHdrOptLen skops sk).2 := by
  unfold handleHdrOptLen
  split_ifs
  · exact ⟨Option.or_none.symm, rfl, rfl⟩
  · exact quiet_count .addErrorSysCalls (fun _ ↦ rfl) sk

theorem quiet_countSkipped (result : BitVec 32 × SkState) :
    Quiet result.2 (countSkipped result) := by
  unfold countSkipped
  split_ifs
  · exact .refl _
  · exact quiet_count .addConnsSkipped (fun _ ↦ rfl) _

theorem quiet_loadTprOpt (sk : SkState) : Quiet sk (loadTprOpt skops sk).2 := by
  unfold loadTprOpt
  dsimp only
  split_ifs
  · exact .refl sk
  · exact quiet_count .addNewServerOpt (fun _ ↦ rfl) sk

theorem loadTprOpt_fst (sk : SkState) :
    (loadTprOpt skops sk).1 = skops.loadHdrOpt TCP_SRV_HDR_OPT_KIND := by
  unfold loadTprOpt
  dsimp only
  split_ifs
  · rfl
  · rfl

theorem hears_skStorageGet (value : Option (BitVec 32)) (sk : SkState) :
    Hears (if skops.hasSkStorage then value else none) sk (skStorageGet skops value sk).2 := by
  unfold skStorageGet
  cases skops.hasSkStorage with
  | false => exact .refl sk
  | true => exact ⟨rfl, rfl, rfl⟩

theorem skStorageGet_none (sk : SkState) :
    skStorageGet skops none sk = (skops.readId sk.sidStore, sk) := by
  unfold skStorageGet SkOps.readId
  cases skops.hasSkStorage with
  | false => rfl
  | true => simp only [Bool.true_eq_false, if_false, if_true, Option.or_none]

end Frame

/-! ## The callbacks of a client -/

section Client

variable {skops : SkOps} {sk : SkState} {err : BitVec 32} {opt : TcpOpt}

theorem loadedId_of_kept (hload : skops.loadHdrOpt TCP_SRV_HDR_OPT_KIND = (err, opt))
    (herr : err.slt 0 = false) (hid : opt.serverId ≠ 0) (hsk : skops.hasSk = true) :
    skops.loadedId = if skops.hasSkStorage then some opt.serverId else none := by
  unfold SkOps.loadedId
  rw [hload]
  simp only [herr, hid, hsk, ne_eq, not_false_eq_true, true_and]

theorem loadedId_of_not_kept (hload : skops.loadHdrOpt TCP_SRV_HDR_OPT_KIND = (err, opt))
    (h : err.slt 0 = true ∨ opt.serverId = 0 ∨ skops.hasSk = false) : skops.loadedId = none := by
  unfold SkOps.loadedId
  rw [hload]
  apply if_neg
  rintro ⟨herr, hid, hsk, -⟩
  rcases h with herr' | hid' | hsk'
  · exact absurd (herr'.symm.trans herr) (by decide)
  · exact hid hid'
  · exact absurd (hsk'.symm.trans hsk) (by decide)

theorem hears_handleActiveParseHdr :
    Hears skops.loadedId sk (handleActiveParseHdr skops sk).2 := by
  cases hload : skops.loadHdrOpt TCP_SRV_HDR_OPT_KIND with | mk err opt
  have hloaded : Quiet sk (loadTprOpt skops sk).2 := quiet_loadTprOpt sk
  unfold handleActiveParseHdr
  dsimp only
  rw [loadTprOpt_fst, hload]
  generalize (loadTprOpt skops sk).2 = sk' at hloaded ⊢
  apply hloaded.then
  split_ifs with herr hid hsk
  · rw [loadedId_of_not_kept hload (.inl herr)]
    exact (quiet_count .addNoTcpOptHdr (fun _ ↦ rfl) sk').then (quiet_unsetHdrCbFlags _)
  · rw [loadedId_of_not_kept hload (.inr (.inl hid))]
    exact quiet_count .addErrorBadId (fun _ ↦ rfl) sk'
  · rw [loadedId_of_not_kept hload (.inr (.inr hsk))]
    exact .refl sk'
  · rw [loadedId_of_kept hload (Bool.of_not_eq_true herr) hid
      (Bool.of_not_eq_false hsk)]
    apply (hears_skStorageGet (some opt.serverId) sk').then
    cases (skStorageGet skops (some opt.serverId) sk').1 with
    | none => exact quiet_count .addErrorSysCalls (fun _ ↦ rfl) _
    | some id =>
      dsimp only
      split_ifs
      · exact (quiet_count .addServerIdRead (fun _ ↦ rfl) _).then (quiet_setCbFlags _ _)
      · exact quiet_count .addErrorBadId (fun _ ↦ rfl) _
      · exact .refl _

theorem hears_handleActiveEstab : Hears skops.loadedId sk (handleActiveEstab skops sk).2 := by
  cases hload : skops.loadHdrOpt TCP_SRV_HDR_OPT_KIND with | mk err opt
  have hloaded : Quiet sk (loadTprOpt skops sk).2 := quiet_loadTprOpt sk
  unfold handleActiveEstab
  dsimp only
  rw [loadTprOpt_fst, hload]
  generalize (loadTprOpt skops sk).2 = sk' at hloaded ⊢
  apply hloaded.then
  split_ifs with herr hid hsk
  · rw [loadedId_of_not_kept hload (.inl herr)]
    exact (quiet_count .addNoTcpOptHdr (fun _ ↦ rfl) sk').then (quiet_unsetHdrCbFlags _)
  · rw [loadedId_of_not_kept hload (.inr (.inl hid))]
    exact (quiet_count .addErrorBadId (fun _ ↦ rfl) sk').then (quiet_setHdrCbFlags _)
  · rw [loadedId_of_not_kept hload (.inr (.inr hsk))]
    exact .refl sk'
  all_goals
    rw [loadedId_of_kept hload (Bool.of_not_eq_true herr) hid
      (Bool.of_not_eq_false hsk)]
    apply (hears_skStorageGet (some opt.serverId) sk').then
  · exact (quiet_count .addErrorBadId (fun _ ↦ rfl) _).then (quiet_setHdrCbFlags _)
  · exact (quiet_count .addErrorSysCalls (fun _ ↦ rfl) _).then (quiet_setHdrCbFlags _)
  · exact (quiet_setCbFlags _ _).then (quiet_setCbFlags _ _)
  · exact (quiet_setCbFlags _ _).then (quiet_count .addServerIdRead (fun _ ↦ rfl) _)

/-- Nothing is heard, and what is written for the socket counts as set. -/
structure Writes (opt : TcpOpt) (sk sk' : SkState) : Prop where
  sidStore : sk'.sidStore = sk.sidStore
  written : sk'.written = some opt
  serverIdSet : sk'.stats.serverIdSet = sk.stats.serverIdSet + 1

theorem Quiet.writes {sk' sk'' : SkState} (h : Quiet sk sk') (h' : Writes opt sk' sk'') :
    Writes opt sk sk'' where
  sidStore := by rw [h'.sidStore, h.sidStore, Option.or_none]
  written := h'.written
  serverIdSet := by rw [h'.serverIdSet, h.serverIdSet]

theorem Writes.then_quiet {sk' sk'' : SkState} (h : Writes opt sk sk') (h' : Quiet sk' sk'') :
    Writes opt sk sk'' where
  sidStore := by rw [h'.sidStore, Option.or_none, h.sidStore]
  written := h'.written.trans h.written
  serverIdSet := by rw [h'.serverIdSet, h.serverIdSet]

theorem handleActiveWriteHdrOpt_announces :
    Quiet sk (handleActiveWriteHdrOpt skops sk).2 ∨
      Writes ⟨TCP_HDR_OPT_KIND, TCP_HDR_OPT_LEN, (skops.readId sk.sidStore).getD 0⟩ sk
        (handleActiveWriteHdrOpt skops sk).2 := by
  unfold handleActiveWriteHdrOpt
  rw [skStorageGet_none]
  dsimp only
  cases skops.readId sk.sidStore with
  | none =>
    have hmissed : Quiet sk (sk.count .addErrorBadId) :=
      quiet_count .addErrorBadId (fun _ ↦ rfl) sk
    split_ifs
    · exact .inl (.refl sk)
    · exact .inr (hmissed.writes ⟨rfl, rfl, rfl⟩)
    · contradiction
    · exact .inl (hmissed.then (quiet_count .addErrorWriteOpt (fun _ ↦ rfl) _))
    · contradiction
  | some id =>
    split_ifs
    · exact .inl (.refl sk)
    · contradiction
    · exact .inr ⟨rfl, rfl, rfl⟩
    · contradiction
    · exact .inl (quiet_count .addErrorWriteOpt (fun _ ↦ rfl) sk)

theorem handlePassiveWriteHdrOpt_announces {sInfo : ServerInfo} :
    Quiet sk (handlePassiveWriteHdrOpt skops sInfo sk).2 ∨
      Writes ⟨TCP_SRV_HDR_OPT_KIND, TCP_HDR_OPT_LEN, sInfo.serverId⟩ sk
        (handlePassiveWriteHdrOpt skops sInfo sk).2 := by
  unfold handlePassiveWriteHdrOpt
  dsimp only
  split_ifs
  · exact .inl (quiet_count .addIgnoringDueToKde (fun _ ↦ rfl) sk)
  · exact .inr ⟨rfl, rfl, rfl⟩
  · exact .inl (quiet_count .addErrorWriteOpt (fun _ ↦ rfl) sk)

end Client

/-! ## One callback, and all of them -/

section Run

variable {skops : SkOps} {sk : SkState} {port : BitVec 32}

theorem handleActiveCb_announces :
    Hears skops.heard sk (handleActiveCb skops sk).2 ∨
      skops.heard = none ∧
        Writes ⟨TCP_HDR_OPT_KIND, TCP_HDR_OPT_LEN, (skops.readId sk.sidStore).getD 0⟩ sk
          (handleActiveCb skops sk).2 := by
  unfold handleActiveCb SkOps.heard
  cases skops.op with
  | parseHdrOpt =>
    dsimp only
    split_ifs
    · exact .inl hears_handleActiveParseHdr
    · exact .inl (.refl sk)
  | hdrOptLen =>
    dsimp only
    split_ifs
    · exact .inl (quiet_handleHdrOptLen sk)
    · exact .inl (.refl sk)
  | writeHdrOpt =>
    dsimp only
    split_ifs
    · exact handleActiveWriteHdrOpt_announces.imp_right fun h ↦ ⟨rfl, h⟩
    · exact .inl (.refl sk)
  | activeEstablished => exact .inl hears_handleActiveEstab
  | tcpConnect | passiveEstablished | tcpListen | other => exact .inl (.refl sk)

theorem quiet_handlePassiveParseHdr {sInfo : ServerInfo} :
    Quiet sk (handlePassiveParseHdr skops sInfo sk).2 := by
  unfold handlePassiveParseHdr
  dsimp only
  split_ifs
  · exact quiet_count .addNoTcpOptHdr (fun _ ↦ rfl) sk
  · exact quiet_count .addErrorBadId (fun _ ↦ rfl) sk
  · exact quiet_count .addErrorBadId (fun _ ↦ rfl) sk
  · exact (quiet_count .addServerIdRead (fun _ ↦ rfl) sk).then (quiet_unsetHdrCbFlags _)

theorem quiet_handlePassiveEstab {sInfo : ServerInfo} :
    Quiet sk (handlePassiveEstab skops sInfo sk).2 := by
  unfold handlePassiveEstab
  dsimp only
  split_ifs
  · exact ((quiet_count .addNoTcpOptHdr (fun _ ↦ rfl) sk).then (quiet_setCbFlags _ _)).then
      (quiet_setCbFlags _ _)
  · exact (quiet_count .addErrorBadId (fun _ ↦ rfl) sk).then (quiet_setCbFlags _ _)
  · exact (quiet_count .addServerIdRead (fun _ ↦ rfl) sk).then (quiet_unsetHdrCbFlags _)

theorem handlePassiveCb_announces {sInfo : ServerInfo} :
    Quiet sk (handlePassiveCb skops sInfo sk).2 ∨
      Writes ⟨TCP_SRV_HDR_OPT_KIND, TCP_HDR_OPT_LEN, sInfo.serverId⟩ sk
        (handlePassiveCb skops sInfo sk).2 := by
  unfold handlePassiveCb
  cases skops.op with
  | tcpListen => exact .inl (quiet_setCbFlags _ sk)
  | parseHdrOpt => exact .inl quiet_handlePassiveParseHdr
  | hdrOptLen =>
    dsimp only
    split_ifs
    · exact .inl (quiet_handleHdrOptLen sk)
    · exact .inl (.refl sk)
  | writeHdrOpt =>
    dsimp only
    split_ifs
    · exact handlePassiveWriteHdrOpt_announces
    · exact .inl (.refl sk)
  | passiveEstablished => exact .inl quiet_handlePassiveEstab
  | tcpConnect | activeEstablished | other => exact .inl (.refl sk)

/-- Where the program writes, it has heard nothing. -/
theorem tcpPktRouter_announces (cb : Callback) :
    Hears cb.heard sk (tcpPktRouter port cb.hasStats cb.info cb.skops sk).2 ∨
      cb.heard = none ∧ ∃ opt, cb.Announces sk.sidStore opt ∧
        Writes opt sk (tcpPktRouter port cb.hasStats cb.info cb.skops sk).2 := by
  have hskipped : Quiet sk (sk.count .addConnsSkipped) :=
    quiet_count .addConnsSkipped (fun _ ↦ rfl) sk
  obtain ⟨hasStats, info, skops⟩ := cb
  unfold tcpPktRouter Callback.heard
  cases hasStats with
  | false => cases info <;> exact .inl (.refl sk)
  | true =>
    cases info with
    | none => exact .inl hskipped
    | some info =>
      cases hmode : info.runningMode with
      | server =>
        simp only [hmode, Bool.true_eq_false, reduceCtorEq, and_false, true_and, if_false]
        split_ifs
        · exact .inl hskipped
        · apply handlePassiveCb_announces.imp
          · exact fun h ↦ h.then (quiet_countSkipped _)
          · exact fun h ↦
              ⟨_, ⟨info, rfl, .inl ⟨hmode, rfl⟩⟩, h.then_quiet (quiet_countSkipped _)⟩
      | client =>
        simp only [hmode, Bool.true_eq_false, reduceCtorEq, false_and, and_true, if_false, if_true]
        apply handleActiveCb_announces.imp
        · exact fun h ↦ h.then (quiet_countSkipped _)
        · exact fun ⟨hheard, h⟩ ↦
            ⟨hheard, _, ⟨info, rfl, .inr ⟨hmode, rfl⟩⟩, h.then_quiet (quiet_countSkipped _)⟩
      | defaultReserved =>
        simp only [hmode, Bool.true_eq_false, reduceCtorEq, false_and, and_false, if_false]
        exact .inl hskipped

/-- What holds of a socket after the callbacks. -/
structure Announced (stats : Stats) (callbacks : List Callback) (talk : Talk) : Prop where
  sidStore : talk.sk.sidStore = callbacks.findSome? Callback.heard
  serverIdSet :
    talk.sk.stats.serverIdSet = stats.serverIdSet + BitVec.ofNat 64 talk.written.length
  written : ∀ opt ∈ talk.written, ∃ earlier cb later,
    callbacks = earlier ++ cb :: later ∧
      cb.Announces (earlier.findSome? Callback.heard) opt

variable {stats : Stats} {callbacks : List Callback} {talk : Talk}

theorem findSome?_heard_concat (cb : Callback) :
    (callbacks ++ [cb]).findSome? Callback.heard =
      (callbacks.findSome? Callback.heard).or cb.heard := by
  rw [List.findSome?_append, List.findSome?_singleton]

theorem Announced.written_concat (h : Announced stats callbacks talk) (cb : Callback) :
    ∀ opt ∈ talk.written, ∃ earlier cb' later, callbacks ++ [cb] = earlier ++ cb' :: later ∧
      cb'.Announces (earlier.findSome? Callback.heard) opt := by
  intro opt hopt
  obtain ⟨earlier, cb', later, rfl, hannounces⟩ := h.written opt hopt
  exact ⟨earlier, cb', later ++ [cb], by rw [List.append_assoc, List.cons_append], hannounces⟩

theorem Announced.hears {sk' : SkState} {cb : Callback} (h : Announced stats callbacks talk)
    (hcb : Hears cb.heard { talk.sk with written := none } sk') :
    Announced stats (callbacks ++ [cb]) ⟨sk', talk.written⟩ where
  sidStore := by rw [findSome?_heard_concat, ← h.sidStore, hcb.sidStore]
  serverIdSet := hcb.serverIdSet.trans h.serverIdSet
  written := h.written_concat cb

theorem Announced.writes {sk' : SkState} {cb : Callback} {opt : TcpOpt}
    (h : Announced stats callbacks talk) (hheard : cb.heard = none)
    (hannounces : cb.Announces talk.sk.sidStore opt)
    (hcb : Writes opt { talk.sk with written := none } sk') :
    Announced stats (callbacks ++ [cb]) ⟨sk', talk.written ++ [opt]⟩ where
  sidStore := by
    rw [findSome?_heard_concat, hheard, Option.or_none, ← h.sidStore, hcb.sidStore]
  serverIdSet := by
    rw [hcb.serverIdSet, h.serverIdSet, List.length_append, List.length_singleton,
      BitVec.ofNat_add, BitVec.add_assoc]
    rfl
  written := by
    intro opt' hopt'
    rcases List.mem_append.mp hopt' with hearlier | hnow
    · exact h.written_concat cb opt' hearlier
    · obtain rfl := List.mem_singleton.mp hnow
      exact ⟨callbacks, cb, [], rfl, h.sidStore ▸ hannounces⟩

theorem Announced.callback (h : Announced stats callbacks talk) (cb : Callback) :
    Announced stats (callbacks ++ [cb]) (talk.callback port cb) := by
  have hcb := @tcpPktRouter_announces { talk.sk with written := none } port cb
  unfold Talk.callback
  dsimp only
  rcases hcb with hhears | ⟨hheard, opt, hannounces, hwrites⟩
  · rw [hhears.written, Option.toList_none, List.append_nil]
    exact h.hears hhears
  · rw [hwrites.written, Option.toList_some]
    exact h.writes hheard hannounces hwrites

end Run

section Announcements

variable (port cbFlags : BitVec 32) (stats : Stats) (callbacks : List Callback)

theorem announced_talk : Announced stats callbacks (talk port cbFlags stats callbacks) := by
  induction callbacks using List.reverseRecOn with
  | nil => exact ⟨rfl, (BitVec.add_zero _).symm, fun _ hopt ↦ absurd hopt List.not_mem_nil⟩
  | append_singleton callbacks cb ih =>
    unfold talk at ih ⊢
    rw [List.foldl_append]
    exact ih.callback cb

/-- The socket keeps the first id that it heard as a client. Every option that was written has been
counted, and is what its callback announces: the id of the server's own entry, or the id that the
client had heard by then. -/
theorem talk_announces :
    (talk port cbFlags stats callbacks).sk.sidStore = callbacks.findSome? Callback.heard ∧
      (talk port cbFlags stats callbacks).sk.stats.serverIdSet =
        stats.serverIdSet +
          BitVec.ofNat 64 (talk port cbFlags stats callbacks).written.length ∧
      ∀ opt ∈ (talk port cbFlags stats callbacks).written, ∃ earlier cb later,
        callbacks = earlier ++ cb :: later ∧
          cb.Announces (earlier.findSome? Callback.heard) opt :=
  have h := announced_talk port cbFlags stats callbacks
  ⟨h.sidStore, h.serverIdSet, h.written⟩

end Announcements

end Vsoshlb.Tpr.SockOps

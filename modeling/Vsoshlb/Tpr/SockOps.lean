import Vsoshlb.Tpr.PktRouter

/-!
# The sockops program

The kernel calls `tcp_pkt_router` at certain points in the life of a TCP socket. The program of a
server writes its id into the SYN-ACK; the program of a client keeps that id in the storage of its
socket and writes it into every segment from then on. The flags of a socket say which callbacks the
kernel makes for it.
-/

namespace Vsoshlb.Tpr.SockOps

/-- `struct stats`. -/
structure Stats where
  serverIdRead : BitVec 64
  serverIdSet : BitVec 64
  connsSkipped : BitVec 64
  noTcpOptHdr : BitVec 64
  errorBadId : BitVec 64
  errorWriteOpt : BitVec 64
  errorSysCalls : BitVec 64
  ignoringDueToKde : BitVec 64
  legacyServerOpt : BitVec 64
  newServerOpt : BitVec 64
deriving DecidableEq

/-- `struct tcp_opt`. -/
structure TcpOpt where
  kind : BitVec 8
  len : BitVec 8
  serverId : BitVec 32
deriving DecidableEq

def TCP_SRV_HDR_OPT_KIND : BitVec 8 := 0xB6

def TCP_HDR_OPT_KIND : BitVec 8 := 0xB7

def KDE_CLT_TCP_HDR_OPT_KIND : BitVec 8 := 0xB8

def TCP_HDR_OPT_LEN : BitVec 8 := 6

def KDE_CLT_TCP_HDR_OPT_LEN : BitVec 32 := 2

def KDE_CLT_TCP_HDR_OPT_V2_LEN : BitVec 32 := 3

def CG_OK : BitVec 32 := 1

def CG_ERR : BitVec 32 := 0

def TCPHDR_SYN : BitVec 32 := 0x02

def TCPHDR_SYNACK : BitVec 32 := 0x12

def SUCCESS : BitVec 32 := 0

def PASS : BitVec 32 := -1

def BPF_SOCK_OPS_PARSE_UNKNOWN_HDR_OPT_CB_FLAG : BitVec 32 := 32

def BPF_SOCK_OPS_WRITE_HDR_OPT_CB_FLAG : BitVec 32 := 64

/-- The callbacks that the program tells apart. -/
inductive SockOp where
  | tcpConnect
  | activeEstablished
  | passiveEstablished
  | tcpListen
  | parseHdrOpt
  | hdrOptLen
  | writeHdrOpt
  | other
deriving DecidableEq, Repr

/-- `struct bpf_sock_ops`: what the callback is about, and what the helpers answer during it. -/
structure SkOps where
  op : SockOp
  skbTcpFlags : BitVec 32
  localPort : BitVec 32
  hasSk : Bool
  cbFlagsSet : BitVec 32 → BitVec 32
  loadHdrOpt : BitVec 8 → BitVec 32 × TcpOpt
  loadSynHdrOpt : BitVec 8 → BitVec 32
  reserveHdrOpt : BitVec 32
  storeHdrOpt : TcpOpt → BitVec 32
  hasSkStorage : Bool

/-- A socket: its callback flags, and its id in `sk_sid_store`. -/
structure Socket where
  cbFlags : BitVec 32
  sidStore : Option (BitVec 32)
deriving DecidableEq

/-- What a callback changes: the socket, the counters of the host, and the header that is being
written, if there is room reserved in it. -/
structure SkState extends Socket where
  stats : Stats
  reserved : Bool
  written : Option TcpOpt
deriving DecidableEq

def SkState.count (f : Stats → Stats) (sk : SkState) : SkState :=
  { sk with
    stats := f sk.stats }

namespace Stats

def addServerIdRead (stats : Stats) : Stats :=
  { stats with
    serverIdRead := stats.serverIdRead + 1 }

def addServerIdSet (stats : Stats) : Stats :=
  { stats with
    serverIdSet := stats.serverIdSet + 1 }

def addConnsSkipped (stats : Stats) : Stats :=
  { stats with
    connsSkipped := stats.connsSkipped + 1 }

def addNoTcpOptHdr (stats : Stats) : Stats :=
  { stats with
    noTcpOptHdr := stats.noTcpOptHdr + 1 }

def addErrorBadId (stats : Stats) : Stats :=
  { stats with
    errorBadId := stats.errorBadId + 1 }

def addErrorWriteOpt (stats : Stats) : Stats :=
  { stats with
    errorWriteOpt := stats.errorWriteOpt + 1 }

def addErrorSysCalls (stats : Stats) : Stats :=
  { stats with
    errorSysCalls := stats.errorSysCalls + 1 }

def addIgnoringDueToKde (stats : Stats) : Stats :=
  { stats with
    ignoringDueToKde := stats.ignoringDueToKde + 1 }

def addNewServerOpt (stats : Stats) : Stats :=
  { stats with
    newServerOpt := stats.newServerOpt + 1 }

end Stats

/-! ## What both sides do -/

/-- `bpf_sock_ops_cb_flags_set`, with the count of its errors. -/
def setCbFlags (skops : SkOps) (flags : BitVec 32) (sk : SkState) : BitVec 32 × SkState :=
  if skops.cbFlagsSet flags = 0 then
    (0, { sk with
      cbFlags := flags })
  else
    (skops.cbFlagsSet flags, sk.count .addErrorSysCalls)

def setWriteHdrCbFlags (skops : SkOps) (sk : SkState) : BitVec 32 × SkState :=
  setCbFlags skops (sk.cbFlags ||| BPF_SOCK_OPS_WRITE_HDR_OPT_CB_FLAG) sk

def unsetWriteHdrCbFlags (skops : SkOps) (sk : SkState) : BitVec 32 × SkState :=
  setCbFlags skops (sk.cbFlags &&& ~~~BPF_SOCK_OPS_WRITE_HDR_OPT_CB_FLAG) sk

def setParseHdrCbFlags (skops : SkOps) (sk : SkState) : BitVec 32 × SkState :=
  setCbFlags skops (sk.cbFlags ||| BPF_SOCK_OPS_PARSE_UNKNOWN_HDR_OPT_CB_FLAG) sk

def unsetParseHdrCbFlags (skops : SkOps) (sk : SkState) : BitVec 32 × SkState :=
  setCbFlags skops (sk.cbFlags &&& ~~~BPF_SOCK_OPS_PARSE_UNKNOWN_HDR_OPT_CB_FLAG) sk

/-- `err = unset_parse_hdr_cb_flags(); err |= unset_write_hdr_cb_flags()`. -/
def unsetHdrCbFlags (skops : SkOps) (sk : SkState) : BitVec 32 × SkState :=
  let parse := unsetParseHdrCbFlags skops sk
  let write := unsetWriteHdrCbFlags skops parse.2
  (parse.1 ||| write.1, write.2)

/-- A server id that is to be sent again: both callbacks from now on. -/
def setHdrCbFlags (skops : SkOps) (sk : SkState) : SkState :=
  (setParseHdrCbFlags skops (setWriteHdrCbFlags skops sk).2).2

def handleHdrOptLen (skops : SkOps) (sk : SkState) : BitVec 32 × SkState :=
  if skops.reserveHdrOpt = 0 then
    (0, { sk with
      reserved := true })
  else
    (skops.reserveHdrOpt, sk.count .addErrorSysCalls)

/-- `bpf_sk_storage_get` on `sk_sid_store`. Where there is no entry, one is created with the value,
if one is given. -/
def skStorageGet (skops : SkOps) (value : Option (BitVec 32)) (sk : SkState) :
    Option (BitVec 32) × SkState :=
  if skops.hasSkStorage = false then
    (none, sk)
  else
    let id := sk.sidStore.or value
    (id, { sk with
      sidStore := id })

/-! ## The active side -/

def loadTprOpt (skops : SkOps) (sk : SkState) : (BitVec 32 × TcpOpt) × SkState :=
  let loaded := skops.loadHdrOpt TCP_SRV_HDR_OPT_KIND
  if loaded.1.slt 0 then (loaded, sk) else (loaded, sk.count .addNewServerOpt)

def handleActiveParseHdr (skops : SkOps) (sk : SkState) : BitVec 32 × SkState :=
  let loaded := loadTprOpt skops sk
  let err := loaded.1.1
  let hdrOpt := loaded.1.2
  let sk := loaded.2
  if err.slt 0 then
    (err, (unsetHdrCbFlags skops (sk.count .addNoTcpOptHdr)).2)
  else if hdrOpt.serverId = 0 then
    (PASS, sk.count .addErrorBadId)
  else if skops.hasSk = false then
    (PASS, sk)
  else
    let got := skStorageGet skops (some hdrOpt.serverId) sk
    match got.1 with
    | none => (PASS, got.2.count .addErrorSysCalls)
    | some id =>
      if id = hdrOpt.serverId then
        (SUCCESS, (unsetParseHdrCbFlags skops (got.2.count .addServerIdRead)).2)
      else if id ≠ 0 then
        (SUCCESS, got.2.count .addErrorBadId)
      else
        (SUCCESS, got.2)

/-- The id that is there is the one to send. Without one the id is 0. -/
def handleActiveWriteHdrOpt (skops : SkOps) (sk : SkState) : BitVec 32 × SkState :=
  if skops.hasSk = false then
    (PASS, sk)
  else
    let existing := skStorageGet skops none sk
    let sk := if existing.1.isNone then existing.2.count .addErrorBadId else existing.2
    let hdrOpt : TcpOpt := ⟨TCP_HDR_OPT_KIND, TCP_HDR_OPT_LEN, existing.1.getD 0⟩
    if skops.storeHdrOpt hdrOpt = 0 then
      (SUCCESS,
        { sk.count .addServerIdSet with
          written := some hdrOpt })
    else
      (PASS, sk.count .addErrorWriteOpt)

def handleActiveEstab (skops : SkOps) (sk : SkState) : BitVec 32 × SkState :=
  let loaded := loadTprOpt skops sk
  let err := loaded.1.1
  let hdrOpt := loaded.1.2
  let sk := loaded.2
  if err.slt 0 then
    unsetHdrCbFlags skops (sk.count .addNoTcpOptHdr)
  else if hdrOpt.serverId = 0 then
    (PASS, setHdrCbFlags skops (sk.count .addErrorBadId))
  else if skops.hasSk = false then
    (PASS, sk)
  else
    let got := skStorageGet skops (some hdrOpt.serverId) sk
    if got.1 ≠ some hdrOpt.serverId then
      let sk := if got.1.isSome then got.2.count .addErrorBadId else got.2.count .addErrorSysCalls
      (PASS, setHdrCbFlags skops sk)
    else
      let write := setWriteHdrCbFlags skops got.2
      if write.1 ≠ 0 then
        let parse := setParseHdrCbFlags skops write.2
        (write.1 ||| parse.1, parse.2)
      else
        (SUCCESS, write.2.count .addServerIdRead)

def handleActiveCb (skops : SkOps) (sk : SkState) : BitVec 32 × SkState :=
  match skops.op with
  | .parseHdrOpt =>
    if skops.skbTcpFlags &&& TCPHDR_SYNACK = TCPHDR_SYNACK then
      handleActiveParseHdr skops sk
    else
      (SUCCESS, sk)
  | .hdrOptLen =>
    if skops.skbTcpFlags &&& TCPHDR_SYN ≠ TCPHDR_SYN then handleHdrOptLen skops sk
    else (SUCCESS, sk)
  | .writeHdrOpt =>
    if skops.skbTcpFlags &&& TCPHDR_SYN ≠ TCPHDR_SYN then
      handleActiveWriteHdrOpt skops sk
    else
      (SUCCESS, sk)
  | .activeEstablished => handleActiveEstab skops sk
  | .tcpConnect | .passiveEstablished | .tcpListen | .other => (SUCCESS, sk)

/-! ## The passive side -/

def hasSynWithKdeOpt (skops : SkOps) : Bool :=
  let ret := skops.loadSynHdrOpt KDE_CLT_TCP_HDR_OPT_KIND
  ret = KDE_CLT_TCP_HDR_OPT_LEN || ret = KDE_CLT_TCP_HDR_OPT_V2_LEN

/-- `kde_enabled` looks up the same entry of `server_infos` again. -/
def shouldIgnoreDueToKde (skops : SkOps) (sInfo : ServerInfo) : Bool :=
  sInfo.kdeEnabled && hasSynWithKdeOpt skops

def handlePassiveParseHdr (skops : SkOps) (sInfo : ServerInfo) (sk : SkState) :
    BitVec 32 × SkState :=
  let loaded := skops.loadHdrOpt TCP_HDR_OPT_KIND
  let err := loaded.1
  let hdrOpt := loaded.2
  if err.slt 0 then
    (err, sk.count .addNoTcpOptHdr)
  else if hdrOpt.serverId = 0 then
    (PASS, sk.count .addErrorBadId)
  else if sInfo.serverId ≠ hdrOpt.serverId then
    (PASS, sk.count .addErrorBadId)
  else
    unsetHdrCbFlags skops (sk.count .addServerIdRead)

def handlePassiveWriteHdrOpt (skops : SkOps) (sInfo : ServerInfo) (sk : SkState) :
    BitVec 32 × SkState :=
  if shouldIgnoreDueToKde skops sInfo then
    (SUCCESS, sk.count .addIgnoringDueToKde)
  else
    let hdrOpt : TcpOpt := ⟨TCP_SRV_HDR_OPT_KIND, TCP_HDR_OPT_LEN, sInfo.serverId⟩
    if skops.storeHdrOpt hdrOpt = 0 then
      (SUCCESS,
        { sk.count .addServerIdSet with
          written := some hdrOpt })
    else
      (skops.storeHdrOpt hdrOpt, sk.count .addErrorWriteOpt)

def handlePassiveEstab (skops : SkOps) (sInfo : ServerInfo) (sk : SkState) :
    BitVec 32 × SkState :=
  let loaded := skops.loadHdrOpt TCP_HDR_OPT_KIND
  let err := loaded.1
  let hdrOpt := loaded.2
  if err.slt 0 then
    let sk := sk.count .addNoTcpOptHdr
    (err, (unsetParseHdrCbFlags skops (unsetWriteHdrCbFlags skops sk).2).2)
  else if sInfo.serverId ≠ hdrOpt.serverId then
    setParseHdrCbFlags skops (sk.count .addErrorBadId)
  else
    unsetHdrCbFlags skops (sk.count .addServerIdRead)

def handlePassiveCb (skops : SkOps) (sInfo : ServerInfo) (sk : SkState) : BitVec 32 × SkState :=
  match skops.op with
  | .tcpListen => setWriteHdrCbFlags skops sk
  | .parseHdrOpt => handlePassiveParseHdr skops sInfo sk
  | .hdrOptLen =>
    if skops.skbTcpFlags &&& TCPHDR_SYNACK = TCPHDR_SYNACK ∧
        shouldIgnoreDueToKde skops sInfo = false then
      handleHdrOptLen skops sk
    else
      (SUCCESS, sk)
  | .writeHdrOpt =>
    if skops.skbTcpFlags &&& TCPHDR_SYNACK = TCPHDR_SYNACK then
      handlePassiveWriteHdrOpt skops sInfo sk
    else
      (SUCCESS, sk)
  | .passiveEstablished => handlePassiveEstab skops sInfo sk
  | .tcpConnect | .activeEstablished | .other => (SUCCESS, sk)

/-! ## The program -/

/-- A callback that reports an error counts as a skipped connection. -/
def countSkipped (result : BitVec 32 × SkState) : SkState :=
  if result.1 = 0 then result.2 else result.2.count .addConnsSkipped

/-- `tcp_pkt_router`, with the entries of `tpr_stats` and `server_infos` that are found. -/
def tcpPktRouter (gServerExclusivePort : BitVec 32) (hasStats : Bool) (info : Option ServerInfo)
    (skops : SkOps) (sk : SkState) : BitVec 32 × SkState :=
  if hasStats = false then
    (CG_ERR, sk)
  else
    match info with
    | none => (CG_OK, sk.count .addConnsSkipped)
    | some sInfo =>
      if sInfo.runningMode = .server ∧ gServerExclusivePort ≠ 0 ∧
          skops.localPort ≠ gServerExclusivePort then
        (CG_OK, sk.count .addConnsSkipped)
      else
        match sInfo.runningMode with
        | .server => (CG_OK, countSkipped (handlePassiveCb skops sInfo sk))
        | .client => (CG_OK, countSkipped (handleActiveCb skops sk))
        | .defaultReserved => (CG_OK, sk.count .addConnsSkipped)

end Vsoshlb.Tpr.SockOps

import Vsoshlb.Library.Runs
import Vsoshlb.Tpr.SockOps

/-!
# The echo of the server id

A server socket and a client socket, each with the program of its side, and what they send each
other. The network may lose a segment, deliver it again, or deliver a later one first: any segment
that was ever sent may arrive at any time. All helpers succeed, and the server pays no heed to KDE.
-/

namespace Vsoshlb.Tpr.SockOps

/-- The option with the id in a segment, where there is one. -/
abbrev Segment := Option TcpOpt

def ENOMSG : BitVec 32 := 42

/-- `bpf_load_hdr_opt` looks for an option of the kind in the segment, and gives its length. -/
def loadFrom (skb : Segment) (kind : BitVec 8) : BitVec 32 × TcpOpt :=
  match skb with
  | some opt => if opt.kind = kind then (opt.len.setWidth 32, opt) else (-ENOMSG, ⟨kind, 0, 0⟩)
  | none => (-ENOMSG, ⟨kind, 0, 0⟩)

/-- A callback about a segment, with helpers that succeed. -/
def SkOps.succeeding (op : SockOp) (skbTcpFlags localPort : BitVec 32) (skb : Segment) : SkOps where
  op := op
  skbTcpFlags := skbTcpFlags
  localPort := localPort
  hasSk := true
  cbFlagsSet _ := 0
  loadHdrOpt := loadFrom skb
  loadSynHdrOpt _ := -ENOMSG
  reserveHdrOpt := 0
  storeHdrOpt _ := 0
  hasSkStorage := true

/-- The id of the server, and the ports. -/
structure Setup where
  serverId : BitVec 32
  gServerExclusivePort : BitVec 32
  serverPort : BitVec 32
  clientPort : BitVec 32
  clientInfo : ServerInfo

/-- The program on the server side handles a callback. -/
def Setup.serverCb (setup : Setup) (op : SockOp) (skbTcpFlags : BitVec 32) (skb : Segment)
    (sk : SkState) : SkState :=
  (tcpPktRouter setup.gServerExclusivePort true (some ⟨.server, false, setup.serverId⟩)
    (.succeeding op skbTcpFlags setup.serverPort skb) sk).2

def Setup.clientCb (setup : Setup) (op : SockOp) (skbTcpFlags : BitVec 32) (skb : Segment)
    (sk : SkState) : SkState :=
  (tcpPktRouter setup.gServerExclusivePort true (some setup.clientInfo)
    (.succeeding op skbTcpFlags setup.clientPort skb) sk).2

/-- The kernel sends a segment. It asks for options only where the flag is set, and has them written
only where there is room. -/
def writeHeader (cb : SockOp → SkState → SkState) (socket : Socket) (stats : Stats) : SkState :=
  let sk : SkState := ⟨socket, stats, false, none⟩
  if socket.cbFlags &&& BPF_SOCK_OPS_WRITE_HDR_OPT_CB_FLAG = 0 then
    sk
  else
    let sk := cb .hdrOptLen sk
    if sk.reserved then cb .writeHdrOpt sk else sk

/-- The listening socket, the socket of the connection on the server once there is one, the socket
of the client, and all that was ever sent. -/
structure Link where
  listener : Socket
  server : Option Socket
  serverStats : Stats
  client : Socket
  isEstablished : Bool
  clientStats : Stats
  synAcks : List Segment
  segments : List Segment
  replies : List Segment
deriving DecidableEq

/-- The server listens and the client connects. -/
def start (setup : Setup) (listenerFlags clientFlags : BitVec 32)
    (serverStats clientStats : Stats) : Link :=
  let listener := setup.serverCb .tcpListen 0 none ⟨⟨listenerFlags, none⟩, serverStats, false, none⟩
  let client := setup.clientCb .tcpConnect 0 none ⟨⟨clientFlags, none⟩, clientStats, false, none⟩
  { listener := listener.toSocket
    server := none
    serverStats := listener.stats
    client := client.toSocket
    isEstablished := false
    clientStats := client.stats
    synAcks := []
    segments := []
    replies := [] }

/-- What happens next: a segment is sent, or one arrives. The kernel also makes callbacks that the
programs do nothing about. -/
inductive Step where
  | serverSendsSynAck
  | clientEstablished (synAck : ℕ)
  | clientSends (tcpFlags : BitVec 32)
  | serverEstablished (segment : ℕ)
  | serverReads (tcpFlags : BitVec 32) (segment : ℕ)
  | serverSends (tcpFlags : BitVec 32)
  | clientReadsSynAck (synAck : ℕ)
  | clientReads (tcpFlags : BitVec 32) (reply : ℕ)
  | listenerOther (op : SockOp)
  | serverOther (op : SockOp)
  | clientOther (op : SockOp)
deriving DecidableEq

/-- The callbacks that concern neither a handshake nor a header. -/
def SockOp.isOther (op : SockOp) : Bool := op = .tcpConnect || op = .other

namespace Link

/-- The server after a callback for its socket. -/
def setServer (sk : SkState) (link : Link) : Link :=
  { link with
    server := some sk.toSocket
    serverStats := sk.stats }

def setClient (sk : SkState) (link : Link) : Link :=
  { link with
    client := sk.toSocket
    clientStats := sk.stats }

def setListener (sk : SkState) (link : Link) : Link :=
  { link with
    listener := sk.toSocket
    serverStats := sk.stats }

def serverState (socket : Socket) (link : Link) : SkState := ⟨socket, link.serverStats, false, none⟩

def clientState (link : Link) : SkState := ⟨link.client, link.clientStats, false, none⟩

end Link

/-- One step of either side. The socket of the connection starts with the flags of the listener. An
arrival is reported whether or not the flags of the socket ask for it. -/
def step (setup : Setup) (link : Link) : Step → Option Link
  | .serverSendsSynAck =>
    let sk := writeHeader (setup.serverCb · TCPHDR_SYNACK none) link.listener link.serverStats
    some { link.setListener sk with
      synAcks := link.synAcks ++ [sk.written] }
  | .clientEstablished synAck =>
    if link.isEstablished then
      none
    else
      link.synAcks[synAck]?.map fun skb ↦
        { link.setClient (setup.clientCb .activeEstablished TCPHDR_SYNACK skb link.clientState) with
          isEstablished := true }
  | .clientSends tcpFlags =>
    if link.isEstablished ∧ tcpFlags &&& TCPHDR_SYN ≠ TCPHDR_SYN then
      let sk := writeHeader (setup.clientCb · tcpFlags none) link.client link.clientStats
      some { link.setClient sk with
        segments := link.segments ++ [sk.written] }
    else
      none
  | .serverEstablished segment =>
    if link.server.isSome then
      none
    else
      link.segments[segment]?.map fun skb ↦
        link.setServer (setup.serverCb .passiveEstablished 0 skb
          (link.serverState ⟨link.listener.cbFlags, none⟩))
  | .serverReads tcpFlags segment =>
    link.server.bind fun socket ↦ link.segments[segment]?.map fun skb ↦
      link.setServer (setup.serverCb .parseHdrOpt tcpFlags skb (link.serverState socket))
  | .serverSends tcpFlags =>
    if tcpFlags &&& TCPHDR_SYN ≠ TCPHDR_SYN then
      link.server.map fun socket ↦
        let sk := writeHeader (setup.serverCb · tcpFlags none) socket link.serverStats
        { link.setServer sk with
          replies := link.replies ++ [sk.written] }
    else
      none
  | .clientReadsSynAck synAck =>
    if link.isEstablished then
      link.synAcks[synAck]?.map fun skb ↦
        link.setClient (setup.clientCb .parseHdrOpt TCPHDR_SYNACK skb link.clientState)
    else
      none
  | .clientReads tcpFlags reply =>
    if link.isEstablished ∧ tcpFlags &&& TCPHDR_SYN ≠ TCPHDR_SYN then
      link.replies[reply]?.map fun skb ↦
        link.setClient (setup.clientCb .parseHdrOpt tcpFlags skb link.clientState)
    else
      none
  | .listenerOther op =>
    if op.isOther then
      some (link.setListener (setup.serverCb op 0 none (link.serverState link.listener)))
    else
      none
  | .serverOther op =>
    if op.isOther then
      link.server.map fun socket ↦
        link.setServer (setup.serverCb op 0 none (link.serverState socket))
    else
      none
  | .clientOther op =>
    if op.isOther then
      some (link.setClient (setup.clientCb op 0 none link.clientState))
    else
      none

/-! ## The callbacks -/

/-- The sockets of the setup belong to the programs of a server and of a client, and the server has
an id. -/
structure Setup.Valid (setup : Setup) : Prop where
  serverId : setup.serverId ≠ 0
  serverPort : setup.gServerExclusivePort = 0 ∨ setup.serverPort = setup.gServerExclusivePort
  client : setup.clientInfo.runningMode = .client

def Setup.synAckOpt (setup : Setup) : TcpOpt :=
  ⟨TCP_SRV_HDR_OPT_KIND, TCP_HDR_OPT_LEN, setup.serverId⟩

def Setup.echoOpt (setup : Setup) : TcpOpt := ⟨TCP_HDR_OPT_KIND, TCP_HDR_OPT_LEN, setup.serverId⟩

def unsetFlags (flags : BitVec 32) : BitVec 32 :=
  flags &&& ~~~BPF_SOCK_OPS_PARSE_UNKNOWN_HDR_OPT_CB_FLAG &&& ~~~BPF_SOCK_OPS_WRITE_HDR_OPT_CB_FLAG

/-! ### Where the option is there -/

section Handlers

variable {skops : SkOps} {sInfo : ServerInfo} {sk : SkState} (opt : TcpOpt)

theorem setCbFlags_of_succeeding (hset : ∀ flags, skops.cbFlagsSet flags = 0) (flags : BitVec 32) :
    setCbFlags skops flags sk =
      (SUCCESS,
        { sk with
          cbFlags := flags }) :=
  if_pos (hset flags)

theorem unsetHdrCbFlags_of_succeeding (hset : ∀ flags, skops.cbFlagsSet flags = 0) :
    unsetHdrCbFlags skops sk =
      (SUCCESS,
        { sk with
          cbFlags := unsetFlags sk.cbFlags }) := by
  simp only [unsetHdrCbFlags, unsetParseHdrCbFlags, unsetWriteHdrCbFlags,
    setCbFlags_of_succeeding hset]
  rfl

theorem handlePassiveEstab_of_own (hload : skops.loadHdrOpt TCP_HDR_OPT_KIND = (6, opt))
    (hown : sInfo.serverId = opt.serverId) (hset : ∀ flags, skops.cbFlagsSet flags = 0) :
    handlePassiveEstab skops sInfo sk = (SUCCESS,
      { sk.count .addServerIdRead with
        cbFlags := unsetFlags sk.cbFlags }) := by
  simp [handlePassiveEstab, SkState.count, unsetHdrCbFlags_of_succeeding hset, hload, hown]

theorem handlePassiveParseHdr_of_own (hload : skops.loadHdrOpt TCP_HDR_OPT_KIND = (6, opt))
    (hown : sInfo.serverId = opt.serverId) (hid : opt.serverId ≠ 0#32)
    (hset : ∀ flags, skops.cbFlagsSet flags = 0) :
    handlePassiveParseHdr skops sInfo sk = (SUCCESS,
      { sk.count .addServerIdRead with
        cbFlags := unsetFlags sk.cbFlags }) := by
  simp [handlePassiveParseHdr, SkState.count, unsetHdrCbFlags_of_succeeding hset, hload, hown, hid]

theorem handleActiveEstab_of_some (hload : skops.loadHdrOpt TCP_SRV_HDR_OPT_KIND = (6, opt))
    (hid : opt.serverId ≠ 0#32) (hsk : skops.hasSk = true) (hstorage : skops.hasSkStorage = true)
    (hset : ∀ flags, skops.cbFlagsSet flags = 0) (hempty : sk.sidStore = none) :
    handleActiveEstab skops sk = (SUCCESS,
      { (sk.count .addNewServerOpt).count .addServerIdRead with
        cbFlags := sk.cbFlags ||| BPF_SOCK_OPS_WRITE_HDR_OPT_CB_FLAG
        sidStore := some opt.serverId }) := by
  simp [handleActiveEstab, loadTprOpt, skStorageGet, setWriteHdrCbFlags, setCbFlags, SkState.count,
    hload, hid, hsk, hstorage, hset, hempty]

theorem handleActiveParseHdr_of_same (hload : skops.loadHdrOpt TCP_SRV_HDR_OPT_KIND = (6, opt))
    (hid : opt.serverId ≠ 0#32) (hsk : skops.hasSk = true) (hstorage : skops.hasSkStorage = true)
    (hset : ∀ flags, skops.cbFlagsSet flags = 0) (hstore : sk.sidStore = some opt.serverId) :
    handleActiveParseHdr skops sk = (SUCCESS,
      { (sk.count .addNewServerOpt).count .addServerIdRead with
        cbFlags := sk.cbFlags &&& ~~~BPF_SOCK_OPS_PARSE_UNKNOWN_HDR_OPT_CB_FLAG }) := by
  simp [handleActiveParseHdr, loadTprOpt, skStorageGet, unsetParseHdrCbFlags, setCbFlags,
    SkState.count, hload, hid, hsk, hstorage, hset, hstore]

theorem handleActiveWriteHdrOpt_of_some {id : BitVec 32} (hsk : skops.hasSk = true)
    (hstorage : skops.hasSkStorage = true) (hstored : ∀ opt, skops.storeHdrOpt opt = 0)
    (hstore : sk.sidStore = some id) :
    handleActiveWriteHdrOpt skops sk = (SUCCESS,
      { sk.count .addServerIdSet with
        written := some ⟨TCP_HDR_OPT_KIND, TCP_HDR_OPT_LEN, id⟩ }) := by
  have hsame : ({ cbFlags := sk.cbFlags, sidStore := some id } : Socket) = sk.toSocket := by
    rw [← hstore]
  simp [handleActiveWriteHdrOpt, skStorageGet, SkState.count, hsk, hstorage, hstored, hstore, hsame]

end Handlers

section Callbacks

variable {setup : Setup} (h : setup.Valid) (sk : SkState)
include h

theorem Setup.Valid.serverCb_eq (op : SockOp) (tcpFlags : BitVec 32) (skb : Segment) :
    setup.serverCb op tcpFlags skb sk = countSkipped
      (handlePassiveCb (.succeeding op tcpFlags setup.serverPort skb)
        ⟨.server, false, setup.serverId⟩ sk) := by
  have hport : ¬ (RunningMode.server = .server ∧ setup.gServerExclusivePort ≠ 0 ∧
      setup.serverPort ≠ setup.gServerExclusivePort) :=
    fun hne ↦ h.serverPort.elim hne.2.1 hne.2.2
  exact congrArg Prod.snd (if_neg hport)

theorem Setup.Valid.clientCb_eq (op : SockOp) (tcpFlags : BitVec 32) (skb : Segment) :
    setup.clientCb op tcpFlags skb sk = countSkipped
      (handleActiveCb (.succeeding op tcpFlags setup.clientPort skb) sk) := by
  unfold Setup.clientCb tcpPktRouter
  simp [h.client]

theorem Setup.Valid.serverCb_listen :
    setup.serverCb .tcpListen 0 none sk =
      { sk with
        cbFlags := sk.cbFlags ||| BPF_SOCK_OPS_WRITE_HDR_OPT_CB_FLAG } := by
  rw [h.serverCb_eq]
  rfl

theorem Setup.Valid.serverCb_established :
    setup.serverCb .passiveEstablished 0 (some setup.echoOpt) sk =
      { sk.count .addServerIdRead with
        cbFlags := unsetFlags sk.cbFlags } := by
  rw [h.serverCb_eq]
  change countSkipped (handlePassiveEstab _ _ sk) = _
  rw [handlePassiveEstab_of_own setup.echoOpt] <;> intros <;> rfl

/-- The server reads its own id. -/
theorem Setup.Valid.serverCb_read (tcpFlags : BitVec 32) :
    setup.serverCb .parseHdrOpt tcpFlags (some setup.echoOpt) sk =
      { sk.count .addServerIdRead with
        cbFlags := unsetFlags sk.cbFlags } := by
  rw [h.serverCb_eq]
  change countSkipped (handlePassiveParseHdr _ _ sk) = _
  rw [handlePassiveParseHdr_of_own setup.echoOpt _ _ h.serverId] <;> intros <;> rfl

theorem Setup.Valid.serverCb_other {op : SockOp} (hop : op.isOther = true) :
    setup.serverCb op 0 none sk = sk := by
  rw [h.serverCb_eq]
  cases op <;> first | rfl | cases hop

theorem Setup.Valid.clientCb_other {op : SockOp} (hop : op.isOther = true) :
    setup.clientCb op 0 none sk = sk := by
  rw [h.clientCb_eq]
  cases op <;> first | rfl | cases hop

/-- The client learns the id from the SYN-ACK. -/
theorem Setup.Valid.clientCb_established (hempty : sk.sidStore = none) :
    setup.clientCb .activeEstablished TCPHDR_SYNACK (some setup.synAckOpt) sk =
      { (sk.count .addNewServerOpt).count .addServerIdRead with
        cbFlags := sk.cbFlags ||| BPF_SOCK_OPS_WRITE_HDR_OPT_CB_FLAG
        sidStore := some setup.serverId } := by
  rw [h.clientCb_eq]
  change countSkipped (handleActiveEstab _ sk) = _
  rw [handleActiveEstab_of_some setup.synAckOpt _ h.serverId _ _ _ hempty] <;> intros <;> rfl

theorem Setup.Valid.clientCb_readSynAck (hstore : sk.sidStore = some setup.serverId) :
    setup.clientCb .parseHdrOpt TCPHDR_SYNACK (some setup.synAckOpt) sk =
      { (sk.count .addNewServerOpt).count .addServerIdRead with
        cbFlags := sk.cbFlags &&& ~~~BPF_SOCK_OPS_PARSE_UNKNOWN_HDR_OPT_CB_FLAG } := by
  have hsynAck : TCPHDR_SYNACK &&& TCPHDR_SYNACK = TCPHDR_SYNACK := by decide
  have hcb : handleActiveCb
      (.succeeding .parseHdrOpt TCPHDR_SYNACK setup.clientPort (some setup.synAckOpt)) sk =
        handleActiveParseHdr
          (.succeeding .parseHdrOpt TCPHDR_SYNACK setup.clientPort (some setup.synAckOpt)) sk :=
    if_pos hsynAck
  rw [h.clientCb_eq, hcb, handleActiveParseHdr_of_same setup.synAckOpt _ h.serverId _ _ _ hstore]
    <;> intros <;> rfl

/-- Only a SYN-ACK is looked at. -/
theorem Setup.Valid.clientCb_read {tcpFlags : BitVec 32}
    (hflags : tcpFlags &&& TCPHDR_SYN ≠ TCPHDR_SYN) (skb : Segment) :
    setup.clientCb .parseHdrOpt tcpFlags skb sk = sk := by
  have hnot : ¬ (tcpFlags &&& TCPHDR_SYNACK = TCPHDR_SYNACK) := by
    intro hsynAck
    apply hflags
    have hsyn : TCPHDR_SYNACK &&& TCPHDR_SYN = TCPHDR_SYN := by decide
    rw [← hsyn, ← BitVec.and_assoc, hsynAck]
  rw [h.clientCb_eq]
  exact congrArg countSkipped (if_neg hnot)

/-! ### Headers -/

theorem Setup.Valid.serverCb_hdrOptLen :
    setup.serverCb .hdrOptLen TCPHDR_SYNACK none sk =
      { sk with
        reserved := true } := by
  have hsynAck : TCPHDR_SYNACK &&& TCPHDR_SYNACK = TCPHDR_SYNACK := by decide
  rw [h.serverCb_eq]
  exact congrArg countSkipped (if_pos ⟨hsynAck, rfl⟩)

theorem Setup.Valid.serverCb_writeHdrOpt :
    setup.serverCb .writeHdrOpt TCPHDR_SYNACK none sk =
      { sk.count .addServerIdSet with
        written := some setup.synAckOpt } := by
  have hsynAck : TCPHDR_SYNACK &&& TCPHDR_SYNACK = TCPHDR_SYNACK := by decide
  rw [h.serverCb_eq]
  exact congrArg countSkipped (if_pos hsynAck)

theorem Setup.Valid.clientCb_hdrOptLen {tcpFlags : BitVec 32}
    (hflags : tcpFlags &&& TCPHDR_SYN ≠ TCPHDR_SYN) :
    setup.clientCb .hdrOptLen tcpFlags none sk =
      { sk with
        reserved := true } := by
  rw [h.clientCb_eq]
  exact congrArg countSkipped (if_pos hflags)

theorem Setup.Valid.clientCb_writeHdrOpt {tcpFlags : BitVec 32}
    (hflags : tcpFlags &&& TCPHDR_SYN ≠ TCPHDR_SYN) (hstore : sk.sidStore = some setup.serverId) :
    setup.clientCb .writeHdrOpt tcpFlags none sk =
      { sk.count .addServerIdSet with
        written := some setup.echoOpt } := by
  have hcb : handleActiveCb (.succeeding .writeHdrOpt tcpFlags setup.clientPort none) sk =
      handleActiveWriteHdrOpt (.succeeding .writeHdrOpt tcpFlags setup.clientPort none) sk :=
    if_pos hflags
  rw [h.clientCb_eq, hcb, handleActiveWriteHdrOpt_of_some _ _ _ hstore] <;> intros <;> rfl

variable {stats : Stats} {socket : Socket}

/-- A SYN-ACK carries the id of the server. -/
theorem Setup.Valid.writeHeader_synAck
    (hflag : socket.cbFlags &&& BPF_SOCK_OPS_WRITE_HDR_OPT_CB_FLAG ≠ 0) :
    writeHeader (setup.serverCb · TCPHDR_SYNACK none) socket stats =
      ⟨socket, stats.addServerIdSet, true, some setup.synAckOpt⟩ := by
  unfold writeHeader
  rw [if_neg hflag]
  simp only [h.serverCb_hdrOptLen, h.serverCb_writeHdrOpt, if_true]
  rfl

/-- The client writes the id that it has. -/
theorem Setup.Valid.writeHeader_echo {tcpFlags : BitVec 32}
    (hflags : tcpFlags &&& TCPHDR_SYN ≠ TCPHDR_SYN)
    (hflag : socket.cbFlags &&& BPF_SOCK_OPS_WRITE_HDR_OPT_CB_FLAG ≠ 0)
    (hstore : socket.sidStore = some setup.serverId) :
    writeHeader (setup.clientCb · tcpFlags none) socket stats =
      ⟨socket, stats.addServerIdSet, true, some setup.echoOpt⟩ := by
  unfold writeHeader
  rw [if_neg hflag]
  simp only [h.clientCb_hdrOptLen _ hflags, if_true]
  rw [h.clientCb_writeHdrOpt _ hflags hstore]
  rfl

end Callbacks

/-- Nothing is written where the flag is not set. -/
theorem writeHeader_of_unset {socket : Socket}
    (hflag : socket.cbFlags &&& BPF_SOCK_OPS_WRITE_HDR_OPT_CB_FLAG = 0)
    (cb : SockOp → SkState → SkState) (stats : Stats) :
    writeHeader cb socket stats = ⟨socket, stats, false, none⟩ :=
  if_pos hflag

/-! ## Every order of the steps -/

/-- The kernel makes no more callbacks for the headers of the socket. -/
def Socket.IsSilent (socket : Socket) : Prop :=
  socket.cbFlags &&& BPF_SOCK_OPS_PARSE_UNKNOWN_HDR_OPT_CB_FLAG = 0 ∧
    socket.cbFlags &&& BPF_SOCK_OPS_WRITE_HDR_OPT_CB_FLAG = 0

theorem isSilent_unsetFlags (flags : BitVec 32) (sidStore : Option (BitVec 32)) :
    Socket.IsSilent ⟨unsetFlags flags, sidStore⟩ := by
  have hparse : ~~~BPF_SOCK_OPS_PARSE_UNKNOWN_HDR_OPT_CB_FLAG &&&
      (~~~BPF_SOCK_OPS_WRITE_HDR_OPT_CB_FLAG &&&
        BPF_SOCK_OPS_PARSE_UNKNOWN_HDR_OPT_CB_FLAG) = 0 := by
    decide
  have hwrite : ~~~BPF_SOCK_OPS_PARSE_UNKNOWN_HDR_OPT_CB_FLAG &&&
      (~~~BPF_SOCK_OPS_WRITE_HDR_OPT_CB_FLAG &&& BPF_SOCK_OPS_WRITE_HDR_OPT_CB_FLAG) = 0 := by
    decide
  constructor
  · rw [unsetFlags, BitVec.and_assoc, BitVec.and_assoc, hparse]
    exact BitVec.and_zero
  · rw [unsetFlags, BitVec.and_assoc, BitVec.and_assoc, hwrite]
    exact BitVec.and_zero

theorem writeFlag_of_set (flags : BitVec 32) :
    (flags ||| BPF_SOCK_OPS_WRITE_HDR_OPT_CB_FLAG) &&& BPF_SOCK_OPS_WRITE_HDR_OPT_CB_FLAG ≠ 0 := by
  have habsorb : (flags ||| BPF_SOCK_OPS_WRITE_HDR_OPT_CB_FLAG) &&&
      BPF_SOCK_OPS_WRITE_HDR_OPT_CB_FLAG = BPF_SOCK_OPS_WRITE_HDR_OPT_CB_FLAG := by
    have hbit : ∀ a b : Bool, ((a || b) && b) = b := by decide
    ext i hi
    rw [BitVec.getElem_and, BitVec.getElem_or, hbit]
  rw [habsorb]
  decide

/-- The parse flag has no part in the write flag. -/
theorem writeFlag_of_unsetParse (flags : BitVec 32) :
    flags &&& ~~~BPF_SOCK_OPS_PARSE_UNKNOWN_HDR_OPT_CB_FLAG &&& BPF_SOCK_OPS_WRITE_HDR_OPT_CB_FLAG =
      flags &&& BPF_SOCK_OPS_WRITE_HDR_OPT_CB_FLAG := by
  have hother : ~~~BPF_SOCK_OPS_PARSE_UNKNOWN_HDR_OPT_CB_FLAG &&&
      BPF_SOCK_OPS_WRITE_HDR_OPT_CB_FLAG = BPF_SOCK_OPS_WRITE_HDR_OPT_CB_FLAG := by
    decide
  rw [BitVec.and_assoc, hother]

/-- What was sent carries the id, the client has it once it is established, and the server has
nothing to complain about. -/
structure Echoes (setup : Setup) (errorBadId : BitVec 64) (link : Link) : Prop where
  listener : link.listener.cbFlags &&& BPF_SOCK_OPS_WRITE_HDR_OPT_CB_FLAG ≠ 0
  synAcks : ∀ segment ∈ link.synAcks, segment = some setup.synAckOpt
  connecting : link.isEstablished = false → link.client.sidStore = none
  established : link.isEstablished = true → link.client.sidStore = some setup.serverId ∧
    link.client.cbFlags &&& BPF_SOCK_OPS_WRITE_HDR_OPT_CB_FLAG ≠ 0
  segments : ∀ segment ∈ link.segments, segment = some setup.echoOpt
  server : ∀ socket, link.server = some socket → socket.IsSilent
  errorBadId : link.serverStats.errorBadId = errorBadId

variable {setup : Setup} {errorBadId : BitVec 64} {link link' : Link}

theorem start_echoes (h : setup.Valid) (listenerFlags clientFlags : BitVec 32)
    (serverStats clientStats : Stats) :
    Echoes setup serverStats.errorBadId
      (start setup listenerFlags clientFlags serverStats clientStats) := by
  unfold start
  rw [h.serverCb_listen, h.clientCb_other _ rfl]
  exact ⟨writeFlag_of_set listenerFlags, by simp, fun _ ↦ rfl, nofun, by simp, nofun, rfl⟩

/-- Segments that carry an option, with one more. -/
theorem forall_mem_append {segments : List Segment} {segment opt : Segment}
    (hsegments : ∀ segment ∈ segments, segment = opt) (hsegment : segment = opt) :
    ∀ other ∈ segments ++ [segment], other = opt := by
  intro other hother
  rcases List.mem_append.mp hother with hold | hnew
  · exact hsegments other hold
  · exact (List.mem_singleton.mp hnew).trans hsegment

/-- A callback for the server's socket that leaves it silent and counts no bad id. -/
theorem Echoes.setServer (hlink : Echoes setup errorBadId link) {sk : SkState}
    (hsilent : sk.toSocket.IsSilent)
    (hcount : sk.stats.errorBadId = link.serverStats.errorBadId) :
    Echoes setup errorBadId (link.setServer sk) :=
  { hlink with
    server := fun socket hsocket ↦ by
      rw [← Option.some.inj hsocket]
      exact hsilent
    errorBadId := hcount.trans hlink.errorBadId }

theorem Echoes.step (h : setup.Valid) (hlink : Echoes setup errorBadId link) {action : Step}
    (hstep : step setup link action = some link') : Echoes setup errorBadId link' := by
  cases action with
  | serverSendsSynAck =>
    obtain rfl := Option.some.inj hstep
    rw [h.writeHeader_synAck hlink.listener]
    exact { hlink with
      synAcks := forall_mem_append hlink.synAcks rfl }
  | clientEstablished synAck =>
    simp only [SockOps.step] at hstep
    split_ifs at hstep with hbefore
    obtain ⟨skb, hskb, rfl⟩ := Option.map_eq_some_iff.mp hstep
    obtain rfl := hlink.synAcks skb (List.mem_of_getElem? hskb)
    have hempty : link.clientState.sidStore = none :=
      hlink.connecting (Bool.eq_false_iff.mpr hbefore)
    rw [h.clientCb_established _ hempty]
    exact { hlink with
      connecting := nofun
      established := fun _ ↦ ⟨rfl, writeFlag_of_set link.client.cbFlags⟩ }
  | clientSends tcpFlags =>
    simp only [SockOps.step] at hstep
    split_ifs at hstep with hsends
    obtain rfl := Option.some.inj hstep
    obtain ⟨hstore, hflag⟩ := hlink.established hsends.1
    rw [h.writeHeader_echo hsends.2 hflag hstore]
    exact { hlink with
      segments := forall_mem_append hlink.segments rfl }
  | serverEstablished segment =>
    simp only [SockOps.step] at hstep
    split_ifs at hstep with hbefore
    obtain ⟨skb, hskb, rfl⟩ := Option.map_eq_some_iff.mp hstep
    obtain rfl := hlink.segments skb (List.mem_of_getElem? hskb)
    rw [h.serverCb_established]
    exact hlink.setServer (isSilent_unsetFlags link.listener.cbFlags none) rfl
  | serverReads tcpFlags segment =>
    obtain ⟨socket, hsocket, hstep⟩ := Option.bind_eq_some_iff.mp hstep
    obtain ⟨skb, hskb, rfl⟩ := Option.map_eq_some_iff.mp hstep
    obtain rfl := hlink.segments skb (List.mem_of_getElem? hskb)
    rw [h.serverCb_read]
    exact hlink.setServer (isSilent_unsetFlags socket.cbFlags socket.sidStore) rfl
  | serverSends tcpFlags =>
    simp only [SockOps.step] at hstep
    split_ifs at hstep with hsends
    obtain ⟨socket, hsocket, rfl⟩ := Option.map_eq_some_iff.mp hstep
    have hsilent := hlink.server socket hsocket
    rw [writeHeader_of_unset hsilent.2]
    exact { hlink.setServer hsilent rfl with }
  | clientReadsSynAck synAck =>
    simp only [SockOps.step] at hstep
    split_ifs at hstep with hestablished
    obtain ⟨skb, hskb, rfl⟩ := Option.map_eq_some_iff.mp hstep
    obtain rfl := hlink.synAcks skb (List.mem_of_getElem? hskb)
    obtain ⟨hstore, hflag⟩ := hlink.established hestablished
    rw [h.clientCb_readSynAck _ hstore]
    exact { hlink with
      connecting := fun hbefore ↦ absurd hestablished (Bool.eq_false_iff.mp hbefore)
      established := fun _ ↦
        ⟨hstore, (writeFlag_of_unsetParse link.client.cbFlags).trans_ne hflag⟩ }
  | clientReads tcpFlags reply =>
    simp only [SockOps.step] at hstep
    split_ifs at hstep with hreads
    obtain ⟨skb, -, rfl⟩ := Option.map_eq_some_iff.mp hstep
    rw [h.clientCb_read _ hreads.2]
    exact { hlink with }
  | listenerOther op =>
    simp only [SockOps.step] at hstep
    split_ifs at hstep with hop
    obtain rfl := Option.some.inj hstep
    rw [h.serverCb_other _ hop]
    exact { hlink with }
  | serverOther op =>
    simp only [SockOps.step] at hstep
    split_ifs at hstep with hop
    obtain ⟨socket, hsocket, rfl⟩ := Option.map_eq_some_iff.mp hstep
    rw [h.serverCb_other _ hop]
    exact hlink.setServer (hlink.server socket hsocket) rfl
  | clientOther op =>
    simp only [SockOps.step] at hstep
    split_ifs at hstep with hop
    obtain rfl := Option.some.inj hstep
    rw [h.clientCb_other _ hop]
    exact { hlink with }

/-- A connection that is established stays so on either side. -/
theorem step_persists {action : Step} (hstep : step setup link action = some link') :
    (link.isEstablished = true → link'.isEstablished = true) ∧
      (link.server.isSome = true → link'.server.isSome = true) := by
  cases action with
  | serverSendsSynAck =>
    obtain rfl := Option.some.inj hstep
    exact ⟨id, id⟩
  | clientEstablished synAck =>
    obtain ⟨-, hstep⟩ := Option.ite_none_left_eq_some.mp hstep
    obtain ⟨skb, -, rfl⟩ := Option.map_eq_some_iff.mp hstep
    exact ⟨fun _ ↦ rfl, id⟩
  | clientSends tcpFlags =>
    obtain ⟨-, hstep⟩ := Option.ite_none_right_eq_some.mp hstep
    obtain rfl := Option.some.inj hstep
    exact ⟨id, id⟩
  | serverEstablished segment =>
    obtain ⟨-, hstep⟩ := Option.ite_none_left_eq_some.mp hstep
    obtain ⟨skb, -, rfl⟩ := Option.map_eq_some_iff.mp hstep
    exact ⟨id, fun _ ↦ rfl⟩
  | serverReads tcpFlags segment =>
    obtain ⟨socket, -, hstep⟩ := Option.bind_eq_some_iff.mp hstep
    obtain ⟨skb, -, rfl⟩ := Option.map_eq_some_iff.mp hstep
    exact ⟨id, fun _ ↦ rfl⟩
  | serverSends tcpFlags =>
    obtain ⟨-, hstep⟩ := Option.ite_none_right_eq_some.mp hstep
    obtain ⟨socket, -, rfl⟩ := Option.map_eq_some_iff.mp hstep
    exact ⟨id, fun _ ↦ rfl⟩
  | clientReadsSynAck synAck =>
    obtain ⟨-, hstep⟩ := Option.ite_none_right_eq_some.mp hstep
    obtain ⟨skb, -, rfl⟩ := Option.map_eq_some_iff.mp hstep
    exact ⟨id, id⟩
  | clientReads tcpFlags reply =>
    obtain ⟨-, hstep⟩ := Option.ite_none_right_eq_some.mp hstep
    obtain ⟨skb, -, rfl⟩ := Option.map_eq_some_iff.mp hstep
    exact ⟨id, id⟩
  | listenerOther op =>
    obtain ⟨-, hstep⟩ := Option.ite_none_right_eq_some.mp hstep
    obtain rfl := Option.some.inj hstep
    exact ⟨id, id⟩
  | serverOther op =>
    obtain ⟨-, hstep⟩ := Option.ite_none_right_eq_some.mp hstep
    obtain ⟨socket, -, rfl⟩ := Option.map_eq_some_iff.mp hstep
    exact ⟨id, fun _ ↦ rfl⟩
  | clientOther op =>
    obtain ⟨-, hstep⟩ := Option.ite_none_right_eq_some.mp hstep
    obtain rfl := Option.some.inj hstep
    exact ⟨id, id⟩

theorem isEstablished_of_clientEstablished {synAck : ℕ}
    (hstep : step setup link (.clientEstablished synAck) = some link') :
    link'.isEstablished = true := by
  simp only [SockOps.step] at hstep
  split_ifs at hstep
  obtain ⟨skb, -, rfl⟩ := Option.map_eq_some_iff.mp hstep
  rfl

/-- The server side reads the option of a segment. -/
def Step.IsServerRead : Step → Prop
  | .serverEstablished _ | .serverReads _ _ => True
  | _ => False

theorem isSome_of_serverRead {action : Step} (haction : action.IsServerRead)
    (hstep : step setup link action = some link') : link'.server.isSome = true := by
  cases action with
  | serverEstablished segment =>
    simp only [SockOps.step] at hstep
    split_ifs at hstep
    obtain ⟨skb, -, rfl⟩ := Option.map_eq_some_iff.mp hstep
    rfl
  | serverReads tcpFlags segment =>
    obtain ⟨socket, -, hstep⟩ := Option.bind_eq_some_iff.mp hstep
    obtain ⟨skb, -, rfl⟩ := Option.map_eq_some_iff.mp hstep
    rfl
  | _ => cases haction

/-- Whatever is lost, sent again or overtaken: every SYN-ACK carries the id of the server, the
client has it in the storage of its socket once it is established, and every segment that the client
sends carries it back. The server counts no bad id, and after the first segment that it read there
are no more callbacks for the headers of its socket. -/
theorem serverId_echoed (h : setup.Valid) {listenerFlags clientFlags : BitVec 32}
    {serverStats clientStats : Stats} {steps : List Step}
    (hrun : steps.foldlM (step setup)
      (start setup listenerFlags clientFlags serverStats clientStats) = some link) :
    (∀ segment ∈ link.synAcks,
      segment = some ⟨TCP_SRV_HDR_OPT_KIND, TCP_HDR_OPT_LEN, setup.serverId⟩) ∧
    (∀ earlier synAck later, steps = earlier ++ .clientEstablished synAck :: later →
      link.client.sidStore = some setup.serverId) ∧
    (∀ segment ∈ link.segments,
      segment = some ⟨TCP_HDR_OPT_KIND, TCP_HDR_OPT_LEN, setup.serverId⟩) ∧
    link.serverStats.errorBadId = serverStats.errorBadId ∧
    ∀ earlier read later, steps = earlier ++ read :: later → read.IsServerRead →
      ∃ socket, link.server = some socket ∧ socket.IsSilent := by
  have hlink : Echoes setup serverStats.errorBadId link :=
    Runs.invariant (fun _ _ _ hs hstep ↦ hs.step h hstep)
      (start_echoes h listenerFlags clientFlags serverStats clientStats) hrun
  refine ⟨hlink.synAcks, ?_, hlink.segments, hlink.errorBadId, ?_⟩
  · rintro earlier synAck later rfl
    have hestablished : link.isEstablished = true :=
      Runs.holds_since (Q := fun link ↦ link.isEstablished = true) hrun
        (fun _ _ hstep ↦ isEstablished_of_clientEstablished hstep)
        (fun _ _ _ hs hstep ↦ (step_persists hstep).1 hs)
    exact (hlink.established hestablished).1
  · rintro earlier read later rfl hread
    have hserver : link.server.isSome = true :=
      Runs.holds_since (Q := fun link ↦ link.server.isSome = true) hrun
        (fun _ _ hstep ↦ isSome_of_serverRead hread hstep)
        (fun _ _ _ hs hstep ↦ (step_persists hstep).2 hs)
    obtain ⟨socket, hsocket⟩ := Option.isSome_iff_exists.mp hserver
    exact ⟨socket, hsocket, hlink.server socket hsocket⟩

def Stats.zero : Stats := ⟨0, 0, 0, 0, 0, 0, 0, 0, 0, 0⟩

/-- The server with the id 5. -/
def serverFive : Setup := ⟨5, 0, 443, 50000, ⟨.client, false, 0⟩⟩

/-- The second segment of the client arrives before the first one, which arrives twice. -/
def overtaken : List Step :=
  [.serverSendsSynAck, .serverSendsSynAck, .clientEstablished 1, .clientSends 0x10,
    .clientSends 0x18, .serverEstablished 1, .serverReads 0x10 0, .serverSends 0x10,
    .clientReadsSynAck 0, .serverReads 0x10 0, .clientReads 0x10 0]

theorem overtaken_echoed :
    ∃ link, overtaken.foldlM (step serverFive) (start serverFive 0 0 .zero .zero) = some link ∧
      link.client.sidStore = some 5 ∧ link.serverStats.errorBadId = 0 ∧
      ∃ socket, link.server = some socket ∧ socket.IsSilent := by
  have hvalid : serverFive.Valid := ⟨by decide, .inl rfl, rfl⟩
  obtain ⟨link, hrun⟩ : ∃ link,
      overtaken.foldlM (step serverFive) (start serverFive 0 0 .zero .zero) = some link :=
    Option.isSome_iff_exists.mp (by decide +kernel)
  obtain ⟨-, hstore, -, herror, hsilent⟩ := serverId_echoed hvalid hrun
  exact ⟨link, hrun, hstore (overtaken.take 2) 1 (overtaken.drop 3) rfl, herror,
    hsilent (overtaken.take 5) (.serverEstablished 1) (overtaken.drop 6) rfl trivial⟩

end Vsoshlb.Tpr.SockOps

import Vsoshlb.ControlPlane.Calls
import Vsoshlb.DataPlane.ProcessPacket

/-!
# Server ids in connection ids

A connection id holds a server id in 16, 24 or 32 bits, by its version. `parse_quic` puts the bits
together in an `int`, in which the ids of version 3 from 2^31 on are negative numbers. The caller
takes a number that is not positive for a packet without a server id.
-/

namespace Vsoshlb.DataPlane

/-- The server id in the connection id at `connId`: the bits after the version, and whole bytes from
version 2 on. -/
def cidServerId (frame : Frame) (connId : ℕ) (version : BitVec 8) : ℕ :=
  if version = 1 then
    ((frame.byte connId).extractLsb' 0 6 ++ frame.byte (connId + 1) ++
      (frame.byte (connId + 2)).extractLsb' 6 2).toNat
  else if version = 2 then
    (frame.byte (connId + 1) ++ frame.byte (connId + 2) ++ frame.byte (connId + 3)).toNat
  else
    (frame.be32 (connId + 1)).toNat

/-- Where the connection id of a QUIC packet starts: after a short header or after the long header
of a handshake. -/
inductive ConnIdAt (frame : Frame) (quicData : ℕ) : ℕ → Prop
  | short (form : frame.byte quicData &&& 0x80 = 0) (length : quicData + 9 ≤ frame.length) :
      ConnIdAt frame quicData (quicData + 1)
  | handshake (form : frame.byte quicData &&& 0x80 = 0x80)
      (type : frame.byte quicData &&& 0x30 = 0x20) (length : quicData + 14 ≤ frame.length)
      (connIdLens : 8 ≤ (frame.byte (quicData + 5)).toNat) :
      ConnIdAt frame quicData (quicData + 6)

/-- The packet has a connection id of the given version with the given server id. -/
def CarriesServerId (frame : Frame) (isIpv6 : Bool) (pckt : PacketDescription) (version : BitVec 8)
    (id : ℕ) : Prop :=
  ∃ connId, ConnIdAt frame (calcOffset isIpv6 (hasFlag pckt.flags F_ICMP) + udphdrSize) connId ∧
    frame.byte connId >>> 6 = version ∧ cidServerId frame connId version = id

/-- The packet passes the test for a server id, and the key of `server_id_map` is that id. -/
def Routable (result : QuicParseResult) (id : ℕ) : Prop :=
  0 < result.serverId.toInt ∧ result.serverId.toNat = id

/-! ## Bits -/

section Bits

variable (a b c d : BitVec 8)

theorem or_shiftLeft_v1 :
    (a.setWidth 32 &&& 0x3F) <<< 10 ||| b.setWidth 32 <<< 2 ||| c.setWidth 32 >>> 6 =
      (a.extractLsb' 0 6 ++ b ++ c.extractLsb' 6 2).setWidth 32 := by
  have hmask : a.setWidth 32 &&& 0x3F = (a.extractLsb' 0 6).setWidth 32 := by
    revert a
    decide
  rw [hmask]
  apply BitVec.eq_of_getLsbD_eq
  intro i hi
  simp only [BitVec.getLsbD_or, BitVec.getLsbD_shiftLeft, BitVec.getLsbD_ushiftRight,
    BitVec.getLsbD_setWidth, BitVec.getLsbD_append, BitVec.getLsbD_extractLsb']
  grind

theorem or_shiftLeft_v2 :
    a.setWidth 32 <<< 16 ||| b.setWidth 32 <<< 8 ||| c.setWidth 32 =
      (a ++ b ++ c).setWidth 32 := by
  apply BitVec.eq_of_getLsbD_eq
  intro i hi
  simp only [BitVec.getLsbD_or, BitVec.getLsbD_shiftLeft, BitVec.getLsbD_setWidth,
    BitVec.getLsbD_append]
  grind

theorem or_shiftLeft_v3 :
    a.setWidth 32 <<< 24 ||| b.setWidth 32 <<< 16 ||| c.setWidth 32 <<< 8 ||| d.setWidth 32 =
      a ++ b ++ c ++ d := by
  apply BitVec.eq_of_getLsbD_eq
  intro i hi
  simp only [BitVec.getLsbD_or, BitVec.getLsbD_shiftLeft, BitVec.getLsbD_setWidth,
    BitVec.getLsbD_append]
  grind

end Bits

/-! ## Parsing -/

section Parsing

variable {frame : Frame} {isIpv6 : Bool} {pckt : PacketDescription} {version : BitVec 8} {id : ℕ}

/-- The three layouts are read as they are written. -/
theorem parseConnId_serverId {connId : ℕ} (result : QuicParseResult)
    (hversion : version = 1 ∨ version = 2 ∨ version = 3)
    (hcid : frame.byte connId >>> 6 = version) :
    (parseConnId frame connId result).serverId.toNat = cidServerId frame connId version := by
  rcases hversion with rfl | rfl | rfl
  · simp only [parseConnId, hcid, if_true, cidServerId]
    rw [Nat.add_zero, or_shiftLeft_v1]
    exact BitVec.toNat_setWidth_of_le (by decide)
  · have hone : ¬ (2 : BitVec 8) = 1 := by decide
    simp only [parseConnId, hcid, hone, if_false, if_true, cidServerId]
    rw [or_shiftLeft_v2]
    exact BitVec.toNat_setWidth_of_le (by decide)
  · have hone : ¬ (3 : BitVec 8) = 1 := by decide
    have htwo : ¬ (3 : BitVec 8) = 2 := by decide
    simp only [parseConnId, hcid, hone, htwo, if_false, if_true, cidServerId]
    rw [or_shiftLeft_v3]
    rfl

/-- The program finds the connection id of every packet that has one. -/
theorem parseQuic_eq {connId : ℕ}
    (h : ConnIdAt frame (calcOffset isIpv6 (hasFlag pckt.flags F_ICMP) + udphdrSize) connId) :
    parseQuic frame isIpv6 pckt = parseConnId frame connId ⟨-1, 0xFF, false⟩ := by
  simp only [parseQuic]
  generalize calcOffset isIpv6 (hasFlag pckt.flags F_ICMP) + udphdrSize = quicData at h ⊢
  cases h with
  | short form length =>
    have hlong : ¬ frame.byte quicData &&& 0x80 = 0x80 := by
      rw [form]
      decide
    rw [if_neg (by omega), if_neg hlong, if_neg (by omega)]
  | handshake form type length connIdLens =>
    have htype : ¬ (frame.byte quicData &&& 0x30).toNat < 0x20 := by
      rw [type]
      decide
    rw [if_neg (by omega), if_pos form, if_neg (by omega), if_neg htype, if_neg (by omega)]

theorem parseQuic_serverId (hcid : CarriesServerId frame isIpv6 pckt version id)
    (hversion : version = 1 ∨ version = 2 ∨ version = 3) :
    (parseQuic frame isIpv6 pckt).serverId.toNat = id := by
  obtain ⟨connId, hat, hbits, rfl⟩ := hcid
  rw [parseQuic_eq hat]
  exact parseConnId_serverId _ hversion hbits

/-- The ids that the first two versions have room for. -/
theorem cidServerId_lt {connId : ℕ} (hversion : version ≠ 3)
    (hknown : version = 1 ∨ version = 2 ∨ version = 3) :
    cidServerId frame connId version < 2 ^ 24 := by
  rcases hknown with rfl | rfl | rfl
  · exact (BitVec.isLt _).trans (by decide)
  · exact BitVec.isLt _
  · exact absurd rfl hversion

/-- Every id of versions 1 and 2 is routable, and of version 3 those below 2^31. -/
theorem parseQuic_routable_iff (hcid : CarriesServerId frame isIpv6 pckt version id)
    (hversion : version = 1 ∨ version = 2 ∨ version = 3) (hid : 1 ≤ id) :
    Routable (parseQuic frame isIpv6 pckt) id ↔ version ≠ 3 ∨ id < 2 ^ 31 := by
  have hparsed := parseQuic_serverId hcid hversion
  have hsign := BitVec.toInt_eq_toNat_cond (parseQuic frame isIpv6 pckt).serverId
  rw [hparsed] at hsign
  unfold Routable
  rw [hparsed, and_iff_left rfl]
  constructor
  · intro hpositive
    right
    split_ifs at hsign
    · omega
    · have hbound := (parseQuic frame isIpv6 pckt).serverId.isLt
      omega
  · intro hcase
    have hsmall : id < 2 ^ 31 := by
      rcases hcase with hold | hsmall
      · obtain ⟨connId, -, -, rfl⟩ := hcid
        exact (cidServerId_lt hold hversion).trans (by decide)
      · exact hsmall
    rw [if_pos (by omega)] at hsign
    omega

end Parsing

/-! ## A packet with a server id of 32 bits -/

/-- A UDP packet from 192.0.2.7:40000 to port 443 of a host in 10.0.0.0/24. -/
def udpPacket (host : BitVec 8) (payload : Frame) : Frame :=
  List.replicate 12 0 ++ [0x08, 0x00] ++
    [0x45, 0x00, 0x00, BitVec.ofNat 8 (28 + payload.length), 0x00, 0x00, 0x00, 0x00, 0x40, 0x11,
      0x00, 0x00, 192, 0, 2, 7, 10, 0, 0, host] ++
    [0x9c, 0x40, 0x01, 0xbb, 0, BitVec.ofNat 8 (8 + payload.length), 0, 0] ++ payload

/-- A short header and a connection id of version 3 with server id 2^31. -/
def highId : Frame := udpPacket 1 [0x40, 0xc0, 0x80, 0, 0, 0, 0, 0, 0]

/-- The same with server id 7. -/
def lowId : Frame := udpPacket 1 [0x40, 0xc0, 0, 0, 0, 7, 0, 0, 0]

/-- What the headers say of either. -/
def quicDescription : PacketDescription :=
  ⟨⟨setIpv4Part 0 0xc0000207, setIpv4Part 0 0x0a000001, 0x409c, 0xbb01, IPPROTO_UDP⟩, 0, 0, 0⟩

theorem lowId_routable :
    Routable (parseQuic lowId false quicDescription) 7 ↔ (3 : BitVec 8) ≠ 3 ∨ 7 < 2 ^ 31 :=
  parseQuic_routable_iff ⟨43, .short (by decide +kernel) (by decide +kernel), by decide +kernel,
    by decide +kernel⟩ (by decide) (by decide)

/-- A balancer that knows the ids of version 3. -/
def cidV3Config : Config := { Config.sample with enableCidV3 := true }

/-- The balancer with server id 2^31 for 10.0.0.2. -/
def highIdState : State :=
  modifyQuicRealsMapping .sample cidV3Config (.sorted id) .add [⟨"10.0.0.2", 2 ^ 31⟩]
    (.new cidV3Config [] ⟨true, true, true⟩ .empty [])

/-- The control plane maps the id and writes its position, and the packet that carries it does not
pass the test. -/
theorem highId_not_routable :
    highIdState.tables.quicMapping.lookup (2 ^ 31) = some (.v4 0x0a000002) ∧
      highIdState.maps.serverIdMap (2 ^ 31) = 1 ∧
      CarriesServerId highId false quicDescription 3 (2 ^ 31) ∧
      (parseQuic highId false quicDescription).serverId.toInt = -2 ^ 31 ∧
      ¬ Routable (parseQuic highId false quicDescription) (2 ^ 31) := by
  have hsign : (parseQuic highId false quicDescription).serverId.toInt = -2 ^ 31 := by
    decide +kernel
  refine ⟨by decide +kernel, by decide +kernel, ⟨43, .short (by decide +kernel) (by decide +kernel),
    by decide +kernel, by decide +kernel⟩, hsign, fun h ↦ ?_⟩
  have hpositive := h.1
  rw [hsign] at hpositive
  exact absurd hpositive (by decide)

end Vsoshlb.DataPlane

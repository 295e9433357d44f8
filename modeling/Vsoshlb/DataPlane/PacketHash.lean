import Vsoshlb.DataPlane.Machine

/-!
# The hash of a packet

`get_packet_hash` hashes the source address and the ports of a flow. The copy of `jhash` in the
repository reads the last bytes of its key only: its loop mixes without reading the words that it
moves over.
-/

namespace Vsoshlb.DataPlane

def rol32 (word : BitVec 32) (shift : ℕ) : BitVec 32 :=
  word <<< shift ||| word >>> ((32 - shift) % 32)

/-- The three words that `jhash` works on. -/
structure JhashState where
  a : BitVec 32
  b : BitVec 32
  c : BitVec 32
deriving DecidableEq, Repr

/-- `__jhash_mix`. -/
def jhashMix (state : JhashState) : JhashState :=
  let ⟨a, b, c⟩ := state
  let a := a - c
  let a := a ^^^ rol32 c 4
  let c := c + b
  let b := b - a
  let b := b ^^^ rol32 a 6
  let a := a + c
  let c := c - b
  let c := c ^^^ rol32 b 8
  let b := b + a
  let a := a - c
  let a := a ^^^ rol32 c 16
  let c := c + b
  let b := b - a
  let b := b ^^^ rol32 a 19
  let a := a + c
  let c := c - b
  let c := c ^^^ rol32 b 4
  let b := b + a
  ⟨a, b, c⟩

/-- `__jhash_final`, of which the callers use the third word. -/
def jhashFinal (state : JhashState) : BitVec 32 :=
  let ⟨a, b, c⟩ := state
  let c := c ^^^ b
  let c := c - rol32 b 14
  let a := a ^^^ c
  let a := a - rol32 c 11
  let b := b ^^^ a
  let b := b - rol32 a 25
  let c := c ^^^ b
  let c := c - rol32 b 16
  let a := a ^^^ c
  let a := a - rol32 c 4
  let b := b ^^^ a
  let b := b - rol32 a 14
  let c := c ^^^ b
  c - rol32 b 24

def JHASH_INITVAL : BitVec 32 := 0xdeadbeef

/-- The loop of `jhash` over blocks of twelve bytes. At most `fuel` rounds are made. -/
def jhashLoop : ℕ → Frame → JhashState → Frame × JhashState
  | 0, k, state => (k, state)
  | fuel + 1, k, state =>
    if 12 < k.length then jhashLoop fuel (k.drop 12) (jhashMix state) else (k, state)

/-- The cases of the switch in `jhash` fall through, so a byte past the end adds nothing. -/
def jhashTail (k : Frame) (state : JhashState) : JhashState :=
  let word (i : ℕ) : BitVec 32 := (k.byte i).setWidth 32
  { a := state.a + word 3 <<< 24 + word 2 <<< 16 + word 1 <<< 8 + word 0
    b := state.b + word 7 <<< 24 + word 6 <<< 16 + word 5 <<< 8 + word 4
    c := state.c + word 11 <<< 24 + word 10 <<< 16 + word 9 <<< 8 + word 8 }

/-- `jhash`. -/
def jhash (key : Frame) (initval : BitVec 32) : BitVec 32 :=
  let init := JHASH_INITVAL + BitVec.ofNat 32 key.length + initval
  let (k, state) := jhashLoop key.length key ⟨init, init, init⟩
  if k = [] then state.c else jhashFinal (jhashTail k state)

/-- `__jhash_nwords`. -/
def jhashNwords (a b c initval : BitVec 32) : BitVec 32 :=
  jhashFinal ⟨a + initval, b + initval, c + initval⟩

/-- `jhash_2words`. -/
def jhash2words (a b initval : BitVec 32) : BitVec 32 :=
  jhashNwords a b 0 (initval + JHASH_INITVAL + 2 <<< 2)

/-- The member `ports` of the union of the two ports. -/
def FlowKey.ports (flow : FlowKey) : BitVec 32 := flow.dport ++ flow.sport

/-- `get_packet_hash`. -/
def getPacketHash (build : Build) (flow : FlowKey) (hash16bytes : Bool) : BitVec 32 :=
  if hash16bytes then
    jhash2words (jhash (bytes128 flow.src) build.initJhashSeedV6) flow.ports build.initJhashSeed
  else
    jhash2words (reverseBytes (ipv4Part flow.src)) flow.ports build.initJhashSeed

end Vsoshlb.DataPlane

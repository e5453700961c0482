/-
This file gives the wire form of the route messages and what the accessors read from it.
-/

import IgwP4.Construction.Netlink.RouteMessage

namespace IgwP4.Netlink
open Memory

def word16 (word : BitVec 16) : List Byte := [word.extractLsb' 0 8, word.extractLsb' 8 8]

theorem load16_of_holds {memory : Memory} {offset : Nat} {word : BitVec 16}
    (stored : memory.Holds offset (word16 word)) : memory.load16 offset = word := by
  have low := stored 0 (by simp [word16])
  have high := stored 1 (by simp [word16])
  rw [Nat.add_zero] at low
  rw [load16, low, high]
  exact (BitVec.extractLsb'_append_extractLsb'_eq_extractLsb' rfl).trans BitVec.extractLsb'_eq_self

theorem load32_of_holds {memory : Memory} {offset : Nat} {word : BitVec 32}
    (stored : memory.Holds offset (littleEndian word)) : memory.load32 offset = word := by
  have first := stored 0 (by simp [littleEndian])
  have second := stored 1 (by simp [littleEndian])
  have third := stored 2 (by simp [littleEndian])
  have fourth := stored 3 (by simp [littleEndian])
  rw [Nat.add_zero] at first
  rw [load32, first, second, third, fourth]
  change word.extractLsb' 24 8 ++ word.extractLsb' 16 8 ++ word.extractLsb' 8 8 ++
    word.extractLsb' 0 8 = word
  rw [BitVec.extractLsb'_append_extractLsb'_eq_extractLsb' (show 24 = 16 + 8 from rfl),
    BitVec.extractLsb'_append_extractLsb'_eq_extractLsb' (show 16 = 8 + 8 from rfl)]
  exact (BitVec.extractLsb'_append_extractLsb'_eq_extractLsb' rfl).trans BitVec.extractLsb'_eq_self

/-- An attribute with its padding -/
structure Attribute where
  type : BitVec 16
  payload : List Byte
  padding : List Byte
  fits : 4 + payload.length < 2 ^ 16
  aligned : 4 ∣ payload.length + padding.length
  short : padding.length < 4

namespace Attribute

def bytes (a : Attribute) : List Byte :=
  word16 (BitVec.ofNat 16 (4 + a.payload.length)) ++ (word16 a.type ++ (a.payload ++ a.padding))

/-- The address that an attribute carries in network order -/
def address (a : Attribute) : BitVec 32 := ntohl ((ofList a.payload).load32 0)

theorem bytes_length (a : Attribute) : a.bytes.length = align4 (4 + a.payload.length) := by
  have aligned := a.aligned
  have short := a.short
  simp only [bytes, word16, List.length_append, List.length_cons, List.length_nil, align4]
  omega

/-- A stored attribute shows its length, its type and its payload. -/
theorem of_holds {memory : Memory} {offset : Nat} {a : Attribute} (stored : memory.Holds offset a.bytes) :
    nlaLen memory offset = 4 + a.payload.length ∧ memory.load16 (offset + 2) = a.type ∧
      memory.Holds (offset + 4) a.payload := by
  obtain ⟨length, behind⟩ := (holds_append _ _).mp stored
  obtain ⟨type, contents⟩ := (holds_append _ _).mp behind
  obtain ⟨payload, _⟩ := (holds_append _ _).mp contents
  refine ⟨?_, load16_of_holds type, payload⟩
  rw [nlaLen, load16_of_holds length, BitVec.toNat_ofNat, Nat.mod_eq_of_lt a.fits]

/-- An attribute of at least four bytes carries its address where it is stored. -/
theorem address_of_holds {memory : Memory} {offset : Nat} {a : Attribute}
    (stored : memory.Holds offset a.payload) (long : 4 ≤ a.payload.length) :
    ntohl (memory.load32 offset) = a.address := by
  have same (index : Nat) (inside : index < 4) :
      memory (offset + index) = ofList a.payload (0 + index) := by
    rw [stored index (by omega), holds_ofList a.payload index (by omega)]
  have first := same 0 (by omega)
  rw [Nat.add_zero, Nat.add_zero] at first
  rw [address, load32, load32, first, same 1 (by omega), same 2 (by omega), same 3 (by omega)]

end Attribute

def attributesBytes (attributes : List Attribute) : List Byte := attributes.flatMap Attribute.bytes

theorem attributesBytes_cons (a : Attribute) (rest : List Attribute) :
    attributesBytes (a :: rest) = a.bytes ++ attributesBytes rest := rfl

theorem four_dvd_attributesBytes (attributes : List Attribute) :
    4 ∣ (attributesBytes attributes).length := by
  induction attributes with
  | nil => exact ⟨0, rfl⟩
  | cons a rest ih =>
      rw [attributesBytes_cons, List.length_append, a.bytes_length, align4]
      omega

/-- One `rtnexthop` of a multipath attribute -/
structure Hop where
  flags : Byte
  hops : Byte
  ifindex : BitVec 32
  attributes : List Attribute

namespace Hop

def bytes (hop : Hop) : List Byte :=
  word16 (BitVec.ofNat 16 (8 + (attributesBytes hop.attributes).length)) ++
    ([hop.flags, hop.hops] ++ (littleEndian hop.ifindex ++ attributesBytes hop.attributes))

/-- The gateway that a next hop names -/
def gateway (hop : Hop) : Option (BitVec 32) :=
  (hop.attributes.find? fun a => a.type == rtaGateway).map Attribute.address

/-- The first attribute of the next hop is its gateway, or it names no gateway at all. -/
def GatewayFirst (hop : Hop) : Prop :=
  ∃ first rest, hop.attributes = first :: rest ∧
    ((first.type = rtaGateway ∧ 4 ≤ first.payload.length) ∨
      (first.type ≠ rtaGateway ∧ hop.gateway = none))

theorem bytes_length (hop : Hop) :
    hop.bytes.length = 8 + (attributesBytes hop.attributes).length := by
  simp only [bytes, word16, littleEndian, List.length_append, List.length_cons, List.length_nil]
  omega

theorem four_dvd_bytes (hop : Hop) : 4 ∣ hop.bytes.length := by
  have aligned := four_dvd_attributesBytes hop.attributes
  rw [hop.bytes_length]
  omega

theorem align4_bytes (hop : Hop) : align4 hop.bytes.length = hop.bytes.length := by
  have aligned := hop.four_dvd_bytes
  rw [align4]
  omega

/-- A stored next hop shows its length, its interface and its first attribute. -/
theorem of_holds {memory : Memory} {offset : Nat} {hop : Hop} (stored : memory.Holds offset hop.bytes)
    (fits : hop.bytes.length < 2 ^ 16) :
    rtnhLen memory offset = hop.bytes.length ∧ memory.load32 (offset + 4) = hop.ifindex ∧
      memory.Holds (offset + 8) (attributesBytes hop.attributes) := by
  obtain ⟨length, behind⟩ := (holds_append _ _).mp stored
  obtain ⟨_, behind⟩ := (holds_append _ _).mp behind
  obtain ⟨ifindex, attributes⟩ := (holds_append _ _).mp behind
  refine ⟨?_, load32_of_holds ifindex, attributes⟩
  rw [rtnhLen, load16_of_holds length, BitVec.toNat_ofNat, bytes_length]
  rw [bytes_length] at fits
  exact Nat.mod_eq_of_lt fits

end Hop

def hopsBytes (hops : List Hop) : List Byte := hops.flatMap Hop.bytes

theorem hopsBytes_cons (hop : Hop) (rest : List Hop) :
    hopsBytes (hop :: rest) = hop.bytes ++ hopsBytes rest := rfl

theorem four_dvd_hopsBytes (hops : List Hop) : 4 ∣ (hopsBytes hops).length := by
  induction hops with
  | nil => exact ⟨0, rfl⟩
  | cons hop rest ih =>
      have aligned := hop.four_dvd_bytes
      rw [hopsBytes_cons, List.length_append]
      omega

/-- A default route goes by one gateway or by several next hops. -/
inductive Via where
  | gateway (gwIp : BitVec 32)
  | multipath (hops : List Hop) (fits : 4 + (hopsBytes hops).length < 2 ^ 16)

def Via.attribute : Via → Attribute
  | .gateway gwIp => ⟨rtaGateway, littleEndian (ntohl gwIp), [], by simp [littleEndian], ⟨1, rfl⟩, by decide⟩
  | .multipath hops fits => ⟨rtaMultipath, hopsBytes hops, [], fits, four_dvd_hopsBytes hops, by decide⟩

/-- The walk over the attributes passes by an attribute of any other type. -/
def Attribute.Inert (a : Attribute) : Prop :=
  let type := a.type &&& 0x3fff
  type ≠ rtaDst ∧ type ≠ rtaGateway ∧ type ≠ rtaMultipath

/--
An IPv4 default route as a route message announces it. The sequence of the message and the further
fields of the route are strings of the right length, since nothing reads them.
-/
structure DefaultRoute where
  sequence : List Byte
  sequence_length : sequence.length = 10
  fields : List Byte
  fields_length : fields.length = 10
  before : List Attribute
  via : Via
  after : List Attribute
  before_inert : ∀ a ∈ before, a.Inert
  after_inert : ∀ a ∈ after, a.Inert

namespace DefaultRoute

def attributes (route : DefaultRoute) : List Attribute := route.before ++ route.via.attribute :: route.after

/-- `nlmsg_len` -/
def length (route : DefaultRoute) : Nat := 28 + (attributesBytes route.attributes).length

/-- The message of this type about the route -/
def bytes (route : DefaultRoute) (type : BitVec 16) : List Byte :=
  littleEndian (BitVec.ofNat 32 route.length) ++ (word16 type ++ (route.sequence ++ ([afInet, 0] ++
    (route.fields ++ attributesBytes route.attributes))))

/-- A stored message shows its length, its type, its family, its prefix length and its attributes. -/
theorem of_holds {memory : Memory} {nlmsg : Nat} {route : DefaultRoute} {type : BitVec 16}
    (stored : memory.Holds nlmsg (route.bytes type)) (fits : route.length < 2 ^ 31) :
    nlmsgAttrlen memory nlmsg = (attributesBytes route.attributes).length ∧
      nlmsgType memory nlmsg = type ∧ memory (nlmsg + 16) = afInet ∧ memory (nlmsg + 17) = 0 ∧
      memory.Holds (nlmsg + 28) (attributesBytes route.attributes) := by
  obtain ⟨length, behind⟩ := (holds_append _ _).mp stored
  obtain ⟨kind, behind⟩ := (holds_append _ _).mp behind
  obtain ⟨_, behind⟩ := (holds_append _ _).mp behind
  rw [route.sequence_length] at behind
  obtain ⟨family, behind⟩ := (holds_append _ _).mp behind
  obtain ⟨_, attributes⟩ := (holds_append _ _).mp behind
  rw [route.fields_length] at attributes
  refine ⟨?_, load16_of_holds kind, family 0 (by decide), family 1 (by decide), attributes⟩
  have decoded : nlmsgLen memory nlmsg - 28 =
      BitVec.ofNat 32 (attributesBytes route.attributes).length := by
    rw [nlmsgLen, load32_of_holds length, DefaultRoute.length]
    apply BitVec.eq_of_toNat_eq
    rw [BitVec.toNat_sub, BitVec.toNat_ofNat, BitVec.toNat_ofNat]
    change (2 ^ 32 - 28 + _) % _ = _
    omega
  rw [DefaultRoute.length] at fits
  rw [nlmsgAttrlen, decoded, BitVec.toInt_eq_toNat_cond, BitVec.toNat_ofNat,
    Nat.mod_eq_of_lt (by omega), if_pos (by omega)]
  rfl

end DefaultRoute

end IgwP4.Netlink

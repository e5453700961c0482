/-
This file shows that the encapsulation wraps a direct packet into a tunnel packet.
-/

import IgwP4.Proof.Dataplane.BridgedPackets

namespace IgwP4.Dataplane
open Packet

namespace Parcel

/-- The length of the packet as its header announces it -/
def length : Parcel → BitVec 16
  | .v4 ip _ => ip.totalLen
  | .v6 ip _ => ip.payloadLen + 40

/-- The checksum is the one field that the encapsulation does not copy. -/
def uncheck (contents : Ipv4) : Parcel → Parcel
  | .v4 ip payload => .v4 { ip with hdrChecksum := contents.hdrChecksum } payload
  | .v6 ip payload => .v6 ip payload

@[simp] theorem uncheck_etherType (contents : Ipv4) (parcel : Parcel) :
    (parcel.uncheck contents).etherType = parcel.etherType := by
  cases parcel <;> rfl

end Parcel

/-- The tunnel packet around a direct packet, whose other outer fields are left unassigned -/
def wrap (fresh : Headers) (etherType : BitVec 16) (parcel : Parcel) : TunnelPacket where
  ip := { fresh.ipv4.fields with
    version := 4
    ihl := 5
    totalLen := parcel.length + 50
    identification := 0
    flags := 0x2
    fragOffset := 0
    protocol := ipProtocolsUdp
    ttl := 64
    dscp := 0 }
  udp := { fresh.udp.fields with
    srcPort := 0, dstPort := udpPortVxlan, length := parcel.length + 30, checksum := 0 }
  vxlan := { fresh.vxlan.fields with flags := 0x08, tof := 0 }
  ethernet := { fresh.innerEthernet.fields with etherType }
  parcel := parcel.uncheck fresh.innerIpv4.fields

theorem wrap_tunnels (fresh : Headers) (parcel : Parcel) :
    (wrap fresh parcel.etherType parcel).Tunnels :=
  ⟨⟨rfl, rfl, rfl⟩, rfl, (Parcel.uncheck_etherType _ _).symm⟩

/-- The deparser writes a parcel from its outer IP header and its outer transport header. -/
def Headers.EmitsParcel (hdr : Headers) (pkt : Bits) : Parcel → Prop
  | .v4 ip payload => hdr.ipv4 = ⟨true, ip⟩ ∧ hdr.ipv6.valid = false ∧
      payload = hdr.udp.emit Udp.codec ++ (hdr.tcp.emit Tcp.codec ++ pkt)
  | .v6 ip payload => hdr.ipv4.valid = false ∧ hdr.ipv6 = ⟨true, ip⟩ ∧
      payload = hdr.udp.emit Udp.codec ++ (hdr.tcp.emit Tcp.codec ++ pkt)

/-- A direct packet has an outer IP header, at most one outer transport header and no tunnel. -/
structure Headers.Plain (hdr : Headers) (pkt : Bits) (parcel : Parcel) : Prop where
  parcel : hdr.EmitsParcel pkt parcel
  transport : ¬ (hdr.udp.valid = true ∧ hdr.tcp.valid = true)
  icmp : hdr.icmp.valid = false
  vxlan : hdr.vxlan.valid = false
  innerEthernet : hdr.innerEthernet.valid = false
  innerIpv4 : hdr.innerIpv4.valid = false
  innerOptionWords : hdr.innerOptionWords = []
  innerIpv6 : hdr.innerIpv6.valid = false
  innerTcp : hdr.innerTcp.valid = false
  innerUdp : hdr.innerUdp.valid = false

namespace P13Egress

/-- `encap_outer` has six constant entries for the four validity bits. -/
def encapOuterEntries : List (Bool × Bool × Bool × Bool) := [
  (true, false, false, false),
  (true, true, false, false),
  (true, false, true, false),
  (false, false, false, true),
  (false, true, false, true),
  (false, false, true, true)]

def encapOuterKey (hdr : Headers) : Bool × Bool × Bool × Bool :=
  (hdr.ipv4.valid, hdr.udp.valid, hdr.tcp.valid, hdr.ipv6.valid)

/-- Without an entry the headers stay as they are. -/
theorem encapOuter_missed (fresh : Headers) (s : EgressState)
    (missed : encapOuterKey s.hdr ∉ encapOuterEntries) :
    encapOuter fresh s = (s, fresh.ipv4.fields.totalLen) := by
  unfold encapOuterKey at missed
  unfold encapOuter
  split
  all_goals first | rfl | skip
  all_goals
    rename_i ipv4 udp tcp ipv6
    rw [ipv4, udp, tcp, ipv6] at missed
    exact absurd missed (by decide)

/-- A direct packet hits exactly one of the entries. -/
theorem encapOuter_hits {hdr : Headers} {pkt : Bits} {parcel : Parcel} (plain : hdr.Plain pkt parcel) :
    encapOuterEntries.count (encapOuterKey hdr) = 1 := by
  have families : (hdr.ipv4.valid = true ∧ hdr.ipv6.valid = false) ∨
      (hdr.ipv4.valid = false ∧ hdr.ipv6.valid = true) := by
    have emits := plain.parcel
    cases parcel with
    | v4 ip payload => exact .inl ⟨congrArg Header.valid emits.1, emits.2.1⟩
    | v6 ip payload => exact .inr ⟨emits.1, congrArg Header.valid emits.2.1⟩
  have transport := plain.transport
  rw [encapOuterKey]
  rcases families with ⟨ipv4, ipv6⟩ | ⟨ipv4, ipv6⟩
  all_goals
    rw [ipv4, ipv6]
    cases udp : hdr.udp.valid <;> cases tcp : hdr.tcp.valid
    all_goals first | rfl | exact absurd ⟨udp, tcp⟩ transport

/-- Behind the first table every outer header is gone and the packet stands inside. -/
structure Moves (before after : Headers) (pkt : Bits) (parcel : Parcel) : Prop where
  parcel : after.BearsParcel pkt parcel
  ipv4 : after.ipv4.valid = false
  ipv6 : after.ipv6.valid = false
  udp : after.udp.valid = false
  tcp : after.tcp.valid = false
  icmp : after.icmp.valid = false
  vxlan : after.vxlan.valid = false
  innerEthernet : after.innerEthernet.valid = false
  bgMd : after.bgMd = before.bgMd
  ethernet : after.ethernet = before.ethernet
  fabric : after.fabric = before.fabric
  cpu : after.cpu = before.cpu

/-- The inner IPv4 header, which the action fills field by field -/
theorem copied_eq (inner : Header Ipv4) (contents ip : Ipv4) (off : inner.valid = false) :
    (⟨(inner.setValid contents).valid,
      { ip with hdrChecksum := (inner.setValid contents).fields.hdrChecksum }⟩ : Header Ipv4) =
      ⟨true, { ip with hdrChecksum := contents.hdrChecksum }⟩ := by
  rw [inner.setValid_of_invalid contents off]

theorem encapOuter_moves (fresh : Headers) (s : EgressState) {pkt : Bits} {parcel : Parcel}
    (plain : s.hdr.Plain pkt parcel) :
    ∃ hdr : Headers, encapOuter fresh s = ({ s with hdr := hdr }, parcel.length) ∧
      Moves s.hdr hdr pkt (parcel.uncheck fresh.innerIpv4.fields) := by
  obtain ⟨emits, transport, icmp, vxlan, innerEthernet, innerIpv4, words, innerIpv6, innerTcp, innerUdp⟩ :=
    plain
  have noTcp := Header.emit_of_invalid Tcp.codec _ innerTcp
  have noUdp := Header.emit_of_invalid Udp.codec _ innerUdp
  cases parcel with
  | v4 ip payload =>
      obtain ⟨hasIp, ipv6, rfl⟩ := emits
      obtain rfl : s.hdr.ipv4.fields = ip := congrArg Header.fields hasIp
      have on : s.hdr.ipv4.valid = true := congrArg Header.valid hasIp
      have copied := copied_eq s.hdr.innerIpv4 fresh.innerIpv4.fields s.hdr.ipv4.fields innerIpv4
      unfold encapOuter
      rw [on, ipv6]
      cases udp : s.hdr.udp.valid with
      | true =>
          have tcp : s.hdr.tcp.valid = false := Bool.eq_false_iff.mpr fun h => transport ⟨udp, h⟩
          rw [tcp]
          refine ⟨_, rfl, ⟨copied, innerIpv6, ?_⟩, rfl, ipv6, rfl, tcp, icmp, vxlan, innerEthernet, rfl, rfl,
            rfl, rfl⟩
          change _ = Headers.emitOptions s.hdr.innerOptionWords ++ (s.hdr.innerTcp.emit Tcp.codec ++
            (s.hdr.udp.emit Udp.codec ++ pkt))
          rw [words, noTcp, Header.emit_of_invalid _ _ tcp]
          rfl
      | false =>
          cases tcp : s.hdr.tcp.valid with
          | true =>
              refine ⟨_, rfl, ⟨copied, innerIpv6, ?_⟩, rfl, ipv6, udp, rfl, icmp, vxlan, innerEthernet, rfl,
                rfl, rfl, rfl⟩
              change _ = Headers.emitOptions s.hdr.innerOptionWords ++ (s.hdr.tcp.emit Tcp.codec ++
                (s.hdr.innerUdp.emit Udp.codec ++ pkt))
              rw [words, noUdp, Header.emit_of_invalid _ _ udp]
              rfl
          | false =>
              refine ⟨_, rfl, ⟨copied, innerIpv6, ?_⟩, rfl, ipv6, udp, tcp, icmp, vxlan, innerEthernet, rfl,
                rfl, rfl, rfl⟩
              change _ = Headers.emitOptions s.hdr.innerOptionWords ++ (s.hdr.innerTcp.emit Tcp.codec ++
                (s.hdr.innerUdp.emit Udp.codec ++ pkt))
              rw [words, noTcp, noUdp, Header.emit_of_invalid _ _ udp, Header.emit_of_invalid _ _ tcp]
              rfl
  | v6 ip payload =>
      obtain ⟨ipv4, hasIp, rfl⟩ := emits
      have on : s.hdr.ipv6.valid = true := congrArg Header.valid hasIp
      obtain rfl : s.hdr.ipv6.fields = ip := congrArg Header.fields hasIp
      unfold encapOuter
      rw [ipv4, on]
      cases udp : s.hdr.udp.valid with
      | true =>
          have tcp : s.hdr.tcp.valid = false := Bool.eq_false_iff.mpr fun h => transport ⟨udp, h⟩
          rw [tcp]
          refine ⟨_, rfl, ⟨innerIpv4, hasIp, words, ?_⟩, ipv4, rfl, rfl, tcp, icmp, vxlan, innerEthernet, rfl,
            rfl, rfl, rfl⟩
          change _ = s.hdr.innerTcp.emit Tcp.codec ++ (s.hdr.udp.emit Udp.codec ++ pkt)
          rw [noTcp, Header.emit_of_invalid _ _ tcp]
          rfl
      | false =>
          cases tcp : s.hdr.tcp.valid with
          | true =>
              refine ⟨_, rfl, ⟨innerIpv4, hasIp, words, ?_⟩, ipv4, rfl, udp, rfl, icmp, vxlan, innerEthernet,
                rfl, rfl, rfl, rfl⟩
              change _ = s.hdr.tcp.emit Tcp.codec ++ (s.hdr.innerUdp.emit Udp.codec ++ pkt)
              rw [noUdp, Header.emit_of_invalid _ _ udp]
              rfl
          | false =>
              refine ⟨_, rfl, ⟨innerIpv4, hasIp, words, ?_⟩, ipv4, rfl, udp, tcp, icmp, vxlan, innerEthernet,
                rfl, rfl, rfl, rfl⟩
              change _ = s.hdr.innerTcp.emit Tcp.codec ++ (s.hdr.innerUdp.emit Udp.codec ++ pkt)
              rw [noTcp, noUdp, Header.emit_of_invalid _ _ udp, Header.emit_of_invalid _ _ tcp]

/-- The whole control turns a direct packet into the tunnel packet around it. -/
theorem enCapVxlan_wraps (fresh : Headers) (s : EgressState) {pkt : Bits} {parcel : Parcel}
    (plain : s.hdr.Plain pkt parcel) :
    ∃ hdr : Headers, enCapVxlan fresh s = { s with hdr := hdr } ∧
      hdr.Bears pkt (wrap fresh s.hdr.bgMd.fields.outerEthernetType parcel) ∧
      hdr.bgMd = ⟨s.hdr.bgMd.valid, { s.hdr.bgMd.fields with outerEthernetType := etherTypeIpv4 }⟩ ∧
      hdr.ethernet.valid = s.hdr.ethernet.valid ∧ hdr.fabric = s.hdr.fabric ∧ hdr.cpu = s.hdr.cpu := by
  obtain ⟨hdr, moved, moves⟩ := encapOuter_moves fresh s plain
  have shape : enCapVxlan fresh s =
      { rewriteIpv4Vxlan fresh parcel.length { s with hdr := hdr } with
        hdr.bgMd.fields.outerEthernetType := etherTypeIpv4 } := by
    rw [enCapVxlan, moved]
  rw [shape, rewriteIpv4Vxlan]
  dsimp only [addIpv4Header, addUdpHeader, addVxlanHeader]
  rw [hdr.innerEthernet.setValid_of_invalid _ moves.innerEthernet, hdr.ipv4.setValid_of_invalid _ moves.ipv4,
    hdr.udp.setValid_of_invalid _ moves.udp, hdr.vxlan.setValid_of_invalid _ moves.vxlan, moves.bgMd]
  have framed : hdr.ethernet.valid = s.hdr.ethernet.valid := congrArg Header.valid moves.ethernet
  refine ⟨_, rfl, ⟨rfl, moves.ipv6, rfl, moves.tcp, moves.icmp, rfl, rfl, ?_⟩, rfl, framed, moves.fabric,
    moves.cpu⟩
  have inside := moves.parcel
  cases parcel <;> exact inside

end P13Egress

end IgwP4.Dataplane

/-
This file gives what the last pipe does to a tunnel packet in both directions.
-/

import IgwP4.Proof.Dataplane.BridgedPackets
import IgwP4.Proof.Dataplane.P02EgressControls

namespace IgwP4.Dataplane
open Packet

namespace Parcel

/-- Only the IPv4 action counts the hop. -/
def hop : Parcel → Parcel
  | .v4 ip payload => .v4 { ip with ttl := ip.ttl - 1 } payload
  | .v6 ip payload => .v6 ip payload

/-- The last deparser computes the checksum of an inner IPv4 header. -/
def update : Parcel → Parcel
  | .v4 ip payload => .v4 ip.update payload
  | .v6 ip payload => .v6 ip payload

@[simp] theorem hop_etherType (parcel : Parcel) : parcel.hop.etherType = parcel.etherType := by
  cases parcel <;> rfl

end Parcel

namespace TunnelPacket

/-- The inbound packet takes the standard form and the addresses of its next hop. -/
def deliver (tables : Tables) (bgMd : BridgeMetadata) (t : TunnelPacket) : TunnelPacket where
  ip := { t.ip with
    srcAddr := (tables.tunnelSrcRewrite bgMd.tunnelSrcId).getD t.ip.srcAddr
    dstAddr := (tables.tunnelDstRewrite bgMd.tunnelDstId).getD t.ip.dstAddr }
  udp := { t.udp with srcPort := bgMd.l3EcmpEntryIdx, dstPort := udpPortVxlan, checksum := 0 }
  vxlan := { t.vxlan with flags := 0x08, version := 0, vni := bgMd.lkpVni, tof := 0 }
  ethernet := t.ethernet.readdress (tables.tunnelInnerRewrite bgMd.innerMacId)
  parcel := t.parcel.hop

end TunnelPacket

/-- A destination id without an entry marks the packet. -/
def BridgeMetadata.undelivered (tables : Tables) (bgMd : BridgeMetadata) : Prop :=
  tables.tunnelDstRewrite bgMd.tunnelDstId = none ∧ bgMd.tunnelDstId ≠ 0

instance (tables : Tables) (bgMd : BridgeMetadata) : Decidable (bgMd.undelivered tables) :=
  inferInstanceAs (Decidable (_ ∧ _))

def BridgeMetadata.settle (tables : Tables) (bgMd : BridgeMetadata) : BridgeMetadata :=
  { bgMd with needDrop := if bgMd.undelivered tables then 1 else bgMd.needDrop }

theorem BridgeMetadata.settle_of_delivered {tables : Tables} {bgMd : BridgeMetadata}
    (delivered : ¬ bgMd.undelivered tables) : bgMd.settle tables = bgMd := by
  rw [settle, if_neg delivered]

namespace P02Egress

theorem tunnelInnerRewrite_eq (tables : Tables) (s : EgressState) :
    tunnelInnerRewrite tables s = { s with
      hdr.innerEthernet.fields :=
        s.hdr.innerEthernet.fields.readdress (tables.tunnelInnerRewrite s.hdr.bgMd.fields.innerMacId) } := by
  unfold tunnelInnerRewrite
  cases tables.tunnelInnerRewrite s.hdr.bgMd.fields.innerMacId <;> rfl

theorem tunnelSrcRewrite_eq (tables : Tables) (s : EgressState) :
    tunnelSrcRewrite tables s = { s with
      hdr.ipv4.fields.srcAddr :=
        (tables.tunnelSrcRewrite s.hdr.bgMd.fields.tunnelSrcId).getD s.hdr.ipv4.fields.srcAddr } := by
  unfold tunnelSrcRewrite
  cases tables.tunnelSrcRewrite s.hdr.bgMd.fields.tunnelSrcId <;> rfl

theorem tunnelDstRewrite_eq (tables : Tables) (s : EgressState) :
    ∃ events, tunnelDstRewrite tables s = { s with
      hdr.bgMd.fields := s.hdr.bgMd.fields.settle tables
      hdr.ipv4.fields.dstAddr :=
        (tables.tunnelDstRewrite s.hdr.bgMd.fields.tunnelDstId).getD s.hdr.ipv4.fields.dstAddr
      events := events } := by
  unfold tunnelDstRewrite
  split
  · rename_i ip found
    rw [BridgeMetadata.settle_of_delivered (fun h => by simp [h.1] at found), found, Option.getD_some]
    exact ⟨_, rfl⟩
  · rename_i missed
    rw [missed, Option.getD_none]
    split
    · rename_i exist
      rw [BridgeMetadata.settle, if_pos ⟨missed, exist⟩]
      exact ⟨_, rfl⟩
    · rename_i none
      rw [BridgeMetadata.settle_of_delivered (fun h => none h.2)]
      exact ⟨_, rfl⟩

/-- The inbound control on a tunnel packet -/
theorem internetInProcess_delivers (tables : Tables) (s : EgressState) {pkt : Bits} {t : TunnelPacket}
    (bears : s.hdr.Bears pkt t) :
    ∃ (hdr : Headers) (events : List Event), internetInProcess tables s = { s with
        hdr := hdr
        metadata.tunnel.innerIpv4ChecksumEn := t.parcel.isV4 || s.metadata.tunnel.innerIpv4ChecksumEn
        events := events } ∧
      hdr.Bears pkt (t.deliver tables s.hdr.bgMd.fields) ∧
      hdr.bgMd = ⟨s.hdr.bgMd.valid, s.hdr.bgMd.fields.settle tables⟩ ∧
      hdr.ethernet = s.hdr.ethernet ∧ hdr.fabric = s.hdr.fabric ∧ hdr.cpu = s.hdr.cpu := by
  obtain ⟨ip, udp, vxlan, ethernet, parcel⟩ := t
  obtain ⟨hasIp, ipv6, hasUdp, tcp, icmp, hasVxlan, hasEthernet, inner⟩ := bears
  obtain rfl : s.hdr.ipv4.fields = ip := congrArg Header.fields hasIp
  obtain rfl : s.hdr.udp.fields = udp := congrArg Header.fields hasUdp
  obtain rfl : s.hdr.vxlan.fields = vxlan := congrArg Header.fields hasVxlan
  obtain rfl : s.hdr.innerEthernet.fields = ethernet := congrArg Header.fields hasEthernet
  have onIp : s.hdr.ipv4.valid = true := congrArg Header.valid hasIp
  have onUdp : s.hdr.udp.valid = true := congrArg Header.valid hasUdp
  have onVxlan : s.hdr.vxlan.valid = true := congrArg Header.valid hasVxlan
  have onEthernet : s.hdr.innerEthernet.valid = true := congrArg Header.valid hasEthernet
  rw [internetInProcess]
  simp only [onVxlan, if_true]
  cases parcel with
  | v4 header payload =>
      obtain ⟨inner4, inner6, rest⟩ := inner
      obtain rfl : s.hdr.innerIpv4.fields = header := congrArg Header.fields inner4
      have on4 : s.hdr.innerIpv4.valid = true := congrArg Header.valid inner4
      rw [rewriteVxlanProcess, on4, inner6, tunnelSrcRewrite_eq, tunnelInnerRewrite_eq]
      obtain ⟨events, settled⟩ := tunnelDstRewrite_eq tables _
      rw [settled]
      refine ⟨_, _, rfl, ⟨?_, ipv6, ?_, tcp, icmp, ?_, ?_, ?_, inner6, rest⟩, rfl, rfl, rfl, rfl⟩
      · exact congrArg (Header.mk · _) onIp
      · exact congrArg (Header.mk · _) onUdp
      · exact congrArg (Header.mk · _) onVxlan
      · exact congrArg (Header.mk · _) onEthernet
      · exact congrArg (Header.mk · _) on4
  | v6 header payload =>
      obtain ⟨inner4, inner6, words, rest⟩ := inner
      have on6 : s.hdr.innerIpv6.valid = true := congrArg Header.valid inner6
      rw [rewriteVxlanProcess, on6, inner4, tunnelSrcRewrite_eq, tunnelInnerRewrite_eq]
      obtain ⟨events, settled⟩ := tunnelDstRewrite_eq tables _
      rw [settled]
      refine ⟨_, _, rfl, ⟨?_, ipv6, ?_, tcp, icmp, ?_, ?_, inner4, inner6, words, rest⟩, rfl, rfl, rfl, rfl⟩
      · exact congrArg (Header.mk · _) onIp
      · exact congrArg (Header.mk · _) onUdp
      · exact congrArg (Header.mk · _) onVxlan
      · exact congrArg (Header.mk · _) onEthernet

end P02Egress

end IgwP4.Dataplane

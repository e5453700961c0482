/-
This file gives the redirections as functions of tunnel packets and shows that both redirection
controls compute them.
-/

import IgwP4.Proof.Dataplane.BridgedPackets
import IgwP4.Proof.Dataplane.Flows

namespace IgwP4.Dataplane
open Packet

namespace Parcel

def src : Parcel → Eip
  | .v4 ip _ => .v4 ip.srcAddr
  | .v6 ip _ => .v6 ip.srcAddr

def dst : Parcel → Eip
  | .v4 ip _ => .v4 ip.dstAddr
  | .v6 ip _ => .v6 ip.dstAddr

/-- The source translation reaches IPv4 only. -/
def translate (tables : Tables) (vni : BitVec 24) : Parcel → Parcel
  | .v4 ip payload => .v4 { ip with srcAddr := snatSource tables vni ip.srcAddr } payload
  | .v6 ip payload => .v6 ip payload

@[simp] theorem translate_etherType (tables : Tables) (vni : BitVec 24) (parcel : Parcel) :
    (parcel.translate tables vni).etherType = parcel.etherType := by
  cases parcel <;> rfl

end Parcel

namespace TunnelPacket

def snat (tables : Tables) (t : TunnelPacket) : TunnelPacket :=
  { t with parcel := t.parcel.translate tables t.vxlan.vni }

theorem Tunnels.snat {t : TunnelPacket} (tunnels : t.Tunnels) (tables : Tables) :
    (t.snat tables).Tunnels :=
  ⟨tunnels.selects, tunnels.port, tunnels.type.trans (Parcel.translate_etherType _ _ _).symm⟩

/-- The data of a redirection, as the two controls differ in it -/
structure Redirection where
  action : ModifyJdVxlanKey → Option ModifyJdVxlanAction
  select : BitVec 1 → BitVec 32 → Option (BitVec 32)
  tofAz : BitVec 4
  tofEip : BitVec 4
  vniAz : BitVec 24 → BitVec 24
  vniEip : BitVec 24 → BitVec 24

def Redirection.outbound (tables : Tables) : Redirection where
  action := tables.modifyJdVxlanOut
  select := tables.selectRedirectIpOut
  tofAz := tofAzOut
  tofEip := tofEipOut
  vniAz := id
  vniEip := id

def Redirection.inbound (tables : Tables) : Redirection where
  action := tables.modifyJdVxlanIn
  select := tables.selectRedirectIpIn
  tofAz := tofAzIn
  tofEip := tofEipIn
  vniAz _ := 99
  vniEip _ := 125

/-- A redirected packet has the JD form, its new type and its new addresses. -/
def rewrite (r : Redirection) (index : BitVec 32) (t : TunnelPacket) : ModifyJdVxlanAction → TunnelPacket
  | .rewriteEip srcip => { t with
      vxlan := { t.vxlan with flags := 0x0c, version := 1, vni := r.vniEip t.vxlan.vni, tof := r.tofEip }
      udp := { t.udp with srcPort := 250 }
      ip := { t.ip with srcAddr := srcip, dstAddr := (r.select 1 index).getD t.ip.dstAddr } }
  | .rewriteAz sharedBwVip => { t with
      vxlan := { t.vxlan with flags := 0x0c, version := 1, vni := r.vniAz t.vxlan.vni, tof := r.tofAz }
      udp := { t.udp with srcPort := 50 }
      ip := { t.ip with dstAddr := sharedBwVip } }

/-- The redirection of a packet by its type and by the two cluster flags of its address -/
def redirect (r : Redirection) (betweenCluster withinCluster : BitVec 1) (index : BitVec 32)
    (t : TunnelPacket) : Option TunnelPacket :=
  (r.action ⟨1, t.vxlan.tof, betweenCluster, withinCluster⟩).map (t.rewrite r index)

theorem rewrite_kept (r : Redirection) (index : BitVec 32) (t : TunnelPacket) (action : ModifyJdVxlanAction) :
    (t.rewrite r index action).ethernet = t.ethernet ∧ (t.rewrite r index action).parcel = t.parcel := by
  cases action <;> exact ⟨rfl, rfl⟩

/-- A redirected packet is followed by every parser as a JD packet. -/
theorem rewrite_jd (r : Redirection) (index : BitVec 32) (t : TunnelPacket) (action : ModifyJdVxlanAction) :
    jdFlag (t.rewrite r index action).vxlan = true ∧
      (t.rewrite r index action).vxlan.version = 1 := by
  have flag : (0x0c : BitVec 8).getLsbD 2 = true := by decide
  cases action <;> exact ⟨flag, rfl⟩

theorem Tunnels.rewrite {t : TunnelPacket} (tunnels : t.Tunnels) (r : Redirection) (index : BitVec 32)
    (action : ModifyJdVxlanAction) : (t.rewrite r index action).Tunnels := by
  cases action <;> exact ⟨tunnels.selects, tunnels.port, tunnels.type⟩

end TunnelPacket

/-- The outer headers of a tunnel packet are rewritten in place. -/
theorem Headers.Bears.rewritten {hdr : Headers} {pkt : Bits} {t : TunnelPacket} (bears : hdr.Bears pkt t)
    (bgMd : Header BridgeMetadata) (ip : Ipv4) (udp : Udp) (vxlan : Vxlan) :
    ({ hdr with bgMd, ipv4.fields := ip, udp.fields := udp, vxlan.fields := vxlan } : Headers).Bears pkt
      { t with ip, udp, vxlan } := by
  obtain ⟨ipv4, ipv6, udp', tcp, icmp, vxlan', innerEthernet, parcel⟩ := bears
  refine ⟨congrArg (fun h => (⟨h.valid, ip⟩ : Header Ipv4)) ipv4, ipv6,
    congrArg (fun h => (⟨h.valid, udp⟩ : Header Udp)) udp', tcp, icmp,
    congrArg (fun h => (⟨h.valid, vxlan⟩ : Header Vxlan)) vxlan', innerEthernet, ?_⟩
  change Headers.BearsParcel _ pkt t.parcel
  generalize t.parcel = p at parcel ⊢
  cases p <;> exact parcel

/-- A control that redirects changes the tunnel packet and the treatment, and nothing else. -/
structure Rewrites (hdr hdr' : Headers) (pkt : Bits) (t : TunnelPacket) (found : Option TunnelPacket) :
    Prop where
  bears : hdr'.Bears pkt (found.getD t)
  bgMd : hdr'.bgMd = ⟨hdr.bgMd.valid, { hdr.bgMd.fields with
    tunnelDirectSend := if found.isSome then dlPacket else hdr.bgMd.fields.tunnelDirectSend }⟩
  ethernet : hdr'.ethernet = hdr.ethernet
  fabric : hdr'.fabric = hdr.fabric
  cpu : hdr'.cpu = hdr.cpu

theorem P02Ingress.modifyJdVxlanOut_rewrites (tables : Tables) (s : IngressState) {pkt : Bits}
    {t : TunnelPacket} (bears : s.hdr.Bears pkt t) :
    ∃ hdr, modifyJdVxlanOut tables s = { s with hdr := hdr } ∧
      Rewrites s.hdr hdr pkt t (t.redirect (.outbound tables) s.metadata.ratelimit.betweenCluster
        s.metadata.ratelimit.withinCluster
        (hashIndex s.hdr.bgMd.fields.eipOrBwid s.hdr.bgMd.fields.sharedBandwidthId)) := by
  obtain ⟨ip, udp, vxlan, ethernet, parcel⟩ := t
  obtain rfl : s.hdr.ipv4.fields = ip := congrArg Header.fields bears.ipv4
  obtain rfl : s.hdr.udp.fields = udp := congrArg Header.fields bears.udp
  obtain rfl : s.hdr.vxlan.fields = vxlan := congrArg Header.fields bears.vxlan
  have valid : s.hdr.vxlan.valid = true := congrArg Header.valid bears.vxlan
  have key : modifyJdVxlanKey s = ⟨1, s.hdr.vxlan.fields.tof, s.metadata.ratelimit.betweenCluster,
      s.metadata.ratelimit.withinCluster⟩ := by
    rw [modifyJdVxlanKey, valid]
    rfl
  have same : (TunnelPacket.Redirection.outbound tables).action = tables.modifyJdVxlanOut := rfl
  rw [modifyJdVxlanOut, key, TunnelPacket.redirect, same]
  cases tables.modifyJdVxlanOut ⟨1, s.hdr.vxlan.fields.tof, s.metadata.ratelimit.betweenCluster,
      s.metadata.ratelimit.withinCluster⟩ with
  | none => exact ⟨s.hdr, rfl, bears, rfl, rfl, rfl, rfl⟩
  | some action =>
      cases action with
      | rewriteAz sharedBwVip => exact ⟨_, rfl, bears.rewritten _ _ _ _, rfl, rfl, rfl, rfl⟩
      | rewriteEip srcip =>
          have selected : tables.selectRedirectIpOut (validBit s.hdr.vxlan.valid)
              (hashIndex s.hdr.bgMd.fields.eipOrBwid s.hdr.bgMd.fields.sharedBandwidthId) =
              (TunnelPacket.Redirection.outbound tables).select 1
                (hashIndex s.hdr.bgMd.fields.eipOrBwid s.hdr.bgMd.fields.sharedBandwidthId) := by
            rw [valid]
            rfl
          dsimp only [Option.map_some, TunnelPacket.rewrite, Option.getD_some, selectRedirectIpOut,
            rewriteEipOutJdVxlan]
          rw [selected]
          cases (TunnelPacket.Redirection.outbound tables).select 1
              (hashIndex s.hdr.bgMd.fields.eipOrBwid s.hdr.bgMd.fields.sharedBandwidthId) with
          | none => exact ⟨_, rfl, bears.rewritten _ _ _ _, rfl, rfl, rfl, rfl⟩
          | some dlIp => exact ⟨_, rfl, bears.rewritten _ _ _ _, rfl, rfl, rfl, rfl⟩

theorem P13Egress.modifyJdVxlanIn_rewrites (tables : Tables) (s : EgressState) {pkt : Bits}
    {t : TunnelPacket} (bears : s.hdr.Bears pkt t) :
    ∃ hdr, modifyJdVxlanIn tables s = { s with hdr := hdr } ∧
      Rewrites s.hdr hdr pkt t (t.redirect (.inbound tables) s.metadata.ratelimit.betweenCluster
        s.metadata.ratelimit.withinCluster
        (hashIndex s.metadata.ratelimit.bandwidthId s.hdr.bgMd.fields.sharedBandwidthId)) := by
  obtain ⟨ip, udp, vxlan, ethernet, parcel⟩ := t
  obtain rfl : s.hdr.ipv4.fields = ip := congrArg Header.fields bears.ipv4
  obtain rfl : s.hdr.udp.fields = udp := congrArg Header.fields bears.udp
  obtain rfl : s.hdr.vxlan.fields = vxlan := congrArg Header.fields bears.vxlan
  have valid : s.hdr.vxlan.valid = true := congrArg Header.valid bears.vxlan
  have key : modifyJdVxlanKey s = ⟨1, s.hdr.vxlan.fields.tof, s.metadata.ratelimit.betweenCluster,
      s.metadata.ratelimit.withinCluster⟩ := by
    rw [modifyJdVxlanKey, valid]
    rfl
  have same : (TunnelPacket.Redirection.inbound tables).action = tables.modifyJdVxlanIn := rfl
  rw [modifyJdVxlanIn, key, TunnelPacket.redirect, same]
  cases tables.modifyJdVxlanIn ⟨1, s.hdr.vxlan.fields.tof, s.metadata.ratelimit.betweenCluster,
      s.metadata.ratelimit.withinCluster⟩ with
  | none => exact ⟨s.hdr, rfl, bears, rfl, rfl, rfl, rfl⟩
  | some action =>
      cases action with
      | rewriteAz sharedBwVip => exact ⟨_, rfl, bears.rewritten _ _ _ _, rfl, rfl, rfl, rfl⟩
      | rewriteEip srcip =>
          have selected : tables.selectRedirectIpIn (validBit s.hdr.vxlan.valid)
              (hashIndex s.metadata.ratelimit.bandwidthId s.hdr.bgMd.fields.sharedBandwidthId) =
              (TunnelPacket.Redirection.inbound tables).select 1
                (hashIndex s.metadata.ratelimit.bandwidthId s.hdr.bgMd.fields.sharedBandwidthId) := by
            rw [valid]
            rfl
          dsimp only [Option.map_some, TunnelPacket.rewrite, Option.getD_some, selectRedirectIpIn,
            rewriteEipInJdVxlan]
          rw [selected]
          cases (TunnelPacket.Redirection.inbound tables).select 1
              (hashIndex s.metadata.ratelimit.bandwidthId s.hdr.bgMd.fields.sharedBandwidthId) with
          | none => exact ⟨_, rfl, bears.rewritten _ _ _ _, rfl, rfl, rfl, rfl⟩
          | some dlIp => exact ⟨_, rfl, bears.rewritten _ _ _ _, rfl, rfl, rfl, rfl⟩

end IgwP4.Dataplane

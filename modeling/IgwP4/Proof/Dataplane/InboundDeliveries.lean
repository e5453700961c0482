/-
This file follows an inbound packet from the first internal pipe to the port of its delivery.
-/

import IgwP4.Proof.Dataplane.InboundLookups
import IgwP4.Proof.Dataplane.ParserAgreement

namespace IgwP4.Dataplane
open Packet Setup

/-- The bridge header of an inbound packet that goes on to the second internal pipe -/
structure BridgeMetadata.Inbound (bgMd : BridgeMetadata) (port : BitVec 9) : Prop where
  bridges : bgMd.Bridges etherTypeIpv4
  igrPort : bgMd.igrPort = port
  igrTunnelType : bgMd.igrTunnelType = typeIngressInternetIn
  treatment : bgMd.tunnelDirectSend = matchPacket ∨ bgMd.tunnelDirectSend = dlPacket

theorem BridgeMetadata.Inbound.police {bgMd : BridgeMetadata} {port : BitVec 9} (inbound : bgMd.Inbound port)
    (tables : Tables) (t : TunnelPacket) : (bgMd.police tables t).Inbound port := by
  have kept : (bgMd.police tables t).igrPort = bgMd.igrPort ∧
      (bgMd.police tables t).igrTunnelType = bgMd.igrTunnelType ∧
      ((bgMd.police tables t).tunnelDirectSend = bgMd.tunnelDirectSend ∨
        (bgMd.police tables t).tunnelDirectSend = dlPacket) := by
    unfold BridgeMetadata.police enter
    dsimp only
    split
    · split <;> exact ⟨rfl, rfl, .inr rfl⟩
    · split <;> exact ⟨rfl, rfl, .inl rfl⟩
  obtain ⟨igrPort, igrTunnelType, treatment⟩ := kept
  refine ⟨bgMd.police_bridges tables t inbound.bridges, igrPort.trans inbound.igrPort,
    igrTunnelType.trans inbound.igrTunnelType, ?_⟩
  rcases treatment with same | redirected
  · rw [same]
    exact inbound.treatment
  · exact .inr redirected

namespace P13Egress

/-- What this pipe sends on for an inbound packet -/
structure Sends (tables : Tables) (around : Surroundings) (internalPort : BitVec 9) (packet : Bits)
    (port : BitVec 9) (parcel : Parcel) (bgMd : BridgeMetadata) (t : TunnelPacket) : Prop where
  value : (pass tables around internalPort packet).value =
    some ⟨internalPort, BridgeMetadata.codec.encode bgMd ++ t.bits, bgMd.tunnelDirectSend⟩
  inbound : bgMd.Inbound port
  tunnels : t.Tunnels
  parcel : t.parcel = parcel

theorem pass_of_parsed {tables : Tables} {around : Surroundings} {port : BitVec 9} {packet : Bits}
    {parsed : ParserState} (accepted : P13EgressParser.parse around.containers packet = some parsed)
    {s : EgressState} (applied : apply tables around.fresh (egressStart around port parsed) = s)
    (passes : s.dropCtl = 0) :
    (pass tables around port packet).value =
      some ⟨port, deparse s ++ parsed.pkt, s.hdr.bgMd.fields.tunnelDirectSend⟩ := by
  rw [pass, egressPass, accepted]
  dsimp only
  rw [applied, passes]
  rfl

/-- A direct packet is sent on as the tunnel packet that wraps it, redirected or not. -/
theorem pass_direct (tables : Tables) (around : Surroundings) (internalPort : BitVec 9) {frame : Frame}
    (fits : frame.Fits) {parcel : Parcel} (carried : frame.parcel = some parcel) {bgMd : BridgeMetadata}
    (bridges : bgMd.Bridges parcel.etherType) (direct : bgMd.dlPkt = 0)
    (matched : bgMd.tunnelDirectSend = matchPacket) :
    let t := wrap around.fresh parcel.etherType parcel
    let policed := (enveloped bgMd parcel).police tables t
    (pass tables around internalPort (BridgeMetadata.codec.encode bgMd ++ parcel.bits)).value =
      some ⟨internalPort, BridgeMetadata.codec.encode policed ++
        ((t.redirectIn tables (enveloped bgMd parcel)).getD t).bits, policed.tunnelDirectSend⟩ := by
  obtain ⟨parsed, accepted, reads⟩ := P13EgressParser.parse_parcel around.containers fits carried bridges direct
  obtain ⟨holds, passes, _⟩ := apply_direct tables around.fresh around internalPort reads direct matched
  have value := pass_of_parsed accepted rfl passes
  rw [holds.deparse, holds.bgMd, bridges.outerEthernetType] at value
  exact value

/-- A redirected packet whose inner header is read is sent on as it is, or redirected again. -/
theorem pass_carried (tables : Tables) (around : Surroundings) (internalPort : BitVec 9)
    {bgMd : BridgeMetadata} {t : TunnelPacket} (bridges : bgMd.Bridges etherTypeIpv4)
    (redirected : bgMd.dlPkt = 1) (matched : bgMd.tunnelDirectSend = matchPacket) (tunnels : t.Tunnels)
    (reads : p13EgressDialect.Reads t) :
    let policed := (bgMd.own t.parcel).police tables t
    (pass tables around internalPort (BridgeMetadata.codec.encode bgMd ++ t.bits)).value =
      some ⟨internalPort, BridgeMetadata.codec.encode policed ++
        ((t.redirectIn tables (bgMd.own t.parcel)).getD t).bits, policed.tunnelDirectSend⟩ := by
  obtain ⟨parsed, accepted, carries⟩ := P13EgressParser.parse_tunnel around.containers bridges redirected
    tunnels reads
  obtain ⟨holds, passes, _⟩ := apply_carried tables around.fresh around internalPort carries matched
  have value := pass_of_parsed accepted rfl passes
  rw [holds.deparse, holds.bgMd] at value
  exact value

/-- The bridge header of a direct packet still leads an inbound packet behind its encapsulation. -/
theorem enveloped_inbound {bgMd : BridgeMetadata} {parcel : Parcel} (bridges : bgMd.Bridges parcel.etherType)
    (matched : bgMd.tunnelDirectSend = matchPacket) (inbound : bgMd.igrTunnelType = typeIngressInternetIn) :
    (enveloped bgMd parcel).Inbound bgMd.igrPort := by
  cases parcel <;>
    exact ⟨⟨bridges.proto, rfl, bridges.outerEthernetInvalid⟩, rfl, inbound, .inl matched⟩

theorem own_inbound {bgMd : BridgeMetadata} (parcel : Parcel) (bridges : bgMd.Bridges etherTypeIpv4)
    (matched : bgMd.tunnelDirectSend = matchPacket) (inbound : bgMd.igrTunnelType = typeIngressInternetIn) :
    (bgMd.own parcel).Inbound bgMd.igrPort := by
  cases parcel <;>
    exact ⟨⟨bridges.proto, bridges.outerEthernetType, bridges.outerEthernetInvalid⟩, rfl, inbound, .inl matched⟩

theorem sends_direct (tables : Tables) (around : Surroundings) (internalPort : BitVec 9) {frame : Frame}
    (fits : frame.Fits) {parcel : Parcel} (carried : frame.parcel = some parcel) {bgMd : BridgeMetadata}
    (bridges : bgMd.Bridges parcel.etherType) (direct : bgMd.dlPkt = 0)
    (matched : bgMd.tunnelDirectSend = matchPacket) (inbound : bgMd.igrTunnelType = typeIngressInternetIn) :
    ∃ bgMd' t, Sends tables around internalPort (BridgeMetadata.codec.encode bgMd ++ parcel.bits)
      bgMd.igrPort (parcel.uncheck around.fresh.innerIpv4.fields) bgMd' t := by
  obtain ⟨_, inner, tunnels⟩ := TunnelPacket.redirectIn_kept tables (enveloped bgMd parcel)
    (wrap around.fresh parcel.etherType parcel)
  exact ⟨_, _, pass_direct tables around internalPort fits carried bridges direct matched,
    (enveloped_inbound bridges matched inbound).police tables _, tunnels (wrap_tunnels _ _), inner⟩

theorem sends_carried (tables : Tables) (around : Surroundings) (internalPort : BitVec 9)
    {bgMd : BridgeMetadata} {t : TunnelPacket} (bridges : bgMd.Bridges etherTypeIpv4)
    (redirected : bgMd.dlPkt = 1) (matched : bgMd.tunnelDirectSend = matchPacket)
    (inbound : bgMd.igrTunnelType = typeIngressInternetIn) (tunnels : t.Tunnels)
    (reads : p13EgressDialect.Reads t) :
    ∃ bgMd' t', Sends tables around internalPort (BridgeMetadata.codec.encode bgMd ++ t.bits)
      bgMd.igrPort t.parcel bgMd' t' := by
  obtain ⟨_, inner, after⟩ := t.redirectIn_kept tables (bgMd.own t.parcel)
  exact ⟨_, _, pass_carried tables around internalPort bridges redirected matched tunnels reads,
    (own_inbound t.parcel bridges matched inbound).police tables _, after tunnels, inner⟩

/-! A standard tunnel packet with inner IPv6, whose inner header this pipe does not read -/

/-- The headers end with the inner Ethernet header, and the parcel is left unread. -/
structure Unread (s : EgressState) (bgMd : BridgeMetadata) (t : TunnelPacket) : Prop where
  bgMd : s.hdr.bgMd = ⟨true, bgMd⟩
  ethernet : s.hdr.ethernet.valid = false
  fabric : s.hdr.fabric.valid = false
  cpu : s.hdr.cpu.valid = false
  ipv4 : s.hdr.ipv4 = ⟨true, t.ip⟩
  ipv6 : s.hdr.ipv6.valid = false
  udp : s.hdr.udp = ⟨true, t.udp⟩
  tcp : s.hdr.tcp.valid = false
  icmp : s.hdr.icmp.valid = false
  vxlan : s.hdr.vxlan = ⟨true, t.vxlan⟩
  innerEthernet : s.hdr.innerEthernet = ⟨true, t.ethernet⟩
  innerIpv4 : s.hdr.innerIpv4.valid = false
  innerOptionWords : s.hdr.innerOptionWords = []
  innerIpv6 : s.hdr.innerIpv6.valid = false
  innerTcp : s.hdr.innerTcp.valid = false
  innerUdp : s.hdr.innerUdp.valid = false

theorem Unread.deparse {s : EgressState} {bgMd : BridgeMetadata} {t : TunnelPacket}
    (unread : Unread s bgMd t) :
    P13Egress.deparse s ++ t.parcel.bits = BridgeMetadata.codec.encode bgMd ++ t.bits := by
  have off {A : Type} (codec : Codec A) (header : Header A) := Header.emit_of_invalid codec header
  rw [P13Egress.deparse, Headers.emit_uncpu unread.fabric unread.cpu, off _ _ unread.ethernet, unread.bgMd,
    Headers.emitIp_plain s.hdr t.parcel.bits unread.innerIpv4 unread.innerOptionWords unread.innerIpv6
      unread.innerTcp unread.innerUdp (congrArg (Header.emit _) unread.ipv4) (off _ _ unread.ipv6)
      (congrArg (Header.emit _) unread.udp) (off _ _ unread.tcp) (off _ _ unread.icmp)
      (congrArg (Header.emit _) unread.vxlan) (congrArg (Header.emit _) unread.innerEthernet)]
  rfl

/-- The outer headers of such a packet are rewritten in place. -/
theorem Unread.rewritten {s : EgressState} {bgMd : BridgeMetadata} {t : TunnelPacket}
    (unread : Unread s bgMd t) (bgMd' : BridgeMetadata) (ip : Ipv4) (udp : Udp) (vxlan : Vxlan) :
    Unread { s with
        hdr.bgMd.fields := bgMd'
        hdr.ipv4.fields := ip
        hdr.udp.fields := udp
        hdr.vxlan.fields := vxlan } bgMd' { t with ip, udp, vxlan } :=
  { unread with
    bgMd := congrArg (fun h => (⟨h.valid, bgMd'⟩ : Header BridgeMetadata)) unread.bgMd
    ipv4 := congrArg (fun h => (⟨h.valid, ip⟩ : Header Ipv4)) unread.ipv4
    udp := congrArg (fun h => (⟨h.valid, udp⟩ : Header Udp)) unread.udp
    vxlan := congrArg (fun h => (⟨h.valid, vxlan⟩ : Header Vxlan)) unread.vxlan }

/-- The redirection rewrites such a packet, or leaves it alone. -/
theorem modifyJdVxlanIn_unread (tables : Tables) {s : EgressState} {bgMd : BridgeMetadata} {t : TunnelPacket}
    (unread : Unread s bgMd t) (bridges : bgMd.Bridges etherTypeIpv4)
    (matched : bgMd.tunnelDirectSend = matchPacket) (inbound : bgMd.igrTunnelType = typeIngressInternetIn) :
    ∃ (r : EgressState) (bgMd' : BridgeMetadata) (t' : TunnelPacket), modifyJdVxlanIn tables s = r ∧
      Unread r bgMd' t' ∧ bgMd'.Inbound bgMd.igrPort ∧ (t.Tunnels → t'.Tunnels) ∧ t'.parcel = t.parcel ∧
      r.dropCtl = s.dropCtl := by
  obtain rfl : s.hdr.bgMd.fields = bgMd := congrArg Header.fields unread.bgMd
  have sent : ({ s.hdr.bgMd.fields with tunnelDirectSend := dlPacket } : BridgeMetadata).Inbound
      s.hdr.bgMd.fields.igrPort :=
    ⟨⟨bridges.proto, bridges.outerEthernetType, bridges.outerEthernetInvalid⟩, rfl, inbound, .inr rfl⟩
  have port : s.hdr.udp.fields.dstPort = t.udp.dstPort :=
    congrArg (fun h : Header Udp => h.fields.dstPort) unread.udp
  have outer : s.hdr.ipv4.fields = t.ip := congrArg Header.fields unread.ipv4
  have tunnels (ip : Ipv4) (udp : Udp) (vxlan : Vxlan) (selects : t.ip.selects ipProtocolsUdp →
      ip.selects ipProtocolsUdp) (same : udp.dstPort = t.udp.dstPort) (tunnels : t.Tunnels) :
      ({ t with ip, udp, vxlan } : TunnelPacket).Tunnels :=
    ⟨selects tunnels.selects, same.trans tunnels.port, tunnels.type⟩
  unfold modifyJdVxlanIn
  split
  · rename_i srcip _
    unfold selectRedirectIpIn
    split
    · rename_i dlIp _
      refine ⟨_, _, _, rfl, unread.rewritten { s.hdr.bgMd.fields with tunnelDirectSend := dlPacket }
        { s.hdr.ipv4.fields with srcAddr := srcip, dstAddr := dlIp } { s.hdr.udp.fields with srcPort := 250 }
        { s.hdr.vxlan.fields with flags := 0x0c, version := 1, vni := 125, tof := tofEipIn }, sent,
        tunnels _ _ _ ?_ port, rfl, rfl⟩
      rw [outer]
      exact id
    · refine ⟨_, _, _, rfl, unread.rewritten { s.hdr.bgMd.fields with tunnelDirectSend := dlPacket }
        { s.hdr.ipv4.fields with srcAddr := srcip } { s.hdr.udp.fields with srcPort := 250 }
        { s.hdr.vxlan.fields with flags := 0x0c, version := 1, vni := 125, tof := tofEipIn }, sent,
        tunnels _ _ _ ?_ port, rfl, rfl⟩
      rw [outer]
      exact id
  · rename_i sharedBwVip _
    refine ⟨_, _, _, rfl, unread.rewritten { s.hdr.bgMd.fields with tunnelDirectSend := dlPacket }
      { s.hdr.ipv4.fields with dstAddr := sharedBwVip } { s.hdr.udp.fields with srcPort := 50 }
      { s.hdr.vxlan.fields with flags := 0x0c, version := 1, vni := 99, tof := tofAzIn }, sent,
      tunnels _ _ _ ?_ port, rfl, rfl⟩
    rw [outer]
    exact id
  · exact ⟨s, s.hdr.bgMd.fields, t, rfl, unread, ⟨bridges, rfl, inbound, .inl matched⟩, id, rfl, rfl⟩

/-- Without an inner header the address tables and the meter are not asked. -/
theorem apply_unread (tables : Tables) (fresh : Headers) {s : EgressState} {bgMd : BridgeMetadata}
    {t : TunnelPacket} (unread : Unread s bgMd t) (original : s.metadata.mirror.flag = 0)
    (bridges : bgMd.Bridges etherTypeIpv4) (matched : bgMd.tunnelDirectSend = matchPacket)
    (inbound : bgMd.igrTunnelType = typeIngressInternetIn) :
    ∃ (r : EgressState) (bgMd' : BridgeMetadata) (t' : TunnelPacket), apply tables fresh s = r ∧
      Unread r bgMd' t' ∧ bgMd'.Inbound bgMd.igrPort ∧ (t.Tunnels → t'.Tunnels) ∧ t'.parcel = t.parcel ∧
      r.dropCtl = s.dropCtl := by
  have onVxlan : s.hdr.vxlan.valid = true := congrArg Header.valid unread.vxlan
  have looked : decapMetaDataI2E13 s = s := by
    unfold decapMetaDataI2E13
    rw [onVxlan, unread.innerIpv4, unread.ipv6]
  have plain : encap fresh s = s := by
    rw [encap, if_neg (by rw [onVxlan]; simp)]
  have missed : eipInLookup tables s = s := by
    rw [eipInLookup, if_neg (by rw [unread.innerIpv4]; decide), if_neg (by rw [unread.innerIpv6]; decide)]
  obtain ⟨r, bgMd', t', modified, after, facts⟩ := modifyJdVxlanIn_unread tables unread bridges matched inbound
  have unmetered : eipInMeter tables r = r := by
    rw [eipInMeter, if_neg (by rw [after.innerIpv4, after.innerIpv6]; simp)]
  refine ⟨r, bgMd', t', ?_, after, facts⟩
  rw [apply_policed tables fresh s original, looked, plain, policed, eipInRedirect, missed, modified, unmetered]
  exact ite_self r

/-- A redirected packet whose inner header is not read is sent on all the same. -/
theorem sends_unread (tables : Tables) (around : Surroundings) (internalPort : BitVec 9)
    {bgMd : BridgeMetadata} {t : TunnelPacket} (bridges : bgMd.Bridges etherTypeIpv4)
    (redirected : bgMd.dlPkt = 1) (matched : bgMd.tunnelDirectSend = matchPacket)
    (inbound : bgMd.igrTunnelType = typeIngressInternetIn) (tunnels : t.Tunnels)
    (stops : ¬ p13EgressDialect.Reads t) :
    ∃ bgMd' t', Sends tables around internalPort (BridgeMetadata.codec.encode bgMd ++ t.bits)
      bgMd.igrPort t.parcel bgMd' t' := by
  obtain ⟨family, plain⟩ := not_or.mp stops
  have six : t.ethernet.etherType = etherTypeIpv6 := by
    rw [tunnels.type]
    revert family
    cases t.parcel with
    | v4 ip payload => exact fun family => absurd rfl family
    | v6 ip payload => exact fun _ => rfl
  have fits : (Outer.overlay ⟨t.udp, t.vxlan, t.ethernet, .unread t.parcel.bits⟩).Fits p13EgressDialect t.ip :=
    ⟨tunnels.selects, rfl, tunnels.port, by rw [six]; decide, fun reads => plain reads.2⟩
  have found := (p13EgressDialect.ipv4_eq_some_iff (.bridged around.containers bgMd t.bits) _).mpr
    ⟨t.ip, _, fits, rfl, rfl⟩
  rw [← P13EgressParser.parse_redirected around.containers t.bits bridges redirected] at found
  have unread : Unread (egressStart around internalPort (Outer.place p13EgressDialect
      (.overlay ⟨t.udp, t.vxlan, t.ethernet, .unread t.parcel.bits⟩)
      { ParserState.bridged around.containers bgMd t.bits with
        hdr.ipv4 := ⟨true, t.ip⟩, metadata.l3.lkpOuterIpProto := t.ip.protocol })) bgMd t :=
    ⟨rfl, rfl, rfl, rfl, rfl, rfl, rfl, rfl, rfl, rfl, rfl, rfl, rfl, rfl, rfl, rfl⟩
  obtain ⟨r, bgMd', t', applied, after, onward, follows, parcel, passes⟩ :=
    apply_unread tables around.fresh unread rfl bridges matched inbound
  have value := pass_of_parsed found applied passes
  have left : deparse r ++ t.parcel.bits = BridgeMetadata.codec.encode bgMd' ++ t'.bits := by
    rw [← parcel]
    exact after.deparse
  have rest : (Outer.place p13EgressDialect (.overlay ⟨t.udp, t.vxlan, t.ethernet, .unread t.parcel.bits⟩)
      { ParserState.bridged around.containers bgMd t.bits with
        hdr.ipv4 := ⟨true, t.ip⟩, metadata.l3.lkpOuterIpProto := t.ip.protocol }).pkt = t.parcel.bits := rfl
  rw [rest, left, after.bgMd] at value
  exact ⟨bgMd', t', value, onward, follows tunnels, parcel⟩

end P13Egress

end IgwP4.Dataplane

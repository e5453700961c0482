/-
This file gives the packet that the last pipe sends for an outbound packet that stays at the gateway.
-/

import IgwP4.Proof.Dataplane.Journeys

namespace IgwP4.Dataplane
open Packet

namespace P02Egress

/-- None of the events is one of the meter of the outbound addresses. -/
def Unmetered (events : List Event) : Prop := ∀ event ∈ events, event.site ≠ .eipOutMeter

theorem unmetered_nil : Unmetered [] := fun _ member => absurd member List.not_mem_nil

theorem unmetered_one {site : Site} (other : site ≠ .eipOutMeter) (key adjust : Nat) :
    Unmetered [⟨site, key, adjust⟩] := by
  intro event member
  rw [List.mem_singleton.mp member]
  exact other

theorem Unmetered.append {first second : List Event} (one : Unmetered first) (two : Unmetered second) :
    Unmetered (first ++ second) := by
  intro event member
  rcases List.mem_append.mp member with h | h
  · exact one event h
  · exact two event h

theorem eipOutMeter_eq (tables : Tables) {s : EgressState}
    (inner : s.hdr.innerIpv4.valid = true ∨ s.hdr.innerIpv6.valid = true) :
    ∃ color, eipOutMeter tables s = { s with
      hdr.bgMd.fields.meterPacketColor := color
      events := s.events ++ [⟨.eipOutMeter, s.metadata.ratelimit.bandwidthId.toNat, 0⟩] } := by
  unfold eipOutMeter
  rw [if_pos inner]
  dsimp only
  split <;> exact ⟨_, rfl⟩

theorem sharedBwRatelimit_eq (tables : Tables) (s : EgressState) :
    ∃ color between, sharedBwRatelimit tables s = { s with
      hdr.bgMd.fields.meterPacketColor := color, events := s.events ++ between } ∧ Unmetered between := by
  unfold sharedBwRatelimit
  dsimp only
  split <;> exact ⟨_, _, rfl, unmetered_one (by decide) _ _⟩

theorem sharedBwStats_eq (s : EgressState) :
    ∃ between, sharedBwStats s = { s with events := s.events ++ between } ∧ Unmetered between := by
  unfold sharedBwStats
  split
  · exact ⟨_, rfl, unmetered_one (by decide) _ _⟩
  · exact ⟨_, rfl, unmetered_one (by decide) _ _⟩

theorem eipOutSharedMeter_eq (tables : Tables) (s : EgressState) :
    ∃ color between, eipOutSharedMeter tables s = { s with
      hdr.bgMd.fields.meterPacketColor := color, events := s.events ++ between } ∧ Unmetered between := by
  unfold eipOutSharedMeter
  split
  · obtain ⟨color, first, limited, one⟩ := sharedBwRatelimit_eq tables s
    obtain ⟨second, counted, two⟩ := sharedBwStats_eq (sharedBwRatelimit tables s)
    refine ⟨color, first ++ second, ?_, one.append two⟩
    rw [counted, limited, ← List.append_assoc]
  · exact ⟨_, [], by rw [List.append_nil], unmetered_nil⟩

theorem eipOutEgressPktStats_eq (s : EgressState) :
    ∃ between, eipOutEgressPktStats s = { s with events := s.events ++ between } ∧ Unmetered between := by
  unfold eipOutEgressPktStats
  dsimp only
  split
  · split
    · exact ⟨_, rfl, unmetered_one (by decide) _ _⟩
    · exact ⟨_, rfl, unmetered_one (by decide) _ _⟩
  · split
    · split
      · exact ⟨_, rfl, unmetered_one (by decide) _ _⟩
      · exact ⟨_, rfl, unmetered_one (by decide) _ _⟩
    · exact ⟨[], by rw [List.append_nil], unmetered_nil⟩

/-- The outbound tables change the colour only, and the meter of the address is applied once. -/
theorem meters_eq (tables : Tables) {s : EgressState}
    (inner : s.hdr.innerIpv4.valid = true ∨ s.hdr.innerIpv6.valid = true) :
    ∃ color after, eipOutEgressPktStats (eipOutSharedMeter tables (eipOutMeter tables s)) = { s with
        hdr.bgMd.fields.meterPacketColor := color
        events := s.events ++ ⟨.eipOutMeter, s.metadata.ratelimit.bandwidthId.toNat, 0⟩ :: after } ∧
      Unmetered after := by
  obtain ⟨_, metered⟩ := eipOutMeter_eq tables inner
  obtain ⟨color, first, limited, one⟩ := eipOutSharedMeter_eq tables (eipOutMeter tables s)
  obtain ⟨second, counted, two⟩ := eipOutEgressPktStats_eq (eipOutSharedMeter tables (eipOutMeter tables s))
  have joined (event : Event) : s.events ++ [event] ++ first ++ second = s.events ++ event :: (first ++ second) := by
    simp only [List.append_assoc, List.cons_append, List.nil_append]
  refine ⟨color, first ++ second, ?_, one.append two⟩
  rw [counted, limited, metered, ← joined]

/-- The ACL meets a packet without its tunnel in this state. -/
structure Stripped (s : EgressState) (port : BitVec 9) (bgMd : BridgeMetadata) (ethernet : Ethernet) (pkt : Bits)
    (parcel : Parcel) : Prop where
  egressPort : s.egressPort = port
  bgMd : s.hdr.bgMd = ⟨true, bgMd⟩
  ethernet : s.hdr.ethernet = ⟨true, ethernet⟩
  fabric : s.hdr.fabric.valid = false
  cpu : s.hdr.cpu.valid = false
  ipv4 : s.hdr.ipv4.valid = false
  ipv6 : s.hdr.ipv6.valid = false
  udp : s.hdr.udp.valid = false
  tcp : s.hdr.tcp.valid = false
  icmp : s.hdr.icmp.valid = false
  vxlan : s.hdr.vxlan.valid = false
  innerEthernet : s.hdr.innerEthernet.valid = false
  inner : s.hdr.BearsParcel pkt parcel
  flag : s.metadata.tunnel.innerIpv4ChecksumEn = parcel.isV4

/-- The decapsulation takes the tunnel off and names the family of the inner packet. -/
theorem internetOutProcess_stripped {s : EgressState} {port : BitVec 9} {bgMd : BridgeMetadata} {ethernet : Ethernet}
    {pkt : Bits} {t : TunnelPacket} (stands : Stands s port bgMd ethernet pkt t false)
    (framed : ethernet.etherType = etherTypeIpv4) :
    ∃ ethernet' : Ethernet, ethernet'.etherType = t.parcel.etherType ∧
      Stripped (internetOutProcess s) port bgMd ethernet' pkt t.parcel := by
  obtain ⟨egressPort, bridge, outer, fabric, cpu, bears, flag⟩ := stands
  have inner := bears.parcel
  unfold internetOutProcess
  cases family : t.parcel with
  | v4 ip payload =>
      rw [family] at inner
      obtain ⟨inner4, inner6, rest⟩ := inner
      have on4 : s.hdr.innerIpv4.valid = true := congrArg Header.valid inner4
      rw [on4, inner6]
      exact ⟨ethernet, framed, egressPort, bridge, outer, fabric, cpu, rfl, bears.ipv6, rfl, bears.tcp, bears.icmp, rfl,
        rfl, ⟨inner4, inner6, rest⟩, rfl⟩
  | v6 ip payload =>
      rw [family] at inner
      obtain ⟨inner4, inner6, words, rest⟩ := inner
      have on6 : s.hdr.innerIpv6.valid = true := congrArg Header.valid inner6
      rw [on6, inner4]
      refine ⟨{ ethernet with etherType := etherTypeIpv6 }, rfl, egressPort, bridge, ?_, fabric, cpu, rfl, bears.ipv6,
        rfl, bears.tcp, bears.icmp, rfl, rfl, ⟨inner4, inner6, words, rest⟩, flag⟩
      change { s.hdr.ethernet with fields.etherType := etherTypeIpv6 } = _
      rw [outer]

namespace Stripped

variable {s : EgressState} {port : BitVec 9} {bgMd : BridgeMetadata} {ethernet : Ethernet} {pkt : Bits}
  {parcel : Parcel}

/-- What leaves is the inner packet behind the Ethernet header, with its checksum. -/
theorem emission (stripped : Stripped s port bgMd ethernet pkt parcel) (tables : Tables) (treated : bgMd.matchOrDl) :
    emission tables s pkt = ⟨port,
      Ethernet.codec.encode (ethernet.readdress (tables.tunnelMacRewrite port)) ++ parcel.update.bits,
      bgMd.tunnelDirectSend⟩ := by
  obtain ⟨rfl, bridge, outer, fabric, cpu, ipv4, ipv6, udp, tcp, icmp, vxlan, innerEthernet, inner, flag⟩ := stripped
  obtain rfl : s.hdr.bgMd.fields = bgMd := congrArg Header.fields bridge
  obtain ⟨events, left⟩ := leave_eq tables s
  have sent : (leave tables s).hdr = { s.hdr with
      bgMd := s.hdr.bgMd.setInvalid
      ethernet := ⟨true, ethernet.readdress (tables.tunnelMacRewrite s.egressPort)⟩ } := by
    rw [left]
    dsimp only [outgoing]
    rw [if_pos treated, outer]
  have marked : (leave tables s).metadata.tunnel.innerIpv4ChecksumEn = parcel.isV4 := by
    rw [left]
    exact flag
  have stamped : ∃ innerIpv4, checksums (leave tables s) = { (leave tables s).hdr with innerIpv4 := innerIpv4 } ∧
      (checksums (leave tables s)).BearsParcel pkt parcel.update := by
    have off : (leave tables s).hdr.ipv4.valid = false := by
      rw [sent]
      exact ipv4
    rw [checksums, off, marked]
    cases parcel with
    | v4 header payload =>
        obtain ⟨inner4, inner6, rest⟩ := inner
        refine ⟨_, rfl, ?_⟩
        rw [sent]
        refine ⟨?_, inner6, rest⟩
        change { s.hdr.innerIpv4 with fields := s.hdr.innerIpv4.fields.update } = _
        rw [inner4]
    | v6 header payload =>
        refine ⟨_, rfl, ?_⟩
        rw [sent]
        exact inner
  obtain ⟨innerIpv4, kept, bears⟩ := stamped
  have outerless : (checksums (leave tables s)).emitOuter = [] := by
    rw [kept, sent, Headers.emitOuter]
    dsimp only
    rw [Header.emit_of_invalid _ _ ipv4, Header.emit_of_invalid _ _ ipv6, Header.emit_of_invalid _ _ udp,
      Header.emit_of_invalid _ _ tcp, Header.emit_of_invalid _ _ icmp, Header.emit_of_invalid _ _ vxlan,
      Header.emit_of_invalid _ _ innerEthernet]
    rfl
  have whole : deparse (leave tables s) ++ pkt =
      Ethernet.codec.encode (ethernet.readdress (tables.tunnelMacRewrite s.egressPort)) ++ parcel.update.bits := by
    have front : (checksums (leave tables s)).fabric.valid = false ∧ (checksums (leave tables s)).cpu.valid = false ∧
        (checksums (leave tables s)).bgMd.valid = false ∧ (checksums (leave tables s)).ethernet =
          ⟨true, ethernet.readdress (tables.tunnelMacRewrite s.egressPort)⟩ := by
      rw [kept, sent]
      exact ⟨fabric, cpu, rfl, rfl⟩
    obtain ⟨noFabric, noCpu, noBridge, framed⟩ := front
    rw [deparse, Headers.emit_uncpu noFabric noCpu, Header.emit_of_invalid _ _ noBridge, framed, Header.emit_valid,
      Headers.emitIp, outerless, bears.emit, List.nil_append, List.nil_append]
  rw [P02Egress.emission, whole]

end Stripped

/-- The state in which an outbound packet that stays at the gateway reaches the ACL -/
theorem reached_outbound (tables : Tables) (fresh : Headers) (around : Surroundings) (port : BitVec 9)
    {parsed : ParserState} {bgMd : BridgeMetadata} {t : TunnelPacket} (carries : parsed.Carries bgMd t)
    (bridges : bgMd.Bridges etherTypeIpv4) (matched : bgMd.tunnelDirectSend = matchPacket)
    (outbound : bgMd.igrTunnelType ≠ typeIngressInternetIn) :
    ∃ color key after ethernet, Stripped (reached tables fresh (egressStart around port parsed)) port
        { bgMd with meterPacketColor := color } ethernet parsed.pkt t.parcel ∧
      ethernet.etherType = t.parcel.etherType ∧
      (reached tables fresh (egressStart around port parsed)).events = ⟨.eipOutMeter, key, 0⟩ :: after ∧
      Unmetered after := by
  have stands := restore_stands fresh around port carries bridges.outerEthernetInvalid
  have quiet : (restore fresh (egressStart around port parsed)).events = [] := by
    obtain ⟨l3, restores⟩ := restore_carried fresh (s := egressStart around port parsed) carries.bgMd
      carries.ethernet bridges.outerEthernetInvalid carries.bears.inner
    rw [restores]
    rfl
  rw [reached]
  generalize restore fresh (egressStart around port parsed) = s at stands quiet
  have fields : s.hdr.bgMd.fields = bgMd := congrArg Header.fields stands.bgMd
  have inner : s.hdr.innerIpv4.valid = true ∨ s.hdr.innerIpv6.valid = true := by
    rcases stands.bears.inner with ⟨on, _⟩ | ⟨_, on⟩
    · exact .inl on
    · exact .inr on
  obtain ⟨color, after, metered, others⟩ := meters_eq tables inner
  rw [if_pos (by rw [fields, matched]), processGwEgress, if_neg (by rw [fields]; exact outbound), metered]
  have coloured : Stands { s with
      hdr.bgMd.fields.meterPacketColor := color
      events := s.events ++ ⟨.eipOutMeter, s.metadata.ratelimit.bandwidthId.toNat, 0⟩ :: after } port
        { bgMd with meterPacketColor := color } (restored fresh bgMd) parsed.pkt t false := by
    refine ⟨stands.egressPort, ?_, stands.ethernet, stands.fabric, stands.cpu, ?_, stands.flag⟩
    · change { s.hdr.bgMd with fields.meterPacketColor := color } = _
      rw [stands.bgMd]
    · exact stands.bears.outside _ _ _ _
  obtain ⟨ethernet, family, stripped⟩ := internetOutProcess_stripped coloured bridges.outerEthernetType
  refine ⟨color, s.metadata.ratelimit.bandwidthId.toNat, after, ethernet, stripped, family, ?_, others⟩
  have silent (s : EgressState) : (internetOutProcess s).events = s.events := by
    unfold internetOutProcess
    split <;> rfl
  rw [silent]
  change s.events ++ _ = _
  rw [quiet]
  rfl

/-- An outbound packet that stays at the gateway leaves without its tunnel, unless the ACL drops it. -/
theorem pass_stripped {tables : Tables} {around : Surroundings} {port : BitVec 9} {bgMd : BridgeMetadata}
    {t : TunnelPacket} (bridges : bgMd.Bridges etherTypeIpv4) (tunnels : t.Tunnels)
    (matched : bgMd.tunnelDirectSend = matchPacket) (outbound : bgMd.igrTunnelType ≠ typeIngressInternetIn)
    {delivery : Delivery}
    (sent : (pass tables around port (BridgeMetadata.codec.encode bgMd ++ t.bits)).value = some delivery) :
    delivery.directSend = matchPacket ∧ ∃ ethernet : Ethernet, ethernet.etherType = t.parcel.etherType ∧
      delivery.packet = Ethernet.codec.encode ethernet ++ t.parcel.update.bits := by
  obtain ⟨parsed, accepted, carries⟩ := parse_tunnel around.containers bridges tunnels
  have original : parsed.metadata.mirror.flag = 0 := by
    rw [carries.mirror]
  obtain ⟨color, _, _, ethernet, stripped, family, _, _⟩ :=
    reached_outbound tables around.fresh around port carries bridges matched outbound
  rw [pass_value accepted original rfl] at sent
  split at sent
  · contradiction
  · rw [← Option.some.inj sent, stripped.emission tables (.inl matched)]
    exact ⟨matched, _, (ethernet.readdress_etherType _).trans family, rfl⟩

end P02Egress

namespace Passage

variable {a : Passage} {found : Form}

/-- An outbound packet that stays at the gateway leaves with its source translated and without its tunnel. -/
theorem outbound_stripped (known : a.form = some found) (outward : found.inbound = false) {t : TunnelPacket}
    (carried : a.frame.tunnel = some t) {delivery : Delivery} (sent : a.visit.value = some delivery)
    (matched : delivery.directSend = matchPacket) :
    ∃ ethernet : Ethernet, ethernet.etherType = (t.snat a.tables).parcel.etherType ∧
      delivery.packet = Ethernet.codec.encode ethernet ++ (t.snat a.tables).parcel.update.bits := by
  obtain ⟨_, _, tunnels, _⟩ := a.frame.tunnel_bears a.fits default carried
  rcases first_outbound known outward carried with
    lost | ⟨externalPort, before, bgMd, outside, bridges, type, treatment, first⟩
  · rw [visit, Dataplane.visit, Traced.bind, lost] at sent
    contradiction
  · rw [visit, visit_outward outside first] at sent
    rcases (t.snat a.tables).redirectOut_cases a.tables before with missed | ⟨index, action, hit⟩
    · rw [missed] at sent treatment
      exact (P02Egress.pass_stripped bridges (tunnels.snat a.tables) treatment (by rw [type]; decide) sent).2
    · rw [hit] at sent treatment
      obtain ⟨redirected, _⟩ := P02Egress.pass_redirected bridges
        ((tunnels.snat a.tables).rewrite (.outbound a.tables) index action) treatment sent
      exact absurd (matched.symm.trans redirected) (by decide)

end Passage

end IgwP4.Dataplane

/-
This file gives the packets that the last pipe sends for the tunnel packets that reach it.
-/

import IgwP4.Proof.Dataplane.Deliveries

namespace IgwP4.Dataplane
open Packet

namespace TunnelPacket

/-- The last deparser computes the outer checksum, and the inner one when the flag asks for it. -/
def stamp (t : TunnelPacket) (inner : Bool) : TunnelPacket :=
  { t with ip := t.ip.update, parcel := if inner then t.parcel.update else t.parcel }

end TunnelPacket

namespace P02Egress

/-- The checksums keep the shape of the tunnel packet. -/
theorem checksums_bears {s : EgressState} {pkt : Bits} {t : TunnelPacket} (bears : s.hdr.Bears pkt t) :
    (checksums s).Bears pkt (t.stamp s.metadata.tunnel.innerIpv4ChecksumEn) ∧
      (checksums s).bgMd = s.hdr.bgMd ∧ (checksums s).ethernet = s.hdr.ethernet ∧
      (checksums s).fabric = s.hdr.fabric ∧ (checksums s).cpu = s.hdr.cpu := by
  obtain ⟨ip, udp, vxlan, inner, parcel⟩ := t
  obtain ⟨hasIp, ipv6, hasUdp, tcp, icmp, hasVxlan, hasEthernet, hasInner⟩ := bears
  obtain rfl : s.hdr.ipv4.fields = ip := congrArg Header.fields hasIp
  have on : s.hdr.ipv4.valid = true := congrArg Header.valid hasIp
  rw [checksums, TunnelPacket.stamp]
  simp only [on, if_true]
  cases s.metadata.tunnel.innerIpv4ChecksumEn with
  | false =>
      refine ⟨⟨rfl, ipv6, hasUdp, tcp, icmp, hasVxlan, hasEthernet, ?_⟩, rfl, rfl, rfl, rfl⟩
      cases parcel <;> exact hasInner
  | true =>
      refine ⟨⟨rfl, ipv6, hasUdp, tcp, icmp, hasVxlan, hasEthernet, ?_⟩, rfl, rfl, rfl, rfl⟩
      cases parcel with
      | v4 header payload =>
          obtain ⟨inner4, inner6, rest⟩ := hasInner
          obtain rfl : s.hdr.innerIpv4.fields = header := congrArg Header.fields inner4
          exact ⟨congrArg (Header.mk · _) (congrArg Header.valid inner4), inner6, rest⟩
      | v6 header payload => exact hasInner

/-- What leaves the last pipe is the Ethernet header and the stamped tunnel packet. -/
theorem emission_tunnel (tables : Tables) {s : EgressState} {pkt : Bits} {t : TunnelPacket}
    (bears : s.hdr.Bears pkt t) {ethernet : Ethernet} (framed : s.hdr.ethernet = ⟨true, ethernet⟩)
    (treated : s.hdr.bgMd.fields.matchOrDl) (fabric : s.hdr.fabric.valid = false)
    (cpu : s.hdr.cpu.valid = false) :
    emission tables s pkt = ⟨s.egressPort,
      Ethernet.codec.encode (ethernet.readdress (tables.tunnelMacRewrite s.egressPort)) ++
        (t.stamp s.metadata.tunnel.innerIpv4ChecksumEn).bits,
      s.hdr.bgMd.fields.tunnelDirectSend⟩ := by
  obtain ⟨events, left⟩ := leave_eq tables s
  have moved : (leave tables s).hdr.Bears pkt t := by
    rw [left]
    exact bears.outside _ _ _ _
  obtain ⟨stamped, bgMd, outer, noFabric, noCpu⟩ := checksums_bears moved
  have flag : (leave tables s).metadata.tunnel.innerIpv4ChecksumEn =
      s.metadata.tunnel.innerIpv4ChecksumEn := by
    rw [left]
  have addressed : (leave tables s).hdr.ethernet =
      ⟨true, ethernet.readdress (tables.tunnelMacRewrite s.egressPort)⟩ := by
    rw [left]
    dsimp only [outgoing]
    rw [if_pos treated, framed]
  have noBridge : (leave tables s).hdr.bgMd.valid = false := by
    rw [left]
    rfl
  have offFabric : (leave tables s).hdr.fabric.valid = false := by
    rw [left]
    exact fabric
  have offCpu : (leave tables s).hdr.cpu.valid = false := by
    rw [left]
    exact cpu
  rw [emission, deparse, Headers.emit_uncpu (by rw [noFabric, offFabric]) (by rw [noCpu, offCpu]),
    stamped.emitIp, bgMd, outer, addressed, Header.emit_of_invalid _ _ noBridge, Header.emit_valid, flag]
  rfl

/-- A bridged packet gets an Ethernet header back, without its addresses. -/
def restored (fresh : Headers) (bgMd : BridgeMetadata) : Ethernet :=
  { fresh.ethernet.fields with etherType := bgMd.outerEthernetType }

theorem restore_carried (fresh : Headers) {s : EgressState} {bgMd : BridgeMetadata}
    (bridged : s.hdr.bgMd = ⟨true, bgMd⟩) (unframed : s.hdr.ethernet.valid = false)
    (opened : bgMd.outerEthernetInvalid = 1)
    (inner : (s.hdr.innerIpv4.valid = true ∧ s.hdr.innerIpv6.valid = false) ∨
      (s.hdr.innerIpv4.valid = false ∧ s.hdr.innerIpv6.valid = true)) :
    ∃ l3, restore fresh s = { s with
      hdr.ethernet := ⟨true, restored fresh bgMd⟩
      metadata.l3 := l3
      metadata.ratelimit.bandwidthId := bgMd.eipOrBwid } := by
  obtain rfl : s.hdr.bgMd.fields = bgMd := congrArg Header.fields bridged
  have on : s.hdr.bgMd.valid = true := congrArg Header.valid bridged
  rw [restore, if_pos on, if_pos opened, s.hdr.ethernet.setValid_of_invalid _ unframed]
  rcases inner with ⟨inner4, inner6⟩ | ⟨inner4, inner6⟩
  · rw [decapMetaDataI2E02]
    simp only [inner4, inner6]
    exact ⟨_, rfl⟩
  · rw [decapMetaDataI2E02]
    simp only [inner4, inner6]
    exact ⟨_, rfl⟩


/-- The last parser accepts every bridged tunnel packet. -/
theorem parse_tunnel (containers : Headers) {bgMd : BridgeMetadata} {t : TunnelPacket}
    (bridges : bgMd.Bridges etherTypeIpv4) (tunnels : t.Tunnels) :
    ∃ parsed, P02EgressParser.parse containers (BridgeMetadata.codec.encode bgMd ++ t.bits) = some parsed ∧
      parsed.Carries bgMd t := by
  have reads : p02EgressDialect.Reads t := .inr (Bool.or_true _)
  obtain ⟨parsed, found⟩ := p02EgressDialect.ipv4_accepts tunnels rfl reads rfl
    (s := .bridged containers bgMd t.bits) rfl
  refine ⟨parsed, ?_, p02EgressDialect.ipv4_carries tunnels rfl reads found⟩
  rw [P02EgressParser.parse_bridged containers t.bits bridges, found]

/-- The ACL meets a tunnel packet in this state. -/
structure Stands (s : EgressState) (port : BitVec 9) (bgMd : BridgeMetadata) (ethernet : Ethernet)
    (pkt : Bits) (t : TunnelPacket) (inner : Bool) : Prop where
  egressPort : s.egressPort = port
  bgMd : s.hdr.bgMd = ⟨true, bgMd⟩
  ethernet : s.hdr.ethernet = ⟨true, ethernet⟩
  fabric : s.hdr.fabric.valid = false
  cpu : s.hdr.cpu.valid = false
  bears : s.hdr.Bears pkt t
  flag : s.metadata.tunnel.innerIpv4ChecksumEn = inner

/-- The state behind the restored Ethernet header -/
theorem restore_stands (fresh : Headers) (around : Surroundings) (port : BitVec 9) {parsed : ParserState}
    {bgMd : BridgeMetadata} {t : TunnelPacket} (carries : parsed.Carries bgMd t)
    (opened : bgMd.outerEthernetInvalid = 1) :
    Stands (restore fresh (egressStart around port parsed)) port bgMd (restored fresh bgMd) parsed.pkt t
      false := by
  obtain ⟨l3, restores⟩ := restore_carried fresh (s := egressStart around port parsed) carries.bgMd
    carries.ethernet opened carries.bears.inner
  rw [restores]
  exact ⟨rfl, carries.bgMd, rfl, carries.fabric, carries.cpu, carries.bears.outside _ _ _ _,
    carries.unchecked⟩

/-- An inbound packet that was not redirected reaches the ACL on its way to its next hop. -/
theorem reached_inbound (tables : Tables) (fresh : Headers) (around : Surroundings) (port : BitVec 9)
    {parsed : ParserState} {bgMd : BridgeMetadata} {t : TunnelPacket} (carries : parsed.Carries bgMd t)
    (opened : bgMd.outerEthernetInvalid = 1) (matched : bgMd.tunnelDirectSend = matchPacket)
    (inbound : bgMd.igrTunnelType = typeIngressInternetIn) :
    Stands (reached tables fresh (egressStart around port parsed)) port (bgMd.settle tables)
      (restored fresh bgMd) parsed.pkt (t.deliver tables bgMd) t.parcel.isV4 := by
  have stands := restore_stands fresh around port carries opened
  rw [reached]
  generalize restore fresh (egressStart around port parsed) = s at stands
  have fields : s.hdr.bgMd.fields = bgMd := congrArg Header.fields stands.bgMd
  rw [if_pos (by rw [fields, matched]), processGwEgress, if_pos (by rw [fields, inbound])]
  obtain ⟨hdr, events, delivered, bears, bridge, ethernet, fabric, cpu⟩ :=
    internetInProcess_delivers tables s stands.bears
  rw [fields] at bears bridge
  rw [delivered]
  refine ⟨stands.egressPort, ?_, ethernet.trans stands.ethernet, ?_, ?_, bears, ?_⟩
  · exact bridge.trans (congrArg (Header.mk · _) (congrArg Header.valid stands.bgMd))
  · exact (congrArg Header.valid fabric).trans stands.fabric
  · exact (congrArg Header.valid cpu).trans stands.cpu
  · exact (congrArg (t.parcel.isV4 || ·) stands.flag).trans (Bool.or_false _)

/-- A redirected packet reaches the ACL as it came. -/
theorem reached_redirected (tables : Tables) (fresh : Headers) (around : Surroundings) (port : BitVec 9)
    {parsed : ParserState} {bgMd : BridgeMetadata} {t : TunnelPacket} (carries : parsed.Carries bgMd t)
    (opened : bgMd.outerEthernetInvalid = 1) (redirected : bgMd.tunnelDirectSend = dlPacket) :
    Stands (reached tables fresh (egressStart around port parsed)) port bgMd (restored fresh bgMd)
      parsed.pkt t false := by
  have stands := restore_stands fresh around port carries opened
  rw [reached]
  generalize restore fresh (egressStart around port parsed) = s at stands
  have fields : s.hdr.bgMd.fields = bgMd := congrArg Header.fields stands.bgMd
  rw [if_neg (by rw [fields, redirected]; decide)]
  exact stands

theorem Stands.emission {s : EgressState} {port : BitVec 9} {bgMd : BridgeMetadata} {ethernet : Ethernet}
    {pkt : Bits} {t : TunnelPacket} {inner : Bool} (stands : Stands s port bgMd ethernet pkt t inner)
    (tables : Tables) (treated : bgMd.matchOrDl) :
    emission tables s pkt = ⟨port,
      Ethernet.codec.encode (ethernet.readdress (tables.tunnelMacRewrite port)) ++ (t.stamp inner).bits,
      bgMd.tunnelDirectSend⟩ := by
  obtain ⟨rfl, bridge, framed, fabric, cpu, bears, rfl⟩ := stands
  obtain rfl : s.hdr.bgMd.fields = bgMd := congrArg Header.fields bridge
  exact emission_tunnel tables bears framed treated fabric cpu

/-- The key of the ACL shows the marks of the bridge header. -/
theorem Stands.key {s : EgressState} {port : BitVec 9} {bgMd : BridgeMetadata} {ethernet : Ethernet}
    {pkt : Bits} {t : TunnelPacket} {inner : Bool} (stands : Stands s port bgMd ethernet pkt t inner) :
    (egressAclKey s).ipv4IsValid = 1 ∧ (egressAclKey s).needDrop = bgMd.needDrop ∧
      (egressAclKey s).meterPacketColor = bgMd.meterPacketColor := by
  obtain rfl : s.hdr.bgMd.fields = bgMd := congrArg Header.fields stands.bgMd
  refine ⟨?_, rfl, rfl⟩
  change validBit s.hdr.ipv4.valid = 1
  rw [stands.bears.ipv4]
  rfl

/-- An inbound packet goes to its next hop unless the ACL of the initialisation drops it. -/
theorem pass_inbound {tables : Tables}
    (acl : tables.egressSystemAcl = Setup.egressAclAction Setup.egressAclInit) (around : Surroundings)
    (port : BitVec 9) {bgMd : BridgeMetadata} {t : TunnelPacket} (bridges : bgMd.Bridges etherTypeIpv4)
    (tunnels : t.Tunnels) (matched : bgMd.tunnelDirectSend = matchPacket)
    (inbound : bgMd.igrTunnelType = typeIngressInternetIn) :
    (pass tables around port (BridgeMetadata.codec.encode bgMd ++ t.bits)).value =
      if port ≠ cpuPort ∧ (bgMd.meterPacketColor = colorRed ∨ (bgMd.settle tables).needDrop = 1) then none
      else some ⟨port,
        Ethernet.codec.encode ((restored around.fresh bgMd).readdress (tables.tunnelMacRewrite port)) ++
          ((t.deliver tables bgMd).stamp t.parcel.isV4).bits,
        matchPacket⟩ := by
  obtain ⟨parsed, accepted, carries⟩ := parse_tunnel around.containers bridges tunnels
  have original : parsed.metadata.mirror.flag = 0 := by
    rw [carries.mirror]
  have stands := reached_inbound tables around.fresh around port carries bridges.outerEthernetInvalid
    matched inbound
  have colour : (bgMd.settle tables).meterPacketColor = bgMd.meterPacketColor := rfl
  have direct : (bgMd.settle tables).tunnelDirectSend = matchPacket := matched
  rw [pass_value accepted original rfl]
  generalize reached tables around.fresh (egressStart around port parsed) = s at stands
  obtain ⟨ipv4, marked, red⟩ := stands.key
  have drops : (tables.egressSystemAcl (egressAclKey s)).drops = true ↔
      bgMd.meterPacketColor = colorRed ∨ (bgMd.settle tables).needDrop = 1 := by
    rw [acl, Setup.egressAclInit_drops, EgressAclKey.Red, EgressAclKey.Marked, ipv4, marked, red, colour]
    simp
  rw [stands.emission tables (.inl direct), direct]
  simp only [drops]

end P02Egress

end IgwP4.Dataplane

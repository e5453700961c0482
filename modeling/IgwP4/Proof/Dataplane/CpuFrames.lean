/-
This file shows which frames with the EtherType of the CPU port get past the first pass.
-/

import IgwP4.Proof.Dataplane.Flows
import IgwP4.Proof.Setup.PacketTable

namespace IgwP4.Dataplane
open Packet Setup

/-- The frame is a CPU frame around a whole IPv4 packet, as far as the first parser reads it. -/
def CarriesIpv4 (rest : Bits) : Prop :=
  ∃ fabric cpu ip, ∃ outer : Outer, cpu.etherType = etherTypeIpv4 ∧ outer.Fits p02IngressDialect ip ∧
    rest = Fabric.codec.encode fabric ++
      (Cpu.codec.encode cpu ++ (Ipv4.codec.encode ip ++ outer.bits))

/-- The encapsulation meets this packet without an outer IP header. -/
structure EncapMisses (parsed : ParserState) : Prop where
  original : parsed.metadata.mirror.flag = 0
  direct : parsed.hdr.bgMd.fields.dlPkt = 0
  vxlan : parsed.hdr.vxlan.valid = false
  ipv4 : parsed.hdr.ipv4.valid = false
  ipv6 : parsed.hdr.ipv6.valid = false

/-- The frame is dropped, and no encapsulation meets it without an outer IP header. -/
structure KeptOut (tables : Tables) (around : VisitSurroundings) (port : BitVec 9) (frame : Bits) :
    Prop where
  dropped : (P02Ingress.pass tables around.p02Ingress port frame).value = none
  encapsulated : ∀ egressPort packet parsed,
    (P02Ingress.pass tables around.p02Ingress port frame).value = some (egressPort, packet) →
    internal egressPort = true →
    P13EgressParser.parse around.p13Egress.containers packet = some parsed → ¬ EncapMisses parsed

namespace P02Ingress

theorem pass_of_parsed {tables : Tables} {around : Surroundings} {port : BitVec 9} {bits : Bits}
    {parsed : ParserState} (accepted : P02IngressParser.parse around.containers bits = some parsed) :
    pass tables around port bits =
      let s := apply tables around.fresh (ingressStart around port parsed)
      ⟨s.events,
        if dropped s.dropCtl then none else some (s.ucastEgressPort, deparse s ++ parsed.pkt)⟩ := by
  rw [pass, ingressPass, accepted]

/-- No punt entry takes a frame with the EtherType of the CPU port from outside. -/
theorem unpunted_of_bfn {cfg : SwitchConfig} {hostifs : List Hostif} {tables : Tables}
    (installed : Admits cfg hostifs tables) (fresh : Headers) (s : IngressState)
    (shape : WellShaped s.hdr s.metadata.tunnel.vxlanType) (unbridged : s.hdr.bgMd.valid = false)
    (outside : s.ingressPort ≠ cpuPort) (bfn : s.hdr.ethernet.fields.etherType = etherTypeBfn) :
    ¬ Punted tables fresh s := by
  intro punted
  apply punted
  rw [installed.processProtocolPacket, (decapMetaData02_eq fresh s shape unbridged).1]
  apply protocolPacketTable_misses
  · exact outside
  · change s.hdr.ethernet.fields.etherType ∉ puntedTypes
    rw [bfn]
    decide

/-- The empty ingress ACL lets a marked packet through. -/
theorem classify_dropCtl {cfg : SwitchConfig} {hostifs : List Hostif} {tables : Tables}
    (installed : Admits cfg hostifs tables) (s : IngressState) :
    (ingressSystemAcl tables s).dropCtl = s.dropCtl := by
  unfold ingressSystemAcl
  split
  · rw [installed.ingressSystemAcl]
    rfl
  · rfl

end P02Ingress

/-- A frame without an IP header for the parser is dropped. -/
theorem pass_of_cpuOther {cfg : SwitchConfig} {hostifs : List Hostif} {tables : Tables}
    (installed : Admits cfg hostifs tables) (around : Surroundings) (port : BitVec 9)
    (outside : port ≠ cpuPort) {ethernet : Ethernet} {fabric : Fabric} {cpu : Cpu} {rest : Bits}
    (fits : (Frame.cpuOther ethernet fabric cpu rest).Fits) :
    (P02Ingress.pass tables around port (Frame.cpuOther ethernet fabric cpu rest).bits).value = none := by
  have accepted := (P02IngressParser.parse_eq_some_iff around.containers _ _).mpr ⟨_, fits, rfl, rfl⟩
  rw [P02Ingress.pass_of_parsed accepted]
  let s := ingressStart around port ((Frame.cpuOther ethernet fabric cpu rest).state around.containers)
  have shape : WellShaped s.hdr s.metadata.tunnel.vxlanType := P02IngressParser.parse_wellShaped accepted
  have unbridged : s.hdr.bgMd.valid = false := (P02IngressParser.parse_initial accepted).1
  have unpunted := P02Ingress.unpunted_of_bfn installed around.fresh s shape unbridged outside fits.1
  have missed : tables.igwIpType (P02Ingress.igwIpTypeKey s) = none := by
    rw [installed.classifies.igwIpType]
    exact misses_without_ip cfg _ rfl rfl
  have drops := P02Ingress.classify_of_unmarked tables around.fresh s shape unbridged unpunted
    (congrArg (·.bind P02Ingress.marks) missed)
  have kept := P02Ingress.dropCtl_kept tables (P02Ingress.classify tables around.fresh s)
  dsimp only
  rw [if_pos]
  change dropped (P02Ingress.apply tables around.fresh s).dropCtl = true
  rw [P02Ingress.apply, kept, drops]
  rfl

/-- A frame with an IPv4 header behind the CPU header goes to the traffic manager. -/
theorem pass_of_cpuIpv4 {cfg : SwitchConfig} {hostifs : List Hostif} {tables : Tables}
    (installed : Admits cfg hostifs tables) (around : Surroundings) (port : BitVec 9)
    (outside : port ≠ cpuPort) {ethernet : Ethernet} {fabric : Fabric} {cpu : Cpu} {ip : Ipv4}
    {outer : Outer} (fits : (Frame.cpuIpv4 ethernet fabric cpu ip outer).Fits) :
    (P02Ingress.pass tables around port (Frame.cpuIpv4 ethernet fabric cpu ip outer).bits).value ≠
      none := by
  have accepted := (P02IngressParser.parse_eq_some_iff around.containers _ _).mpr ⟨_, fits, rfl, rfl⟩
  rw [P02Ingress.pass_of_parsed accepted]
  let s := ingressStart around port ((Frame.cpuIpv4 ethernet fabric cpu ip outer).state around.containers)
  have shape : WellShaped s.hdr s.metadata.tunnel.vxlanType := P02IngressParser.parse_wellShaped accepted
  have unbridged : s.hdr.bgMd.valid = false := (P02IngressParser.parse_initial accepted).1
  have kept := outer.place_keeps p02IngressDialect
  have bfn : s.hdr.ethernet.fields.etherType = etherTypeBfn :=
    (congrArg (fun h => h.fields.etherType) (kept _).ethernet).trans fits.1
  have ipv4 : s.hdr.ipv4.valid = true := congrArg Header.valid (kept _).ipv4
  have ipv6 : s.hdr.ipv6.valid = false := congrArg Header.valid (kept _).ipv6
  have unpunted := P02Ingress.unpunted_of_bfn installed around.fresh s shape unbridged outside bfn
  obtain ⟨igrTunnelType, dlPkt, egrPipeline, hit⟩ := marks_of_ipv4 cfg shape ipv4 ipv6
  have found := (igwIpTypeTable_decides cfg s shape (.inl ipv4)).lookup
  rw [← installed.classifies.igwIpType] at found
  have reached := (P02Ingress.classify_eq tables around.fresh s shape unbridged unpunted found hit).1
  have passes : (P02Ingress.apply tables around.fresh s).dropCtl = 0 := by
    rw [P02Ingress.apply, P02Ingress.dropCtl_kept, reached, P02Ingress.classify_dropCtl installed]
    rfl
  change (if dropped (P02Ingress.apply tables around.fresh s).dropCtl then none else some _) ≠ none
  rw [passes]
  exact Option.some_ne_none _

/-- A CPU frame from outside is kept out exactly when no whole IPv4 packet follows its CPU header. -/
theorem keptOut_iff {cfg : SwitchConfig} {hostifs : List Hostif} {tables : Tables}
    (installed : Admits cfg hostifs tables) (around : VisitSurroundings) (port : BitVec 9)
    (outside : port ≠ cpuPort) (ethernet : Ethernet) (bfn : ethernet.etherType = etherTypeBfn)
    (rest : Bits) :
    KeptOut tables around port (Ethernet.codec.encode ethernet ++ rest) ↔ ¬ CarriesIpv4 rest := by
  constructor
  · rintro kept ⟨fabric, cpu, ip, outer, inner, fits, rfl⟩
    have whole : (Frame.cpuIpv4 ethernet fabric cpu ip outer).Fits := ⟨bfn, inner, fits⟩
    exact pass_of_cpuIpv4 installed around.p02Ingress port outside whole kept.dropped
  · intro plain
    have drops : (P02Ingress.pass tables around.p02Ingress port
        (Ethernet.codec.encode ethernet ++ rest)).value = none := by
      cases accepted : P02IngressParser.parse around.p02Ingress.containers
          (Ethernet.codec.encode ethernet ++ rest) with
      | none => rw [P02Ingress.pass, ingressPass, accepted, Traced.lost]
      | some parsed =>
          obtain ⟨frame, fits, shape, _⟩ := (P02IngressParser.parse_eq_some_iff _ _ _).mp accepted
          obtain ⟨same, body⟩ := Ethernet.codec.encode_append_inj.mp shape
          rw [same] at bfn
          rw [shape]
          cases frame with
          | other ethernet rest => exact absurd bfn fits.2.2
          | ipv4 ethernet ip outer => exact absurd (bfn.symm.trans fits.1) (by decide)
          | ipv6 ethernet ip transport rest => exact absurd (bfn.symm.trans fits.1) (by decide)
          | cpuOther ethernet fabric cpu rest =>
              exact pass_of_cpuOther installed around.p02Ingress port outside fits
          | cpuIpv4 ethernet fabric cpu ip outer =>
              exact absurd ⟨fabric, cpu, ip, outer, fits.2.1, fits.2.2, body⟩ plain
    refine ⟨drops, ?_⟩
    intro egressPort packet parsed forwarded
    rw [drops] at forwarded
    contradiction

/-- A gateway with the punt entries of no interface -/
def admittingTables (cfg : SwitchConfig) : Tables :=
  { (Gateway.bare cfg (.constant 0) Selector.constant_zero_active).tables with
    processProtocolPacket := (protocolPacketTable cfg []).lookup }

theorem admittingTables_admits (cfg : SwitchConfig) : Admits cfg [] (admittingTables cfg) :=
  ⟨⟨rfl, rfl⟩, rfl, fun _ => rfl⟩

/-- A CPU frame around another EtherType is kept out. -/
theorem keptOut_other_type :
    KeptOut (admittingTables ⟨0x0a000001, 0x0a000002, 0, 0x0a000003, 0x0a000100, 24⟩) default 0
      (Ethernet.codec.encode ⟨0, 0, etherTypeBfn⟩ ++
        (Fabric.codec.encode default ++ (Cpu.codec.encode default ++ []))) := by
  refine (keptOut_iff (admittingTables_admits _) default 0 (by decide) _ rfl _).mpr ?_
  rintro ⟨fabric, cpu, ip, outer, inner, _, same⟩
  obtain ⟨_, behind⟩ := Fabric.codec.encode_append_inj.mp same
  obtain ⟨rfl, _⟩ := Cpu.codec.encode_append_inj.mp behind
  exact absurd inner (by decide)

/-- A CPU frame around an IPv4 header is not kept out. -/
theorem not_keptOut_ipv4 :
    ¬ KeptOut (admittingTables ⟨0x0a000001, 0x0a000002, 0, 0x0a000003, 0x0a000100, 24⟩) default 0
      (Frame.cpuIpv4 ⟨0, 0, etherTypeBfn⟩ default { (default : Cpu) with etherType := etherTypeIpv4 }
        default (.unread [])).bits := by
  intro kept
  refine pass_of_cpuIpv4 (admittingTables_admits _) _ 0 (by decide) ⟨rfl, rfl, ?_⟩ kept.dropped
  exact ⟨fun h => absurd h.2.1 (by decide), fun h => absurd h.1 (by decide),
    fun h => absurd h.1 (by decide)⟩

end IgwP4.Dataplane

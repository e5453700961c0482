/-
This file follows the frames of the host to a port and the punted frames of a port to the host.
-/

import IgwP4.Proof.Dataplane.CpuFrames
import IgwP4.Proof.Dataplane.CpuRoundTrips
import IgwP4.Proof.Dataplane.Passages
import IgwP4.Proof.Dataplane.PuntedFrames
import IgwP4.Proof.Setup.AclTable

namespace IgwP4.Dataplane
open Packet Setup

/-- The specification of the exchanges between the host and a port, where `restored` says what the way back changes -/
structure Exchanges (tables : Tables) (around : VisitSurroundings) (dataBytesMax : Nat) (devPort : BitVec 9)
    (restored : Bits → Bits) : Prop where
  sends : ∃ insertion, hostifTxAction dataBytesMax (devPort.setWidth 16) = some insertion ∧
    ∀ frame, (P02IngressParser.parse around.p02Ingress.containers (insertion.apply frame)).isSome = true →
      P02EgressParser.Reads frame →
      (visit tables around cpuPort (insertion.apply frame)).value = some ⟨devPort, recompute frame, skipPacket⟩
  arrives : ∀ frame egressPort,
    P02Ingress.puntAction tables around.p02Ingress devPort frame = some (.copyToCpuNos egressPort) →
      P02EgressParser.Reads frame → (visit tables around devPort frame).value.isSome = true
  receives : ∀ frame egressPort delivery,
    P02Ingress.puntAction tables around.p02Ingress devPort frame = some (.copyToCpuNos egressPort) →
      (visit tables around devPort frame).value = some delivery → delivery.port = cpuPort ∧
        (∀ other handle, (hostifRxFilter other handle).Matches delivery.packet ↔ other = devPort.setWidth 16) ∧
        ∀ handle, handle ≠ 0 →
          (hostifRxFilter (devPort.setWidth 16) handle).received delivery.packet = restored frame

namespace P02EgressParser

theorem reads_encode (ethernet : Ethernet) (rest : Bits) : Reads (Ethernet.codec.encode ethernet ++ rest) ↔
    (ethernet.etherType = etherTypeIpv4 → ReadsIpv4 rest) ∧ (ethernet.etherType = etherTypeBfn → ReadsCpu rest) := by
  constructor
  · rintro ⟨_, _, shape, reads⟩
    obtain ⟨rfl, rfl⟩ := Ethernet.codec.encode_append_inj.mp shape
    exact reads
  · intro reads
    exact ⟨ethernet, rest, rfl, reads⟩

theorem readsCpu_encode (fabric : Fabric) (cpu : Cpu) (rest : Bits) :
    ReadsCpu (Fabric.codec.encode fabric ++ (Cpu.codec.encode cpu ++ rest)) ↔
      (cpu.etherType = etherTypeIpv4 → ReadsIpv4 rest) := by
  constructor
  · rintro ⟨_, _, _, shape, reads⟩
    obtain ⟨rfl, behind⟩ := Fabric.codec.encode_append_inj.mp shape
    obtain ⟨rfl, rfl⟩ := Cpu.codec.encode_append_inj.mp behind
    exact reads
  · intro reads
    exact ⟨fabric, cpu, rest, rfl, reads⟩

/-- A frame behind the CPU headers of its EtherType is read as far as the frame itself. -/
theorem reads_wrapped {ethernet : Ethernet} (other : ethernet.etherType ≠ etherTypeBfn) (fabric : Fabric) {cpu : Cpu}
    (same : cpu.etherType = ethernet.etherType) (rest : Bits) :
    Reads (Ethernet.codec.encode { ethernet with etherType := etherTypeBfn } ++
      (Fabric.codec.encode fabric ++ (Cpu.codec.encode cpu ++ rest))) ↔
        Reads (Ethernet.codec.encode ethernet ++ rest) := by
  rw [reads_encode, reads_encode, readsCpu_encode, same]
  constructor
  · rintro ⟨_, reads⟩
    exact ⟨reads rfl, fun bfn => absurd bfn other⟩
  · rintro ⟨reads, _⟩
    exact ⟨fun ipv4 => absurd (show etherTypeBfn = etherTypeIpv4 from ipv4) (by decide), fun _ => reads⟩

end P02EgressParser

/-- The checksum of a wrapped frame is the one of the frame itself. -/
theorem recompute_wrapped (ethernet : Ethernet) (fabric : Fabric) (cpu : Cpu) (rest : Bits) :
    recompute (Ethernet.codec.encode { ethernet with etherType := etherTypeBfn } ++
      (Fabric.codec.encode fabric ++ (Cpu.codec.encode cpu ++ rest))) =
        Ethernet.codec.encode { ethernet with etherType := etherTypeBfn } ++ (Fabric.codec.encode fabric ++
          (Cpu.codec.encode cpu ++ if cpu.etherType = etherTypeIpv4 then recomputeIpv4 rest else rest)) := by
  rw [recompute_encode, if_neg (show ¬ etherTypeBfn = etherTypeIpv4 by decide), if_pos rfl, recomputeCpu_encode]

theorem recompute_unwrapped {ethernet : Ethernet} (other : ethernet.etherType ≠ etherTypeBfn) (rest : Bits) :
    recompute (Ethernet.codec.encode ethernet ++ rest) = Ethernet.codec.encode ethernet ++
      if ethernet.etherType = etherTypeIpv4 then recomputeIpv4 rest else rest := by
  rw [recompute_encode, if_neg other]

/-! From the host -/

/-- The colour and the mark of a fresh bridge header are not dropped. -/
theorem egressAclInit_admits {key : EgressAclKey} (green : key.meterPacketColor = 0) (unmarked : key.needDrop = 0) :
    (egressAclAction egressAclInit key).drops = false := by
  refine Bool.eq_false_iff.mpr fun drops => ?_
  rcases (egressAclInit_drops key).mp drops with red | ⟨_, marked⟩
  · exact absurd (green.symm.trans red) (by decide)
  · exact absurd (unmarked.symm.trans marked) (by decide)

section Host

variable {cfg : SwitchConfig} {hostifs : List Hostif} {tables : Tables}

/-- A frame of the host leaves the port of its interface with the checksum of its IPv4 header. -/
theorem visit_received (installed : Admits cfg hostifs tables)
    (acl : tables.egressSystemAcl = egressAclAction egressAclInit) {around : VisitSurroundings}
    (zeroed : around.p02Ingress.fresh.bgMd.fields.meterPacketColor = 0) {devPort : BitVec 9}
    (outside : internal devPort = false) {frame : Bits}
    (accepted : (P02IngressParser.parse around.p02Ingress.containers ((PacketMutation.insert etherTypeOffset
      (txPacketHeader { bypassFlags := switchBypassAll, devPort := devPort.setWidth 16 }).bytes).apply
        frame)).isSome = true)
    (reads : P02EgressParser.Reads frame) :
    (visit tables around cpuPort ((PacketMutation.insert etherTypeOffset
      (txPacketHeader { bypassFlags := switchBypassAll, devPort := devPort.setWidth 16 }).bytes).apply
        frame)).value = some ⟨devPort, recompute frame, skipPacket⟩ := by
  obtain ⟨ethernet, rest, rfl, _⟩ := id reads
  rw [inserted_bits] at accepted ⊢
  obtain ⟨parsed, accepted⟩ := Option.isSome_iff_exists.mp accepted
  have received : ∀ key : ProcessProtocolKey, key.ingressPort = cpuPort → key.etherType = etherTypeBfn →
      tables.processProtocolPacket key = some .receiveFromCpuNos := by
    intro key port bfn
    rw [installed.processProtocolPacket]
    exact lookup_receive cfg hostifs port (by rw [bfn]; decide)
  obtain ⟨bgMd, keeps, skips, unmarked, color, first⟩ :=
    P02Ingress.pass_received rfl accepted received
  have port : (sentFabric (devPort.setWidth 16)).dstPortOrGroup.setWidth 9 = devPort := by
    change (devPort.setWidth 16).setWidth 9 = devPort
    rw [BitVec.setWidth_setWidth_of_le devPort (by decide), BitVec.setWidth_eq]
  rw [port] at first
  have restored : { ({ ethernet with etherType := etherTypeBfn } : Ethernet) with
      etherType := (sentCpu ethernet.etherType).etherType } = ethernet := rfl
  rw [restored] at first
  rw [visit_outward outside first]
  refine P02Egress.pass_skipped tables around.p02Egress devPort keeps skips reads (.inr fun key green mark => ?_)
  rw [acl]
  exact egressAclInit_admits (green.trans (color.trans zeroed)) (mark.trans unmarked)

/-! To the host -/

/-- A punted frame goes to the last pipe behind CPU headers with its port and its EtherType. -/
theorem visit_punted (installed : Admits cfg hostifs tables) {around : VisitSurroundings} {devPort : BitVec 9}
    {frame : Bits} {egressPort : BitVec 9}
    (punted : P02Ingress.puntAction tables around.p02Ingress devPort frame = some (.copyToCpuNos egressPort)) :
    ∃ bgMd ethernet fabric cpu rest, P02EgressParser.Keeps bgMd ∧ bgMd.tunnelDirectSend = skipPacket ∧
      frame = Ethernet.codec.encode ethernet ++ rest ∧ ethernet.etherType ≠ etherTypeBfn ∧
      cpu.ingressPort = devPort.setWidth 16 ∧ cpu.etherType = ethernet.etherType ∧
      (visit tables around devPort frame).value = (P02Egress.pass tables around.p02Egress cpuPort
        (BridgeMetadata.codec.encode bgMd ++ (Ethernet.codec.encode { ethernet with etherType := etherTypeBfn } ++
          (Fabric.codec.encode fabric ++ (Cpu.codec.encode cpu ++ rest))))).value := by
  obtain ⟨parsed, accepted, found⟩ := Option.bind_eq_some_iff.mp punted
  rw [P02Ingress.processProtocolKey_decap around.p02Ingress.fresh _ (P02IngressParser.parse_wellShaped accepted)
    (P02IngressParser.parse_initial accepted).1, installed.processProtocolPacket] at found
  obtain ⟨rfl, listed⟩ := lookup_copy found
  have other : parsed.hdr.ethernet.fields.etherType ≠ etherTypeBfn := by
    intro bfn
    change parsed.hdr.ethernet.fields.etherType ∈ puntedTypes at listed
    rw [bfn] at listed
    exact absurd listed (by decide)
  obtain ⟨bgMd, fabric, cpu, rest, keeps, skips, shape, port, type, first⟩ :=
    P02Ingress.pass_punted (P02Ingress.not_aclDrops_of_admits installed _ _ _) accepted other punted
  exact ⟨bgMd, _, fabric, cpu, rest, keeps, skips, shape, other, port, type, visit_outward (by decide) first⟩

/-- The interface of the port strips the CPU headers off, and no interface of another port takes the packet. -/
theorem received_punted {devPort : BitVec 9} {ethernet : Ethernet} (other : ethernet.etherType ≠ etherTypeBfn)
    (fabric : Fabric) {cpu : Cpu} (port : cpu.ingressPort = devPort.setWidth 16)
    (type : cpu.etherType = ethernet.etherType) (rest : Bits) :
    let packet := recompute (Ethernet.codec.encode { ethernet with etherType := etherTypeBfn } ++
      (Fabric.codec.encode fabric ++ (Cpu.codec.encode cpu ++ rest)))
    (∀ other handle, (hostifRxFilter other handle).Matches packet ↔ other = devPort.setWidth 16) ∧
      ∀ handle, handle ≠ 0 → (hostifRxFilter (devPort.setWidth 16) handle).received packet =
        recompute (Ethernet.codec.encode ethernet ++ rest) := by
  intro packet
  have shape : packet = _ := recompute_wrapped ethernet fabric cpu rest
  rw [shape]
  constructor
  · intro other handle
    rw [matches_iff, port]
  · intro handle given
    have mutation : (hostifRxFilter (devPort.setWidth 16) handle).pktMutation =
        [.strip etherTypeOffset switchPacketHeaderSize] := if_pos given
    rw [RxFilter.received, mutation, List.foldl_cons, List.foldl_nil, stripped_bits, type,
      recompute_unwrapped other]

/-- The exchanges give back the frames with their IPv4 checksums computed anew. -/
theorem exchanges_recompute (installed : Admits cfg hostifs tables)
    (acl : tables.egressSystemAcl = egressAclAction egressAclInit) (around : VisitSurroundings)
    (zeroed : around.p02Ingress.fresh.bgMd.fields.meterPacketColor = 0) {dataBytesMax : Nat}
    (roomy : etherTypeOffset + switchPacketHeaderSize < dataBytesMax) (devPort : BitVec 9)
    (outside : internal devPort = false) : Exchanges tables around dataBytesMax devPort recompute := by
  constructor
  · refine ⟨_, if_pos roomy, fun frame accepted reads => ?_⟩
    exact visit_received installed acl zeroed outside accepted reads
  · intro frame egressPort punted reads
    obtain ⟨bgMd, ethernet, fabric, cpu, rest, keeps, skips, rfl, other, _, type, visited⟩ :=
      visit_punted installed punted
    rw [visited, P02Egress.pass_skipped tables around.p02Egress cpuPort keeps skips
      ((P02EgressParser.reads_wrapped other fabric type rest).mpr reads) (.inl rfl)]
    rfl
  · intro frame egressPort delivery punted visited
    obtain ⟨bgMd, ethernet, fabric, cpu, rest, keeps, skips, rfl, other, port, type, passed⟩ :=
      visit_punted installed punted
    rw [passed] at visited
    have reads := P02Egress.reads_of_pass keeps visited
    rw [P02Egress.pass_skipped tables around.p02Egress cpuPort keeps skips reads (.inl rfl)] at visited
    obtain rfl := Option.some.inj visited
    exact ⟨rfl, received_punted other fabric port type rest⟩

end Host

/-- A gateway with the punt entries and the egress ACL of the initialisation, and no interface -/
def initialTables (cfg : SwitchConfig) : Tables :=
  (admittingTables cfg).withEgressAcl (egressAclAction egressAclInit)

theorem initialTables_admits (cfg : SwitchConfig) : Admits cfg [] (initialTables cfg) :=
  ⟨⟨rfl, rfl⟩, rfl, fun _ => rfl⟩

/-- The port five exchanges its frames with the host. -/
theorem exchanges_recompute_five :
    Exchanges (initialTables ⟨0x0a000001, 0x0a000002, 0, 0x0a000003, 0x0a000100, 24⟩) default 128 5 recompute :=
  exchanges_recompute (initialTables_admits _) rfl default rfl (by decide) 5 (by decide)

/-- This frame to the address of the management carries a wrong checksum. -/
def managementFrame : Bits :=
  Ethernet.codec.encode ⟨1, 2, etherTypeIpv4⟩ ++
    Ipv4.codec.encode { (default : Ipv4) with version := 4, ihl := 5, ttl := 64, dstAddr := 0x0a000001 }

/-- The host does not get this frame back as it arrived. -/
theorem not_exchanges_management :
    ¬ ∀ (cfg : SwitchConfig) (hostifs : List Hostif) (tables : Tables), Admits cfg hostifs tables →
      tables.egressSystemAcl = egressAclAction egressAclInit → ∀ around : VisitSurroundings,
      around.p02Ingress.fresh.bgMd.fields.meterPacketColor = 0 → ∀ dataBytesMax,
      etherTypeOffset + switchPacketHeaderSize < dataBytesMax → ∀ devPort, internal devPort = false →
        Exchanges tables around dataBytesMax devPort id := by
  intro all
  have exchanges := all _ _ _ (initialTables_admits ⟨0x0a000001, 0x0a000002, 0, 0x0a000003, 0x0a000100, 24⟩) rfl default
    rfl 128 (by decide) 5 (by decide)
  have punted : P02Ingress.puntAction (initialTables ⟨0x0a000001, 0x0a000002, 0, 0x0a000003, 0x0a000100, 24⟩) default 5
      managementFrame = some (.copyToCpuNos cpuPort) := by decide +kernel
  have stripped : (visit (initialTables ⟨0x0a000001, 0x0a000002, 0, 0x0a000003, 0x0a000100, 24⟩) default 5
      managementFrame).value.map (fun delivery => (hostifRxFilter 5 1).received delivery.packet) =
        some (recompute managementFrame) := by decide +kernel
  have differs : recompute managementFrame ≠ managementFrame := by decide +kernel
  obtain ⟨delivery, visited, received⟩ := Option.map_eq_some_iff.mp stripped
  obtain ⟨_, _, same⟩ := exchanges.receives _ _ _ punted visited
  exact differs (received.symm.trans (same 1 (by decide)))

end IgwP4.Dataplane

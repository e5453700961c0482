/-
This file shows which frames leave the first pipe for the CPU and how those from the CPU leave it.
-/

import IgwP4.Proof.Dataplane.CpuPasses

namespace IgwP4.Dataplane
open Packet Setup

/-! The frames that are not punted -/

/-- The bridge header marks the packet for the treatment of the gateway. -/
def IngressState.Treated (s : IngressState) : Prop :=
  s.hdr.bgMd.valid = true ∧ s.hdr.bgMd.fields.matchOrDl

namespace P02Ingress

section

variable (tables : Tables) {s : IngressState}

theorem treated_igwIpType (treated : s.Treated) : (igwIpType tables s).Treated := by
  unfold igwIpType
  split <;> exact treated

theorem treated_ingressSystemAcl (treated : s.Treated) : (ingressSystemAcl tables s).Treated := by
  unfold ingressSystemAcl
  split
  · dsimp only
    split <;> exact treated
  · exact treated

theorem treated_fipInnerIpSnat (treated : s.Treated) : (fipInnerIpSnat tables s).Treated := by
  unfold fipInnerIpSnat
  split
  · split <;> exact treated
  · exact treated

theorem treated_pipeLineFix (treated : s.Treated) : (pipeLineFix tables s).Treated := by
  unfold pipeLineFix
  split <;> exact treated

theorem treated_eipOutLookup (treated : s.Treated) : (eipOutLookup tables s).Treated := by
  have entered (entry : Option EipOutBwId) : (eipOutEntry entry s).Treated := by
    cases entry <;> exact treated
  unfold eipOutLookup
  split
  · exact entered _
  · split
    · exact entered _
    · exact treated

/-- A redirected packet is marked as such. -/
theorem treated_modifyJdVxlanOut (treated : s.Treated) : (modifyJdVxlanOut tables s).Treated := by
  unfold modifyJdVxlanOut
  split
  · unfold selectRedirectIpOut
    split <;> exact ⟨treated.1, .inr rfl⟩
  · exact ⟨treated.1, .inr rfl⟩
  · exact treated

theorem treated_haveSharedBindWith (treated : s.Treated) : (haveSharedBindWith tables s).Treated := by
  have flagged (hit : Bool) : (setHaveFlag hit s).Treated := by
    cases hit <;> exact treated
  unfold haveSharedBindWith
  split
  · exact flagged _
  · split
    · exact flagged _
    · exact treated

theorem treated_direct (treated : s.Treated) : (direct tables s).Treated := by
  unfold direct
  split
  · split
    · exact treated_modifyJdVxlanOut tables (treated_eipOutLookup tables
        (treated_pipeLineFix tables (treated_fipInnerIpSnat tables treated)))
    · exact treated_haveSharedBindWith tables treated
  · exact treated

theorem treated_ecmpGroup02 (treated : s.Treated) : (ecmpGroup02 tables s).Treated := by
  unfold ecmpGroup02
  split
  · dsimp only
    split <;> exact treated
  · exact treated

theorem treated_encapMetaData02 (treated : s.Treated) : (encapMetaData02 s).Treated := by
  unfold encapMetaData02
  dsimp only
  split <;> exact treated

/-- Without a hit in the punt table the packet is treated to the end. -/
theorem treated_apply {fresh : Headers} (shape : WellShaped s.hdr s.metadata.tunnel.vxlanType)
    (unbridged : s.hdr.bgMd.valid = false)
    (unpunted : tables.processProtocolPacket (processProtocolKey (decapMetaData02 fresh s)) = none) :
    (apply tables fresh s).Treated := by
  obtain ⟨decapped, initialised⟩ := decapMetaData02_eq fresh s shape unbridged
  have processed : processLocal tables fresh (decapMetaData02 fresh s) = decapMetaData02 fresh s := by
    rw [processLocal, unpunted]
  have start : (ingressPortStats (processLocal tables fresh (decapMetaData02 fresh s))).Treated := by
    rw [processed, decapped]
    exact ⟨rfl, .inl initialised.tunnelDirectSend⟩
  have classified : (classify tables fresh s).Treated := by
    unfold classify
    dsimp only
    split
    · exact treated_ingressSystemAcl tables (treated_igwIpType tables start)
    · exact treated_ingressSystemAcl tables start
  exact treated_encapMetaData02 (treated_ecmpGroup02 tables (treated_direct tables classified))

end

theorem pass_rejected (tables : Tables) {around : Surroundings} (port : BitVec 9) {bits : Bits}
    (rejected : P02IngressParser.parse around.containers bits = none) : (pass tables around port bits).value = none := by
  rw [pass, ingressPass, rejected]
  rfl

/-- A frame without a hit in the punt table leaves, if at all, behind a bridge header for the treatment. -/
theorem pass_unpunted {tables : Tables} {around : Surroundings} {port : BitVec 9} {frame : Frame} (fits : frame.Fits)
    (unpunted : puntAction tables around port frame.bits = none) {egressPort : BitVec 9} {packet : Bits}
    (sent : (pass tables around port frame.bits).value = some (egressPort, packet)) :
    ∃ bgMd rest, bgMd.matchOrDl ∧ packet = BridgeMetadata.codec.encode bgMd ++ rest := by
  have accepted := (P02IngressParser.parse_eq_some_iff around.containers _ _).mpr ⟨frame, fits, rfl, rfl⟩
  rw [puntAction, accepted, Option.bind_some] at unpunted
  have treatment : (apply tables around.fresh (ingressStart around port (frame.state around.containers))).Treated :=
    treated_apply tables (P02IngressParser.parse_wellShaped accepted) (P02IngressParser.parse_initial accepted).1 unpunted
  obtain ⟨valid, treated⟩ := treatment
  rw [pass_of_parsed accepted] at sent
  dsimp only at sent
  split at sent
  · contradiction
  · obtain ⟨-, rfl⟩ := Prod.mk.inj (Option.some.inj sent)
    rw [deparse, Headers.emit_append, Header.emit, if_pos valid]
    exact ⟨_, _, treated, rfl⟩

end P02Ingress

/-! The punt -/

/--
The frame leaves the first pipe for the CPU, marked to skip the treatment, behind CPU headers that
name its port and its EtherType.
-/
def SentToCpu (tables : Tables) (around : Surroundings) (port : BitVec 9) (frame : Bits) : Prop :=
  ∃ bgMd ethernet fabric cpu rest, frame = Ethernet.codec.encode ethernet ++ rest ∧
    bgMd.tunnelDirectSend = skipPacket ∧ cpu.ingressPort = port.setWidth 16 ∧ cpu.etherType = ethernet.etherType ∧
    (P02Ingress.pass tables around port frame).value = some (cpuPort, BridgeMetadata.codec.encode bgMd ++
      (Ethernet.codec.encode { ethernet with etherType := etherTypeBfn } ++
        (Fabric.codec.encode fabric ++ (Cpu.codec.encode cpu ++ rest))))

/--
A frame of the host leaves the first pipe for the port that its CPU headers name, marked to skip the
treatment, without these headers and behind the EtherType that they hold.
-/
def ReceivedFromCpu (tables : Tables) (around : Surroundings) (frame : Bits) : Prop :=
  ∃ bgMd ethernet fabric cpu rest, frame = Ethernet.codec.encode ethernet ++
      (Fabric.codec.encode fabric ++ (Cpu.codec.encode cpu ++ rest)) ∧
    bgMd.tunnelDirectSend = skipPacket ∧
    (P02Ingress.pass tables around cpuPort frame).value =
      some (fabric.dstPortOrGroup.setWidth 9, BridgeMetadata.codec.encode bgMd ++
        (Ethernet.codec.encode { ethernet with etherType := cpu.etherType } ++ rest))

/-- The first pipe punts as specified, and entries that win together agree. -/
structure PuntsAsSpecified (cfg : SwitchConfig) (interfaces : List Interface)
    (table : KeyedTable (Nat × ProtocolPacketMatch) ProcessProtocolAction 128) (tables : Tables)
    (around : Surroundings) : Prop where
  toCpu : ∀ port, port ≠ cpuPort → ∀ bits, SentToCpu tables around port bits ↔
    (∃ frame : Frame, frame.Fits ∧ bits = frame.bits ∧ frame.WantsCpu cfg interfaces port) ∧
      ¬ P02Ingress.AclDrops tables around port bits
  fromCpu : ∀ frame : Frame, frame.Fits → frame.ethernet.etherType = etherTypeBfn →
    ReceivedFromCpu tables around frame.bits
  agree : ∀ key first second, (punts table).Wins key first → (punts table).Wins key second →
    first.action = second.action

/-- A frame for the CPU has one of the other EtherTypes. -/
theorem Frame.WantsCpu.other {cfg : SwitchConfig} {interfaces : List Interface} {port : BitVec 9} {frame : Frame}
    (fits : frame.Fits) (wants : frame.WantsCpu cfg interfaces port) : frame.ethernet.etherType ≠ etherTypeBfn := by
  cases frame with
  | other ethernet rest => exact fits.2.2
  | ipv4 ethernet ip outer =>
      change ethernet.etherType ≠ etherTypeBfn
      rw [fits.1]
      decide
  | ipv6 ethernet ip transport rest =>
      change ethernet.etherType ≠ etherTypeBfn
      rw [fits.1]
      decide
  | cpuOther ethernet fabric cpu rest => exact wants.elim
  | cpuIpv4 ethernet fabric cpu ip outer => exact wants.elim

/-- A frame with the EtherType of the CPU has both CPU headers. -/
theorem Frame.cpu_bits {frame : Frame} (fits : frame.Fits) (bfn : frame.ethernet.etherType = etherTypeBfn) :
    ∃ fabric cpu rest, frame.bits = Ethernet.codec.encode frame.ethernet ++
      (Fabric.codec.encode fabric ++ (Cpu.codec.encode cpu ++ rest)) := by
  cases frame with
  | other ethernet rest => exact absurd bfn fits.2.2
  | ipv4 ethernet ip outer => exact absurd (bfn.symm.trans fits.1) (by decide)
  | ipv6 ethernet ip transport rest => exact absurd (bfn.symm.trans fits.1) (by decide)
  | cpuOther ethernet fabric cpu rest => exact ⟨fabric, cpu, rest, rfl⟩
  | cpuIpv4 ethernet fabric cpu ip outer => exact ⟨fabric, cpu, Ipv4.codec.encode ip ++ outer.bits, rfl⟩

section

variable {cfg : SwitchConfig} {interfaces : List Interface}
  {table : KeyedTable (Nat × ProtocolPacketMatch) ProcessProtocolAction 128} {tables : Tables}

theorem sentToCpu_iff (installed : processProtocolPacketTableInit cfg (interfaces.map Interface.hostif) = some table)
    (filled : tables.processProtocolPacket = (punts table).lookup) (around : Surroundings) {port : BitVec 9}
    (outside : port ≠ cpuPort) (bits : Bits) : SentToCpu tables around port bits ↔
      (∃ frame : Frame, frame.Fits ∧ bits = frame.bits ∧ frame.WantsCpu cfg interfaces port) ∧
        ¬ P02Ingress.AclDrops tables around port bits := by
  constructor
  · rintro ⟨bgMd, ethernet, fabric, cpu, rest, -, skips, -, -, sent⟩
    obtain ⟨frame, fits, rfl⟩ : ∃ frame : Frame, frame.Fits ∧ bits = frame.bits := by
      cases accepted : P02IngressParser.parse around.containers bits with
      | none =>
          rw [P02Ingress.pass_rejected tables port accepted] at sent
          contradiction
      | some parsed =>
          obtain ⟨frame, fits, same, -⟩ := (P02IngressParser.parse_eq_some_iff _ _ _).mp accepted
          exact ⟨frame, fits, same⟩
    have punted : P02Ingress.puntAction tables around port frame.bits = some (.copyToCpuNos cpuPort) := by
      cases found : P02Ingress.puntAction tables around port frame.bits with
      | none =>
          obtain ⟨own, behind, treated, shape⟩ := P02Ingress.pass_unpunted fits found sent
          obtain ⟨rfl, -⟩ := BridgeMetadata.codec.encode_append_inj.mp shape
          rw [BridgeMetadata.matchOrDl, skips] at treated
          exact absurd treated (by decide)
      | some action => exact congrArg some (P02Ingress.puntAction_outside installed filled around outside fits found)
    refine ⟨⟨frame, fits, rfl, (P02Ingress.puntAction_copy_iff installed filled around outside fits).mp punted⟩,
      fun drops => ?_⟩
    rw [P02Ingress.pass_dropped punted drops] at sent
    contradiction
  · rintro ⟨⟨frame, fits, rfl, wants⟩, undropped⟩
    have punted := (P02Ingress.puntAction_copy_iff installed filled around outside fits).mpr wants
    have accepted := (P02IngressParser.parse_eq_some_iff around.containers _ _).mpr ⟨frame, fits, rfl, rfl⟩
    have other : (frame.state around.containers).hdr.ethernet.fields.etherType ≠ etherTypeBfn := by
      rw [frame.state_ethernet]
      exact wants.other fits
    obtain ⟨bgMd, fabric, cpu, rest, -, skips, shape, port, type, sent⟩ :=
      P02Ingress.pass_punted undropped accepted other punted
    exact ⟨bgMd, _, fabric, cpu, rest, shape, skips, port, type, sent⟩

theorem receivedFromCpu (installed : processProtocolPacketTableInit cfg (interfaces.map Interface.hostif) = some table)
    (filled : tables.processProtocolPacket = (punts table).lookup) (around : Surroundings) {frame : Frame}
    (fits : frame.Fits) (bfn : frame.ethernet.etherType = etherTypeBfn) :
    ReceivedFromCpu tables around frame.bits := by
  have received : ∀ key : ProcessProtocolKey, key.ingressPort = cpuPort → key.etherType = etherTypeBfn →
      tables.processProtocolPacket key = some .receiveFromCpuNos := by
    intro key port type
    rw [filled, punts_lookup installed]
    exact lookup_receive cfg _ port (by rw [type]; decide)
  have accepted := (P02IngressParser.parse_eq_some_iff around.containers _ _).mpr ⟨frame, fits, rfl, rfl⟩
  obtain ⟨fabric, cpu, rest, shape⟩ := Frame.cpu_bits fits bfn
  rw [shape] at accepted
  obtain ⟨bgMd, -, skips, -, -, sent⟩ := P02Ingress.pass_received bfn accepted received
  rw [shape]
  exact ⟨bgMd, frame.ethernet, fabric, cpu, rest, rfl, skips, sent⟩

/--
With the entries of the initialisation the first pipe sends to the CPU exactly the specified frames that the
ingress ACL lets pass.
-/
theorem puntsAsSpecified
    (installed : processProtocolPacketTableInit cfg (interfaces.map Interface.hostif) = some table)
    (filled : tables.processProtocolPacket = (punts table).lookup) (around : Surroundings) :
    PuntsAsSpecified cfg interfaces table tables around where
  toCpu _ outside bits := sentToCpu_iff installed filled around outside bits
  fromCpu _ fits bfn := receivedFromCpu installed filled around fits bfn
  agree key first second one two :=
    winners_agree ((TernaryTable.wins_congr (mem_punts_iff installed) key first).mp one)
      ((TernaryTable.wins_congr (mem_punts_iff installed) key second).mp two)

end

/-- A configuration without a backup address -/
def puntConfig : SwitchConfig := ⟨0x0a000001, 0x0a000002, 0, 0x0a000003, 0x0a000100, 24⟩

/-- An interface with an IPv6 address -/
def puntInterface : Interface := ⟨5, 0x0a000005, 0x0a000004, some 1, fun _ => 1⟩

/-- The entries of one interface fit the table. -/
theorem puntInterface_installed : ∃ table,
    processProtocolPacketTableInit puntConfig ([puntInterface].map Interface.hostif) = some table := by
  refine Option.isSome_iff_exists.mp ((processProtocolPacketTableInit_isSome_iff (.inl rfl) _).mpr ?_)
  decide +kernel

theorem puntsAsSpecified_small : ∃ table,
    processProtocolPacketTableInit puntConfig ([puntInterface].map Interface.hostif) = some table ∧
      PuntsAsSpecified puntConfig [puntInterface] table
        { Tables.empty with processProtocolPacket := (punts table).lookup } default := by
  obtain ⟨table, installed⟩ := puntInterface_installed
  exact ⟨table, installed, puntsAsSpecified installed rfl default⟩

/-- A UDP packet for the management address that ends behind its IPv4 header -/
def cutHeader : Ipv4 where
  version := 4
  ihl := 5
  dscp := 0
  ecn := 0
  totalLen := 20
  identification := 0
  flags := 0
  fragOffset := 0
  ttl := 64
  protocol := ipProtocolsUdp
  hdrChecksum := 0
  srcAddr := 0x0a000009
  dstAddr := puntConfig.mgtIp

/-- An ARP frame -/
def arpFrame : Frame := .other ⟨1, 2, etherTypeArp⟩ []

/-- The packet does not pass the parser, and an ARP frame does not pass an ingress ACL that drops everything. -/
theorem not_punted_lost : ∃ table,
    processProtocolPacketTableInit puntConfig ([puntInterface].map Interface.hostif) = some table ∧
      (cutHeader.dstAddr = puntConfig.mgtIp ∧
        ¬ SentToCpu { Tables.empty with processProtocolPacket := (punts table).lookup } default 5
          (Ethernet.codec.encode ⟨1, 2, etherTypeIpv4⟩ ++ Ipv4.codec.encode cutHeader)) ∧
      arpFrame.WantsCpu puntConfig [puntInterface] 5 ∧
        ¬ SentToCpu { Tables.empty with
            processProtocolPacket := (punts table).lookup
            ingressSystemAcl := fun _ => .systemAclDropPacket } default 5 arpFrame.bits := by
  obtain ⟨table, installed⟩ := puntInterface_installed
  have rejected : P02IngressParser.parse (default : Surroundings).containers
      (Ethernet.codec.encode ⟨1, 2, etherTypeIpv4⟩ ++ Ipv4.codec.encode cutHeader) = none := by
    rw [← Option.not_isSome_iff_eq_none]
    decide +kernel
  refine ⟨table, installed, ⟨rfl, ?_⟩, .inr rfl, ?_⟩
  · rintro ⟨bgMd, ethernet, fabric, cpu, rest, -, -, -, -, sent⟩
    exact Option.some_ne_none _ (sent.symm.trans (P02Ingress.pass_rejected _ 5 rejected))
  · intro sent
    have fits : arpFrame.Fits := ⟨by decide, by decide, by decide⟩
    have accepted := (P02IngressParser.parse_eq_some_iff (default : Surroundings).containers _ _).mpr
      ⟨arpFrame, fits, rfl, rfl⟩
    exact ((sentToCpu_iff installed rfl default (by decide) _).mp sent).2 ⟨by decide, _, accepted, rfl⟩

end IgwP4.Dataplane

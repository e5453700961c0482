/-
This file shows which frames the first pass takes to the CPU and which come from there.
-/

import IgwP4.Proof.Dataplane.P02IngressControls
import IgwP4.Proof.Setup.PuntDecision

namespace IgwP4.Dataplane
open Packet Setup

/-- The action of the punt table on a frame that the first parser accepts -/
def P02Ingress.puntAction (tables : Tables) (around : Surroundings) (port : BitVec 9) (frame : Bits) :
    Option ProcessProtocolAction :=
  (P02IngressParser.parse around.containers frame).bind fun parsed =>
    tables.processProtocolPacket
      (processProtocolKey (decapMetaData02 around.fresh (ingressStart around port parsed)))

/-- A VXLAN header follows the outer IPv4 header. -/
def Outer.isVxlan : Outer → Bool
  | .overlay _ => true
  | _ => false

/-- The specification of the punt, by the parts of a frame -/
def Frame.WantsCpu (cfg : SwitchConfig) (interfaces : List Interface) (port : BitVec 9) : Frame → Prop
  | .other ethernet _ => ethernet.etherType = etherTypeLldp ∨ ethernet.etherType = etherTypeArp
  | .ipv4 _ ip outer => ip.dstAddr = cfg.mgtIp ∨
      outer.isVxlan = false ∧ (ip.dstAddr = cfg.vip ∨ cfg.backupVip ≠ 0 ∧ ip.dstAddr = cfg.backupVip) ∨
      ∃ i ∈ interfaces, i.devPort = port ∧ ip.dstAddr = i.ip4
  | .ipv6 _ ip _ _ => ∃ i ∈ interfaces, i.devPort = port ∧ ip.dstAddr ∈ i.ip6Addresses
  | .cpuOther _ _ _ _ => False
  | .cpuIpv4 _ _ _ _ _ => False

/-- The key of the punt table for a frame -/
def Frame.puntKey (around : Surroundings) (port : BitVec 9) (frame : Frame) : ProcessProtocolKey :=
  P02Ingress.processProtocolKey (ingressStart around port (frame.state around.containers))

namespace P02Ingress

/-- The first control leaves the key of the punt table alone. -/
theorem processProtocolKey_decap (fresh : Headers) (s : IngressState)
    (shape : WellShaped s.hdr s.metadata.tunnel.vxlanType) (unbridged : s.hdr.bgMd.valid = false) :
    processProtocolKey (decapMetaData02 fresh s) = processProtocolKey s := by
  rw [(decapMetaData02_eq fresh s shape unbridged).1]
  rfl

/-- The key of an accepted frame -/
theorem puntAction_of_fits (tables : Tables) (around : Surroundings) (port : BitVec 9) {frame : Frame}
    (fits : frame.Fits) : puntAction tables around port frame.bits =
      tables.processProtocolPacket (frame.puntKey around port) := by
  have accepted := (P02IngressParser.parse_eq_some_iff around.containers _ _).mpr ⟨frame, fits, rfl, rfl⟩
  rw [puntAction, accepted, Option.bind_some, processProtocolKey_decap around.fresh _
    (P02IngressParser.parse_wellShaped accepted) (P02IngressParser.parse_initial accepted).1, Frame.puntKey]

end P02Ingress

theorem Outer.place_vxlan (d : Dialect) (outer : Outer) (s : ParserState) :
    (outer.place d s).hdr.vxlan.valid = (outer.isVxlan || s.hdr.vxlan.valid) := by
  cases outer with
  | overlay o =>
      obtain ⟨udp, vxlan, ethernet, inner⟩ := o
      rcases inner with rest | ⟨ip, words, transport, rest⟩ | ⟨ip, words, transport, rest⟩
      · rfl
      · cases transport <;> rfl
      · cases transport <;> rfl
  | _ => rfl

theorem validBit_eq_one (valid : Bool) : validBit valid = 1 ↔ valid = true := by
  cases valid <;> decide

theorem validBit_eq_zero (valid : Bool) : validBit valid = 0 ↔ valid = false := by
  cases valid <;> decide

/-- The parts of the key that tell the kinds of frames apart -/
structure KeyParts (key : ProcessProtocolKey) (port : BitVec 9) (etherType : BitVec 16)
    (ipv4 ipv6 vxlan : Bool) : Prop where
  ingressPort : key.ingressPort = port
  etherType : key.etherType = etherType
  ipv4IsValid : key.ipv4IsValid = validBit ipv4
  ipv6IsValid : key.ipv6IsValid = validBit ipv6
  vxlanIsValid : key.vxlanIsValid = validBit vxlan

namespace KeyParts

variable {key : ProcessProtocolKey} {port : BitVec 9} {etherType : BitVec 16} {ipv4 ipv6 vxlan : Bool}

theorem isIpv4 (parts : KeyParts key port etherType ipv4 ipv6 vxlan) :
    IsIpv4 key ↔ ipv4 = true ∧ ipv6 = false ∧ etherType = etherTypeIpv4 := by
  rw [IsIpv4, parts.ipv4IsValid, parts.ipv6IsValid, parts.etherType, validBit_eq_one, validBit_eq_zero]

theorem isIpv6 (parts : KeyParts key port etherType ipv4 ipv6 vxlan) :
    IsIpv6 key ↔ ipv4 = false ∧ ipv6 = true ∧ etherType = etherTypeIpv6 := by
  rw [IsIpv6, parts.ipv4IsValid, parts.ipv6IsValid, parts.etherType, validBit_eq_one, validBit_eq_zero]

theorem isLayerTwo (parts : KeyParts key port etherType ipv4 ipv6 vxlan) (type : BitVec 16) :
    IsLayerTwo type key ↔ ipv4 = false ∧ ipv6 = false ∧ vxlan = false ∧ etherType = type := by
  rw [IsLayerTwo, parts.ipv4IsValid, parts.ipv6IsValid, parts.vxlanIsValid, parts.etherType, validBit_eq_zero,
    validBit_eq_zero, validBit_eq_zero]

theorem notVxlan (parts : KeyParts key port etherType ipv4 ipv6 vxlan) :
    key.vxlanIsValid = 0 ↔ vxlan = false := by
  rw [parts.vxlanIsValid, validBit_eq_zero]

end KeyParts

/-- The chain behind an outer IPv4 header only adds whether a VXLAN header follows. -/
theorem Outer.keyParts (outer : Outer) (around : Surroundings) (port : BitVec 9) (s : ParserState)
    (vxlan : s.hdr.vxlan.valid = false) :
    let key := P02Ingress.processProtocolKey (ingressStart around port (outer.place p02IngressDialect s))
    KeyParts key port s.hdr.ethernet.fields.etherType s.hdr.ipv4.valid s.hdr.ipv6.valid outer.isVxlan ∧
      key.ipv4DstAddr = s.hdr.ipv4.fields.dstAddr := by
  intro key
  have kept := outer.place_keeps p02IngressDialect s
  have follows := outer.place_vxlan p02IngressDialect s
  rw [vxlan, Bool.or_false] at follows
  exact ⟨⟨rfl, congrArg (fun h => h.fields.etherType) kept.ethernet, congrArg (fun h : Header _ => validBit h.valid) kept.ipv4,
    congrArg (fun h : Header _ => validBit h.valid) kept.ipv6, congrArg validBit follows⟩,
    congrArg (fun h => h.fields.dstAddr) kept.ipv4⟩

/-- The entries for the CPU match exactly the frames that the specification wants. -/
theorem Frame.wants_iff (cfg : SwitchConfig) (interfaces : List Interface) (around : Surroundings)
    (port : BitVec 9) {frame : Frame} (fits : frame.Fits) :
    FixedWanted cfg (frame.puntKey around port) ∨ OwnWanted interfaces (frame.puntKey around port) ↔
      frame.WantsCpu cfg interfaces port := by
  cases frame with
  | other ethernet rest =>
      have parts : KeyParts ((Frame.other ethernet rest).puntKey around port) port ethernet.etherType false false
          false := ⟨rfl, rfl, rfl, rfl, rfl⟩
      simp [FixedWanted, OwnWanted, Frame.WantsCpu, parts.isIpv4, parts.isIpv6, parts.isLayerTwo]
  | ipv4 ethernet ip outer =>
      obtain ⟨parts, dst⟩ : KeyParts ((Frame.ipv4 ethernet ip outer).puntKey around port) port ethernet.etherType true
          false outer.isVxlan ∧ ((Frame.ipv4 ethernet ip outer).puntKey around port).ipv4DstAddr = ip.dstAddr :=
        outer.keyParts around port { ParserState.start around.containers _ with
          hdr.ethernet := ⟨true, ethernet⟩
          hdr.ipv4 := ⟨true, ip⟩
          metadata.l3.lkpOuterIpProto := ip.protocol } rfl
      have notVxlan : ((Frame.ipv4 ethernet ip outer).puntKey around port).vxlanIsValid = 0#1 ↔ outer.isVxlan = false :=
        parts.notVxlan
      simp [FixedWanted, OwnWanted, Frame.WantsCpu, parts.isIpv4, parts.isIpv6, parts.isLayerTwo, notVxlan,
        parts.ingressPort, dst, fits.1, or_assoc]
  | ipv6 ethernet ip transport rest =>
      have parts : KeyParts ((Frame.ipv6 ethernet ip transport rest).puntKey around port) port ethernet.etherType false
          true false := by
        cases transport <;> exact ⟨rfl, rfl, rfl, rfl, rfl⟩
      have dst : ((Frame.ipv6 ethernet ip transport rest).puntKey around port).ipv6DstAddr = ip.dstAddr := by
        cases transport <;> rfl
      simp [FixedWanted, OwnWanted, Frame.WantsCpu, parts.isIpv4, parts.isIpv6, parts.isLayerTwo, parts.ingressPort,
        dst, fits.1]
  | cpuOther ethernet fabric cpu rest =>
      have parts : KeyParts ((Frame.cpuOther ethernet fabric cpu rest).puntKey around port) port etherTypeBfn false
          false false := ⟨rfl, fits.1, rfl, rfl, rfl⟩
      simp [FixedWanted, OwnWanted, Frame.WantsCpu, parts.isIpv4, parts.isIpv6, parts.isLayerTwo]
  | cpuIpv4 ethernet fabric cpu ip outer =>
      have parts : KeyParts ((Frame.cpuIpv4 ethernet fabric cpu ip outer).puntKey around port) port ethernet.etherType
          true false outer.isVxlan :=
        (outer.keyParts around port { ParserState.start around.containers _ with
          hdr.ethernet := ⟨true, ethernet⟩
          hdr.fabric := ⟨true, fabric⟩
          hdr.cpu := ⟨true, cpu⟩
          hdr.ipv4 := ⟨true, ip⟩
          metadata.l3.lkpOuterIpProto := ip.protocol } rfl).1
      rw [fits.1] at parts
      simp [FixedWanted, OwnWanted, Frame.WantsCpu, parts.isIpv4, parts.isIpv6, parts.isLayerTwo]

theorem Frame.puntKey_port (around : Surroundings) (port : BitVec 9) (frame : Frame) :
    (frame.puntKey around port).ingressPort = port := rfl

namespace P02Ingress

variable {cfg : SwitchConfig} {interfaces : List Interface}
  {table : KeyedTable (Nat × ProtocolPacketMatch) ProcessProtocolAction 128}

/-- The installed entries for the CPU hit exactly the wanted frames from outside. -/
theorem puntAction_copy_iff
    (installed : processProtocolPacketTableInit cfg (interfaces.map Interface.hostif) = some table) {tables : Tables}
    (filled : tables.processProtocolPacket = (punts table).lookup) (around : Surroundings) {port : BitVec 9}
    (outside : port ≠ cpuPort) {frame : Frame} (fits : frame.Fits) :
    puntAction tables around port frame.bits = some (.copyToCpuNos cpuPort) ↔ frame.WantsCpu cfg interfaces port := by
  rw [puntAction_of_fits tables around port fits, filled, punts_lookup installed,
    ← frame.wants_iff cfg interfaces around port fits]
  exact lookup_copy_iff cfg interfaces ((frame.puntKey_port around port).trans_ne outside)

/-- No other entry hits a frame from outside. -/
theorem puntAction_outside
    (installed : processProtocolPacketTableInit cfg (interfaces.map Interface.hostif) = some table) {tables : Tables}
    (filled : tables.processProtocolPacket = (punts table).lookup) (around : Surroundings) {port : BitVec 9}
    (outside : port ≠ cpuPort) {frame : Frame} (fits : frame.Fits) {action : ProcessProtocolAction}
    (found : puntAction tables around port frame.bits = some action) : action = .copyToCpuNos cpuPort := by
  rw [puntAction_of_fits tables around port fits, filled, punts_lookup installed] at found
  exact lookup_outside ((frame.puntKey_port around port).trans_ne outside) found

end P02Ingress

end IgwP4.Dataplane

/-
This file shows that each later parser sees the tunnel headers that the control before it has left.
-/

import IgwP4.Proof.Dataplane.InboundPasses
import IgwP4.Proof.Dataplane.Locations
import IgwP4.Proof.Dataplane.P02EgressPasses
import IgwP4.Proof.Dataplane.P02IngressPasses
import IgwP4.Proof.Dataplane.PipeAffinity
import IgwP4.Proof.Dataplane.WholePackets

namespace IgwP4.Dataplane
open Packet Setup

/-- The six headers of a tunnel, as a control or a parser sees them -/
structure TunnelView where
  ipv4 : Option Ipv4
  udp : Option Udp
  vxlan : Option Vxlan
  innerEthernet : Option Ethernet
  innerIpv4 : Option Ipv4
  innerIpv6 : Option Ipv6

def Headers.tunnelView (hdr : Headers) : TunnelView where
  ipv4 := hdr.ipv4.view
  udp := hdr.udp.view
  vxlan := hdr.vxlan.view
  innerEthernet := hdr.innerEthernet.view
  innerIpv4 := hdr.innerIpv4.view
  innerIpv6 := hdr.innerIpv6.view

def Parcel.ipv4 : Parcel → Option Ipv4
  | .v4 ip _ => some ip
  | .v6 _ _ => none

def Parcel.ipv6 : Parcel → Option Ipv6
  | .v4 _ _ => none
  | .v6 ip _ => some ip

/-- Headers that bear a tunnel packet show it. -/
theorem Headers.Bears.tunnelView {hdr : Headers} {pkt : Bits} {t : TunnelPacket} (bears : hdr.Bears pkt t) :
    hdr.tunnelView = ⟨some t.ip, some t.udp, some t.vxlan, some t.ethernet, t.parcel.ipv4, t.parcel.ipv6⟩ := by
  obtain ⟨ip, udp, vxlan, ethernet, parcel⟩ := t
  obtain ⟨hasIp, _, hasUdp, _, _, hasVxlan, hasEthernet, inner⟩ := bears
  rw [Headers.tunnelView, hasIp, hasUdp, hasVxlan, hasEthernet]
  cases parcel with
  | v4 ip payload => rw [inner.1, Header.view_of_invalid inner.2.1]; rfl
  | v6 ip payload => rw [Header.view_of_invalid inner.1, inner.2.1]; rfl

theorem Headers.Bears.agree {left right : Headers} {pkt rest : Bits} {t : TunnelPacket}
    (first : left.Bears pkt t) (second : right.Bears rest t) : left.tunnelView = right.tunnelView :=
  first.tunnelView.trans second.tunnelView.symm

/-- Every inner IP header of a JD packet is read. -/
theorem P13EgressParser.reads_of_jd {t : TunnelPacket} (jd : jdFlag t.vxlan = true) : p13EgressDialect.Reads t :=
  .inr (Bool.or_eq_true_iff.mpr (.inl jd))

/-- The first internal parser accepts every redirected packet. -/
theorem P13EgressParser.parse_tunnel (containers : Headers) {bgMd : BridgeMetadata} {t : TunnelPacket}
    (bridges : bgMd.Bridges etherTypeIpv4) (redirected : bgMd.dlPkt = 1) (tunnels : t.Tunnels)
    (reads : p13EgressDialect.Reads t) :
    ∃ r, P13EgressParser.parse containers (BridgeMetadata.codec.encode bgMd ++ t.bits) = some r ∧
      r.Carries bgMd t := by
  obtain ⟨r, found⟩ := p13EgressDialect.ipv4_accepts tunnels rfl reads rfl
    (s := .bridged containers bgMd t.bits) rfl
  refine ⟨r, ?_, p13EgressDialect.ipv4_carries tunnels rfl reads found⟩
  rw [P13EgressParser.parse_redirected containers t.bits bridges redirected, found]

namespace P13Egress

/-- Whatever the treatment is, the tunnel packet is redirected or stays as it is. -/
theorem policed_holds (tables : Tables) (s : EgressState) {bgMd : BridgeMetadata} {pkt : Bits}
    {t : TunnelPacket} (holds : Holds s bgMd pkt t) (clear : s.metadata.ratelimit = {}) :
    ∃ bgMd', Holds (policed tables s) bgMd' pkt ((t.redirectIn tables bgMd).getD t) ∧
      (bgMd.Bridges etherTypeIpv4 → bgMd'.Bridges etherTypeIpv4) := by
  obtain ⟨r, redirected, after, _⟩ := eipInRedirect_holds tables s holds clear
  have onward (bridges : bgMd.Bridges etherTypeIpv4) :
      (bgMd.enter (t.parcel.inboundEntry tables)).Bridges etherTypeIpv4 := by
    cases t.parcel.inboundEntry tables <;>
      exact ⟨bridges.proto, bridges.outerEthernetType, bridges.outerEthernetInvalid⟩
  have kept {first second : BridgeMetadata} (bridges : first.Bridges etherTypeIpv4)
      (proto : second.proto = first.proto) (type : second.outerEthernetType = first.outerEthernetType)
      (opened : second.outerEthernetInvalid = first.outerEthernetInvalid) : second.Bridges etherTypeIpv4 :=
    ⟨proto.trans bridges.proto, type.trans bridges.outerEthernetType,
      opened.trans bridges.outerEthernetInvalid⟩
  rw [policed, redirected]
  split
  · obtain ⟨u, metered, final, _⟩ := eipInMeter_holds tables r after
    rw [metered]
    exact ⟨_, final, fun bridges => kept (onward bridges) rfl rfl rfl⟩
  · exact ⟨_, after, fun bridges => kept (onward bridges) rfl rfl rfl⟩

/-- A redirected packet leaves the control as a tunnel packet with the same parcel. -/
theorem apply_holds (tables : Tables) (fresh : Headers) (around : Surroundings) (port : BitVec 9)
    {parsed : ParserState} {bgMd : BridgeMetadata} {t : TunnelPacket} (carries : parsed.Carries bgMd t) :
    ∃ bgMd' t', Holds (apply tables fresh (egressStart around port parsed)) bgMd' parsed.pkt t' ∧
      (bgMd.Bridges etherTypeIpv4 → bgMd'.Bridges etherTypeIpv4) ∧ (t.Tunnels → t'.Tunnels) ∧
      t'.parcel = t.parcel := by
  obtain ⟨s, entered, holds, clear, _⟩ := encap_carried fresh around port carries
  obtain ⟨bgMd', after, onward⟩ := policed_holds tables s holds clear
  obtain ⟨_, parcel, tunnels⟩ := t.redirectIn_kept tables (bgMd.own t.parcel)
  refine ⟨bgMd', _, ?_, ?_, tunnels, parcel⟩
  · rw [apply_policed tables fresh _ (original_of_carries around port carries), entered]
    exact after
  · intro bridges
    refine onward ?_
    cases t.parcel <;> exact ⟨bridges.proto, bridges.outerEthernetType, bridges.outerEthernetInvalid⟩

end P13Egress

namespace P13Ingress

/-- A tunnel packet leaves the control as a tunnel packet, located or not. -/
theorem apply_holds (tables : Tables) (around : Surroundings) (port : BitVec 9) {parsed : ParserState}
    {bgMd : BridgeMetadata} {t : TunnelPacket} (carries : parsed.Carries bgMd t) :
    ∃ bgMd' t', let s := apply tables (ingressStart around port parsed)
      s.hdr.Bears parsed.pkt t' ∧ deparse s ++ parsed.pkt = BridgeMetadata.codec.encode bgMd' ++ t'.bits ∧
      (bgMd.Bridges etherTypeIpv4 → bgMd'.Bridges etherTypeIpv4) ∧ (t.Tunnels → t'.Tunnels) := by
  obtain rfl : parsed.hdr.bgMd.fields = bgMd := congrArg Header.fields carries.bgMd
  have on : parsed.hdr.bgMd.valid = true := congrArg Header.valid carries.bgMd
  let s : IngressState := { ingressStart around port parsed with
    metadata.l3 := { parsed.metadata.l3 with lkpSip := t.parcel.lkpSip, lkpDip := t.parcel.lkpDip }
    ucastEgressPort := parsed.hdr.bgMd.fields.igrPort }
  have entered : apply tables (ingressStart around port parsed) =
      if parsed.hdr.bgMd.fields.tunnelDirectSend = matchPacket then locate tables s else s := by
    rw [apply, decapMetaData13_eq (ingressStart around port parsed) carries.bears.parcel]
    rfl
  dsimp only
  rw [entered]
  split
  · obtain ⟨hdr, tunnel, events, located, bears, bridge, ethernet, fabric, cpu, _⟩ :=
      locate_eq tables s carries.bears
    have kept := (BridgeMetadata.locate_keeps tables t.parcel s.flowKey parsed.hdr.bgMd.fields).1
    rw [located]
    rw [show s.hdr.bgMd.valid = true from on] at bridge
    refine ⟨_, _, bears, bears.emit_bridged bridge ((congrArg Header.valid ethernet).trans carries.ethernet)
      ((congrArg Header.valid fabric).trans carries.fabric) ((congrArg Header.valid cpu).trans carries.cpu), ?_, ?_⟩
    · intro bridges
      exact ⟨kept.proto.trans bridges.proto, kept.outerEthernetType.trans bridges.outerEthernetType,
        kept.outerEthernetInvalid.trans bridges.outerEthernetInvalid⟩
    · intro tunnels
      exact ⟨tunnels.selects, tunnels.port, tunnels.type.trans (Parcel.dnat_etherType _ _).symm⟩
  · exact ⟨_, t, carries.bears,
      carries.bears.emit_bridged carries.bgMd carries.ethernet carries.fabric carries.cpu, id, id⟩

end P13Ingress

/-- A frame with outer IPv4 that the classifier takes for a redirected or for an outbound packet -/
structure TunnelArrival where
  cfg : SwitchConfig
  tables : Tables
  classifies : Classifies cfg tables
  around : VisitSurroundings
  port : BitVec 9
  bits : Bits
  parsed : ParserState
  treatment : Treatment
  accepted : P02IngressParser.parse around.p02Ingress.containers bits = some parsed
  treated : P02Ingress.Treated tables around.p02Ingress.fresh (ingressStart around.p02Ingress port parsed)
    treatment
  etherType : parsed.hdr.ethernet.fields.etherType = etherTypeIpv4
  tunnels : treatment.dlPkt = 1 ∨ treatment.igrTunnelType = typeIngressInternetOut

namespace TunnelArrival

variable (a : TunnelArrival)

/-- The state behind the controls of the first pipe, and the packet that it sends -/
def sending : IngressState :=
  P02Ingress.apply a.tables a.around.p02Ingress.fresh (ingressStart a.around.p02Ingress a.port a.parsed)

def sent : Bits := P02Ingress.deparse a.sending ++ a.parsed.pkt

/-- The state behind the controls of the first internal pipe, and the packet that it sends -/
def looping (port : BitVec 9) (entered : ParserState) : EgressState :=
  P13Egress.apply a.tables a.around.p13Egress.fresh (egressStart a.around.p13Egress port entered)

def looped (port : BitVec 9) (entered : ParserState) : Bits :=
  P13Egress.deparse (a.looping port entered) ++ entered.pkt

/-- The state behind the controls of the second internal pipe, and the packet that it sends -/
def returning (port : BitVec 9) (back : ParserState) : IngressState :=
  P13Ingress.apply a.tables (ingressStart a.around.p13Ingress port back)

def returned (port : BitVec 9) (back : ParserState) : Bits :=
  P13Ingress.deparse (a.returning port back) ++ back.pkt

end TunnelArrival

/-- The next parser accepts the packet and sees the tunnel headers as they were left. -/
def Sees (parse : Option ParserState) (left : Headers) (r : ParserState) : Prop :=
  parse = some r ∧ r.hdr.tunnelView = left.tunnelView

/-- The tunnel packet of a frame whose inner IP header the first parser reads -/
def Frame.tunnel : Frame → Option TunnelPacket
  | .ipv4 _ ip (.overlay o) => o.inner.parcel.map (TunnelPacket.mk ip o.udp o.vxlan o.ethernet)
  | _ => none

/-- A header stack with an inner IP header belongs to a tunnel packet. -/
theorem Frame.exists_tunnel {frame : Frame} (fits : frame.Fits) (containers : Headers)
    (etherType : frame.ethernet.etherType = etherTypeIpv4)
    (vxlan : (frame.state containers).hdr.vxlan.valid = true)
    (inner : (frame.state containers).hdr.innerIpv4.valid = true ∨
      (frame.state containers).hdr.innerIpv6.valid = true) : ∃ t, frame.tunnel = some t := by
  cases frame with
  | other ethernet rest => exact absurd etherType fits.1
  | ipv6 ethernet ip transport rest => exact absurd (etherType.symm.trans fits.1) (by decide)
  | cpuOther ethernet fabric cpu rest => exact absurd (etherType.symm.trans fits.1) (by decide)
  | cpuIpv4 ethernet fabric cpu ip outer => exact absurd (etherType.symm.trans fits.1) (by decide)
  | ipv4 ethernet ip outer =>
      cases outer with
      | overlay o =>
          obtain ⟨udp, header, innerEthernet, rest | ⟨ip', tail⟩ | ⟨ip', tail⟩⟩ := o
          · exact absurd inner (by rintro (h | h) <;> exact absurd h Bool.false_ne_true)
          · exact ⟨_, rfl⟩
          · exact ⟨_, rfl⟩
      | _ => exact absurd vxlan Bool.false_ne_true

/-- The first parser has read such a packet whole. -/
theorem Frame.tunnel_bears {frame : Frame} (fits : frame.Fits) (containers : Headers) {t : TunnelPacket}
    (carried : frame.tunnel = some t) :
    ∃ tail, (frame.state containers).hdr.Bears (frame.state containers).pkt t ∧ t.Tunnels ∧
      t.parcel.Ends tail ∧ frame.body = t.bits ∧ (frame.state containers).hdr.fabric.valid = false ∧
      (frame.state containers).hdr.cpu.valid = false := by
  cases frame with
  | ipv4 ethernet ip outer =>
      obtain ⟨_, fits⟩ := fits
      cases outer with
      | overlay o =>
          obtain ⟨parcel, held, rfl⟩ := Option.map_eq_some_iff.mp carried
          obtain ⟨tail, ends, shape⟩ := Parcel.ends_of_fits rfl held fits.2.2.2
          have type : o.ethernet.etherType = parcel.etherType := by
            have read := fits.2.2.2
            rw [shape] at read
            cases parcel <;> exact read.1
          have kept := (Outer.overlay o).place_keeps p02IngressDialect
          refine ⟨tail, o.place_bears p02IngressDialect _ { containers.blank_unparsed with } rfl held
              fits.2.2.2, ⟨fits.1, fits.2.2.1, type⟩, ends, ?_, congrArg Header.valid (kept _).fabric,
            congrArg Header.valid (kept _).cpu⟩
          rw [Frame.body, Outer.bits, Overlay.bits, Inner.bits_of_parcel held]
          rfl
      | _ => contradiction
  | _ => contradiction

/-- A header stack with an inner IP header bears a tunnel packet that the first parser has read whole. -/
theorem Frame.bears_tunnel {frame : Frame} (fits : frame.Fits) (containers : Headers)
    (etherType : frame.ethernet.etherType = etherTypeIpv4)
    (vxlan : (frame.state containers).hdr.vxlan.valid = true)
    (inner : (frame.state containers).hdr.innerIpv4.valid = true ∨
      (frame.state containers).hdr.innerIpv6.valid = true) :
    ∃ t tail, (frame.state containers).hdr.Bears (frame.state containers).pkt t ∧ t.Tunnels ∧
      t.parcel.Ends tail ∧ frame.body = t.bits ∧ (frame.state containers).hdr.fabric.valid = false ∧
      (frame.state containers).hdr.cpu.valid = false := by
  obtain ⟨t, carried⟩ := frame.exists_tunnel fits containers etherType vxlan inner
  exact ⟨t, frame.tunnel_bears fits containers carried⟩

namespace TunnelArrival

variable (a : TunnelArrival)

theorem ipv4 : a.parsed.hdr.ipv4.valid = true := by
  obtain ⟨frame, fits, _, parsed⟩ := (P02IngressParser.parse_eq_some_iff _ _ _).mp a.accepted
  have etherType := a.etherType
  rw [parsed, frame.state_ethernet] at etherType
  rw [parsed]
  cases frame with
  | ipv4 ethernet ip outer => exact congrArg Header.valid (outer.place_keeps p02IngressDialect _).ipv4
  | other ethernet rest => exact absurd etherType fits.1
  | ipv6 ethernet ip transport rest => exact absurd (etherType.symm.trans fits.1) (by decide)
  | cpuOther ethernet fabric cpu rest => exact absurd (etherType.symm.trans fits.1) (by decide)
  | cpuIpv4 ethernet fabric cpu ip outer => exact absurd (etherType.symm.trans fits.1) (by decide)

/-- The classifier chooses only packets with an inner IP header, and JD packets for the redirection. -/
theorem classified : a.parsed.hdr.vxlan.valid = true ∧
    (a.parsed.hdr.innerIpv4.valid = true ∨ a.parsed.hdr.innerIpv6.valid = true) ∧
    (a.treatment.dlPkt = 1 → isJd a.parsed.hdr = true) := by
  have shape := P02IngressParser.parse_wellShaped a.accepted
  have hits := a.treated.hits
  have tunnels := a.tunnels
  have ipv4 := a.ipv4
  have outer := Or.inl (b := a.parsed.hdr.ipv6.valid = true) ipv4
  rw [a.classifies.igwIpType, (igwIpTypeTable_decides a.cfg
    (ingressStart a.around.p02Ingress a.port a.parsed) shape outer).lookup] at hits
  have classified := classification_classified a.cfg shape outer
  change P02Ingress.marks (classification a.cfg a.parsed.hdr) = _ at hits
  generalize classification a.cfg a.parsed.hdr = action at classified hits
  cases classified with
  | multicast ipv6 => exact absurd hits (by simp [P02Ingress.marks])
  | inbound =>
      obtain ⟨type, dlPkt, _⟩ : _ ∧ _ ∧ _ := by simpa [P02Ingress.marks] using hits
      rw [← type, ← dlPkt] at tunnels
      exact absurd tunnels (by decide)
  | redirectedIn vxlan inner wants => exact ⟨vxlan, inner, fun _ => wants.1⟩
  | outbound vxlan inner std wants =>
      obtain ⟨_, dlPkt, _⟩ : _ ∧ _ ∧ _ := by simpa [P02Ingress.marks] using hits
      exact ⟨vxlan, inner, fun one => absurd (dlPkt.trans one) (by decide)⟩
  | redirectedOut vxlan inner jd wants => exact ⟨vxlan, inner, fun _ => jd⟩

/-- The arrival is a tunnel packet that the first parser has read whole. -/
theorem exists_tunnel : ∃ t tail, a.parsed.hdr.Bears a.parsed.pkt t ∧ t.Tunnels ∧ t.parcel.Ends tail ∧
    (a.treatment.dlPkt = 1 → jdFlag t.vxlan = true) ∧ a.parsed.hdr.fabric.valid = false ∧
    a.parsed.hdr.cpu.valid = false := by
  obtain ⟨vxlan, inner, jd⟩ := a.classified
  have etherType := a.etherType
  obtain ⟨frame, fits, _, parsed⟩ := (P02IngressParser.parse_eq_some_iff _ _ _).mp a.accepted
  rw [parsed] at vxlan inner jd etherType ⊢
  rw [frame.state_ethernet] at etherType
  obtain ⟨t, tail, bears, tunnels, ends, _, fabric, cpu⟩ := frame.bears_tunnel fits _ etherType vxlan inner
  refine ⟨t, tail, bears, tunnels, ends, ?_, fabric, cpu⟩
  intro one
  have both := jd one
  rw [isJd, bears.vxlan] at both
  exact (Bool.and_eq_true_iff.mp both).1

theorem translate_ends {tables : Tables} {vni : BitVec 24} {parcel : Parcel} {tail : Tail}
    (ends : parcel.Ends tail) : (parcel.translate tables vni).Ends tail := by
  cases parcel <;> exact ends

/-- The first pipe leaves a tunnel packet that the next parsers can read. -/
theorem sent_tunnel : ∃ bgMd t tail, a.sending.hdr.Bears a.parsed.pkt t ∧
    a.sent = BridgeMetadata.codec.encode bgMd ++ t.bits ∧ bgMd.Bridges etherTypeIpv4 ∧
    bgMd.dlPkt = a.treatment.dlPkt ∧ t.Tunnels ∧ t.parcel.Ends tail ∧
    (a.treatment.dlPkt = 1 → jdFlag t.vxlan = true) := by
  obtain ⟨t, tail, bears, tunnels, ends, jd, fabric, cpu⟩ := a.exists_tunnel
  have etherType := a.etherType
  by_cases outbound : a.treatment.igrTunnelType = typeIngressInternetOut
  · obtain ⟨_, hdr, metadata, dropCtl, mirrorType, events, port, applied, _, bears, bridge, ethernet, sameFabric,
      sameCpu⟩ := a.treated.apply_outbound outbound (P02IngressParser.parse_initial a.accepted).2 bears
    have choice := (t.snat a.tables).redirectOut_cases a.tables (P02Ingress.classifiedBridge
      a.around.p02Ingress.fresh (ingressStart a.around.p02Ingress a.port a.parsed) a.treatment)
    generalize (t.snat a.tables).redirectOut a.tables _ = found at bears bridge choice
    have left : a.sending.hdr = hdr := congrArg IngressState.hdr applied
    refine ⟨P02Ingress.bridged a.port a.parsed.hdr.ethernet.fields.etherType
        (P02Ingress.released a.tables (t.snat a.tables) found.isSome (P02Ingress.classifiedBridge
          a.around.p02Ingress.fresh (ingressStart a.around.p02Ingress a.port a.parsed) a.treatment)),
      found.getD (t.snat a.tables), tail, left ▸ bears, ?_, ?_, ?_, ?_, ?_, ?_⟩
    · rw [sent, P02Ingress.deparse, left]
      exact bears.emit_bridged bridge ethernet ((congrArg Header.valid sameFabric).trans fabric)
        ((congrArg Header.valid sameCpu).trans cpu)
    · rw [etherType]
      exact P02Ingress.bridged_bridges _ _ _
    · dsimp only [P02Ingress.bridged, P02Ingress.released]
      cases P02Ingress.outboundEntry a.tables (t.snat a.tables).parcel <;> rfl
    · rcases choice with rfl | ⟨index, action, rfl⟩
      · exact tunnels.snat a.tables
      · exact (tunnels.snat a.tables).rewrite _ _ _
    · rcases choice with rfl | ⟨index, action, rfl⟩
      · exact translate_ends ends
      · rw [Option.getD_some, (TunnelPacket.rewrite_kept _ _ _ _).2]
        exact translate_ends ends
    · rcases choice with rfl | ⟨index, action, rfl⟩
      · exact jd
      · exact fun _ => (TunnelPacket.rewrite_jd _ _ _ _).1
  · have inbound : a.treatment.igrTunnelType = typeIngressInternetIn := by
      obtain ⟨action, _, hit⟩ := Option.bind_eq_some_iff.mp a.treated.hits
      cases action with
      | needDrop => contradiction
      | _ =>
          obtain ⟨type, _⟩ : _ ∧ _ ∧ _ := by simpa [P02Ingress.marks] using hit
          first | exact type.symm | exact absurd type.symm outbound
    obtain ⟨_, metadata, dropCtl, mirrorType, events, haveSharedBd, flow, applied, _⟩ :=
      a.treated.apply_inbound inbound
    obtain ⟨bgMd, bridges, dl, left⟩ : ∃ bgMd : BridgeMetadata, bgMd.Bridges etherTypeIpv4 ∧
        bgMd.dlPkt = a.treatment.dlPkt ∧ a.sending.hdr = { a.parsed.hdr with
          bgMd := ⟨true, bgMd⟩, ethernet := a.parsed.hdr.ethernet.setInvalid } := by
      refine ⟨_, ?_, ?_, congrArg IngressState.hdr applied⟩
      · exact ⟨rfl, etherType, rfl⟩
      · rfl
    have after := bears.outside ⟨true, bgMd⟩ a.parsed.hdr.ethernet.setInvalid a.parsed.hdr.fabric
      a.parsed.hdr.cpu
    have emitted := after.emit_bridged rfl rfl fabric cpu
    refine ⟨bgMd, t, tail, left ▸ after, ?_, bridges, dl, tunnels, ends, jd⟩
    rw [sent, P02Ingress.deparse, left]
    exact emitted

/-- The last parser sees what the first pipe has left of an outbound packet. -/
theorem sees_outbound (containers : Headers) :
    ∃ r, Sees (P02EgressParser.parse containers a.sent) a.sending.hdr r := by
  obtain ⟨bgMd, t, tail, bears, sent, bridges, _, tunnels, _⟩ := a.sent_tunnel
  obtain ⟨r, accepted, carries⟩ := P02Egress.parse_tunnel containers bridges tunnels
  exact ⟨r, by rw [sent, accepted], carries.bears.agree bears⟩

/-- Each later parser sees what the pipe before it has left of a redirected packet. -/
theorem sees_redirected (redirected : a.treatment.dlPkt = 1) :
    ∃ entered, Sees (P13EgressParser.parse a.around.p13Egress.containers a.sent) a.sending.hdr entered ∧
      ∀ port, ∃ back, Sees (P13IngressParser.parse a.around.p13Ingress.containers (a.looped port entered))
          (a.looping port entered).hdr back ∧
        ∀ port', ∃ last, Sees (P02EgressParser.parse a.around.p02Egress.containers (a.returned port' back))
          (a.returning port' back).hdr last := by
  obtain ⟨bgMd, t, tail, bears, sent, bridges, dl, tunnels, ends, jd⟩ := a.sent_tunnel
  obtain ⟨entered, accepted, carries⟩ := P13EgressParser.parse_tunnel a.around.p13Egress.containers bridges
    (dl.trans redirected) tunnels (P13EgressParser.reads_of_jd (jd redirected))
  refine ⟨entered, ⟨by rw [sent, accepted], carries.bears.agree bears⟩, ?_⟩
  intro port
  obtain ⟨bgMd₂, t₂, holds, bridges₂, tunnels₂, parcel₂⟩ := P13Egress.apply_holds a.tables
    a.around.p13Egress.fresh a.around.p13Egress port carries
  have ends₂ : t₂.parcel.Ends tail := parcel₂ ▸ ends
  have carries₃ := P13IngressParser.tunnelState_carries a.around.p13Ingress.containers (bridges₂ bridges)
    (tunnels₂ tunnels) ends₂
  refine ⟨P13IngressParser.tunnelState a.around.p13Ingress.containers bgMd₂ t₂ tail, ⟨?_, ?_⟩, ?_⟩
  · have looped : a.looped port entered = _ := holds.deparse
    rw [looped]
    exact (P13IngressParser.parse_tunnel _ (bridges₂ bridges) (tunnels₂ tunnels) _).mpr ⟨tail, ends₂, rfl⟩
  · exact carries₃.bears.agree holds.bears
  · intro port'
    obtain ⟨bgMd₃, t₃, left, returned, bridges₃, tunnels₃⟩ := P13Ingress.apply_holds a.tables
      a.around.p13Ingress port' carries₃
    obtain ⟨last, accepted, carries₄⟩ := P02Egress.parse_tunnel a.around.p02Egress.containers
      (bridges₃ (bridges₂ bridges)) (tunnels₃ (tunnels₂ tunnels))
    refine ⟨last, ?_, carries₄.bears.agree left⟩
    have same : a.returned port' _ = _ := returned
    rw [same, accepted]

end TunnelArrival

/--
The four parsers lose and invent nothing: the headers that they read go out again before the unread rest.
Every later parser sees the tunnel headers of an outbound or a redirected packet as they were left, on the
direct way to the last pipe and through both internal pipes.
-/
theorem parsers_lossless :
    (∀ containers bits r, P02IngressParser.parse containers bits = some r → r.hdr.emit ++ r.pkt = bits) ∧
    (∀ containers bits r, NonMirror bits → P13EgressParser.parse containers bits = some r →
      r.hdr.emit ++ r.pkt = bits) ∧
    (∀ containers bits r, P13IngressParser.parse containers bits = some r → r.hdr.emit ++ r.pkt = bits) ∧
    (∀ containers bits r, NonMirror bits → P02EgressParser.parse containers bits = some r →
      r.hdr.emit ++ r.pkt = bits) ∧
    ∀ a : TunnelArrival,
      (∀ containers, ∃ r, Sees (P02EgressParser.parse containers a.sent) a.sending.hdr r) ∧
      (a.treatment.dlPkt = 1 → ∃ entered,
        Sees (P13EgressParser.parse a.around.p13Egress.containers a.sent) a.sending.hdr entered ∧
        ∀ port, ∃ back, Sees (P13IngressParser.parse a.around.p13Ingress.containers (a.looped port entered))
            (a.looping port entered).hdr back ∧
          ∀ port', ∃ last, Sees (P02EgressParser.parse a.around.p02Egress.containers (a.returned port' back))
            (a.returning port' back).hdr last) := by
  refine ⟨?_, ?_, ?_, ?_, ?_⟩
  · exact fun _ _ _ accepted => P02IngressParser.emit_parse accepted
  · exact fun _ _ _ plain accepted => P13EgressParser.emit_parse plain accepted
  · exact fun _ _ _ accepted => P13IngressParser.emit_parse accepted
  · exact fun _ _ _ plain accepted => P02EgressParser.emit_parse plain accepted
  · exact fun a => ⟨a.sees_outbound, a.sees_redirected⟩

/-- A JD packet to the address of the cluster that another gateway has sent inwards -/
def redirectedFrame : Frame :=
  .ipv4 ⟨0, 0, etherTypeIpv4⟩
    { (default : Ipv4) with ihl := 5, protocol := ipProtocolsUdp, dstAddr := 0x0a000002 }
    (.overlay ⟨⟨50, udpPortVxlan, 0, 0⟩, ⟨0x0c, 1, 0, 99, tofAzIn, 0⟩, ⟨0, 0, etherTypeIpv4⟩,
      .v4 { (default : Ipv4) with dstAddr := 0xcb007105 } ⟨[], .unread, []⟩⟩)

theorem redirectedFrame_fits : redirectedFrame.Fits :=
  ⟨rfl, ⟨rfl, rfl, rfl⟩, rfl, rfl, rfl, rfl, rfl⟩

def smallConfig : SwitchConfig := ⟨0x0a000001, 0x0a000002, 0, 0x0a000003, 0x0a000100, 24⟩

/-- The classifier of a gateway with this configuration takes the frame for a redirected one. -/
theorem redirectedFrame_hits :
    ((igwIpTypeTable smallConfig).lookup
      (P02Ingress.igwIpTypeKey (ingressStart default 0 (redirectedFrame.state default)))).bind
        P02Ingress.marks = some (typeIngressInternetIn, 1, egrPipeline1) := by
  rw [(igwIpTypeTable_decides smallConfig _ (redirectedFrame.wellShaped default) (.inl rfl)).lookup]
  decide

def redirectedArrival : TunnelArrival where
  cfg := smallConfig
  tables := { Tables.empty with
    igwIpType := (igwIpTypeTable smallConfig).lookup
    pipelineFix := pipelineFixTable.lookup }
  classifies := ⟨rfl, rfl⟩
  around := default
  port := 0
  bits := redirectedFrame.bits
  parsed := redirectedFrame.state default
  treatment := ⟨typeIngressInternetIn, 1, egrPipeline1⟩
  accepted := (P02IngressParser.parse_eq_some_iff _ _ _).mpr ⟨redirectedFrame, redirectedFrame_fits, rfl, rfl⟩
  treated := ⟨redirectedFrame.wellShaped default, rfl, fun punted => punted rfl, redirectedFrame_hits⟩
  etherType := rfl
  tunnels := .inl rfl

theorem parsers_lossless_redirected : ∃ entered,
    Sees (P13EgressParser.parse default redirectedArrival.sent) redirectedArrival.sending.hdr entered := by
  obtain ⟨entered, sees, _⟩ := (parsers_lossless.2.2.2.2 redirectedArrival).2 rfl
  exact ⟨entered, sees⟩

end IgwP4.Dataplane

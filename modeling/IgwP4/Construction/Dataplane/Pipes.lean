/-
This file joins the parsers, the controls and the deparsers to passes and to one visit of a gateway.
-/

import IgwP4.Construction.Packet.Checksum
import IgwP4.Construction.Dataplane.Parsers
import IgwP4.Construction.Dataplane.P02Ingress
import IgwP4.Construction.Dataplane.P13Egress
import IgwP4.Construction.Dataplane.P13Ingress
import IgwP4.Construction.Dataplane.P02Egress

namespace IgwP4.Dataplane
open Packet

/-- These inputs of a pass come neither from the packet nor from the tables. -/
structure Surroundings where
  containers : Headers
  fresh : Headers
  globalTstamp : BitVec 48
deriving Inhabited

/-- A computation records the events up to the point where the packet is lost. -/
structure Traced (A : Type) where
  events : List Event
  value : Option A

namespace Traced

variable {A B : Type}

def bind (first : Traced A) (next : A → Traced B) : Traced B :=
  match first.value with
  | none => ⟨first.events, none⟩
  | some value => ⟨first.events ++ (next value).events, (next value).value⟩

def lost : Traced A := ⟨[], none⟩

@[simp] theorem bind_none (events : List Event) (next : A → Traced B) :
    bind ⟨events, none⟩ next = ⟨events, none⟩ := rfl

@[simp] theorem bind_some (events : List Event) (value : A) (next : A → Traced B) :
    bind ⟨events, some value⟩ next =
      ⟨events ++ (next value).events, (next value).value⟩ := rfl

/-- A packet arrives only when it survives both parts. -/
theorem bind_value_eq_some_iff (first : Traced A) (next : A → Traced B) (result : B) :
    (first.bind next).value = some result ↔
      ∃ middle, first.value = some middle ∧ (next middle).value = some result := by
  unfold bind
  cases first.value with
  | none => simp
  | some value => simp

end Traced

/-- The traffic manager drops a packet whose lowest drop bit is set. -/
def dropped (dropCtl : BitVec 3) : Bool := dropCtl.getLsbD 0

/-! The deparsers -/

/-- The twelve fields of the checksum, packed into words -/
def Ipv4.checksumWords (ip : Ipv4) : List Checksum.Word := [
  ip.version ++ ip.ihl ++ ip.dscp ++ ip.ecn, ip.totalLen, ip.identification,
  ip.flags ++ ip.fragOffset, ip.ttl ++ ip.protocol,
  ip.srcAddr.extractLsb' 16 16, ip.srcAddr.extractLsb' 0 16,
  ip.dstAddr.extractLsb' 16 16, ip.dstAddr.extractLsb' 0 16]

def Ipv4.update (ip : Ipv4) : Ipv4 :=
  { ip with hdrChecksum := Checksum.checksum ip.checksumWords }

def P02Ingress.deparse (s : IngressState) : Bits := s.hdr.emit

def P13Egress.deparse (s : EgressState) : Bits := s.hdr.emit

def P13Ingress.deparse (s : IngressState) : Bits := s.hdr.emit

/-- Only this deparser computes checksums. -/
def P02Egress.checksums (s : EgressState) : Headers :=
  let hdr := if s.hdr.ipv4.valid then { s.hdr with ipv4.fields := s.hdr.ipv4.fields.update } else s.hdr
  if s.metadata.tunnel.innerIpv4ChecksumEn then
    { hdr with innerIpv4.fields := hdr.innerIpv4.fields.update }
  else hdr

def P02Egress.deparse (s : EgressState) : Bits := (checksums s).emit

/-! The passes -/

def ingressStart (around : Surroundings) (port : BitVec 9) (parsed : ParserState) :
    IngressState where
  hdr := parsed.hdr
  metadata := parsed.metadata
  ingressPort := port
  globalTstamp := around.globalTstamp

def egressStart (around : Surroundings) (port : BitVec 9) (parsed : ParserState) : EgressState where
  hdr := parsed.hdr
  metadata := parsed.metadata
  egressPort := port
  globalTstamp := around.globalTstamp

/-- A pass of the ingress yields the egress port and the packet for the traffic manager. -/
def ingressPass (parse : Headers → Bits → Option ParserState)
    (apply : IngressState → IngressState) (deparse : IngressState → Bits)
    (around : Surroundings) (port : BitVec 9) (frame : Bits) : Traced (BitVec 9 × Bits) :=
  match parse around.containers frame with
  | none => .lost
  | some parsed =>
      let s := apply (ingressStart around port parsed)
      ⟨s.events,
        if dropped s.dropCtl then none else some (s.ucastEgressPort, deparse s ++ parsed.pkt)⟩

/-- A packet leaves a gateway with the treatment that its bridge header names. -/
structure Delivery where
  port : BitVec 9
  packet : Bits
  directSend : BitVec 3
deriving DecidableEq

/-- A pass of the egress sends the packet out of the port that the traffic manager gave it. -/
def egressPass (parse : Headers → Bits → Option ParserState)
    (apply : EgressState → EgressState) (deparse : EgressState → Bits)
    (around : Surroundings) (port : BitVec 9) (packet : Bits) : Traced Delivery :=
  match parse around.containers packet with
  | none => .lost
  | some parsed =>
      let s := apply (egressStart around port parsed)
      ⟨s.events,
        if dropped s.dropCtl then none
        else some ⟨port, deparse s ++ parsed.pkt, s.hdr.bgMd.fields.tunnelDirectSend⟩⟩

def P02Ingress.pass (tables : Tables) (around : Surroundings) :
    BitVec 9 → Bits → Traced (BitVec 9 × Bits) :=
  ingressPass P02IngressParser.parse (apply tables around.fresh) deparse around

def P13Egress.pass (tables : Tables) (around : Surroundings) : BitVec 9 → Bits → Traced Delivery :=
  egressPass P13EgressParser.parse (apply tables around.fresh) deparse around

def P13Ingress.pass (tables : Tables) (around : Surroundings) :
    BitVec 9 → Bits → Traced (BitVec 9 × Bits) :=
  ingressPass P13IngressParser.parse (apply tables) deparse around

def P02Egress.pass (tables : Tables) (around : Surroundings) : BitVec 9 → Bits → Traced Delivery :=
  egressPass P02EgressParser.parse (apply tables around.fresh) deparse around

/-! One visit -/

/-- `dev_port >> 7` -/
def pipeOf (port : BitVec 9) : BitVec 2 := (port >>> 7).setWidth 2

/-- The ports of the pipes one and three are looped back. -/
def internal (port : BitVec 9) : Bool := (pipeOf port).getLsbD 0

/-- A packet makes at most four passes, each with its own surroundings. -/
structure VisitSurroundings where
  p02Ingress : Surroundings
  p13Egress : Surroundings
  p13Ingress : Surroundings
  p02Egress : Surroundings
deriving Inhabited

/-- The internal pipes send the packet out of the port and read it back from the same port. -/
def loopback (tables : Tables) (around : VisitSurroundings) (port : BitVec 9) (packet : Bits) :
    Traced (BitVec 9 × Bits) :=
  (P13Egress.pass tables around.p13Egress port packet).bind fun looped =>
    P13Ingress.pass tables around.p13Ingress port looped.packet

/-- The first pass chooses between the internal pipes and the direct way out. -/
def visit (tables : Tables) (around : VisitSurroundings) (port : BitVec 9) (frame : Bits) :
    Traced Delivery :=
  (P02Ingress.pass tables around.p02Ingress port frame).bind fun (port, packet) =>
    if internal port then
      (loopback tables around port packet).bind fun (port, packet) =>
        if internal port then .lost else P02Egress.pass tables around.p02Egress port packet
    else P02Egress.pass tables around.p02Egress port packet

end IgwP4.Dataplane

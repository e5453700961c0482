/-
This file names the address that a frame goes to or comes from and the pipeline it is marked with.
-/

import IgwP4.Construction.Setup.Gateway
import IgwP4.Proof.Dataplane.P02IngressControls

namespace IgwP4.Dataplane
open Packet Setup

/-- A policed address of either family -/
inductive Eip where
  | v4 (address : BitVec 32)
  | v6 (address : BitVec 128)
deriving DecidableEq

def Eip.lowestBit : Eip → Bool
  | .v4 address => address.getLsbD 0
  | .v6 address => address.getLsbD 0

/-- A packet goes to an address or comes from one. -/
inductive Flow where
  | inbound (eip : Eip)
  | outbound (source : Eip)
deriving DecidableEq

namespace Headers

def outerDst (hdr : Headers) : Eip :=
  if hdr.ipv4.valid then .v4 hdr.ipv4.fields.dstAddr else .v6 hdr.ipv6.fields.dstAddr

def innerDst (hdr : Headers) : Eip :=
  if hdr.innerIpv4.valid then .v4 hdr.innerIpv4.fields.dstAddr else .v6 hdr.innerIpv6.fields.dstAddr

end Headers

/-- The translation leaves a source without an entry alone. -/
def snatSource (tables : Tables) (vni : BitVec 24) (src : BitVec 32) : BitVec 32 :=
  (tables.fipInnerIpSnat vni src).getD src

/-- The inner source after the translation -/
def translatedSrc (tables : Tables) (hdr : Headers) : Eip :=
  if hdr.innerIpv4.valid then
    .v4 (snatSource tables hdr.vxlan.fields.vni hdr.innerIpv4.fields.srcAddr)
  else .v6 hdr.innerIpv6.fields.srcAddr

/-- A redirected packet shows its address inside the tunnel, any other inbound packet outside. -/
def flow (cfg : SwitchConfig) (tables : Tables) (hdr : Headers) : Option Flow :=
  if hdr.ipv4.valid = true ∨ hdr.ipv6.valid = true then
    match classification cfg hdr with
    | .ipFromInternetInHit _ => some (.inbound hdr.outerDst)
    | .ipFromInternetInDlHit _ => some (.inbound hdr.innerDst)
    | .ipFromInternetOutHit _ => some (.outbound (translatedSrc tables hdr))
    | .ipFromInternetOutDlHit _ => some (.outbound (translatedSrc tables hdr))
    | .needDrop => none
  else none

/-- `have_shared_bd` lists IPv4 addresses only. -/
def sharesBandwidth (tables : Tables) : Eip → Bool
  | .v4 address => tables.haveSharedBd address
  | .v6 _ => false

def eipOutData (tables : Tables) : Eip → Option EipOutBwId
  | .v4 address => tables.eipOutRedirect address
  | .v6 address => tables.eip6OutRedirect address

/-- The pipe that holds the rate-limit state of an inbound address -/
def inboundPipe (tables : Tables) (eip : Eip) : BitVec 2 :=
  if sharesBandwidth tables eip then 3 else if eip.lowestBit then 1 else 3

/-- The pipe that holds the rate-limit state of an outbound address -/
def outboundPipe (entry : Option EipOutBwId) (source : Eip) : BitVec 2 :=
  if (entry.map EipOutBwId.haveSharedBd).getD 0 = 1 then 2 else if source.lowestBit then 0 else 2

/-! The pipelines of the classification -/

def Eip.inboundPipeline (eip : Eip) : BitVec 3 :=
  if eip.lowestBit then egrPipeline1 else egrPipeline3

/-- The classification of a frame with an outer IP header takes one of five forms. -/
inductive Classified (cfg : SwitchConfig) (hdr : Headers) : IgwIpTypeAction → Prop where
  | multicast (ipv6 : hdr.ipv6.valid = true) : Classified cfg hdr .needDrop
  | inbound : Classified cfg hdr (.ipFromInternetInHit hdr.outerDst.inboundPipeline)
  | redirectedIn (vxlan : hdr.vxlan.valid = true)
      (inner : hdr.innerIpv4.valid = true ∨ hdr.innerIpv6.valid = true)
      (wants : wantsIn cfg (isJd hdr) hdr.vxlan.fields.tof hdr.ipv4.fields.dstAddr) :
      Classified cfg hdr (.ipFromInternetInDlHit hdr.innerDst.inboundPipeline)
  | outbound (vxlan : hdr.vxlan.valid = true)
      (inner : hdr.innerIpv4.valid = true ∨ hdr.innerIpv6.valid = true) (std : isJd hdr = false)
      (wants : wantsOut cfg false hdr.vxlan.fields.tof hdr.ipv4.fields.dstAddr) :
      Classified cfg hdr (.ipFromInternetOutHit (innerOutbound hdr))
  | redirectedOut (vxlan : hdr.vxlan.valid = true)
      (inner : hdr.innerIpv4.valid = true ∨ hdr.innerIpv6.valid = true) (jd : isJd hdr = true)
      (wants : wantsOut cfg true hdr.vxlan.fields.tof hdr.ipv4.fields.dstAddr) :
      Classified cfg hdr (.ipFromInternetOutDlHit (innerOutbound hdr))

theorem inboundPipeline_innerDst (hdr : Headers) :
    hdr.innerDst.inboundPipeline = innerInbound hdr := by
  rw [Headers.innerDst, innerInbound]
  split <;> rfl

theorem classification_classified (cfg : SwitchConfig) {hdr : Headers} {vxlanType : BitVec 2}
    (shape : WellShaped hdr vxlanType) (outer : hdr.ipv4.valid = true ∨ hdr.ipv6.valid = true) :
    Classified cfg hdr (classification cfg hdr) := by
  rw [classification]
  by_cases ipv6 : hdr.ipv6.valid = true
  · have ipv4 : hdr.ipv4.valid = false := by
      rcases shape with ⟨off, _⟩ | ⟨off, _⟩ | ⟨_, off, _⟩ | ⟨_, off, _⟩
      · exact off
      · exact off
      · rw [ipv6] at off
        contradiction
      · rw [ipv6] at off
        contradiction
    have address : hdr.outerDst = .v6 hdr.ipv6.fields.dstAddr := by
      rw [Headers.outerDst, if_neg (by rw [ipv4]; decide)]
    rw [if_pos ipv6]
    split
    · exact .multicast ipv6
    · have placed : Classified cfg hdr _ := .inbound
      rw [address] at placed
      exact placed
  · have ipv4 : hdr.ipv4.valid = true := outer.resolve_right ipv6
    have address : hdr.outerDst = .v4 hdr.ipv4.fields.dstAddr := by
      rw [Headers.outerDst, if_pos ipv4]
    have plain : Classified cfg hdr _ := .inbound
    rw [address] at plain
    rw [if_neg ipv6, ← inboundPipeline_innerDst]
    split
    · rename_i overlay
      split
      · rename_i wants
        cases jd : isJd hdr with
        | false => exact .outbound overlay.1 overlay.2 jd (jd ▸ wants)
        | true => exact .redirectedOut overlay.1 overlay.2 jd (jd ▸ wants)
      · split
        · rename_i wants
          exact .redirectedIn overlay.1 overlay.2 wants
        · exact plain
    · exact plain

/-- Outer IPv4 is never dropped by the classifier. -/
theorem marks_of_ipv4 (cfg : SwitchConfig) {hdr : Headers} {vxlanType : BitVec 2}
    (shape : WellShaped hdr vxlanType) (ipv4 : hdr.ipv4.valid = true) (ipv6 : hdr.ipv6.valid = false) :
    ∃ igrTunnelType dlPkt egrPipeline,
      P02Ingress.marks (classification cfg hdr) = some (igrTunnelType, dlPkt, egrPipeline) := by
  have classified := classification_classified cfg shape (.inl ipv4)
  generalize classification cfg hdr = action at classified ⊢
  cases classified with
  | multicast other =>
      rw [ipv6] at other
      contradiction
  | inbound => exact ⟨_, _, _, rfl⟩
  | redirectedIn => exact ⟨_, _, _, rfl⟩
  | outbound => exact ⟨_, _, _, rfl⟩
  | redirectedOut => exact ⟨_, _, _, rfl⟩

theorem outer_of_flow {cfg : SwitchConfig} {tables : Tables} {hdr : Headers} {found : Flow}
    (flows : flow cfg tables hdr = some found) : hdr.ipv4.valid = true ∨ hdr.ipv6.valid = true := by
  rw [flow] at flows
  split at flows
  · assumption
  · contradiction

/-- An inbound packet is marked with the pipeline of its address. -/
theorem marks_of_inbound {cfg : SwitchConfig} {tables : Tables} {hdr : Headers} {eip : Eip}
    {vxlanType : BitVec 2} (shape : WellShaped hdr vxlanType)
    (inbound : flow cfg tables hdr = some (.inbound eip)) :
    ∃ dlPkt, P02Ingress.marks (classification cfg hdr) =
        some (typeIngressInternetIn, dlPkt, eip.inboundPipeline) ∧
      ((dlPkt = 0 ∧ eip = hdr.outerDst) ∨ (dlPkt = 1 ∧ eip = hdr.innerDst)) := by
  rw [flow] at inbound
  split at inbound
  · rename_i outer
    have classified := classification_classified cfg shape outer
    generalize classification cfg hdr = action at classified inbound ⊢
    cases classified with
    | multicast => contradiction
    | inbound =>
        obtain rfl : hdr.outerDst = eip := by simpa using inbound
        exact ⟨0, rfl, .inl ⟨rfl, rfl⟩⟩
    | redirectedIn =>
        obtain rfl : hdr.innerDst = eip := by simpa using inbound
        exact ⟨1, rfl, .inr ⟨rfl, rfl⟩⟩
    | outbound => exact absurd inbound (by simp)
    | redirectedOut => exact absurd inbound (by simp)
  · contradiction

/-- An outbound packet is a tunnel packet whose IPv6 source gives its pipeline. -/
theorem marks_of_outbound {cfg : SwitchConfig} {tables : Tables} {hdr : Headers} {source : Eip}
    {vxlanType : BitVec 2} (shape : WellShaped hdr vxlanType)
    (outbound : flow cfg tables hdr = some (.outbound source)) :
    ∃ dlPkt, P02Ingress.marks (classification cfg hdr) =
        some (typeIngressInternetOut, dlPkt, innerOutbound hdr) ∧
      source = translatedSrc tables hdr ∧
      (hdr.innerIpv4.valid = true ∨ hdr.innerIpv6.valid = true) := by
  rw [flow] at outbound
  split at outbound
  · rename_i outer
    have classified := classification_classified cfg shape outer
    generalize classification cfg hdr = action at classified outbound ⊢
    cases classified with
    | multicast => contradiction
    | inbound => exact absurd outbound (by simp)
    | redirectedIn => exact absurd outbound (by simp)
    | outbound vxlan inner std wants =>
        exact ⟨0, rfl, (by simpa using outbound.symm), inner⟩
    | redirectedOut vxlan inner jd wants =>
        exact ⟨1, rfl, (by simpa using outbound.symm), inner⟩
  · contradiction

end IgwP4.Dataplane

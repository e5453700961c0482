/-
This file gives the entries that `acl_table_init` installs and the mirror rules beside them.
-/

import IgwP4.Construction.Setup.Config

namespace IgwP4.Setup
open Packet Dataplane

abbrev aclRed : BitVec 2 := 3

abbrev aclHighestPri : Nat := 0
abbrev aclMirrorPri : Nat := 10
abbrev aclSystemPri : Nat := 20
abbrev aclUserPri : Nat := 30

/-- `egressAclKey` names three fields, and the others compare nothing. -/
structure EgressAclMatch where
  meterPacketColor : Ternary 2 := .any
  ipv4IsValid : Ternary 1 := .any
  needDrop : Ternary 1 := .any

def EgressAclMatch.hits (m : EgressAclMatch) (key : EgressAclKey) : Bool :=
  m.meterPacketColor.hits key.meterPacketColor && m.ipv4IsValid.hits key.ipv4IsValid &&
    m.needDrop.hits key.needDrop

/-- `egress_acl_init` -/
def egressAclInit : TernaryTable EgressAclKey EgressAclAction := [
  ⟨aclSystemPri, EgressAclMatch.hits { ipv4IsValid := .exactly 1, needDrop := .exactly 1 },
    .systemAclDropPacket⟩,
  ⟨aclHighestPri, EgressAclMatch.hits { meterPacketColor := .exactly aclRed }, .systemAclDropPacket⟩]

/-- The default action of the table is `nop`. -/
def egressAclAction (table : TernaryTable EgressAclKey EgressAclAction) (key : EgressAclKey) :
    EgressAclAction :=
  (table.lookup key).getD .nop

/-- These actions of the table do not drop. -/
inductive MirrorAction where
  | copyEgressToCpu
  | copyEgressToSid (sid : BitVec 10)
  | nop

def MirrorAction.action : MirrorAction → EgressAclAction
  | .copyEgressToCpu => .copyEgressToCpu
  | .copyEgressToSid sid => .copyEgressToSid sid
  | .nop => .nop

/-- A rule that a user adds for mirroring has one of the two priorities reserved for it. -/
structure MirrorRule where
  priority : Nat
  reserved : priority = aclMirrorPri ∨ priority = aclUserPri
  hits : EgressAclKey → Bool
  action : MirrorAction

def MirrorRule.entry (rule : MirrorRule) : TernaryEntry EgressAclKey EgressAclAction :=
  ⟨rule.priority, rule.hits, rule.action.action⟩

/-- The table of the initialisation with the mirror rules -/
def mirroringTable (rules : List MirrorRule) : TernaryTable EgressAclKey EgressAclAction :=
  egressAclInit ++ rules.map MirrorRule.entry

end IgwP4.Setup

namespace IgwP4.Dataplane

/-- The same gateway with other entries in its egress ACL -/
def Tables.withEgressAcl (tables : Tables) (action : EgressAclKey → EgressAclAction) : Tables :=
  { tables with egressSystemAcl := action }

end IgwP4.Dataplane

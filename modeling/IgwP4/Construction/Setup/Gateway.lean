/-
This file says which tables of a gateway hold the entries of the initialisation.
-/

import IgwP4.Construction.Setup.EcmpGroup
import IgwP4.Construction.Setup.IgwIpTypeTable
import IgwP4.Construction.Setup.PacketTable
import IgwP4.Construction.Setup.RedirectTables

namespace IgwP4.Setup
open Packet Dataplane

/-- `igw_ip_type_table_init` fills these two tables. -/
structure Classifies (cfg : SwitchConfig) (tables : Tables) : Prop where
  igwIpType : tables.igwIpType = (igwIpTypeTable cfg).lookup
  pipelineFix : tables.pipelineFix = pipelineFixTable.lookup

/-- The initialisation fills the punt table and leaves the ingress ACL empty. -/
structure Admits (cfg : SwitchConfig) (hostifs : List Hostif) (tables : Tables) : Prop where
  classifies : Classifies cfg tables
  processProtocolPacket : tables.processProtocolPacket = (protocolPacketTable cfg hostifs).lookup
  ingressSystemAcl : ∀ key, tables.ingressSystemAcl key = .nop

/-- `eip_in_jd_vxlan_table_init` and `eip_out_jd_vxlan_table_init` fill these two tables. -/
structure Redirects (cfg : SwitchConfig) (tables : Tables) : Prop where
  modifyJdVxlanIn : tables.modifyJdVxlanIn = (eipInJdVxlanTable cfg).lookup
  modifyJdVxlanOut : tables.modifyJdVxlanOut = (eipOutJdVxlanTable cfg).lookup

/-- A gateway whose selector can serve every group -/
structure Gateway where
  cfg : SwitchConfig
  tables : Tables
  selector : Selector
  classifies : Classifies cfg tables
  ecmpGroup02 : tables.ecmpGroup02 = selector.ecmpGroup02
  active : ∀ group, ∃ index, selector.status group index = true

/-- A gateway without any entry but those that choose the pipe of a packet -/
def Gateway.bare (cfg : SwitchConfig) (selector : Selector)
    (active : ∀ group, ∃ index, selector.status group index = true) : Gateway where
  cfg := cfg
  tables := { Tables.empty with
    igwIpType := (igwIpTypeTable cfg).lookup
    pipelineFix := pipelineFixTable.lookup
    ecmpGroup02 := selector.ecmpGroup02 }
  selector := selector
  classifies := ⟨rfl, rfl⟩
  ecmpGroup02 := rfl
  active := active

/-- A selector whose hash always picks the same member -/
def Selector.constant (index : Fin 16) : Selector where
  status _ _ := true
  pick _ _ := some index
  pick_active _ _ _ _ := rfl
  pick_total _ _ _ := rfl

theorem Selector.constant_zero_active (group : SelectorGroup) :
    ∃ index, (Selector.constant 0).status group index = true :=
  ⟨0, rfl⟩

end IgwP4.Setup

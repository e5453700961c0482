/-
This file shows when the mirror rules of the egress ACL leave the forwarding as it is.
-/

import IgwP4.Proof.Dataplane.P02EgressPasses

namespace IgwP4.Dataplane
open Packet Setup

/-- The gateway whose egress ACL holds the entries of the initialisation and the mirror rules -/
def Tables.mirrored (tables : Tables) (rules : List MirrorRule) : Tables :=
  tables.withEgressAcl (egressAclAction (mirroringTable rules))

/-- The initialisation asks for the drop of these packets. -/
def EgressAclKey.Condemned (key : EgressAclKey) : Prop := key.Marked ∨ key.Red

namespace P02Egress

/-- The packet meets the egress ACL in this state. -/
def Reaches (tables : Tables) (around : Surroundings) (port : BitVec 9) (packet : Bits)
    (s : EgressState) : Prop :=
  ∃ parsed, P02EgressParser.parse around.containers packet = some parsed ∧
    parsed.metadata.mirror.flag = 0 ∧
    reached tables around.fresh (egressStart around port parsed) = s

/-- The rules do not change what leaves, and no condemned packet leaves. -/
structure MirrorsQuietly (tables : Tables) (rules : List MirrorRule) (around : Surroundings)
    (port : BitVec 9) (packet : Bits) : Prop where
  same : (pass (tables.mirrored rules) around port packet).value =
    (pass (tables.mirrored []) around port packet).value
  dropped : ∀ s, Reaches tables around port packet s → (egressAclKey s).Condemned →
    (pass (tables.mirrored rules) around port packet).value = none

theorem Reaches.pass_value {tables : Tables} {around : Surroundings} {port : BitVec 9} {packet : Bits}
    {s : EgressState} (reaches : Reaches tables around port packet s) :
    ∃ delivery, ∀ rules, (pass (tables.mirrored rules) around port packet).value =
      if port ≠ cpuPort ∧ (egressAclAction (mirroringTable rules) (egressAclKey s)).drops = true
      then none else some delivery := by
  obtain ⟨parsed, accepted, original, arrived⟩ := reaches
  refine ⟨emission tables s parsed.pkt, ?_⟩
  intro rules
  have value : (pass (tables.mirrored rules) around port packet).value = _ :=
    P02Egress.pass_value accepted original arrived
  exact value

/-- A packet that does not reach the ACL never asks it. -/
theorem pass_of_unreached (tables : Tables) (rules : List MirrorRule) {around : Surroundings}
    {port : BitVec 9} {packet : Bits} (unreached : ∀ s, ¬ Reaches tables around port packet s) :
    (pass (tables.mirrored rules) around port packet).value =
      (pass (tables.mirrored []) around port packet).value := by
  cases accepted : P02EgressParser.parse around.containers packet with
  | none => rw [pass, egressPass, accepted, pass, egressPass, accepted]
  | some parsed =>
      by_cases original : parsed.metadata.mirror.flag = 0
      · exact absurd ⟨parsed, accepted, original, rfl⟩ (unreached _)
      · have copied (rules : List MirrorRule) :
            apply (tables.mirrored rules) around.fresh (egressStart around port parsed) =
              unbridged (processMirror tables around.fresh
                (restore around.fresh (egressStart around port parsed))) := by
          have kept : (restore around.fresh (egressStart around port parsed)).metadata.mirror.flag ≠ 0 := by
            rw [(restore_keeps _ _).mirror]
            exact original
          have opened : apply (tables.mirrored rules) around.fresh (egressStart around port parsed) =
              unbridged (if (restore around.fresh (egressStart around port parsed)).metadata.mirror.flag ≠ 0
                then processMirror tables around.fresh (restore around.fresh (egressStart around port parsed))
                else deliver (tables.mirrored rules)
                  (restore around.fresh (egressStart around port parsed))) := rfl
          rw [opened, if_pos kept]
        rw [pass, egressPass, accepted, pass, egressPass, accepted]
        dsimp only
        rw [copied, copied]

/--
The rules leave the forwarding as it is exactly when no condemned packet goes to the CPU port or, unless
it is red, matches a rule that stands before the drop of the marked packets.
-/
theorem mirrorsQuietly_iff (tables : Tables) (rules : List MirrorRule) (around : Surroundings)
    (port : BitVec 9) (packet : Bits) :
    MirrorsQuietly tables rules around port packet ↔
      ∀ s, Reaches tables around port packet s → (egressAclKey s).Condemned →
        port ≠ cpuPort ∧ ((egressAclKey s).Red ∨ ¬ Shadowed rules (egressAclKey s)) := by
  constructor
  · intro quiet s reaches condemned
    obtain ⟨delivery, value⟩ := reaches.pass_value
    have none := quiet.dropped s reaches condemned
    rw [value] at none
    split at none
    · rename_i drops
      refine ⟨drops.1, ?_⟩
      rcases (mirroringTable_cases rules _).mp drops.2 with red | ⟨_, unshadowed⟩
      · exact .inl red
      · exact .inr unshadowed
    · contradiction
  · intro clear
    have condemns (s : EgressState) (reaches : Reaches tables around port packet s)
        (condemned : (egressAclKey s).Condemned) (some : List MirrorRule)
        (unshadowed : (egressAclKey s).Red ∨ ¬ Shadowed some (egressAclKey s)) :
        (egressAclAction (mirroringTable some) (egressAclKey s)).drops = true := by
      apply (mirroringTable_cases some _).mpr
      rcases unshadowed with red | unshadowed
      · exact .inl red
      · rcases condemned with marked | red
        · exact .inr ⟨marked, unshadowed⟩
        · exact .inl red
    have alone (s : EgressState) : ¬ Shadowed [] (egressAclKey s) := by
      rintro ⟨rule, member, _⟩
      exact absurd member List.not_mem_nil
    constructor
    · by_cases reached : ∃ s, Reaches tables around port packet s
      · obtain ⟨s, reaches⟩ := reached
        obtain ⟨delivery, value⟩ := reaches.pass_value
        rw [value rules, value []]
        by_cases condemned : (egressAclKey s).Condemned
        · obtain ⟨outside, unshadowed⟩ := clear s reaches condemned
          rw [if_pos ⟨outside, condemns s reaches condemned rules unshadowed⟩,
            if_pos ⟨outside, condemns s reaches condemned [] (.inr (alone s))⟩]
        · have kept (some : List MirrorRule) :
              ¬ (egressAclAction (mirroringTable some) (egressAclKey s)).drops = true := by
            intro drops
            rcases (mirroringTable_cases some _).mp drops with red | ⟨marked, _⟩
            · exact condemned (.inr red)
            · exact condemned (.inl marked)
          rw [if_neg (fun h => kept rules h.2), if_neg (fun h => kept [] h.2)]
      · exact pass_of_unreached tables rules fun s reaches => reached ⟨s, reaches⟩
    · intro s reaches condemned
      obtain ⟨outside, unshadowed⟩ := clear s reaches condemned
      obtain ⟨delivery, value⟩ := reaches.pass_value
      rw [value, if_pos ⟨outside, condemns s reaches condemned rules unshadowed⟩]

/-- A rule that mirrors every packet to the CPU lets a packet without a location pass. -/
theorem not_mirrorsQuietly_unlocated :
    ¬ MirrorsQuietly Tables.empty [⟨aclMirrorPri, .inl rfl, fun _ => true, .copyEgressToCpu⟩] default 0
      (BridgeMetadata.codec.encode { inboundBridge with needDrop := 1 } ++ smallTunnel.bits) := by
  intro quiet
  have bridges : ({ inboundBridge with needDrop := 1 } : BridgeMetadata).Bridges etherTypeIpv4 :=
    ⟨rfl, rfl, rfl⟩
  obtain ⟨parsed, accepted, carries⟩ :=
    parse_tunnel (default : Surroundings).containers bridges smallTunnel_tunnels
  have original : parsed.metadata.mirror.flag = 0 := by
    rw [carries.mirror]
  have stands := reached_inbound Tables.empty (default : Surroundings).fresh default 0 carries rfl rfl rfl
  have reaches : Reaches Tables.empty default 0 _ _ := ⟨parsed, accepted, original, rfl⟩
  obtain ⟨ipv4, marked, color⟩ := stands.key
  have drop : (egressAclKey (reached Tables.empty (default : Surroundings).fresh
      (egressStart default 0 parsed))).Marked := ⟨ipv4, marked⟩
  obtain ⟨delivery, value⟩ := reaches.pass_value
  have none := quiet.dropped _ reaches (.inl drop)
  rw [value, if_neg] at none
  · exact absurd none (Option.some_ne_none _)
  · rintro ⟨_, drops⟩
    rcases (mirroringTable_cases _ _).mp drops with red | ⟨_, unshadowed⟩
    · exact absurd (color.symm.trans red) (by decide)
    · exact unshadowed ⟨_, List.mem_singleton_self _, rfl, rfl⟩

end P02Egress

end IgwP4.Dataplane

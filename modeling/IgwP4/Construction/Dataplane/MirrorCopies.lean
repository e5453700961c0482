/-
This file gives the copies that the deparsers ask for, and what the setup adds for the copies to the CPU.
-/

import IgwP4.Construction.Dataplane.P02Egress
import IgwP4.Construction.Dataplane.P02Ingress
import IgwP4.Construction.Setup.KnetFilters

namespace IgwP4.Dataplane

/-- `mirror.emit` of the first deparser gives a copy its session and the header in front of it. -/
def P02Ingress.emitMirror (s : IngressState) : Option (BitVec 10 × MirrorMetadata) :=
  if s.mirrorType = mirrorTypeI2E then some (s.metadata.tunnel.sessionId, s.metadata.mirror) else none

/-- `mirror.emit` of the last deparser -/
def P02Egress.emitMirror (s : EgressState) : Option (BitVec 10 × MirrorMetadata) :=
  if s.mirrorType = mirrorTypeE2E then some (s.metadata.tunnel.sessionId, s.metadata.mirror) else none

end IgwP4.Dataplane

namespace IgwP4.Setup
open Dataplane

abbrev mirrorRed : BitVec 2 := 3

/-- The entry of `mirror_copytocpu_init` -/
def mirrorCopytocpuInit (flag : BitVec 3) : Bool := flag == 1

/-- The entry of `mirror_drop_init` -/
def mirrorDropInit (color : BitVec 2) : Bool := color == mirrorRed

/-- The tables hold the entries of `mirror_table_init`, and its meter gives any colour. -/
structure Mirrors (tables : Tables) : Prop where
  mirror : tables.mirror = mirrorCopytocpuInit
  mirrorDrop : tables.mirrorDrop = mirrorDropInit

/-- The port in the headers of the copies, as the interfaces have it -/
abbrev mirrorHostifDevPort : BitVec 16 := 0x1FF

/-- The filter that `mirror_hostif_create` adds for the interface of the copies -/
def mirrorHostifRxFilter (knetHostifHandle : BitVec 64) : RxFilter :=
  switchKnetRxFilterCreate rxFilterAttrDevPort { devPort := mirrorHostifDevPort } knetHostifHandle

end IgwP4.Setup

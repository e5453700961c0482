/-
This file gives the byte adjustments that `meter_adjust_init` writes into the meters.
-/

import IgwP4.Construction.Dataplane.Tables

namespace IgwP4.Setup
open Dataplane

def eipInMeterAdjustByteCount : Int := -(4 + 50 + 15 + 14)
def eipInShareMeterAdjustByteCount : Int := -(4 + 50 + 15 + 14)
def eipOutMeterAdjustByteCount : Int := -(4 + 50 + 14 + 15 + 14)
def eipOutShareMeterAdjustByteCount : Int := -(4 + 50 + 14 + 15 + 14)

/-- Each meter is an attribute of a table, which the driver finds by its name. -/
def meterTable : Site → Option String
  | .eipInMeter => some "P13_Egress.eip_in_meter.bw_ratelimit"
  | .eipInSharedMeter => some "P13_Ingress.eip_in_shared_meter.shared_bw_ratelimit"
  | .eipOutMeter => some "P02_Egress.process_gw_egress.eip_out_meter.bw_ratelimit"
  | .eipOutSharedMeter => some "P02_Egress.process_gw_egress.eip_out_shared_meter.shared_bw_ratelimit"
  | _ => none

/-- The setup skips its two IPv6 tables, which the program does not have. -/
def meterAdjustInit : List (String × Int) := [
  ("P13_Egress.eip_in_meter.bw_ratelimit", eipInMeterAdjustByteCount),
  ("P13_Ingress.eip_in_shared_meter.shared_bw_ratelimit", eipInShareMeterAdjustByteCount),
  ("P02_Egress.process_gw_egress.eip_out_meter.bw_ratelimit", eipOutMeterAdjustByteCount),
  ("P02_Egress.process_gw_egress.eip_out_shared_meter.shared_bw_ratelimit",
    eipOutShareMeterAdjustByteCount)]

/-- A meter that the setup does not reach keeps the adjustment zero. -/
def meterByteCountAdjust (site : Site) : Int :=
  ((meterTable site).bind fun table => meterAdjustInit.lookup table).getD 0

end IgwP4.Setup

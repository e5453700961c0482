/-
This file gives the configuration values that the table initialisation reads.
-/

import IgwP4.Construction.Dataplane.Tables

namespace IgwP4.Setup
open Packet Dataplane

abbrev highestPri : Nat := 0
abbrev middlePri : Nat := 10
abbrev lowestPri : Nat := 20

abbrev etherTypeLldp : BitVec 16 := 0x88cc
abbrev etherTypeArp : BitVec 16 := 0x0806

/-- `switch_cfg` holds the addresses in host order. -/
structure SwitchConfig where
  mgtIp : BitVec 32
  vip : BitVec 32
  backupVip : BitVec 32
  sharedBwVip : BitVec 32
  dlIp : BitVec 32
  dlIpPrefixLen : Int

/-- `switch_hostif_t`, as far as the punt table and the gateway table read it -/
structure Hostif where
  devPort : BitVec 9
  gwIp : BitVec 32
  ip4 : BitVec 32
  ipv6Enable : Bool
  ip6 : BitVec 128
  ip6Mc : BitVec 128
  ip6Linklocal : BitVec 128
  ip6LinklocalMc : BitVec 128

/-- The shift counts above the word size wrap around, as the machine takes them. -/
def maskBit (index : Nat) : BitVec 32 := 1#32 <<< ((32 - (index : Int)) % 32).toNat

/-- `get_mask_by_prefix_len` sets one bit in each round of its loop. -/
def getMaskByPrefixLen (prefixLen : Int) : BitVec 32 :=
  (List.range prefixLen.toNat).foldl (fun mask round => mask ||| maskBit (round + 1)) 0

/-- `SWITCH_IPV4_COMPUTE_MASK` is defined where it shifts by less than the word size. -/
def switchIpv4ComputeMask (len : BitVec 16) : Option (BitVec 32) :=
  let shift : Int := 32 - len.toNat
  if 0 ≤ shift ∧ shift < 32 then some (0xFFFFFFFF#32 <<< shift.toNat) else none

/-- The initialisation writes a word of an IPv6 field byte by byte from its lowest byte. -/
def littleEndianWord (word : BitVec 32) : BitVec 32 :=
  word.extractLsb' 0 8 ++ word.extractLsb' 8 8 ++ word.extractLsb' 16 8 ++ word.extractLsb' 24 8

/-- `memcpy` of a `uint32_t [4]` into the bytes of an IPv6 key field -/
def ipv6Field (word0 word1 word2 word3 : BitVec 32) : BitVec 128 :=
  littleEndianWord word0 ++ littleEndianWord word1 ++ littleEndianWord word2 ++
    littleEndianWord word3

end IgwP4.Setup

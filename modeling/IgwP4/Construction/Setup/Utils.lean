/-
This file gives the address helpers of the initialisation and the library functions that they call.
-/

import IgwP4.Construction.Netlink.Memory
import IgwP4.Construction.Setup.Config

namespace IgwP4.Setup
open Netlink

/-! Numbers in texts -/

def isSpace (c : Byte) : Bool := c == 0x20 || (9 ≤ c && c ≤ 13)

def hexDigit (c : Byte) : Option Nat :=
  if 0x30 ≤ c ∧ c ≤ 0x39 then some (c.toNat - 0x30)
  else if 0x61 ≤ c ∧ c ≤ 0x66 then some (c.toNat - 0x57)
  else if 0x41 ≤ c ∧ c ≤ 0x46 then some (c.toNat - 0x37)
  else none

/-- The digits at the front of a text, and the text behind them -/
def hexDigits : List Byte → List Nat × List Byte
  | [] => ([], [])
  | c :: rest =>
      match hexDigit c with
      | none => ([], c :: rest)
      | some digit => (digit :: (hexDigits rest).1, (hexDigits rest).2)

def hexValue (digits : List Nat) : Nat := digits.foldl (fun value digit => 16 * value + digit) 0

/-- The sign of a number, and the text behind it -/
def signOf : List Byte → Bool × List Byte
  | [] => (false, [])
  | c :: rest =>
      if c = 0x2b then (false, rest) else if c = 0x2d then (true, rest) else (false, c :: rest)

/-- The prefix `0x` counts only before a digit. -/
def skipHexPrefix : List Byte → List Byte
  | zero :: x :: rest =>
      if zero = 0x30 ∧ (x = 0x78 ∨ x = 0x58) ∧ (hexDigits rest).1 ≠ [] then rest else zero :: x :: rest
  | text => text

/-- `strtoul` in base sixteen, which fails without a digit and above the range of the type -/
def strtoul16 (text : List Byte) : Option (Nat × List Byte) :=
  let (negative, text) := signOf (text.dropWhile isSpace)
  let (digits, rest) := hexDigits (skipHexPrefix text)
  let value := hexValue digits
  if digits = [] ∨ 2 ^ 64 ≤ value then none
  else some (if negative then (2 ^ 64 - value) % 2 ^ 64 else value, rest)

/-! MAC addresses -/

/-- The loop of `ether_aton` reads at most so many groups. -/
def etherAtonGroups : Nat → List Byte → Option (List Nat)
  | 0, _ => some []
  | count + 1, text =>
      match strtoul16 text with
      | none => none
      | some (value, []) => some [value]
      | some (value, c :: rest) =>
          if c = 0x3a then (etherAtonGroups count rest).map (value :: ·) else none

/-- The groups are stored from the last to the first, until one is too large. -/
def storeOctets (groups : List Nat) : Nat → List Byte → Bool × List Byte
  | 0, macAddr => (true, macAddr)
  | index + 1, macAddr =>
      if 255 < groups.getD index 0 then (false, macAddr)
      else storeOctets groups index (macAddr.set index (BitVec.ofNat 8 (groups.getD index 0)))

/-- `ether_aton` says whether it succeeds, and what the array holds behind it. -/
def etherAton (text : List Byte) (macAddr : List Byte) : Bool × List Byte :=
  match etherAtonGroups 6 text with
  | none => (false, macAddr)
  | some groups => if groups.length = 6 then storeOctets groups 6 macAddr else (true, macAddr)

/-! IP addresses -/

/-- Up to three decimal digits without a zero in front -/
def decimalOctet (digits : List Byte) : Option (BitVec 8) :=
  let value := digits.foldl (fun value c => 10 * value + (c.toNat - 0x30)) 0
  if digits ≠ [] ∧ digits.all (fun c => 0x30 ≤ c && c ≤ 0x39) ∧
      (digits.length = 1 ∨ digits.head? ≠ some 0x30) ∧ value ≤ 255 then
    some (BitVec.ofNat 8 value)
  else none

/-- `inet_pton` of an IPv4 address -/
def inetPton4 (text : List Byte) : Option (BitVec 32) :=
  match text.splitOn 0x2e with
  | [first, second, third, fourth] => do
      return (← decimalOctet first) ++ (← decimalOctet second) ++ (← decimalOctet third) ++
        (← decimalOctet fourth)
  | _ => none

/-- `ip_atoi` gives the address in host order, and zero for a text that is none. -/
def ipAtoi (text : List Byte) : BitVec 32 := (inetPton4 text).getD 0

/-- One to four digits -/
def hexGroup (digits : List Byte) : Option (BitVec 16) :=
  let (values, rest) := hexDigits digits
  if values ≠ [] ∧ values.length ≤ 4 ∧ rest = [] then some (BitVec.ofNat 16 (hexValue values)) else none

/-- The last group may be an IPv4 address, which counts for two. -/
def lastGroups (text : List Byte) : Option (List (BitVec 16)) :=
  match hexGroup text with
  | some group => some [group]
  | none => (inetPton4 text).map fun address => [address.extractLsb' 16 16, address.extractLsb' 0 16]

def ip6GroupList : List (List Byte) → Option (List (BitVec 16))
  | [] => some []
  | [text] => lastGroups text
  | text :: rest => do return (← hexGroup text) :: (← ip6GroupList rest)

/-- An empty side of the double colon has no group. -/
def ip6Groups (text : List Byte) : Option (List (BitVec 16)) :=
  if text = [] then some [] else ip6GroupList (text.splitOn 0x3a)

/-- What stands before and behind the first double colon -/
def splitDoubleColon : List Byte → Option (List Byte × List Byte)
  | [] => none
  | [_] => none
  | first :: second :: rest =>
      if first = 0x3a ∧ second = 0x3a then some ([], rest)
      else (splitDoubleColon (second :: rest)).map fun sides => (first :: sides.1, sides.2)

/-- The eight groups, in network order -/
def ofGroups (groups : List (BitVec 16)) : BitVec 128 :=
  groups.foldl (fun address group => address <<< 16 ||| group.setWidth 128) 0

/-- `inet_pton` of an IPv6 address -/
def inetPton6 (text : List Byte) : Option (BitVec 128) :=
  match splitDoubleColon text with
  | none => do
      let groups ← ip6Groups text
      if groups.length = 8 then some (ofGroups groups) else none
  | some (before, behind) => do
      -- An IPv4 address stands only at the end of the whole text.
      let first ← if before.contains 0x2e then none else ip6Groups before
      let last ← ip6Groups behind
      if first.length + last.length < 8 then
        some (ofGroups (first ++ List.replicate (8 - first.length - last.length) 0 ++ last))
      else none

/-- `ip6_atoi` -/
def ip6Atoi (text : List Byte) : Option (BitVec 128) := inetPton6 text

/-- `addr->s6_addr32[3]`, as the host reads it -/
def lastWord (addr : BitVec 128) : BitVec 32 := littleEndianWord (addr.extractLsb' 0 32)

/-- `ipv6_addr_set` writes four words of the host one behind the other. -/
def ipv6AddrSet (w1 w2 w3 w4 : BitVec 32) : BitVec 128 := ipv6Field w1 w2 w3 w4

/-- `ipv6_addr_solict_mult_set` -/
def ipv6AddrSolictMultSet (addr : BitVec 128) : BitVec 128 :=
  ipv6AddrSet (ntohl 0xFF020000) 0 (ntohl 0x1) (ntohl 0xFF000000 ||| lastWord addr)

/-- `ip6_get_linklocal` writes two words and eight bytes. -/
def ip6GetLinklocal (mac : Fin 6 → Byte) : BitVec 128 :=
  littleEndianWord (ntohl 0xFE800000) ++ littleEndianWord (ntohl 0x0) ++
    (mac 0 ^^^ 0x02) ++ mac 1 ++ mac 2 ++ 0xFF#8 ++ 0xFE#8 ++ mac 3 ++ mac 4 ++ mac 5

end IgwP4.Setup

/-
This file gives `ether_aton` on an object in memory, where a read behind the object gives nothing.
-/

import IgwP4.Construction.Setup.Utils

namespace IgwP4.Setup
open Netlink

/-- The bytes of an object from a pointer on -/
abbrev Bytes := List Byte

/-- The spaces in front of a number -/
def readSpaces : Bytes → Option Bytes
  | [] => none
  | c :: rest => if isSpace c then readSpaces rest else some (c :: rest)

def readSign : Bytes → Option (Bool × Bytes)
  | [] => none
  | c :: rest => some (signOf (c :: rest))

def readHexDigits : Bytes → Option (List Nat × Bytes)
  | [] => none
  | c :: rest =>
      match hexDigit c with
      | none => some ([], c :: rest)
      | some digit => (readHexDigits rest).map fun read => (digit :: read.1, read.2)

/-- Behind a zero, the prefix counts only before a digit. -/
def readX (zero : Byte) : Bytes → Option Bytes
  | [] => none
  | x :: rest =>
      if x = 0x78 ∨ x = 0x58 then
        (readHexDigits rest).map fun read => if read.1 ≠ [] then rest else zero :: x :: rest
      else some (zero :: x :: rest)

def readHexPrefix : Bytes → Option Bytes
  | [] => none
  | zero :: rest => if zero = 0x30 then readX zero rest else some (zero :: rest)

/-- `strtoul` as in `strtoul16` -/
def readStrtoul16 (bytes : Bytes) : Option (Option (Nat × Bytes)) := do
  let bytes ← readSpaces bytes
  let (negative, bytes) ← readSign bytes
  let bytes ← readHexPrefix bytes
  let (digits, rest) ← readHexDigits bytes
  let value := hexValue digits
  return if digits = [] ∨ 2 ^ 64 ≤ value then none
    else some (if negative then (2 ^ 64 - value) % 2 ^ 64 else value, rest)

/-- The loop of `ether_aton` reads at most so many groups, and ends at a terminator. -/
def readEtherAtonGroups : Nat → Bytes → Option (Option (List Nat))
  | 0, _ => some (some [])
  | count + 1, bytes =>
      match readStrtoul16 bytes with
      | none => none
      | some none => some none
      | some (some (_, [])) => none
      | some (some (value, c :: rest)) =>
          if c = 0 then some (some [value])
          else if c = 0x3a then (readEtherAtonGroups count rest).map (Option.map (value :: ·))
          else some none

/-- `ether_aton` -/
def readEtherAton (bytes : Bytes) (macAddr : List Byte) : Option (Bool × List Byte) :=
  (readEtherAtonGroups 6 bytes).map fun groups =>
    match groups with
    | none => (false, macAddr)
    | some groups => if groups.length = 6 then storeOctets groups 6 macAddr else (true, macAddr)

end IgwP4.Setup

/-
This file gives the loop of `process_netlink_loop` over the messages of one datagram.
-/

import IgwP4.Construction.Netlink.Memory

namespace IgwP4.Netlink

/-- `sizeof(struct nlmsghdr)` -/
abbrev nlmsghdrSize : Nat := 16

/-- The size of `buf` -/
abbrev bufSize : Nat := 8192

/-- `NLMSG_ALIGN` computes in 32 bits and wraps around. -/
def nlmsgAlign (len : BitVec 32) : BitVec 32 := (len + 3) &&& ~~~3#32

/-- `hdr->nlmsg_len` is the first field of the header. -/
def nlmsgLen (memory : Memory) (hdr : Nat) : BitVec 32 := memory.load32 hdr

/-- `hdr->nlmsg_type` -/
def nlmsgType (memory : Memory) (hdr : Nat) : BitVec 16 := memory.load16 (hdr + 4)

/-- The loop keeps a pointer and the signed count of the bytes behind it. -/
structure LoopState where
  hdr : Nat
  status : BitVec 64

namespace LoopState

/-- `(size_t) status >= sizeof(*hdr)` -/
def more (s : LoopState) : Prop := nlmsghdrSize ≤ s.status.toNat

instance (s : LoopState) : Decidable s.more := inferInstanceAs (Decidable (_ ≤ _))

def next (memory : Memory) (s : LoopState) : LoopState where
  hdr := s.hdr + (nlmsgAlign (nlmsgLen memory s.hdr)).toNat
  status := s.status - (nlmsgAlign (nlmsgLen memory s.hdr)).setWidth 64

end LoopState

/--
The loop yields the headers that it passes to `process_netlink_message`, or nothing when it has
not ended after so many rounds.
-/
def processNetlinkLoop (memory : Memory) : Nat → LoopState → Option (List Nat)
  | 0, _ => none
  | fuel + 1, s =>
      if s.more then (processNetlinkLoop memory fuel (s.next memory)).map (s.hdr :: ·) else some []

/-- The state of the loop behind the reception of so many bytes -/
def received (count : Nat) : LoopState := ⟨0, BitVec.ofNat 64 count⟩

end IgwP4.Netlink

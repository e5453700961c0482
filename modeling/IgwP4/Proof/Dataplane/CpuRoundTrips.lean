/-
This file shows that the headers of `bf_knet` and those of the program agree in both directions.
-/

import IgwP4.Construction.Packet.Words
import IgwP4.Construction.Setup.KnetFilters
import IgwP4.Proof.Dataplane.CpuPasses

namespace IgwP4.Dataplane
open Packet Setup Netlink

/-! The bytes of the two layouts -/

theorem octets_append (first second : List Byte) : octets (first ++ second) = octets first ++ octets second :=
  List.flatMap_append

theorem htons_bytes (word : BitVec 16) : (htons word).extractLsb' 0 8 = word.extractLsb' 8 8 ∧
    (htons word).extractLsb' 8 8 = word.extractLsb' 0 8 := by
  constructor
  · exact BitVec.extractLsb'_append_eq_right
  · exact BitVec.extractLsb'_append_eq_left

theorem lowBytes (word : BitVec 16) : word.extractLsb' 8 8 ++ word.extractLsb' 0 8 = word :=
  (BitVec.extractLsb'_append_extractLsb'_eq_extractLsb' rfl).trans BitVec.extractLsb'_eq_self

/-- A word in network order stands in the memory as on the wire. -/
theorem octets_htons (word : BitVec 16) : octets (storedWord (htons word)) = (Codec.word 16).encode word := by
  obtain ⟨low, high⟩ := htons_bytes word
  rw [storedWord, low, high, Codec.word_parts 8 8]
  exact congrArg (_ ++ ·) (List.append_nil _)

theorem octets_zero : octets (storedWord 0) = (Codec.word 16).encode 0 := octets_htons 0

/-- The fabric header of a packet for a port -/
def sentFabric (devPort : BitVec 16) : Fabric := ⟨0xA0, 0, 0, 0, devPort⟩

/-- The CPU header of a packet that bypasses everything -/
def sentCpu (etherType : BitVec 16) : Cpu := ⟨7, 1, 0, 0, 0, 0, 0, 0xFFFF, etherType⟩

/-- The inserted bytes are the new EtherType and the two CPU headers up to the old EtherType. -/
theorem octets_txPacketHeader (devPort etherType : BitVec 16) :
    octets (txPacketHeader { bypassFlags := switchBypassAll, devPort }).bytes ++ (Codec.word 16).encode etherType =
      (Codec.word 16).encode etherTypeBfn ++ (Fabric.codec.encode (sentFabric devPort) ++
        Cpu.codec.encode (sentCpu etherType)) := by
  let fabricBytes : List Byte := [switchFabricHeaderTypeCpu ++ (0 : BitVec 2) ++ (0 : BitVec 2) ++ (0 : BitVec 1),
    (0 : BitVec 5) ++ (0 : BitVec 3), 0]
  let cpuBytes : List Byte := [txEgressQueueDefault ++ (1 : BitVec 1) ++ (0 : BitVec 1) ++ (0 : BitVec 1)]
  have fabric : octets fabricBytes = (Codec.word 8).encode 0xA0 ++ ((Codec.word 3).encode 0 ++
      ((Codec.word 5).encode 0 ++ (Codec.word 8).encode 0)) := by decide
  have cpu : octets cpuBytes = (Codec.word 5).encode 7 ++ ((Codec.word 1).encode 1 ++
      ((Codec.word 1).encode 0 ++ (Codec.word 1).encode 0)) := by decide
  have bytes : (txPacketHeader { bypassFlags := switchBypassAll, devPort }).bytes =
      (storedWord (htons switchFabricHeaderEthtype) ++ fabricBytes ++ storedWord (htons devPort)) ++
        (cpuBytes ++ storedWord 0 ++ storedWord 0 ++ storedWord 0 ++ storedWord (htons switchBypassAll)) := by
    rw [txPacketHeader, if_pos rfl, if_pos rfl, if_pos rfl]
    rfl
  rw [bytes]
  simp only [octets_append, octets_htons, octets_zero, fabric, cpu, List.append_assoc]
  rfl

/-! The mutations -/

theorem ethernet_bits (ethernet : Ethernet) (rest : Bits) : Ethernet.codec.encode ethernet ++ rest =
    ((Codec.word 48).encode ethernet.dstAddr ++ (Codec.word 48).encode ethernet.srcAddr) ++
      ((Codec.word 16).encode ethernet.etherType ++ rest) := by
  change ((Codec.word 48).encode ethernet.dstAddr ++ ((Codec.word 48).encode ethernet.srcAddr ++
    (Codec.word 16).encode ethernet.etherType)) ++ rest = _
  simp only [List.append_assoc]

theorem addresses_length (ethernet : Ethernet) : ((Codec.word 48).encode ethernet.dstAddr ++
    (Codec.word 48).encode ethernet.srcAddr).length = 8 * etherTypeOffset := by
  rw [List.length_append, Codec.encode_length, Codec.encode_length]
  rfl

/-- The insertion turns a frame of the host into a CPU frame. -/
theorem inserted_bits (devPort : BitVec 16) (ethernet : Ethernet) (rest : Bits) :
    (PacketMutation.insert etherTypeOffset
      (txPacketHeader { bypassFlags := switchBypassAll, devPort }).bytes).apply
        (Ethernet.codec.encode ethernet ++ rest) =
      Ethernet.codec.encode { ethernet with etherType := etherTypeBfn } ++
        (Fabric.codec.encode (sentFabric devPort) ++ (Cpu.codec.encode (sentCpu ethernet.etherType) ++ rest)) := by
  have header := octets_txPacketHeader devPort ethernet.etherType
  rw [PacketMutation.apply, ethernet_bits, List.take_left' (addresses_length ethernet),
    List.drop_left' (addresses_length ethernet), ← List.append_assoc (octets _), header, ethernet_bits]
  simp only [List.append_assoc]

/-- The strip turns a CPU frame back into the frame behind it. -/
theorem stripped_bits (ethernet : Ethernet) (fabric : Fabric) (cpu : Cpu) (rest : Bits) :
    (PacketMutation.strip etherTypeOffset switchPacketHeaderSize).apply (Ethernet.codec.encode ethernet ++
      (Fabric.codec.encode fabric ++ (Cpu.codec.encode cpu ++ rest))) =
      Ethernet.codec.encode { ethernet with etherType := cpu.etherType } ++ rest := by
  let gone : Bits := (Codec.word 16).encode ethernet.etherType ++ (Fabric.codec.encode fabric ++
    ((Codec.word 5).encode cpu.egressQueue ++ ((Codec.word 1).encode cpu.txBypass ++
      ((Codec.word 1).encode cpu.captureTs ++ ((Codec.word 1).encode cpu.reserved ++
        ((Codec.word 16).encode cpu.ingressPort ++ ((Codec.word 16).encode cpu.ingressIfindex ++
          ((Codec.word 16).encode cpu.ingressBd ++ (Codec.word 16).encode cpu.reasonCode))))))))
  have length : gone.length = 8 * switchPacketHeaderSize := by
    have fabricLength := Fabric.codec.encode_length fabric
    change (Fabric.codec.encode fabric).length = 40 at fabricLength
    simp only [gone, List.length_append, fabricLength, Codec.encode_length]
    rfl
  have shape : (Codec.word 16).encode ethernet.etherType ++
      (Fabric.codec.encode fabric ++ (Cpu.codec.encode cpu ++ rest)) =
        gone ++ ((Codec.word 16).encode cpu.etherType ++ rest) := by
    simp only [gone, List.append_assoc]
    rfl
  rw [PacketMutation.apply, ethernet_bits, List.take_left' (addresses_length ethernet), Nat.mul_add,
    ← List.drop_drop, List.drop_left' (addresses_length ethernet), shape, List.drop_left' length]
  exact (ethernet_bits { ethernet with etherType := cpu.etherType } rest).symm

/-! The filter -/

theorem rxFilter_mask (devPort : BitVec 16) (handle : BitVec 64) : ∀ index < 30,
    (hostifRxFilter devPort handle).mask index = if index = 20 ∨ index = 21 then 0xFF else 0 := by
  change ∀ index < 30, Memory.write (fun _ => 0) 19 [0, 0xFF, 0xFF, 0, 0, 0, 0, 0, 0] index = _
  decide

theorem rxFilter_filter (devPort : BitVec 16) (handle : BitVec 64) :
    (hostifRxFilter devPort handle).filter 20 = devPort.extractLsb' 8 8 ∧
      (hostifRxFilter devPort handle).filter 21 = devPort.extractLsb' 0 8 :=
  htons_bytes devPort

/-- The two bytes of a word that stands at a byte boundary -/
theorem octetAt_word {front : Bits} {index : Nat} (place : front.length = 8 * index) (word : BitVec 16)
    (behind : Bits) :
    octetAt (front ++ ((Codec.word 16).encode word ++ behind)) index = word.extractLsb' 8 8 ∧
      octetAt (front ++ ((Codec.word 16).encode word ++ behind)) (index + 1) = word.extractLsb' 0 8 := by
  have high : ((Codec.word 8).encode (word.extractLsb' 8 8)).length = 8 := Codec.encode_length _ _
  have low : ((Codec.word 8).encode (word.extractLsb' 0 8)).length = 8 := Codec.encode_length _ _
  constructor
  · rw [octetAt, List.drop_left' place, Codec.word_parts 8 8, List.append_assoc, List.take_left' high,
      Codec.decode_encode]
  · rw [octetAt, Nat.mul_add, ← List.drop_drop, List.drop_left' place, Codec.word_parts 8 8, List.append_assoc,
      List.drop_left' high, List.take_left' low, Codec.decode_encode]

/-- A packet for the CPU matches exactly the filters of the port that its CPU header names. -/
theorem matches_iff (devPort : BitVec 16) (handle : BitVec 64) (ethernet : Ethernet) (fabric : Fabric) (cpu : Cpu)
    (rest : Bits) :
    (hostifRxFilter devPort handle).Matches (Ethernet.codec.encode ethernet ++
      (Fabric.codec.encode fabric ++ (Cpu.codec.encode cpu ++ rest))) ↔ devPort = cpu.ingressPort := by
  let front : Bits := Ethernet.codec.encode ethernet ++ (Fabric.codec.encode fabric ++
    ((Codec.word 5).encode cpu.egressQueue ++ ((Codec.word 1).encode cpu.txBypass ++
      ((Codec.word 1).encode cpu.captureTs ++ (Codec.word 1).encode cpu.reserved))))
  let behind : Bits := (Codec.word 16).encode cpu.ingressIfindex ++ ((Codec.word 16).encode cpu.ingressBd ++
    ((Codec.word 16).encode cpu.reasonCode ++ ((Codec.word 16).encode cpu.etherType ++ rest)))
  have shape : Ethernet.codec.encode ethernet ++ (Fabric.codec.encode fabric ++ (Cpu.codec.encode cpu ++ rest)) =
      front ++ ((Codec.word 16).encode cpu.ingressPort ++ behind) := by
    simp only [front, behind, List.append_assoc]
    rfl
  have ethernetLength : (Ethernet.codec.encode ethernet).length = 112 := Codec.encode_length _ _
  have fabricLength : (Fabric.codec.encode fabric).length = 40 := Codec.encode_length _ _
  have cpuLength : (Cpu.codec.encode cpu).length = 88 := Codec.encode_length _ _
  have place : front.length = 8 * 20 := by
    simp only [front, List.length_append, ethernetLength, fabricLength, Codec.encode_length]
    rfl
  have long : 8 * 30 ≤ (Ethernet.codec.encode ethernet ++
      (Fabric.codec.encode fabric ++ (Cpu.codec.encode cpu ++ rest))).length := by
    simp only [List.length_append, ethernetLength, fabricLength, cpuLength]
    omega
  obtain ⟨first, second⟩ := octetAt_word place cpu.ingressPort behind
  obtain ⟨high, low⟩ := rxFilter_filter devPort handle
  have masked := rxFilter_mask devPort handle
  have all (octet : Byte) : octet &&& 0xFF = octet := BitVec.and_allOnes
  have none (octet : Byte) : octet &&& 0 = 0 := BitVec.and_zero
  rw [RxFilter.Matches, shape]
  constructor
  · rintro ⟨_, same⟩
    have highSame := same 20 (show 20 < 30 by decide)
    have lowSame := same 21 (show 21 < 30 by decide)
    rw [first, high, masked 20 (by decide), if_pos (.inl rfl), all, all] at highSame
    rw [second, low, masked 21 (by decide), if_pos (.inr rfl), all, all] at lowSame
    rw [← lowBytes devPort, ← lowBytes cpu.ingressPort, highSame, lowSame]
  · rintro rfl
    refine ⟨shape ▸ long, fun index inside => ?_⟩
    rw [masked index inside]
    by_cases upper : index = 20
    · rw [upper, first, high]
    by_cases lower : index = 21
    · rw [lower, second, low]
    · rw [if_neg (by omega), none, none]

end IgwP4.Dataplane

/-
This file shows for which documents the configuration in memory equals the document.
-/

import IgwP4.Proof.Setup.ConfigFile
import IgwP4.Proof.Setup.EtherAton

namespace IgwP4.Setup
open Netlink

/-! Equality with the document -/

/-- A field of one byte -/
def ConfigState.load8 (s : ConfigState) (field : Field) : BitVec 8 := s.memory field.offset

namespace HostifDoc

/-- A disabled address leaves its fields empty. -/
def Ip6StoredAt (doc : HostifDoc) (s : ConfigState) (index : Nat) : Prop :=
  match doc.ip6 with
  | none =>
      s.load8 (HostifField.ipv6Enable.ofHostif index) = 0 ∧
        s.string (HostifField.ip6Addr.ofHostif index) = [] ∧
        s.load8 (HostifField.ip6PrefixLen.ofHostif index) = 0
  | some (text, prefixLen) =>
      s.load8 (HostifField.ipv6Enable.ofHostif index) = 1 ∧
        s.string (HostifField.ip6Addr.ofHostif index) = text.bytes ∧
        ((s.load8 (HostifField.ip6PrefixLen.ofHostif index)).toNat : Int) = prefixLen.toInt

/-- The interface in memory equals the one of the document. -/
structure StoredAt (doc : HostifDoc) (s : ConfigState) (index : Nat) : Prop where
  intfName : s.string (HostifField.intfName.ofHostif index) = doc.intfName.bytes
  ip : s.string (HostifField.ipAddr.ofHostif index) = doc.ip.bytes
  netMaskLen : ((s.load16 (HostifField.netMaskLen.ofHostif index)).toNat : Int) = doc.netMaskLen.toInt
  gwIp : s.string (HostifField.gwIpAddr.ofHostif index) = doc.gwIp.bytes
  ip6 : doc.Ip6StoredAt s index
  macStr : s.string (HostifField.macStr.ofHostif index) = doc.mac.bytes
  mac : macFormat doc.mac.bytes = some (s.read (HostifField.mac.ofHostif index))
  fpPort : ((s.load16 (HostifField.fpPort.ofHostif index)).toNat : Int) = doc.fpPort.toInt

/-- Every text fits its array, every number its field, and the MAC address is in its format. -/
structure Fits (doc : HostifDoc) : Prop where
  intfName : doc.intfName.bytes.length ≤ constMaxPortNameLen
  ip : doc.ip.bytes.length ≤ constIpv4AddrLen
  netMaskLen : 0 ≤ doc.netMaskLen.toInt ∧ doc.netMaskLen.toInt < 2 ^ 16
  gwIp : doc.gwIp.bytes.length ≤ constIpv4AddrLen
  ip6 : ∀ text prefixLen, doc.ip6 = some (text, prefixLen) →
    text.bytes.length ≤ constIpv6AddrLen ∧ 0 ≤ prefixLen.toInt ∧ prefixLen.toInt < 2 ^ 8
  mac : doc.mac.bytes.length ≤ constMacAddrLen ∧ (macFormat doc.mac.bytes).isSome
  fpPort : 0 ≤ doc.fpPort.toInt ∧ doc.fpPort.toInt < 2 ^ 16

end HostifDoc

namespace ConfigDoc

/-- The configuration in memory equals the document, and no store has altered a field stored before. -/
structure Faithful (doc : ConfigDoc) (s : ConfigState) : Prop where
  hostifNum : (s.load32 ConfigField.hostifNum).toInt = doc.hostifs.length
  hostifs : ∀ index (inside : index < doc.hostifs.length), doc.hostifs[index].StoredAt s index
  portSpeed : ((s.load16 ConfigField.portSpeed).toNat : Int) = doc.higw.portSpeed.toInt ∧
    (doc.higw.portSpeed.toInt = 40 ∨ doc.higw.portSpeed.toInt = 100)
  hardware : ((s.load16 ConfigField.hardwareModel).toNat : Int) = doc.higw.hardware.toInt ∧
    (doc.higw.hardware.toInt = 1 ∨ doc.higw.hardware.toInt = 2)
  fec : ((s.load16 ConfigField.fecModel).toNat : Int) = doc.higw.fec.toInt ∧
    (doc.higw.fec.toInt = 0 ∨ doc.higw.fec.toInt = 1 ∨ doc.higw.fec.toInt = 2)
  prefixLen : ((s.load32 ConfigField.dlIpPrefixLen).toNat : Int) = doc.redirect.prefixLen.toInt ∧
    24 ≤ doc.redirect.prefixLen.toInt ∧ doc.redirect.prefixLen.toInt ≤ 32
  kept : s.Kept

/-- There are fewer interfaces than the array holds, and every value fits its field. -/
structure Fits (doc : ConfigDoc) : Prop where
  count : doc.hostifs.length < hostifsSize
  hostifs : ∀ hostif ∈ doc.hostifs, hostif.Fits
  portSpeed : 0 ≤ doc.higw.portSpeed.toInt ∧ doc.higw.portSpeed.toInt < 2 ^ 16
  hardware : 0 ≤ doc.higw.hardware.toInt ∧ doc.higw.hardware.toInt < 2 ^ 16
  fec : 0 ≤ doc.higw.fec.toInt ∧ doc.higw.fec.toInt < 2 ^ 16
  prefixLen : 0 ≤ doc.redirect.prefixLen.toInt ∧ doc.redirect.prefixLen.toInt < 2 ^ 32

end ConfigDoc

/-! Values that fit -/

/-- A number that is cut to some bits stays the same when it has no more. -/
theorem cut_eq_iff (value : BitVec 64) (width : Nat) (short : width < 64) :
    ((value.setWidth width).toNat : Int) = value.toInt ↔ 0 ≤ value.toInt ∧ value.toInt < 2 ^ width := by
  have whole := value.isLt
  have power : 2 ^ width ≤ 2 ^ 63 := Nat.pow_le_pow_right (by decide) (by omega)
  have positive : 0 < 2 ^ width := Nat.two_pow_pos width
  rw [BitVec.toNat_setWidth, BitVec.toInt_eq_toNat_cond]
  have remainder := Nat.mod_lt value.toNat positive
  have cast : ((2 : Int) ^ width) = ((2 ^ width : Nat) : Int) := by push_cast; rfl
  rw [cast]
  generalize 2 ^ width = bound at *
  constructor
  · intro same
    split at same <;> split <;> omega
  · rintro ⟨low, high⟩
    split at low
    · rw [if_pos (by assumption)] at high ⊢
      rw [Nat.mod_eq_of_lt (by omega)]
    · omega

/-- A number of sixteen bits leaves the third byte zero. -/
theorem highByte_zero {value : BitVec 64} (low : 0 ≤ value.toInt) (high : value.toInt < 2 ^ 16) :
    (value.setWidth 32).extractLsb' 16 8 = 0 := by
  have same := (cut_eq_iff value 16 (by decide)).mpr ⟨low, high⟩
  have bound := (value.setWidth 16).isLt
  have whole := value.isLt
  rw [BitVec.toInt_eq_toNat_cond] at same low high
  have small : value.toNat < 2 ^ 16 := by
    split at high <;> omega
  apply BitVec.eq_of_toNat_eq
  have kept : value.toNat % 2 ^ 32 = value.toNat := Nat.mod_eq_of_lt (by omega)
  rw [BitVec.extractLsb'_toNat, BitVec.toNat_setWidth, Nat.shiftRight_eq_div_pow, kept, Nat.div_eq_of_lt small]
  rfl

theorem cut_text_iff (text : Text) (size : Nat) :
    text.bytes.take size = text.bytes ↔ text.bytes.length ≤ size := List.take_eq_self_iff _

/-- What the code reads of an address in the format are its six octets. -/
theorem etherAton_of_format {text octets : List Byte} (format : macFormat text = some octets) :
    etherAton text (List.replicate 6 0) = (true, octets) := by
  obtain ⟨groups, numbers, six, small, same⟩ := groups_of_format format
  have stored := storeOctets_six six (List.length_replicate (a := (0 : Byte))) small
  rw [etherAton, etherAtonGroups_eq, ← groupNumbers, numbers]
  dsimp only
  rw [if_pos six, stored, same]

/-! What the fields hold in the end -/

theorem load8_of_read {s : ConfigState} {field : Field} {byte : Byte} (size : field.size = 1)
    (read : s.read field = [byte]) : s.load8 field = byte := by
  rw [ConfigState.read, size] at read
  have same : s.memory field.offset = byte := by simpa [Memory.read] using read
  exact same

theorem load16_of_read {s : ConfigState} {field : Field} {word : BitVec 32} (size : field.size = 2)
    (read : s.read field = (littleEndian word).take 2) : s.load16 field = word.setWidth 16 := by
  rw [ConfigState.read, size] at read
  obtain ⟨low, high⟩ : s.memory field.offset = word.extractLsb' 0 8 ∧
      s.memory (field.offset + 1) = word.extractLsb' 8 8 := by
    simpa [Memory.read, littleEndian, List.range_succ] using read
  change Memory.load16 s.memory field.offset = _
  rw [Memory.load16, low, high]
  exact lowBytes_append word

theorem load32_of_read {s : ConfigState} {field : Field} {word : BitVec 32} (size : field.size = 4)
    (read : s.read field = littleEndian word) : s.load32 field = word := by
  rw [ConfigState.read, size] at read
  obtain ⟨first, second, third, fourth⟩ : s.memory field.offset = word.extractLsb' 0 8 ∧
      s.memory (field.offset + 1) = word.extractLsb' 8 8 ∧ s.memory (field.offset + 2) = word.extractLsb' 16 8 ∧
      s.memory (field.offset + 3) = word.extractLsb' 24 8 := by
    simpa [Memory.read, littleEndian, List.range_succ] using read
  change Memory.load32 s.memory field.offset = _
  rw [Memory.load32, first, second, third, fourth]
  exact bytes_append word

/-- The stores of one interface are among those of all. -/
theorem mem_hostifStoresFrom (start : Nat) {docs : List HostifDoc} {index : Nat} (inside : index < docs.length)
    {store : Store} (member : store ∈ docs[index].stores) :
    store.ofHostif (start + index) ∈ hostifStoresFrom start docs := by
  induction docs generalizing start index with
  | nil => exact absurd inside (by simp)
  | cons doc rest ih =>
      rw [hostifStoresFrom, List.mem_append]
      cases index with
      | zero => exact .inl (List.mem_map_of_mem member)
      | succ index =>
          right
          have later := @ih (start + 1) index (by simpa using inside) (by simpa using member)
          rwa [Nat.add_assoc, Nat.add_comm 1 index] at later

/-- A store passes by a location behind the first two bytes of an interface, or belongs to this interface. -/
theorem hostifStoresFrom_cases (start : Nat) {docs : List HostifDoc} {index : Nat} (inside : index < docs.length)
    {offset : Nat} (behind : 2 ≤ offset) (within : offset < hostifSize) :
    ∀ store ∈ hostifStoresFrom start docs, ((start + index) * hostifSize + offset < store.1.offset ∨
      store.1.offset + store.2.length ≤ (start + index) * hostifSize + offset) ∨
      ∃ own ∈ docs[index].stores, store = own.ofHostif (start + index) := by
  induction docs generalizing start index with
  | nil => exact absurd inside (by simp)
  | cons doc rest ih =>
      intro store member
      cases index with
      | zero =>
          rcases List.mem_append.mp member with own | later
          · obtain ⟨relative, among, rfl⟩ := List.mem_map.mp own
            exact .inr ⟨relative, among, rfl⟩
          · have range := hostifStoresFrom_range (start + 1) rest store later
            dsimp only [hostifSize] at *
            omega
      | succ index =>
          rcases List.mem_append.mp member with own | later
          · have range := ofHostif_range doc start store own
            left
            dsimp only [hostifSize] at *
            omega
          · have found := ih (start + 1) (by simpa using inside) store later
            rw [Nat.add_assoc start, Nat.add_comm 1 index] at found
            exact found

namespace ConfigDoc

variable {doc : ConfigDoc}

theorem frontShapes_ordered (backup : Bool) :
    (frontShapes backup).Pairwise fun earlier later => earlier.1.Clear later := by
  cases backup <;> decide

/-- With room behind the last interface no store alters a field stored before. -/
theorem stores_ordered (count : doc.hostifs.length < hostifsSize) : Ordered doc.stores := by
  refine List.pairwise_append.mpr ⟨?_, hostifStoresFrom_ordered 0 doc.hostifs, ?_⟩
  · exact ordered_of_shapes (frontStores_shapes _ _ _) (frontShapes_ordered _)
  · intro earlier front later behind
    have start := frontShapes_behind _ (Store.shape earlier)
      (frontStores_shapes doc.higw doc.redirect _ ▸ List.mem_map_of_mem front)
    have range := hostifStoresFrom_range 0 doc.hostifs later behind
    left
    change hostifsSize * hostifSize ≤ earlier.1.offset at start
    change later.1.offset + later.2.length ≤ earlier.1.offset
    dsimp only [hostifsSize, hostifSize] at *
    omega

/-- A number of an interface is read back. -/
theorem read_number {index : Nat} (inside : index < doc.hostifs.length) {field : Field} {bytes : List Byte}
    (member : (field, bytes) ∈ doc.hostifs[index].stores) (full : field.size ≤ bytes.length) :
    (ConfigState.initial.stores doc.stores).read (field.ofHostif index) = bytes.take field.size := by
  have among := mem_hostifStoresFrom 0 inside member
  rw [Nat.zero_add] at among
  rw [stores, ConfigState.stores_append]
  exact ConfigState.read_of_mem _ (hostifStoresFrom_ordered 0 doc.hostifs) among full

/-- All other stores pass by a location behind the first two bytes of an interface. -/
theorem stores_cases {index : Nat} (inside : index < doc.hostifs.length) (count : doc.hostifs.length ≤ hostifsSize)
    {offset : Nat} (behind : 2 ≤ offset) (within : offset < hostifSize) :
    ∀ store ∈ doc.stores, (index * hostifSize + offset < store.1.offset ∨
      store.1.offset + store.2.length ≤ index * hostifSize + offset) ∨
      ∃ own ∈ doc.hostifs[index].stores, store = own.ofHostif index := by
  intro store member
  rcases List.mem_append.mp member with front | own
  · have start := frontShapes_behind _ (Store.shape store)
      (frontStores_shapes doc.higw doc.redirect _ ▸ List.mem_map_of_mem front)
    change hostifsSize * hostifSize ≤ store.1.offset at start
    left
    left
    dsimp only [hostifsSize, hostifSize] at *
    omega
  · have found := hostifStoresFrom_cases 0 inside behind within store own
    rwa [Nat.zero_add] at found

/-- A location that its interface passes by is never stored. -/
theorem outside_stores {index : Nat} (inside : index < doc.hostifs.length)
    (count : doc.hostifs.length ≤ hostifsSize) {offset : Nat} (behind : 2 ≤ offset) (within : offset < hostifSize)
    (outside : ∀ shape ∈ HostifDoc.shapes doc.hostifs[index].ip6.isSome,
      offset < shape.1.offset ∨ shape.1.offset + shape.2 ≤ offset) :
    ∀ store ∈ doc.stores, index * hostifSize + offset < store.1.offset ∨
      store.1.offset + store.2.length ≤ index * hostifSize + offset := by
  intro store member
  rcases stores_cases inside count behind within store member with apart | ⟨own, among, rfl⟩
  · exact apart
  · have apart := outside (Store.shape own)
      (doc.hostifs[index].stores_shapes ▸ List.mem_map_of_mem among)
    change offset < own.1.offset ∨ own.1.offset + own.2.length ≤ offset at apart
    change index * hostifSize + offset < index * hostifSize + own.1.offset ∨
      index * hostifSize + own.1.offset + own.2.length ≤ index * hostifSize + offset
    omega

/-- A text of an interface is read back as far as its array goes. -/
theorem string_text (count : doc.hostifs.length ≤ hostifsSize) {index : Nat} (inside : index < doc.hostifs.length)
    {field : Field} {text : Text} {size : Nat} (member : (field, padded text size) ∈ doc.hostifs[index].stores)
    (room : field.size = size + 1) (behind : 2 ≤ field.offset + size) (within : field.offset + size < hostifSize)
    (outside : ∀ enabled, ∀ shape ∈ HostifDoc.shapes enabled,
      field.offset + size < shape.1.offset ∨ shape.1.offset + shape.2 ≤ field.offset + size) :
    (ConfigState.initial.stores doc.stores).string (field.ofHostif index) = text.bytes.take size := by
  have among := mem_hostifStoresFrom 0 inside member
  rw [Nat.zero_add] at among
  have apart : ∀ store ∈ doc.stores, index * hostifSize + field.offset + size < store.1.offset ∨
      store.1.offset + store.2.length ≤ index * hostifSize + field.offset + size := by
    simpa only [Nat.add_assoc] using outside_stores inside count behind within (outside _)
  rw [stores, ConfigState.stores_append]
  have read := ConfigState.read_text_of_mem
    (ConfigState.initial.stores (frontStores doc.higw doc.redirect doc.hostifs.length))
    (hostifStoresFrom_ordered 0 doc.hostifs) among (by rw [padded_length]; exact room)
    (by
      rw [padded_length]
      exact ConfigState.memory_stores_outside _ fun store front => apart store (List.mem_append_left _ front))
    (by
      rw [padded_length]
      exact fun store own => apart store (List.mem_append_right _ own))
  exact (congrArg (List.takeWhile (· != 0)) read).trans (padded_string text size)

/-- The address of an enabled interface is read back as far as its fields go. -/
theorem ip6_storedAt_iff (count : doc.hostifs.length < hostifsSize) {index : Nat}
    (inside : index < doc.hostifs.length) {text : Text} {prefixLen : BitVec 64}
    (enabled : doc.hostifs[index].ip6 = some (text, prefixLen)) :
    doc.hostifs[index].Ip6StoredAt (ConfigState.initial.stores doc.stores) index ↔
      text.bytes.length ≤ constIpv6AddrLen ∧ 0 ≤ prefixLen.toInt ∧ prefixLen.toInt < 2 ^ 8 := by
  have among : ∀ store ∈ HostifDoc.ip6Stores (some (text, prefixLen)), store ∈ doc.hostifs[index].stores := by
    intro store member
    rw [HostifDoc.stores, HostifDoc.frontStores, enabled]
    exact List.mem_append_left _ (List.mem_append_right _ member)
  have enable := read_number inside (among (HostifField.ipv6Enable, [1]) (by simp [HostifDoc.ip6Stores]))
    (by decide)
  have length := read_number inside
    (among (HostifField.ip6PrefixLen, littleEndian (prefixLen.setWidth 32)) (by simp [HostifDoc.ip6Stores]))
    (by rw [littleEndian_length]; decide)
  have address := string_text (Nat.le_of_lt count) inside
    (among (HostifField.ip6Addr, padded text constIpv6AddrLen) (by simp [HostifDoc.ip6Stores])) rfl (by decide)
    (by decide) (by decide)
  have byte : (ConfigState.initial.stores doc.stores).load8 (HostifField.ip6PrefixLen.ofHostif index) =
      prefixLen.setWidth 8 := by
    rw [load8_of_read rfl length]
    rw [← BitVec.setWidth_eq_extractLsb' (by decide), BitVec.setWidth_setWidth_of_le _ (by decide)]
  unfold HostifDoc.Ip6StoredAt
  rw [enabled]
  dsimp only
  rw [load8_of_read rfl enable, address, byte, cut_text_iff, cut_eq_iff _ _ (by decide)]
  exact and_iff_right rfl

/-- The fields of a disabled address stay empty when the mask length leaves its high bytes zero. -/
theorem ip6_disabled (count : doc.hostifs.length < hostifsSize) {index : Nat}
    (inside : index < doc.hostifs.length) (disabled : doc.hostifs[index].ip6 = none)
    (mask : 0 ≤ doc.hostifs[index].netMaskLen.toInt ∧ doc.hostifs[index].netMaskLen.toInt < 2 ^ 16) :
    doc.hostifs[index].Ip6StoredAt (ConfigState.initial.stores doc.stores) index := by
  have untouched (offset : Nat) (behind : 2 ≤ offset) (within : offset < hostifSize)
      (outside : ∀ shape ∈ HostifDoc.shapes false,
        offset < shape.1.offset ∨ shape.1.offset + shape.2 ≤ offset) :
      (ConfigState.initial.stores doc.stores).memory (index * hostifSize + offset) = 0 :=
    ConfigState.memory_stores_outside _
      (outside_stores inside (Nat.le_of_lt count) behind within (by rw [disabled]; exact outside))
  have first : (ConfigState.initial.stores doc.stores).memory (index * hostifSize + 52) = 0 := by
    apply ConfigState.memory_stores_zero rfl
    intro store member
    have within : 52 < hostifSize := by decide
    rcases stores_cases inside (Nat.le_of_lt count) (by omega) within store member with
      apart | ⟨own, among, rfl⟩
    · exact .inl apart
    · rw [HostifDoc.stores, HostifDoc.frontStores, disabled] at among
      simp only [HostifDoc.ip6Stores, List.append_nil, List.cons_append, List.nil_append, List.mem_cons,
        List.not_mem_nil, or_false] at among
      have octets : doc.hostifs[index].parsedMac.2.length = 6 := by
        rw [HostifDoc.parsedMac, etherAton_length, List.length_replicate]
      rcases among with rfl | rfl | rfl | rfl | rfl | rfl | rfl
      -- Only the length of the mask reaches this byte.
      pick_goal 3
      · right
        change (littleEndian (doc.hostifs[index].netMaskLen.setWidth 32)).getD
          (index * hostifSize + 52 - (index * hostifSize + 50)) 0 = 0
        rw [Nat.add_sub_add_left]
        exact highByte_zero mask.1 mask.2
      all_goals
        left
        simp only [Store.ofHostif, Field.ofHostif, HostifField.intfName, HostifField.ipAddr, HostifField.gwIpAddr,
          HostifField.macStr, HostifField.mac, HostifField.fpPort, padded_length, octets, littleEndian_length,
          constMaxPortNameLen, constIpv4AddrLen, constMacAddrLen]
        omega
  unfold HostifDoc.Ip6StoredAt
  rw [disabled]
  refine ⟨untouched 182 (by decide) (by decide) (by decide), ?_, untouched 181 (by decide) (by decide) (by decide)⟩
  have zero : (ConfigState.initial.stores doc.stores).memory
      ((HostifField.ip6Addr.ofHostif index).offset + 0) = 0 := first
  rw [ConfigState.string, Memory.string, Memory.read, show (HostifField.ip6Addr.ofHostif index).size = 128 + 1 from
    rfl, List.range_succ_eq_map, List.map_cons, zero]
  rfl

/-- A number of two bytes is read back as far as its field goes. -/
theorem load16_number {index : Nat} (inside : index < doc.hostifs.length) {field : Field} {value : BitVec 64}
    (member : (field, littleEndian (value.setWidth 32)) ∈ doc.hostifs[index].stores) (size : field.size = 2) :
    ((ConfigState.initial.stores doc.stores).load16 (field.ofHostif index)).toNat = (value.setWidth 16).toNat := by
  have read := read_number inside member (by rw [littleEndian_length, size]; decide)
  rw [size] at read
  rw [load16_of_read (show (field.ofHostif index).size = 2 from size) read,
    BitVec.setWidth_setWidth_of_le _ (by decide)]

/-- An interface is read back as the document has it exactly when its values fit. -/
theorem storedAt_iff (count : doc.hostifs.length < hostifsSize) {index : Nat} (inside : index < doc.hostifs.length) :
    doc.hostifs[index].StoredAt (ConfigState.initial.stores doc.stores) index ↔ doc.hostifs[index].Fits := by
  have front : ∀ store ∈ doc.hostifs[index].frontStores, store ∈ doc.hostifs[index].stores :=
    fun _ member => List.mem_append_left _ member
  have name := string_text (Nat.le_of_lt count) inside (front (HostifField.intfName, padded doc.hostifs[index].intfName
    constMaxPortNameLen) (by simp [HostifDoc.frontStores])) rfl (by decide) (by decide) (by decide)
  have ip := string_text (Nat.le_of_lt count) inside (front (HostifField.ipAddr, padded doc.hostifs[index].ip
    constIpv4AddrLen) (by simp [HostifDoc.frontStores])) rfl (by decide) (by decide) (by decide)
  have gwIp := string_text (Nat.le_of_lt count) inside (front (HostifField.gwIpAddr, padded doc.hostifs[index].gwIp
    constIpv4AddrLen) (by simp [HostifDoc.frontStores])) rfl (by decide) (by decide) (by decide)
  have mask := load16_number inside (front (HostifField.netMaskLen,
    littleEndian (doc.hostifs[index].netMaskLen.setWidth 32)) (by simp [HostifDoc.frontStores])) rfl
  have macStr : (HostifField.macStr, padded doc.hostifs[index].mac constMacAddrLen) ∈
      doc.hostifs[index].stores := by simp [HostifDoc.stores]
  have mac := string_text (Nat.le_of_lt count) inside macStr rfl (by decide) (by decide) (by decide)
  have length : doc.hostifs[index].parsedMac.2.length = 6 := by
    rw [HostifDoc.parsedMac, etherAton_length, List.length_replicate]
  have octets := read_number inside (show (HostifField.mac, doc.hostifs[index].parsedMac.2) ∈
    doc.hostifs[index].stores by simp [HostifDoc.stores]) (by rw [length]; decide)
  rw [List.take_of_length_le (by rw [length]; decide)] at octets
  have fpPort := load16_number inside (show (HostifField.fpPort,
    littleEndian (doc.hostifs[index].fpPort.setWidth 32)) ∈ doc.hostifs[index].stores by
      simp [HostifDoc.stores]) rfl
  constructor
  · intro stored
    have read := stored.netMaskLen
    have port := stored.fpPort
    rw [mask, cut_eq_iff _ _ (by decide)] at read
    rw [fpPort, cut_eq_iff _ _ (by decide)] at port
    exact {
      intfName := (cut_text_iff _ _).mp (name.symm.trans stored.intfName)
      ip := (cut_text_iff _ _).mp (ip.symm.trans stored.ip)
      netMaskLen := read
      gwIp := (cut_text_iff _ _).mp (gwIp.symm.trans stored.gwIp)
      ip6 := fun text prefixLen enabled => (ip6_storedAt_iff count inside enabled).mp stored.ip6
      mac := ⟨(cut_text_iff _ _).mp (mac.symm.trans stored.macStr), by rw [stored.mac]; rfl⟩
      fpPort := port }
  · intro fits
    have whole := (cut_text_iff doc.hostifs[index].mac constMacAddrLen).mpr fits.mac.1
    obtain ⟨named, six⟩ := Option.isSome_iff_exists.mp fits.mac.2
    exact {
      intfName := name.trans ((cut_text_iff _ _).mpr fits.intfName)
      ip := ip.trans ((cut_text_iff _ _).mpr fits.ip)
      netMaskLen := by rw [mask, cut_eq_iff _ _ (by decide)]; exact fits.netMaskLen
      gwIp := gwIp.trans ((cut_text_iff _ _).mpr fits.gwIp)
      ip6 := by
        cases disabled : doc.hostifs[index].ip6 with
        | none => exact ip6_disabled count inside disabled fits.netMaskLen
        | some address => exact (ip6_storedAt_iff count inside disabled).mpr (fits.ip6 _ _ disabled)
      macStr := mac.trans whole
      mac := by
        rw [octets, six, HostifDoc.parsedMac, whole, etherAton_of_format six]
      fpPort := by rw [fpPort, cut_eq_iff _ _ (by decide)]; exact fits.fpPort }

/-- A number of the gateway is read back. -/
theorem read_front (count : doc.hostifs.length < hostifsSize) {field : Field} {word : BitVec 32}
    (member : (field, littleEndian word) ∈ frontStores doc.higw doc.redirect doc.hostifs.length)
    (size : field.size ≤ 4) :
    (ConfigState.initial.stores doc.stores).read field = (littleEndian word).take field.size :=
  ConfigState.initial.read_of_mem (stores_ordered count) (List.mem_append_left _ member)
    (by rw [littleEndian_length]; exact size)

/-- A number of two bytes of the gateway is read back as far as its field goes. -/
theorem load16_front (count : doc.hostifs.length < hostifsSize) (field : Field) (value : BitVec 64)
    (member : (field, littleEndian (value.setWidth 32)) ∈ frontStores doc.higw doc.redirect doc.hostifs.length)
    (size : field.size = 2) :
    (ConfigState.initial.stores doc.stores).load16 field = value.setWidth 16 := by
  have read := read_front count member (by omega)
  rw [size] at read
  rw [load16_of_read size read, BitVec.setWidth_setWidth_of_le _ (by decide)]

/-- A number of four bytes of the gateway is read back. -/
theorem load32_front (count : doc.hostifs.length < hostifsSize) (field : Field) (word : BitVec 32)
    (member : (field, littleEndian word) ∈ frontStores doc.higw doc.redirect doc.hostifs.length)
    (size : field.size = 4) : (ConfigState.initial.stores doc.stores).load32 field = word := by
  have read := read_front count member (by omega)
  rw [size] at read
  exact load32_of_read size read

/-- The stores of the last interface come last. -/
theorem hostifStoresFrom_append (start : Nat) (first second : List HostifDoc) :
    hostifStoresFrom start (first ++ second) =
      hostifStoresFrom start first ++ hostifStoresFrom (start + first.length) second := by
  induction first generalizing start with
  | nil => rfl
  | cons doc rest ih =>
      rw [List.cons_append, hostifStoresFrom, hostifStoresFrom, ih, List.append_assoc, List.length_cons,
        Nat.add_assoc, Nat.add_comm 1]

/-- With a full array the last port overwrites the number of interfaces. -/
theorem not_faithful_of_full (full : doc.hostifs.length = hostifsSize) :
    ¬ doc.Faithful (ConfigState.initial.stores doc.stores) := by
  intro faithful
  obtain ⟨higw, redirect, hostifs⟩ := doc
  rcases List.eq_nil_or_concat' hostifs with rfl | ⟨rest, last, rfl⟩
  · contradiction
  have index : rest.length = 127 := by
    have length : rest.length + 1 = hostifsSize := by simpa using full
    exact Nat.succ.inj length
  have port := (faithful.hostifs rest.length (by simp)).fpPort
  have number := faithful.hostifNum
  have final : ConfigState.initial.stores (ConfigDoc.stores ⟨higw, redirect, rest ++ [last]⟩) =
      (ConfigState.initial.stores (frontStores higw redirect (rest ++ [last]).length ++ hostifStoresFrom 0 rest ++
        ((last.frontStores ++ [(HostifField.macStr, padded last.mac constMacAddrLen),
          (HostifField.mac, last.parsedMac.2)]).map (Store.ofHostif rest.length)))).store
            (HostifField.fpPort.ofHostif rest.length) (littleEndian (last.fpPort.setWidth 32)) := by
    have parts : ConfigDoc.stores ⟨higw, redirect, rest ++ [last]⟩ =
        (frontStores higw redirect (rest ++ [last]).length ++ hostifStoresFrom 0 rest ++
          ((last.frontStores ++ [(HostifField.macStr, padded last.mac constMacAddrLen),
            (HostifField.mac, last.parsedMac.2)]).map (Store.ofHostif rest.length))) ++
          [(HostifField.fpPort.ofHostif rest.length, littleEndian (last.fpPort.setWidth 32))] := by
      simp [ConfigDoc.stores, hostifStoresFrom_append, hostifStoresFrom, HostifDoc.stores, Store.ofHostif]
    rw [parts, ConfigState.stores_append]
    rfl
  generalize ConfigState.initial.stores (frontStores higw redirect (rest ++ [last]).length ++
    hostifStoresFrom 0 rest ++ ((last.frontStores ++ [(HostifField.macStr, padded last.mac constMacAddrLen),
      (HostifField.mac, last.parsedMac.2)]).map (Store.ofHostif rest.length))) = s at final
  rw [final] at port number
  rw [load16_store, BitVec.setWidth_setWidth_of_le _ (by decide)] at port
  dsimp only at port number
  simp only [List.getElem_concat_length] at port
  have range := (cut_eq_iff _ _ (by decide)).mp port
  -- The third byte of the port is the first byte of the number of interfaces.
  have byte := Memory.write_inside s.memory (HostifField.fpPort.ofHostif rest.length).offset
    (littleEndian (last.fpPort.setWidth 32)) 2 (by simp)
  have zero : (s.store (HostifField.fpPort.ofHostif rest.length)
      (littleEndian (last.fpPort.setWidth 32))).memory ConfigField.hostifNum.offset = 0 := by
    refine Eq.trans ?_ (byte.trans (highByte_zero range.1 range.2))
    rw [index]
    rfl
  have word := congrArg (BitVec.setWidth 8) (BitVec.eq_of_toInt_eq (number.trans
    (show ((rest ++ [last]).length : Int) = (128 : BitVec 32).toInt by
      rw [List.length_append, index]
      rfl)))
  change BitVec.setWidth 8 (_ ++ _) = _ at word
  rw [BitVec.setWidth_append, dif_pos (by decide), zero] at word
  exact absurd word (by decide)

end ConfigDoc

/-- An accepted document is in memory as it is in the file exactly when it fits. -/
theorem faithful_iff {root : Json} {s : ConfigState} (accepted : switchConfigInit root = .ok s) :
    ∃ doc, root.config = some doc ∧ (doc.Faithful s ↔ doc.Fits) := by
  obtain ⟨doc, read, gateway, range, some, room, _, rfl⟩ := switchConfigInit_stores accepted
  refine ⟨doc, read, ?_⟩
  by_cases count : doc.hostifs.length < hostifsSize
  · have speed := doc.load16_front count ConfigField.portSpeed doc.higw.portSpeed
      (by simp [frontStores, HigwDoc.stores]) rfl
    have hardware := doc.load16_front count ConfigField.hardwareModel doc.higw.hardware
      (by simp [frontStores, HigwDoc.stores]) rfl
    have fec := doc.load16_front count ConfigField.fecModel doc.higw.fec
      (by simp [frontStores, HigwDoc.stores]) rfl
    have prefixLen := doc.load32_front count ConfigField.dlIpPrefixLen (doc.redirect.prefixLen.setWidth 32)
      (by simp [frontStores, RedirectDoc.stores]) rfl
    have number := doc.load32_front count ConfigField.hostifNum (BitVec.ofNat 32 doc.hostifs.length)
      (by simp [frontStores]) rfl
    constructor
    · intro faithful
      have speeds := faithful.portSpeed.1
      have models := faithful.hardware.1
      have modes := faithful.fec.1
      have lengths := faithful.prefixLen.1
      rw [speed] at speeds
      rw [hardware] at models
      rw [fec] at modes
      rw [prefixLen] at lengths
      exact {
        count := count
        hostifs := by
          intro hostif member
          obtain ⟨index, inside, rfl⟩ := List.getElem_of_mem member
          exact (doc.storedAt_iff count inside).mp (faithful.hostifs index inside)
        portSpeed := (cut_eq_iff _ _ (by decide)).mp speeds
        hardware := (cut_eq_iff _ _ (by decide)).mp models
        fec := (cut_eq_iff _ _ (by decide)).mp modes
        prefixLen := (cut_eq_iff _ _ (by decide)).mp lengths }
    · intro fits
      have speeds := (cut_eq_iff doc.higw.portSpeed 16 (by decide)).mpr fits.portSpeed
      have models := (cut_eq_iff doc.higw.hardware 16 (by decide)).mpr fits.hardware
      have modes := (cut_eq_iff doc.higw.fec 16 (by decide)).mpr fits.fec
      have lengths := (cut_eq_iff doc.redirect.prefixLen 32 (by decide)).mpr fits.prefixLen
      exact {
        hostifNum := by
          rw [number, BitVec.toInt_eq_toNat_cond, BitVec.toNat_ofNat]
          dsimp only [hostifsSize] at count
          rw [Nat.mod_eq_of_lt (by omega), if_pos (by omega)]
        hostifs := fun index inside =>
          (doc.storedAt_iff count inside).mpr (fits.hostifs _ (List.getElem_mem inside))
        portSpeed := by
          rw [speed]
          refine ⟨speeds, ?_⟩
          rcases gateway.portSpeed with same | same <;> rw [← speeds, same]
          · exact .inl rfl
          · exact .inr rfl
        hardware := by
          rw [hardware]
          refine ⟨models, ?_⟩
          rcases gateway.hardware with same | same <;> rw [← models, same]
          · exact .inl rfl
          · exact .inr rfl
        fec := by
          rw [fec]
          refine ⟨modes, ?_⟩
          have listed := gateway.fec
          simp only [fecModes, List.mem_cons, List.not_mem_nil, or_false] at listed
          rcases listed with same | same | same <;> rw [← modes, same]
          · exact .inl rfl
          · exact .inr (.inl rfl)
          · exact .inr (.inr rfl)
        prefixLen := by
          rw [prefixLen]
          have least := BitVec.le_def.mp range.1
          have most := BitVec.le_def.mp range.2
          change 24 ≤ _ at least
          change _ ≤ 32 at most
          omega
        kept := ConfigState.kept_stores ConfigState.kept_initial (by simp [ConfigState.initial])
          (doc.stores_ordered count) }
  · have full : doc.hostifs.length = hostifsSize := by omega
    exact ⟨fun faithful => absurd faithful (doc.not_faithful_of_full full), fun fits => absurd fits.count count⟩

/-! Two documents -/

def ascii (text : String) : List Byte := text.toList.map fun letter => BitVec.ofNat 8 letter.toNat

/-- One interface of the sample file -/
def sampleHostif : Json := .object [
  ("intf_name", .string ⟨ascii "Ethernet17", by decide⟩),
  ("ip", .string ⟨ascii "100.125.50.8", by decide⟩),
  ("net_mask_len", .integer 31),
  ("gw_ip", .string ⟨ascii "100.125.50.9", by decide⟩),
  ("mac", .string ⟨ascii "00:0c:0c:0c:82:01", by decide⟩),
  ("fp_port", .integer 17)]

def sampleVip : Text := ⟨ascii "10.226.190.241", by decide⟩

/-- A file with a backup address and with interfaces -/
def sampleFile (backup : Text) (hostifs : List Json) : Json := .object [
  ("higw", .object [
    ("mgt_ip", .string ⟨ascii "10.226.190.238", by decide⟩),
    ("vip", .string sampleVip),
    ("shared_bandwith_vip", .string sampleVip),
    ("backup_vip", .string backup),
    ("port_speed", .integer 40), ("Hardware", .integer 1), ("FEC", .integer 2)]),
  ("RedirectIP", .object [
    ("addr_prefix", .string ⟨ascii "10.226.190.128", by decide⟩), ("prefix_len", .integer 26)]),
  ("hostifs", .array hostifs)]

/-- The sample file with so many interfaces -/
def sampleConfig (count : Nat) : Json :=
  sampleFile ⟨ascii "10.226.190.240", by decide⟩ (List.replicate count sampleHostif)

/-- The sample file with one interface is accepted. -/
theorem faithful_iff_sample : ∃ s doc, switchConfigInit (sampleConfig 1) = .ok s ∧
    (sampleConfig 1).config = some doc ∧ (doc.Faithful s ↔ doc.Fits) := by
  have accepted : ((switchConfigInit (sampleConfig 1)).toOption).isSome = true := by decide +kernel
  cases result : switchConfigInit (sampleConfig 1) with
  | error failure =>
      rw [result] at accepted
      contradiction
  | ok s =>
      obtain ⟨doc, read, same⟩ := faithful_iff result
      exact ⟨s, doc, rfl, read, same⟩

/-- A file with a full array of valid interfaces is accepted, and the number of interfaces in memory is zero. -/
theorem not_faithful_sample : ∃ s doc, switchConfigInit (sampleConfig 128) = .ok s ∧
    (sampleConfig 128).config = some doc ∧ doc.hostifs.length = 128 ∧
    s.load32 ConfigField.hostifNum = 0 ∧ ¬ doc.Faithful s := by
  have stored : ((switchConfigInit (sampleConfig 128)).toOption.map (·.load32 ConfigField.hostifNum)) = some 0 := by
    decide +kernel
  have length : (sampleConfig 128).config.map (·.hostifs.length) = some 128 := by decide +kernel
  obtain ⟨doc, read, count⟩ := Option.map_eq_some_iff.mp length
  cases result : switchConfigInit (sampleConfig 128) with
  | error failure =>
      rw [result] at stored
      exact absurd stored.symm (Option.some_ne_none _)
  | ok s =>
      rw [result] at stored
      have zero : s.load32 ConfigField.hostifNum = 0 := Option.some.inj stored
      refine ⟨s, doc, rfl, read, count, zero, fun faithful => ?_⟩
      have number := faithful.hostifNum
      rw [zero, count] at number
      exact absurd number (by decide)

end IgwP4.Setup

/-
This file shows for which documents the configuration in memory equals the document.
-/

import IgwP4.Proof.Setup.ConfigStores

namespace IgwP4.Setup
open Netlink

/-! The document as the code reads it -/

def Json.text (json : Json) (fieldName : String) : Option Text :=
  match json.get fieldName with
  | some (.string text) => some text
  | _ => none

def Json.number (json : Json) (fieldName : String) : Option (BitVec 64) :=
  match json.get fieldName with
  | some (.integer value) => some value
  | _ => none

/-- What the document says of one interface -/
structure HostifDoc where
  intfName : Text
  ip : Text
  netMaskLen : BitVec 64
  gwIp : Text
  ip6 : Option (Text × BitVec 64)
  mac : Text
  fpPort : BitVec 64

def Json.hostifIp6 (item : Json) : Option (Option (Text × BitVec 64)) :=
  match item.get "ip6" with
  | none => some none
  | some (.string text) => (item.number "ip6_prefix_len").map fun prefixLen => some (text, prefixLen)
  | some _ => none

def Json.hostif (item : Json) : Option HostifDoc := do
  return ⟨← item.text "intf_name", ← item.text "ip", ← item.number "net_mask_len", ← item.text "gw_ip",
    ← item.hostifIp6, ← item.text "mac", ← item.number "fp_port"⟩

theorem ok_of_bind {α β ε : Type} {x : Except ε α} {f : α → Except ε β} {result : β}
    (ok : (x >>= f) = .ok result) : ∃ value, x = .ok value ∧ f value = .ok result := by
  cases x with
  | error failure => contradiction
  | ok value => exact ⟨value, rfl, ok⟩

theorem text_of_ok {json : Json} {fieldName : String} {text : Text}
    (ok : (getFieldOfString json fieldName true).required = .ok text) :
    json.text fieldName = some text := by
  unfold getFieldOfString at ok
  unfold Json.text
  split at ok
  · contradiction
  · obtain rfl := Except.ok.inj ok
    rename_i found
    rw [found]
  · contradiction

theorem number_of_ok {json : Json} {fieldName : String} {value : BitVec 32}
    (ok : (getFieldOfInt json fieldName true).required = .ok value) :
    ∃ whole, json.number fieldName = some whole ∧ whole.setWidth 32 = value := by
  unfold getFieldOfInt at ok
  unfold Json.number
  split at ok
  · contradiction
  · rename_i whole found
    rw [found]
    exact ⟨whole, rfl, Except.ok.inj ok⟩
  · contradiction

theorem accept_of_ok {condition : Prop} [Decidable condition] {result : Unit}
    (ok : accept condition = .ok result) : condition := by
  unfold accept at ok
  split at ok
  · assumption
  · contradiction

/-! The stores of one interface -/

/-- What `strncpy` writes -/
def padded (text : Text) (size : Nat) : List Byte := (text.bytes ++ List.replicate size 0).take size

@[simp] theorem padded_length (text : Text) (size : Nat) : (padded text size).length = size := by
  simp [padded]

@[simp] theorem littleEndian_length (word : BitVec 32) : (littleEndian word).length = 4 := rfl

/-- A text in its array ends where the text or the array ends. -/
theorem padded_string (text : Text) (size : Nat) :
    (padded text size ++ [0]).takeWhile (· != 0) = text.bytes.take size := by
  have visible : ∀ byte ∈ text.bytes.take size, (byte != 0) = true := by
    intro byte member
    have inside := List.mem_of_mem_take member
    rw [bne_iff_ne]
    rintro rfl
    exact text.nonzero inside
  rw [padded, List.take_append, List.append_assoc, List.takeWhile_append_of_pos visible]
  simp [List.take_replicate, ← List.replicate_succ']

/-- The length of the array of octets does not change. -/
theorem storeOctets_length (groups : List Nat) (count : Nat) (macAddr : List Byte) :
    (storeOctets groups count macAddr).2.length = macAddr.length := by
  induction count generalizing macAddr with
  | zero => rfl
  | succ count ih =>
      unfold storeOctets
      split
      · rfl
      · rw [ih, List.length_set]

theorem etherAton_length (text macAddr : List Byte) : (etherAton text macAddr).2.length = macAddr.length := by
  unfold etherAton
  split
  · rfl
  · split
    · exact storeOctets_length _ _ _
    · rfl

namespace HostifDoc

/-- What `ether_aton` does with the text in its array -/
def parsedMac (doc : HostifDoc) : Bool × List Byte :=
  etherAton (doc.mac.bytes.take constMacAddrLen) (List.replicate 6 0)

def ip6Stores : Option (Text × BitVec 64) → List Store
  | none => []
  | some (text, prefixLen) => [
      (HostifField.ip6Addr, padded text constIpv6AddrLen),
      (HostifField.ip6PrefixLen, littleEndian (prefixLen.setWidth 32)),
      (HostifField.ipv6Enable, [1])]

/-- The stores in front of the MAC address -/
def frontStores (doc : HostifDoc) : List Store := [
  (HostifField.intfName, padded doc.intfName constMaxPortNameLen),
  (HostifField.ipAddr, padded doc.ip constIpv4AddrLen),
  (HostifField.netMaskLen, littleEndian (doc.netMaskLen.setWidth 32)),
  (HostifField.gwIpAddr, padded doc.gwIp constIpv4AddrLen)] ++ ip6Stores doc.ip6

/-- All stores, as they are for the first interface -/
def stores (doc : HostifDoc) : List Store := doc.frontStores ++ [
  (HostifField.macStr, padded doc.mac constMacAddrLen),
  (HostifField.mac, doc.parsedMac.2),
  (HostifField.fpPort, littleEndian (doc.fpPort.setWidth 32))]

/-- The shapes of these stores depend only on whether there is an IPv6 address. -/
def frontShapes (enabled : Bool) : List Shape :=
  [(HostifField.intfName, 15), (HostifField.ipAddr, 16), (HostifField.netMaskLen, 4), (HostifField.gwIpAddr, 16)] ++
    if enabled then
      [(HostifField.ip6Addr, 128), (HostifField.ip6PrefixLen, 4), (HostifField.ipv6Enable, 1)]
    else []

def shapes (enabled : Bool) : List Shape :=
  frontShapes enabled ++ [(HostifField.macStr, 32), (HostifField.mac, 6), (HostifField.fpPort, 4)]

theorem frontStores_shapes (doc : HostifDoc) :
    doc.frontStores.map Store.shape = frontShapes doc.ip6.isSome := by
  unfold frontStores frontShapes
  cases doc.ip6 <;> simp [Store.shape, ip6Stores]

theorem stores_shapes (doc : HostifDoc) : doc.stores.map Store.shape = shapes doc.ip6.isSome := by
  have octets : doc.parsedMac.2.length = 6 := by
    rw [parsedMac, etherAton_length, List.length_replicate]
  rw [stores, List.map_append, frontStores_shapes, shapes]
  simp [Store.shape, octets]

theorem frontShapes_end (enabled : Bool) : ∀ shape ∈ frontShapes enabled, shape.1.offset + shape.2 ≤ 215 := by
  cases enabled <;> decide

end HostifDoc

/-- A store of the first interface, moved to another -/
def Store.ofHostif (index : Nat) (store : Store) : Store := (store.1.ofHostif index, store.2)

namespace ConfigState

/-- Behind the first two bytes of this interface no store has touched the array yet. -/
def Blank (s : ConfigState) (index : Nat) : Prop :=
  ∀ location, index * hostifSize + 2 ≤ location → location < hostifsSize * hostifSize →
    s.memory location = 0

/-- The first bytes of a blank interface may be touched, and all others are zero. -/
theorem Blank.memory {s : ConfigState} {index : Nat} (blank : s.Blank index) (inside : index < hostifsSize)
    {offset : Nat} (behind : 2 ≤ offset) (within : offset < hostifSize) :
    s.memory (index * hostifSize + offset) = 0 :=
  blank _ (by omega) (by dsimp only [hostifsSize, hostifSize] at *; omega)

end ConfigState

theorem setHostifIp6_stores {index : Nat} {item : Json} {s s' : ConfigState}
    (ok : setHostifIp6 index item s = .ok s') : ∃ ip6, item.hostifIp6 = some ip6 ∧
      s' = s.stores ((HostifDoc.ip6Stores ip6).map (Store.ofHostif index)) := by
  unfold setHostifIp6 getFieldOfString at ok
  unfold Json.hostifIp6
  cases found : item.get "ip6" with
  | none =>
      rw [found] at ok
      exact ⟨none, rfl, (Except.ok.inj ok).symm⟩
  | some value =>
      rw [found] at ok
      cases value with
      | string text =>
          obtain ⟨prefixLen, read, ok⟩ := ok_of_bind ok
          obtain ⟨whole, number, rfl⟩ := number_of_ok read
          refine ⟨some (text, whole), ?_, (Except.ok.inj ok).symm⟩
          rw [number]
          rfl
      | _ => contradiction

theorem setHostifMac_stores {index : Nat} {text : Text} {s s' : ConfigState}
    (blank : ∀ offset, 215 ≤ offset → offset < 222 → s.memory (index * hostifSize + offset) = 0)
    (ok : setHostifMac index text s = .ok s') :
    let parsed := etherAton (text.bytes.take constMacAddrLen) (List.replicate 6 0)
    parsed.1 = true ∧ s' = s.stores ([(HostifField.macStr, padded text constMacAddrLen),
      (HostifField.mac, parsed.2)].map (Store.ofHostif index)) := by
  have string : (s.strncpy (HostifField.macStr.ofHostif index) text constMacAddrLen).string
      (HostifField.macStr.ofHostif index) = text.bytes.take constMacAddrLen := by
    have read := s.read_store_text (HostifField.macStr.ofHostif index) (padded text constMacAddrLen) (by rw [padded_length]; rfl) (by
        rw [padded_length]
        exact blank 215 (by omega) (by omega))
    exact (congrArg (List.takeWhile (· != 0)) read).trans (padded_string text constMacAddrLen)
  have octets : (s.strncpy (HostifField.macStr.ofHostif index) text constMacAddrLen).memory.read
      (HostifField.mac.ofHostif index).offset (HostifField.mac.ofHostif index).size = List.replicate 6 0 := by
    have apart : (HostifField.mac.ofHostif index).Apart
        (HostifField.macStr.ofHostif index, padded text constMacAddrLen) := by
      left
      change (index * hostifSize + 183) + (padded text constMacAddrLen).length ≤ index * hostifSize + 216
      rw [padded_length]
      dsimp only [constMacAddrLen]
      omega
    refine (Memory.read_write_apart s.memory apart).trans (Memory.read_zero fun offset inside => ?_)
    change s.memory (index * hostifSize + 216 + offset) = 0
    rw [Nat.add_assoc]
    exact blank _ (by omega) (by change offset < 6 at inside; omega)
  unfold setHostifMac at ok
  dsimp only at ok
  rw [string, octets] at ok
  split at ok
  · rename_i parsed
    exact ⟨parsed, (Except.ok.inj ok).symm⟩
  · contradiction

/-- An interface is read into its own stores. -/
theorem switchConfigSetHostif_stores {index : Nat} {item : Json} {s s' : ConfigState}
    (inside : index < hostifsSize) (blank : s.Blank index) (ok : switchConfigSetHostif index item s = .ok s') :
    ∃ doc, item.hostif = some doc ∧ doc.parsedMac.1 = true ∧
      s' = s.stores (doc.stores.map (Store.ofHostif index)) := by
  unfold switchConfigSetHostif at ok
  obtain ⟨intfName, read, ok⟩ := ok_of_bind ok
  have name := text_of_ok read
  obtain ⟨ip, read, ok⟩ := ok_of_bind ok
  have address := text_of_ok read
  obtain ⟨_, read, ok⟩ := ok_of_bind ok
  obtain ⟨netMaskLen, mask, rfl⟩ := number_of_ok read
  obtain ⟨gwIp, read, ok⟩ := ok_of_bind ok
  have gateway := text_of_ok read
  obtain ⟨s5, six, ok⟩ := ok_of_bind ok
  obtain ⟨ip6, found, rfl⟩ := setHostifIp6_stores six
  obtain ⟨mac, read, ok⟩ := ok_of_bind ok
  have hardware := text_of_ok read
  obtain ⟨s6, octets, ok⟩ := ok_of_bind ok
  obtain ⟨_, read, ok⟩ := ok_of_bind ok
  obtain ⟨fpPort, port, rfl⟩ := number_of_ok read
  let doc : HostifDoc := ⟨intfName, ip, netMaskLen, gwIp, ip6, mac, fpPort⟩
  have untouched : ∀ offset, 215 ≤ offset → offset < 222 →
      (s.stores (doc.frontStores.map (Store.ofHostif index))).memory (index * hostifSize + offset) = 0 := by
    intro offset low high
    rw [ConfigState.memory_stores_outside]
    · exact blank.memory inside (by omega) (by dsimp only [hostifSize]; omega)
    · intro store member
      obtain ⟨relative, among, rfl⟩ := List.mem_map.mp member
      have shape : Store.shape relative ∈ HostifDoc.frontShapes doc.ip6.isSome :=
        doc.frontStores_shapes ▸ List.mem_map_of_mem among
      have ends := HostifDoc.frontShapes_end _ _ shape
      right
      change index * hostifSize + relative.1.offset + relative.2.length ≤ index * hostifSize + offset
      change relative.1.offset + relative.2.length ≤ 215 at ends
      omega
  obtain ⟨parsed, rfl⟩ := setHostifMac_stores untouched octets
  refine ⟨doc, ?_, parsed, ?_⟩
  · simp only [Json.hostif, name, address, mask, gateway, found, hardware, port]
    rfl
  · rw [← Except.ok.inj ok, HostifDoc.stores, List.map_append, ConfigState.stores_append]
    rfl

/-! The stores of all interfaces -/

/-- The stores of the interfaces from one index on -/
def hostifStoresFrom (index : Nat) : List HostifDoc → List Store
  | [] => []
  | doc :: rest => doc.stores.map (Store.ofHostif index) ++ hostifStoresFrom (index + 1) rest

theorem HostifDoc.shapes_range (enabled : Bool) : ∀ shape ∈ shapes enabled,
    shape.1.offset + shape.1.size ≤ hostifSize ∧ shape.1.offset + shape.2 ≤ hostifSize + 2 := by
  cases enabled <;> decide

/-- An interface stores into its own part of the array and into two bytes of the next. -/
theorem ofHostif_range (doc : HostifDoc) (index : Nat) :
    ∀ store ∈ doc.stores.map (Store.ofHostif index), index * hostifSize ≤ store.1.offset ∧
      store.1.offset + store.1.size ≤ (index + 1) * hostifSize ∧
      store.1.offset + store.2.length ≤ (index + 1) * hostifSize + 2 := by
  intro store member
  obtain ⟨relative, among, rfl⟩ := List.mem_map.mp member
  have shape : Store.shape relative ∈ HostifDoc.shapes doc.ip6.isSome :=
    doc.stores_shapes ▸ List.mem_map_of_mem among
  obtain ⟨fields, bytes⟩ := HostifDoc.shapes_range _ _ shape
  change relative.1.offset + relative.1.size ≤ hostifSize at fields
  change relative.1.offset + relative.2.length ≤ hostifSize + 2 at bytes
  change index * hostifSize ≤ index * hostifSize + relative.1.offset ∧
    index * hostifSize + relative.1.offset + relative.1.size ≤ (index + 1) * hostifSize ∧
    index * hostifSize + relative.1.offset + relative.2.length ≤ (index + 1) * hostifSize + 2
  dsimp only [hostifSize] at *
  omega

/-- The next interface is blank when this one has been stored. -/
theorem ConfigState.Blank.next {s : ConfigState} {index : Nat} (blank : s.Blank index) (doc : HostifDoc) :
    (s.stores (doc.stores.map (Store.ofHostif index))).Blank (index + 1) := by
  intro location low high
  rw [ConfigState.memory_stores_outside]
  · exact blank location (by dsimp only [hostifSize] at *; omega) high
  · intro store member
    have range := ofHostif_range doc index store member
    omega

theorem setHostifsFrom_stores {index : Nat} {items : List Json} {s s' : ConfigState}
    (inside : index + items.length ≤ hostifsSize) (blank : s.Blank index)
    (ok : setHostifsFrom index items s = .ok s') : ∃ docs, items.mapM Json.hostif = some docs ∧
      docs.length = items.length ∧ (∀ doc ∈ docs, doc.parsedMac.1 = true) ∧
      s' = s.stores (hostifStoresFrom index docs) := by
  induction items generalizing index s with
  | nil => exact ⟨[], rfl, rfl, by simp, (Except.ok.inj ok).symm⟩
  | cons item rest ih =>
      rw [List.length_cons] at inside
      obtain ⟨_, first, ok⟩ := ok_of_bind ok
      obtain ⟨doc, found, parsed, rfl⟩ := switchConfigSetHostif_stores (by omega) blank first
      obtain ⟨docs, others, count, parsedOthers, rfl⟩ := ih (by omega) (blank.next doc) ok
      refine ⟨doc :: docs, ?_, congrArg (· + 1) count, ?_, ?_⟩
      · rw [List.mapM_cons, found, others]
        rfl
      · intro other member
        rcases List.mem_cons.mp member with rfl | later
        · exact parsed
        · exact parsedOthers other later
      · rw [hostifStoresFrom, ConfigState.stores_append]

/-- The interfaces from one index on store behind its start. -/
theorem hostifStoresFrom_range (index : Nat) (docs : List HostifDoc) :
    ∀ store ∈ hostifStoresFrom index docs, index * hostifSize ≤ store.1.offset ∧
      store.1.offset + store.1.size ≤ (index + docs.length) * hostifSize ∧
      store.1.offset + store.2.length ≤ (index + docs.length) * hostifSize + 2 := by
  induction docs generalizing index with
  | nil => simp [hostifStoresFrom]
  | cons doc rest ih =>
      intro store member
      rw [List.length_cons]
      rcases List.mem_append.mp member with own | later
      · have range := ofHostif_range doc index store own
        dsimp only [hostifSize] at *
        omega
      · have range := ih (index + 1) store later
        dsimp only [hostifSize] at *
        omega

theorem HostifDoc.shapes_ordered (enabled : Bool) :
    (shapes enabled).Pairwise fun earlier later => earlier.1.Clear later := by
  cases enabled <;> decide

/-- Stores of one interface keep their distance when they are moved. -/
theorem apart_ofHostif (index : Nat) {field : Field} {store : Store} (apart : field.Apart store) :
    (field.ofHostif index).Apart (Store.ofHostif index store) := by
  change store.1.offset + store.2.length ≤ field.offset ∨
    field.offset + field.size ≤ store.1.offset at apart
  change index * hostifSize + store.1.offset + store.2.length ≤ index * hostifSize + field.offset ∨
    index * hostifSize + field.offset + field.size ≤ index * hostifSize + store.1.offset
  omega

/-- No interface stores into a field that it or an interface before it has stored. -/
theorem hostifStoresFrom_ordered (index : Nat) (docs : List HostifDoc) :
    Ordered (hostifStoresFrom index docs) := by
  induction docs generalizing index with
  | nil => exact .nil
  | cons doc rest ih =>
      refine List.pairwise_append.mpr ⟨?_, ih (index + 1), ?_⟩
      · have own := ordered_of_shapes doc.stores_shapes (HostifDoc.shapes_ordered _)
        exact List.pairwise_map.mpr (own.imp fun apart => apart_ofHostif index apart)
      · intro earlier own later behind
        have first := ofHostif_range doc index earlier own
        have second := hostifStoresFrom_range (index + 1) rest later behind
        right
        exact first.2.1.trans second.1

/-! The stores of the whole document -/

/-- What the document says of the gateway -/
structure HigwDoc where
  mgtIp : Text
  vip : Text
  sharedBwVip : Text
  backupVip : Option Text
  portSpeed : BitVec 64
  hardware : BitVec 64
  fec : BitVec 64

/-- What the document says of the addresses for redirection -/
structure RedirectDoc where
  addrPrefix : Text
  prefixLen : BitVec 64

structure ConfigDoc where
  higw : HigwDoc
  redirect : RedirectDoc
  hostifs : List HostifDoc

def Json.higw (root : Json) : Option HigwDoc := do
  let higw ← root.get "higw"
  return ⟨← higw.text "mgt_ip", ← higw.text "vip", ← higw.text "shared_bandwith_vip", higw.text "backup_vip",
    ← higw.number "port_speed", ← higw.number "Hardware", ← higw.number "FEC"⟩

def Json.redirectIp (root : Json) : Option RedirectDoc := do
  let redirect ← root.get "RedirectIP"
  return ⟨← redirect.text "addr_prefix", ← redirect.number "prefix_len"⟩

def Json.hostifs (root : Json) : Option (List HostifDoc) :=
  match root.get "hostifs" with
  | some (.array items) => items.mapM Json.hostif
  | _ => none

def Json.config (root : Json) : Option ConfigDoc := do
  return ⟨← root.higw, ← root.redirectIp, ← root.hostifs⟩

/-- The address that a text field names -/
def Text.address (text : Text) : BitVec 32 := ipAtoi (text.bytes.take constIpv4AddrLen)

def addressStores (textField addressField : Field) (text : Text) : List Store := [
  (textField, padded text constIpv4AddrLen), (addressField, littleEndian text.address)]

def backupStores : Option Text → List Store
  | none => [(ConfigField.backupVip, littleEndian 0)]
  | some text => addressStores ConfigField.backupVipAddr ConfigField.backupVip text

def HigwDoc.addresses (doc : HigwDoc) : List Store :=
  addressStores ConfigField.mgtIpAddr ConfigField.mgtIp doc.mgtIp ++
    addressStores ConfigField.vipAddr ConfigField.vip doc.vip ++
    addressStores ConfigField.sharedBwVipAddr ConfigField.sharedBwVip doc.sharedBwVip

def HigwDoc.stores (doc : HigwDoc) : List Store :=
  doc.addresses ++ backupStores doc.backupVip ++ [
    (ConfigField.portSpeed, littleEndian (doc.portSpeed.setWidth 32)),
    (ConfigField.hardwareModel, littleEndian (doc.hardware.setWidth 32)),
    (ConfigField.fecModel, littleEndian (doc.fec.setWidth 32))]

def RedirectDoc.stores (doc : RedirectDoc) : List Store :=
  addressStores ConfigField.dlIpAddr ConfigField.dlIp doc.addrPrefix ++ [
    (ConfigField.dlIpPrefixLen, littleEndian (doc.prefixLen.setWidth 32))]

/-- The stores in front of the interfaces -/
def frontStores (higw : HigwDoc) (redirect : RedirectDoc) (count : Nat) : List Store :=
  higw.stores ++ redirect.stores ++ [(ConfigField.hostifNum, littleEndian (BitVec.ofNat 32 count))]

def ConfigDoc.stores (doc : ConfigDoc) : List Store :=
  frontStores doc.higw doc.redirect doc.hostifs.length ++ hostifStoresFrom 0 doc.hostifs

/-- The shapes depend only on whether there is a backup address. -/
def addressShapes (textField addressField : Field) : List Shape := [(textField, 16), (addressField, 4)]

theorem addressStores_shapes (textField addressField : Field) (text : Text) :
    (addressStores textField addressField text).map Store.shape = addressShapes textField addressField := by
  simp [addressStores, addressShapes, Store.shape]

def addressesShapes : List Shape :=
  addressShapes ConfigField.mgtIpAddr ConfigField.mgtIp ++ addressShapes ConfigField.vipAddr ConfigField.vip ++
    addressShapes ConfigField.sharedBwVipAddr ConfigField.sharedBwVip

def backupShapes (backup : Bool) : List Shape :=
  if backup then addressShapes ConfigField.backupVipAddr ConfigField.backupVip else [(ConfigField.backupVip, 4)]

def higwShapes (backup : Bool) : List Shape :=
  addressesShapes ++ backupShapes backup ++ [
    (ConfigField.portSpeed, 4), (ConfigField.hardwareModel, 4), (ConfigField.fecModel, 4)]

def frontShapes (backup : Bool) : List Shape :=
  higwShapes backup ++ (addressShapes ConfigField.dlIpAddr ConfigField.dlIp ++
    [(ConfigField.dlIpPrefixLen, 4)]) ++ [(ConfigField.hostifNum, 4)]

theorem HigwDoc.addresses_shapes (doc : HigwDoc) : doc.addresses.map Store.shape = addressesShapes := by
  simp [HigwDoc.addresses, addressesShapes, addressStores_shapes]

theorem backupStores_shapes (backup : Option Text) :
    (backupStores backup).map Store.shape = backupShapes backup.isSome := by
  cases backup with
  | none => simp [backupStores, backupShapes, Store.shape]
  | some text => exact addressStores_shapes _ _ text

theorem HigwDoc.stores_shapes (doc : HigwDoc) :
    doc.stores.map Store.shape = higwShapes doc.backupVip.isSome := by
  simp [HigwDoc.stores, higwShapes, HigwDoc.addresses_shapes, backupStores_shapes, Store.shape]

theorem frontStores_shapes (higw : HigwDoc) (redirect : RedirectDoc) (count : Nat) :
    (frontStores higw redirect count).map Store.shape = frontShapes higw.backupVip.isSome := by
  simp [frontStores, RedirectDoc.stores, frontShapes, HigwDoc.stores_shapes, addressStores_shapes,
    Store.shape]

/-- An address is stored as the text in its array and as what this text names. -/
theorem storeAddress_stores (textField addressField : Field) (text : Text) {s : ConfigState}
    (size : textField.size = constIpv4AddrLen + 1) (closed : s.memory (textField.offset + constIpv4AddrLen) = 0) :
    storeAddress textField addressField text s = s.stores (addressStores textField addressField text) := by
  have string : (s.strncpy textField text constIpv4AddrLen).string textField =
      text.bytes.take constIpv4AddrLen := by
    have read := s.read_store_text textField (padded text constIpv4AddrLen)
      (by rw [padded_length, size]) (by rw [padded_length, closed])
    exact (congrArg (List.takeWhile (· != 0)) read).trans (padded_string text constIpv4AddrLen)
  unfold storeAddress
  dsimp only
  rw [string]
  rfl

/-- A location that the shapes of the stores pass by is still zero. -/
theorem memory_of_shapes {list : List Store} {shapes : List Shape} (shaped : list.map Store.shape = shapes)
    {location : Nat}
    (outside : ∀ shape ∈ shapes, location < shape.1.offset ∨ shape.1.offset + shape.2 ≤ location) :
    (ConfigState.initial.stores list).memory location = 0 :=
  ConfigState.memory_stores_outside _ (outside_of_shapes shaped outside)

/-- The two low bytes of a word are its low half. -/
theorem lowBytes_append (word : BitVec 32) :
    (word.extractLsb' 8 8 ++ word.extractLsb' 0 8 : BitVec 16) = word.setWidth 16 := by
  apply BitVec.eq_of_getLsbD_eq
  intro index inside
  rw [BitVec.getLsbD_append, BitVec.getLsbD_extractLsb', BitVec.getLsbD_extractLsb', BitVec.getLsbD_setWidth]
  by_cases low : index < 8
  · simp [low, inside]
  · simp [low, inside, show index - 8 < 8 by omega, show 8 + (index - 8) = index by omega]

theorem load16_store (s : ConfigState) (field : Field) (word : BitVec 32) :
    (s.store field (littleEndian word)).load16 field = word.setWidth 16 := by
  have low := Memory.write_inside s.memory field.offset (littleEndian word) 0 (by simp)
  have high := Memory.write_inside s.memory field.offset (littleEndian word) 1 (by simp)
  change Memory.load16 (s.memory.write field.offset (littleEndian word)) field.offset = _
  rw [Memory.load16, high]
  rw [Nat.add_zero] at low
  rw [low]
  exact lowBytes_append word

/-- The four bytes of a word are the word. -/
theorem bytes_append (word : BitVec 32) : (word.extractLsb' 24 8 ++ word.extractLsb' 16 8 ++
    word.extractLsb' 8 8 ++ word.extractLsb' 0 8 : BitVec 32) = word := by
  rw [BitVec.extractLsb'_append_extractLsb'_eq_extractLsb' (by decide),
    BitVec.extractLsb'_append_extractLsb'_eq_extractLsb' (by decide),
    BitVec.extractLsb'_append_extractLsb'_eq_extractLsb' (by decide)]
  simp

theorem load32_store (s : ConfigState) (field : Field) (word : BitVec 32) :
    (s.store field (littleEndian word)).load32 field = word := by
  have byte (index : Nat) (inside : index < 4) :=
    Memory.write_inside s.memory field.offset (littleEndian word) index (by simpa using inside)
  change Memory.load32 (s.memory.write field.offset (littleEndian word)) field.offset = _
  have first := byte 0 (by omega)
  rw [Nat.add_zero] at first
  rw [Memory.load32, byte 3 (by omega), byte 2 (by omega), byte 1 (by omega), first]
  exact bytes_append word

/-- The checks of the source on the numbers of the gateway -/
structure HigwDoc.Accepted (doc : HigwDoc) : Prop where
  portSpeed : doc.portSpeed.setWidth 16 = 40 ∨ doc.portSpeed.setWidth 16 = 100
  hardware : doc.hardware.setWidth 16 = wedge100Bf65x ∨ doc.hardware.setWidth 16 = wedge100Bf32x
  fec : doc.fec.setWidth 16 ∈ fecModes

/-- The three addresses that the gateway needs -/
theorem storedAddresses (doc : HigwDoc) :
    storeAddress ConfigField.sharedBwVipAddr ConfigField.sharedBwVip doc.sharedBwVip
      (storeAddress ConfigField.vipAddr ConfigField.vip doc.vip
        (storeAddress ConfigField.mgtIpAddr ConfigField.mgtIp doc.mgtIp .initial)) =
      ConfigState.initial.stores doc.addresses := by
  have mgt := addressStores_shapes ConfigField.mgtIpAddr ConfigField.mgtIp doc.mgtIp
  have own := addressStores_shapes ConfigField.vipAddr ConfigField.vip doc.vip
  rw [storeAddress_stores ConfigField.mgtIpAddr _ _ rfl rfl,
    storeAddress_stores ConfigField.vipAddr _ _ rfl (memory_of_shapes mgt (by decide)),
    ← ConfigState.stores_append,
    storeAddress_stores ConfigField.sharedBwVipAddr _ _ rfl
      (memory_of_shapes ((List.map_append).trans (congrArg₂ (· ++ ·) mgt own)) (by decide)),
    ← ConfigState.stores_append]
  rfl

theorem storedAddresses_closed (doc : HigwDoc) :
    (ConfigState.initial.stores doc.addresses).memory
      (ConfigField.backupVipAddr.offset + constIpv4AddrLen) = 0 :=
  memory_of_shapes doc.addresses_shapes (by decide)

theorem setBackupVip_stores {higw : Json} {s : ConfigState}
    (closed : s.memory (ConfigField.backupVipAddr.offset + constIpv4AddrLen) = 0) :
    setBackupVip higw s = s.stores (backupStores (higw.text "backup_vip")) := by
  unfold setBackupVip getFieldOfString Json.text
  cases higw.get "backup_vip" with
  | none => rfl
  | some value =>
      cases value with
      | string text => exact storeAddress_stores _ _ text rfl closed
      | _ => rfl

theorem switchConfigSetHigw_stores {root : Json} {s' : ConfigState}
    (ok : switchConfigSetHigw root .initial = .ok s') : ∃ doc, root.higw = some doc ∧ doc.Accepted ∧
      s' = ConfigState.initial.stores doc.stores := by
  unfold switchConfigSetHigw at ok
  split at ok
  · rename_i members found
    obtain ⟨mgtIp, read, ok⟩ := ok_of_bind ok
    have mgt := text_of_ok read
    obtain ⟨vip, read, ok⟩ := ok_of_bind ok
    have own := text_of_ok read
    obtain ⟨sharedBwVip, read, ok⟩ := ok_of_bind ok
    have shared := text_of_ok read
    obtain ⟨_, _, ok⟩ := ok_of_bind ok
    obtain ⟨_, read, ok⟩ := ok_of_bind ok
    obtain ⟨portSpeed, speed, rfl⟩ := number_of_ok read
    obtain ⟨_, speeds, ok⟩ := ok_of_bind ok
    obtain ⟨_, read, ok⟩ := ok_of_bind ok
    obtain ⟨hardware, model, rfl⟩ := number_of_ok read
    obtain ⟨_, models, ok⟩ := ok_of_bind ok
    obtain ⟨_, read, ok⟩ := ok_of_bind ok
    obtain ⟨fec, mode, rfl⟩ := number_of_ok read
    obtain ⟨_, modes, ok⟩ := ok_of_bind ok
    have speeds := accept_of_ok speeds
    have models := accept_of_ok models
    have modes := accept_of_ok modes
    rw [load16_store] at speeds models modes
    let doc : HigwDoc := ⟨mgtIp, vip, sharedBwVip, (Json.object members).text "backup_vip", portSpeed, hardware,
      fec⟩
    refine ⟨doc, ?_, ?_, ?_⟩
    · rw [Json.higw, found]
      simp [mgt, own, shared, speed, model, mode, doc]
    · rw [BitVec.setWidth_setWidth_of_le _ (by decide)] at speeds models modes
      exact ⟨by tauto, by tauto, modes⟩
    · have backed : setBackupVip (.object members) (ConfigState.initial.stores doc.addresses) =
          (ConfigState.initial.stores doc.addresses).stores (backupStores doc.backupVip) :=
        setBackupVip_stores (storedAddresses_closed doc)
      rw [← Except.ok.inj ok, HigwDoc.stores, ConfigState.stores_append, ConfigState.stores_append, ← backed,
        ← storedAddresses doc]
      rfl
  · contradiction

/-- The check of the source on the length of the prefix -/
def RedirectDoc.Accepted (doc : RedirectDoc) : Prop :=
  24 ≤ doc.prefixLen.setWidth 32 ∧ doc.prefixLen.setWidth 32 ≤ 32

theorem switchConfigSetRedirectip_stores {root : Json} {s s' : ConfigState}
    (closed : s.memory (ConfigField.dlIpAddr.offset + constIpv4AddrLen) = 0)
    (ok : switchConfigSetRedirectip root s = .ok s') : ∃ doc, root.redirectIp = some doc ∧ doc.Accepted ∧
      s' = s.stores doc.stores := by
  unfold switchConfigSetRedirectip at ok
  split at ok
  · rename_i members found
    obtain ⟨addrPrefix, read, ok⟩ := ok_of_bind ok
    have address := text_of_ok read
    obtain ⟨_, _, ok⟩ := ok_of_bind ok
    obtain ⟨_, read, ok⟩ := ok_of_bind ok
    obtain ⟨prefixLen, number, rfl⟩ := number_of_ok read
    obtain ⟨_, range, ok⟩ := ok_of_bind ok
    have range := accept_of_ok range
    rw [load32_store, not_or, BitVec.not_lt, BitVec.not_lt] at range
    refine ⟨⟨addrPrefix, prefixLen⟩, ?_, range, ?_⟩
    · rw [Json.redirectIp, found]
      simp [address, number]
    · rw [← Except.ok.inj ok, RedirectDoc.stores, ConfigState.stores_append,
        ← storeAddress_stores ConfigField.dlIpAddr _ _ rfl closed]
      rfl
  · contradiction

theorem frontShapes_behind (backup : Bool) :
    ∀ shape ∈ frontShapes backup, hostifsSize * hostifSize ≤ shape.1.offset := by
  cases backup <;> decide

theorem blank_of_front (higw : HigwDoc) (redirect : RedirectDoc) (count : Nat) :
    (ConfigState.initial.stores (frontStores higw redirect count)).Blank 0 := by
  intro location _ high
  apply memory_of_shapes (frontStores_shapes higw redirect count)
  intro shape member
  have start := frontShapes_behind _ shape member
  left
  exact Nat.lt_of_lt_of_le high start

/-- An accepted document is stored field by field. -/
theorem switchConfigInit_stores {root : Json} {s : ConfigState} (ok : switchConfigInit root = .ok s) :
    ∃ doc, root.config = some doc ∧ doc.higw.Accepted ∧ doc.redirect.Accepted ∧
      0 < doc.hostifs.length ∧ doc.hostifs.length ≤ hostifsSize ∧ (∀ hostif ∈ doc.hostifs, hostif.parsedMac.1 = true) ∧
      s = ConfigState.initial.stores doc.stores := by
  obtain ⟨_, _, ok⟩ := ok_of_bind ok
  obtain ⟨_, first, ok⟩ := ok_of_bind ok
  obtain ⟨higw, gateway, accepted, rfl⟩ := switchConfigSetHigw_stores first
  obtain ⟨_, second, ok⟩ := ok_of_bind ok
  obtain ⟨redirect, prefixed, range, rfl⟩ := switchConfigSetRedirectip_stores
    (memory_of_shapes higw.stores_shapes (by
      generalize higw.backupVip.isSome = backup
      revert backup
      decide)) second
  unfold switchConfigSetHostifs at ok
  split at ok
  · rename_i items found
    obtain ⟨_, count, ok⟩ := ok_of_bind ok
    have count := accept_of_ok count
    have front : ((ConfigState.initial.stores higw.stores).stores redirect.stores).store ConfigField.hostifNum
        (littleEndian (BitVec.ofNat 32 items.length)) =
          ConfigState.initial.stores (frontStores higw redirect items.length) := by
      rw [frontStores, ConfigState.stores_append, ConfigState.stores_append]
      rfl
    rw [front] at ok
    obtain ⟨docs, read, same, parsed, rfl⟩ := setHostifsFrom_stores (by omega) (blank_of_front _ _ _) ok
    refine ⟨⟨higw, redirect, docs⟩, ?_, accepted, range, ?_, ?_, parsed, ?_⟩
    · rw [Json.config, gateway, prefixed, Json.hostifs, found]
      simp only [read]
      rfl
    · dsimp only
      omega
    · dsimp only
      omega
    · rw [ConfigDoc.stores, ConfigState.stores_append, same]
  · contradiction

end IgwP4.Setup

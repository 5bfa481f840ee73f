import MonsterMesh.Mesh.ChannelTable
import MonsterMesh.Mesh.Encryption

/-! What a node brings from the mesh to the MQTT server. -/
namespace MonsterMesh

open Text

def rangeTestApp : UInt32 := 66
def detectionSensorApp : UInt32 := 10

def eventpsk : List UInt8 :=
  [0x38, 0x4b, 0xbc, 0xc0, 0x1d, 0xc0, 0x22, 0xd1, 0x81, 0xbf, 0x36,
   0xb8, 0x61, 0x21, 0xe1, 0xfb, 0x96, 0xb7, 0x2e, 0x55, 0xbf, 0x74,
   0x22, 0x7e, 0x9d, 0x6a, 0xfb, 0x48, 0xd6, 0x4c, 0xb1, 0xa1]

/-- What packets are written with: the envelope with its channel and its gateway, and JSON. -/
structure Serialization where
  envelope : MeshPacket → (channelId gatewayId : Str) → List UInt8
  jsonSerialize : MeshPacket → Str

structure QueueEntry where
  topic : Str
  envBytes : List UInt8
deriving DecidableEq

structure MqttConfig where
  (encryptionEnabled jsonEnabled proxyToClientEnabled : Bool)

structure Mqtt where
  config : MqttConfig
  (isConfiguredForDefaultServer isMqttServerAddressPrivate isConnectedDirectly : Bool)
  (cryptTopic jsonTopic nodeId : Str)
  nodeNum : UInt32
  channels : Channels
  uplinkEnabled : Fin 8 → Bool
  mqttQueue : List QueueEntry

/-- `BITFIELD_OK_TO_MQTT_MASK` -/
def okToMqttMask : UInt8 := 1

def Data.okToMqtt (d : Data) : Bool := d.hasBitfield && d.bitfield &&& okToMqttMask ≠ 0

namespace Mqtt

/-- What is given out of the node. -/
inductive Action where
  | publish (topic : Str) (payload : List UInt8)
  | queue (entry : QueueEntry)

def maxMqttQueue : ℕ := 16

variable (w : Serialization) (m : Mqtt) (mpEncrypted mpDecoded : MeshPacket) (chIndex : UInt8)

/-- `getByIndex(chIndex).settings.psk`; it is empty where there is no channel. -/
def psk : List UInt8 := ((Channels.indexOf? chIndex).map fun i => (m.channels.channels i).settings.psk).getD []

/-- `getByIndex(chIndex).settings.uplink_enabled` -/
def uplink : Bool := ((Channels.indexOf? chIndex).map m.uplinkEnabled).getD false

/-- The test for the default keys. -/
def isWithheldKey (psk : List UInt8) : Bool :=
  psk.length < 2 || psk.length = 16 && psk ≠ defaultpsk || psk.length = 32 && psk ≠ eventpsk

/-- Whether a decoded payload is not to be published. -/
def isRefused (d : Data) : Bool :=
  !mpDecoded.isFromUs m.nodeNum && !m.isMqttServerAddressPrivate && !d.okToMqtt &&
      isWithheldKey (m.psk chIndex) ||
    m.isConfiguredForDefaultServer && (d.portnum = rangeTestApp || d.portnum = detectionSensorApp)

def isRefusedPayload : Bool :=
  match mpDecoded.variant with
  | .decoded d => m.isRefused mpDecoded chIndex d
  | _ => false

def isPkiEncrypted : Bool := mpEncrypted.pkiEncrypted || mpDecoded.pkiEncrypted

def channelId : Str :=
  if isPkiEncrypted mpEncrypted mpDecoded then ascii "PKI" else m.channels.nameOf chIndex

/-- The packet that goes into the envelope. -/
def packetToSend : Option MeshPacket :=
  if m.config.encryptionEnabled then some mpEncrypted
  else
    match mpDecoded.variant with
    | .decoded _ => some mpDecoded
    | _ => none

/-- A packet is published, as JSON too where that is enabled, or queued until there is a connection. -/
def transmit (p : MeshPacket) (channelId : Str) : Mqtt × List Action :=
  let envBytes := w.envelope p channelId m.nodeId
  let topic := m.cryptTopic ++ channelId ++ ascii "/" ++ m.nodeId
  if m.config.proxyToClientEnabled || m.isConnectedDirectly then
    let jsonString := w.jsonSerialize mpDecoded
    if m.config.jsonEnabled && jsonString ≠ [] then
      (m, [.publish topic envBytes, .publish (m.jsonTopic ++ channelId ++ ascii "/" ++ m.nodeId) jsonString])
    else (m, [.publish topic envBytes])
  else
    let older := if maxMqttQueue ≤ m.mqttQueue.length then m.mqttQueue.tail else m.mqttQueue
    ({ m with mqttQueue := older ++ [⟨topic, envBytes⟩] }, [.queue ⟨topic, envBytes⟩])

def onSend : Mqtt × List Action :=
  if mpEncrypted.viaMqtt then (m, [])
  else if !(List.finRange 8).any m.uplinkEnabled then (m, [])
  else if m.isRefusedPayload mpDecoded chIndex then (m, [])
  else if !(m.uplink chIndex || isPkiEncrypted mpEncrypted mpDecoded) then (m, [])
  else
    match m.packetToSend mpEncrypted mpDecoded with
    | none => (m, [])
    | some p => m.transmit w mpDecoded p (m.channelId mpEncrypted mpDecoded chIndex)

/-! ### Consent -/

/-- A key that everyone knows: none, one that an index stands for, the default key or that of events. -/
def IsPublicKey (key : List UInt8) : Prop :=
  key = [] ∨ (∃ pskIndex : UInt8, key = expandPsk [pskIndex]) ∨ key = defaultpsk ∨ key = eventpsk

/-- `key` is the one that the channel is used with. -/
def EffectiveKey (key : List UInt8) : Prop :=
  ∃ stack i, Channels.indexOf? chIndex = some i ∧ m.channels.getKey stack i = .ok (some key)

/-- Nothing is published and nothing is queued. -/
def Silent : Prop := (m.onSend w mpEncrypted mpDecoded chIndex).2 = []

/-- The packet with the bit by which its sender agrees. -/
def consented (d : Data) : MeshPacket :=
  { mpDecoded with variant := .decoded { d with hasBitfield := true, bitfield := d.bitfield ||| okToMqttMask } }

/-- Nothing goes out that should not, and no packet on a private key is withheld for the lack of the bit. -/
structure RespectsConsent : Prop where
  fromMqtt : mpEncrypted.viaMqtt → m.Silent w mpEncrypted mpDecoded chIndex
  noUplink : m.uplink chIndex = false → isPkiEncrypted mpEncrypted mpDecoded = false →
    m.Silent w mpEncrypted mpDecoded chIndex
  noConsent : ∀ d, mpDecoded.variant = .decoded d → mpDecoded.isFromUs m.nodeNum = false →
    d.okToMqtt = false → m.isMqttServerAddressPrivate = false →
    (∃ key, m.EffectiveKey chIndex key ∧ IsPublicKey key) → m.Silent w mpEncrypted mpDecoded chIndex
  privateKey : ∀ d, mpDecoded.variant = .decoded d → mpDecoded.isFromUs m.nodeNum = false →
    (∃ key, m.EffectiveKey chIndex key ∧ ¬ IsPublicKey key) → m.uplink chIndex →
    ¬ m.Silent w mpEncrypted (consented mpDecoded d) chIndex → ¬ m.Silent w mpEncrypted mpDecoded chIndex

/-- Nothing but its key can withhold a packet of another node without the bit. -/
structure Exposed (d : Data) : Prop where
  decoded : mpDecoded.variant = .decoded d
  foreign : mpDecoded.isFromUs m.nodeNum = false
  noBit : d.okToMqtt = false
  publicServer : m.isMqttServerAddressPrivate = false
  fromMesh : mpEncrypted.viaMqtt = false
  anyUplink : ∃ i, m.uplinkEnabled i
  otherPort : m.isConfiguredForDefaultServer → d.portnum ≠ rangeTestApp ∧ d.portnum ≠ detectionSensorApp
  channel : m.uplink chIndex ∨ isPkiEncrypted mpEncrypted mpDecoded

/-- A key that is known is not written out in full, and one that is private is not written with 16 or 32
bytes, nor taken from the primary channel. -/
def KeyForm : Prop := ∀ key, m.EffectiveKey chIndex key →
  (IsPublicKey key → m.psk chIndex ≠ defaultpsk ∧ m.psk chIndex ≠ eventpsk) ∧
  (¬ IsPublicKey key → m.uplink chIndex →
    m.psk chIndex ≠ [] ∧ (m.psk chIndex).length ≠ 16 ∧ (m.psk chIndex).length ≠ 32)

/-! ### Keys -/

section

variable {w : Serialization} {m : Mqtt} {mpEncrypted mpDecoded : MeshPacket} {chIndex : UInt8}
  {key psk : List UInt8} {d : Data}

theorem effectiveKey_cases (h : m.EffectiveKey chIndex key) :
    m.psk chIndex = [] ∨ key = expandPsk (m.psk chIndex) := by
  obtain ⟨stack, i, hi, hkey⟩ := h
  have hpsk : m.psk chIndex = (m.channels.channels i).settings.psk := by
    unfold Mqtt.psk
    rw [hi]
    rfl
  rw [hpsk]
  cases stack with
  | zero => cases hkey
  | succ stack =>
    rw [Channels.getKey_succ] at hkey
    unfold Channels.ownKey at hkey
    split_ifs at hkey with hoff htakes
    · cases hkey
    · exact Or.inl htakes.1
    · exact Or.inr (Option.some.inj (Except.ok.inj hkey)).symm

theorem expandPsk_index (pskIndex : UInt8) :
    expandPsk [pskIndex] = if pskIndex = 0 then [] else defaultpsk.take 15 ++ [pskIndex] := by
  unfold expandPsk
  dsimp only
  rw [show (0x01 : UInt8) + pskIndex - 1 = pskIndex by rw [UInt8.add_comm, UInt8.add_sub_cancel]]

/-- A known key has 16 or 32 bytes and is not padded. -/
theorem publicKey_shape (h : IsPublicKey key) :
    key = [] ∨ (key.length = 16 ∨ key.length = 32) ∧ key.getLast? ≠ some 0 := by
  rcases h with h | ⟨pskIndex, h⟩ | h | h
  · exact Or.inl h
  · rw [expandPsk_index] at h
    by_cases hzero : pskIndex = 0
    · rw [if_pos hzero] at h
      exact Or.inl h
    · rw [if_neg hzero] at h
      refine Or.inr ⟨Or.inl (h ▸ rfl), ?_⟩
      rw [h, List.getLast?_concat]
      exact fun he => hzero (Option.some.inj he)
  · exact Or.inr ⟨Or.inl (h ▸ rfl), by rw [h]; decide⟩
  · exact Or.inr ⟨Or.inr (h ▸ rfl), by rw [h]; decide⟩

theorem getLast?_padded {n : ℕ} (hn : 0 < n) : (psk ++ List.replicate n (0 : UInt8)).getLast? = some 0 := by
  obtain ⟨n, rfl⟩ : ∃ k, n = k + 1 := ⟨n - 1, by omega⟩
  rw [List.replicate_succ', ← List.append_assoc, List.getLast?_concat]

/-- Only a short psk, or one of 16 or 32 bytes, stands for a known key. -/
theorem expandPsk_public (h : IsPublicKey (expandPsk psk)) :
    psk.length < 2 ∨ psk.length = 16 ∨ psk.length = 32 := by
  by_contra hno
  match psk with
  | [] => exact hno (Or.inl (by decide))
  | [a] => exact hno (Or.inl (Nat.lt_succ_self 1))
  | a :: b :: rest =>
    have hshape := publicKey_shape h
    unfold expandPsk at hshape
    dsimp only at hshape
    split_ifs at hshape with hshort hmiddle
    · rcases hshape with he | ⟨-, hlast⟩
      · exact absurd (List.append_eq_nil_iff.mp he).1 (List.cons_ne_nil a _)
      · exact hlast (getLast?_padded (by omega))
    · rcases hshape with he | ⟨-, hlast⟩
      · exact absurd (List.append_eq_nil_iff.mp he).1 (List.cons_ne_nil a _)
      · exact hlast (getLast?_padded (by omega))
    · rcases hshape with he | ⟨hlength, -⟩
      · cases he
      · exact hno (Or.inr hlength)

theorem isWithheldKey_iff : isWithheldKey psk ↔
    psk.length < 2 ∨ psk.length = 16 ∧ psk ≠ defaultpsk ∨ psk.length = 32 ∧ psk ≠ eventpsk := by
  unfold isWithheldKey
  simp only [Bool.or_eq_true, Bool.and_eq_true, decide_eq_true_eq, or_assoc]

/-! ### What is refused -/

theorem transmit_ne_nil (p : MeshPacket) (channelId : Str) : (m.transmit w mpDecoded p channelId).2 ≠ [] := by
  unfold transmit
  dsimp only
  by_cases hnow : m.config.proxyToClientEnabled || m.isConnectedDirectly
  · rw [if_pos hnow]
    split_ifs
    · exact List.cons_ne_nil _ _
    · exact List.cons_ne_nil _ _
  · rw [if_neg hnow]
    exact List.cons_ne_nil _ _

theorem any_uplink_iff : (List.finRange 8).any m.uplinkEnabled ↔ ∃ i, m.uplinkEnabled i := by
  rw [List.any_eq_true]
  exact exists_congr fun i => and_iff_right (List.mem_finRange i)

/-- When a decoded packet goes out. -/
theorem sent_iff (hd : mpDecoded.variant = .decoded d) : ¬ m.Silent w mpEncrypted mpDecoded chIndex ↔
    mpEncrypted.viaMqtt = false ∧ (∃ i, m.uplinkEnabled i) ∧ m.isRefused mpDecoded chIndex d = false ∧
      (m.uplink chIndex ∨ isPkiEncrypted mpEncrypted mpDecoded) := by
  have hpayload : m.isRefusedPayload mpDecoded chIndex = m.isRefused mpDecoded chIndex d := by
    unfold isRefusedPayload
    rw [hd]
  obtain ⟨p, hp⟩ : ∃ p, m.packetToSend mpEncrypted mpDecoded = some p := by
    unfold packetToSend
    rw [hd]
    split_ifs
    · exact ⟨_, rfl⟩
    · exact ⟨_, rfl⟩
  unfold Silent onSend
  rw [hpayload, hp, ← any_uplink_iff, ← Bool.or_eq_true]
  cases mpEncrypted.viaMqtt with
  | true => exact ⟨fun h => absurd rfl h, fun h => Bool.noConfusion h.1⟩
  | false =>
    cases (List.finRange 8).any m.uplinkEnabled with
    | false => exact ⟨fun h => absurd rfl h, fun h => Bool.noConfusion h.2.1⟩
    | true =>
      cases m.isRefused mpDecoded chIndex d with
      | true => exact ⟨fun h => absurd rfl h, fun h => Bool.noConfusion h.2.2.1⟩
      | false =>
        cases m.uplink chIndex || isPkiEncrypted mpEncrypted mpDecoded with
        | false => exact ⟨fun h => absurd rfl h, fun h => Bool.noConfusion h.2.2.2⟩
        | true => exact ⟨fun _ => ⟨rfl, rfl, rfl, rfl⟩, fun _ => transmit_ne_nil p _⟩

theorem isRefused_iff : m.isRefused mpDecoded chIndex d = false ↔
    (mpDecoded.isFromUs m.nodeNum = false → m.isMqttServerAddressPrivate = false → d.okToMqtt = false →
      ¬ isWithheldKey (m.psk chIndex)) ∧
    (m.isConfiguredForDefaultServer → d.portnum ≠ rangeTestApp ∧ d.portnum ≠ detectionSensorApp) := by
  unfold isRefused
  cases mpDecoded.isFromUs m.nodeNum <;> cases m.isMqttServerAddressPrivate <;> cases d.okToMqtt <;>
    cases m.isConfiguredForDefaultServer <;> simp

theorem consented_okToMqtt (d : Data) :
    ({ d with hasBitfield := true, bitfield := d.bitfield ||| okToMqttMask } : Data).okToMqtt = true := by
  have hbits : ∀ a : Fin 256, (UInt8.ofNat a.val ||| okToMqttMask) &&& okToMqttMask ≠ 0 := by decide +kernel
  have hbit := hbits ⟨d.bitfield.toNat, d.bitfield.toNat_lt⟩
  rw [UInt8.ofNat_toNat] at hbit
  exact decide_eq_true hbit

theorem consented_isRefused :
    m.isRefused (consented mpDecoded d) chIndex { d with
      hasBitfield := true, bitfield := d.bitfield ||| okToMqttMask } = false ↔
    (m.isConfiguredForDefaultServer → d.portnum ≠ rangeTestApp ∧ d.portnum ≠ detectionSensorApp) := by
  rw [isRefused_iff]
  constructor
  · exact And.right
  · intro hport
    refine ⟨fun _ _ hno => ?_, hport⟩
    rw [consented_okToMqtt] at hno
    cases hno

/-- A packet that would go out with the bit. -/
theorem consented_sent_iff :
    ¬ m.Silent w mpEncrypted (consented mpDecoded d) chIndex ↔
      mpEncrypted.viaMqtt = false ∧ (∃ i, m.uplinkEnabled i) ∧
        (m.isConfiguredForDefaultServer → d.portnum ≠ rangeTestApp ∧ d.portnum ≠ detectionSensorApp) ∧
        (m.uplink chIndex ∨ isPkiEncrypted mpEncrypted mpDecoded) := by
  rw [sent_iff rfl, consented_isRefused]
  exact Iff.rfl

/-- Whether an exposed packet goes out is a matter of the psk. -/
theorem Exposed.sent_iff (h : m.Exposed mpEncrypted mpDecoded chIndex d) :
    ¬ m.Silent w mpEncrypted mpDecoded chIndex ↔ ¬ isWithheldKey (m.psk chIndex) := by
  rw [Mqtt.sent_iff h.decoded, isRefused_iff]
  constructor
  · rintro ⟨-, -, ⟨hkey, -⟩, -⟩
    exact hkey h.foreign h.publicServer h.noBit
  · intro hkey
    exact ⟨h.fromMesh, h.anyUplink, ⟨fun _ _ _ => hkey, h.otherPort⟩, h.channel⟩

/-- The forms of keys that are withheld rightly. -/
theorem keyForm_iff : m.KeyForm chIndex ↔ ∀ key, m.EffectiveKey chIndex key →
    (IsPublicKey key → isWithheldKey (m.psk chIndex)) ∧
    (¬ IsPublicKey key → m.uplink chIndex → ¬ isWithheldKey (m.psk chIndex)) := by
  unfold KeyForm
  refine forall_congr' fun key => forall_congr' fun hkey => ?_
  rw [isWithheldKey_iff]
  refine and_congr (forall_congr' fun hpublic => ?_) (forall_congr' fun hprivate => forall_congr' fun _ => ?_)
  · constructor
    · rintro ⟨hdefault, hevent⟩
      rcases effectiveKey_cases hkey with hnone | hown
      · exact Or.inl (by rw [hnone]; decide)
      · rcases expandPsk_public (hown ▸ hpublic) with hshort | hlength | hlength
        · exact Or.inl hshort
        · exact Or.inr (Or.inl ⟨hlength, hdefault⟩)
        · exact Or.inr (Or.inr ⟨hlength, hevent⟩)
    · intro hwithheld
      constructor
      · intro he
        rw [he] at hwithheld
        revert hwithheld
        decide
      · intro he
        rw [he] at hwithheld
        revert hwithheld
        decide
  · constructor
    · rintro ⟨hnone, hshort, hlong⟩ (hlength | hlength | hlength)
      · obtain ⟨pskIndex, hindex⟩ : ∃ a, m.psk chIndex = [a] :=
          List.length_eq_one_iff.mp (by have := List.length_pos_iff.mpr hnone; omega)
        rcases effectiveKey_cases hkey with he | hown
        · exact hnone he
        · exact hprivate (Or.inr (Or.inl ⟨pskIndex, hindex ▸ hown⟩))
      · exact hshort hlength.1
      · exact hlong hlength.1
    · intro hwithheld
      have hnone : m.psk chIndex ≠ [] := fun he => hwithheld (Or.inl (by rw [he]; decide))
      have hown : key = expandPsk (m.psk chIndex) := (effectiveKey_cases hkey).resolve_left hnone
      refine ⟨hnone, fun hlength => ?_, fun hlength => ?_⟩
      · have he : m.psk chIndex = defaultpsk := by
          by_contra hne
          exact hwithheld (Or.inr (Or.inl ⟨hlength, hne⟩))
        rw [he] at hown
        exact hprivate (Or.inr (Or.inr (Or.inl hown)))
      · have he : m.psk chIndex = eventpsk := by
          by_contra hne
          exact hwithheld (Or.inr (Or.inr ⟨hlength, hne⟩))
        rw [he] at hown
        exact hprivate (Or.inr (Or.inr (Or.inr hown)))

theorem silent_fromMqtt (h : mpEncrypted.viaMqtt) : m.Silent w mpEncrypted mpDecoded chIndex := by
  unfold Silent onSend
  rw [if_pos h]

theorem silent_noUplink (huplink : m.uplink chIndex = false)
    (hpki : isPkiEncrypted mpEncrypted mpDecoded = false) : m.Silent w mpEncrypted mpDecoded chIndex := by
  unfold Silent onSend
  rw [huplink, hpki, if_pos (show (!(false || false)) = true from rfl)]
  split_ifs
  · rfl
  · rfl
  · rfl
  · rfl

/-- Consent is respected exactly where a packet that depends on it has a key in one of the right forms. -/
theorem respectsConsent_iff : m.RespectsConsent w mpEncrypted mpDecoded chIndex ↔
    ∀ d, m.Exposed mpEncrypted mpDecoded chIndex d → m.KeyForm chIndex := by
  constructor
  · intro h d hexposed
    rw [keyForm_iff]
    refine fun key hkey => ⟨fun hpublic => ?_, fun hprivate huplink => ?_⟩
    · by_contra hsent
      refine (hexposed.sent_iff (w := w)).mpr hsent ?_
      exact h.noConsent d hexposed.decoded hexposed.foreign hexposed.noBit hexposed.publicServer
        ⟨key, hkey, hpublic⟩
    · refine hexposed.sent_iff.mp
        (h.privateKey d hexposed.decoded hexposed.foreign ⟨key, hkey, hprivate⟩ huplink ?_)
      rw [consented_sent_iff]
      exact ⟨hexposed.fromMesh, hexposed.anyUplink, hexposed.otherPort, hexposed.channel⟩
  · intro hform
    refine ⟨silent_fromMqtt, silent_noUplink, ?_, ?_⟩
    · intro d hd hforeign hbit hserver hkey
      obtain ⟨key, hkey, hpublic⟩ := hkey
      by_contra hsent
      obtain ⟨hvia, hany, hrefused, hchannel⟩ := (sent_iff hd).mp hsent
      obtain ⟨hwithheld, hport⟩ := isRefused_iff.mp hrefused
      have hexposed : m.Exposed mpEncrypted mpDecoded chIndex d :=
        ⟨hd, hforeign, hbit, hserver, hvia, hany, hport, hchannel⟩
      exact hwithheld hforeign hserver hbit ((keyForm_iff.mp (hform d hexposed) key hkey).1 hpublic)
    · intro d hd hforeign hkey huplink hconsented
      obtain ⟨key, hkey, hprivate⟩ := hkey
      obtain ⟨hvia, hany, hport, hchannel⟩ := consented_sent_iff.mp hconsented
      rw [sent_iff hd]
      refine ⟨hvia, hany, isRefused_iff.mpr ⟨fun _ hserver hbit => ?_, hport⟩, hchannel⟩
      have hexposed : m.Exposed mpEncrypted mpDecoded chIndex d :=
        ⟨hd, hforeign, hbit, hserver, hvia, hany, hport, hchannel⟩
      exact (keyForm_iff.mp (hform d hexposed) key hkey).2 hprivate huplink

end

/-- A node that publishes what it hears on its primary channel, with the default key written in full. -/
def fullDefault : Mqtt :=
  { config := ⟨false, false, false⟩, isConfiguredForDefaultServer := true, isMqttServerAddressPrivate := false
    isConnectedDirectly := true, cryptTopic := [], jsonTopic := [], nodeId := [], nodeNum := 1
    channels := { Channels.zero with
      channels := fun i => if i.val = 0 then ⟨i, true, ⟨defaultpsk, []⟩, .primary⟩ else Channels.zero.channels i }
    uplinkEnabled := fun i => i.val = 0, mqttQueue := [] }

/-- A text of node 2 without the bit is published. -/
theorem fullDefault_leaks : ¬ fullDefault.RespectsConsent ⟨fun _ _ _ => [], fun _ => []⟩
    { MeshPacket.zero with from' := 2, variant := .encrypted [7] }
    { MeshPacket.zero with from' := 2, variant := .decoded { Data.zero with portnum := textMessageApp } } 0 := by
  intro h
  have hkey : fullDefault.EffectiveKey 0 defaultpsk := ⟨1, Fin.ofNat 8 0, rfl, rfl⟩
  have hsilent := h.noConsent _ rfl rfl rfl rfl ⟨defaultpsk, hkey, Or.inr (Or.inr (Or.inl rfl))⟩
  exact (sent_iff rfl).mpr ⟨rfl, ⟨Fin.ofNat 8 0, rfl⟩, by decide, Or.inl rfl⟩ hsilent

end Mqtt
end MonsterMesh

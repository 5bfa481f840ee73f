import MonsterMesh.Mesh.Encryption

/-! What a node takes from the MQTT server into the mesh. -/
namespace MonsterMesh

open Fallible Text

def adminApp : UInt32 := 6

/-- `TRANSPORT_MQTT` -/
def transportMqtt : UInt8 := 5

def hopMax : UInt8 := 7

/-- An envelope after it was decoded; what is missing in it is a null pointer. -/
structure ServiceEnvelope where
  (channelId gatewayId : Option Str)
  packet : Option MeshPacket

/-- A node with its settings for MQTT. -/
structure Gateway where
  station : Station
  nodeId : Str
  downlinkEnabled : Fin 8 → Bool
  encryptionEnabled : Bool

/-- `getByName`, as the place of the channel in the table. -/
def Channels.getByName (c : Channels) (chName : Str) : Fin 8 :=
  ((List.finRange 8).find? fun i => sameText (c.getName i) chName).getD c.primaryIndex

namespace Gateway

/-- What becomes of an envelope: nothing, an acknowledgement to ourselves, or a packet for the router. -/
inductive Received where
  | ignored
  | acknowledged (to' id : UInt32) (chIndex : Fin 8)
  | enqueued (p : MeshPacket)

variable (w : Cryptography) (stack : ℕ) (g : Gateway)

def pki : Str := ascii "PKI"

/-- The packet of an envelope as it is copied. -/
def copied (packet : MeshPacket) : MeshPacket :=
  { MeshPacket.zero with
    from' := packet.from', to' := packet.to', id := packet.id, channel := packet.channel
    hopLimit := packet.hopLimit, hopStart := packet.hopStart, wantAck := packet.wantAck, viaMqtt := true
    transportMechanism := transportMqtt, variant := packet.variant }

/-- Packets are ignored where their channel is not known. -/
def deliver (p : MeshPacket) : Except ChannelsFault Received :=
  (fun r => match r.state with
    | .success => .enqueued r.packet
    | _ => .ignored) <$> g.station.perhapsDecode w stack p

/-- The node has an owner for the number. -/
def isKnown (num : UInt32) : Bool := (g.station.getMeshNode num).any NodeUser.hasUser

/-- What is left to check of a packet that was let in by its channel, its gateway and its hops. -/
def receive (channelId : Str) (chIndex : Fin 8) (packet : MeshPacket) : Except ChannelsFault Received :=
  let p := copied packet
  match packet.variant with
  | .decoded d =>
    if g.encryptionEnabled then .ok .ignored
    else if d.portnum = adminApp then .ok .ignored
    else g.deliver w stack { p with channel := UInt8.ofNat chIndex.val }
  | .encrypted _ =>
    if channelId = pki then
      if p.isToUs g.station.nodeNum || g.isKnown (p.getFrom g.station.nodeNum) && g.isKnown p.to' then
        .ok (.enqueued p)
      else .ok .ignored
    else g.deliver w stack p
  | .unset => g.deliver w stack p

/-- `getByName(channel_id).index` -/
def chIndex (channelId : Str) : Fin 8 :=
  (g.station.channels.channels (g.station.channels.getByName channelId)).index

def onReceiveProto (e : ServiceEnvelope) : Except ChannelsFault Received :=
  match e with
  | ⟨some channelId, some gatewayId, some packet⟩ =>
    if !(channelId = pki || channelId = g.station.channels.getName (g.chIndex channelId) &&
        g.downlinkEnabled (g.station.channels.getByName channelId)) then .ok .ignored
    else if channelId = pki && !(List.finRange 8).any g.downlinkEnabled then .ok .ignored
    else if gatewayId = g.nodeId then
      if packet.isFromUs g.station.nodeNum then
        .ok (.acknowledged (packet.getFrom g.station.nodeNum) packet.id (g.chIndex channelId))
      else .ok .ignored
    else if packet.isFromUs g.station.nodeNum then .ok .ignored
    else if hopMax < packet.hopLimit || hopMax < packet.hopStart then .ok .ignored
    else g.receive w stack channelId (g.chIndex channelId) packet
  | _ => .ok .ignored

/-! ### What may come in -/

/-- A channel of our own decrypts the packet. -/
def DecodesLocally (p : MeshPacket) (bytes : List UInt8) : Prop :=
  ∃ key i d, g.station.tryChannels w stack p bytes (List.finRange 8) g.station.key = .ok (.found i d, key)

/-- What the user enabled: `q` may come out of an envelope with `packet`. -/
structure Allowed (channelId gatewayId : Str) (packet q : MeshPacket) : Prop where
  foreign : packet.isFromUs g.station.nodeNum = false ∧ q.isFromUs g.station.nodeNum = false
  gateway : gatewayId ≠ g.nodeId
  hops : q.hopLimit ≤ hopMax ∧ q.hopStart ≤ hopMax
  marked : q.viaMqtt ∧ q.transportMechanism = transportMqtt
  decoded : ∀ d, packet.variant = .decoded d →
    (∃ i : Fin 8, q.channel = UInt8.ofNat i.val ∧ g.downlinkEnabled i) ∧ d.portnum ≠ adminApp ∧ g.encryptionEnabled = false
  encrypted : ∀ bytes, packet.variant = .encrypted bytes →
    g.DecodesLocally w stack (copied packet) bytes ∨ (channelId = pki ∨ q.pkiEncrypted) ∧
      (q.isToUs g.station.nodeNum ∨ g.isKnown (q.getFrom g.station.nodeNum) ∧ g.isKnown q.to')

/-- Only what the user enabled gets to the router. -/
def AdmitsOnly (e : ServiceEnvelope) : Prop := ∀ q, g.onReceiveProto w stack e = .ok (.enqueued q) →
  ∃ channelId gatewayId packet, e = ⟨some channelId, some gatewayId, some packet⟩ ∧
    g.Allowed w stack channelId gatewayId packet q

/-- An envelope that is let in by its channel, its gateway and its hops. -/
structure Passes (channelId gatewayId : Str) (packet : MeshPacket) : Prop where
  channel : channelId = pki ∧ (∃ i, g.downlinkEnabled i) ∨
    channelId = g.station.channels.getName (g.chIndex channelId) ∧
      g.downlinkEnabled (g.station.channels.getByName channelId)
  gateway : gatewayId ≠ g.nodeId
  foreign : packet.isFromUs g.station.nodeNum = false
  hops : packet.hopLimit ≤ hopMax ∧ packet.hopStart ≤ hopMax

/-- The sender is known, where that is needed. -/
def SenderAccepted (packet : MeshPacket) : Prop := g.station.knownOnly → g.isKnown packet.from'

/-- The channel that a decoded packet would enter by has its downlink enabled. -/
def EntersByDownlink (e : ServiceEnvelope) : Prop :=
  ∀ channelId gatewayId packet d, e = ⟨some channelId, some gatewayId, some packet⟩ →
    packet.variant = .decoded d → g.Passes channelId gatewayId packet → g.encryptionEnabled = false →
    d.portnum ≠ adminApp → g.SenderAccepted packet → g.downlinkEnabled (g.chIndex channelId)

variable {w stack g} {channelId gatewayId : Str} {packet q p : MeshPacket} {e : ServiceEnvelope} {d : Data}

theorem any_downlink_iff : (List.finRange 8).any g.downlinkEnabled ↔ ∃ i, g.downlinkEnabled i := by
  rw [List.any_eq_true]
  exact exists_congr fun i => and_iff_right (List.mem_finRange i)

theorem hops_iff : (hopMax < packet.hopLimit || hopMax < packet.hopStart) = false ↔
    packet.hopLimit ≤ hopMax ∧ packet.hopStart ≤ hopMax := by
  rw [Bool.or_eq_false_iff, decide_eq_false_iff_not, decide_eq_false_iff_not, UInt8.not_lt, UInt8.not_lt]

/-- A packet gets to the router past all the checks. -/
theorem onReceiveProto_enqueued :
    g.onReceiveProto w stack ⟨some channelId, some gatewayId, some packet⟩ = .ok (.enqueued q) ↔
      g.Passes channelId gatewayId packet ∧
        g.receive w stack channelId (g.chIndex channelId) packet = .ok (.enqueued q) := by
  have hno : (Except.ok .ignored : Except ChannelsFault Received) ≠ .ok (.enqueued q) :=
    fun h => by cases h
  have hnever : ∀ {r : Received}, (∀ p, r ≠ .enqueued p) → ¬ g.Passes channelId gatewayId packet →
      ((Except.ok r : Except ChannelsFault Received) = .ok (.enqueued q) ↔
        g.Passes channelId gatewayId packet ∧
          g.receive w stack channelId (g.chIndex channelId) packet = .ok (.enqueued q)) :=
    fun hr hp => ⟨fun h => absurd (Except.ok.inj h) (hr q), fun h => absurd h.1 hp⟩
  unfold onReceiveProto
  dsimp only
  split_ifs with hchannel hany hgateway hours hforeign hhops
  · refine hnever (fun _ => Received.noConfusion) fun hp => ?_
    simp only [Bool.not_eq_true', Bool.or_eq_false_iff, Bool.and_eq_false_iff,
      decide_eq_false_iff_not] at hchannel
    rcases hp.channel with h | h
    · exact hchannel.1 h.1
    · rcases hchannel.2 with hname | hdown
      · exact hname h.1
      · exact Bool.false_ne_true (hdown.symm.trans h.2)
  · refine hnever (fun _ => Received.noConfusion) fun hp => ?_
    rw [Bool.and_eq_true, Bool.not_eq_true'] at hany
    have hnone : ¬ ∃ i, g.downlinkEnabled i :=
      fun h => Bool.false_ne_true (hany.2.symm.trans (any_downlink_iff.mpr h))
    rcases hp.channel with h | h
    · exact hnone h.2
    · exact hnone ⟨_, h.2⟩
  · exact hnever (fun _ => Received.noConfusion) fun hp => hp.gateway hgateway
  · exact hnever (fun _ => Received.noConfusion) fun hp => hp.gateway hgateway
  · exact hnever (fun _ => Received.noConfusion) fun hp => Bool.false_ne_true (hp.foreign.symm.trans hforeign)
  · exact hnever (fun _ => Received.noConfusion) fun hp =>
      Bool.false_ne_true ((hops_iff.mpr hp.hops).symm.trans hhops)
  · have hhops := hops_iff.mp (Bool.eq_false_iff.mpr hhops)
    refine (and_iff_right ⟨?_, hgateway, Bool.eq_false_iff.mpr hforeign, hhops⟩).symm
    simp only [Bool.not_eq_true', Bool.not_eq_false, Bool.or_eq_true, Bool.and_eq_true,
      decide_eq_true_eq] at hchannel
    rw [Bool.and_eq_true, Bool.not_eq_true', not_and, Bool.not_eq_false, decide_eq_true_eq] at hany
    rcases hchannel with h | h
    · exact Or.inl ⟨h, any_downlink_iff.mp (hany h)⟩
    · exact Or.inr h

theorem deliver_enqueued : g.deliver w stack p = .ok (.enqueued q) ↔
    ∃ r, g.station.perhapsDecode w stack p = .ok r ∧ r.state = .success ∧ r.packet = q := by
  unfold deliver
  rw [map_eq_ok]
  refine exists_congr fun r => and_congr_right fun _ => ?_
  cases r.state with
  | success => exact ⟨fun h => ⟨rfl, Received.enqueued.inj h⟩, fun h => congrArg Received.enqueued h.2⟩
  | failure => exact ⟨fun h => (by cases h), fun h => (by cases h.1)⟩
  | fatal => exact ⟨fun h => (by cases h), fun h => (by cases h.1)⟩

theorem deliver_decoded (hd : p.variant = .decoded d) : g.deliver w stack p = .ok (.enqueued q) ↔
    g.SenderAccepted p ∧ p = q := by
  rw [deliver_enqueued]
  unfold SenderAccepted isKnown Station.perhapsDecode
  rw [hd]
  cases g.station.knownOnly with
  | false =>
    constructor
    · rintro ⟨r, hr, -, hq⟩
      cases hr
      exact ⟨fun h => absurd h Bool.false_ne_true, hq⟩
    · rintro ⟨-, hq⟩
      exact ⟨_, rfl, rfl, hq⟩
  | true =>
    cases (g.station.getMeshNode p.from').any NodeUser.hasUser with
    | false =>
      constructor
      · rintro ⟨r, hr, hs, -⟩
        cases hr
        cases hs
      · rintro ⟨hknown, -⟩
        exact absurd (hknown rfl) Bool.false_ne_true
    | true =>
      constructor
      · rintro ⟨r, hr, -, hq⟩
        cases hr
        exact ⟨fun _ => rfl, hq⟩
      · rintro ⟨-, hq⟩
        exact ⟨_, rfl, rfl, hq⟩

/-- What the channels decrypted. -/
theorem decodeByChannel_success {n : Station} {bytes : List UInt8} {r : Decoded}
    (h : n.decodeByChannel w stack p bytes = .ok r) (hs : r.state = .success) :
    ∃ key i d, n.tryChannels w stack p bytes (List.finRange 8) n.key = .ok (.found i d, key) ∧
      r.packet = Station.accepted p (UInt8.ofNat i.val) d := by
  unfold Station.decodeByChannel at h
  rw [map_eq_ok] at h
  obtain ⟨⟨attempt, key⟩, htry, rfl⟩ := h
  cases attempt with
  | notFound => cases hs
  | legacy => cases hs
  | found i d => exact ⟨key, i, d, htry, rfl⟩

theorem pkiSender_toUs {n : Station} {rawSize : ℕ} {publicKey : List UInt8}
    (h : n.pkiSender p rawSize = some publicKey) : p.isToUs n.nodeNum := by
  unfold Station.pkiSender at h
  cases hs : n.getMeshNode p.from' with
  | none =>
    rw [hs] at h
    cases h
  | some sender =>
    cases hr : n.getMeshNode p.to' with
    | none =>
      rw [hs, hr] at h
      cases h
    | some receiver =>
      rw [hs, hr] at h
      dsimp only at h
      split_ifs at h with hall
      simp only [Bool.and_eq_true] at hall
      exact hall.1.1.1.1.1.2

/-- Who decrypted a packet: a channel, or our own private key. -/
theorem perhapsDecode_success {n : Station} {bytes : List UInt8} {r : Decoded}
    (hp : p.variant = .encrypted bytes) (h : n.perhapsDecode w stack p = .ok r) (hs : r.state = .success) :
    (∃ key i d, n.tryChannels w stack p bytes (List.finRange 8) n.key = .ok (.found i d, key) ∧
      r.packet = Station.accepted p (UInt8.ofNat i.val) d) ∨
    ∃ key d, r.packet = Station.accepted { p with pkiEncrypted := true, publicKey := key } 0 d ∧
      p.isToUs n.nodeNum := by
  unfold Station.perhapsDecode at h
  rw [hp] at h
  dsimp only at h
  split_ifs at h with hknown hlong
  · cases h
    cases hs
  · cases h
    cases hs
  · cases hsender : n.pkiSender p bytes.length with
    | none =>
      rw [hsender] at h
      exact Or.inl (decodeByChannel_success h hs)
    | some publicKey =>
      rw [hsender] at h
      dsimp only at h
      cases hopen : w.decryptCurve25519 n.privateKey publicKey p.from' p.id bytes with
      | none =>
        rw [hopen] at h
        exact Or.inl (decodeByChannel_success h hs)
      | some plain =>
        rw [hopen] at h
        dsimp only at h
        cases hplain : w.pbDecode plain with
        | none =>
          rw [hplain] at h
          cases h
          cases hs
        | some d =>
          rw [hplain] at h
          dsimp only at h
          split_ifs at h
          · cases h
            cases hs
          · cases h
            refine Or.inr ⟨_, d, rfl, ?_⟩
            exact pkiSender_toUs hsender

/-! ### Who comes in -/

theorem copied_foreign (packet : MeshPacket) (num : UInt32) :
    (copied packet).isFromUs num = packet.isFromUs num := rfl

theorem receive_decoded (hd : packet.variant = .decoded d) {chIndex : Fin 8} :
    g.receive w stack channelId chIndex packet = .ok (.enqueued q) ↔
      g.encryptionEnabled = false ∧ d.portnum ≠ adminApp ∧ g.SenderAccepted packet ∧
        { copied packet with channel := UInt8.ofNat chIndex.val } = q := by
  unfold receive
  rw [hd]
  dsimp only
  cases g.encryptionEnabled with
  | true => exact ⟨fun h => (by cases h), fun h => (by cases h.1)⟩
  | false =>
    rw [if_neg Bool.false_ne_true]
    by_cases hport : d.portnum = adminApp
    · rw [if_pos hport]
      exact ⟨fun h => (by cases h), fun h => absurd hport h.2.1⟩
    · rw [if_neg hport, deliver_decoded (p := { copied packet with channel := UInt8.ofNat chIndex.val }) hd]
      exact ⟨fun h => ⟨rfl, hport, h⟩, fun h => h.2.2⟩

theorem receive_encrypted {bytes : List UInt8} (hd : packet.variant = .encrypted bytes) {chIndex : Fin 8}
    (h : g.receive w stack channelId chIndex packet = .ok (.enqueued q)) :
    (∃ chIndex variant pkiEncrypted publicKey, q = { copied packet with
      channel := chIndex, variant := variant, pkiEncrypted := pkiEncrypted, publicKey := publicKey }) ∧
    (g.DecodesLocally w stack (copied packet) bytes ∨ (channelId = pki ∨ q.pkiEncrypted) ∧
      (q.isToUs g.station.nodeNum ∨ g.isKnown (q.getFrom g.station.nodeNum) ∧ g.isKnown q.to')) := by
  unfold receive at h
  rw [hd] at h
  dsimp only at h
  split_ifs at h with hpki haccepted
  · cases h
    rw [Bool.or_eq_true, Bool.and_eq_true] at haccepted
    exact ⟨⟨_, _, _, _, rfl⟩, Or.inr ⟨Or.inl hpki, haccepted⟩⟩
  · cases h
  · obtain ⟨r, hr, hs, rfl⟩ := deliver_enqueued.mp h
    rcases perhapsDecode_success (p := copied packet) hd hr hs with
      ⟨key, i, d, htry, he⟩ | ⟨key, d, he, hus⟩
    · exact ⟨⟨_, _, _, _, he⟩, Or.inl ⟨key, i, d, htry⟩⟩
    · refine ⟨⟨_, _, _, _, he⟩, Or.inr ⟨Or.inr ?_, Or.inl ?_⟩⟩
      · rw [he]
        rfl
      · rw [he]
        exact hus

theorem receive_unset (hd : packet.variant = .unset) {chIndex : Fin 8}
    (h : g.receive w stack channelId chIndex packet = .ok (.enqueued q)) :
    ∃ chIndex variant pkiEncrypted publicKey, q = { copied packet with
      channel := chIndex, variant := variant, pkiEncrypted := pkiEncrypted, publicKey := publicKey } := by
  unfold receive at h
  rw [hd] at h
  obtain ⟨r, hr, hs, rfl⟩ := deliver_enqueued.mp h
  unfold Station.perhapsDecode at hr
  rw [show (copied packet).variant = .unset from hd] at hr
  dsimp only at hr
  split_ifs at hr
  · cases hr
    cases hs
  · obtain ⟨key, i, d, -, he⟩ := decodeByChannel_success hr hs
    exact ⟨_, _, _, _, he⟩

/-- Nothing but the channel and the payload changes. -/
theorem receive_shape {chIndex : Fin 8} (h : g.receive w stack channelId chIndex packet = .ok (.enqueued q)) :
    ∃ chIndex variant pkiEncrypted publicKey, q = { copied packet with
      channel := chIndex, variant := variant, pkiEncrypted := pkiEncrypted, publicKey := publicKey } := by
  cases hd : packet.variant with
  | unset => exact receive_unset hd h
  | decoded d => exact ⟨_, _, _, _, ((receive_decoded hd).mp h).2.2.2.symm⟩
  | encrypted bytes => exact (receive_encrypted hd h).1

theorem channel_inj : ∀ {i j : Fin 8}, UInt8.ofNat i.val = UInt8.ofNat j.val → i = j := by
  decide

/-- Only what the user enabled gets to the router exactly where a decoded packet that nothing else keeps out
enters by a channel with its downlink enabled. -/
theorem admitsOnly_iff : g.AdmitsOnly w stack e ↔ g.EntersByDownlink e := by
  constructor
  · intro h channelId gatewayId packet d he hd hpasses hencryption hport hsender
    subst he
    obtain ⟨_, _, _, he, hallowed⟩ := h _ (onReceiveProto_enqueued.mpr
      ⟨hpasses, (receive_decoded hd).mpr ⟨hencryption, hport, hsender, rfl⟩⟩)
    cases he
    obtain ⟨⟨i, hi, hdown⟩, -⟩ := hallowed.decoded d hd
    rw [channel_inj hi]
    exact hdown
  · intro h q hq
    obtain ⟨_ | channelId, _ | gatewayId, _ | packet⟩ := e
    case some.some.some =>
      refine ⟨channelId, gatewayId, packet, rfl, ?_⟩
      obtain ⟨hpasses, hreceive⟩ := onReceiveProto_enqueued.mp hq
      obtain ⟨chIndex, variant, pkiEncrypted, publicKey, hshape⟩ := receive_shape hreceive
      refine ⟨⟨hpasses.foreign, ?_⟩, hpasses.gateway, ?_, ?_, fun d hd => ?_, fun bytes hd => ?_⟩
      · rw [hshape]
        exact hpasses.foreign
      · rw [hshape]
        exact hpasses.hops
      · rw [hshape]
        exact ⟨rfl, rfl⟩
      · obtain ⟨hencryption, hport, hsender, he⟩ := (receive_decoded hd).mp hreceive
        have hdown := h channelId gatewayId packet d rfl hd hpasses hencryption hport hsender
        exact ⟨⟨_, congrArg MeshPacket.channel he.symm, hdown⟩, hport, hencryption⟩
      · exact (receive_encrypted hd hreceive).2
    all_goals cases hq

/-- Only the second channel has its downlink enabled. -/
def secondDownlink : Gateway :=
  { station :=
      { nodeNum := 1, isLicensed := false, okToMqtt := false, forceSimradio := false, knownOnly := false
        privateKey := [], publicKey := [], getMeshNode := fun _ => none, key := []
        channels := { Channels.zero with
          channels := fun i => ⟨i, true, ⟨[1], if i.val = 1 then ascii "Home" else []⟩,
            if i.val = 0 then .primary else if i.val = 1 then .secondary else .disabled⟩ } }
    nodeId := ascii "!00000001", downlinkEnabled := fun i => i.val = 1, encryptionEnabled := false }

/-- A text of node 2 in the clear. -/
def plainText : MeshPacket :=
  { MeshPacket.zero with
    from' := 2, to' := nodenumBroadcast, variant := .decoded { Data.zero with portnum := textMessageApp } }

/-- With "PKI" for its channel the text comes in on the primary channel. -/
theorem plainText_entersPrimary : ¬ secondDownlink.AdmitsOnly
    ⟨fun _ => [], fun _ => none, fun _ _ _ bs => bs, fun _ _ _ _ _ bs => bs, fun _ _ _ _ _ => none⟩ 8
    ⟨some pki, some (ascii "!00000002"), some plainText⟩ := by
  intro h
  obtain ⟨_, _, _, he, hallowed⟩ := h { copied plainText with channel := 0 } rfl
  cases he
  obtain ⟨⟨i, hi, hdown⟩, -⟩ := hallowed.decoded _ rfl
  have hi : i = Fin.ofNat 8 0 := channel_inj hi.symm
  subst hi
  exact Bool.false_ne_true hdown

end Gateway
end MonsterMesh

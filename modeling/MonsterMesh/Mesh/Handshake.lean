import Mathlib.Data.List.Basic
import MonsterMesh.Lib.Text
import MonsterMesh.Lib.Walk

/-! The connection to a phone: what `getFromRadio` hands out, one message a call. -/
namespace MonsterMesh

open Text

namespace PhoneAPI

inductive State where
  | sendNothing | sendUidata | sendMyInfo | sendOwnNodeinfo | sendMetadata | sendChannels | sendConfig
  | sendModuleconfig | sendOtherNodeinfos | sendFilemanifest | sendCompleteId | sendPackets
deriving DecidableEq, Repr

structure NodeInfo where
  (num lastHeard : UInt32)
  snr : ℤ
  (hasHopsAway : Bool)
  hopsAway : UInt8
  (viaMqtt isFavorite : Bool)
deriving DecidableEq

structure FileInfo where
  fileName : Str
  sizeBytes : UInt32
deriving DecidableEq

/-- A message to the phone; the payload of a configuration message is named by its tag. -/
inductive FromRadio where
  | queueStatus
  | myInfo (nodedbCount : UInt16)
  | deviceuiConfig
  | nodeInfo (info : NodeInfo)
  | metadata
  | channel (index : UInt8)
  | config (tag : UInt8)
  | moduleConfig (tag : UInt8)
  | fileInfo (f : FileInfo)
  | configCompleteId (nonce : UInt32)
  | packet (id : UInt32)
deriving DecidableEq

/-- What a call reads of the rest of the firmware. -/
structure Moment where
  nodes : List NodeInfo
  nodeNum : UInt32
  time : UInt32
  files : List FileInfo
  /-- The emulator owns the device. -/
  suspended : Bool
  /-- The first packet that waits for the phone. -/
  waiting : Option UInt32

def specialNonceOnlyConfig : UInt32 := 69420

def specialNonceOnlyNodes : UInt32 := 69421

def maxNumChannels : UInt8 := 8

/-- `_meshtastic_AdminMessage_ConfigType_MAX + 1` -/
def lastConfigTag : UInt8 := 10

/-- `_meshtastic_AdminMessage_ModuleConfigType_MAX + 1` -/
def lastModuleTag : UInt8 := 13

def nodePrefetchDepth : ℕ := 4

def NodeInfo.blank : NodeInfo := ⟨0, 0, 0, false, 0, false, false⟩

end PhoneAPI

structure PhoneAPI where
  state : PhoneAPI.State
  configState : UInt8
  configNonce : UInt32
  readIndex : ℕ
  nodeInfoForPhone : PhoneAPI.NodeInfo
  nodeInfoQueue : List PhoneAPI.NodeInfo
  filesManifest : List PhoneAPI.FileInfo
  heartbeatReceived : Bool

namespace PhoneAPI

variable (m : Moment) (a : PhoneAPI)

def boot : PhoneAPI := ⟨.sendNothing, 0, 0, 0, .blank, [], [], false⟩

def handleStartConfig : PhoneAPI :=
  { a with
    state := if a.configNonce = specialNonceOnlyNodes then .sendOwnNodeinfo else .sendMyInfo
    filesManifest := m.files
    nodeInfoForPhone := .blank
    nodeInfoQueue := []
    readIndex := 0 }

def close : PhoneAPI := if a.state ≠ .sendNothing then boot else a

/-- The record of another node as the phone is told it; our own shows no hops. -/
def NodeInfo.forPhone (info : NodeInfo) : NodeInfo :=
  if info.num = m.nodeNum then
    { info with hopsAway := 0, lastHeard := m.time, snr := 0, viaMqtt := false, isFavorite := true }
  else info

/-- The queue is filled up from the table. -/
def prefetchNodeInfos : PhoneAPI :=
  let fresh := (m.nodes.drop a.readIndex).take (nodePrefetchDepth - a.nodeInfoQueue.length)
  { a with
    nodeInfoQueue := a.nodeInfoQueue ++ fresh.map (NodeInfo.forPhone m)
    readIndex := a.readIndex + fresh.length }

/-- Only the first half of `available`: in the steady state it is `Moment.waiting`. -/
def fillQueue : PhoneAPI := if a.nodeInfoQueue = [] then a.prefetchNodeInfos m else a

def sendConfigComplete : FromRadio × PhoneAPI :=
  (.configCompleteId a.configNonce, { a with configNonce := 0, state := .sendPackets })

def sendFilemanifest : Option FromRadio × PhoneAPI :=
  if a.configState.toNat = a.filesManifest.length ∨ a.configNonce = specialNonceOnlyNodes then
    (some { a with configState := 0, filesManifest := [] }.sendConfigComplete.1,
      { a with configState := 0, filesManifest := [] }.sendConfigComplete.2)
  else (a.filesManifest[a.configState.toNat]?.map .fileInfo, { a with configState := a.configState + 1 })

def sendOwnNodeinfo : Option FromRadio × PhoneAPI :=
  let next : State := if a.configNonce = specialNonceOnlyNodes then .sendOtherNodeinfos else .sendMetadata
  match m.nodes[a.readIndex]? with
  | some us =>
    let info := { us with hasHopsAway := false, isFavorite := true }
    (some (.nodeInfo info),
      { a with readIndex := a.readIndex + 1, nodeInfoForPhone := { info with num := 0 }, state := next })
  | none => (none, { a with state := next })

def sendChannels : Option FromRadio × PhoneAPI :=
  (some (.channel a.configState),
    if maxNumChannels ≤ a.configState + 1 then { a with state := .sendConfig, configState := 1 }
    else { a with configState := a.configState + 1 })

def sendConfig : Option FromRadio × PhoneAPI :=
  (some (.config a.configState),
    if lastConfigTag < a.configState + 1 then { a with state := .sendModuleconfig, configState := 1 }
    else { a with configState := a.configState + 1 })

def sendModuleconfig : Option FromRadio × PhoneAPI :=
  (some (.moduleConfig a.configState),
    if lastModuleTag < a.configState + 1 then
      { a with
        state := if a.configNonce = specialNonceOnlyConfig then .sendFilemanifest else .sendOtherNodeinfos
        configState := 0 }
    else { a with configState := a.configState + 1 })

/-- The next record; without one the file manifest begins in the same call. -/
def sendOtherNodeinfos : Option FromRadio × PhoneAPI :=
  let r := match a.nodeInfoQueue with
    | info :: rest =>
      if a.nodeInfoForPhone.num = 0 then (info, { a with nodeInfoQueue := rest })
      else (a.nodeInfoForPhone, a)
    | [] => (a.nodeInfoForPhone, a)
  if r.1.num ≠ 0 then
    (some (.nodeInfo r.1), { r.2 with nodeInfoForPhone := .blank }.prefetchNodeInfos m)
  else { r.2 with nodeInfoForPhone := r.1, nodeInfoQueue := [], state := .sendFilemanifest }.sendFilemanifest

def getFromRadio : Option FromRadio × PhoneAPI :=
  if m.suspended then (none, a)
  else if a.heartbeatReceived then (some .queueStatus, { a with heartbeatReceived := false })
  else match a.state with
    | .sendNothing => (none, a)
    | .sendMyInfo => (some (.myInfo (UInt16.ofNat m.nodes.length)), { a with state := .sendUidata })
    | .sendUidata => (some .deviceuiConfig, { a with state := .sendOwnNodeinfo })
    | .sendOwnNodeinfo => a.sendOwnNodeinfo m
    | .sendMetadata => (some .metadata, { a with state := .sendChannels })
    | .sendChannels => a.sendChannels
    | .sendConfig => a.sendConfig
    | .sendModuleconfig => a.sendModuleconfig
    | .sendOtherNodeinfos => (a.fillQueue m).sendOtherNodeinfos m
    | .sendFilemanifest => a.sendFilemanifest
    | .sendCompleteId => (some a.sendConfigComplete.1, a.sendConfigComplete.2)
    | .sendPackets => (m.waiting.map .packet, a)

inductive Call where
  | wantConfigId (nonce : UInt32)
  | heartbeat
  | disconnect
  | getFromRadio

/-- `handleToRadio` on what the phone sends, or the next message it asks for. -/
def call : Call → Option FromRadio × PhoneAPI
  | .wantConfigId nonce =>
    (none, if m.suspended then a else { a with configNonce := nonce }.handleStartConfig m)
  | .heartbeat => (none, if m.suspended then a else { a with heartbeatReceived := true })
  | .disconnect => (none, if m.suspended then a else a.close)
  | .getFromRadio => a.getFromRadio m

end PhoneAPI
end MonsterMesh

/-! A configuration handshake hands the phone everything it asked for, once and in order. -/
namespace MonsterMesh.PhoneAPI

open Walk

variable {a : PhoneAPI} {m : Moment} {own : NodeInfo} {others : List NodeInfo}

/-! ### What is still to come -/

def tags (first last : ℕ) : List UInt8 := (List.range' first (last + 1 - first)).map UInt8.ofNat

theorem succ_toNat {c : UInt8} (h : c.toNat < 255) : (c + 1).toNat = c.toNat + 1 := by
  have hone : (1 : UInt8).toNat = 1 := rfl
  rw [UInt8.toNat_add, hone]
  omega

theorem tags_cons {c : UInt8} {last : ℕ} (h : c.toNat ≤ last) (hl : last < 255) :
    tags c.toNat last = c :: tags (c + 1).toNat last := by
  unfold tags
  rw [succ_toNat (by omega), show last + 1 - c.toNat = last + 1 - (c.toNat + 1) + 1 by omega,
    List.range'_succ, List.map_cons, UInt8.ofNat_toNat]

def fileScript (a : PhoneAPI) (k : ℕ) : List FromRadio :=
  (if a.configNonce = specialNonceOnlyNodes then [] else (a.filesManifest.drop k).map .fileInfo) ++
    [.configCompleteId a.configNonce]

def nodeScript (a : PhoneAPI) (queue : List NodeInfo) : List FromRadio :=
  queue.map .nodeInfo ++ a.fileScript 0

def moduleScript (a : PhoneAPI) (others : List NodeInfo) (first : ℕ) : List FromRadio :=
  (tags first 13).map .moduleConfig ++
    if a.configNonce = specialNonceOnlyConfig then a.fileScript 0 else a.nodeScript others

def configScript (a : PhoneAPI) (others : List NodeInfo) (first : ℕ) : List FromRadio :=
  (tags first 10).map .config ++ a.moduleScript others 1

/-- The channels from the counter on; at least one is sent. -/
def channelScript (a : PhoneAPI) (others : List NodeInfo) : List FromRadio :=
  (tags a.configState.toNat (max 7 a.configState.toNat)).map .channel ++ a.configScript others 1

def ownScript (a : PhoneAPI) (own : NodeInfo) (others : List NodeInfo) : List FromRadio :=
  .nodeInfo { own with hasHopsAway := false, isFavorite := true } ::
    if a.configNonce = specialNonceOnlyNodes then a.nodeScript others
    else .metadata :: a.channelScript others

/-- The messages a handshake still owes the phone. -/
def owed (a : PhoneAPI) (own : NodeInfo) (others : List NodeInfo) : List FromRadio :=
  match a.state with
  | .sendNothing | .sendPackets => []
  | .sendMyInfo => .myInfo (UInt16.ofNat (others.length + 1)) :: .deviceuiConfig :: a.ownScript own others
  | .sendUidata => .deviceuiConfig :: a.ownScript own others
  | .sendOwnNodeinfo => a.ownScript own others
  | .sendMetadata => .metadata :: a.channelScript others
  | .sendChannels => a.channelScript others
  | .sendConfig => a.configScript others a.configState.toNat
  | .sendModuleconfig => a.moduleScript others a.configState.toNat
  | .sendOtherNodeinfos => a.nodeScript (a.nodeInfoQueue ++ others.drop (a.readIndex - 1))
  | .sendFilemanifest => a.fileScript a.configState.toNat
  | .sendCompleteId => [.configCompleteId a.configNonce]

/-- The counter belongs to the stage of the handshake. -/
def Counted (a : PhoneAPI) : Prop :=
  match a.state with
  | .sendNothing | .sendPackets => False
  | .sendMyInfo | .sendUidata | .sendOwnNodeinfo | .sendMetadata | .sendChannels => a.configState.toNat < 254
  | .sendConfig => 1 ≤ a.configState.toNat ∧ a.configState.toNat ≤ 10
  | .sendModuleconfig => 1 ≤ a.configState.toNat ∧ a.configState.toNat ≤ 13
  | .sendOtherNodeinfos => a.configNonce = specialNonceOnlyNodes ∨ a.configState = 0
  | .sendFilemanifest => a.configNonce = specialNonceOnlyNodes ∨ a.configState.toNat ≤ a.filesManifest.length
  | .sendCompleteId => True

/-- The stages before and after our own record. -/
def Placed (a : PhoneAPI) : Prop :=
  match a.state with
  | .sendMyInfo | .sendUidata | .sendOwnNodeinfo => a.readIndex = 0 ∧ a.nodeInfoQueue = []
  | .sendMetadata | .sendChannels | .sendConfig | .sendModuleconfig => a.readIndex = 1 ∧ a.nodeInfoQueue = []
  | .sendOtherNodeinfos => 1 ≤ a.readIndex
  | _ => True

structure Midway (a : PhoneAPI) : Prop where
  counted : a.Counted
  placed : a.Placed
  vacant : a.nodeInfoForPhone.num = 0
  queued : ∀ info ∈ a.nodeInfoQueue, info.num ≠ 0
  listed : a.filesManifest.length < 256

/-- The table of the moment: our own node first, every other with a number of its own. -/
structure Tabled (m : Moment) (own : NodeInfo) (others : List NodeInfo) : Prop where
  nodes : m.nodes = own :: others
  numbered : ∀ info ∈ others, info.num ≠ 0 ∧ info.num ≠ m.nodeNum

/-- The next message is the first one owed, and the others stay owed. -/
def Hands (r : Option FromRadio × PhoneAPI) (a : PhoneAPI) (own : NodeInfo) (others : List NodeInfo) : Prop :=
  ∃ o, r.1 = some o ∧ a.owed own others = o :: r.2.owed own others ∧
    r.2.heartbeatReceived = a.heartbeatReceived ∧ (r.2.Midway ∨ r.2.state = .sendPackets)

theorem complete_hands (h : a.state = .sendFilemanifest)
    (hd : a.configState.toNat = a.filesManifest.length ∨ a.configNonce = specialNonceOnlyNodes) :
    Hands a.sendFilemanifest a own others := by
  unfold sendFilemanifest
  rw [if_pos hd]
  refine ⟨_, rfl, ?_, rfl, Or.inr rfl⟩
  show a.owed own others = [.configCompleteId a.configNonce]
  unfold owed fileScript
  rw [h]
  rcases hd with hd | hd
  · simp [hd]
  · simp [hd]

theorem sendFilemanifest_hands (h : a.Midway) (hs : a.state = .sendFilemanifest) :
    Hands a.sendFilemanifest a own others := by
  by_cases hd : a.configState.toNat = a.filesManifest.length ∨ a.configNonce = specialNonceOnlyNodes
  · exact complete_hands hs hd
  · have hn := not_or.mp hd
    have hc := h.counted
    unfold Counted at hc
    rw [hs] at hc
    have hle : a.configState.toNat ≤ a.filesManifest.length := hc.resolve_left hn.2
    have hl := h.listed
    have hlt : a.configState.toNat < a.filesManifest.length := by omega
    have hsucc : (a.configState + 1).toNat = a.configState.toNat + 1 := succ_toNat (by omega)
    have hcount : ({ a with configState := a.configState + 1 } : PhoneAPI).Counted := by
      unfold Counted
      rw [hs]
      exact Or.inr (show (a.configState + 1).toNat ≤ a.filesManifest.length by omega)
    have hplaced : ({ a with configState := a.configState + 1 } : PhoneAPI).Placed := by
      unfold Placed
      rw [hs]
      trivial
    unfold sendFilemanifest
    rw [if_neg hd]
    refine ⟨.fileInfo (a.filesManifest[a.configState.toNat]), ?_, ?_, rfl,
      Or.inl ⟨hcount, hplaced, h.vacant, h.queued, h.listed⟩⟩
    · rw [List.getElem?_eq_getElem hlt, Option.map_some]
    · unfold owed
      rw [hs]
      unfold fileScript
      rw [if_neg hn.2, if_neg hn.2, List.drop_eq_getElem_cons hlt, hsucc, List.map_cons, List.cons_append]

theorem tags_self (c : UInt8) : tags c.toNat c.toNat = [c] := by
  simp [tags]

theorem tags_empty {first last : ℕ} (h : last < first) : tags first last = [] := by
  unfold tags
  rw [show last + 1 - first = 0 by omega]
  rfl

theorem sendChannels_hands (h : a.Midway) (hs : a.state = .sendChannels) :
    Hands a.sendChannels a own others := by
  have hc := h.counted
  have hp := h.placed
  unfold Counted at hc
  unfold Placed at hp
  rw [hs] at hc hp
  have hc' : a.configState.toNat < 254 := hc
  have hsucc : (a.configState + 1).toNat = a.configState.toNat + 1 := succ_toNat (by omega)
  have howed : a.owed own others = a.channelScript others := by
    unfold owed
    rw [hs]
  have hmax : maxNumChannels.toNat = 8 := rfl
  unfold sendChannels
  by_cases hl : maxNumChannels ≤ a.configState + 1
  · rw [if_pos hl]
    rw [UInt8.le_iff_toNat_le, hsucc, hmax] at hl
    have hfirst : 1 ≤ (1 : UInt8).toNat ∧ (1 : UInt8).toNat ≤ 10 := by decide
    refine ⟨_, rfl, ?_, rfl, Or.inl ⟨hfirst, hp, h.vacant, h.queued, h.listed⟩⟩
    rw [howed, channelScript, Nat.max_eq_right (by omega), tags_self]
    rfl
  · rw [if_neg hl]
    rw [UInt8.le_iff_toNat_le, hsucc, hmax] at hl
    have hcount : ({ a with configState := a.configState + 1 } : PhoneAPI).Counted := by
      unfold Counted
      rw [hs]
      show (a.configState + 1).toNat < 254
      omega
    have hplaced : ({ a with configState := a.configState + 1 } : PhoneAPI).Placed := by
      unfold Placed
      rw [hs]
      exact hp
    refine ⟨_, rfl, ?_, rfl, Or.inl ⟨hcount, hplaced, h.vacant, h.queued, h.listed⟩⟩
    rw [howed, channelScript, Nat.max_eq_left (by omega), tags_cons (by omega) (by omega)]
    unfold owed
    rw [hs]
    show _ = FromRadio.channel a.configState ::
      ((tags (a.configState + 1).toNat (max 7 (a.configState + 1).toNat)).map _ ++ _)
    rw [Nat.max_eq_left (by omega)]
    rfl

theorem sendConfig_hands (h : a.Midway) (hs : a.state = .sendConfig) : Hands a.sendConfig a own others := by
  have hc := h.counted
  have hp := h.placed
  unfold Counted at hc
  unfold Placed at hp
  rw [hs] at hc hp
  obtain ⟨h1, h10⟩ : 1 ≤ a.configState.toNat ∧ a.configState.toNat ≤ 10 := hc
  have hsucc : (a.configState + 1).toNat = a.configState.toNat + 1 := succ_toNat (by omega)
  have howed : a.owed own others = a.configScript others a.configState.toNat := by
    unfold owed
    rw [hs]
  have hlast : lastConfigTag.toNat = 10 := rfl
  unfold Hands
  rw [howed, configScript, tags_cons h10 (by omega)]
  unfold sendConfig
  by_cases hl : lastConfigTag < a.configState + 1
  · rw [if_pos hl]
    rw [UInt8.lt_iff_toNat_lt, hsucc, hlast] at hl
    have hfirst : 1 ≤ (1 : UInt8).toNat ∧ (1 : UInt8).toNat ≤ 13 := by decide
    refine ⟨_, rfl, ?_, rfl, Or.inl ⟨hfirst, hp, h.vacant, h.queued, h.listed⟩⟩
    rw [tags_empty (by omega)]
    rfl
  · rw [if_neg hl]
    rw [UInt8.lt_iff_toNat_lt, hsucc, hlast] at hl
    have hcount : ({ a with configState := a.configState + 1 } : PhoneAPI).Counted := by
      unfold Counted
      rw [hs]
      show 1 ≤ (a.configState + 1).toNat ∧ (a.configState + 1).toNat ≤ 10
      omega
    have hplaced : ({ a with configState := a.configState + 1 } : PhoneAPI).Placed := by
      unfold Placed
      rw [hs]
      exact hp
    refine ⟨_, rfl, ?_, rfl, Or.inl ⟨hcount, hplaced, h.vacant, h.queued, h.listed⟩⟩
    unfold owed
    rw [hs]
    rfl

theorem sendModuleconfig_hands (h : a.Midway) (hs : a.state = .sendModuleconfig) :
    Hands a.sendModuleconfig a own others := by
  have hc := h.counted
  have hp := h.placed
  unfold Counted at hc
  unfold Placed at hp
  rw [hs] at hc hp
  obtain ⟨h1, h13⟩ : 1 ≤ a.configState.toNat ∧ a.configState.toNat ≤ 13 := hc
  obtain ⟨hread, hqueue⟩ : a.readIndex = 1 ∧ a.nodeInfoQueue = [] := hp
  have hsucc : (a.configState + 1).toNat = a.configState.toNat + 1 := succ_toNat (by omega)
  have howed : a.owed own others = a.moduleScript others a.configState.toNat := by
    unfold owed
    rw [hs]
  have hlast : lastModuleTag.toNat = 13 := rfl
  unfold Hands
  rw [howed, moduleScript, tags_cons h13 (by omega)]
  unfold sendModuleconfig
  by_cases hl : lastModuleTag < a.configState + 1
  · rw [if_pos hl]
    rw [UInt8.lt_iff_toNat_lt, hsucc, hlast] at hl
    rw [tags_empty (by omega)]
    by_cases hn : a.configNonce = specialNonceOnlyConfig
    · simp only [if_pos hn]
      exact ⟨_, rfl, rfl, trivial, Or.inl ⟨Or.inr (Nat.zero_le _), trivial, h.vacant, h.queued, h.listed⟩⟩
    · simp only [if_neg hn]
      refine ⟨_, rfl, ?_, trivial, Or.inl ⟨Or.inr rfl, hread.ge, h.vacant, h.queued, h.listed⟩⟩
      show _ = FromRadio.moduleConfig a.configState ::
        a.nodeScript (a.nodeInfoQueue ++ others.drop (a.readIndex - 1))
      rw [hread, hqueue]
      rfl
  · rw [if_neg hl]
    rw [UInt8.lt_iff_toNat_lt, hsucc, hlast] at hl
    have hcount : ({ a with configState := a.configState + 1 } : PhoneAPI).Counted := by
      unfold Counted
      rw [hs]
      show 1 ≤ (a.configState + 1).toNat ∧ (a.configState + 1).toNat ≤ 13
      omega
    have hplaced : ({ a with configState := a.configState + 1 } : PhoneAPI).Placed := by
      unfold Placed
      rw [hs]
      exact ⟨hread, hqueue⟩
    refine ⟨_, rfl, ?_, rfl, Or.inl ⟨hcount, hplaced, h.vacant, h.queued, h.listed⟩⟩
    unfold owed
    rw [hs]
    rfl

theorem sendOwnNodeinfo_hands (h : a.Midway) (hs : a.state = .sendOwnNodeinfo) (hm : Tabled m own others) :
    Hands (a.sendOwnNodeinfo m) a own others := by
  have hc := h.counted
  have hp := h.placed
  unfold Counted at hc
  unfold Placed at hp
  rw [hs] at hc hp
  obtain ⟨hread, hqueue⟩ : a.readIndex = 0 ∧ a.nodeInfoQueue = [] := hp
  have howed : a.owed own others = a.ownScript own others := by
    unfold owed
    rw [hs]
  unfold Hands
  rw [howed, ownScript]
  unfold sendOwnNodeinfo
  rw [hm.nodes, hread]
  by_cases hn : a.configNonce = specialNonceOnlyNodes
  · simp only [if_pos hn]
    refine ⟨_, rfl, ?_, rfl, Or.inl ⟨Or.inl hn, Nat.le_refl 1, rfl, h.queued, h.listed⟩⟩
    show _ = FromRadio.nodeInfo _ :: a.nodeScript (a.nodeInfoQueue ++ others)
    rw [hqueue]
    rfl
  · simp only [if_neg hn]
    exact ⟨_, rfl, rfl, rfl, Or.inl ⟨hc, ⟨rfl, hqueue⟩, rfl, h.queued, h.listed⟩⟩

theorem forPhone_other {info : NodeInfo} (h : info.num ≠ m.nodeNum) : info.forPhone m = info := by
  unfold NodeInfo.forPhone
  rw [if_neg h]

theorem take_rest (l : List NodeInfo) (n : ℕ) : l.take n ++ l.drop (l.take n).length = l := by
  rcases Nat.le_total n l.length with h | h
  · rw [List.length_take_of_le h, List.take_append_drop]
  · rw [List.take_of_length_le h, List.drop_length, List.append_nil]

/-- Filling the queue moves records from the table to it. -/
theorem prefetch_rest (hm : Tabled m own others) (hr : 1 ≤ a.readIndex) :
    (a.prefetchNodeInfos m).nodeInfoQueue ++ others.drop ((a.prefetchNodeInfos m).readIndex - 1) =
      a.nodeInfoQueue ++ others.drop (a.readIndex - 1) := by
  obtain ⟨k, hk⟩ := Nat.exists_eq_add_of_le hr
  have hdrop : m.nodes.drop a.readIndex = others.drop k := by
    rw [hm.nodes, hk, Nat.add_comm, List.drop_succ_cons]
  have hmap : ∀ n, ((others.drop k).take n).map (NodeInfo.forPhone m) = (others.drop k).take n := by
    intro n
    refine (List.map_congr_left fun info hi => ?_).trans (List.map_id _)
    exact forPhone_other (hm.numbered info (List.mem_of_mem_drop (List.mem_of_mem_take hi))).2
  have hidx : ∀ n, 1 + k + n - 1 = k + n := by omega
  show a.nodeInfoQueue ++ ((m.nodes.drop a.readIndex).take _).map (NodeInfo.forPhone m) ++
    others.drop (a.readIndex + ((m.nodes.drop a.readIndex).take _).length - 1) = _
  rw [hdrop, hmap, hk, hidx, Nat.add_sub_cancel_left, List.append_assoc, ← List.drop_drop, take_rest]

theorem prefetch_queued (hm : Tabled m own others) (hr : 1 ≤ a.readIndex)
    (hq : ∀ info ∈ a.nodeInfoQueue, info.num ≠ 0) :
    ∀ info ∈ (a.prefetchNodeInfos m).nodeInfoQueue, info.num ≠ 0 := by
  intro info hi
  have hall : ∀ info ∈ (a.prefetchNodeInfos m).nodeInfoQueue ++
      others.drop ((a.prefetchNodeInfos m).readIndex - 1), info.num ≠ 0 := by
    rw [prefetch_rest hm hr]
    intro info hi
    rcases List.mem_append.mp hi with hi | hi
    · exact hq info hi
    · exact (hm.numbered info (List.mem_of_mem_drop hi)).1
  exact hall info (List.mem_append_left _ hi)

/-- The queue is empty only when the table is read to its end. -/
theorem fillQueue_done (hm : Tabled m own others) (hr : 1 ≤ a.readIndex) (he : (a.fillQueue m).nodeInfoQueue = []) :
    a.nodeInfoQueue ++ others.drop (a.readIndex - 1) = [] := by
  unfold fillQueue at he
  by_cases hq : a.nodeInfoQueue = []
  · rw [if_pos hq] at he
    obtain ⟨k, hk⟩ := Nat.exists_eq_add_of_le hr
    have hfresh : ((m.nodes.drop a.readIndex).take (nodePrefetchDepth - a.nodeInfoQueue.length)).map
        (NodeInfo.forPhone m) = [] := (List.append_eq_nil_iff.mp he).2
    rw [List.map_eq_nil_iff, List.take_eq_nil_iff, hq, hm.nodes, hk, Nat.add_comm, List.drop_succ_cons] at hfresh
    have hk0 : others.drop k = [] := hfresh.resolve_left (by decide)
    rw [hq, hk, Nat.add_sub_cancel_left, hk0]
    rfl
  · rw [if_neg hq] at he
    exact absurd he hq

theorem fillQueue_cases (m : Moment) (a : PhoneAPI) : a.fillQueue m = a ∨ a.fillQueue m = a.prefetchNodeInfos m := by
  unfold fillQueue
  split_ifs
  · exact Or.inr rfl
  · exact Or.inl rfl

theorem fillQueue_rest (hm : Tabled m own others) (hr : 1 ≤ a.readIndex) :
    (a.fillQueue m).nodeInfoQueue ++ others.drop ((a.fillQueue m).readIndex - 1) =
      a.nodeInfoQueue ++ others.drop (a.readIndex - 1) := by
  rcases fillQueue_cases m a with he | he
  · rw [he]
  · rw [he, prefetch_rest hm hr]

/-- What filling the queue leaves alone. -/
theorem fillQueue_frame (m : Moment) (a : PhoneAPI) :
    (a.fillQueue m).state = a.state ∧ (a.fillQueue m).configState = a.configState ∧
      (a.fillQueue m).configNonce = a.configNonce ∧ (a.fillQueue m).nodeInfoForPhone = a.nodeInfoForPhone ∧
      (a.fillQueue m).filesManifest = a.filesManifest ∧
      (a.fillQueue m).heartbeatReceived = a.heartbeatReceived ∧ a.readIndex ≤ (a.fillQueue m).readIndex := by
  rcases fillQueue_cases m a with he | he
  · rw [he]
    exact ⟨rfl, rfl, rfl, rfl, rfl, rfl, le_rfl⟩
  · rw [he]
    exact ⟨rfl, rfl, rfl, rfl, rfl, rfl, Nat.le_add_right _ _⟩

theorem fillQueue_queued (hm : Tabled m own others) (hr : 1 ≤ a.readIndex)
    (hq : ∀ info ∈ a.nodeInfoQueue, info.num ≠ 0) : ∀ info ∈ (a.fillQueue m).nodeInfoQueue, info.num ≠ 0 := by
  rcases fillQueue_cases m a with he | he
  · rwa [he]
  · rw [he]
    exact prefetch_queued hm hr hq

theorem owed_nodes (h : a.state = .sendOtherNodeinfos) :
    a.owed own others = a.nodeScript (a.nodeInfoQueue ++ others.drop (a.readIndex - 1)) := by
  unfold owed
  rw [h]

theorem counted_nodes (h : a.state = .sendOtherNodeinfos) :
    a.Counted ↔ a.configNonce = specialNonceOnlyNodes ∨ a.configState = 0 := by
  unfold Counted
  rw [h]

theorem placed_nodes (h : a.state = .sendOtherNodeinfos) : a.Placed ↔ 1 ≤ a.readIndex := by
  unfold Placed
  rw [h]

/-- A record of the queue goes out. -/
theorem serve_hands {info : NodeInfo} {rest : List NodeInfo} (h : a.Midway) (hs : a.state = .sendOtherNodeinfos)
    (hm : Tabled m own others) (hq : a.nodeInfoQueue = info :: rest) :
    Hands (a.sendOtherNodeinfos m) a own others := by
  have hr := (placed_nodes hs).mp h.placed
  have hinfo : info.num ≠ 0 := h.queued info (by rw [hq]; exact List.mem_cons_self)
  have hrest : ∀ i ∈ rest, i.num ≠ 0 := fun i hi => h.queued i (by rw [hq]; exact List.mem_cons_of_mem _ hi)
  have hsend : a.sendOtherNodeinfos m = (some (.nodeInfo info),
      ({ a with nodeInfoQueue := rest, nodeInfoForPhone := .blank } : PhoneAPI).prefetchNodeInfos m) := by
    unfold sendOtherNodeinfos
    rw [hq]
    simp only [h.vacant, if_true, if_pos hinfo]
  have hkept := prefetch_rest (a := { a with nodeInfoQueue := rest, nodeInfoForPhone := .blank }) hm hr
  have hqueued := prefetch_queued (a := { a with nodeInfoQueue := rest, nodeInfoForPhone := .blank }) hm hr hrest
  have hs' : (({ a with nodeInfoQueue := rest, nodeInfoForPhone := .blank } : PhoneAPI).prefetchNodeInfos m).state =
      .sendOtherNodeinfos := hs
  have hplaced := (placed_nodes hs').mpr (hr.trans (Nat.le_add_right _ _))
  rw [hsend]
  refine ⟨_, rfl, ?_, rfl,
    Or.inl ⟨(counted_nodes hs').mpr ((counted_nodes hs).mp h.counted), hplaced, rfl, hqueued, h.listed⟩⟩
  rw [owed_nodes hs, owed_nodes hs', hkept, hq]
  rfl

/-- With nothing left to serve, the file manifest begins in the same call. -/
theorem served_hands (h : a.Midway) (hs : a.state = .sendOtherNodeinfos) (hq : a.nodeInfoQueue = [])
    (hrest : others.drop (a.readIndex - 1) = []) : Hands (a.sendOtherNodeinfos m) a own others := by
  have hsend : a.sendOtherNodeinfos m =
      ({ a with nodeInfoQueue := [], state := .sendFilemanifest } : PhoneAPI).sendFilemanifest := by
    unfold sendOtherNodeinfos
    rw [hq]
    simp only [h.vacant, ne_eq, not_true_eq_false, if_false]
  have hc := (counted_nodes hs).mp h.counted
  have hmid : ({ a with nodeInfoQueue := [], state := .sendFilemanifest } : PhoneAPI).Midway := by
    refine ⟨?_, trivial, h.vacant, by simp, h.listed⟩
    show a.configNonce = specialNonceOnlyNodes ∨ a.configState.toNat ≤ a.filesManifest.length
    rcases hc with hc | hc
    · exact Or.inl hc
    · exact Or.inr (by rw [hc]; exact Nat.zero_le _)
  have hhands : Hands ({ a with nodeInfoQueue := [], state := .sendFilemanifest } : PhoneAPI).sendFilemanifest
      { a with nodeInfoQueue := [], state := .sendFilemanifest } own others := sendFilemanifest_hands hmid rfl
  obtain ⟨o, ho, howed, hbeat, hnext⟩ := hhands
  rw [hsend]
  refine ⟨o, ho, ?_, hbeat, hnext⟩
  rw [← howed, owed_nodes hs, hq, hrest]
  show a.fileScript 0 = a.fileScript a.configState.toNat
  rcases hc with hc | hc
  · simp [fileScript, hc]
  · rw [hc]
    rfl

theorem fillQueue_midway (h : a.Midway) (hs : a.state = .sendOtherNodeinfos) (hm : Tabled m own others) :
    (a.fillQueue m).Midway := by
  have hr := (placed_nodes hs).mp h.placed
  have hc := (counted_nodes hs).mp h.counted
  obtain ⟨hstate, hcs, hnonce, hvac, hfiles, -, hle⟩ := fillQueue_frame m a
  refine ⟨(counted_nodes (hstate.trans hs)).mpr (by rw [hnonce, hcs]; exact hc),
    (placed_nodes (hstate.trans hs)).mpr (hr.trans hle), by rw [hvac]; exact h.vacant,
    fillQueue_queued hm hr h.queued, by rw [hfiles]; exact h.listed⟩

theorem sendOtherNodeinfos_hands (h : a.Midway) (hs : a.state = .sendOtherNodeinfos) (hm : Tabled m own others) :
    Hands ((a.fillQueue m).sendOtherNodeinfos m) a own others := by
  have hr := (placed_nodes hs).mp h.placed
  obtain ⟨hstate, -, hnonce, -, hfiles, hbeat, -⟩ := fillQueue_frame m a
  have hs' := hstate.trans hs
  have howed : (a.fillQueue m).owed own others = a.owed own others := by
    rw [owed_nodes hs', owed_nodes hs, fillQueue_rest hm hr]
    unfold nodeScript fileScript
    rw [hnonce, hfiles]
  have hhands : Hands ((a.fillQueue m).sendOtherNodeinfos m) (a.fillQueue m) own others := by
    cases hq : (a.fillQueue m).nodeInfoQueue with
    | nil =>
      have hall := fillQueue_rest hm hr
      rw [fillQueue_done hm hr hq, hq] at hall
      exact served_hands (fillQueue_midway h hs hm) hs' hq hall
    | cons info rest => exact serve_hands (fillQueue_midway h hs hm) hs' hm hq
  obtain ⟨o, ho, hnext, hb, hend⟩ := hhands
  exact ⟨o, ho, by rw [← howed, hnext], by rw [hb, hbeat], hend⟩

/-! ### One call and a whole handshake -/

theorem getFromRadio_hands (h : a.Midway) (hm : Tabled m own others) (hon : m.suspended = false)
    (hb : a.heartbeatReceived = false) : Hands (a.getFromRadio m) a own others := by
  have hc := h.counted
  have hp := h.placed
  have hnext : ∀ s : State, ({ a with state := s } : PhoneAPI).Counted → ({ a with state := s } : PhoneAPI).Placed →
      ({ a with state := s } : PhoneAPI).Midway := fun s hc hp => ⟨hc, hp, h.vacant, h.queued, h.listed⟩
  unfold getFromRadio
  rw [if_neg (by simp [hon]), if_neg (by simp [hb])]
  unfold Counted at hc
  unfold Placed at hp
  cases hs : a.state with
  | sendNothing =>
    rw [hs] at hc
    exact hc.elim
  | sendPackets =>
    rw [hs] at hc
    exact hc.elim
  | sendMyInfo =>
    rw [hs] at hc hp
    refine ⟨_, rfl, ?_, rfl, Or.inl (hnext _ hc hp)⟩
    unfold owed
    rw [hs, hm.nodes]
    rfl
  | sendUidata =>
    rw [hs] at hc hp
    refine ⟨_, rfl, ?_, rfl, Or.inl (hnext _ hc hp)⟩
    unfold owed
    rw [hs]
    rfl
  | sendOwnNodeinfo => exact sendOwnNodeinfo_hands h hs hm
  | sendMetadata =>
    rw [hs] at hc hp
    refine ⟨_, rfl, ?_, rfl, Or.inl (hnext _ hc hp)⟩
    unfold owed
    rw [hs]
    rfl
  | sendChannels => exact sendChannels_hands h hs
  | sendConfig => exact sendConfig_hands h hs
  | sendModuleconfig => exact sendModuleconfig_hands h hs
  | sendOtherNodeinfos => exact sendOtherNodeinfos_hands h hs hm
  | sendFilemanifest => exact sendFilemanifest_hands h hs
  | sendCompleteId =>
    refine ⟨_, rfl, ?_, rfl, Or.inr rfl⟩
    unfold owed
    rw [hs]
    rfl

/-- The connection and the messages the phone got so far. -/
def converse (s : PhoneAPI × List FromRadio) (c : Moment × Call) : PhoneAPI × List FromRadio :=
  ((s.1.call c.1 c.2).2, s.2 ++ (s.1.call c.1 c.2).1.toList)

/-- A message of a handshake, neither an answer to a heartbeat nor a packet. -/
def FromRadio.isSetup : FromRadio → Bool
  | .queueStatus | .packet _ => false
  | _ => true

/-- The phone only asks for messages and sends heartbeats. -/
def Quiet (c : Moment × Call) (own : NodeInfo) (others : List NodeInfo) : Prop :=
  Tabled c.1 own others ∧ (c.2 = .heartbeat ∨ c.2 = .getFromRadio)

def Moment.polled (c : Moment × Call) : Bool :=
  !c.1.suspended && match c.2 with
    | .getFromRadio => true
    | _ => false

def Moment.beat (c : Moment × Call) : Bool :=
  match c.2 with
  | .heartbeat => true
  | _ => false

/-- In a handshake or past it. -/
def Underway (a : PhoneAPI) : Prop := a.Midway ∨ a.state = .sendPackets

def flag (a : PhoneAPI) : ℕ := if a.heartbeatReceived then 1 else 0

theorem owed_done (h : a.state = .sendPackets) : a.owed own others = [] := by
  unfold owed
  rw [h]

/-- What one call hands out, and what it leaves owed. -/
structure Progress (r : Option FromRadio × PhoneAPI) (a : PhoneAPI) (own : NodeInfo) (others : List NodeInfo)
    (c : Moment × Call) : Prop where
  script : r.1.toList.filter FromRadio.isSetup ++ r.2.owed own others = a.owed own others
  underway : r.2.Underway
  pace : r.2.owed own others = [] ∨ (Moment.polled c).toNat + (r.2.owed own others).length + r.2.flag ≤
    (a.owed own others).length + a.flag + (Moment.beat c).toNat

theorem fileScript_setup (k : ℕ) : ∀ x ∈ a.fileScript k, x.isSetup = true := by
  intro x hx
  unfold fileScript at hx
  rcases List.mem_append.mp hx with hx | hx
  · split_ifs at hx
    · cases hx
    · obtain ⟨f, -, rfl⟩ := List.mem_map.mp hx
      rfl
  · rw [List.mem_singleton.mp hx]
    rfl

theorem nodeScript_setup (queue : List NodeInfo) : ∀ x ∈ a.nodeScript queue, x.isSetup = true := by
  intro x hx
  rcases List.mem_append.mp hx with hx | hx
  · obtain ⟨info, -, rfl⟩ := List.mem_map.mp hx
    rfl
  · exact fileScript_setup 0 x hx

theorem moduleScript_setup (first : ℕ) : ∀ x ∈ a.moduleScript others first, x.isSetup = true := by
  intro x hx
  rcases List.mem_append.mp hx with hx | hx
  · obtain ⟨t, -, rfl⟩ := List.mem_map.mp hx
    rfl
  · split_ifs at hx
    · exact fileScript_setup 0 x hx
    · exact nodeScript_setup others x hx

theorem configScript_setup (first : ℕ) : ∀ x ∈ a.configScript others first, x.isSetup = true := by
  intro x hx
  rcases List.mem_append.mp hx with hx | hx
  · obtain ⟨t, -, rfl⟩ := List.mem_map.mp hx
    rfl
  · exact moduleScript_setup 1 x hx

theorem channelScript_setup : ∀ x ∈ a.channelScript others, x.isSetup = true := by
  intro x hx
  rcases List.mem_append.mp hx with hx | hx
  · obtain ⟨t, -, rfl⟩ := List.mem_map.mp hx
    rfl
  · exact configScript_setup 1 x hx

theorem ownScript_setup : ∀ x ∈ a.ownScript own others, x.isSetup = true := by
  intro x hx
  rcases List.mem_cons.mp hx with rfl | hx
  · rfl
  · split_ifs at hx
    · exact nodeScript_setup others x hx
    · rcases List.mem_cons.mp hx with rfl | hx
      · rfl
      · exact channelScript_setup x hx

theorem owed_setup : ∀ x ∈ a.owed own others, x.isSetup = true := by
  intro x hx
  unfold owed at hx
  split at hx
  · cases hx
  · cases hx
  · rcases List.mem_cons.mp hx with rfl | hx
    · rfl
    · rcases List.mem_cons.mp hx with rfl | hx
      · rfl
      · exact ownScript_setup x hx
  · rcases List.mem_cons.mp hx with rfl | hx
    · rfl
    · exact ownScript_setup x hx
  · exact ownScript_setup x hx
  · rcases List.mem_cons.mp hx with rfl | hx
    · rfl
    · exact channelScript_setup x hx
  · exact channelScript_setup x hx
  · exact configScript_setup _ x hx
  · exact moduleScript_setup _ x hx
  · exact nodeScript_setup _ x hx
  · exact fileScript_setup _ x hx
  · rw [List.mem_singleton.mp hx]
    rfl

theorem beat_owed (b : Bool) : ({ a with heartbeatReceived := b } : PhoneAPI).owed own others = a.owed own others :=
  rfl

theorem Underway.beat (h : a.Underway) (b : Bool) : ({ a with heartbeatReceived := b } : PhoneAPI).Underway :=
  h.imp (fun h => ⟨h.counted, h.placed, h.vacant, h.queued, h.listed⟩) id

theorem flag_le (a : PhoneAPI) : a.flag ≤ 1 := by
  unfold flag
  split_ifs <;> omega

theorem heartbeat_progress (h : a.Underway) : Progress (a.call m .heartbeat) a own others (m, .heartbeat) := by
  by_cases hon : m.suspended = true
  · have hcall : a.call m .heartbeat = (none, a) := by simp [call, hon]
    rw [hcall]
    refine ⟨rfl, h, Or.inr ?_⟩
    simp [Moment.polled, Moment.beat]
  · have hcall : a.call m .heartbeat = (none, { a with heartbeatReceived := true }) := by simp [call, hon]
    rw [hcall]
    refine ⟨rfl, h.beat true, Or.inr ?_⟩
    have hf := flag_le { a with heartbeatReceived := true }
    simp only [Moment.polled, Moment.beat, Bool.and_false, Bool.toNat_false, Bool.toNat_true, beat_owed]
    omega

theorem getFromRadio_progress (h : a.Underway) (hm : Tabled m own others) :
    Progress (a.getFromRadio m) a own others (m, .getFromRadio) := by
  by_cases hon : m.suspended = true
  · have hcall : a.getFromRadio m = (none, a) := by simp [getFromRadio, hon]
    rw [hcall]
    refine ⟨rfl, h, Or.inr ?_⟩
    simp [Moment.polled, Moment.beat, hon]
  · by_cases hb : a.heartbeatReceived = true
    · have hcall : a.getFromRadio m = (some .queueStatus, { a with heartbeatReceived := false }) := by
        simp [getFromRadio, hon, hb]
      rw [hcall]
      refine ⟨rfl, h.beat false, Or.inr ?_⟩
      simp only [Moment.polled, Moment.beat, flag, hon, hb, beat_owed]
      simp
      omega
    · rw [Bool.not_eq_true] at hon hb
      rcases h with h | h
      · obtain ⟨o, ho, hnext, hbeat, hend⟩ := getFromRadio_hands h hm hon hb
        have hset : o.isSetup = true := owed_setup o (by rw [hnext]; exact List.mem_cons_self)
        refine ⟨?_, hend, Or.inr ?_⟩
        · rw [ho, Option.toList_some, List.filter_cons_of_pos hset, hnext]
          rfl
        · rw [hnext]
          simp only [Moment.polled, Moment.beat, flag, hon, hb, hbeat, List.length_cons]
          simp
          omega
      · have hcall : a.getFromRadio m = (m.waiting.map .packet, a) := by
          simp [getFromRadio, hon, hb, h]
        rw [hcall]
        refine ⟨?_, Or.inr h, Or.inl (owed_done h)⟩
        cases m.waiting <;> rfl

/-- One call of a phone that only asks and sends heartbeats. -/
theorem call_progress {c : Moment × Call} (h : a.Underway) (hc : Quiet c own others) :
    Progress (a.call c.1 c.2) a own others c := by
  obtain ⟨m, call⟩ := c
  obtain ⟨hm, rfl | rfl⟩ := hc
  · exact heartbeat_progress h
  · exact getFromRadio_progress h hm

/-- Enough calls after this one leave nothing owed. -/
theorem pace_cons {c : Moment × Call} {cs : List (Moment × Call)} {owed₁ owed₂ owed₃ flag₁ flag₂ flag₃ : ℕ}
    (hnext : owed₂ = 0 ∨ (Moment.polled c).toNat + owed₂ + flag₂ ≤ owed₁ + flag₁ + (Moment.beat c).toNat)
    (hzero : owed₂ = 0 → owed₃ = 0)
    (hrest : owed₃ = 0 ∨ cs.countP Moment.polled + owed₃ + flag₃ ≤ owed₂ + flag₂ + cs.countP Moment.beat) :
    owed₃ = 0 ∨ (c :: cs).countP Moment.polled + owed₃ + flag₃ ≤ owed₁ + flag₁ + (c :: cs).countP Moment.beat := by
  have hone : ∀ p : Moment × Call → Bool, (c :: cs).countP p = cs.countP p + (p c).toNat := by
    intro p
    rw [List.countP_cons]
    cases p c <;> rfl
  rw [hone, hone]
  rcases hnext with hnext | hnext
  · exact Or.inl (hzero hnext)
  · rcases hrest with hrest | hrest
    · exact Or.inl hrest
    · right
      omega

/-- What a run hands out and what it leaves owed make up the script, and enough calls leave nothing. -/
theorem run_progress (own : NodeInfo) (others : List NodeInfo) : ∀ (cs : List (Moment × Call)) (a : PhoneAPI)
    (told : List FromRadio), (∀ c ∈ cs, Quiet c own others) → a.Underway → ∃ new,
      (run converse (a, told) cs).2 = told ++ new ∧
      new.filter FromRadio.isSetup ++ (run converse (a, told) cs).1.owed own others = a.owed own others ∧
      (run converse (a, told) cs).1.Underway ∧
      (((run converse (a, told) cs).1.owed own others).length = 0 ∨
        cs.countP Moment.polled + ((run converse (a, told) cs).1.owed own others).length +
          (run converse (a, told) cs).1.flag ≤ (a.owed own others).length + a.flag + cs.countP Moment.beat) := by
  intro cs
  induction cs with
  | nil => exact fun a told _ h => ⟨[], by simp, by simp, h, Or.inr (by simp)⟩
  | cons c cs ih =>
    intro a told hq h
    obtain ⟨hscript, hunder, hpace⟩ := call_progress h (hq c List.mem_cons_self)
    obtain ⟨new, htold, hnew, hend, hleft⟩ := ih _ (told ++ (a.call c.1 c.2).1.toList)
      (fun x hx => hq x (List.mem_cons_of_mem _ hx)) hunder
    rw [run_cons]
    refine ⟨(a.call c.1 c.2).1.toList ++ new, ?_, ?_, hend, ?_⟩
    · rw [← List.append_assoc]
      exact htold
    · rw [List.filter_append, List.append_assoc]
      exact (congrArg _ hnew).trans hscript
    · refine pace_cons (hpace.imp_left fun h => List.length_eq_zero_iff.mpr h) (fun hz => ?_) hleft
      rw [List.length_eq_zero_iff] at hz ⊢
      rw [hz] at hnew
      exact (List.append_eq_nil_iff.mp hnew).2

/-! ### The counter over any history of calls -/

/-- The manifest is never overrun, whatever the phone did before. -/
structure Sound (a : PhoneAPI) : Prop where
  counter : a.configState.toNat < 254
  listed : a.filesManifest.length < 254
  files : a.state = .sendFilemanifest →
    a.configNonce = specialNonceOnlyNodes ∨ a.configState.toNat ≤ a.filesManifest.length
  nodes : a.state = .sendOtherNodeinfos → a.configNonce = specialNonceOnlyNodes ∨ a.configState = 0

theorem zero_low : (0 : UInt8).toNat < 254 := by decide

theorem one_low : (1 : UInt8).toNat < 254 := by decide

theorem boot_sound : Sound boot := by
  refine ⟨by decide, by decide, fun h => ?_, fun h => ?_⟩ <;> cases h

/-- Outside the two last stages only the counter matters. -/
theorem Sound.early (hc : a.configState.toNat < 254) (hl : a.filesManifest.length < 254)
    (hf : a.state ≠ .sendFilemanifest) (hn : a.state ≠ .sendOtherNodeinfos) : a.Sound :=
  ⟨hc, hl, fun h => absurd h hf, fun h => absurd h hn⟩

theorem complete_sound (h : a.configState.toNat < 254) (hl : a.filesManifest.length < 254) :
    a.sendConfigComplete.2.Sound :=
  Sound.early h hl (fun h => nomatch h) (fun h => nomatch h)

theorem sendFilemanifest_sound (h : a.Sound) (hs : a.state = .sendFilemanifest) : a.sendFilemanifest.2.Sound := by
  unfold sendFilemanifest
  by_cases hd : a.configState.toNat = a.filesManifest.length ∨ a.configNonce = specialNonceOnlyNodes
  · rw [if_pos hd]
    exact complete_sound zero_low (Nat.zero_lt_succ 253)
  · rw [if_neg hd]
    have hn := not_or.mp hd
    have hle := (h.files hs).resolve_left hn.2
    have hl := h.listed
    have hsucc : (a.configState + 1).toNat = a.configState.toNat + 1 := succ_toNat (by omega)
    refine ⟨?_, hl, fun _ => Or.inr ?_, fun h' => ?_⟩
    · show (a.configState + 1).toNat < 254
      omega
    · show (a.configState + 1).toNat ≤ a.filesManifest.length
      omega
    · exact absurd (hs.symm.trans h') (by decide)

theorem sendOwnNodeinfo_sound (h : a.Sound) : (a.sendOwnNodeinfo m).2.Sound := by
  have hnext : ∀ s, s = (if a.configNonce = specialNonceOnlyNodes then State.sendOtherNodeinfos else .sendMetadata) →
      (s = .sendFilemanifest → False) ∧ (s = .sendOtherNodeinfos → a.configNonce = specialNonceOnlyNodes) := by
    rintro s rfl
    split_ifs with hn
    · exact ⟨fun h => (nomatch h), fun _ => hn⟩
    · exact ⟨fun h => (nomatch h), fun h => (nomatch h)⟩
  obtain ⟨hf, hn⟩ := hnext _ rfl
  unfold sendOwnNodeinfo
  cases m.nodes[a.readIndex]? with
  | none => exact ⟨h.counter, h.listed, fun h' => (hf h').elim, fun h' => Or.inl (hn h')⟩
  | some us => exact ⟨h.counter, h.listed, fun h' => (hf h').elim, fun h' => Or.inl (hn h')⟩

theorem sendChannels_sound (h : a.Sound) (hs : a.state = .sendChannels) : a.sendChannels.2.Sound := by
  have hc := h.counter
  have hsucc : (a.configState + 1).toNat = a.configState.toNat + 1 := succ_toNat (by omega)
  have hmax : maxNumChannels.toNat = 8 := rfl
  unfold sendChannels
  split_ifs with hl
  · exact Sound.early one_low h.listed (fun h => nomatch h) (fun h => nomatch h)
  · rw [UInt8.le_iff_toNat_le, hsucc, hmax] at hl
    refine Sound.early ?_ h.listed (by simp [hs]) (by simp [hs])
    show (a.configState + 1).toNat < 254
    omega

theorem sendConfig_sound (h : a.Sound) (hs : a.state = .sendConfig) : a.sendConfig.2.Sound := by
  have hc := h.counter
  have hsucc : (a.configState + 1).toNat = a.configState.toNat + 1 := succ_toNat (by omega)
  have hlast : lastConfigTag.toNat = 10 := rfl
  unfold sendConfig
  split_ifs with hl
  · exact Sound.early one_low h.listed (fun h => nomatch h) (fun h => nomatch h)
  · rw [UInt8.lt_iff_toNat_lt, hsucc, hlast] at hl
    refine Sound.early ?_ h.listed (by simp [hs]) (by simp [hs])
    show (a.configState + 1).toNat < 254
    omega

theorem sendModuleconfig_sound (h : a.Sound) (hs : a.state = .sendModuleconfig) : a.sendModuleconfig.2.Sound := by
  have hc := h.counter
  have hsucc : (a.configState + 1).toNat = a.configState.toNat + 1 := succ_toNat (by omega)
  have hlast : lastModuleTag.toNat = 13 := rfl
  unfold sendModuleconfig
  by_cases hl : lastModuleTag < a.configState + 1
  · rw [if_pos hl]
    exact ⟨zero_low, h.listed, fun _ => Or.inr (Nat.zero_le _), fun _ => Or.inr rfl⟩
  · rw [if_neg hl]
    rw [UInt8.lt_iff_toNat_lt, hsucc, hlast] at hl
    refine Sound.early ?_ h.listed (by simp [hs]) (by simp [hs])
    show (a.configState + 1).toNat < 254
    omega

theorem fillQueue_sound (h : a.Sound) : (a.fillQueue m).Sound := by
  obtain ⟨hstate, hcs, hnonce, -, hfiles, -, -⟩ := fillQueue_frame m a
  refine ⟨?_, ?_, ?_, ?_⟩
  · rw [hcs]
    exact h.counter
  · rw [hfiles]
    exact h.listed
  · rw [hstate, hcs, hnonce, hfiles]
    exact h.files
  · rw [hstate, hcs, hnonce]
    exact h.nodes

/-- A record goes out, or the manifest begins. -/
theorem sendOtherNodeinfos_cases (m : Moment) (a : PhoneAPI) : ∃ (info : NodeInfo) (queue : List NodeInfo),
    a.sendOtherNodeinfos m = if info.num ≠ 0 then (some (.nodeInfo info),
      ({ a with nodeInfoQueue := queue, nodeInfoForPhone := .blank } : PhoneAPI).prefetchNodeInfos m)
    else ({ a with
      nodeInfoForPhone := info, nodeInfoQueue := [], state := .sendFilemanifest } : PhoneAPI).sendFilemanifest := by
  unfold sendOtherNodeinfos
  cases hq : a.nodeInfoQueue with
  | nil => exact ⟨a.nodeInfoForPhone, a.nodeInfoQueue, rfl⟩
  | cons info rest =>
    by_cases hv : a.nodeInfoForPhone.num = 0
    · refine ⟨info, rest, ?_⟩
      simp only [if_pos hv]
    · refine ⟨a.nodeInfoForPhone, a.nodeInfoQueue, ?_⟩
      simp only [if_neg hv]

/-- Serving a record touches neither counter nor manifest; the last one starts the manifest at zero. -/
theorem sendOtherNodeinfos_sound (h : a.Sound) (hs : a.state = .sendOtherNodeinfos) :
    (a.sendOtherNodeinfos m).2.Sound := by
  obtain ⟨info, queue, hsend⟩ := sendOtherNodeinfos_cases m a
  have hn := h.nodes hs
  rw [hsend]
  by_cases hi : info.num ≠ 0
  · rw [if_pos hi]
    exact ⟨h.counter, h.listed, h.files, h.nodes⟩
  · rw [if_neg hi]
    refine sendFilemanifest_sound ⟨h.counter, h.listed, fun _ => ?_, fun h' => (nomatch h')⟩ rfl
    refine hn.imp_right fun hz => ?_
    show a.configState.toNat ≤ _
    rw [hz]
    exact Nat.zero_le _

theorem getFromRadio_sound (h : a.Sound) : (a.getFromRadio m).2.Sound := by
  have hearly : ∀ s : State, s ≠ .sendFilemanifest → s ≠ .sendOtherNodeinfos →
      ({ a with state := s } : PhoneAPI).Sound := fun s hf hn => Sound.early h.counter h.listed hf hn
  unfold getFromRadio
  split_ifs
  · exact h
  · exact ⟨h.counter, h.listed, h.files, h.nodes⟩
  · cases hs : a.state with
    | sendNothing => exact h
    | sendPackets => exact h
    | sendMyInfo => exact hearly .sendUidata (by decide) (by decide)
    | sendUidata => exact hearly .sendOwnNodeinfo (by decide) (by decide)
    | sendOwnNodeinfo => exact sendOwnNodeinfo_sound h
    | sendMetadata => exact hearly .sendChannels (by decide) (by decide)
    | sendChannels => exact sendChannels_sound h hs
    | sendConfig => exact sendConfig_sound h hs
    | sendModuleconfig => exact sendModuleconfig_sound h hs
    | sendOtherNodeinfos => exact sendOtherNodeinfos_sound (fillQueue_sound h) ((fillQueue_frame m a).1.trans hs)
    | sendFilemanifest => exact sendFilemanifest_sound h hs
    | sendCompleteId => exact complete_sound h.counter h.listed

/-- Starting over keeps the counter, whatever stage it was left in. -/
theorem handleStartConfig_sound (h : a.Sound) (hm : m.files.length < 254) (nonce : UInt32) :
    ({ a with configNonce := nonce } : PhoneAPI).handleStartConfig m |>.Sound := by
  unfold handleStartConfig
  split_ifs
  · exact Sound.early h.counter hm (fun h => nomatch h) (fun h => nomatch h)
  · exact Sound.early h.counter hm (fun h => nomatch h) (fun h => nomatch h)

theorem call_sound (h : a.Sound) (hm : m.files.length < 254) (c : Call) : (a.call m c).2.Sound := by
  cases c with
  | wantConfigId nonce =>
    show (if m.suspended then a else _).Sound
    split_ifs
    · exact h
    · exact handleStartConfig_sound h hm nonce
  | heartbeat =>
    show (if m.suspended then a else _).Sound
    split_ifs
    · exact h
    · exact ⟨h.counter, h.listed, h.files, h.nodes⟩
  | disconnect =>
    show (if m.suspended then a else _).Sound
    split_ifs
    · exact h
    · unfold close
      split_ifs
      · exact boot_sound
      · exact h
  | getFromRadio => exact getFromRadio_sound h

theorem run_sound (cs : List (Moment × Call)) (hf : ∀ c ∈ cs, c.1.files.length < 254) :
    (run converse (boot, []) cs).1.Sound := by
  have hkeep : ∀ (s : PhoneAPI × List FromRadio), s.1.Sound → (run converse s cs).1.Sound := by
    induction cs with
    | nil => exact fun s h => h
    | cons c cs ih =>
      intro s h
      have hnext := call_sound h (hf c List.mem_cons_self) c.2
      exact ih (fun x hx => hf x (List.mem_cons_of_mem _ hx)) (converse s c) hnext
  exact hkeep _ boot_sound

/-! ### The whole script -/

/-- What a phone that sends `nonce` is told; the channels start at the counter as the request found it. -/
def script (first : UInt8) (nonce : UInt32) (own : NodeInfo) (others : List NodeInfo) (files : List FileInfo) :
    List FromRadio :=
  let us := FromRadio.nodeInfo { own with hasHopsAway := false, isFavorite := true }
  if nonce = specialNonceOnlyNodes then us :: others.map .nodeInfo ++ [.configCompleteId nonce]
  else
    [.myInfo (UInt16.ofNat (others.length + 1)), .deviceuiConfig, us, .metadata] ++
      (tags first.toNat (max 7 first.toNat)).map .channel ++ (tags 1 10).map .config ++
      (tags 1 13).map .moduleConfig ++ (if nonce = specialNonceOnlyConfig then [] else others.map .nodeInfo) ++
      files.map .fileInfo ++ [.configCompleteId nonce]

theorem start_owed (nonce : UInt32) :
    (({ a with configNonce := nonce } : PhoneAPI).handleStartConfig m).owed own others = script a.configState nonce own others m.files := by
  unfold handleStartConfig script
  by_cases hn : nonce = specialNonceOnlyNodes
  · simp [hn, owed, ownScript, nodeScript, fileScript]
  · by_cases hc : nonce = specialNonceOnlyConfig
    · simp [hc, owed, ownScript, channelScript, configScript, moduleScript, fileScript, specialNonceOnlyConfig,
        specialNonceOnlyNodes]
    · simp [hn, hc, owed, ownScript, channelScript, configScript, moduleScript, nodeScript, fileScript]

theorem start_underway (h : a.Sound) (hm : m.files.length < 254) (nonce : UInt32) :
    (({ a with configNonce := nonce } : PhoneAPI).handleStartConfig m).Underway := by
  have hc := h.counter
  left
  unfold handleStartConfig
  split_ifs
  · exact ⟨hc, ⟨rfl, rfl⟩, rfl, by simp, show m.files.length < 256 by omega⟩
  · exact ⟨hc, ⟨rfl, rfl⟩, rfl, by simp, show m.files.length < 256 by omega⟩

theorem fileScript_some (k : ℕ) : a.fileScript k ≠ [] := by
  simp [fileScript]

theorem nodeScript_some (queue : List NodeInfo) : a.nodeScript queue ≠ [] :=
  List.append_ne_nil_of_right_ne_nil _ (fileScript_some 0)

theorem moduleScript_some (first : ℕ) : a.moduleScript others first ≠ [] := by
  apply List.append_ne_nil_of_right_ne_nil
  split_ifs
  · exact fileScript_some 0
  · exact nodeScript_some others

theorem configScript_some (first : ℕ) : a.configScript others first ≠ [] :=
  List.append_ne_nil_of_right_ne_nil _ (moduleScript_some 1)

theorem channelScript_some : a.channelScript others ≠ [] :=
  List.append_ne_nil_of_right_ne_nil _ (configScript_some 1)

/-- Nothing is owed only outside a handshake. -/
theorem owed_some (h : a.Midway) : a.owed own others ≠ [] := by
  have hc := h.counted
  unfold Counted at hc
  unfold owed
  cases hs : a.state with
  | sendNothing =>
    rw [hs] at hc
    exact hc.elim
  | sendPackets =>
    rw [hs] at hc
    exact hc.elim
  | sendMyInfo => exact List.cons_ne_nil _ _
  | sendUidata => exact List.cons_ne_nil _ _
  | sendOwnNodeinfo => exact List.cons_ne_nil _ _
  | sendMetadata => exact List.cons_ne_nil _ _
  | sendChannels => exact channelScript_some
  | sendConfig => exact configScript_some _
  | sendModuleconfig => exact moduleScript_some _
  | sendOtherNodeinfos => exact nodeScript_some _
  | sendFilemanifest => exact fileScript_some _
  | sendCompleteId => exact List.cons_ne_nil _ _

def goat : NodeInfo := ⟨2, 50, 0, true, 1, false, false⟩

/-- A device that knows one other node and keeps one file. -/
def desk : Moment := ⟨[⟨1, 100, 0, false, 0, false, true⟩, goat], 1, 100, [⟨[47, 97], 12⟩], false, none⟩

end MonsterMesh.PhoneAPI

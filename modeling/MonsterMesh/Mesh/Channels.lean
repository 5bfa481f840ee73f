import MonsterMesh.Data.Species
import MonsterMesh.Lib.Run
import MonsterMesh.Lib.Text

/-! The channel table: the channels, their keys and the hashes that are kept of them. -/
namespace MonsterMesh

open Text

instance (priority := 1100) channelCount_neZero : @NeZero Nat Zero.ofOfNat0 8 := Nat.instNeZeroSucc

/-- `meshtastic_Channel_Role`, with any other number that the wire can bring. -/
inductive ChannelRole where
  | disabled
  | primary
  | secondary
  | unknown (value : ℕ)
deriving DecidableEq

structure ChannelSettings where
  psk : List UInt8
  name : Str
deriving DecidableEq

/-- `meshtastic_Channel`; `MAX_NUM_CHANNELS` is 8. -/
structure Channel where
  index : Fin 8
  hasSettings : Bool
  settings : ChannelSettings
  role : ChannelRole
deriving DecidableEq

inductive ModemPreset where
  | longFast
  | longSlow
  | veryLongSlow
  | mediumSlow
  | mediumFast
  | shortSlow
  | shortFast
  | longModerate
  | shortTurbo
deriving DecidableEq

structure LoraConfig where
  usePreset : Bool
  modemPreset : ModemPreset
deriving DecidableEq

def ascii (s : String) : Str := s.toList.map fun c => UInt8.ofNat c.toNat

/-- `getModemPresetDisplayName` with the long names. -/
def modemPresetDisplayName (preset : ModemPreset) (usePreset : Bool) : Str :=
  if usePreset then
    match preset with
    | .shortTurbo => ascii "ShortTurbo"
    | .shortSlow => ascii "ShortSlow"
    | .shortFast => ascii "ShortFast"
    | .mediumSlow => ascii "MediumSlow"
    | .mediumFast => ascii "MediumFast"
    | .longSlow => ascii "LongSlow"
    | .longFast => ascii "LongFast"
    | .longModerate => ascii "LongMod"
    | .veryLongSlow => ascii "Invalid"
  else ascii "Custom"

/-- The first `length` bytes of a `CryptoKey`; `none` where the length is -1. -/
abbrev CryptoKey := Option (List UInt8)

def defaultpsk : List UInt8 :=
  [0xd4, 0xf1, 0xbb, 0x3a, 0x20, 0x29, 0x07, 0x59, 0xf0, 0xbc, 0xff, 0xab, 0xcf, 0x4e, 0x69, 0x01]

/-- The channels, the index of the primary one, the hashes and the radio settings that name them. -/
@[ext]
structure Channels where
  channels : Fin 8 → Channel
  primaryIndex : Fin 8
  hashes : Fin 8 → ℤ
  lora : LoraConfig

/-- `getKey` calls itself without end. -/
inductive ChannelsFault where
  | stackOverflow
deriving DecidableEq

def xorHash (bs : List UInt8) : UInt8 := bs.foldl (· ^^^ ·) 0

/-- The key that the bytes of a psk stand for. -/
def expandPsk (psk : List UInt8) : List UInt8 :=
  match psk with
  | [] => []
  | [pskIndex] =>
    if pskIndex = 0 then [] else defaultpsk.take 15 ++ [(0x01 : UInt8) + pskIndex - 1]
  | _ =>
    if psk.length < 16 then psk ++ List.replicate (16 - psk.length) 0
    else if psk.length < 32 ∧ psk.length ≠ 16 then psk ++ List.replicate (32 - psk.length) 0
    else psk

namespace Channels

variable (c : Channels)

/-- `getKey`, as deep as the stack allows. -/
def getKey : ℕ → Fin 8 → Except ChannelsFault CryptoKey
  | 0, _ => .error .stackOverflow
  | stack + 1, chIndex =>
    let ch := c.channels chIndex
    if ch.hasSettings = false ∨ ch.role = .disabled then .ok none
    else if ch.settings.psk = [] ∧ ch.role = .secondary then getKey stack c.primaryIndex
    else .ok (some (expandPsk ch.settings.psk))

def getName (chIndex : Fin 8) : Str :=
  let channelName := (c.channels chIndex).settings.name
  if channelName = [] then
    if c.lora.usePreset then modemPresetDisplayName c.lora.modemPreset c.lora.usePreset
    else ascii "Custom"
  else channelName

/-- The hash of a name and a key. -/
def hashOf (name : Str) (k : CryptoKey) : ℤ :=
  match k with
  | none => -1
  | some bytes => (xorHash name ^^^ xorHash bytes).toNat

def generateHash (stack : ℕ) (channelNum : Fin 8) : Except ChannelsFault ℤ :=
  hashOf (c.getName channelNum) <$> c.getKey stack channelNum

/-- What `fixupChannel` makes of a channel. -/
def fixed (chIndex : Fin 8) (ch : Channel) : Channel :=
  if ch.hasSettings then
    { ch with index := chIndex, settings := { ch.settings with
        name := if ch.settings.name = ascii "Default" then [] else ch.settings.name } }
  else { index := chIndex, hasSettings := true, settings := ⟨[], []⟩, role := .disabled }

def fixChannel (chIndex : Fin 8) : Channels :=
  { c with channels := Function.update c.channels chIndex (fixed chIndex (c.channels chIndex)) }

def setHash (chIndex : Fin 8) (h : ℤ) : Channels := { c with hashes := Function.update c.hashes chIndex h }

def fixupChannel (stack : ℕ) (chIndex : Fin 8) : Except ChannelsFault Channels :=
  (c.fixChannel chIndex).setHash chIndex <$> (c.fixChannel chIndex).generateHash stack chIndex

/-- The primary index after a channel was looked at. -/
def notePrimary (i : Fin 8) : Channels :=
  if (c.channels i).role = .primary then { c with primaryIndex := i } else c

/-- One round of `onConfigChanged`. -/
def onChannelChanged (stack : ℕ) (i : Fin 8) : Except ChannelsFault Channels :=
  (fun c' => c'.notePrimary i) <$> c.fixupChannel stack i

def onConfigChanged (stack : ℕ) : Except ChannelsFault Channels :=
  (List.finRange 8).foldlM (fun c i => c.onChannelChanged stack i) c

def demoted (ch : Channel) : Channel :=
  if ch.role = .primary then { ch with role := .secondary } else ch

def setChannel (ch : Channel) : Channels :=
  let demotedAll := if ch.role = .primary then fun i => demoted (c.channels i) else c.channels
  { c with channels := Function.update demotedAll ch.index ch }

def isAdmin (ch : Channel) : Bool := sameText (ascii "admin") ch.settings.name

/-- One round of `ensureLicensedOperation`. -/
def ensureLicensed (i : Fin 8) : Channels :=
  let channel := c.channels i
  if channel.hasSettings = false then c
  else if isAdmin channel then
    c.setChannel { channel with role := .disabled, settings := { channel.settings with psk := [] } }
  else if channel.settings.psk ≠ [] then
    c.setChannel { channel with settings := { channel.settings with psk := [] } }
  else c

/-- `ensureLicensedOperation` of an owner that is licensed. -/
def ensureLicensedOperation : Channels := (List.finRange 8).foldl ensureLicensed c

def initDefaultLoraConfig : LoraConfig := ⟨true, .longFast⟩

def initDefaultChannel (chIndex : Fin 8) : Channels :=
  let ch := c.channels chIndex
  { c with channels := Function.update c.channels chIndex { ch with
      settings := ⟨[1], []⟩, hasSettings := true
      role := if chIndex.val = 0 then .primary else .secondary } }

/-- `initDefaults` without user preferences. -/
def initDefaults (stack : ℕ) : Except ChannelsFault Channels :=
  (fun c' => { c' with lora := initDefaultLoraConfig }.initDefaultChannel (Fin.ofNat 8 0)) <$>
    (List.finRange 8).foldlM (fun c i => c.fixupChannel stack i) c

/-- The table before anything is put in it. -/
def zero : Channels :=
  { channels := fun _ => ⟨Fin.ofNat 8 0, false, ⟨[], []⟩, .disabled⟩, primaryIndex := Fin.ofNat 8 0
    hashes := fun _ => 0, lora := ⟨false, .longFast⟩ }

/-- `resetRadioConfig` of a table with no channels in it. -/
def resetRadioConfig (stack : ℕ) : Except ChannelsFault Channels :=
  zero.initDefaults stack >>= fun c => c.onConfigChanged stack

/-- The message by which the phone sets a channel, and whether the owner is licensed then. -/
structure SetChannel where
  index : ℤ
  hasSettings : Bool
  settings : ChannelSettings
  role : ChannelRole
  isLicensed : Bool

/-- The channel of a message whose index was checked. -/
def SetChannel.channel (r : SetChannel) : Channel :=
  { index := Fin.ofNat 8 r.index.toNat, hasSettings := r.hasSettings, settings := r.settings, role := r.role }

def handleSetChannel (stack : ℕ) (isLicensed : Bool) (cc : Channel) : Except ChannelsFault Channels :=
  let c' := c.setChannel cc
  (if isLicensed then c'.ensureLicensedOperation else c').onConfigChanged stack

/-- What the admin module does with the message. -/
def handleReceived (stack : ℕ) (r : SetChannel) : Except ChannelsFault Channels :=
  if r.index < 0 ∨ 8 ≤ r.index then .ok c else c.handleSetChannel stack r.isLicensed r.channel

end Channels
end MonsterMesh

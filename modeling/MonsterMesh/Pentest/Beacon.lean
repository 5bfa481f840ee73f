import MonsterMesh.Lib.Text
import MonsterMesh.Lib.Tlv
import MonsterMesh.Lib.Walk

/-! Beacon frames of access points: the ring that carries them out of the radio, and what they are classified as. -/
namespace MonsterMesh

open Text

/-- `enum VulnTier` -/
inductive VulnTier where
  | none | common | uncommon | rare
deriving DecidableEq

namespace BeaconClassifier

/-! ### The ring of captured frames -/

inductive CapturedKind where
  | beacon | eapol | deauth
deriving DecidableEq

structure PromiscFrame where
  kind : CapturedKind
  rssi : Int8
  channel : UInt8
  data : List UInt8

def ringCap : ℕ := 12

/-- How many bytes of a frame are kept. -/
def dataSize : ℕ := 256

/-- A frame as it is queued; longer ones are truncated. -/
def capture (k : CapturedKind) (src : List UInt8) (rssi : Int8) (chan : UInt8) : PromiscFrame :=
  { kind := k, rssi, channel := chan, data := src.take dataSize }

/-- A frame is dropped where the ring is full. -/
def ringPush (ring : List PromiscFrame) (f : PromiscFrame) : List PromiscFrame :=
  if ring.length + 1 < ringCap then ring ++ [f] else ring

/-- The radio queues a frame, or the main loop takes the oldest one. -/
inductive RingEvent where
  | push (k : CapturedKind) (src : List UInt8) (rssi : Int8) (chan : UInt8)
  | drain

/-- The frames queued and the frames taken. -/
structure Scanner where
  (ring drained : List PromiscFrame)

def Scanner.step (s : Scanner) : RingEvent → Scanner
  | .push k src rssi chan => { s with ring := ringPush s.ring (capture k src rssi chan) }
  | .drain => match s.ring with
    | [] => s
    | f :: ring => { ring, drained := s.drained ++ [f] }

/-! ### The information elements -/

structure ScanResult where
  (hasRsn hasWpa1 hasWps hasTkip privacyBit hasEmptySsid : Bool)
  ssid : Str
deriving DecidableEq

def ieSsid : UInt8 := 0
def ieRsn : UInt8 := 48
def ieVendor : UInt8 := 221
def ouiWfa : List UInt8 := [0x00, 0x50, 0xF2]
def wfaTypeWpa : UInt8 := 0x01
def wfaTypeWps : UInt8 := 0x04
def cipherOui : List UInt8 := [0x00, 0x0F, 0xAC]
def cipherTkip : UInt8 := 0x02

/-- A cipher suite selects TKIP. -/
def isTkip (suite : List UInt8) : Bool := suite = cipherOui ++ [cipherTkip]

/-- One of the first `pwCount` complete suites selects TKIP. -/
def pairwiseTkip : ℕ → List UInt8 → Bool
  | n + 1, a :: b :: c :: d :: rest => isTkip [a, b, c, d] || pairwiseTkip n rest
  | _, _ => false

/-- The group cipher of an RSN element, and the pairwise list behind it. -/
def rsnTkip (body : List UInt8) : Bool :=
  8 ≤ body.length && (isTkip ((body.drop 2).take 4) ||
    10 ≤ body.length &&
      pairwiseTkip ((body.getD 6 0).toNat + (body.getD 7 0).toNat * 256) (body.drop 8))

/-- What an element adds to the result. -/
def element (out : ScanResult) (tag : UInt8) (body : List UInt8) : ScanResult :=
  if tag = ieSsid then
    if body.length = 0 then { out with hasEmptySsid := true }
    else if body.length ≤ 32 then { out with ssid := body.takeWhile (· ≠ 0) }
    else out
  else if tag = ieRsn then { out with hasRsn := true, hasTkip := out.hasTkip || rsnTkip body }
  else if tag = ieVendor then
    if 4 ≤ body.length ∧ body.take 3 = ouiWfa then
      { out with
        hasWps := out.hasWps || body.getD 3 0 = wfaTypeWps
        hasWpa1 := out.hasWpa1 || body.getD 3 0 = wfaTypeWpa }
    else out
  else out

/-- The walk over the tagged parameters; it fails where an element runs past the end. -/
def walkIEs (ies : List UInt8) (out : ScanResult) : Option ScanResult := Tlv.read element out ies

/-- Highest tier wins. -/
def tierOf (r : ScanResult) : VulnTier :=
  if r.privacyBit && !r.hasRsn && !r.hasWpa1 then .rare
  else if r.hasWps then .uncommon
  else if r.hasTkip then .common
  else if !r.privacyBit && !r.hasRsn && !r.hasWpa1 then .common
  else if r.hasEmptySsid && (r.hasRsn || r.hasWpa1 || r.hasWps) then .common
  else .none

/-! ### The classifier -/

structure DetectionRecord where
  ssid : Str
  bssid : List UInt8
  rssi : Int8
  tier : VulnTier
deriving DecidableEq

def DetectionRecord.zero : DetectionRecord := ⟨[], [], 0, .none⟩

/-- The MAC header and the fixed parameters. -/
def macHeader : ℕ := 24
def fixedSize : ℕ := 12

/-- Frame type 0 and subtype 8. -/
def isBeacon (rawPkt : List UInt8) : Bool :=
  (rawPkt.getD 0 0 >>> 2) &&& 0x3 = 0 && (rawPkt.getD 0 0 >>> 4) &&& 0xF = 8

/-- Bit 4 of the capability field. -/
def privacyBit (rawPkt : List UInt8) : Bool := rawPkt.getD (macHeader + 10) 0 &&& 0x10 ≠ 0

/-- The result before the walk. -/
def ScanResult.start (privacy : Bool) : ScanResult := ⟨false, false, false, false, privacy, false, []⟩

def classifyBeacon (rawPkt : List UInt8) (rssi : Int8) : DetectionRecord :=
  if rawPkt.length < macHeader + fixedSize then .zero
  else if !isBeacon rawPkt then .zero
  else
    let outRec := { DetectionRecord.zero with bssid := (rawPkt.drop 16).take 6 }
    match walkIEs (rawPkt.drop (macHeader + fixedSize)) (.start (privacyBit rawPkt)) with
    | none => outRec
    | some r => match tierOf r with
      | .none => outRec
      | tier => { outRec with ssid := r.ssid, rssi, tier }

end BeaconClassifier
end MonsterMesh

/-! Beacons that are longer than what the ring keeps of them, and what they are classified as. -/
namespace MonsterMesh.BeaconClassifier

open Tlv

/-- A beacon as it is on the air: the two headers, well-formed elements, and whatever follows them. -/
structure Beacon where
  header : List UInt8
  elements : List Element
  trailing : List UInt8
  header_length : header.length = macHeader + fixedSize
  beacon : isBeacon header = true

namespace Beacon

variable (b : Beacon)

def bytes : List UInt8 := b.header ++ (b.elements.flatMap Element.encode ++ b.trailing)

/-- The bytes of the ring that are left for the elements. -/
def kept : ℕ := dataSize - (macHeader + fixedSize)

/-- The capability bits and the elements that were captured whole. -/
def captured : ScanResult :=
  (within kept b.elements).foldl (fun r e => element r e.tag e.body) (.start (privacyBit b.header))

/-- The tier that the rules assign to them. -/
def tier : VulnTier := tierOf b.captured

/-- Nothing behind the whole elements changes the tier: at most a byte of an element that is cut, or trailing bytes
that say nothing else; or there is no tier to lose. -/
def Harmless : Prop :=
  match cut kept b.elements with
  | some (_, k) => k < 2 ∨ b.tier = .none
  | none => match walkIEs (b.trailing.take (room kept b.elements)) b.captured with
    | some r => tierOf r = b.tier
    | none => b.tier = .none

instance : Decidable b.Harmless := by
  unfold Harmless
  split
  · infer_instance
  · split <;> infer_instance

end Beacon

variable {b : Beacon} {rssi : Int8} {chan : UInt8} {s : Scanner} {e : RingEvent} {events : List RingEvent}
  {f : PromiscFrame}

theorem getD_append {l r : List UInt8} {i : ℕ} (h : i < l.length) : (l ++ r).getD i 0 = l.getD i 0 := by
  rw [List.getD_eq_getElem?_getD, List.getD_eq_getElem?_getD, List.getElem?_append_left h]

/-- Of a captured beacon both headers are there, and as much of the rest as the ring keeps. -/
theorem Beacon.take_bytes (b : Beacon) : b.bytes.take dataSize =
    b.header ++ (b.elements.flatMap Element.encode ++ b.trailing).take Beacon.kept := by
  have hle : b.header.length ≤ dataSize := by
    rw [b.header_length]
    decide
  rw [Beacon.bytes, List.take_append, List.take_of_length_le hle, b.header_length]
  rfl

/-- The tier of a captured beacon is decided by the walk over what is kept of its elements. -/
theorem classify_headed (rest : List UInt8) : (classifyBeacon (b.header ++ rest) rssi).tier =
    match walkIEs rest (.start (privacyBit b.header)) with
    | none => .none
    | some r => tierOf r := by
  have hlen := b.header_length
  have hlong : ¬ (b.header ++ rest).length < macHeader + fixedSize := by
    rw [List.length_append]
    omega
  have hpos (i : ℕ) (h : i < 36) : (b.header ++ rest).getD i 0 = b.header.getD i 0 :=
    getD_append (by rw [hlen]; exact h)
  have hbeacon : isBeacon (b.header ++ rest) = true := by
    unfold isBeacon
    rw [hpos 0 (by decide)]
    exact b.beacon
  have hprivacy : privacyBit (b.header ++ rest) = privacyBit b.header := by
    unfold privacyBit
    rw [hpos _ (by decide)]
  unfold classifyBeacon
  rw [if_neg hlong, hbeacon, if_neg (by decide), hprivacy, List.drop_left' hlen]
  dsimp only
  rcases walkIEs rest _ with _ | r
  · rfl
  · dsimp only
    rcases tierOf r <;> rfl

/-- A captured beacon has the tier of its whole elements exactly when what follows them is harmless. -/
theorem classify_iff : (classifyBeacon (b.bytes.take dataSize) rssi).tier = b.tier ↔ b.Harmless := by
  rw [b.take_bytes, classify_headed]
  unfold Beacon.Harmless
  obtain ⟨x, k, hcut, hk, he⟩ | ⟨hcut, he⟩ := take_elements Beacon.kept b.elements b.trailing
  · rw [he, hcut, walkIEs, read_elements]
    by_cases h₂ : k < 2
    · have hshort : (x.encode.take k).length < 2 := by
        rw [List.length_take]
        omega
      rw [read_short hshort]
      exact ⟨fun _ => .inl h₂, fun _ => rfl⟩
    · rw [read_cut (by omega) hk]
      exact ⟨fun h => .inr h.symm, fun h => (h.resolve_left h₂).symm⟩
  · rw [he, hcut, walkIEs, read_elements]
    change (match walkIEs (b.trailing.take (room Beacon.kept b.elements)) b.captured with
      | none => VulnTier.none
      | some r => tierOf r) = _ ↔ _
    rcases walkIEs (b.trailing.take (room Beacon.kept b.elements)) b.captured with _ | r
    · exact eq_comm
    · exact Iff.rfl

/-! ### Frames out of the ring -/

/-- The frame is what the ring keeps of one of these. -/
def Captures (events : List RingEvent) (f : PromiscFrame) : Prop :=
  ∃ k src rssi chan, RingEvent.push k src rssi chan ∈ events ∧ f = capture k src rssi chan

theorem step_captures (hs : ∀ f ∈ s.ring ++ s.drained, Captures events f) (he : e ∈ events) :
    ∀ f ∈ (s.step e).ring ++ (s.step e).drained, Captures events f := by
  intro f hf
  rw [List.mem_append] at hf
  cases e with
  | push k src rssi chan =>
    unfold Scanner.step ringPush at hf
    split_ifs at hf
    · rw [List.mem_append, List.mem_singleton] at hf
      obtain (hf | rfl) | hf := hf
      · exact hs f (List.mem_append_left _ hf)
      · exact ⟨k, src, rssi, chan, he, rfl⟩
      · exact hs f (List.mem_append_right _ hf)
    · exact hs f (List.mem_append.mpr hf)
  | drain =>
    unfold Scanner.step at hf
    dsimp only at hf
    split at hf
    · exact hs f (List.mem_append.mpr hf)
    · rename_i x ring hring
      rw [List.mem_append, List.mem_singleton] at hf
      rw [hring] at hs
      obtain hf | hf | rfl := hf
      · exact hs f (List.mem_append_left _ (List.mem_cons_of_mem _ hf))
      · exact hs f (List.mem_append_right _ hf)
      · exact hs f (List.mem_append_left _ (List.mem_cons_self ..))

theorem run_captures (events : List RingEvent) (f : PromiscFrame)
    (hf : f ∈ (Walk.run Scanner.step ⟨[], []⟩ events).drained) : Captures events f := by
  have hrun (l : List RingEvent) (s : Scanner) (hl : ∀ e ∈ l, e ∈ events)
      (hs : ∀ f ∈ s.ring ++ s.drained, Captures events f) :
      ∀ f ∈ (Walk.run Scanner.step s l).ring ++ (Walk.run Scanner.step s l).drained, Captures events f := by
    induction l generalizing s with
    | nil => exact hs
    | cons e l ih =>
      exact ih _ (fun x hx => hl x (List.mem_cons_of_mem e hx)) (step_captures hs (hl e (List.mem_cons_self ..)))
  exact hrun events ⟨[], []⟩ (fun _ h => h) nofun f (List.mem_append_right _ hf)

/-- Whatever the radio queued and the main loop took: a frame taken is the beginning of one queued, and if that was a
beacon it gets the tier of its whole elements exactly when what follows them is harmless. -/
theorem drained_tier (events : List RingEvent) (f : PromiscFrame)
    (hf : f ∈ (Walk.run Scanner.step ⟨[], []⟩ events).drained) : Captures events f ∧
      ∀ (b : Beacon) (rssi : Int8) (chan : UInt8), f = capture .beacon b.bytes rssi chan →
        ((classifyBeacon f.data f.rssi).tier = b.tier ↔ b.Harmless) := by
  refine ⟨run_captures events f hf, ?_⟩
  rintro b rssi chan rfl
  exact classify_iff

/-- An access point with WPA2 and WPS, and a vendor element behind them. -/
def accessPoint (n : ℕ) (h : n < 256) : Beacon where
  header := [0x80, 0] ++ List.replicate 32 0 ++ [0x11, 0]
  elements := [⟨ieSsid, [72, 111, 109, 101], by decide⟩,
    ⟨ieRsn, [1, 0, 0x00, 0x0F, 0xAC, 0x04, 1, 0, 0x00, 0x0F, 0xAC, 0x04], by decide⟩,
    ⟨ieVendor, ouiWfa ++ [wfaTypeWps], by decide⟩,
    ⟨ieVendor, List.replicate n 1, by rw [List.length_replicate]; exact h⟩]
  trailing := [0xDE, 0xAD, 0xBE, 0xEF]
  header_length := by decide
  beacon := by decide

/-- The elements fill the ring's bytes exactly. -/
theorem drained_tier_full :
    (classifyBeacon ((accessPoint 192 (by decide)).bytes.take dataSize) (-40)).tier = (accessPoint 192 (by decide)).tier :=
  ((drained_tier [.push .beacon (accessPoint 192 (by decide)).bytes (-40) 6, .drain]
    (capture .beacon (accessPoint 192 (by decide)).bytes (-40) 6)
    (List.mem_singleton.mpr rfl)).2 _ (-40) 6 rfl).mpr (by decide +kernel)

/-- A vendor element that is cut hides the WPS element in front of it. -/
theorem longBeacon_hidden : (accessPoint 200 (by decide)).tier = .uncommon ∧
    (classifyBeacon ((accessPoint 200 (by decide)).bytes.take dataSize) (-40)).tier = .none := by
  decide +kernel

end MonsterMesh.BeaconClassifier

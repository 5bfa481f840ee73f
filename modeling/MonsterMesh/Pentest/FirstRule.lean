import Mathlib.Data.List.Find
import MonsterMesh.Lib.Text
import MonsterMesh.Lib.Writing
import MonsterMesh.Pentest.Beacon

/-! Bluetooth advertisements and the table of rules that classifies them. -/
namespace MonsterMesh.BleScanner

open Bounded Text

/-- What a rule matches: a manufacturer's data by its first bytes, all of a manufacturer's data, or a device name. -/
inductive BleMatch where
  | mfrPrefix (mfrId : UInt16) (bytes : List UInt8)
  | mfrOnly (mfrId : UInt16)
  | namePrefix (name : Str)
deriving DecidableEq

structure BleRule where
  kind : BleMatch
  tier : VulnTier
deriving DecidableEq

def kAirTagLostPrefix : List UInt8 := [0x12, 0x19]
def kAppleProximityPairing : List UInt8 := [0x07, 0x19]
def kAppleSourApple : List UInt8 := [0x0F]
def kAppleIBeacon : List UInt8 := [0x02, 0x15]

def kRules : List BleRule := [
  ⟨.mfrPrefix 0x004C kAirTagLostPrefix, .rare⟩,
  ⟨.mfrOnly 0x0149, .rare⟩,
  ⟨.mfrOnly 0x0075, .rare⟩,
  ⟨.namePrefix (lit "Flock "), .rare⟩,
  ⟨.namePrefix (lit "Flock-"), .rare⟩,
  ⟨.namePrefix (lit "Raven-"), .uncommon⟩,
  ⟨.namePrefix (lit "SST-"), .uncommon⟩,
  ⟨.mfrPrefix 0x004C kAppleProximityPairing, .uncommon⟩,
  ⟨.namePrefix (lit "MIScooter"), .uncommon⟩,
  ⟨.namePrefix (lit "Ninebot"), .uncommon⟩,
  ⟨.namePrefix (lit "MagicBlue"), .uncommon⟩,
  ⟨.namePrefix (lit "LEDnet"), .uncommon⟩,
  ⟨.namePrefix (lit "Triones"), .uncommon⟩,
  ⟨.namePrefix (lit "Pax"), .uncommon⟩,
  ⟨.namePrefix (lit "OBDII"), .uncommon⟩,
  ⟨.namePrefix (lit "Veepeak"), .uncommon⟩,
  ⟨.namePrefix (lit "ELM327"), .uncommon⟩,
  ⟨.namePrefix (lit "OBDLINK"), .uncommon⟩,
  ⟨.namePrefix (lit "AUG-"), .uncommon⟩,
  ⟨.mfrPrefix 0x004C kAppleSourApple, .common⟩,
  ⟨.mfrPrefix 0x004C kAppleIBeacon, .common⟩,
  ⟨.namePrefix (lit "HC-05"), .common⟩,
  ⟨.namePrefix (lit "HC-06"), .common⟩,
  ⟨.namePrefix (lit "JL-"), .common⟩,
  ⟨.namePrefix (lit "JBL"), .common⟩,
  ⟨.namePrefix (lit "BT-"), .common⟩]

/-- `strncmp(outName, rule.name, plen) == 0` -/
def BleRule.matchesName (r : BleRule) (outName : Str) : Bool :=
  match r.kind with
  | .namePrefix name => name.isPrefixOf outName
  | _ => false

/-- The walk keeps the name, as far as its terminator, and the tier found. -/
structure Scan where
  outName : Str
  hit : VulnTier
deriving DecidableEq

/-- Up to 32 bytes of the first name that is not empty. -/
def captureName (payload : List UInt8) (i : ℕ) (adType : UInt8) (bodyLen : ℕ) (s : Scan) : Except Bounded.Fault Scan :=
  if (adType = 0x08 ∨ adType = 0x09) ∧ s.outName = [] then
    (fun name => { s with outName := name.takeWhile (· ≠ 0) }) <$> slice payload (i + 2) (min bodyLen 32)
  else .ok s

/-- The first manufacturer rule that matches the data of `mfrPayloadLen` bytes from `j` on. -/
def matchMfr (payload : List UInt8) (mfrId : UInt16) (j mfrPayloadLen : ℕ) :
    List BleRule → Except Bounded.Fault VulnTier
  | [] => .ok .none
  | r :: rules =>
    match r.kind with
    | .mfrOnly id => if id = mfrId then .ok r.tier else matchMfr payload mfrId j mfrPayloadLen rules
    | .mfrPrefix id bytes =>
      if id = mfrId ∧ bytes.length ≤ mfrPayloadLen then
        slice payload j bytes.length >>= fun p =>
          if p = bytes then .ok r.tier else matchMfr payload mfrId j mfrPayloadLen rules
      else matchMfr payload mfrId j mfrPayloadLen rules
    | .namePrefix _ => matchMfr payload mfrId j mfrPayloadLen rules

/-- Manufacturer data is looked up until a rule has matched. -/
def checkMfr (payload : List UInt8) (i : ℕ) (adType : UInt8) (bodyLen : ℕ) (s : Scan) : Except Bounded.Fault Scan :=
  if adType = 0xFF ∧ 2 ≤ bodyLen ∧ s.hit = .none then
    byte payload (i + 2) >>= fun lo =>
    byte payload (i + 3) >>= fun hi =>
    (fun tier => { s with hit := tier }) <$>
      matchMfr payload (lo.toUInt16 ||| hi.toUInt16 <<< 8) (i + 4) (bodyLen - 2) kRules
  else .ok s

/-- The first pass over the records, with a bound on its rounds; the index is a byte. -/
def walk (payload : List UInt8) : ℕ → UInt8 → Scan → Except Bounded.Fault Scan
  | 0, _, _ => .error .endless
  | n + 1, i, s =>
    if i.toNat + 1 < payload.length then
      byte payload i.toNat >>= fun adLen =>
      if adLen = 0 ∨ payload.length ≤ i.toNat + adLen.toNat then .ok s
      else
        byte payload (i.toNat + 1) >>= fun adType =>
        captureName payload i.toNat adType (adLen.toNat - 1) s >>= fun s =>
        checkMfr payload i.toNat adType (adLen.toNat - 1) s >>= fun s =>
        walk payload n (i + (adLen + 1)) s
    else .ok s

/-- The tier and the name of an advertisement, in at most `fuel` rounds. -/
def classifyAdv (fuel : ℕ) (payload : List UInt8) : Except Bounded.Fault (VulnTier × Str) :=
  if payload.length < 2 then .ok (.none, [])
  else
    walk payload fuel 0 ⟨[], .none⟩ >>= fun s =>
    if s.hit = .none ∧ s.outName ≠ [] then
      .ok (((kRules.find? fun r => r.matchesName s.outName).map BleRule.tier).getD .none, s.outName)
    else .ok (s.hit, s.outName)

end MonsterMesh.BleScanner

/-! The rule that an advertisement is classified by, against the order of the table. -/
namespace MonsterMesh.BleScanner

open Bounded Fallible Text

structure AdRecord where
  adType : UInt8
  body : List UInt8
deriving DecidableEq

/-- The complete records at the beginning of these bytes. -/
def records : ℕ → List UInt8 → List AdRecord
  | n + 1, adLen :: adType :: rest =>
    if adLen = 0 ∨ rest.length + 2 ≤ adLen.toNat then []
    else ⟨adType, rest.take (adLen.toNat - 1)⟩ :: records n (rest.drop (adLen.toNat - 1))
  | _, _ => []

def adRecords (payload : List UInt8) : List AdRecord := records payload.length payload

namespace AdRecord

variable (r : AdRecord)

def isName : Bool := r.adType = 0x08 || r.adType = 0x09

def isMfr : Bool := r.adType = 0xFF && 2 ≤ r.body.length

/-- The name in a name record, as far as it is kept. -/
def text : Str := (r.body.take 32).takeWhile (· ≠ 0)

def mfrId : UInt16 := (r.body.getD 0 0).toUInt16 ||| (r.body.getD 1 0).toUInt16 <<< 8

end AdRecord

def BleRule.matchesMfr (r : BleRule) (a : AdRecord) : Bool :=
  match r.kind with
  | .mfrOnly id => id = a.mfrId
  | .mfrPrefix id bytes => id = a.mfrId && bytes.isPrefixOf (a.body.drop 2)
  | .namePrefix _ => false

/-- The rule that the manufacturer data of a record meets first. -/
def mfrRule (a : AdRecord) : Option BleRule := if a.isMfr then kRules.find? (·.matchesMfr a) else none

/-- The name that is captured. -/
def nameOf (as : List AdRecord) : Str := (((as.filter AdRecord.isName).map AdRecord.text).find? (· ≠ [])).getD []

/-- The rule of the first record whose manufacturer data meets one. -/
def hitOf (as : List AdRecord) : Option BleRule := as.findSome? mfrRule

/-- The rule matches a manufacturer record or the captured name. -/
def Applies (as : List AdRecord) (r : BleRule) : Bool :=
  as.any (fun a => a.isMfr && r.matchesMfr a) || r.matchesName (nameOf as)

def tierOf (r : Option BleRule) : VulnTier := (r.map BleRule.tier).getD .none

/-- The tier of the first rule of the table that applies. -/
def lawTier (as : List AdRecord) : VulnTier := tierOf (kRules.find? (Applies as))

def rank : VulnTier → ℕ
  | .none => 0
  | .common => 1
  | .uncommon => 2
  | .rare => 3

/-- No rule that applies is of a rarer tier than the one that manufacturer data is first classified by. -/
def Unrivalled (as : List AdRecord) : Prop :=
  ∀ R ∈ hitOf as, ∀ r ∈ kRules, Applies as r = true → rank r.tier ≤ rank R.tier

instance (as : List AdRecord) : Decidable (Unrivalled as) :=
  inferInstanceAs (Decidable (∀ R ∈ hitOf as, _))

/-! ### The walk and the records -/

/-- What a record does to the scan. -/
def Scan.meet (s : Scan) (a : AdRecord) : Scan :=
  let s := if a.isName ∧ s.outName = [] then { s with outName := a.text } else s
  if s.hit = .none then { s with hit := tierOf (mfrRule a) } else s

variable {payload bytes rest : List UInt8} {as : List AdRecord} {a : AdRecord} {s : Scan} {n m i : ℕ} {r R : BleRule}

theorem records_spare (hn : bytes.length ≤ n) (hm : bytes.length ≤ m) : records n bytes = records m bytes := by
  induction n generalizing m bytes with
  | zero =>
    obtain rfl := List.eq_nil_of_length_eq_zero (Nat.le_zero.mp hn)
    cases m <;> rfl
  | succ n ih =>
    match bytes with
    | [] => cases m <;> rfl
    | [_] => cases m <;> rfl
    | adLen :: adType :: rest =>
      rw [List.length_cons, List.length_cons] at hn hm
      obtain ⟨m, rfl⟩ : ∃ k, m = k + 1 := ⟨m - 1, by omega⟩
      unfold records
      split_ifs
      · rfl
      · rw [ih (m := m) (by rw [List.length_drop]; omega) (by rw [List.length_drop]; omega)]

theorem adRecords_cons (adLen adType : UInt8) (rest : List UInt8) : adRecords (adLen :: adType :: rest) =
    if adLen = 0 ∨ rest.length + 2 ≤ adLen.toNat then []
    else ⟨adType, rest.take (adLen.toNat - 1)⟩ :: adRecords (rest.drop (adLen.toNat - 1)) := by
  conv_lhs => rw [adRecords, List.length_cons, records]
  split_ifs
  · rfl
  · unfold adRecords
    rw [records_spare (m := (rest.drop (adLen.toNat - 1)).length) _ (Nat.le_refl _)]
    rw [List.length_cons, List.length_drop]
    omega

/-- Comparing some bytes of the payload with a prefix. -/
theorem slice_prefix (p : List UInt8) (hp : p.length ≤ n) (h : i + n ≤ payload.length) :
    ((payload.drop i).take p.length = p ↔ p.isPrefixOf ((payload.drop i).take n) = true) ∧
      slice payload i p.length = .ok ((payload.drop i).take p.length) := by
  refine ⟨?_, slice_ok (by omega)⟩
  rw [List.isPrefixOf_iff_prefix, List.prefix_take_iff]
  constructor
  · intro he
    exact ⟨he ▸ List.take_prefix _ _, hp⟩
  · rintro ⟨hpre, -⟩
    exact (List.prefix_iff_eq_take.mp hpre).symm

/-- The rules are tried as the table has them. -/
theorem matchMfr_eq (h : i + 2 + n ≤ payload.length) (ha : a.body = (payload.drop i).take (2 + n))
    (rules : List BleRule) : matchMfr payload a.mfrId (i + 2) n rules = .ok (tierOf (rules.find? (·.matchesMfr a))) := by
  induction rules with
  | nil => rfl
  | cons r rules ih =>
    have hbody : a.body.drop 2 = (payload.drop (i + 2)).take n := by
      rw [ha, List.drop_take, List.drop_drop, Nat.add_sub_cancel_left]
    unfold matchMfr
    rw [List.find?_cons]
    rcases hk : r.kind with ⟨id, p⟩ | id | name
    · dsimp only
      have hm : r.matchesMfr a = (decide (id = a.mfrId) && p.isPrefixOf ((payload.drop (i + 2)).take n)) := by
        unfold BleRule.matchesMfr
        rw [hk, hbody]
      by_cases hid : id = a.mfrId
      · by_cases hp : p.length ≤ n
        · obtain ⟨hiff, hslice⟩ := slice_prefix p hp h
          rw [if_pos ⟨hid, hp⟩, hslice, bind_ok]
          by_cases he : (payload.drop (i + 2)).take p.length = p
          · rw [if_pos he, hm, hiff.mp he, decide_eq_true hid]
            rfl
          · have hfalse : p.isPrefixOf ((payload.drop (i + 2)).take n) = false :=
              Bool.eq_false_iff.mpr fun ht => he (hiff.mpr ht)
            rw [if_neg he, hm, hfalse, Bool.and_false]
            exact ih
        · have hfalse : p.isPrefixOf ((payload.drop (i + 2)).take n) = false := by
            refine Bool.eq_false_iff.mpr fun ht => hp ?_
            have hle := (List.isPrefixOf_iff_prefix.mp ht).length_le
            rw [List.length_take] at hle
            omega
          rw [if_neg fun hc => hp hc.2, hm, hfalse, Bool.and_false]
          exact ih
      · rw [if_neg fun hc => hid hc.1, hm, decide_eq_false hid, Bool.false_and]
        exact ih
    · dsimp only
      have hm : r.matchesMfr a = decide (id = a.mfrId) := by
        unfold BleRule.matchesMfr
        rw [hk]
      rw [hm]
      by_cases hid : id = a.mfrId
      · rw [if_pos hid, decide_eq_true hid]
        rfl
      · rw [if_neg hid, decide_eq_false hid]
        exact ih
    · have hm : r.matchesMfr a = false := by
        unfold BleRule.matchesMfr
        rw [hk]
      rw [hm]
      exact ih

theorem captureName_eq (h : i + 2 + n ≤ payload.length) (ha : a.body = (payload.drop (i + 2)).take n) (s : Scan) :
    captureName payload i a.adType n s =
      .ok (if a.isName ∧ s.outName = [] then { s with outName := a.text } else s) := by
  have hname : (a.adType = 0x08 ∨ a.adType = 0x09) ↔ a.isName = true := by simp [AdRecord.isName]
  have htext : ((payload.drop (i + 2)).take (min n 32)).takeWhile (· ≠ 0) = a.text := by
    rw [AdRecord.text, ha, List.take_take, Nat.min_comm]
  unfold captureName
  rw [slice_ok (by omega), map_ok, htext]
  by_cases hc : a.isName = true ∧ s.outName = []
  · rw [if_pos ⟨hname.mpr hc.1, hc.2⟩, if_pos hc]
  · rw [if_neg fun hn => hc ⟨hname.mp hn.1, hn.2⟩, if_neg hc]

theorem checkMfr_eq (h : i + 2 + n ≤ payload.length) (ha : a.body = (payload.drop (i + 2)).take n) (s : Scan) :
    checkMfr payload i a.adType n s = .ok (if s.hit = .none then { s with hit := tierOf (mfrRule a) } else s) := by
  have hlen : a.body.length = n := by
    rw [ha, List.length_take, List.length_drop]
    omega
  have hmfr : a.isMfr = true ↔ a.adType = 0xFF ∧ 2 ≤ n := by simp [AdRecord.isMfr, hlen]
  unfold checkMfr
  by_cases hit : s.hit = .none
  · by_cases hm : a.adType = 0xFF ∧ 2 ≤ n
    · have hget (k : ℕ) (hk : k < n) : payload[i + 2 + k]? = some (a.body.getD k 0) := by
        have hbody : k < a.body.length := hlen ▸ hk
        rw [List.getD_eq_getElem?_getD, List.getElem?_eq_getElem hbody, Option.getD_some]
        have hsame : a.body[k]? = payload[i + 2 + k]? := by
          rw [ha, List.getElem?_take_of_lt hk, List.getElem?_drop]
        rw [← hsame, List.getElem?_eq_getElem hbody]
      have hrest : i + 2 + 2 + (n - 2) ≤ payload.length := by omega
      have hbody : a.body = (payload.drop (i + 2)).take (2 + (n - 2)) := by
        rw [ha]
        congr 1
        omega
      rw [if_pos ⟨hm.1, hm.2, hit⟩, if_pos hit, byte_ok (hget 0 (by omega)), bind_ok, byte_ok (hget 1 (by omega)), bind_ok]
      change _ <$> matchMfr payload a.mfrId (i + 2 + 2) (n - 2) kRules = _
      rw [matchMfr_eq hrest hbody, map_ok, mfrRule, if_pos (hmfr.mpr hm)]
    · rw [if_neg fun hc => hm ⟨hc.1, hc.2.1⟩, if_pos hit, mfrRule, if_neg fun hc => hm (hmfr.mp hc)]
      exact congrArg Except.ok (congrArg (Scan.mk s.outName) hit)
  · rw [if_neg fun hc => hit hc.2.2, if_neg hit]

/-- Every round meets the next record, and the index comes to the end of the payload before a byte is full. -/
theorem walk_eq (hlen : payload.length ≤ 255) (n : ℕ) (i : UInt8) (s : Scan) (hn : payload.length ≤ n + i.toNat) :
    walk payload (n + 1) i s = .ok ((adRecords (payload.drop i.toNat)).foldl Scan.meet s) := by
  induction n generalizing i s with
  | zero =>
    unfold walk
    rw [if_neg (by omega), List.drop_of_length_le (by omega)]
    rfl
  | succ n ih =>
    unfold walk
    by_cases hi : i.toNat + 1 < payload.length
    · have hdrop : payload.drop i.toNat =
          payload[i.toNat] :: payload[i.toNat + 1] :: payload.drop (i.toNat + 2) := by
        rw [List.drop_eq_getElem_cons (by omega), List.drop_eq_getElem_cons hi]
      have hrest : (payload.drop (i.toNat + 2)).length + 2 = payload.length - i.toNat := by
        rw [List.length_drop]
        omega
      rw [if_pos hi, byte_ok (List.getElem?_eq_getElem (by omega)), bind_ok, hdrop, adRecords_cons]
      generalize payload[i.toNat] = adLen
      by_cases hbreak : adLen = 0 ∨ payload.length ≤ i.toNat + adLen.toNat
      · have hsame : adLen = 0 ∨ (payload.drop (i.toNat + 2)).length + 2 ≤ adLen.toNat :=
          hbreak.imp_right fun h => by omega
        rw [if_pos hbreak, if_pos hsame]
        rfl
      · have hsame : ¬ (adLen = 0 ∨ (payload.drop (i.toNat + 2)).length + 2 ≤ adLen.toNat) :=
          fun h => hbreak (h.imp_right fun h => by omega)
        obtain ⟨hzero, hfits⟩ := not_or.mp hbreak
        have hpos : adLen.toNat ≠ 0 := fun h => hzero (UInt8.toNat_inj.mp h)
        have hbound : i.toNat + 2 + (adLen.toNat - 1) ≤ payload.length := by omega
        have hone : (1 : UInt8).toNat = 1 := rfl
        have hnext : (i + (adLen + 1)).toNat = i.toNat + adLen.toNat + 1 := by
          rw [UInt8.toNat_add, UInt8.toNat_add, hone]
          omega
        rw [if_neg hbreak, if_neg hsame, byte_ok (List.getElem?_eq_getElem hi), bind_ok]
        generalize payload[i.toNat + 1] = adType
        have hcapture := captureName_eq (a := ⟨adType, (payload.drop (i.toNat + 2)).take (adLen.toNat - 1)⟩) hbound rfl s
        have hcheck := checkMfr_eq (a := ⟨adType, (payload.drop (i.toNat + 2)).take (adLen.toNat - 1)⟩) hbound rfl
        dsimp only at hcapture hcheck
        rw [hcapture, bind_ok, hcheck, bind_ok, ih _ _ (by omega), hnext, List.foldl_cons, List.drop_drop]
        congr 4
        omega
    · rw [if_neg hi]
      have hnone : adRecords (payload.drop i.toNat) = [] := by
        have hshort : (payload.drop i.toNat).length < 2 := by
          rw [List.length_drop]
          omega
        match hd : payload.drop i.toNat with
        | [] => rfl
        | [_] => rfl
        | _ :: _ :: _ =>
          rw [hd, List.length_cons, List.length_cons] at hshort
          omega
      rw [hnone]
      rfl

/-! ### What the walk finds -/

theorem meet_outName (s : Scan) (as : List AdRecord) :
    (as.foldl Scan.meet s).outName = if s.outName = [] then nameOf as else s.outName := by
  induction as generalizing s with
  | nil =>
    unfold nameOf
    split_ifs with h
    · exact h
    · rfl
  | cons a as ih =>
    have hmeet : (s.meet a).outName = if a.isName ∧ s.outName = [] then a.text else s.outName := by
      unfold Scan.meet
      dsimp only
      split_ifs <;> rfl
    rw [List.foldl_cons, ih]
    unfold nameOf
    by_cases hs : s.outName = []
    · cases hname : a.isName with
      | true =>
        rw [if_pos ⟨hname, hs⟩] at hmeet
        rw [hmeet, if_pos hs, List.filter_cons_of_pos hname, List.map_cons, List.find?_cons]
        by_cases ht : a.text = []
        · rw [if_pos ht, ht]
          rfl
        · rw [if_neg ht, decide_eq_true ht]
          rfl
      | false =>
        rw [if_neg fun h => Bool.false_ne_true (hname.symm.trans h.1)] at hmeet
        rw [hmeet, if_pos hs, if_pos hs, List.filter_cons_of_neg (by rw [hname]; decide)]
    · rw [if_neg fun h => hs h.2] at hmeet
      rw [hmeet, if_neg hs, if_neg hs]

theorem kRules_tier : ∀ r ∈ kRules, r.tier ≠ .none := by decide

theorem tierOf_some (h : mfrRule a = some r) : tierOf (some r) ≠ .none := by
  unfold mfrRule at h
  split_ifs at h
  exact kRules_tier r (List.mem_of_find?_eq_some h)

theorem meet_hit (s : Scan) (as : List AdRecord) :
    (as.foldl Scan.meet s).hit = if s.hit = .none then tierOf (hitOf as) else s.hit := by
  induction as generalizing s with
  | nil =>
    split_ifs with h
    · exact h
    · rfl
  | cons a as ih =>
    have hmeet : (s.meet a).hit = if s.hit = .none then tierOf (mfrRule a) else s.hit := by
      unfold Scan.meet
      dsimp only
      split_ifs <;> rfl
    rw [List.foldl_cons, ih]
    unfold hitOf
    rw [List.findSome?_cons]
    by_cases hs : s.hit = .none
    · rw [if_pos hs] at hmeet
      rw [hmeet, if_pos hs]
      rcases hrule : mfrRule a with _ | r
      · rfl
      · rw [if_neg (tierOf_some hrule)]
    · rw [if_neg hs] at hmeet
      rw [hmeet, if_neg hs, if_neg hs]

/-- The code's tier: the manufacturer data's, and the name's where that has none. -/
def codeTier (as : List AdRecord) : VulnTier :=
  match hitOf as with
  | some r => r.tier
  | none => tierOf (kRules.find? (·.matchesName (nameOf as)))

theorem matchesName_nil : ∀ r ∈ kRules, r.matchesName [] = false := by decide

theorem mfrRule_mem (h : mfrRule a = some r) : r ∈ kRules ∧ a.isMfr = true ∧ r.matchesMfr a = true := by
  unfold mfrRule at h
  split_ifs at h with hm
  exact ⟨List.mem_of_find?_eq_some h, hm, List.find?_some (p := fun x : BleRule => x.matchesMfr a) h⟩

theorem hitOf_mem (h : hitOf as = some r) : r ∈ kRules ∧ Applies as r = true := by
  obtain ⟨a, ha, hrule⟩ := List.exists_of_findSome?_eq_some h
  obtain ⟨hmem, hm, hr⟩ := mfrRule_mem hrule
  refine ⟨hmem, ?_⟩
  unfold Applies
  rw [Bool.or_eq_true, List.any_eq_true]
  exact .inl ⟨a, ha, by rw [hm, hr]; rfl⟩

/-- A payload is classified within as many rounds as it has bytes, and every read is inside it. -/
theorem classifyAdv_eq (hlen : payload.length ≤ 255) (fuel : ℕ) (hf : payload.length < fuel) :
    classifyAdv fuel payload = .ok (codeTier (adRecords payload), nameOf (adRecords payload)) := by
  obtain ⟨n, rfl⟩ : ∃ n, fuel = n + 1 := ⟨fuel - 1, by omega⟩
  unfold classifyAdv
  by_cases hshort : payload.length < 2
  · rw [if_pos hshort]
    have hnone : adRecords payload = [] := by
      match payload with
      | [] => rfl
      | [_] => rfl
      | _ :: _ :: _ =>
        rw [List.length_cons, List.length_cons] at hshort
        omega
    rw [hnone]
    rfl
  · have hwalk : walk payload (n + 1) 0 ⟨[], .none⟩ =
        .ok ((adRecords payload).foldl Scan.meet ⟨[], .none⟩) := walk_eq hlen n 0 ⟨[], .none⟩ (by omega)
    have hname : ((adRecords payload).foldl Scan.meet ⟨[], .none⟩).outName = nameOf (adRecords payload) :=
      (meet_outName _ _).trans (if_pos rfl)
    have hhit : ((adRecords payload).foldl Scan.meet ⟨[], .none⟩).hit = tierOf (hitOf (adRecords payload)) :=
      (meet_hit _ _).trans (if_pos rfl)
    rw [if_neg hshort, hwalk, bind_ok, hname, hhit]
    unfold codeTier
    rcases hrule : hitOf (adRecords payload) with _ | r
    · by_cases hempty : nameOf (adRecords payload) = []
      · have hnone : kRules.find? (·.matchesName []) = none :=
          List.find?_eq_none.mpr fun r hr => Bool.eq_false_iff.mp (matchesName_nil r hr)
        rw [if_neg fun h => h.2 hempty, hempty]
        dsimp only
        rw [hnone]
      · rw [if_pos ⟨rfl, hempty⟩]
        rfl
    · rw [if_neg fun h => kRules_tier r (hitOf_mem hrule).1 h.1]
      rfl

/-! ### Which rule wins -/

theorem kRules_sorted : kRules.Pairwise fun r r' => rank r'.tier ≤ rank r.tier := by decide

theorem rank_inj : ∀ t t' : VulnTier, rank t = rank t' → t = t' := by
  intro t t' h
  cases t <;> cases t' <;> first | rfl | exact absurd h (by decide)

/-- The first of the rules that apply is of the rarest tier among them. -/
theorem first_rarest {l : List BleRule} {p : BleRule → Bool} (hl : l.Pairwise fun r r' => rank r'.tier ≤ rank r.tier)
    (h : l.find? p = some R) : ∀ r ∈ l, p r = true → rank r.tier ≤ rank R.tier := by
  induction l with
  | nil => cases h
  | cons x l ih =>
    obtain ⟨hx, hl⟩ := List.pairwise_cons.mp hl
    rw [List.find?_cons] at h
    intro r hr hp
    cases hpx : p x with
    | true =>
      rw [hpx] at h
      cases h
      obtain rfl | hr := List.mem_cons.mp hr
      · exact Nat.le_refl _
      · exact hx r hr
    | false =>
      rw [hpx] at h
      obtain rfl | hr := List.mem_cons.mp hr
      · exact absurd hp (by rw [hpx]; decide)
      · exact ih hl h r hr hp

theorem applies_named (h : hitOf as = none) (hr : r ∈ kRules) : Applies as r = r.matchesName (nameOf as) := by
  have hnone : as.any (fun a => a.isMfr && r.matchesMfr a) = false := by
    rw [List.any_eq_false]
    intro a ha hc
    obtain ⟨hm, hc⟩ := Bool.and_eq_true_iff.mp hc
    have hrule := List.findSome?_eq_none_iff.mp h a ha
    unfold mfrRule at hrule
    rw [if_pos hm, List.find?_eq_none] at hrule
    exact hrule r hr hc
  unfold Applies
  rw [hnone, Bool.false_or]

theorem codeTier_iff : codeTier as = lawTier as ↔ Unrivalled as := by
  unfold codeTier lawTier Unrivalled
  rcases hhit : hitOf as with _ | R
  · have hsame : kRules.find? (Applies as) = kRules.find? (·.matchesName (nameOf as)) :=
      List.find?_congr fun r hr => applies_named hhit hr
    rw [hsame]
    exact ⟨fun _ => nofun, fun _ => rfl⟩
  · obtain ⟨hmem, happ⟩ := hitOf_mem hhit
    obtain ⟨S, hS⟩ := Option.isSome_iff_exists.mp (List.find?_isSome.mpr ⟨R, hmem, happ⟩)
    have hfirst := first_rarest kRules_sorted hS
    have hSapp : Applies as S = true := List.find?_some (p := Applies as) hS
    rw [hS]
    change R.tier = S.tier ↔ _
    constructor
    · rintro he x hx r hr ha
      cases hx
      rw [he]
      exact hfirst r hr ha
    · intro h
      exact rank_inj _ _ (Nat.le_antisymm (hfirst R hmem happ)
        (h R rfl S (List.mem_of_find?_eq_some hS) hSapp))

/-- An advertisement is classified without a read outside of it, and by the first rule of the table that applies
exactly when no rule that applies is rarer than that of its first manufacturer data. -/
theorem classifyAdv_tier (payload : List UInt8) (hlen : payload.length ≤ 255) :
    ∃ tier, (∀ fuel, payload.length < fuel →
      classifyAdv fuel payload = .ok (tier, nameOf (adRecords payload))) ∧
      (tier = lawTier (adRecords payload) ↔ Unrivalled (adRecords payload)) :=
  ⟨codeTier (adRecords payload), fun fuel hf => classifyAdv_eq hlen fuel hf, codeTier_iff⟩

/-- A lost tag, named by nothing. -/
theorem classifyAdv_tier_airTag : ∃ tier, (∀ fuel, 9 < fuel →
      classifyAdv fuel [2, 1, 6, 5, 0xFF, 0x4C, 0x00, 0x12, 0x19] = .ok (tier, [])) ∧ tier = .rare := by
  obtain ⟨tier, hrun, hiff⟩ := classifyAdv_tier [2, 1, 6, 5, 0xFF, 0x4C, 0x00, 0x12, 0x19] (by decide)
  exact ⟨tier, hrun, (hiff.mpr (by decide)).trans (by decide)⟩

/-- A camera with the name of a rare rule is common, because its manufacturer data is looked at first. -/
theorem flockBeacon_common :
    classifyAdv 20 ([6, 0xFF, 0x4C, 0x00, 0x02, 0x15, 0x00, 7, 0x09] ++ lit "Flock-") = .ok (.common, lit "Flock-") ∧
      lawTier (adRecords ([6, 0xFF, 0x4C, 0x00, 0x02, 0x15, 0x00, 7, 0x09] ++ lit "Flock-")) = .rare := by
  decide

end MonsterMesh.BleScanner

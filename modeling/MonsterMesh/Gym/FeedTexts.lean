import Mathlib.Algebra.GroupWithZero.Nat
import Mathlib.Algebra.Order.BigOperators.Group.List
import MonsterMesh.Gym.Feed

/-! What is printed of each record, as far as there is room: an object of its fields. -/
namespace MonsterMesh.GauntletFeed

open Bounded Fallible Json Text

/-! ### The fields of a record -/

def stateWants (s : GymView) (ts : UInt32) : List (Str × Want) :=
  [(lit "gym", .text 64 s.gymName.bytes),
    (lit "badge", .text 64 s.gymBadge.bytes),
    (lit "node", .number s.nodeNum.toNat),
    (lit "leader", .text 64 s.leader),
    (lit "party", .text 64 s.party),
    (lit "since", .number s.leaderSince.toNat),
    (lit "roster", .number s.rosterSize.toNat),
    (lit "prev", .number s.prevLeaderCount.toNat),
    (lit "challenges", .number s.totalChallenges.toNat),
    (lit "battles", .number s.totalBattles.toNat),
    (lit "ts", .number ts.toNat)]

def eventWants (s : GymView) (ts : UInt32) (eventType : Str) : List (Str × Want) :=
  [(lit "type", .exact eventType), (lit "gym", .text 32 s.gymName.bytes), (lit "ts", .number ts.toNat)]

def rosterData (node : UInt32) (name : CString 16) (rank : UInt8) (partyCsv : CString 64) : List (Str × Want) :=
  [(lit "node", .number node.toNat),
    (lit "name", .exact name.bytes),
    (lit "rank", .number (rank.toNat + 1)),
    (lit "party", .exact partyCsv.bytes)]

def leaderData (node : UInt32) (name : CString 16) (partyCsv : CString 64) : List (Str × Want) :=
  [(lit "node", .number node.toNat), (lit "name", .exact name.bytes), (lit "party", .exact partyCsv.bytes)]

def leaderLineWants (s : GymView) (ts node : UInt32) (name : CString 16) (partyCsv : CString 64) :
    List (Str × Want) :=
  [(lit "type", .exact (lit "leader")),
    (lit "ts", .number ts.toNat),
    (lit "gym", .text 24 s.gymName.bytes),
    (lit "badge", .text 24 s.gymBadge.bytes),
    (lit "node", .number node.toNat),
    (lit "name", .text 24 name.bytes),
    (lit "party", .text 80 partyCsv.bytes)]

def rosterLineWants (s : GymView) (ts node : UInt32) (name : CString 16) (rank : UInt8) : List (Str × Want) :=
  [(lit "type", .exact (lit "roster")),
    (lit "ts", .number ts.toNat),
    (lit "gym", .text 24 s.gymName.bytes),
    (lit "node", .number node.toNat),
    (lit "name", .text 24 name.bytes),
    (lit "rank", .number rank.toNat)]

def messageLineWants (ts node : UInt32) (name : CString 16) (text : CString 234) : List (Str × Want) :=
  [(lit "type", .exact (lit "msg")),
    (lit "ts", .number ts.toNat),
    (lit "node", .number node.toNat),
    (lit "name", .text 24 name.bytes),
    (lit "text", .text 200 text.bytes)]

namespace GymRecord

/-- The fields of a record. -/
def wants : GymRecord → List (Str × Want)
  | state s ts => stateWants s ts
  | rosterEvent s ts _ _ _ _ => eventWants s ts (lit "roster")
  | leaderEvent s ts _ _ _ => eventWants s ts (lit "leader_change")
  | leaderLine s ts node name partyCsv => leaderLineWants s ts node name partyCsv
  | rosterLine s ts node name rank => rosterLineWants s ts node name rank
  | messageLine ts node name text => messageLineWants ts node name text

/-- The fields of the object in its last field, `data`, if there is one. -/
def data : GymRecord → Option (List (Str × Want))
  | rosterEvent _ _ node name rank partyCsv => some (rosterData node name rank partyCsv)
  | leaderEvent _ _ node name partyCsv => some (leaderData node name partyCsv)
  | _ => none

/-- The size of the buffer. -/
def room : GymRecord → ℕ
  | leaderLine .. | messageLine .. => 260
  | rosterLine .. => 200
  | _ => jsonBufMax

end GymRecord

def dataMembers : Option (List (Str × Want)) → List Member
  | none => []
  | some ws => [⟨lit "data", objText (members ws), objValue (members ws)⟩]

/-- The whole text of a record. -/
def GymRecord.text (r : GymRecord) : Str := objText (members r.wants ++ dataMembers r.data)

/-! ### Lengths -/

/-- The most bytes that a field takes, if it is a number of 32 bits. -/
def Want.most : Want → ℕ
  | .number _ => 10
  | .text room _ => room + 1
  | .exact o => o.length + 2

def Want.Small : Want → Prop
  | .number n => n < 2 ^ 32
  | .text room _ => 0 < room
  | .exact _ => True

theorem member_length {w : Want} (key : Str) (hw : w.Small) : (w.member key).text.length ≤ w.most := by
  cases w with
  | number n =>
    have hlt : n < 2 ^ 32 := hw
    exact decimal_length (k := 10) (by decide) (by omega)
  | text room o =>
    have hlen := escape_kept (o := o) hw
    change (34 :: (escape (kept room o) ++ [34])).length ≤ room + 1
    rw [List.length_cons, List.length_append, List.length_singleton]
    omega
  | exact o =>
    change (34 :: (o ++ [34])).length ≤ o.length + 2
    rw [List.length_cons, List.length_append, List.length_singleton]

theorem member_key {w : Want} {key : Str} : (w.member key).key = key := by cases w <;> rfl

/-- The most bytes that fields take in an object. -/
def mostOf (ws : List (Str × Want)) : ℕ := (ws.map fun w => (keyText w.1).length + w.2.most + 1).sum

theorem members_length {ws : List (Str × Want)} (hws : ∀ w ∈ ws, w.2.Small) : fieldsLength (members ws) ≤ mostOf ws := by
  unfold fieldsLength mostOf members
  rw [List.map_map]
  refine List.sum_le_sum fun w hw => ?_
  have hlen := member_length w.1 (hws w hw)
  dsimp only [Function.comp_apply]
  rw [member_key]
  omega

/-- Every number of a record has 32 bits. -/
theorem wants_small (r : GymRecord) : ∀ w ∈ r.wants, w.2.Small := by
  cases r
  all_goals
    simp only [GymRecord.wants, stateWants, eventWants, leaderLineWants, rosterLineWants, messageLineWants,
      List.forall_mem_cons, Want.Small, List.not_mem_nil, false_implies, implies_true, and_true, true_and,
      UInt32.toNat_lt, Nat.zero_lt_succ]
  case state s ts =>
    have hroster := s.rosterSize.toNat_lt
    have hprev := s.prevLeaderCount.toNat_lt
    omega
  case rosterLine s ts node name rank =>
    have hrank := rank.toNat_lt
    omega

theorem text_length (r : GymRecord) : r.text.length ≤ 1 + mostOf r.wants + fieldsLength (dataMembers r.data) := by
  have hne : members r.wants ++ dataMembers r.data ≠ [] := by
    cases r <;> exact List.cons_ne_nil _ _
  have hlen := members_length (wants_small r)
  unfold GymRecord.text
  rw [objText_length hne, fieldsLength_append]
  omega

/-! ### What is printed -/

theorem printed_whole {n : ℕ} {o : Str} (h : o.length < n) : printed n o = o := List.take_of_length_le (by omega)

section
variable (s : GymView) (ts node : UInt32) (name : CString 16) (rank : UInt8) (partyCsv : CString 64)
  (text : CString 234)

theorem leaderLine_text : gauntletBBSLogLeader s ts node name partyCsv =
    printed 260 (GymRecord.leaderLine s ts node name partyCsv).text := by
  unfold gauntletBBSLogLeader GymRecord.text
  simp only [jsonEscape_eq, List.append_assoc]
  unfold GymRecord.wants GymRecord.data leaderLineWants members dataMembers objText
  simp only [List.map_cons, List.map_nil, List.append_nil, Want.member, fieldsText, List.append_assoc,
    List.cons_append]
  rfl

theorem rosterLine_text : gauntletBBSLogRoster s ts node name rank =
    printed 200 (GymRecord.rosterLine s ts node name rank).text := by
  unfold gauntletBBSLogRoster GymRecord.text
  simp only [jsonEscape_eq, List.append_assoc]
  unfold GymRecord.wants GymRecord.data rosterLineWants members dataMembers objText
  simp only [List.map_cons, List.map_nil, List.append_nil, Want.member, fieldsText, List.append_assoc,
    List.cons_append]
  rfl

theorem messageLine_text : gauntletBBSLogMessage ts node name text =
    printed 260 (GymRecord.messageLine ts node name text).text := by
  unfold gauntletBBSLogMessage GymRecord.text
  simp only [jsonEscape_eq, List.append_assoc]
  unfold GymRecord.wants GymRecord.data messageLineWants members dataMembers objText
  simp only [List.map_cons, List.map_nil, List.append_nil, Want.member, fieldsText, List.append_assoc,
    List.cons_append]
  rfl

/-- An event is an object with the payload as its last field. -/
theorem publishEvent_text {eventType : Str} {ws : List (Str × Want)} (htype : jsonEscape 32 eventType = eventType) :
    gauntletMQTTPublishEvent s ts eventType (objText (members ws)) =
      printed jsonBufMax (objText (members (eventWants s ts eventType) ++ dataMembers (some ws))) := by
  unfold gauntletMQTTPublishEvent
  have hpayload : objText (members ws) ≠ [] := List.cons_ne_nil _ _
  rw [htype, if_pos hpayload]
  simp only [jsonEscape_eq, List.append_assoc]
  change _ = printed _ (objText (_ ++ [⟨lit "data", objText (members ws), objValue (members ws)⟩]))
  generalize objText (members ws) = payload
  unfold eventWants members objText
  simp only [List.map_cons, List.map_nil, List.cons_append, List.nil_append, Want.member, fieldsText,
    List.append_assoc]
  rfl

theorem rosterData_length : (objText (members (rosterData node name rank partyCsv))).length < 160 := by
  have hsmall : ∀ w ∈ rosterData node name rank partyCsv, w.2.Small := by
    have hnode := node.toNat_lt
    have hrank := rank.toNat_lt
    simp only [rosterData, List.forall_mem_cons, Want.Small]
    exact ⟨hnode, trivial, by omega, trivial, List.forall_mem_nil _⟩
  have hmost : mostOf (rosterData node name rank partyCsv) =
      18 + (7 + (name.bytes.length + 2) + 1 + (18 + (8 + (partyCsv.bytes.length + 2) + 1 + 0))) := rfl
  have hlen := members_length hsmall
  have hname := name.fits
  have hparty := partyCsv.fits
  have hne : members (rosterData node name rank partyCsv) ≠ [] := List.cons_ne_nil _ _
  rw [objText_length hne]
  omega

theorem leaderData_length : (objText (members (leaderData node name partyCsv))).length < 160 := by
  have hsmall : ∀ w ∈ leaderData node name partyCsv, w.2.Small := by
    simp only [leaderData, List.forall_mem_cons, Want.Small]
    exact ⟨node.toNat_lt, trivial, trivial, List.forall_mem_nil _⟩
  have hmost : mostOf (leaderData node name partyCsv) =
      18 + (7 + (name.bytes.length + 2) + 1 + (8 + (partyCsv.bytes.length + 2) + 1 + 0)) := rfl
  have hlen := members_length hsmall
  have hname := name.fits
  have hparty := partyCsv.fits
  have hne : members (leaderData node name partyCsv) ≠ [] := List.cons_ne_nil _ _
  rw [objText_length hne]
  omega

/-- The payload of an event, as far as there is room: there is. -/
theorem rosterPayload_text : printed 160 (lit "\x7b\"node\":" ++ decimal node.toNat ++ lit ",\"name\":\"" ++ name.bytes ++
    lit "\",\"rank\":" ++ decimal (rank.toNat + 1) ++ lit ",\"party\":\"" ++ partyCsv.bytes ++ lit "\"\x7d") =
      objText (members (rosterData node name rank partyCsv)) := by
  rw [← printed_whole (rosterData_length node name rank partyCsv)]
  simp only [List.append_assoc]
  unfold rosterData members objText
  simp only [List.map_cons, List.map_nil, Want.member, fieldsText, List.append_assoc, List.cons_append]
  rfl

theorem leaderPayload_text : printed 160 (lit "\x7b\"node\":" ++ decimal node.toNat ++ lit ",\"name\":\"" ++ name.bytes ++
    lit "\",\"party\":\"" ++ partyCsv.bytes ++ lit "\"\x7d") = objText (members (leaderData node name partyCsv)) := by
  rw [← printed_whole (leaderData_length node name partyCsv)]
  simp only [List.append_assoc]
  unfold leaderData members objText
  simp only [List.map_cons, List.map_nil, Want.member, fieldsText, List.append_assoc, List.cons_append]
  rfl

theorem rosterEvent_text : rosterEvent s ts node name rank partyCsv =
    printed jsonBufMax (GymRecord.rosterEvent s ts node name rank partyCsv).text := by
  unfold rosterEvent
  rw [rosterPayload_text, publishEvent_text s ts (by decide)]
  rfl

theorem leaderEvent_text : leaderEvent s ts node name partyCsv =
    printed jsonBufMax (GymRecord.leaderEvent s ts node name partyCsv).text := by
  unfold leaderEvent
  rw [leaderPayload_text, publishEvent_text s ts (by decide)]
  rfl

theorem dataMembers_length {ws : List (Str × Want)} (h : (objText (members ws)).length < 160) :
    fieldsLength (dataMembers (some ws)) ≤ 167 := by
  change 7 + (objText (members ws)).length + 1 + 0 ≤ 167
  omega

theorem rosterEvent_length : (GymRecord.rosterEvent s ts node name rank partyCsv).text.length < jsonBufMax := by
  have hmost : mostOf (eventWants s ts (lit "roster")) = 16 + (40 + (16 + 0)) := rfl
  have hdata := dataMembers_length (rosterData_length node name rank partyCsv)
  have hlen : _ ≤ 1 + mostOf (eventWants s ts (lit "roster")) + fieldsLength (dataMembers (some _)) :=
    text_length (.rosterEvent s ts node name rank partyCsv)
  change _ < 480
  omega

theorem leaderEvent_length : (GymRecord.leaderEvent s ts node name partyCsv).text.length < jsonBufMax := by
  have hmost : mostOf (eventWants s ts (lit "leader_change")) = 23 + (40 + (16 + 0)) := rfl
  have hdata := dataMembers_length (leaderData_length node name partyCsv)
  have hlen : _ ≤ 1 + mostOf (eventWants s ts (lit "leader_change")) + fieldsLength (dataMembers (some _)) :=
    text_length (.leaderEvent s ts node name partyCsv)
  change _ < 480
  omega

theorem leaderLine_length : (GymRecord.leaderLine s ts node name partyCsv).text.length < 260 := by
  have hmost : mostOf (leaderLineWants s ts node name partyCsv) =
    16 + (16 + (32 + (34 + (18 + (33 + (90 + 0)))))) := rfl
  have hlen : _ ≤ 1 + mostOf (leaderLineWants s ts node name partyCsv) + 0 :=
    text_length (.leaderLine s ts node name partyCsv)
  omega

theorem rosterLine_length : (GymRecord.rosterLine s ts node name rank).text.length < 200 := by
  have hmost : mostOf (rosterLineWants s ts node name rank) = 16 + (16 + (32 + (18 + (33 + (18 + 0))))) := rfl
  have hlen : _ ≤ 1 + mostOf (rosterLineWants s ts node name rank) + 0 := text_length (.rosterLine s ts node name rank)
  omega

theorem messageLine_length : (GymRecord.messageLine ts node name text).text.length =
    48 + (decimal ts.toNat).length + (decimal node.toNat).length + (jsonEscape 24 name.bytes).length +
      (jsonEscape 200 text.bytes).length := by
  have hne : members (messageLineWants ts node name text) ++ [] ≠ [] := List.cons_ne_nil _ _
  change (objText (members (messageLineWants ts node name text) ++ [])).length = _
  rw [objText_length hne, List.append_nil, jsonEscape_eq, jsonEscape_eq]
  unfold messageLineWants members fieldsLength
  simp only [List.map_cons, List.map_nil, Want.member, List.length_cons, List.length_append, List.length_nil]
  change 1 + (13 + (5 + _ + 1 + (7 + _ + 1 + (7 + (_ + 1 + 1) + 1 + (7 + (_ + 1 + 1) + 1 + 0))))) = _
  omega

/-! ### The state -/

theorem stateText_length : (GymRecord.state s ts).text.length < jsonBufMax := by
  have hmost : mostOf (stateWants s ts) = 72 + (74 + (18 + (75 + (74 + (19 + (20 + (18 + (24 + (21 + (16 + 0)))))))))) :=
    rfl
  have hlen : _ ≤ 1 + mostOf (stateWants s ts) + 0 := text_length (.state s ts)
  change _ < 480
  omega

end

/-- The last comma gives way to the brace. -/
theorem closeObject_holds {p : Printer} {out : Str} (hp : p.Holds (out ++ [44])) (hne : out ≠ [])
    (hlen : p.buf.length = jsonBufMax) (hlt : out.length + 1 < jsonBufMax) (hzero : 0 ∉ out) :
    (closeObject p >>= fun q => .ok (Bounded.cstr q.buf)) = .ok (out ++ [125]) := by
  obtain ⟨rest, hbuf, hpos⟩ := hp
  have hpos' : p.pos - 1 = out.length := by
    rw [hpos, List.length_append, List.length_singleton, Nat.add_sub_cancel]
  have hlong := List.length_pos_iff.mpr hne
  have hcomma : 1 < p.pos ∧ p.buf[p.pos - 1]? = some 44 := by
    rw [hpos', hbuf, List.append_assoc, List.getElem?_append_right (Nat.le_refl _), Nat.sub_self]
    exact ⟨by omega, rfl⟩
  have hback : Printer.Holds ⟨p.buf, out.length⟩ out := ⟨44 :: rest, by rw [hbuf, List.append_assoc]; rfl, rfl⟩
  obtain ⟨q, hput, hq, hqlen⟩ := Printer.put_holds (c := 125) hback (show _ < p.buf.length by omega)
  have hstore := Printer.store_holds hq (by
    rw [hqlen, List.length_append, List.length_singleton]
    change _ < p.buf.length
    omega) (by
    rw [List.mem_append, List.mem_singleton, not_or]
    exact ⟨hzero, by decide⟩)
  unfold closeObject
  rw [if_pos hcomma, hpos']
  dsimp only
  rw [if_pos (by omega), hput, bind_ok]
  obtain ⟨buf, hbuf', hcstr⟩ := map_eq_ok.mp hstore
  rw [hbuf', bind_ok, bind_ok]
  exact congrArg Except.ok hcstr

section
variable (s : GymView) (ts : UInt32)

theorem appendStr_text {key val : Str} (hkey : escape key = key) :
    appendStr key val = keyText key ++ (34 :: (escape (kept 64 val) ++ [34])) ++ [44] := by
  unfold appendStr keyText
  rw [jsonEscape_eq, hkey]
  simp only [List.append_assoc, List.cons_append]
  rfl

theorem appendUint_text {key : Str} {n : ℕ} (hkey : escape key = key) :
    appendUint key n = keyText key ++ decimal n ++ [44] := by
  unfold appendUint keyText
  rw [hkey]
  simp only [List.append_assoc, List.cons_append]
  rfl

theorem stateTexts_flatten : (stateTexts s ts).flatten = 123 :: manyText (members (stateWants s ts)) := by
  unfold stateTexts manyText
  rw [List.flatten_cons, List.flatMap_def]
  refine congrArg (123 :: ·) (congrArg List.flatten ?_)
  simp (disch := decide) only [appendStr_text, appendUint_text]
  unfold stateWants members
  simp only [List.map_cons, List.map_nil, Want.member]

theorem visible_decimal (n : ℕ) : ∀ b ∈ decimal n, isVisible b = true := by
  intro b hb
  have hdigit := isDigit_iff.mp (isDigit_of_decimal hb)
  refine decide_eq_true (UInt8.le_iff_toNat_le.mpr ?_)
  change 32 ≤ _
  omega

theorem visible_string {o : Str} (h : ∀ b ∈ o, isVisible b = true) :
    ∀ b ∈ 34 :: (o ++ [34]), isVisible b = true := by
  intro b hb
  simp only [List.mem_cons, List.mem_append, List.not_mem_nil, or_false] at hb
  rcases hb with rfl | hb | rfl
  · rfl
  · exact h b hb
  · rfl

theorem member_visible {w : Want} {key : Str} (hw : w.Printable) : ∀ b ∈ (w.member key).text, isVisible b = true := by
  cases w with
  | number n => exact visible_decimal n
  | text room o => exact visible_string (visible_escape kept_visible)
  | exact o => exact visible_string (plain_visible hw)

/-- The keys of a record need no escapes. -/
theorem wants_simple (r : GymRecord) : ∀ w ∈ r.wants, Simple w.1 := by
  cases r
  all_goals
    simp only [GymRecord.wants, stateWants, eventWants, leaderLineWants, rosterLineWants, messageLineWants,
      List.forall_mem_cons]
    decide +kernel

/-- What a record has of its own is printed as it should be read: only the data of an event may not be. -/
theorem wants_printable (r : GymRecord) : ∀ w ∈ r.wants, w.2.Printable := by
  cases r
  all_goals
    simp only [GymRecord.wants, stateWants, eventWants, leaderLineWants, rosterLineWants, messageLineWants,
      List.forall_mem_cons, Want.Printable, List.not_mem_nil, false_implies, implies_true, and_true]
  all_goals decide +kernel

theorem visible_state : ∀ b ∈ manyText (members (stateWants s ts)), isVisible b = true := by
  refine visible_manyText fun f hf => ?_
  obtain ⟨w, hw, rfl⟩ := List.mem_map.mp hf
  have hkey := wants_simple (.state s ts) w hw
  rw [member_key]
  exact ⟨plain_visible hkey.1, member_visible (wants_printable (.state s ts) w hw)⟩

theorem publishState_text : gauntletMQTTPublishState s ts = .ok (GymRecord.state s ts).text := by
  have hne : members (stateWants s ts) ≠ [] := List.cons_ne_nil _ _
  obtain ⟨out, hclosed, hopen⟩ := objText_close hne
  have htext : (GymRecord.state s ts).text = out ++ [125] := by
    rw [← hclosed]
    exact congrArg objText (List.append_nil _)
  have hlen := stateText_length s ts
  rw [htext, List.length_append, List.length_singleton] at hlen
  have hflat := (stateTexts_flatten s ts).trans hopen
  have hstart : (Printer.start jsonBufMax).buf.length = jsonBufMax := List.length_replicate
  have hroom : ([] : Str).length + (stateTexts s ts).flatten.length < (Printer.start jsonBufMax).buf.length := by
    rw [hflat, hstart, List.length_append, List.length_singleton, List.length_nil]
    omega
  obtain ⟨p, hrun, hholds, hsize⟩ := Printer.foldlM_holds (Printer.start_holds jsonBufMax) hroom
  rw [hflat, List.nil_append] at hholds
  have hzero : 0 ∉ out := by
    intro hmem
    have hmem' : 0 ∈ 123 :: manyText (members (stateWants s ts)) := by
      rw [hopen]
      exact List.mem_append_left _ hmem
    rcases List.mem_cons.mp hmem' with h | h
    · exact absurd h (by decide)
    · exact absurd (visible_state s ts 0 h) (by decide)
  have hout : out ≠ [] := by
    rintro rfl
    exact absurd (List.cons.inj hopen).1 (by decide)
  unfold gauntletMQTTPublishState
  rw [hrun, bind_ok, closeObject_holds hholds hout (hsize.trans hstart) hlen hzero, htext]

end

/-! ### Records -/

namespace GymRecord

/-- There is room for the whole record. Only for a message on the board may there be none. -/
def Fits : GymRecord → Prop
  | messageLine ts node name text => (decimal ts.toNat).length + (decimal node.toNat).length +
      (jsonEscape 24 name.bytes).length + (jsonEscape 200 text.bytes).length < 212
  | _ => True

theorem fits_iff (r : GymRecord) : r.text.length < r.room ↔ r.Fits := by
  cases r with
  | state s ts => exact iff_of_true (stateText_length s ts) trivial
  | rosterEvent s ts node name rank partyCsv =>
    exact iff_of_true (rosterEvent_length s ts node name rank partyCsv) trivial
  | leaderEvent s ts node name partyCsv => exact iff_of_true (leaderEvent_length s ts node name partyCsv) trivial
  | leaderLine s ts node name partyCsv => exact iff_of_true (leaderLine_length s ts node name partyCsv) trivial
  | rosterLine s ts node name rank => exact iff_of_true (rosterLine_length s ts node name rank) trivial
  | messageLine ts node name text =>
    rw [messageLine_length]
    change _ < 260 ↔ _ < 212
    omega

/-- What comes out is the text of the record, as far as there is room. -/
theorem out_eq (r : GymRecord) : r.out = .ok (printed r.room r.text) := by
  cases r with
  | state s ts =>
    have hwhole : printed (state s ts).room (state s ts).text = _ := printed_whole (stateText_length s ts)
    rw [hwhole]
    exact publishState_text s ts
  | rosterEvent s ts node name rank partyCsv => exact congrArg Except.ok (rosterEvent_text s ts node name rank partyCsv)
  | leaderEvent s ts node name partyCsv => exact congrArg Except.ok (leaderEvent_text s ts node name partyCsv)
  | leaderLine s ts node name partyCsv => exact congrArg Except.ok (leaderLine_text s ts node name partyCsv)
  | rosterLine s ts node name rank => exact congrArg Except.ok (rosterLine_text s ts node name rank)
  | messageLine ts node name text => exact congrArg Except.ok (messageLine_text ts node name text)

end GymRecord

end MonsterMesh.GauntletFeed

import Mathlib.Data.List.Forall2
import MonsterMesh.Lib.Json
import MonsterMesh.Lib.Writing

/-! The records that a gym writes to its board and publishes. -/
namespace MonsterMesh.GauntletFeed

open Bounded Fallible Text

/-! ### Printers -/

/-- `jsonEscape` and `escape`, which are the same: no more than a buffer of `outLen` bytes holds, at index `pos`. -/
def jsonEscapeAt (outLen : ℕ) : ℕ → Str → Str
  | _, [] => []
  | pos, c :: p =>
    if pos + 2 < outLen then
      if c = 34 ∨ c = 92 then 92 :: c :: jsonEscapeAt outLen (pos + 2) p
      else if 32 ≤ c then c :: jsonEscapeAt outLen (pos + 1) p
      else jsonEscapeAt outLen pos p
    else []

def jsonEscape (outLen : ℕ) (text : Str) : Str := jsonEscapeAt outLen 0 text

/-- What `snprintf` leaves in a buffer of `n` bytes. -/
def printed (n : ℕ) (text : Str) : Str := text.take (n - 1)

/-- What the feed reads of the state of a gym. -/
structure GymView where
  gymName : CString 16
  gymBadge : CString 16
  nodeNum : UInt32
  leaderNode : UInt32
  leaderName : CString 16
  leaderSince : UInt32
  /-- The leader's party as `gauntletFormatParty` writes it. -/
  leaderParty : CString 64
  rosterSize : UInt8
  prevLeaderCount : UInt8
  totalChallenges : UInt32
  totalBattles : UInt32

namespace GymView

variable (s : GymView)

/-- The leader that is published: there may be none. -/
def leader : Str := if s.leaderNode ≠ 0 then s.leaderName.bytes else []

def party : Str := if s.leaderNode ≠ 0 then s.leaderParty.bytes else []

end GymView

def appendStr (key val : Str) : Str := lit "\"" ++ key ++ lit "\":\"" ++ jsonEscape 64 val ++ lit "\","

def appendUint (key : Str) (val : ℕ) : Str := lit "\"" ++ key ++ lit "\":" ++ decimal val ++ lit ","

/-- What `gauntletMQTTPublishState` prints, one after the other. -/
def stateTexts (s : GymView) (ts : UInt32) : List Str :=
  [lit "\x7b",
    appendStr (lit "gym") s.gymName.bytes,
    appendStr (lit "badge") s.gymBadge.bytes,
    appendUint (lit "node") s.nodeNum.toNat,
    appendStr (lit "leader") s.leader,
    appendStr (lit "party") s.party,
    appendUint (lit "since") s.leaderSince.toNat,
    appendUint (lit "roster") s.rosterSize.toNat,
    appendUint (lit "prev") s.prevLeaderCount.toNat,
    appendUint (lit "challenges") s.totalChallenges.toNat,
    appendUint (lit "battles") s.totalBattles.toNat,
    appendUint (lit "ts") ts.toNat]

def jsonBufMax : ℕ := 480

/-- The closing brace takes the place of the last comma. -/
def closeObject (p : Printer) : Except Bounded.Fault Printer := do
  let pos := if 1 < p.pos ∧ p.buf[p.pos - 1]? = some 44 then p.pos - 1 else p.pos
  if pos < jsonBufMax - 1 then do
    let p ← Printer.put ⟨p.buf, pos⟩ 125
    let buf ← store p.buf p.pos 0
    .ok ⟨buf, p.pos⟩
  else .ok ⟨p.buf, pos⟩

def gauntletMQTTPublishState (s : GymView) (ts : UInt32) : Except Bounded.Fault Str := do
  let p ← (stateTexts s ts).foldlM Printer.print (.start jsonBufMax)
  let p ← closeObject p
  .ok (Bounded.cstr p.buf)

def gauntletMQTTPublishEvent (s : GymView) (ts : UInt32) (eventType payloadJson : Str) : Str :=
  printed jsonBufMax (lit "\x7b\"type\":\"" ++ jsonEscape 32 eventType ++ lit "\",\"gym\":\"" ++
    jsonEscape 32 s.gymName.bytes ++ lit "\",\"ts\":" ++ decimal ts.toNat ++ lit ",\"data\":" ++
    (if payloadJson ≠ [] then payloadJson else lit "\x7b\x7d") ++ lit "\x7d")

/-- The event that `insertAtRank` publishes. -/
def rosterEvent (s : GymView) (ts node : UInt32) (name : CString 16) (rank : UInt8) (partyCsv : CString 64) : Str :=
  gauntletMQTTPublishEvent s ts (lit "roster") (printed 160 (lit "\x7b\"node\":" ++ decimal node.toNat ++
    lit ",\"name\":\"" ++ name.bytes ++ lit "\",\"rank\":" ++ decimal (rank.toNat + 1) ++ lit ",\"party\":\"" ++
    partyCsv.bytes ++ lit "\"\x7d"))

/-- The event that `promoteToLeader` publishes. -/
def leaderEvent (s : GymView) (ts node : UInt32) (name : CString 16) (p : CString 64) : Str :=
  gauntletMQTTPublishEvent s ts (lit "leader_change") (printed 160 (lit "\x7b\"node\":" ++ decimal node.toNat ++
    lit ",\"name\":\"" ++ name.bytes ++ lit "\",\"party\":\"" ++ p.bytes ++ lit "\"\x7d"))

def gauntletBBSLogLeader (s : GymView) (ts node : UInt32) (name : CString 16) (partyCsv : CString 64) : Str :=
  printed 260 (lit "\x7b\"type\":\"leader\",\"ts\":" ++ decimal ts.toNat ++ lit ",\"gym\":\"" ++
    jsonEscape 24 s.gymName.bytes ++ lit "\",\"badge\":\"" ++ jsonEscape 24 s.gymBadge.bytes ++ lit "\",\"node\":" ++
    decimal node.toNat ++ lit ",\"name\":\"" ++ jsonEscape 24 name.bytes ++ lit "\",\"party\":\"" ++
    jsonEscape 80 partyCsv.bytes ++ lit "\"\x7d")

def gauntletBBSLogRoster (s : GymView) (ts node : UInt32) (name : CString 16) (rank : UInt8) : Str :=
  printed 200 (lit "\x7b\"type\":\"roster\",\"ts\":" ++ decimal ts.toNat ++ lit ",\"gym\":\"" ++
    jsonEscape 24 s.gymName.bytes ++ lit "\",\"node\":" ++ decimal node.toNat ++ lit ",\"name\":\"" ++
    jsonEscape 24 name.bytes ++ lit "\",\"rank\":" ++ decimal rank.toNat ++ lit "\x7d")

def gauntletBBSLogMessage (ts node : UInt32) (name : CString 16) (text : CString 234) : Str :=
  printed 260 (lit "\x7b\"type\":\"msg\",\"ts\":" ++ decimal ts.toNat ++ lit ",\"node\":" ++ decimal node.toNat ++
    lit ",\"name\":\"" ++ jsonEscape 24 name.bytes ++ lit "\",\"text\":\"" ++ jsonEscape 200 text.bytes ++
    lit "\"\x7d")

/-- A record of the gym, with all that is printed in it. -/
inductive GymRecord where
  | state (s : GymView) (ts : UInt32)
  | rosterEvent (s : GymView) (ts node : UInt32) (name : CString 16) (rank : UInt8) (partyCsv : CString 64)
  | leaderEvent (s : GymView) (ts node : UInt32) (name : CString 16) (partyCsv : CString 64)
  | leaderLine (s : GymView) (ts node : UInt32) (name : CString 16) (partyCsv : CString 64)
  | rosterLine (s : GymView) (ts node : UInt32) (name : CString 16) (rank : UInt8)
  | messageLine (ts node : UInt32) (name : CString 16) (text : CString 234)

/-- What is published, or written to the board. -/
def GymRecord.out : GymRecord → Except Bounded.Fault Str
  | .state s ts => gauntletMQTTPublishState s ts
  | .rosterEvent s ts node name rank partyCsv => .ok (GauntletFeed.rosterEvent s ts node name rank partyCsv)
  | .leaderEvent s ts node name partyCsv => .ok (GauntletFeed.leaderEvent s ts node name partyCsv)
  | .leaderLine s ts node name partyCsv => .ok (gauntletBBSLogLeader s ts node name partyCsv)
  | .rosterLine s ts node name rank => .ok (gauntletBBSLogRoster s ts node name rank)
  | .messageLine ts node name text => .ok (gauntletBBSLogMessage ts node name text)

end MonsterMesh.GauntletFeed

/-! What the records of a gym are to say, as JSON, and when they do. -/
namespace MonsterMesh.GauntletFeed

open Bounded Fallible Json Text

variable {n pos : ℕ} {o v s : Str} {c : UInt8}

/-! ### Escaping -/

/-- The room that a byte takes in a string: a control character is left out. -/
def weight (c : UInt8) : ℕ := if c = 34 ∨ c = 92 then 2 else if 32 ≤ c then 1 else 0

/-- The part of a text that `jsonEscape` comes to read, with a buffer of `n` bytes filled up to `pos`. -/
def reachAt (n : ℕ) : ℕ → Str → Str
  | _, [] => []
  | pos, c :: p => if pos + 2 < n then c :: reachAt n (pos + weight c) p else []

def reach (n : ℕ) (o : Str) : Str := reachAt n 0 o

/-- What is left of the text. -/
def kept (n : ℕ) (o : Str) : Str := (reach n o).filter isVisible

theorem jsonEscapeAt_eq : jsonEscapeAt n pos o = escape ((reachAt n pos o).filter isVisible) := by
  induction o generalizing pos with
  | nil => rfl
  | cons c o ih =>
    unfold jsonEscapeAt reachAt
    by_cases hroom : pos + 2 < n
    · rw [if_pos hroom, if_pos hroom]
      unfold weight
      by_cases hs : c = 34 ∨ c = 92
      · have hvis : isVisible c = true := by
          rcases hs with rfl | rfl <;> rfl
        rw [if_pos hs, if_pos hs, List.filter_cons_of_pos hvis, escape_cons, if_pos hs, ih]
        rfl
      · rw [if_neg hs, if_neg hs]
        by_cases hvis : 32 ≤ c
        · have hkeep : isVisible c = true := decide_eq_true hvis
          rw [if_pos hvis, if_pos hvis, List.filter_cons_of_pos hkeep, escape_cons, if_neg hs, ih]
          rfl
        · rw [if_neg hvis, if_neg hvis, List.filter_cons_of_neg (by rwa [isVisible, decide_eq_true_eq]), ih]
          rfl
    · rw [if_neg hroom, if_neg hroom]
      rfl

theorem jsonEscape_eq : jsonEscape n o = escape (kept n o) := jsonEscapeAt_eq

theorem jsonEscapeAt_length (h : pos < n) : (jsonEscapeAt n pos o).length + pos < n := by
  induction o generalizing pos with
  | nil =>
    rw [jsonEscapeAt, List.length_nil]
    omega
  | cons c o ih =>
    unfold jsonEscapeAt
    split_ifs with hroom hs hvis
    · have hrest := ih hroom
      rw [List.length_cons, List.length_cons]
      omega
    · have hrest := ih (show pos + 1 < n by omega)
      rw [List.length_cons]
      omega
    · exact ih h
    · rw [List.length_nil]
      omega

/-- The escaped text and its terminator fit into the buffer. -/
theorem escape_kept (h : 0 < n) : (escape (kept n o)).length < n := by
  rw [← jsonEscape_eq]
  exact jsonEscapeAt_length h

theorem kept_visible : ∀ b ∈ kept n o, isVisible b = true := fun _ hb => (List.mem_filter.mp hb).2

theorem reachAt_prefix : reachAt n pos o <+: o := by
  induction o generalizing pos with
  | nil => exact List.nil_prefix
  | cons c o ih =>
    unfold reachAt
    split_ifs
    · exact (List.prefix_cons_inj c).mpr ih
    · exact List.nil_prefix

/-- A text whose escaped form there is room for is read to its end. -/
theorem reachAt_whole (h : pos + (escape o).length + 2 ≤ n) : reachAt n pos o = o := by
  induction o generalizing pos with
  | nil => rfl
  | cons c o ih =>
    rw [escape_cons, List.length_append] at h
    have hlen : weight c ≤ (if c = 34 ∨ c = 92 then [92, c] else [c]).length ∧
        1 ≤ (if c = 34 ∨ c = 92 then [92, c] else [c]).length := by
      unfold weight
      split_ifs <;> simp
    unfold reachAt
    rw [if_pos (by omega), ih (by omega)]

/-! ### What a record is to say -/

/-- A value of a field with the text: the text, or what there is room for of one that is too long. -/
structure Shown (room : ℕ) (o v : Str) : Prop where
  part : v <+: o
  whole : (escape o).length + 2 ≤ room → v = o

/-- What is wanted of a field: a number, a text in a buffer of so many bytes, or a text as it is. -/
inductive Want where
  | number (n : ℕ)
  | text (room : ℕ) (o : Str)
  | exact (o : Str)

namespace Want

def Shows : Want → Value → Prop
  | number n, x => x = .num n
  | text room o, x => ∃ v, x = .str v ∧ Shown room o v
  | exact o, x => x = .str o

/-- The text can be shown. One in a buffer has no control character, except at its end and only if it is cut anyway;
and what is kept of it are whole characters. One that is not escaped has nothing to be escaped. -/
def Clean : Want → Prop
  | number _ => True
  | text room o => (∀ b ∈ (reach room o).dropWhile isVisible, isVisible b = false) ∧
      ((escape o).length + 2 ≤ room → ∀ b ∈ o, isVisible b = true) ∧ Utf8 (kept room o)
  | exact o => (∀ b ∈ o, isPlain b = true) ∧ Utf8 o

end Want

/-- Leaving bytes out leaves a prefix if they are the last ones. -/
theorem filter_prefix {R : Str} (hR : R <+: o) :
    R.filter isVisible <+: o ↔ ∀ b ∈ R.dropWhile isVisible, isVisible b = false := by
  induction R generalizing o with
  | nil => exact ⟨fun _ b hb => absurd hb List.not_mem_nil, fun _ => List.nil_prefix⟩
  | cons b R ih =>
    obtain ⟨rest, rfl⟩ := hR
    by_cases hb : isVisible b = true
    · rw [List.filter_cons_of_pos hb, List.dropWhile_cons_of_pos hb, List.cons_append, List.prefix_cons_inj]
      exact ih (List.prefix_append R rest)
    · rw [List.filter_cons_of_neg hb, List.dropWhile_cons_of_neg hb]
      constructor
      · intro hpre x hx
        rcases List.mem_cons.mp hx with rfl | hx
        · exact Bool.eq_false_iff.mpr hb
        · refine Bool.eq_false_iff.mpr fun hvis => ?_
          obtain ⟨y, l, hl⟩ := List.exists_cons_of_ne_nil (List.ne_nil_of_mem (List.mem_filter.mpr ⟨hx, hvis⟩))
          rw [hl, List.cons_append] at hpre
          have hy : isVisible y = true := (List.mem_filter.mp (hl ▸ List.mem_cons_self ..)).2
          rw [(List.cons_prefix_cons.mp hpre).1] at hy
          exact hb hy
      · intro hall
        have hnil : R.filter isVisible = [] := List.filter_eq_nil_iff.mpr fun x hx =>
          Bool.eq_false_iff.mp (hall x (List.mem_cons_of_mem b hx))
        rw [hnil]
        exact List.nil_prefix

/-- What is kept of a text shows it. -/
theorem shown_kept {room : ℕ} : Shown room o (kept room o) ↔
    (∀ b ∈ (reach room o).dropWhile isVisible, isVisible b = false) ∧
      ((escape o).length + 2 ≤ room → ∀ b ∈ o, isVisible b = true) := by
  have hpart := filter_prefix (show reach room o <+: o from reachAt_prefix)
  have hwhole : (escape o).length + 2 ≤ room → (kept room o = o ↔ ∀ b ∈ o, isVisible b = true) := by
    intro hfit
    have hall : reach room o = o := reachAt_whole (by omega)
    unfold kept
    rw [hall]
    exact List.filter_eq_self
  exact ⟨fun h => ⟨hpart.mp h.part, fun hfit => (hwhole hfit).mp (h.whole hfit)⟩,
    fun h => ⟨hpart.mpr h.1, fun hfit => (hwhole hfit).mpr (h.2 hfit)⟩⟩

/-! ### Records as lists of fields -/

namespace Want

/-- How a field is printed, and what that should be read as. -/
def member (key : Str) : Want → Member
  | number n => ⟨key, decimal n, .num n⟩
  | text room o => ⟨key, 34 :: (escape (kept room o) ++ [34]), .str (kept room o)⟩
  | exact o => ⟨key, 34 :: (o ++ [34]), .str o⟩

/-- The field is read so: a text that is not escaped has nothing to be escaped. -/
def Printable : Want → Prop
  | exact o => ∀ b ∈ o, isPlain b = true
  | _ => True

end Want

def members (ws : List (Str × Want)) : List Member := ws.map fun w => w.2.member w.1

/-- The fields show what is wanted of them. -/
def Matches (ws : List (Str × Want)) (fs : List (Str × Value)) : Prop :=
  List.Forall₂ (fun w f => f.1 = w.1 ∧ w.2.Shows f.2) ws fs

/-- A key that needs no escapes. -/
def Simple (key : Str) : Prop := (∀ b ∈ key, isPlain b = true) ∧ key.all isAscii = true

instance (key : Str) : Decidable (Simple key) := inferInstanceAs (Decidable (_ ∧ _))

variable {ws : List (Str × Want)} {key : Str} {w : Want}

theorem plain_visible (h : ∀ b ∈ v, isPlain b = true) : ∀ b ∈ v, isVisible b = true := by
  intro b hb
  have hplain := h b hb
  unfold isPlain at hplain
  simp only [Bool.and_eq_true] at hplain
  exact hplain.1.1

theorem member_sound (hkey : Simple key) (hw : w.Printable) : (w.member key).Sound := by
  refine ⟨?_, ?_⟩
  · have hvis := plain_visible hkey.1
    cases w <;> exact hvis
  · cases w with
    | number n => exact parses_num
    | text room o => exact parses_str kept_visible
    | exact o =>
      have hparses := parses_str (plain_visible hw)
      rwa [escape_plain hw] at hparses

theorem members_sound (hkeys : ∀ w ∈ ws, Simple w.1) (hws : ∀ w ∈ ws, w.2.Printable) :
    ∀ f ∈ members ws, f.Sound := by
  intro f hf
  obtain ⟨w, hw, rfl⟩ := List.mem_map.mp hf
  exact member_sound (hkeys w hw) (hws w hw)

/-- A field that can be printed shows what is wanted, in whole characters, just if the text can be shown. -/
theorem member_clean (key : Str) (hw : w.Printable) :
    w.Shows (w.member key).val ∧ Utf8 (w.member key).text ↔ w.Clean := by
  cases w with
  | number n =>
    have hnum := (utf8_after (r := []) (ascii_decimal n)).mpr utf8_nil
    rw [List.append_nil] at hnum
    exact ⟨fun _ => trivial, fun _ => ⟨rfl, hnum⟩⟩
  | text room o =>
    change (∃ v, Value.str (kept room o) = .str v ∧ Shown room o v) ∧ Utf8 (34 :: (escape (kept room o) ++ [34])) ↔ _
    rw [utf8_text]
    constructor
    · rintro ⟨⟨v, hv, hshown⟩, hchars⟩
      rw [← Value.str.inj hv] at hshown
      obtain ⟨hpart, hwhole⟩ := shown_kept.mp hshown
      exact ⟨hpart, hwhole, hchars⟩
    · rintro ⟨hpart, hwhole, hchars⟩
      exact ⟨⟨_, rfl, shown_kept.mpr ⟨hpart, hwhole⟩⟩, hchars⟩
  | exact o =>
    have htext := utf8_text (v := o)
    rw [escape_plain hw] at htext
    change Value.str o = .str o ∧ Utf8 (34 :: (o ++ [34])) ↔ _
    rw [htext]
    exact ⟨fun h => ⟨hw, h.2⟩, fun h => ⟨rfl, h.2⟩⟩

theorem matches_members : Matches ws ((members ws).map fun f => (f.key, f.val)) ↔
    ∀ w ∈ ws, w.2.Shows (w.2.member w.1).val := by
  unfold Matches members
  rw [List.map_map, List.forall₂_map_right_iff, List.forall₂_same]
  refine forall₂_congr fun w _ => ?_
  have hkey : (w.2.member w.1).key = w.1 := by cases w.2 <;> rfl
  exact ⟨fun h => h.2, fun h => ⟨hkey, h⟩⟩

end MonsterMesh.GauntletFeed

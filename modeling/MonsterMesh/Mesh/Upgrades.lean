import MonsterMesh.Mesh.Flooding
import MonsterMesh.Mesh.Records

/-! Copies of a packet that have more hops left than those that came before them. -/
namespace MonsterMesh

open Walk

namespace PacketRecord

variable {nodeNum now : UInt32} {p : MeshPacket} {r found : PacketRecord} {a b x : ℕ}

/-- The byte with a highest hop limit and our own. -/
def packed (a b : ℕ) : UInt8 := UInt8.ofNat (a + 8 * b)

theorem packed_highest : ∀ a b : Fin 8, packed a b &&& (0x07 : UInt8) = UInt8.ofNat a := by
  decide +kernel

theorem packed_ourTx : ∀ a b : Fin 8, (packed a b &&& (0x38 : UInt8)) >>> 3 = UInt8.ofNat b := by
  decide +kernel

theorem packed_setHighest : ∀ a b x : Fin 8,
    (packed a b &&& (0xF8 : UInt8)) ||| (UInt8.ofNat x &&& (0x07 : UInt8)) = packed x b := by
  decide +kernel

theorem packed_setOurTx : ∀ a b x : Fin 8,
    (packed a b &&& (0xC7 : UInt8)) ||| ((UInt8.ofNat x <<< 3) &&& (0x38 : UInt8)) = packed a x := by
  decide +kernel

/-- The record has these two hop limits. -/
structure Hops (r : PacketRecord) (a b : ℕ) : Prop where
  highest : a < 8
  ourTx : b < 8
  packed : r.hopLimit = packed a b

theorem Hops.getHighest (h : r.Hops a b) : r.getHighestHopLimit = UInt8.ofNat a := by
  unfold getHighestHopLimit
  rw [h.packed]
  exact packed_highest ⟨a, h.highest⟩ ⟨b, h.ourTx⟩

theorem Hops.getOurTx (h : r.Hops a b) : r.getOurTxHopLimit = UInt8.ofNat b := by
  unfold getOurTxHopLimit
  rw [h.packed]
  exact packed_ourTx ⟨a, h.highest⟩ ⟨b, h.ourTx⟩

theorem Hops.setHighest (h : r.Hops a b) (hx : x < 8) : (r.setHighestHopLimit (UInt8.ofNat x)).Hops x b := by
  refine ⟨hx, h.ourTx, ?_⟩
  show (r.hopLimit &&& (0xF8 : UInt8)) ||| (UInt8.ofNat x &&& (0x07 : UInt8)) = _
  rw [h.packed]
  exact packed_setHighest ⟨a, h.highest⟩ ⟨b, h.ourTx⟩ ⟨x, hx⟩

theorem Hops.setOurTx (h : r.Hops a b) (hx : x < 8) : (r.setOurTxHopLimit (UInt8.ofNat x)).Hops a x := by
  refine ⟨h.highest, hx, ?_⟩
  show (r.hopLimit &&& (0xC7 : UInt8)) ||| ((UInt8.ofNat x <<< 3) &&& (0x38 : UInt8)) = _
  rw [h.packed]
  exact packed_setOurTx ⟨a, h.highest⟩ ⟨b, h.ourTx⟩ ⟨x, hx⟩

/-- Fewer hops than the packet has, in the comparison of the whole byte. -/
theorem Hops.lt_iff (h : r.Hops a b) (hp : p.hopLimit.toNat < 8) :
    r.hopLimit < p.hopLimit ↔ b = 0 ∧ a < p.hopLimit.toNat := by
  have ha := h.highest
  have hb := h.ourTx
  rw [UInt8.lt_iff_toNat_lt, h.packed]
  unfold PacketRecord.packed
  rw [UInt8.toNat_ofNat', Nat.mod_eq_of_lt (by omega)]
  omega

/-- Our own hop limit in the record of a packet, where there was `b` before. -/
def ourHops (nodeNum : UInt32) (p : MeshPacket) (b : ℕ) : ℕ :=
  if p.relayNode = lastByteOfNodeNum nodeNum then p.hopLimit.toNat else b

theorem record_hops (hp : p.hopLimit.toNat < 8) :
    (p.record nodeNum now).Hops p.hopLimit.toNat (ourHops nodeNum p 0) := by
  have hzero : PacketRecord.zero.Hops 0 0 := ⟨by decide, by decide, rfl⟩
  have hset := hzero.setHighest hp
  rw [UInt8.ofNat_toNat] at hset
  unfold MeshPacket.record ourHops
  dsimp only
  by_cases hus : p.relayNode = lastByteOfNodeNum nodeNum
  · have hour := hset.setOurTx hp
    rw [UInt8.ofNat_toNat] at hour
    rw [if_pos hus, if_pos hus]
    exact ⟨hour.highest, hour.ourTx, hour.packed⟩
  · rw [if_neg hus, if_neg hus]
    exact ⟨hset.highest, hset.ourTx, hset.packed⟩

theorem update_hops (hr : r.Hops x (ourHops nodeNum p 0)) (hf : found.Hops a b) :
    (r.update nodeNum p found).Hops (max x a) (ourHops nodeNum p b) := by
  have hown : (if p.relayNode = lastByteOfNodeNum nodeNum then r else
      r.setOurTxHopLimit found.getOurTxHopLimit).Hops x (ourHops nodeNum p b) := by
    unfold ourHops at hr ⊢
    split_ifs at hr ⊢ with hus
    · exact hr
    · rw [hf.getOurTx]
      exact hr.setOurTx hf.ourTx
  have hx := hr.highest
  have ha := hf.highest
  unfold update
  dsimp only
  simp only [decide_eq_true_eq]
  generalize (if p.relayNode = lastByteOfNodeNum nodeNum then r else
      r.setOurTxHopLimit found.getOurTxHopLimit) = own at hown
  rw [hown.getHighest, hf.getHighest]
  have hiff : UInt8.ofNat x < UInt8.ofNat a ↔ x < a := by
    rw [UInt8.lt_iff_toNat_lt, UInt8.toNat_ofNat', UInt8.toNat_ofNat', Nat.mod_eq_of_lt (by omega),
      Nat.mod_eq_of_lt (by omega)]
  by_cases hlt : x < a
  · have hset := hown.setHighest ha
    rw [if_pos (hiff.mpr hlt), max_eq_right (le_of_lt hlt)]
    exact ⟨hset.highest, hset.ourTx, hset.packed⟩
  · rw [if_neg (mt hiff.mp hlt), max_eq_left (not_lt.mp hlt)]
    exact ⟨hown.highest, hown.ourTx, hown.packed⟩

end PacketRecord

/-! ### Copies that the history is told of -/

/-- A copy of a packet that the history is told of: one that came in, or our own. -/
structure Told where
  packet : MeshPacket
  sent : Bool
  (now nowInsert : UInt32)

namespace Told

variable (nodeNum : UInt32) (k : PacketKey)

/-- The copy as `send` hands it to the history. -/
def copy (t : Told) : MeshPacket :=
  if t.sent then { t.packet with relayNode := lastByteOfNodeNum nodeNum } else t.packet

/-- A copy of the packet `k`, with a hop limit that three bits hold. -/
def About (t : Told) : Prop := t.packet.key nodeNum = k ∧ t.packet.hopLimit.toNat < 8

def inform (h : PacketHistory) (t : {t : Told // t.About nodeNum k}) : PacketHistory :=
  (h.wasSeenRecently nodeNum (t.val.copy nodeNum) true t.val.now t.val.nowInsert).history

/-- The highest hop limit of the copies. -/
def highest : List {t : Told // t.About nodeNum k} → ℕ
  | [] => 0
  | t :: ts => max (highest ts) t.val.packet.hopLimit.toNat

/-- The hop limit of the last of the copies that names us as its relayer, the latest copy first. -/
def ourTx : List {t : Told // t.About nodeNum k} → ℕ
  | [] => 0
  | t :: ts => PacketRecord.ourHops nodeNum (t.val.copy nodeNum) (ourTx ts)

/-- The history after the copies, the latest first. -/
def told (h : PacketHistory) (ts : List {t : Told // t.About nodeNum k}) : PacketHistory :=
  ts.foldr (fun t h => inform nodeNum k h t) h

/-- The packet is new to the history, which records it when told of it. -/
structure Takes (h : PacketHistory) : Prop where
  sane : h.Sane
  new : h.find k.1 k.2 = none
  stays : k.2 ≠ 0 → ∀ t : {t : Told // t.About nodeNum k}, ((inform nodeNum k h t).find k.1 k.2).isSome

end Told

namespace FloodingRouter

open Told PacketRecord PacketHistory

variable {n : FloodingRouter} {k : PacketKey} {p : MeshPacket} {h : PacketHistory}
  {ts : List {t : Told // t.About n.nodeNum k}} {now nowInsert : UInt32} {e : Sending}

/-- The router after the copies, the latest first. -/
def after (n : FloodingRouter) (k : PacketKey) (ts : List {t : Told // t.About n.nodeNum k}) : FloodingRouter :=
  { n with history := told n.nodeNum k n.history ts }

/-- A copy is an upgrade exactly if the packet was seen before and all copies had fewer hops left. -/
def Recognises (n : FloodingRouter) (ts : List {t : Told // t.About n.nodeNum k}) (p : MeshPacket)
    (now nowInsert : UInt32) : Prop :=
  ((n.after k ts).history.wasSeenRecently n.nodeNum p true now nowInsert).wasUpgraded = true ↔
    ts ≠ [] ∧ ∀ t ∈ ts, t.val.packet.hopLimit < p.hopLimit

/-- A copy of the packet with fewer hops left is in the queue. -/
def HasFewer (n : FloodingRouter) (p : MeshPacket) : Prop :=
  ∃ x ∈ n.txQueue.txQueue.queue, x.packet.key n.nodeNum = p.key n.nodeNum ∧ x.packet.hopLimit < p.hopLimit

/-- A copy in the queue with fewer hops left is replaced on the upgrade path. -/
def Replaces (n : FloodingRouter) (ts : List {t : Told // t.About n.nodeNum k}) (p : MeshPacket)
    (now nowInsert : UInt32) (e : Sending) : Prop :=
  let seen := (n.after k ts).history.wasSeenRecently n.nodeNum p true now nowInsert
  n.HasFewer p → seen.wasUpgraded = true ∧
    (perhapsHandleUpgradedPacket { n with history := seen.history } p e).2 = true

theorem copy_hopLimit (t : Told) (nodeNum : UInt32) : (t.copy nodeNum).hopLimit = t.packet.hopLimit := by
  unfold copy
  split_ifs <;> rfl

theorem copy_key (t : Told) (nodeNum : UInt32) : (t.copy nodeNum).key nodeNum = t.packet.key nodeNum := by
  unfold copy
  split_ifs <;> rfl

/-- A send tells the history of its copy. -/
theorem noted_history (t : {t : Told // t.About n.nodeNum k}) (hs : t.val.sent = true)
    (e : Sending) (hnow : e.now = t.val.now) (hins : e.nowInsert = t.val.nowInsert) :
    (n.noted t.val.packet e).history = inform n.nodeNum k n.history t := by
  unfold noted inform copy
  rw [hs, if_pos rfl, hnow, hins]
  rfl

/-- What the history knows of the packet after the copies. -/
theorem told_find (hn : n.nodeNum ≠ 0) (hk : k.2 ≠ 0) (ht : Takes n.nodeNum k n.history) :
    (told n.nodeNum k n.history ts).Sane ∧
      match ts with
      | [] => (told n.nodeNum k n.history ts).find k.1 k.2 = none
      | _ :: _ => ∃ r, (told n.nodeNum k n.history ts).find k.1 k.2 = some r ∧
        r.Hops (highest n.nodeNum k ts) (ourTx n.nodeNum k ts) := by
  induction ts with
  | nil => exact ⟨ht.sane, ht.new⟩
  | cons t ts ih =>
    obtain ⟨hsane, hfind⟩ := ih
    have hkey : (t.val.copy n.nodeNum).key n.nodeNum = k := (copy_key ..).trans t.prop.1
    have hid : (t.val.copy n.nodeNum).id ≠ 0 := fun h => hk (hkey ▸ h)
    have hhop : (t.val.copy n.nodeNum).hopLimit.toNat < 8 := by
      rw [copy_hopLimit]
      exact t.prop.2
    have hrec := @record_hops n.nodeNum t.val.now (t.val.copy n.nodeNum) hhop
    refine ⟨wasSeenRecently_sane hn hsane true, ?_⟩
    have hstep := @find_wasSeenRecently n.nodeNum (t.val.copy n.nodeNum) t.val.now
      (told n.nodeNum k n.history ts) t.val.nowInsert hn hid hsane
    rw [hkey] at hstep
    cases ts with
    | nil =>
      have hnone : (told n.nodeNum k n.history []).find k.1 k.2 = none := hfind
      rw [hnone] at hstep
      refine ⟨_, hstep (Or.inr (ht.stays hk t)), ?_⟩
      show Hops ((t.val.copy n.nodeNum).record n.nodeNum t.val.now) (max 0 _) _
      rw [Nat.zero_max, ← copy_hopLimit t.val n.nodeNum]
      exact hrec
    | cons t' ts =>
      obtain ⟨r, hr, hhops⟩ := hfind
      rw [hr] at hstep
      refine ⟨_, hstep (Or.inl rfl), ?_⟩
      show Hops (((t.val.copy n.nodeNum).record n.nodeNum t.val.now).update n.nodeNum _ r)
        (max (highest n.nodeNum k (t' :: ts)) t.val.packet.hopLimit.toNat) _
      rw [max_comm, ← copy_hopLimit t.val n.nodeNum]
      exact update_hops hrec hhops

theorem highest_lt_iff {x : ℕ} :
    highest n.nodeNum k ts < x ↔ 0 < x ∧ ∀ t ∈ ts, t.val.packet.hopLimit.toNat < x := by
  induction ts with
  | nil => exact ⟨fun h => ⟨h, fun _ ht => absurd ht List.not_mem_nil⟩, fun h => h.1⟩
  | cons t ts ih =>
    rw [highest, Nat.max_lt, ih, List.forall_mem_cons]
    exact ⟨fun h => ⟨h.1.1, h.2, h.1.2⟩, fun h => ⟨⟨h.1, h.2.2⟩, h.2.1⟩⟩

/-- A copy is taken for an upgrade only where the last of our own had no hops left. -/
theorem wasUpgraded_iff (hn : n.nodeNum ≠ 0) (ht : Takes n.nodeNum k n.history)
    (hp : p.key n.nodeNum = k) (hhop : p.hopLimit.toNat < 8) :
    ((n.after k ts).history.wasSeenRecently n.nodeNum p true now nowInsert).wasUpgraded = true ↔
      k.2 ≠ 0 ∧ ts ≠ [] ∧ ourTx n.nodeNum k ts = 0 ∧ ∀ t ∈ ts, t.val.packet.hopLimit < p.hopLimit := by
  by_cases hk : k.2 = 0
  · have hid : p.id = 0 := (congrArg Prod.snd hp).trans hk
    unfold wasSeenRecently
    rw [if_pos hid]
    exact ⟨fun h => absurd h Bool.false_ne_true, fun h => absurd hk h.1⟩
  have hid : p.id ≠ 0 := fun h => hk ((congrArg Prod.snd hp).symm.trans h)
  obtain ⟨_, hfind⟩ := @told_find n k ts hn hk ht
  rw [wasSeenRecently_eq hid, hp]
  show (((told n.nodeNum k n.history ts).find k.1 k.2).any fun r => r.hopLimit < p.hopLimit) = true ↔ _
  cases ts with
  | nil =>
    have hnone : (told n.nodeNum k n.history []).find k.1 k.2 = none := hfind
    rw [hnone]
    exact ⟨fun h => absurd h Bool.false_ne_true, fun h => absurd rfl h.2.1⟩
  | cons t ts =>
    obtain ⟨r, hr, hhops⟩ := hfind
    rw [hr, Option.any_some, decide_eq_true_eq, hhops.lt_iff hhop, highest_lt_iff]
    simp only [UInt8.lt_iff_toNat_lt]
    constructor
    · rintro ⟨hour, _, hall⟩
      exact ⟨hk, List.cons_ne_nil _ _, hour, hall⟩
    · rintro ⟨_, _, hour, hall⟩
      exact ⟨hour, Nat.zero_lt_of_lt (hall t (List.mem_cons_self ..)), hall⟩

theorem outdated_isSome_iff (hpos : 0 < p.hopLimit) : (n.outdated p).isSome = true ↔ n.HasFewer p := by
  have hne : p.hopLimit ≠ 0 := fun h => by
    rw [h] at hpos
    exact absurd hpos (by decide)
  unfold outdated MeshPacketQueue.remove HasFewer
  dsimp only
  rw [List.find?_isSome]
  refine exists_congr fun x => and_congr_right fun _ => ?_
  unfold MeshPacketQueue.wanted MeshPacket.key
  dsimp only
  cases MeshPacketQueue.late x <;>
    simp only [Bool.true_and, Bool.not_true, Bool.not_false, Bool.or_true, Bool.or_false, Bool.and_true,
      Bool.and_eq_true, Bool.or_eq_true, decide_eq_true_eq, Prod.mk.injEq, hne, false_or, and_assoc]

theorem perhapsHandleUpgradedPacket_iff {h : PacketHistory} :
    (perhapsHandleUpgradedPacket { n with history := h } p e).2 = true ↔
      n.isRebroadcaster = true ∧ n.HasFewer p := by
  have hpos : n.HasFewer p → 0 < p.hopLimit := by
    rintro ⟨x, _, _, hx⟩
    rw [UInt8.lt_iff_toNat_lt] at hx ⊢
    exact Nat.zero_lt_of_lt hx
  have hsame : (outdated { n with history := h } p) = n.outdated p := rfl
  have hreb : isRebroadcaster { n with history := h } = n.isRebroadcaster := rfl
  unfold perhapsHandleUpgradedPacket
  rw [hsame, hreb]
  split_ifs with hc
  · simp only [Bool.and_eq_true, decide_eq_true_eq] at hc
    exact ⟨fun _ => ⟨hc.1.1, (outdated_isSome_iff hc.1.2).mp hc.2⟩, fun _ => rfl⟩
  · refine ⟨fun h => h.elim, fun ⟨hr, hf⟩ => absurd ?_ hc⟩
    simp only [Bool.and_eq_true, decide_eq_true_eq]
    exact ⟨⟨hr, hpos hf⟩, (outdated_isSome_iff (hpos hf)).mpr hf⟩

/-- The condition on the copies so far and the queue. -/
def Meets (n : FloodingRouter) (ts : List {t : Told // t.About n.nodeNum k}) (p : MeshPacket) : Prop :=
  (ts = [] ∨ k.2 ≠ 0 ∧ ourTx n.nodeNum k ts = 0 ∨ ∃ t ∈ ts, p.hopLimit ≤ t.val.packet.hopLimit) ∧
    (n.HasFewer p → n.isRebroadcaster = true ∧ k.2 ≠ 0 ∧ ts ≠ [] ∧ ourTx n.nodeNum k ts = 0 ∧
      ∀ t ∈ ts, t.val.packet.hopLimit < p.hopLimit)

/-- A better copy is recognised and replaces the one in the queue exactly under the condition. -/
theorem upgrades_iff (hn : n.nodeNum ≠ 0) (ht : Takes n.nodeNum k n.history)
    (ts : List {t : Told // t.About n.nodeNum k}) (hp : p.key n.nodeNum = k)
    (hhop : p.hopLimit.toNat < 8) (now nowInsert : UInt32) (e : Sending) :
    n.Recognises ts p now nowInsert ∧ n.Replaces ts p now nowInsert e ↔ n.Meets ts p := by
  unfold Recognises Replaces Meets
  dsimp only
  rw [wasUpgraded_iff hn ht hp hhop, perhapsHandleUpgradedPacket_iff]
  refine and_congr ⟨fun h => ?_, fun h => ?_⟩ ⟨fun h hf => ?_, fun h hf => ?_⟩
  · by_cases hts : ts = []
    · exact Or.inl hts
    by_cases hall : ∀ t ∈ ts, t.val.packet.hopLimit < p.hopLimit
    · have hup := h.mpr ⟨hts, hall⟩
      exact Or.inr (Or.inl ⟨hup.1, hup.2.2.1⟩)
    · simp only [not_forall] at hall
      obtain ⟨t, hmem, hlt⟩ := hall
      exact Or.inr (Or.inr ⟨t, hmem, UInt8.not_lt.mp hlt⟩)
  · refine ⟨fun hu => ⟨hu.2.1, hu.2.2.2⟩, fun ⟨hts, hall⟩ => ?_⟩
    rcases h with h | ⟨hk, hour⟩ | ⟨t, hmem, hle⟩
    · exact absurd h hts
    · exact ⟨hk, hts, hour, hall⟩
    · exact absurd (hall t hmem) (UInt8.not_lt.mpr hle)
  · obtain ⟨⟨hk, hts, hour, hall⟩, hreb, _⟩ := h hf
    exact ⟨hreb, hk, hts, hour, hall⟩
  · obtain ⟨hreb, hup⟩ := h hf
    exact ⟨hup, hreb, hf⟩

/-- A history with a free slot takes any new packet. -/
theorem start_takes {nodeNum : UInt32} (hn : nodeNum ≠ 0) (k : PacketKey) (size : ℕ) :
    Takes nodeNum k (PacketHistory.start (size + 1)) := by
  have hh := start_holds (size + 1)
  have hnew : (PacketHistory.start (size + 1)).find k.1 k.2 = none := by
    by_cases hk : Findable k
    · exact (find_eq_none_iff hh hk).mpr List.not_mem_nil
    · unfold PacketHistory.find
      rw [if_pos (not_and_or.mp hk |>.imp not_not.mp not_not.mp)]
  refine ⟨⟨_, _, hh⟩, hnew, fun hk t => ?_⟩
  have hkey : (t.val.copy nodeNum).key nodeNum = k := (copy_key ..).trans t.prop.1
  have hid : (t.val.copy nodeNum).id ≠ 0 := fun h => hk (hkey ▸ h)
  have hfk : Findable k := hkey ▸ getFrom_findable hn hid
  unfold inform
  rw [wasSeenRecently_eq hid]
  dsimp only
  rw [if_pos rfl, hkey, hnew]
  have hr : (entered nodeNum (t.val.copy nodeNum) t.val.now none).key = k :=
    (entered_key none).trans hkey
  rcases @insert_cases _ t.val.nowInsert _ _ _ hh (hr.symm ▸ hfk) (entered_rxTimeMsec none) with
    ⟨l₁, it, l₂, hocc, _, _⟩ | ⟨_, m, _, hi⟩ | ⟨_, hzero, _⟩
  · exact absurd hocc (by simp)
  · rw [(find_eq_some_iff hi hfk).mpr ⟨List.mem_append_right _ (List.mem_singleton_self _), hr⟩]
    rfl
  · exact absurd hzero (Nat.succ_ne_zero _)

/-- Node 7 with a copy of packet 1 of node 9 in its queue, which has two hops left. -/
def relaying : FloodingRouter :=
  { nodeNum := 7, role := .client, rebroadcastMode := .all, meshNodes := []
    history := PacketHistory.start 4
    txQueue := (TxQueue.start 16).enqueue 7
      { MeshPacket.zero with from' := 9, id := 1, hopLimit := 2, hopStart := 3, relayNode := 7 } }

/-- A copy of packet 1 of node 9 that comes in. -/
def heard (relayNode hopLimit : UInt8) (h : hopLimit.toNat < 8) : {t : Told // t.About 7 (9, 1)} :=
  ⟨⟨{ MeshPacket.zero with from' := 9, id := 1, relayNode := relayNode, hopLimit := hopLimit }, false, 10, 10⟩,
    rfl, h⟩

/-- Our own copy of packet 1 of node 9. -/
def relayed (hopLimit : UInt8) (h : hopLimit.toNat < 8) : {t : Told // t.About 7 (9, 1)} :=
  ⟨⟨{ MeshPacket.zero with from' := 9, id := 1, relayNode := 9, hopLimit := hopLimit }, true, 11, 11⟩, rfl, h⟩

def noSending : Sending :=
  { now := 20, nowInsert := 20, letThrough := true, channel := 0, priority := 0, variant := .unset
    publicKey := [], pkiEncrypted := false, delays := ⟨0, 0, 0⟩ }

/-- A copy of packet 1 of node 9 that comes in next. -/
def next (hopLimit : UInt8) : MeshPacket :=
  { MeshPacket.zero with from' := 9, id := 1, relayNode := 5, hopLimit := hopLimit }

theorem upgrades_first : relaying.Recognises (k := (9, 1)) [] (next 2) 10 10 ∧
    relaying.Replaces (k := (9, 1)) [] (next 2) 10 10 noSending :=
  (upgrades_iff (n := relaying) (k := (9, 1)) (by decide) (start_takes (by decide) _ 3) [] rfl (by decide) 10 10
    noSending).mpr ⟨Or.inl rfl, fun ⟨x, hx, hlt⟩ => by
      obtain rfl := List.mem_singleton.mp hx
      exact absurd hlt.2 (by decide)⟩

/-- We heard the packet with three hops left and relayed it with two; a copy with five is not taken for
an upgrade, and the copy in the queue is not replaced. -/
theorem upgrade_missed :
    ¬ relaying.Recognises (k := (9, 1)) [relayed 2 (by decide), heard 9 3 (by decide)] (next 5) 12 12 ∧
      ¬ relaying.Replaces (k := (9, 1)) [relayed 2 (by decide), heard 9 3 (by decide)] (next 5) 12 12
        noSending := by
  constructor
  · intro h
    have hup := h.mpr ⟨List.cons_ne_nil _ _, by decide⟩
    exact absurd hup (by decide +kernel)
  · intro h
    have hup := (h ⟨_, List.mem_singleton_self _, rfl, by decide⟩).1
    exact absurd hup (by decide +kernel)

end FloodingRouter
end MonsterMesh

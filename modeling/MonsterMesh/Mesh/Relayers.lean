import Mathlib.Data.Finset.Card
import Mathlib.Data.Finset.Dedup
import MonsterMesh.Lib.Walk
import MonsterMesh.Mesh.Records

/-! The relayers that the history keeps of a packet. -/
namespace MonsterMesh

open Walk

namespace PacketRecord

variable {nodeNum now : UInt32} {p : MeshPacket} {r found : PacketRecord} {f pre : List UInt8} {x y : UInt8}

/-- The relayers on a list differ; 0 is none. -/
def Apart (l : List UInt8) : Prop := l.Pairwise fun a b => a ≠ 0 → a ≠ b

theorem apart_zeros (n : ℕ) : Apart (List.replicate n 0) :=
  List.pairwise_replicate.mpr (Or.inr fun h => absurd rfl h)

theorem eq_zero_of_mem {n : ℕ} (h : x ∈ List.replicate n (0 : UInt8)) : x = 0 := (List.mem_replicate.mp h).2

/-- The relayer that comes to a place behind `pre`. -/
def moved (pre : List UInt8) (y : UInt8) : UInt8 := if y ∈ pre then 0 else y

theorem moved_ne_zero (h : moved pre y ≠ 0) : moved pre y = y := by
  unfold moved at h ⊢
  split_ifs at h ⊢
  · exact absurd rfl h
  · rfl

/-- The places behind `pre` after some rounds of the loop. -/
theorem merge_rounds (hf : f.length = 6) (ha : Apart f) {i : ℕ} (hi : i ≤ 6 - pre.length) :
    (List.range i).foldl (mergeOne f pre.length) (pre ++ List.replicate (6 - pre.length) 0) =
      pre ++ ((f.take i).map (moved pre) ++ List.replicate (6 - pre.length - i) 0) := by
  induction i with
  | zero => rfl
  | succ i ih =>
    have hlt : i < f.length := by omega
    have htake : f.take (i + 1) = f.take i ++ [f[i]] := List.take_succ_eq_append_getElem hlt
    have hzeros : List.replicate (6 - pre.length - i) (0 : UInt8) =
        0 :: List.replicate (6 - pre.length - (i + 1)) 0 := by
      rw [← List.replicate_succ]
      congr 1
      omega
    have hget : f.getD i 0 = f[i] := by
      rw [List.getD_eq_getElem?_getD, List.getElem?_eq_getElem hlt, Option.getD_some]
    rw [List.range_succ, List.foldl_append, List.foldl_cons, List.foldl_nil, ih (by omega), htake,
      List.map_append, List.map_singleton, hzeros]
    unfold mergeOne
    rw [hget]
    dsimp only
    by_cases hz : f[i] = 0
    · have hm : moved pre f[i] = 0 := by
        unfold moved
        rw [hz, ite_self]
      rw [if_pos hz, hm, List.append_assoc]
      rfl
    rw [if_neg hz]
    by_cases hpre : f[i] ∈ pre
    · have hm : moved pre f[i] = 0 := if_pos hpre
      rw [if_pos (List.contains_iff_mem.mpr (List.mem_append_left _ hpre)), hm, List.append_assoc]
      rfl
    · have hm : moved pre f[i] = f[i] := if_neg hpre
      have hnew : f[i] ∉ (f.take i).map (moved pre) := by
        intro hmem
        obtain ⟨z, hzmem, hzeq⟩ := List.mem_map.mp hmem
        obtain ⟨j, hj, rfl⟩ := List.mem_take_iff_getElem.mp hzmem
        have hji : j < i := lt_of_lt_of_le hj (Nat.min_le_left ..)
        have hne : moved pre f[j] ≠ 0 := fun h => hz (hzeq.symm.trans h)
        have hsame : f[j] = f[i] := (moved_ne_zero hne).symm.trans hzeq
        exact List.pairwise_iff_getElem.mp ha j i (by omega) hlt hji (fun h => hz (hsame ▸ h)) hsame
      have hnot : ¬ (pre ++ ((f.take i).map (moved pre) ++
          0 :: List.replicate (6 - pre.length - (i + 1)) 0)).contains f[i] = true := by
        rw [List.contains_iff_mem]
        simp only [List.mem_append, List.mem_cons, List.mem_replicate, not_or]
        exact ⟨hpre, hnew, hz, fun h => hz h.2⟩
      have hlen : ((f.take i).map (moved pre)).length = i := by
        rw [List.length_map, List.length_take_of_le (Nat.le_of_lt hlt)]
      rw [if_neg hnot, hm, List.set_append_right _ _ (Nat.le_add_left ..), Nat.add_sub_cancel,
        List.set_append_right _ _ (Nat.le_of_eq hlen), hlen, Nat.sub_self, List.set_cons_zero,
        List.append_assoc]
      rfl

/-- The relayers found come behind `pre`, each by as many places further back as `pre` is long. -/
theorem mergeRelayers_eq (hf : f.length = 6) (ha : Apart f) :
    mergeRelayers f pre.length (pre ++ List.replicate (6 - pre.length) 0) =
      pre ++ (f.take (6 - pre.length)).map (moved pre) := by
  unfold mergeRelayers
  rw [merge_rounds hf ha (le_refl _), Nat.sub_self, List.replicate_zero, List.append_nil]

/-! ### Updates -/

/-- Whether an update puts the relayer of the packet first on the list. -/
def puts (nodeNum : UInt32) (p : MeshPacket) (found : PacketRecord) : Bool :=
  p.relayNode = lastByteOfNodeNum nodeNum || found.heardUs (lastByteOfNodeNum nodeNum) p

/-- The list with a relayer put first. -/
def putFirst (x : UInt8) (f : List UInt8) : List UInt8 := x :: (f.take 5).map (moved [x])

theorem record_relayedBy : (p.record nodeNum now).relayedBy =
    if p.relayNode = lastByteOfNodeNum nodeNum then [p.relayNode, 0, 0, 0, 0, 0] else [0, 0, 0, 0, 0, 0] := by
  unfold MeshPacket.record
  dsimp only
  split_ifs <;> rfl

theorem update_relayedBy (hf : found.relayedBy.length = 6) (ha : Apart found.relayedBy) :
    ((p.record nodeNum now).update nodeNum p found).relayedBy =
      if puts nodeNum p found then putFirst p.relayNode found.relayedBy else found.relayedBy := by
  have hone := @mergeRelayers_eq _ [p.relayNode] hf ha
  have hnone := @mergeRelayers_eq _ [] hf ha
  have hall : (found.relayedBy.take 6).map (moved []) = found.relayedBy := by
    rw [List.take_of_length_le (Nat.le_of_eq hf)]
    exact List.map_id'' (fun y => if_neg List.not_mem_nil) _
  unfold update puts
  dsimp only
  rw [record_relayedBy]
  by_cases hus : p.relayNode = lastByteOfNodeNum nodeNum
  · simp only [hus, decide_true, Bool.not_true, Bool.false_and, Bool.true_or, if_true, Bool.false_eq_true,
      if_false]
    rw [← hus]
    exact hone
  · cases hh : found.heardUs (lastByteOfNodeNum nodeNum) p with
    | true =>
      simp only [hus, decide_false, Bool.not_false, Bool.true_and, Bool.false_or, if_true, if_false]
      exact hone
    | false =>
      simp only [hus, decide_false, Bool.not_false, Bool.true_and, Bool.false_or, if_false,
        Bool.false_eq_true]
      exact hnone.trans hall

theorem length_putFirst (hf : f.length = 6) : (putFirst x f).length = 6 := by
  unfold putFirst
  rw [List.length_cons, List.length_map, List.length_take, hf]
  rfl

theorem apart_putFirst (ha : Apart f) : Apart (putFirst x f) := by
  have hne : ∀ y, x ≠ 0 → x ≠ moved [x] y := fun y hx he => by
    have hy : moved [x] y ≠ 0 := fun h => hx (he.trans h)
    have := moved_ne_zero hy
    unfold moved at hy
    exact hy (if_pos (List.mem_singleton.mpr (this.symm.trans he.symm)))
  refine List.pairwise_cons.mpr ⟨fun b hb hx => ?_, List.pairwise_map.mpr ?_⟩
  · obtain ⟨y, _, rfl⟩ := List.mem_map.mp hb
    exact hne y hx
  · refine (List.Pairwise.sublist (List.take_sublist 5 f) ha).imp fun {a b} hab hm he => ?_
    have hmb : moved [x] b ≠ 0 := fun h => hm (he.trans h)
    have ha' := moved_ne_zero hm
    rw [ha', moved_ne_zero hmb] at he
    exact hab (ha' ▸ hm) he

theorem mem_putFirst (hy : y ≠ 0) : y ∈ putFirst x f ↔ y = x ∨ y ∈ f.take 5 := by
  unfold putFirst
  rw [List.mem_cons]
  refine or_congr_right' fun hne => ?_
  have hmoved : moved [x] y = y := if_neg fun h => hne (List.mem_singleton.mp h)
  constructor
  · intro h
    obtain ⟨z, hz, rfl⟩ := List.mem_map.mp h
    exact (moved_ne_zero hy).symm ▸ hz
  · intro h
    exact List.mem_map.mpr ⟨y, h, hmoved⟩

theorem mem_removeRelayer (hy : y ≠ 0) :
    y ∈ (r.removeRelayer x).relayedBy ↔ y ∈ r.relayedBy ∧ y ≠ x := by
  unfold removeRelayer
  simp only [List.mem_append, List.mem_filter, List.mem_replicate, hy, and_false, or_false,
    decide_eq_true_eq]

theorem length_removeRelayer (hr : r.relayedBy.length = 6) : (r.removeRelayer x).relayedBy.length = 6 := by
  have hle := List.length_filter_le (fun y => decide (y ≠ x)) r.relayedBy
  unfold removeRelayer
  dsimp only
  rw [List.length_append, List.length_replicate]
  omega

theorem apart_removeRelayer (ha : Apart r.relayedBy) : Apart (r.removeRelayer x).relayedBy := by
  unfold removeRelayer
  refine List.pairwise_append.mpr ⟨List.Pairwise.sublist List.filter_sublist ha, apart_zeros _, ?_⟩
  intro a _ b hb hne he
  exact hne (he.trans (List.mem_replicate.mp hb).2)

end PacketRecord

/-! ### Runs -/

/-- What happens to the record of a packet: a copy is received or sent, or a relayer is removed. -/
inductive RelayerCall where
  | seen (p : MeshPacket) (now nowInsert : UInt32)
  | remove (relayer : UInt8)

/-- The copies are those of one packet. -/
def RelayerCall.About (nodeNum : UInt32) (k : PacketKey) : RelayerCall → Prop
  | .seen p _ _ => p.key nodeNum = k
  | .remove _ => True

/-- The history with the copies it was told of, the relayers that were put on the list, and those of
them that were not removed since. -/
structure RelayerRun where
  history : PacketHistory
  copies : List MeshPacket
  (recorded kept : List UInt8)

namespace RelayerRun

open PacketRecord PacketHistory

variable {nodeNum : UInt32} {k : PacketKey} {s : RelayerRun} {h : PacketHistory} {p : MeshPacket}
  {now nowInsert : UInt32}

/-- A relayer that is put on the list; 0 is none. -/
def noted (x : UInt8) (l : List UInt8) : List UInt8 := if x = 0 then l else x :: l

/-- The run after the first copy. -/
def start (nodeNum : UInt32) (h : PacketHistory) (p : MeshPacket) (now nowInsert : UInt32) : RelayerRun :=
  let first := if p.relayNode = lastByteOfNodeNum nodeNum then noted p.relayNode [] else []
  ⟨(h.wasSeenRecently nodeNum p true now nowInsert).history, [p], first, first⟩

def step (nodeNum : UInt32) (k : PacketKey) (s : RelayerRun) :
    {c : RelayerCall // c.About nodeNum k} → RelayerRun
  | ⟨.seen p now nowInsert, _⟩ =>
    let put : Bool := (s.history.find k.1 k.2).any (puts nodeNum p)
    { history := (s.history.wasSeenRecently nodeNum p true now nowInsert).history
      copies := p :: s.copies
      recorded := if put then noted p.relayNode s.recorded else s.recorded
      kept := if put then noted p.relayNode s.kept else s.kept }
  | ⟨.remove relayer, _⟩ =>
    { s with
      history := s.history.removeRelayer relayer k.2 k.1
      kept := s.kept.filter fun x => x ≠ relayer }

/-- How many relayers other than `x` were put on the list. -/
def others (s : RelayerRun) (x : UInt8) : ℕ := (s.recorded.filter fun y => y ≠ x).toFinset.card

/-- The packet has a record, whose relayers differ and were the relayers of copies. -/
def Evident (k : PacketKey) (s : RelayerRun) : Prop :=
  ∃ r, s.history.find k.1 k.2 = some r ∧ Apart r.relayedBy ∧
    ∀ x ∈ r.relayedBy, x ≠ 0 → ∃ p ∈ s.copies, p.relayNode = x

/-- A relayer that was put on the list and not removed is on it, unless six others were put there. -/
def NotForgotten (k : PacketKey) (s : RelayerRun) : Prop :=
  ∀ x ∈ s.kept, s.history.wasRelayer x k.2 k.1 = true ∨ 6 ≤ s.others x

/-- The condition on a call: when it puts a relayer first on the list, the last place is empty or has
that relayer, or six relayers other than the one there were put on the list by then. -/
def Meets (nodeNum : UInt32) (k : PacketKey) (s : RelayerRun) (c : {c : RelayerCall // c.About nodeNum k}) :
    Prop :=
  match c.val with
  | .seen p _ _ => ∀ found, s.history.find k.1 k.2 = some found → puts nodeNum p found = true →
      found.relayedBy.getD 5 0 = 0 ∨ found.relayedBy.getD 5 0 = p.relayNode ∨
        6 ≤ (s.step nodeNum k c).others (found.relayedBy.getD 5 0)
  | .remove _ => True

/-- What holds in every state. -/
structure Kept (k : PacketKey) (s : RelayerRun) : Prop where
  sane : s.history.Sane
  record : ∃ r, s.history.find k.1 k.2 = some r ∧ r.relayedBy.length = 6 ∧ Apart r.relayedBy ∧
    ∀ x ∈ r.relayedBy, x ≠ 0 → x ∈ s.kept
  kept : ∀ x ∈ s.kept, x ≠ 0 ∧ x ∈ s.recorded
  recorded : ∀ x ∈ s.recorded, ∃ p ∈ s.copies, p.relayNode = x

theorem mem_noted {x y : UInt8} {l : List UInt8} (hy : y ≠ 0) : y ∈ noted x l ↔ y = x ∨ y ∈ l := by
  unfold noted
  split_ifs with hx
  · exact ⟨Or.inr, fun h => h.resolve_left fun he => hy (he.trans hx)⟩
  · exact List.mem_cons

theorem noted_subset {x y : UInt8} {l : List UInt8} (h : y ∈ noted x l) : y = x ∧ x ≠ 0 ∨ y ∈ l := by
  unfold noted at h
  split_ifs at h with hx
  · exact Or.inr h
  · exact (List.mem_cons.mp h).imp_left fun he => ⟨he, hx⟩

theorem Kept.evident (h : s.Kept k) : s.Evident k := by
  obtain ⟨r, hf, _, ha, hkept⟩ := h.record
  exact ⟨r, hf, ha, fun x hx hne => h.recorded x (h.kept x (hkept x hx hne)).2⟩

/-- The relayers that are found are those on the list. -/
theorem wasRelayer_iff {r : PacketRecord} {x : UInt8} (hf : s.history.find k.1 k.2 = some r) (hx : x ≠ 0) :
    s.history.wasRelayer x k.2 k.1 = true ↔ x ∈ r.relayedBy := by
  unfold PacketHistory.wasRelayer PacketRecord.wasRelayer
  rw [hf, Option.any_some, Bool.and_eq_true, decide_eq_true_eq, List.contains_iff_mem]
  exact and_iff_right hx

/-- The state after a copy of a packet that is in the history. -/
theorem step_seen (hn : nodeNum ≠ 0) (hk : Findable k) (hs : s.Kept k) {found : PacketRecord}
    (hf : s.history.find k.1 k.2 = some found) (hp : p.key nodeNum = k) :
    (s.step nodeNum k ⟨.seen p now nowInsert, hp⟩).history.find k.1 k.2 =
        some ((p.record nodeNum now).update nodeNum p found) ∧
      (s.step nodeNum k ⟨.seen p now nowInsert, hp⟩).history.Sane := by
  have hid : p.id ≠ 0 := fun h => hk.2 (hp ▸ h)
  refine ⟨?_, wasSeenRecently_sane hn hs.sane true⟩
  have h := @find_wasSeenRecently _ _ now _ nowInsert hn hid hs.sane
    (Or.inl (by rw [hp, hf]; rfl))
  rw [hp, hf] at h
  exact h

/-- A packet that is new to the history comes to stay in it. -/
structure Enters (nodeNum : UInt32) (k : PacketKey) (h : PacketHistory) (p : MeshPacket)
    (now nowInsert : UInt32) : Prop where
  known : nodeNum ≠ 0
  id : p.id ≠ 0
  key : p.key nodeNum = k
  sane : h.Sane
  new : h.find k.1 k.2 = none
  stays : ((h.wasSeenRecently nodeNum p true now nowInsert).history.find k.1 k.2).isSome

theorem Enters.findable (he : Enters nodeNum k h p now nowInsert) : Findable k :=
  he.key ▸ getFrom_findable he.known he.id

theorem Enters.find (he : Enters nodeNum k h p now nowInsert) :
    (start nodeNum h p now nowInsert).history.find k.1 k.2 = some (p.record nodeNum now) := by
  have hfind := @find_wasSeenRecently _ _ now _ nowInsert he.known he.id he.sane
    (Or.inr (he.key.symm ▸ he.stays))
  rw [he.key, he.new] at hfind
  exact hfind

theorem start_kept (he : Enters nodeNum k h p now nowInsert) :
    (start nodeNum h p now nowInsert).Kept k := by
  refine ⟨wasSeenRecently_sane he.known he.sane true, ⟨_, he.find, ?_⟩, fun x hx => ?_, fun x hx => ?_⟩
  · show (p.record nodeNum now).relayedBy.length = 6 ∧ Apart (p.record nodeNum now).relayedBy ∧
      ∀ x ∈ (p.record nodeNum now).relayedBy, _
    rw [record_relayedBy]
    unfold start
    dsimp only
    split_ifs with hus
    · refine ⟨rfl, List.pairwise_cons.mpr ⟨fun b hb hne he => ?_, apart_zeros 5⟩, fun x hx hne => ?_⟩
      · exact hne (he.trans (eq_zero_of_mem (n := 5) hb))
      · rw [mem_noted hne]
        rcases List.mem_cons.mp hx with rfl | hx
        · exact Or.inl rfl
        · exact absurd (eq_zero_of_mem (n := 5) hx) hne
    · exact ⟨rfl, apart_zeros 6, fun x hx hne => absurd (eq_zero_of_mem (n := 6) hx) hne⟩
  · refine ⟨?_, hx⟩
    unfold start at hx
    dsimp only at hx
    split_ifs at hx with hus
    · rcases noted_subset hx with ⟨rfl, hne⟩ | hx
      · exact hne
      · exact absurd hx List.not_mem_nil
    · exact absurd hx List.not_mem_nil
  · unfold start at hx ⊢
    dsimp only at hx ⊢
    split_ifs at hx with hus
    · rcases noted_subset hx with ⟨rfl, _⟩ | hx
      · exact ⟨p, List.mem_singleton_self p, rfl⟩
      · exact absurd hx List.not_mem_nil
    · exact absurd hx List.not_mem_nil

theorem step_kept (hn : nodeNum ≠ 0) (hk : Findable k) (hs : s.Kept k)
    (c : {c : RelayerCall // c.About nodeNum k}) : (s.step nodeNum k c).Kept k := by
  obtain ⟨found, hf, hlen, ha, hkept⟩ := hs.record
  obtain ⟨c, hc⟩ := c
  cases c with
  | seen p now nowInsert =>
    obtain ⟨hfind, hsane⟩ := @step_seen _ _ _ _ now nowInsert hn hk hs _ hf hc
    refine ⟨hsane, ⟨_, hfind, ?_⟩, fun x hx => ?_, fun x hx => ?_⟩
    · rw [update_relayedBy hlen ha]
      unfold step
      dsimp only
      rw [hf, Option.any_some]
      cases puts nodeNum p found with
      | true =>
        refine ⟨length_putFirst hlen, apart_putFirst ha, fun x hx hne => (mem_noted hne).mpr ?_⟩
        exact ((mem_putFirst hne).mp hx).imp_right fun h => hkept x (List.mem_of_mem_take h) hne
      | false => exact ⟨hlen, ha, hkept⟩
    · unfold step at hx ⊢
      dsimp only at hx ⊢
      rw [hf, Option.any_some] at hx ⊢
      cases hput : puts nodeNum p found with
      | true =>
        rw [hput, if_pos rfl] at hx
        rw [if_pos rfl]
        rcases noted_subset hx with ⟨rfl, hne⟩ | hx
        · exact ⟨hne, (mem_noted hne).mpr (Or.inl rfl)⟩
        · obtain ⟨hne, hr⟩ := hs.kept x hx
          exact ⟨hne, (mem_noted hne).mpr (Or.inr hr)⟩
      | false =>
        rw [hput, if_neg Bool.false_ne_true] at hx
        exact hs.kept x hx
    · unfold step at hx ⊢
      dsimp only at hx ⊢
      have hold : x ∈ s.recorded → ∃ q ∈ p :: s.copies, q.relayNode = x := fun hx => by
        obtain ⟨q, hq, he⟩ := hs.recorded x hx
        exact ⟨q, List.mem_cons_of_mem p hq, he⟩
      split_ifs at hx
      · rcases noted_subset hx with ⟨rfl, _⟩ | hx
        · exact ⟨p, List.mem_cons_self .., rfl⟩
        · exact hold hx
      · exact hold hx
  | remove relayer =>
    refine ⟨removeRelayer_sane hs.sane relayer k.2 k.1,
      ⟨_, find_removeRelayer hs.sane hk hf relayer, length_removeRelayer hlen, apart_removeRelayer ha,
        fun x hx hne => ?_⟩, fun x hx => hs.kept x (List.mem_of_mem_filter hx), hs.recorded⟩
    obtain ⟨hx, hxr⟩ := (mem_removeRelayer hne).mp hx
    exact List.mem_filter.mpr ⟨hkept x hx hne, decide_eq_true hxr⟩

theorem others_mono {s' : RelayerRun} {x : UInt8} (h : ∀ y ∈ s.recorded, y ∈ s'.recorded) :
    s.others x ≤ s'.others x := by
  refine Finset.card_le_card fun y hy => ?_
  rw [List.mem_toFinset] at hy ⊢
  exact List.mem_filter.mpr ⟨h y (List.mem_of_mem_filter hy), (List.mem_filter.mp hy).2⟩

/-- The last of six places. -/
theorem mem_take_five {f : List UInt8} {x : UInt8} (hf : f.length = 6) :
    x ∈ f ↔ x ∈ f.take 5 ∨ x = f.getD 5 0 := by
  have hlt : 5 < f.length := by omega
  have hsplit : f = f.take 5 ++ [f.getD 5 0] := by
    rw [List.getD_eq_getElem?_getD, List.getElem?_eq_getElem hlt, Option.getD_some,
      ← List.take_succ_eq_append_getElem hlt, List.take_of_length_le (Nat.le_of_eq hf)]
  conv_lhs => rw [hsplit]
  rw [List.mem_append, List.mem_singleton]

theorem apart_last {f : List UInt8} (hf : f.length = 6) (ha : Apart f) (hne : f.getD 5 0 ≠ 0) :
    f.getD 5 0 ∉ f.take 5 := by
  have hlt : 5 < f.length := by omega
  have hget : f.getD 5 0 = f[5] := by
    rw [List.getD_eq_getElem?_getD, List.getElem?_eq_getElem hlt, Option.getD_some]
  intro hmem
  obtain ⟨j, hj, he⟩ := List.mem_take_iff_getElem.mp hmem
  have hj5 : j < 5 := lt_of_lt_of_le hj (Nat.min_le_left ..)
  rw [hget] at he hne
  exact List.pairwise_iff_getElem.mp ha j 5 (by omega) hlt hj5 (fun h => hne (he ▸ h)) he

/-- A call forgets no relayer exactly if it meets its condition. -/
theorem notForgotten_iff (hn : nodeNum ≠ 0) (hk : Findable k) (hs : s.Kept k) (h : s.NotForgotten k)
    (c : {c : RelayerCall // c.About nodeNum k}) :
    s.Meets nodeNum k c ↔ (s.step nodeNum k c).NotForgotten k := by
  obtain ⟨found, hf, hlen, ha, hkept⟩ := hs.record
  have hon : ∀ x ∈ s.kept, x ∈ found.relayedBy ∨ 6 ≤ s.others x := fun x hx =>
    (h x hx).imp_left (wasRelayer_iff hf (hs.kept x hx).1).mp
  obtain ⟨c, hc⟩ := c
  cases c with
  | remove relayer =>
    refine iff_of_true trivial fun x hx => ?_
    have hx' : x ∈ s.kept ∧ x ≠ relayer := by
      have hmem := List.mem_filter.mp hx
      exact ⟨hmem.1, of_decide_eq_true hmem.2⟩
    have hne := (hs.kept x hx'.1).1
    refine (hon x hx'.1).imp_left fun hr => ?_
    exact (wasRelayer_iff (s := s.step nodeNum k ⟨.remove relayer, hc⟩)
      (find_removeRelayer hs.sane hk hf relayer) hne).mpr ((mem_removeRelayer hne).mpr ⟨hr, hx'.2⟩)
  | seen p now nowInsert =>
    obtain ⟨hfind, _⟩ := @step_seen _ _ _ _ now nowInsert hn hk hs _ hf hc
    have hmono : ∀ x, s.others x ≤ (s.step nodeNum k ⟨.seen p now nowInsert, hc⟩).others x := fun x => by
      refine others_mono fun y hy => ?_
      unfold step
      dsimp only
      split_ifs
      · unfold noted
        split_ifs
        · exact hy
        · exact List.mem_cons_of_mem _ hy
      · exact hy
    unfold Meets
    dsimp only
    rw [hf]
    cases hput : puts nodeNum p found with
    | false =>
      have hkeptEq : (s.step nodeNum k ⟨.seen p now nowInsert, hc⟩).kept = s.kept := by
        unfold step
        dsimp only
        rw [hf, Option.any_some, hput]
        rfl
      refine iff_of_true (fun r hr ht => ?_) fun x hx => ?_
      · cases hr
        exact Bool.noConfusion (hput.symm.trans ht)
      · rw [hkeptEq] at hx
        refine (hon x hx).imp (fun hr => ?_) fun ho => le_trans ho (hmono x)
        refine (wasRelayer_iff hfind (hs.kept x hx).1).mpr ?_
        rw [update_relayedBy hlen ha, hput]
        exact hr
    | true =>
      have hkeptEq : (s.step nodeNum k ⟨.seen p now nowInsert, hc⟩).kept = noted p.relayNode s.kept := by
        unfold step
        dsimp only
        rw [hf, Option.any_some, hput]
        rfl
      have hlist : ((p.record nodeNum now).update nodeNum p found).relayedBy =
          putFirst p.relayNode found.relayedBy := by
        rw [update_relayedBy hlen ha, hput]
        rfl
      constructor
      · intro hm x hx
        rw [hkeptEq] at hx
        have hne : x ≠ 0 := (noted_subset hx).elim (fun h => h.1 ▸ h.2) fun h => (hs.kept x h).1
        rw [wasRelayer_iff hfind hne, hlist, mem_putFirst hne]
        rcases noted_subset hx with ⟨rfl, _⟩ | hx
        · exact Or.inl (Or.inl rfl)
        rcases hon x hx with hr | ho
        · rcases (mem_take_five hlen).mp hr with hr | rfl
          · exact Or.inl (Or.inr hr)
          · rcases hm found rfl hput with hz | hz | ho
            · exact absurd hz hne
            · exact Or.inl (Or.inl hz)
            · exact Or.inr ho
        · exact Or.inr (le_trans ho (hmono x))
      · intro hnf r hr _
        cases hr
        by_cases hz : found.relayedBy.getD 5 0 = 0
        · exact Or.inl hz
        refine Or.inr ?_
        have hlast : found.relayedBy.getD 5 0 ∈ found.relayedBy := (mem_take_five hlen).mpr (Or.inr rfl)
        have hmem := hnf (found.relayedBy.getD 5 0)
          (by rw [hkeptEq]; exact (mem_noted hz).mpr (Or.inr (hkept _ hlast hz)))
        rw [wasRelayer_iff hfind hz, hlist, mem_putFirst hz] at hmem
        rcases hmem with (hr | hr) | ho
        · exact Or.inl hr
        · exact absurd hr (apart_last hlen ha hz)
        · exact Or.inr ho

theorem start_notForgotten (he : Enters nodeNum k h p now nowInsert) :
    (start nodeNum h p now nowInsert).NotForgotten k := by
  intro x hx
  have hne := ((start_kept he).kept x hx).1
  refine Or.inl ((wasRelayer_iff he.find hne).mpr ?_)
  rw [record_relayedBy]
  unfold start at hx
  dsimp only at hx
  split_ifs at hx ⊢ with hus
  · rcases noted_subset hx with ⟨rfl, _⟩ | hx
    · exact List.mem_cons_self ..
    · exact absurd hx List.not_mem_nil
  · exact absurd hx List.not_mem_nil

/-- From the first copy of a packet on, its relayers differ and were the relayers of copies; and none is
forgotten exactly if every call meets its condition. -/
theorem notForgotten_run_iff (he : Enters nodeNum k h p now nowInsert)
    (calls : List {c : RelayerCall // c.About nodeNum k}) :
    (∀ n, (run (step nodeNum k) (start nodeNum h p now nowInsert) (calls.take n)).Evident k) ∧
      ((∀ n, (run (step nodeNum k) (start nodeNum h p now nowInsert) (calls.take n)).NotForgotten k) ↔
        Along (step nodeNum k) (Meets nodeNum k) (start nodeNum h p now nowInsert) calls) := by
  have hkeep : ∀ s c, Kept k s → Kept k (step nodeNum k s c) := fun s c hs =>
    step_kept he.known he.findable hs c
  have hkept : ∀ n, (run (step nodeNum k) (start nodeNum h p now nowInsert) (calls.take n)).Kept k := fun n =>
    run_keeps hkeep (start_kept he)
  refine ⟨fun n => (hkept n).evident, ?_⟩
  rw [along_iff (P := fun s => Kept k s ∧ NotForgotten k s)
    (fun s c hs => ⟨fun hm => ⟨hkeep s c hs.1, (notForgotten_iff he.known he.findable hs.1 hs.2 c).mp hm⟩,
      fun h => (notForgotten_iff he.known he.findable hs.1 hs.2 c).mpr h.2⟩)
    ⟨start_kept he, start_notForgotten he⟩]
  exact forall_congr' fun n => (and_iff_right (hkept n)).symm

/-- A copy of packet 1 of node 9. -/
def copy (relayNode hopLimit : UInt8) : {c : RelayerCall // c.About 7 (9, 1)} :=
  ⟨.seen { MeshPacket.zero with from' := 9, id := 1, relayNode := relayNode, hopLimit := hopLimit } 10 10, rfl⟩

theorem entered_first : Enters 7 (9, 1) (PacketHistory.start 4)
    { MeshPacket.zero with from' := 9, id := 1, relayNode := 9, hopLimit := 3 } 10 10 :=
  ⟨by decide, by decide, rfl, ⟨[], 4, start_holds 4⟩, by decide, by decide +kernel⟩

theorem notForgotten_two : (run (step 7 (9, 1)) (start 7 (PacketHistory.start 4)
    { MeshPacket.zero with from' := 9, id := 1, relayNode := 9, hopLimit := 3 } 10 10)
      ([copy 7 2, copy 5 1].take 2)).Evident (9, 1) :=
  (notForgotten_run_iff entered_first [copy 7 2, copy 5 1]).1 2

/-- We relay, node 5 relays after us, and we send the packet six times more: the only other relayer has
moved to the end of the list and off it. -/
theorem relayer_forgotten : ¬ (run (step 7 (9, 1)) (start 7 (PacketHistory.start 4)
    { MeshPacket.zero with from' := 9, id := 1, relayNode := 9, hopLimit := 3 } 10 10)
      [copy 7 2, copy 5 1, copy 7 2, copy 7 2, copy 7 2, copy 7 2, copy 7 2, copy 7 2]).NotForgotten (9, 1) := by
  intro h
  have h5 := h 5 (by decide +kernel)
  exact absurd h5 (by decide +kernel)

end RelayerRun
end MonsterMesh

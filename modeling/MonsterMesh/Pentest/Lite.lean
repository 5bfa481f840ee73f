import Mathlib.Data.Fintype.Card
import MonsterMesh.Daycare.Tables
import MonsterMesh.Lib.Walk

/-! The neighbours that the small daycare hears. -/
namespace MonsterMesh

open Text Walk

structure DaycareLiteNeighbor where
  nodeId : UInt32
  (shortName gameName : Str)
  (leadSpecies leadLevel partyCount : UInt8)
  (partySpecies partyLevel : Fin 6 → UInt8)
  lastSeenSec : UInt32
deriving DecidableEq

def DaycareLiteNeighbor.zero : DaycareLiteNeighbor := ⟨0, [], [], 0, 0, 0, fun _ => 0, fun _ => 0, 0⟩

/-- The list of `DAYCARE_LITE_NEIGHBOR_MAX` slots; one is free where the node id is zero. -/
structure DaycareLite where
  list : Fin 16 → DaycareLiteNeighbor
  count : UInt8

namespace DaycareLite

variable (l : DaycareLite)

def empty : DaycareLite := ⟨fun _ => .zero, 0⟩

/-- The loop of `handleBeacon` over the slots `is`: it stops at a slot of the node or at a free one, and
takes the oldest if there is none. -/
def scan (nodeId : UInt32) : List (Fin 16) → UInt32 → Fin 16 → Fin 16
  | [], _, oldestSlot => oldestSlot
  | i :: is, oldestSeen, oldestSlot =>
    if (l.list i).nodeId = nodeId ∨ (l.list i).nodeId = 0 then i
    else if (l.list i).lastSeenSec < oldestSeen then scan nodeId is (l.list i).lastSeenSec i
    else scan nodeId is oldestSeen oldestSlot

def slotFor (nodeId : UInt32) : Fin 16 := l.scan nodeId (List.finRange 16) 0xFFFFFFFF (Fin.ofNat 16 0)

/-- What `handleBeacon` writes into the slot. -/
def recordOf (b : DaycareBeacon) (nowSec : UInt32) : DaycareLiteNeighbor :=
  { nodeId := b.nodeId, shortName := b.shortName.take 4, gameName := b.gameName.take 7
    leadSpecies := if 0 < b.partyCount then (b.pokemon (Fin.ofNat 6 0)).species else 0
    leadLevel := if 0 < b.partyCount then (b.pokemon (Fin.ofNat 6 0)).level else 0
    partyCount := b.partyCount
    partySpecies := fun i => if i.val < b.partyCount.toNat then (b.pokemon i).species else 0
    partyLevel := fun i => if i.val < b.partyCount.toNat then (b.pokemon i).level else 0
    lastSeenSec := nowSec }

def handleBeacon (b : DaycareBeacon) (nowSec : UInt32) : DaycareLite :=
  if b.nodeId = 0 then l
  else
    let slot := l.slotFor b.nodeId
    let isNew := (l.list slot).nodeId ≠ b.nodeId
    { list := Function.update l.list slot (recordOf b nowSec)
      count := if isNew ∧ l.count < 16 then l.count + 1 else l.count }

def isStale (nowSec maxAgeSec : UInt32) (n : DaycareLiteNeighbor) : Bool :=
  n.nodeId ≠ 0 && !(nowSec < n.lastSeenSec) && maxAgeSec < nowSec - n.lastSeenSec

/-- One round of the loop of `expireNeighbors`. -/
def expireOne (nowSec maxAgeSec : UInt32) (i : Fin 16) : DaycareLite :=
  if isStale nowSec maxAgeSec (l.list i) then
    { list := Function.update l.list i { l.list i with nodeId := 0 }
      count := if l.count ≠ 0 then l.count - 1 else l.count }
  else l

def expireNeighbors (nowSec maxAgeSec : UInt32) : DaycareLite :=
  (List.finRange 16).foldl (fun l i => l.expireOne nowSec maxAgeSec i) l

inductive Event where
  | beacon (b : DaycareBeacon) (nowSec : UInt32)
  | expire (nowSec maxAgeSec : UInt32)

def step : Event → DaycareLite
  | .beacon b nowSec => l.handleBeacon b nowSec
  | .expire nowSec maxAgeSec => l.expireNeighbors nowSec maxAgeSec

/-! ### The list as a set -/

variable {l} {i j : Fin 16} {b : DaycareBeacon} {nodeId nowSec maxAgeSec : UInt32}

def occupied (l : DaycareLite) : Finset (Fin 16) := Finset.univ.filter fun i => (l.list i).nodeId ≠ 0

theorem mem_occupied : i ∈ l.occupied ↔ (l.list i).nodeId ≠ 0 := by
  unfold occupied
  rw [Finset.mem_filter]
  exact and_iff_right (Finset.mem_univ i)

/-- No node is listed twice, and the slots in use are counted. -/
structure IsSet (l : DaycareLite) : Prop where
  distinct : ∀ i j, i ∈ l.occupied → (l.list i).nodeId = (l.list j).nodeId → i = j
  counted : l.count.toNat = l.occupied.card

/-- The slot has the party of the beacon and nothing else. -/
structure Carries (n : DaycareLiteNeighbor) (b : DaycareBeacon) : Prop where
  count : n.partyCount = b.partyCount
  mons : ∀ i : Fin 6, i.val < b.partyCount.toNat →
    n.partySpecies i = (b.pokemon i).species ∧ n.partyLevel i = (b.pokemon i).level
  rest : ∀ i : Fin 6, b.partyCount.toNat ≤ i.val → n.partySpecies i = 0 ∧ n.partyLevel i = 0

/-- What is said of a step: the node of a beacon is listed, with its party in every slot that has its id,
and where the beacon takes the slot of another node no slot was free and none was seen earlier. -/
def Shown (l : DaycareLite) : Event → Prop
  | .beacon b nowSec => b.nodeId ≠ 0 →
      (∃ i, ((l.handleBeacon b nowSec).list i).nodeId = b.nodeId) ∧
      (∀ i, ((l.handleBeacon b nowSec).list i).nodeId = b.nodeId →
        Carries ((l.handleBeacon b nowSec).list i) b) ∧
      ∀ i, i ∈ l.occupied → (l.list i).nodeId ≠ b.nodeId → (l.handleBeacon b nowSec).list i ≠ l.list i →
        (∀ j, j ∈ l.occupied) ∧ ∀ j, (l.list i).lastSeenSec ≤ (l.list j).lastSeenSec
  | .expire _ _ => True

/-- The condition on a step: no slot before that of the beacon's node is free. -/
def Meets (l : DaycareLite) : Event → Prop
  | .beacon b _ => b.nodeId ≠ 0 → ∀ i, (l.list i).nodeId = b.nodeId → ∀ j < i, j ∈ l.occupied
  | .expire _ _ => True

/-- The slot that the loop stops at. -/
theorem scan_found (is : List (Fin 16)) (hmem : ∃ j ∈ is, (l.list j).nodeId = nodeId ∨ (l.list j).nodeId = 0)
    (seen : UInt32) (old : Fin 16) :
    ∃ pre post, is = pre ++ l.scan nodeId is seen old :: post ∧
      ((l.list (l.scan nodeId is seen old)).nodeId = nodeId ∨ (l.list (l.scan nodeId is seen old)).nodeId = 0) ∧
      ∀ j ∈ pre, (l.list j).nodeId ≠ nodeId ∧ (l.list j).nodeId ≠ 0 := by
  induction is generalizing seen old with
  | nil =>
    obtain ⟨j, hj, _⟩ := hmem
    exact absurd hj List.not_mem_nil
  | cons i is ih =>
    unfold scan
    by_cases hi : (l.list i).nodeId = nodeId ∨ (l.list i).nodeId = 0
    · rw [if_pos hi]
      exact ⟨[], is, rfl, hi, fun j hj => absurd hj List.not_mem_nil⟩
    rw [if_neg hi]
    have hrest : ∃ j ∈ is, (l.list j).nodeId = nodeId ∨ (l.list j).nodeId = 0 := by
      obtain ⟨j, hj, hstop⟩ := hmem
      rcases List.mem_cons.mp hj with rfl | hj
      · exact absurd hstop hi
      · exact ⟨j, hj, hstop⟩
    have hgo : ∀ seen old, ∃ pre post, i :: is = pre ++ l.scan nodeId is seen old :: post ∧
        ((l.list (l.scan nodeId is seen old)).nodeId = nodeId ∨
          (l.list (l.scan nodeId is seen old)).nodeId = 0) ∧
        ∀ j ∈ pre, (l.list j).nodeId ≠ nodeId ∧ (l.list j).nodeId ≠ 0 := fun seen old => by
      obtain ⟨pre, post, heq, hstop, hpre⟩ := ih hrest seen old
      refine ⟨i :: pre, post, ?_, hstop, List.forall_mem_cons.mpr ⟨not_or.mp hi, hpre⟩⟩
      rw [List.cons_append, ← heq]
    split_ifs
    · exact hgo _ _
    · exact hgo _ _

/-- Where it stops at none, the slot is one seen no later than the others. -/
theorem scan_oldest (is : List (Fin 16))
    (hnone : ∀ j ∈ is, (l.list j).nodeId ≠ nodeId ∧ (l.list j).nodeId ≠ 0) {seen : UInt32} {old : Fin 16}
    (hold : (l.list old).lastSeenSec ≤ seen) :
    (l.list (l.scan nodeId is seen old)).lastSeenSec ≤ seen ∧
      ∀ j ∈ is, (l.list (l.scan nodeId is seen old)).lastSeenSec ≤ (l.list j).lastSeenSec := by
  induction is generalizing seen old with
  | nil => exact ⟨hold, fun j hj => absurd hj List.not_mem_nil⟩
  | cons i is ih =>
    obtain ⟨hi, hrest⟩ := List.forall_mem_cons.mp hnone
    unfold scan
    rw [if_neg (not_or.mpr hi)]
    split_ifs with hlt
    · obtain ⟨hle, hall⟩ := ih hrest (UInt32.le_refl (l.list i).lastSeenSec)
      exact ⟨UInt32.le_trans hle (UInt32.le_of_lt hlt), List.forall_mem_cons.mpr ⟨hle, hall⟩⟩
    · obtain ⟨hle, hall⟩ := ih hrest hold
      exact ⟨hle, List.forall_mem_cons.mpr ⟨UInt32.le_trans hle (UInt32.not_lt.mp hlt), hall⟩⟩

theorem slotFor_cases (l : DaycareLite) (nodeId : UInt32) :
    (((l.list (l.slotFor nodeId)).nodeId = nodeId ∨ (l.list (l.slotFor nodeId)).nodeId = 0) ∧
      ∀ j < l.slotFor nodeId, (l.list j).nodeId ≠ nodeId ∧ (l.list j).nodeId ≠ 0) ∨
    (∀ j, (l.list j).nodeId ≠ nodeId ∧ (l.list j).nodeId ≠ 0) ∧
      ∀ j, (l.list (l.slotFor nodeId)).lastSeenSec ≤ (l.list j).lastSeenSec := by
  by_cases hstop : ∃ j, (l.list j).nodeId = nodeId ∨ (l.list j).nodeId = 0
  · obtain ⟨j, hj⟩ := hstop
    obtain ⟨pre, post, heq, hfound, hpre⟩ :=
      scan_found (List.finRange 16) ⟨j, List.mem_finRange j, hj⟩ 0xFFFFFFFF (Fin.ofNat 16 0)
    refine Or.inl ⟨hfound, fun k hk => hpre k ?_⟩
    have hmem := List.mem_finRange k
    have hsorted := List.pairwise_lt_finRange 16
    rw [heq] at hmem hsorted
    rcases List.mem_append.mp hmem with hmem | hmem
    · exact hmem
    · obtain ⟨_, hpost, _⟩ := List.pairwise_append.mp hsorted
      rcases List.mem_cons.mp hmem with rfl | hmem
      · exact absurd hk (lt_irrefl _)
      · exact absurd hk (lt_asymm ((List.pairwise_cons.mp hpost).1 k hmem))
  · have hnone : ∀ j, (l.list j).nodeId ≠ nodeId ∧ (l.list j).nodeId ≠ 0 := fun j =>
      not_or.mp fun hj => hstop ⟨j, hj⟩
    have hmax : ∀ x : UInt32, x ≤ 0xFFFFFFFF := fun x => by
      rw [UInt32.le_iff_toNat_le]
      exact Nat.le_of_lt_succ x.toNat_lt
    exact Or.inr ⟨hnone, fun j =>
      (scan_oldest (List.finRange 16) (fun j _ => hnone j) (hmax _)).2 j (List.mem_finRange j)⟩

theorem recordOf_carries (b : DaycareBeacon) (nowSec : UInt32) : Carries (recordOf b nowSec) b :=
  ⟨rfl, fun _ hi => ⟨if_pos hi, if_pos hi⟩, fun _ hi => ⟨if_neg (not_lt.mpr hi), if_neg (not_lt.mpr hi)⟩⟩

theorem handleBeacon_eq (hb : b.nodeId ≠ 0) : l.handleBeacon b nowSec =
    { list := Function.update l.list (l.slotFor b.nodeId) (recordOf b nowSec)
      count := if (l.list (l.slotFor b.nodeId)).nodeId ≠ b.nodeId ∧ l.count < 16 then l.count + 1
        else l.count } := if_neg hb

/-- The slots in use after one was written. -/
theorem occupied_update (n : DaycareLiteNeighbor) (hn : n.nodeId ≠ 0) (count : UInt8) :
    occupied ⟨Function.update l.list i n, count⟩ = insert i l.occupied := by
  refine Finset.ext fun j => ?_
  rw [Finset.mem_insert, mem_occupied, mem_occupied]
  by_cases hj : j = i
  · subst hj
    dsimp only
    rw [Function.update_self]
    exact iff_of_true hn (Or.inl rfl)
  · dsimp only
    rw [Function.update_of_ne hj]
    exact (or_iff_right hj).symm

theorem occupied_le (l : DaycareLite) : l.occupied.card ≤ 16 :=
  (Finset.card_le_univ _).trans_eq (Fintype.card_fin 16)

/-- No other slot has the beacon's node. -/
theorem other_ne (h : l.IsSet) (hb : nodeId ≠ 0)
    (hm : ∀ i, (l.list i).nodeId = nodeId → ∀ j < i, j ∈ l.occupied) (hj : j ≠ l.slotFor nodeId) :
    (l.list j).nodeId ≠ nodeId := by
  intro he
  rcases slotFor_cases l nodeId with ⟨hfound, hpre⟩ | ⟨hnone, _⟩
  · rcases lt_trichotomy j (l.slotFor nodeId) with hlt | heq | hlt
    · exact (hpre j hlt).1 he
    · exact hj heq
    · have hocc := mem_occupied.mp (hm j he _ hlt)
      have hj' : j ∈ l.occupied := mem_occupied.mpr (he ▸ hb)
      exact hj (h.distinct _ _ hj' (he.trans (hfound.resolve_right hocc).symm))
  · exact (hnone j).1 he

theorem counted_insert (h : l.IsSet) (nodeId : UInt32) :
    (if (l.list (l.slotFor nodeId)).nodeId ≠ nodeId ∧ l.count < 16 then l.count + 1 else l.count).toNat =
      (insert (l.slotFor nodeId) l.occupied).card ∨ (l.list (l.slotFor nodeId)).nodeId = nodeId := by
  by_cases hnew : (l.list (l.slotFor nodeId)).nodeId = nodeId
  · exact Or.inr hnew
  refine Or.inl ?_
  have hcount := h.counted
  by_cases hfree : (l.list (l.slotFor nodeId)).nodeId = 0
  · have hout : l.slotFor nodeId ∉ l.occupied := fun hmem => mem_occupied.mp hmem hfree
    have hcard := Finset.card_insert_of_notMem hout
    have hle := Finset.card_le_univ (insert (l.slotFor nodeId) l.occupied)
    rw [Fintype.card_fin] at hle
    have hlt : l.count < 16 := by
      rw [UInt8.lt_iff_toNat_lt, show (16 : UInt8).toNat = 16 from rfl]
      omega
    rw [if_pos ⟨hnew, hlt⟩, hcard, UInt8.toNat_add, hcount]
    show (l.occupied.card + 1) % 256 = l.occupied.card + 1
    omega
  · rcases slotFor_cases l nodeId with ⟨hfound, _⟩ | ⟨hnone, _⟩
    · exact absurd hfound (not_or.mpr ⟨hnew, hfree⟩)
    · have hall : l.occupied = Finset.univ :=
        Finset.eq_univ_iff_forall.mpr fun j => mem_occupied.mpr (hnone j).2
      have hfull : ¬ l.count < 16 := by
        rw [UInt8.lt_iff_toNat_lt, hcount, hall, Finset.card_univ, Fintype.card_fin]
        exact lt_irrefl 16
      rw [if_neg fun hc => hfull hc.2, Finset.insert_eq_of_mem (mem_occupied.mpr hfree), hcount]

/-- A beacon that meets the condition keeps the list a set. -/
theorem handleBeacon_isSet (h : l.IsSet) (hb : b.nodeId ≠ 0)
    (hm : ∀ i, (l.list i).nodeId = b.nodeId → ∀ j < i, j ∈ l.occupied) : (l.handleBeacon b nowSec).IsSet := by
  rw [handleBeacon_eq hb]
  refine ⟨fun i j hi he => ?_, ?_⟩
  · rw [occupied_update (recordOf b nowSec) hb] at hi
    dsimp only at he
    have hother := fun k hk => other_ne (j := k) h hb hm hk
    by_cases hi' : i = l.slotFor b.nodeId
    · by_cases hj' : j = l.slotFor b.nodeId
      · exact hi'.trans hj'.symm
      · rw [hi', Function.update_self, Function.update_of_ne hj'] at he
        exact absurd he.symm (hother j hj')
    · rw [Function.update_of_ne hi'] at he
      by_cases hj' : j = l.slotFor b.nodeId
      · rw [hj', Function.update_self] at he
        exact absurd he (hother i hi')
      · rw [Function.update_of_ne hj'] at he
        exact h.distinct i j ((Finset.mem_insert.mp hi).resolve_left hi') he
  · rw [occupied_update (recordOf b nowSec) hb]
    rcases counted_insert h b.nodeId with hcount | hsame
    · exact hcount
    · have hmem : l.slotFor b.nodeId ∈ l.occupied := mem_occupied.mpr (by rw [hsame]; exact hb)
      rw [Finset.insert_eq_of_mem hmem]
      dsimp only
      rw [if_neg fun hc => hc.1 hsame]
      exact h.counted

/-- A free slot before that of the node takes the beacon, and the node is listed twice. -/
theorem handleBeacon_listedTwice (hb : b.nodeId ≠ 0) (hi : (l.list i).nodeId = b.nodeId)
    (hj : j < i) (hfree : j ∉ l.occupied) : ¬ (l.handleBeacon b nowSec).IsSet := by
  have hzero : (l.list j).nodeId = 0 := not_not.mp fun hne => hfree (mem_occupied.mpr hne)
  have hne : i ≠ l.slotFor b.nodeId := by
    rcases slotFor_cases l b.nodeId with ⟨_, hpre⟩ | ⟨hnone, _⟩
    · intro he
      exact (hpre j (he ▸ hj)).2 hzero
    · exact absurd hi (hnone i).1
  rw [handleBeacon_eq hb]
  intro hset
  have hmem := mem_occupied.mpr (show (l.list i).nodeId ≠ 0 from hi ▸ hb)
  refine hne (hset.distinct i (l.slotFor b.nodeId) ?_ ?_)
  · rw [occupied_update (recordOf b nowSec) hb]
    exact Finset.mem_insert_of_mem hmem
  · dsimp only
    rw [Function.update_of_ne hne, Function.update_self]
    exact hi

theorem occupied_clear (count : UInt8) :
    occupied ⟨Function.update l.list i { l.list i with nodeId := 0 }, count⟩ = l.occupied.erase i := by
  refine Finset.ext fun j => ?_
  rw [Finset.mem_erase, mem_occupied, mem_occupied]
  by_cases hj : j = i
  · subst hj
    dsimp only
    rw [Function.update_self]
    exact iff_of_false (fun hc => hc rfl) fun hc => hc.1 rfl
  · dsimp only
    rw [Function.update_of_ne hj]
    exact (and_iff_right hj).symm

theorem expireOne_isSet (h : l.IsSet) (nowSec maxAgeSec : UInt32) (i : Fin 16) :
    (l.expireOne nowSec maxAgeSec i).IsSet := by
  unfold expireOne
  by_cases hstale : isStale nowSec maxAgeSec (l.list i) = true
  · rw [if_pos hstale]
    have hmem : i ∈ l.occupied := by
      simp only [isStale, Bool.and_eq_true, decide_eq_true_eq] at hstale
      exact mem_occupied.mpr hstale.1.1
    refine ⟨fun j k hj he => ?_, ?_⟩
    · rw [occupied_clear] at hj
      obtain ⟨hne, hj⟩ := Finset.mem_erase.mp hj
      dsimp only at he
      rw [Function.update_of_ne hne] at he
      by_cases hk : k = i
      · rw [hk, Function.update_self] at he
        exact absurd he (mem_occupied.mp hj)
      · rw [Function.update_of_ne hk] at he
        exact h.distinct j k hj he
    · rw [occupied_clear, Finset.card_erase_of_mem hmem, ← h.counted]
      have hpos : 0 < l.count.toNat := by
        rw [h.counted]
        exact Finset.card_pos.mpr ⟨i, hmem⟩
      have hne : l.count ≠ 0 := fun he => by
        rw [he] at hpos
        exact absurd hpos (by decide)
      dsimp only
      rw [if_pos hne]
      exact UInt8.toNat_sub_of_le _ _ (UInt8.le_iff_toNat_le.mpr hpos)
  · rw [if_neg hstale]
    exact h

theorem expireNeighbors_isSet (h : l.IsSet) (nowSec maxAgeSec : UInt32) :
    (l.expireNeighbors nowSec maxAgeSec).IsSet :=
  run_keeps (fun _ i hl => expireOne_isSet hl nowSec maxAgeSec i) h

theorem handleBeacon_shown (h : l.IsSet) (hm : l.Meets (.beacon b nowSec)) : l.Shown (.beacon b nowSec) := by
  intro hb
  have hother := fun k hk => other_ne (j := k) h hb (hm hb) hk
  rw [handleBeacon_eq hb]
  dsimp only
  refine ⟨⟨l.slotFor b.nodeId, ?_⟩, fun i hi => ?_, fun i hi hne hchanged => ?_⟩
  · rw [Function.update_self]
    rfl
  · by_cases hslot : i = l.slotFor b.nodeId
    · rw [hslot, Function.update_self]
      exact recordOf_carries b nowSec
    · rw [Function.update_of_ne hslot] at hi
      exact absurd hi (hother i hslot)
  · have hslot : i = l.slotFor b.nodeId := by
      by_contra hslot
      exact hchanged (Function.update_of_ne hslot ..)
    rcases slotFor_cases l b.nodeId with ⟨hfound, _⟩ | ⟨hnone, holdest⟩
    · rw [← hslot] at hfound
      exact absurd hfound (not_or.mpr ⟨hne, mem_occupied.mp hi⟩)
    · rw [← hslot] at holdest
      exact ⟨fun j => mem_occupied.mpr (hnone j).2, holdest⟩

theorem step_iff (h : l.IsSet) (e : Event) : (l.step e).IsSet ∧ l.Shown e ↔ l.Meets e := by
  cases e with
  | beacon b nowSec =>
    constructor
    · rintro ⟨hset, _⟩ hb i hi j hj
      by_contra hfree
      exact handleBeacon_listedTwice hb hi hj hfree hset
    · intro hm
      refine ⟨?_, handleBeacon_shown h hm⟩
      by_cases hb : b.nodeId = 0
      · have hsame : l.step (.beacon b nowSec) = l := if_pos hb
        rw [hsame]
        exact h
      · exact handleBeacon_isSet h hb (hm hb)
  | expire nowSec maxAgeSec => exact iff_of_true ⟨expireNeighbors_isSet h nowSec maxAgeSec, trivial⟩ trivial

theorem empty_isSet : empty.IsSet := by
  have hnone : ∀ i, i ∉ empty.occupied := fun i hi => mem_occupied.mp hi rfl
  refine ⟨fun i _ hi => absurd hi (hnone i), ?_⟩
  rw [Finset.eq_empty_of_forall_notMem hnone]
  rfl

/-- The list is a set throughout a run exactly if each beacon meets the condition. -/
theorem neighbors_iff (es : List Event) :
    Along step (fun l e => (l.step e).IsSet ∧ l.Shown e) empty es ↔ Along step Meets empty es := by
  constructor
  · exact fun h => h.trade (fun _ _ _ hc => hc.1) (fun _ e hl hc => (step_iff hl e).mp hc) empty_isSet
  · exact fun h => h.trade (fun _ e hl hc => ((step_iff hl e).mpr hc).1)
      (fun _ e hl hc => (step_iff hl e).mpr hc) empty_isSet

/-- A beacon with a party of one. -/
def beaconOf (nodeId : UInt32) (species : UInt8) : DaycareBeacon :=
  { nodeId := nodeId, shortName := [], gameName := [], partyCount := 1
    pokemon := fun _ => ⟨species, 5, [], fun _ => 0⟩, ngPlusTier := 0 }

/-- Two nodes; the first one expires, and the second one is heard again. -/
def heardAgain : List Event :=
  [.beacon (beaconOf 7 25) 0, .beacon (beaconOf 8 25) 1000, .expire 2000 1800, .beacon (beaconOf 8 26) 2100]

/-- It is listed twice, with its old party in the second place. -/
theorem heardAgain_twice : ¬ Along step (fun l e => (l.step e).IsSet ∧ l.Shown e) empty heardAgain := by
  rintro ⟨_, _, _, ⟨hset, _⟩, _⟩
  change (run step empty heardAgain).IsSet at hset
  have hids : ∀ i : Fin 16, i.val < 2 → ((run step empty heardAgain).list i).nodeId = 8 := by decide +kernel
  have hzero := hids ⟨0, by decide⟩ (by decide)
  have hone := hids ⟨1, by decide⟩ (by decide)
  have hmem : (⟨0, by decide⟩ : Fin 16) ∈ (run step empty heardAgain).occupied :=
    mem_occupied.mpr (by rw [hzero]; decide)
  have hsame := hset.distinct _ ⟨1, by decide⟩ hmem (hzero.trans hone.symm)
  exact absurd (Fin.mk.inj hsame) (by decide)

end DaycareLite
end MonsterMesh

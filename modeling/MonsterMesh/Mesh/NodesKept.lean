import Mathlib.Data.List.Nodup
import Mathlib.Data.List.Perm.Basic
import MonsterMesh.Mesh.NodeDB

/-! What the operations on the table of nodes keep. -/
namespace MonsterMesh.NodeDB

open Fallible

variable {c : Settings} {db db' : NodeDB} {m : Moment} {n : UInt32} {l : List NodeInfoLite} {i : ℕ}
  {t : Slots NodeInfoLite} {p : NodeInfoLite → Bool}

/-! ### What is said -/

/-- The nodes that are known. -/
def nodes (db : NodeDB) : List NodeInfoLite := db.meshNodes.entries

/-- All but the node `n`. -/
def others (n : UInt32) (l : List NodeInfoLite) : List NodeInfoLite := l.filter (·.num ≠ n)

/-- Numbers are not shared, and none is zero. -/
def Numbered (l : List NodeInfoLite) : Prop := (l.map NodeInfoLite.num).Nodup ∧ ∀ a ∈ l, a.num ≠ 0

structure Sound (db : NodeDB) : Prop where
  bounded : db.meshNodes.count ≤ db.maxNumNodes
  numbered : Numbered db.nodes

/-- The node is in the table, and the others are there, but for one that had to go from a full table: not our
own, and neither favourite nor ignored nor verified. -/
def Requested (c : Settings) (m : Moment) (n : UInt32) (db db' : NodeDB) : Prop :=
  (∃ a ∈ db'.nodes, a.num = n) ∧ ∃ evicted : List NodeInfoLite,
    (others n db'.nodes ++ evicted).Perm (others n db.nodes) ∧
      (evicted = [] ∨ ∃ old, evicted = [old] ∧ db.isFull m = true ∧ (∀ a ∈ db.nodes, a.num ≠ n) ∧
        plain old = true ∧ old.num ≠ c.nodeNum)

/-- What an operation should make of the nodes. -/
def Effect (c : Settings) (db : NodeDB) : Event → NodeDB → Prop
  | .updateFrom m from' _ decoded, db' =>
    if from' ≠ c.nodeNum ∧ decoded = true ∧ from' ≠ 0 then Requested c m from' db db' else db' = db
  | .updateUser m nodeId _, db' | .updatePosition m nodeId, db' => Requested c m nodeId db db'
  | .addFromContact m contact, db' => Requested c m contact.nodeNum db db'
  | .setFavorite _ isFavorite nodeId, db' => db'.nodes.Perm
      (db.nodes.map fun a => if a.num = nodeId then { a with isFavorite := isFavorite } else a)
  | .pauseSort _, db' | .sortMeshDB _, db' => db'.nodes.Perm db.nodes
  | .removeNodeByNum nodeNum, db' => db'.nodes = others nodeNum db.nodes
  | .cleanupMeshDB, db' => db'.nodes = (db.nodes.filter NodeInfoLite.hasUser).map clearZeroKey
  | .resetNodes true, db' => db'.nodes.Perm (db.nodes.filter fun a => a.num = c.nodeNum || a.isFavorite)
  | .resetNodes false, db' => db'.nodes = db.nodes.filter (·.num = c.nodeNum)

/-- The operation stays inside the table, the table is sound after it, and the nodes are what they should be. -/
def Fair (c : Settings) (db : NodeDB) (e : Event) : Prop :=
  Total (step c db e) fun db' => Sound db' ∧ Effect c db e db'

/-! ### The condition -/

/-- Entry `i` is the first of those behind entry 0 with `p` that was heard longest ago. -/
def Oldest (t : Slots NodeInfoLite) (p : NodeInfoLite → Bool) (i : ℕ) : Prop :=
  0 < i ∧ p (t.slot i) = true ∧ (t.slot i).lastHeard < 0xFFFFFFFF ∧
    ∀ j, j < t.count → 0 < j → p (t.slot j) = true → (t.slot i).lastHeard < (t.slot j).lastHeard ∨
      (t.slot i).lastHeard = (t.slot j).lastHeard ∧ i ≤ j

/-- The oldest boring node is not verified and not our own; without one the oldest node that is not protected is
not our own; and a table without room has one of them. -/
def Yields (c : Settings) (db : NodeDB) : Prop :=
  (∀ i, i < db.meshNodes.count → Oldest db.meshNodes boring i →
    (db.meshNodes.slot i).keyManuallyVerified = false ∧ (db.meshNodes.slot i).num ≠ c.nodeNum) ∧
  ((∀ i, i < db.meshNodes.count → ¬ Oldest db.meshNodes boring i) →
    ∀ i, i < db.meshNodes.count → Oldest db.meshNodes plain i → (db.meshNodes.slot i).num ≠ c.nodeNum) ∧
  (db.meshNodes.count = db.maxNumNodes → ∃ i, i < db.meshNodes.count ∧
    (Oldest db.meshNodes boring i ∨ Oldest db.meshNodes plain i))

/-- A node that is asked for has a number, and where it is new to a full table another one yields. -/
def Admits (c : Settings) (m : Moment) (n : UInt32) (db : NodeDB) : Prop :=
  n ≠ 0 ∧ ((∀ a ∈ db.nodes, a.num ≠ n) → db.isFull m = true → Yields c db)

/-- Favourites are not kept at a reset, which finds our own node first; a removal from a table without room
finds its node. -/
def spares (c : Settings) (db : NodeDB) : Event → Prop
  | .updateFrom m from' _ decoded => from' ≠ c.nodeNum ∧ decoded = true ∧ from' ≠ 0 → Admits c m from' db
  | .updateUser m nodeId _ | .updatePosition m nodeId => Admits c m nodeId db
  | .addFromContact m contact => Admits c m contact.nodeNum db
  | .setFavorite _ _ _ | .pauseSort _ | .sortMeshDB _ | .cleanupMeshDB => True
  | .removeNodeByNum nodeNum => db.meshNodes.count < db.maxNumNodes ∨ ∃ a ∈ db.nodes, a.num = nodeNum
  | .resetNodes keepFavorites =>
    keepFavorites = false ∧ 0 < db.meshNodes.count ∧ (db.meshNodes.slot 0).num = c.nodeNum

instance : Decidable (Oldest t p i) := by
  unfold Oldest
  infer_instance

instance : Decidable (Yields c db) := by
  unfold Yields
  infer_instance

instance : Decidable (Admits c m n db) := by
  unfold Admits
  infer_instance

instance : ∀ e : Event, Decidable (spares c db e)
  | .updateFrom m from' _ decoded => inferInstanceAs (Decidable
      (from' ≠ c.nodeNum ∧ decoded = true ∧ from' ≠ 0 → Admits c m from' db))
  | .updateUser m nodeId _ | .updatePosition m nodeId => inferInstanceAs (Decidable (Admits c m nodeId db))
  | .addFromContact m contact => inferInstanceAs (Decidable (Admits c m contact.nodeNum db))
  | .setFavorite _ _ _ | .pauseSort _ | .sortMeshDB _ | .cleanupMeshDB => inferInstanceAs (Decidable True)
  | .removeNodeByNum nodeNum => inferInstanceAs (Decidable
      (db.meshNodes.count < db.maxNumNodes ∨ ∃ a ∈ db.nodes, a.num = nodeNum))
  | .resetNodes keepFavorites => inferInstanceAs (Decidable
      (keepFavorites = false ∧ 0 < db.meshNodes.count ∧ (db.meshNodes.slot 0).num = c.nodeNum))

/-! ### Lists of nodes -/

theorem Numbered.perm {l' : List NodeInfoLite} (h : Numbered l) (hp : l'.Perm l) : Numbered l' :=
  ⟨(hp.map NodeInfoLite.num).nodup_iff.mpr h.1, fun a ha => h.2 a (hp.mem_iff.mp ha)⟩

theorem Numbered.sublist {l' : List NodeInfoLite} (h : Numbered l) (hs : l'.Sublist l) : Numbered l' :=
  ⟨h.1.sublist (hs.map NodeInfoLite.num), fun a ha => h.2 a (hs.subset ha)⟩

theorem Numbered.map {f : NodeInfoLite → NodeInfoLite} (h : Numbered l) (hf : ∀ a, (f a).num = a.num) :
    Numbered (l.map f) := by
  refine ⟨?_, fun b hb => ?_⟩
  · rw [List.map_map, show NodeInfoLite.num ∘ f = NodeInfoLite.num from funext hf]
    exact h.1
  · obtain ⟨a, ha, rfl⟩ := List.mem_map.mp hb
    rw [hf]
    exact h.2 a ha

/-- A node changes in its place and keeps its number. -/
theorem Numbered.set {b : NodeInfoLite} (h : Numbered l) (hi : i < l.length) (hb : b.num = l[i].num) :
    Numbered (l.set i b) := by
  have hmap : (l.set i b).map NodeInfoLite.num = l.map NodeInfoLite.num := by
    rw [List.map_set, hb]
    have hi' : i < (l.map NodeInfoLite.num).length := by rwa [List.length_map]
    have hget : l[i].num = (l.map NodeInfoLite.num)[i] := by rw [List.getElem_map]
    rw [hget, List.set_getElem_self]
  refine ⟨hmap ▸ h.1, fun a ha => ?_⟩
  have hmem : a.num ∈ (l.set i b).map NodeInfoLite.num := List.mem_map_of_mem ha
  rw [hmap] at hmem
  obtain ⟨a', ha', heq⟩ := List.mem_map.mp hmem
  rw [← heq]
  exact h.2 a' ha'

theorem Numbered.concat {b : NodeInfoLite} (h : Numbered l) (hb : b.num ≠ 0) (hnew : ∀ a ∈ l, a.num ≠ b.num) :
    Numbered (l ++ [b]) := by
  refine ⟨?_, fun a ha => ?_⟩
  · rw [List.map_append, List.map_singleton, List.nodup_append]
    refine ⟨h.1, List.nodup_singleton _, fun x hx y hy => ?_⟩
    obtain ⟨a, ha, rfl⟩ := List.mem_map.mp hx
    rw [List.mem_singleton.mp hy]
    exact hnew a ha
  · rcases List.mem_append.mp ha with ha | ha
    · exact h.2 a ha
    · rw [List.mem_singleton.mp ha]
      exact hb

theorem others_set {b : NodeInfoLite} (hi : i < l.length) (ha : l[i].num = n) (hb : b.num = n) :
    others n (l.set i b) = others n l := by
  unfold others
  rw [List.set_eq_take_append_cons_drop, if_pos hi]
  conv_rhs => rw [← List.take_append_drop i l, List.drop_eq_getElem_cons hi]
  rw [List.filter_append, List.filter_append, List.filter_cons_of_neg (by simp [hb]),
    List.filter_cons_of_neg (by simp [ha])]

theorem others_eq_self (h : ∀ a ∈ l, a.num ≠ n) : others n l = l :=
  List.filter_eq_self.mpr fun a ha => decide_eq_true (h a ha)

/-- Among numbers that are not shared, a node is found by its number. -/
theorem Numbered.inj {a b : NodeInfoLite} (h : Numbered l) (ha : a ∈ l) (hb : b ∈ l) (hab : a.num = b.num) :
    a = b :=
  List.inj_on_of_nodup_map h.1 ha hb hab

/-! ### Sorting -/

theorem sortPass_perm (c : Settings) (l : List NodeInfoLite) : (sortPass c l).1.Perm l := by
  induction l with
  | nil => exact .refl _
  | cons before rest ih =>
    unfold sortPass
    rcases hrest : sortPass c rest with ⟨_ | ⟨a, rest'⟩, changed⟩
    · rw [hrest] at ih
      exact ih.cons before
    · rw [hrest] at ih
      dsimp only
      split
      · exact (List.Perm.swap before a rest').trans (ih.cons before)
      · exact ih.cons before

theorem sortLoop_perm (fuel : ℕ) : (sortLoop c fuel l).Perm l := by
  induction fuel generalizing l with
  | zero => exact .refl _
  | succ fuel ih =>
    unfold sortLoop
    dsimp only
    split
    · exact ih.trans (sortPass_perm c l)
    · exact sortPass_perm c l

/-- A node goes before another one only with the greater rank. -/
theorem rank_lt_of_goesBefore {a before : NodeInfoLite} (h : goesBefore c a before = true) :
    rank c before < rank c a := by
  have ha := a.lastHeard.toNat_lt
  have hb := before.lastHeard.toNat_lt
  unfold goesBefore at h
  unfold rank
  split at h
  · cases h
  · rename_i hown
    rw [if_neg hown]
    split at h
    · rename_i haown
      rw [if_pos haown]
      split <;> omega
    · rename_i haown
      rw [if_neg haown]
      split at h
      · rename_i hfav
        rw [if_pos hfav.1, if_neg hfav.2]
        omega
      · split at h
        · cases h
        · rename_i hno hyes
          have hlast := UInt32.lt_iff_toNat_lt.mp (of_decide_eq_true h)
          by_cases hf : a.isFavorite = true
          · have hbf : before.isFavorite = true := by
              by_contra hbf
              exact hno ⟨hf, hbf⟩
            rw [if_pos hf, if_pos hbf]
            omega
          · have hbf : ¬ before.isFavorite = true := fun hbf => hyes ⟨hf, hbf⟩
            rw [if_neg hf, if_neg hbf]
            omega

theorem sum_rank_perm {l' : List NodeInfoLite} (h : l'.Perm l) : (l'.map (rank c)).sum = (l.map (rank c)).sum :=
  (h.map (rank c)).sum_nat

/-- A pass that swaps lessens the disorder, and one that does not leaves the list as it is. -/
theorem sortPass_disorder (c : Settings) (l : List NodeInfoLite) :
    (sortPass c l).2 = true ∧ disorder c (sortPass c l).1 < disorder c l ∨
      (sortPass c l).2 = false ∧ (sortPass c l).1 = l := by
  induction l with
  | nil => exact .inr ⟨rfl, rfl⟩
  | cons before rest ih =>
    have hperm := sortPass_perm c rest
    unfold sortPass
    rcases hrest : sortPass c rest with ⟨_ | ⟨a, rest'⟩, changed⟩
    · rw [hrest] at ih hperm
      rw [List.nil_perm.mp hperm] at ih ⊢
      exact ih.imp (fun h => ⟨h.1, absurd h.2 (lt_irrefl _)⟩) fun h => ⟨h.1, rfl⟩
    · rw [hrest] at ih hperm
      have hsum := sum_rank_perm (c := c) hperm
      simp only [List.map_cons, List.sum_cons] at hsum
      dsimp only at ih ⊢
      split
      · rename_i hswap
        have hrank := rank_lt_of_goesBefore hswap
        refine .inl ⟨rfl, ?_⟩
        simp only [disorder, List.map_cons, List.sum_cons]
        rcases ih with ⟨-, hless⟩ | ⟨-, hsame⟩
        · simp only [disorder] at hless
          omega
        · rw [← hsame] at hsum ⊢
          simp only [disorder, List.map_cons, List.sum_cons]
          omega
      · rcases ih with ⟨hchanged, hless⟩ | ⟨hchanged, hsame⟩
        · refine .inl ⟨hchanged, ?_⟩
          simp only [disorder, List.map_cons, List.sum_cons] at hless ⊢
          omega
        · exact .inr ⟨hchanged, by rw [hsame]⟩

/-- The loop ends with a pass that swaps nothing. -/
theorem sortLoop_ends (fuel : ℕ) (h : disorder c l < fuel) :
    sortPass c (sortLoop c fuel l) = (sortLoop c fuel l, false) := by
  induction fuel generalizing l with
  | zero => exact absurd h (Nat.not_lt_zero _)
  | succ fuel ih =>
    unfold sortLoop
    dsimp only
    rcases sortPass_disorder c l with ⟨hchanged, hless⟩ | ⟨hchanged, hsame⟩
    · rw [if_pos hchanged]
      exact ih (by omega)
    · rw [if_neg (by rw [hchanged]; exact Bool.false_ne_true), hsame]
      exact Prod.ext hsame hchanged

theorem Sound.within (h : Sound db) : db.within = .ok () := if_pos h.bounded

/-- Nodes in another order are as sound as before. -/
theorem Sound.perm (h : Sound db) (hp : db'.nodes.Perm db.nodes) (hmax : db'.maxNumNodes = db.maxNumNodes) :
    Sound db' := by
  refine ⟨?_, h.numbered.perm hp⟩
  rw [hmax, ← Slots.length_entries (t := db'.meshNodes)]
  exact hp.length_eq.trans_le (Slots.length_entries.trans_le h.bounded)

theorem sortMeshDB_total (c : Settings) (m : Moment) (h : Sound db) :
    Total (db.sortMeshDB c m) fun db' => Sound db' ∧ db'.nodes.Perm db.nodes := by
  unfold sortMeshDB
  split
  · rw [h.within]
    have hperm (fuel : ℕ) : (nodes { db with
        lastSort := m.millis
        meshNodes := db.meshNodes.refill (sortLoop c fuel db.meshNodes.entries) }).Perm db.nodes := by
      unfold nodes
      rw [Slots.entries_refill]
      exact sortLoop_perm fuel
    exact .ok ⟨h.perm (hperm _) rfl, hperm _⟩
  · exact .ok ⟨h, .refl _⟩

/-! ### Nodes that are asked for -/

theorem getMeshNode_sound (h : Sound db) (n : UInt32) :
    (∃ i, db.getMeshNode n = .ok (some i) ∧ i < db.meshNodes.count ∧ (db.meshNodes.slot i).num = n) ∨
      db.getMeshNode n = .ok none ∧ ∀ a ∈ db.nodes, a.num ≠ n := by
  unfold getMeshNode
  cases hf : db.meshNodes.find fun lite => lite.num = n with
  | some i =>
    obtain ⟨hi, hp, -⟩ := Slots.find_eq_some.mp hf
    refine .inl ⟨i, ?_, hi, of_decide_eq_true hp⟩
    dsimp only
    rw [if_pos (Nat.lt_of_lt_of_le hi h.bounded)]
  | none =>
    refine .inr ⟨?_, fun a ha hn => Slots.find_eq_none_iff_entries.mp hf a ha (decide_eq_true hn)⟩
    dsimp only
    rw [h.within]
    rfl

/-- What the scan finds among the entries from 1 to `k`. -/
theorem oldest_spec (t : Slots NodeInfoLite) (p : NodeInfoLite → Bool) (k : ℕ) :
    (∃ i, oldest t p k = (some i, (t.slot i).lastHeard) ∧ 0 < i ∧ i ≤ k ∧ p (t.slot i) = true ∧
      (t.slot i).lastHeard < 0xFFFFFFFF ∧ ∀ j, 0 < j → j ≤ k → p (t.slot j) = true →
        (t.slot i).lastHeard < (t.slot j).lastHeard ∨ (t.slot i).lastHeard = (t.slot j).lastHeard ∧ i ≤ j) ∨
      oldest t p k = (none, 0xFFFFFFFF) ∧
        ∀ j, 0 < j → j ≤ k → p (t.slot j) = true → ¬ (t.slot j).lastHeard < 0xFFFFFFFF := by
  induction k with
  | zero => exact .inr ⟨rfl, fun j hj hle => absurd hle (by omega)⟩
  | succ k ih =>
    unfold oldest
    dsimp only
    rcases ih with ⟨i, heq, hpos, hle, hp, hlimit, hleast⟩ | ⟨heq, hnone⟩
    · rw [heq]
      dsimp only
      by_cases hk : p (t.slot (k + 1)) = true ∧ (t.slot (k + 1)).lastHeard < (t.slot i).lastHeard
      · rw [if_pos hk]
        refine .inl ⟨k + 1, rfl, Nat.succ_pos k, Nat.le_refl _, hk.1, ?_, fun j hj hjk hpj => ?_⟩
        · exact UInt32.lt_trans hk.2 hlimit
        · rcases Nat.lt_or_ge k j with hlast | hbefore
          · obtain rfl : j = k + 1 := by omega
            exact .inr ⟨rfl, Nat.le_refl _⟩
          · rcases hleast j hj hbefore hpj with hless | ⟨hsame, -⟩
            · exact .inl (UInt32.lt_trans hk.2 hless)
            · exact .inl (hsame ▸ hk.2)
      · rw [if_neg hk]
        refine .inl ⟨i, rfl, hpos, Nat.le_succ_of_le hle, hp, hlimit, fun j hj hjk hpj => ?_⟩
        rcases Nat.lt_or_ge k j with hlast | hbefore
        · obtain rfl : j = k + 1 := by omega
          have hnot : ¬ (t.slot (k + 1)).lastHeard < (t.slot i).lastHeard := fun hless => hk ⟨hpj, hless⟩
          rcases UInt32.lt_or_eq_of_le (UInt32.not_lt.mp hnot) with hless | hsame
          · exact .inl hless
          · exact .inr ⟨hsame, by omega⟩
        · exact hleast j hj hbefore hpj
    · rw [heq]
      dsimp only
      by_cases hk : p (t.slot (k + 1)) = true ∧ (t.slot (k + 1)).lastHeard < 0xFFFFFFFF
      · rw [if_pos hk]
        refine .inl ⟨k + 1, rfl, Nat.succ_pos k, Nat.le_refl _, hk.1, hk.2, fun j hj hjk hpj => ?_⟩
        rcases Nat.lt_or_ge k j with hlast | hbefore
        · obtain rfl : j = k + 1 := by omega
          exact .inr ⟨rfl, Nat.le_refl _⟩
        · have hlate := UInt32.not_lt.mp (hnone j hj hbefore hpj)
          exact .inl (UInt32.lt_of_lt_of_le hk.2 hlate)
      · rw [if_neg hk]
        refine .inr ⟨rfl, fun j hj hjk hpj => ?_⟩
        rcases Nat.lt_or_ge k j with hlast | hbefore
        · obtain rfl : j = k + 1 := by omega
          exact fun hless => hk ⟨hpj, hless⟩
        · exact hnone j hj hbefore hpj

/-- The scan of the whole table. -/
theorem oldest_cases (t : Slots NodeInfoLite) (p : NodeInfoLite → Bool) :
    (∃ i, (oldest t p (t.count - 1)).1 = some i ∧ i < t.count ∧ Oldest t p i) ∨
      (oldest t p (t.count - 1)).1 = none ∧ ∀ i, i < t.count → ¬ Oldest t p i := by
  rcases oldest_spec t p (t.count - 1) with ⟨i, heq, hpos, hle, hp, hlimit, hleast⟩ | ⟨heq, hnone⟩
  · rw [heq]
    exact .inl ⟨i, rfl, by omega, hpos, hp, hlimit, fun j hj hj0 hpj => hleast j hj0 (by omega) hpj⟩
  · rw [heq]
    exact .inr ⟨rfl, fun i hi ho => hnone i ho.1 (by omega) ho.2.1 ho.2.2.1⟩

/-- Who has to go: the oldest boring node, or else the oldest that is not protected. -/
theorem victim_cases (t : Slots NodeInfoLite) :
    (∃ i, victim t = some i ∧ i < t.count ∧ (Oldest t boring i ∨
      Oldest t plain i ∧ ∀ j, j < t.count → ¬ Oldest t boring j)) ∨
      victim t = none ∧ (∀ i, i < t.count → ¬ Oldest t boring i) ∧ ∀ i, i < t.count → ¬ Oldest t plain i := by
  unfold victim
  rcases oldest_cases t boring with ⟨i, heq, hi, ho⟩ | ⟨heq, hnone⟩
  · rw [heq]
    exact .inl ⟨i, rfl, hi, .inl ho⟩
  · rw [heq]
    rcases oldest_cases t plain with ⟨i, heq', hi, ho⟩ | ⟨heq', hnone'⟩
    · rw [heq']
      exact .inl ⟨i, rfl, hi, .inr ⟨ho, hnone⟩⟩
    · rw [heq']
      exact .inr ⟨rfl, hnone, hnone'⟩

/-- The table `t` with a new node at its end. -/
def withNew (db : NodeDB) (n : UInt32) (t : Slots NodeInfoLite) : NodeDB :=
  { db with meshNodes := t.grow.put t.count { blank with num := n } }

theorem nodes_withNew (db : NodeDB) (n : UInt32) (t : Slots NodeInfoLite) :
    (db.withNew n t).nodes = t.entries ++ [{ blank with num := n }] := Slots.entries_grow_put

/-- A new node is asked for, and those of `evicted` went. -/
theorem withNew_requested {evicted : List NodeInfoLite} (h : Sound db) (hn : n ≠ 0)
    (hnew : ∀ a ∈ db.nodes, a.num ≠ n) (ht : t.count < db.maxNumNodes) (hsub : t.entries.Sublist db.nodes)
    (hperm : (t.entries ++ evicted).Perm db.nodes)
    (hevicted : evicted = [] ∨ ∃ old, evicted = [old] ∧ db.isFull m = true ∧ (∀ a ∈ db.nodes, a.num ≠ n) ∧
      plain old = true ∧ old.num ≠ c.nodeNum) :
    Sound (db.withNew n t) ∧ Requested c m n db (db.withNew n t) := by
  have hrest : ∀ a ∈ t.entries, a.num ≠ n := fun a ha => hnew a (hsub.subset ha)
  have hothers : others n (db.withNew n t).nodes = t.entries := by
    rw [nodes_withNew]
    unfold others
    rw [List.filter_append, List.filter_cons_of_neg (by simp), List.filter_nil, List.append_nil]
    exact others_eq_self hrest
  refine ⟨⟨ht, ?_⟩, ⟨{ blank with num := n }, ?_, rfl⟩, evicted, ?_, hevicted⟩
  · rw [nodes_withNew]
    exact (h.numbered.sublist hsub).concat hn hrest
  · rw [nodes_withNew]
    exact List.mem_append_right _ (List.mem_singleton_self _)
  · rw [hothers, others_eq_self hnew]
    exact hperm

/-- The one who has to go is not protected. -/
theorem Yields.victim (h : Yields c db) (hi : i < db.meshNodes.count)
    (ho : Oldest db.meshNodes boring i ∨
      Oldest db.meshNodes plain i ∧ ∀ j, j < db.meshNodes.count → ¬ Oldest db.meshNodes boring j) :
    plain (db.meshNodes.slot i) = true ∧ (db.meshNodes.slot i).num ≠ c.nodeNum := by
  rcases ho with ho | ⟨ho, hnone⟩
  · obtain ⟨hverified, hown⟩ := h.1 i hi ho
    have hboring := ho.2.1
    unfold boring at hboring
    unfold plain
    rw [hverified]
    rw [(Bool.and_eq_true_iff.mp hboring).1]
    exact ⟨rfl, hown⟩
  · exact ⟨ho.2.1, h.2.1 hnone i hi ho⟩

theorem getOrCreateMeshNode_total (h : Sound db) (ha : Admits c m n db) :
    Total (db.getOrCreateMeshNode m n) fun r => Sound r.1 ∧ Requested c m n db r.1 ∧
      r.2 < r.1.meshNodes.count ∧ (r.1.meshNodes.slot r.2).num = n := by
  unfold getOrCreateMeshNode
  rcases getMeshNode_sound h n with ⟨i, heq, hi, hnum⟩ | ⟨heq, hnew⟩
  · rw [heq]
    have hmem : db.meshNodes.slot i ∈ db.nodes := Slots.mem_entries.mpr ⟨i, hi, rfl⟩
    exact .ok ⟨h, ⟨⟨_, hmem, hnum⟩, [], by rw [List.append_nil], .inl rfl⟩, hi, hnum⟩
  · rw [heq, bind_ok]
    dsimp only
    -- the new node goes behind `t`, which is the table without the one who had to go
    suffices hroom : ∃ evicted : List NodeInfoLite,
        (if db.isFull m then evict db.meshNodes else db.meshNodes).count < db.maxNumNodes ∧
        (if db.isFull m then evict db.meshNodes else db.meshNodes).entries.Sublist db.nodes ∧
        ((if db.isFull m then evict db.meshNodes else db.meshNodes).entries ++ evicted).Perm db.nodes ∧
        (evicted = [] ∨ ∃ old, evicted = [old] ∧ db.isFull m = true ∧ (∀ a ∈ db.nodes, a.num ≠ n) ∧
          plain old = true ∧ old.num ≠ c.nodeNum) by
      generalize (if db.isFull m then evict db.meshNodes else db.meshNodes) = t at hroom ⊢
      obtain ⟨evicted, hcount, hsub, hperm, hevicted⟩ := hroom
      obtain ⟨hsound, hrequested⟩ := withNew_requested h ha.1 hnew hcount hsub hperm hevicted
      rw [if_pos hcount]
      refine .ok ⟨hsound, hrequested, Nat.lt_succ_self _, ?_⟩
      show ((t.grow.put t.count { blank with num := n }).slot t.count).num = n
      rw [Slots.slot_put_self]
    by_cases hfull : db.isFull m = true
    · rw [if_pos hfull]
      have hyields := ha.2 hnew hfull
      unfold evict
      rcases victim_cases db.meshNodes with ⟨i, hv, hi, ho⟩ | ⟨hv, hnone, hnone'⟩
      · rw [hv]
        dsimp only
        have hlt : i < db.meshNodes.entries.length := by rwa [Slots.length_entries]
        obtain ⟨hplain, hown⟩ := hyields.victim hi ho
        refine ⟨[db.meshNodes.slot i], ?_, ?_, ?_, .inr ⟨_, rfl, hfull, hnew, hplain, hown⟩⟩
        · show db.meshNodes.count - 1 < db.maxNumNodes
          have hbounded := h.bounded
          omega
        · rw [Slots.entries_remove hi]
          exact List.eraseIdx_sublist ..
        · rw [Slots.entries_remove hi, ← Slots.getElem_entries hlt]
          exact List.perm_append_comm.trans (List.getElem_cons_eraseIdx_perm hlt)
      · rw [hv]
        dsimp only
        refine ⟨[], ?_, List.Sublist.refl _, by rw [List.append_nil]; exact .refl _, .inl rfl⟩
        refine Nat.lt_of_le_of_ne h.bounded fun hsame => ?_
        obtain ⟨i, hi, ho | ho⟩ := hyields.2.2 hsame
        · exact hnone i hi ho
        · exact hnone' i hi ho
    · rw [if_neg hfull]
      refine ⟨[], ?_, List.Sublist.refl _, by rw [List.append_nil]; exact .refl _, .inl rfl⟩
      unfold isFull at hfull
      by_contra hno
      exact hfull (by rw [decide_eq_true (Nat.not_lt.mp hno), Bool.true_or])

/-- A node changes but keeps its number. -/
theorem change_nodes (f : NodeInfoLite → NodeInfoLite) :
    (db.change i f).nodes = db.nodes.set i (f (db.meshNodes.slot i)) := Slots.entries_put

theorem getElem_nodes (h : i < db.nodes.length) : db.nodes[i] = db.meshNodes.slot i := Slots.getElem_entries h

theorem lt_length_nodes (h : i < db.meshNodes.count) : i < db.nodes.length :=
  h.trans_eq Slots.length_entries.symm

theorem Sound.change {f : NodeInfoLite → NodeInfoLite} (h : Sound db) (hi : i < db.meshNodes.count)
    (hf : (f (db.meshNodes.slot i)).num = (db.meshNodes.slot i).num) : Sound (db.change i f) := by
  refine ⟨h.bounded, ?_⟩
  rw [change_nodes]
  refine h.numbered.set (lt_length_nodes hi) ?_
  rw [hf, getElem_nodes]

theorem Requested.change {f : NodeInfoLite → NodeInfoLite} (h : Requested c m n db db')
    (hi : i < db'.meshNodes.count) (hn : (db'.meshNodes.slot i).num = n)
    (hf : (f (db'.meshNodes.slot i)).num = n) : Requested c m n db (db'.change i f) := by
  have hlt : i < db'.nodes.length := lt_length_nodes hi
  obtain ⟨-, evicted, hperm, hevicted⟩ := h
  refine ⟨⟨_, ?_, hf⟩, evicted, ?_, hevicted⟩
  · rw [change_nodes]
    exact List.mem_set hlt _
  · rw [change_nodes, others_set hlt (by rw [getElem_nodes, hn]) hf]
    exact hperm

theorem Requested.perm {db'' : NodeDB} (h : Requested c m n db db') (hp : db''.nodes.Perm db'.nodes) :
    Requested c m n db db'' := by
  obtain ⟨⟨a, ha, hn⟩, evicted, hperm, hevicted⟩ := h
  exact ⟨⟨a, hp.mem_iff.mpr ha, hn⟩, evicted, ((hp.filter _).append_right evicted).trans hperm, hevicted⟩

/-- A node that was asked for changes, and the table may be sorted after it. -/
theorem requested_changed {f : NodeInfoLite → NodeInfoLite} {r : NodeDB × ℕ}
    (hr : Sound r.1 ∧ Requested c m n db r.1 ∧ r.2 < r.1.meshNodes.count ∧ (r.1.meshNodes.slot r.2).num = n)
    (hf : ∀ a : NodeInfoLite, a.num = n → (f a).num = n) :
    Sound (r.1.change r.2 f) ∧ Requested c m n db (r.1.change r.2 f) := by
  obtain ⟨hsound, hrequested, hi, hn⟩ := hr
  exact ⟨hsound.change hi ((hf _ hn).trans hn.symm), hrequested.change hi hn (hf _ hn)⟩

theorem requested_sorted (h : Sound db' ∧ Requested c m n db db') :
    Total (db'.sortMeshDB c m) fun db'' => Sound db'' ∧ Requested c m n db db'' :=
  (sortMeshDB_total c m h.1).mono fun _ hs => ⟨hs.1, h.2.perm hs.2⟩

theorem updateUser_total {key : List UInt8} (h : Sound db) (ha : Admits c m n db) :
    Total (db.updateUser c m n key) fun db' => Sound db' ∧ Requested c m n db db' := by
  unfold updateUser
  refine (getOrCreateMeshNode_total h ha).bind fun r hr => ?_
  dsimp only
  split
  · exact .ok (requested_changed hr fun _ hn => hn)
  · exact .ok ⟨hr.1, hr.2.1⟩

theorem updatePosition_total (h : Sound db) (ha : Admits c m n db) :
    Total (db.updatePosition m n) fun db' => Sound db' ∧ Requested c m n db db' :=
  (getOrCreateMeshNode_total h ha).map fun _ hr => ⟨hr.1, hr.2.1⟩

theorem updateFrom_total {rxTime : UInt32} {decoded : Bool} (h : Sound db)
    (ha : n ≠ c.nodeNum ∧ decoded = true ∧ n ≠ 0 → Admits c m n db) :
    Total (db.updateFrom c m n rxTime decoded) fun db' => Sound db' ∧
      if n ≠ c.nodeNum ∧ decoded = true ∧ n ≠ 0 then Requested c m n db db' else db' = db := by
  unfold updateFrom
  by_cases hown : n = c.nodeNum
  · rw [if_pos hown]
    refine .ok ⟨h, ?_⟩
    rw [if_neg fun hc => hc.1 hown]
  · rw [if_neg hown]
    by_cases hread : decoded = true ∧ n ≠ 0
    · rw [if_pos hread]
      refine (getOrCreateMeshNode_total h (ha ⟨hown, hread⟩)).bind fun r hr => ?_
      dsimp only
      have hkeeps : ∀ a : NodeInfoLite, a.num = n →
          (if rxTime ≠ 0 then { a with lastHeard := rxTime } else a).num = n := fun a hn => by
        split
        · exact hn
        · exact hn
      refine (requested_sorted (requested_changed hr hkeeps)).mono fun db'' hs => ⟨hs.1, ?_⟩
      rw [if_pos ⟨hown, hread⟩]
      exact hs.2
    · rw [if_neg hread]
      refine .ok ⟨h, ?_⟩
      rw [if_neg fun hc => hread hc.2]

theorem ofContact_num (c : Settings) (m : Moment) (contact : SharedContact) (info : NodeInfoLite) :
    (ofContact c m contact info).num = contact.nodeNum := by
  unfold ofContact
  dsimp only
  split
  · rfl
  · split <;> split <;> rfl

theorem addFromContact_total {contact : SharedContact} (h : Sound db) (ha : Admits c m contact.nodeNum db) :
    Total (db.addFromContact c m contact) fun db' => Sound db' ∧ Requested c m contact.nodeNum db db' := by
  unfold addFromContact
  refine (getOrCreateMeshNode_total h ha).bind fun r hr => ?_
  have hchanged := requested_changed hr fun a _ => ofContact_num c m contact a
  dsimp only
  split
  · exact .ok ⟨hr.1, hr.2.1⟩
  · split
    · exact .ok ⟨hr.1, hr.2.1⟩
    · split
      · exact .ok hchanged
      · exact requested_sorted hchanged

/-! ### Favourites -/

/-- The node with a number is the only one that changes. -/
theorem Numbered.map_eq_set {f : NodeInfoLite → NodeInfoLite} (h : Numbered l) (hi : i < l.length)
    (hn : l[i].num = n) : (l.map fun a => if a.num = n then f a else a) = l.set i (f l[i]) := by
  apply List.ext_getElem
  · rw [List.length_map, List.length_set]
  · intro j hj hj'
    rw [List.length_map] at hj
    rw [List.getElem_map, List.getElem_set]
    by_cases hij : i = j
    · subst hij
      rw [if_pos hn, if_pos rfl]
    · rw [if_neg hij, if_neg]
      intro hjn
      have hi' : i < (l.map NodeInfoLite.num).length := by rwa [List.length_map]
      have hj' : j < (l.map NodeInfoLite.num).length := by rwa [List.length_map]
      have hsame : (l.map NodeInfoLite.num)[i] = (l.map NodeInfoLite.num)[j] := by
        rw [List.getElem_map, List.getElem_map, hn, hjn]
      exact hij (h.1.getElem_inj_iff.mp hsame)

theorem map_eq_self {f : NodeInfoLite → NodeInfoLite} (h : ∀ a ∈ l, a.num = n → f a = a) :
    (l.map fun a => if a.num = n then f a else a) = l := by
  conv_rhs => rw [← List.map_id l]
  refine List.map_congr_left fun a ha => ?_
  split
  · rename_i hn
    exact h a ha hn
  · rfl

theorem setFavorite_total {isFavorite : Bool} (h : Sound db) :
    Total (db.setFavorite c m isFavorite n) fun db' => Sound db' ∧ db'.nodes.Perm
      (db.nodes.map fun a => if a.num = n then { a with isFavorite := isFavorite } else a) := by
  unfold setFavorite
  rcases getMeshNode_sound h n with ⟨i, heq, hi, hn⟩ | ⟨heq, hnone⟩
  · rw [heq, bind_ok]
    dsimp only
    have hlt := lt_length_nodes hi
    have hset := h.numbered.map_eq_set (f := fun a => { a with isFavorite := isFavorite }) hlt
      (by rw [getElem_nodes, hn])
    rw [getElem_nodes] at hset
    rw [hset]
    split
    · rename_i hdiffers
      have hchanged : Sound (db.change i fun info => { info with isFavorite := isFavorite }) := h.change hi rfl
      refine (sortMeshDB_total c m hchanged).mono fun db'' hs => ⟨hs.1, ?_⟩
      rw [change_nodes] at hs
      exact hs.2
    · rename_i hsame
      refine .ok ⟨h, ?_⟩
      have hself : ({ db.meshNodes.slot i with isFavorite := (db.meshNodes.slot i).isFavorite } : NodeInfoLite) =
          db.nodes[i] := (getElem_nodes hlt).symm
      rw [← not_not.mp hsame, hself, List.set_getElem_self]
  · rw [heq, bind_ok]
    refine .ok ⟨h, ?_⟩
    rw [map_eq_self fun a ha hn => absurd hn (hnone a ha)]

/-! ### Nodes that go -/

theorem removeNodeByNum_total (h : Sound db)
    (hroom : db.meshNodes.count < db.maxNumNodes ∨ ∃ a ∈ db.nodes, a.num = n) :
    Total (db.removeNodeByNum n) fun db' => Sound db' ∧ db'.nodes = others n db.nodes := by
  unfold removeNodeByNum
  rw [h.within, bind_ok]
  dsimp only
  generalize ht : db.meshNodes.packed (fun lite => lite.num ≠ n) id = t
  have hentries : t.entries = others n db.nodes := by
    rw [← ht, Slots.entries_packed, List.map_id]
    rfl
  have hcount : t.count < db.maxNumNodes := by
    have hbounded := h.bounded
    rcases hroom with hroom | ⟨a, ha, hn⟩
    · have hle : t.count ≤ db.meshNodes.count := by
        rw [← ht]
        exact Slots.count_packed
      omega
    · have hless : (others n db.nodes).length < db.nodes.length :=
        List.length_filter_lt_length_iff_exists.mpr ⟨a, ha, by simp [hn]⟩
      rw [← hentries, Slots.length_entries] at hless
      exact hless.trans_le (Slots.length_entries.trans_le hbounded)
  rw [if_pos hcount]
  have hnodes : (t.put t.count blank).entries = others n db.nodes := by
    rw [Slots.entries_put, List.set_eq_of_length_le Slots.length_entries.le, hentries]
  refine .ok ⟨⟨hcount.le, ?_⟩, hnodes⟩
  rw [show nodes { db with meshNodes := t.put t.count blank } = others n db.nodes from hnodes]
  exact h.numbered.sublist List.filter_sublist

theorem clearZeroKey_num (a : NodeInfoLite) : (clearZeroKey a).num = a.num := by
  unfold clearZeroKey
  split <;> rfl

theorem cleanupMeshDB_total (h : Sound db) :
    Total db.cleanupMeshDB fun db' => Sound db' ∧
      db'.nodes = (db.nodes.filter NodeInfoLite.hasUser).map clearZeroKey := by
  unfold cleanupMeshDB
  rw [h.within, bind_ok]
  dsimp only
  generalize ht : db.meshNodes.packed NodeInfoLite.hasUser clearZeroKey = t
  have hcount : t.count ≤ db.meshNodes.count := by
    rw [← ht]
    exact Slots.count_packed
  have hnodes : Slots.entries { t with
      slot := fun i => if t.count ≤ i ∧ i < db.meshNodes.count then blank else t.slot i } =
        (db.nodes.filter NodeInfoLite.hasUser).map clearZeroKey := by
    have hentries : t.entries = (db.nodes.filter NodeInfoLite.hasUser).map clearZeroKey := by
      rw [← ht, Slots.entries_packed]
      rfl
    rw [← hentries]
    refine List.map_congr_left fun i hi => if_neg fun hc => ?_
    exact absurd (List.mem_range.mp hi) (Nat.not_lt.mpr hc.1)
  refine .ok ⟨⟨hcount.trans h.bounded, ?_⟩, hnodes⟩
  unfold nodes
  dsimp only
  rw [hnodes]
  exact (h.numbered.sublist List.filter_sublist).map clearZeroKey_num

/-- Our own node is the first, and there is no other with its number. -/
theorem own_first (h : Sound db) (hpos : 0 < db.meshNodes.count)
    (hown : (db.meshNodes.slot 0).num = c.nodeNum) :
    db.nodes.filter (·.num = c.nodeNum) = [db.meshNodes.slot 0] := by
  obtain ⟨k, hk⟩ := Nat.exists_eq_add_one.mpr hpos
  have hnodes : db.nodes = db.meshNodes.slot 0 :: ((List.range k).map Nat.succ).map db.meshNodes.slot := by
    unfold nodes Slots.entries
    rw [hk, List.range_succ_eq_map, List.map_cons]
  have hnum := h.numbered.1
  rw [hnodes, List.map_cons, List.nodup_cons] at hnum
  rw [hnodes, List.filter_cons, if_pos (decide_eq_true hown), List.filter_eq_nil_iff.mpr]
  intro a ha hsame
  exact hnum.1 (List.mem_map.mpr ⟨a, ha, (of_decide_eq_true hsame).trans hown.symm⟩)

theorem resetNodes_total (h : Sound db) (hpos : 0 < db.meshNodes.count)
    (hown : (db.meshNodes.slot 0).num = c.nodeNum) :
    Total (db.resetNodes c false) fun db' => Sound db' ∧ db'.nodes = db.nodes.filter (·.num = c.nodeNum) := by
  have hclear : db.clearLocalPosition c = .ok () := by
    unfold clearLocalPosition
    rcases getMeshNode_sound h c.nodeNum with ⟨i, heq, -, -⟩ | ⟨-, hnone⟩
    · rw [heq]
      rfl
    · exact absurd hown (hnone _ (Slots.mem_entries.mpr ⟨0, hpos, rfl⟩))
  have hroom : ¬ db.maxNumNodes < 1 := by
    have hbounded := h.bounded
    omega
  have hfilter := own_first h hpos hown
  have hnodes : Slots.entries (⟨fun i => if 1 ≤ i ∧ i < db.maxNumNodes then blank else db.meshNodes.slot i, 1⟩ :
      Slots NodeInfoLite) = db.nodes.filter (·.num = c.nodeNum) := by
    rw [hfilter]
    rfl
  unfold resetNodes
  rw [hclear, ite_self, bind_ok, if_neg Bool.false_ne_true, if_neg hroom]
  refine .ok ⟨⟨Nat.not_lt.mp hroom, ?_⟩, hnodes⟩
  unfold nodes
  dsimp only
  rw [hnodes]
  exact h.numbered.sublist List.filter_sublist

/-- The loop that keeps the favourites counts the first entry and them, after a count of one. -/
theorem count_keepFavorites (db : NodeDB) : (db.keepFavorites db.meshNodes).count =
    1 + ((List.range db.maxNumNodes).filter fun i => i = 0 ∨ (db.meshNodes.slot i).isFavorite).length := by
  suffices h : ∀ k, ∀ t : Slots NodeInfoLite, t = (List.range k).foldl
      (fun t i => if 0 < i ∧ ¬ (t.slot i).isFavorite then t.put i blank else t.grow)
        { db.meshNodes with count := 1 } →
      (∀ i, k ≤ i → t.slot i = db.meshNodes.slot i) ∧
        t.count = 1 + ((List.range k).filter fun i => i = 0 ∨ (db.meshNodes.slot i).isFavorite).length from
    (h db.maxNumNodes _ rfl).2
  intro k
  induction k with
  | zero =>
    rintro t rfl
    exact ⟨fun _ _ => rfl, rfl⟩
  | succ k ih =>
    rintro t ht
    rw [List.range_succ, List.foldl_append, List.foldl_cons, List.foldl_nil] at ht
    obtain ⟨hslot, hcount⟩ := ih _ rfl
    generalize (List.range k).foldl _ _ = u at ht hslot hcount
    rw [hslot k (Nat.le_refl k)] at ht
    rw [List.range_succ, List.filter_append, List.length_append, ← Nat.add_assoc, ← hcount]
    by_cases hk : 0 < k ∧ ¬ (db.meshNodes.slot k).isFavorite
    · rw [if_pos hk] at ht
      subst ht
      refine ⟨fun i hi => ?_, ?_⟩
      · rw [Slots.slot_put_of_ne (by omega)]
        exact hslot i (by omega)
      · have hgo : ¬ decide (k = 0 ∨ (db.meshNodes.slot k).isFavorite = true) = true := fun hkeep =>
          (of_decide_eq_true hkeep).elim (Nat.ne_of_gt hk.1) hk.2
        rw [List.filter_cons, if_neg hgo]
        rfl
    · rw [if_neg hk] at ht
      subst ht
      refine ⟨fun i hi => hslot i (by omega), ?_⟩
      have hkeep : k = 0 ∨ (db.meshNodes.slot k).isFavorite = true := by
        by_contra hno
        exact hk ⟨by omega, fun hf => hno (.inr hf)⟩
      rw [List.filter_cons, if_pos (decide_eq_true hkeep)]
      rfl

/-- A reset that keeps the favourites never leaves exactly them and our own node: it counts one entry more. -/
theorem resetNodes_keepFavorites_unfair (h : Sound db) (hpos : 0 < db.meshNodes.count)
    (hown : (db.meshNodes.slot 0).num = c.nodeNum) : ¬ Fair c db (.resetNodes true) := by
  rintro ⟨db', hstep, hsound, heffect⟩
  have hnodes : db'.meshNodes = db.keepFavorites db.meshNodes := by
    obtain ⟨-, -, hstep⟩ := bind_eq_ok.mp hstep
    rw [if_pos rfl] at hstep
    cases hstep
    rfl
  have hlength := heffect.length_eq
  rw [show db'.nodes.length = _ from Slots.length_entries, hnodes, count_keepFavorites] at hlength
  have hkept : (db.nodes.filter fun a => a.num = c.nodeNum || a.isFavorite).length =
      ((List.range db.meshNodes.count).filter fun i => i = 0 ∨ (db.meshNodes.slot i).isFavorite).length := by
    unfold nodes Slots.entries
    rw [List.filter_map, List.length_map]
    refine congrArg List.length (List.filter_congr fun i hi => ?_)
    have hfirst : (db.meshNodes.slot i).num = c.nodeNum ↔ i = 0 := by
      rw [← hown]
      have hdistinct : db.meshNodes.Distinct NodeInfoLite.num := h.numbered.1
      exact ⟨hdistinct.eq (List.mem_range.mp hi) hpos, fun h0 => h0 ▸ rfl⟩
    simp [hfirst]
  have hsub : (List.range db.meshNodes.count).Sublist (List.range db.maxNumNodes) :=
    List.range_sublist.mpr h.bounded
  have hle := (hsub.filter fun i => decide (i = 0 ∨ (db.meshNodes.slot i).isFavorite = true)).length_le
  omega

/-! ### Runs -/

theorem step_fair {e : Event} (h : Sound db) (he : spares c db e) : Fair c db e := by
  cases e with
  | updateFrom m from' rxTime decoded => exact updateFrom_total h he
  | updateUser m nodeId key => exact updateUser_total h he
  | updatePosition m nodeId => exact updatePosition_total h he
  | addFromContact m contact => exact addFromContact_total h he
  | setFavorite m isFavorite nodeId => exact setFavorite_total h
  | pauseSort paused => exact .ok ⟨⟨h.bounded, h.numbered⟩, .refl _⟩
  | sortMeshDB m => exact sortMeshDB_total c m h
  | removeNodeByNum nodeNum => exact removeNodeByNum_total h he
  | cleanupMeshDB => exact cleanupMeshDB_total h
  | resetNodes keepFavorites =>
    obtain ⟨rfl, hpos, hown⟩ := he
    exact resetNodes_total h hpos hown

/-- Along a run the table stays bounded, and what is protected stays in it. -/
theorem nodeDB_fair {es : List Event} (h : Sound db) (hes : Along (step c) (spares c) db es) :
    Along (step c) (Fair c) db es :=
  hes.trade (P := Sound) (fun _ _ hs he => ⟨(step_fair hs he).mono fun _ ht => ht.1, step_fair hs he⟩) h

def me : Settings := ⟨7, [], true, false⟩

/-- Our own node in a table with room for three. -/
def alone : NodeDB :=
  { meshNodes := ⟨fun _ => { blank with num := 7, hasUser := true }, 1⟩, maxNumNodes := 3, lastSort := 0
    sortingIsPaused := false }

theorem alone_sound : Sound alone := ⟨by decide, by decide, by decide⟩

def moment (millis : UInt32) : Moment := ⟨millis, millis, false⟩

theorem nodeDB_fair_busy :
    Along (step me) (Fair me) alone [.updateFrom (moment 10) 8 100 true, .setFavorite (moment 6000) true 8,
      .updateUser (moment 7000) 9 [], .updatePosition (moment 8000) 10,
      .addFromContact (moment 9000) ⟨10, true, false, true, [1]⟩,
      .removeNodeByNum 8, .cleanupMeshDB, .sortMeshDB (moment 20000), .resetNodes false] :=
  nodeDB_fair alone_sound (along_of_decide (by decide +kernel))

/-- A reset that should keep our own node counts an empty entry too. -/
theorem reset_countsOneMore :
    ¬ ∀ (c : Settings) (db : NodeDB) (es : List Event), Sound db → Along (step c) (Fair c) db es := by
  intro hall
  have hreset := (hall me alone [.resetNodes true] alone_sound).1
  exact resetNodes_keepFavorites_unfair alone_sound (by decide) rfl hreset

end MonsterMesh.NodeDB

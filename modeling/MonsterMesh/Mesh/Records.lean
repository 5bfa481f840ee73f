import Mathlib.Data.List.Nodup
import Mathlib.Order.Nat
import MonsterMesh.Mesh.History

/-! The records of the history: which slot a record goes to, and what is found afterwards. -/
namespace MonsterMesh

open PacketRecord

abbrev PacketKey := UInt32 × UInt32

def PacketRecord.key (r : PacketRecord) : PacketKey := (r.sender, r.id)

def MeshPacket.key (nodeNum : UInt32) (p : MeshPacket) : PacketKey := (p.getFrom nodeNum, p.id)

/-- A key that a record can be found by. -/
def Findable (k : PacketKey) : Prop := k.1 ≠ 0 ∧ k.2 ≠ 0

variable {nodeNum : UInt32} {p : MeshPacket} {r it : PacketRecord} {now : UInt32}

theorem has_iff {sender id : UInt32} : r.has sender id = true ↔ r.key = (sender, id) := by
  unfold PacketRecord.has PacketRecord.key
  rw [Bool.and_eq_true, decide_eq_true_eq, decide_eq_true_eq, Prod.mk.injEq, and_comm]

theorem blank_false (h : Findable r.key) : r.blank = false := by
  unfold PacketRecord.blank
  rw [Bool.and_eq_false_iff]
  exact Or.inl (decide_eq_false h.2)

theorem record_key : (p.record nodeNum now).key = p.key nodeNum := by
  unfold MeshPacket.record
  dsimp only
  split_ifs <;> rfl

theorem record_rxTimeMsec : (p.record nodeNum now).rxTimeMsec ≠ 0 := by
  have hrx : (p.record nodeNum now).rxTimeMsec = if now = 0 then 1 else now := by
    unfold MeshPacket.record
    by_cases hus : p.relayNode = lastByteOfNodeNum nodeNum
    · rw [if_pos hus]
      rfl
    · rw [if_neg hus]
      rfl
  rw [hrx]
  split_ifs with h
  · decide
  · exact h

theorem update_key (found : PacketRecord) : (r.update nodeNum p found).key = r.key := by
  unfold PacketRecord.update
  dsimp only
  split_ifs <;> rfl

theorem update_rxTimeMsec (found : PacketRecord) :
    (r.update nodeNum p found).rxTimeMsec = r.rxTimeMsec := by
  unfold PacketRecord.update
  dsimp only
  split_ifs <;> rfl

namespace PacketHistory

/-! ### The scan -/

/-- A slot that the scan passes by. -/
def Other (r it : PacketRecord) : Prop := it.blank = false ∧ it.key ≠ r.key

theorem scan_cons_other {rest : List PacketRecord} {i : ℕ} {oldest : UInt32} {tu : Option ℕ}
    (h : Other r it) : scan now r (it :: rest) i oldest tu =
      if oldest < now - it.rxTimeMsec then scan now r rest (i + 1) (now - it.rxTimeMsec) (some i)
      else scan now r rest (i + 1) oldest tu := by
  have hhas : it.has r.sender r.id ≠ true := fun hh => h.2 (has_iff.mp hh)
  rw [scan, if_neg (by rw [h.1]; exact Bool.false_ne_true), if_neg hhas]

/-- The first slot that is free or matches is taken. -/
theorem scan_first {l rest : List PacketRecord} (hl : ∀ x ∈ l, Other r x)
    (hit : it.blank = true ∨ it.key = r.key) (i : ℕ) (oldest : UInt32) (tu : Option ℕ) :
    scan now r (l ++ it :: rest) i oldest tu = some (i + l.length) := by
  induction l generalizing i oldest tu with
  | nil =>
    rw [List.nil_append, scan]
    rcases hit with hb | hk
    · rw [if_pos hb]
      rfl
    · rw [if_pos (has_iff.mpr hk), ite_self]
      rfl
  | cons x l ih =>
    obtain ⟨hx, hl⟩ := List.forall_mem_cons.mp hl
    have hlen : i + 1 + l.length = i + (x :: l).length := by
      rw [List.length_cons]
      omega
    rw [List.cons_append, scan_cons_other hx, ih hl, ih hl, ite_self, hlen]

theorem scan_lt {l : List PacketRecord} (hl : ∀ x ∈ l, Other r x) (i : ℕ) (oldest : UInt32)
    (tu : Option ℕ) : scan now r l i oldest tu = tu ∨
      ∃ j, j < l.length ∧ scan now r l i oldest tu = some (i + j) := by
  induction l generalizing i oldest tu with
  | nil => exact Or.inl rfl
  | cons x l ih =>
    obtain ⟨hx, hl⟩ := List.forall_mem_cons.mp hl
    have hnext : ∀ j, i + 1 + j = i + (j + 1) := fun j => by omega
    rw [scan_cons_other hx, List.length_cons]
    split_ifs
    · rcases ih hl (i + 1) (now - x.rxTimeMsec) (some i) with h | ⟨j, hj, h⟩
      · exact Or.inr ⟨0, Nat.succ_pos _, h⟩
      · exact Or.inr ⟨j + 1, Nat.succ_lt_succ hj, h.trans (congrArg some (hnext j))⟩
    · rcases ih hl (i + 1) oldest tu with h | ⟨j, hj, h⟩
      · exact Or.inl h
      · exact Or.inr ⟨j + 1, Nat.succ_lt_succ hj, h.trans (congrArg some (hnext j))⟩

theorem scan_keeps {l : List PacketRecord} {oldest : UInt32} (hl : ∀ x ∈ l, Other r x)
    (hage : ∀ x ∈ l, now - x.rxTimeMsec ≤ oldest) (i : ℕ) (tu : Option ℕ) :
    scan now r l i oldest tu = tu := by
  induction l generalizing i with
  | nil => rfl
  | cons x l ih =>
    obtain ⟨hx, hl⟩ := List.forall_mem_cons.mp hl
    obtain ⟨hax, hage⟩ := List.forall_mem_cons.mp hage
    rw [scan_cons_other hx, if_neg (UInt32.not_lt.mpr hax)]
    exact ih hl hage (i + 1)

/-- In a full history the first slot of the greatest age is taken, if that is greater than `oldest`. -/
theorem scan_oldest {l₁ l₂ : List PacketRecord} {oldest : UInt32} (hl : ∀ x ∈ l₁ ++ it :: l₂, Other r x)
    (hit : oldest < now - it.rxTimeMsec) (h₁ : ∀ x ∈ l₁, now - x.rxTimeMsec < now - it.rxTimeMsec)
    (h₂ : ∀ x ∈ l₂, now - x.rxTimeMsec ≤ now - it.rxTimeMsec) (i : ℕ) (tu : Option ℕ) :
    scan now r (l₁ ++ it :: l₂) i oldest tu = some (i + l₁.length) := by
  induction l₁ generalizing i oldest tu with
  | nil =>
    obtain ⟨hx, hl⟩ := List.forall_mem_cons.mp hl
    rw [List.nil_append, scan_cons_other hx, if_pos hit, scan_keeps hl h₂]
    rfl
  | cons x l₁ ih =>
    obtain ⟨hx, hl⟩ := List.forall_mem_cons.mp hl
    obtain ⟨hax, h₁⟩ := List.forall_mem_cons.mp h₁
    have hlen : i + 1 + l₁.length = i + (x :: l₁).length := by
      rw [List.length_cons]
      omega
    rw [List.cons_append, scan_cons_other hx, ih hl hax h₁, ih hl hit h₁, ite_self, hlen]

/-! ### Records in use -/

variable {h : PacketHistory} {occ : List PacketRecord} {n : ℕ} {k : PacketKey}

/-- The slots in use come first and hold different packets. -/
structure Holds (h : PacketHistory) (occ : List PacketRecord) (n : ℕ) : Prop where
  slots : h.recentPackets = occ ++ List.replicate n PacketRecord.zero
  findable : ∀ r ∈ occ, Findable r.key
  distinct : (occ.map PacketRecord.key).Nodup

theorem start_holds (size : ℕ) : (start size).Holds [] size :=
  ⟨rfl, fun _ hr => absurd hr List.not_mem_nil, List.nodup_nil⟩

theorem Holds.other (hh : h.Holds occ n) (hr : r.key ∉ occ.map PacketRecord.key) : ∀ x ∈ occ, Other r x :=
  fun x hx => ⟨blank_false (hh.findable x hx), fun he => hr (he ▸ List.mem_map_of_mem hx)⟩

theorem find_eq_none_iff (hh : h.Holds occ n) (hk : Findable k) :
    h.find k.1 k.2 = none ↔ k ∉ occ.map PacketRecord.key := by
  have hzero : k ≠ PacketRecord.zero.key := fun he => hk.1 (congrArg Prod.fst he)
  unfold find
  rw [if_neg (not_or.mpr hk), List.find?_eq_none, hh.slots]
  simp only [has_iff, List.mem_append, List.mem_map, List.mem_replicate]
  constructor
  · rintro hall ⟨r, hr, rfl⟩
    exact hall r (Or.inl hr) rfl
  · rintro hno r (hr | ⟨_, rfl⟩) he
    · exact hno ⟨r, hr, he⟩
    · exact hzero he.symm

theorem find_key {found : PacketRecord} (hf : h.find k.1 k.2 = some found) : found.key = k := by
  unfold find at hf
  split_ifs at hf
  have hhas := List.find?_some hf
  exact has_iff.mp hhas

/-- A record goes to the slot of its packet, else to a free slot, else in place of another one, if in
any. -/
theorem insert_cases (hh : h.Holds occ n) (hr : Findable r.key) (hrx : r.rxTimeMsec ≠ 0) :
    (∃ l₁ it l₂, occ = l₁ ++ it :: l₂ ∧ it.key = r.key ∧ (h.insert now r).Holds (l₁ ++ r :: l₂) n) ∨
    (r.key ∉ occ.map PacketRecord.key ∧ ∃ m, n = m + 1 ∧ (h.insert now r).Holds (occ ++ [r]) m) ∨
    (r.key ∉ occ.map PacketRecord.key ∧ n = 0 ∧ (scan now r occ 0 0 none = none ∧ h.insert now r = h ∨
      ∃ l₁ v l₂, occ = l₁ ++ v :: l₂ ∧ scan now r occ 0 0 none = some l₁.length ∧
        (h.insert now r).Holds (l₁ ++ r :: l₂) 0)) := by
  have hinsert : ∀ i, scan now r h.recentPackets 0 0 none = some i →
      h.insert now r = ⟨h.recentPackets.set i r⟩ := fun i hi => by
    unfold insert
    rw [hi]
    exact if_neg hrx
  have hset : ∀ (l₁ l₂ : List PacketRecord) (v : PacketRecord),
      (l₁ ++ v :: l₂).set l₁.length r = l₁ ++ r :: l₂ := fun l₁ l₂ v => by
    rw [List.set_append_right _ _ (le_refl _), Nat.sub_self, List.set_cons_zero]
  by_cases hmem : r.key ∈ occ.map PacketRecord.key
  · obtain ⟨it, hit, hkey⟩ := List.mem_map.mp hmem
    obtain ⟨l₁, l₂, rfl⟩ := List.append_of_mem hit
    have hd := hh.distinct
    rw [List.map_append, List.map_cons, hkey] at hd
    have hl₁ : ∀ x ∈ l₁, Other r x := fun x hx =>
      ⟨blank_false (hh.findable x (List.mem_append_left _ hx)), fun he =>
        (List.nodup_append.mp hd).2.2 _ (List.mem_map_of_mem hx) _ (List.mem_cons_self ..) he⟩
    refine Or.inl ⟨l₁, it, l₂, rfl, hkey, ?_, fun x hx => ?_, ?_⟩
    · have hslots := hh.slots
      rw [List.append_assoc, List.cons_append] at hslots
      rw [hinsert l₁.length ?_]
      · show h.recentPackets.set _ r = _
        rw [hslots, hset, List.append_assoc, List.cons_append]
      · rw [hslots, scan_first hl₁ (Or.inr hkey), Nat.zero_add]
    · rcases List.mem_append.mp hx with hx | hx
      · exact hh.findable x (List.mem_append_left _ hx)
      · rcases List.mem_cons.mp hx with rfl | hx
        · exact hr
        · exact hh.findable x (List.mem_append_right _ (List.mem_cons_of_mem _ hx))
    · rw [List.map_append, List.map_cons]
      exact hd
  · refine Or.inr ?_
    have hother := hh.other hmem
    cases n with
    | succ m =>
      refine Or.inl ⟨hmem, m, rfl, ?_, fun x hx => ?_, ?_⟩
      · have hslots := hh.slots
        rw [List.replicate_succ] at hslots
        rw [hinsert occ.length ?_]
        · show h.recentPackets.set _ r = _
          rw [hslots, hset, List.append_assoc]
          rfl
        · rw [hslots, scan_first hother (Or.inl rfl), Nat.zero_add]
      · rcases List.mem_append.mp hx with hx | hx
        · exact hh.findable x hx
        · rw [List.mem_singleton.mp hx]
          exact hr
      · rw [List.map_append, List.map_singleton]
        exact List.concat_eq_append ▸ hh.distinct.concat hmem
    | zero =>
      have hslots : h.recentPackets = occ := by rw [hh.slots, List.replicate_zero, List.append_nil]
      refine Or.inr ⟨hmem, rfl, ?_⟩
      rcases @scan_lt _ now _ hother 0 0 none with hs | ⟨j, hj, hs⟩
      · refine Or.inl ⟨hs, ?_⟩
        unfold insert
        rw [hslots, hs]
      · rw [Nat.zero_add] at hs
        have hsplit : occ = occ.take j ++ occ[j] :: occ.drop (j + 1) := by
          rw [← List.drop_eq_getElem_cons hj, List.take_append_drop]
        have hlen : (occ.take j).length = j := List.length_take_of_le (Nat.le_of_lt hj)
        refine Or.inr ⟨occ.take j, occ[j], occ.drop (j + 1), hsplit, by rw [hlen, hs], ?_, fun x hx => ?_, ?_⟩
        · rw [hinsert j (by rw [hslots, hs])]
          show h.recentPackets.set j r = _
          rw [hslots, List.replicate_zero, List.append_nil]
          conv_lhs => rw [hsplit]
          have hs' := hset (occ.take j) (occ.drop (j + 1)) occ[j]
          rwa [hlen] at hs'
        · rcases List.mem_append.mp hx with hx | hx
          · exact hh.findable x (List.mem_of_mem_take hx)
          · rcases List.mem_cons.mp hx with rfl | hx
            · exact hr
            · exact hh.findable x (List.mem_of_mem_drop hx)
        · have hd := hh.distinct
          rw [hsplit, List.map_append, List.map_cons] at hd hmem
          rw [List.map_append, List.map_cons]
          have hd' := (List.perm_middle.nodup_iff.mp hd)
          refine List.perm_middle.nodup_iff.mpr (List.nodup_cons.mpr ⟨fun hm => hmem ?_,
            (List.nodup_cons.mp hd').2⟩)
          exact List.perm_middle.mem_iff.mpr (List.mem_cons_of_mem _ hm)

/-- What is found is in a slot in use. -/
theorem mem_of_find (hh : h.Holds occ n) (hk : Findable k) (hf : h.find k.1 k.2 = some r) : r ∈ occ := by
  have hkey := find_key hf
  unfold find at hf
  rw [if_neg (not_or.mpr hk), hh.slots] at hf
  rcases List.mem_append.mp (List.mem_of_find?_eq_some hf) with hr | hr
  · exact hr
  · rw [(List.mem_replicate.mp hr).2] at hkey
    exact absurd (congrArg Prod.fst hkey).symm hk.1

theorem find_eq_some_iff (hh : h.Holds occ n) (hk : Findable k) :
    h.find k.1 k.2 = some r ↔ r ∈ occ ∧ r.key = k := by
  refine ⟨fun hf => ⟨mem_of_find hh hk hf, find_key hf⟩, ?_⟩
  rintro ⟨hr, hkey⟩
  cases hf : h.find k.1 k.2 with
  | none => exact absurd (hkey ▸ List.mem_map_of_mem hr) ((find_eq_none_iff hh hk).mp hf)
  | some r' =>
    exact congrArg some (List.inj_on_of_nodup_map hh.distinct (mem_of_find hh hk hf) hr
      ((find_key hf).trans hkey.symm))

/-- The history after an insertion holds the record, unless it is as it was and had none of its key. -/
theorem find_insert (hh : h.Holds occ n) (hr : Findable r.key) (hrx : r.rxTimeMsec ≠ 0) :
    (∃ occ' n', (h.insert now r).Holds occ' n' ∧ r ∈ occ') ∨
      h.insert now r = h ∧ r.key ∉ occ.map PacketRecord.key := by
  rcases @insert_cases _ now _ _ _ hh hr hrx with ⟨l₁, _, l₂, _, _, hi⟩ | ⟨_, m, _, hi⟩ |
    ⟨hnew, _, ⟨_, hi⟩ | ⟨l₁, _, l₂, _, _, hi⟩⟩
  · exact Or.inl ⟨_, _, hi, List.mem_append_right _ (List.mem_cons_self ..)⟩
  · exact Or.inl ⟨_, _, hi, List.mem_append_right _ (List.mem_singleton_self r)⟩
  · exact Or.inr ⟨hi, hnew⟩
  · exact Or.inl ⟨_, _, hi, List.mem_append_right _ (List.mem_cons_self ..)⟩

/-- The history holds its records, whichever they are. -/
def Sane (h : PacketHistory) : Prop := ∃ occ n, h.Holds occ n

theorem insert_sane (hh : h.Sane) (hr : Findable r.key) (hrx : r.rxTimeMsec ≠ 0) :
    (h.insert now r).Sane := by
  obtain ⟨occ, n, hh⟩ := hh
  rcases @find_insert _ now _ _ _ hh hr hrx with ⟨occ', n', hi, _⟩ | ⟨hi, _⟩
  · exact ⟨occ', n', hi⟩
  · rw [hi]
    exact ⟨occ, n, hh⟩

/-- A record that is inserted is found, if its packet was found before or is found now. -/
theorem find_of_insert (hh : h.Sane) (hr : Findable r.key) (hrx : r.rxTimeMsec ≠ 0)
    (hs : (h.find r.key.1 r.key.2).isSome ∨ ((h.insert now r).find r.key.1 r.key.2).isSome) :
    (h.insert now r).find r.key.1 r.key.2 = some r := by
  obtain ⟨occ, n, hh⟩ := hh
  rcases @find_insert _ now _ _ _ hh hr hrx with ⟨occ', n', hi, hmem⟩ | ⟨hi, hnew⟩
  · exact (find_eq_some_iff hi hr).mpr ⟨hmem, rfl⟩
  · have hnone := (find_eq_none_iff hh hr).mpr hnew
    rw [hi, hnone] at hs
    exact absurd (hs.elim id id) Bool.false_ne_true

/-! ### Calls of `wasSeenRecently` -/

variable {nowInsert : UInt32}

theorem getFrom_findable (hn : nodeNum ≠ 0) (hid : p.id ≠ 0) : Findable (p.key nodeNum) := by
  refine ⟨?_, hid⟩
  show p.getFrom nodeNum ≠ 0
  unfold MeshPacket.getFrom
  split_ifs with h
  · exact hn
  · exact h

/-- What an updating call puts in: the record of the packet, with what was found added to it. -/
def entered (nodeNum : UInt32) (p : MeshPacket) (now : UInt32) (found : Option PacketRecord) : PacketRecord :=
  match found with
  | none => p.record nodeNum now
  | some found => (p.record nodeNum now).update nodeNum p found

theorem entered_key (found : Option PacketRecord) : (entered nodeNum p now found).key = p.key nodeNum := by
  cases found with
  | none => exact record_key
  | some found => exact (update_key found).trans record_key

theorem entered_rxTimeMsec (found : Option PacketRecord) :
    (entered nodeNum p now found).rxTimeMsec ≠ 0 := by
  cases found with
  | none => exact record_rxTimeMsec
  | some found =>
    show ((p.record nodeNum now).update nodeNum p found).rxTimeMsec ≠ 0
    rw [update_rxTimeMsec]
    exact record_rxTimeMsec

theorem wasSeenRecently_eq (hid : p.id ≠ 0) (withUpdate : Bool) :
    h.wasSeenRecently nodeNum p withUpdate now nowInsert =
      let found := h.find (p.key nodeNum).1 (p.key nodeNum).2
      { seenRecently := found.isSome
        wasFallback := found.any (isFallback nodeNum p)
        weWereNextHop := found.any fun r => r.nextHop = lastByteOfNodeNum nodeNum
        wasUpgraded := found.any fun r => r.hopLimit < p.hopLimit
        history := if withUpdate then h.insert nowInsert (entered nodeNum p now found) else h } := by
  have hkey : (p.record nodeNum now).key = p.key nodeNum := record_key
  have hs : (p.record nodeNum now).sender = (p.key nodeNum).1 := congrArg Prod.fst hkey
  have hi : (p.record nodeNum now).id = (p.key nodeNum).2 := congrArg Prod.snd hkey
  unfold wasSeenRecently
  rw [if_neg hid]
  dsimp only
  rw [hs, hi]
  cases h.find (p.key nodeNum).1 (p.key nodeNum).2 <;> rfl

/-- An updating call for a packet that stays in the history enters its record. -/
theorem find_wasSeenRecently (hn : nodeNum ≠ 0) (hid : p.id ≠ 0) (hh : h.Sane)
    (hs : (h.find (p.key nodeNum).1 (p.key nodeNum).2).isSome ∨
      ((h.wasSeenRecently nodeNum p true now nowInsert).history.find (p.key nodeNum).1
        (p.key nodeNum).2).isSome) :
    (h.wasSeenRecently nodeNum p true now nowInsert).history.find (p.key nodeNum).1 (p.key nodeNum).2 =
      some (entered nodeNum p now (h.find (p.key nodeNum).1 (p.key nodeNum).2)) := by
  rw [wasSeenRecently_eq hid] at hs ⊢
  dsimp only at hs ⊢
  rw [if_pos rfl] at hs ⊢
  generalize hfound : h.find (p.key nodeNum).1 (p.key nodeNum).2 = found at hs ⊢
  have hkey := @entered_key nodeNum p now found
  rw [← hkey] at hs ⊢
  refine find_of_insert hh ?_ (entered_rxTimeMsec found) (hs.imp_left fun h => ?_)
  · rw [hkey]
    exact getFrom_findable hn hid
  · rw [hkey, hfound]
    exact h

theorem wasSeenRecently_sane (hn : nodeNum ≠ 0) (hh : h.Sane) (withUpdate : Bool) :
    (h.wasSeenRecently nodeNum p withUpdate now nowInsert).history.Sane := by
  by_cases hid : p.id = 0
  · unfold wasSeenRecently
    rw [if_pos hid]
    exact hh
  · rw [wasSeenRecently_eq hid]
    dsimp only
    split_ifs
    · refine insert_sane hh ?_ (entered_rxTimeMsec _)
      rw [entered_key]
      exact getFrom_findable hn hid
    · exact hh

/-! ### Removal of a relayer -/

theorem alter_split {q : PacketRecord → Bool} {f : PacketRecord → PacketRecord} {l₁ l₂ : List PacketRecord}
    (h₁ : ∀ x ∈ l₁, q x = false) (hr : q r = true) :
    alter q f (l₁ ++ r :: l₂) = l₁ ++ f r :: l₂ := by
  induction l₁ with
  | nil => exact if_pos hr
  | cons x l₁ ih =>
    obtain ⟨hx, h₁⟩ := List.forall_mem_cons.mp h₁
    rw [List.cons_append, alter, hx, if_neg Bool.false_ne_true, ih h₁, List.cons_append]

theorem alter_none {q : PacketRecord → Bool} {f : PacketRecord → PacketRecord} {l : List PacketRecord}
    (h : ∀ x ∈ l, q x = false) : alter q f l = l := by
  induction l with
  | nil => rfl
  | cons x l ih =>
    obtain ⟨hx, h⟩ := List.forall_mem_cons.mp h
    rw [alter, hx, if_neg Bool.false_ne_true, ih h]

/-- The record of a packet, without the relayer. -/
theorem removeRelayer_holds (hh : h.Holds occ n) (hk : Findable k) (relayer : UInt8) :
    ∃ occ', (h.removeRelayer relayer k.2 k.1).Holds occ' n ∧
      ∀ r ∈ occ, (if r.key = k then r.removeRelayer relayer else r) ∈ occ' := by
  unfold removeRelayer
  rw [if_neg (not_or.mpr hk)]
  have hhas : ∀ x : PacketRecord, x.key ≠ k → x.has k.1 k.2 = false := fun x hx =>
    Bool.eq_false_iff.mpr fun ht => hx (has_iff.mp ht)
  have hzero : ∀ x ∈ List.replicate n PacketRecord.zero, x.key ≠ k := fun x hx he => by
    rw [(List.mem_replicate.mp hx).2] at he
    exact hk.1 (congrArg Prod.fst he).symm
  by_cases hmem : k ∈ occ.map PacketRecord.key
  · obtain ⟨it, hit, hkey⟩ := List.mem_map.mp hmem
    obtain ⟨l₁, l₂, rfl⟩ := List.append_of_mem hit
    have hd := hh.distinct
    rw [List.map_append, List.map_cons, hkey] at hd
    have h₁ : ∀ x ∈ l₁, x.key ≠ k := fun x hx he =>
      (List.nodup_append.mp hd).2.2 _ (List.mem_map_of_mem hx) _ (List.mem_cons_self ..) he
    have h₂ : ∀ x ∈ l₂, x.key ≠ k := fun x hx he =>
      (List.nodup_cons.mp (List.nodup_append.mp hd).2.1).1 (he ▸ List.mem_map_of_mem hx)
    refine ⟨l₁ ++ it.removeRelayer relayer :: l₂, ⟨?_, fun x hx => ?_, ?_⟩, fun x hx => ?_⟩
    · rw [hh.slots, List.append_assoc, List.cons_append, alter_split (fun x hx => hhas x (h₁ x hx))
        (has_iff.mpr hkey), List.append_assoc, List.cons_append]
    · rcases List.mem_append.mp hx with hx | hx
      · exact hh.findable x (List.mem_append_left _ hx)
      · rcases List.mem_cons.mp hx with rfl | hx
        · exact hh.findable it hit
        · exact hh.findable x (List.mem_append_right _ (List.mem_cons_of_mem _ hx))
    · rw [List.map_append, List.map_cons]
      exact hkey ▸ hd
    · rcases List.mem_append.mp hx with hx | hx
      · rw [if_neg (h₁ x hx)]
        exact List.mem_append_left _ hx
      · rcases List.mem_cons.mp hx with rfl | hx
        · rw [if_pos hkey]
          exact List.mem_append_right _ (List.mem_cons_self ..)
        · rw [if_neg (h₂ x hx)]
          exact List.mem_append_right _ (List.mem_cons_of_mem _ hx)
  · have hne : ∀ x ∈ occ, x.key ≠ k := fun x hx he => hmem (he ▸ List.mem_map_of_mem hx)
    refine ⟨occ, ⟨?_, hh.findable, hh.distinct⟩, fun x hx => ?_⟩
    · show alter _ _ h.recentPackets = _
      rw [hh.slots, alter_none]
      intro x hx
      exact hhas x ((List.mem_append.mp hx).elim (hne x) (hzero x))
    · rw [if_neg (hne x hx)]
      exact hx

theorem removeRelayer_sane (hh : h.Sane) (relayer : UInt8) (id sender : UInt32) :
    (h.removeRelayer relayer id sender).Sane := by
  obtain ⟨occ, n, hh⟩ := hh
  by_cases hk : sender = 0 ∨ id = 0
  · unfold removeRelayer
    rw [if_pos hk]
    exact ⟨occ, n, hh⟩
  · obtain ⟨occ', hi, _⟩ := removeRelayer_holds hh (k := (sender, id)) (not_or.mp hk) relayer
    exact ⟨occ', n, hi⟩

theorem find_removeRelayer (hh : h.Sane) (hk : Findable k) {found : PacketRecord}
    (hf : h.find k.1 k.2 = some found) (relayer : UInt8) :
    (h.removeRelayer relayer k.2 k.1).find k.1 k.2 = some (found.removeRelayer relayer) := by
  obtain ⟨occ, n, hh⟩ := hh
  obtain ⟨hmem, hkey⟩ := (find_eq_some_iff hh hk).mp hf
  obtain ⟨occ', hi, hocc'⟩ := removeRelayer_holds hh hk relayer
  have hr := hocc' found hmem
  rw [if_pos hkey] at hr
  exact (find_eq_some_iff hi hk).mpr ⟨hr, hkey⟩

end PacketHistory
end MonsterMesh

import MonsterMesh.Lib.Recency
import MonsterMesh.Lib.Walk
import MonsterMesh.Mesh.Records

/-! The history as a window of the packets recorded last. -/
namespace MonsterMesh

open PacketRecord Recency Walk

variable {nodeNum : UInt32} {p : MeshPacket}

/-! ### The window -/

/-- A call of `wasSeenRecently`, with the times it reads. -/
structure SeenCall where
  p : MeshPacket
  withUpdate : Bool
  (now nowInsert : UInt32)

/-- The history and the keys that were recorded, the last first. -/
structure HistoryRun where
  history : PacketHistory
  log : List PacketKey

namespace HistoryRun

open PacketHistory

variable {s : HistoryRun} {c : SeenCall}

def start (size : ℕ) : HistoryRun := ⟨PacketHistory.start size, []⟩

def seen (nodeNum : UInt32) (s : HistoryRun) (c : SeenCall) : Seen :=
  s.history.wasSeenRecently nodeNum c.p c.withUpdate c.now c.nowInsert

def step (nodeNum : UInt32) (s : HistoryRun) (c : SeenCall) : HistoryRun :=
  { history := (s.seen nodeNum c).history
    log := if c.withUpdate = true ∧ c.p.id ≠ 0 then c.p.key nodeNum :: s.log else s.log }

/-- No two slots in use hold the same packet. -/
def Distinct (s : HistoryRun) : Prop :=
  s.history.recentPackets.Pairwise fun r r' => r.blank = true ∨ r'.blank = true ∨ r.key ≠ r'.key

/-- Whatever the times and the update: a packet that is seen was recorded before. -/
def Sound (nodeNum : UInt32) (s : HistoryRun) : Prop :=
  ∀ c, (s.seen nodeNum c).seenRecently = true → c.p.key nodeNum ∈ s.log

/-- A packet that was recorded is seen until as many others have been as there are slots. -/
def Window (nodeNum : UInt32) (s : HistoryRun) : Prop :=
  ∀ c, c.p.id ≠ 0 → c.p.key nodeNum ∈ s.log →
    since (c.p.key nodeNum) s.log < s.history.recentPackets.length → (s.seen nodeNum c).seenRecently = true

/-- The record that was updated least recently is also the first of the greatest age, and not of age 0. -/
def OldestFirst (s : HistoryRun) (now : UInt32) : Prop :=
  ∃ l₁ v l₂, s.history.recentPackets = l₁ ++ v :: l₂ ∧ 0 < now - v.rxTimeMsec ∧
    (∀ x ∈ l₁, now - x.rxTimeMsec < now - v.rxTimeMsec ∧ since x.key s.log < since v.key s.log) ∧
    ∀ x ∈ l₂, now - x.rxTimeMsec ≤ now - v.rxTimeMsec ∧ since x.key s.log < since v.key s.log

/-- The condition on a call: a new packet that is put into a full history finds `OldestFirst`. -/
def Meets (nodeNum : UInt32) (s : HistoryRun) (c : SeenCall) : Prop :=
  c.withUpdate = true → c.p.id ≠ 0 → (s.history.find (c.p.key nodeNum).1 c.p.id).isNone →
    (∀ r ∈ s.history.recentPackets, r.blank = false) → s.OldestFirst c.nowInsert

/-- A call that updates puts a record of the packet in. -/
theorem step_update (hu : c.withUpdate = true) (hid : c.p.id ≠ 0) :
    ∃ r : PacketRecord, r.key = c.p.key nodeNum ∧ r.rxTimeMsec ≠ 0 ∧
      s.step nodeNum c = ⟨s.history.insert c.nowInsert r, c.p.key nodeNum :: s.log⟩ := by
  refine ⟨entered nodeNum c.p c.now (s.history.find (c.p.key nodeNum).1 (c.p.key nodeNum).2),
    entered_key _, entered_rxTimeMsec _, ?_⟩
  unfold step seen
  rw [wasSeenRecently_eq hid, if_pos ⟨hu, hid⟩, hu]
  rfl

/-- Any other call leaves everything as it is. -/
theorem step_other (h : ¬ (c.withUpdate = true ∧ c.p.id ≠ 0)) : s.step nodeNum c = s := by
  unfold step seen
  rw [if_neg h]
  by_cases hid : c.p.id = 0
  · unfold wasSeenRecently
    rw [if_pos hid]
  · rw [wasSeenRecently_eq hid, Bool.eq_false_iff.mpr fun hu => h ⟨hu, hid⟩]
    rfl

/-- A packet is seen exactly if its record is in the history. -/
theorem seen_iff {occ : List PacketRecord} {n : ℕ} (hn : nodeNum ≠ 0) (hh : s.history.Holds occ n) :
    (s.seen nodeNum c).seenRecently = true ↔
      c.p.id ≠ 0 ∧ c.p.key nodeNum ∈ occ.map PacketRecord.key := by
  unfold seen
  by_cases hid : c.p.id = 0
  · unfold wasSeenRecently
    rw [if_pos hid]
    exact iff_of_false Bool.false_ne_true fun h => h.1 hid
  · rw [wasSeenRecently_eq hid, and_iff_right hid]
    have hfind := find_eq_none_iff hh (getFrom_findable hn hid)
    dsimp only
    rw [← not_iff_not, ← hfind, Bool.not_eq_true, Option.isSome_eq_false_iff, Option.isNone_iff_eq_none]

/-- The packets in the history were recorded. -/
def Tidy (s : HistoryRun) : Prop :=
  ∃ occ n, s.history.Holds occ n ∧ ∀ k ∈ occ.map PacketRecord.key, k ∈ s.log

theorem tidy_step (hn : nodeNum ≠ 0) (h : s.Tidy) (c : SeenCall) : (s.step nodeNum c).Tidy := by
  obtain ⟨occ, n, hh, hlog⟩ := h
  by_cases hc : c.withUpdate = true ∧ c.p.id ≠ 0
  · obtain ⟨r, hkey, hrx, hstep⟩ := @step_update nodeNum s _ hc.1 hc.2
    have hfind : Findable r.key := hkey ▸ getFrom_findable hn hc.2
    rw [hstep]
    have hcons : ∀ l₁ l₂ : List PacketRecord, (∀ x ∈ l₁, x ∈ occ) → (∀ x ∈ l₂, x ∈ occ) →
        ∀ k ∈ (l₁ ++ r :: l₂).map PacketRecord.key, k ∈ c.p.key nodeNum :: s.log := by
      intro l₁ l₂ h₁ h₂ k hk
      obtain ⟨x, hx, rfl⟩ := List.mem_map.mp hk
      rcases List.mem_append.mp hx with hx | hx
      · exact List.mem_cons_of_mem _ (hlog _ (List.mem_map_of_mem (h₁ x hx)))
      · rcases List.mem_cons.mp hx with rfl | hx
        · rw [hkey]
          exact List.mem_cons_self ..
        · exact List.mem_cons_of_mem _ (hlog _ (List.mem_map_of_mem (h₂ x hx)))
    rcases @insert_cases _ c.nowInsert _ _ _ hh hfind hrx with ⟨l₁, it, l₂, rfl, _, hi⟩ |
      ⟨_, m, _, hi⟩ | ⟨_, _, ⟨_, hi⟩ | ⟨l₁, v, l₂, rfl, _, hi⟩⟩
    · exact ⟨_, _, hi, hcons l₁ l₂ (fun x hx => List.mem_append_left _ hx)
        fun x hx => List.mem_append_right _ (List.mem_cons_of_mem _ hx)⟩
    · exact ⟨_, _, hi, hcons occ [] (fun x hx => hx) fun x hx => absurd hx List.not_mem_nil⟩
    · refine ⟨occ, n, ?_, fun k hk => List.mem_cons_of_mem _ (hlog k hk)⟩
      dsimp only
      rw [hi]
      exact hh
    · exact ⟨_, _, hi, hcons l₁ l₂ (fun x hx => List.mem_append_left _ hx)
        fun x hx => List.mem_append_right _ (List.mem_cons_of_mem _ hx)⟩
  · rw [step_other hc]
    exact ⟨occ, n, hh, hlog⟩

/-- The packets in the history are the ones recorded last. -/
def Recent (s : HistoryRun) : Prop :=
  ∃ occ n, s.history.Holds occ n ∧
    ∀ k, k ∈ occ.map PacketRecord.key ↔ k ∈ (recency s.log).take s.history.recentPackets.length

theorem Recent.length_eq {occ : List PacketRecord} {n : ℕ} (hh : s.history.Holds occ n)
    (h : ∀ k, k ∈ occ.map PacketRecord.key ↔ k ∈ (recency s.log).take s.history.recentPackets.length) :
    occ.length = min s.history.recentPackets.length (recency s.log).length := by
  have hperm := (List.perm_ext_iff_of_nodup hh.distinct
    ((List.take_sublist _ _).nodup (recency_nodup s.log))).mpr h
  have hlen := hperm.length_eq
  rwa [List.length_map, List.length_take] at hlen

/-- The record that `OldestFirst` names is the last of those recorded last. -/
theorem OldestFirst.last {l₁ l₂ : List PacketRecord} {v : PacketRecord} {m : ℕ}
    (hlog : ∀ k ∈ (l₁ ++ v :: l₂).map PacketRecord.key, k ∈ s.log)
    (hrecent : ∀ k, k ∈ (l₁ ++ v :: l₂).map PacketRecord.key ↔ k ∈ (recency s.log).take (m + 1))
    (hm : m < (recency s.log).length)
    (h₁ : ∀ x ∈ l₁, since x.key s.log < since v.key s.log)
    (h₂ : ∀ x ∈ l₂, since x.key s.log < since v.key s.log) : since v.key s.log = m := by
  have hv : v.key ∈ (l₁ ++ v :: l₂).map PacketRecord.key :=
    List.mem_map_of_mem (List.mem_append_right _ (List.mem_cons_self ..))
  have hidx : ∀ k ∈ s.log, ∀ i (hi : i < (recency s.log).length), (recency s.log)[i] = k →
      since k s.log = i := by
    intro k hk i hi he
    obtain ⟨hlt, hget⟩ := List.getElem?_eq_some_iff.mp (getElem_since hk)
    exact (List.Nodup.getElem_inj_iff (recency_nodup s.log)).mp (hget.trans he.symm)
  have hle : since v.key s.log ≤ m := by
    obtain ⟨i, hi, he⟩ := List.mem_take_iff_getElem.mp ((hrecent v.key).mp hv)
    have := hidx v.key (hlog _ hv) i (lt_of_lt_of_le hi (Nat.min_le_right ..)) he
    have hi' := lt_of_lt_of_le hi (Nat.min_le_left ..)
    omega
  obtain ⟨u, hu, hukey⟩ := List.mem_map.mp ((hrecent (recency s.log)[m]).mpr
    (List.mem_take_iff_getElem.mpr ⟨m, Nat.lt_min.mpr ⟨Nat.lt_succ_self m, hm⟩, rfl⟩))
  have hum : since u.key s.log = m := hidx u.key (hlog _ (List.mem_map_of_mem hu)) m hm hukey.symm
  rcases List.mem_append.mp hu with hu | hu
  · have := h₁ u hu
    omega
  · rcases List.mem_cons.mp hu with rfl | hu
    · exact hum
    · have := h₂ u hu
      omega

/-- Without the last of the keys on either side the others agree. -/
theorem kept_iff {l₁ l₂ : List PacketRecord} {v : PacketRecord} {d : List PacketKey} {m : ℕ} {k : PacketKey}
    (hd : ((l₁ ++ v :: l₂).map PacketRecord.key).Nodup)
    (hk : ∀ k, k ∈ (l₁ ++ v :: l₂).map PacketRecord.key ↔ k ∈ d.take (m + 1)) (hm : d[m]? = some v.key)
    (hnd : d.Nodup) : k ∈ d.take m ↔ k ∈ (l₁ ++ l₂).map PacketRecord.key := by
  have htake : d.take (m + 1) = d.take m ++ [v.key] := by rw [List.take_add_one, hm, Option.toList_some]
  have hnd' : (d.take m ++ [v.key]).Nodup := htake ▸ (List.take_sublist _ _).nodup hnd
  have hv : v.key ∉ d.take m := fun hx =>
    (List.nodup_append.mp hnd').2.2 _ hx _ (List.mem_singleton_self _) rfl
  rw [List.map_append, List.map_cons] at hd
  have hv' : v.key ∉ (l₁ ++ l₂).map PacketRecord.key := by
    rw [List.map_append]
    exact (List.nodup_cons.mp (List.perm_middle.nodup_iff.mp hd)).1
  have hboth := hk k
  rw [htake, List.map_append, List.map_cons, List.perm_middle.mem_iff, List.mem_cons, ← List.map_append,
    List.mem_append, List.mem_singleton] at hboth
  rcases eq_or_ne k v.key with rfl | hne
  · exact iff_of_false hv hv'
  · rw [or_iff_right hne, or_iff_left hne] at hboth
    exact hboth.symm

theorem recent_step (hn : nodeNum ≠ 0) (h : s.Recent) (hm : s.Meets nodeNum c) :
    (s.step nodeNum c).Recent := by
  obtain ⟨occ, n, hh, hrecent⟩ := h
  by_cases hc : c.withUpdate = true ∧ c.p.id ≠ 0
  · obtain ⟨r, hkey, hrx, hstep⟩ := @step_update nodeNum s _ hc.1 hc.2
    have hfind : Findable r.key := hkey ▸ getFrom_findable hn hc.2
    have hlen : s.history.recentPackets.length = occ.length + n := by
      rw [hh.slots, List.length_append, List.length_replicate]
    have hocc := Recent.length_eq hh hrecent
    rw [hstep]
    unfold Recent
    dsimp only
    rw [← hkey, recency_cons]
    have hslots : ∀ {l : List PacketRecord} {m : ℕ},
        (s.history.insert c.nowInsert r).Holds l m →
          (s.history.insert c.nowInsert r).recentPackets.length = l.length + m := fun hl => by
      rw [hl.slots, List.length_append, List.length_replicate]
    rcases @insert_cases _ c.nowInsert _ _ _ hh hfind hrx with ⟨l₁, it, l₂, rfl, hit, hi⟩ |
      ⟨hnew, m, rfl, hi⟩ | ⟨hnew, rfl, hfull⟩
    · refine ⟨_, _, hi, fun k => ?_⟩
      have hmem : r.key ∈ (recency s.log).take s.history.recentPackets.length := by
        rw [← hrecent, List.map_append, List.map_cons, hit]
        exact List.mem_append_right _ (List.mem_cons_self ..)
      have hsame : (s.history.insert c.nowInsert r).recentPackets.length =
          s.history.recentPackets.length := by
        rw [hslots hi, hlen, List.length_append, List.length_append, List.length_cons, List.length_cons]
      rw [hsame, take_note_mem hmem, ← hrecent, List.map_append, List.map_append, List.map_cons,
        List.map_cons, hit]
    · refine ⟨_, _, hi, fun k => ?_⟩
      have hshort : (recency s.log).length ≤ occ.length := by omega
      have hall : ∀ x, x ∈ occ.map PacketRecord.key ↔ x ∈ recency s.log := fun x => by
        rw [hrecent, List.take_of_length_le (by omega)]
      have hsame : (s.history.insert c.nowInsert r).recentPackets.length = occ.length + m + 1 := by
        rw [hslots hi, List.length_append, List.length_singleton]
        omega
      have hnot : r.key ∉ (recency s.log).take (occ.length + m + 1) := fun hx =>
        hnew ((hall _).mpr (List.mem_of_mem_take hx))
      rw [hsame, take_note_new hnot, List.take_of_length_le (by omega), ← hall, List.map_append,
        List.map_singleton, List.mem_append, List.mem_singleton, or_comm]
    · have hcap : s.history.recentPackets = occ := by
        rw [hh.slots, List.replicate_zero, List.append_nil]
      obtain ⟨l₁, v, l₂, hsplit, hage, h₁, h₂⟩ := hm hc.1 hc.2
        (Option.isNone_iff_eq_none.mpr ((find_eq_none_iff hh (hkey ▸ hfind)).mpr (hkey ▸ hnew)))
        (by rw [hcap]; exact fun x hx => blank_false (hh.findable x hx))
      have hother := hh.other hnew
      rw [hcap] at hsplit
      rw [hsplit] at hother
      have hscan : scan c.nowInsert r occ 0 0 none = some l₁.length := by
        rw [hsplit, scan_oldest hother hage (fun x hx => (h₁ x hx).1) (fun x hx => (h₂ x hx).1),
          Nat.zero_add]
      rcases hfull with ⟨hnone, _⟩ | ⟨l₁', v', l₂', hsplit', hscan', hi⟩
      · exact absurd (hscan.symm.trans hnone) (Option.some_ne_none _)
      obtain ⟨rfl, hrest⟩ := List.append_inj (hsplit'.symm.trans hsplit)
        (Option.some.inj (hscan'.symm.trans hscan))
      obtain ⟨rfl, rfl⟩ := List.cons.inj hrest
      have hsize : occ.length = l₁'.length + l₂'.length + 1 := by
        rw [hsplit, List.length_append, List.length_cons]
        omega
      refine ⟨_, _, hi, fun k => ?_⟩
      rw [hcap, hsize, hsplit] at hrecent
      have hlast := OldestFirst.last (fun k hk => mem_recency.mp (List.mem_of_mem_take ((hrecent k).mp hk)))
        hrecent (by omega) (fun x hx => (h₁ x hx).2) fun x hx => (h₂ x hx).2
      have hvlog : v'.key ∈ s.log := mem_recency.mp (List.mem_of_mem_take ((hrecent v'.key).mp
        (List.mem_map_of_mem (List.mem_append_right _ (List.mem_cons_self ..)))))
      have hget := getElem_since hvlog
      rw [hlast] at hget
      have hd := hh.distinct
      rw [hsplit] at hd hnew
      rw [hslots hi, List.length_append, List.length_cons, ← Nat.add_assoc, Nat.add_zero,
        take_note_new fun hx => hnew ((hrecent _).mpr hx), kept_iff hd hrecent hget (recency_nodup _)]
      simp only [List.map_append, List.map_cons, List.mem_append, List.mem_cons]
      exact or_left_comm
  · rw [step_other hc]
    exact ⟨occ, n, hh, hrecent⟩

theorem start_recent (size : ℕ) : (start size).Recent :=
  ⟨[], size, start_holds size, fun k => by
    show k ∈ [] ↔ k ∈ List.take _ []
    rw [List.take_nil]⟩

theorem start_tidy (size : ℕ) : (start size).Tidy :=
  ⟨[], size, start_holds size, fun _ hk => absurd hk List.not_mem_nil⟩

theorem Tidy.distinct (h : s.Tidy) : s.Distinct := by
  obtain ⟨occ, n, hh, _⟩ := h
  unfold Distinct
  rw [hh.slots]
  refine List.pairwise_append.mpr ⟨?_, ?_, fun x _ y hy => Or.inr (Or.inl ?_)⟩
  · exact (List.pairwise_map.mp hh.distinct).imp fun hne => Or.inr (Or.inr hne)
  · exact List.pairwise_replicate.mpr (Or.inr (Or.inl rfl))
  · rw [(List.mem_replicate.mp hy).2]
    rfl

theorem Tidy.sound (hn : nodeNum ≠ 0) (h : s.Tidy) : s.Sound nodeNum := by
  obtain ⟨occ, n, hh, hlog⟩ := h
  exact fun c hc => hlog _ ((seen_iff hn hh).mp hc).2

theorem Recent.window (hn : nodeNum ≠ 0) (h : s.Recent) : s.Window nodeNum := by
  obtain ⟨occ, n, hh, hrecent⟩ := h
  intro c hid hlog hsince
  exact (seen_iff hn hh).mpr ⟨hid, (hrecent _).mpr (mem_take hlog hsince)⟩

/-- After any calls the packets in the history are distinct and were recorded; and if every call met
its condition, a packet is seen until as many others were recorded as there are slots. -/
theorem window_run (hn : nodeNum ≠ 0) (size : ℕ) (calls : List SeenCall) :
    (run (step nodeNum) (start size) calls).Distinct ∧
      (run (step nodeNum) (start size) calls).Sound nodeNum ∧
      (Along (step nodeNum) (Meets nodeNum) (start size) calls →
        (run (step nodeNum) (start size) calls).Window nodeNum) := by
  have htidy : (run (step nodeNum) (start size) calls).Tidy :=
    run_keeps (fun _ c h => tidy_step hn h c) (start_tidy size)
  exact ⟨htidy.distinct, htidy.sound hn, fun h =>
    (run_invariant (fun s c hs hm => recent_step hn hs hm) (start_recent size) h).window hn⟩

/-- A packet of node 9 that is recorded at a time. -/
def arrival (id now : UInt32) : SeenCall :=
  ⟨{ MeshPacket.zero with from' := 9, to' := nodenumBroadcast, id := id }, true, now, now⟩

theorem window_two : (7 : UInt32) ≠ 0 ∧
    (run (step 7) (start 4) [arrival 1 10, arrival 2 20]).Distinct :=
  ⟨by decide, (@window_run 7 (by decide) 4 [arrival 1 10, arrival 2 20]).1⟩

/-- Of five packets in the same millisecond a history of four slots does not keep the last. -/
theorem fifth_forgotten : ¬ (run (step 7) (start 4)
    [arrival 1 5, arrival 2 5, arrival 3 5, arrival 4 5, arrival 5 5]).Window 7 := by
  intro h
  have hseen := h (arrival 5 5) (by decide) (by decide +kernel) (by decide +kernel)
  exact absurd hseen (by decide +kernel)

end HistoryRun
end MonsterMesh

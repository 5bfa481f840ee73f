import Mathlib.Data.Finset.Card
import Mathlib.Data.Finset.Dedup
import Mathlib.Data.List.Nodup
import Mathlib.Data.List.TakeWhile

/-! Keys in the order of their last use, and how many others were used since. A log has its last entry
first. -/
namespace Recency

variable {κ : Type} [DecidableEq κ] {k x : κ} {d log : List κ} {n : ℕ}

/-- `k` is used. -/
def note (k : κ) (d : List κ) : List κ := k :: d.erase k

/-- The keys of a log, the last used first. -/
def recency (log : List κ) : List κ := log.foldr note []

/-- How many others are in the log since `k` was last. -/
def since (k : κ) (log : List κ) : ℕ := (log.takeWhile (· ≠ k)).toFinset.card

theorem recency_cons (k : κ) (log : List κ) : recency (k :: log) = note k (recency log) := rfl

theorem note_nodup (h : d.Nodup) : (note k d).Nodup := List.nodup_cons.mpr ⟨h.not_mem_erase, h.erase k⟩

theorem recency_nodup (log : List κ) : (recency log).Nodup := by
  induction log with
  | nil => exact List.nodup_nil
  | cons k log ih => exact note_nodup ih

theorem mem_note : x ∈ note k d ↔ x = k ∨ x ∈ d := by
  unfold note
  rw [List.mem_cons]
  rcases eq_or_ne x k with rfl | hne
  · exact iff_of_true (Or.inl rfl) (Or.inl rfl)
  · rw [List.mem_erase_of_ne hne]

theorem mem_recency : x ∈ recency log ↔ x ∈ log := by
  induction log with
  | nil => rfl
  | cons k log ih => rw [recency_cons, mem_note, ih, List.mem_cons]

/-- What is in front of `k` before `a` is used is in front of it afterwards, and so is `a`. -/
theorem takeWhile_note {a : κ} (h : d.Nodup) (ha : a ≠ k) :
    ((note a d).takeWhile (· ≠ k)).toFinset = insert a (d.takeWhile (· ≠ k)).toFinset := by
  have herase : ((d.erase a).takeWhile (· ≠ k)) = (d.takeWhile (· ≠ k)).erase a := by
    induction d with
    | nil => rfl
    | cons b d ih =>
      obtain ⟨hb, hd⟩ := List.nodup_cons.mp h
      by_cases hba : b = a
      · subst hba
        rw [List.erase_cons_head, List.takeWhile_cons_of_pos (by simpa using ha), List.erase_cons_head]
      · rw [List.erase_cons_tail (by simpa using hba)]
        by_cases hbk : b = k
        · subst hbk
          rw [List.takeWhile_cons_of_neg (by simp), List.takeWhile_cons_of_neg (by simp)]
          rfl
        · rw [List.takeWhile_cons_of_pos (by simpa using hbk),
            List.takeWhile_cons_of_pos (by simpa using hbk), List.erase_cons_tail (by simpa using hba), ih hd]
  unfold note
  rw [List.takeWhile_cons_of_pos (by simpa using ha), herase, List.toFinset_cons]
  ext y
  rw [Finset.mem_insert, Finset.mem_insert, List.mem_toFinset, List.mem_toFinset]
  rcases eq_or_ne y a with rfl | hne
  · exact iff_of_true (Or.inl rfl) (Or.inl rfl)
  · rw [List.mem_erase_of_ne hne]

/-- The keys in front of `k` are those that were used since. -/
theorem takeWhile_recency (hk : k ∈ log) :
    ((recency log).takeWhile (· ≠ k)).toFinset = (log.takeWhile (· ≠ k)).toFinset := by
  induction log with
  | nil => cases hk
  | cons a log ih =>
    rw [recency_cons]
    by_cases ha : a = k
    · subst ha
      unfold note
      rw [List.takeWhile_cons_of_neg (by simp), List.takeWhile_cons_of_neg (by simp)]
    · rw [takeWhile_note (recency_nodup log) ha, List.takeWhile_cons_of_pos (by simpa using ha),
        List.toFinset_cons, ih ((List.mem_cons.mp hk).resolve_left fun h => ha h.symm)]

theorem length_takeWhile (hk : k ∈ log) : ((recency log).takeWhile (· ≠ k)).length = since k log := by
  have hnd : ((recency log).takeWhile (· ≠ k)).Nodup :=
    (List.takeWhile_sublist _).nodup (recency_nodup log)
  unfold since
  rw [← takeWhile_recency hk, List.toFinset_card_of_nodup hnd]

/-- A key is where as many are in front of it as were used since. -/
theorem getElem_since (hk : k ∈ log) : (recency log)[since k log]? = some k := by
  have hmem : k ∈ recency log := mem_recency.mpr hk
  have hsplit := List.takeWhile_append_dropWhile (p := (· ≠ k)) (l := recency log)
  have hhead : ∃ rest, (recency log).dropWhile (· ≠ k) = k :: rest := by
    cases hd : (recency log).dropWhile (· ≠ k) with
    | nil =>
      rw [hd, List.append_nil] at hsplit
      rw [← hsplit] at hmem
      exact absurd (List.mem_takeWhile_imp hmem) (by simp)
    | cons y rest =>
      have hy := List.head?_dropWhile_not (· ≠ k) (recency log)
      rw [hd] at hy
      obtain rfl : y = k := by simpa using hy
      exact ⟨rest, rfl⟩
  obtain ⟨rest, hrest⟩ := hhead
  rw [← hsplit, hrest, ← length_takeWhile hk, List.getElem?_append_right (le_refl _), Nat.sub_self]
  rfl

theorem mem_take (hk : k ∈ log) (hn : since k log < n) : k ∈ (recency log).take n := by
  obtain ⟨hlt, hget⟩ := List.getElem?_eq_some_iff.mp (getElem_since hk)
  exact List.mem_take_iff_getElem.mpr ⟨since k log, Nat.lt_min.mpr ⟨hn, hlt⟩, hget⟩

/-! ### The keys used last -/

/-- Using one of the last `n` leaves the last `n` what they were. -/
theorem take_note_mem (hk : k ∈ d.take n) : x ∈ (note k d).take n ↔ x ∈ d.take n := by
  cases n with
  | zero => exact absurd hk (by simp)
  | succ n =>
    obtain ⟨l₁, l₂, hd, hl₁⟩ : ∃ l₁ l₂, d = l₁ ++ k :: l₂ ∧ k ∉ l₁ :=
      List.eq_append_cons_of_mem (List.mem_of_mem_take hk)
    have hlen : l₁.length ≤ n := by
      by_contra hlt
      rw [hd, List.take_append_of_le_length (by omega)] at hk
      exact hl₁ (List.mem_of_mem_take hk)
    have herase : d.erase k = l₁ ++ l₂ := by
      rw [hd, List.erase_append_right _ hl₁, List.erase_cons_head]
    unfold note
    rw [herase, hd, List.take_succ_cons, List.take_append, List.take_append, List.take_of_length_le hlen,
      List.take_of_length_le (Nat.le_succ_of_le hlen), Nat.succ_sub hlen, List.take_succ_cons]
    simp only [List.mem_cons, List.mem_append]
    exact or_left_comm

theorem take_erase (hk : k ∉ d.take n) : (d.erase k).take n = d.take n := by
  have hd : d.erase k = d.take n ++ (d.drop n).erase k := by
    conv_lhs => rw [← List.take_append_drop n d]
    exact List.erase_append_right _ hk
  rw [hd]
  rcases Nat.lt_or_ge d.length n with hlt | hge
  · rw [List.drop_of_length_le (Nat.le_of_lt hlt), List.erase_nil, List.append_nil, List.take_take,
      Nat.min_self]
  · exact List.take_left' (List.length_take_of_le hge)

/-- Using another one drops the last of them, if there are so many. -/
theorem take_note_new (hk : k ∉ d.take (n + 1)) : x ∈ (note k d).take (n + 1) ↔ x = k ∨ x ∈ d.take n := by
  have hk' : k ∉ d.take n := fun h => hk (List.take_subset_take_left d (Nat.le_succ n) h)
  unfold note
  rw [List.take_succ_cons, List.mem_cons, take_erase hk']

end Recency

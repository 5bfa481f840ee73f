import Mathlib.Data.List.Nodup
import Mathlib.Logic.Function.Basic
import Mathlib.Order.Nat

/-! Arrays with a count of the entries in use: lookup, removal by shifting, the scan for the least stamp. -/

/-- What lies at the count and beyond is whatever was last written there. -/
structure Slots (α : Type) where
  slot : ℕ → α
  count : ℕ

namespace Slots

variable {α κ : Type} {t : Slots α} {p : α → Bool} {a : α} {i j n : ℕ}

def entries (t : Slots α) : List α := (List.range t.count).map t.slot

/-- The first entry with `p`. -/
def find (t : Slots α) (p : α → Bool) : Option ℕ := (List.range t.count).find? fun i => p (t.slot i)

def put (t : Slots α) (i : ℕ) (a : α) : Slots α := { t with slot := Function.update t.slot i a }

/-- The next entry comes into use, holding what it held. -/
def grow (t : Slots α) : Slots α := { t with count := t.count + 1 }

/-- A loop over the entries in use. -/
def each (t : Slots α) (f : α → α) : Slots α :=
  { t with slot := fun i => if i < t.count then f (t.slot i) else t.slot i }

/-- Entry `i` goes and those behind it move down. -/
def remove (t : Slots α) (i : ℕ) : Slots α :=
  { slot := fun j => if i ≤ j ∧ j + 1 < t.count then t.slot (j + 1) else t.slot j
    count := t.count - 1 }

/-- The loop that removes the entries with `p`, from entry `i` on. -/
def sweep (p : α → Bool) : ℕ → ℕ → Slots α → Slots α
  | 0, _, t => t
  | fuel + 1, i, t =>
    if i < t.count then
      if p (t.slot i) then sweep p fuel i (t.remove i) else sweep p fuel (i + 1) t
    else t

def removeAll (t : Slots α) (p : α → Bool) : Slots α := sweep p t.count 0 t

/-- The entries are written back in another order. -/
def refill (t : Slots α) (l : List α) : Slots α :=
  { slot := fun i => l[i]?.getD (t.slot i), count := l.length }

/-- The loop that moves the entries with `p` to the front and rewrites each: the last `n` entries are left, from
entry `i` on, and the next goes to `newPos`. -/
def pack (p : α → Bool) (f : α → α) : ℕ → ℕ → ℕ → Slots α → Slots α × ℕ
  | 0, _, newPos, t => (t, newPos)
  | n + 1, i, newPos, t =>
    if p (t.slot i) then pack p f n (i + 1) (newPos + 1) ((t.put i (f (t.slot i))).put newPos (f (t.slot i)))
    else pack p f n (i + 1) newPos t

def packed (t : Slots α) (p : α → Bool) (f : α → α) : Slots α :=
  let r := pack p f t.count 0 0 t
  { r.1 with count := r.2 }

/-- The scan for the least stamp: entry 0 unless another one is below `limit`. -/
def scanLeast (stamp : ℕ → ℕ) (limit n : ℕ) : ℕ × ℕ :=
  (List.range n).foldl (fun best i => if stamp i < best.2 then (i, stamp i) else best) (0, limit)

def least (t : Slots α) (stamp : α → ℕ) (limit : ℕ) : ℕ :=
  (scanLeast (fun i => stamp (t.slot i)) limit t.count).1

/-! ### Entries -/

@[simp] theorem length_entries : t.entries.length = t.count := by
  unfold entries
  rw [List.length_map, List.length_range]

theorem getElem_entries (h : i < t.entries.length) : t.entries[i] = t.slot i := by
  simp only [entries, List.getElem_map, List.getElem_range]

theorem mem_entries : a ∈ t.entries ↔ ∃ i, i < t.count ∧ t.slot i = a := by
  unfold entries
  simp only [List.mem_map, List.mem_range]

theorem entries_ext {l : List α} (hl : l.length = t.count)
    (h : ∀ i (hi : i < l.length), l[i] = t.slot i) : t.entries = l := by
  apply List.ext_getElem
  · rw [length_entries, hl]
  · intro i h₁ h₂
    rw [getElem_entries h₁, h i h₂]

@[simp] theorem count_put : (t.put i a).count = t.count := rfl

@[simp] theorem count_grow : t.grow.count = t.count + 1 := rfl

@[simp] theorem slot_put_self : (t.put i a).slot i = a := Function.update_self ..

theorem entries_put : (t.put i a).entries = t.entries.set i a := by
  apply entries_ext
  · rw [List.length_set, length_entries]
    rfl
  · intro j hj
    rw [List.length_set] at hj
    rw [List.getElem_set, getElem_entries hj]
    unfold put
    by_cases hij : i = j
    · subst hij
      simp
    · simp [hij, Ne.symm hij]

theorem entries_grow_put : (t.grow.put t.count a).entries = t.entries ++ [a] := by
  apply entries_ext
  · rw [List.length_append, length_entries]
    rfl
  · intro j hj
    rw [List.length_append, List.length_singleton, length_entries] at hj
    unfold put grow
    by_cases h : j = t.count
    · subst h
      rw [List.getElem_append_right length_entries.le]
      simp
    · have hlt : j < t.entries.length := by rw [length_entries]; omega
      rw [List.getElem_append_left hlt, getElem_entries hlt]
      simp [h]

theorem entries_each {f : α → α} : (t.each f).entries = t.entries.map f := by
  apply entries_ext
  · rw [List.length_map, length_entries]
    rfl
  · intro j hj
    rw [List.length_map] at hj
    have hlt : j < t.count := by rwa [length_entries] at hj
    rw [List.getElem_map, getElem_entries hj]
    exact (if_pos hlt).symm

theorem entries_remove (h : i < t.count) : (t.remove i).entries = t.entries.eraseIdx i := by
  have hi : i < t.entries.length := by rwa [length_entries]
  apply entries_ext
  · rw [List.length_eraseIdx_of_lt hi, length_entries]
    rfl
  · intro j hj
    rw [List.length_eraseIdx_of_lt hi, length_entries] at hj
    rw [List.getElem_eraseIdx]
    unfold remove
    by_cases hij : i ≤ j
    · rw [dif_neg (by omega), getElem_entries]
      simp only
      rw [if_pos ⟨hij, by omega⟩]
    · rw [dif_pos (by omega), getElem_entries]
      simp only
      rw [if_neg (by omega)]

/-! ### Lookup -/

theorem find_eq_some : t.find p = some i ↔ i < t.count ∧ p (t.slot i) ∧ ∀ j < i, ¬p (t.slot j) := by
  unfold find
  rw [List.find?_range_eq_some]
  simp only [List.mem_range, Bool.not_eq_true']
  constructor
  · rintro ⟨hp, hi, hj⟩
    exact ⟨hi, hp, fun j hlt => by rw [hj j hlt]; exact Bool.false_ne_true⟩
  · rintro ⟨hi, hp, hj⟩
    exact ⟨hp, hi, fun j hlt => Bool.eq_false_iff.mpr (hj j hlt)⟩

theorem find_eq_none : t.find p = none ↔ ∀ i < t.count, ¬p (t.slot i) := by
  unfold find
  simp only [List.find?_eq_none, List.mem_range]

theorem find_eq_none_iff_entries : t.find p = none ↔ ∀ a ∈ t.entries, ¬p a := by
  rw [find_eq_none]
  constructor
  · intro h a ha
    obtain ⟨i, hi, rfl⟩ := mem_entries.mp ha
    exact h i hi
  · intro h i hi
    exact h _ (mem_entries.mpr ⟨i, hi, rfl⟩)

/-! ### Removal -/

theorem entries_sweep {fuel : ℕ} (h : t.count ≤ i + fuel) :
    (sweep p fuel i t).entries = t.entries.take i ++ (t.entries.drop i).filter fun a => !p a := by
  induction fuel generalizing i t with
  | zero =>
    have hle : t.entries.length ≤ i := by rwa [length_entries]
    rw [sweep, List.take_of_length_le hle, List.drop_of_length_le hle, List.filter_nil, List.append_nil]
  | succ fuel ih =>
    rw [sweep]
    by_cases hi : i < t.count
    · have hlt : i < t.entries.length := by rwa [length_entries]
      have hd : t.entries.drop i = t.slot i :: t.entries.drop (i + 1) := by
        rw [List.drop_eq_getElem_cons hlt, getElem_entries]
      rw [if_pos hi, hd]
      by_cases hp : p (t.slot i)
      · have hc : (t.remove i).count ≤ i + fuel := by
          change t.count - 1 ≤ i + fuel
          omega
        rw [if_pos hp, ih hc, entries_remove hi, List.filter_cons_of_neg (by simp [hp])]
        rw [List.eraseIdx_eq_take_drop_succ, List.take_left' (List.length_take_of_le hlt.le),
          List.drop_left' (List.length_take_of_le hlt.le)]
      · rw [if_neg hp, ih (by omega), List.filter_cons_of_pos (by simp [hp]),
          List.take_succ_eq_append_getElem hlt, getElem_entries, List.append_assoc, List.singleton_append]
    · have hle : t.entries.length ≤ i := by rw [length_entries]; omega
      rw [if_neg hi, List.take_of_length_le hle, List.drop_of_length_le hle, List.filter_nil,
        List.append_nil]

/-- The loop leaves exactly the entries without `p`, in their order. -/
theorem entries_removeAll : (t.removeAll p).entries = t.entries.filter fun a => !p a := by
  unfold removeAll
  rw [entries_sweep (Nat.le_add_left _ _), List.take_zero, List.drop_zero, List.nil_append]

theorem count_removeAll : (t.removeAll p).count ≤ t.count := by
  rw [← length_entries, entries_removeAll, ← length_entries (t := t)]
  exact List.length_filter_le _ _

theorem all_remove {P : α → Prop} (h : ∀ j, P (t.slot j)) (i j : ℕ) : P ((t.remove i).slot j) := by
  unfold remove
  dsimp only
  split_ifs
  · exact h (j + 1)
  · exact h j

/-- What holds of every place, used or not, holds of every place after the loop. -/
theorem all_sweep {P : α → Prop} {fuel : ℕ} (h : ∀ j, P (t.slot j)) (j : ℕ) :
    P ((sweep p fuel i t).slot j) := by
  induction fuel generalizing i t with
  | zero => exact h j
  | succ fuel ih =>
    rw [sweep]
    split_ifs
    · exact ih (all_remove h i)
    · exact ih h
    · exact h j

theorem all_put {P : α → Prop} (h : ∀ j, P (t.slot j)) (ha : P a) (j : ℕ) : P ((t.put i a).slot j) := by
  unfold put
  dsimp only
  rcases eq_or_ne j i with rfl | hj
  · rwa [Function.update_self]
  · rw [Function.update_of_ne hj]
    exact h j

/-! ### Rewriting in place -/

@[simp] theorem entries_refill {l : List α} : (t.refill l).entries = l :=
  entries_ext rfl fun i hi => by
    change l[i] = l[i]?.getD (t.slot i)
    rw [List.getElem?_eq_getElem hi]
    rfl

@[simp] theorem count_refill {l : List α} : (t.refill l).count = l.length := rfl

theorem slot_put_of_ne (h : j ≠ i) : (t.put i a).slot j = t.slot j := Function.update_of_ne h ..

theorem pack_spec {f : α → α} {newPos : ℕ} (h : newPos ≤ i) :
    (List.range (pack p f n i newPos t).2).map (pack p f n i newPos t).1.slot =
      (List.range newPos).map t.slot ++ (((List.range' i n).map t.slot).filter p).map f := by
  induction n generalizing i newPos t with
  | zero => exact (List.append_nil _).symm
  | succ n ih =>
    rw [pack, List.range'_succ, List.map_cons]
    by_cases hp : p (t.slot i)
    · rw [if_pos hp, ih (Nat.succ_le_succ h), List.filter_cons_of_pos hp, List.map_cons, List.range_succ,
        List.map_append, List.map_singleton, slot_put_self]
      have hfront : (List.range newPos).map ((t.put i (f (t.slot i))).put newPos (f (t.slot i))).slot =
          (List.range newPos).map t.slot := by
        refine List.map_congr_left fun j hj => ?_
        have hj := List.mem_range.mp hj
        rw [slot_put_of_ne (by omega), slot_put_of_ne (by omega)]
      have hback : (List.range' (i + 1) n).map ((t.put i (f (t.slot i))).put newPos (f (t.slot i))).slot =
          (List.range' (i + 1) n).map t.slot := by
        refine List.map_congr_left fun j hj => ?_
        have hj := (List.mem_range'_1.mp hj).1
        rw [slot_put_of_ne (by omega), slot_put_of_ne (by omega)]
      rw [hfront, hback, List.append_assoc, List.singleton_append]
    · rw [if_neg hp, ih (Nat.le_succ_of_le h), List.filter_cons_of_neg hp]

/-- The loop leaves the entries with `p`, rewritten, in their order. -/
theorem entries_packed {f : α → α} : (t.packed p f).entries = (t.entries.filter p).map f := by
  have h := pack_spec (t := t) (p := p) (f := f) (n := t.count) (Nat.le_refl 0)
  rw [List.range_zero, List.map_nil, List.nil_append, ← List.range_eq_range'] at h
  exact h

theorem count_packed {f : α → α} : (t.packed p f).count ≤ t.count := by
  rw [← length_entries, entries_packed, List.length_map, ← length_entries (t := t)]
  exact List.length_filter_le _ _

/-! ### The least stamp -/

variable {stamp : α → ℕ} {limit : ℕ}

theorem scanLeast_spec {f : ℕ → ℕ} (h : ∀ i < n, f i ≤ limit) :
    (∀ i < n, (scanLeast f limit n).2 ≤ f i) ∧
      (0 < n → (scanLeast f limit n).1 < n ∧ f (scanLeast f limit n).1 = (scanLeast f limit n).2) ∧
      (n = 0 → scanLeast f limit n = (0, limit)) := by
  induction n with
  | zero => exact ⟨fun i hi => absurd hi (Nat.not_lt_zero i), fun hi => absurd hi (lt_irrefl 0), fun _ => rfl⟩
  | succ n ih =>
    obtain ⟨hle, hat, hzero⟩ := ih fun i hi => h i (by omega)
    have hs : scanLeast f limit (n + 1) =
        if f n < (scanLeast f limit n).2 then (n, f n) else scanLeast f limit n := by
      unfold scanLeast
      rw [List.range_succ, List.foldl_append]
      rfl
    rw [hs]
    by_cases hn : f n < (scanLeast f limit n).2
    · rw [if_pos hn]
      refine ⟨fun i hi => ?_, fun _ => ⟨Nat.lt_succ_self n, rfl⟩, fun h => absurd h (Nat.succ_ne_zero n)⟩
      rcases Nat.lt_succ_iff_lt_or_eq.mp hi with hi | rfl
      · exact Nat.le_of_lt (Nat.lt_of_lt_of_le hn (hle i hi))
      · exact le_rfl
    · rw [if_neg hn]
      refine ⟨fun i hi => ?_, fun _ => ?_, fun h => absurd h (Nat.succ_ne_zero n)⟩
      · rcases Nat.lt_succ_iff_lt_or_eq.mp hi with hi | rfl
        · exact hle i hi
        · exact Nat.not_lt.mp hn
      · rcases Nat.eq_zero_or_pos n with rfl | hpos
        · rw [hzero rfl] at hn ⊢
          exact ⟨Nat.zero_lt_one, le_antisymm (h 0 Nat.zero_lt_one) (Nat.not_lt.mp hn)⟩
        · obtain ⟨hlt, heq⟩ := hat hpos
          exact ⟨by omega, heq⟩

theorem least_lt (h : ∀ a, stamp a ≤ limit) (hpos : 0 < t.count) : t.least stamp limit < t.count :=
  ((scanLeast_spec fun _ _ => h _).2.1 hpos).1

theorem least_le (stamp : α → ℕ) (h : ∀ a, stamp a ≤ limit) (hi : i < t.count) :
    stamp (t.slot (t.least stamp limit)) ≤ stamp (t.slot i) := by
  obtain ⟨hle, hat, -⟩ := scanLeast_spec (n := t.count) fun j _ => h (t.slot j)
  exact (hat (Nat.zero_lt_of_lt hi)).2.trans_le (hle i hi)

/-! ### Keys -/

variable {key : α → κ}

/-- No two entries in use have the same key. -/
def Distinct (t : Slots α) (key : α → κ) : Prop := (t.entries.map key).Nodup

theorem Distinct.eq (h : t.Distinct key) (hi : i < t.count) (hj : j < t.count)
    (hij : key (t.slot i) = key (t.slot j)) : i = j := by
  have hi' : i < (t.entries.map key).length := by rwa [List.length_map, length_entries]
  have hj' : j < (t.entries.map key).length := by rwa [List.length_map, length_entries]
  have he : (t.entries.map key)[i] = (t.entries.map key)[j] := by
    rw [List.getElem_map, List.getElem_map, getElem_entries, getElem_entries, hij]
  exact (List.Nodup.getElem_inj_iff h).mp he

theorem Distinct.put (h : t.Distinct key) (ha : ∀ b ∈ t.entries, key b ≠ key a) :
    (t.put i a).Distinct key := by
  unfold Distinct
  rw [entries_put, List.map_set]
  apply List.Nodup.set h
  intro hm
  obtain ⟨b, hb, hk⟩ := List.mem_map.mp hm
  exact ha b hb hk

theorem Distinct.put_same (h : t.Distinct key) (hi : i < t.count) (ha : key a = key (t.slot i)) :
    (t.put i a).Distinct key := by
  have hlt : i < (t.entries.map key).length := by rwa [List.length_map, length_entries]
  have hk : (t.entries.map key)[i] = key a := by rw [List.getElem_map, getElem_entries, ha]
  unfold Distinct
  rw [entries_put, List.map_set, ← hk, List.set_getElem_self]
  exact h

theorem Distinct.grow_put (h : t.Distinct key) (ha : ∀ b ∈ t.entries, key b ≠ key a) :
    (t.grow.put t.count a).Distinct key := by
  unfold Distinct
  rw [entries_grow_put, List.map_append, List.nodup_append]
  refine ⟨h, List.nodup_singleton _, ?_⟩
  intro k hk k' hk' he
  obtain ⟨b, hb, rfl⟩ := List.mem_map.mp hk
  rw [List.map_singleton, List.mem_singleton] at hk'
  exact ha b hb (he.trans hk')

theorem Distinct.each {f : α → α} (h : t.Distinct key) (hf : ∀ a, key (f a) = key a) :
    (t.each f).Distinct key := by
  unfold Distinct
  rw [entries_each, List.map_map, show key ∘ f = key from funext hf]
  exact h

theorem Distinct.removeAll (h : t.Distinct key) : (t.removeAll p).Distinct key := by
  unfold Distinct
  rw [entries_removeAll]
  exact h.sublist (List.filter_sublist.map key)

end Slots

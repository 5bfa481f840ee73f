import Mathlib.Data.List.FinRange
import Mathlib.Logic.Function.Basic
import MonsterMesh.Data.Moves
import MonsterMesh.Data.Species

/-! The moves that leaders gain with the NG+ tier. -/
namespace MonsterMesh

namespace NgPlus

/-- The moves of one mon. -/
abbrev MoveSlots := Fin 4 → UInt8

/-- The coverage move of each type. -/
def kCoverageByType : List UInt8 := [36, 70, 19, 188, 89, 88, 19, 63, 122, 53, 56, 76, 87, 94, 58, 82]

def coverage (type : UInt8) : UInt8 := if type < 16 then kCoverageByType.getD type.toNat 0 else 0

def cov1 (dex : UInt8) : UInt8 := coverage (gen1BaseStats dex).type1

def cov2 (dex : UInt8) : UInt8 :=
  if (gen1BaseStats dex).type2 ≠ (gen1BaseStats dex).type1 then coverage (gen1BaseStats dex).type2 else 0

def slot2 : Fin 4 := ⟨2, by decide⟩

def slot3 : Fin 4 := Fin.last 3

/-- Having no move to learn counts as knowing it. -/
def has (moves : MoveSlots) (mv : UInt8) : Bool :=
  mv == 0 || (List.finRange 4).any fun i => moves i == mv

/-- A buff of 0 leaves the slot alone. -/
def put (moves : MoveSlots) (slot : Fin 4) (mv : UInt8) : MoveSlots :=
  if mv = 0 then moves else Function.update moves slot mv

def firstBuff (cov1 cov2 : UInt8) (moves : MoveSlots) : UInt8 :=
  if !has moves cov1 then cov1 else if !has moves cov2 then cov2 else 0

def secondBuff (cov1 cov2 firstBuff : UInt8) (moves : MoveSlots) : UInt8 :=
  if cov1 ≠ firstBuff ∧ !has moves cov1 then cov1
  else if cov2 ≠ firstBuff ∧ !has moves cov2 then cov2
  else 0

/-- The last slot gets a coverage move that is missing. -/
def firstTier (cov1 cov2 : UInt8) (moves : MoveSlots) : MoveSlots :=
  put moves slot3 (firstBuff cov1 cov2 moves)

/-- The third slot gets the other one, where it is missing after that. -/
def secondTier (cov1 cov2 : UInt8) (moves : MoveSlots) : MoveSlots :=
  put (firstTier cov1 cov2 moves) slot2
    (secondBuff cov1 cov2 (firstBuff cov1 cov2 moves) (firstTier cov1 cov2 moves))

/-- The move the source calls Hyper Beam takes the last slot. -/
def thirdTier (moves : MoveSlots) : MoveSlots :=
  if !has moves 99 then Function.update moves slot3 99 else moves

def lordApplyNgPlusMoves (dex tier : UInt8) (moves : MoveSlots) : MoveSlots :=
  if tier = 0 then moves
  else if 152 ≤ dex then moves
  else
    let second := if 2 ≤ tier then secondTier (cov1 dex) (cov2 dex) moves
      else firstTier (cov1 dex) (cov2 dex) moves
    if 3 ≤ tier then thirdTier second else second

/-! ### Which moves are known -/

/-- A move is in one of the first `n` slots. -/
def Among (n : ℕ) (m : MoveSlots) (x : UInt8) : Prop := ∃ i : Fin 4, i.val < n ∧ m i = x

def Knows (m : MoveSlots) (x : UInt8) : Prop := ∃ i, m i = x

variable {m r : MoveSlots} {a b c₁ c₂ x : UInt8} {n : ℕ} {k : Fin 4}

instance (n : ℕ) (m : MoveSlots) (x : UInt8) : Decidable (Among n m x) :=
  decidable_of_iff ((List.finRange 4).any fun i => decide (i.val < n) && m i == x)
    (by unfold Among; simp)

instance (m : MoveSlots) (x : UInt8) : Decidable (Knows m x) :=
  decidable_of_iff ((List.finRange 4).any fun i => m i == x) (by unfold Knows; simp)

theorem has_iff : has m x = true ↔ x = 0 ∨ Knows m x := by
  unfold has Knows
  simp

theorem has_eq_false_iff : has m x = false ↔ x ≠ 0 ∧ ¬ Knows m x := by
  rw [← Bool.not_eq_true, has_iff, not_or]

theorem Among.knows (h : Among n m x) : Knows m x := by
  obtain ⟨i, -, hi⟩ := h
  exact ⟨i, hi⟩

theorem Among.mono {n' : ℕ} (h : Among n m x) (hn : n ≤ n') : Among n' m x := by
  obtain ⟨i, hlt, hi⟩ := h
  exact ⟨i, hlt.trans_le hn, hi⟩

/-- A move is in the last slot or before it. -/
theorem knows_iff : Knows m x ↔ Among 3 m x ∨ m slot3 = x := by
  constructor
  · rintro ⟨i, hi⟩
    by_cases h : i.val < 3
    · exact .inl ⟨i, h, hi⟩
    · have hlast : i = slot3 := Fin.ext (by
        show i.val = 3
        omega)
      exact .inr (hlast ▸ hi)
  · rintro (h | h)
    · exact h.knows
    · exact ⟨slot3, h⟩

theorem among_three_iff : Among 3 m x ↔ Among 2 m x ∨ m slot2 = x := by
  constructor
  · rintro ⟨i, hlt, hi⟩
    by_cases h : i.val < 2
    · exact .inl ⟨i, h, hi⟩
    · have hlast : i = slot2 := Fin.ext (by
        show i.val = 2
        omega)
      exact .inr (hlast ▸ hi)
  · rintro (h | h)
    · exact h.mono (by decide)
    · exact ⟨slot2, by decide, h⟩

/-- What stands before an updated slot stays. -/
theorem among_update (h : n ≤ k.val) : Among n (Function.update m k a) x ↔ Among n m x := by
  have hsame : ∀ i : Fin 4, i.val < n → Function.update m k a i = m i := by
    intro i hi
    refine Function.update_of_ne (fun he => ?_) _ _
    rw [he] at hi
    omega
  unfold Among
  refine exists_congr fun i => and_congr_right fun hi => ?_
  rw [hsame i hi]

theorem knows_update_last : Knows (Function.update m slot3 a) x ↔ x = a ∨ Among 3 m x := by
  rw [knows_iff, among_update (Nat.le_refl 3), Function.update_self, or_comm, eq_comm]

theorem among_update_third :
    Among 3 (Function.update (Function.update m slot3 a) slot2 b) x ↔ x = b ∨ Among 2 m x := by
  rw [among_three_iff, among_update (Nat.le_refl 2), among_update (by decide), Function.update_self, or_comm,
    eq_comm]

theorem update_injective (hm : Function.Injective m) (ha : ¬ Knows m a) :
    Function.Injective (Function.update m k a) := by
  intro i j hij
  by_cases hi : i = k
  · by_cases hj : j = k
    · rw [hi, hj]
    · rw [hi, Function.update_self, Function.update_of_ne hj] at hij
      exact absurd ⟨j, hij.symm⟩ ha
  · by_cases hj : j = k
    · rw [hj, Function.update_self, Function.update_of_ne hi] at hij
      exact absurd ⟨i, hij⟩ ha
    · rw [Function.update_of_ne hi, Function.update_of_ne hj] at hij
      exact hm hij

/-! ### The first two tiers -/

theorem firstBuff_cases (c₁ c₂ : UInt8) (m : MoveSlots) :
    firstBuff c₁ c₂ m = 0 ∧ has m c₁ = true ∧ has m c₂ = true ∨
    firstBuff c₁ c₂ m = c₁ ∧ has m c₁ = false ∨
    firstBuff c₁ c₂ m = c₂ ∧ has m c₁ = true ∧ has m c₂ = false := by
  unfold firstBuff
  cases has m c₁ <;> cases has m c₂ <;> simp

/-- The second buff after a first one of `a`, where `b` is the other coverage move. -/
theorem second_of_first (m : MoveSlots) (hab : a ≠ b) :
    (b = 0 ∨ Among 3 m b) ∧ has (Function.update m slot3 a) b = true ∨
      b ≠ 0 ∧ ¬ Among 3 m b ∧ has (Function.update m slot3 a) b = false := by
  have hb : has (Function.update m slot3 a) b = true ↔ b = 0 ∨ Among 3 m b := by
    rw [has_iff, knows_update_last]
    exact or_congr_right ⟨fun h => h.resolve_left hab.symm, .inr⟩
  by_cases h : b = 0 ∨ Among 3 m b
  · exact .inl ⟨h, hb.mpr h⟩
  · refine .inr ⟨(not_or.mp h).1, (not_or.mp h).2, ?_⟩
    exact Bool.eq_false_iff.mpr (mt hb.mp h)

/-- Two tiers leave the moves alone, change the last slot or change the last two. -/
theorem secondTier_cases (h₁₂ : c₁ ≠ c₂) :
    (has m c₁ = true ∧ has m c₂ = true ∧ secondTier c₁ c₂ m = m) ∨
    ∃ a b, (a = c₁ ∧ b = c₂ ∨ a = c₂ ∧ b = c₁) ∧ has m a = false ∧
      ((b = 0 ∨ Among 3 m b) ∧ secondTier c₁ c₂ m = Function.update m slot3 a ∨
        b ≠ 0 ∧ ¬ Among 3 m b ∧
          secondTier c₁ c₂ m = Function.update (Function.update m slot3 a) slot2 b) := by
  unfold secondTier firstTier
  rcases firstBuff_cases c₁ c₂ m with ⟨hf, h₁, h₂⟩ | ⟨hf, h₁⟩ | ⟨hf, h₁, h₂⟩
  · left
    have hp : put m slot3 0 = m := if_pos rfl
    have hs : secondBuff c₁ c₂ 0 m = 0 := by
      unfold secondBuff
      simp [h₁, h₂]
    rw [hf, hp, hs]
    exact ⟨h₁, h₂, if_pos rfl⟩
  · right
    have hc : c₁ ≠ 0 := (has_eq_false_iff.mp h₁).1
    have hp : put m slot3 c₁ = Function.update m slot3 c₁ := if_neg hc
    refine ⟨c₁, c₂, .inl ⟨rfl, rfl⟩, h₁, ?_⟩
    rw [hf, hp]
    unfold secondBuff
    rcases second_of_first m h₁₂ with ⟨hb, hh⟩ | ⟨h0, hb, hh⟩
    · refine .inl ⟨hb, ?_⟩
      simp [hh, put]
    · refine .inr ⟨h0, hb, ?_⟩
      simp [hh, put, h0, h₁₂.symm]
  · right
    have hc : c₂ ≠ 0 := (has_eq_false_iff.mp h₂).1
    have hp : put m slot3 c₂ = Function.update m slot3 c₂ := if_neg hc
    refine ⟨c₂, c₁, .inr ⟨rfl, rfl⟩, h₂, ?_⟩
    rw [hf, hp]
    unfold secondBuff
    rcases second_of_first m h₁₂.symm with ⟨hb, hh⟩ | ⟨h0, hb, hh⟩
    · refine .inl ⟨hb, ?_⟩
      simp [hh, put]
    · refine .inr ⟨h0, hb, ?_⟩
      simp [hh, put, h0, h₁₂]

/-- The third slot keeps its move where a coverage move stands before the last slot. -/
def ThirdKept (c₁ c₂ : UInt8) (m : MoveSlots) : Prop := c₂ = 0 ∨ Among 3 m c₁ ∨ Among 3 m c₂

/-- The last slot keeps its move where no coverage move is missing. -/
def LastKept (c₁ c₂ : UInt8) (m : MoveSlots) : Prop := Knows m c₁ ∧ (c₂ = 0 ∨ Knows m c₂)

/-- A move is in a slot that keeps it through two tiers. -/
def Survives (c₁ c₂ : UInt8) (m : MoveSlots) (x : UInt8) : Prop :=
  Among 2 m x ∨ ThirdKept c₁ c₂ m ∧ m slot2 = x ∨ LastKept c₁ c₂ m ∧ m slot3 = x

instance : Decidable (ThirdKept c₁ c₂ m) := inferInstanceAs (Decidable (_ ∨ _))

instance : Decidable (LastKept c₁ c₂ m) := inferInstanceAs (Decidable (_ ∧ _))

instance : Decidable (Survives c₁ c₂ m x) := inferInstanceAs (Decidable (_ ∨ _))

theorem LastKept.third (h : LastKept c₁ c₂ m) (h₁₂ : c₁ ≠ c₂) : ThirdKept c₁ c₂ m := by
  obtain ⟨h₁, h₂⟩ := h
  rcases h₂ with h₂ | h₂
  · exact .inl h₂
  · rcases knows_iff.mp h₁ with h₁ | h₁
    · exact .inr (.inl h₁)
    · rcases knows_iff.mp h₂ with h₂ | h₂
      · exact .inr (.inr h₂)
      · exact absurd (h₁.symm.trans h₂) h₁₂

/-- After two tiers both coverage moves are known, and the moves of the slots that keep theirs. -/
theorem knows_secondTier (h₁₂ : c₁ ≠ c₂) (h₁ : c₁ ≠ 0) (hx : x ≠ 0) :
    Knows (secondTier c₁ c₂ m) x ↔ x = c₁ ∨ x = c₂ ∨ Survives c₁ c₂ m x := by
  unfold Survives
  rcases secondTier_cases (m := m) h₁₂ with ⟨hh₁, hh₂, hr⟩ | ⟨a, b, hab, ha, hr⟩
  · have hlast : LastKept c₁ c₂ m := ⟨(has_iff.mp hh₁).resolve_left h₁, has_iff.mp hh₂⟩
    have hthird := hlast.third h₁₂
    rw [hr, knows_iff, among_three_iff]
    constructor
    · rintro ((h | h) | h)
      · exact .inr (.inr (.inl h))
      · exact .inr (.inr (.inr (.inl ⟨hthird, h⟩)))
      · exact .inr (.inr (.inr (.inr ⟨hlast, h⟩)))
    · rw [← among_three_iff, ← knows_iff]
      rintro (rfl | rfl | h | ⟨-, h⟩ | ⟨-, h⟩)
      · exact hlast.1
      · exact hlast.2.resolve_left hx
      · exact h.knows
      · exact ⟨slot2, h⟩
      · exact ⟨slot3, h⟩
  · obtain ⟨ha0, hak⟩ := has_eq_false_iff.mp ha
    have hlast : ¬ LastKept c₁ c₂ m := by
      rintro ⟨hk₁, hk₂⟩
      rcases hab with ⟨rfl, -⟩ | ⟨rfl, -⟩
      · exact hak hk₁
      · exact hak (hk₂.resolve_left ha0)
    have hcov : x = c₁ ∨ x = c₂ ↔ x = a ∨ x = b := by
      rcases hab with ⟨rfl, rfl⟩ | ⟨rfl, rfl⟩
      · exact Iff.rfl
      · exact or_comm
    rw [← or_assoc, hcov, or_assoc]
    rcases hr with ⟨hb, hr⟩ | ⟨hb0, hb, hr⟩
    · have hthird : ThirdKept c₁ c₂ m := by
        rcases hab with ⟨rfl, rfl⟩ | ⟨rfl, rfl⟩
        · exact hb.imp_right .inr
        · exact .inr (.inl (hb.resolve_left h₁))
      rw [hr, knows_update_last, among_three_iff]
      constructor
      · rintro (h | h | h)
        · exact .inl h
        · exact .inr (.inr (.inl h))
        · exact .inr (.inr (.inr (.inl ⟨hthird, h⟩)))
      · rintro (h | rfl | h | ⟨-, h⟩ | ⟨h, -⟩)
        · exact .inl h
        · exact .inr (among_three_iff.mp (hb.resolve_left hx))
        · exact .inr (.inl h)
        · exact .inr (.inr h)
        · exact absurd h hlast
    · have hthird : ¬ ThirdKept c₁ c₂ m := by
        rcases hab with ⟨rfl, rfl⟩ | ⟨rfl, rfl⟩
        · rintro (h | h | h)
          · exact hb0 h
          · exact hak h.knows
          · exact hb h
        · rintro (h | h | h)
          · exact ha0 h
          · exact hb h
          · exact hak h.knows
      have hlastSlot : Function.update (Function.update m slot3 a) slot2 b slot3 = a := by
        rw [Function.update_of_ne (by decide), Function.update_self]
      rw [hr, knows_iff, among_update_third, hlastSlot]
      constructor
      · rintro ((h | h) | h)
        · exact .inr (.inl h)
        · exact .inr (.inr (.inl h))
        · exact .inl h.symm
      · rintro (h | h | h | ⟨h, -⟩ | ⟨h, -⟩)
        · exact .inr h.symm
        · exact .inl (.inl h)
        · exact .inl (.inr h)
        · exact absurd h hthird
        · exact absurd h hlast

/-- Both coverage moves stand before the last slot. -/
def Early (c₁ c₂ : UInt8) (m : MoveSlots) : Prop := Among 3 m c₁ ∧ (c₂ = 0 ∨ Among 3 m c₂)

instance : Decidable (Early c₁ c₂ m) := inferInstanceAs (Decidable (_ ∧ _))

/-- Two tiers bring no coverage move before the last slot without one into it. -/
theorem early_secondTier (h₁₂ : c₁ ≠ c₂) (h₁ : c₁ ≠ 0) :
    Early c₁ c₂ (secondTier c₁ c₂ m) ↔ secondTier c₁ c₂ m = m ∧ Early c₁ c₂ m := by
  rcases secondTier_cases (m := m) h₁₂ with ⟨-, -, hr⟩ | ⟨a, b, hab, ha, hr⟩
  · rw [hr]
    exact ⟨fun h => ⟨rfl, h⟩, fun h => h.2⟩
  · obtain ⟨ha0, hak⟩ := has_eq_false_iff.mp ha
    have hmiss : ∀ r : MoveSlots, ¬ Among 3 r a → ¬ Early c₁ c₂ r := by
      rintro r hra ⟨he₁, he₂⟩
      rcases hab with ⟨rfl, -⟩ | ⟨rfl, -⟩
      · exact hra he₁
      · exact hra (he₂.resolve_left ha0)
    have hm : ¬ Early c₁ c₂ m := hmiss m fun h => hak h.knows
    have hr' : ¬ Early c₁ c₂ (secondTier c₁ c₂ m) := by
      refine hmiss _ ?_
      rcases hr with ⟨-, hr⟩ | ⟨-, -, hr⟩
      · rw [hr, among_update (Nat.le_refl 3)]
        exact fun h => hak h.knows
      · rw [hr, among_update_third]
        rintro (h | h)
        · rcases hab with ⟨rfl, rfl⟩ | ⟨rfl, rfl⟩
          · exact h₁₂ h
          · exact h₁₂ h.symm
        · exact hak h.knows
    exact ⟨fun h => absurd h hr', fun h => absurd h.2 hm⟩

/-! ### The third tier -/

theorem knows_thirdTier (h : Knows r 99) : thirdTier r = r := by
  have hh : has r 99 = true := has_iff.mpr (.inr h)
  unfold thirdTier
  rw [hh]
  rfl

theorem knows_thirdTier_iff (h : ¬ Knows r 99) : Knows (thirdTier r) x ↔ x = 99 ∨ Among 3 r x := by
  have hh : has r 99 = false := has_eq_false_iff.mpr ⟨by decide, h⟩
  unfold thirdTier
  rw [hh]
  exact knows_update_last

/-- The last tier keeps the coverage moves and leaves Hyper Beam. -/
def Finisher (c₁ c₂ : UInt8) (m : MoveSlots) : Prop :=
  Survives c₁ c₂ m 99 ∧ (c₁ = 63 ∨ c₂ = 63 ∨ Survives c₁ c₂ m 63) ∨ Early c₁ c₂ m ∧ Among 3 m 63

instance : Decidable (Finisher c₁ c₂ m) := inferInstanceAs (Decidable (_ ∨ _))

theorem thirdTier_iff (h₁₂ : c₁ ≠ c₂) (h₁ : c₁ ≠ 0) (h₉₉ : c₁ ≠ 99 ∧ c₂ ≠ 99) :
    (Knows (thirdTier (secondTier c₁ c₂ m)) c₁ ∧ (c₂ = 0 ∨ Knows (thirdTier (secondTier c₁ c₂ m)) c₂)) ∧
      Knows (thirdTier (secondTier c₁ c₂ m)) 63 ↔ Finisher c₁ c₂ m := by
  have hknows : ∀ x, x ≠ 0 → (Knows (secondTier c₁ c₂ m) x ↔ x = c₁ ∨ x = c₂ ∨ Survives c₁ c₂ m x) :=
    fun x hx => knows_secondTier h₁₂ h₁ hx
  have hrage : Knows (secondTier c₁ c₂ m) 99 ↔ Survives c₁ c₂ m 99 := by
    rw [hknows 99 (by decide)]
    exact ⟨fun h => (h.resolve_left h₉₉.1.symm).resolve_left h₉₉.2.symm, fun h => .inr (.inr h)⟩
  unfold Finisher
  by_cases h : Knows (secondTier c₁ c₂ m) 99
  · have hcov : Knows (secondTier c₁ c₂ m) c₁ ∧ (c₂ = 0 ∨ Knows (secondTier c₁ c₂ m) c₂) := by
      refine ⟨(hknows c₁ h₁).mpr (.inl rfl), ?_⟩
      by_cases h0 : c₂ = 0
      · exact .inl h0
      · exact .inr ((hknows c₂ h0).mpr (.inr (.inl rfl)))
    rw [knows_thirdTier h, hknows 63 (by decide)]
    constructor
    · rintro ⟨-, hb⟩
      exact .inl ⟨hrage.mp h, hb.imp Eq.symm (.imp_left Eq.symm)⟩
    · rintro (⟨-, hb⟩ | ⟨hearly, hb⟩)
      · exact ⟨hcov, hb.imp Eq.symm (.imp_left Eq.symm)⟩
      · refine ⟨hcov, .inr (.inr ?_)⟩
        rcases among_three_iff.mp hb with hb | hb
        · exact .inl hb
        · exact .inr (.inl ⟨.inr (.inl hearly.1), hb⟩)
  · have hx : ∀ x, x ≠ 99 → (Knows (thirdTier (secondTier c₁ c₂ m)) x ↔ Among 3 (secondTier c₁ c₂ m) x) := by
      intro x hx
      rw [knows_thirdTier_iff h]
      exact ⟨fun h => h.resolve_left hx, .inr⟩
    have hearly := early_secondTier (m := m) h₁₂ h₁
    rw [hx c₁ h₉₉.1, hx c₂ h₉₉.2, hx 63 (by decide)]
    constructor
    · rintro ⟨he, hb⟩
      obtain ⟨hr, he⟩ := hearly.mp he
      rw [hr] at hb
      exact .inr ⟨he, hb⟩
    · rintro (⟨hs, -⟩ | ⟨he, hb⟩)
      · exact absurd (hrage.mpr hs) h
      · have hr : secondTier c₁ c₂ m = m := by
          rcases secondTier_cases (m := m) h₁₂ with ⟨-, -, hr⟩ | ⟨a, b, hab, ha, -⟩
          · exact hr
          · obtain ⟨ha0, hak⟩ := has_eq_false_iff.mp ha
            rcases hab with ⟨rfl, -⟩ | ⟨rfl, -⟩
            · exact absurd he.1.knows hak
            · exact absurd (he.2.resolve_left ha0).knows hak
        rw [hr]
        exact ⟨he, hb⟩

/-! ### Lists of moves -/

def Valid (x : UInt8) : Prop := (gen1Move x).isSome

instance (x : UInt8) : Decidable (Valid x) := inferInstanceAs (Decidable (_ = true))

/-- Four different moves of the table. -/
structure Lawful (m : MoveSlots) : Prop where
  valid : ∀ i, Valid (m i)
  distinct : Function.Injective m

theorem Lawful.knows (h : Lawful m) (hx : Knows m x) : Valid x := by
  obtain ⟨i, rfl⟩ := hx
  exact h.valid i

theorem Lawful.update (h : Lawful m) (ha : Valid a) (hm : ¬ Knows m a) :
    Lawful (Function.update m k a) := by
  refine ⟨fun i => ?_, update_injective h.distinct hm⟩
  by_cases hi : i = k
  · rw [hi, Function.update_self]
    exact ha
  · rw [Function.update_of_ne hi]
    exact h.valid i

/-- A buff is a move that is missing. -/
theorem Lawful.put (h : Lawful m) (ha : a ≠ 0 → Valid a ∧ ¬ Knows m a) : Lawful (put m k a) := by
  unfold NgPlus.put
  split_ifs with h0
  · exact h
  · exact h.update (ha h0).1 (ha h0).2

theorem Lawful.firstTier (h : Lawful m) (h₁ : Valid c₁) (h₂ : c₂ = 0 ∨ Valid c₂) :
    Lawful (firstTier c₁ c₂ m) := by
  unfold NgPlus.firstTier
  refine h.put fun h0 => ?_
  rcases firstBuff_cases c₁ c₂ m with ⟨hf, -, -⟩ | ⟨hf, hh⟩ | ⟨hf, -, hh⟩
  · exact absurd hf h0
  · rw [hf]
    exact ⟨h₁, (has_eq_false_iff.mp hh).2⟩
  · rw [hf]
    exact ⟨h₂.resolve_left (has_eq_false_iff.mp hh).1, (has_eq_false_iff.mp hh).2⟩

theorem Lawful.secondTier (h : Lawful m) (h₁ : Valid c₁) (h₂ : c₂ = 0 ∨ Valid c₂) :
    Lawful (secondTier c₁ c₂ m) := by
  unfold NgPlus.secondTier
  refine (h.firstTier h₁ h₂).put fun h0 => ?_
  unfold secondBuff at h0 ⊢
  split_ifs at h0 ⊢ with hc₁ hc₂
  · exact ⟨h₁, (has_eq_false_iff.mp (by simpa using hc₁.2)).2⟩
  · have hh := (has_eq_false_iff (x := c₂)).mp (by simpa using hc₂.2)
    exact ⟨h₂.resolve_left hh.1, hh.2⟩
  · exact absurd rfl h0

theorem Lawful.thirdTier (h : Lawful r) : Lawful (thirdTier r) := by
  by_cases hk : Knows r 99
  · rwa [knows_thirdTier hk]
  · have hh : has r 99 = false := has_eq_false_iff.mpr ⟨by decide, hk⟩
    unfold NgPlus.thirdTier
    rw [hh]
    exact h.update (by decide +kernel) hk

/-! ### The species -/

/-- What is known of the two types of a species and their coverage moves. -/
structure Types (t₁ t₂ : UInt8) : Prop where
  first : coverage t₁ ≠ 0 ∧ coverage t₁ ≠ 99
  second : coverage t₂ ≠ 0 ∧ coverage t₂ ≠ 99
  differ : t₁ ≠ t₂ → coverage t₁ ≠ coverage t₂
  valid₁ : t₁ ≠ 3 → Valid (coverage t₁)
  valid₂ : t₂ ≠ 3 → Valid (coverage t₂)

instance (t₁ t₂ : UInt8) : Decidable (Types t₁ t₂) :=
  decidable_of_iff ((coverage t₁ ≠ 0 ∧ coverage t₁ ≠ 99) ∧ (coverage t₂ ≠ 0 ∧ coverage t₂ ≠ 99) ∧
      (t₁ ≠ t₂ → coverage t₁ ≠ coverage t₂) ∧ (t₁ ≠ 3 → Valid (coverage t₁)) ∧ (t₂ ≠ 3 → Valid (coverage t₂)))
    ⟨fun ⟨h₁, h₂, h₃, h₄, h₅⟩ => ⟨h₁, h₂, h₃, h₄, h₅⟩, fun h => ⟨h.1, h.2, h.3, h.4, h.5⟩⟩

theorem types (dex : UInt8) : Types (gen1BaseStats dex).type1 (gen1BaseStats dex).type2 := by
  have hall : ∀ b ∈ gen1BaseStatsTable, Types b.type1 b.type2 := by decide +kernel
  unfold gen1BaseStats
  rw [List.getD_eq_getElem?_getD]
  cases h : gen1BaseStatsTable[dex.toNat]? with
  | none => decide +kernel
  | some b => exact hall b (List.mem_of_getElem? h)

/-- Sludge is not in the table. -/
theorem sludge_not_valid : ¬ Valid (coverage 3) := by decide +kernel

variable {dex tier : UInt8}

/-- A species of one type has no second coverage move. -/
theorem cov2_eq_zero_iff : cov2 dex = 0 ↔ (gen1BaseStats dex).type2 = (gen1BaseStats dex).type1 := by
  unfold cov2
  split_ifs with h
  · exact ⟨fun h0 => absurd h0 (types dex).second.1, fun h0 => absurd h0 h⟩
  · exact ⟨fun _ => not_not.mp h, fun _ => rfl⟩

theorem cov_ne (dex : UInt8) : cov1 dex ≠ cov2 dex := by
  unfold cov2
  split_ifs with h
  · exact (types dex).differ h.symm
  · exact (types dex).first.1

theorem cov_ne_rage : cov1 dex ≠ 99 ∧ cov2 dex ≠ 99 := by
  refine ⟨(types dex).first.2, ?_⟩
  unfold cov2
  split_ifs
  · exact (types dex).second.2
  · decide

def IsPoison (t : UInt8) : Prop := t = 3

instance (t : UInt8) : Decidable (IsPoison t) := inferInstanceAs (Decidable (_ = _))

theorem valid_cov1 : Valid (cov1 dex) ↔ ¬ IsPoison (gen1BaseStats dex).type1 := by
  refine ⟨fun h hp => sludge_not_valid ?_, (types dex).valid₁⟩
  have h3 : (gen1BaseStats dex).type1 = 3 := hp
  rwa [← h3]

theorem valid_cov2 (h₁ : ¬ IsPoison (gen1BaseStats dex).type1) :
    (cov2 dex = 0 ∨ Valid (cov2 dex)) ↔ ¬ IsPoison (gen1BaseStats dex).type2 := by
  by_cases h : (gen1BaseStats dex).type2 = (gen1BaseStats dex).type1
  · rw [h]
    exact ⟨fun _ => h₁, fun _ => .inl (cov2_eq_zero_iff.mpr h)⟩
  · have hc : cov2 dex = coverage (gen1BaseStats dex).type2 := if_pos h
    have h0 : cov2 dex ≠ 0 := fun h0 => h (cov2_eq_zero_iff.mp h0)
    constructor
    · intro hv hp
      have h3 : (gen1BaseStats dex).type2 = 3 := hp
      have hvalid := hv.resolve_left h0
      rw [hc, h3] at hvalid
      exact sludge_not_valid hvalid
    · intro hp
      rw [hc]
      exact .inr ((types dex).valid₂ hp)

/-! ### What a tier promises -/

structure Promised (dex tier : UInt8) (r : MoveSlots) : Prop where
  lawful : Lawful r
  coverage : 2 ≤ tier → Knows r (coverage (gen1BaseStats dex).type1) ∧
    Knows r (NgPlus.coverage (gen1BaseStats dex).type2)
  hyperBeam : 3 ≤ tier → ∃ i, (gen1Move (r i)).map (·.name) = some "Hyper Beam"

/-- The promises of a tier contain those of the ones below. -/
theorem Promised.mono {tier' : UInt8} (h : Promised dex tier r) (ht : tier' ≤ tier) : Promised dex tier' r :=
  ⟨h.lawful, fun h₂ => h.coverage (UInt8.le_trans h₂ ht), fun h₃ => h.hyperBeam (UInt8.le_trans h₃ ht)⟩

theorem hyperBeam_iff : (∃ i, (gen1Move (r i)).map (·.name) = some "Hyper Beam") ↔ Knows r 63 := by
  have hnum : ∀ mv ∈ gen1Moves, mv.name = "Hyper Beam" → mv.num = 63 := by decide +kernel
  have hname : (gen1Move 63).map (·.name) = some "Hyper Beam" := by decide +kernel
  constructor
  · rintro ⟨i, hi⟩
    obtain ⟨mv, hmv, hn⟩ := Option.map_eq_some_iff.mp hi
    have hr : mv.num = r i := eq_of_beq (List.find?_some (p := fun mv : MoveData => mv.num == r i) hmv)
    exact ⟨i, hr.symm.trans (hnum mv (List.mem_of_find?_eq_some hmv) hn)⟩
  · rintro ⟨i, hi⟩
    rw [← hi] at hname
    exact ⟨i, hname⟩

theorem coverage_iff : (Knows r (coverage (gen1BaseStats dex).type1) ∧
    Knows r (coverage (gen1BaseStats dex).type2)) ↔
      Knows r (cov1 dex) ∧ (cov2 dex = 0 ∨ Knows r (cov2 dex)) := by
  refine and_congr_right fun h₁ => ?_
  by_cases h : (gen1BaseStats dex).type2 = (gen1BaseStats dex).type1
  · rw [h]
    exact ⟨fun _ => .inl (cov2_eq_zero_iff.mpr h), fun _ => h₁⟩
  · have hc : cov2 dex = coverage (gen1BaseStats dex).type2 := if_pos h
    rw [← hc]
    exact ⟨.inr, fun h' => h'.resolve_left fun h0 => h (cov2_eq_zero_iff.mp h0)⟩

/-- Where the coverage moves of a list are known, no type is Poison. -/
theorem not_poison (h : Lawful r) (hc : Knows r (cov1 dex) ∧ (cov2 dex = 0 ∨ Knows r (cov2 dex))) :
    ¬ IsPoison (gen1BaseStats dex).type1 ∧ ¬ IsPoison (gen1BaseStats dex).type2 := by
  have h₁ : ¬ IsPoison (gen1BaseStats dex).type1 := valid_cov1.mp (h.knows hc.1)
  exact ⟨h₁, (valid_cov2 h₁).mp (hc.2.imp_right h.knows)⟩

theorem covered_secondTier : Knows (secondTier (cov1 dex) (cov2 dex) m) (cov1 dex) ∧
    (cov2 dex = 0 ∨ Knows (secondTier (cov1 dex) (cov2 dex) m) (cov2 dex)) := by
  have h₁ : cov1 dex ≠ 0 := (types dex).first.1
  refine ⟨(knows_secondTier (cov_ne dex) h₁ h₁).mpr (.inl rfl), ?_⟩
  by_cases h0 : cov2 dex = 0
  · exact .inl h0
  · exact .inr ((knows_secondTier (cov_ne dex) h₁ h0).mpr (.inr (.inl rfl)))

/-- Which of the promises the tiers keep: from the third on the last slot costs what is in it. -/
def Kept (dex tier : UInt8) (m : MoveSlots) : Prop :=
  tier = 0 ∨
    tier = 1 ∧ ¬ IsPoison (gen1BaseStats dex).type1 ∧
      (IsPoison (gen1BaseStats dex).type2 → ¬ Knows m (cov1 dex)) ∨
    2 ≤ tier ∧ ¬ IsPoison (gen1BaseStats dex).type1 ∧ ¬ IsPoison (gen1BaseStats dex).type2 ∧
      (3 ≤ tier → Finisher (cov1 dex) (cov2 dex) m)

instance : Decidable (Kept dex tier m) := inferInstanceAs (Decidable (_ ∨ _))

theorem lawful_firstTier_iff (h : Lawful m) : Lawful (firstTier (cov1 dex) (cov2 dex) m) ↔
    ¬ IsPoison (gen1BaseStats dex).type1 ∧ (IsPoison (gen1BaseStats dex).type2 → ¬ Knows m (cov1 dex)) := by
  have h₁ : cov1 dex ≠ 0 := (types dex).first.1
  unfold firstTier put
  rcases firstBuff_cases (cov1 dex) (cov2 dex) m with ⟨hf, hc₁, hc₂⟩ | ⟨hf, hc₁⟩ | ⟨hf, hc₁, hc₂⟩
  · rw [if_pos hf]
    have hk := (has_iff.mp hc₁).resolve_left h₁
    obtain ⟨hp₁, hp₂⟩ := not_poison h ⟨hk, has_iff.mp hc₂⟩
    exact ⟨fun _ => ⟨hp₁, fun hp => absurd hp hp₂⟩, fun _ => h⟩
  · have hk := (has_eq_false_iff.mp hc₁).2
    rw [hf, if_neg h₁]
    constructor
    · intro hl
      exact ⟨valid_cov1.mp (hl.knows (knows_update_last.mpr (.inl rfl))), fun _ => hk⟩
    · rintro ⟨hp₁, -⟩
      exact h.update (valid_cov1.mpr hp₁) hk
  · have hk := (has_iff.mp hc₁).resolve_left h₁
    obtain ⟨h0, hk₂⟩ := has_eq_false_iff.mp hc₂
    have hp₁ := valid_cov1.mp (h.knows hk)
    rw [hf, if_neg h0]
    constructor
    · intro hl
      have hv := hl.knows (knows_update_last.mpr (.inl rfl))
      exact ⟨hp₁, fun hp => absurd hp ((valid_cov2 hp₁).mp (.inr hv))⟩
    · rintro ⟨-, hp₂⟩
      have hv := (valid_cov2 hp₁).mpr fun hp => hp₂ hp hk
      exact h.update (hv.resolve_left h0) hk₂

theorem promised_second_iff (h : Lawful m) (h₂ : ¬ 3 ≤ tier) :
    Promised dex tier (secondTier (cov1 dex) (cov2 dex) m) ↔
      ¬ IsPoison (gen1BaseStats dex).type1 ∧ ¬ IsPoison (gen1BaseStats dex).type2 := by
  constructor
  · intro hp
    exact not_poison hp.lawful covered_secondTier
  · rintro ⟨hp₁, hp₂⟩
    refine ⟨h.secondTier (valid_cov1.mpr hp₁) ((valid_cov2 hp₁).mpr hp₂), ?_, fun h₃ => absurd h₃ h₂⟩
    exact fun _ => coverage_iff.mpr covered_secondTier

theorem promised_third_iff (h : Lawful m) (h₃ : 3 ≤ tier) :
    Promised dex tier (thirdTier (secondTier (cov1 dex) (cov2 dex) m)) ↔
      ¬ IsPoison (gen1BaseStats dex).type1 ∧ ¬ IsPoison (gen1BaseStats dex).type2 ∧
        Finisher (cov1 dex) (cov2 dex) m := by
  have hiff := thirdTier_iff (m := m) (cov_ne dex) (types dex).first.1 cov_ne_rage
  have h₂ : 2 ≤ tier := UInt8.le_trans (by decide) h₃
  constructor
  · intro hp
    have hc := coverage_iff.mp (hp.coverage h₂)
    obtain ⟨hp₁, hp₂⟩ := not_poison hp.lawful hc
    exact ⟨hp₁, hp₂, hiff.mp ⟨hc, hyperBeam_iff.mp (hp.hyperBeam h₃)⟩⟩
  · rintro ⟨hp₁, hp₂, hfin⟩
    obtain ⟨hc, hb⟩ := hiff.mpr hfin
    refine ⟨?_, fun _ => coverage_iff.mpr hc, fun _ => hyperBeam_iff.mpr hb⟩
    exact (h.secondTier (valid_cov1.mpr hp₁) ((valid_cov2 hp₁).mpr hp₂)).thirdTier

theorem promised_iff (hdex : dex < 152) (h : Lawful m) :
    Promised dex tier (lordApplyNgPlusMoves dex tier m) ↔ Kept dex tier m := by
  unfold lordApplyNgPlusMoves Kept
  by_cases h0 : tier = 0
  · rw [if_pos h0, h0]
    refine ⟨fun _ => .inl rfl, fun _ => ⟨h, fun hlt => ?_, fun hlt => ?_⟩⟩
    · exact absurd hlt (by decide)
    · exact absurd hlt (by decide)
  · rw [if_neg h0, if_neg (UInt8.not_le.mpr hdex)]
    dsimp only
    by_cases h₂ : 2 ≤ tier
    · have h1 : tier ≠ 1 := by
        rintro rfl
        exact absurd h₂ (by decide)
      simp only [h0, h1, h₂, false_and, false_or, true_and, if_true]
      by_cases h₃ : 3 ≤ tier
      · rw [if_pos h₃, promised_third_iff h h₃]
        simp only [h₃, true_imp_iff]
      · rw [if_neg h₃, promised_second_iff h h₃]
        simp only [h₃, false_imp_iff, and_true]
    · have h1 : tier = 1 := by
        rw [UInt8.not_le] at h₂
        have hlt := UInt8.lt_iff_toNat_lt.mp h₂
        have hne : tier.toNat ≠ 0 := fun he => h0 (UInt8.toNat_inj.mp he)
        have hval : tier.toNat = 1 := by
          have h2 : (2 : UInt8).toNat = 2 := rfl
          omega
        exact UInt8.toNat_inj.mp hval
      subst h1
      have hone : ¬ (2 : UInt8) ≤ 1 := by decide
      have hthree : ¬ (3 : UInt8) ≤ 1 := by decide
      have hzero : (1 : UInt8) ≠ 0 := by decide
      rw [if_neg hone, if_neg hthree]
      simp only [hone, hzero, false_and, false_or, or_false, true_and]
      rw [← lawful_firstTier_iff h]
      exact ⟨fun hp => hp.lawful, fun hl => ⟨hl, fun h₂ => absurd h₂ hone, fun h₃ => absurd h₃ hthree⟩⟩

/-- The result keeps the promises of its tier and of all before it. -/
theorem ngPlus_promises_iff (dex tier : UInt8) (m : MoveSlots) (hdex : dex < 152) (hm : Lawful m) :
    (Promised dex tier (lordApplyNgPlusMoves dex tier m) ∧
      ∀ t, t < tier → Promised dex t (lordApplyNgPlusMoves dex tier m)) ↔ Kept dex tier m := by
  rw [← promised_iff hdex hm]
  exact ⟨fun h => h.1, fun h => ⟨h, fun t ht => h.mono (UInt8.le_of_lt ht)⟩⟩

def fourMoves (a b c d : UInt8) : MoveSlots := fun i => [a, b, c, d].getD i.val 0

instance (m : MoveSlots) : Decidable (Lawful m) :=
  decidable_of_iff ((∀ i ∈ List.finRange 4, Valid (m i)) ∧
      ∀ i ∈ List.finRange 4, ∀ j ∈ List.finRange 4, m i = m j → i = j)
    ⟨fun ⟨hv, hd⟩ => ⟨fun i => hv i (List.mem_finRange i), fun i j =>
      hd i (List.mem_finRange i) j (List.mem_finRange j)⟩, fun h => ⟨fun i _ => h.valid i, fun _ _ _ _ h' =>
      h.distinct h'⟩⟩

/-- Charmander with Flamethrower, Rage, Hyper Beam and Scratch keeps all of it. -/
theorem ngPlus_promises_charmander :
    Promised 4 5 (lordApplyNgPlusMoves 4 5 (fourMoves 53 99 63 10)) ∧
      ∀ t, t < 5 → Promised 4 t (lordApplyNgPlusMoves 4 5 (fourMoves 53 99 63 10)) :=
  (ngPlus_promises_iff 4 5 (fourMoves 53 99 63 10) (by decide) (by decide +kernel)).mpr (by decide +kernel)

/-- Charmander with Scratch, Growl, Ember and Leer ends with Rage in place of Flamethrower. -/
theorem charmander_gets_rage : Lawful (fourMoves 10 45 52 43) ∧
    ¬ Promised 4 3 (lordApplyNgPlusMoves 4 3 (fourMoves 10 45 52 43)) := by
  have hm : Lawful (fourMoves 10 45 52 43) := by decide +kernel
  refine ⟨hm, fun h => ?_⟩
  have hb := hyperBeam_iff.mp (h.hyperBeam (by decide))
  revert hb
  decide +kernel

end NgPlus
end MonsterMesh

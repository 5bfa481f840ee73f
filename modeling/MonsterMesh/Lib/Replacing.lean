import Mathlib.Data.List.Sublists
import Mathlib.Logic.Function.Basic

/-! Places for a fixed number of items: what is put into a place takes the room of what was there. -/
namespace Replacing

variable {ι α κ : Type} [DecidableEq ι] {victim : (ι → α) → ι} {f : ι → α} {as bs : List α} {a b : α} {i : ι}

/-- `a` goes into the place that is chosen for it. -/
def offer (victim : (ι → α) → ι) (f : ι → α) (a : α) : ι → α := Function.update f (victim f) a

def offers (victim : (ι → α) → ι) (f : ι → α) (as : List α) : ι → α := as.foldl (offer victim) f

/-- One of the items offered took place `i`. -/
def Taken (victim : (ι → α) → ι) (f : ι → α) (as : List α) (i : ι) : Prop :=
  ∃ bs b cs, as = bs ++ b :: cs ∧ victim (offers victim f bs) = i

/-- `b` was put where `a` was. -/
def MadeRoom (victim : (ι → α) → ι) (f : ι → α) (as : List α) (a b : α) : Prop :=
  ∃ bs cs, as = bs ++ b :: cs ∧ offers victim f bs (victim (offers victim f bs)) = a

theorem offers_cons : offers victim f (a :: as) = offers victim (offer victim f a) as := rfl

theorem offer_victim : offer victim f a (victim f) = a := Function.update_self ..

theorem offer_of_ne (h : i ≠ victim f) : offer victim f a i = f i := Function.update_of_ne h ..

/-- A place that nothing took is as it was. -/
theorem offers_of_not_taken (h : ¬ Taken victim f as i) : offers victim f as i = f i := by
  induction as generalizing f with
  | nil => rfl
  | cons a as ih =>
    have hne : i ≠ victim f := fun he => h ⟨[], a, as, rfl, he.symm⟩
    rw [offers_cons, ih, offer_of_ne hne]
    rintro ⟨bs, b, cs, rfl, hi⟩
    exact h ⟨a :: bs, b, cs, rfl, hi⟩

theorem offers_mem (victim : (ι → α) → ι) (f : ι → α) (as : List α) (i : ι) :
    offers victim f as i = f i ∨ offers victim f as i ∈ as := by
  induction as generalizing f with
  | nil => exact .inl rfl
  | cons a as ih =>
    rw [offers_cons]
    rcases ih (offer victim f a) with h | h
    · by_cases hi : i = victim f
      · right
        rw [h, hi, offer_victim]
        exact .head _
      · left
        rw [h, offer_of_ne hi]
    · exact .inr (.tail _ h)

/-- What has a place keeps it or makes room for one of the items offered. -/
theorem stays_or_makes_room (victim : (ι → α) → ι) (as : List α) (h : ∃ i, f i = a) :
    (∃ i, offers victim f as i = a) ∨ ∃ b ∈ as, MadeRoom victim f as a b := by
  induction as generalizing f with
  | nil => exact .inl h
  | cons b as ih =>
    obtain ⟨i, rfl⟩ := h
    by_cases hi : i = victim f
    · exact .inr ⟨b, .head _, [], as, rfl, congrArg f hi.symm⟩
    · rcases ih (f := offer victim f b) ⟨i, offer_of_ne hi⟩ with h | ⟨c, hc, bs, cs, rfl, hm⟩
      · exact .inl h
      · exact .inr ⟨c, .tail _ hc, b :: bs, cs, rfl, hm⟩

/-- An item offered has a place in the end or made room for one offered after it. -/
theorem offered_stays_or_makes_room (victim : (ι → α) → ι) (f : ι → α) (h : a ∈ as) :
    (∃ i, offers victim f as i = a) ∨ ∃ b, [a, b].Sublist as ∧ MadeRoom victim f as a b := by
  obtain ⟨bs, cs, rfl⟩ := List.append_of_mem h
  have hall : offers victim f (bs ++ a :: cs) = offers victim (offer victim (offers victim f bs) a) cs :=
    List.foldl_append ..
  rcases stays_or_makes_room victim cs ⟨_, offer_victim (f := offers victim f bs)⟩ with
    h | ⟨b, hb, ds, es, rfl, hm⟩
  · rw [hall]
    exact .inl h
  · refine .inr ⟨b, ?_, bs ++ a :: ds, es, by simp, ?_⟩
    · exact ((List.singleton_sublist.mpr hb).cons_cons a).trans (List.sublist_append_right ..)
    · rw [show offers victim f (bs ++ a :: ds) = offers victim (offer victim (offers victim f bs) a) ds from
        List.foldl_append ..]
      exact hm

/-- No key is in two places, the blank one apart. -/
def Distinct (key : α → κ) (blank : κ) (f : ι → α) : Prop :=
  ∀ i j, key (f i) = key (f j) → key (f i) ≠ blank → i = j

variable {key : α → κ} {blank : κ}

theorem Distinct.update (h : Distinct key blank f) (i : ι) (ha : ∀ j, key (f j) ≠ key a) :
    Distinct key blank (Function.update f i a) := by
  intro j k hjk hb
  by_cases hj : j = i <;> by_cases hk : k = i
  · rw [hj, hk]
  · subst hj
    rw [Function.update_self, Function.update_of_ne hk] at hjk
    exact absurd hjk.symm (ha k)
  · subst hk
    rw [Function.update_self, Function.update_of_ne hj] at hjk
    exact absurd hjk (ha j)
  · rw [Function.update_of_ne hj, Function.update_of_ne hk] at hjk
    rw [Function.update_of_ne hj] at hb
    exact h j k hjk hb

/-- New items with different keys keep the places different. -/
theorem distinct_offers (h : Distinct key blank f) (hnew : ∀ a ∈ as, ∀ i, key (f i) ≠ key a)
    (hnodup : (as.map key).Nodup) : Distinct key blank (offers victim f as) := by
  induction as generalizing f with
  | nil => exact h
  | cons a as ih =>
    rw [List.map_cons, List.nodup_cons] at hnodup
    refine ih (h.update _ (hnew a (.head _))) (fun b hb i => ?_) hnodup.2
    by_cases hi : i = victim f
    · subst hi
      rw [offer_victim]
      exact fun he => hnodup.1 (he ▸ List.mem_map_of_mem hb)
    · rw [offer_of_ne hi]
      exact hnew b (.tail _ hb) i

end Replacing

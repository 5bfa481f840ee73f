import Mathlib.Data.Nat.Bitwise
import MonsterMesh.Daycare.Achievements

/-! Which achievements a call grants, which it leaves for the next, and which it loses. -/
namespace MonsterMesh

open DaycareAchievement

/-! ### The flag word -/

theorem ctorIdx_inj {a b : DaycareAchievement} (h : a.ctorIdx = b.ctorIdx) : a = b := by
  cases a <;> cases b <;> first | rfl | exact absurd h (by decide)

theorem toNat_bit (a : DaycareAchievement) : a.bit.toNat = 2 ^ a.ctorIdx := by
  cases a <;> rfl

theorem hasAchievement_eq (f : UInt64) (a : DaycareAchievement) :
    hasAchievement f a = f.toNat.testBit a.ctorIdx := by
  have h0 : f &&& a.bit = 0 ↔ f.toNat.testBit a.ctorIdx = false := by
    rw [← UInt64.toNat_inj, UInt64.toNat_and, toNat_bit, Nat.and_two_pow]
    cases f.toNat.testBit a.ctorIdx <;> simp
  unfold hasAchievement
  by_cases hb : f &&& a.bit = 0
  · rw [hb, h0.mp hb]
    rfl
  · rw [bne_iff_ne.mpr hb, eq_comm, ← Bool.not_eq_false]
    exact fun h => hb (h0.mpr h)

theorem has_add (f : UInt64) (a b : DaycareAchievement) :
    hasAchievement (addAchievement f a) b = (b = a || hasAchievement f b) := by
  unfold addAchievement
  rw [hasAchievement_eq, hasAchievement_eq, UInt64.toNat_or, toNat_bit, Nat.testBit_or,
    Nat.testBit_two_pow, Bool.or_comm]
  congr 1
  apply decide_eq_decide.mpr
  exact ⟨fun h => (ctorIdx_inj h).symm, fun h => h ▸ rfl⟩

/-! ### Offers -/

theorem mem_offered {p : Prop} [Decidable p] {a b : DaycareAchievement} :
    a ∈ offered p b ↔ p ∧ a = b := by
  unfold offered
  split_ifs with h
  · rw [List.mem_singleton]
    exact ⟨fun ha => ⟨h, ha⟩, fun ha => ha.2⟩
  · exact ⟨fun ha => absurd ha List.not_mem_nil, fun ha => absurd ha.1 h⟩

namespace DaycareView

variable {v : DaycareView} {nc nc' n : ℕ} {now now' : Instant} {a : DaycareAchievement}

/-- The two kinds of condition that are about the moment of the call. -/
theorem lonely_early : theLonelyOne ∉ v.earlyOffers := by
  unfold earlyOffers timeOffers friendOffers rivalOffers levelOffers countOffers
  simp [mem_offered]

theorem lonely_late : theLonelyOne ∉ v.lateOffers nc := by
  unfold lateOffers
  simp [mem_offered]

theorem mem_lonelyOffers : a ∈ v.lonelyOffers now ↔ a = theLonelyOne ∧ ∃ r ∈ v.pairs, r.Reunited now := by
  unfold lonelyOffers
  simp only [List.mem_flatMap, mem_offered]
  constructor
  · rintro ⟨r, hr, h, rfl⟩
    exact ⟨rfl, r, hr, h⟩
  · rintro ⟨rfl, r, hr, h⟩
    exact ⟨r, hr, h, rfl⟩

theorem holds_iff :
    v.Holds nc now a ↔ a ∈ v.earlyOffers ∨ a ∈ v.lonelyOffers now ∨ a ∈ v.lateOffers nc := by
  unfold Holds offers
  rw [List.mem_append, List.mem_append, or_assoc]

theorem holds_lonely : v.Holds nc now theLonelyOne ↔ ∃ r ∈ v.pairs, r.Reunited now := by
  rw [holds_iff, mem_lonelyOffers]
  constructor
  · rintro (h | ⟨-, h⟩ | h)
    · exact absurd h lonely_early
    · exact h
    · exact absurd h lonely_late
  · exact fun h => .inr (.inl ⟨rfl, h⟩)

theorem holds_neighborhood : v.Holds nc now neighborhood ↔ 5 ≤ nc := by
  rw [holds_iff, mem_lonelyOffers]
  unfold earlyOffers timeOffers friendOffers rivalOffers levelOffers countOffers lateOffers
  simp [mem_offered]

theorem holds_community : v.Holds nc now community ↔ 10 ≤ nc := by
  rw [holds_iff, mem_lonelyOffers]
  unfold earlyOffers timeOffers friendOffers rivalOffers levelOffers countOffers lateOffers
  simp [mem_offered]

/-- Any other condition is the same at every time and neighbour count. -/
theorem holds_elsewhere (hl : a ≠ theLonelyOne) (hn : a ≠ neighborhood) (hc : a ≠ community)
    (h : v.Holds nc now a) : v.Holds nc' now' a := by
  rw [holds_iff] at h ⊢
  rcases h with h | h | h
  · exact .inl h
  · exact absurd (mem_lonelyOffers.mp h).1 hl
  · refine .inr (.inr ?_)
    unfold lateOffers at h ⊢
    simp only [List.mem_append, mem_offered, hn, hc, and_false, or_false] at h ⊢
    exact h

/-! ### One call -/

/-- The state after a call. -/
def after (v : DaycareView) (nc : ℕ) (now : Instant) (n : ℕ) : DaycareView :=
  (v.checkAchievements nc now n).1

/-- What a call reports as new. -/
def news (v : DaycareView) (nc : ℕ) (now : Instant) (n : ℕ) : List DaycareAchievement :=
  (v.checkAchievements nc now n).2

/-- The achievements a list of offers has to give. -/
def due (v : DaycareView) (l : List DaycareAchievement) : List DaycareAchievement :=
  Quota.due (hasAchievement v.record.achievementFlags) l

theorem after_kept :
    (v.after nc now n).partyCount = v.partyCount ∧ (v.after nc now n).relationships = v.settle now ∧
      ∃ f, (v.after nc now n).record = { v.record with achievementFlags := f } := by
  unfold after checkAchievements
  exact ⟨rfl, rfl, _, rfl⟩

theorem party_after : (v.after nc now n).party = v.party := by
  obtain ⟨hc, -, f, hf⟩ := after_kept (v := v) (n := n)
  unfold party
  rw [hc, hf]

theorem after_flags :
    (v.after nc now n).record.achievementFlags =
      (Quota.offerAll hasAchievement addAchievement n v.record.achievementFlags (v.offers nc now)).1 := by
  unfold after checkAchievements
  rfl

theorem news_eq : v.news nc now n = (v.due (v.offers nc now)).take n := by
  unfold news checkAchievements due
  rw [← Quota.offerAll_taken has_add]

theorem granted_after : (v.after nc now n).Granted a ↔ a ∈ v.news nc now n ∨ v.Granted a := by
  unfold Granted
  rw [news_eq, after_flags]
  unfold due
  rw [← Quota.offerAll_has has_add]

theorem mem_due {l : List DaycareAchievement} : a ∈ v.due l ↔ a ∈ l ∧ ¬v.Granted a := by
  unfold due Granted
  rw [Quota.mem_due, Bool.not_eq_true]

/-- The pair as a call leaves it. -/
def settled (now : Instant) (r : DaycareRelationship) : DaycareRelationship :=
  if r.Reunited now then { r with daysMissing := 0 } else r

theorem settled_kept (now : Instant) (r : DaycareRelationship) :
    (settled now r).friendship = r.friendship ∧ (settled now r).rivalry = r.rivalry ∧
      (settled now r).lastSeen = r.lastSeen := by
  unfold settled
  split_ifs <;> exact ⟨rfl, rfl, rfl⟩

theorem reunited_settled {r : DaycareRelationship} :
    (settled now r).Reunited now' ↔ ¬r.Reunited now ∧ r.Reunited now' := by
  unfold settled
  split_ifs with h
  · have h0 : ¬(7 : UInt16) ≤ 0 := by decide
    exact ⟨fun hr => absurd hr.1 h0, fun hr => absurd h hr.1⟩
  · exact ⟨fun hr => ⟨h, hr⟩, fun hr => hr.2⟩

theorem pairs_after : (v.after nc now n).pairs = v.pairs.map (settled now) := by
  unfold pairs
  rw [after_kept.2.1]
  exact Slots.entries_each

theorem early_after : (v.after nc now n).earlyOffers = v.earlyOffers := by
  have hf : ∀ r, friendOffers (settled now r) = friendOffers r := fun r => by
    obtain ⟨hf, hr, -⟩ := settled_kept now r
    unfold friendOffers
    rw [hf, hr]
  have hr : ∀ r, rivalOffers (settled now r) = rivalOffers r := fun r => by
    unfold rivalOffers
    rw [(settled_kept now r).2.1]
  have hcf : ∀ t : UInt8, (v.pairs.map (settled now)).countP (fun r => t ≤ r.friendship) =
      v.pairs.countP fun r => t ≤ r.friendship := fun t => by
    rw [List.countP_map]
    exact List.countP_congr fun r _ => by
      rw [Function.comp_apply, (settled_kept now r).1]
  have hcr : ∀ t : UInt8, (v.pairs.map (settled now)).countP (fun r => t ≤ r.rivalry) =
      v.pairs.countP fun r => t ≤ r.rivalry := fun t => by
    rw [List.countP_map]
    exact List.countP_congr fun r _ => by
      rw [Function.comp_apply, (settled_kept now r).2.1]
  obtain ⟨-, -, f, hrec⟩ := after_kept (v := v) (n := n)
  unfold earlyOffers
  rw [party_after, hrec, pairs_after, List.flatMap_map, List.flatMap_map, hcf, hcf, hcr, funext hf,
    funext hr]

theorem late_after : (v.after nc now n).lateOffers nc' = v.lateOffers nc' := by
  obtain ⟨-, -, f, hrec⟩ := after_kept (v := v) (n := n)
  unfold lateOffers
  rw [hrec, party_after]

/-- A call takes no condition away but a reunion's. -/
theorem holds_after (h : a ≠ theLonelyOne) :
    (v.after nc now n).Holds nc' now' a ↔ v.Holds nc' now' a := by
  have hl : ∀ w : DaycareView, a ∉ w.lonelyOffers now' := fun w hm => h (mem_lonelyOffers.mp hm).1
  rw [holds_iff, holds_iff, early_after, late_after]
  constructor
  · rintro (h | h | h)
    · exact .inl h
    · exact absurd h (hl _)
    · exact .inr (.inr h)
  · rintro (h | h | h)
    · exact .inl h
    · exact absurd h (hl _)
    · exact .inr (.inr h)

/-- Another reunion, not seen at the call, that looks recent at the next. -/
def Again (v : DaycareView) (now now' : Instant) : Prop :=
  ∃ r ∈ v.pairs, ¬r.Reunited now ∧ r.Reunited now'

theorem lonely_after : (v.after nc now n).Holds nc' now' theLonelyOne ↔ v.Again now now' := by
  rw [holds_lonely, pairs_after]
  unfold Again
  constructor
  · rintro ⟨r, hr, h⟩
    obtain ⟨r, hr', rfl⟩ := List.mem_map.mp hr
    exact ⟨r, hr', reunited_settled.mp h⟩
  · rintro ⟨r, hr, h⟩
    exact ⟨_, List.mem_map_of_mem hr, reunited_settled.mpr h⟩

/-- A list with `a` in it, cut at the first `a`. -/
theorem splits_at {l : List DaycareAchievement} (h : a ∈ l) :
    ∃ l', l = l.takeWhile (fun b => b ≠ a) ++ a :: l' ∧ a ∉ l.takeWhile fun b => b ≠ a := by
  induction l with
  | nil => exact absurd h List.not_mem_nil
  | cons b l ih =>
    by_cases hb : b = a
    · subst hb
      rw [List.takeWhile_cons_of_neg (by simp)]
      exact ⟨l, rfl, List.not_mem_nil⟩
    · obtain ⟨l', hl', hnot⟩ := ih ((List.mem_cons.mp h).resolve_left (Ne.symm hb))
      rw [List.takeWhile_cons_of_pos (by simpa using hb)]
      refine ⟨l', congrArg (b :: ·) hl', fun hm => ?_⟩
      exact (List.mem_cons.mp hm).elim (fun h => hb h.symm) hnot

/-- The condition of `a` holds, it is not granted yet, and what is due before it takes all the room. -/
def Squeezed (v : DaycareView) (nc : ℕ) (now : Instant) (n : ℕ) (a : DaycareAchievement) : Prop :=
  v.Holds nc now a ∧ ¬v.Granted a ∧
    n ≤ (v.due ((v.offers nc now).takeWhile fun b => b ≠ a)).length

theorem squeezed_iff (h : v.Holds nc now a) :
    ¬(v.after nc now n).Granted a ↔ v.Squeezed nc now n a := by
  obtain ⟨l', hl', hnot⟩ := splits_at h
  unfold Squeezed
  by_cases hg : v.Granted a
  · exact ⟨fun hn => absurd (granted_after.mpr (.inr hg)) hn, fun hs => absurd hg hs.2.1⟩
  · have hiff : hasAchievement (Quota.offerAll hasAchievement addAchievement n v.record.achievementFlags
        ((v.offers nc now).takeWhile (fun b => b ≠ a) ++ a :: l')).1 a = false ↔ _ :=
      Quota.left_out_iff has_add v.record.achievementFlags hnot (Bool.eq_false_iff.mpr hg)
    rw [← hl'] at hiff
    have hgr : ¬(v.after nc now n).Granted a ↔
        hasAchievement (Quota.offerAll hasAchievement addAchievement n v.record.achievementFlags
          (v.offers nc now)).1 a = false := by
      unfold Granted
      rw [after_flags, Bool.not_eq_true]
    rw [hgr, hiff]
    exact ⟨fun hn => ⟨h, hg, hn⟩, fun hs => hs.2.2⟩

/-- What a call leaves out is there at the next one, whose inputs may differ, but for the reunion that
was used up and the neighbours that are gone. -/
theorem left_for_next_iff :
    (∀ a, v.Holds nc now a → (v.after nc now n).Granted a ∨ (v.after nc now n).Holds nc' now' a) ↔
      (v.Squeezed nc now n theLonelyOne → v.Again now now') ∧
        (v.Squeezed nc now n neighborhood → 5 ≤ nc') ∧ (v.Squeezed nc now n community → 10 ≤ nc') := by
  constructor
  · intro h
    have key : ∀ a, v.Squeezed nc now n a → (v.after nc now n).Holds nc' now' a := fun a hs =>
      (h a hs.1).resolve_left ((squeezed_iff hs.1).mpr hs)
    refine ⟨fun hs => lonely_after.mp (key _ hs), fun hs => ?_, fun hs => ?_⟩
    · exact holds_neighborhood.mp (key _ hs)
    · exact holds_community.mp (key _ hs)
  · rintro ⟨hlonely, hneigh, hcomm⟩ a ha
    by_cases hg : (v.after nc now n).Granted a
    · exact .inl hg
    · have hs := (squeezed_iff ha).mp hg
      refine .inr ?_
      by_cases h₁ : a = theLonelyOne
      · subst h₁
        exact lonely_after.mpr (hlonely hs)
      · rw [holds_after h₁]
        by_cases h₂ : a = neighborhood
        · subst h₂
          exact holds_neighborhood.mpr (hneigh hs)
        · by_cases h₃ : a = community
          · subst h₃
            exact holds_community.mpr (hcomm hs)
          · exact holds_elsewhere h₁ h₂ h₃ ha

/-! ### Calls with nothing between them -/

/-- The state after a call at each of the times. -/
def calls (v : DaycareView) (nc n : ℕ) (ts : List Instant) : DaycareView :=
  ts.foldl (fun w t => w.after nc t n) v

/-- The achievements, each once. -/
def catalogue : List DaycareAchievement :=
  [firstDay, settledIn, daycareVeteran, lifetimeResident, oldTimer, firstFriend, goodFriends,
    bestFriendsForever, socialButterfly, beloved, firstRival, heatedRivalry, archNemesis, friendlyRival,
    fightClub, unstoppableForce, respect, firstLevelUp, daycareGraduate, daycareScholar, explorer, dreamer,
    escapeArtist, fullMoon, splashChampion, theLonelyOne, stormChaser, snowbound, weathered, lightningRod,
    fogWalker, welcomeCommittee, meshElder, neighborhood, community]

theorem mem_catalogue (a : DaycareAchievement) : a ∈ catalogue := by
  cases a <;> decide

/-- How many achievements are granted. -/
def grantedCount (v : DaycareView) : ℕ :=
  (catalogue.filter fun a => hasAchievement v.record.achievementFlags a).length

theorem grantedCount_le : v.grantedCount ≤ 35 := List.length_filter_le _ _

theorem granted_kept (h : v.Granted a) : (v.after nc now n).Granted a := granted_after.mpr (.inr h)

theorem granted_calls (h : v.Granted a) (ts : List Instant) : (v.calls nc n ts).Granted a := by
  induction ts generalizing v with
  | nil => exact h
  | cons t ts ih => exact ih (granted_kept h)

theorem grantedCount_lt (hn : 0 < n) (ha : v.Holds nc now a) (hg : ¬v.Granted a) :
    v.grantedCount < (v.after nc now n).grantedCount := by
  have hdue : a ∈ v.due (v.offers nc now) := mem_due.mpr ⟨ha, hg⟩
  obtain ⟨b, hb⟩ : ∃ b, b ∈ v.news nc now n := by
    rw [news_eq]
    refine List.exists_mem_of_length_pos ?_
    rw [List.length_take]
    exact Nat.lt_min.mpr ⟨hn, List.length_pos_of_mem hdue⟩
  have hnew : ¬v.Granted b := by
    rw [news_eq] at hb
    exact (mem_due.mp (List.mem_of_mem_take hb)).2
  have hsub : (catalogue.filter fun a => hasAchievement v.record.achievementFlags a).Sublist
      (catalogue.filter fun a => hasAchievement (v.after nc now n).record.achievementFlags a) :=
    List.monotone_filter_right _ fun a ha => granted_kept ha
  refine lt_of_le_of_ne hsub.length_le fun he => hnew ?_
  have hmem : b ∈ catalogue.filter fun a => hasAchievement (v.after nc now n).record.achievementFlags a :=
    List.mem_filter.mpr ⟨mem_catalogue b, granted_after.mpr (.inl hb)⟩
  rw [← hsub.eq_of_length he] at hmem
  exact (List.mem_filter.mp hmem).2

/-- While `a` waits each call grants something else. -/
theorem granted_or_count (hn : 0 < n) (hl : a ≠ theLonelyOne) (ha : v.Holds nc now a) (ts : List Instant) :
    (v.calls nc n ts).Granted a ∨ v.grantedCount + ts.length ≤ (v.calls nc n ts).grantedCount := by
  induction ts generalizing v with
  | nil => exact .inr le_rfl
  | cons t ts ih =>
    have hafter : (v.after nc t n).Holds nc now a := (holds_after hl).mpr ha
    by_cases hg : v.Granted a
    · exact .inl (granted_calls hg (t :: ts))
    · have hlt : v.grantedCount < (v.after nc t n).grantedCount := by
        by_cases hat : v.Holds nc t a
        · exact grantedCount_lt hn hat hg
        · refine absurd ?_ hat
          rw [holds_iff] at ha ⊢
          rcases ha with h | h | h
          · exact .inl h
          · exact absurd (mem_lonelyOffers.mp h).1 hl
          · exact .inr (.inr h)
      rcases ih hafter with h | h
      · exact .inl h
      · refine .inr ?_
        rw [List.length_cons]
        change v.grantedCount + (ts.length + 1) ≤ ((v.after nc t n).calls nc n ts).grantedCount
        omega

/-- Thirty-six calls grant whatever holds; a reunion has to find room in the first. -/
theorem granted_at_last {ts : List Instant} (hn : 0 < n) (hts : 35 ≤ ts.length)
    (hs : a = theLonelyOne → ¬v.Squeezed nc now n theLonelyOne) (ha : v.Holds nc now a) :
    (v.calls nc n (now :: ts)).Granted a := by
  by_cases hl : a = theLonelyOne
  · subst hl
    have hg : (v.after nc now n).Granted theLonelyOne := by
      by_contra hg
      exact hs rfl ((squeezed_iff ha).mp hg)
    exact granted_calls hg ts
  · rcases granted_or_count hn hl ha (now :: ts) with h | h
    · exact h
    · have hle : (v.calls nc n (now :: ts)).grantedCount ≤ 35 := grantedCount_le
      rw [List.length_cons] at h
      omega

end DaycareView
end MonsterMesh

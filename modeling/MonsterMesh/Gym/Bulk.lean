import MonsterMesh.Gym.Parity

/-! A ladder that is fought from the two bulk packets, and what its one report does to the gym. -/
namespace MonsterMesh

open Gauntlet
open GauntletState (lenPrefixed packNames)

/-! ### The replies of a gym -/

theorem lenPrefixed_length (name : CStr) : (lenPrefixed name).length ≤ 17 := by
  have h := List.length_take_le 16 name
  rw [lenPrefixed, List.length_cons]
  omega

theorem packNames_eq (l : List CStr) (off : ℕ) (hoff : off + 17 * l.length ≤ 196) :
    packNames off l = l.flatMap lenPrefixed := by
  induction l generalizing off with
  | nil => rfl
  | cons name l ih =>
    have hlen := lenPrefixed_length name
    rw [List.length_cons] at hoff
    unfold packNames
    rw [if_neg (by unfold battlelinkMaxPayload; omega), ih _ (by omega), List.flatMap_cons]

/-- Names that were packed are all there, whatever follows them. -/
theorem readNames_packed (l : List CStr) (rest : List UInt8) :
    (readNames l.length (l.flatMap lenPrefixed ++ rest)).1 = true := by
  induction l with
  | nil => rfl
  | cons name l ih =>
    have hlen : (UInt8.ofNat (name.take 16).length).toNat = (name.take 16).length := by
      have h := List.length_take_le 16 name
      rw [UInt8.toNat_ofNat']
      omega
    have hbytes : (name :: l).flatMap lenPrefixed ++ rest =
        UInt8.ofNat (name.take 16).length :: (name.take 16 ++ (l.flatMap lenPrefixed ++ rest)) := by
      rw [List.flatMap_cons, lenPrefixed, List.cons_append, List.cons_append, List.append_assoc]
    rw [hbytes, List.length_cons]
    unfold readNames
    rw [hlen, if_neg (by rw [List.length_append]; omega), List.drop_left]
    exact ih

theorem names_read (s : GauntletState) : ∃ p, s.ladderNamesPayload = 5 :: p ∧
    (readNames (trainerCount 5) p).1 = true := by
  have hpack := packNames_eq ((List.finRange 5).map s.trainerName) 1 (by simp)
  have hcount : trainerCount 5 = ((List.finRange 5).map s.trainerName).length := by simp; rfl
  unfold GauntletState.ladderNamesPayload
  rw [hpack, hcount]
  dsimp only
  split
  · exact ⟨_, rfl, readNames_packed _ _⟩
  · refine ⟨_, rfl, ?_⟩
    have h := readNames_packed ((List.finRange 5).map s.trainerName) []
    rwa [List.append_nil] at h

theorem parties_read {s : GauntletState} (hs : s.Staffed) : ∃ p, s.ladderPartiesPayload = 5 :: p ∧
    (readParties (trainerCount 5) p).1 = true := by
  have hlen : ∀ l ∈ (List.finRange 5).map s.buildSlot, l.length ≤ 6 := by
    intro l hl
    obtain ⟨j, -, rfl⟩ := List.mem_map.mp hl
    exact hs.buildSlot_length j
  have hcount : trainerCount 5 = ((List.finRange 5).map s.buildSlot).length := by simp; rfl
  refine ⟨_, rfl, ?_⟩
  rw [packSlots_eq hlen 1 (by simp), hcount]
  exact (readParties_slots hlen).1

/-! ### The challenger -/

/-- Whom a result goes to, and the outcome in it. -/
def LadderOutput.report : LadderOutput → Option (UInt32 × UInt8)
  | .fightResult gym outcome => some (gym, outcome)
  | _ => none

namespace LadderRun

variable {s : LadderRun} {n : UInt32} {k : ℕ} {ready won : Bool}

/-- The results that are reported in a run. -/
def reports (s : LadderRun) : List LadderInput → List (UInt32 × UInt8)
  | [] => []
  | i :: l => (s.step i).2.filterMap LadderOutput.report ++ (s.step i).1.reports l

/-- The challenger asks node `n` for its ladder, gets the two replies that `gym` makes, in either order,
and fights; `ends` says at which of its rounds a battle ends, and how. -/
def bulkInputs (n : UInt32) (gym : GauntletState) (swapped : Bool) (ends : List (Bool × Option Bool)) :
    List LadderInput :=
  .request n ::
    (if swapped then [.parties n gym.ladderPartiesPayload, .names n gym.ladderNamesPayload]
    else [.names n gym.ladderNamesPayload, .parties n gym.ladderPartiesPayload]) ++
      .runOnce true none :: ends.map fun e => .runOnce e.1 e.2

/-- A challenger that fights trainer `k` of node `n`. -/
structure Fighting (s : LadderRun) (n : UInt32) (k : ℕ) : Prop where
  bulk : s.bulkActive = true
  fight : s.fightActive = true
  text : s.textBattleActive = true
  start : s.startPending = false
  pending : s.requestPending = false
  trainer : s.trainerIdx.toNat = k
  last : k < 5
  target : s.target = n

/-- A challenger that has fought its ladder. -/
structure Over (s : LadderRun) : Prop where
  text : s.textBattleActive = false
  start : s.startPending = false
  pending : s.requestPending = false

/-- Where it starts nothing and no request is pending, a round looks at the end of a battle only. -/
theorem runOnce_quiet (hs : (s.startPending && !s.textBattleActive && ready) = false)
    (hp : s.requestPending = false) (ended : Option Bool) : s.runOnce ready ended =
      match ended with
      | some won => if s.textBattleActive then s.battleEnd won else (s, [])
      | none => (s, []) := by
  unfold runOnce
  rw [hs, hp, if_neg (by decide), if_neg fun h => absurd h.1 (by decide)]
  rfl

theorem Fighting.trainer_ne (h : s.Fighting n k) : s.trainerIdx ≠ 0xFF := fun he => by
  have hk := h.trainer
  rw [he] at hk
  have hlast := h.last
  rw [← hk] at hlast
  exact absurd hlast (by decide)

theorem Fighting.advance (h : s.Fighting n k) (hk : k + 1 < 5) :
    (s.battleEnd true).1.Fighting n (k + 1) ∧
      (s.battleEnd true).2.filterMap LadderOutput.report = [] := by
  have hlt : s.trainerIdx.toNat + 1 < bbsLadderCount.toNat := by
    rw [h.trainer]
    exact hk
  unfold battleEnd
  dsimp only
  rw [h.fight, if_neg (by simp), if_pos rfl, dif_pos ⟨h.trainer_ne, rfl, hlt⟩, if_pos h.bulk]
  refine ⟨⟨h.bulk, rfl, h.text, h.start, h.pending, ?_, hk, h.target⟩, rfl⟩
  dsimp only
  have h1 := h.trainer
  rw [UInt8.toNat_add, h1]
  change (k + 1) % 256 = k + 1
  omega

theorem Fighting.ended (h : s.Fighting n k) (hn : n ≠ 0) (hk : won = true → k = 4) :
    (s.battleEnd won).1.Over ∧
      (s.battleEnd won).2.filterMap LadderOutput.report = [(n, if won then 1 else 0)] := by
  have hlast : ¬(s.trainerIdx ≠ 0xFF ∧ won = true ∧
      s.trainerIdx.toNat + 1 < bbsLadderCount.toNat) := by
    rintro ⟨-, hw, hlt⟩
    rw [h.trainer, hk hw] at hlt
    exact absurd hlt (by decide)
  unfold battleEnd
  dsimp only
  rw [h.fight, if_neg (by simp), if_pos rfl, dif_neg hlast, h.target, if_pos hn]
  exact ⟨⟨rfl, h.start, h.pending⟩, rfl⟩

theorem Over.reports (h : s.Over) {ends : List (Bool × Option Bool)}
    (he : ends.filterMap (·.2) = []) : s.reports (ends.map fun e => .runOnce e.1 e.2) = [] := by
  induction ends with
  | nil => rfl
  | cons e ends ih =>
    obtain ⟨ready, _ | won⟩ := e
    · have hstep : s.step (.runOnce ready none) = (s, []) := runOnce_quiet (by rw [h.start]; rfl) h.pending none
      rw [List.map_cons, LadderRun.reports, hstep]
      exact ih he
    · cases he

/-- Wins lead on to the next trainer; the last one's, and a loss, are reported. -/
theorem Fighting.reports (h : s.Fighting n k) (hn : n ≠ 0) {ends : List (Bool × Option Bool)} {j : ℕ}
    (he : ends.filterMap (·.2) = List.replicate j true ++ [won]) (hj : k + j < 5)
    (hw : won = true → k + j = 4) :
    s.reports (ends.map fun e => .runOnce e.1 e.2) = [(n, if won then 1 else 0)] := by
  induction ends generalizing s k j with
  | nil =>
    have hlen := congrArg List.length he
    rw [List.length_append] at hlen
    cases hlen
  | cons e ends ih =>
    obtain ⟨ready, _ | end'⟩ := e
    · have hstep : s.step (.runOnce ready none) = (s, []) := runOnce_quiet (by rw [h.start]; rfl) h.pending none
      rw [List.map_cons, LadderRun.reports, hstep]
      exact ih h he hj hw
    · have hstep : s.step (.runOnce ready (some end')) = s.battleEnd end' := by
        refine (runOnce_quiet (by rw [h.start]; rfl) h.pending (some end')).trans ?_
        dsimp only
        rw [h.text, if_pos rfl]
      rw [List.map_cons, LadderRun.reports, hstep]
      change end' :: ends.filterMap (·.2) = _ at he
      cases j with
      | zero =>
        obtain ⟨rfl, hrest⟩ := List.cons.inj he
        obtain ⟨hover, hreport⟩ := h.ended hn hw
        rw [hreport, hover.reports hrest]
        rfl
      | succ j =>
        rw [List.replicate_succ, List.cons_append] at he
        obtain ⟨rfl, hrest⟩ := List.cons.inj he
        obtain ⟨hnext, hreport⟩ := h.advance (by omega)
        rw [hreport, List.nil_append]
        exact ih hnext hrest (by omega) fun h => by have := hw h; omega

/-- A challenger that can ask for a ladder and fight it. -/
structure Free (s : LadderRun) : Prop where
  fight : s.fightActive = false
  await : s.awaitParty = false
  text : s.textBattleActive = false

theorem onNames_read {tc : UInt8} {p : List UInt8} (hb : s.bulkActive = true) (ht : s.target = n)
    (hp : (readNames (trainerCount tc) p).1 = true) : ∃ names, s.onNames n (tc :: p) =
      { s with names := names, haveNames := true, startPending := s.startPending || s.haveParties } := by
  unfold onNames
  rw [if_pos ⟨hb, ht.symm⟩]
  dsimp only
  rw [if_pos hp]
  exact ⟨_, rfl⟩

theorem onParties_read {tc : UInt8} {p : List UInt8} (hb : s.bulkActive = true) (ht : s.target = n)
    (hp : (readParties (trainerCount tc) p).1 = true) : ∃ parties, s.onParties n (tc :: p) =
      { s with
        parties := parties
        haveParties := true
        startPending := s.startPending || s.haveNames } := by
  unfold onParties
  rw [if_pos ⟨hb, ht.symm⟩]
  dsimp only
  rw [if_pos hp]
  exact ⟨_, rfl⟩

/-- A challenger that has asked node `n` and can start its ladder as soon as `start` says. -/
structure Asked (s : LadderRun) (n : UInt32) (start : Bool) : Prop where
  bulk : s.bulkActive = true
  target : s.target = n
  text : s.textBattleActive = false
  pending : s.requestPending = false
  start : s.startPending = start

theorem Free.asked (h : s.Free) (n : UInt32) : (s.request n).1.Asked n false ∧
    (s.request n).2.filterMap LadderOutput.report = [] := by
  unfold request
  rw [if_neg (by rw [h.fight, h.await]; decide)]
  exact ⟨⟨rfl, rfl, h.text, rfl, rfl⟩, rfl⟩

/-- With both replies the ladder can start, in whichever order they come. -/
theorem Asked.replies {gym : GauntletState} (h : s.Asked n false) (hs : gym.Staffed) :
    ((s.onNames n gym.ladderNamesPayload).onParties n gym.ladderPartiesPayload).Asked n true ∧
      ((s.onParties n gym.ladderPartiesPayload).onNames n gym.ladderNamesPayload).Asked n true := by
  obtain ⟨pn, hpn, hnames⟩ := names_read gym
  obtain ⟨pp, hpp, hparties⟩ := parties_read hs
  rw [hpn, hpp]
  constructor
  · obtain ⟨names, h₂⟩ := onNames_read h.bulk h.target hnames
    rw [h₂]
    obtain ⟨parties, h₃⟩ := onParties_read (s := { s with
      names := names, haveNames := true, startPending := s.startPending || s.haveParties })
      h.bulk h.target hparties
    rw [h₃]
    exact ⟨h.bulk, h.target, h.text, h.pending, Bool.or_true _⟩
  · obtain ⟨parties, h₂⟩ := onParties_read h.bulk h.target hparties
    rw [h₂]
    obtain ⟨names, h₃⟩ := onNames_read (s := { s with
      parties := parties, haveParties := true, startPending := s.startPending || s.haveNames })
      h.bulk h.target hnames
    rw [h₃]
    exact ⟨h.bulk, h.target, h.text, h.pending, Bool.or_true _⟩

theorem Asked.starts (h : s.Asked n true) : (s.runOnce true none).1.Fighting n 0 ∧
    (s.runOnce true none).2.filterMap LadderOutput.report = [] := by
  unfold runOnce
  rw [h.start, h.text, if_pos (by decide)]
  exact ⟨⟨h.bulk, rfl, rfl, rfl, h.pending, rfl, by decide, h.target⟩, rfl⟩

/-- Behind the two replies the challenger fights the first trainer. -/
theorem Free.bulk_reports (h : s.Free) {gym : GauntletState} (hs : gym.Staffed) (swapped : Bool)
    (ends : List (Bool × Option Bool)) : ∃ s' : LadderRun, s'.Fighting n 0 ∧
      s.reports (bulkInputs n gym swapped ends) =
        s'.reports (ends.map fun e => .runOnce e.1 e.2) := by
  obtain ⟨hasked, hrequest⟩ := h.asked n
  obtain ⟨hnp, hpn⟩ := hasked.replies hs
  have hreports (s₂ : LadderRun) (h₂ : s₂.Asked n true) :
      (s.request n).2.filterMap LadderOutput.report ++ ((s₂.runOnce true none).2.filterMap
        LadderOutput.report ++ (s₂.runOnce true none).1.reports (ends.map fun e => .runOnce e.1 e.2)) =
      (s₂.runOnce true none).1.reports (ends.map fun e => .runOnce e.1 e.2) := by
    rw [hrequest, h₂.starts.2]
    rfl
  cases swapped with
  | false => exact ⟨_, hnp.starts.1, hreports _ hnp⟩
  | true => exact ⟨_, hpn.starts.1, hreports _ hpn⟩

/-- A ladder fought to the end is reported once: as won behind five wins, as lost behind a loss. -/
theorem Free.report (h : s.Free) {gym : GauntletState} (hs : gym.Staffed) (hn : n ≠ 0) (swapped : Bool)
    {ends : List (Bool × Option Bool)} {j : ℕ}
    (he : ends.filterMap (·.2) = List.replicate j true ++ [won]) (hj : j < 5)
    (hw : won = true → j = 4) :
    s.reports (bulkInputs n gym swapped ends) = [(n, if won then 1 else 0)] := by
  obtain ⟨s', hfight, hreports⟩ := h.bulk_reports hs swapped ends
  rw [hreports]
  exact hfight.reports hn he (by omega) fun h => by have := hw h; omega

end LadderRun

/-! ### The report at the gym -/

/-- The report of a ladder, as the challenger sends it. -/
def resultPacket (outcome : UInt8) (name : List UInt8) : Packet :=
  ⟨bbsFightResult, 0, 0, outcome :: UInt8.ofNat name.length :: name⟩

namespace Gauntlet

variable {g : Gauntlet} {env : GymEnv} {x : UInt32} {name : List UInt8} {out : Gen1Party}

theorem resultPacket_step (outcome : UInt8) : g.step env (.battle x (resultPacket outcome name) out) =
    g.handleResult env x (outcome :: UInt8.ofNat name.length :: name) := rfl

/-- A reported win makes its sender the leader behind four others, or where it is. -/
theorem won_leader_iff (hx : x ≠ 0) :
    (g.step env (.battle x (resultPacket 1 name) out)).state.leader.nodeNum = x ↔
      ¬g.trainerOf env x < 4 ∨ g.state.leader.nodeNum = x := by
  rw [resultPacket_step]
  by_cases hi : g.trainerOf env x < 4
  · rw [handleResult_advance rfl hi]
    change g.state.leader.nodeNum = x ↔ _
    exact ⟨.inr, fun h => h.resolve_left fun hn => hn hi⟩
  · rw [handleResult_end fun h => hi h.2]
    refine ⟨fun _ => .inl hi, fun _ => ?_⟩
    change (g.endChallenge env x 1 _).state.leader.nodeNum = x
    rw [endChallenge_won_state, promoteToLeader_state]
    change env.getFrom x = x
    exact if_neg hx

/-- A reported loss changes no leader. -/
theorem lost_leader : (g.step env (.battle x (resultPacket 0 name) out)).state.leader =
    g.state.leader := by
  rw [resultPacket_step, handleResult_end fun h => absurd h.1 (by decide)]
  change (g.endChallenge env x 0 _).state.leader = _
  rw [endChallenge_lost_state _ (by decide)]

/-- Five wins in five rounds. -/
def fiveWins : List (Bool × Option Bool) := List.replicate 5 (true, some true)

end Gauntlet
end MonsterMesh

import Mathlib.Tactic.Common
import MonsterMesh.Lib.Walk
import MonsterMesh.Pentest.Battles

/-! Battles are booked for what they were. -/
namespace MonsterMesh.Pentest

open Walk

variable {nodeNum : UInt32} {x : Luck} {s s' : Pentest} {e : Event} {slot : Fin 8} {g : ℕ}

/-! ### What is said -/

def isPvp (s : Pentest) : Bool :=
  match s.fight with
  | some (.pvp _) => true
  | _ => false

/-- The engine has a result, and it is not that of one round among others. -/
def fightOver (s : Pentest) : Bool := s.result ≠ .ongoing && !anotherRound s

/-- The fight ended, and the next tick books it. -/
def unbooked (s : Pentest) : Bool := s.battleInProgress && fightOver s && !s.booked

def count (b : Bool) : ℕ := if b then 1 else 0

/-- The packet that a fight against a peer ends with. -/
def resultOf (nodeNum : UInt32) (s : Pentest) : List PikachuPvpResult :=
  match s.fight with
  | some (.pvp peer) =>
    [{ challenger := nodeNum, challenged := peer
       winner := if s.result = .p1Win then nodeNum else if s.result = .p2Win then peer else 0
       turns := s.turn % 2 ^ 16, rngSeed := s.pvpRngSeed }]
  | _ => []

/-- A result from another node that tells of a fight against this one. -/
def concerns (nodeNum : UInt32) (r : PikachuPvpResult) : Bool :=
  r.challenged = nodeNum && r.challenger ≠ nodeNum

/-- Wins and losses are those of the fight that ends or of the result that arrives. -/
structure Tallied (s s' : Pentest) (won lost : Bool) (results : List PikachuPvpResult) : Prop where
  wins : s'.pentestWins = s.pentestWins + count won
  losses : s'.pentestLosses = s.pentestLosses + count lost
  sent : s'.sent = s.sent ++ results

def Tally (nodeNum : UInt32) (s : Pentest) : Event → Pentest → Prop
  | .tick _, s' =>
    if unbooked s then s'.booked = true ∧
      Tallied s s' (s.result = .p1Win) (s.result = .p2Win) (resultOf nodeNum s)
    else Tallied s s' false false []
  | .received _ (.pvpResult r), s' =>
    Tallied s s' (concerns nodeNum r && r.winner = nodeNum)
      (concerns nodeNum r && r.winner ≠ nodeNum && r.winner = r.challenger) []
  | _, s' => Tallied s s' false false []

/-- What an event should do to the books. -/
structure Fair (nodeNum : UInt32) (s : Pentest) (e : Event) : Prop where
  gyms : ∀ g, (step nodeNum s e).gymBeaten.testBit g = true →
    s.gymBeaten.testBit g = true ∨ s.fight = some (.gym g) ∧ s.result = .p1Win
  tally : Tally nodeNum s e (step nodeNum s e)
  once : s.booked = true → (step nodeNum s e).fights = s.fights → (step nodeNum s e).booked = true
  kept : (step nodeNum s e).fights ≠ s.fights → unbooked s = false
  drops : ∀ x, e = .trigger x → (step nodeNum s e = s ↔ s.battleInProgress = true ∧ isPvp s = true)

/-- No fight ends between the ticks that a challenge comes in; a fight against a peer is won after a wild one,
or in a gym that is beaten already; it ends at a time other than zero, with a packet to send; the queue has
room; and the counters have room. -/
def spares (nodeNum : UInt32) (s : Pentest) : Event → Prop
  | .trigger _ => s.battleInProgress = true → s.pvpProtected = false → s.battleResult = .ongoing →
      s.pendingFightCount < 4
  | .challenge _ slot => (s.pikaPeers slot).nodeId ≠ 0 → unbooked s = false
  | .received _ (.pvpResult r) => concerns nodeNum r = true →
      (r.winner = nodeNum → s.pentestWins + 1 < 2 ^ 16) ∧
        (r.winner = r.challenger → s.pentestLosses + 1 < 2 ^ 16)
  | .received _ (.daycareBeacon _) | .received _ (.pikachuBeacon _) => True
  | .tick x => unbooked s = true → x.millis ≠ 0 ∧
      (s.result = .p1Win → s.pentestWins + 1 < 2 ^ 16) ∧ (s.result = .p2Win → s.pentestLosses + 1 < 2 ^ 16) ∧
      (isPvp s = true → x.allocates = true ∧
        (s.result = .p1Win → s.battleGymIdx < 8 → s.gymBeaten.testBit s.battleGymIdx = true))

instance : ∀ e : Event, Decidable (spares nodeNum s e)
  | .trigger _ => inferInstanceAs (Decidable (s.battleInProgress = true → s.pvpProtected = false →
      s.battleResult = .ongoing → s.pendingFightCount < 4))
  | .challenge _ slot => inferInstanceAs (Decidable ((s.pikaPeers slot).nodeId ≠ 0 → unbooked s = false))
  | .received _ (.pvpResult r) => inferInstanceAs (Decidable (concerns nodeNum r = true →
      (r.winner = nodeNum → s.pentestWins + 1 < 2 ^ 16) ∧
        (r.winner = r.challenger → s.pentestLosses + 1 < 2 ^ 16)))
  | .received _ (.daycareBeacon _) | .received _ (.pikachuBeacon _) => inferInstanceAs (Decidable True)
  | .tick x => inferInstanceAs (Decidable (unbooked s = true → x.millis ≠ 0 ∧
      (s.result = .p1Win → s.pentestWins + 1 < 2 ^ 16) ∧ (s.result = .p2Win → s.pentestLosses + 1 < 2 ^ 16) ∧
      (isPvp s = true → x.allocates = true ∧
        (s.result = .p1Win → s.battleGymIdx < 8 → s.gymBeaten.testBit s.battleGymIdx = true))))

/-! ### What is kept -/

/-- The variables tell what is being fought. -/
structure Kept (s : Pentest) : Prop where
  pvp : s.pvpProtected = true ↔ s.battleInProgress = true ∧ isPvp s = true
  gym : ∀ g, s.fight = some (.gym g) → s.battleGymIdx = g
  wild : s.fight = some .wild → s.battleGymIdx = 255
  peer : ∀ p, s.fight = some (.pvp p) → s.booked = false → s.pvpPeerNodeId = p ∧ p ≠ 0
  noPeer : isPvp s = false ∨ s.booked = true → s.pvpPeerNodeId = 0
  ended : s.battleInProgress = true → (s.booked = true ↔ s.battleEndedMs ≠ 0)
  going : s.battleInProgress = true → s.booked = false → s.battleResult = .ongoing
  shown : s.battleInProgress = true → s.booked = true → s.result ≠ .ongoing ∧ s.battleResult = s.result
  gauntlet : s.gauntlet.active = true → isPvp s = true ∧ s.booked = false
  idle : s.battleInProgress = false → s.booked = true
  fought : s.battleInProgress = true → s.fight ≠ none

theorem boot_kept (wins losses gymBeaten : ℕ) (peers : Fin 8 → PikachuPeer) :
    Kept (boot wins losses gymBeaten peers) where
  pvp := ⟨fun h => absurd h Bool.false_ne_true, fun h => absurd h.1 Bool.false_ne_true⟩
  gym _ h := by cases h
  wild h := by cases h
  peer _ h := by cases h
  noPeer _ := rfl
  ended h := absurd h Bool.false_ne_true
  going h := absurd h Bool.false_ne_true
  shown h := absurd h Bool.false_ne_true
  gauntlet h := absurd h Bool.false_ne_true
  idle _ := rfl
  fought h := absurd h Bool.false_ne_true

theorem Tallied.refl (h : s'.pentestWins = s.pentestWins) (hl : s'.pentestLosses = s.pentestLosses)
    (hsent : s'.sent = s.sent) : Tallied s s' false false [] :=
  ⟨h, hl, hsent.trans (List.append_nil _).symm⟩

/-! ### Random fights -/

/-- A trigger is dropped, queued or starts a fight. -/
theorem triggerBattle_cases (x : Luck) (s : Pentest) :
    s.pvpProtected = true ∧ triggerBattle x s = s ∨
      s.pvpProtected = false ∧ s.battleInProgress = true ∧ s.battleResult = .ongoing ∧
        (s.pendingFightCount < 4 ∧ triggerBattle x s = { s with pendingFightCount := s.pendingFightCount + 1 } ∨
          4 ≤ s.pendingFightCount ∧ triggerBattle x s = s) ∨
      s.pvpProtected = false ∧ ¬ (s.battleInProgress = true ∧ s.battleResult = .ongoing) ∧ ∃ kind gIdx,
        (kind = .wild ∧ gIdx = 255 ∨ kind = .gym gIdx) ∧
          triggerBattle x s = battleLogQueue (engineStart x { s with battleGymIdx := gIdx } kind) 2 := by
  unfold triggerBattle
  split
  · rename_i hp
    exact .inl ⟨hp, rfl⟩
  · rename_i hp
    have hp := Bool.eq_false_iff.mpr hp
    split
    · rename_i hlive
      refine .inr (.inl ⟨hp, hlive.1, hlive.2, ?_⟩)
      split
      · rename_i hroom
        exact .inl ⟨hroom, rfl⟩
      · rename_i hfull
        exact .inr ⟨Nat.not_lt.mp hfull, rfl⟩
    · rename_i hlive
      refine .inr (.inr ⟨hp, hlive, ?_⟩)
      unfold triggerEncounter
      split
      · exact ⟨.wild, 255, .inl ⟨rfl, rfl⟩, rfl⟩
      · exact ⟨_, _, .inr rfl, rfl⟩

/-- Before a random fight starts, the last one was booked. -/
theorem Kept.booked_of_not_live (hk : Kept s) (h : ¬ (s.battleInProgress = true ∧ s.battleResult = .ongoing)) :
    s.booked = true := by
  by_contra hb
  have hb := Bool.eq_false_iff.mpr hb
  cases hprogress : s.battleInProgress with
  | false =>
    rw [hk.idle hprogress] at hb
    cases hb
  | true => exact h ⟨hprogress, hk.going hprogress hb⟩

/-- A random fight is kept for what it is. -/
theorem kept_random {kind : FightKind} {gIdx : ℕ} (hk : Kept s) (hp : s.pvpProtected = false)
    (hb : s.booked = true) (hkind : kind = .wild ∧ gIdx = 255 ∨ kind = .gym gIdx) :
    Kept (battleLogQueue (engineStart x { s with battleGymIdx := gIdx } kind) 2) := by
  have hpeer : s.pvpPeerNodeId = 0 := hk.noPeer (.inr hb)
  have hnone : ¬ s.gauntlet.active = true := fun hg => by
    rw [(hk.gauntlet hg).2] at hb
    cases hb
  rcases hkind with ⟨rfl, rfl⟩ | rfl
  · exact {
      pvp := ⟨fun h => absurd (hp.symm.trans h) Bool.false_ne_true, fun h => absurd h.2 Bool.false_ne_true⟩
      gym := fun _ h => by cases h
      wild := fun _ => rfl
      peer := fun _ h => by cases h
      noPeer := fun _ => hpeer
      ended := fun _ => ⟨fun h => absurd h Bool.false_ne_true, fun h => absurd rfl h⟩
      going := fun _ _ => rfl
      shown := fun _ h => absurd h Bool.false_ne_true
      gauntlet := fun h => absurd h hnone
      idle := fun h => absurd h Bool.true_eq_false.mp
      fought := fun _ h => by cases h }
  · exact {
      pvp := ⟨fun h => absurd (hp.symm.trans h) Bool.false_ne_true, fun h => absurd h.2 Bool.false_ne_true⟩
      gym := fun _ h => by cases h; rfl
      wild := fun h => by cases h
      peer := fun _ h => by cases h
      noPeer := fun _ => hpeer
      ended := fun _ => ⟨fun h => absurd h Bool.false_ne_true, fun h => absurd rfl h⟩
      going := fun _ _ => rfl
      shown := fun _ h => absurd h Bool.false_ne_true
      gauntlet := fun h => absurd h hnone
      idle := fun h => absurd h Bool.true_eq_false.mp
      fought := fun _ h => by cases h }

theorem triggerBattle_kept (hk : Kept s) : Kept (triggerBattle x s) := by
  rcases triggerBattle_cases x s with ⟨-, heq⟩ | ⟨-, -, -, ⟨-, heq⟩ | ⟨-, heq⟩⟩ |
    ⟨hp, hlive, kind, gIdx, hkind, heq⟩
  · rw [heq]
    exact hk
  · rw [heq]
    exact ⟨hk.pvp, hk.gym, hk.wild, hk.peer, hk.noPeer, hk.ended, hk.going, hk.shown, hk.gauntlet, hk.idle,
      hk.fought⟩
  · rw [heq]
    exact hk
  · rw [heq]
    exact kept_random hk hp (hk.booked_of_not_live hlive) hkind

/-- A trigger books nothing. -/
theorem triggerBattle_books (x : Luck) (s : Pentest) :
    (triggerBattle x s).pentestWins = s.pentestWins ∧ (triggerBattle x s).pentestLosses = s.pentestLosses ∧
      (triggerBattle x s).gymBeaten = s.gymBeaten ∧ (triggerBattle x s).sent = s.sent := by
  rcases triggerBattle_cases x s with ⟨-, heq⟩ | ⟨-, -, -, ⟨-, heq⟩ | ⟨-, heq⟩⟩ | ⟨-, -, kind, gIdx, -, heq⟩
  all_goals
    rw [heq]
    exact ⟨rfl, rfl, rfl, rfl⟩

/-- A trigger starts a fight only when the last one was booked. -/
theorem triggerBattle_fights (hk : Kept s) : (triggerBattle x s).fights = s.fights ∧
    (triggerBattle x s).booked = s.booked ∨ s.booked = true ∧ (triggerBattle x s).fights = s.fights + 1 := by
  rcases triggerBattle_cases x s with ⟨-, heq⟩ | ⟨-, -, -, ⟨-, heq⟩ | ⟨-, heq⟩⟩ | ⟨-, hlive, kind, gIdx, -, heq⟩
  · exact .inl (by rw [heq]; exact ⟨rfl, rfl⟩)
  · exact .inl (by rw [heq]; exact ⟨rfl, rfl⟩)
  · exact .inl (by rw [heq]; exact ⟨rfl, rfl⟩)
  · exact .inr ⟨hk.booked_of_not_live hlive, by rw [heq]; rfl⟩

/-- A trigger is dropped exactly while a fight against a peer is shown, if the queue has room. -/
theorem triggerBattle_drops (hk : Kept s) (hspares : spares nodeNum s (.trigger x)) :
    triggerBattle x s = s ↔ s.battleInProgress = true ∧ isPvp s = true := by
  rw [← hk.pvp]
  constructor
  · intro hsame
    rcases triggerBattle_cases x s with ⟨hp, -⟩ | ⟨hp, hlive, hgoing, ⟨-, heq⟩ | ⟨hfull, -⟩⟩ |
      ⟨-, -, kind, gIdx, -, heq⟩
    · exact hp
    · have hcount := congrArg Pentest.pendingFightCount (heq.symm.trans hsame)
      exact absurd hcount (Nat.succ_ne_self _)
    · exact absurd (hspares hlive hp hgoing) (Nat.not_lt.mpr hfull)
    · have hfights := congrArg Pentest.fights (heq.symm.trans hsame)
      exact absurd hfights (Nat.succ_ne_self _)
  · intro hp
    unfold triggerBattle
    rw [if_pos hp]

/-! ### Chosen fights -/

theorem preempt_eq (s : Pentest) : ∃ (progress : Bool) (r : EngineResult) (t u v : UInt32) (q p : ℕ),
    preempt s = { s with
      battleInProgress := progress, battleResult := r, battleEndedMs := t, nextLineMs := u, nextTurnMs := v
      logQueueCount := q, pendingFightCount := p } := by
  unfold preempt
  split
  · exact ⟨_, _, _, _, _, _, _, rfl⟩
  · exact ⟨_, _, _, _, _, _, _, rfl⟩

/-- A challenge starts a fight against a peer of the list. -/
theorem challenge_cases (nodeNum : UInt32) (x : Luck) (s : Pentest) (slot : Fin 8) :
    (s.pikaPeers slot).nodeId = 0 ∧ challenge nodeNum x s slot = s ∨
      (s.pikaPeers slot).nodeId ≠ 0 ∧ ∃ (gauntlet : PvpGauntlet) (seed v : UInt32),
        challenge nodeNum x s slot = battleLogQueue (engineStart x { s with
          gauntlet := gauntlet, pvpProtected := true, pendingFightCount := 0
          pvpPeerNodeId := (s.pikaPeers slot).nodeId, pvpRngSeed := seed, nextLineMs := v }
          (.pvp (s.pikaPeers slot).nodeId)) 2 := by
  unfold challenge
  by_cases hp : (s.pikaPeers slot).nodeId = 0
  · rw [if_neg (not_not.mpr hp)]
    exact .inl ⟨hp, rfl⟩
  · rw [if_pos hp]
    refine .inr ⟨hp, ?_⟩
    unfold triggerPvpBattle
    obtain ⟨progress, r, t, u, v, q, p, heq⟩ := preempt_eq s
    rw [heq]
    dsimp only
    rw [if_pos (List.any_eq_true.mpr ⟨slot, List.mem_finRange slot, decide_eq_true rfl⟩)]
    exact ⟨_, _, 0, rfl⟩

theorem challenge_kept (hk : Kept s) : Kept (challenge nodeNum x s slot) := by
  rcases challenge_cases nodeNum x s slot with ⟨-, heq⟩ | ⟨hp, gauntlet, seed, v, heq⟩
  · rw [heq]
    exact hk
  · rw [heq]
    exact {
      pvp := ⟨fun _ => ⟨rfl, rfl⟩, fun _ => rfl⟩
      gym := fun _ h => by cases h
      wild := fun h => by cases h
      peer := fun _ h _ => by cases h; exact ⟨rfl, hp⟩
      noPeer := fun h => by rcases h with h | h <;> cases h
      ended := fun _ => ⟨fun h => absurd h Bool.false_ne_true, fun h => absurd rfl h⟩
      going := fun _ _ => rfl
      shown := fun _ h => absurd h Bool.false_ne_true
      gauntlet := fun _ => ⟨rfl, rfl⟩
      idle := fun h => absurd h Bool.true_eq_false.mp
      fought := fun _ h => by cases h }

theorem challenge_books (nodeNum : UInt32) (x : Luck) (s : Pentest) (slot : Fin 8) :
    (challenge nodeNum x s slot).pentestWins = s.pentestWins ∧
      (challenge nodeNum x s slot).pentestLosses = s.pentestLosses ∧
      (challenge nodeNum x s slot).gymBeaten = s.gymBeaten ∧ (challenge nodeNum x s slot).sent = s.sent := by
  rcases challenge_cases nodeNum x s slot with ⟨-, heq⟩ | ⟨-, gauntlet, seed, v, heq⟩
  all_goals
    rw [heq]
    exact ⟨rfl, rfl, rfl, rfl⟩

theorem challenge_fights (nodeNum : UInt32) (x : Luck) (s : Pentest) (slot : Fin 8) :
    (s.pikaPeers slot).nodeId = 0 ∧ challenge nodeNum x s slot = s ∨
    (s.pikaPeers slot).nodeId ≠ 0 ∧ (challenge nodeNum x s slot).fights = s.fights + 1 := by
  rcases challenge_cases nodeNum x s slot with ⟨hp, heq⟩ | ⟨hp, gauntlet, seed, v, heq⟩
  · exact .inl ⟨hp, heq⟩
  · exact .inr ⟨hp, by rw [heq]; rfl⟩

/-! ### Packets -/

/-- A packet changes the counters or the lists of peers. -/
theorem handleReceived_eq (nodeNum : UInt32) (s : Pentest) (nowSec : UInt32) (p : Packet) :
    ∃ (w l : ℕ) (peers : Fin 8 → PikachuPeer) (lite : DaycareLite), handleReceived nodeNum s nowSec p =
      { s with pentestWins := w, pentestLosses := l, pikaPeers := peers, daycareLite := lite } := by
  cases p with
  | pvpResult r =>
    unfold handleReceived
    dsimp only
    split
    · split
      · exact ⟨_, _, _, _, rfl⟩
      · split
        · exact ⟨_, _, _, _, rfl⟩
        · exact ⟨_, _, _, _, rfl⟩
    · exact ⟨_, _, _, _, rfl⟩
  | daycareBeacon b =>
    unfold handleReceived
    dsimp only
    split
    · exact ⟨_, _, _, _, rfl⟩
    · exact ⟨_, _, _, _, rfl⟩
  | pikachuBeacon p =>
    unfold handleReceived
    dsimp only
    split
    · exact ⟨_, _, _, _, rfl⟩
    · exact ⟨_, _, _, _, rfl⟩

theorem handleReceived_kept {nowSec : UInt32} {p : Packet} (hk : Kept s) :
    Kept (handleReceived nodeNum s nowSec p) := by
  obtain ⟨w, l, peers, lite, heq⟩ := handleReceived_eq nodeNum s nowSec p
  rw [heq]
  exact ⟨hk.pvp, hk.gym, hk.wild, hk.peer, hk.noPeer, hk.ended, hk.going, hk.shown, hk.gauntlet, hk.idle,
    hk.fought⟩

theorem mod_succ {n : ℕ} (h : n + 1 < 2 ^ 16) : (n + 1) % 2 ^ 16 = n + 1 := Nat.mod_eq_of_lt h

theorem handleReceived_tally {nowSec : UInt32} {p : Packet} (hspares : spares nodeNum s (.received nowSec p)) :
    Tally nodeNum s (.received nowSec p) (handleReceived nodeNum s nowSec p) := by
  cases p with
  | pvpResult r =>
    unfold handleReceived Tally
    dsimp only
    have hsent : s.sent = s.sent ++ [] := (List.append_nil _).symm
    by_cases hc : r.challenged = nodeNum ∧ r.challenger ≠ nodeNum
    · have hconcerns : concerns nodeNum r = true := by
        unfold concerns
        rw [decide_eq_true hc.1, decide_eq_true hc.2]
        rfl
      obtain ⟨hwins, hlosses⟩ := hspares hconcerns
      rw [if_pos hc, hconcerns]
      by_cases hw : r.winner = nodeNum
      · rw [if_pos hw, decide_eq_true hw, decide_eq_false (not_not.mpr hw)]
        exact ⟨mod_succ (hwins hw), rfl, hsent⟩
      · rw [if_neg hw, decide_eq_false hw, decide_eq_true hw]
        by_cases hl : r.winner = r.challenger
        · rw [if_pos hl, decide_eq_true hl]
          exact ⟨rfl, mod_succ (hlosses hl), hsent⟩
        · rw [if_neg hl, decide_eq_false hl]
          exact ⟨rfl, rfl, hsent⟩
    · have hconcerns : concerns nodeNum r = false := by
        refine Bool.eq_false_iff.mpr fun ht => hc ?_
        obtain ⟨h1, h2⟩ := Bool.and_eq_true_iff.mp ht
        exact ⟨of_decide_eq_true h1, of_decide_eq_true h2⟩
      rw [if_neg hc, hconcerns]
      exact ⟨rfl, rfl, hsent⟩
  | daycareBeacon b =>
    unfold handleReceived Tally
    dsimp only
    split <;> exact .refl rfl rfl rfl
  | pikachuBeacon p =>
    unfold handleReceived Tally
    dsimp only
    split <;> exact .refl rfl rfl rfl

/-! ### Ticks -/

/-- What booking does. -/
structure BookedAs (nodeNum : UInt32) (x : Luck) (s s' : Pentest) : Prop where
  eq : ∃ (q : ℕ), s' = { s with
    gauntlet.active := false, battleEndedMs := x.millis, battleResult := s.result, booked := true
    logQueueCount := q, pentestWins := s'.pentestWins, pentestLosses := s'.pentestLosses
    gymBeaten := s'.gymBeaten, sent := s'.sent, pvpPeerNodeId := 0 }
  wins : s'.pentestWins = if s.result = .p1Win then (s.pentestWins + 1) % 2 ^ 16 else s.pentestWins
  losses : s'.pentestLosses = if s.result = .p2Win then (s.pentestLosses + 1) % 2 ^ 16 else s.pentestLosses
  gyms : s'.gymBeaten =
    if s.result = .p1Win ∧ s.battleGymIdx < 8 then s.gymBeaten ||| 1 <<< s.battleGymIdx else s.gymBeaten
  sent : s'.sent = s.sent ++ if s.pvpPeerNodeId = 0 ∨ !x.allocates then [] else
    [{ challenger := nodeNum, challenged := s.pvpPeerNodeId
       winner := if s.result = .p1Win then nodeNum else if s.result = .p2Win then s.pvpPeerNodeId else 0
       turns := s.turn % 2 ^ 16, rngSeed := s.pvpRngSeed }]

theorem sendPvpResult_eq (nodeNum : UInt32) (x : Luck) (s : Pentest) (winner : UInt32) :
    sendPvpResult nodeNum x s winner = { s with sent := s.sent ++
      if s.pvpPeerNodeId = 0 ∨ !x.allocates then [] else
        [{ challenger := nodeNum, challenged := s.pvpPeerNodeId, winner := winner
           turns := s.turn % 2 ^ 16, rngSeed := s.pvpRngSeed }] } := by
  unfold sendPvpResult
  split
  · rw [List.append_nil]
  · rfl

theorem book_bookedAs (nodeNum : UInt32) (x : Luck) (s : Pentest) : BookedAs nodeNum x s (book nodeNum x s) := by
  by_cases hp : s.pvpPeerNodeId = 0
  · cases hr : s.result <;>
      constructor <;> simp [book, battleLogQueue, hr, hp]
  · cases hr : s.result <;>
      constructor <;> simp [book, battleLogQueue, sendPvpResult_eq, hr, hp]

theorem drainLine_eq (x : Luck) (s : Pentest) :
    ∃ (q : ℕ) (t : UInt32), drainLine x s = { s with logQueueCount := q, nextLineMs := t } := by
  unfold drainLine
  split
  · exact ⟨_, _, rfl⟩
  · exact ⟨_, _, rfl⟩

/-- A tick goes on with the fight, books it, or shows its result until the screen is left. -/
theorem battleTick_cases (nodeNum : UInt32) (x : Luck) (hk : Kept s) :
    s.battleInProgress = false ∧ battleTick nodeNum x s = s ∨
      s.battleInProgress = true ∧ ∃ (q : ℕ) (t : UInt32),
        (s.booked = false ∧ fightOver s = false ∧ ∃ (q' : ℕ) (t' m : UInt32) (r : EngineResult) (n k : ℕ),
          battleTick nodeNum x s = { s with
            logQueueCount := q', nextLineMs := t', nextTurnMs := m, result := r, turn := n
            gauntlet.round := k }) ∨
        (s.booked = false ∧ fightOver s = true ∧
          battleTick nodeNum x s = book nodeNum x { s with logQueueCount := q, nextLineMs := t }) ∨
        (s.booked = true ∧ (battleTick nodeNum x s = { s with logQueueCount := q, nextLineMs := t } ∨
          battleTick nodeNum x s = endLinger x { s with logQueueCount := q, nextLineMs := t })) := by
  unfold battleTick
  rcases Bool.eq_false_or_eq_true s.battleInProgress with hprogress | hprogress
  · refine .inr ⟨hprogress, ?_⟩
    obtain ⟨q, t, heq⟩ := drainLine_eq x s
    refine ⟨q, t, ?_⟩
    have hlive : ¬ (!s.battleInProgress) = true := by
      rw [hprogress]
      decide
    rw [if_neg hlive, heq]
    have hended := hk.ended hprogress
    by_cases hround : anotherRound s = true ∧ s.battleEndedMs = 0
    · have hb : s.booked = false := Bool.eq_false_iff.mpr fun hb => hended.mp hb hround.2
      have hover : fightOver s = false := by
        unfold fightOver
        rw [hround.1, Bool.not_true, Bool.and_false]
      refine .inl ⟨hb, hover, ?_⟩
      have hround' : anotherRound { s with logQueueCount := q, nextLineMs := t } = true ∧ s.battleEndedMs = 0 :=
        hround
      dsimp only
      rw [if_pos hround']
      split
      · exact ⟨_, _, _, _, _, _, rfl⟩
      · exact ⟨_, _, _, _, _, _, rfl⟩
    · have hround' : ¬ (anotherRound { s with logQueueCount := q, nextLineMs := t } = true ∧
          s.battleEndedMs = 0) := hround
      dsimp only
      rw [if_neg hround']
      by_cases hres : s.result = .ongoing
      · rw [if_neg (not_not.mpr hres)]
        have hb : s.booked = false := Bool.eq_false_iff.mpr fun hb => (hk.shown hprogress hb).1 hres
        have hover : fightOver s = false := by
          unfold fightOver
          rw [decide_eq_false (not_not.mpr hres), Bool.false_and]
        refine .inl ⟨hb, hover, ?_⟩
        split
        · exact ⟨_, _, _, _, _, _, rfl⟩
        · split
          · exact ⟨_, _, _, _, _, _, rfl⟩
          · exact ⟨_, _, _, _, _, _, rfl⟩
      · rw [if_pos hres]
        unfold endBattle
        rcases Bool.eq_false_or_eq_true s.booked with hb | hb
        · refine .inr (.inr ⟨hb, ?_⟩)
          dsimp only
          rw [if_neg (hended.mp hb)]
          split
          · exact .inr rfl
          · exact .inl rfl
        · have hzero : s.battleEndedMs = 0 := by
            by_contra hne
            rw [hended.mpr hne] at hb
            cases hb
          have hover : fightOver s = true := by
            unfold fightOver
            have hno : anotherRound s = false := Bool.eq_false_iff.mpr fun h => hround ⟨h, hzero⟩
            rw [decide_eq_true hres, hno]
            rfl
          refine .inr (.inl ⟨hb, hover, ?_⟩)
          obtain ⟨n, hbook⟩ := (book_bookedAs nodeNum x { s with logQueueCount := q, nextLineMs := t }).eq
          have htime : (book nodeNum x { s with
              logQueueCount := q, nextLineMs := t }).battleEndedMs = x.millis := by
            rw [hbook]
          dsimp only
          rw [if_pos hzero, htime, UInt32.sub_self, if_neg (by decide)]
  · have hdone : (!s.battleInProgress) = true := by
      rw [hprogress]
      rfl
    rw [if_pos hdone]
    exact .inl ⟨hprogress, rfl⟩

theorem unbooked_iff : unbooked s = true ↔
    s.battleInProgress = true ∧ fightOver s = true ∧ s.booked = false := by
  unfold unbooked
  rw [Bool.and_eq_true, Bool.and_eq_true, Bool.not_eq_true', and_assoc]

theorem unbooked_of_booked (h : s.booked = true) : unbooked s = false := by
  refine Bool.eq_false_iff.mpr fun hu => ?_
  have hb := (unbooked_iff.mp hu).2.2
  rw [h] at hb
  cases hb

/-- The lines that are queued are not what is kept. -/
theorem Kept.drained (hk : Kept s) (q : ℕ) (t : UInt32) : Kept { s with logQueueCount := q, nextLineMs := t } :=
  ⟨hk.pvp, hk.gym, hk.wild, hk.peer, hk.noPeer, hk.ended, hk.going, hk.shown, hk.gauntlet, hk.idle, hk.fought⟩

theorem book_kept (hk : Kept s) (hover : fightOver s = true) (hnow : x.millis ≠ 0) :
    Kept (book nodeNum x s) := by
  have hres : s.result ≠ .ongoing := of_decide_eq_true (Bool.and_eq_true_iff.mp hover).1
  obtain ⟨q, heq⟩ := (book_bookedAs nodeNum x s).eq
  rw [heq]
  exact {
    pvp := hk.pvp
    gym := hk.gym
    wild := hk.wild
    peer := fun _ _ h => by cases h
    noPeer := fun _ => rfl
    ended := fun _ => ⟨fun _ => hnow, fun _ => rfl⟩
    going := fun _ h => by cases h
    shown := fun _ _ => ⟨hres, rfl⟩
    gauntlet := fun h => by cases h
    idle := fun _ => rfl
    fought := hk.fought }

/-- Once the screen is left nothing is shown, and a queued fight may begin. -/
theorem endLinger_cases (hk : Kept s) (hb : s.booked = true) :
    ∃ s₁ : Pentest, Kept s₁ ∧ s₁.booked = true ∧ s₁.fights = s.fights ∧ s₁.pentestWins = s.pentestWins ∧
      s₁.pentestLosses = s.pentestLosses ∧ s₁.gymBeaten = s.gymBeaten ∧ s₁.sent = s.sent ∧
      (endLinger x s = s₁ ∨ endLinger x s = triggerBattle x s₁) := by
  have hleft : ∀ n : ℕ, Kept { s with
      battleInProgress := false, pvpProtected := false, pendingFightCount := n } := fun n => {
    pvp := ⟨fun h => absurd h Bool.false_ne_true, fun h => absurd h.1 Bool.false_ne_true⟩
    gym := hk.gym
    wild := hk.wild
    peer := hk.peer
    noPeer := hk.noPeer
    ended := fun h => absurd h Bool.false_ne_true
    going := fun h => absurd h Bool.false_ne_true
    shown := fun h => absurd h Bool.false_ne_true
    gauntlet := hk.gauntlet
    idle := fun _ => hb
    fought := fun h => absurd h Bool.false_ne_true }
  unfold endLinger
  dsimp only
  split
  · exact ⟨_, hleft _, hb, rfl, rfl, rfl, rfl, rfl, .inr rfl⟩
  · exact ⟨_, hleft _, hb, rfl, rfl, rfl, rfl, rfl, .inl rfl⟩

theorem battleTick_kept (hk : Kept s) (hspares : spares nodeNum s (.tick x)) :
    Kept (battleTick nodeNum x s) := by
  rcases battleTick_cases nodeNum x hk with ⟨-, heq⟩ | ⟨hprogress, q, t, ⟨hb, -, q', t', m, r, n, k, heq⟩ |
    ⟨hb, hover, heq⟩ | ⟨hb, heq | heq⟩⟩
  · rw [heq]
    exact hk
  · rw [heq]
    exact {
      pvp := hk.pvp
      gym := hk.gym
      wild := hk.wild
      peer := hk.peer
      noPeer := hk.noPeer
      ended := hk.ended
      going := hk.going
      shown := fun _ h => by rw [hb] at h; cases h
      gauntlet := hk.gauntlet
      idle := hk.idle
      fought := hk.fought }
  · rw [heq]
    exact book_kept (hk.drained q t) hover (hspares (unbooked_iff.mpr ⟨hprogress, hover, hb⟩)).1
  · rw [heq]
    exact hk.drained q t
  · obtain ⟨s₁, hk₁, -, -, -, -, -, -, hend⟩ := endLinger_cases (x := x) (hk.drained q t) hb
    rw [heq]
    rcases hend with hend | hend
    · rw [hend]
      exact hk₁
    · rw [hend]
      exact triggerBattle_kept hk₁

/-- A tick that leaves the screen books nothing. -/
theorem endLinger_books (hk : Kept s) (hb : s.booked = true) :
    (endLinger x s).pentestWins = s.pentestWins ∧ (endLinger x s).pentestLosses = s.pentestLosses ∧
      (endLinger x s).gymBeaten = s.gymBeaten ∧ (endLinger x s).sent = s.sent ∧
      ((endLinger x s).fights = s.fights → (endLinger x s).booked = true) := by
  obtain ⟨s₁, hk₁, hb₁, hfights, hwins, hlosses, hgyms, hsent, hend⟩ := endLinger_cases (x := x) hk hb
  rcases hend with hend | hend
  · rw [hend]
    exact ⟨hwins, hlosses, hgyms, hsent, fun _ => hb₁⟩
  · rw [hend]
    obtain ⟨hw, hl, hg, hs⟩ := triggerBattle_books x s₁
    refine ⟨hw.trans hwins, hl.trans hlosses, hg.trans hgyms, hs.trans hsent, fun hsame => ?_⟩
    rcases triggerBattle_fights (x := x) hk₁ with ⟨-, hbooked⟩ | ⟨-, hmore⟩
    · exact hbooked.trans hb₁
    · rw [hmore, hfights] at hsame
      exact absurd hsame (Nat.succ_ne_self _)

/-! ### Every event is fair -/

/-- The packet of a fight against a peer names the peer, and there is no other. -/
theorem book_sent (hk : Kept s) (hb : s.booked = false) (hprogress : s.battleInProgress = true)
    (hsend : isPvp s = true → x.allocates = true) :
    (book nodeNum x s).sent = s.sent ++ resultOf nodeNum s := by
  rw [(book_bookedAs nodeNum x s).sent]
  unfold resultOf
  rcases hf : s.fight with _ | kind
  · exact absurd hf (hk.fought hprogress)
  · cases kind with
    | pvp p =>
      have hpvp : isPvp s = true := by
        unfold isPvp
        rw [hf]
      obtain ⟨hpeer, hne⟩ := hk.peer p hf hb
      have hgoes : ¬ (p = 0 ∨ (!x.allocates) = true) := by
        rw [hsend hpvp]
        exact fun h => h.elim hne nofun
      rw [hpeer, if_neg hgoes]
    | wild | gym =>
      have hpeer : s.pvpPeerNodeId = 0 := by
        refine hk.noPeer (.inl ?_)
        unfold isPvp
        rw [hf]
      rw [if_pos (.inl hpeer)]

/-- The bit that booking sets is that of the gym. -/
theorem book_gyms (hk : Kept s) (hprogress : s.battleInProgress = true)
    (hbeaten : isPvp s = true → s.result = .p1Win → s.battleGymIdx < 8 →
      s.gymBeaten.testBit s.battleGymIdx = true)
    (g : ℕ) (hbit : (book nodeNum x s).gymBeaten.testBit g = true) :
    s.gymBeaten.testBit g = true ∨ s.fight = some (.gym g) ∧ s.result = .p1Win := by
  rw [(book_bookedAs nodeNum x s).gyms] at hbit
  split at hbit
  · rename_i hwon
    rw [Nat.testBit_or, Bool.or_eq_true, Nat.one_shiftLeft, Nat.testBit_two_pow] at hbit
    rcases hbit with hold | hnew
    · exact .inl hold
    · have hg : s.battleGymIdx = g := of_decide_eq_true hnew
      rcases hf : s.fight with _ | kind
      · exact absurd hf (hk.fought hprogress)
      · cases kind with
        | wild =>
          have hidx := hwon.2
          rw [hk.wild hf] at hidx
          omega
        | gym g' =>
          rw [← hg, hk.gym g' hf]
          exact .inr ⟨rfl, hwon.1⟩
        | pvp p =>
          have hpvp : isPvp s = true := by
            unfold isPvp
            rw [hf]
          rw [← hg]
          exact .inl (hbeaten hpvp hwon.1 hwon.2)
  · exact .inl hbit

/-- A tick without a fight to book. -/
theorem tick_fair (hunbooked : unbooked s = false)
    (hwins : (battleTick nodeNum x s).pentestWins = s.pentestWins)
    (hlosses : (battleTick nodeNum x s).pentestLosses = s.pentestLosses)
    (hgyms : (battleTick nodeNum x s).gymBeaten = s.gymBeaten) (hsent : (battleTick nodeNum x s).sent = s.sent)
    (honce : s.booked = true → (battleTick nodeNum x s).fights = s.fights →
      (battleTick nodeNum x s).booked = true) : Fair nodeNum s (.tick x) where
  gyms g h := by
    rw [show (step nodeNum s (.tick x)).gymBeaten = s.gymBeaten from hgyms] at h
    exact .inl h
  tally := by
    unfold Tally
    dsimp only
    rw [hunbooked]
    exact .refl hwins hlosses hsent
  once := honce
  kept _ := hunbooked
  drops _ h := by cases h

theorem battleTick_fair (hk : Kept s) (hspares : spares nodeNum s (.tick x)) :
    Fair nodeNum s (.tick x) := by
  rcases battleTick_cases nodeNum x hk with ⟨hprogress, heq⟩ | ⟨hprogress, q, t,
    ⟨hb, hover, q', t', m, r, n, k, heq⟩ | ⟨hb, hover, heq⟩ | ⟨hb, heq | heq⟩⟩
  · refine tick_fair (unbooked_of_booked (hk.idle hprogress)) ?_ ?_ ?_ ?_ ?_
    all_goals rw [heq]
    exact fun h _ => h
  · have hunbooked : unbooked s = false := Bool.eq_false_iff.mpr fun hu => by
      rw [(unbooked_iff.mp hu).2.1] at hover
      cases hover
    refine tick_fair hunbooked ?_ ?_ ?_ ?_ ?_
    all_goals rw [heq]
    exact fun h _ => h
  · have hunbooked : unbooked s = true := unbooked_iff.mpr ⟨hprogress, hover, hb⟩
    obtain ⟨-, hwins, hlosses, hpvp⟩ := hspares hunbooked
    have hbook := book_bookedAs nodeNum x { s with logQueueCount := q, nextLineMs := t }
    obtain ⟨n, hall⟩ := hbook.eq
    constructor
    all_goals rw [show step nodeNum s (.tick x) = _ from heq]
    · exact book_gyms (hk.drained q t) hprogress fun h => (hpvp h).2
    · unfold Tally
      dsimp only
      rw [if_pos hunbooked]
      refine ⟨by rw [hall], ?_, ?_, book_sent (hk.drained q t) hb hprogress fun h => (hpvp h).1⟩
      · rw [hbook.wins]
        by_cases hwon : s.result = .p1Win
        · rw [if_pos hwon, decide_eq_true hwon]
          exact mod_succ (hwins hwon)
        · rw [if_neg hwon, decide_eq_false hwon]
          rfl
      · rw [hbook.losses]
        by_cases hlost : s.result = .p2Win
        · rw [if_pos hlost, decide_eq_true hlost]
          exact mod_succ (hlosses hlost)
        · rw [if_neg hlost, decide_eq_false hlost]
          rfl
    · exact fun _ _ => by rw [hall]
    · exact fun h => absurd (by rw [hall]) h
    · exact fun _ h => by cases h
  · refine tick_fair (unbooked_of_booked hb) ?_ ?_ ?_ ?_ ?_
    all_goals rw [heq]
    exact fun h _ => h
  · obtain ⟨hw, hl, hg, hs, honce⟩ := endLinger_books (x := x) (hk.drained q t) hb
    refine tick_fair (unbooked_of_booked hb) ?_ ?_ ?_ ?_ ?_
    all_goals rw [heq]
    · exact hw
    · exact hl
    · exact hg
    · exact hs
    · exact fun _ => honce

theorem triggerBattle_fair (hk : Kept s) (hspares : spares nodeNum s (.trigger x)) :
    Fair nodeNum s (.trigger x) := by
  obtain ⟨hw, hl, hg, hs⟩ := triggerBattle_books x s
  constructor
  all_goals rw [show step nodeNum s (.trigger x) = triggerBattle x s from rfl]
  · rw [hg]
    exact fun g h => .inl h
  · exact .refl hw hl hs
  · intro hb hsame
    rcases triggerBattle_fights (x := x) hk with ⟨-, hbooked⟩ | ⟨-, hmore⟩
    · exact hbooked.trans hb
    · rw [hmore] at hsame
      exact absurd hsame (Nat.succ_ne_self _)
  · intro hmore
    rcases triggerBattle_fights (x := x) hk with ⟨hsame, -⟩ | ⟨hb, -⟩
    · exact absurd hsame hmore
    · exact unbooked_of_booked hb
  · rintro x' h
    cases h
    exact triggerBattle_drops hk hspares

theorem challenge_fair (hspares : spares nodeNum s (.challenge x slot)) : Fair nodeNum s (.challenge x slot) := by
  obtain ⟨hw, hl, hg, hs⟩ := challenge_books nodeNum x s slot
  constructor
  all_goals rw [show step nodeNum s (.challenge x slot) = challenge nodeNum x s slot from rfl]
  · rw [hg]
    exact fun g h => .inl h
  · exact .refl hw hl hs
  · intro hb hsame
    rcases challenge_fights nodeNum x s slot with ⟨-, heq⟩ | ⟨-, hmore⟩
    · rw [heq]
      exact hb
    · rw [hmore] at hsame
      exact absurd hsame (Nat.succ_ne_self _)
  · intro hmore
    rcases challenge_fights nodeNum x s slot with ⟨-, heq⟩ | ⟨hp, -⟩
    · rw [heq] at hmore
      exact absurd rfl hmore
    · exact hspares hp
  · exact fun _ h => by cases h

theorem handleReceived_fair {nowSec : UInt32} {p : Packet}
    (hspares : spares nodeNum s (.received nowSec p)) :
    Fair nodeNum s (.received nowSec p) := by
  have htally := handleReceived_tally hspares
  obtain ⟨w, l, peers, lite, heq⟩ := handleReceived_eq nodeNum s nowSec p
  constructor
  · rw [show step nodeNum s (.received nowSec p) = _ from heq]
    exact fun g h => .inl h
  · exact htally
  · rw [show step nodeNum s (.received nowSec p) = _ from heq]
    exact fun h _ => h
  · rw [show step nodeNum s (.received nowSec p) = _ from heq]
    exact fun h => absurd rfl h
  · exact fun _ h => by cases h

theorem step_fair (hk : Kept s) (hspares : spares nodeNum s e) : Fair nodeNum s e := by
  cases e with
  | trigger x => exact triggerBattle_fair hk hspares
  | challenge x slot => exact challenge_fair hspares
  | received nowSec p => exact handleReceived_fair hspares
  | tick x => exact battleTick_fair hk hspares

theorem step_kept (hk : Kept s) (hspares : spares nodeNum s e) : Kept (step nodeNum s e) := by
  cases e with
  | trigger x => exact triggerBattle_kept hk
  | challenge x slot => exact challenge_kept hk
  | received nowSec p => exact handleReceived_kept hk
  | tick x => exact battleTick_kept hk hspares

/-- Along a run from a boot every battle is booked for what it was. -/
theorem pentest_fair {wins losses gymBeaten : ℕ} {peers : Fin 8 → PikachuPeer} {es : List Event}
    (h : Along (step nodeNum) (spares nodeNum) (boot wins losses gymBeaten peers) es) :
    Along (step nodeNum) (Fair nodeNum) (boot wins losses gymBeaten peers) es :=
  h.trade (P := Kept) (fun _ _ hk he => step_kept hk he) (fun _ _ hk he => step_fair hk he)
    (boot_kept wins losses gymBeaten peers)

/-! ### A wild fight, and one against a peer -/

def neverSeen : PikachuPeer := ⟨0, 0, 0, 0, 0⟩

def pikachuNine : PikachuPeer := ⟨9, 0, 5, 0, 0⟩

def luck (millis : UInt32) (outcome : EngineResult) : Luck := ⟨millis, 0, outcome, 0, true⟩

theorem pentest_fair_wild :
    Along (step 7) (Fair 7) (boot 0 0 0 fun _ => neverSeen)
      [.received 1 (.pikachuBeacon pikachuNine), .trigger (luck 1 .ongoing), .tick (luck 700 .ongoing),
        .tick (luck 1400 .ongoing), .tick (luck 2100 .p1Win), .tick (luck 2800 .ongoing),
        .challenge (luck 2900 .ongoing) firstSlot, .trigger (luck 3000 .ongoing), .tick (luck 3600 .ongoing),
        .tick (luck 4300 .ongoing), .tick (luck 5000 .p1Win), .tick (luck 5700 .ongoing)] :=
  pentest_fair (by decide +kernel)

/-- The first fight after a boot is against a peer, and Brock is beaten. -/
theorem brock_beaten :
    ¬ ∀ (nodeNum : UInt32) (wins losses gymBeaten : ℕ) (peers : Fin 8 → PikachuPeer) (es : List Event),
      Along (step nodeNum) (Fair nodeNum) (boot wins losses gymBeaten peers) es := by
  intro hall
  have hrun := hall 7 0 0 0 (fun _ => neverSeen)
    ([.received 1 (.pikachuBeacon pikachuNine), .challenge (luck 1 .ongoing) firstSlot, .tick (luck 700 .ongoing),
      .tick (luck 1400 .ongoing), .tick (luck 2100 .p1Win)] ++ [.tick (luck 2800 .ongoing)])
  rcases (along_concat.mp hrun).2.gyms 0 (by decide +kernel) with hbit | hfight
  · revert hbit
    decide +kernel
  · have hpvp := hfight.1
    revert hpvp
    decide +kernel

end MonsterMesh.Pentest

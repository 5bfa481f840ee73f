import MonsterMesh.Battle.Endings
import MonsterMesh.Battle.Start

/-! The winner a device reports, over whole runs of calls. -/
namespace MonsterMesh

open Fallible Bytes

namespace TextBattle

/-- A device, and whether the battle on it is won: the last word on it since it began. -/
structure Watched where
  battle : TextBattle
  won : Bool

namespace Watched

variable {w w' : Watched} {t' : TextBattle} {env : Env} {call : Call} {n : News}

def step (w : Watched) (i : Env × Call) : Except Fault Watched :=
  (fun t => ⟨t, (w.battle.news i.1 i.2).won w.won⟩) <$> w.battle.call i.1 i.2

/-- A call that ends the battle with a win sets the flag or finds it set; one that ends it without a win
finds it clear. -/
def Hears (w : Watched) (n : News) : Prop :=
  match n with
  | .ended e =>
    if e.won.getD w.won then e.recorded = true ∨ w.battle.playerWon = true else w.battle.playerWon = false
  | _ => True

def Heard (w : Watched) (i : Env × Call) : Prop := w.Hears (w.battle.news i.1 i.2)

instance (n : News) : Decidable (w.Hears n) := by
  unfold Hears
  split <;> infer_instance

instance (i : Env × Call) : Decidable (w.Heard i) := inferInstanceAs (Decidable (w.Hears _))

/-- The flag, the watch and the engine agree. -/
structure Agrees (w : Watched) : Prop where
  recorded : w.won = true → w.battle.playerWon = true
  flagged : w.battle.phase = .finished → w.battle.playerWon = true → w.won = true
  result : w.battle.role ≠ .client → (w.won = true ↔ w.battle.engine.result = .p1Win)
  overlay : w.battle.phase = .waitChallengeOverlay → w.battle.role = .client

/-- In a battle all agree; without one there is no end. -/
structure Sound (w : Watched) : Prop where
  off : w.battle.mode = .off → w.battle.phase ≠ .finished
  agrees : w.battle.mode ≠ .off → w.Agrees

/-- A new battle, with or without the flag of the last one. -/
theorem Agrees.begins (hp : t'.phase ≠ .finished) (ho : t'.phase ≠ .waitChallengeOverlay)
    (hr : t'.engine.result = .ongoing) : Agrees ⟨t', false⟩ where
  recorded := fun h => nomatch h
  flagged := fun hf => absurd hf hp
  result := by
    intro _
    rw [hr]
    exact ⟨nofun, nofun⟩
  overlay := fun h => absurd h ho

theorem Sound.begins (hm : t'.mode ≠ .off) (hp : t'.phase ≠ .finished) (ho : t'.phase ≠ .waitChallengeOverlay)
    (hr : t'.engine.result = .ongoing) : Sound ⟨t', false⟩ where
  off := fun h => absurd h hm
  agrees := fun _ => .begins hp ho hr

/-- After a call that ends the battle, flag and watch agree exactly when the call is heard. -/
theorem hears_iff {e : Ending} (ha : w.Agrees) (h : Ruled w.battle t' (.ended e)) :
    w.Hears (.ended e) ↔ (t'.playerWon = true ↔ (News.ended e).won w.won = true) := by
  have hflag : t'.playerWon = (w.battle.playerWon || e.recorded && e.won.getD false) := h.flag
  have hrec := ha.recorded
  unfold Hears
  rw [hflag]
  change (if e.won.getD w.won = true then _ else _) ↔ (_ ↔ e.won.getD w.won = true)
  cases hw : e.won with
  | none => cases hx : w.won <;> cases hy : w.battle.playerWon <;> simp_all
  | some b => cases b <;> cases hy : w.battle.playerWon <;> simp

/-- What the engine says of a battle that its own device ends. -/
theorem Ending.won_iff {e : Ending} (ht : e.told = false) {b : Bool} {r : Result} (h : b = true ↔ r = .p1Win) :
    e.won.getD b = true ↔ e.result.getD r = .p1Win := by
  cases e with
  | turn r' => exact decide_eq_true_iff
  | update r' => cases ht
  | fullState r' => cases ht
  | left => exact h
  | forfeited => exact iff_of_true rfl rfl
  | fled => exact iff_of_true rfl rfl
  | timedOut => exact iff_of_true rfl rfl
  | desynced => exact iff_of_false nofun nofun
  | gaveUp => exact iff_of_false nofun nofun

theorem Agrees.ruled (ha : w.Agrees) (hc : w.Hears n) (h : Ruled w.battle t' n) :
    Agrees ⟨t', n.won w.won⟩ := by
  have hclient (hr : t'.role ≠ .client) : w.battle.role ≠ .client := h.role ▸ hr
  have hoverlay (ho : t'.phase = .waitChallengeOverlay) : t'.role = .client :=
    h.role.trans (ha.overlay (h.overlay ho))
  cases n with
  | nothing =>
    have hflag : t'.playerWon = w.battle.playerWon := h.flag.trans (Bool.or_false _)
    have hresult (hr : t'.role ≠ .client) : t'.engine.result = w.battle.engine.result := h.result (hclient hr)
    refine ⟨fun hw => hflag.trans (ha.recorded hw), fun hf hw => ?_, fun hr => ?_, hoverlay⟩
    · obtain hf | ⟨e, he⟩ := h.finished hf
      · exact ha.flagged hf.1 (hflag.symm.trans hw)
      · cases he
    · rw [hresult hr]
      exact ha.result (hclient hr)
  | begun =>
    refine ⟨nofun, fun hf => ?_, fun hr => ?_, hoverlay⟩
    · obtain hf | ⟨e, he⟩ := h.finished hf
      · exact absurd rfl hf.2
      · cases he
    · rw [h.result (hclient hr)]
      exact iff_of_false nofun nofun
  | ended e =>
    have hagree := (hears_iff ha h).mp hc
    refine ⟨hagree.mpr, fun _ => hagree.mp, fun hr => ?_, hoverlay⟩
    have htold : e.told = false := by
      cases ht : e.told with
      | false => rfl
      | true => exact absurd (h.told e rfl ht) (hclient hr)
    rw [h.result (hclient hr)]
    exact Ending.won_iff htold (ha.result (hclient hr))

/-! ### The calls -/

theorem input_ruled {t : TextBattle} {i : Input} (ho : t.phase = .waitChallengeOverlay → t.role = .client)
    (hm : t.mode ≠ .off) (h : t.step (env, i) = .ok t') (hm' : t'.mode ≠ .off) :
    Ruled t t' (t.news env (.input i)) := by
  unfold news
  dsimp only
  rw [if_neg hm]
  cases i with
  | packet fromId buf =>
    cases h
    unfold handlePacket
    dsimp only
    cases Packet.ofBytes buf with
    | none => exact .refl t
    | some p => exact dispatch_ruled hm
  | key c => exact key_ruled ho hm h hm'
  | tick now => exact tick_ruled h hm'

/-- A battle goes on in its mode, or it is left. -/
theorem input_mode {t : TextBattle} {i : Input} (hm : t.mode ≠ .off) (h : t.step (env, i) = .ok t') :
    t'.mode = t.mode ∨ t'.Exited := by
  cases i with
  | packet fromId buf =>
    cases h
    dsimp only
    unfold handlePacket
    cases Packet.ofBytes buf with
    | none => exact .inl rfl
    | some p =>
      exact .inl ((dispatch_link (p := p) env fromId hm).elim (congrArg Link.mode) (congrArg Link.mode))
  | key c => exact (handleKey_link h).imp_left (congrArg Link.mode)
  | tick now => exact (tick_link h).imp_left (congrArg Link.mode)

/-- Without a battle an input can only put a challenge on the screen. -/
theorem input_off {t : TextBattle} {i : Input} (hm : t.mode = .off) (h : t.step (env, i) = .ok t') :
    (t'.mode = .off ∧ t'.phase = t.phase) ∨
      ∃ fromId session name party, t' = t.beginOverlay env fromId session name party := by
  cases i with
  | packet fromId buf =>
    cases h
    exact (handlePacket_off env fromId hm).imp_right fun ⟨session, name, party, h⟩ =>
      ⟨fromId, session, name, party, h⟩
  | key c =>
    have hkept : t.handleKey env c = .ok t := if_pos hm
    cases hkept.symm.trans h
    exact .inl ⟨hm, rfl⟩
  | tick now =>
    have hkept : t.tick env now = .ok t := by
      unfold tick
      rw [hm]
    cases hkept.symm.trans h
    exact .inl ⟨hm, rfl⟩

theorem input_sound {i : Input} (hs : w.Sound) (hc : w.Heard (env, .input i))
    (h : w.battle.step (env, i) = .ok t') : Sound ⟨t', (w.battle.news env (.input i)).won w.won⟩ := by
  by_cases hm : w.battle.mode = .off
  · have hnews : w.battle.news env (.input i) = .begun := if_pos hm
    rw [hnews]
    obtain ⟨hoff, hp⟩ | ⟨fromId, session, name, party, h⟩ := input_off hm h
    · exact ⟨fun _ => hp ▸ hs.off hm, fun hx => absurd hoff hx⟩
    · rw [h]
      exact ⟨nofun, fun _ => ⟨nofun, nofun, fun hr => absurd rfl hr, fun _ => rfl⟩⟩
  · have hagrees := hs.agrees hm
    refine ⟨fun ho => ?_, fun hm' => hagrees.ruled hc (input_ruled hagrees.overlay hm h hm')⟩
    obtain hx | hx := input_mode hm h
    · exact absurd (hx.symm.trans ho) hm
    · rw [hx.2]
      exact nofun

theorem initiator_sound (t : TextBattle) (env : Env) (remoteId : UInt32) (mine opp : Gen1Party) (seed : UInt32)
    (session : UInt16) : Sound ⟨t.startNetworkedAsInitiator env remoteId mine opp seed session, false⟩ := by
  have hresult : (t.startNetworkedAsInitiator env remoteId mine opp seed session).engine.result = .ongoing := by
    unfold startNetworkedAsInitiator
    dsimp only
    split <;> simp only [onScene, Scene.handleFaints_result] <;> rfl
  have hmode : (t.startNetworkedAsInitiator env remoteId mine opp seed session).mode = .networked := by
    unfold startNetworkedAsInitiator
    dsimp only
    split <;> rfl
  have hphase : (t.startNetworkedAsInitiator env remoteId mine opp seed session).phase = .waitPeerReady :=
    if_pos hresult
  exact .begins (by simp [hmode]) (by simp [hphase]) (by simp [hphase]) hresult

theorem calm_sound (hs : w.Sound) (hmode : t'.mode = w.battle.mode) (h : Ruled w.battle t' .nothing) :
    Sound ⟨t', w.won⟩ where
  off := by
    intro ho hf
    obtain hf | ⟨_, he⟩ := h.finished hf
    · exact hs.off (hmode.symm.trans ho) hf.1
    · cases he
  agrees := fun hm => (hs.agrees (hmode ▸ hm)).ruled (n := .nothing) trivial h

theorem markPeerReady_ruled (t : TextBattle) : Ruled t t.markPeerReady .nothing := by
  unfold markPeerReady
  by_cases hp : t.phase = .waitPeerReady
  · rw [if_pos hp]
    exact .moved (hp ▸ nofun) nofun nofun rfl rfl rfl
  · rw [if_neg hp]
    exact .quiet rfl rfl rfl rfl

theorem sound_step {i : Env × Call} (hs : w.Sound) (hc : w.Heard i) (h : w.step i = .ok w') : w'.Sound := by
  obtain ⟨env, call⟩ := i
  obtain ⟨t', ht, h⟩ := map_eq_ok.mp h
  subst h
  cases call with
  | input i => exact input_sound hs hc ht
  | startLocal mine cpu theirTag =>
    cases ht
    exact .begins nofun nofun nofun rfl
  | nextOpponent cpu theirTag =>
    cases ht
    exact .begins nofun nofun nofun rfl
  | startNetworkedAsInitiator remoteId mine opp seed session =>
    cases ht
    exact initiator_sound ..
  | startNetworkedAsReceiver remoteId mine seed opp session =>
    cases ht
    exact .begins nofun nofun nofun rfl
  | startServerAuthAsInitiator remoteId mine name =>
    cases ht
    exact .begins nofun nofun nofun rfl
  | setMyTbParty mine name =>
    cases ht
    exact calm_sound hs rfl (.quiet rfl rfl rfl rfl)
  | healPlayer =>
    cases ht
    exact calm_sound hs rfl (.quiet rfl rfl rfl rfl)
  | markPeerReady =>
    cases ht
    exact calm_sound hs rfl (markPeerReady_ruled _)
  | consumePendingXp =>
    cases ht
    exact calm_sound hs rfl (.quiet rfl rfl rfl rfl)
  | exit =>
    cases ht
    exact ⟨nofun, fun hm => absurd rfl hm⟩

theorem sound_run {w₀ : Watched} (h₀ : w₀.Sound) (h : Reach step Heard w₀ w) : w.Sound :=
  h.invariant (fun _ _ _ hs hc hst => sound_step hs hc hst) h₀

theorem fresh_sound : Sound ⟨fresh, false⟩ := ⟨nofun, fun hm => absurd rfl hm⟩

/-- A call that is not heard ends the battle, and leaves a device that decides it itself on the result
screen with the wrong flag. -/
theorem unheard_step {i : Env × Call} (hs : w.Sound) (hc : ¬ w.Heard i) (h : w.step i = .ok w')
    (hm : w'.battle.mode ≠ .off) : ¬ (w'.battle.playerWon = true ↔ w'.won = true) ∧
      (w.battle.role ≠ .client → w'.battle.phase = .finished) := by
  obtain ⟨env, call⟩ := i
  obtain ⟨t', ht, h⟩ := map_eq_ok.mp h
  subst h
  unfold Heard at hc
  dsimp only at hc hm ⊢
  have hends : ∃ e, w.battle.news env call = .ended e := by
    cases hn : w.battle.news env call with
    | ended e => exact ⟨e, rfl⟩
    | nothing =>
      rw [hn] at hc
      exact absurd trivial hc
    | begun =>
      rw [hn] at hc
      exact absurd trivial hc
  obtain ⟨e, he⟩ := hends
  cases call with
  | input i =>
    have hmode : w.battle.mode ≠ .off := by
      intro hoff
      have hbegun : w.battle.news env (.input i) = .begun := if_pos hoff
      cases hbegun.symm.trans he
    have hagrees := hs.agrees hmode
    have hruled := input_ruled hagrees.overlay hmode ht hm
    rw [he] at hruled hc ⊢
    exact ⟨mt (hears_iff hagrees hruled).mpr hc, fun hr => hruled.closed hr (.inr ⟨e, rfl⟩)⟩
  | startLocal | nextOpponent | startNetworkedAsInitiator | startNetworkedAsReceiver
  | startServerAuthAsInitiator | setMyTbParty | healPlayer | markPeerReady | consumePendingXp | exit => cases he

end Watched

/-- Over every run of calls that are heard, the flag of a finished battle is the result; and the first call
that is not heard leaves it wrong. -/
theorem playerWon_run {w : Watched} (h : Reach Watched.step Watched.Heard ⟨fresh, false⟩ w) :
    (w.battle.phase = .finished → (w.battle.playerWon = true ↔ w.won = true) ∧
      (w.battle.role ≠ .client → (w.battle.playerWon = true ↔ w.battle.engine.result = .p1Win))) ∧
    ∀ i w', ¬ w.Heard i → w.step i = .ok w' → w'.battle.mode ≠ .off →
      ¬ (w'.battle.playerWon = true ↔ w'.won = true) ∧
        (w.battle.role ≠ .client → w'.battle.phase = .finished) := by
  have hs := Watched.sound_run Watched.fresh_sound h
  refine ⟨fun hf => ?_, fun i w' hc hst hm => Watched.unheard_step hs hc hst hm⟩
  have hmode : w.battle.mode ≠ .off := fun ho => hs.off ho hf
  have ha := hs.agrees hmode
  have hflag : w.battle.playerWon = true ↔ w.won = true := ⟨ha.flagged hf, ha.recorded⟩
  exact ⟨hflag, fun hr => hflag.trans (ha.result hr)⟩

/-- A mon that wins in one turn. -/
def veteran : Gen1Party :=
  { soloParty 0x99 33 0 with mons := fun i => { (soloParty 0x99 33 0).mons i with level := 100 } }

def firstTrainer : List (Env × Call) :=
  [(clock, .startLocal veteran (soloParty 0xB0 33 0) []), (clock, .input (.key 49)), (clock, .input (.tick 0))]

/-- The first trainer is beaten; the player gives up against the second. -/
def lostGauntlet : List (Env × Call) :=
  firstTrainer ++ [(clock, .input (.key 49)), (clock, .nextOpponent (soloParty 0xB0 33 0) []),
    (clock, .input (.key 27))]

def peerFlees : List (Env × Call) :=
  [(clock, .startServerAuthAsInitiator 7 (soloParty 0x99 33 0) []),
    (clock, .input (.packet 7 joinPacket.bytes)), (clock, .input (.packet 7 fleePacket.bytes))]

theorem playerWon_run_firstTrainer : ∃ w, play Watched.step ⟨fresh, false⟩ firstTrainer = .ok w ∧
    w.battle.phase = .finished ∧ w.won = true ∧ w.battle.playerWon = true := by
  obtain ⟨w, hw, hx⟩ := exists_of_map (x := play Watched.step ⟨fresh, false⟩ firstTrainer)
    (f := fun w => (w.battle.phase, w.won)) (b := (.finished, true)) (by decide +kernel)
  obtain ⟨hf, hwon⟩ := Prod.mk.inj hx
  have hheard : Along Watched.step Watched.Heard ⟨fresh, false⟩ firstTrainer :=
    along_of_decide (by decide +kernel)
  exact ⟨w, hw, hf, hwon, ((playerWon_run (.of_play hheard hw)).1 hf).1.mpr hwon⟩

/-- A server whose peer flees has won without the flag, and the flag of a beaten trainer outlives a lost
gauntlet. -/
theorem playerWon_misreports :
    (¬ ∀ w, Reach Watched.step (fun _ _ => True) ⟨fresh, false⟩ w → w.battle.phase = .finished →
      w.battle.role ≠ .client → (w.battle.playerWon = true ↔ w.battle.engine.result = .p1Win)) ∧
    ∃ w, play Watched.step ⟨fresh, false⟩ lostGauntlet = .ok w ∧ w.battle.phase = .finished ∧
      w.battle.engine.result = .p2Win ∧ w.battle.playerWon = true := by
  constructor
  · intro h
    obtain ⟨w, hw, hx⟩ := exists_of_map (x := play Watched.step ⟨fresh, false⟩ peerFlees)
      (f := fun w => (w.battle.phase, w.battle.role, w.battle.playerWon, w.battle.engine.result))
      (b := (.finished, .server, false, .p1Win)) (by decide +kernel)
    simp only [Prod.mk.injEq] at hx
    obtain ⟨hf, hr, hwon, hresult⟩ := hx
    have hreach : Reach Watched.step (fun _ _ => True) ⟨fresh, false⟩ w :=
      .of_play (along_of_decide (by decide +kernel)) hw
    have hflag := (h w hreach hf (hr ▸ nofun)).mpr hresult
    exact absurd (hwon.symm.trans hflag) Bool.false_ne_true
  · obtain ⟨w, hw, hx⟩ := exists_of_map (x := play Watched.step ⟨fresh, false⟩ lostGauntlet)
      (f := fun w => (w.battle.phase, w.battle.engine.result, w.battle.playerWon))
      (b := (.finished, .p2Win, true)) (by decide +kernel)
    simp only [Prod.mk.injEq] at hx
    exact ⟨w, hw, hx⟩

end TextBattle
end MonsterMesh

import MonsterMesh.Battle.Frame
import MonsterMesh.Battle.Redraw
import MonsterMesh.Battle.Scenes
import MonsterMesh.Battle.Start

/-! The end of a battle: what may still move a finished phase or a decided result. -/
namespace MonsterMesh

open Fallible Bytes

theorem Scene.forfeit_result {s : Scene} (side : Side) : (s.forfeit side).engine.result =
    match side with
    | .zero => .p2Win
    | .one => .p1Win := rfl

@[simp] theorem Scene.handleFaints_result {s : Scene} :
    s.handleFaints.engine.result = s.engine.result :=
  Engine.result_of_bare handleFaints_bare

@[simp] theorem Scene.creditFaints_result {s : Scene} (pre : Fin 6 → UInt16) (mult : UInt32) :
    (s.creditFaints pre mult).engine.result = s.engine.result :=
  Engine.result_of_bare (creditFaints_bare pre mult)

namespace TextBattle

variable {t t' u : TextBattle} {env : Env} {fromId : UInt32} {p : Packet} {c : UInt8}

/-- Where the engine decides, a decided battle is on its result screen. -/
def Settled (t : TextBattle) : Prop :=
  t.role ≠ .client → t.engine.result ≠ .ongoing → t.phase = .finished

/-- Neither a finished phase nor a decided result moves from `t` to `t'`. -/
structure Stays (t t' : TextBattle) : Prop where
  finished : t.phase = .finished → t'.phase = .finished
  result : t.engine.result ≠ .ongoing → t'.engine.result = t.engine.result
  settled : t.Settled → t'.Settled

namespace Stays

theorem refl (t : TextBattle) : Stays t t := ⟨id, fun _ => rfl, id⟩

theorem trans (h : Stays t u) (h' : Stays u t') : Stays t t' where
  finished := fun hf => h'.finished (h.finished hf)
  result := fun hr => (h'.result ((h.result hr).symm ▸ hr)).trans (h.result hr)
  settled := fun hs => h'.settled (h.settled hs)

theorem quiet (hp : t'.phase = t.phase) (hr : t'.engine.result = t.engine.result)
    (hl : t'.role = t.role) : Stays t t' where
  finished := fun hf => hp.trans hf
  result := fun _ => hr
  settled := by
    intro hs hc hd
    rw [hl] at hc
    rw [hr] at hd
    exact hp.trans (hs hc hd)

theorem moves (hn : t.phase ≠ .finished) (hr : t'.engine.result = t.engine.result)
    (hl : t'.role = t.role) : Stays t t' where
  finished := fun hf => absurd hf hn
  result := fun _ => hr
  settled := by
    intro hs hc hd
    rw [hl] at hc
    rw [hr] at hd
    exact absurd (hs hc hd) hn

theorem closes (hp : t'.phase = .finished)
    (hr : t.engine.result ≠ .ongoing → t'.engine.result = t.engine.result) : Stays t t' where
  finished := fun _ => hp
  result := hr
  settled := fun _ _ _ => hp

/-- An ongoing battle that is left on the result screen once it is decided. -/
theorem decides (hn : t.phase ≠ .finished) (ho : t.engine.result = .ongoing)
    (hp : t'.engine.result ≠ .ongoing → t'.phase = .finished) : Stays t t' where
  finished := fun hf => absurd hf hn
  result := fun hr => absurd ho hr
  settled := fun _ _ hd => hp hd

end Stays

/-! ### The client -/

theorem clientAuthSendActionV2_stays (a i : UInt8) : Stays t (t.clientAuthSendActionV2 env a i) := by
  unfold clientAuthSendActionV2
  dsimp only
  split <;> exact .quiet rfl rfl rfl

theorem clientAuthSendActionV2_phase (a i : UInt8) :
    (t.clientAuthSendActionV2 env a i).phase = t.phase := by
  unfold clientAuthSendActionV2
  dsimp only
  split <;> rfl

theorem clientAuthSendActionV2_result (a i : UInt8) :
    (t.clientAuthSendActionV2 env a i).engine.result = t.engine.result := by
  unfold clientAuthSendActionV2
  dsimp only
  split <;> rfl

theorem reAck_stays : Stays t (t.reAck env) := by
  unfold reAck
  split <;> exact clientAuthSendActionV2_stays _ _

theorem commitUpdate_stays (seq : UInt8) (fin need : Bool)
    (h : t.phase = .finished → fin = true) : Stays t (t.commitUpdate env seq fin need) := by
  cases fin with
  | true =>
    unfold commitUpdate
    dsimp only
    rw [if_pos rfl]
    exact .closes (clientAuthSendActionV2_phase ..) fun _ => clientAuthSendActionV2_result ..
  | false =>
    have hn : t.phase ≠ .finished := fun hf => absurd (h hf) (by decide)
    unfold commitUpdate
    cases need <;> exact .moves hn rfl rfl

theorem checkUpdate_stays (seq : UInt8) (hash : List UInt8) (fin need : Bool)
    (h : t.phase = .finished → hash24Bytes t.boardHash24 = hash → fin = true) :
    Stays t (t.checkUpdate env seq hash fin need) := by
  unfold checkUpdate
  split
  · exact .quiet rfl rfl rfl
  · rename_i hh
    exact commitUpdate_stays _ _ _ fun hf => h hf (not_not.mp hh)

theorem withScene_stays {s : Scene} (h : t.toScene.Redrawn s) : Stays t (t.withScene s) :=
  .quiet rfl h.result rfl

/-- A new UPDATE that decodes to an unfinished scene, with its hash: it puts the client back to
choosing. -/
def Reopens (t : TextBattle) (p : Packet) : Prop :=
  p.session = t.session ∧ ¬ (p.seq = t.lastAppliedUpdateSeq ∧ t.lastAppliedUpdateSeq ≠ 0) ∧
    ∃ turn fhi flo h₀ h₁ h₂ body s, p.payload = turn :: fhi :: flo :: h₀ :: h₁ :: h₂ :: body ∧
      t.toScene.applySections (ofBe16 fhi flo) body = .ok (s, false) ∧
      hash24Bytes ((({ t with clientTurn := turn } : TextBattle).withScene s).mirrorXp
        t.foeHp).boardHash24 = [h₀, h₁, h₂]

theorem clientAuthOnUpdatePkt_stays (h : t.phase = .finished → ¬ t.Reopens p) :
    Stays t (t.clientAuthOnUpdatePkt env p) := by
  unfold clientAuthOnUpdatePkt
  split
  · rename_i turn fhi flo h₀ h₁ h₂ body hp
    dsimp only
    split_ifs with hs ho hd
    · exact .refl t
    · exact .quiet rfl rfl rfl
    · refine .trans ?_ reAck_stays
      exact .quiet rfl rfl rfl
    · have hb := Scene.applySections_redrawn t.toScene (ofBe16 fhi flo) body
      unfold applyUpdate
      dsimp only
      split
      · rename_i s hx
        rw [hx] at hb
        exact .quiet rfl hb.result rfl
      · rename_i s fin hx
        rw [hx] at hb
        refine .trans ?_ (checkUpdate_stays _ _ _ _ fun hf hh => ?_)
        · exact .quiet rfl (by simpa [mirrorXp, onScene, withScene] using hb.result) rfl
        · cases fin with
          | true => rfl
          | false => exact absurd ⟨not_not.mp hs, hd, _, _, _, _, _, _, _, s, hp, hx, hh⟩ (h hf)
  · exact .refl t

/-- A FULL_STATE that decodes and calls the battle ongoing, as every one sent does. -/
def Reconverges (t : TextBattle) (p : Packet) : Prop :=
  p.session = t.session ∧ ∃ hi lo rest r, p.payload = hi :: lo :: tbResultOngoing :: rest ∧
    2 ≤ rest.length ∧ t.toScene.applySnapshot rest = .ok r

theorem clientAuthOnFullStatePkt_stays (h : t.phase = .finished → ¬ t.Reconverges p) :
    Stays t (t.clientAuthOnFullStatePkt env p) := by
  unfold clientAuthOnFullStatePkt
  split
  · rename_i hi lo result rest hp
    split_ifs with hs
    · exact .refl t
    · have hb := Scene.applySnapshot_redrawn t.toScene rest
      split
      · rename_i s hx
        rw [hx] at hb
        exact withScene_stays hb
      · rename_i s r hx
        rw [hx] at hb
        refine (withScene_stays hb).trans ?_
        by_cases hf : t.phase = .finished
        · have hres : result ≠ tbResultOngoing := by
            rintro rfl
            obtain ⟨hl, hss⟩ := not_or.mp hs
            exact h hf ⟨not_not.mp hss, hi, lo, rest, _, hp, Nat.not_lt.mp hl, hx⟩
          unfold commitFullState
          exact .closes (if_neg hres) fun _ => rfl
        · exact .moves hf rfl rfl
  · exact .refl t

theorem retransmitAccept_stays (now : UInt32) : Stays t (t.retransmitAccept env now) := by
  unfold retransmitAccept
  split_ifs with hw
  · exact .refl t
  · exact .quiet rfl rfl rfl
  · exact .refl t
  · have hw : t.awaitingFirstUpdate = true := by simpa using hw
    unfold clientAuthSendAccept
    dsimp only
    rw [if_neg (by decide), if_pos (by exact hw)]
    exact .quiet rfl rfl rfl
  · exact .refl t

theorem clientAuthRetransmit_stays (now : UInt32) : Stays t (t.clientAuthRetransmit env now) := by
  unfold clientAuthRetransmit
  dsimp only
  split
  · exact (retransmitAccept_stays now).trans (clientAuthSendActionV2_stays _ _)
  · exact retransmitAccept_stays now

/-! ### The server -/

/-- An accepting ACCEPT that a server leaves its result screen for. -/
def Restarts (t : TextBattle) (p : Packet) : Prop :=
  t.awaitingAccept = true ∧ ∃ acc name party, t.parseAccept p = some (acc, name, party) ∧ acc ≠ 0

theorem beginBattle_result (name : CStr) (party : List UInt8) :
    (t.beginBattle env fromId name party).engine.result = .ongoing := by
  unfold beginBattle
  simp only [serverAuthSendUpdate, send, onScene, appendLog, Scene.appendLog_engine,
    Scene.handleFaints_result]
  rfl

theorem serverAuthOnAcceptPkt_stays (hr : t.role = .server) (hs : t.Settled)
    (h : t.phase = .finished → ¬ t.Restarts p) : Stays t (t.serverAuthOnAcceptPkt env fromId p) := by
  unfold serverAuthOnAcceptPkt
  split
  · exact .refl t
  · rename_i ha
    split
    · exact .refl t
    · rename_i acc name party hp
      split
      · exact .closes rfl fun _ => rfl
      · rename_i hacc
        have hn : t.phase ≠ .finished := fun hf =>
          h hf ⟨by simpa using ha, acc, name, party, hp, hacc⟩
        have ho : t.engine.result = .ongoing := by
          by_contra hd
          exact hn (hs (by rw [hr]; decide) hd)
        exact .moves hn ((beginBattle_result name party).trans ho.symm) rfl

theorem forfeit_closes (side : Side)
    (h : t.engine.result = .ongoing ∨ t.engine.result = (t.toScene.forfeit side).engine.result)
    (hp : t'.phase = .finished) (hr : t'.engine.result = (t.toScene.forfeit side).engine.result) :
    Stays t t' :=
  .closes hp fun hd => hr.trans (h.resolve_left hd).symm

theorem clientAction_stays (a i : UInt8)
    (h : a = 2 → t.engine.result = .ongoing ∨ t.engine.result = .p1Win) :
    Stays t (t.clientAction env a i) := by
  unfold clientAction
  split_ifs with h₁ h₂
  · exact .quiet rfl rfl rfl
  · exact forfeit_closes .one (h h₂) rfl rfl
  · exact .quiet rfl rfl rfl

/-- An in-turn flee of the opponent. -/
def Flees (t : TextBattle) (fromId : UInt32) (p : Packet) : Prop :=
  p.session = t.session ∧ fromId = t.remoteId ∧
    ∃ idx ack rest, p.payload = t.engine.turn.toUInt8 :: 2 :: idx :: ack :: rest

theorem serverAuthOnActionV2Pkt_stays
    (h : t.Flees fromId p → t.engine.result = .ongoing ∨ t.engine.result = .p1Win) :
    Stays t (t.serverAuthOnActionV2Pkt env fromId p) := by
  unfold serverAuthOnActionV2Pkt
  split
  · rename_i turn act idx ack rest hp
    dsimp only
    split_ifs with hs ht
    · exact .refl t
    · exact .quiet rfl rfl rfl
    · refine .trans (u := t.ackUpdate ack) (.quiet rfl rfl rfl) (clientAction_stays _ _ ?_)
      rintro rfl
      obtain ⟨hss, hf⟩ := not_or.mp hs
      have ht : turn = t.engine.turn.toUInt8 := not_not.mp ht
      subst ht
      exact h ⟨not_not.mp hss, not_not.mp hf, idx, ack, rest, hp⟩
  · exact .refl t

theorem serverAuthOnStateRequestPkt_stays : Stays t (t.serverAuthOnStateRequestPkt fromId p) := by
  unfold serverAuthOnStateRequestPkt
  split <;> exact .quiet rfl rfl rfl

theorem serverAuthRetransmit_stays (now : UInt32) : Stays t (t.serverAuthRetransmit env now) := by
  unfold serverAuthRetransmit
  split
  · split_ifs
    · exact .closes rfl fun _ => rfl
    · exact .quiet rfl rfl rfl
    · exact .refl t
  · split
    · split <;> exact .quiet rfl rfl rfl
    · exact .refl t

/-! ### Packets -/

theorem onAction_stays : Stays t (t.onAction env p) := by
  unfold onAction
  dsimp only
  split
  · split_ifs
    · split <;> exact .quiet rfl rfl rfl
    · exact .quiet rfl rfl rfl
    · exact .quiet rfl rfl rfl
  · exact .refl t

/-- A state hash of the current turn that is not the own one. -/
def Desyncs (t : TextBattle) (p : Packet) : Prop :=
  ¬ (p.payload.length < 10 ∨ ofBe16 (p.payload.getD 0 0) (p.payload.getD 1 0) ≠ t.engine.turn) ∧
    (p.payload.drop 2).take 8 ≠ t.engine.hashState

theorem onHash_stays
    (h : t.Desyncs p → t.engine.result = .ongoing ∨ t.engine.result = .p2Win) :
    Stays t (t.onHash p) := by
  unfold onHash
  split_ifs with h₁ h₂
  · exact .refl t
  · exact forfeit_closes .zero (h ⟨h₁, h₂⟩) rfl rfl
  · exact .refl t

theorem notePeer_stays : Stays t t.notePeer := by
  unfold notePeer
  split_ifs with h₁ h₂
  · exact .refl t
  · exact .moves (by rw [h₂]; decide) rfl rfl
  · exact .quiet rfl rfl rfl

theorem notePeer_engine : t.notePeer.engine = t.engine := by
  unfold notePeer
  split_ifs <;> rfl

theorem legacyPacket_stays
    (hf : p.type = textBattleForfeit → t.engine.result = .ongoing ∨ t.engine.result = .p1Win)
    (hh : p.type = textBattleHash → t.Desyncs p →
      t.engine.result = .ongoing ∨ t.engine.result = .p2Win) :
    Stays t (t.legacyPacket env p).2 := by
  unfold legacyPacket
  split_ifs with h₁ h₂ h₃ h₄
  · exact .refl t
  · exact onAction_stays
  · exact forfeit_closes .one (hf h₃) rfl rfl
  · exact onHash_stays (hh h₄)
  · exact .refl t

/-- The common session and sender checks. -/
def Admits (t : TextBattle) (fromId : UInt32) (p : Packet) : Prop :=
  p.session = t.session ∧ (t.remoteId = 0 ∨ fromId = t.remoteId)

/-- The packets that move a finished phase or a decided result. -/
inductive Overturns (t : TextBattle) (fromId : UInt32) (p : Packet) : Prop
  | update (hr : t.role = .client) (ht : p.type = textBattleUpdate) (hf : t.phase = .finished)
      (h : t.Reopens p)
  | fullState (hr : t.role = .client) (ht : p.type = textBattleFullState)
      (hf : t.phase = .finished) (h : t.Reconverges p)
  | accept (hr : t.role = .server) (ht : p.type = textBattleAccept) (hf : t.phase = .finished)
      (h : t.Restarts p)
  | flee (hr : t.role = .server) (ht : p.type = textBattleActionV2) (h : t.Flees fromId p)
      (ho : t.engine.result ≠ .ongoing) (hd : t.engine.result ≠ .p1Win)
  | forfeit (hs : t.Admits fromId p) (ht : p.type = textBattleForfeit)
      (ho : t.engine.result ≠ .ongoing) (hd : t.engine.result ≠ .p1Win)
  | hash (hs : t.Admits fromId p) (ht : p.type = textBattleHash) (h : t.Desyncs p)
      (ho : t.engine.result ≠ .ongoing) (hd : t.engine.result ≠ .p2Win)

theorem or_of_not_and {a b : Prop} (h : ¬ (¬ a ∧ ¬ b)) : a ∨ b := by
  by_contra hn
  exact h (not_or.mp hn)

theorem dispatch_stays (hm : t.mode ≠ .off) (hs : t.Settled) (h : ¬ t.Overturns fromId p) :
    Stays t (t.dispatch env fromId p).2 := by
  unfold dispatch
  split_ifs with h₁ h₂ h₃ h₄ h₅ h₆ h₇ h₈ h₉
  · exact .refl t
  · exact serverAuthOnAcceptPkt_stays h₂.2.1 hs fun hf hx => h (.accept h₂.2.1 h₂.2.2 hf hx)
  · exact serverAuthOnActionV2Pkt_stays fun hx => or_of_not_and fun hn =>
      h (.flee h₃.2.1 h₃.2.2 hx hn.1 hn.2)
  · exact serverAuthOnStateRequestPkt_stays
  · exact clientAuthOnUpdatePkt_stays fun hf hx => h (.update h₅.2.1 h₅.2.2 hf hx)
  · exact clientAuthOnFullStatePkt_stays fun hf hx => h (.fullState h₆.2.1 h₆.2.2 hf hx)
  · exact .refl t
  · exact absurd (Or.inl hm) h₈
  · exact .refl t
  · have hsess : t.Admits fromId p := by
      refine ⟨?_, or_of_not_and fun hn => h₉ (.inr (.inr hn))⟩
      by_contra hn
      exact h₉ (.inr (.inl hn))
    refine notePeer_stays.trans (legacyPacket_stays ?_ ?_)
    · rw [notePeer_engine]
      exact fun ht => or_of_not_and fun hn => h (.forfeit hsess ht hn.1 hn.2)
    · unfold Desyncs
      rw [notePeer_engine]
      exact fun ht hx => or_of_not_and fun hn => h (.hash hsess ht hx hn.1 hn.2)

/-! ### Ticks -/

theorem stampFinished_stays (now : UInt32) : Stays t (t.stampFinished now) := by
  unfold stampFinished
  split <;> exact .quiet rfl rfl rfl

theorem releaseExit_stays (now : UInt32) (h : (t.releaseExit now).1 = false) :
    Stays t (t.releaseExit now).2 := by
  unfold releaseExit at h ⊢
  split at h
  · cases h
  · rename_i hx
    rw [if_neg hx]
    exact .refl t

theorem tickRole_stays (now : UInt32) (h : (t.tickRole env now).1 = false) :
    Stays t (t.tickRole env now).2 := by
  unfold tickRole at h ⊢
  cases hr : t.role with
  | server =>
    rw [hr] at h
    exact ((stampFinished_stays now).trans (serverAuthRetransmit_stays now)).trans
      (releaseExit_stays now h)
  | client => exact clientAuthRetransmit_stays now
  | legacy =>
    dsimp only
    split <;> exact .quiet rfl rfl rfl

theorem serverAuthRetransmit_result (now : UInt32) :
    (t.serverAuthRetransmit env now).engine.result = t.engine.result := by
  unfold serverAuthRetransmit
  split
  · split_ifs <;> rfl
  · split
    · split <;> rfl
    · rfl

theorem tickRole_exit (now : UInt32) (h : (t.tickRole env now).1 = true) :
    (t.tickRole env now).2.mode = .off ∧
      (t.tickRole env now).2.engine.result = t.engine.result := by
  unfold tickRole at h ⊢
  cases hr : t.role with
  | server =>
    rw [hr] at h
    dsimp only at h ⊢
    unfold releaseExit at h ⊢
    split at h
    · rename_i hx
      rw [if_pos hx]
      refine ⟨rfl, (serverAuthRetransmit_result now).trans ?_⟩
      unfold stampFinished
      split <;> rfl
    · cases h
  | client =>
    rw [hr] at h
    cases h
  | legacy =>
    rw [hr] at h
    cases h

theorem tickPeer_stays (now : UInt32) : Stays t (t.tickPeer now) := by
  unfold tickPeer
  split
  · rename_i h
    exact .moves (by rw [h.1]; decide) rfl rfl
  · exact .refl t

theorem tickTimeout_stays (now : UInt32) : Stays t (t.tickTimeout now) := by
  unfold tickTimeout
  dsimp only
  split_ifs with h₁ h₂
  · exact .closes rfl fun hd => absurd h₂ hd
  · exact .closes rfl fun _ => rfl
  · exact .refl t

theorem playOut_result {s s' : Scene} (h : playOut s = .ok s') :
    ∃ r, s.engine.executeTurn true = .ok r ∧ s'.engine.result = r.1.result := by
  obtain ⟨r, hr, hb⟩ := playOut_bare h
  exact ⟨r, hr, Engine.result_of_bare hb⟩

/-- A decided engine plays no turn. -/
theorem executeTurn_decided {e : Engine} (h : e.result ≠ .ongoing) :
    e.executeTurn true = .ok (e, .empty) := by
  simp [Engine.executeTurn, Engine.ready, h]

theorem endTurn_result : (t.endTurn env).engine.result = t.engine.result := by
  unfold endTurn
  dsimp only
  split_ifs <;> simp only [setPhase, serverAuthSendUpdate, send, sendHash, onScene,
    showOutcome_engine, Scene.trackActive_engine]

theorem endTurn_phase (h : t.engine.result ≠ .ongoing) : (t.endTurn env).phase = .finished := by
  have ht : t.toScene.trackActive.engine.result ≠ .ongoing := by
    rwa [Scene.trackActive_engine]
  unfold endTurn
  dsimp only [onScene]
  rw [if_pos ht]
  rfl

theorem resolveTurn_stays (hn : t.phase ≠ .finished) (h : t.resolveTurn env = .ok t') :
    Stays t t' := by
  obtain ⟨s, hs, h⟩ := bind_eq_ok.mp h
  cases h
  obtain ⟨r, hr, hres⟩ := playOut_result hs
  have hend : ((t.withScene s).endTurn env).engine.result = r.1.result := endTurn_result.trans hres
  by_cases hd : t.engine.result = .ongoing
  · refine .decides hn hd fun hx => endTurn_phase ?_
    rw [hend] at hx
    exact hres ▸ hx
  · rw [executeTurn_decided hd] at hr
    cases hr
    refine .closes (endTurn_phase ?_) fun _ => hend
    exact hres ▸ hd

/-- A tick or a key either keeps to the rule or leaves the battle as it was decided. -/
def Leaves (t t' : TextBattle) : Prop :=
  t'.mode = .off ∧ t'.engine.result = t.engine.result

theorem tick_stays {now : UInt32} (h : t.tick env now = .ok t') : Stays t t' ∨ t.Leaves t' := by
  unfold tick at h
  split at h
  · cases h
    exact .inl (.refl t)
  · unfold tickNetworked at h
    dsimp only at h
    split at h
    · rename_i hx
      cases h
      exact .inr (tickRole_exit now hx)
    · rename_i hx
      have hstay : Stays t (((t.tickRole env now).2.tickPeer now).tickTimeout now) :=
        ((tickRole_stays now (by simpa using hx)).trans (tickPeer_stays now)).trans
          (tickTimeout_stays now)
      split at h
      · rename_i hw
        exact .inl (hstay.trans (resolveTurn_stays (by rw [hw.1]; decide) h))
      · cases h
        exact .inl hstay
  · unfold tickLocal at h
    dsimp only at h
    split at h
    · rename_i hw
      refine .inl (.trans ?_ (resolveTurn_stays ?_ h))
      · exact .quiet rfl rfl rfl
      · exact fun hf => absurd (hw.symm.trans hf) (by decide)
    · cases h
      exact .inl (.refl t)

/-! ### Keys -/

theorem keyFinished_stays : Stays t t.keyFinished ∨ t.Leaves t.keyFinished := by
  unfold keyFinished
  split
  · exact .inl (.quiet rfl rfl rfl)
  · exact .inr ⟨rfl, rfl⟩

theorem keyOverlay_stays (hy : isChar c 'y' 'Y' = false) : Stays t (t.keyOverlay env c) := by
  unfold keyOverlay
  rw [if_neg (by simp [hy])]
  split
  · exact .closes rfl fun _ => rfl
  · exact .refl t

theorem keyEscape_stays (hs : t.Settled) (hn : t.phase ≠ .finished) : Stays t (t.keyEscape env) := by
  have ho (hc : t.role ≠ .client) : t.engine.result = .ongoing := by
    by_contra hd
    exact hn (hs hc hd)
  unfold keyEscape
  split
  · exact .closes rfl fun _ => clientAuthSendActionV2_result ..
  · rename_i hr
    exact .closes rfl fun hd => absurd (ho (by rw [hr]; decide)) hd
  · rename_i hr
    exact .closes rfl fun hd => absurd (ho (by rw [hr]; decide)) hd

theorem keyFlee_stays (hs : t.Settled) (hn : t.phase ≠ .finished) : Stays t (t.keyFlee env c) := by
  unfold keyFlee tryEscape
  dsimp only
  split_ifs with h₁ hc
  · exact .moves hn rfl rfl
  · exact .closes rfl fun _ => clientAuthSendActionV2_result ..
  · exact .closes rfl fun hd => absurd (hs hc hd) hn
  · exact .closes rfl fun _ => rfl
  · exact .closes rfl fun _ => rfl
  · exact .moves hn rfl rfl

theorem submitOwn_stays (hn : t.phase ≠ .finished) (a i : UInt8) :
    Stays t (t.submitOwn env a i) := by
  refine .moves hn ?_ (congrArg Link.role (submitOwn_link a i))
  unfold submitOwn
  dsimp only
  split_ifs
  · exact clientAuthSendActionV2_result ..
  · rfl
  · rfl

theorem keySwitch_stays (hn : t.phase ≠ .finished) (h : t.keySwitch env c = .ok t') :
    Stays t t' := by
  unfold keySwitch at h
  dsimp only at h
  split_ifs at h
  · obtain ⟨i, _, rfl⟩ := map_eq_ok.mp h
    exact .quiet rfl rfl rfl
  · obtain ⟨i, _, rfl⟩ := map_eq_ok.mp h
    exact .quiet rfl rfl rfl
  · obtain ⟨i, _, rfl⟩ := map_eq_ok.mp h
    exact .quiet rfl rfl rfl
  · obtain ⟨i, _, rfl⟩ := map_eq_ok.mp h
    exact .quiet rfl rfl rfl
  · cases h
    exact submitOwn_stays hn _ _
  · cases h
    exact .refl t
  · cases h
    exact .moves hn rfl rfl
  · cases h
    exact .refl t

theorem chooseMove_stays (hn : t.phase ≠ .finished) : Stays t (t.chooseMove env) := by
  unfold chooseMove
  dsimp only
  split_ifs
  · exact .quiet rfl rfl rfl
  · exact .refl t
  · exact .quiet rfl rfl rfl
  · exact submitOwn_stays hn _ _
  · exact submitOwn_stays hn _ _

theorem openSwitch_stays (hn : t.phase ≠ .finished) : Stays t t.openSwitch := by
  unfold openSwitch
  dsimp only
  split
  · exact .quiet rfl rfl rfl
  · exact .moves hn rfl rfl

theorem keyAction_stays (hn : t.phase ≠ .finished) : Stays t (t.keyAction env c) := by
  unfold keyAction
  dsimp only
  split_ifs
  · refine .trans ?_ (chooseMove_stays hn)
    exact .quiet rfl rfl rfl
  · exact .quiet rfl rfl rfl
  · exact .quiet rfl rfl rfl
  · exact .quiet rfl rfl rfl
  · exact .quiet rfl rfl rfl
  · exact chooseMove_stays hn
  · exact openSwitch_stays hn
  · exact .refl t

/-- The key that opens the battle of a challenge. -/
def Joins (t : TextBattle) (c : UInt8) : Prop :=
  t.phase = .waitChallengeOverlay ∧ isChar c 'y' 'Y' = true

theorem handleKey_stays (hs : t.Settled) (hj : ¬ t.Joins c) (h : t.handleKey env c = .ok t') :
    Stays t t' ∨ t.Leaves t' := by
  unfold handleKey at h
  split_ifs at h with h₁ hn ho
  · cases h
    exact .inl (.refl t)
  · cases h
    exact keyFinished_stays
  · cases h
    exact .inl (keyOverlay_stays (by simpa [Joins, ho] using hj))
  · cases h
    exact .inl (keyEscape_stays hs hn)
  · cases h
    exact .inl (.refl t)
  · cases h
    exact .inl (keyFlee_stays hs hn)
  · cases h
    exact .inl (.moves hn rfl rfl)
  · exact .inl (keySwitch_stays hn h)
  · cases h
    exact .inl (keyAction_stays hn)
  · cases h
    exact .inl (.refl t)

/-! ### Runs -/

/-- The calls that open a battle. -/
inductive Opened : TextBattle → Prop
  | initiator (t : TextBattle) (env : Env) (remoteId : UInt32) (mine opp : Gen1Party)
      (seed : UInt32) (session : UInt16) :
      Opened (t.startNetworkedAsInitiator env remoteId mine opp seed session)
  | receiver (t : TextBattle) (env : Env) (remoteId : UInt32) (mine opp : Gen1Party)
      (seed : UInt32) (session : UInt16) :
      Opened (t.startNetworkedAsReceiver env remoteId mine seed opp session)
  | solo (t : TextBattle) (env : Env) (mine cpu : Gen1Party) (theirTag : CStr) :
      Opened (t.startLocal env mine cpu theirTag)
  | next (t : TextBattle) (cpu : Gen1Party) (theirTag : CStr) : Opened (t.nextOpponent cpu theirTag)
  | server (t : TextBattle) (env : Env) (remoteId : UInt32) (mine : Gen1Party) (name : CStr) :
      Opened (t.startServerAuthAsInitiator env remoteId mine name)
  | challenged (t : TextBattle) (env : Env) (fromId : UInt32) (buf : List UInt8)
      (hm : t.mode = .off) : Opened (t.handlePacket env fromId buf).2
  | joined (t : TextBattle) (env : Env) (c : UInt8) (hr : t.role = .client) (hj : t.Joins c) :
      Opened (t.keyOverlay env c)

theorem settled_of_ongoing (h : t.engine.result = .ongoing) : t.Settled := fun _ hd => absurd h hd

theorem Opened.settled (h : Opened t) (hm : t.mode ≠ .off) : t.Settled := by
  cases h with
  | initiator =>
    refine settled_of_ongoing ?_
    unfold startNetworkedAsInitiator
    dsimp only
    split <;> simp only [onScene, Scene.handleFaints_result] <;> rfl
  | receiver => exact settled_of_ongoing rfl
  | solo => exact settled_of_ongoing rfl
  | next => exact settled_of_ongoing rfl
  | server => exact settled_of_ongoing rfl
  | challenged t env fromId buf hoff =>
    obtain h | ⟨session, name, party, h⟩ := handlePacket_off env fromId hoff
    · exact absurd h.1 hm
    · exact fun hc => absurd (congrArg TextBattle.role h) hc
  | joined t env c hr hj =>
    exact fun hc => absurd ((congrArg Link.role keyOverlay_link).trans hr) hc

/-- A call during a battle that does not open the next one. -/
def InBattle (t : TextBattle) (i : Env × Input) : Prop :=
  t.mode ≠ .off ∧ ∀ c, i.2 = .key c → ¬ t.Joins c

/-- A call during a battle that does not overturn its end. -/
def Final (t : TextBattle) (i : Env × Input) : Prop :=
  t.InBattle i ∧ ∀ fromId buf p, i.2 = .packet fromId buf → Packet.ofBytes buf = some p →
    ¬ t.Overturns fromId p

variable {t₀ : TextBattle} {i : Env × Input}

theorem step_stays (hs : t.Settled) (hf : t.Final i) (h : t.step i = .ok t') :
    Stays t t' ∨ t.Leaves t' := by
  obtain ⟨env, input⟩ := i
  cases input with
  | packet fromId buf =>
    cases h
    unfold handlePacket
    split
    · rename_i p hp
      exact .inl (dispatch_stays hf.1.1 hs (hf.2 fromId buf p rfl hp))
    · exact .inl (.refl t)
  | key c => exact handleKey_stays hs (hf.1.2 c rfl) h
  | tick now => exact tick_stays h

theorem settled_run (h₀ : Opened t₀) (hr : Reach step Final t₀ t) (hm : t.mode ≠ .off) :
    t.Settled := by
  induction hr with
  | refl => exact h₀.settled hm
  | tail i _ hf h ih =>
    obtain hx | hx := step_stays (ih hf.1.1) hf h
    · exact hx.settled (ih hf.1.1)
    · exact absurd hx.1 hm

/-- A finished battle stays finished until it is left, and a decided result stays as it is, as long
as no call overturns its end. -/
theorem finished_stays_finished (h₀ : Opened t₀) (hr : Reach step Final t₀ t)
    (hr' : Reach step Final t t') :
    (t.phase = .finished → t'.phase = .finished ∨ t'.mode = .off) ∧
      (t.engine.result ≠ .ongoing → t'.engine.result = t.engine.result) := by
  induction hr' with
  | refl => exact ⟨.inl, fun _ => rfl⟩
  | @tail u v i hu hf h ih =>
    have hstep := step_stays (settled_run h₀ (hr.trans hu) hf.1.1) hf h
    constructor
    · intro hp
      have hup : u.phase = .finished := (ih.1 hp).resolve_right hf.1.1
      exact hstep.imp (fun hx => hx.finished hup) (fun hx => hx.1)
    · intro hd
      have hud := ih.2 hd
      obtain hx | hx := hstep
      · exact (hx.result (hud.symm ▸ hd)).trans hud
      · exact hx.2.trans hud

/-- A move of the opponent for the first turn. -/
def movePacket : Packet := ⟨textBattleActionV2, 7, 0, [0, 0, 0, 1]⟩

theorem not_overturns_move (hr : t.role = .server) : ¬ t.Overturns fromId movePacket := by
  intro h
  cases h with
  | update hc => exact absurd (hr.symm.trans hc) (by decide)
  | fullState hc => exact absurd (hr.symm.trans hc) (by decide)
  | accept _ ht => exact absurd ht (by decide)
  | flee _ _ hx =>
    obtain ⟨_, _, idx, ack, rest, hp⟩ := hx
    simp [movePacket] at hp
  | forfeit _ ht => exact absurd ht (by decide)
  | hash _ ht => exact absurd ht (by decide)

theorem final_of_packet (hm : t.mode ≠ .off) (h : ¬ t.Overturns fromId p) :
    t.Final (env, .packet fromId p.bytes) := by
  refine ⟨⟨hm, nofun⟩, fun from' buf q hq hb => ?_⟩
  cases hq
  rw [Packet.ofBytes_bytes] at hb
  cases hb
  exact h

theorem final_of_key (hm : t.mode ≠ .off) (h : isChar c 'y' 'Y' = false) :
    t.Final (env, .key c) := by
  refine ⟨⟨hm, fun c' hc hj => ?_⟩, nofun⟩
  cases hc
  exact absurd hj.2 (by simp [h])

/-- Node 7 joins, the server gives up. -/
def joinThenForfeit : List (Env × Input) :=
  [(clock, .packet 7 joinPacket.bytes), (clock, .key 27)]

theorem joinThenForfeit_final : Along step Final challenger joinThenForfeit := by
  refine ⟨final_of_packet (by decide) ?_, fun t ht => ⟨final_of_key ?_ (by decide),
    fun _ _ => trivial⟩⟩
  · intro h
    cases h with
    | update hc => exact absurd hc (by decide)
    | fullState hc => exact absurd hc (by decide)
    | accept _ _ hf => exact absurd hf (by decide)
    | flee _ ht => exact absurd ht (by decide)
    | forfeit _ ht => exact absurd ht (by decide)
    | hash _ ht => exact absurd ht (by decide)
  · cases ht
    decide +kernel

/-- A move that node 7 had sent meanwhile changes nothing. -/
theorem finished_stays_finished_move : ∃ t t', play step challenger joinThenForfeit = .ok t ∧
    t.step (clock, .packet 7 movePacket.bytes) = .ok t' ∧
      (t.phase = .finished → t'.phase = .finished ∨ t'.mode = .off) ∧
      (t.engine.result ≠ .ongoing → t'.engine.result = t.engine.result) := by
  obtain ⟨t, ht, hx⟩ := exists_of_map (x := play step challenger joinThenForfeit)
    (f := fun t => (t.mode, t.role)) (b := (.networked, .server)) (by decide +kernel)
  obtain ⟨hm, hr⟩ := Prod.mk.inj hx
  have hm : t.mode ≠ .off := by rw [hm]; decide
  exact ⟨t, _, ht, rfl, finished_stays_finished (.server fresh clock _ _ _)
    (.of_play joinThenForfeit_final ht)
    (.tail (clock, .packet 7 movePacket.bytes) .refl (final_of_packet hm (not_overturns_move hr)) rfl)⟩

/-- The flee that node 7 had sent meanwhile turns the server's defeat into a win. -/
theorem late_flee_overturns : Opened challenger ∧
    ¬ ∀ t t', Reach step InBattle challenger t → Reach step InBattle t t' →
      t.engine.result ≠ .ongoing → t'.engine.result = t.engine.result := by
  refine ⟨.server fresh clock _ _ _, fun h => ?_⟩
  obtain ⟨t, ht, hx⟩ := exists_of_map (x := play step challenger joinThenForfeit)
    (f := fun t => (t.mode, t.engine.result, (t.handlePacket clock 7 fleePacket.bytes).2.engine.result))
    (b := (.networked, .p2Win, .p1Win)) (by decide +kernel)
  simp only [Prod.mk.injEq] at hx
  obtain ⟨hm, hr, hr'⟩ := hx
  have hrun := (Reach.of_play joinThenForfeit_final ht).mono (fun _ _ hf => hf.1)
  have hstep : Reach step InBattle t (t.handlePacket clock 7 fleePacket.bytes).2 :=
    .tail (clock, .packet 7 fleePacket.bytes) .refl ⟨by rw [hm]; decide, nofun⟩ rfl
  have hkept := h _ _ hrun hstep (by rw [hr]; decide)
  rw [hr, hr'] at hkept
  exact absurd hkept (by decide)

end TextBattle
end MonsterMesh

import MonsterMesh.Battle.Device

/-! What a key or a tick can do on a client and on a server, case by case. -/
namespace MonsterMesh

open Fallible Bytes

namespace TextBattle

variable {t t' u : TextBattle} {env : Env} {c : UInt8}

/-- Only what the player sees differs: the log, the cursors and the phase. -/
def Shows (t t' : TextBattle) : Prop :=
  t' = { t with
    log := t'.log, cursor := t'.cursor, switchCursor := t'.switchCursor, phase := t'.phase }

theorem Shows.refl (t : TextBattle) : t.Shows t := rfl

/-- The phases in which the player picks an action. -/
def Choosing (t : TextBattle) : Prop :=
  t.phase ≠ .finished ∧ t.phase ≠ .waitChallengeOverlay ∧ t.phase ≠ .waitRemote ∧
    t.phase ≠ .animating ∧ t.phase ≠ .waitPeerReady

/-- The own action of a player that chose it. -/
theorem submitOwn_client (hr : t.role = .client) (a i : UInt8) :
    t.submitOwn env a i = (t.clientAuthSendActionV2 env a i).setPhase .waitRemote := by
  unfold submitOwn
  dsimp only
  rw [if_pos hr]

theorem submitOwn_server (hr : t.role = .server) (a i : UInt8) :
    t.submitOwn env a i = (t.onScene (·.submitAction .zero a i)).setPhase .waitRemote := by
  unfold submitOwn
  dsimp only
  rw [if_neg (by rw [hr]; decide), if_neg fun h => absurd (hr.symm.trans h.2) (by decide)]

/-- The menus of the choosing phases. -/
def Menu (t : TextBattle) : Prop :=
  t.phase = .waitAction ∨ t.phase = .waitSwitch ∨ t.phase = .waitFlee

/-- What a key of the choosing phases comes to: a change of the screen, or an action. -/
inductive Picks (t : TextBattle) (env : Env) (t' : TextBattle) : Prop
  | shown (h : t.Shows t') (hp : t'.phase = t.phase ∨ t'.Menu)
  | submitted (u : TextBattle) (a i : UInt8) (hu : t.Shows u) (ha : a = 0 ∨ a = 1)
      (h : t' = u.submitOwn env a i)

theorem keySwitch_picks (h : t.keySwitch env c = .ok t') : t.Picks env t' := by
  unfold keySwitch at h
  dsimp only at h
  split_ifs at h
  · obtain ⟨i, _, rfl⟩ := map_eq_ok.mp h
    exact .shown rfl (.inl rfl)
  · obtain ⟨i, _, rfl⟩ := map_eq_ok.mp h
    exact .shown rfl (.inl rfl)
  · obtain ⟨i, _, rfl⟩ := map_eq_ok.mp h
    exact .shown rfl (.inl rfl)
  · obtain ⟨i, _, rfl⟩ := map_eq_ok.mp h
    exact .shown rfl (.inl rfl)
  · cases h
    exact .submitted t 1 _ rfl (.inr rfl) rfl
  · cases h
    exact .shown rfl (.inl rfl)
  · cases h
    exact .shown rfl (.inr (.inl rfl))
  · cases h
    exact .shown rfl (.inl rfl)

theorem chooseMove_picks (hu : t.Shows u) (hp : u.phase = t.phase) :
    t.Picks env (u.chooseMove env) := by
  unfold chooseMove
  dsimp only
  split_ifs
  · refine .shown ?_ (.inl hp)
    rw [hu]
    rfl
  · exact .shown hu (.inl hp)
  · refine .shown ?_ (.inl hp)
    rw [hu]
    rfl
  · exact .submitted u 0 _ hu (.inl rfl) rfl
  · exact .submitted u 0 _ hu (.inl rfl) rfl

theorem keyAction_picks : t.Picks env (t.keyAction env c) := by
  unfold keyAction openSwitch
  dsimp only
  split_ifs
  · exact chooseMove_picks rfl rfl
  · exact .shown rfl (.inl rfl)
  · exact .shown rfl (.inl rfl)
  · exact .shown rfl (.inl rfl)
  · exact .shown rfl (.inl rfl)
  · exact chooseMove_picks rfl rfl
  · exact .shown rfl (.inl rfl)
  · exact .shown rfl (.inr (.inr (.inl rfl)))
  · exact .shown rfl (.inl rfl)

/-! ### The client -/

theorem clientAuthSendActionV2_eq {a : UInt8} (ha : a ≠ 0xFE) (i : UInt8) :
    t.clientAuthSendActionV2 env a i =
      { t with
        sent := t.actionPacket a i :: t.sent
        clientActionType := a, clientActionIndex := i
        clientActionTurn := t.clientTurn, lastClientActionSendMs := env.millis } :=
  if_pos ha

theorem clientAuthSendActionV2_ack (i : UInt8) :
    t.clientAuthSendActionV2 env 0xFE i = t.send (t.actionPacket 0xFE i) := by
  unfold clientAuthSendActionV2
  exact if_neg (by decide)


/-- A key on a client that is past the overlay. -/
inductive ClientKey (t : TextBattle) (env : Env) (t' : TextBattle) : Prop
  | left (hf : t.phase = .finished) (h : t' = t.exit)
  | idle (h : t' = t)
  | shown (hc : t.Choosing) (h : t.Shows t') (hp : t'.phase = t.phase ∨ t'.Menu)
  | fled (hf : t.phase ≠ .finished)
      (h : t' = (t.clientAuthSendActionV2 env 2 0).setPhase .finished)
  | submitted (hc : t.Choosing) (u : TextBattle) (a i : UInt8) (hu : t.Shows u) (ha : a = 0 ∨ a = 1)
      (h : t' = (u.clientAuthSendActionV2 env a i).setPhase .waitRemote)

theorem Picks.client (hr : t.role = .client) (hc : t.Choosing) (h : t.Picks env t') :
    t.ClientKey env t' := by
  cases h with
  | shown h hp => exact .shown hc h hp
  | submitted u a i hu ha h =>
    refine .submitted hc u a i hu ha (h.trans (submitOwn_client ?_ a i))
    rw [hu]
    exact hr

theorem handleKey_client (hm : t.mode ≠ .off) (hr : t.role = .client)
    (ho : t.phase ≠ .waitChallengeOverlay) (h : t.handleKey env c = .ok t') :
    t.ClientKey env t' := by
  unfold handleKey at h
  rw [if_neg hm] at h
  split_ifs at h with hf hesc hw hfl hk hsw hact
  · cases h
    refine .left hf (if_neg fun hx => absurd (hr.symm.trans hx.1) (by decide))
  · cases h
    unfold keyEscape
    rw [hr]
    exact .fled hf rfl
  · cases h
    exact .idle rfl
  all_goals
    have hc : t.Choosing := ⟨hf, ho, fun hx => hw (.inl hx), fun hx => hw (.inr (.inl hx)),
      fun hx => hw (.inr (.inr hx))⟩
  · cases h
    unfold keyFlee
    split
    · exact .shown hc rfl (.inr (.inl rfl))
    · exact .fled hf rfl
  · cases h
    exact .shown hc rfl (.inr (.inr (.inr rfl)))
  · exact (keySwitch_picks h).client hr hc
  · cases h
    exact keyAction_picks.client hr hc
  · cases h
    exact .idle rfl

/-- The handshake packet a waiting client repeats. -/
inductive AcceptTick (t : TextBattle) (now : UInt32) (t' : TextBattle) : Prop
  | quiet (h : t' = t)
  | asked (ha : t.awaitingFirstUpdate = true)
      (h : t' = { t.clientAuthSendStateRequest with lastAcceptSendMs := now })
  | accepted (ha : t.awaitingFirstUpdate = true) (ms : UInt32)
      (h : t' = { t.send (t.acceptPacket true) with lastAcceptSendMs := ms })

theorem retransmitAccept_cases (env : Env) (now : UInt32) :
    t.AcceptTick now (t.retransmitAccept env now) := by
  unfold retransmitAccept
  split_ifs with ha
  · exact .quiet rfl
  · exact .asked (by simpa using ha) rfl
  · exact .quiet rfl
  · have ha : t.awaitingFirstUpdate = true := by simpa using ha
    refine .accepted ha env.millis ?_
    unfold clientAuthSendAccept
    dsimp only
    rw [if_neg (by decide), if_pos (by exact ha)]
  · exact .quiet rfl

/-- A chosen action is repeated only for the turn it was chosen in. -/
inductive ActionTick (t : TextBattle) (env : Env) (t' : TextBattle) : Prop
  | quiet (h : t' = t)
  | again (hc : t.clientActionType ≠ 0xFF) (ht : t.clientActionTurn = t.clientTurn)
      (h : t' = t.clientAuthSendActionV2 env t.clientActionType t.clientActionIndex)

theorem clientAuthRetransmit_cases (env : Env) (now : UInt32) : ∃ u, t.AcceptTick now u ∧
    u.ActionTick env (t.clientAuthRetransmit env now) := by
  refine ⟨_, retransmitAccept_cases env now, ?_⟩
  unfold clientAuthRetransmit
  dsimp only
  split
  · rename_i h
    exact .again h.2.1 h.2.2.1 rfl
  · exact .quiet rfl

/-- A silent opponent forfeits, unless the engine has decided already. -/
inductive TimeoutTick (t t' : TextBattle) : Prop
  | quiet (h : t' = t)
  | forfeited (hf : t.phase ≠ .finished) (ha : t.awaitingAccept = false)
      (ho : t.engine.result = .ongoing)
      (h : t' = ((t.appendLog "Opponent timed out.").onScene (·.forfeit .one)).setPhase .finished)
  | shown (hf : t.phase ≠ .finished) (ha : t.awaitingAccept = false)
      (ho : t.engine.result ≠ .ongoing)
      (h : t' = (t.appendLog "Opponent timed out.").setPhase .finished)

theorem tickTimeout_cases (now : UInt32) : t.TimeoutTick (t.tickTimeout now) := by
  unfold tickTimeout
  dsimp only
  split_ifs with h₁ h₂
  · exact .forfeited h₁.2.1 (by simpa using h₁.2.2.2) h₂ rfl
  · exact .shown h₁.2.1 (by simpa using h₁.2.2.2) h₂ rfl
  · exact .quiet rfl

theorem tickPeer_of_ne (h : t.phase ≠ .waitPeerReady) (now : UInt32) : t.tickPeer now = t :=
  if_neg fun hx => h hx.1

theorem AcceptTick.kept {now : UInt32} (h : t.AcceptTick now t') :
    t'.phase = t.phase ∧ t'.pendingRemoteAction = t.pendingRemoteAction := by
  cases h with
  | quiet h => exact h ▸ ⟨rfl, rfl⟩
  | asked _ h => exact h ▸ ⟨rfl, rfl⟩
  | accepted _ _ h => exact h ▸ ⟨rfl, rfl⟩

theorem ActionTick.kept (h : t.ActionTick env t') :
    t'.phase = t.phase ∧ t'.pendingRemoteAction = t.pendingRemoteAction := by
  cases h with
  | quiet h => exact h ▸ ⟨rfl, rfl⟩
  | again _ _ h =>
    rw [h]
    unfold clientAuthSendActionV2
    dsimp only
    split <;> exact ⟨rfl, rfl⟩

theorem TimeoutTick.kept (h : t.TimeoutTick t') :
    t'.pendingRemoteAction = t.pendingRemoteAction := by
  cases h with
  | quiet h => exact h ▸ rfl
  | forfeited _ _ _ h => exact h ▸ rfl
  | shown _ _ _ h => exact h ▸ rfl

/-- A tick on a client: the retransmissions, then the timeout. Without a lockstep action of the
server it plays no turn of its own. -/
theorem tick_client {now : UInt32} (hm : t.mode = .networked) (hr : t.role = .client)
    (hw : t.phase ≠ .waitPeerReady) (hp : t.pendingRemoteAction = false)
    (h : t.tick env now = .ok t') :
    ∃ u v, t.AcceptTick now u ∧ u.ActionTick env v ∧ v.TimeoutTick t' := by
  obtain ⟨u, hu, hv⟩ := clientAuthRetransmit_cases (t := t) env now
  have ht := tickTimeout_cases (t := t.clientAuthRetransmit env now) now
  have hphase : (t.clientAuthRetransmit env now).phase ≠ .waitPeerReady := by
    rw [hv.kept.1, hu.kept.1]
    exact hw
  have hpend : ((t.clientAuthRetransmit env now).tickTimeout now).pendingRemoteAction = false := by
    rw [ht.kept, hv.kept.2, hu.kept.2, hp]
  refine ⟨u, _, hu, hv, ?_⟩
  unfold tick at h
  rw [hm] at h
  unfold tickNetworked tickRole at h
  rw [hr] at h
  dsimp only at h
  rw [if_neg (by decide), tickPeer_of_ne hphase, if_neg (by simp [hpend])] at h
  cases h
  exact ht

/-! ### The server -/

/-- A key on a server. -/
inductive ServerKey (t : TextBattle) (env : Env) (c : UInt8) (t' : TextBattle) : Prop
  | left (hf : t.phase = .finished) (h : t' = t.exit)
  | held (hf : t.phase = .finished) (h : t' = { t with pendingKeyExit := true })
  | idle (h : t' = t)
  | shown (hc : t.Choosing) (h : t.Shows t') (hp : t'.phase = t.phase ∨ t'.Menu)
  | escaped (hf : t.phase ≠ .finished)
      (h : t' = ((t.onScene (·.forfeit .zero)).serverAuthSendUpdate env).setPhase .finished)
  | fled (hf : t.phase = .waitFlee) (hk : keyAccept c = true)
      (h : t' = (t.sendForfeit.onScene (·.forfeit .zero)).setPhase .finished)
  | submitted (hc : t.Choosing) (u : TextBattle) (a i : UInt8) (hu : t.Shows u) (ha : a = 0 ∨ a = 1)
      (h : t' = (u.onScene (·.submitAction .zero a i)).setPhase .waitRemote)

theorem Picks.server (hr : t.role = .server) (hc : t.Choosing) (h : t.Picks env t') :
    t.ServerKey env c t' := by
  cases h with
  | shown h hp => exact .shown hc h hp
  | submitted u a i hu ha h =>
    refine .submitted hc u a i hu ha (h.trans (submitOwn_server ?_ a i))
    rw [hu]
    exact hr

theorem handleKey_server (hm : t.mode = .networked) (hr : t.role = .server)
    (ho : t.phase ≠ .waitChallengeOverlay) (h : t.handleKey env c = .ok t') :
    t.ServerKey env c t' := by
  unfold handleKey at h
  rw [if_neg (by rw [hm]; decide)] at h
  split_ifs at h with hf hesc hw hfl hk hsw hact
  · cases h
    unfold keyFinished
    split
    · exact .held hf rfl
    · exact .left hf rfl
  · cases h
    unfold keyEscape
    rw [hr]
    exact .escaped hf rfl
  · cases h
    exact .idle rfl
  all_goals
    have hc : t.Choosing := ⟨hf, ho, fun hx => hw (.inl hx), fun hx => hw (.inr (.inl hx)),
      fun hx => hw (.inr (.inr hx))⟩
  · cases h
    unfold keyFlee
    rw [if_neg (show ¬ t.role = .client by rw [hr]; decide), if_pos hm]
    split
    · exact .shown hc rfl (.inr (.inl rfl))
    · rename_i hk
      exact .fled hfl (by simpa using hk) rfl
  · cases h
    exact .shown hc rfl (.inr (.inr (.inr rfl)))
  · exact (keySwitch_picks h).server hr hc
  · cases h
    exact keyAction_picks.server hr hc
  · cases h
    exact .idle rfl

/-- The retransmissions of a server. -/
inductive ServerResend (t : TextBattle) (now : UInt32) (t' : TextBattle) : Prop
  | quiet (h : t' = t)
  | cancelled (ha : t.awaitingAccept = true)
      (h : t' = { t.appendLog "No response — cancelled." with
        phase := .finished, awaitingAccept := false })
  | challenged (ha : t.awaitingAccept = true) (ms : UInt32)
      (h : t' = { t.send t.challengePacket with
        lastChallengeMs := ms, challengeTries := t.challengeTries + 1 })
  | resent (ha : t.awaitingAccept = false) (p : Packet) (hp : t.lastUpdate = some p)
      (hu : t.unackedUpdate = true) (h : t' = { t.send p with lastUpdateSendMs := now })

theorem serverAuthRetransmit_cases (env : Env) (now : UInt32) :
    t.ServerResend now (t.serverAuthRetransmit env now) := by
  unfold serverAuthRetransmit
  split
  · rename_i ha
    split_ifs
    · exact .cancelled ha rfl
    · exact .challenged ha env.millis rfl
    · exact .quiet rfl
  · rename_i ha
    split
    · rename_i p hp
      split
      · rename_i hx
        exact .resent (by simpa using ha) p hp hx.1 rfl
      · exact .quiet rfl
    · exact .quiet rfl

theorem releaseExit_cases (now : UInt32) :
    t.releaseExit now = (true, exit { t with pendingKeyExit := false }) ∨
      t.releaseExit now = (false, t) := by
  unfold releaseExit
  split
  · exact .inl rfl
  · exact .inr rfl

/-- A turn is played when the own action and one of the client are there. -/
inductive TurnTick (t : TextBattle) (env : Env) (t' : TextBattle) : Prop
  | quiet (h : t' = t)
  | played (hw : t.phase = .waitRemote) (hp : t.pendingRemoteAction = true)
      (h : t.resolveTurn env = .ok t')

/-- A tick on a server: the clock of the result screen, the retransmissions, then a held exit, or
the timeout and the turn. -/
theorem tick_server {now : UInt32} (hm : t.mode = .networked) (hr : t.role = .server)
    (hw : t.phase ≠ .waitPeerReady) (h : t.tick env now = .ok t') :
    ∃ u, (t.stampFinished now).ServerResend now u ∧
      (t' = exit { u with pendingKeyExit := false } ∨ (u.tickTimeout now).TurnTick env t') := by
  have hu := serverAuthRetransmit_cases (t := t.stampFinished now) env now
  refine ⟨_, hu, ?_⟩
  unfold tick at h
  rw [hm] at h
  unfold tickNetworked tickRole at h
  rw [hr] at h
  dsimp only at h
  obtain hx | hx := releaseExit_cases (t := (t.stampFinished now).serverAuthRetransmit env now) now
  · rw [hx, if_pos rfl] at h
    cases h
    exact .inl rfl
  · have hphase : ((t.stampFinished now).serverAuthRetransmit env now).phase ≠ .waitPeerReady := by
      have hs : (t.stampFinished now).phase = t.phase := by
        unfold stampFinished
        split <;> rfl
      cases hu with
      | quiet h => rw [h, hs]; exact hw
      | cancelled _ h => rw [h]; exact nofun
      | challenged _ _ h => rw [h]; exact hs ▸ hw
      | resent _ _ _ _ h => rw [h]; exact hs ▸ hw
    rw [hx, if_neg Bool.false_ne_true] at h
    dsimp only at h
    rw [tickPeer_of_ne hphase] at h
    refine .inr ?_
    split at h
    · rename_i hp
      exact .played hp.1 hp.2 h
    · cases h
      exact .quiet rfl

/-! ### Packets on a client -/

/-- The first UPDATE ends the handshake. -/
def heard (t : TextBattle) : TextBattle :=
  { t with awaitingFirstUpdate := false, awaitingUpdateSinceMs := 0 }

/-- The client with the sections of an UPDATE drawn and its experience credited. -/
def redrawn (t : TextBattle) (turn : UInt8) (s : Scene) : TextBattle :=
  (withScene { t.heard with clientTurn := turn } s).mirrorXp t.foeHp

/-- The fields of an UPDATE of this session that is no repetition. -/
structure Fresh (t : TextBattle) (p : Packet) (turn : UInt8) (flags : UInt16) (hash body : List UInt8) :
    Prop where
  session : p.session = t.session
  overlay : t.phase ≠ .waitChallengeOverlay
  unlike : ¬ (p.seq = t.lastAppliedUpdateSeq ∧ t.lastAppliedUpdateSeq ≠ 0)
  fields : ∃ fhi flo h₀ h₁ h₂, p.payload = turn :: fhi :: flo :: h₀ :: h₁ :: h₂ :: body ∧
    flags = ofBe16 fhi flo ∧ hash = [h₀, h₁, h₂]

/-- What becomes of an UPDATE. -/
inductive UpdateStep (t : TextBattle) (env : Env) (p : Packet) (t' : TextBattle) : Prop
  | ignored (hi : p.session ≠ t.session ∨ p.payload.length < 6) (h : t' = t)
  | buffered (hs : p.session = t.session) (ho : t.phase = .waitChallengeOverlay)
      (hl : 6 ≤ p.payload.length)
      (h : t' = { t with preAcceptUpdate := some { p with payload := p.payload.take 196 } })
  | repeated (hs : p.session = t.session) (ho : t.phase ≠ .waitChallengeOverlay)
      (hd : p.seq = t.lastAppliedUpdateSeq) (h₀ : t.lastAppliedUpdateSeq ≠ 0)
      (h : t' = t.heard.reAck env)
  | cut (turn : UInt8) (flags : UInt16) (hash body : List UInt8) (hp : t.Fresh p turn flags hash body)
      (s : Scene) (hx : t.toScene.applySections flags body = .error s)
      (h : t' = withScene { t.heard with clientTurn := turn } s)
  | rejected (turn : UInt8) (flags : UInt16) (hash body : List UInt8)
      (hp : t.Fresh p turn flags hash body) (s : Scene) (fin : Bool)
      (hx : t.toScene.applySections flags body = .ok (s, fin))
      (hh : hash24Bytes (t.redrawn turn s).boardHash24 ≠ hash)
      (h : t' = { clientAuthSendStateRequest { t.redrawn turn s with clientNeedsFullState := true } with
        lastRecvMs := env.millis })
  | applied (turn : UInt8) (flags : UInt16) (hash body : List UInt8)
      (hp : t.Fresh p turn flags hash body) (s : Scene) (fin : Bool)
      (hx : t.toScene.applySections flags body = .ok (s, fin))
      (hh : hash24Bytes (t.redrawn turn s).boardHash24 = hash)
      (h : t' = (t.redrawn turn s).commitUpdate env p.seq fin (flags &&& tbUpdNeedPlayerSwitch ≠ 0))

theorem six_bytes {l : List UInt8} (h : 6 ≤ l.length) :
    ∃ a b c d e f rest, l = a :: b :: c :: d :: e :: f :: rest := by
  match l, h with
  | a :: b :: c :: d :: e :: f :: rest, _ => exact ⟨a, b, c, d, e, f, rest, rfl⟩

theorem clientAuthOnUpdatePkt_cases (env : Env) (p : Packet) :
    t.UpdateStep env p (t.clientAuthOnUpdatePkt env p) := by
  unfold clientAuthOnUpdatePkt
  split
  · rename_i turn fhi flo h₀ h₁ h₂ body hp
    dsimp only
    split_ifs with hs ho hd
    · exact .ignored (.inl hs) rfl
    · exact .buffered (not_not.mp hs) ho (by rw [hp]; simp) rfl
    · exact .repeated (not_not.mp hs) ho hd.1 hd.2 rfl
    · have hfresh : t.Fresh p turn (ofBe16 fhi flo) [h₀, h₁, h₂] body :=
        ⟨not_not.mp hs, ho, hd, fhi, flo, h₀, h₁, h₂, hp, rfl, rfl⟩
      unfold applyUpdate
      dsimp only
      split
      · rename_i s hx
        exact .cut turn _ _ body hfresh s hx rfl
      · rename_i s fin hx
        unfold checkUpdate
        split
        · rename_i hh
          exact .rejected turn _ _ body hfresh s fin hx hh rfl
        · rename_i hh
          exact .applied turn _ _ body hfresh s fin hx (not_not.mp hh) rfl
  · rename_i hp
    refine .ignored (.inr (Nat.lt_of_not_le fun hl => ?_)) rfl
    obtain ⟨turn, fhi, flo, h₀, h₁, h₂, body, hb⟩ := six_bytes hl
    exact hp _ _ _ _ _ _ _ hb

/-- What becomes of a FULL_STATE. -/
inductive FullStateStep (t : TextBattle) (env : Env) (p : Packet) (t' : TextBattle) : Prop
  | ignored (h : t' = t)
  | cut (s : Scene) (h : t' = t.withScene s)
  | adopted (hs : p.session = t.session) (hi lo result : UInt8) (rest : List UInt8)
      (hp : p.payload = hi :: lo :: result :: rest) (r : Scene × List UInt8)
      (hx : t.toScene.applySnapshot rest = .ok r)
      (h : t' = (t.withScene r.1).commitFullState env p.seq result)

theorem clientAuthOnFullStatePkt_cases {p : Packet} :
    t.FullStateStep env p (t.clientAuthOnFullStatePkt env p) := by
  unfold clientAuthOnFullStatePkt
  split
  · rename_i hi lo result rest hp
    split
    · exact .ignored rfl
    · rename_i hs
      split
      · exact .cut _ rfl
      · rename_i s r hx
        exact .adopted (by simpa using (not_or.mp hs).2) hi lo result rest hp _ hx rfl
  · exact .ignored rfl

/-! ### Packets on a server -/

inductive AcceptStep (t : TextBattle) (env : Env) (fromId : UInt32) (p : Packet) (t' : TextBattle) :
    Prop
  | ignored (h : t' = t)
  | declined (ha : t.awaitingAccept = true)
      (h : t' = { t.appendLog "Challenge declined." with
        phase := .finished, awaitingAccept := false })
  | begun (ha : t.awaitingAccept = true) (acc : UInt8) (name : CStr) (party : List UInt8)
      (hp : t.parseAccept p = some (acc, name, party)) (hacc : acc ≠ 0)
      (h : t' = t.beginBattle env fromId name party)

theorem serverAuthOnAcceptPkt_cases {fromId : UInt32} {p : Packet} :
    t.AcceptStep env fromId p (t.serverAuthOnAcceptPkt env fromId p) := by
  unfold serverAuthOnAcceptPkt
  split
  · exact .ignored rfl
  · rename_i ha
    have ha : t.awaitingAccept = true := by simpa using ha
    split
    · exact .ignored rfl
    · rename_i acc name party hp
      split
      · exact .declined ha rfl
      · rename_i hacc
        exact .begun ha acc name party hp hacc rfl

inductive ActionStep (t : TextBattle) (env : Env) (fromId : UInt32) (p : Packet) (t' : TextBattle) :
    Prop
  | ignored (h : t' = t)
  | late (ack : UInt8) (h : t' = t.ackUpdate ack)
  | acted (hs : p.session = t.session) (hf : fromId = t.remoteId) (a i ack : UInt8)
      (rest : List UInt8) (hp : p.payload = t.engine.turn.toUInt8 :: a :: i :: ack :: rest)
      (h : t' = (t.ackUpdate ack).clientAction env a i)

theorem serverAuthOnActionV2Pkt_cases {fromId : UInt32} {p : Packet} :
    t.ActionStep env fromId p (t.serverAuthOnActionV2Pkt env fromId p) := by
  unfold serverAuthOnActionV2Pkt
  dsimp only
  split
  · rename_i turn a i ack rest hp
    split_ifs with hs ht
    · exact .ignored rfl
    · exact .late ack rfl
    · obtain ⟨hs, hf⟩ := not_or.mp hs
      refine .acted (not_not.mp hs) (not_not.mp hf) a i ack rest ?_ rfl
      rw [hp, not_not.mp ht]
      rfl
  · exact .ignored rfl

end TextBattle
end MonsterMesh

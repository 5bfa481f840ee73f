import MonsterMesh.Battle.Net

/-! What the calls of each device put on the wire, and what the two histories look like. -/
namespace MonsterMesh

open Fallible Bytes

/-- What a server tells the client, and what it has told it. -/
structure Wire where
  session : UInt16
  turn : UInt16
  result : Result
  seq : UInt8
  last : Option Packet
  sent : List Packet

namespace TextBattle

variable {t t' u v : TextBattle} {env : Env} {fromId now : UInt32} {p q : Packet} {c : UInt8}

def wire (t : TextBattle) : Wire :=
  ⟨t.session, t.engine.turn, t.engine.result, t.updateSeq, t.lastUpdate, t.sent⟩

/-! ### The server -/

/-- The traffic of a server call: nothing, a challenge or a repetition, the state, a new UPDATE, or
an end of the battle that no UPDATE tells of. -/
inductive Sends (t t' : TextBattle) : Prop
  | silent (h : t'.wire = t.wire)
  | packet (q : Packet) (hq : q ∈ t.sent ∨ q.type = textBattleChallenge ∧ q.session = t.session)
      (h : t'.wire = { t.wire with sent := q :: t.sent })
  | state (hr : t.role = .server) (h : t' = t.serverAuthSendFullState)
  | update (v : TextBattle) (env : Env) (h : t' = v.serverAuthSendUpdate env)
      (hs : v.session = t.session) (hq : v.updateSeq = t.updateSeq) (hp : v.sent = t.sent)
  | timedOut (ho : t.engine.result = .ongoing) (h : t'.wire = { t.wire with result := .p1Win })
  | fled (q : Packet) (ht : q.type = textBattleForfeit) (hs : q.session = t.session)
      (h : t'.wire = { t.wire with result := .p2Win, sent := q :: t.sent })

/-- The battle is left, or stays a battle past the handshake of the lockstep wire. -/
def Upright (t t' : TextBattle) : Prop :=
  t'.mode = .off ∨ t'.mode = t.mode ∧ t'.role = t.role ∧
    (t'.phase = t.phase ∨ t'.phase ≠ .waitChallengeOverlay ∧ t'.phase ≠ .waitPeerReady)

theorem Upright.kept (hm : t'.mode = t.mode) (hr : t'.role = t.role) (hp : t'.phase = t.phase) :
    t.Upright t' :=
  .inr ⟨hm, hr, .inl hp⟩

theorem Upright.moved (hm : t'.mode = t.mode) (hr : t'.role = t.role)
    (hp : t'.phase ≠ .waitChallengeOverlay ∧ t'.phase ≠ .waitPeerReady) : t.Upright t' :=
  .inr ⟨hm, hr, .inr hp⟩

theorem Upright.trans (h : t.Upright u) (h' : u.Upright t') : t.Upright t' := by
  rcases h' with h' | ⟨hm', hr', hp'⟩
  · exact .inl h'
  rcases h with h | ⟨hm, hr, hp⟩
  · exact .inl (hm'.trans h)
  · refine .inr ⟨hm'.trans hm, hr'.trans hr, ?_⟩
    rcases hp' with hp' | hp'
    · rwa [hp']
    · exact .inr hp'

theorem Shows.upright (h : t.Shows t') (hp : t'.phase = t.phase ∨ t'.Menu) : t.Upright t' := by
  have hm : t'.mode = t.mode := by rw [h]
  have hr : t'.role = t.role := by rw [h]
  refine .inr ⟨hm, hr, ?_⟩
  rcases hp with hp | hp | hp | hp
  · exact .inl hp
  all_goals exact .inr (by rw [hp]; decide)

theorem Shows.wire (h : t.Shows t') : t'.wire = t.wire := by
  rw [h]
  rfl

theorem stampFinished_wire : (t.stampFinished now).wire = t.wire := by
  unfold stampFinished
  split <;> rfl

variable (now) in
theorem stampFinished_upright : t.Upright (t.stampFinished now) := by
  unfold stampFinished
  split <;> exact .kept rfl rfl rfl

variable (t env fromId) in
/-- The battle proper starts with an UPDATE. -/
theorem beginBattle_update (name : CStr) (party : List UInt8) :
    ∃ v : TextBattle, t.beginBattle env fromId name party = v.serverAuthSendUpdate env ∧
      v.session = t.session ∧ v.updateSeq = t.updateSeq ∧ v.sent = t.sent ∧ v.mode = t.mode ∧
      v.role = t.role ∧ v.phase = .waitAction := by
  unfold beginBattle
  dsimp only
  refine ⟨_, rfl, ?_⟩
  simp only [onScene, appendLog, and_self]

theorem AcceptStep.effect (h : t.AcceptStep env fromId p t') : t.Sends t' ∧ t.Upright t' := by
  cases h with
  | ignored h => exact h ▸ ⟨.silent rfl, .kept rfl rfl rfl⟩
  | declined _ h =>
    rw [h]
    exact ⟨.silent rfl, .moved rfl rfl ⟨nofun, nofun⟩⟩
  | begun _ _ name party _ _ h =>
    obtain ⟨v, hv, hs, hq, hp, hm, hr, hph⟩ :=
      beginBattle_update t env fromId name party
    rw [h, hv]
    refine ⟨.update v env rfl hs hq hp, .moved hm hr ?_⟩
    change v.phase ≠ _ ∧ v.phase ≠ _
    rw [hph]
    decide

theorem ActionStep.effect (h : t.ActionStep env fromId p t') : t.Sends t' ∧ t.Upright t' := by
  cases h with
  | ignored h => exact h ▸ ⟨.silent rfl, .kept rfl rfl rfl⟩
  | late ack h =>
    rw [h]
    exact ⟨.silent rfl, .kept rfl rfl rfl⟩
  | acted _ _ a i ack _ _ h =>
    rw [h]
    unfold clientAction
    split_ifs
    · exact ⟨.silent rfl, .kept rfl rfl rfl⟩
    · exact ⟨.update _ env rfl rfl rfl rfl, .moved rfl rfl ⟨nofun, nofun⟩⟩
    · exact ⟨.silent rfl, .kept rfl rfl rfl⟩

theorem ServerKey.effect (h : t.ServerKey env c t') : t.Sends t' ∧ t.Upright t' := by
  cases h with
  | left _ h => exact h ▸ ⟨.silent rfl, .inl rfl⟩
  | held _ h => exact h ▸ ⟨.silent rfl, .kept rfl rfl rfl⟩
  | idle h => exact h ▸ ⟨.silent rfl, .kept rfl rfl rfl⟩
  | shown _ h hp => exact ⟨.silent h.wire, h.upright hp⟩
  | escaped _ h =>
    rw [h]
    exact ⟨.update ((t.onScene (·.forfeit .zero)).setPhase .finished) env rfl rfl rfl rfl,
      .moved rfl rfl ⟨nofun, nofun⟩⟩
  | fled _ _ h =>
    rw [h]
    exact ⟨.fled _ rfl rfl rfl, .moved rfl rfl ⟨nofun, nofun⟩⟩
  | submitted _ u a i hu _ h =>
    rw [h]
    refine ⟨.silent (.trans rfl hu.wire), .moved ?_ ?_ ⟨nofun, nofun⟩⟩
    · rw [hu]
      rfl
    · rw [hu]
      rfl

theorem ServerResend.effect (hl : ∀ q, t.lastUpdate = some q → q ∈ t.sent)
    (h : t.ServerResend now t') : t.Sends t' ∧ t.Upright t' := by
  cases h with
  | quiet h => exact h ▸ ⟨.silent rfl, .kept rfl rfl rfl⟩
  | cancelled _ h =>
    rw [h]
    exact ⟨.silent rfl, .moved rfl rfl ⟨nofun, nofun⟩⟩
  | challenged _ ms h =>
    rw [h]
    exact ⟨.packet t.challengePacket (.inr ⟨rfl, rfl⟩) rfl, .kept rfl rfl rfl⟩
  | resent _ q hq _ h =>
    rw [h]
    exact ⟨.packet q (.inl (hl q hq)) rfl, .kept rfl rfl rfl⟩

theorem TimeoutTick.effect (h : t.TimeoutTick t') : t.Sends t' ∧ t.Upright t' := by
  cases h with
  | quiet h => exact h ▸ ⟨.silent rfl, .kept rfl rfl rfl⟩
  | forfeited _ _ ho h =>
    rw [h]
    exact ⟨.timedOut ho rfl, .moved rfl rfl ⟨nofun, nofun⟩⟩
  | shown _ _ _ h =>
    rw [h]
    exact ⟨.silent rfl, .moved rfl rfl ⟨nofun, nofun⟩⟩

theorem serverAuthSendUpdate_setPhase (ph : Phase) :
    (t.serverAuthSendUpdate env).setPhase ph = (t.setPhase ph).serverAuthSendUpdate env := rfl

theorem ServerResend.seq (h : t.ServerResend now t') : t'.updateSeq = t.updateSeq := by
  cases h with
  | quiet h => exact h ▸ rfl
  | cancelled _ h => exact h ▸ rfl
  | challenged _ _ h => exact h ▸ rfl
  | resent _ _ _ _ h => exact h ▸ rfl

theorem TimeoutTick.seq (h : t.TimeoutTick t') : t'.updateSeq = t.updateSeq := by
  cases h with
  | quiet h => exact h ▸ rfl
  | forfeited _ _ _ h => exact h ▸ rfl
  | shown _ _ _ h => exact h ▸ rfl

variable (t env) in
/-- On a server every turn ends with an UPDATE. -/
theorem endTurn_update (hm : t.mode = .networked) (hr : t.role = .server) :
    ∃ v : TextBattle, t.endTurn env = v.serverAuthSendUpdate env ∧ v.session = t.session ∧
      v.updateSeq = t.updateSeq ∧ v.sent = t.sent ∧ v.mode = t.mode ∧ v.role = t.role ∧
      (v.phase = .finished ∨ v.phase = .waitAction) := by
  unfold endTurn
  dsimp only
  split
  · rw [if_pos (by exact hr)]
    exact ⟨_, serverAuthSendUpdate_setPhase _, rfl, rfl, rfl, rfl, rfl, .inl rfl⟩
  · rw [if_pos (by exact hm), if_pos (by exact hr)]
    exact ⟨_, serverAuthSendUpdate_setPhase _, rfl, rfl, rfl, rfl, rfl, .inr rfl⟩

theorem TurnTick.effect (hm : t.mode = .networked) (hr : t.role = .server)
    (h : t.TurnTick env t') : t.Sends t' ∧ t.Upright t' := by
  cases h with
  | quiet h => exact h ▸ ⟨.silent rfl, .kept rfl rfl rfl⟩
  | played _ _ h =>
    obtain ⟨s, _, h⟩ := bind_eq_ok.mp h
    cases h
    obtain ⟨v, h, hs, hq, hp, hm', hr', hph⟩ :=
      endTurn_update (t.withScene s) env hm hr
    rw [h]
    refine ⟨.update v env rfl hs hq hp, .moved hm' hr' ?_⟩
    change v.phase ≠ _ ∧ v.phase ≠ _
    rcases hph with hph | hph <;> rw [hph] <;> decide

theorem Sends.session (h : t.Sends t') : t'.session = t.session := by
  cases h with
  | silent h => exact congrArg Wire.session h
  | packet _ _ h => exact congrArg Wire.session h
  | state _ h => exact h ▸ rfl
  | update v env h hs => exact h ▸ hs
  | timedOut _ h => exact congrArg Wire.session h
  | fled _ _ _ h => exact congrArg Wire.session h

/-- What a server has sent after a call, it had sent before, or it is a packet of its session. -/
theorem Sends.sent (h : t.Sends t') : t'.sent = t.sent ∨
    ∃ q, t'.sent = q :: t.sent ∧ (q ∈ t.sent ∨ FromServer q ∧ q.session = t.session) := by
  cases h with
  | silent h => exact .inl (congrArg Wire.sent h)
  | packet q hq h =>
    refine .inr ⟨q, congrArg Wire.sent h, ?_⟩
    exact hq.imp id fun hx => ⟨.inl hx.1, hx.2⟩
  | state _ h =>
    rw [h]
    exact .inr ⟨_, rfl, .inr ⟨.inr (.inr (.inl rfl)), rfl⟩⟩
  | update v env h hs _ hp =>
    rw [h]
    exact .inr ⟨v.updatePacket, congrArg _ hp, .inr ⟨.inr (.inl rfl), hs⟩⟩
  | timedOut _ h => exact .inl (congrArg Wire.sent h)
  | fled q ht hs h => exact .inr ⟨q, congrArg Wire.sent h, .inr ⟨.inr (.inr (.inr ht)), hs⟩⟩

theorem Sends.mem (h : t.Sends t') (hp : p ∈ t'.sent) :
    p ∈ t.sent ∨ FromServer p ∧ p.session = t.session := by
  rcases h.sent with hx | ⟨q, hx, hq⟩
  · exact .inl (hx ▸ hp)
  · rw [hx] at hp
    rcases List.mem_cons.mp hp with rfl | hp
    · exact hq
    · exact .inl hp

theorem Sends.grows (h : t.Sends t') (hp : p ∈ t.sent) : p ∈ t'.sent := by
  rcases h.sent with hx | ⟨q, hx, _⟩
  · exact hx ▸ hp
  · rw [hx]
    exact List.mem_cons_of_mem q hp

/-- The UPDATE a server repeats is one it has sent. -/
theorem Sends.last (h : t.Sends t') (hl : ∀ q, t.lastUpdate = some q → q ∈ t.sent)
    (hp : t'.lastUpdate = some p) : p ∈ t'.sent := by
  have hold (hx : t'.lastUpdate = t.lastUpdate) : p ∈ t'.sent := h.grows (hl p (hx ▸ hp))
  cases h with
  | silent h => exact hold (congrArg Wire.last h)
  | packet _ _ h => exact hold (congrArg Wire.last h)
  | state _ h => exact hold (h ▸ rfl)
  | update v env h =>
    rw [h] at hp ⊢
    cases hp
    exact List.mem_cons_self ..
  | timedOut _ h => exact hold (congrArg Wire.last h)
  | fled _ _ _ h => exact hold (congrArg Wire.last h)

/-- A server of the session, in the battle or past it. -/
structure Serving (sid : UInt16) (t : TextBattle) : Prop where
  alive : t.mode ≠ .off → t.mode = .networked ∧ t.role = .server ∧
    t.phase ≠ .waitChallengeOverlay ∧ t.phase ≠ .waitPeerReady
  session : t.session = sid
  shipped : ∀ p ∈ t.sent, FromServer p ∧ p.session = sid
  last : ∀ p, t.lastUpdate = some p → p ∈ t.sent

variable {sid : UInt16}

theorem Serving.sends (h : t.Serving sid) (hs : t.Sends t') (hu : t.Upright t') :
    t'.Serving sid where
  alive := by
    intro hm
    rcases hu with hu | ⟨hm', hr, hp⟩
    · exact absurd hu hm
    obtain ⟨h₁, h₂, h₃⟩ := h.alive (hm' ▸ hm)
    refine ⟨hm'.trans h₁, hr.trans h₂, ?_⟩
    rcases hp with hp | hp
    · rwa [hp]
    · exact hp
  session := hs.session.trans h.session
  shipped := by
    intro p hp
    rcases hs.mem hp with hp | ⟨ht, hp⟩
    · exact h.shipped p hp
    · exact ⟨ht, hp.trans h.session⟩
  last := fun _ hp => hs.last h.last hp

/-! ### The client -/

/-- The identity of the battle is kept, and only packets of a client are sent. -/
structure Answers (t t' : TextBattle) : Prop where
  link : t'.link = t.link
  ready : t'.peerReady = t.peerReady
  pending : t'.pendingRemoteAction = t.pendingRemoteAction
  phase : t'.phase = t.phase ∨ t'.phase ≠ .waitPeerReady
  sent : ∃ l, t'.sent = l ++ t.sent ∧ ∀ q ∈ l, FromClient q ∧ q.session = t.session

namespace Answers

theorem quiet (hl : t'.link = t.link) (hr : t'.peerReady = t.peerReady)
    (hp : t'.pendingRemoteAction = t.pendingRemoteAction)
    (hph : t'.phase = t.phase ∨ t'.phase ≠ .waitPeerReady) (hs : t'.sent = t.sent) :
    t.Answers t' :=
  ⟨hl, hr, hp, hph, [], hs, nofun⟩

theorem refl (t : TextBattle) : t.Answers t := .quiet rfl rfl rfl (.inl rfl) rfl

theorem trans (h : t.Answers u) (h' : u.Answers t') : t.Answers t' where
  link := h'.link.trans h.link
  ready := h'.ready.trans h.ready
  pending := h'.pending.trans h.pending
  phase := by
    rcases h'.phase with hp | hp
    · rw [hp]
      exact h.phase
    · exact .inr hp
  sent := by
    obtain ⟨l, hl, hq⟩ := h.sent
    obtain ⟨l', hl', hq'⟩ := h'.sent
    refine ⟨l' ++ l, by rw [hl', hl, List.append_assoc], fun q hx => ?_⟩
    rcases List.mem_append.mp hx with hx | hx
    · obtain ⟨ht, hs⟩ := hq' q hx
      exact ⟨ht, hs.trans (congrArg Link.session h.link)⟩
    · exact hq q hx

end Answers

theorem send_answers (ht : FromClient p) (hs : p.session = t.session) : t.Answers (t.send p) :=
  ⟨rfl, rfl, rfl, .inl rfl, [p], rfl, fun _ hq => List.mem_singleton.mp hq ▸ ⟨ht, hs⟩⟩

theorem clientAuthSendActionV2_answers (env : Env) (a i : UInt8) :
    t.Answers (t.clientAuthSendActionV2 env a i) := by
  have h : t.Answers (t.send (t.actionPacket a i)) := send_answers (.inr (.inl rfl)) rfl
  unfold clientAuthSendActionV2
  dsimp only
  split
  · exact h.trans (.quiet rfl rfl rfl (.inl rfl) rfl)
  · exact h

theorem Shows.answers (h : t.Shows t') (hp : t'.phase = t.phase ∨ t'.Menu) : t.Answers t' := by
  rw [h]
  refine .quiet rfl rfl rfl ?_ rfl
  rcases hp with hp | hp | hp | hp
  · exact .inl hp
  all_goals exact .inr (by rw [hp]; decide)

theorem setPhase_answers {ph : Phase} (h : ph ≠ .waitPeerReady) : t.Answers (t.setPhase ph) :=
  .quiet rfl rfl rfl (.inr h) rfl

theorem ClientKey.answers (h : t.ClientKey env t') : t' = t.exit ∨ t.Answers t' := by
  cases h with
  | left _ h => exact .inl h
  | idle h => exact .inr (h ▸ .refl t)
  | shown _ h hp => exact .inr (h.answers hp)
  | fled _ h =>
    rw [h]
    exact .inr ((clientAuthSendActionV2_answers env 2 0).trans (setPhase_answers nofun))
  | submitted _ u a i hu _ h =>
    have hu : t.Answers (u.setPhase .waitRemote) := by
      rw [hu]
      exact .quiet rfl rfl rfl (.inr nofun) rfl
    have hx := clientAuthSendActionV2_answers (t := u) env a i
    rw [h]
    exact .inr (hu.trans ⟨hx.link, hx.ready, hx.pending, .inl rfl, hx.sent⟩)

theorem AcceptTick.answers (h : t.AcceptTick now t') : t.Answers t' := by
  cases h with
  | quiet h => exact h ▸ .refl t
  | asked _ h =>
    have hx : t.Answers t.clientAuthSendStateRequest := send_answers (.inr (.inr rfl)) rfl
    exact h ▸ hx.trans (.quiet rfl rfl rfl (.inl rfl) rfl)
  | accepted _ _ h =>
    have hx : t.Answers (t.send (t.acceptPacket true)) := send_answers (.inl rfl) rfl
    exact h ▸ hx.trans (.quiet rfl rfl rfl (.inl rfl) rfl)

theorem ActionTick.answers (h : t.ActionTick env t') : t.Answers t' := by
  cases h with
  | quiet h => exact h ▸ .refl t
  | again _ _ h => exact h ▸ clientAuthSendActionV2_answers ..

theorem TimeoutTick.answers (h : t.TimeoutTick t') : t.Answers t' := by
  cases h with
  | quiet h => exact h ▸ .refl t
  | forfeited _ _ _ h => exact h ▸ .quiet rfl rfl rfl (.inr nofun) rfl
  | shown _ _ _ h => exact h ▸ .quiet rfl rfl rfl (.inr nofun) rfl

theorem reAck_answers : t.Answers (t.reAck env) := by
  unfold reAck
  split <;> exact clientAuthSendActionV2_answers ..

theorem commitUpdate_answers (seq : UInt8) (fin need : Bool) :
    t.Answers (t.commitUpdate env seq fin need) := by
  unfold commitUpdate
  dsimp only
  split_ifs
  · refine .trans ?_ (clientAuthSendActionV2_answers env 0xFE 0)
    exact .quiet rfl rfl rfl (.inr nofun) rfl
  · exact .quiet rfl rfl rfl (.inr nofun) rfl
  · exact .quiet rfl rfl rfl (.inr nofun) rfl

theorem UpdateStep.answers (h : t.UpdateStep env p t') : t.Answers t' := by
  have hdrawn (turn : UInt8) (s : Scene) : t.Answers (t.redrawn turn s) :=
    .quiet rfl rfl rfl (.inl rfl) rfl
  cases h with
  | ignored _ h => exact h ▸ .refl t
  | buffered _ _ _ h => exact h ▸ .quiet rfl rfl rfl (.inl rfl) rfl
  | repeated _ _ _ _ h =>
    have hh : t.Answers t.heard := .quiet rfl rfl rfl (.inl rfl) rfl
    exact h ▸ hh.trans reAck_answers
  | cut _ _ _ _ _ s _ h => exact h ▸ .quiet rfl rfl rfl (.inl rfl) rfl
  | rejected turn _ _ _ _ s _ _ _ h =>
    rw [h]
    refine (hdrawn turn s).trans (.trans (u := clientAuthSendStateRequest
      { t.redrawn turn s with clientNeedsFullState := true }) ?_ (.quiet rfl rfl rfl (.inl rfl) rfl))
    exact ⟨rfl, rfl, rfl, .inl rfl, [_], rfl, fun _ hq =>
      List.mem_singleton.mp hq ▸ ⟨.inr (.inr rfl), rfl⟩⟩
  | applied turn _ _ _ _ s _ _ _ h => exact h ▸ (hdrawn turn s).trans (commitUpdate_answers ..)

theorem FullStateStep.answers (h : t.FullStateStep env p t') : t.Answers t' := by
  cases h with
  | ignored h => exact h ▸ .refl t
  | cut s h => exact h ▸ .quiet rfl rfl rfl (.inl rfl) rfl
  | adopted _ _ _ result _ _ r _ h =>
    rw [h]
    refine .quiet rfl rfl rfl (.inr ?_) rfl
    unfold commitFullState
    dsimp only
    split <;> exact nofun

theorem joined_answers (env : Env) : t.Answers (t.joined env) :=
  ⟨rfl, rfl, rfl, .inr nofun, [t.acceptPacket true], rfl, fun _ hq =>
    List.mem_singleton.mp hq ▸ ⟨.inl rfl, rfl⟩⟩

theorem OverlayStep.answers (h : t.OverlayStep env t') : t.Answers t' := by
  have haccept (acc : Bool) : t.Answers (t.send (t.acceptPacket acc)) :=
    send_answers (.inl rfl) rfl
  cases h with
  | idle h => exact h ▸ .refl t
  | repeated _ h => exact h ▸ (haccept true).trans (.quiet rfl rfl rfl (.inl rfl) rfl)
  | declined h => exact h ▸ (haccept false).trans (.quiet rfl rfl rfl (.inr nofun) rfl)
  | opened _ h => exact h ▸ joined_answers env
  | caught q _ h =>
    have hd : t.Answers (t.joined env).drained :=
      (joined_answers env).trans (.quiet rfl rfl rfl (.inl rfl) rfl)
    exact hd.trans h.answers

/-- A client of the session, in the battle or outside it. -/
structure Playing (sid : UInt16) (t : TextBattle) : Prop where
  alive : t.mode ≠ .off → t.mode = .networked ∧ t.role = .client ∧ t.session = sid ∧
    t.peerReady = true ∧ t.pendingRemoteAction = false ∧ t.phase ≠ .waitPeerReady
  asleep : t.mode = .off → t.exit = t
  acked : ∀ p ∈ t.sent, FromClient p ∧ p.session = sid

theorem Playing.answers (h : t.Playing sid) (hm : t.mode ≠ .off) (ha : t.Answers t') :
    t'.Playing sid where
  alive := by
    intro _
    obtain ⟨h₁, h₂, h₃, h₄, h₅, h₆⟩ := h.alive hm
    refine ⟨(congrArg Link.mode ha.link).trans h₁, (congrArg Link.role ha.link).trans h₂,
      (congrArg Link.session ha.link).trans h₃, ha.ready.trans h₄, ha.pending.trans h₅, ?_⟩
    rcases ha.phase with hp | hp
    · rwa [hp]
    · exact hp
  asleep := fun hx => absurd ((congrArg Link.mode ha.link).symm.trans hx) hm
  acked := by
    obtain ⟨l, hl, hq⟩ := ha.sent
    intro p hp
    rw [hl] at hp
    rcases List.mem_append.mp hp with hp | hp
    · obtain ⟨ht, hs⟩ := hq p hp
      exact ⟨ht, hs.trans (h.alive hm).2.2.1⟩
    · exact h.acked p hp

theorem Playing.left (h : t.Playing sid) : t.exit.Playing sid :=
  ⟨fun hx => absurd rfl hx, fun _ => rfl, h.acked⟩

theorem Playing.challenged (h : t.Playing sid) (name : CStr) (party : List UInt8) :
    (t.beginOverlay env fromId sid name party).Playing sid :=
  ⟨fun _ => ⟨rfl, rfl, rfl, rfl, rfl, nofun⟩, nofun, h.acked⟩

/-- The copy of an UPDATE that the overlay keeps. -/
def held (p : Packet) : Packet := { p with payload := p.payload.take 196 }

theorem UpdateStep.buffer (h : t.UpdateStep env p t') :
    t'.preAcceptUpdate = t.preAcceptUpdate ∨ t'.preAcceptUpdate = some (held p) := by
  by_cases ho : t.phase = .waitChallengeOverlay
  · cases h with
    | ignored _ h => exact .inl (h ▸ rfl)
    | buffered _ _ _ h => exact .inr (h ▸ rfl)
    | repeated _ hx => exact absurd ho hx
    | cut _ _ _ _ hp => exact absurd ho hp.overlay
    | rejected _ _ _ _ hp => exact absurd ho hp.overlay
    | applied _ _ _ _ hp => exact absurd ho hp.overlay
  · rcases h.keeps ho with ⟨_, hk⟩ | ⟨_, hk⟩
    · exact .inl hk.buffer
    · exact .inl hk.buffer

theorem FullStateStep.buffer (h : t.FullStateStep env p t') :
    t'.preAcceptUpdate = t.preAcceptUpdate := by
  cases h with
  | ignored h => exact h ▸ rfl
  | cut s h => exact h ▸ rfl
  | adopted _ _ _ _ _ _ _ _ h => exact h ▸ rfl

theorem OverlayStep.buffer (h : t.OverlayStep env t') :
    t'.preAcceptUpdate = t.preAcceptUpdate ∨ t'.preAcceptUpdate = none := by
  cases h with
  | idle h => exact .inl (h ▸ rfl)
  | repeated _ h => exact .inl (h ▸ rfl)
  | declined h => exact .inl (h ▸ rfl)
  | opened _ h => exact .inl (h ▸ rfl)
  | caught q _ h =>
    have hpast : (t.joined env).drained.phase ≠ .waitChallengeOverlay := nofun
    rcases h.keeps hpast with ⟨_, hk⟩ | ⟨_, hk⟩
    · exact .inr hk.buffer
    · exact .inr hk.buffer

end TextBattle

namespace Net

open TextBattle

variable {w : Nodes} {sid : UInt16} {n n' m : Net} {env : Env} {k : Nat} {c : UInt8} {now : UInt32}

/-- Both devices follow the protocol, and only UPDATEs of the server are held back. -/
structure Wired (sid : UInt16) (n : Net) : Prop where
  server : n.server.Serving sid
  client : n.client.Playing sid
  buffer : ∀ q, n.client.preAcceptUpdate = some q →
    ∃ p ∈ n.server.sent, p.type = textBattleUpdate ∧ q = held p

theorem Opens.wired (h : Opens n) : n.Wired n.server.session := by
  obtain ⟨s, c, env, target, party, name⟩ := h
  refine ⟨⟨fun _ => ⟨rfl, rfl, nofun, nofun⟩, rfl, ?_, nofun⟩,
    ⟨fun hx => absurd rfl hx, fun _ => rfl, nofun⟩, nofun⟩
  intro p hp
  obtain rfl := List.mem_singleton.mp hp
  exact ⟨.inl rfl, rfl⟩

/-! ### What a call can do -/

/-- A tick of a server: the retransmission, then a held exit, or the timeout and the turn. -/
def ServerTick (t : TextBattle) (env : Env) (now : UInt32) (t' : TextBattle) : Prop :=
  ∃ u, (t.stampFinished now).ServerResend now u ∧
    (t' = exit { u with pendingKeyExit := false } ∨ (u.tickTimeout now).TurnTick env t')

/-- A tick of a client: the retransmissions, then the timeout. -/
def ClientTick (t : TextBattle) (env : Env) (now : UInt32) (t' : TextBattle) : Prop :=
  ∃ u v, t.AcceptTick now u ∧ u.ActionTick env v ∧ v.TimeoutTick t'

/-- A call of the server's, and everything else as it is. -/
inductive ServerCall (w : Nodes) (n : Net) (env : Env) : Event → Net → Prop
  | packet (k : Nat) (p : Packet) (hk : n.client.nth k = some p) (t' : TextBattle)
      (h : n.server.ServerPacket env w.client p t') :
      ServerCall w n env (.toServer k) { n with server := t' }
  | key (c : UInt8) (t' : TextBattle) (hm : n.server.mode ≠ .off)
      (h : n.server.ServerKey env c t') : ServerCall w n env (.serverKey c) { n with server := t' }
  | tick (now : UInt32) (t' : TextBattle) (hm : n.server.mode ≠ .off)
      (h : ServerTick n.server env now t') : ServerCall w n env (.serverTick now) { n with server := t' }

/-- A call of the client's, and everything else as it is. -/
inductive ClientCall (w : Nodes) (n : Net) (env : Env) : Event → Net → Prop
  | packet (k : Nat) (p : Packet) (hk : n.server.nth k = some p) (t' : TextBattle)
      (h : n.client.ClientPacket env w.server p t') :
      ClientCall w n env (.toClient k) { n with client := t' }
  | overlay (c : UInt8) (t' : TextBattle) (hm : n.client.mode ≠ .off)
      (ho : n.client.phase = .waitChallengeOverlay) (h : n.client.OverlayStep env t') :
      ClientCall w n env (.clientKey c) { n with client := t' }
  | key (c : UInt8) (t' : TextBattle) (hm : n.client.mode ≠ .off)
      (ho : n.client.phase ≠ .waitChallengeOverlay) (h : n.client.ClientKey env t') :
      ClientCall w n env (.clientKey c) { n with client := t' }
  | tick (now : UInt32) (t' : TextBattle) (hm : n.client.mode ≠ .off)
      (h : ClientTick n.client env now t') :
      ClientCall w n env (.clientTick now) { n with client := t' }

/-- A step is a call of one of the devices, or it does nothing. -/
inductive Moves (w : Nodes) (n : Net) (i : Env × Event) (n' : Net) : Prop
  | idle (h : n' = n)
  | server (h : ServerCall w n i.1 i.2 n')
  | client (h : ClientCall w n i.1 i.2 n')

theorem handleKey_off {t : TextBattle} (hm : t.mode = .off) : t.handleKey env c = .ok t := if_pos hm

theorem tick_off {t : TextBattle} (hm : t.mode = .off) : t.tick env now = .ok t := by
  unfold tick
  rw [hm]

theorem serverKey_moves (hn : n.Wired sid) (h : n.step w (env, .serverKey c) = .ok n') :
    n.Moves w (env, .serverKey c) n' := by
  obtain ⟨t', ht, rfl⟩ := map_eq_ok.mp h
  by_cases hm : n.server.mode = .off
  · rw [handleKey_off hm] at ht
    cases ht
    exact .idle rfl
  · obtain ⟨hnet, hr, ho, _⟩ := hn.server.alive hm
    exact .server (.key c t' hm (handleKey_server hnet hr ho ht))

theorem serverTick_moves (hn : n.Wired sid) (h : n.step w (env, .serverTick now) = .ok n') :
    n.Moves w (env, .serverTick now) n' := by
  obtain ⟨t', ht, rfl⟩ := map_eq_ok.mp h
  by_cases hm : n.server.mode = .off
  · rw [tick_off hm] at ht
    cases ht
    exact .idle rfl
  · obtain ⟨hnet, hr, _, hp⟩ := hn.server.alive hm
    exact .server (.tick now t' hm (tick_server hnet hr hp ht))

theorem toServer_moves (hn : n.Wired sid) (h : n.step w (env, .toServer k) = .ok n') :
    n.Moves w (env, .toServer k) n' := by
  cases hk : n.client.nth k with
  | none =>
    cases h
    rw [hk]
    exact .idle rfl
  | some p =>
    cases h
    rw [hk]
    have hp := hn.client.acked p (mem_of_nth hk)
    refine .server (.packet k p hk _ ?_)
    unfold handlePacket
    rw [Packet.ofBytes_bytes]
    exact dispatch_server (fun hm => (hn.server.alive hm).2.1) hp.1

theorem clientKey_moves (hn : n.Wired sid) (h : n.step w (env, .clientKey c) = .ok n') :
    n.Moves w (env, .clientKey c) n' := by
  obtain ⟨t', ht, rfl⟩ := map_eq_ok.mp h
  by_cases hm : n.client.mode = .off
  · rw [handleKey_off hm] at ht
    cases ht
    exact .idle rfl
  obtain ⟨hnet, hr, _⟩ := hn.client.alive hm
  by_cases ho : n.client.phase = .waitChallengeOverlay
  · unfold handleKey at ht
    rw [if_neg hm, if_neg (by rw [ho]; decide), if_pos ho] at ht
    cases ht
    exact .client (.overlay c _ hm ho (keyOverlay_steps env c))
  · exact .client (.key c t' hm ho (handleKey_client hm hr ho ht))

theorem clientTick_moves (hn : n.Wired sid) (h : n.step w (env, .clientTick now) = .ok n') :
    n.Moves w (env, .clientTick now) n' := by
  obtain ⟨t', ht, rfl⟩ := map_eq_ok.mp h
  by_cases hm : n.client.mode = .off
  · rw [tick_off hm] at ht
    cases ht
    exact .idle rfl
  · obtain ⟨hnet, hr, _, _, hp, hph⟩ := hn.client.alive hm
    exact .client (.tick now t' hm (tick_client hnet hr hph hp ht))

theorem toClient_moves (hn : n.Wired sid) (h : n.step w (env, .toClient k) = .ok n') :
    n.Moves w (env, .toClient k) n' := by
  cases hk : n.server.nth k with
  | none =>
    cases h
    rw [hk]
    exact .idle rfl
  | some p =>
    cases h
    rw [hk]
    have hp := hn.server.shipped p (mem_of_nth hk)
    refine .client (.packet k p hk _ ?_)
    unfold handlePacket
    rw [Packet.ofBytes_bytes]
    refine dispatch_client (fun hm => ?_) hp.1
    obtain ⟨_, hr, _, hready, _⟩ := hn.client.alive hm
    exact ⟨hr, hready⟩

theorem step_moves {i : Env × Event} (hn : n.Wired sid) (h : n.step w i = .ok n') :
    n.Moves w i n' := by
  obtain ⟨env, e⟩ := i
  cases e with
  | toServer k => exact toServer_moves hn h
  | toClient k => exact toClient_moves hn h
  | serverKey c => exact serverKey_moves hn h
  | clientKey c => exact clientKey_moves hn h
  | serverTick now => exact serverTick_moves hn h
  | clientTick now => exact clientTick_moves hn h

/-! ### Whole calls -/

/-- Only the last thing a call does may be a new UPDATE. -/
def Closing (a b t' : TextBattle) : Prop := b.updateSeq = a.updateSeq ∨ b = t'

/-- Whatever the traffic of a server preserves, a tick of it preserves. -/
theorem ServerTick.preserves {t t' : TextBattle} {P : TextBattle → Prop}
    (hP : ∀ a b, a.Serving sid → P a → a.Sends b → Closing a b t' → P b) (hs : t.Serving sid)
    (hm : t.mode ≠ .off) (ht : P t) (h : ServerTick t env now t') : P t' ∧ t'.Serving sid := by
  have next {a b : TextBattle} (ha : P a ∧ a.Serving sid) (he : a.Sends b ∧ a.Upright b)
      (hc : Closing a b t') : P b ∧ b.Serving sid :=
    ⟨hP a b ha.2 ha.1 he.1 hc, ha.2.sends he.1 he.2⟩
  obtain ⟨u, hu, h⟩ := h
  have h₁ := next ⟨ht, hs⟩ ⟨.silent stampFinished_wire, stampFinished_upright now⟩
    (.inl (congrArg Wire.seq stampFinished_wire))
  have h₂ := next h₁ (hu.effect h₁.2.last) (.inl hu.seq)
  have hmode : u.mode ≠ .off := by
    have hstamp : (t.stampFinished now).mode = t.mode := congrArg Link.mode (stampFinished_link now)
    cases hu with
    | quiet h => rwa [h, hstamp]
    | cancelled _ h => rw [h]; exact hstamp.symm ▸ hm
    | challenged _ _ h => rw [h]; exact hstamp.symm ▸ hm
    | resent _ _ _ _ h => rw [h]; exact hstamp.symm ▸ hm
  rcases h with h | h
  · exact next h₂ (h ▸ ⟨.silent rfl, .inl rfl⟩) (.inr rfl)
  · have h₃ := next h₂ (tickTimeout_cases now).effect (.inl (tickTimeout_cases now).seq)
    have hsame : (u.tickTimeout now).mode = u.mode := congrArg Link.mode (tickTimeout_link now)
    obtain ⟨hnet, hr, _⟩ := h₃.2.alive (hsame ▸ hmode)
    exact next h₃ (h.effect hnet hr) (.inr rfl)

/-- Whatever the traffic of a server preserves, a call of it preserves. -/
theorem ServerCall.preserves {e : Event} {P : TextBattle → Prop}
    (hP : ∀ a b, a.Serving sid → P a → a.Sends b → Closing a b n'.server → P b)
    (hs : n.server.Serving sid) (hn : P n.server) (h : ServerCall w n env e n') :
    P n'.server ∧ n'.server.Serving sid ∧ n'.client = n.client := by
  cases h with
  | packet k p hk t' h =>
    have he : n.server.Sends t' ∧ n.server.Upright t' := by
      cases h with
      | idle h => exact h ▸ ⟨.silent rfl, .kept rfl rfl rfl⟩
      | accept _ h => exact h.effect
      | action _ h => exact h.effect
      | asked hr _ _ _ _ h => exact h ▸ ⟨.state hr rfl, .kept rfl rfl rfl⟩
    exact ⟨hP _ _ hs hn he.1 (.inr rfl), hs.sends he.1 he.2, rfl⟩
  | key c t' _ h =>
    exact ⟨hP _ _ hs hn h.effect.1 (.inr rfl), hs.sends h.effect.1 h.effect.2, rfl⟩
  | tick now t' hm h =>
    obtain ⟨hp, hs'⟩ := h.preserves hP hs hm hn
    exact ⟨hp, hs', rfl⟩

theorem ServerCall.grows {e : Event} (hs : n.server.Serving sid) (h : ServerCall w n env e n') :
    ∀ p ∈ n.server.sent, p ∈ n'.server.sent := by
  refine (h.preserves (P := fun t => ∀ p ∈ n.server.sent, p ∈ t.sent) ?_ hs fun _ hp => hp).1
  exact fun a b _ ha hab _ p hp => hab.grows (ha p hp)

theorem ClientTick.answers {t t' : TextBattle} (h : ClientTick t env now t') : t.Answers t' := by
  obtain ⟨u, v, hu, hv, ht⟩ := h
  exact (hu.answers.trans hv.answers).trans ht.answers

theorem ClientTick.buffer {t t' : TextBattle} (h : ClientTick t env now t') :
    t'.preAcceptUpdate = t.preAcceptUpdate := by
  obtain ⟨u, v, hu, hv, ht⟩ := h
  exact ((hu.keeps.trans hv.keeps).trans ht.keeps).buffer

theorem ClientCall.playing {e : Event} (hn : n.Wired sid) (h : ClientCall w n env e n') :
    n'.client.Playing sid ∧ n'.server = n.server := by
  refine ⟨?_, by cases h <;> rfl⟩
  have hc := hn.client
  cases h with
  | packet k p hk t' h =>
    cases h with
    | idle h => exact h ▸ hc
    | challenged _ name party h =>
      rw [h, (hn.server.shipped p (mem_of_nth hk)).2]
      exact hc.challenged name party
    | update hm _ h => exact hc.answers hm h.answers
    | fullState hm _ h => exact hc.answers hm h.answers
    | forfeited hm _ h => exact h ▸ hc.answers hm (.quiet rfl rfl rfl (.inr nofun) rfl)
  | overlay c t' hm _ h => exact hc.answers hm h.answers
  | key c t' hm _ h =>
    rcases h.answers with h | h
    · exact h ▸ hc.left
    · exact hc.answers hm h
  | tick now t' hm h => exact hc.answers hm h.answers

/-- What the overlay holds after a call, it held before, or it is an UPDATE of the server. -/
theorem ClientCall.buffer {e : Event} (hn : n.Wired sid) (h : ClientCall w n env e n') :
    ∀ q, n'.client.preAcceptUpdate = some q →
      ∃ p ∈ n.server.sent, p.type = textBattleUpdate ∧ q = held p := by
  intro q hq
  have hkept (hx : n'.client.preAcceptUpdate = n.client.preAcceptUpdate) :
      ∃ p ∈ n.server.sent, p.type = textBattleUpdate ∧ q = held p := hn.buffer q (hx ▸ hq)
  have hnone (hx : n'.client.preAcceptUpdate = none) :
      ∃ p ∈ n.server.sent, p.type = textBattleUpdate ∧ q = held p := by
    rw [hx] at hq
    cases hq
  cases h with
  | packet k p hk t' h =>
    cases h with
    | idle h => exact hkept (h ▸ rfl)
    | challenged _ _ _ h => exact hnone (h ▸ rfl)
    | update _ ht h =>
      rcases h.buffer with hx | hx
      · exact hkept hx
      · exact ⟨p, mem_of_nth hk, ht, (Option.some.inj (hx.symm.trans hq)).symm⟩
    | fullState _ _ h => exact hkept h.buffer
    | forfeited _ _ h => exact hkept (h ▸ rfl)
  | overlay c t' _ _ h =>
    rcases h.buffer with hx | hx
    · exact hkept hx
    · exact hnone hx
  | key c t' _ _ h =>
    cases h with
    | left _ h => exact hnone (h ▸ rfl)
    | idle h => exact hkept (h ▸ rfl)
    | shown _ h hp => exact hkept (h.keeps hp).buffer
    | fled _ h =>
      exact hkept (h ▸ (clientAuthSendActionV2_keeps (t := n.client) env 2 0).buffer)
    | submitted _ u a i hu _ h =>
      have hx : u.preAcceptUpdate = n.client.preAcceptUpdate := by rw [hu]
      exact hkept (h ▸ (clientAuthSendActionV2_keeps (t := u) env a i).buffer.trans hx)
  | tick now t' _ h => exact hkept h.buffer

theorem wired_step {i : Env × Event} (hn : n.Wired sid) (h : n.step w i = .ok n') :
    n'.Wired sid := by
  cases step_moves hn h with
  | idle h => exact h ▸ hn
  | server h =>
    obtain ⟨_, hs, hc⟩ := h.preserves (P := fun _ => True) (fun _ _ _ _ _ _ => trivial) hn.server
      trivial
    refine ⟨hs, hc.symm ▸ hn.client, ?_⟩
    rw [hc]
    intro q hq
    obtain ⟨p, hp, hx⟩ := hn.buffer q hq
    exact ⟨p, h.grows hn.server p hp, hx⟩
  | client h =>
    obtain ⟨hc, hs⟩ := h.playing hn
    exact ⟨hs.symm ▸ hn.server, hc, hs.symm ▸ h.buffer hn⟩

theorem wired_run {cond : Net → Env × Event → Prop} (h₀ : Opens n) (hr : Reach (step w) cond n n') :
    n'.Wired n.server.session :=
  hr.invariant (fun _ _ _ hn _ h => wired_step hn h) h₀.wired

end Net
end MonsterMesh

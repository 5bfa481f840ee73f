import MonsterMesh.Battle.Scenes
import MonsterMesh.Battle.Turns

/-! The actions of the client: chosen by its user, sent, and played by the server. -/
namespace MonsterMesh

open Fallible Bytes

/-! ### A turn is counted -/

namespace Engine

variable {e : Engine} {sink : Bool} {r : Engine × Output}

theorem stepAction_turn {s : Side} (h : e.stepAction s sink = .ok r) : r.1.turn = e.turn := by
  unfold stepAction at h
  split_ifs at h
  · cases h
    rfl
  · split at h <;> cases h <;> rfl
  · obtain ⟨d, _, rfl⟩ := map_eq_ok.mp h
    rfl
  · cases h
    rfl

theorem firstSide_turn : e.firstSide.2.turn = e.turn := by
  unfold firstSide pokeActsFirst
  dsimp only
  split_ifs <;> rfl

theorem playTurn_turn {first : Side} (h : e.playTurn first sink = .ok r) :
    r.1.turn = e.turn + 1 := by
  obtain ⟨⟨e₁, _⟩, h₁, h⟩ := bind_eq_ok.mp h
  obtain ⟨⟨e₂, _⟩, h₂, h⟩ := bind_eq_ok.mp h
  cases h
  exact congrArg (· + 1) ((stepAction_turn h₂).trans (stepAction_turn h₁))

/-- Only an engine that is ready plays, and then it counts one turn. -/
theorem executeTurn_turn (h : e.executeTurn sink = .ok r) :
    r.1.turn = e.turn ∨ e.ready = true ∧ r.1.turn = e.turn + 1 := by
  unfold executeTurn at h
  split at h
  · rename_i hr
    exact .inr ⟨hr, (playTurn_turn h).trans (congrArg (· + 1) firstSide_turn)⟩
  · cases h
    exact .inl rfl

end Engine

/-- An action the client's user has chosen, for the turn its client was in. -/
structure Choice where
  turn : UInt8
  action : UInt8
  index : UInt8
deriving DecidableEq

/-- A turn of the server's engine, with the action it played for side 1. -/
structure Played where
  turn : UInt16
  action : UInt8
  index : UInt8
deriving DecidableEq

namespace TextBattle

variable {t t' a b s c c' u v : TextBattle} {env : Env} {fromId now : UInt32} {p q : Packet}
  {chosen : List Choice} {played : List Played} {x : Choice}

/-- The choice an ACTION_V2 carries; a pure ACK carries none. -/
def choiceOf (p : Packet) : Option Choice :=
  if p.type = textBattleActionV2 then
    match p.payload with
    | turn :: action :: index :: _ => if action = 0xFE then none else some ⟨turn, action, index⟩
    | _ => none
  else none

/-- What a key of the client's user submits, off the challenge overlay. -/
def keyChoices (t t' : TextBattle) : List Choice :=
  if t.phase = .waitChallengeOverlay then []
  else (t'.sent.take (t'.sent.length - t.sent.length)).filterMap choiceOf

/-- The turn a tick of the server has played, once the handshake is over. -/
def turnPlayed (t t' : TextBattle) : List Played :=
  if t'.engine.turn = t.engine.turn ∨ t.awaitingAccept = true then []
  else [⟨t.engine.turn, t.engine.pendAction .one, t.engine.pendIndex .one⟩]

theorem keyChoices_none (h : t'.sent = t.sent) : keyChoices t t' = [] := by
  unfold keyChoices
  split
  · rfl
  · rw [h, Nat.sub_self]
    rfl

theorem keyChoices_send (ho : t.phase ≠ .waitChallengeOverlay) (h : t'.sent = q :: t.sent) :
    keyChoices t t' = (choiceOf q).toList := by
  unfold keyChoices
  rw [if_neg ho, h, List.length_cons, Nat.add_sub_cancel_left]
  cases hq : choiceOf q <;> simp [hq]

theorem choiceOf_action {a i : UInt8} (ha : a ≠ 0xFE) :
    choiceOf (t.actionPacket a i) = some ⟨t.clientTurn, a, i⟩ := by
  unfold choiceOf actionPacket
  exact (if_pos rfl).trans (if_neg ha)

theorem choiceOf_ack (i : UInt8) : choiceOf (t.actionPacket 0xFE i) = none := rfl

theorem choiceOf_other (h : p.type ≠ textBattleActionV2) : choiceOf p = none := if_neg h

/-! ### The client sends what was chosen -/

/-- Every action sent, and the one kept for repeating, was chosen for the turn it names. -/
structure Honest (chosen : List Choice) (c : TextBattle) : Prop where
  sent : ∀ p ∈ c.sent, ∀ x, choiceOf p = some x → x ∈ chosen
  kept : c.clientActionType ≠ 0xFF → c.clientActionType ≠ 0xFE ∧
    ⟨c.clientActionTurn, c.clientActionType, c.clientActionIndex⟩ ∈ chosen
  overlay : c.phase = .waitChallengeOverlay → c.clientActionType = 0xFF

namespace Honest

theorem mono {l : List Choice} (h : Honest chosen c) (hl : ∀ x ∈ chosen, x ∈ l) : Honest l c :=
  ⟨fun p hp x hx => hl x (h.sent p hp x hx), fun ha => ⟨(h.kept ha).1, hl _ (h.kept ha).2⟩, h.overlay⟩

/-- A packet that carries no choice, and a change of what no action depends on. -/
theorem quiet (h : Honest chosen c)
    (hs : ∀ p ∈ c'.sent, p ∈ c.sent ∨ choiceOf p = none)
    (ha : c'.clientActionType = 0xFF ∨ c'.clientActionType = c.clientActionType ∧
      c'.clientActionIndex = c.clientActionIndex ∧ c'.clientActionTurn = c.clientActionTurn)
    (hp : c'.phase = .waitChallengeOverlay → c.phase = .waitChallengeOverlay) :
    Honest chosen c' where
  sent := by
    intro p hp x hx
    rcases hs p hp with hp | hp
    · exact h.sent p hp x hx
    · rw [hp] at hx
      cases hx
  kept := by
    intro hn
    rcases ha with ha | ⟨ha, hi, ht⟩
    · exact absurd ha hn
    · rw [ha, hi, ht]
      exact h.kept (ha ▸ hn)
  overlay := by
    intro ho
    rcases ha with ha | ⟨ha, _⟩
    · exact ha
    · exact ha.trans (h.overlay (hp ho))

theorem same (h : Honest chosen c) (hs : c'.sent = c.sent)
    (ha : c'.clientActionType = 0xFF ∨ c'.clientActionType = c.clientActionType ∧
      c'.clientActionIndex = c.clientActionIndex ∧ c'.clientActionTurn = c.clientActionTurn)
    (hp : c'.phase = .waitChallengeOverlay → c.phase = .waitChallengeOverlay) :
    Honest chosen c' :=
  h.quiet (fun _ hx => .inl (hs ▸ hx)) ha hp

theorem sends (h : Honest chosen c) (hs : c'.sent = q :: c.sent) (hq : choiceOf q = none)
    (ha : c'.clientActionType = 0xFF ∨ c'.clientActionType = c.clientActionType ∧
      c'.clientActionIndex = c.clientActionIndex ∧ c'.clientActionTurn = c.clientActionTurn)
    (hp : c'.phase = .waitChallengeOverlay → c.phase = .waitChallengeOverlay) :
    Honest chosen c' := by
  refine h.quiet (fun p hx => ?_) ha hp
  rw [hs] at hx
  rcases List.mem_cons.mp hx with rfl | hx
  · exact .inr hq
  · exact .inl hx

theorem ack (h : Honest chosen c) (i : UInt8) :
    Honest chosen (c.clientAuthSendActionV2 env 0xFE i) := by
  rw [clientAuthSendActionV2_ack]
  exact h.sends rfl (choiceOf_ack i) (.inr ⟨rfl, rfl, rfl⟩) id

/-- An action that was chosen for the turn of the client may be sent. -/
theorem act {a i : UInt8} (h : Honest chosen c) (ha : a ≠ 0xFE)
    (hx : ⟨c.clientTurn, a, i⟩ ∈ chosen) (ho : c.phase ≠ .waitChallengeOverlay) :
    Honest chosen (c.clientAuthSendActionV2 env a i) := by
  rw [clientAuthSendActionV2_eq ha]
  refine ⟨fun p hp x hq => ?_, fun _ => ⟨ha, hx⟩, fun hp => absurd hp ho⟩
  rcases List.mem_cons.mp hp with rfl | hp
  · rw [choiceOf_action ha] at hq
    cases hq
    exact hx
  · exact h.sent p hp x hq

theorem moved {ph : Phase} (h : Honest chosen c) (hp : ph ≠ .waitChallengeOverlay) :
    Honest chosen (c.setPhase ph) :=
  h.same rfl (.inr ⟨rfl, rfl, rfl⟩) fun hx => absurd hx hp

end Honest

/-- A key adds what it submits to the choices. -/
theorem ClientKey.honest (h : Honest chosen c) (ho : c.phase ≠ .waitChallengeOverlay)
    (hk : c.ClientKey env c') : Honest (chosen ++ keyChoices c c') c' := by
  have hmono (x : Choice) (hx : x ∈ chosen) : x ∈ chosen ++ keyChoices c c' :=
    List.mem_append_left _ hx
  cases hk with
  | left _ hx =>
    have hleft : Honest chosen c.exit := h.same rfl (.inl rfl) nofun
    exact (hx.symm ▸ hleft).mono hmono
  | idle hx => exact (hx.symm ▸ h).mono hmono
  | shown _ hx hp =>
    refine (h.same ?_ (.inr ⟨?_, ?_, ?_⟩) fun hy => ?_).mono hmono
    · rw [hx]
    · rw [hx]
    · rw [hx]
    · rw [hx]
    · rcases hp with hp | hp | hp | hp
      · exact hp ▸ hy
      all_goals exact absurd (hp.symm.trans hy) (by decide)
  | fled _ hx =>
    have hsent : c'.sent = c.actionPacket 2 0 :: c.sent := by
      rw [hx, clientAuthSendActionV2_eq (by decide)]
      rfl
    have hc : keyChoices c c' = [⟨c.clientTurn, 2, 0⟩] := by
      rw [keyChoices_send ho hsent, choiceOf_action (by decide)]
      rfl
    rw [hc] at hmono ⊢
    rw [hx]
    exact ((h.mono hmono).act (by decide) (List.mem_append_right _ (.head _)) ho).moved (by decide)
  | submitted hch u a i hu ha hx =>
    have hne : a ≠ 0xFE := by rcases ha with rfl | rfl <;> decide
    have hsent : c'.sent = u.actionPacket a i :: c.sent := by
      rw [hx, clientAuthSendActionV2_eq hne, hu]
      rfl
    have hc : keyChoices c c' = [⟨u.clientTurn, a, i⟩] := by
      rw [keyChoices_send ho hsent, choiceOf_action hne]
      rfl
    have hus : Honest (chosen ++ [⟨u.clientTurn, a, i⟩]) (u.setPhase .waitRemote) := by
      rw [hc] at hmono
      refine (h.mono hmono).same ?_ (.inr ⟨?_, ?_, ?_⟩) nofun
      all_goals rw [hu]; rfl
    rw [hc, hx]
    have hact : Honest (chosen ++ [⟨u.clientTurn, a, i⟩])
        ((u.setPhase .waitRemote).clientAuthSendActionV2 env a i) :=
      hus.act hne (List.mem_append_right _ (.head _)) nofun
    rw [clientAuthSendActionV2_eq hne] at hact ⊢
    exact hact

theorem AcceptTick.honest (h : Honest chosen c) (hk : c.AcceptTick now c') : Honest chosen c' := by
  cases hk with
  | quiet hx => exact hx ▸ h
  | asked _ hx => exact hx ▸ h.sends rfl rfl (.inr ⟨rfl, rfl, rfl⟩) id
  | accepted _ _ hx => exact hx ▸ h.sends rfl rfl (.inr ⟨rfl, rfl, rfl⟩) id

theorem ActionTick.honest (h : Honest chosen c) (hk : c.ActionTick env c') : Honest chosen c' := by
  cases hk with
  | quiet hx => exact hx ▸ h
  | again hc ht hx =>
    obtain ⟨hne, hmem⟩ := h.kept hc
    rw [ht] at hmem
    exact hx ▸ h.act hne hmem fun ho => hc (h.overlay ho)

theorem TimeoutTick.honest (h : Honest chosen c) (hk : c.TimeoutTick c') : Honest chosen c' := by
  cases hk with
  | quiet hx => exact hx ▸ h
  | forfeited _ _ _ hx => exact hx ▸ h.same rfl (.inr ⟨rfl, rfl, rfl⟩) nofun
  | shown _ _ _ hx => exact hx ▸ h.same rfl (.inr ⟨rfl, rfl, rfl⟩) nofun

/-- A repetition of the last applied UPDATE, while an action chosen for another turn is kept. -/
def Restamps (c : TextBattle) (p : Packet) : Prop :=
  p.seq = c.lastAppliedUpdateSeq ∧ c.lastAppliedUpdateSeq ≠ 0 ∧ c.clientActionType ≠ 0xFF ∧
    c.clientActionTurn ≠ c.clientTurn

theorem reAck_honest (h : Honest chosen c) (ho : c.phase ≠ .waitChallengeOverlay)
    (hx : c.clientActionType ≠ 0xFF → c.clientActionTurn = c.clientTurn) :
    Honest chosen (c.reAck env) := by
  unfold reAck
  split
  · rename_i hc
    obtain ⟨hne, hmem⟩ := h.kept hc
    rw [hx hc] at hmem
    exact h.act hne hmem ho
  · exact h.ack 0

theorem commitUpdate_honest (h : Honest chosen c) (seq : UInt8) (fin need : Bool) :
    Honest chosen (c.commitUpdate env seq fin need) := by
  unfold commitUpdate
  dsimp only
  split_ifs
  · refine Honest.ack ?_ 0
    exact h.same rfl (.inr ⟨rfl, rfl, rfl⟩) nofun
  · exact h.same rfl (.inl rfl) nofun
  · exact h.same rfl (.inl rfl) nofun

theorem UpdateStep.honest (h : Honest chosen c) (hu : c.UpdateStep env p c')
    (hx : c.phase ≠ .waitChallengeOverlay → ¬ c.Restamps p) : Honest chosen c' := by
  have hdrawn (turn : UInt8) (sc : Scene) : Honest chosen (c.redrawn turn sc) :=
    h.same rfl (.inr ⟨rfl, rfl, rfl⟩) id
  cases hu with
  | ignored _ hx => exact hx ▸ h
  | buffered _ _ _ hx => exact hx ▸ h.same rfl (.inr ⟨rfl, rfl, rfl⟩) id
  | repeated _ ho hd h₀ hs =>
    have hh : Honest chosen c.heard := h.same rfl (.inr ⟨rfl, rfl, rfl⟩) id
    refine hs ▸ reAck_honest hh ho fun hc => ?_
    by_contra hn
    exact hx ho ⟨hd, h₀, hc, hn⟩
  | cut turn _ _ _ _ sc _ hs => exact hs ▸ h.same rfl (.inr ⟨rfl, rfl, rfl⟩) id
  | rejected turn _ _ _ _ sc _ _ _ hs =>
    exact hs ▸ (hdrawn turn sc).sends rfl rfl (.inr ⟨rfl, rfl, rfl⟩) id
  | applied turn _ _ _ _ sc _ _ _ hs => exact hs ▸ commitUpdate_honest (hdrawn turn sc) ..

theorem FullStateStep.honest (h : Honest chosen c) (hu : c.FullStateStep env p c') :
    Honest chosen c' := by
  cases hu with
  | ignored hx => exact hx ▸ h
  | cut sc hx => exact hx ▸ h.same rfl (.inr ⟨rfl, rfl, rfl⟩) id
  | adopted _ _ _ result _ _ r _ hx =>
    rw [hx]
    refine h.same rfl (.inl rfl) fun ho => absurd ho ?_
    unfold commitFullState
    dsimp only
    split <;> exact nofun

/-- The overlay of a challenge keeps no action, so its UPDATE repeats none. -/
theorem OverlayStep.honest (h : Honest chosen c) (ho : c.phase = .waitChallengeOverlay)
    (hk : c.OverlayStep env c') : Honest chosen c' := by
  have hjoined : Honest chosen (c.joined env) := h.sends rfl rfl (.inr ⟨rfl, rfl, rfl⟩) nofun
  cases hk with
  | idle hx => exact hx ▸ h
  | repeated _ hx => exact hx ▸ h.sends rfl rfl (.inr ⟨rfl, rfl, rfl⟩) id
  | declined hx => exact hx ▸ h.sends rfl rfl (.inr ⟨rfl, rfl, rfl⟩) nofun
  | opened _ hx => exact hx ▸ hjoined
  | caught q _ hu =>
    have hd : Honest chosen (c.joined env).drained :=
      hjoined.same rfl (.inr ⟨rfl, rfl, rfl⟩) id
    exact hu.honest hd fun _ hx => hx.2.2.1 (h.overlay ho)

/-! ### The server plays what was sent -/

/-- A pending action of the client is one it has chosen for the turn the engine is in. -/
def Backed (chosen : List Choice) (s : TextBattle) : Prop :=
  s.pendingRemoteAction = true → s.engine.result = .ongoing →
    ⟨s.engine.turn.toUInt8, s.engine.pendAction .one, s.engine.pendIndex .one⟩ ∈ chosen

/-- The turns played are over, and none is played before the handshake is. -/
structure Tallied (played : List Played) (s : TextBattle) : Prop where
  waiting : s.awaitingAccept = true → played = []
  past : ∀ x ∈ played, x.turn.toNat < s.engine.turn.toNat
  once : played.Pairwise fun x y => x.turn.toNat < y.turn.toNat

/-- No turn passes, and no action of the client comes in. -/
structure Steady (t t' : TextBattle) : Prop where
  turn : t'.engine.turn = t.engine.turn
  waiting : t'.awaitingAccept = true → t.awaitingAccept = true
  pending : t'.pendingRemoteAction = true → t'.engine.result = .ongoing →
    t.pendingRemoteAction = true ∧ t.engine.result = .ongoing ∧
      t'.engine.pendAction .one = t.engine.pendAction .one ∧
      t'.engine.pendIndex .one = t.engine.pendIndex .one

namespace Steady

theorem refl (t : TextBattle) : t.Steady t := ⟨rfl, id, fun hp hr => ⟨hp, hr, rfl, rfl⟩⟩

theorem same (he : t'.engine = t.engine) (hw : t'.awaitingAccept = true → t.awaitingAccept = true)
    (hp : t'.pendingRemoteAction = t.pendingRemoteAction) : t.Steady t' := by
  refine ⟨by rw [he], hw, ?_⟩
  rw [he, hp]
  exact fun hp hr => ⟨hp, hr, rfl, rfl⟩

theorem trans (h : t.Steady u) (h' : u.Steady t') : t.Steady t' := by
  refine ⟨h'.turn.trans h.turn, fun hw => h.waiting (h'.waiting hw), fun hp hr => ?_⟩
  obtain ⟨hp, hr, ha', hi'⟩ := h'.pending hp hr
  obtain ⟨hp, hr, ha, hi⟩ := h.pending hp hr
  exact ⟨hp, hr, ha'.trans ha, hi'.trans hi⟩

theorem decided (ht : t'.engine.turn = t.engine.turn)
    (hw : t'.awaitingAccept = true → t.awaitingAccept = true) (hr : t'.engine.result ≠ .ongoing) :
    t.Steady t' :=
  ⟨ht, hw, fun _ hx => absurd hx hr⟩

theorem backed (hs : t.Steady t') (h : Backed chosen t) : Backed chosen t' := by
  intro hp hr
  obtain ⟨hp, hr, ha, hi⟩ := hs.pending hp hr
  rw [hs.turn, ha, hi]
  exact h hp hr

theorem tallied (hs : t.Steady t') (h : Tallied played t) : Tallied played t' :=
  ⟨fun hw => h.waiting (hs.waiting hw), fun x hx => by
    rw [hs.turn]
    exact h.past x hx, h.once⟩

end Steady

theorem stampFinished_steady : t.Steady (t.stampFinished now) := by
  unfold stampFinished
  split
  · exact .same rfl id rfl
  · exact .refl t

theorem exit_steady : t.Steady (exit { t with pendingKeyExit := false }) := .same rfl nofun rfl

theorem ServerResend.steady (h : t.ServerResend now t') : t.Steady t' := by
  cases h with
  | quiet h => exact h ▸ .refl t
  | cancelled _ h => exact h ▸ .same rfl nofun rfl
  | challenged _ _ h => exact h ▸ .same rfl id rfl
  | resent _ _ _ _ h => exact h ▸ .same rfl id rfl

theorem TimeoutTick.steady (h : t.TimeoutTick t') : t.Steady t' := by
  cases h with
  | quiet h => exact h ▸ .refl t
  | forfeited _ _ _ h => exact h ▸ .decided rfl id nofun
  | shown _ _ _ h => exact h ▸ .same rfl id rfl

theorem ServerKey.steady {k : UInt8} (h : t.ServerKey env k t') : t.Steady t' := by
  cases h with
  | left _ h => exact h ▸ .same rfl nofun rfl
  | held _ h => exact h ▸ .same rfl id rfl
  | idle h => exact h ▸ .refl t
  | shown _ h _ =>
    rw [h]
    exact .same rfl id rfl
  | escaped _ h => exact h ▸ .decided rfl id nofun
  | fled _ _ h => exact h ▸ .decided rfl id nofun
  | submitted _ u a i hu _ h =>
    rw [h, hu]
    refine ⟨rfl, id, fun hp hr => ⟨hp, hr, ?_, ?_⟩⟩
    · exact Function.update_of_ne (show Side.one ≠ Side.zero by decide) a t.engine.pendAction
    · exact Function.update_of_ne (show Side.one ≠ Side.zero by decide) i t.engine.pendIndex

/-- A new battle has no action of the client yet. -/
theorem beginBattle_backed (name : CStr) (party : List UInt8) :
    Backed chosen (t.beginBattle env fromId name party) := by
  intro hp
  unfold beginBattle at hp
  simp only [serverAuthSendUpdate, send, onScene, appendLog] at hp
  exact absurd hp Bool.false_ne_true

theorem AcceptStep.backed (h : Backed chosen t) (hk : t.AcceptStep env fromId p t') :
    Backed chosen t' := by
  cases hk with
  | ignored hx => exact hx ▸ h
  | declined _ hx =>
    have hs : t.Steady t' := hx ▸ .same rfl nofun rfl
    exact hs.backed h
  | begun _ _ name party _ _ hx => exact hx ▸ beginBattle_backed name party

theorem beginBattle_awaiting (name : CStr) (party : List UInt8) :
    (t.beginBattle env fromId name party).awaitingAccept = false := by
  unfold beginBattle
  simp only [serverAuthSendUpdate, send, onScene, appendLog]

theorem AcceptStep.tallied (h : Tallied played t) (hk : t.AcceptStep env fromId p t') :
    Tallied played t' := by
  cases hk with
  | ignored hx => exact hx ▸ h
  | declined _ hx =>
    have hs : t.Steady t' := hx ▸ .same rfl nofun rfl
    exact hs.tallied h
  | begun ha _ name party _ _ hx =>
    have hnil := h.waiting ha
    subst hnil
    refine ⟨fun _ => rfl, nofun, .nil⟩

/-- An action that comes in for the turn of the engine is one the client has sent. -/
theorem ActionStep.backed (h : Backed chosen t) (hp : ∀ x, choiceOf p = some x → x ∈ chosen)
    (ht : p.type = textBattleActionV2) (hk : t.ActionStep env fromId p t') : Backed chosen t' := by
  cases hk with
  | ignored hx => exact hx ▸ h
  | late ack hx => exact hx ▸ h
  | acted _ _ a i ack rest hpay hx =>
    rw [hx]
    unfold clientAction
    split_ifs with h₁ h₂
    · exact h
    · exact fun _ hr => absurd hr nofun
    · intro _ _
      refine hp _ ?_
      unfold choiceOf
      rw [if_pos ht, hpay]
      dsimp only
      rw [if_neg h₁]
      simp only [onScene, Scene.submitAction, Engine.submitAction, Function.update_self]
      rfl

theorem ActionStep.turn (hk : t.ActionStep env fromId p t') :
    t'.engine.turn = t.engine.turn ∧ t'.awaitingAccept = t.awaitingAccept := by
  cases hk with
  | ignored hx => exact hx ▸ ⟨rfl, rfl⟩
  | late ack hx => exact hx ▸ ⟨rfl, rfl⟩
  | acted _ _ a i ack rest _ hx =>
    unfold clientAction at hx
    split_ifs at hx <;> exact hx ▸ ⟨rfl, rfl⟩

theorem ActionStep.tallied (h : Tallied played t) (hk : t.ActionStep env fromId p t') :
    Tallied played t' := by
  obtain ⟨ht, hw⟩ := hk.turn
  exact ⟨fun hx => h.waiting (hw ▸ hx), fun x hx => ht ▸ h.past x hx, h.once⟩

theorem beginBattle_turn (name : CStr) (party : List UInt8) :
    (t.beginBattle env fromId name party).engine.turn = 0 := by
  unfold beginBattle
  simp only [serverAuthSendUpdate, send, onScene, Scene.appendLog_engine]
  exact Engine.turn_of_bare (Scene.handleFaints_bare ..)

theorem endTurn_engine : (t.endTurn env).engine = t.engine := by
  unfold endTurn
  dsimp only
  split_ifs <;> simp only [setPhase, serverAuthSendUpdate, send, sendHash, onScene,
    showOutcome_engine, Scene.trackActive_engine]

theorem endTurn_awaiting : (t.endTurn env).awaitingAccept = t.awaitingAccept := by
  unfold endTurn
  dsimp only
  split_ifs <;> rfl

/-- A turn that leaves the battle open has used up the client's action. -/
theorem endTurn_pending (h : t.engine.result = .ongoing) :
    (t.endTurn env).pendingRemoteAction = false := by
  unfold endTurn
  dsimp only [onScene]
  rw [if_neg (by rw [Scene.trackActive_engine]; exact not_not.mpr h)]
  split_ifs <;> rfl

theorem ready_ongoing {e : Engine} (h : e.ready = true) : e.result = .ongoing := by
  unfold Engine.ready at h
  exact (of_decide_eq_true h).1

theorem resolveTurn_backed (h : t.resolveTurn env = .ok t') : Backed chosen t' := by
  obtain ⟨s, _, h⟩ := bind_eq_ok.mp h
  cases h
  intro hp hr
  rw [endTurn_engine] at hr
  rw [endTurn_pending hr] at hp
  cases hp

theorem resolveTurn_turn (h : t.resolveTurn env = .ok t') :
    t'.awaitingAccept = t.awaitingAccept ∧ (t'.engine.turn = t.engine.turn ∨
      t.engine.result = .ongoing ∧ t'.engine.turn = t.engine.turn + 1) := by
  obtain ⟨s, hs, h⟩ := bind_eq_ok.mp h
  cases h
  obtain ⟨r, hr, hb⟩ := playOut_bare hs
  have hturn : ((t.withScene s).endTurn env).engine.turn = r.1.turn := by
    rw [endTurn_engine]
    exact Engine.turn_of_bare hb
  refine ⟨endTurn_awaiting, ?_⟩
  rw [hturn]
  exact (Engine.executeTurn_turn hr).imp_right fun hx => ⟨ready_ongoing hx.1, hx.2⟩

theorem turnPlayed_nil (h : t'.engine.turn = t.engine.turn ∨ t.awaitingAccept = true) :
    turnPlayed t t' = [] := if_pos h

theorem toUInt8_small {n : UInt16} (h : n.toNat < 256) : n.toUInt8.toNat = n.toNat := by
  rw [UInt16.toNat_toUInt8]
  omega

/-- What the turn of a tick plays, and that it was chosen. -/
theorem TurnTick.plays (hb : Backed chosen t) (ht : Tallied played t) (hk : t.TurnTick env t')
    (hw : t.engine.turn.toNat < 256) :
    Backed chosen t' ∧ Tallied (played ++ turnPlayed t t') t' ∧ ∀ x ∈ turnPlayed t t',
      ∃ y ∈ chosen, y.turn.toNat = x.turn.toNat ∧ y.action = x.action ∧ y.index = x.index := by
  cases hk with
  | quiet h =>
    rw [turnPlayed_nil (.inl (h ▸ rfl)), List.append_nil]
    exact ⟨h ▸ hb, h ▸ ht, nofun⟩
  | played _ hp h =>
    obtain ⟨ha, hturn⟩ := resolveTurn_turn h
    refine ⟨resolveTurn_backed h, ?_⟩
    rcases hturn with hturn | ⟨hr, hturn⟩
    · rw [turnPlayed_nil (.inl hturn), List.append_nil]
      exact ⟨⟨fun hx => ht.waiting (ha ▸ hx), fun x hx => hturn ▸ ht.past x hx, ht.once⟩, nofun⟩
    have hadd : (t.engine.turn + 1).toNat = (t.engine.turn.toNat + 1) % 65536 :=
      UInt16.toNat_add ..
    have hlater : t'.engine.turn.toNat = t.engine.turn.toNat + 1 := by
      rw [hturn, hadd]
      omega
    cases haw : t.awaitingAccept with
    | true =>
      have hnil := ht.waiting haw
      subst hnil
      rw [turnPlayed_nil (.inr haw)]
      exact ⟨⟨fun _ => rfl, nofun, .nil⟩, nofun⟩
    | false =>
      have hone : turnPlayed t t' =
          [⟨t.engine.turn, t.engine.pendAction .one, t.engine.pendIndex .one⟩] := by
        refine if_neg (not_or.mpr ⟨fun hx => ?_, by simp [haw]⟩)
        rw [hx] at hlater
        omega
      rw [hone]
      refine ⟨⟨fun hx => absurd (haw.symm.trans (ha ▸ hx)) Bool.false_ne_true, fun x hx => ?_, ?_⟩,
        fun x hx => ?_⟩
      · rcases List.mem_append.mp hx with hx | hx
        · have hlt := ht.past x hx
          omega
        · rw [List.mem_singleton.mp hx]
          exact Nat.lt_of_lt_of_eq (Nat.lt_succ_self _) hlater.symm
      · refine List.pairwise_append.mpr ⟨ht.once, List.pairwise_singleton .., fun x hx y hy => ?_⟩
        rw [List.mem_singleton.mp hy]
        exact ht.past x hx
      · rw [List.mem_singleton.mp hx]
        exact ⟨_, hb hp hr, toUInt8_small hw, rfl, rfl⟩

end TextBattle

/-! ### Runs -/

/-- A net with the actions that were chosen and the turns that were played so far. -/
structure Ledger where
  net : Net
  chosen : List Choice
  played : List Played

namespace Ledger

open TextBattle Net

variable {w : Nodes} {sid : UInt16} {r r' r₀ : Ledger} {i : Env × Event}

def choices (n n' : Net) : Event → List Choice
  | .clientKey _ => keyChoices n.client n'.client
  | _ => []

def plays (n n' : Net) : Event → List Played
  | .serverTick _ => turnPlayed n.server n'.server
  | _ => []

def step (w : Nodes) (r : Ledger) (i : Env × Event) : Except Fault Ledger :=
  (fun n => ⟨n, r.chosen ++ choices r.net n i.2, r.played ++ plays r.net n i.2⟩) <$> r.net.step w i

inductive Opens : Ledger → Prop
  | mk (n : Net) (h : n.Opens) : Opens ⟨n, [], []⟩

/-- There are fewer than 256 turns. -/
def FewTurns (w : Nodes) (r : Ledger) (i : Env × Event) : Prop :=
  ∀ r', r.step w i = .ok r' → r'.net.server.engine.turn.toNat < 256

/-- No repetition of the last applied UPDATE reaches a client that keeps an action it chose for
another turn. -/
def Fair (w : Nodes) (r : Ledger) (i : Env × Event) : Prop :=
  r.FewTurns w i ∧ ∀ k p, i.2 = .toClient k → r.net.server.nth k = some p →
    p.type = textBattleUpdate → r.net.client.mode ≠ .off →
    r.net.client.phase ≠ .waitChallengeOverlay → ¬ r.net.client.Restamps p

/-- What carries the law through a run. -/
structure Kept (r : Ledger) : Prop where
  client : Honest r.chosen r.net.client
  backed : Backed r.chosen r.net.server
  tallied : Tallied r.played r.net.server
  small : r.net.server.engine.turn.toNat < 256
  law : ∀ x ∈ r.played, ∃ y ∈ r.chosen, y.turn.toNat = x.turn.toNat ∧ y.action = x.action ∧
    y.index = x.index

theorem Opens.wired (h : Opens r) : r.net.Wired r.net.server.session := by
  obtain ⟨n, h⟩ := h
  exact h.wired

theorem Opens.kept (h : Opens r) : r.Kept := by
  obtain ⟨n, h⟩ := h
  obtain ⟨s, c, env, target, party, name⟩ := h
  refine ⟨⟨nofun, fun hx => absurd rfl hx, nofun⟩, nofun, ⟨fun _ => rfl, nofun, .nil⟩, ?_, nofun⟩
  exact Nat.lt_of_lt_of_eq (show 0 < 256 by omega) rfl

/-- Before the turn of a tick, nothing that a turn depends on has changed. -/
theorem turnPlayed_tick {t u t' : TextBattle} {env : Env} {now : UInt32}
    (hu : (t.stampFinished now).ServerResend now u) (hk : (u.tickTimeout now).TurnTick env t') :
    turnPlayed t t' = turnPlayed (u.tickTimeout now) t' := by
  have hstamp : (t.stampFinished now).engine = t.engine ∧
      (t.stampFinished now).awaitingAccept = t.awaitingAccept := by
    unfold stampFinished
    split <;> exact ⟨rfl, rfl⟩
  have hsteady := (stampFinished_steady.trans hu.steady).trans (tickTimeout_cases now).steady
  cases hk with
  | quiet h =>
    rw [h, turnPlayed_nil (.inl hsteady.turn), turnPlayed_nil (.inl rfl)]
  | played hw _ _ =>
    have htime : u.tickTimeout now = u := by
      cases tickTimeout_cases (t := u) now with
      | quiet h => exact h
      | forfeited _ _ _ h =>
        rw [h] at hw
        cases hw
      | shown _ _ _ h =>
        rw [h] at hw
        cases hw
    rw [htime] at hw ⊢
    have hsame : u.engine = t.engine ∧ u.awaitingAccept = t.awaitingAccept := by
      cases hu with
      | quiet h => exact h ▸ hstamp
      | cancelled _ h =>
        rw [h] at hw
        cases hw
      | challenged _ _ h => exact h ▸ hstamp
      | resent _ _ _ _ h => exact h ▸ hstamp
    unfold turnPlayed
    rw [hsame.1, hsame.2]

/-- What a tick of the server plays. -/
theorem ServerTick.plays {t t' : TextBattle} {env : Env} {now : UInt32} {chosen : List Choice}
    {played : List Played} (hb : Backed chosen t) (ht : Tallied played t)
    (hw : t.engine.turn.toNat < 256) (hk : ServerTick t env now t') :
    Backed chosen t' ∧ Tallied (played ++ turnPlayed t t') t' ∧ ∀ x ∈ turnPlayed t t',
      ∃ y ∈ chosen, y.turn.toNat = x.turn.toNat ∧ y.action = x.action ∧ y.index = x.index := by
  obtain ⟨u, hu, hk⟩ := hk
  have hsteady := stampFinished_steady.trans hu.steady
  rcases hk with rfl | hk
  · have hall := hsteady.trans exit_steady
    rw [turnPlayed_nil (.inl hall.turn), List.append_nil]
    exact ⟨hall.backed hb, hall.tallied ht, nofun⟩
  · have hall := hsteady.trans (tickTimeout_cases now).steady
    rw [turnPlayed_tick hu hk]
    exact hk.plays (hall.backed hb) (hall.tallied ht) (hall.turn ▸ hw)

theorem ClientTick.honest {c c' : TextBattle} {env : Env} {now : UInt32} {chosen : List Choice}
    (h : Honest chosen c) (hk : ClientTick c env now c') : Honest chosen c' := by
  obtain ⟨u, v, hu, hv, ht⟩ := hk
  exact ht.honest (hv.honest (hu.honest h))

/-- A packet of the client on the server brings in what the client has sent. -/
theorem toServer_kept {n : Net} {env : Env} {k : Nat} {p : Packet} {t' : TextBattle}
    {chosen : List Choice} {played : List Played} (hc : Honest chosen n.client)
    (hb : Backed chosen n.server) (ht : Tallied played n.server) (hk : n.client.nth k = some p)
    (hx : n.server.ServerPacket env w.client p t') : Backed chosen t' ∧ Tallied played t' := by
  cases hx with
  | idle hx => exact hx ▸ ⟨hb, ht⟩
  | accept _ hx => exact ⟨hx.backed hb, hx.tallied ht⟩
  | action hty hx => exact ⟨hx.backed hb (hc.sent p (mem_of_nth hk)) hty, hx.tallied ht⟩
  | asked _ _ _ _ _ hx =>
    have hs : n.server.Steady t' := hx ▸ .same rfl id rfl
    exact ⟨hs.backed hb, hs.tallied ht⟩

theorem toClient_honest {n : Net} {env : Env} {p : Packet} {c' : TextBattle}
    {chosen : List Choice} (hc : Honest chosen n.client)
    (hf : p.type = textBattleUpdate → n.client.mode ≠ .off →
      n.client.phase ≠ .waitChallengeOverlay → ¬ n.client.Restamps p)
    (hx : n.client.ClientPacket env w.server p c') : Honest chosen c' := by
  cases hx with
  | idle hx => exact hx ▸ hc
  | challenged _ name party hx => exact hx ▸ ⟨hc.sent, fun hx => absurd rfl hx, fun _ => rfl⟩
  | update hm ht hu => exact hu.honest hc (hf ht hm)
  | fullState _ _ hu => exact hu.honest hc
  | forfeited _ _ hx => exact hx ▸ hc.same rfl (.inr ⟨rfl, rfl, rfl⟩) nofun

theorem ServerCall.kept {n' : Net} {env : Env} {e : Event} (h : r.Kept)
    (hx : ServerCall w r.net env e n') :
    Backed r.chosen n'.server ∧ Tallied (r.played ++ plays r.net n' e) n'.server ∧
      ∀ x ∈ plays r.net n' e, ∃ y ∈ r.chosen, y.turn.toNat = x.turn.toNat ∧ y.action = x.action ∧
        y.index = x.index := by
  cases hx with
  | packet k p hk t' hx =>
    obtain ⟨hb, ht⟩ := toServer_kept h.client h.backed h.tallied hk hx
    exact ⟨hb, (List.append_nil r.played).symm ▸ ht, nofun⟩
  | key c t' _ hx =>
    exact ⟨hx.steady.backed h.backed,
      (List.append_nil r.played).symm ▸ hx.steady.tallied h.tallied, nofun⟩
  | tick now t' _ hx => exact ServerTick.plays h.backed h.tallied h.small hx

theorem ClientCall.kept {n' : Net} {env : Env} {e : Event} (h : r.Kept)
    (hf : ∀ k p, e = .toClient k → r.net.server.nth k = some p → p.type = textBattleUpdate →
      r.net.client.mode ≠ .off → r.net.client.phase ≠ .waitChallengeOverlay →
      ¬ r.net.client.Restamps p)
    (hx : ClientCall w r.net env e n') : Honest (r.chosen ++ choices r.net n' e) n'.client := by
  have hc := h.client
  cases hx with
  | packet k p hk c' hx =>
    exact (List.append_nil r.chosen).symm ▸ toClient_honest hc (hf k p rfl hk) hx
  | overlay c c' _ ho hx =>
    exact (hx.honest hc ho).mono fun _ hx => List.mem_append_left _ hx
  | key c c' _ ho hx => exact hx.honest hc ho
  | tick now c' _ hx => exact (List.append_nil r.chosen).symm ▸ ClientTick.honest hc hx

theorem kept_step (hn : r.net.Wired sid) (h : r.Kept) (hf : r.Fair w i) (hs : r.step w i = .ok r') :
    r'.Kept := by
  obtain ⟨env, e⟩ := i
  have hsmall := hf.1 r' hs
  obtain ⟨n', hm, rfl⟩ := map_eq_ok.mp hs
  have hlaw {l : List Choice} {x : Played} (hx : ∃ y ∈ r.chosen, y.turn.toNat = x.turn.toNat ∧
      y.action = x.action ∧ y.index = x.index) : ∃ y ∈ r.chosen ++ l, y.turn.toNat = x.turn.toNat ∧
        y.action = x.action ∧ y.index = x.index := by
    obtain ⟨y, hy, hx⟩ := hx
    exact ⟨y, List.mem_append_left l hy, hx⟩
  cases step_moves hn hm with
  | idle hx =>
    subst hx
    have hchoices : choices r.net r.net e = [] := by
      unfold choices
      split
      · exact keyChoices_none rfl
      · rfl
    have hplays : plays r.net r.net e = [] := by
      unfold plays
      split
      · exact turnPlayed_nil (.inl rfl)
      · rfl
    rw [hchoices, hplays, List.append_nil, List.append_nil]
    exact ⟨h.client, h.backed, h.tallied, h.small, h.law⟩
  | server hx =>
    obtain ⟨hb, ht, hnew⟩ := ServerCall.kept h hx
    have hsame : n'.client = r.net.client :=
      (hx.preserves (P := fun _ => True) (fun _ _ _ _ _ _ => trivial) hn.server trivial).2.2
    refine ⟨?_, fun hp hr => List.mem_append_left _ (hb hp hr), ht, hsmall, fun x hx => ?_⟩
    · exact hsame.symm ▸ h.client.mono fun _ hx => List.mem_append_left _ hx
    · exact hlaw ((List.mem_append.mp hx).elim (h.law x) (hnew x))
  | client hx =>
    have hsame := (hx.playing hn).2
    have hplays : plays r.net n' e = [] := by cases hx <;> rfl
    refine ⟨ClientCall.kept h hf.2 hx, ?_, ?_, hsmall, fun x hx => ?_⟩
    · exact hsame.symm ▸ fun hp hr => List.mem_append_left _ (h.backed hp hr)
    · rw [hplays, List.append_nil]
      exact hsame.symm ▸ h.tallied
    · rw [hplays, List.append_nil] at hx
      exact hlaw (h.law x hx)

theorem kept_run (h₀ : Opens r₀) (hr : Reach (step w) (Fair w) r₀ r) :
    r.net.Wired r₀.net.server.session ∧ r.Kept := by
  refine hr.invariant (P := fun r => r.net.Wired r₀.net.server.session ∧ r.Kept) ?_ ⟨?_, h₀.kept⟩
  · rintro s i t ⟨hn, hk⟩ hf hs
    refine ⟨?_, kept_step hn hk hf hs⟩
    obtain ⟨n', hm, rfl⟩ := map_eq_ok.mp hs
    exact wired_step hn hm
  · exact h₀.wired

/-- The server plays each turn once, with an action that the client's user chose while the client was
in that turn, as long as no repeated UPDATE stamps an older one anew. -/
theorem plays_what_was_chosen (h₀ : Opens r₀) (hr : Reach (step w) (Fair w) r₀ r) :
    (∀ x ∈ r.played, ∃ y ∈ r.chosen, y.turn.toNat = x.turn.toNat ∧ y.action = x.action ∧
      y.index = x.index) ∧ r.played.Pairwise fun x y => x.turn.toNat < y.turn.toNat :=
  ⟨(kept_run h₀ hr).2.law, (kept_run h₀ hr).2.tallied.once⟩

/-- A call of the server counts one turn at most. -/
theorem turn_step {n n' : Net} (hn : n.Wired sid) (hs : n.step w i = .ok n') :
    n'.server.engine.turn.toNat ≤ n.server.engine.turn.toNat + 1 := by
  obtain ⟨env, e⟩ := i
  have hsame {t : TextBattle} (ht : t.engine.turn = n.server.engine.turn) :
      t.engine.turn.toNat ≤ n.server.engine.turn.toNat + 1 := by
    rw [ht]
    omega
  cases step_moves hn hs with
  | idle hx => exact hsame (hx ▸ rfl)
  | server hx =>
    cases hx with
    | packet k p _ t' hx =>
      cases hx with
      | idle hx => exact hsame (hx ▸ rfl)
      | accept _ hx =>
        cases hx with
        | ignored hx => exact hsame (hx ▸ rfl)
        | declined _ hx => exact hsame (hx ▸ rfl)
        | begun _ _ name party _ _ hx =>
          have hzero : t'.engine.turn = 0 := by
            rw [hx]
            exact beginBattle_turn name party
          exact hzero ▸ Nat.zero_le _
      | action _ hx => exact hsame hx.turn.1
      | asked _ _ _ _ _ hx => exact hsame (hx ▸ rfl)
    | key c t' _ hx => exact hsame hx.steady.turn
    | tick now t' _ hx =>
      obtain ⟨u, hu, hx⟩ := hx
      have hsteady := stampFinished_steady.trans hu.steady
      rcases hx with rfl | hx
      · exact hsame (hsteady.trans exit_steady).turn
      have hturn := (hsteady.trans (tickTimeout_cases now).steady).turn
      cases hx with
      | quiet hx => exact hsame (hx ▸ hturn)
      | played _ _ hx =>
        rcases (resolveTurn_turn hx).2 with hx | ⟨_, hx⟩
        · exact hsame (hx.trans hturn)
        · have hadd : (n.server.engine.turn + 1).toNat = (n.server.engine.turn.toNat + 1) % 65536 :=
            UInt16.toNat_add ..
          have hnext := congrArg UInt16.toNat (hx.trans (congrArg (· + 1) hturn))
          exact (hnext.trans hadd).le.trans (Nat.mod_le ..)
  | client hx => exact hsame (congrArg (fun t => t.engine.turn) (hx.playing hn).2)

/-- A run of fewer than 256 calls plays fewer than 256 turns. -/
theorem fewTurns_along {l : List (Env × Event)} (hn : r.net.Wired sid)
    (h : r.net.server.engine.turn.toNat + l.length < 256) : Along (step w) (FewTurns w) r l := by
  induction l generalizing r with
  | nil => trivial
  | cons i l ih =>
    have hlen : r.net.server.engine.turn.toNat + l.length + 1 < 256 := h
    have hnext (r' : Ledger) (hs : r.step w i = .ok r') : r'.net.Wired sid ∧
        r'.net.server.engine.turn.toNat ≤ r.net.server.engine.turn.toNat + 1 := by
      obtain ⟨n', hm, rfl⟩ := map_eq_ok.mp hs
      exact ⟨wired_step hn hm, turn_step hn hm⟩
    refine ⟨fun r' hs => ?_, fun r' hs => ih (hnext r' hs).1 ?_⟩
    · have hle := (hnext r' hs).2
      omega
    · have hle := (hnext r' hs).2
      omega

/-! Two mons of the server against one of node 7, which faints the first and grows a level. -/

def squad (count species move : UInt8) : Gen1Party :=
  { count := count, species := fun _ => species, nicknames := fun _ _ => 0x50
    mons := fun _ => { Gen1Pokemon.zero with
      species := species, level := 2, moves := fun _ => move, pp := fun _ => 20 } }

def kickoff : Ledger :=
  ⟨⟨fresh.idle.startServerAuthAsInitiator clock 7 (squad 2 0xB0 45) [],
    (fresh.setMyTbParty (squad 1 0xB1 56) []).idle⟩, [], []⟩

theorem kickoff_opens : Opens kickoff := .mk _ (.mk ..)

/-- One turn. -/
def oneTurn : List (Env × Event) :=
  [(clock, .toClient 0), (clock, .clientKey 121), (clock, .toServer 0), (clock, .toClient 1),
    (clock, .clientKey 49), (clock, .serverKey 49), (clock, .toServer 1), (clock, .serverTick 0)]

/-- Node 7 does not accept the UPDATE of that turn, and then the first one comes once more. -/
def secondTurn : List (Env × Event) :=
  oneTurn ++ [(clock, .toClient 2), (clock, .toClient 1), (clock, .serverKey 49),
    (clock, .toServer 3), (clock, .serverTick 0)]

/-- The client keeps no action, or it is not handed a packet. -/
def unkept (r : Ledger) (i : Env × Event) : Bool :=
  match i.2 with
  | .toClient _ => r.net.client.clientActionType = 0xFF
  | _ => true

theorem fair_of_unkept (hf : r.FewTurns w i) (h : unkept r i = true) : r.Fair w i := by
  refine ⟨hf, fun k p hk _ _ _ _ hx => hx.2.2.1 ?_⟩
  unfold unkept at h
  rw [hk] at h
  exact of_decide_eq_true h

theorem oneTurn_fair : Along (step nodes) (Fair nodes) kickoff oneTurn :=
  .mono₂ (fun _ _ => fair_of_unkept) (fewTurns_along kickoff_opens.wired (by decide))
    (along_of_checks (by decide +kernel))

theorem plays_what_was_chosen_oneTurn : ∃ r, play (step nodes) kickoff oneTurn = .ok r ∧
    r.played = [⟨0, 0, 0⟩] ∧ (∀ x ∈ r.played, ∃ y ∈ r.chosen, y.turn.toNat = x.turn.toNat ∧
      y.action = x.action ∧ y.index = x.index) ∧
    r.played.Pairwise fun x y => x.turn.toNat < y.turn.toNat := by
  obtain ⟨r, hr, hx⟩ := exists_of_map (x := play (step nodes) kickoff oneTurn)
    (f := fun r => r.played) (b := [⟨0, 0, 0⟩]) (by decide +kernel)
  exact ⟨r, hr, hx, plays_what_was_chosen kickoff_opens (.of_play oneTurn_fair hr)⟩

/-- The action of the first turn is played again in the second. -/
theorem old_action_played_again : Opens kickoff ∧ ¬ ∀ r, Reach (step nodes) (FewTurns nodes) kickoff r →
    ∀ x ∈ r.played, ∃ y ∈ r.chosen, y.turn.toNat = x.turn.toNat ∧ y.action = x.action ∧
      y.index = x.index := by
  refine ⟨kickoff_opens, fun h => ?_⟩
  obtain ⟨r, hr, hx⟩ := exists_of_map (x := play (step nodes) kickoff secondTurn)
    (f := fun r => (r.chosen, r.played)) (b := ([⟨0, 0, 0⟩], [⟨0, 0, 0⟩, ⟨1, 0, 0⟩]))
    (by decide +kernel)
  simp only [Prod.mk.injEq] at hx
  obtain ⟨hc, hp⟩ := hx
  have hrun := fewTurns_along (w := nodes) (l := secondTurn) kickoff_opens.wired (by decide)
  obtain ⟨y, hy, ht, _⟩ := h r (.of_play hrun hr) ⟨1, 0, 0⟩ (hp ▸ .tail _ (.head _))
  rw [hc, List.mem_singleton] at hy
  subst hy
  exact absurd ht (by decide)

end Ledger
end MonsterMesh

import MonsterMesh.Battle.Device

/-! Who a device is bound to: what packets, keys and ticks leave of the mode, the role, the session
and the remote id. -/
namespace MonsterMesh

open Fallible

/-- The identity of a battle on one device. -/
structure Link where
  mode : Mode
  role : Role
  session : UInt16
  remoteId : UInt32
deriving DecidableEq

namespace TextBattle

variable {t t' : TextBattle} {env : Env} {fromId : UInt32} {p : Packet} {c : UInt8}

def link (t : TextBattle) : Link := ⟨t.mode, t.role, t.session, t.remoteId⟩

@[simp] theorem send_link : (t.send p).link = t.link := rfl

@[simp] theorem setPhase_link (ph : Phase) : (t.setPhase ph).link = t.link := rfl

@[simp] theorem onScene_link {f : Scene → Scene} : (t.onScene f).link = t.link := rfl

@[simp] theorem appendLog_link (line : String) : (t.appendLog line).link = t.link := rfl

@[simp] theorem withScene_link (s : Scene) : (t.withScene s).link = t.link := rfl

@[simp] theorem serverAuthSendUpdate_link : (t.serverAuthSendUpdate env).link = t.link := rfl

@[simp] theorem serverAuthSendChallenge_link : (t.serverAuthSendChallenge env).link = t.link := rfl

@[simp] theorem serverAuthSendFullState_link : t.serverAuthSendFullState.link = t.link := rfl

@[simp] theorem clientAuthSendStateRequest_link : t.clientAuthSendStateRequest.link = t.link := rfl

@[simp] theorem clientAuthSendActionV2_link (a i : UInt8) :
    (t.clientAuthSendActionV2 env a i).link = t.link := by
  unfold clientAuthSendActionV2
  dsimp only
  split <;> rfl

@[simp] theorem sendAction_link (a i : UInt8) : (t.sendAction env a i).link = t.link := rfl

/-! ### The client -/

@[simp] theorem commitUpdate_link (seq : UInt8) (fin need : Bool) :
    (t.commitUpdate env seq fin need).link = t.link := by
  unfold commitUpdate
  dsimp only
  split_ifs
  · exact clientAuthSendActionV2_link ..
  all_goals rfl

@[simp] theorem checkUpdate_link (seq : UInt8) (hash : List UInt8) (fin need : Bool) :
    (t.checkUpdate env seq hash fin need).link = t.link := by
  unfold checkUpdate
  split
  · rfl
  · exact commitUpdate_link ..

@[simp] theorem applyUpdate_link (seq turn a b h₀ h₁ h₂ : UInt8) (body : List UInt8) :
    (t.applyUpdate env seq turn a b h₀ h₁ h₂ body).link = t.link := by
  unfold applyUpdate
  dsimp only
  split
  · rfl
  · rw [checkUpdate_link]
    rfl

@[simp] theorem reAck_link : (t.reAck env).link = t.link := by
  unfold reAck
  split <;> exact clientAuthSendActionV2_link ..

@[simp] theorem clientAuthOnUpdatePkt_link : (t.clientAuthOnUpdatePkt env p).link = t.link := by
  unfold clientAuthOnUpdatePkt
  dsimp only
  split
  · split_ifs
    · rfl
    · rfl
    · exact reAck_link
    · exact applyUpdate_link ..
  · rfl

@[simp] theorem clientAuthOnFullStatePkt_link :
    (t.clientAuthOnFullStatePkt env p).link = t.link := by
  unfold clientAuthOnFullStatePkt
  split
  · split_ifs
    · rfl
    · split <;> rfl
  · rfl

@[simp] theorem applyBuffered_link : (t.applyBuffered env).link = t.link := by
  unfold applyBuffered
  split
  · exact clientAuthOnUpdatePkt_link
  · rfl

@[simp] theorem clientAuthSendAccept_link (acc : Bool) :
    (t.clientAuthSendAccept env acc).link = t.link := by
  unfold clientAuthSendAccept
  dsimp only
  split_ifs
  · rfl
  · rfl
  · exact applyBuffered_link

theorem retransmitAccept_link (now : UInt32) : (t.retransmitAccept env now).link = t.link := by
  unfold retransmitAccept
  split_ifs
  · rfl
  · rfl
  · rfl
  · exact clientAuthSendAccept_link _
  · rfl

@[simp] theorem clientAuthRetransmit_link (now : UInt32) :
    (t.clientAuthRetransmit env now).link = t.link := by
  unfold clientAuthRetransmit
  dsimp only
  split
  · rw [clientAuthSendActionV2_link, retransmitAccept_link]
  · exact retransmitAccept_link now

/-! ### The server -/

theorem beginBattle_link (name : CStr) (party : List UInt8) :
    (t.beginBattle env fromId name party).link = { t.link with remoteId := fromId } := by
  unfold beginBattle
  dsimp only
  rw [serverAuthSendUpdate_link, onScene_link, appendLog_link, onScene_link]
  rfl

/-- Accepting a challenge binds the server to the sender of the ACCEPT. -/
theorem accept_link : (t.serverAuthOnAcceptPkt env fromId p).link = t.link ∨
    (t.serverAuthOnAcceptPkt env fromId p).link = { t.link with remoteId := fromId } := by
  unfold serverAuthOnAcceptPkt
  split_ifs
  · exact .inl rfl
  · split
    · exact .inl rfl
    · split
      · exact .inl rfl
      · exact .inr (beginBattle_link _ _)

@[simp] theorem clientAction_link (a i : UInt8) : (t.clientAction env a i).link = t.link := by
  unfold clientAction
  split_ifs <;> rfl

@[simp] theorem serverAuthOnActionV2Pkt_link :
    (t.serverAuthOnActionV2Pkt env fromId p).link = t.link := by
  unfold serverAuthOnActionV2Pkt
  dsimp only
  split
  · split_ifs
    · rfl
    · rfl
    · exact clientAction_link _ _
  · rfl

@[simp] theorem serverAuthOnStateRequestPkt_link :
    (t.serverAuthOnStateRequestPkt fromId p).link = t.link := by
  unfold serverAuthOnStateRequestPkt
  split <;> rfl

@[simp] theorem serverAuthRetransmit_link (now : UInt32) :
    (t.serverAuthRetransmit env now).link = t.link := by
  unfold serverAuthRetransmit
  split
  · split_ifs <;> rfl
  · split
    · split <;> rfl
    · rfl

/-! ### Packets -/

theorem onAction_link : (t.onAction env p).link = t.link := by
  unfold onAction
  dsimp only
  split
  · split_ifs
    · split <;> rfl
    · rfl
    · rfl
  · rfl

theorem onHash_link : (t.onHash p).link = t.link := by
  unfold onHash
  split_ifs <;> rfl

theorem notePeer_link : t.notePeer.link = t.link := by
  unfold notePeer
  split_ifs <;> rfl

theorem legacyPacket_link : (t.legacyPacket env p).2.link = t.link := by
  unfold legacyPacket
  split_ifs
  · rfl
  · exact onAction_link
  · rfl
  · exact onHash_link
  · rfl

/-- During a battle only an ACCEPT rebinds the device, to its sender. -/
theorem dispatch_link (env : Env) (fromId : UInt32) (hm : t.mode ≠ .off) :
    (t.dispatch env fromId p).2.link = t.link ∨
      (t.dispatch env fromId p).2.link = { t.link with remoteId := fromId } := by
  unfold dispatch
  split_ifs with h₁ h₂ h₃ h₄ h₅ h₆ h₇ h₈
  · exact .inl rfl
  · exact accept_link
  · exact .inl serverAuthOnActionV2Pkt_link
  · exact .inl serverAuthOnStateRequestPkt_link
  · exact .inl clientAuthOnUpdatePkt_link
  · exact .inl clientAuthOnFullStatePkt_link
  · exact .inl rfl
  · exact absurd (Or.inl hm) h₈
  · exact .inl rfl
  · rw [legacyPacket_link, notePeer_link]
    exact .inl rfl

/-- Without a battle a packet can only open the overlay of a challenge. -/
theorem dispatch_off (hm : t.mode = .off) : ((t.dispatch env fromId p).2.mode = .off ∧
    (t.dispatch env fromId p).2.phase = t.phase) ∨
    ∃ name party, (t.dispatch env fromId p).2 = t.beginOverlay env fromId p.session name party := by
  have hn (x : Prop) : ¬ (t.mode ≠ .off ∧ x) := fun h => h.1 hm
  unfold dispatch
  simp only [hn, if_false]
  split_ifs with h₁ h₂ h₃ h₄ h₅
  · exact absurd hm h₂
  · unfold clientAuthOnChallengePkt
    split
    · exact .inl ⟨hm, rfl⟩
    · rw [if_neg fun h => h.1 hm]
      exact .inr ⟨_, _, rfl⟩
  · exact .inl ⟨hm, rfl⟩
  · exact .inl ⟨hm, rfl⟩
  · exact .inl ⟨hm, rfl⟩
  · exact absurd (Or.inl hm) h₅

theorem handlePacket_off (env : Env) (fromId : UInt32) {buf : List UInt8} (hm : t.mode = .off) :
    ((t.handlePacket env fromId buf).2.mode = .off ∧
      (t.handlePacket env fromId buf).2.phase = t.phase) ∨ ∃ session name party,
      (t.handlePacket env fromId buf).2 = t.beginOverlay env fromId session name party := by
  unfold handlePacket
  split
  · rename_i p hp
    exact (dispatch_off hm).imp_right fun ⟨name, party, h⟩ => ⟨p.session, name, party, h⟩
  · exact .inl ⟨hm, rfl⟩

/-! ### Ticks -/

/-- The battle was left. -/
def Exited (t : TextBattle) : Prop := t.mode = .off ∧ t.phase = .idle

theorem stampFinished_link (now : UInt32) : (t.stampFinished now).link = t.link := by
  unfold stampFinished
  split <;> rfl

theorem releaseExit_link (now : UInt32) : (t.releaseExit now).2.link = t.link ∨
    (t.releaseExit now).1 = true ∧ (t.releaseExit now).2.Exited := by
  unfold releaseExit
  split
  · exact .inr ⟨rfl, rfl, rfl⟩
  · exact .inl rfl

theorem tickRole_link (env : Env) (now : UInt32) : (t.tickRole env now).2.link = t.link ∨
    (t.tickRole env now).1 = true ∧ (t.tickRole env now).2.Exited := by
  unfold tickRole
  split
  · refine (releaseExit_link now).imp_left fun h => h.trans ?_
    rw [serverAuthRetransmit_link, stampFinished_link]
  · exact .inl (clientAuthRetransmit_link now)
  · dsimp only
    split <;> exact .inl rfl

theorem tickPeer_link (now : UInt32) : (t.tickPeer now).link = t.link := by
  unfold tickPeer
  split <;> rfl

theorem tickTimeout_link (now : UInt32) : (t.tickTimeout now).link = t.link := by
  unfold tickTimeout
  dsimp only
  split_ifs <;> rfl

theorem endTurn_link : (t.endTurn env).link = t.link := by
  unfold endTurn
  dsimp only
  split_ifs <;> rfl

theorem resolveTurn_link (h : t.resolveTurn env = .ok t') : t'.link = t.link := by
  obtain ⟨s, _, h⟩ := bind_eq_ok.mp h
  cases h
  rw [endTurn_link, withScene_link]

theorem tick_link {now : UInt32} (h : t.tick env now = .ok t') : t'.link = t.link ∨ t'.Exited := by
  unfold tick at h
  split at h
  · cases h
    exact .inl rfl
  · unfold tickNetworked at h
    dsimp only at h
    have hrole := tickRole_link (t := t) env now
    have hkept : ((t.tickRole env now).2.tickPeer now |>.tickTimeout now).link =
        (t.tickRole env now).2.link := by rw [tickTimeout_link, tickPeer_link]
    split_ifs at h with hx
    · cases h
      exact hrole.imp_right And.right
    · rw [resolveTurn_link h, hkept]
      exact .inl (hrole.resolve_right fun hoff => hx hoff.1)
    · cases h
      rw [hkept]
      exact .inl (hrole.resolve_right fun hoff => hx hoff.1)
  · unfold tickLocal at h
    dsimp only at h
    split at h
    · exact .inl ((resolveTurn_link h).trans onScene_link)
    · cases h
      exact .inl rfl

/-! ### Keys -/

theorem keyFinished_link : t.keyFinished.link = t.link ∨ t.keyFinished.Exited := by
  unfold keyFinished
  split
  · exact .inl rfl
  · exact .inr ⟨rfl, rfl⟩

theorem keyOverlay_link : (t.keyOverlay env c).link = t.link := by
  unfold keyOverlay
  split_ifs
  · exact clientAuthSendAccept_link _
  · exact clientAuthSendAccept_link _
  · rfl

theorem keyEscape_link : (t.keyEscape env).link = t.link := by
  unfold keyEscape
  split
  · rw [setPhase_link, clientAuthSendActionV2_link]
  · rfl
  · split <;> rfl

theorem keyFlee_link : (t.keyFlee env c).link = t.link := by
  unfold keyFlee tryEscape
  dsimp only
  split_ifs
  · rfl
  · rw [setPhase_link, clientAuthSendActionV2_link]
  all_goals rfl

theorem submitOwn_link (a i : UInt8) : (t.submitOwn env a i).link = t.link := by
  unfold submitOwn
  dsimp only
  split_ifs
  · rw [setPhase_link, clientAuthSendActionV2_link]
  · rfl
  · rfl

theorem keySwitch_link (h : t.keySwitch env c = .ok t') : t'.link = t.link := by
  unfold keySwitch at h
  dsimp only at h
  split_ifs at h
  · obtain ⟨i, _, rfl⟩ := map_eq_ok.mp h
    rfl
  · obtain ⟨i, _, rfl⟩ := map_eq_ok.mp h
    rfl
  · obtain ⟨i, _, rfl⟩ := map_eq_ok.mp h
    rfl
  · obtain ⟨i, _, rfl⟩ := map_eq_ok.mp h
    rfl
  · cases h
    exact submitOwn_link _ _
  all_goals
    cases h
    rfl

theorem chooseMove_link : (t.chooseMove env).link = t.link := by
  unfold chooseMove
  dsimp only
  split_ifs
  · rfl
  · rfl
  · rfl
  · exact submitOwn_link _ _
  · exact submitOwn_link _ _

theorem openSwitch_link : t.openSwitch.link = t.link := by
  unfold openSwitch
  dsimp only
  split <;> rfl

theorem keyAction_link : (t.keyAction env c).link = t.link := by
  unfold keyAction
  dsimp only
  split_ifs
  · exact chooseMove_link
  · rfl
  · rfl
  · rfl
  · rfl
  · exact chooseMove_link
  · exact openSwitch_link
  · rfl

theorem handleKey_link (h : t.handleKey env c = .ok t') : t'.link = t.link ∨ t'.Exited := by
  unfold handleKey at h
  split_ifs at h
  · cases h
    exact .inl rfl
  · cases h
    exact keyFinished_link
  · cases h
    exact .inl keyOverlay_link
  · cases h
    exact .inl keyEscape_link
  · cases h
    exact .inl rfl
  · cases h
    exact .inl keyFlee_link
  · cases h
    exact .inl rfl
  · exact .inl (keySwitch_link h)
  · cases h
    exact .inl keyAction_link
  · cases h
    exact .inl rfl

end TextBattle
end MonsterMesh

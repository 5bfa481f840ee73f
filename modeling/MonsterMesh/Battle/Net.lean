import MonsterMesh.Battle.Updates

/-! One server and one client over a network that loses, delays, repeats and reorders packets. -/
namespace MonsterMesh

open Fallible Bytes

/-- The two devices. Whatever one has sent may reach the other at any time, any number of times,
or never. -/
structure Net where
  server : TextBattle
  client : TextBattle

/-- The node ids of the two devices. -/
structure Nodes where
  server : UInt32
  client : UInt32

namespace TextBattle

variable {t t' u v : TextBattle} {env : Env} {fromId : UInt32} {p : Packet} {c : UInt8}

/-- The `k`-th packet sent. -/
def nth (t : TextBattle) (k : Nat) : Option Packet := t.sent.reverse[k]?

/-- A device between two battles, with nothing sent. -/
def idle (t : TextBattle) : TextBattle := { t.exit with sent := [] }

theorem mem_of_nth {k : Nat} (h : t.nth k = some p) : p ∈ t.sent :=
  List.mem_reverse.mp (List.mem_of_getElem? h)

end TextBattle

namespace Net

/-- A call of the firmware's loop on one of the devices. A packet is named by its place in the
history of its sender. -/
inductive Event where
  | toServer (k : Nat)
  | toClient (k : Nat)
  | serverKey (c : UInt8)
  | clientKey (c : UInt8)
  | serverTick (nowMs : UInt32)
  | clientTick (nowMs : UInt32)

variable (w : Nodes)

def deliverToServer (n : Net) (env : Env) : Option Packet → Net
  | some p => { n with server := (n.server.handlePacket env w.client p.bytes).2 }
  | none => n

def deliverToClient (n : Net) (env : Env) : Option Packet → Net
  | some p => { n with client := (n.client.handlePacket env w.server p.bytes).2 }
  | none => n

def step (n : Net) (i : Env × Event) : Except Fault Net :=
  match i.2 with
  | .toServer k => .ok (n.deliverToServer w i.1 (n.client.nth k))
  | .toClient k => .ok (n.deliverToClient w i.1 (n.server.nth k))
  | .serverKey c => (fun t => { n with server := t }) <$> n.server.handleKey i.1 c
  | .clientKey c => (fun t => { n with client := t }) <$> n.client.handleKey i.1 c
  | .serverTick nowMs => (fun t => { n with server := t }) <$> n.server.tick i.1 nowMs
  | .clientTick nowMs => (fun t => { n with client := t }) <$> n.client.tick i.1 nowMs

/-- Two idle devices, one of which has just sent its challenge. -/
inductive Opens : Net → Prop
  | mk (s c : TextBattle) (env : Env) (target : UInt32) (party : Gen1Party) (name : CStr) :
      Opens ⟨s.idle.startServerAuthAsInitiator env target party name, c.idle⟩

end Net

namespace TextBattle

variable {t t' u v : TextBattle} {env : Env} {fromId : UInt32} {p q : Packet} {c : UInt8}

/-! ### What each device sends -/

/-- The packet types of a client. -/
def FromClient (p : Packet) : Prop :=
  p.type = textBattleAccept ∨ p.type = textBattleActionV2 ∨ p.type = textBattleStateRequest

/-- The packet types of a server. -/
def FromServer (p : Packet) : Prop :=
  p.type = textBattleChallenge ∨ p.type = textBattleUpdate ∨ p.type = textBattleFullState ∨
    p.type = textBattleForfeit

/-- A device without a battle takes nothing but challenges and seeds. -/
theorem dispatch_asleep (hm : t.mode = .off) (hc : p.type ≠ textBattleChallenge)
    (hs : p.type ≠ textBattleStart) : (t.dispatch env fromId p).2 = t := by
  unfold dispatch
  simp only [hm, ne_eq, not_true_eq_false, false_and, if_false, hc, hs, true_or, if_true]

/-- A packet of the client on the server. -/
inductive ServerPacket (t : TextBattle) (env : Env) (fromId : UInt32) (p : Packet)
    (t' : TextBattle) : Prop
  | idle (h : t' = t)
  | accept (ht : p.type = textBattleAccept) (h : t.AcceptStep env fromId p t')
  | action (ht : p.type = textBattleActionV2) (h : t.ActionStep env fromId p t')
  | asked (hr : t.role = .server) (ht : p.type = textBattleStateRequest) (hp : p.payload ≠ [])
      (hs : p.session = t.session) (hf : fromId = t.remoteId) (h : t' = t.serverAuthSendFullState)

theorem stateRequest_cases (hr : t.role = .server) (ht : p.type = textBattleStateRequest) :
    t.ServerPacket env fromId p (t.serverAuthOnStateRequestPkt fromId p) := by
  unfold serverAuthOnStateRequestPkt
  split
  · exact .idle rfl
  · rename_i h
    obtain ⟨hp, hs, hf⟩ := (not_or.mp h).imp id not_or.mp
    exact .asked hr ht hp (not_not.mp hs) (not_not.mp hf) rfl

theorem dispatch_server (hr : t.mode ≠ .off → t.role = .server) (hp : FromClient p) :
    t.ServerPacket env fromId p (t.dispatch env fromId p).2 := by
  by_cases hm : t.mode = .off
  · have hc : p.type ≠ textBattleChallenge := by
      rcases hp with h | h | h <;> rw [h] <;> decide
    have hs : p.type ≠ textBattleStart := by
      rcases hp with h | h | h <;> rw [h] <;> decide
    exact .idle (dispatch_asleep hm hc hs)
  · have hr := hr hm
    unfold dispatch
    rcases hp with h | h | h
    · rw [if_neg (by rw [h]; decide), if_pos ⟨hm, hr, h⟩]
      exact .accept h serverAuthOnAcceptPkt_cases
    · rw [if_neg (by rw [h]; decide), if_neg fun hx => absurd (h.symm.trans hx.2.2) (by decide),
        if_pos ⟨hm, hr, h⟩]
      exact .action h serverAuthOnActionV2Pkt_cases
    · rw [if_neg (by rw [h]; decide), if_neg fun hx => absurd (h.symm.trans hx.2.2) (by decide),
        if_neg fun hx => absurd (h.symm.trans hx.2.2) (by decide), if_pos ⟨hm, hr, h⟩]
      exact stateRequest_cases hr h

/-- A packet of the server on the client. -/
inductive ClientPacket (t : TextBattle) (env : Env) (fromId : UInt32) (p : Packet)
    (t' : TextBattle) : Prop
  | idle (h : t' = t)
  | challenged (hm : t.mode = .off) (name : CStr) (party : List UInt8)
      (h : t' = t.beginOverlay env fromId p.session name party)
  | update (hm : t.mode ≠ .off) (ht : p.type = textBattleUpdate) (h : t.UpdateStep env p t')
  | fullState (hm : t.mode ≠ .off) (ht : p.type = textBattleFullState)
      (h : t.FullStateStep env p t')
  | forfeited (hm : t.mode ≠ .off) (ht : p.type = textBattleForfeit)
      (h : t' = (t.onScene (·.forfeit .one)).setPhase .finished)

theorem challenge_cases (hm : t.mode = .off) :
    t.ClientPacket env fromId p (t.clientAuthOnChallengePkt env fromId p) := by
  unfold clientAuthOnChallengePkt
  split
  · exact .idle rfl
  · rw [if_neg fun hx => hx.1 hm]
    exact .challenged hm _ _ rfl

theorem forfeit_cases (hm : t.mode ≠ .off) (hr : t.peerReady = true)
    (ht : p.type = textBattleForfeit) :
    t.ClientPacket env fromId p (t.notePeer.legacyPacket env p).2 := by
  have hn : t.notePeer = t := if_pos hr
  rw [hn]
  unfold legacyPacket
  rw [if_neg (by rw [ht]; decide), if_neg (by rw [ht]; decide), if_pos ht]
  exact .forfeited hm ht rfl

theorem dispatch_client (hr : t.mode ≠ .off → t.role = .client ∧ t.peerReady = true)
    (hp : FromServer p) : t.ClientPacket env fromId p (t.dispatch env fromId p).2 := by
  by_cases hc : p.type = textBattleChallenge
  · unfold dispatch
    rw [if_pos hc]
    by_cases hm : t.mode = .off
    · rw [if_neg (not_not.mpr hm)]
      exact challenge_cases hm
    · rw [if_pos hm]
      exact .idle rfl
  have hs : p.type ≠ textBattleStart := by
    rcases hp with h | h | h | h <;> rw [h] <;> decide
  by_cases hm : t.mode = .off
  · exact .idle (dispatch_asleep hm hc hs)
  obtain ⟨hr, hready⟩ := hr hm
  have hserver (x : Prop) : ¬ (t.mode ≠ .off ∧ t.role = .server ∧ x) := fun hx =>
    absurd (hr.symm.trans hx.2.1) (by decide)
  unfold dispatch
  rw [if_neg hc, if_neg (hserver _), if_neg (hserver _), if_neg (hserver _)]
  rcases hp with h | h | h | h
  · exact absurd h hc
  · rw [if_pos ⟨hm, hr, h⟩]
    exact .update hm h (clientAuthOnUpdatePkt_cases env p)
  · rw [if_neg fun hx => absurd (h.symm.trans hx.2.2) (by decide), if_pos ⟨hm, hr, h⟩]
    exact .fullState hm h clientAuthOnFullStatePkt_cases
  · rw [if_neg fun hx => absurd (h.symm.trans hx.2.2) (by decide),
      if_neg fun hx => absurd (h.symm.trans hx.2.2) (by decide), if_neg hs]
    split
    · exact .idle rfl
    · exact forfeit_cases hm hready h

/-- The keys of the challenge overlay. -/
inductive OverlayStep (t : TextBattle) (env : Env) (t' : TextBattle) : Prop
  | idle (h : t' = t)
  | repeated (ha : t.awaitingFirstUpdate = true)
      (h : t' = { t.send (t.acceptPacket true) with lastAcceptSendMs := env.millis })
  | declined
      (h : t' = { ({ t.send (t.acceptPacket false) with
          lastAcceptSendMs := env.millis } : TextBattle).appendLog "Declined." with
        phase := .finished, awaitingFirstUpdate := false, awaitingUpdateSinceMs := 0 })
  | opened (hb : t.preAcceptUpdate = none) (h : t' = t.joined env)
  | caught (q : Packet) (hb : t.preAcceptUpdate = some q)
      (h : (t.joined env).drained.UpdateStep env q t')

theorem keyOverlay_steps (env : Env) (c : UInt8) : t.OverlayStep env (t.keyOverlay env c) := by
  unfold keyOverlay
  split_ifs
  · unfold clientAuthSendAccept
    dsimp only
    rw [if_neg (by decide)]
    split
    · rename_i ha
      exact .repeated ha rfl
    · change t.OverlayStep env ((t.joined env).applyBuffered env)
      cases hb : t.preAcceptUpdate with
      | none =>
        rw [applyBuffered_none (t := t.joined env) hb]
        exact .opened hb rfl
      | some q =>
        rw [applyBuffered_some (t := t.joined env) hb]
        exact .caught q hb (clientAuthOnUpdatePkt_cases env q)
  · exact .declined rfl
  · exact .idle rfl

end TextBattle
end MonsterMesh

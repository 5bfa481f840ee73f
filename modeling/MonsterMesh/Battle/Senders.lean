import MonsterMesh.Battle.Frame
import MonsterMesh.Battle.Start

/-! Who can drive a battle: packets of a node that is not the opponent. -/
namespace MonsterMesh

open Fallible

namespace TextBattle

variable {t : TextBattle} {env : Env} {fromId : UInt32} {p : Packet}

/-- No handler of its own takes the packet: it goes on to the common session and sender checks. -/
def Common (t : TextBattle) (p : Packet) : Prop :=
  p.type ≠ textBattleChallenge ∧ p.type ≠ textBattleStart ∧
    ¬ (t.role = .server ∧ (p.type = textBattleAccept ∨ p.type = textBattleActionV2 ∨
      p.type = textBattleStateRequest)) ∧
    ¬ (t.role = .client ∧ (p.type = textBattleUpdate ∨ p.type = textBattleFullState))

/-- The handlers that forget to look at the sender: an ACCEPT while one is awaited, UPDATE and
FULL_STATE on the client, and everything of the session when the remote id is 0. -/
inductive Intrudes (t : TextBattle) (p : Packet) : Prop
  | accept (hr : t.role = .server) (ht : p.type = textBattleAccept) (ha : t.awaitingAccept = true)
      (hp : t.parseAccept p ≠ none)
  | update (hr : t.role = .client) (ht : p.type = textBattleUpdate) (hs : p.session = t.session)
      (hp : 6 ≤ p.payload.length)
  | fullState (hr : t.role = .client) (ht : p.type = textBattleFullState)
      (hs : p.session = t.session) (hp : 5 ≤ p.payload.length)
  | broadcast (h0 : t.remoteId = 0) (hs : p.session = t.session) (hc : t.Common p)

theorem update_ignored (h : ¬ (p.session = t.session ∧ 6 ≤ p.payload.length)) :
    t.clientAuthOnUpdatePkt env p = t := by
  unfold clientAuthOnUpdatePkt
  split
  · rename_i hp
    rw [hp] at h
    rw [if_pos fun hs => h ⟨hs, by simp⟩]
  · rfl

theorem fullState_ignored (h : ¬ (p.session = t.session ∧ 5 ≤ p.payload.length)) :
    t.clientAuthOnFullStatePkt env p = t := by
  unfold clientAuthOnFullStatePkt
  split
  · rename_i hp
    rw [hp] at h
    refine if_pos ?_
    by_contra hn
    obtain ⟨hl, hs⟩ := not_or.mp hn
    exact h ⟨not_not.mp hs, by simp only [List.length_cons]; omega⟩
  · rfl

theorem accept_ignored (h : ¬ (t.awaitingAccept = true ∧ t.parseAccept p ≠ none)) :
    t.serverAuthOnAcceptPkt env fromId p = t := by
  unfold serverAuthOnAcceptPkt
  cases ha : t.awaitingAccept with
  | false => rfl
  | true =>
    have hp : t.parseAccept p = none := by
      by_contra hn
      exact h ⟨ha, hn⟩
    rw [hp]
    rfl

theorem actionV2_ignored (h : fromId ≠ t.remoteId) :
    t.serverAuthOnActionV2Pkt env fromId p = t := by
  unfold serverAuthOnActionV2Pkt
  split
  · exact if_pos (.inr h)
  · rfl

theorem stateRequest_ignored (h : fromId ≠ t.remoteId) :
    t.serverAuthOnStateRequestPkt fromId p = t :=
  if_pos (.inr (.inr h))

/-- During a battle, a packet of another node that does not reach an unchecked handler changes
nothing at all. -/
theorem dispatch_foreign (hm : t.mode ≠ .off) (hf : fromId ≠ t.remoteId) (h : ¬ t.Intrudes p) :
    (t.dispatch env fromId p).2 = t := by
  unfold dispatch
  split_ifs with h₁ h₂ h₃ h₄ h₅ h₆ h₇ h₈
  · rfl
  · exact accept_ignored fun hx => h (.accept h₂.2.1 h₂.2.2 hx.1 hx.2)
  · exact actionV2_ignored hf
  · exact stateRequest_ignored hf
  · exact update_ignored fun hx => h (.update h₅.2.1 h₅.2.2 hx.1 hx.2)
  · exact fullState_ignored fun hx => h (.fullState h₆.2.1 h₆.2.2 hx.1 hx.2)
  · rfl
  · exact absurd (Or.inl hm) h₈
  · rfl
  · rename_i h₉
    obtain ⟨_, hs, hx⟩ : ¬ t.mode = .off ∧ p.session = t.session ∧ t.remoteId = 0 := by
      refine ⟨hm, ?_, ?_⟩ <;> by_contra hn
      · exact h₉ (.inr (.inl hn))
      · exact h₉ (.inr (.inr ⟨hn, hf⟩))
    refine absurd (.broadcast hx hs ⟨h₁, h₇, ?_, ?_⟩) h
    · rintro ⟨hr, ht | ht | ht⟩
      · exact h₂ ⟨hm, hr, ht⟩
      · exact h₃ ⟨hm, hr, ht⟩
      · exact h₄ ⟨hm, hr, ht⟩
    · rintro ⟨hr, ht | ht⟩
      · exact h₅ ⟨hm, hr, ht⟩
      · exact h₆ ⟨hm, hr, ht⟩

/-! ### Runs -/

/-- The start of a battle against `opp`: by challenging it, or by a CHALLENGE from it. -/
inductive StartedWith (opp : UInt32) : TextBattle → Prop
  | server (t : TextBattle) (env : Env) (party : Gen1Party) (name : CStr) :
      StartedWith opp (t.startServerAuthAsInitiator env opp party name)
  | client (t : TextBattle) (env : Env) (buf : List UInt8) (hm : t.mode = .off)
      (hc : (t.handlePacket env opp buf).2.mode ≠ .off) :
      StartedWith opp (t.handlePacket env opp buf).2

/-- A step during a battle against `opp` in which no packet of another node intrudes. -/
def Undisturbed (opp : UInt32) (t : TextBattle) (i : Env × Input) : Prop :=
  t.mode ≠ .off ∧ ∀ fromId buf p, i.2 = .packet fromId buf → fromId ≠ opp →
    Packet.ofBytes buf = some p → ¬ t.Intrudes p

/-- As long as the battle lasts, the device is bound to `opp`. -/
def BoundTo (opp : UInt32) (t : TextBattle) : Prop := t.mode ≠ .off → t.remoteId = opp

variable {opp : UInt32} {t₀ t' : TextBattle} {buf : List UInt8} {i : Env × Input}

theorem boundTo_of_link (hb : t.BoundTo opp) (hm : t.mode ≠ .off)
    (h : t'.link = t.link ∨ t'.mode = .off) : t'.BoundTo opp := by
  intro hm'
  obtain h | h := h
  · exact (congrArg Link.remoteId h).trans (hb hm)
  · exact absurd h hm'

theorem StartedWith.bound (h : StartedWith opp t) : t.BoundTo opp := by
  cases h with
  | server => exact fun _ => rfl
  | client t env buf hm hc =>
    obtain h | ⟨session, name, party, h⟩ := handlePacket_off env opp hm
    · exact absurd h.1 hc
    · exact fun _ => congrArg TextBattle.remoteId h

theorem foreign_packet (hb : t.BoundTo opp) (hf : fromId ≠ opp)
    (hu : t.Undisturbed opp (env, .packet fromId buf)) : (t.handlePacket env fromId buf).2 = t := by
  unfold handlePacket
  split
  · rename_i p hp
    have hf : fromId ≠ t.remoteId := fun h => hf (h.trans (hb hu.1))
    exact dispatch_foreign hu.1 hf (hu.2 fromId buf p rfl (hb hu.1 ▸ hf) hp)
  · rfl

theorem own_packet (hb : t.BoundTo opp) (hm : t.mode ≠ .off) :
    (t.handlePacket env opp buf).2.BoundTo opp := by
  unfold handlePacket
  split
  · rename_i p hp
    obtain h | h := dispatch_link (p := p) env opp hm
    · exact boundTo_of_link hb hm (.inl h)
    · exact fun _ => congrArg Link.remoteId h
  · exact hb

theorem boundTo_step (hb : t.BoundTo opp) (hu : t.Undisturbed opp i) (h : t.step i = .ok t') :
    t'.BoundTo opp := by
  obtain ⟨env, input⟩ := i
  cases input with
  | packet fromId buf =>
    cases h
    by_cases hf : fromId = opp
    · subst hf
      exact own_packet hb hu.1
    · exact (foreign_packet hb hf hu).symm ▸ hb
  | key c => exact boundTo_of_link hb hu.1 ((handleKey_link h).imp_right And.left)
  | tick now => exact boundTo_of_link hb hu.1 ((tick_link h).imp_right And.left)

theorem boundTo_run (h₀ : StartedWith opp t₀) (hr : Reach step (Undisturbed opp) t₀ t) :
    t.BoundTo opp :=
  hr.invariant (fun _ _ _ hb hu h => boundTo_step hb hu h) h₀.bound

/-- Only the opponent drives a battle, as long as the packets of other nodes stay clear of the
handlers that do not look at the sender. -/
theorem only_opponent_drives (h₀ : StartedWith opp t₀) (hr : Reach step (Undisturbed opp) t₀ t)
    (hf : fromId ≠ opp) (hu : t.Undisturbed opp (env, .packet fromId buf)) :
    t.step (env, .packet fromId buf) = .ok t :=
  congrArg Except.ok (foreign_packet (boundTo_run h₀ hr) hf hu)

theorem not_intrudes_flee (h : t.remoteId ≠ 0) : ¬ t.Intrudes fleePacket := by
  intro hi
  cases hi with
  | accept _ ht => exact absurd ht (by decide)
  | update _ ht => exact absurd ht (by decide)
  | fullState _ ht => exact absurd ht (by decide)
  | broadcast h0 => exact h h0

/-- Once node 7 has joined, node 9 cannot flee in its place. -/
theorem only_opponent_drives_flee :
    ∃ t, play step challenger [(clock, .packet 7 joinPacket.bytes)] = .ok t ∧
      t.step (clock, .packet 9 fleePacket.bytes) = .ok t := by
  refine ⟨_, rfl, only_opponent_drives (.server fresh clock _ _)
    (Reach.tail (clock, .packet 7 joinPacket.bytes) .refl ?_ rfl) (by decide) ?_⟩
  · refine ⟨by decide, fun fromId buf p h hf => ?_⟩
    cases h
    exact absurd rfl hf
  · refine ⟨by decide +kernel, fun fromId buf p h _ hp => ?_⟩
    cases h
    rw [Packet.ofBytes_bytes] at hp
    cases hp
    exact not_intrudes_flee (by decide +kernel)

/-- Node 9 answers the challenge to node 7 and becomes the opponent. -/
theorem bystander_accepts : StartedWith 7 challenger ∧ challenger.remoteId = 7 ∧
    ¬ ∀ env fromId buf, fromId ≠ 7 →
      challenger.step (env, .packet fromId buf) = .ok challenger := by
  refine ⟨.server fresh clock _ _, rfl, fun h => ?_⟩
  have hx : (challenger.step (clock, .packet 9 joinPacket.bytes)).toOption.map (·.remoteId) =
      some 9 := by decide +kernel
  rw [h clock 9 joinPacket.bytes (by decide)] at hx
  exact absurd hx (by decide)

end TextBattle
end MonsterMesh

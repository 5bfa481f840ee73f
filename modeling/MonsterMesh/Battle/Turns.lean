import MonsterMesh.Battle.Traffic

/-! The turn a battle is in: the server's engine counts it, and the client hears of it. -/
namespace MonsterMesh

open Fallible Bytes

/-- The packets that tell the client a turn. -/
def Packet.Tells (p : Packet) : Prop := p.type = textBattleUpdate ∨ p.type = textBattleFullState

/-- The low byte of the turn they tell. -/
def Packet.turnByte (p : Packet) : Option UInt8 :=
  if p.type = textBattleFullState then p.payload[1]? else p.payload[0]?

theorem succ_toNat {a : UInt8} (h : a.toNat ≤ (a + 1).toNat) : (a + 1).toNat = a.toNat + 1 := by
  have ha := a.toNat_lt
  have hs : (a + 1).toNat = (a.toNat + 1) % 256 := UInt8.toNat_add a 1
  omega

namespace TextBattle

variable {t t' a b s c c' u v : TextBattle} {env : Env} {fromId now : UInt32} {p q : Packet}
  {sid : UInt16}

theorem updatePacket_turnByte : t.updatePacket.turnByte = some t.engine.turn.toUInt8 := rfl

theorem packClientState_turn (hr : t.role = .server) :
    t.packClientState[1]? = some t.engine.turn.toUInt8 := by
  unfold packClientState
  rw [if_neg (by rw [hr]; decide)]
  rfl

/-! ### The server's history -/

/-- No packet of the server tells of a newer UPDATE than the newest, and those of the newest one tell
the turn of the engine. -/
structure Numbered (t : TextBattle) : Prop where
  le : ∀ p ∈ t.sent, p.Tells → p.seq.toNat ≤ t.updateSeq.toNat
  turn : ∀ p ∈ t.sent, p.Tells → p.seq = t.updateSeq → p.turnByte = some t.engine.turn.toUInt8
  pos : ∀ p ∈ t.sent, p.type = textBattleUpdate → p.seq ≠ 0

theorem Numbered.same (h : a.Numbered) (hq : b.updateSeq = a.updateSeq)
    (ht : b.engine.turn = a.engine.turn) (hs : ∀ p ∈ b.sent, p.Tells → p ∈ a.sent) :
    b.Numbered where
  le := by
    intro p hp hx
    rw [hq]
    exact h.le p (hs p hp hx) hx
  turn := by
    intro p hp hx
    rw [hq, ht]
    exact h.turn p (hs p hp hx) hx
  pos := fun p hp hx => h.pos p (hs p hp (.inl hx)) hx

theorem Numbered.state (h : t.Numbered) (hr : t.role = .server) :
    t.serverAuthSendFullState.Numbered where
  le := by
    intro p hp hx
    rcases List.mem_cons.mp hp with rfl | hp
    · exact Nat.le_refl _
    · exact h.le p hp hx
  turn := by
    intro p hp hx hq
    rcases List.mem_cons.mp hp with rfl | hp
    · exact packClientState_turn hr
    · exact h.turn p hp hx hq
  pos := by
    intro p hp hx
    rcases List.mem_cons.mp hp with rfl | hp
    · exact absurd (show textBattleFullState = textBattleUpdate from hx) (by decide)
    · exact h.pos p hp hx

/-- A new UPDATE outnumbers everything sent before it. -/
theorem Numbered.update (h : a.Numbered) (hq : v.updateSeq = a.updateSeq) (hp : v.sent = a.sent)
    (hw : a.updateSeq.toNat ≤ (v.serverAuthSendUpdate env).updateSeq.toNat) :
    (v.serverAuthSendUpdate env).Numbered := by
  have hseq : (v.serverAuthSendUpdate env).updateSeq = a.updateSeq + 1 := congrArg (· + 1) hq
  rw [hseq] at hw
  have hsucc := succ_toNat hw
  have hold : ∀ p ∈ (v.serverAuthSendUpdate env).sent, p = v.updatePacket ∨ p ∈ a.sent :=
    fun p hx => (List.mem_cons.mp hx).imp_right fun hx => hp ▸ hx
  refine ⟨fun p hx ht => ?_, fun p hx ht hn => ?_, fun p hx ht => ?_⟩
  · rw [hseq]
    rcases hold p hx with rfl | hx
    · exact Nat.le_of_eq (congrArg UInt8.toNat hseq)
    · have hle := h.le p hx ht
      omega
  · rcases hold p hx with rfl | hx
    · exact updatePacket_turnByte
    · have hle := h.le p hx ht
      rw [hn, hseq] at hle
      omega
  · rcases hold p hx with rfl | hx
    · intro hz
      have hz : a.updateSeq + 1 = 0 := hseq.symm.trans hz
      rw [hz] at hsucc
      exact absurd hsucc (by simp)
    · exact h.pos p hx ht

theorem Sends.seq (h : a.Sends b) :
    b.updateSeq = a.updateSeq ∧ b.engine.turn = a.engine.turn ∨ b.updateSeq = a.updateSeq + 1 := by
  cases h with
  | silent h => exact .inl ⟨congrArg Wire.seq h, congrArg Wire.turn h⟩
  | packet _ _ h => exact .inl ⟨congrArg Wire.seq h, congrArg Wire.turn h⟩
  | state _ h => exact .inl (h ▸ ⟨rfl, rfl⟩)
  | update v env h _ hq => exact .inr (h ▸ congrArg (· + 1) hq)
  | timedOut _ h => exact .inl ⟨congrArg Wire.seq h, congrArg Wire.turn h⟩
  | fled _ _ _ h => exact .inl ⟨congrArg Wire.seq h, congrArg Wire.turn h⟩

theorem Numbered.sends (h : a.Numbered) (hs : a.Sends b)
    (hw : a.updateSeq.toNat ≤ b.updateSeq.toNat) : b.Numbered := by
  cases hs with
  | silent hx =>
    refine h.same (congrArg Wire.seq hx) (congrArg Wire.turn hx) fun p hp _ => ?_
    rwa [show b.sent = a.sent from congrArg Wire.sent hx] at hp
  | packet q hq hx =>
    refine h.same (congrArg Wire.seq hx) (congrArg Wire.turn hx) fun p hp ht => ?_
    rw [show b.sent = q :: a.sent from congrArg Wire.sent hx] at hp
    rcases List.mem_cons.mp hp with rfl | hp
    · refine hq.resolve_right fun hc => ?_
      rcases ht with ht | ht <;> exact absurd (hc.1.symm.trans ht) (by decide)
    · exact hp
  | state hr hx => exact hx ▸ h.state hr
  | update v env hx _ hq hp =>
    rw [hx] at hw ⊢
    exact h.update hq hp hw
  | timedOut _ hx =>
    refine h.same (congrArg Wire.seq hx) (congrArg Wire.turn hx) fun p hp _ => ?_
    rwa [show b.sent = a.sent from congrArg Wire.sent hx] at hp
  | fled q hq _ hx =>
    refine h.same (congrArg Wire.seq hx) (congrArg Wire.turn hx) fun p hp ht => ?_
    rw [show b.sent = q :: a.sent from congrArg Wire.sent hx] at hp
    rcases List.mem_cons.mp hp with rfl | hp
    · rcases ht with ht | ht <;> exact absurd (hq.symm.trans ht) (by decide)
    · exact hp

/-! ### The client's view -/

/-- The client has read nothing newer than the newest UPDATE, and when it picks an action over that
one, it does so for the turn of the server. -/
structure Tracks (s c : TextBattle) : Prop where
  le : c.mode ≠ .off → c.lastAppliedUpdateSeq.toNat ≤ s.updateSeq.toNat
  turn : c.mode ≠ .off → c.Choosing → c.lastAppliedUpdateSeq = s.updateSeq →
    c.clientTurn = s.engine.turn.toUInt8

theorem Tracks.sends (h : a.Tracks c) (hs : a.Sends b)
    (hw : a.updateSeq.toNat ≤ b.updateSeq.toNat) : b.Tracks c := by
  refine ⟨fun hm => Nat.le_trans (h.le hm) hw, fun hm hc hl => ?_⟩
  rcases hs.seq with ⟨hq, ht⟩ | hq
  · rw [ht]
    exact h.turn hm hc (hl.trans hq)
  · have hle := h.le hm
    rw [hq] at hw
    have hsucc := succ_toNat hw
    rw [hl, hq] at hle
    omega

theorem Tracks.kept (h : s.Tracks c) (hm : c'.mode = c.mode)
    (hl : c'.lastAppliedUpdateSeq = c.lastAppliedUpdateSeq)
    (ht : c'.Choosing → c.Choosing ∧ c'.clientTurn = c.clientTurn) : s.Tracks c' := by
  refine ⟨fun hm' => hl ▸ h.le (hm ▸ hm'), fun hm' hc hq => ?_⟩
  obtain ⟨hc, ht⟩ := ht hc
  exact ht.trans (h.turn (hm ▸ hm') hc (hl.symm.trans hq))

theorem Tracks.off (hm : c'.mode = .off) : s.Tracks c' :=
  ⟨fun hx => absurd hm hx, fun hx => absurd hm hx⟩

/-- Past the picking of an action the turn is of no account. -/
theorem Tracks.away (h : s.Tracks c) (hm : c'.mode = c.mode)
    (hl : c'.lastAppliedUpdateSeq = c.lastAppliedUpdateSeq) (hc : ¬ c'.Choosing) : s.Tracks c' :=
  h.kept hm hl fun hx => absurd hx hc

theorem not_choosing_finished (h : t.phase = .finished) : ¬ t.Choosing := fun hx => hx.1 h

theorem not_choosing_remote (h : t.phase = .waitRemote) : ¬ t.Choosing := fun hx => hx.2.2.1 h

/-- What an action sent leaves of the client. -/
theorem clientAuthSendActionV2_view (env : Env) (x i : UInt8) :
    (c.clientAuthSendActionV2 env x i).lastAppliedUpdateSeq = c.lastAppliedUpdateSeq ∧
      (c.clientAuthSendActionV2 env x i).clientTurn = c.clientTurn ∧
      (c.clientAuthSendActionV2 env x i).phase = c.phase ∧
      (c.clientAuthSendActionV2 env x i).mode = c.mode := by
  unfold clientAuthSendActionV2
  dsimp only
  split <;> exact ⟨rfl, rfl, rfl, rfl⟩

theorem Tracks.act (h : s.Tracks c) (env : Env) (x i : UInt8) :
    s.Tracks (c.clientAuthSendActionV2 env x i) := by
  obtain ⟨hl, ht, hp, hm⟩ := clientAuthSendActionV2_view (c := c) env x i
  refine h.kept hm hl fun hc => ⟨?_, ht⟩
  unfold Choosing at hc ⊢
  rwa [hp] at hc

theorem ClientKey.tracks (h : s.Tracks c) (hk : c.ClientKey env c') : s.Tracks c' := by
  cases hk with
  | left _ hx => exact .off (hx ▸ rfl)
  | idle hx => exact hx ▸ h
  | shown hc hx _ =>
    have hm : c'.mode = c.mode := by rw [hx]
    have hl : c'.lastAppliedUpdateSeq = c.lastAppliedUpdateSeq := by rw [hx]
    have ht : c'.clientTurn = c.clientTurn := by rw [hx]
    exact h.kept hm hl fun _ => ⟨hc, ht⟩
  | fled _ hx =>
    rw [hx]
    exact (h.act env 2 0).away rfl rfl (not_choosing_finished rfl)
  | submitted _ u x i hu _ hx =>
    have hl : u.lastAppliedUpdateSeq = c.lastAppliedUpdateSeq := by rw [hu]
    have hm : u.mode = c.mode := by rw [hu]
    obtain ⟨hl', _, _, hm'⟩ := clientAuthSendActionV2_view (c := u) env x i
    rw [hx]
    exact h.away (hm'.trans hm) (hl'.trans hl) (not_choosing_remote rfl)

theorem AcceptTick.tracks (h : s.Tracks c) (hk : c.AcceptTick now c') : s.Tracks c' := by
  cases hk with
  | quiet hx => exact hx ▸ h
  | asked _ hx => exact hx ▸ h.kept rfl rfl fun hc => ⟨hc, rfl⟩
  | accepted _ _ hx => exact hx ▸ h.kept rfl rfl fun hc => ⟨hc, rfl⟩

theorem ActionTick.tracks (h : s.Tracks c) (hk : c.ActionTick env c') : s.Tracks c' := by
  cases hk with
  | quiet hx => exact hx ▸ h
  | again _ _ hx => exact hx ▸ h.act ..

theorem TimeoutTick.tracks (h : s.Tracks c) (hk : c.TimeoutTick c') : s.Tracks c' := by
  cases hk with
  | quiet hx => exact hx ▸ h
  | forfeited _ _ _ hx => exact hx ▸ h.away rfl rfl (not_choosing_finished rfl)
  | shown _ _ _ hx => exact hx ▸ h.away rfl rfl (not_choosing_finished rfl)

/-- An UPDATE of another turn than the client's that the client neither knows nor takes. -/
def Misreads (c : TextBattle) (p : Packet) : Prop :=
  c.Choosing ∧ p.seq ≠ c.lastAppliedUpdateSeq ∧ c.applies p = false ∧
    p.payload[0]? ≠ some c.clientTurn

variable (c env) in
theorem commitUpdate_view (seq : UInt8) (fin need : Bool) :
    (c.commitUpdate env seq fin need).lastAppliedUpdateSeq = seq ∧
      (c.commitUpdate env seq fin need).clientTurn = c.clientTurn := by
  unfold commitUpdate
  dsimp only
  split_ifs
  · rw [clientAuthSendActionV2_ack]
    exact ⟨rfl, rfl⟩
  · exact ⟨rfl, rfl⟩
  · exact ⟨rfl, rfl⟩

theorem Fresh.head {turn : UInt8} {flags : UInt16} {hash body : List UInt8}
    (h : c.Fresh p turn flags hash body) : p.payload[0]? = some turn := by
  obtain ⟨_, _, _, _, _, hp, _⟩ := h.fields
  rw [hp]
  rfl

/-- The client after an UPDATE, given what the server's history says of it. -/
theorem UpdateStep.tracks (h : s.Tracks c) (hu : c.UpdateStep env p c')
    (hle : p.seq.toNat ≤ s.updateSeq.toNat) (hpos : p.seq ≠ 0)
    (hturn : p.seq = s.updateSeq → p.payload[0]? = some s.engine.turn.toUInt8)
    (hx : c.lastAppliedUpdateSeq = s.updateSeq → ¬ c.Misreads p) : s.Tracks c' := by
  have hover {turn : UInt8} {flags : UInt16} {hash body : List UInt8}
      (hp : c.Fresh p turn flags hash body) (hn : c.applies p = false) (hc : c.Choosing)
      (hq : c.lastAppliedUpdateSeq = s.updateSeq) : turn = c.clientTurn := by
    have hne : p.seq ≠ c.lastAppliedUpdateSeq := fun he =>
      hp.unlike ⟨he, fun hz => hpos (he.trans hz)⟩
    by_contra hd
    exact hx hq ⟨hc, hne, hn, fun hh => hd (Option.some.inj (hp.head.symm.trans hh))⟩
  cases hu with
  | ignored _ hx => exact hx ▸ h
  | buffered _ _ _ hx => exact hx ▸ h.kept rfl rfl fun hc => ⟨hc, rfl⟩
  | repeated _ _ _ _ hx =>
    have hh : s.Tracks c.heard := h.kept rfl rfl fun hc => ⟨hc, rfl⟩
    rw [hx]
    unfold reAck
    split <;> exact hh.act ..
  | cut turn flags hash body hp sc hd hx =>
    rw [hx]
    refine ⟨h.le, fun hm hc hq => ?_⟩
    exact (hover hp (hp.applies_error hd) hc hq).trans (h.turn hm hc hq)
  | rejected turn flags hash body hp sc fin hd hh hx =>
    have hn : c.applies p = false := (hp.applies_ok hd).trans (decide_eq_false hh)
    rw [hx]
    refine ⟨h.le, fun hm hc hq => ?_⟩
    exact (hover hp hn hc hq).trans (h.turn hm hc hq)
  | applied turn flags hash body hp sc fin hd hh hx =>
    obtain ⟨hseq, hct⟩ := commitUpdate_view (c.redrawn turn sc) env p.seq fin
      (flags &&& tbUpdNeedPlayerSwitch ≠ 0)
    rw [hx]
    refine ⟨fun _ => by rwa [hseq], fun _ _ hq => hct.trans ?_⟩
    exact Option.some.inj (hp.head.symm.trans (hturn (hseq.symm.trans hq)))

theorem FullStateStep.tracks (h : s.Tracks c) (hu : c.FullStateStep env p c')
    (hle : p.seq.toNat ≤ s.updateSeq.toNat)
    (hturn : p.seq = s.updateSeq → c.clientTurn = s.engine.turn.toUInt8) : s.Tracks c' := by
  cases hu with
  | ignored hx => exact hx ▸ h
  | cut sc hx => exact hx ▸ h.kept rfl rfl fun hc => ⟨hc, rfl⟩
  | adopted _ _ _ _ _ _ r _ hx =>
    rw [hx]
    exact ⟨fun _ => hle, fun _ _ hq => hturn hq⟩

end TextBattle

/-! ### Runs -/

namespace Net

open TextBattle

variable {w : Nodes} {sid : UInt16} {n₀ n n' : Net} {i : Env × Event}

/-- The number of UPDATEs has not run out: there are fewer than 256. -/
def FewUpdates (w : Nodes) (n : Net) (i : Env × Event) : Prop :=
  ∀ n', n.step w i = .ok n' → n.server.updateSeq.toNat ≤ n'.server.updateSeq.toNat

/-- No client that is picking an action over the newest UPDATE reads another one that it neither
knows nor takes, unless it is of the same turn; and the state of the newest UPDATE reaches a client
only in its turn. -/
def Follows (w : Nodes) (n : Net) (i : Env × Event) : Prop :=
  n.FewUpdates w i ∧ ∀ k p, i.2 = .toClient k → n.server.nth k = some p → n.client.mode ≠ .off →
    (p.type = textBattleUpdate → n.client.lastAppliedUpdateSeq = n.server.updateSeq →
      ¬ n.client.Misreads p) ∧
    (p.type = textBattleFullState → p.seq = n.server.updateSeq →
      p.payload[1]? = some n.client.clientTurn)

/-- What carries the agreement on the turn through a run. -/
structure InTurn (n : Net) : Prop where
  server : n.server.Numbered
  client : n.server.Tracks n.client

theorem Opens.inTurn (h : Opens n) : n.InTurn := by
  obtain ⟨s, c, env, target, party, name⟩ := h
  have hsent : ∀ p ∈ (s.idle.startServerAuthAsInitiator env target party name).sent,
      p.type = textBattleChallenge := fun p hp => List.mem_singleton.mp hp ▸ rfl
  have hnot (p : Packet) (hc : p.type = textBattleChallenge) : ¬ p.Tells := by
    rintro (h | h) <;> exact absurd (hc.symm.trans h) (by decide)
  refine ⟨⟨fun p hp hx => absurd hx (hnot p (hsent p hp)),
    fun p hp hx => absurd hx (hnot p (hsent p hp)),
    fun p hp hx => absurd (.inl hx) (hnot p (hsent p hp))⟩, .off rfl⟩

/-- The packet the overlay holds says what the UPDATE it is a copy of says. -/
theorem held_turn (p : Packet) : (held p).payload[0]? = p.payload[0]? :=
  List.getElem?_take_of_lt (by omega)

theorem OverlayStep.tracks {c' : TextBattle} {env : Env} (hn : n.Wired sid) (h : n.InTurn)
    (hk : n.client.OverlayStep env c') : n.server.Tracks c' := by
  have hc := h.client
  cases hk with
  | idle hx => exact hx ▸ hc
  | repeated _ hx => exact hx ▸ hc.kept rfl rfl fun hc => ⟨hc, rfl⟩
  | declined hx => exact hx ▸ hc.away rfl rfl (not_choosing_finished rfl)
  | opened _ hx => exact hx ▸ hc.away rfl rfl (not_choosing_remote rfl)
  | caught q hb hu =>
    obtain ⟨p, hp, ht, rfl⟩ := hn.buffer q hb
    have hj : n.server.Tracks (n.client.joined env).drained :=
      hc.away rfl rfl (not_choosing_remote rfl)
    refine hu.tracks hj (h.server.le p hp (.inl ht)) (h.server.pos p hp ht) (fun hq => ?_)
      fun _ hx => not_choosing_remote rfl hx.1
    have hturn := h.server.turn p hp (.inl ht) hq
    rw [held_turn]
    unfold Packet.turnByte at hturn
    rwa [if_neg (by rw [ht]; decide)] at hturn

theorem toClient_tracks {c' : TextBattle} {env : Env} {k : Nat} {p : Packet} (h : n.InTurn)
    (hf : n.Follows w (env, .toClient k)) (hk : n.server.nth k = some p)
    (hx : n.client.ClientPacket env w.server p c') : n.server.Tracks c' := by
  have hc := h.client
  have hp := mem_of_nth hk
  cases hx with
  | idle hx => exact hx ▸ hc
  | challenged hm name party hx =>
    exact hx ▸ ⟨fun _ => Nat.zero_le _, fun _ hx => absurd rfl hx.2.1⟩
  | update hm ht hu =>
    refine hu.tracks hc (h.server.le p hp (.inl ht)) (h.server.pos p hp ht) (fun hq => ?_)
      ((hf.2 k p rfl hk hm).1 ht)
    have hturn := h.server.turn p hp (.inl ht) hq
    unfold Packet.turnByte at hturn
    rwa [if_neg (by rw [ht]; decide)] at hturn
  | fullState hm ht hu =>
    refine hu.tracks hc (h.server.le p hp (.inr ht)) fun hq => ?_
    have hturn := h.server.turn p hp (.inr ht) hq
    unfold Packet.turnByte at hturn
    rw [if_pos ht] at hturn
    exact Option.some.inj (((hf.2 k p rfl hk hm).2 ht hq).symm.trans hturn)
  | forfeited _ _ hx => exact hx ▸ hc.away rfl rfl (not_choosing_finished rfl)

theorem ClientCall.tracks {env : Env} {e : Event} (hn : n.Wired sid) (h : n.InTurn)
    (hf : n.Follows w (env, e)) (hx : ClientCall w n env e n') : n.server.Tracks n'.client := by
  cases hx with
  | packet k p hk c' hx => exact toClient_tracks h hf hk hx
  | overlay c c' _ _ hx => exact OverlayStep.tracks hn h hx
  | key c c' _ _ hx => exact hx.tracks h.client
  | tick now c' _ hx =>
    obtain ⟨u, v, hu, hv, ht⟩ := hx
    exact ht.tracks (hv.tracks (hu.tracks h.client))

/-- A call of the server's sends at most one new UPDATE, and it sends it last. -/
theorem ServerCall.inTurn {env : Env} {e : Event} (hn : n.Wired sid) (h : n.InTurn)
    (hw : n.server.updateSeq.toNat ≤ n'.server.updateSeq.toNat) (hx : ServerCall w n env e n') :
    n'.server.Numbered ∧ n'.server.Tracks n.client := by
  refine (hx.preserves (P := fun t => (t.Numbered ∧ t.Tracks n.client) ∧
    (t.updateSeq = n'.server.updateSeq ∨ t.updateSeq = n.server.updateSeq)) ?_ hn.server
    ⟨⟨h.server, h.client⟩, .inr rfl⟩).1.1
  rintro a b _ ⟨⟨ha, hc⟩, hlast⟩ hab hclose
  have hle : a.updateSeq.toNat ≤ b.updateSeq.toNat := by
    rcases hclose with hq | rfl
    · exact Nat.le_of_eq (congrArg UInt8.toNat hq.symm)
    · rcases hlast with hq | hq
      · exact Nat.le_of_eq (congrArg UInt8.toNat hq)
      · rwa [hq]
  refine ⟨⟨ha.sends hab hle, hc.sends hab hle⟩, ?_⟩
  rcases hclose with hq | rfl
  · exact hlast.imp hq.trans hq.trans
  · exact .inl rfl

theorem inTurn_step (hn : n.Wired sid) (h : n.InTurn) (hf : n.Follows w i)
    (hs : n.step w i = .ok n') : n'.InTurn := by
  have hw := hf.1 n' hs
  cases step_moves hn hs with
  | idle hx => exact hx ▸ h
  | server hx =>
    obtain ⟨ha, hc⟩ := hx.inTurn hn h hw
    have hsame : n'.client = n.client :=
      (hx.preserves (P := fun _ => True) (fun _ _ _ _ _ _ => trivial) hn.server trivial).2.2
    exact ⟨ha, hsame.symm ▸ hc⟩
  | client hx =>
    have hsame := (hx.playing hn).2
    refine ⟨hsame.symm ▸ h.server, ?_⟩
    rw [hsame]
    exact hx.tracks hn h hf

theorem inTurn_run (h₀ : Opens n₀) (hr : Reach (step w) (Follows w) n₀ n) : n.InTurn := by
  have hboth : n.Wired n₀.server.session ∧ n.InTurn :=
    hr.invariant (P := fun n => n.Wired n₀.server.session ∧ n.InTurn)
      (fun _ _ _ h hf hs => ⟨wired_step h.1 hs, inTurn_step h.1 h.2 hf hs⟩) ⟨h₀.wired, h₀.inTurn⟩
  exact hboth.2

/-- A client that picks an action over the newest UPDATE picks it for the turn the server is in, and
the server takes it, as long as the client follows. -/
theorem acts_in_turn (h₀ : Opens n₀) (hr : Reach (step w) (Follows w) n₀ n)
    (hm : n.client.mode ≠ .off) (hp : n.client.phase = .waitAction ∨ n.client.phase = .waitSwitch)
    (hq : n.client.lastAppliedUpdateSeq = n.server.updateSeq) :
    n.client.clientTurn = n.server.engine.turn.toUInt8 ∧ ∀ env a j,
      n.server.serverAuthOnActionV2Pkt env n.server.remoteId (n.client.actionPacket a j) =
        (n.server.ackUpdate n.server.updateSeq).clientAction env a j := by
  have hn := wired_run h₀ hr
  have hc : n.client.Choosing := by
    unfold Choosing
    rcases hp with hp | hp <;> rw [hp] <;> decide
  have ht := (inTurn_run h₀ hr).client.turn hm hc hq
  refine ⟨ht, fun env a j => ?_⟩
  obtain ⟨_, _, hs, _⟩ := hn.client.alive hm
  unfold serverAuthOnActionV2Pkt actionPacket
  dsimp only
  rw [if_neg (by simp [hs, hn.server.session]), if_neg (by exact not_not.mpr ht), hq]

/-- A call moves the count of UPDATEs by one at most. -/
theorem seq_step (hn : n.Wired sid) (hs : n.step w i = .ok n') :
    n'.server.updateSeq = n.server.updateSeq ∨
      n'.server.updateSeq = n.server.updateSeq + 1 := by
  cases step_moves hn hs with
  | idle hx => exact .inl (hx ▸ rfl)
  | server hx =>
    refine (hx.preserves (P := fun t => t.updateSeq = n.server.updateSeq ∨
      t.updateSeq = n.server.updateSeq + 1 ∧ n'.server.updateSeq = t.updateSeq) ?_ hn.server
      (.inl rfl)).1.imp_right And.left
    rintro a b _ ha hab hclose
    rcases hab.seq with ⟨hq, _⟩ | hq
    · rcases ha with ha | ⟨ha, hl⟩
      · exact .inl (hq.trans ha)
      · exact .inr ⟨hq.trans ha, hl.trans hq.symm⟩
    · rcases hclose with he | rfl
      · exact absurd (hq.symm.trans he) (by simp)
      · rcases ha with ha | ⟨_, hl⟩
        · exact .inr ⟨hq.trans (congrArg (· + 1) ha), rfl⟩
        · exact absurd (hq.symm.trans hl) (by simp)
  | client hx => exact .inl (congrArg TextBattle.updateSeq (hx.playing hn).2)

/-- A run of fewer than 256 calls sends fewer than 256 UPDATEs. -/
theorem fewUpdates_along {l : List (Env × Event)} (hn : n.Wired sid)
    (h : n.server.updateSeq.toNat + l.length < 256) : Along (step w) (FewUpdates w) n l := by
  induction l generalizing n with
  | nil => trivial
  | cons i l ih =>
    have hlen : n.server.updateSeq.toNat + l.length + 1 < 256 := h
    have hnext (m : Net) (hs : n.step w i = .ok m) :
        n.server.updateSeq.toNat ≤ m.server.updateSeq.toNat ∧
          m.server.updateSeq.toNat ≤ n.server.updateSeq.toNat + 1 := by
      rcases seq_step hn hs with hq | hq
      · rw [hq]
        omega
      · have hadd : (n.server.updateSeq + 1).toNat = (n.server.updateSeq.toNat + 1) % 256 :=
          UInt8.toNat_add ..
        rw [hq, hadd]
        omega
    refine ⟨fun m hs => (hnext m hs).1, fun m hs => ih (wired_step hn hs) ?_⟩
    have hle := (hnext m hs).2
    omega

/-! The server and node 7, over a wire that delays a request of the state. -/

def nodes : Nodes := ⟨1, 7⟩

def opening : Net :=
  ⟨fresh.idle.startServerAuthAsInitiator clock 7 (soloParty 0x99 33 0) [],
    (fresh.setMyTbParty (soloParty 0xB0 33 0) []).idle⟩

theorem opening_opens : Opens opening := .mk ..

/-- Node 7 accepts, and reads the first UPDATE. -/
def meet : List (Env × Event) :=
  [(clock, .toClient 0), (clock, .clientKey 121), (clock, .toServer 0), (clock, .toClient 1)]

/-- In between it asks for the state, and the request arrives after the first turn. -/
def lateRequest : List (Env × Event) :=
  [(clock, .toClient 0), (clock, .clientKey 121), (clock, .toServer 0), (clock, .clientTick 15000),
    (clock, .toClient 1), (clock, .clientKey 49), (clock, .serverKey 49), (clock, .toServer 2),
    (clock, .serverTick 0), (clock, .toServer 1), (clock, .toClient 3)]

theorem follows_of_quiet (hf : n.FewUpdates w i) (h : ∀ k, i.2 ≠ .toClient k) : n.Follows w i :=
  ⟨hf, fun k _ hk => absurd hk (h k)⟩

/-- A client that has not read the newest UPDATE follows whatever UPDATE it is handed. -/
theorem follows_of_behind {env : Env} {k : Nat} (hf : n.FewUpdates w (env, .toClient k))
    (ht : (n.server.nth k).map (·.type) ≠ some textBattleFullState)
    (hq : n.client.mode ≠ .off → n.client.lastAppliedUpdateSeq ≠ n.server.updateSeq) :
    n.Follows w (env, .toClient k) := by
  refine ⟨hf, fun k' p hk hp hm => ⟨fun _ hx => absurd hx (hq hm), fun hx => ?_⟩⟩
  cases hk
  rw [hp] at ht
  exact absurd (congrArg some hx) ht

theorem meet_follows : Along (step nodes) (Follows nodes) opening meet := by
  have hfew := fewUpdates_along (w := nodes) (l := meet) opening_opens.wired (by decide)
  refine ⟨follows_of_behind hfew.1 (by decide) (fun h => absurd rfl h), fun n₁ h₁ =>
    ⟨follows_of_quiet (hfew.2 n₁ h₁).1 nofun, fun n₂ h₂ =>
      ⟨follows_of_quiet ((hfew.2 n₁ h₁).2 n₂ h₂).1 nofun, fun n₃ h₃ =>
        ⟨follows_of_behind (((hfew.2 n₁ h₁).2 n₂ h₂).2 n₃ h₃).1 ?_ ?_, fun _ _ => trivial⟩⟩⟩⟩
  · cases h₁
    cases h₂
    cases h₃
    decide +kernel
  · cases h₁
    cases h₂
    cases h₃
    intro _
    decide +kernel

/-- Node 7 has read the first UPDATE. -/
theorem acts_in_turn_meet : ∃ n, play (step nodes) opening meet = .ok n ∧
    n.client.clientTurn = n.server.engine.turn.toUInt8 ∧ ∀ env a j,
      n.server.serverAuthOnActionV2Pkt env n.server.remoteId (n.client.actionPacket a j) =
        (n.server.ackUpdate n.server.updateSeq).clientAction env a j := by
  obtain ⟨n, hn, hx⟩ := exists_of_map (x := play (step nodes) opening meet)
    (f := fun n => (n.client.mode, n.client.phase, n.client.lastAppliedUpdateSeq, n.server.updateSeq))
    (b := (.networked, .waitAction, 1, 1)) (by decide +kernel)
  simp only [Prod.mk.injEq] at hx
  obtain ⟨hm, hp, hl, hq⟩ := hx
  exact ⟨n, hn, acts_in_turn opening_opens (.of_play meet_follows hn) (by rw [hm]; decide) (.inl hp)
    (hl.trans hq.symm)⟩

/-- The state it had asked for takes the client to the newest UPDATE, and leaves it in the turn
before. -/
theorem full_state_skips_a_turn : Opens opening ∧
    ¬ ∀ n, Reach (step nodes) (FewUpdates nodes) opening n → n.client.mode ≠ .off →
      n.client.phase = .waitAction ∨ n.client.phase = .waitSwitch →
      n.client.lastAppliedUpdateSeq = n.server.updateSeq →
      n.client.clientTurn = n.server.engine.turn.toUInt8 := by
  refine ⟨opening_opens, fun h => ?_⟩
  obtain ⟨n, hn, hx⟩ := exists_of_map (x := play (step nodes) opening lateRequest)
    (f := fun n => (n.client.mode, n.client.phase, n.client.lastAppliedUpdateSeq, n.server.updateSeq,
      n.client.clientTurn, n.server.engine.turn))
    (b := (.networked, .waitAction, 2, 2, 0, 1)) (by decide +kernel)
  simp only [Prod.mk.injEq] at hx
  obtain ⟨hm, hp, hl, hq, hc, ht⟩ := hx
  have hrun := fewUpdates_along (w := nodes) (l := lateRequest) opening_opens.wired (by decide)
  have hsame := h n (.of_play hrun hn) (by rw [hm]; decide) (.inl hp) (hl.trans hq.symm)
  rw [hc, ht] at hsame
  exact absurd hsame (by decide)

end Net
end MonsterMesh

import MonsterMesh.Battle.Cases
import MonsterMesh.Battle.Frame
import MonsterMesh.Battle.Start

/-! The UPDATEs of a session at the client: in any order, any number of times, any number of them. -/
namespace MonsterMesh

open Fallible Bytes

/-- The UPDATEs of a session by number, from 1 on. The sequence number is the number's low byte,
and none is shorter than its turn, flags and hash. -/
structure UpdateStream where
  session : UInt16
  payload : Nat → List UInt8
  long : ∀ n, 6 ≤ (payload n).length

def UpdateStream.packet (u : UpdateStream) (n : Nat) : Packet :=
  ⟨textBattleUpdate, u.session, UInt8.ofNat n, u.payload n⟩

namespace TextBattle

variable {t t' u v : TextBattle} {env : Env} {p : Packet}

/-- Whether the client applies the UPDATE: a new one that decodes to the board it was hashed from. -/
def applies (t : TextBattle) (p : Packet) : Bool :=
  match p.payload with
  | turn :: fhi :: flo :: h₀ :: h₁ :: h₂ :: body =>
    p.session = t.session && t.phase ≠ .waitChallengeOverlay &&
      !(p.seq = t.lastAppliedUpdateSeq && t.lastAppliedUpdateSeq ≠ 0) &&
      match t.toScene.applySections (ofBe16 fhi flo) body with
      | .ok (s, _) => hash24Bytes (t.redrawn turn s).boardHash24 = [h₀, h₁, h₂]
      | .error _ => false
  | _ => false

theorem Fresh.applies_ok {turn : UInt8} {flags : UInt16} {hash body : List UInt8} {s : Scene}
    {fin : Bool} (hp : t.Fresh p turn flags hash body)
    (hx : t.toScene.applySections flags body = .ok (s, fin)) :
    t.applies p = decide (hash24Bytes (t.redrawn turn s).boardHash24 = hash) := by
  obtain ⟨hs, ho, hd, fhi, flo, h₀, h₁, h₂, hpay, rfl, rfl⟩ := hp
  unfold applies
  have hd : (decide (p.seq = t.lastAppliedUpdateSeq) && decide (t.lastAppliedUpdateSeq ≠ 0)) = false := by
    simpa using hd
  rw [hpay]
  dsimp only
  rw [hd, hx]
  simp [hs, ho]

theorem Fresh.applies_error {turn : UInt8} {flags : UInt16} {hash body : List UInt8} {s : Scene}
    (hp : t.Fresh p turn flags hash body)
    (hx : t.toScene.applySections flags body = .error s) : t.applies p = false := by
  obtain ⟨hs, ho, hd, fhi, flo, h₀, h₁, h₂, hpay, rfl, rfl⟩ := hp
  unfold applies
  rw [hpay]
  simp only [hx, Bool.and_false]

theorem applies_of_ignored (h : p.session ≠ t.session ∨ p.payload.length < 6) :
    t.applies p = false := by
  unfold applies
  split
  · rename_i hp
    obtain h | h := h
    · simp [h]
    · rw [hp] at h
      simp only [List.length_cons] at h
      omega
  · rfl

theorem applies_of_repeated (hd : p.seq = t.lastAppliedUpdateSeq) (h₀ : t.lastAppliedUpdateSeq ≠ 0) :
    t.applies p = false := by
  unfold applies
  split
  · rw [hd]
    simp [h₀]
  · rfl

/-! ### What other calls leave alone -/

/-- The identity of the battle, the newest UPDATE and the buffered one are those of `t`. -/
structure Keeps (t t' : TextBattle) : Prop where
  link : t'.link = t.link
  seq : t'.lastAppliedUpdateSeq = t.lastAppliedUpdateSeq
  buffer : t'.preAcceptUpdate = t.preAcceptUpdate
  pending : t'.pendingRemoteAction = t.pendingRemoteAction
  phase : t'.phase = t.phase ∨ t'.phase ≠ .waitChallengeOverlay ∧ t'.phase ≠ .waitPeerReady

namespace Keeps

theorem refl (t : TextBattle) : t.Keeps t := ⟨rfl, rfl, rfl, rfl, .inl rfl⟩

theorem trans (h : t.Keeps u) (h' : u.Keeps t') : t.Keeps t' where
  link := h'.link.trans h.link
  seq := h'.seq.trans h.seq
  buffer := h'.buffer.trans h.buffer
  pending := h'.pending.trans h.pending
  phase := by
    obtain hp | hp := h'.phase
    · rw [hp]
      exact h.phase
    · exact .inr hp

end Keeps

theorem Shows.keeps (h : t.Shows t') (hp : t'.phase = t.phase ∨ t'.Menu) : t.Keeps t' := by
  rw [h]
  refine ⟨rfl, rfl, rfl, rfl, ?_⟩
  obtain hp | hp | hp | hp := hp
  · exact .inl hp
  all_goals exact .inr (by rw [hp]; decide)

theorem clientAuthSendActionV2_keeps (env : Env) (a i : UInt8) : t.Keeps (t.clientAuthSendActionV2 env a i) := by
  unfold clientAuthSendActionV2
  dsimp only
  split <;> exact ⟨rfl, rfl, rfl, rfl, .inl rfl⟩

theorem setPhase_keeps {ph : Phase} (h : ph ≠ .waitChallengeOverlay ∧ ph ≠ .waitPeerReady) :
    t.Keeps (t.setPhase ph) :=
  ⟨rfl, rfl, rfl, rfl, .inr h⟩

theorem ClientKey.keeps (h : t.ClientKey env t') : t'.mode = .off ∨ t.Keeps t' := by
  cases h with
  | left _ h => exact .inl (h ▸ rfl)
  | idle h => exact .inr (h ▸ .refl t)
  | shown _ h hp => exact .inr (h.keeps hp)
  | fled _ h =>
    rw [h]
    exact .inr ((clientAuthSendActionV2_keeps _ 2 0).trans (setPhase_keeps (by decide)))
  | submitted _ u a i hu _ h =>
    rw [h]
    refine .inr (.trans (u := u.setPhase t.phase) ?_ (.trans (u := u.setPhase .waitRemote) ?_ ?_))
    · rw [hu]
      exact ⟨rfl, rfl, rfl, rfl, .inl rfl⟩
    · exact ⟨rfl, rfl, rfl, rfl, .inr ⟨nofun, nofun⟩⟩
    · have hk := clientAuthSendActionV2_keeps (t := u) env a i
      exact ⟨hk.link, hk.seq, hk.buffer, hk.pending, .inl rfl⟩

theorem AcceptTick.keeps {now : UInt32} (h : t.AcceptTick now t') : t.Keeps t' := by
  cases h with
  | quiet h => exact h ▸ .refl t
  | asked _ h => exact h ▸ ⟨rfl, rfl, rfl, rfl, .inl rfl⟩
  | accepted _ _ h => exact h ▸ ⟨rfl, rfl, rfl, rfl, .inl rfl⟩

theorem ActionTick.keeps (h : t.ActionTick env t') : t.Keeps t' := by
  cases h with
  | quiet h => exact h ▸ .refl t
  | again _ _ h => exact h ▸ clientAuthSendActionV2_keeps _ _ _

theorem TimeoutTick.keeps (h : t.TimeoutTick t') : t.Keeps t' := by
  cases h with
  | quiet h => exact h ▸ .refl t
  | forfeited _ _ _ h => exact h ▸ ⟨rfl, rfl, rfl, rfl, .inr ⟨nofun, nofun⟩⟩
  | shown _ _ _ h => exact h ▸ ⟨rfl, rfl, rfl, rfl, .inr ⟨nofun, nofun⟩⟩

/-! ### What an UPDATE does -/

theorem lt_of_not_sentinel {a : UInt8} (h : a ≠ 0xFE) (h' : a ≠ 0xFF) : a < 0xFE := by
  have h₁ : a.toNat ≠ 254 := fun hx => h (UInt8.toNat_inj.mp hx)
  have h₂ : a.toNat ≠ 255 := fun hx => h' (UInt8.toNat_inj.mp hx)
  have h₃ := a.toNat_lt
  exact UInt8.lt_iff_toNat_lt.mpr (by
    change a.toNat < 254
    omega)

/-- The answer to an UPDATE that is already applied: an ACK, in which a chosen action goes out once
more, for the turn the client is in. -/
def OnlyAcks (t t' : TextBattle) : Prop :=
  ∃ ack ms, ack.type = textBattleActionV2 ∧
    t' = { t with
      awaitingFirstUpdate := false, awaitingUpdateSinceMs := 0
      clientActionTurn :=
        if t.clientActionType < 0xFE then t.clientTurn else t.clientActionTurn
      lastClientActionSendMs := ms, sent := ack :: t.sent }

theorem reAck_onlyAcks : t.OnlyAcks (t.heard.reAck env) := by
  have hack (i : UInt8) (h : ¬ t.clientActionType < 0xFE) :
      t.OnlyAcks (t.heard.clientAuthSendActionV2 env 0xFE i) := by
    refine ⟨t.heard.actionPacket 0xFE i, t.lastClientActionSendMs, rfl, ?_⟩
    rw [clientAuthSendActionV2_ack, if_neg h]
    rfl
  unfold reAck
  split
  · rename_i h
    have h : t.clientActionType ≠ 0xFF := h
    by_cases ha : t.clientActionType = 0xFE
    · have hh : t.heard.clientActionType = 0xFE := ha
      rw [hh]
      exact hack _ (by rw [ha]; decide)
    · refine ⟨t.heard.actionPacket t.clientActionType t.clientActionIndex, env.millis, rfl, ?_⟩
      rw [if_pos (lt_of_not_sentinel ha h)]
      exact clientAuthSendActionV2_eq ha _
  · rename_i h
    have h : t.clientActionType = 0xFF := not_not.mp h
    exact hack _ (by rw [h]; decide)

theorem OnlyAcks.keeps (h : t.OnlyAcks t') : t.Keeps t' := by
  obtain ⟨_, _, _, rfl⟩ := h
  exact ⟨rfl, rfl, rfl, rfl, .inl rfl⟩

theorem redrawn_keeps (turn : UInt8) (s : Scene) : t.Keeps (t.redrawn turn s) :=
  ⟨rfl, rfl, rfl, rfl, .inl rfl⟩

/-- Committing leaves the battle and the buffer, and takes over the sequence number. -/
theorem commitUpdate_keeps (seq : UInt8) (fin need : Bool) :
    Keeps { t with lastAppliedUpdateSeq := seq } (t.commitUpdate env seq fin need) := by
  unfold commitUpdate
  dsimp only
  split_ifs
  · rw [clientAuthSendActionV2_ack]
    exact ⟨rfl, rfl, rfl, rfl, .inr ⟨nofun, nofun⟩⟩
  · exact ⟨rfl, rfl, rfl, rfl, .inr ⟨nofun, nofun⟩⟩
  · exact ⟨rfl, rfl, rfl, rfl, .inr ⟨nofun, nofun⟩⟩

/-- An UPDATE past the overlay either is applied and becomes the newest, or is not. -/
theorem UpdateStep.keeps (ho : t.phase ≠ .waitChallengeOverlay) (h : t.UpdateStep env p t') :
    (t.applies p = true ∧ Keeps { t with lastAppliedUpdateSeq := p.seq } t') ∨
      (t.applies p = false ∧ t.Keeps t') := by
  cases h with
  | ignored hi h =>
    refine .inr ⟨applies_of_ignored hi, h ▸ .refl t⟩
  | buffered _ hx => exact absurd hx ho
  | repeated hs _ hd h₀ h => exact .inr ⟨applies_of_repeated hd h₀, h ▸ reAck_onlyAcks.keeps⟩
  | cut turn flags hash body hp s hx h =>
    exact .inr ⟨hp.applies_error hx, h ▸ ⟨rfl, rfl, rfl, rfl, .inl rfl⟩⟩
  | rejected turn flags hash body hp s fin hx hh h =>
    refine .inr ⟨(hp.applies_ok hx).trans (decide_eq_false hh), ?_⟩
    rw [h]
    exact ⟨rfl, rfl, rfl, rfl, .inl rfl⟩
  | applied turn flags hash body hp s fin hx hh h =>
    refine .inl ⟨(hp.applies_ok hx).trans (decide_eq_true hh), ?_⟩
    rw [h]
    refine .trans ?_ (commitUpdate_keeps _ _ _)
    exact ⟨rfl, rfl, rfl, rfl, .inl rfl⟩

/-- The battle a client opens with Y, before the UPDATE it has buffered. -/
def joined (t : TextBattle) (env : Env) : TextBattle :=
  openBattle { t.send (t.acceptPacket true) with lastAcceptSendMs := env.millis } env

theorem joined_keeps : t.Keeps (t.joined env) := ⟨rfl, rfl, rfl, rfl, .inr ⟨nofun, nofun⟩⟩

/-- Without the buffered UPDATE. -/
def drained (t : TextBattle) : TextBattle := { t with preAcceptUpdate := none }

theorem applyBuffered_some (h : t.preAcceptUpdate = some p) :
    t.applyBuffered env = t.drained.clientAuthOnUpdatePkt env p := by
  unfold applyBuffered
  rw [h]
  rfl

theorem applyBuffered_none (h : t.preAcceptUpdate = none) : t.applyBuffered env = t := by
  unfold applyBuffered
  rw [h]

/-- The key that accepts a challenge. -/
inductive OverlayKey (t : TextBattle) (env : Env) (c : UInt8) (t' : TextBattle) : Prop
  | kept (hj : ¬ (isChar c 'y' 'Y' = true ∧ t.awaitingFirstUpdate = false)) (h : t.Keeps t')
  | opened (hy : isChar c 'y' 'Y' = true) (ha : t.awaitingFirstUpdate = false)
      (h : t' = (t.joined env).applyBuffered env)

theorem keyOverlay_cases (env : Env) (c : UInt8) : t.OverlayKey env c (t.keyOverlay env c) := by
  unfold keyOverlay
  split_ifs with hy hn
  · cases ha : t.awaitingFirstUpdate with
    | true =>
      refine .kept (by simp [ha]) ?_
      unfold clientAuthSendAccept
      dsimp only
      rw [if_neg (by decide), if_pos (by exact ha)]
      exact ⟨rfl, rfl, rfl, rfl, .inl rfl⟩
    | false =>
      refine .opened hy ha ?_
      unfold clientAuthSendAccept
      dsimp only
      rw [if_neg (by decide), if_neg (by simp [send, ha])]
      rfl
  · exact .kept (by simp [hy]) ⟨rfl, rfl, rfl, rfl, .inr ⟨nofun, nofun⟩⟩
  · exact .kept (by simp [hy]) (.refl t)

end TextBattle

/-! ### Runs of a client -/

/-- A client and two numbers: of the newest UPDATE it has applied, and of the one it has buffered. -/
structure Reader where
  t : TextBattle
  newest : Nat
  held : Nat

inductive Delivery where
  | update (fromId : UInt32) (n : Nat)
  | key (c : UInt8)
  | tick (nowMs : UInt32)

namespace Reader

open TextBattle

variable {u : UpdateStream} {r r₀ r' : Reader} {i : Env × Delivery}

/-- The newest applied number after a key: Y applies the buffered UPDATE. -/
def newestAfter (r : Reader) (env : Env) (c : UInt8) : Nat :=
  match r.t.preAcceptUpdate with
  | some p =>
    if r.t.mode ≠ .off ∧ r.t.phase = .waitChallengeOverlay ∧ isChar c 'y' 'Y' ∧
        !r.t.awaitingFirstUpdate ∧ (r.t.joined env).drained.applies p then
      max r.newest r.held
    else r.newest
  | none => r.newest

def step (u : UpdateStream) (r : Reader) (i : Env × Delivery) : Except Fault Reader :=
  match i.2 with
  | .update fromId n => .ok
    { t := (r.t.handlePacket i.1 fromId (u.packet n).bytes).2
      newest := if r.t.applies (u.packet n) then max r.newest n else r.newest
      held := if r.t.phase = .waitChallengeOverlay then n else r.held }
  | .key c => (fun t => ⟨t, r.newestAfter i.1 c, r.held⟩) <$> r.t.handleKey i.1 c
  | .tick nowMs => (fun t => ⟨t, r.newest, r.held⟩) <$> r.t.tick i.1 nowMs

/-- A client that has just received the challenge of the session. -/
inductive Challenged (u : UpdateStream) : Reader → Prop
  | mk (t : TextBattle) (env : Env) (fromId : UInt32) (buf : List UInt8) (hm : t.mode = .off)
      (hc : (t.handlePacket env fromId buf).2.mode ≠ .off)
      (hs : (t.handlePacket env fromId buf).2.session = u.session) :
      Challenged u ⟨(t.handlePacket env fromId buf).2, 0, 0⟩

/-- A call during the battle. -/
def InBattle (r : Reader) (i : Env × Delivery) : Prop :=
  r.t.mode ≠ .off ∧ ∀ fromId n, i.2 = .update fromId n → 0 < n

/-- An UPDATE that is no newer than the newest one is recognised by its sequence number: it is
the newest itself, or a multiple of 256 older, and the number is not a multiple of 256. -/
def Recognises (r : Reader) (i : Env × Delivery) : Prop :=
  r.InBattle i ∧ ∀ fromId n, i.2 = .update fromId n → n ≤ r.newest →
    UInt8.ofNat n = UInt8.ofNat r.newest ∧ UInt8.ofNat r.newest ≠ 0

/-- What holds as long as the battle lasts. -/
structure Reading (u : UpdateStream) (r : Reader) : Prop where
  mode : r.t.mode = .networked
  role : r.t.role = .client
  session : r.t.session = u.session
  seq : r.t.lastAppliedUpdateSeq = UInt8.ofNat r.newest
  overlay : r.t.phase = .waitChallengeOverlay → r.newest = 0
  buffer : ∀ p, r.t.preAcceptUpdate = some p → p.seq = UInt8.ofNat r.held
  peer : r.t.phase ≠ .waitPeerReady
  pending : r.t.pendingRemoteAction = false

theorem Challenged.reading (h : Challenged u r) : r.Reading u := by
  obtain ⟨t, env, fromId, buf, hm, hc, hs⟩ := h
  obtain h | ⟨session, name, party, h⟩ := handlePacket_off env fromId hm
  · exact absurd h.1 hc
  · rw [h] at hs ⊢
    exact ⟨rfl, rfl, hs, rfl, fun _ => rfl, nofun, nofun, rfl⟩

theorem Reading.keeps {t' : TextBattle} (h : r.Reading u) (hk : r.t.Keeps t') :
    Reading u ⟨t', r.newest, r.held⟩ where
  mode := (congrArg Link.mode hk.link).trans h.mode
  role := (congrArg Link.role hk.link).trans h.role
  session := (congrArg Link.session hk.link).trans h.session
  seq := hk.seq.trans h.seq
  overlay := fun ho => h.overlay ((hk.phase.resolve_right fun hx => hx.1 ho).symm.trans ho)
  buffer := fun p hp => h.buffer p (hk.buffer.symm.trans hp)
  peer := by
    obtain hp | hp := hk.phase
    · rw [hp]
      exact h.peer
    · exact hp.2
  pending := hk.pending.trans h.pending

/-- Committing the UPDATE of number `n` makes it the newest. -/
theorem Reading.commits {t' : TextBattle} {p : Packet} {n : Nat} (h : r.Reading u)
    (ho : r.t.phase ≠ .waitChallengeOverlay) (hp : p.seq = UInt8.ofNat n)
    (hk : Keeps { r.t with lastAppliedUpdateSeq := p.seq } t') : Reading u ⟨t', n, r.held⟩ :=
  Reading.keeps (r := ⟨{ r.t with lastAppliedUpdateSeq := p.seq }, n, r.held⟩)
    ⟨h.mode, h.role, h.session, hp, fun hx => absurd hx ho, h.buffer, h.peer, h.pending⟩ hk

theorem dispatch_update {t : TextBattle} {env : Env} {fromId : UInt32} {p : Packet}
    (hm : t.mode ≠ .off) (hr : t.role = .client) (ht : p.type = textBattleUpdate) :
    (t.dispatch env fromId p).2 = t.clientAuthOnUpdatePkt env p := by
  unfold dispatch
  rw [if_neg (by rw [ht]; decide), if_neg fun h => absurd (hr.symm.trans h.2.1) (by decide),
    if_neg fun h => absurd (hr.symm.trans h.2.1) (by decide),
    if_neg fun h => absurd (hr.symm.trans h.2.1) (by decide), if_pos ⟨hm, hr, ht⟩]

theorem handlePacket_update {env : Env} {fromId : UInt32} {n : Nat} (h : r.Reading u) :
    (r.t.handlePacket env fromId (u.packet n).bytes).2 =
      r.t.clientAuthOnUpdatePkt env (u.packet n) := by
  unfold handlePacket
  rw [Packet.ofBytes_bytes]
  exact dispatch_update (by rw [h.mode]; decide) h.role rfl

theorem Reading.not_ignored (h : r.Reading u) (n : Nat) :
    ¬ ((u.packet n).session ≠ r.t.session ∨ (u.packet n).payload.length < 6) := by
  rintro (hs | hl)
  · exact hs h.session.symm
  · exact absurd hl (Nat.not_lt.mpr (u.long n))

/-- An UPDATE in a state that recognises the old ones. -/
theorem update_reading {env : Env} {fromId : UInt32} {n : Nat} (h : r.Reading u)
    (hr : r.Recognises (env, .update fromId n)) (hs : r.step u (env, .update fromId n) = .ok r') :
    r'.Reading u := by
  cases hs
  rw [handlePacket_update h]
  by_cases ho : r.t.phase = .waitChallengeOverlay
  · have hn : r.t.applies (u.packet n) = false := by
      unfold applies
      split <;> simp [ho]
    rw [hn, if_neg Bool.false_ne_true]
    cases clientAuthOnUpdatePkt_cases (t := r.t) env (u.packet n) with
    | ignored hi => exact absurd hi (h.not_ignored n)
    | buffered _ _ _ hx =>
      rw [hx, if_pos ho]
      refine ⟨h.mode, h.role, h.session, h.seq, h.overlay, fun p hp => ?_, h.peer, h.pending⟩
      cases hp
      rfl
    | repeated _ hx => exact absurd ho hx
    | cut _ _ _ _ hp => exact absurd ho hp.overlay
    | rejected _ _ _ _ hp => exact absurd ho hp.overlay
    | applied _ _ _ _ hp => exact absurd ho hp.overlay
  · rw [if_neg ho]
    obtain ⟨ha, hk⟩ | ⟨ha, hk⟩ :=
      clientAuthOnUpdatePkt_cases (t := r.t) env (u.packet n) |>.keeps ho
    · have hnew : r.newest < n := by
        by_contra hle
        obtain ⟨heq, hne⟩ := hr.2 fromId n rfl (Nat.not_lt.mp hle)
        rw [applies_of_repeated (heq.trans h.seq.symm) (by rw [h.seq]; exact hne)] at ha
        exact absurd ha (by decide)
      rw [ha, if_pos rfl, Nat.max_eq_right (Nat.le_of_lt hnew)]
      exact h.commits ho rfl hk
    · rw [ha, if_neg Bool.false_ne_true]
      exact h.keeps hk

/-- The key that answers the challenge. -/
theorem overlay_reading {env : Env} {c : UInt8} {t' : TextBattle} (h : r.Reading u)
    (ho : r.t.phase = .waitChallengeOverlay) (ht : r.t.handleKey env c = .ok t') :
    Reading u ⟨t', r.newestAfter env c, r.held⟩ := by
  have hkey : r.t.handleKey env c = .ok (r.t.keyOverlay env c) := by
    unfold handleKey
    rw [if_neg (by rw [h.mode]; decide), if_neg (by rw [ho]; decide), if_pos ho]
  rw [hkey] at ht
  cases ht
  cases keyOverlay_cases (t := r.t) env c with
  | kept hj hk =>
    have hn : r.newestAfter env c = r.newest := by
      unfold newestAfter
      split
      · exact if_neg fun hx => hj ⟨hx.2.2.1, by simpa using hx.2.2.2.1⟩
      · rfl
    rw [hn]
    exact h.keeps hk
  | opened hy ha hx =>
    rw [hx]
    unfold newestAfter
    cases hp : r.t.preAcceptUpdate with
    | none =>
      rw [applyBuffered_none (t := r.t.joined env) hp]
      exact h.keeps joined_keeps
    | some p =>
      have hj : Reading u ⟨(r.t.joined env).drained, r.newest, r.held⟩ :=
        ⟨h.mode, h.role, h.session, h.seq, nofun, nofun, nofun, h.pending⟩
      have hpast : (r.t.joined env).drained.phase ≠ .waitChallengeOverlay := nofun
      rw [applyBuffered_some (t := r.t.joined env) hp]
      dsimp only
      obtain ⟨happ, hk⟩ | ⟨happ, hk⟩ := (clientAuthOnUpdatePkt_cases
        (t := (r.t.joined env).drained) env p).keeps hpast
      · rw [if_pos ⟨by rw [h.mode]; decide, ho, hy, by simp [ha], happ⟩, h.overlay ho,
          Nat.zero_max]
        exact hj.commits hpast (h.buffer p hp) hk
      · rw [happ, if_neg fun hx => absurd hx.2.2.2.2 Bool.false_ne_true]
        exact hj.keeps hk

theorem key_reading {env : Env} {c : UInt8} (h : r.Reading u)
    (hs : r.step u (env, .key c) = .ok r') : r'.t.mode = .off ∨ r'.Reading u := by
  obtain ⟨t', ht, hs⟩ := map_eq_ok.mp hs
  subst hs
  by_cases ho : r.t.phase = .waitChallengeOverlay
  · exact .inr (overlay_reading h ho ht)
  · have hn : r.newestAfter env c = r.newest := by
      unfold newestAfter
      split
      · exact if_neg fun hx => ho hx.2.1
      · rfl
    dsimp only
    rw [hn]
    obtain hx | hk := (handleKey_client (by rw [h.mode]; decide) h.role ho ht).keeps
    · exact .inl hx
    · exact .inr (h.keeps hk)

theorem tick_reading {env : Env} {now : UInt32} (h : r.Reading u)
    (hs : r.step u (env, .tick now) = .ok r') : r'.Reading u := by
  obtain ⟨t', ht, hs⟩ := map_eq_ok.mp hs
  subst hs
  obtain ⟨v, w, hv, hw, ht⟩ := tick_client h.mode h.role h.peer h.pending ht
  exact h.keeps ((hv.keeps.trans hw.keeps).trans ht.keeps)

theorem step_reading (h : r.Reading u) (hr : r.Recognises i) (hs : r.step u i = .ok r') :
    r'.t.mode = .off ∨ r'.Reading u := by
  obtain ⟨env, d⟩ := i
  cases d with
  | update fromId n => exact .inr (update_reading h hr hs)
  | key c => exact key_reading h hs
  | tick now => exact .inr (tick_reading h hs)

theorem run_reading (h₀ : Challenged u r₀) (hr : Reach (step u) Recognises r₀ r)
    (hm : r.t.mode ≠ .off) : r.Reading u := by
  induction hr with
  | refl => exact h₀.reading
  | tail i _ hc hs ih =>
    obtain hx | hx := step_reading (ih hc.1.1) hc hs
    · exact absurd hx hm
    · exact hx

def firstTurn : List (Env × Input) :=
  [(clock, .packet 7 joinPacket.bytes), (clock, .key 49),
    (clock, .packet 7 (Packet.bytes ⟨textBattleActionV2, 7, 0, [0, 0, 0, 1]⟩)), (clock, .tick 0)]

/-- The payloads of the UPDATEs a server has sent, newest first. -/
def shipped (as : List (Env × Input)) : List (List UInt8) :=
  match play TextBattle.step challenger as with
  | .ok t => (t.sent.filter (·.type = textBattleUpdate)).map (·.payload)
  | .error _ => []

/-- The UPDATEs of the first turn. -/
def duel : UpdateStream where
  session := 7
  payload n := if n = 1 then (shipped firstTurn).getD 1 [] else (shipped firstTurn).getD 0 []
  long n := by
    split <;> decide +kernel

theorem joiner_challenged : Challenged duel ⟨joiner, 0, 0⟩ :=
  .mk _ clock 1 _ rfl (by decide) rfl

/-- Node 7 accepts and reads `ns`. -/
def reads (ns : List Nat) : List (Env × Delivery) :=
  (clock, .key 121) :: ns.map fun n => (clock, .update 1 n)

theorem recognises_update {env : Env} {fromId : UInt32} {n : Nat} (hm : r.t.mode ≠ .off) (hn : 0 < n)
    (h : r.newest < n ∨ UInt8.ofNat n = UInt8.ofNat r.newest ∧ UInt8.ofNat r.newest ≠ 0) :
    r.Recognises (env, .update fromId n) := by
  refine ⟨⟨hm, fun f m hx => ?_⟩, fun f m hx hle => ?_⟩
  · cases hx
    exact hn
  · cases hx
    exact h.resolve_left (Nat.not_lt.mpr hle)

theorem update_mode {env : Env} {fromId : UInt32} {n : Nat} (hm : r.t.mode ≠ .off)
    (hs : r.step u (env, .update fromId n) = .ok r') : r'.t.mode ≠ .off := by
  cases hs
  unfold handlePacket
  rw [Packet.ofBytes_bytes]
  obtain h | h := dispatch_link (p := u.packet n) env fromId hm
  · exact fun hx => hm ((congrArg Link.mode h).symm.trans hx)
  · exact fun hx => hm ((congrArg Link.mode h).symm.trans hx)

theorem updates_inBattle (ns : List Nat) (h : ∀ n ∈ ns, 0 < n) (hm : r.t.mode ≠ .off) :
    Along (step u) InBattle r (ns.map fun n => (clock, .update 1 n)) := by
  induction ns generalizing r with
  | nil => trivial
  | cons n ns ih =>
    refine ⟨⟨hm, fun f m hx => ?_⟩, fun v hv => ih (fun m hx => h m (.tail _ hx)) (update_mode hm hv)⟩
    cases hx
    exact h n (.head _)

end Reader
end MonsterMesh

import MonsterMesh.Battle.Cases
import MonsterMesh.Battle.Finished
import MonsterMesh.Battle.Redraw
import MonsterMesh.Battle.Start
import MonsterMesh.Battle.Updates

/-! The byte an UPDATE decides a battle by: where it stands, and all that sets the flag of a win. -/
namespace MonsterMesh

open Fallible Bytes

/-- The bytes of the sections before RESULT. -/
def leadLength (flags : UInt16) : ℕ :=
  (if flags &&& tbUpdHp ≠ 0 then 4 else 0) + (if flags &&& tbUpdPp ≠ 0 then 4 else 0) +
    (if flags &&& tbUpdSwitch ≠ 0 then 2 else 0) + (if flags &&& tbUpdStatus ≠ 0 then 2 else 0)

/-- The byte of the RESULT section, when the sections reach it. -/
def resultByte (flags : UInt16) (body : List UInt8) : Option UInt8 :=
  if flags &&& tbUpdResult ≠ 0 then body[leadLength flags]? else none

namespace Scene

variable {s s' : Scene} {flags flag : UInt16} {rest : List UInt8} {n m : ℕ} {x : Scan}

/-- The reader takes `n` bytes, or there are not as many; the flag of a win stays as it is. -/
def Skips (n : ℕ) (s : Scene) (rest : List UInt8) : Scan → Prop
  | .ok (s', rest') => s'.playerWon = s.playerWon ∧ n ≤ rest.length ∧ rest' = rest.drop n
  | .error s' => s'.playerWon = s.playerWon ∧ rest.length < n

theorem Skips.bind {f : Scene → List UInt8 → Scan} (h : Skips n s rest x)
    (hf : ∀ s rest, Skips m s rest (f s rest)) : Skips (n + m) s rest (x >>= fun r => f r.1 r.2) := by
  cases x with
  | error s' => exact ⟨h.1, by have := h.2; omega⟩
  | ok r =>
    obtain ⟨s', rest'⟩ := r
    obtain ⟨hw, hn, rfl⟩ := h
    have h' := hf s' (rest.drop n)
    change Skips (n + m) s rest (f s' (rest.drop n))
    cases hx : f s' (rest.drop n) with
    | error s'' =>
      rw [hx] at h'
      have hlt := h'.2
      rw [List.length_drop] at hlt
      exact ⟨h'.1.trans hw, by omega⟩
    | ok r' =>
      obtain ⟨s'', rest''⟩ := r'
      rw [hx] at h'
      obtain ⟨hw', hm, hrest⟩ := h'
      rw [List.length_drop] at hm
      rw [List.drop_drop] at hrest
      exact ⟨hw'.trans hw, by omega, hrest⟩

theorem sectionIf_skips {f : Scene → List UInt8 → Scan} (hf : ∀ s rest, Skips n s rest (f s rest)) :
    Skips (if flags &&& flag ≠ 0 then n else 0) s rest (s.sectionIf flags flag f rest) := by
  unfold sectionIf
  split
  · exact hf s rest
  · exact ⟨rfl, Nat.zero_le _, rfl⟩

theorem applyHp_skips (s : Scene) (rest : List UInt8) : Skips 4 s rest (s.applyHp rest) := by
  match rest with
  | a :: b :: c :: d :: rest => exact ⟨rfl, by simp, rfl⟩
  | [] | [_] | [_, _] | [_, _, _] => exact ⟨rfl, by simp⟩

theorem applyPp_skips (s : Scene) (rest : List UInt8) : Skips 4 s rest (s.applyPp rest) := by
  match rest with
  | a :: b :: c :: d :: rest => exact ⟨rfl, by simp, rfl⟩
  | [] | [_] | [_, _] | [_, _, _] => exact ⟨rfl, by simp⟩

theorem applySwitch_skips (s : Scene) (rest : List UInt8) : Skips 2 s rest (s.applySwitch rest) := by
  match rest with
  | a :: b :: rest => exact ⟨rfl, by simp, rfl⟩
  | [] | [_] => exact ⟨rfl, by simp⟩

theorem applyStatus_skips (s : Scene) (rest : List UInt8) : Skips 2 s rest (s.applyStatus rest) := by
  match rest with
  | a :: b :: rest => exact ⟨rfl, by simp, rfl⟩
  | [] | [_] => exact ⟨rfl, by simp⟩

/-- The sections before RESULT. -/
def applyLead (s : Scene) (flags : UInt16) (rest : List UInt8) : Scan := do
  let (s, rest) ← s.sectionIf flags tbUpdHp applyHp rest
  let (s, rest) ← s.sectionIf flags tbUpdPp applyPp rest
  let (s, rest) ← s.sectionIf flags tbUpdSwitch applySwitch rest
  s.sectionIf flags tbUpdStatus applyStatus rest

/-- The sections behind it. -/
def applyTail (s : Scene) (flags : UInt16) (rest : List UInt8) : Except Scene Scene := do
  let (s, rest) ← s.sectionIf flags tbUpdLog applyLog rest
  let (s, rest) ← s.sectionIf flags tbUpdBench applyBench rest
  let (s, _) ← s.sectionIf flags tbUpdFx applyFx rest
  return s

theorem applySections_split : s.applySections flags rest = do
    let (s, rest) ← s.applyLead flags rest
    let (finished, s, rest) ← s.applyResult flags rest
    let s ← s.applyTail flags rest
    return (s, finished) := by
  unfold applySections applyLead applyTail
  simp only [bind_assoc]
  rfl

theorem applyLead_skips (s : Scene) (flags : UInt16) (rest : List UInt8) :
    Skips (leadLength flags) s rest (s.applyLead flags rest) := by
  have hhp : ∀ s rest, Skips (if flags &&& tbUpdHp ≠ 0 then 4 else 0) s rest
      (s.sectionIf flags tbUpdHp applyHp rest) :=
    fun _ _ => sectionIf_skips applyHp_skips
  have hpp : ∀ s rest, Skips (if flags &&& tbUpdPp ≠ 0 then 4 else 0) s rest
      (s.sectionIf flags tbUpdPp applyPp rest) :=
    fun _ _ => sectionIf_skips applyPp_skips
  have hswitch : ∀ s rest, Skips (if flags &&& tbUpdSwitch ≠ 0 then 2 else 0) s rest
      (s.sectionIf flags tbUpdSwitch applySwitch rest) := fun _ _ => sectionIf_skips applySwitch_skips
  have hstatus : ∀ s rest, Skips (if flags &&& tbUpdStatus ≠ 0 then 2 else 0) s rest
      (s.sectionIf flags tbUpdStatus applyStatus rest) := fun _ _ => sectionIf_skips applyStatus_skips
  have h := (((hhp s rest).bind hpp).bind hswitch).bind hstatus
  simp only [bind_assoc] at h
  exact h

theorem draws_won (b : Bool) : Draws fun s => s.playerWon = b := ⟨fun _ _ _ h => h, fun _ _ h => h⟩

theorem applyTail_won (s : Scene) (flags : UInt16) (rest : List UInt8) :
    Ends (fun s' => s'.playerWon = s.playerWon) id (s.applyTail flags rest) := by
  have hP := draws_won s.playerWon
  refine (sectionIf_ends (fun s rest => hP.applyLog rest) rfl _ _ _).bind fun a ha => ?_
  refine (sectionIf_ends (fun s rest => hP.applyBench rest) ha _ _ _).bind fun b hb => ?_
  exact (sectionIf_ends (fun s rest => hP.applyFx rest) hb _ _ _).bind fun _ hk => hk

theorem showResult_won (s : Scene) (r : UInt8) :
    (s.showResult r).playerWon = (s.playerWon || decide (r = tbResultYouWin)) := by
  unfold showResult
  split_ifs with h <;> simp [h, appendLog]

/-- The flag of a win is set by the byte YOU_WIN alone, and the battle is over by any byte but ONGOING. -/
def ByByte (s : Scene) (flags : UInt16) (body : List UInt8) : Except Scene (Scene × Bool) → Prop
  | .error s' => s'.playerWon = (s.playerWon || decide (resultByte flags body = some tbResultYouWin))
  | .ok (s', finished) =>
    s'.playerWon = (s.playerWon || decide (resultByte flags body = some tbResultYouWin)) ∧
      (finished = true ↔ ∃ r, resultByte flags body = some r ∧ r ≠ tbResultOngoing)

/-- Behind the RESULT section nothing is decided any more. -/
theorem byByte_tail {s s₂ : Scene} {body : List UInt8} {finished : Bool}
    (hw : s₂.playerWon = (s.playerWon || decide (resultByte flags body = some tbResultYouWin)))
    (hf : finished = true ↔ ∃ r, resultByte flags body = some r ∧ r ≠ tbResultOngoing) (rest : List UInt8) :
    s.ByByte flags body (s₂.applyTail flags rest >>= fun s => pure (s, finished)) := by
  have htail := applyTail_won s₂ flags rest
  cases hx : s₂.applyTail flags rest with
  | error s₃ =>
    rw [hx] at htail
    exact htail.trans hw
  | ok s₃ =>
    rw [hx] at htail
    exact ⟨htail.trans hw, hf⟩

theorem applySections_byByte (s : Scene) (flags : UInt16) (body : List UInt8) :
    s.ByByte flags body (s.applySections flags body) := by
  rw [applySections_split]
  have hlead := applyLead_skips s flags body
  cases hx : s.applyLead flags body with
  | error s₁ =>
    rw [hx] at hlead
    have hnone : resultByte flags body = none := by
      unfold resultByte
      split
      · exact List.getElem?_eq_none (Nat.le_of_lt hlead.2)
      · rfl
    change s₁.playerWon = _
    rw [hnone, hlead.1]
    simp
  | ok r =>
    obtain ⟨s₁, rest⟩ := r
    rw [hx] at hlead
    obtain ⟨hw, hn, rfl⟩ := hlead
    have hbyte : resultByte flags body =
        if flags &&& tbUpdResult ≠ 0 then (body.drop (leadLength flags)).head? else none := by
      unfold resultByte
      rw [List.head?_drop]
    generalize body.drop (leadLength flags) = rest at hbyte
    change s.ByByte flags body (s₁.applyResult flags rest >>= _)
    unfold applyResult
    by_cases hflag : flags &&& tbUpdResult ≠ 0
    · rw [if_pos hflag] at hbyte ⊢
      cases rest with
      | nil =>
        change s₁.playerWon = _
        rw [hbyte, hw]
        simp
      | cons r rest =>
        rw [List.head?_cons] at hbyte
        refine byByte_tail ?_ ?_ rest
        · rw [showResult_won, hw, hbyte]
          simp
        · rw [hbyte]
          simp
    · rw [if_neg hflag] at hbyte ⊢
      refine byByte_tail ?_ ?_ rest
      · rw [hw, hbyte]
        simp
      · rw [hbyte]
        simp

end Scene
end MonsterMesh

/-! The ways a battle ends: what each call is for the battle, and what it leaves of the flag, the phase and
the engine's result. -/
namespace MonsterMesh

open Fallible Bytes

namespace TextBattle

/-- The ways a battle can end. -/
inductive Ending where
  | turn (r : Result)
  | forfeited
  | fled
  | timedOut
  | update (r : UInt8)
  | fullState (r : UInt8)
  | desynced
  | gaveUp
  | left
deriving DecidableEq

/-- Whether the local player has won; `none` where the end brings no result. -/
def Ending.won : Ending → Option Bool
  | .turn r => some (r = .p1Win)
  | .forfeited | .fled | .timedOut => some true
  | .update r | .fullState r => some (r = tbResultYouWin)
  | .desynced | .gaveUp => some false
  | .left => none

/-- The two ends whose win sets the flag. -/
def Ending.recorded : Ending → Bool
  | .turn _ | .update _ => true
  | _ => false

/-- What the engine of a device that resolves its own turns says. -/
def Ending.result : Ending → Option Result
  | .turn r => some r
  | .forfeited | .fled | .timedOut => some .p1Win
  | .desynced | .gaveUp => some .p2Win
  | _ => none

/-- The ends only a client can have: its server's word. -/
def Ending.told : Ending → Bool
  | .update _ | .fullState _ => true
  | _ => false

/-- What a call is for the battle. -/
inductive News where
  | nothing
  | begun
  | ended (e : Ending)
deriving DecidableEq

namespace News

/-- Whether the battle is won, after a call. -/
def won : News → Bool → Bool
  | .nothing, b => b
  | .begun, _ => false
  | .ended e, b => e.won.getD b

def result : News → Option Result
  | .nothing => none
  | .begun => some .ongoing
  | .ended e => e.result

/-- A call that sets the flag. -/
def records : News → Bool
  | .ended e => e.recorded && e.won.getD false
  | _ => false

/-- A result byte; ONGOING is no word. -/
def ofByte (b : Option UInt8) (e : UInt8 → Ending) (otherwise : News) : News :=
  match b with
  | some r => if r = tbResultOngoing then otherwise else .ended (e r)
  | none => otherwise

end News

variable (t : TextBattle) (env : Env)

/-! ### What each call is for the battle -/

/-- The result byte of a new UPDATE. -/
def updateByte (p : Packet) : Option UInt8 :=
  match p.payload with
  | _ :: fhi :: flo :: _ :: _ :: _ :: body =>
    if p.session ≠ t.session ∨ t.phase = .waitChallengeOverlay ∨
        p.seq = t.lastAppliedUpdateSeq ∧ t.lastAppliedUpdateSeq ≠ 0 then none
    else resultByte (ofBe16 fhi flo) body
  | _ => none

/-- The result byte of a FULL_STATE that is read to its end. -/
def fullStateByte (p : Packet) : Option UInt8 :=
  match p.payload with
  | _ :: _ :: result :: rest =>
    if rest.length < 2 ∨ p.session ≠ t.session then none
    else
      match t.toScene.applySnapshot rest with
      | .ok _ => some result
      | .error _ => none
  | _ => none

def acceptNews (p : Packet) : News :=
  if t.awaitingAccept then
    match t.parseAccept p with
    | none => .nothing
    | some (accepted, _, _) => if accepted = 0 then .ended .left else .begun
  else .nothing

def actionNews (fromId : UInt32) (p : Packet) : News :=
  match p.payload with
  | turn :: act :: _ :: _ :: _ =>
    if p.session ≠ t.session ∨ fromId ≠ t.remoteId then .nothing
    else if turn ≠ t.engine.turn.toUInt8 then .nothing
    else if act = 2 then .ended .fled
    else .nothing
  | _ => .nothing

instance (fromId : UInt32) (p : Packet) : Decidable (t.Admits fromId p) :=
  inferInstanceAs (Decidable (_ ∧ _))

instance (p : Packet) : Decidable (t.Desyncs p) := inferInstanceAs (Decidable (¬ _ ∧ _))

def legacyNews (p : Packet) : News :=
  if p.type = textBattleForfeit then .ended .forfeited
  else if p.type = textBattleHash ∧ t.Desyncs p then .ended .desynced
  else .nothing

def packetNews (fromId : UInt32) (p : Packet) : News :=
  if p.type = textBattleChallenge then .nothing
  else if t.role = .server ∧ p.type = textBattleAccept then t.acceptNews p
  else if t.role = .server ∧ p.type = textBattleActionV2 then t.actionNews fromId p
  else if t.role = .server ∧ p.type = textBattleStateRequest then .nothing
  else if t.role = .client ∧ p.type = textBattleUpdate then .ofByte (t.updateByte p) .update .nothing
  else if t.role = .client ∧ p.type = textBattleFullState then
    .ofByte (t.fullStateByte p) .fullState .nothing
  else if p.type = textBattleStart then .nothing
  else if t.Admits fromId p then t.legacyNews p
  else .nothing

/-- The overlay: the battle begins, with the UPDATE that came before the key. -/
def overlayNews (c : UInt8) : News :=
  if isChar c 'y' 'Y' then
    if t.awaitingFirstUpdate then .nothing
    else .ofByte (t.preAcceptUpdate.bind (t.setPhase .waitRemote).updateByte) .update .begun
  else if isChar c 'n' 'N' ∨ c = 27 then .ended .left
  else .nothing

def fleeNews : News :=
  if t.role = .client then .ended .left
  else if t.mode = .networked then .ended .gaveUp
  else if t.role = .legacy ∨ (t.tryEscape env).phase = .finished then .ended .left
  else .nothing

def keyNews (c : UInt8) : News :=
  if t.phase = .finished then .nothing
  else if t.phase = .waitChallengeOverlay then t.overlayNews c
  else if c = 27 then .ended (if t.role = .client then .left else .gaveUp)
  else if t.phase = .waitFlee ∧ keyAccept c then t.fleeNews env
  else .nothing

/-- The engine's turn from here. -/
def turnNews : News :=
  match t.engine.executeTurn true with
  | .ok r => if r.1.result = .ongoing then .nothing else .ended (.turn r.1.result)
  | .error _ => .nothing

/-- A challenge that was repeated often enough. -/
def Cancels (nowMs : UInt32) : Prop :=
  t.role = .server ∧ t.awaitingAccept ∧ tbChallengeResendMs ≤ nowMs - t.lastChallengeMs ∧
    tbChallengeMaxTries ≤ t.challengeTries

instance (nowMs : UInt32) : Decidable (t.Cancels nowMs) := inferInstanceAs (Decidable (_ ∧ _))

/-- The opponent has been silent for too long. -/
def Silent (nowMs : UInt32) : Prop :=
  t.trafficTimeout < nowMs - t.lastRecvMs ∧ t.phase ≠ .finished ∧ t.phase ≠ .waitPeerReady ∧
    !t.awaitingAccept

instance (nowMs : UInt32) : Decidable (t.Silent nowMs) := inferInstanceAs (Decidable (_ ∧ _))

/-- The rest of a networked tick, behind the retransmissions. -/
def roundNews (nowMs : UInt32) : News :=
  if t.Silent nowMs then .ended (if t.engine.result = .ongoing then .timedOut else .left)
  else if t.phase = .waitRemote ∧ t.pendingRemoteAction then t.turnNews
  else .nothing

def tickNews (nowMs : UInt32) : News :=
  match t.mode with
  | .off => .nothing
  | .networked =>
    if t.Cancels nowMs then .ended .left
    else if (t.tickRole env nowMs).1 then .nothing
    else ((t.tickRole env nowMs).2.tickPeer nowMs).roundNews nowMs
  | .localRoguelike =>
    if t.phase = .waitRemote then
      (t.onScene (·.submitAction .one (t.engine.cpuPickAction .one).1 (t.engine.cpuPickAction .one).2)).turnNews
    else .nothing

/-- Between two battles every packet counts as a beginning: it can only open the overlay. -/
def news : Call → News
  | .input i =>
    if t.mode = .off then .begun
    else
      match i with
      | .packet fromId buf => ((Packet.ofBytes buf).map (t.packetNews fromId)).getD .nothing
      | .key c => t.keyNews env c
      | .tick nowMs => t.tickNews env nowMs
  | .startLocal .. | .nextOpponent .. | .startNetworkedAsInitiator .. | .startNetworkedAsReceiver ..
  | .startServerAuthAsInitiator .. => .begun
  | .setMyTbParty .. | .healPlayer | .markPeerReady | .consumePendingXp | .exit => .nothing

/-! ### What a call leaves behind -/

/-- The flag, the phase and the engine's result after a call that is `n` for the battle. A client has no
result of its own. -/
structure Ruled (t t' : TextBattle) (n : News) : Prop where
  role : t'.role = t.role
  flag : t'.playerWon = (t.playerWon || n.records)
  overlay : t'.phase = .waitChallengeOverlay → t.phase = .waitChallengeOverlay
  finished : t'.phase = .finished → t.phase = .finished ∧ n ≠ .begun ∨ ∃ e, n = .ended e
  closed : t.role ≠ .client → t.phase = .finished ∧ n ≠ .begun ∨ (∃ e, n = .ended e) → t'.phase = .finished
  result : t.role ≠ .client → t'.engine.result = n.result.getD t.engine.result
  told : ∀ e, n = .ended e → e.told = true → t.role = .client

variable {t env} {t' u : TextBattle} {n : News} {e : Ending} {fromId : UInt32} {p : Packet} {c : UInt8}

namespace Ruled

/-- Nothing of the battle's outcome changes. -/
theorem quiet (hl : t'.role = t.role) (hf : t'.playerWon = t.playerWon) (hp : t'.phase = t.phase)
    (hr : t'.engine.result = t.engine.result) : Ruled t t' .nothing where
  role := hl
  flag := hf.trans (Bool.or_false _).symm
  overlay := fun h => hp ▸ h
  finished := fun h => .inl ⟨hp ▸ h, nofun⟩
  closed := fun _ h => hp.trans (h.elim And.left fun ⟨_, he⟩ => nomatch he)
  result := fun _ => hr
  told := fun _ h => nomatch h

theorem refl (t : TextBattle) : Ruled t t .nothing := quiet rfl rfl rfl rfl

/-- Only the phase changes, between two that are neither the overlay nor the end. -/
theorem moved (hn : t.phase ≠ .finished) (hn' : t'.phase ≠ .finished) (ho : t'.phase ≠ .waitChallengeOverlay)
    (hl : t'.role = t.role) (hf : t'.playerWon = t.playerWon)
    (hr : t'.engine.result = t.engine.result) : Ruled t t' .nothing where
  role := hl
  flag := hf.trans (Bool.or_false _).symm
  overlay := fun h => absurd h ho
  finished := fun h => absurd h hn'
  closed := fun _ h => h.elim (fun h => absurd h.1 hn) fun ⟨_, he⟩ => nomatch he
  result := fun _ => hr
  told := fun _ h => nomatch h

theorem ends (he : e.told = false) (hl : t'.role = t.role)
    (hf : t'.playerWon = (t.playerWon || e.recorded && e.won.getD false)) (hp : t'.phase = .finished)
    (hr : t'.engine.result = e.result.getD t.engine.result) : Ruled t t' (.ended e) where
  role := hl
  flag := hf
  overlay := fun h => nomatch hp.symm.trans h
  finished := fun _ => .inr ⟨e, rfl⟩
  closed := fun _ _ => hp
  result := fun _ => hr
  told := by
    rintro _ ⟨⟩ ht
    exact absurd (he.symm.trans ht) Bool.false_ne_true

theorem begins (hl : t'.role = t.role) (hf : t'.playerWon = t.playerWon) (hp : t'.phase ≠ .finished)
    (ho : t'.phase ≠ .waitChallengeOverlay) (hr : t'.engine.result = .ongoing) : Ruled t t' .begun where
  role := hl
  flag := hf.trans (Bool.or_false _).symm
  overlay := fun h => absurd h ho
  finished := fun h => absurd h hp
  closed := fun _ h => h.elim (fun h => absurd rfl h.2) fun ⟨_, he⟩ => nomatch he
  result := fun _ => hr
  told := fun _ h => nomatch h

theorem after (h : Ruled t u .nothing) (h' : Ruled u t' n) : Ruled t t' n where
  role := h'.role.trans h.role
  flag := by
    have hu : u.playerWon = t.playerWon := h.flag.trans (Bool.or_false _)
    rw [h'.flag, hu]
  overlay := fun ho => h.overlay (h'.overlay ho)
  finished := by
    intro hf
    refine (h'.finished hf).imp_left fun hx => ⟨?_, hx.2⟩
    obtain hx | ⟨_, he⟩ := h.finished hx.1
    · exact hx.1
    · cases he
  closed := fun hc hx =>
    h'.closed (h.role ▸ hc) (hx.imp_left fun hx => ⟨h.closed hc (.inl ⟨hx.1, nofun⟩), hx.2⟩)
  result := by
    intro hc
    rw [h'.result (h.role ▸ hc), h.result hc]
    rfl
  told := fun e he ht => h.role ▸ h'.told e he ht

end Ruled

/-! ### Sending and showing -/

theorem clientAuthSendActionV2_ruled (a i : UInt8) : Ruled t (t.clientAuthSendActionV2 env a i) .nothing := by
  unfold clientAuthSendActionV2
  dsimp only
  split <;> exact .quiet rfl rfl rfl rfl

theorem reAck_ruled : Ruled t (t.reAck env) .nothing := by
  unfold reAck
  split <;> exact clientAuthSendActionV2_ruled _ _

theorem retransmitAccept_ruled (now : UInt32) : Ruled t (t.retransmitAccept env now) .nothing := by
  have h := retransmitAccept_cases (t := t) env now
  cases h with
  | quiet h =>
    rw [h]
    exact .refl t
  | asked ha h =>
    rw [h]
    exact .quiet rfl rfl rfl rfl
  | accepted ha ms h =>
    rw [h]
    exact .quiet rfl rfl rfl rfl

theorem clientAuthRetransmit_ruled (now : UInt32) : Ruled t (t.clientAuthRetransmit env now) .nothing := by
  unfold clientAuthRetransmit
  dsimp only
  split
  · exact (retransmitAccept_ruled now).after (clientAuthSendActionV2_ruled _ _)
  · exact retransmitAccept_ruled now

theorem notePeer_ruled : Ruled t t.notePeer .nothing := by
  unfold notePeer
  split_ifs with h₁ h₂
  · exact .refl t
  · refine .moved ?_ nofun nofun rfl rfl rfl
    rw [h₂]
    exact nofun
  · exact .quiet rfl rfl rfl rfl

theorem onAction_ruled : Ruled t (t.onAction env p) .nothing := by
  unfold onAction
  dsimp only
  split
  · split_ifs
    · split <;> exact .quiet rfl rfl rfl rfl
    · exact .quiet rfl rfl rfl rfl
    · exact .quiet rfl rfl rfl rfl
  · exact .refl t

/-! ### Packets -/

theorem handleFaints_won (s : Scene) : s.handleFaints.playerWon = s.playerWon := by
  unfold Scene.handleFaints
  dsimp only
  split_ifs <;> rfl

theorem beginBattle_won (name : CStr) (party : List UInt8) :
    (t.beginBattle env fromId name party).playerWon = t.playerWon := by
  unfold beginBattle
  simp only [serverAuthSendUpdate, send, onScene, appendLog, Scene.appendLog, handleFaints_won]

theorem beginBattle_opens (env : Env) (fromId : UInt32) (name : CStr) (party : List UInt8) :
    (t.beginBattle env fromId name party).role = t.role ∧
      (t.beginBattle env fromId name party).phase = .waitAction := by
  unfold beginBattle
  simp only [serverAuthSendUpdate, send, onScene, appendLog, and_self]

theorem accept_ruled : Ruled t (t.serverAuthOnAcceptPkt env fromId p) (t.acceptNews p) := by
  unfold serverAuthOnAcceptPkt acceptNews
  by_cases ha : t.awaitingAccept = true
  · rw [if_neg (by simp [ha]), if_pos ha]
    rcases t.parseAccept p with _ | ⟨accepted, name, party⟩
    · exact .refl t
    · dsimp only
      split
      · exact .ends rfl rfl (Bool.or_false _).symm rfl rfl
      · obtain ⟨hrole, hphase⟩ := beginBattle_opens (t := t) env fromId name party
        refine .begins hrole (beginBattle_won name party) ?_ ?_ (beginBattle_result name party)
        · rw [hphase]
          exact nofun
        · rw [hphase]
          exact nofun
  · rw [if_pos (by simpa using ha), if_neg ha]
    exact .refl t

theorem action_ruled : Ruled t (t.serverAuthOnActionV2Pkt env fromId p) (t.actionNews fromId p) := by
  unfold serverAuthOnActionV2Pkt actionNews
  rcases p.payload with _ | ⟨turn, _ | ⟨act, _ | ⟨index, _ | ⟨ack, rest⟩⟩⟩⟩
  · exact .refl t
  · exact .refl t
  · exact .refl t
  · exact .refl t
  · dsimp only
    by_cases hs : p.session ≠ t.session ∨ fromId ≠ t.remoteId
    · rw [if_pos hs, if_pos hs]
      exact .refl t
    · rw [if_neg hs, if_neg hs]
      change Ruled t (if turn ≠ t.engine.turn.toUInt8 then t.ackUpdate ack else _) _
      by_cases ht : turn ≠ t.engine.turn.toUInt8
      · rw [if_pos ht, if_pos ht]
        exact .quiet rfl rfl rfl rfl
      · rw [if_neg ht, if_neg ht]
        refine .after (u := t.ackUpdate ack) (.quiet rfl rfl rfl rfl) ?_
        unfold clientAction
        by_cases ha : act = 2
        · subst ha
          rw [if_neg (by decide), if_pos rfl, if_pos rfl]
          exact .ends rfl rfl (Bool.or_false _).symm rfl rfl
        · rw [if_neg ha, if_neg ha]
          split <;> exact .quiet rfl rfl rfl rfl

theorem legacy_ruled : Ruled t (t.legacyPacket env p).2 (t.legacyNews p) := by
  unfold legacyPacket legacyNews
  by_cases hf : p.type = textBattleForfeit
  · rw [if_neg (by rw [hf]; decide), if_neg (by rw [hf]; decide), if_pos hf, if_pos hf]
    exact .ends rfl rfl (Bool.or_false _).symm rfl rfl
  · rw [if_neg hf, if_neg hf]
    by_cases hh : p.type = textBattleHash
    · rw [if_neg (by rw [hh]; decide), if_neg (by rw [hh]; decide), if_pos hh]
      change Ruled t (t.onHash p) _
      unfold onHash
      by_cases hd : t.Desyncs p
      · rw [if_neg hd.1, if_pos hd.2, if_pos ⟨hh, hd⟩]
        exact .ends rfl rfl (Bool.or_false _).symm rfl rfl
      · have hnews : (if p.type = textBattleHash ∧ t.Desyncs p then News.ended .desynced else .nothing) =
            .nothing := if_neg fun h => hd h.2
        rw [hnews]
        split_ifs with h₁ h₂
        · exact .refl t
        · exact absurd ⟨h₁, h₂⟩ hd
        · exact .refl t
    · have hnews : (if p.type = textBattleHash ∧ t.Desyncs p then News.ended .desynced else .nothing) =
          .nothing := if_neg fun h => hh h.1
      rw [if_neg hh, hnews]
      split_ifs
      · exact .refl t
      · exact onAction_ruled
      · exact .refl t

/-! ### The client -/

theorem levelUps_won (slot : Fin 6) (fuel : ℕ) (s : Scene) :
    (s.levelUps slot fuel).playerWon = s.playerWon := by
  induction fuel generalizing s with
  | zero => rfl
  | succ n ih =>
    unfold Scene.levelUps
    dsimp only
    split
    · rfl
    · rw [ih]
      unfold Scene.inBattleLevelUp
      dsimp only
      split <;> rfl

theorem foldl_won {α : Type} {f : Scene → α → Scene} (hf : ∀ s a, (f s a).playerWon = s.playerWon) (as : List α)
    (s : Scene) : (as.foldl f s).playerWon = s.playerWon := by
  induction as generalizing s with
  | nil => rfl
  | cons a as ih => exact (ih _).trans (hf s a)

theorem creditFaints_won (pre : Fin 6 → UInt16) (mult : UInt32) (s : Scene) :
    (s.creditFaints pre mult).playerWon = s.playerWon := by
  refine foldl_won (fun s i => ?_) _ s
  dsimp only
  split
  · refine foldl_won (f := fun s slot => s.creditSlot _ _ slot) (fun s slot => ?_) _ _
    unfold Scene.creditSlot
    split
    · rfl
    · exact levelUps_won _ _ _
  · rfl

theorem trackActive_won (s : Scene) : s.trackActive.playerWon = s.playerWon := by
  unfold Scene.trackActive
  dsimp only
  split <;> rfl

theorem redrawn_won (turn : UInt8) (s : Scene) : (t.redrawn turn s).playerWon = s.playerWon :=
  (trackActive_won _).trans (creditFaints_won _ _ _)

/-- What an UPDATE leaves behind, by the result byte it was read to have. -/
structure Worded (t t' : TextBattle) (b : Option UInt8) : Prop where
  role : t'.role = t.role
  flag : t'.playerWon = (t.playerWon || decide (b = some tbResultYouWin))
  overlay : t'.phase = .waitChallengeOverlay → t.phase = .waitChallengeOverlay
  finished : t'.phase = .finished → t.phase = .finished ∨ ∃ r, b = some r ∧ r ≠ tbResultOngoing

/-- An UPDATE that is not read says nothing. -/
theorem updateByte_none (h : p.session ≠ t.session ∨ t.phase = .waitChallengeOverlay ∨
    p.seq = t.lastAppliedUpdateSeq ∧ t.lastAppliedUpdateSeq ≠ 0) : t.updateByte p = none := by
  unfold updateByte
  split
  · exact if_pos h
  · rfl

theorem updateByte_short (h : p.payload.length < 6) : t.updateByte p = none := by
  unfold updateByte
  split
  · rename_i hp
    rw [hp] at h
    simp only [List.length_cons] at h
    omega
  · rfl

theorem updateByte_fresh {turn : UInt8} {flags : UInt16} {hash body : List UInt8}
    (h : t.Fresh p turn flags hash body) : t.updateByte p = resultByte flags body := by
  obtain ⟨hs, ho, hu, fhi, flo, h₀, h₁, h₂, hp, rfl, -⟩ := h
  unfold updateByte
  rw [hp]
  exact if_neg fun h => h.elim (fun h => h hs) fun h => h.elim ho hu

theorem Worded.silent {b : Option UInt8} (hb : b = none) (h : Ruled t t' .nothing) : Worded t t' b where
  role := h.role
  flag := by
    rw [hb]
    exact h.flag
  overlay := h.overlay
  finished := fun hf => (h.finished hf).imp And.left fun ⟨_, he⟩ => nomatch he

theorem commitUpdate_won (seq : UInt8) (finished needSwitch : Bool) :
    (t.commitUpdate env seq finished needSwitch).playerWon = t.playerWon := by
  unfold commitUpdate clientAuthSendActionV2
  dsimp only
  split_ifs <;> rfl

theorem commitUpdate_phase (seq : UInt8) (finished needSwitch : Bool) :
    (t.commitUpdate env seq finished needSwitch).phase =
      if finished then .finished else if needSwitch then .waitSwitch else .waitAction := by
  unfold commitUpdate clientAuthSendActionV2
  dsimp only
  split_ifs <;> rfl

theorem update_worded : Worded t (t.clientAuthOnUpdatePkt env p) (t.updateByte p) := by
  have hrole : (t.clientAuthOnUpdatePkt env p).role = t.role := congrArg Link.role clientAuthOnUpdatePkt_link
  have hcases := clientAuthOnUpdatePkt_cases (t := t) env p
  revert hrole hcases
  generalize t.clientAuthOnUpdatePkt env p = t'
  intro hrole hcases
  cases hcases with
  | ignored hi h =>
    rw [h]
    exact .silent (hi.elim (fun hs => updateByte_none (.inl hs)) updateByte_short) (.refl t)
  | buffered hs ho hl h =>
    rw [h]
    exact .silent (updateByte_none (.inr (.inl ho))) (.quiet rfl rfl rfl rfl)
  | repeated hs ho hd h₀ h =>
    rw [h]
    refine .silent (updateByte_none (.inr (.inr ⟨hd, h₀⟩))) (.after (u := t.heard) ?_ reAck_ruled)
    exact .quiet rfl rfl rfl rfl
  | cut turn flags hash body hp s hx h =>
    have hbyte := Scene.applySections_byByte t.toScene flags body
    rw [hx] at hbyte
    rw [updateByte_fresh hp]
    refine ⟨hrole, ?_, ?_, ?_⟩
    · rw [h]
      exact hbyte
    · rw [h]
      exact id
    · rw [h]
      exact .inl
  | rejected turn flags hash body hp s fin hx hh h =>
    have hbyte := Scene.applySections_byByte t.toScene flags body
    rw [hx] at hbyte
    rw [updateByte_fresh hp]
    refine ⟨hrole, ?_, ?_, ?_⟩
    · rw [h]
      exact (redrawn_won turn s).trans hbyte.1
    · rw [h]
      exact id
    · rw [h]
      exact .inl
  | applied turn flags hash body hp s fin hx hh h =>
    have hbyte := Scene.applySections_byByte t.toScene flags body
    rw [hx] at hbyte
    rw [updateByte_fresh hp]
    refine ⟨hrole, ?_, ?_, ?_⟩
    · rw [h, commitUpdate_won]
      exact (redrawn_won turn s).trans hbyte.1
    · rw [h, commitUpdate_phase]
      split_ifs <;> exact nofun
    · rw [h, commitUpdate_phase]
      split_ifs with hfin
      · exact fun _ => .inr (hbyte.2.mp hfin)
      · exact nofun
      · exact nofun

/-- The word of a server ends the battle, unless it is ONGOING. -/
theorem Worded.ruled {b : Option UInt8} (hr : t.role = .client) (h : Worded t t' b) :
    Ruled t t' (.ofByte b .update .nothing) := by
  unfold News.ofByte
  have hclient : ¬ t.role ≠ .client := not_not.mpr hr
  rcases b with _ | r
  · refine ⟨h.role, h.flag, h.overlay, ?_, fun hc => absurd hc hclient, fun hc => absurd hc hclient, nofun⟩
    intro hf
    obtain hf | ⟨_, he, _⟩ := h.finished hf
    · exact .inl ⟨hf, nofun⟩
    · cases he
  · dsimp only
    split
    · rename_i hr₀
      subst hr₀
      refine ⟨h.role, h.flag, h.overlay, ?_, fun hc => absurd hc hclient, fun hc => absurd hc hclient, nofun⟩
      intro hf
      obtain hf | ⟨_, he, hne⟩ := h.finished hf
      · exact .inl ⟨hf, nofun⟩
      · cases he
        exact absurd rfl hne
    · refine ⟨h.role, h.flag.trans ?_, h.overlay, fun _ => .inr ⟨_, rfl⟩, fun hc => absurd hc hclient,
        fun hc => absurd hc hclient, fun _ _ _ => hr⟩
      simp [News.records, Ending.recorded, Ending.won]

theorem applySnapshot_won (s : Scene) (rest : List UInt8) :
    Scene.Ends (fun s' => s'.playerWon = s.playerWon) Prod.fst (s.applySnapshot rest) :=
  (Scene.draws_won s.playerWon).applySnapshot rest rfl

theorem fullState_ruled (hr : t.role = .client) : Ruled t (t.clientAuthOnFullStatePkt env p)
    (.ofByte (t.fullStateByte p) .fullState .nothing) := by
  have hclient : ¬ t.role ≠ .client := not_not.mpr hr
  unfold clientAuthOnFullStatePkt fullStateByte
  rcases p.payload with _ | ⟨hi, _ | ⟨lo, _ | ⟨result, rest⟩⟩⟩
  · exact .refl t
  · exact .refl t
  · exact .refl t
  · dsimp only
    have hwon := applySnapshot_won t.toScene rest
    split
    · exact .refl t
    · cases hx : t.toScene.applySnapshot rest with
      | error s =>
        rw [hx] at hwon
        refine ⟨rfl, hwon.trans (Bool.or_false _).symm, id, fun hf => .inl ⟨hf, nofun⟩,
          fun hc => absurd hc hclient, fun hc => absurd hc hclient, nofun⟩
      | ok r =>
        rw [hx] at hwon
        have hflag : ((t.withScene r.1).commitFullState env p.seq result).playerWon = t.playerWon := hwon
        dsimp only
        unfold News.ofByte
        dsimp only
        by_cases hr₀ : result = tbResultOngoing
        · have hphase : ((t.withScene r.1).commitFullState env p.seq result).phase = .waitAction := if_pos hr₀
          rw [if_pos hr₀]
          exact ⟨rfl, hflag.trans (Bool.or_false _).symm, fun h => (nomatch hphase.symm.trans h),
            fun h => (nomatch hphase.symm.trans h), fun hc => absurd hc hclient, fun hc => absurd hc hclient,
            nofun⟩
        · have hphase : ((t.withScene r.1).commitFullState env p.seq result).phase = .finished := if_neg hr₀
          rw [if_neg hr₀]
          exact ⟨rfl, hflag.trans (Bool.or_false _).symm, fun h => (nomatch hphase.symm.trans h),
            fun _ => .inr ⟨_, rfl⟩, fun hc => absurd hc hclient, fun hc => absurd hc hclient, fun _ _ _ => hr⟩

/-! ### The packets of a battle -/

theorem legacyNews_notePeer : t.notePeer.legacyNews p = t.legacyNews p := by
  have hdesyncs : t.notePeer.Desyncs p ↔ t.Desyncs p := by
    unfold Desyncs
    rw [notePeer_engine]
  unfold legacyNews
  simp only [hdesyncs]

theorem dispatch_ruled (hm : t.mode ≠ .off) : Ruled t (t.dispatch env fromId p).2 (t.packetNews fromId p) := by
  unfold dispatch packetNews
  by_cases hc : p.type = textBattleChallenge
  · rw [if_pos hc, if_pos hc, if_pos hm]
    exact .refl t
  rw [if_neg hc, if_neg hc]
  by_cases ha : t.role = .server ∧ p.type = textBattleAccept
  · rw [if_pos ⟨hm, ha⟩, if_pos ha]
    exact accept_ruled
  rw [if_neg fun h => ha h.2, if_neg ha]
  by_cases hv : t.role = .server ∧ p.type = textBattleActionV2
  · rw [if_pos ⟨hm, hv⟩, if_pos hv]
    exact action_ruled
  rw [if_neg fun h => hv h.2, if_neg hv]
  by_cases hq : t.role = .server ∧ p.type = textBattleStateRequest
  · rw [if_pos ⟨hm, hq⟩, if_pos hq]
    change Ruled t (t.serverAuthOnStateRequestPkt fromId p) .nothing
    unfold serverAuthOnStateRequestPkt
    split <;> exact .quiet rfl rfl rfl rfl
  rw [if_neg fun h => hq h.2, if_neg hq]
  by_cases hu : t.role = .client ∧ p.type = textBattleUpdate
  · rw [if_pos ⟨hm, hu⟩, if_pos hu]
    exact update_worded.ruled hu.1
  rw [if_neg fun h => hu h.2, if_neg hu]
  by_cases hf : t.role = .client ∧ p.type = textBattleFullState
  · rw [if_pos ⟨hm, hf⟩, if_pos hf]
    exact fullState_ruled hf.1
  rw [if_neg fun h => hf h.2, if_neg hf]
  by_cases hs : p.type = textBattleStart
  · rw [if_pos hs, if_pos hs, if_pos (.inl hm)]
    exact .refl t
  rw [if_neg hs, if_neg hs]
  by_cases hadmits : t.Admits fromId p
  · have hchecks : ¬ (t.mode = .off ∨ p.session ≠ t.session ∨ t.remoteId ≠ 0 ∧ fromId ≠ t.remoteId) := by
      rintro (h | h | ⟨h₁, h₂⟩)
      · exact hm h
      · exact h hadmits.1
      · exact hadmits.2.elim h₁ h₂
    rw [if_pos hadmits, if_neg hchecks, ← legacyNews_notePeer]
    exact notePeer_ruled.after legacy_ruled
  · have hchecks : t.mode = .off ∨ p.session ≠ t.session ∨ t.remoteId ≠ 0 ∧ fromId ≠ t.remoteId := by
      by_contra hn
      obtain ⟨-, hn⟩ := not_or.mp hn
      obtain ⟨h₁, h₂⟩ := not_or.mp hn
      exact hadmits ⟨not_not.mp h₁, or_of_not_and h₂⟩
    rw [if_neg hadmits, if_pos hchecks]
    exact .refl t

/-! ### Turns and ticks -/

theorem playOut_won {s s' : Scene} (h : playOut s = .ok s') : s'.playerWon = s.playerWon := by
  obtain ⟨r, hr, h⟩ := bind_eq_ok.mp h
  cases h
  exact (creditFaints_won _ _ _).trans (handleFaints_won _)

theorem showOutcome_won (s : Scene) :
    (showOutcome s).playerWon = (s.playerWon || decide (s.engine.result = .p1Win)) := by
  unfold showOutcome
  cases hr : s.engine.result <;> simp [Scene.appendLog]

theorem endTurn_won : (t.endTurn env).playerWon = (t.playerWon || decide (t.engine.result = .p1Win)) := by
  have htracked : t.toScene.trackActive.engine.result = t.engine.result := by rw [Scene.trackActive_engine]
  have hshown : (showOutcome t.toScene.trackActive).playerWon =
      (t.playerWon || decide (t.engine.result = .p1Win)) := by
    rw [showOutcome_won, trackActive_won, htracked]
  unfold endTurn
  dsimp only [onScene]
  by_cases ho : t.engine.result = .ongoing
  · rw [if_neg (by rw [htracked, ho]; simp)]
    have hflag : (t.playerWon || decide (t.engine.result = .p1Win)) = t.playerWon := by simp [ho]
    rw [hflag]
    split_ifs <;> exact trackActive_won t.toScene
  · rw [if_pos (by rwa [htracked])]
    split <;> exact hshown

theorem endTurn_ongoing (h : t.engine.result = .ongoing) : (t.endTurn env).phase = .waitAction := by
  have ht : t.toScene.trackActive.engine.result = .ongoing := by rwa [Scene.trackActive_engine]
  unfold endTurn
  dsimp only [onScene]
  rw [if_neg (not_not.mpr ht)]
  split_ifs <;> rfl

theorem resolveTurn_ruled (hp : t.phase = .waitRemote) (h : t.resolveTurn env = .ok t') :
    Ruled t t' t.turnNews := by
  obtain ⟨s, hs, h⟩ := bind_eq_ok.mp h
  cases h
  obtain ⟨r, hr, hres⟩ := playOut_result hs
  have hrole : ((t.withScene s).endTurn env).role = t.role := congrArg Link.role endTurn_link
  have hwon : ((t.withScene s).endTurn env).playerWon = (t.playerWon || decide (r.1.result = .p1Win)) := by
    rw [endTurn_won, ← hres, ← playOut_won hs]
    rfl
  have hresult : ((t.withScene s).endTurn env).engine.result = r.1.result := endTurn_result.trans hres
  unfold turnNews
  rw [hr]
  dsimp only
  by_cases ho : r.1.result = .ongoing
  · have hphase : ((t.withScene s).endTurn env).phase = .waitAction := endTurn_ongoing (hres.trans ho)
    have hdecided : t.engine.result = .ongoing := by
      by_contra hd
      rw [executeTurn_decided hd] at hr
      cases hr
      exact hd ho
    rw [if_pos ho]
    refine .moved ?_ ?_ ?_ hrole ?_ ?_
    · rw [hp]
      exact nofun
    · rw [hphase]
      exact nofun
    · rw [hphase]
      exact nofun
    · rw [hwon, ho]
      simp
    · rw [hresult, ho, hdecided]
  · rw [if_neg ho]
    exact .ends rfl hrole hwon (endTurn_phase (by rwa [← hres] at ho)) hresult

theorem tickPeer_ruled (now : UInt32) : Ruled t (t.tickPeer now) .nothing := by
  unfold tickPeer
  split
  · rename_i h
    refine .moved ?_ nofun nofun rfl rfl rfl
    rw [h.1]
    exact nofun
  · exact .refl t

theorem tickTimeout_forfeits {now : UInt32} (h : t.Silent now) : t.tickTimeout now =
    (if t.engine.result = .ongoing then (t.appendLog "Opponent timed out.").onScene (·.forfeit .one)
      else t.appendLog "Opponent timed out.").setPhase .finished := if_pos h

theorem tickTimeout_silent {now : UInt32} (h : t.Silent now) :
    Ruled t (t.tickTimeout now) (.ended (if t.engine.result = .ongoing then .timedOut else .left)) := by
  rw [tickTimeout_forfeits h]
  split
  · exact .ends rfl rfl (Bool.or_false _).symm rfl rfl
  · exact .ends rfl rfl (Bool.or_false _).symm rfl rfl

theorem round_ruled {now : UInt32}
    (h : (if (t.tickTimeout now).phase = .waitRemote ∧ (t.tickTimeout now).pendingRemoteAction then
      (t.tickTimeout now).resolveTurn env else .ok (t.tickTimeout now)) = .ok t') :
    Ruled t t' (t.roundNews now) := by
  unfold roundNews
  by_cases hs : t.Silent now
  · have hphase : (t.tickTimeout now).phase = .finished := by
      rw [tickTimeout_forfeits hs]
      rfl
    rw [hphase, if_neg fun hx => absurd hx.1 (by decide)] at h
    cases h
    rw [if_pos hs]
    exact tickTimeout_silent hs
  · have hsame : t.tickTimeout now = t := if_neg hs
    rw [hsame] at h
    rw [if_neg hs]
    split at h
    · rename_i hw
      rw [if_pos hw]
      exact resolveTurn_ruled hw.1 h
    · rename_i hw
      rw [if_neg hw]
      cases h
      exact .refl t

theorem serverAuthRetransmit_cancels {now : UInt32} (h : t.Cancels now) : t.serverAuthRetransmit env now =
    { t.appendLog "No response — cancelled." with phase := .finished, awaitingAccept := false } := by
  unfold serverAuthRetransmit
  rw [if_pos h.2.1, if_pos h.2.2.1, if_pos h.2.2.2]

theorem serverAuthRetransmit_ruled {now : UInt32} (hr : t.role = .server) (h : ¬ t.Cancels now) :
    Ruled t (t.serverAuthRetransmit env now) .nothing := by
  unfold serverAuthRetransmit
  split
  · rename_i h₁
    split_ifs with h₂ h₃
    · exact absurd ⟨hr, h₁, h₂, h₃⟩ h
    · exact .quiet rfl rfl rfl rfl
    · exact .refl t
  · split
    · split <;> exact .quiet rfl rfl rfl rfl
    · exact .refl t

theorem stampFinished_ruled (now : UInt32) : Ruled t (t.stampFinished now) .nothing := by
  unfold stampFinished
  split <;> exact .quiet rfl rfl rfl rfl

theorem stampFinished_cancels {now : UInt32} : (t.stampFinished now).Cancels now ↔ t.Cancels now := by
  unfold stampFinished
  split <;> exact Iff.rfl

theorem tickRole_ruled {now : UInt32} (h : ¬ t.Cancels now) (hx : (t.tickRole env now).1 = false) :
    Ruled t (t.tickRole env now).2 .nothing := by
  unfold tickRole at hx ⊢
  cases hr : t.role with
  | server =>
    rw [hr] at hx
    dsimp only at hx ⊢
    have hkept : (((t.stampFinished now).serverAuthRetransmit env now).releaseExit now).2 =
        (t.stampFinished now).serverAuthRetransmit env now := by
      obtain hy | hy := releaseExit_cases (t := (t.stampFinished now).serverAuthRetransmit env now) now
      · rw [hy] at hx
        cases hx
      · rw [hy]
    rw [hkept]
    refine (stampFinished_ruled now).after (serverAuthRetransmit_ruled ?_ (mt stampFinished_cancels.mp h))
    exact (stampFinished_ruled now).role.trans hr
  | client => exact clientAuthRetransmit_ruled now
  | legacy =>
    dsimp only
    split <;> exact .quiet rfl rfl rfl rfl

/-- A cancelled challenge leaves nothing else to do in the tick. -/
theorem tick_cancelled {now : UInt32} (h : t.Cancels now) (hx : (t.tickRole env now).1 = false) :
    Ruled t (t.tickRole env now).2 (.ended .left) ∧ (t.tickRole env now).2.phase = .finished := by
  unfold tickRole at hx ⊢
  rw [h.1] at hx ⊢
  dsimp only at hx ⊢
  obtain hy | hy := releaseExit_cases (t := (t.stampFinished now).serverAuthRetransmit env now) now
  · rw [hy] at hx
    cases hx
  · rw [hy, serverAuthRetransmit_cancels (stampFinished_cancels.mpr h)]
    refine ⟨(stampFinished_ruled now).after ?_, rfl⟩
    exact .ends rfl rfl (Bool.or_false _).symm rfl rfl

theorem tick_ruled {now : UInt32} (h : t.tick env now = .ok t') (hm : t'.mode ≠ .off) :
    Ruled t t' (t.tickNews env now) := by
  have hmodes : t.mode = .off ∨ t.mode = .networked ∨ t.mode = .localRoguelike := by
    cases t.mode <;> simp
  unfold tick at h
  unfold tickNews
  obtain hmode | hmode | hmode := hmodes
  · rw [hmode] at h
    cases h
    exact absurd hmode hm
  · rw [hmode] at h ⊢
    dsimp only at h ⊢
    unfold tickNetworked at h
    dsimp only at h ⊢
    cases hx : (t.tickRole env now).1 with
    | true =>
      rw [hx, if_pos rfl] at h
      cases h
      exact absurd (tickRole_exit now hx).1 hm
    | false =>
      rw [hx, if_neg Bool.false_ne_true] at h
      by_cases hc : t.Cancels now
      · obtain ⟨hruled, hphase⟩ := tick_cancelled hc hx
        have hpeer : (t.tickRole env now).2.tickPeer now = (t.tickRole env now).2 :=
          if_neg fun h => absurd (hphase.symm.trans h.1) (by decide)
        have htimeout : (t.tickRole env now).2.tickTimeout now = (t.tickRole env now).2 :=
          if_neg fun h => absurd hphase h.2.1
        rw [hpeer, htimeout, hphase, if_neg fun hx => absurd hx.1 (by decide)] at h
        cases h
        rw [if_pos hc]
        exact hruled
      · rw [if_neg hc, if_neg Bool.false_ne_true]
        exact ((tickRole_ruled hc hx).after (tickPeer_ruled now)).after (round_ruled h)
  · rw [hmode] at h ⊢
    dsimp only at h ⊢
    unfold tickLocal at h
    dsimp only at h ⊢
    split at h
    · rename_i hw
      rw [if_pos hw]
      have hsubmit : Ruled t (t.onScene (·.submitAction .one (t.engine.cpuPickAction .one).1
          (t.engine.cpuPickAction .one).2)) .nothing := .quiet rfl rfl rfl rfl
      exact hsubmit.after (resolveTurn_ruled hw h)
    · rename_i hw
      rw [if_neg hw]
      cases h
      exact .refl t

/-! ### Keys -/

theorem submitOwn_kept (t : TextBattle) (env : Env) (a i : UInt8) :
    (t.submitOwn env a i).role = t.role ∧ (t.submitOwn env a i).phase = .waitRemote ∧
      (t.submitOwn env a i).playerWon = t.playerWon ∧
      (t.submitOwn env a i).engine.result = t.engine.result := by
  refine ⟨congrArg Link.role (submitOwn_link a i), rfl, ?_, ?_⟩
  · unfold submitOwn clientAuthSendActionV2
    dsimp only
    split_ifs <;> rfl
  · unfold submitOwn clientAuthSendActionV2
    dsimp only
    split_ifs <;> rfl

theorem Shows.kept (h : t.Shows t') : t'.role = t.role ∧ t'.playerWon = t.playerWon ∧
    t'.engine.result = t.engine.result :=
  ⟨(congrArg TextBattle.role h :), (congrArg (fun t : TextBattle => t.playerWon) h :),
    (congrArg (fun t : TextBattle => t.engine.result) h :)⟩

theorem Picks.ruled (h : t.Picks env t') (hn : t.phase ≠ .finished) (ho : t.phase ≠ .waitChallengeOverlay) :
    Ruled t t' .nothing := by
  cases h with
  | shown h hp =>
    have hphase : t'.phase ≠ .finished ∧ t'.phase ≠ .waitChallengeOverlay := by
      rcases hp with hp | hp | hp | hp
      · rw [hp]
        exact ⟨hn, ho⟩
      all_goals
        rw [hp]
        exact ⟨nofun, nofun⟩
    obtain ⟨hrole, hwon, hresult⟩ := h.kept
    exact .moved hn hphase.1 hphase.2 hrole hwon hresult
  | submitted u a i hu ha h =>
    obtain ⟨hrole, hwon, hresult⟩ := hu.kept
    obtain ⟨hrole', hphase, hwon', hresult'⟩ := submitOwn_kept u env a i
    rw [h]
    exact .moved hn (hphase ▸ nofun) (hphase ▸ nofun) (hrole'.trans hrole) (hwon'.trans hwon)
      (hresult'.trans hresult)

/-- The buffered UPDATE of a battle that was just joined. -/
theorem Worded.opens {b : Option UInt8} (hr : t.role = .client) (hn : t.phase ≠ .finished)
    (ho : t.phase ≠ .waitChallengeOverlay) (h : Worded t t' b) : Ruled t t' (.ofByte b .update .begun) := by
  have hclient : ¬ t.role ≠ .client := not_not.mpr hr
  unfold News.ofByte
  rcases b with _ | r
  · refine ⟨h.role, h.flag, fun hx => absurd (h.overlay hx) ho, ?_, fun hc => absurd hc hclient,
      fun hc => absurd hc hclient, nofun⟩
    intro hf
    obtain hf | ⟨_, he, _⟩ := h.finished hf
    · exact absurd hf hn
    · cases he
  · dsimp only
    split
    · rename_i hr₀
      subst hr₀
      refine ⟨h.role, h.flag, fun hx => absurd (h.overlay hx) ho, ?_, fun hc => absurd hc hclient,
        fun hc => absurd hc hclient, nofun⟩
      intro hf
      obtain hf | ⟨_, he, hne⟩ := h.finished hf
      · exact absurd hf hn
      · cases he
        exact absurd rfl hne
    · refine ⟨h.role, h.flag.trans ?_, h.overlay, fun _ => .inr ⟨_, rfl⟩, fun hc => absurd hc hclient,
        fun hc => absurd hc hclient, fun _ _ _ => hr⟩
      simp [News.records, Ending.recorded, Ending.won]

/-- Joining moves a client from the overlay to the battle. -/
theorem Ruled.joins (hr : t.role = .client) (ho : t.phase = .waitChallengeOverlay) (hu : u.phase = .waitRemote)
    (hl : u.role = t.role) (hf : u.playerWon = t.playerWon) (h : Ruled u t' n) : Ruled t t' n := by
  have hclient : ¬ t.role ≠ .client := not_not.mpr hr
  refine ⟨h.role.trans hl, ?_, fun _ => ho, ?_, fun hc => absurd hc hclient, fun hc => absurd hc hclient,
    fun _ _ _ => hr⟩
  · rw [h.flag, hf]
  · intro hx
    obtain hx | hx := h.finished hx
    · exact nomatch hu.symm.trans hx.1
    · exact .inr hx

theorem overlay_ruled (hr : t.role = .client) (ho : t.phase = .waitChallengeOverlay) :
    Ruled t (t.keyOverlay env c) (t.overlayNews c) := by
  unfold keyOverlay overlayNews
  by_cases hy : isChar c 'y' 'Y' = true
  · rw [if_pos hy, if_pos hy]
    unfold clientAuthSendAccept
    dsimp only
    rw [if_neg (by decide)]
    by_cases ha : t.awaitingFirstUpdate = true
    · rw [if_pos (by exact ha), if_pos ha]
      exact .quiet rfl rfl rfl rfl
    · rw [if_neg (by exact ha), if_neg ha]
      change Ruled t ((t.joined env).applyBuffered env) _
      have hdrained : (t.joined env).drained.role = .client := hr
      cases hp : t.preAcceptUpdate with
      | none =>
        rw [applyBuffered_none (t := t.joined env) hp]
        have hkept : Worded (t.joined env) (t.joined env) none := .silent rfl (.refl _)
        exact .joins (u := t.joined env) hr ho rfl rfl rfl (hkept.opens hr nofun nofun)
      | some p =>
        rw [applyBuffered_some (t := t.joined env) hp]
        have hworded : Worded (t.joined env).drained ((t.joined env).drained.clientAuthOnUpdatePkt env p)
            ((t.joined env).drained.updateByte p) := update_worded
        exact .joins (u := (t.joined env).drained) hr ho rfl rfl rfl (hworded.opens hdrained nofun nofun)
  · rw [if_neg hy, if_neg hy]
    split
    · exact .ends rfl rfl (Bool.or_false _).symm rfl rfl
    · exact .refl t

theorem tryEscape_ruled (hn : t.phase ≠ .finished) :
    Ruled t (t.tryEscape env) (if (t.tryEscape env).phase = .finished then .ended .left else .nothing) := by
  unfold tryEscape
  dsimp only
  split
  · exact .ends rfl rfl (Bool.or_false _).symm rfl rfl
  · exact .moved hn nofun nofun rfl rfl rfl

theorem keyFlee_ruled (hk : keyAccept c = true) (hn : t.phase ≠ .finished) :
    Ruled t (t.keyFlee env c) (t.fleeNews env) := by
  unfold keyFlee fleeNews
  rw [if_neg (by simp [hk])]
  by_cases hclient : t.role = .client
  · rw [if_pos hclient, if_pos hclient]
    have hsent : Ruled t (t.clientAuthSendActionV2 env 2 0) .nothing := clientAuthSendActionV2_ruled 2 0
    refine hsent.after (.ends rfl rfl (Bool.or_false _).symm rfl rfl)
  · rw [if_neg hclient, if_neg hclient]
    by_cases hmode : t.mode = .networked
    · rw [if_pos hmode, if_pos hmode]
      exact .ends rfl rfl (Bool.or_false _).symm rfl rfl
    · rw [if_neg hmode, if_neg hmode]
      by_cases hlegacy : t.role = .legacy
      · rw [if_pos hlegacy, if_pos (.inl hlegacy)]
        exact .ends rfl rfl (Bool.or_false _).symm rfl rfl
      · rw [if_neg hlegacy]
        simp only [hlegacy, false_or]
        exact tryEscape_ruled hn

theorem keyEscape_ruled : Ruled t (t.keyEscape env) (.ended (if t.role = .client then .left else .gaveUp)) := by
  unfold keyEscape
  cases hr : t.role with
  | client =>
    have hsent : Ruled t (t.clientAuthSendActionV2 env 2 0) .nothing := clientAuthSendActionV2_ruled 2 0
    exact hsent.after (.ends rfl rfl (Bool.or_false _).symm rfl rfl)
  | server => exact .ends (e := .gaveUp) rfl rfl (Bool.or_false _).symm rfl rfl
  | legacy =>
    dsimp only
    split <;> exact .ends (e := .gaveUp) rfl rfl (Bool.or_false _).symm rfl rfl

theorem keyFinished_ruled (h : t.keyFinished.mode ≠ .off) : Ruled t t.keyFinished .nothing := by
  unfold keyFinished at h ⊢
  split
  · exact .quiet rfl rfl rfl rfl
  · rename_i hx
    rw [if_neg hx] at h
    exact absurd rfl h

theorem key_ruled (ho : t.phase = .waitChallengeOverlay → t.role = .client) (hm : t.mode ≠ .off)
    (h : t.handleKey env c = .ok t') (hm' : t'.mode ≠ .off) : Ruled t t' (t.keyNews env c) := by
  unfold handleKey at h
  unfold keyNews
  rw [if_neg hm] at h
  by_cases hf : t.phase = .finished
  · rw [if_pos hf] at h ⊢
    cases h
    exact keyFinished_ruled hm'
  rw [if_neg hf] at h ⊢
  by_cases hover : t.phase = .waitChallengeOverlay
  · rw [if_pos hover] at h ⊢
    cases h
    exact overlay_ruled (ho hover) hover
  rw [if_neg hover] at h ⊢
  by_cases hesc : c = 27
  · rw [if_pos hesc] at h ⊢
    cases h
    exact keyEscape_ruled
  rw [if_neg hesc] at h ⊢
  by_cases hbusy : t.phase = .waitRemote ∨ t.phase = .animating ∨ t.phase = .waitPeerReady
  · rw [if_pos hbusy] at h
    cases h
    have hflee : ¬ (t.phase = .waitFlee ∧ keyAccept c = true) := by
      rintro ⟨hx, -⟩
      rw [hx] at hbusy
      revert hbusy
      decide
    rw [if_neg hflee]
    exact .refl t
  rw [if_neg hbusy] at h
  by_cases hflee : t.phase = .waitFlee
  · rw [if_pos hflee] at h
    cases h
    by_cases hk : keyAccept c = true
    · rw [if_pos ⟨hflee, hk⟩]
      exact keyFlee_ruled hk hf
    · rw [if_neg fun hx => hk hx.2]
      unfold keyFlee
      rw [if_pos (by simpa using hk)]
      exact .moved hf nofun nofun rfl rfl rfl
  rw [if_neg hflee] at h
  rw [if_neg fun hx => hflee hx.1]
  split_ifs at h
  · cases h
    exact .moved hf nofun nofun rfl rfl rfl
  · exact (keySwitch_picks h).ruled hf hover
  · cases h
    exact keyAction_picks.ruled hf hover
  · cases h
    exact .refl t

end TextBattle
end MonsterMesh

import MonsterMesh.Dungeon.Effects

/-! Who may act on the host's run, and who may start one. -/
namespace MonsterMesh

open Bytes Text DungeonTrainer DungeonRun Fallible

namespace DungeonGame

variable {g g' : DungeonGame} {x : Packet × List UInt8}

/-- A packet off the radio, with what lies behind it in memory. -/
def radio (g : DungeonGame) (x : Packet × List UInt8) : Except Fault DungeonGame := g.step (.packet x.1 x.2)

/-- A command whose sender is none of the members. -/
def Foreign (g : DungeonGame) (x : Packet × List UInt8) : Prop :=
  x.1.type = dungeonCmd ∧ g.run.findTrainer (senderOf x.1.payload) = none

/-- A foreign command leaves the run alone, and no packet starts a run. -/
def Lawful (g : DungeonGame) (x : Packet × List UInt8) : Prop :=
  ∀ g', g.radio x = .ok g' →
    (g.Foreign x → g'.run = g.run ∧ g'.testEnemy = g.testEnemy) ∧ g'.runs = g.runs

/-- The party rests, and all of it is at full HP. -/
def AtRest (g : DungeonGame) : Prop :=
  g.run.phase = .exploring ∧ ∀ i, i.val < g.run.partySize.val → (g.run.party i).Full

/-- No command that can be read is `start`, and none from outside is `rest` where that heals somebody. -/
def InOrder (g : DungeonGame) (x : Packet × List UInt8) : Prop :=
  x.1.type = dungeonCmd → dungeonCmdHdrSize ≤ x.1.payload.length →
    DungeonVerb.ofByte (x.1.payload.getD 4 0) ≠ some .hostStart ∧
    (DungeonVerb.ofByte (x.1.payload.getD 4 0) = some .rest → g.Foreign x →
      g.run.phase = .floorComplete ∨ g.run.phase = .exploring → g.AtRest)

theorem healed_eq_iff {t : DungeonTrainer} : t.healed = t ↔ t.Full := by
  constructor
  · intro h
    rw [← h]
    exact full_healed
  · intro h
    obtain ⟨id, cls, spells, slot, fainted, hp⟩ := t
    have hhp : hp = fun _ => 100 := funext fun s => (h s).1
    have hf : fainted = fun _ => false := funext fun s => (h s).2
    subst hhp hf
    rfl

/-- Resting changes nothing exactly when there is nothing to heal. -/
theorem rested_run_iff : g.rested.run = g.run ↔ g.AtRest := by
  constructor
  · intro h
    refine ⟨(congrArg DungeonRun.phase h).symm, fun i hi => ?_⟩
    have hparty := congrFun (congrArg DungeonRun.party h) i
    change (if _ then _ else _) = g.run.party i at hparty
    rw [if_pos hi] at hparty
    exact healed_eq_iff.mp hparty
  · rintro ⟨hph, hfull⟩
    unfold rested
    have hparty : (fun i : Fin 5 => if i.val < g.run.partySize.val then (g.run.party i).healed
        else g.run.party i) = g.run.party := by
      funext i
      split
      case isTrue hi => exact healed_eq_iff.mpr (hfull i hi)
      case isFalse => rfl
    dsimp only
    rw [hparty, ← hph]

theorem slot_cmd (ht : x.1.type = dungeonCmd) (hh : g.isHost = true)
    (hlen : dungeonCmdHdrSize ≤ x.1.payload.length) : ∃ arg, g.radio x =
      Prod.fst <$> g.hostProcessCmd (senderOf x.1.payload) (DungeonVerb.ofByte (x.1.payload.getD 4 0)) arg := by
  obtain ⟨p, rest⟩ := x
  refine ⟨if dungeonCmdHdrSize < p.payload.length then
    ((p.payload ++ rest).drop dungeonCmdHdrSize).takeWhile (· ≠ 0) else [], ?_⟩
  unfold radio step handle handlePacket
  dsimp only at ht hlen ⊢
  rw [if_neg (by rw [ht]; decide), if_neg (by rw [ht]; decide), if_neg (by rw [ht]; decide), if_pos ht]
  unfold handleCmd
  rw [if_neg (not_or.mpr ⟨by simp [hh], not_lt.mpr hlen⟩)]

theorem replicated_ok (h : ∀ i, (g.run.party i).InSlot) : Prod.fst <$> g.replicated = .ok g := by
  unfold replicated
  rw [sendState_eq h]
  rfl

theorem startRun_ok (h : g.Slotted) (hh : g.isHost = true) :
    Prod.fst <$> g.hostStartRun = .ok g.started := by
  unfold hostStartRun
  rw [if_neg (not_or.mpr ⟨by simp [hh], h.hosted hh⟩)]
  exact replicated_ok (g := g.started) h.slots

theorem rest_ok (h : g.Slotted) (hph : g.run.phase = .floorComplete ∨ g.run.phase = .exploring) :
    Prod.fst <$> g.hostCmdRest = .ok g.rested := by
  unfold hostCmdRest
  rw [if_pos hph]
  exact replicated_ok (g := g.rested) (Slotted.rested h.slots)

/-- On a host, a packet is lawful exactly when it is in order. -/
theorem lawful_iff (h : g.Slotted) (hh : g.isHost = true) : g.Lawful x ↔ g.InOrder x := by
  constructor
  · intro hl ht hlen
    obtain ⟨arg, hx⟩ := slot_cmd ht hh hlen
    refine ⟨fun hv => ?_, fun hv hf hph => ?_⟩
    · rw [hv] at hx
      have hruns := (hl _ (hx.trans (startRun_ok h hh))).2
      exact absurd hruns (Nat.succ_ne_self _)
    · rw [hv] at hx
      exact rested_run_iff.mp ((hl _ (hx.trans (rest_ok h hph))).1 hf).1
  · intro ho g' hg'
    have heff := effect_step hg'
    cases heff with
    | quiet b => exact ⟨fun _ => ⟨rfl, rfl⟩, rfl⟩
    | start id hord hh' =>
      rcases hord with ⟨v, a, he, -⟩ | ⟨p, rest, he, ht, hlen, -, hv⟩
      · cases he
      · cases he
        exact absurd hv (ho ht hlen).1
    | member id i t ph enemy verb hord hv hi hin =>
      refine ⟨fun hf => ?_, rfl⟩
      rcases hord with ⟨v, a, he, -⟩ | ⟨p, rest, he, -, -, rfl, -⟩
      · cases he
      · cases he
        exact absurd (hf.2.symm.trans hi) nofun
    | rest id hord hph =>
      refine ⟨fun hf => ?_, rfl⟩
      rcases hord with ⟨v, a, he, -⟩ | ⟨p, rest, he, ht, hlen, -, hv⟩
      · cases he
      · cases he
        exact ⟨rested_run_iff.mpr ((ho ht hlen).2 hv hf hph), rfl⟩
    | host v a he => cases he
    | guest v a he => cases he
    | addGuest p rest he ht id hlt =>
      cases he
      exact ⟨fun hf => absurd (ht.symm.trans hf.1) (by decide), rfl⟩
    | ack i hn => exact absurd (hn.symm.trans hh) (by decide)
    | copy payload party hn => exact absurd (hn.symm.trans hh) (by decide)

/-- Packets make no host and unmake none. -/
theorem isHost_radio (h : g.radio x = .ok g') : g'.isHost = g.isHost := by
  have heff := effect_step h
  cases heff with
  | host v a he => cases he
  | guest v a he => cases he
  | quiet | start | member | rest | addGuest | ack | copy => rfl

/-- On a host, whatever it did before: along any packets, foreign commands leave the run alone and no run is
started, exactly when the packets are in order. -/
theorem commands_lawful_iff {myId : UInt32} (hr : Reach step (fun _ _ => True) (fresh myId) g)
    (hh : g.isHost = true) (xs : List (Packet × List UInt8)) :
    Along radio Lawful g xs ↔ Along radio InOrder g xs :=
  along_congr (P := fun g => g.Slotted ∧ g.isHost = true)
    (fun _ _ _ hg hst => ⟨hg.1.effect (effect_step hst), (isHost_radio hst).trans hg.2⟩)
    (fun _ _ hg => lawful_iff hg.1 hg.2) ⟨slotted_reach hr, hh⟩

/-- A device that has typed `dungeon host`. -/
theorem reach_host (myId : UInt32) : Reach step (fun _ _ => True) (fresh myId) (fresh myId).becomeHost :=
  .tail (.command (cstr "host") []) .refl trivial (step_host _ _)

/-- A command of a node, without an argument. -/
def cmdOf (id : UInt32) (verb : DungeonVerb) : Packet × List UInt8 :=
  (⟨dungeonCmd, 0, 0, ((fresh id).forwardCmd verb []).2⟩, [])

theorem commands_lawful_iff_attack :
    Along radio Lawful (fresh 1).becomeHost [cmdOf 7 .attack] ↔
      Along radio InOrder (fresh 1).becomeHost [cmdOf 7 .attack] :=
  commands_lawful_iff (reach_host 1) rfl _

/-- A node that is in no party sends `start`, and the run starts. -/
theorem stranger_starts : ¬ ∀ (myId : UInt32) (g : DungeonGame),
    Reach step (fun _ _ => True) (fresh myId) g → g.isHost = true →
      ∀ xs, Along radio Lawful g xs := by
  intro h
  have hl := (h 1 _ (reach_host 1) rfl [cmdOf 7 .hostStart]).1
  have ho := (lawful_iff (slotted_reach (reach_host 1)) rfl).mp hl
  exact (ho rfl (by decide)).1 (by decide)

end DungeonGame

end MonsterMesh

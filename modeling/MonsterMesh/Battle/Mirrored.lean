import MonsterMesh.Battle.Actions
import MonsterMesh.Battle.Start
import MonsterMesh.Engine.Arith
import MonsterMesh.Engine.Mirror
import MonsterMesh.Lib.Walk

/-! Two devices that resolve the same turns over the lockstep wire, each on its own side 0. -/
namespace MonsterMesh

open Fallible Bytes

/-! ### Experience that brings no level -/

namespace Scene

variable {s : Scene} {mask : UInt8} {xp mult : UInt32} {slot : Fin 6} {foe : BattlePoke}
  {pre : Fin 6 → UInt16}

/-- A share of experience leaves the mon of a slot on its level. -/
def Short (s : Scene) (mask : UInt8) (xp : UInt32) (slot : Fin 6) : Prop :=
  mask &&& (1 <<< UInt8.ofNat slot.val) = 0 ∨ ((s.engine.p .zero).mons slot).hp = 0 ∨
    100 ≤ ((s.engine.p .zero).mons slot).level ∨
    s.xp.slotXpAccum slot + xp < levelThreshold ((s.engine.p .zero).mons slot).level

theorem levelUps_stop (h : 100 ≤ ((s.engine.p .zero).mons slot).level ∨
    s.xp.slotXpAccum slot < levelThreshold ((s.engine.p .zero).mons slot).level) (fuel : Nat) :
    s.levelUps slot fuel = s := by
  cases fuel with
  | zero => rfl
  | succ fuel =>
    unfold levelUps
    dsimp only
    rw [if_pos h]

theorem creditSlot_short (h : s.Short mask xp slot) :
    (s.creditSlot mask xp slot).engine = s.engine ∧
      ∀ j ≠ slot, (s.creditSlot mask xp slot).xp.slotXpAccum j = s.xp.slotXpAccum j := by
  unfold creditSlot
  split
  · exact ⟨rfl, fun _ _ => rfl⟩
  · rename_i hc
    obtain ⟨hmask, hhp⟩ := not_or.mp hc
    have hstop := (h.resolve_left hmask).resolve_left hhp
    rw [← Function.update_self (f := s.xp.slotXpAccum) slot (s.xp.slotXpAccum slot + xp)] at hstop
    rw [levelUps_stop hstop]
    exact ⟨rfl, fun j hj => Function.update_of_ne hj ..⟩

theorem Short.congr {s' : Scene} (he : s'.engine = s.engine)
    (ha : s'.xp.slotXpAccum slot = s.xp.slotXpAccum slot) (h : s.Short mask xp slot) :
    s'.Short mask xp slot := by
  unfold Short
  rw [he, ha]
  exact h

theorem foldl_creditSlot_short {l : List (Fin 6)} (hl : l.Nodup)
    (h : ∀ slot ∈ l, s.Short mask xp slot) :
    (l.foldl (fun s slot => s.creditSlot mask xp slot) s).engine = s.engine := by
  induction l generalizing s with
  | nil => rfl
  | cons a l ih =>
    obtain ⟨hnot, hl⟩ := List.nodup_cons.mp hl
    obtain ⟨he, haccum⟩ := creditSlot_short (h a (List.mem_cons_self ..))
    refine (ih hl fun slot hs => ?_).trans he
    have hne : slot ≠ a := fun heq => hnot (heq ▸ hs)
    exact (h slot (List.mem_cons_of_mem a hs)).congr he (haccum slot hne)

/-- The faint of `foe` brings no participant a level. -/
def NoLevel (s : Scene) (foe : BattlePoke) (mult : UInt32) : Prop :=
  ∀ slot ∈ (s.engine.p .zero).slots,
    s.Short s.xp.participantMask (faintXp s.xp.participantMask foe mult) slot

theorem slots_nodup (p : BattleParty) : p.slots.Nodup := (List.nodup_finRange 6).filter _

theorem creditFaint_engine (h : s.NoLevel foe mult) :
    (s.creditFaint foe mult).engine = s.engine := by
  unfold creditFaint
  dsimp only
  refine (foldl_creditSlot_short (slots_nodup _) ?_).trans rfl
  intro slot hs
  exact (h slot hs).congr rfl rfl

/-- One round of the loop over the other side's slots. -/
def creditAt (pre : Fin 6 → UInt16) (mult : UInt32) (s : Scene) (i : Fin 6) : Scene :=
  if 0 < pre i ∧ ((s.engine.p .one).mons i).hp = 0 then
    s.creditFaint ((s.engine.p .one).mons i) mult
  else s

/-- None of the faints brings a level. -/
def LevelFree (pre : Fin 6 → UInt16) (mult : UInt32) (s : Scene) : Prop :=
  Walk.Along (creditAt pre mult)
    (fun s i => 0 < pre i ∧ ((s.engine.p .one).mons i).hp = 0 →
      s.NoLevel ((s.engine.p .one).mons i) mult) s (s.engine.p .one).slots

theorem creditFaints_engine (h : LevelFree pre mult s) :
    (s.creditFaints pre mult).engine = s.engine := by
  change (Walk.run (creditAt pre mult) s (s.engine.p .one).slots).engine = s.engine
  refine Walk.run_invariant (P := fun t => t.engine = s.engine) ?_ rfl h
  intro t i ht hc
  unfold creditAt
  split
  · rename_i hf
    exact (creditFaint_engine (hc hf)).trans ht
  · exact ht

/-! ### The engine in a turn -/

theorem autoReplace_engine (s : Scene) (side : Side) :
    (if (s.engine.p side).activeMon.hp = 0 then s.autoReplace side else s).engine =
      (s.engine.autoReplaceIfFainted side true).2.1 := by
  split
  · rfl
  · rename_i hne
    unfold Engine.autoReplaceIfFainted
    rw [if_pos (UInt16.pos_iff_ne_zero.mpr hne)]

theorem handleFaints_engine (s : Scene) :
    s.handleFaints.engine = s.engine.replaceBoth .zero true := by
  unfold handleFaints
  dsimp only
  rw [autoReplace_engine, autoReplace_engine]
  rfl

/-- What the screen shows after the engine's turn, before any experience. -/
def afterTurn (s : Scene) (r : Engine × Output) : Scene :=
  ({ s with engine := r.1 }.engineLog r.2.lines).handleFaints

def trainerMult (s : Scene) : UInt32 := if s.xp.isTrainerBattle then 3 else 2

/-- The turn of the submitted actions brings the local party no level. -/
def Spares (s : Scene) : Prop :=
  ∀ r, s.engine.executeTurn true = .ok r →
    LevelFree s.foeHp (s.afterTurn r).trainerMult (s.afterTurn r)

end Scene

namespace TextBattle

variable {t : TextBattle} {env : Env} {a : Side → Engine.Action}

theorem playOut_engine {s : Scene} (h : s.Spares) :
    Scene.engine <$> playOut s =
      (fun r => r.1.replaceBoth .zero true) <$> s.engine.executeTurn true := by
  unfold playOut
  dsimp only
  cases hr : s.engine.executeTurn true with
  | error f => rfl
  | ok r =>
    change Except.ok (Scene.creditFaints (s.afterTurn r) s.foeHp (s.afterTurn r).trainerMult).engine =
      Except.ok (r.1.replaceBoth .zero true)
    have hengine : (s.afterTurn r).engine = r.1.replaceBoth .zero true :=
      Scene.handleFaints_engine _
    rw [Scene.creditFaints_engine (h r hr), hengine]

/-- Both actions are in the engine. -/
def submitPair (t : TextBattle) (a : Side → Engine.Action) : TextBattle :=
  t.onScene fun s => (s.submitAction .zero (a .zero).1 (a .zero).2).submitAction .one
    (a .one).1 (a .one).2

/-- A lockstep turn: the own action is side 0's, the peer's side 1's. -/
def playPair (t : TextBattle) (env : Env) (a : Side → Engine.Action) : Except Fault TextBattle :=
  (t.submitPair a).resolveTurn env

theorem playPair_engine (env : Env) (h : (t.submitPair a).toScene.Spares) :
    (fun u : TextBattle => u.engine) <$> t.playPair env a = t.engine.netTurn true a := by
  have hplay := playOut_engine h
  unfold playPair resolveTurn Engine.netTurn
  change _ = (fun r => r.1.replaceBoth .zero true) <$>
    (t.submitPair a).toScene.engine.executeTurn true
  rw [← hplay]
  cases playOut (t.submitPair a).toScene with
  | error f => rfl
  | ok s =>
    change Except.ok (((t.submitPair a).withScene s).endTurn env).engine = Except.ok s.engine
    rw [endTurn_engine]
    rfl

/-! ### State hashes on the wire -/

def hashPacket (t : TextBattle) : Packet :=
  ⟨textBattleHash, t.session, t.engine.turn.toUInt8, be16 t.engine.turn ++ t.engine.hashState⟩

theorem sendHash_eq (t : TextBattle) : t.sendHash = t.send t.hashPacket := rfl

/-- A hash of the same state is no desync. -/
theorem onHash_match {u : TextBattle}
    (hhash : u.engine.hashState = t.engine.hashState) : t.onHash u.hashPacket = t := by
  have hlength : u.engine.hashState.length = 8 := rfl
  have htake : (u.hashPacket.payload.drop 2).take 8 = t.engine.hashState := by
    change u.engine.hashState.take 8 = _
    rw [List.take_of_length_le (Nat.le_of_eq hlength), hhash]
  unfold onHash
  split
  · rfl
  · rw [if_neg (not_not.mpr htake)]

end TextBattle

/-! ### Two decks -/

structure Decks where
  (initiator receiver : TextBattle)

namespace Decks

variable {d d' : Decks} {x : (Env × Env) × (Side → Engine.Action)}

/-- Each deck resolves a turn, with the same two actions. -/
def turn (d : Decks) (x : (Env × Env) × (Side → Engine.Action)) : Except Fault Decks := do
  let i ← d.initiator.playPair x.1.1 x.2
  let r ← d.receiver.playPair x.1.2 fun s => x.2 s.other
  return ⟨i, r⟩

/-- The two launches of one battle: the parties crossed, the seed the same. -/
inductive Opens : Decks → Prop
  | mk (t t' : TextBattle) (env env' : Env) (peer peer' : UInt32) (A B : Gen1Party) (seed : UInt32)
      (session session' : UInt16) (hA : 0 < A.count) (hB : 0 < B.count) (hs : seed ≠ 0) :
      Opens ⟨t.startNetworkedAsInitiator env peer A B seed session,
        t'.startNetworkedAsReceiver env' peer' B seed A session'⟩

/-- The turn is no tie between two moves, and brings neither deck's own party a level. -/
structure Fair (d : Decks) (x : (Env × Env) × (Side → Engine.Action)) : Prop where
  untied : ¬ (d.initiator.engine.submitBoth x.2).MoveTie
  initiator : (d.initiator.submitPair x.2).toScene.Spares
  receiver : (d.receiver.submitPair fun s => x.2 s.other).toScene.Spares

/-- The engines are mirror images, up to indices that the next submitted actions overwrite. -/
def Mirrored (d : Decks) : Prop :=
  ∃ i, d.receiver.engine = { d.initiator.engine.mirror with pendIndex := i }

/-- The decks are in step, and take each other's state hash. -/
structure InStep (d : Decks) : Prop where
  mirror : Engine.MirrorImage d.initiator.engine d.receiver.engine
  initiator : d.initiator.onHash d.receiver.hashPacket = d.initiator
  receiver : d.receiver.onHash d.initiator.hashPacket = d.receiver

/-- A healed lead stands. -/
theorem lead_stands {A : Gen1Party} (hA : 0 < A.count) :
    0 < (initSide A 3).heal.activeMon.hp := by
  have hsize : 0 < A.size.val := by
    have hcount : 0 < A.count.toNat := UInt8.lt_iff_toNat_lt.mp hA
    change 0 < min A.count.toNat 6
    omega
  have hlead : (initSide A 3).heal.activeMon =
      (initBattlePokeFromSave (A.mons 0) (A.nicknames 0) 3).heal := by
    change (if (0 : ℕ) < A.size.val then
      BattlePoke.heal (if (0 : ℕ) < A.size.val then _ else _) else _) = _
    rw [if_pos hsize, if_pos hsize]
    rfl
  rw [hlead]
  exact init_maxHp _ _ _

/-- Nobody is replaced while both leads stand. -/
theorem replaceBoth_standing {e : Engine} (h₀ : 0 < (e.p .zero).activeMon.hp)
    (h₁ : 0 < (e.p .one).activeMon.hp) : e.replaceBoth .zero true = e := by
  have hstands : ∀ s : Side, 0 < (e.p s).activeMon.hp →
      (e.autoReplaceIfFainted s true).2.1 = e := by
    intro s hs
    unfold Engine.autoReplaceIfFainted
    rw [if_pos hs]
  unfold Engine.replaceBoth
  rw [hstands .zero h₀]
  exact hstands .one h₁

theorem Opens.mirrored (h : Opens d) : d.Mirrored := by
  cases h with
  | mk t t' env env' peer peer' A B seed session session' hA hB hs =>
    have hinitiator : (t.startNetworkedAsInitiator env peer A B seed session).engine =
        (t.engine.start A B seed 3).heal := by
      unfold TextBattle.startNetworkedAsInitiator TextBattle.lockstepEngine
      dsimp only
      rw [if_neg hs, if_pos hs, if_pos hB]
      change (Scene.handleFaints _).engine = _
      rw [Scene.handleFaints_engine]
      exact replaceBoth_standing (lead_stands hA) (lead_stands hB)
    have hreceiver : (t'.startNetworkedAsReceiver env' peer' B seed A session').engine =
        (t'.engine.start B A seed 3).heal := by
      change (t'.engine.start B (if 0 < A.count then A else B) seed 3).heal = _
      rw [if_pos hA]
    refine ⟨t'.engine.pendIndex, ?_⟩
    dsimp only
    rw [hreceiver, Engine.start_mirror t.engine t'.engine]
    rw [hinitiator]
    rfl

theorem Mirrored.inStep (h : d.Mirrored) : d.InStep := by
  obtain ⟨i, hi⟩ := h
  have hm := Engine.mirrorImage_mirror d.initiator.engine
  have hhash : d.receiver.engine.hashState = d.initiator.engine.hashState := by
    rw [hi]
    exact hm.hash
  refine ⟨?_, TextBattle.onHash_match hhash, TextBattle.onHash_match hhash.symm⟩
  rw [hi]
  exact ⟨hm.party, hm.rng, hm.turn, hm.result, hm.hash⟩

theorem Mirrored.turn (h : d.Mirrored) (hf : d.Fair x) (ht : d.turn x = .ok d') :
    d'.Mirrored := by
  obtain ⟨i, hi⟩ := h
  obtain ⟨a, ha, ht⟩ := bind_eq_ok.mp ht
  obtain ⟨b, hb, ht⟩ := bind_eq_ok.mp ht
  cases ht
  have hinitiator := TextBattle.playPair_engine x.1.1 hf.initiator
  have hreceiver := TextBattle.playPair_engine x.1.2 hf.receiver
  rw [ha] at hinitiator
  have hpend : ({ d.initiator.engine.mirror with pendIndex := i } : Engine).netTurn true
      (fun s => x.2 s.other) = d.initiator.engine.mirror.netTurn true fun s => x.2 s.other := by
    unfold Engine.netTurn
    rw [Engine.submitBoth_pendIndex]
  rw [hb, hi, hpend, Engine.netTurn_mirror _ _ _ hf.untied, ← hinitiator] at hreceiver
  exact ⟨_, Except.ok.inj hreceiver⟩

theorem Mirrored.run (h : d.Mirrored) (hr : Reach Decks.turn Decks.Fair d d') : d'.Mirrored :=
  hr.invariant (fun _ _ _ hd hf ht => hd.turn hf ht) h

end Decks

instance (s : Scene) : Decidable s.Spares :=
  match h : s.engine.executeTurn true with
  | .ok r =>
    have : Decidable (Scene.LevelFree s.foeHp (s.afterTurn r).trainerMult (s.afterTurn r)) := by
      unfold Scene.LevelFree Scene.NoLevel Scene.Short
      infer_instance
    decidable_of_iff (Scene.LevelFree s.foeHp (s.afterTurn r).trainerMult (s.afterTurn r))
      ⟨fun hl r' hr => Except.ok.inj (h.symm.trans hr) ▸ hl, fun hs => hs r h⟩
  | .error _ => .isTrue fun _ hr => nomatch h.symm.trans hr

/-- Mons of one level, each with one move. -/
def squad (level : UInt8) (team : List (UInt8 × UInt8)) : Gen1Party :=
  { count := UInt8.ofNat team.length
    species := fun i => ((team[i.val]?).map (·.1)).getD 0
    nicknames := fun _ _ => 0x50
    mons := fun i => { Gen1Pokemon.zero with
      species := ((team[i.val]?).map (·.1)).getD 0, level := level
      moves := fun _ => ((team[i.val]?).map (·.2)).getD 0 } }

namespace Decks

/-- A Pikachu with Thunderbolt against a Gyarados and a Magikarp that splash. -/
def anglers (level : UInt8) (seed : UInt32) : Decks :=
  ⟨TextBattle.fresh.startNetworkedAsInitiator TextBattle.clock 2 (squad level [(0x54, 85)])
      (squad level [(0x16, 150), (0x85, 150)]) seed 5,
    TextBattle.fresh.startNetworkedAsReceiver TextBattle.clock 1
      (squad level [(0x16, 150), (0x85, 150)]) seed (squad level [(0x54, 85)]) 5⟩

def firstMoves : (Env × Env) × (Side → Engine.Action) :=
  ((TextBattle.clock, TextBattle.clock), fun _ => (0, 0))

theorem anglers_open (level : UInt8) {seed : UInt32} (hs : seed ≠ 0) : Opens (anglers level seed) :=
  .mk _ _ _ _ _ _ _ _ _ _ _ (show (0 : UInt8) < 1 by decide) (show (0 : UInt8) < 2 by decide) hs

end Decks
end MonsterMesh

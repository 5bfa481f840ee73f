import MonsterMesh.Dungeon.Party

/-! What an event can do to the dungeon, said once for every command and packet. -/
namespace MonsterMesh

open Bytes Chunks Text DungeonTrainer DungeonRun Fallible

namespace DungeonGame

variable {g g' : DungeonGame} {e : DungeonEvent} {id : UInt32} {payload rest : List UInt8}
  {r : DungeonGame × DungeonSent}

/-- The event is a command of this node with this verb: typed at the host, or sent to it. -/
def Orders (g : DungeonGame) (e : DungeonEvent) (id : UInt32) (verb : DungeonVerb) : Prop :=
  (∃ v a, e = .command v a ∧ id = g.myId) ∨
    ∃ p rest, e = .packet p rest ∧ p.type = dungeonCmd ∧ dungeonCmdHdrSize ≤ p.payload.length ∧
      id = senderOf p.payload ∧ DungeonVerb.ofByte (p.payload.getD 4 0) = some verb

/-- The state once the run is started. -/
def started (g : DungeonGame) : DungeonGame :=
  { g with
    run := { g.run with currentFloor := g.run.firstFloor, phase := .inCombat }
    testEnemy := .charmander
    dirty := true
    runs := g.runs + 1 }

/-- The state once the party has rested. -/
def rested (g : DungeonGame) : DungeonGame :=
  { g with
    run := { g.run with
      phase := .exploring
      party := fun i => if i.val < g.run.partySize.val then (g.run.party i).healed else g.run.party i }
    dirty := true }

/-- What an event can do. -/
inductive Effect (g : DungeonGame) (e : DungeonEvent) : DungeonGame → Prop
  | quiet (b : Bool) : Effect g e { g with dirty := b }
  | start (id : UInt32) (ho : g.Orders e id .hostStart) (hh : g.isHost = true) : Effect g e g.started
  | member (id : UInt32) (i : Fin 5) (t : DungeonTrainer) (ph : RunPhase) (enemy : TestEnemy)
      (verb : DungeonVerb) (ho : g.Orders e id verb) (hv : verb ≠ .hostStart) (hi : g.run.findTrainer id = some i)
      (ht : (g.run.party i).InSlot → t.InSlot) :
      Effect g e { g with run := { g.run.setMember i t with phase := ph }, testEnemy := enemy, dirty := true }
  | rest (id : UInt32) (ho : g.Orders e id .rest)
      (hph : g.run.phase = .floorComplete ∨ g.run.phase = .exploring) : Effect g e g.rested
  | host (v a : Str) (he : e = .command v a) : Effect g e g.becomeHost
  | guest (v a : Str) (he : e = .command v a) : Effect g e { g with active := true, isHost := false }
  | addGuest (p : Packet) (rest : List UInt8) (he : e = .packet p rest) (ht : p.type = dungeonJoin) (id : UInt32)
      (hlt : g.run.partySize.val < 5) : Effect g e (g.addGuest id hlt)
  | ack (i : Fin 5) (hh : g.isHost = false) :
      Effect g e { g with
        run := g.run.setMember i { (g.run.party i).filled with nodeId := g.myId }, dirty := true }
  | copy (payload : List UInt8) (party : Fin 5 → DungeonTrainer) (hh : g.isHost = false)
      (hp : (∀ i, (g.run.party i).InSlot) → ∀ i, (party i).InSlot) :
      Effect g e { g with
        run := { g.run with
          currentFloor := { g.run.currentFloor with depth := payload.getD 1 0 }
          phase := payload.getD 0 0
          partySize := claimedSize payload
          party := party }
        dirty := true }

theorem Effect.same : Effect g e g := .quiet g.dirty

theorem replicated_game (h : g.replicated = .ok r) : r.1 = g := by
  obtain ⟨p, -, hp⟩ := bind_eq_ok.mp h
  cases hp
  rfl

theorem effect_attack (ho : g.Orders e id .attack) (h : g.hostCmdAttack id = .ok r) : Effect g e r.1 := by
  unfold hostCmdAttack at h
  split at h
  · cases h
    exact .same
  · split at h
    · cases h
      exact .same
    case h_2 i hi =>
      obtain ⟨s, hs, h⟩ := bind_eq_ok.mp h
      rw [replicated_game h]
      exact .member id i _ _ _ .attack ho (by decide) hi fun hin => struck_inSlot hin

theorem effect_cast (ho : g.Orders e id .cast) : Effect g e (g.hostCmdCast id) := by
  unfold hostCmdCast
  split
  · exact .same
  · split
    · exact .same
    case h_2 i hi =>
      split
      · exact .same
      · exact .member id i _ g.run.phase g.testEnemy .cast ho (by decide) hi fun hin => hin

theorem effect_switch {slot : UInt8} (ho : g.Orders e id .switch) (h : g.hostCmdSwitch id slot = .ok r) :
    Effect g e r.1 := by
  unfold hostCmdSwitch at h
  split at h
  · rw [replicated_game h]
    exact .same
  case h_2 i hi =>
    split at h
    case isTrue hs =>
      split at h
      · rw [replicated_game h]
        exact .same
      · rw [replicated_game h]
        exact .member id i _ g.run.phase g.testEnemy .switch ho (by decide) hi fun _ => hs
    · rw [replicated_game h]
      exact .same

theorem effect_start (ho : g.Orders e id .hostStart) (h : g.hostStartRun = .ok r) : Effect g e r.1 := by
  unfold hostStartRun at h
  split at h
  · cases h
    exact .same
  case isFalse hn =>
    rw [replicated_game h]
    rw [not_or, Bool.not_eq_false] at hn
    exact .start id ho hn.1

theorem effect_rest (ho : g.Orders e id .rest) (h : g.hostCmdRest = .ok r) : Effect g e r.1 := by
  unfold hostCmdRest at h
  split at h
  case isTrue hph =>
    rw [replicated_game h]
    exact .rest id ho hph
  · cases h
    exact .same

theorem effect_process {verb : Option DungeonVerb} {arg : Str} (ho : ∀ v, verb = some v → g.Orders e id v)
    (h : g.hostProcessCmd id verb arg = .ok r) : Effect g e r.1 := by
  unfold hostProcessCmd at h
  split at h
  · exact effect_start (ho _ rfl) h
  · exact effect_attack (ho _ rfl) h
  · cases h
    exact effect_cast (ho _ rfl)
  · exact effect_switch (ho _ rfl) h
  · exact effect_rest (ho _ rfl) h
  · cases h
    exact .same

theorem effect_command {verb arg : Str} (h : g.handleLocalCommand verb arg = .ok r) :
    Effect g (.command verb arg) r.1 := by
  unfold handleLocalCommand at h
  dsimp only at h
  split at h
  · cases h
    exact .host verb arg rfl
  split at h
  · cases h
    exact .guest verb arg rfl
  split at h
  · cases h
    exact .same
  split at h
  · cases h
    exact .same
  split at h
  · exact effect_process (fun v _ => .inl ⟨verb, arg, rfl, rfl⟩) h
  · cases h
    exact .same

theorem effect_join {p : Packet} (ht : p.type = dungeonJoin) (h : g.handleJoin payload = .ok r) :
    Effect g (.packet p rest) r.1 := by
  unfold handleJoin at h
  split at h
  · cases h
    exact .same
  · split at h
    case isTrue hlt =>
      obtain ⟨_, -, h⟩ := bind_eq_ok.mp h
      cases h
      exact .addGuest p rest rfl ht _ hlt
    · cases h
      exact .same

theorem effect_ack (h : g.handleJoinAck payload = .ok g') : Effect g e g' := by
  unfold handleJoinAck at h
  split at h
  · cases h
    exact .same
  case isFalse hn =>
    rw [not_or, Bool.not_eq_true] at hn
    split at h
    · cases h
      exact .quiet true
    · split at h
      · cases h
        exact .ack _ hn.1
      · cases h

theorem copyMember_inSlot {party party' : Fin 5 → DungeonTrainer} {i : Fin 5}
    (hp : ∀ j, (party j).InSlot) (h : copyMember payload party i = .ok party') (j : Fin 5) :
    (party' j).InSlot := by
  unfold copyMember at h
  split at h
  · split at h
    case isTrue hs =>
      cases h
      rcases eq_or_ne j i with rfl | hne
      · rw [Function.update_self]
        exact hs
      · rw [Function.update_of_ne hne]
        exact hp j
    · cases h
  · cases h
    exact hp j

theorem copies_inSlot {l : List (Fin 5)} {party party' : Fin 5 → DungeonTrainer}
    (hp : ∀ j, (party j).InSlot) (h : l.foldlM (copyMember payload) party = .ok party') (j : Fin 5) :
    (party' j).InSlot := by
  induction l generalizing party with
  | nil =>
    cases h
    exact hp j
  | cons i l ih =>
    rw [List.foldlM_cons] at h
    obtain ⟨q, hq, h⟩ := bind_eq_ok.mp h
    exact ih (copyMember_inSlot hp hq) h

theorem effect_state (h : g.handleState payload = .ok g') : Effect g e g' := by
  unfold handleState at h
  split at h
  · cases h
    exact .same
  case isFalse hn =>
    rw [not_or, not_or, Bool.not_eq_true g.isHost] at hn
    obtain ⟨party, hparty, h⟩ := bind_eq_ok.mp h
    cases h
    exact .copy payload party hn.2.1 fun hp => copies_inSlot hp hparty

theorem effect_packet {p : Packet} (h : g.handlePacket p rest = .ok r) : Effect g (.packet p rest) r.1 := by
  unfold handlePacket at h
  split at h
  · cases h
    change Effect g _ (g.handleBeacon p.payload)
    unfold handleBeacon
    split
    · exact .same
    · exact .quiet true
  split at h
  case isTrue ht => exact effect_join ht h
  split at h
  · obtain ⟨g', hg', rfl⟩ := map_eq_ok.mp h
    exact effect_ack hg'
  split at h
  case isTrue ht =>
    unfold handleCmd at h
    split at h
    · cases h
      exact .same
    case isFalse hn =>
      rw [not_or, not_lt] at hn
      exact effect_process (fun v hv => .inr ⟨p, rest, rfl, ht, hn.2, rfl, hv⟩) h
  split at h
  · obtain ⟨g', hg', rfl⟩ := map_eq_ok.mp h
    exact effect_state hg'
  split at h
  · cases h
    change Effect g _ (g.handleMsg p.payload)
    unfold handleMsg
    split
    · exact .same
    · exact .quiet true
  split at h
  · cases h
    change Effect g _ (g.handlePrompt p.payload)
    unfold handlePrompt
    split
    · exact .same
    · exact .quiet true
  · cases h
    exact .same

theorem effect_step (h : g.step e = .ok g') : Effect g e g' := by
  obtain ⟨r, hr, rfl⟩ := map_eq_ok.mp h
  cases e with
  | command verb arg => exact effect_command hr
  | packet p rest => exact effect_packet hr

/-! ### What holds of every device -/

/-- Active slots are slots, and a host has a party. -/
structure Slotted (g : DungeonGame) : Prop where
  slots : ∀ i, (g.run.party i).InSlot
  hosted : g.isHost = true → g.run.partySize ≠ 0

theorem Slotted.update {party : Fin 5 → DungeonTrainer} (h : ∀ i, (party i).InSlot) {i : Fin 5}
    {t : DungeonTrainer} (ht : t.InSlot) (j : Fin 5) : (Function.update party i t j).InSlot := by
  rcases eq_or_ne j i with rfl | hne
  · rwa [Function.update_self]
  · rw [Function.update_of_ne hne]
    exact h j

theorem Slotted.rested (h : ∀ i, (g.run.party i).InSlot) (i : Fin 5) : (g.rested.run.party i).InSlot := by
  change InSlot (if _ then _ else _)
  split
  · exact h i
  · exact h i

theorem Slotted.effect (h : g.Slotted) (he : Effect g e g') : g'.Slotted := by
  cases he with
  | quiet b => exact ⟨h.slots, h.hosted⟩
  | start => exact ⟨h.slots, h.hosted⟩
  | member id i t ph enemy verb ho hv hi ht => exact ⟨update h.slots (ht (h.slots i)), h.hosted⟩
  | rest => exact ⟨rested h.slots, h.hosted⟩
  | host =>
    refine ⟨update h.slots (by decide : (0 : UInt8).toNat < 6), fun _ => ?_⟩
    change (1 : Fin 6) ≠ 0
    decide
  | guest => exact ⟨h.slots, nofun⟩
  | addGuest p rest he ht id hlt =>
    exact ⟨update h.slots (h.slots ⟨_, hlt⟩), fun _ h0 => absurd (congrArg Fin.val h0) (Nat.succ_ne_zero _)⟩
  | ack i hh => exact ⟨update h.slots (h.slots i), h.hosted⟩
  | copy payload party hh hp =>
    exact ⟨hp h.slots, fun hh' => absurd (hh.symm.trans hh') (by decide)⟩

theorem slotted_reach {myId : UInt32} (h : Reach step (fun _ _ => True) (fresh myId) g) : g.Slotted :=
  h.invariant (fun _ _ _ hs _ hst => hs.effect (effect_step hst))
    ⟨fun _ => (by decide : (0 : UInt8).toNat < 6), nofun⟩

end DungeonGame

end MonsterMesh

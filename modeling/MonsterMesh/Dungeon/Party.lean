import MonsterMesh.Dungeon.State

/-! The dungeon party is well formed, whatever is typed and received, as long as no join comes twice. -/
namespace MonsterMesh

open Bytes Chunks Text

namespace DungeonTrainer

variable {t : DungeonTrainer} {s : Fin 6} {dmg : UInt16}

/-- All six slots at full HP and not fainted. -/
def Full (t : DungeonTrainer) : Prop := ∀ s, t.slotHp s = 100 ∧ t.slotFainted s = false

/-- A slot is fainted exactly when it has no HP left. -/
def Coherent (t : DungeonTrainer) : Prop := ∀ s, t.slotFainted s = true ↔ t.slotHp s = 0

def InSlot (t : DungeonTrainer) : Prop := t.activeSlot.toNat < 6

theorem isAlive_eq_false : t.isAlive = false ↔ ∀ s, t.slotFainted s = true := by
  unfold isAlive
  rw [List.any_eq_false]
  constructor
  · intro h s
    simpa using h s (List.mem_finRange s)
  · intro h s _
    simp [h s]

theorem slot_ok (h : t.InSlot) : t.slot = .ok ⟨t.activeSlot.toNat, h⟩ := dif_pos h

theorem Full.coherent (h : t.Full) : t.Coherent := by
  intro s
  rw [(h s).1, (h s).2]
  decide

theorem full_healed : t.healed.Full := fun _ => ⟨rfl, rfl⟩

theorem struck_inSlot (h : t.InSlot) : (t.struck s dmg).InSlot := by
  unfold struck
  split
  · unfold InSlot
    dsimp only
    split
    · rename_i i _
      have hi := i.isLt
      rw [UInt8.toNat_ofNat']
      omega
    · exact h
  · exact h

theorem struck_coherent (h : t.Coherent) : (t.struck s dmg).Coherent := by
  intro k
  unfold struck
  split
  · change Function.update t.slotFainted s true k = true ↔ Function.update t.slotHp s 0 k = 0
    rcases eq_or_ne k s with rfl | hne
    · rw [Function.update_self, Function.update_self]
      exact iff_of_true rfl rfl
    · rw [Function.update_of_ne hne, Function.update_of_ne hne]
      exact h k
  case isFalse hlt =>
    change t.slotFainted k = true ↔ Function.update t.slotHp s (t.slotHp s - dmg) k = 0
    rcases eq_or_ne k s with rfl | hne
    · rw [Function.update_self]
      have hgt : dmg.toNat < (t.slotHp k).toNat := UInt16.lt_iff_toNat_lt.mp (UInt16.not_le.mp hlt)
      have hle : dmg ≤ t.slotHp k := UInt16.le_iff_toNat_le.mpr hgt.le
      refine iff_of_false (fun hf => ?_) fun h0 => ?_
      · rw [(h k).mp hf] at hgt
        exact Nat.not_lt_zero _ hgt
      · have hnat := congrArg UInt16.toNat h0
        rw [UInt16.toNat_sub_of_le _ _ hle] at hnat
        change (t.slotHp k).toNat - dmg.toNat = 0 at hnat
        omega
    · rw [Function.update_of_ne hne]
      exact h k

end DungeonTrainer

open DungeonTrainer

namespace DungeonRun

variable {r : DungeonRun} {i : Fin 5} {id : UInt32}

theorem mem_members : i ∈ r.members ↔ i.val < r.partySize.val := by
  unfold members
  rw [List.mem_filter, decide_eq_true_eq, and_iff_right (List.mem_finRange i)]

theorem wiped_eq_true : r.wiped = true ↔ ∀ i, i.val < r.partySize.val → (r.party i).isAlive = false := by
  unfold wiped
  rw [List.all_eq_true]
  constructor
  · intro h i hi
    simpa using h i (mem_members.mpr hi)
  · intro h i hi
    simp [h i (mem_members.mp hi)]

/-- Who is found is a member and has the id. -/
theorem findTrainer_some (h : r.findTrainer id = some i) :
    i.val < r.partySize.val ∧ (r.party i).nodeId = id :=
  ⟨mem_members.mp (List.mem_of_find?_eq_some h), by simpa using List.find?_some h⟩

end DungeonRun

open DungeonRun Fallible

namespace DungeonGame

variable {g : DungeonGame} {id : UInt32} {payload rest : List UInt8}

structure WellFormed (g : DungeonGame) : Prop where
  size : g.run.partySize.val ≤ 5
  distinct : ∀ i j, i.val < g.run.partySize.val → j.val < g.run.partySize.val →
    (g.run.party i).nodeId = (g.run.party j).nodeId → i = j
  slots : ∀ i, (g.run.party i).InSlot
  coherent : g.isHost = true → ∀ i, i.val < g.run.partySize.val → (g.run.party i).Coherent
  ended : g.run.phase = .runOver → ∀ i, i.val < g.run.partySize.val → (g.run.party i).isAlive = false

/-- A join that the host lets in. -/
def Admits (g : DungeonGame) (payload : List UInt8) : Prop :=
  g.isHost = true ∧ dungeonBeaconSize ≤ payload.length ∧ senderOf payload ≠ g.myId ∧
    g.run.partySize.val < 5

/-- An acknowledgement that lets this node in. -/
def Acked (g : DungeonGame) (payload : List UInt8) : Prop :=
  g.isHost = false ∧ dungeonJoinAckSize ≤ payload.length ∧ senderOf payload = g.myId ∧
    payload.getD 4 0 ≠ 0

/-- A state packet that is taken over. -/
def Copies (g : DungeonGame) (payload : List UInt8) : Prop :=
  g.active = true ∧ g.isHost = false ∧ dungeonStateHdrSize ≤ payload.length

/-- The event puts a member in slot `i`. -/
def Joined (g : DungeonGame) (e : DungeonEvent) (i : Fin 5) : Prop :=
  ∃ p rest, e = .packet p rest ∧
    (p.type = dungeonJoin ∧ g.Admits p.payload ∧ i.val = g.run.partySize.val ∨
      p.type = dungeonJoinAck ∧ g.Acked p.payload ∧ i.val = (p.payload.getD 5 0).toNat)

/-- The id of member `i` once the packet is taken over. -/
def idAfter (g : DungeonGame) (payload : List UInt8) (i : Fin 5) : UInt32 :=
  if Present payload i then senderOf (entryAt payload i) else (g.run.party i).nodeId

/-- Nobody joins twice, during a lost run or into a slot that has fainted before; acknowledgements name a
slot of the party that is not another's and has not fainted; states name slots, have distinct ids, and
are over only for the dead. -/
def Careful (g : DungeonGame) : DungeonEvent → Prop
  | .command _ _ => True
  | .packet p _ =>
    (p.type = dungeonJoin → g.Admits p.payload →
      g.run.phase ≠ .runOver ∧
      (∀ i, i.val < g.run.partySize.val → (g.run.party i).nodeId ≠ senderOf p.payload) ∧
      ∀ i, i.val = g.run.partySize.val → ∀ s, (g.run.party i).slotFainted s = false) ∧
    (p.type = dungeonJoinAck → g.Acked p.payload →
      (p.payload.getD 5 0).toNat < 5 ∧
      ∀ i, i.val = (p.payload.getD 5 0).toNat →
        (∀ s, (g.run.party i).slotFainted s = false) ∧
        (i.val < g.run.partySize.val → ∀ j, j ≠ i → j.val < g.run.partySize.val →
          (g.run.party j).nodeId ≠ g.myId)) ∧
    (p.type = dungeonState → g.Copies p.payload →
      (∀ i, Present p.payload i → ((entryAt p.payload i).getD 8 0).toNat < 6) ∧
      (∀ i j, i.val < (claimedSize p.payload).val → j.val < (claimedSize p.payload).val →
        g.idAfter p.payload i = g.idAfter p.payload j → i = j) ∧
      (p.payload.getD 0 0 = RunPhase.runOver → ∀ i, i.val < (claimedSize p.payload).val → ∀ s : Fin 6,
        if Present p.payload i then has ((entryAt p.payload i).getD 9 0) s.val = false
        else (g.run.party i).slotFainted s = true))

/-! ### The host -/

theorem sendState_eq (h : ∀ i, (g.run.party i).InSlot) :
    g.sendState = .ok (dungeonState,
      [g.run.phase, g.run.currentFloor.depth, UInt8.ofNat g.run.partySize.val] ++
        g.run.members.flatMap fun i => (g.run.party i).entry ⟨_, h i⟩) := by
  have hmap : g.run.members.mapM (fun i => do
      let s ← (g.run.party i).slot
      return (g.run.party i).entry s) =
        .ok (g.run.members.map fun i => (g.run.party i).entry ⟨_, h i⟩) := by
    refine mapM_ok fun i _ => ?_
    rw [slot_ok (h i)]
    rfl
  unfold sendState
  rw [hmap, List.flatMap_def]
  rfl

theorem WellFormed.replicated (h : g.WellFormed) : Total g.replicated fun r => r.1 = g :=
  ⟨(g, [_]), by unfold DungeonGame.replicated; rw [sendState_eq h.slots]; rfl, rfl⟩

theorem WellFormed.sent (h : g.WellFormed) : Total g.replicated fun r => r.1.WellFormed :=
  h.replicated.mono fun _ hr => hr ▸ h

theorem wellFormed_startRun (h : g.WellFormed) : Total g.hostStartRun fun r => r.1.WellFormed := by
  unfold hostStartRun
  split
  · exact .ok h
  · exact WellFormed.sent ⟨h.size, h.distinct, h.slots, h.coherent, by intro ho; cases ho⟩

/-- A member that stays itself, in its slot and coherent, is put back. -/
theorem WellFormed.setMember (h : g.WellFormed) {i : Fin 5} {t : DungeonTrainer} {e : TestEnemy}
    {ph : RunPhase} (hid : t.nodeId = (g.run.party i).nodeId) (hslot : t.InSlot)
    (hco : g.isHost = true → (g.run.party i).Coherent → t.Coherent)
    (hover : ph = .runOver → ∀ j, j.val < g.run.partySize.val →
      ((g.run.setMember i t).party j).isAlive = false) :
    { g with run := { g.run.setMember i t with phase := ph }, testEnemy := e, dirty := true }.WellFormed := by
  have hids : ∀ j, ((g.run.setMember i t).party j).nodeId = (g.run.party j).nodeId := by
    intro j
    change (Function.update g.run.party i t j).nodeId = _
    rcases eq_or_ne j i with rfl | hne
    · rw [Function.update_self, hid]
    · rw [Function.update_of_ne hne]
  refine ⟨h.size, fun j k hj hk heq => h.distinct j k hj hk ?_, fun j => ?_, fun hh j hj => ?_, hover⟩
  · rw [← hids j, ← hids k]
    exact heq
  · change (Function.update g.run.party i t j).InSlot
    rcases eq_or_ne j i with rfl | hne
    · rwa [Function.update_self]
    · rw [Function.update_of_ne hne]
      exact h.slots j
  · change (Function.update g.run.party i t j).Coherent
    rcases eq_or_ne j i with rfl | hne
    · rw [Function.update_self]
      exact hco hh (h.coherent hh j hj)
    · rw [Function.update_of_ne hne]
      exact h.coherent hh j hj

/-- A member that is no deader than before is put back. -/
theorem WellFormed.touch (h : g.WellFormed) {i : Fin 5} {t : DungeonTrainer}
    (hid : t.nodeId = (g.run.party i).nodeId) (hslot : t.InSlot)
    (hco : (g.run.party i).Coherent → t.Coherent) (halive : t.isAlive = (g.run.party i).isAlive) :
    { g with run := g.run.setMember i t, dirty := true }.WellFormed := by
  refine h.setMember hid hslot (fun _ => hco) fun hover j hj => ?_
  change (Function.update g.run.party i t j).isAlive = false
  rcases eq_or_ne j i with rfl | hne
  · rw [Function.update_self, halive]
    exact h.ended hover j hj
  · rw [Function.update_of_ne hne]
    exact h.ended hover j hj

theorem struck_nodeId (t : DungeonTrainer) (s : Fin 6) (dmg : UInt16) :
    (t.struck s dmg).nodeId = t.nodeId := by
  unfold struck
  split <;> rfl

theorem wellFormed_attack (h : g.WellFormed) : Total (g.hostCmdAttack id) fun r => r.1.WellFormed := by
  unfold hostCmdAttack
  split
  · exact .ok h
  case isFalse hph =>
    have hcombat : g.run.phase = .inCombat := not_not.mp hph
    cases g.run.findTrainer id with
    | none => exact .ok h
    | some i =>
      dsimp only
      rw [slot_ok (h.slots i), bind_ok]
      refine WellFormed.sent (h.setMember (struck_nodeId ..) (struck_inSlot (h.slots i))
        (fun _ hc => struck_coherent hc) ?_)
      intro hover
      split at hover
      case isTrue hw =>
        rw [Bool.and_eq_true] at hw
        exact wiped_eq_true.mp hw.2
      case isFalse =>
        split at hover
        · cases hover
        · change g.run.phase = _ at hover
          rw [hcombat] at hover
          cases hover

theorem wellFormed_cast (h : g.WellFormed) : (g.hostCmdCast id).WellFormed := by
  unfold hostCmdCast
  split
  · exact h
  · split
    · exact h
    · split
      · exact h
      case h_2 i _ _ l _ => exact h.touch rfl (h.slots i) (fun hc => hc) rfl

theorem wellFormed_switch {slot : UInt8} (h : g.WellFormed) :
    Total (g.hostCmdSwitch id slot) fun r => r.1.WellFormed := by
  unfold hostCmdSwitch
  split
  · exact h.sent
  case h_2 i _ =>
    split
    case isTrue hs =>
      split
      · exact h.sent
      · exact WellFormed.sent (h.touch rfl hs (fun hc => hc) rfl)
    · exact h.sent

theorem wellFormed_rest (h : g.WellFormed) : Total g.hostCmdRest fun r => r.1.WellFormed := by
  unfold hostCmdRest
  split
  · refine WellFormed.sent ⟨h.size, fun i j hi hj heq => h.distinct i j hi hj ?_, fun i => ?_,
      fun _ i hi => ?_, by intro ho; cases ho⟩
    · change DungeonTrainer.nodeId (if _ then _ else _) = DungeonTrainer.nodeId (if _ then _ else _) at heq
      rwa [if_pos hi, if_pos hj] at heq
    · change InSlot (if _ then _ else _)
      split
      · exact h.slots i
      · exact h.slots i
    · change Coherent (if _ then _ else _)
      rw [if_pos hi]
      exact full_healed.coherent
  · exact .ok h

theorem wellFormed_process {verb : Option DungeonVerb} {arg : Str} (h : g.WellFormed) :
    Total (g.hostProcessCmd id verb arg) fun r => r.1.WellFormed := by
  unfold hostProcessCmd
  split
  · exact wellFormed_startRun h
  · exact wellFormed_attack h
  · exact .ok (wellFormed_cast h)
  · exact wellFormed_switch h
  · exact wellFormed_rest h
  · exact .ok h

theorem wellFormed_host (h : g.WellFormed) : g.becomeHost.WellFormed := by
  have hzero : ∀ i : Fin 5, i.val < g.becomeHost.run.partySize.val → i = 0 := by
    intro i hi
    exact Fin.ext (Nat.lt_one_iff.mp hi)
  refine ⟨by change 1 ≤ 5; decide, fun i j hi hj _ => (hzero i hi).trans (hzero j hj).symm, fun i => ?_, fun _ i hi => ?_,
    by intro ho; cases ho⟩
  · change (Function.update g.run.party 0 _ i).InSlot
    rcases eq_or_ne i 0 with rfl | hne
    · rw [Function.update_self]
      exact (by decide : (0 : UInt8).toNat < 6)
    · rw [Function.update_of_ne hne]
      exact h.slots i
  · rw [hzero i hi]
    change (Function.update g.run.party 0 _ 0).Coherent
    rw [Function.update_self]
    exact Full.coherent fun _ => ⟨rfl, rfl⟩

theorem wellFormed_command {verb arg : Str} (h : g.WellFormed) :
    Total (g.handleLocalCommand verb arg) fun r => r.1.WellFormed := by
  unfold handleLocalCommand
  dsimp only
  split
  · exact .ok (wellFormed_host h)
  split
  · exact .ok ⟨h.size, h.distinct, h.slots, nofun, h.ended⟩
  split
  · exact .ok h
  split
  · exact .ok h
  split
  · exact wellFormed_process h
  · exact .ok h

/-! ### Packets -/

theorem full_filled {t : DungeonTrainer} (h : ∀ s, t.slotFainted s = false) (id : UInt32) :
    Full { t.filled with nodeId := id } := fun s => ⟨rfl, h s⟩

/-- Who is new, joins a run that is on and takes a slot that has not fainted, is a full member. -/
theorem wellFormed_addGuest (h : g.WellFormed) (hlt : g.run.partySize.val < 5)
    (hph : g.run.phase ≠ .runOver)
    (hnew : ∀ i, i.val < g.run.partySize.val → (g.run.party i).nodeId ≠ id)
    (hfree : ∀ i, i.val = g.run.partySize.val → ∀ s, (g.run.party i).slotFainted s = false) :
    (g.addGuest id hlt).WellFormed ∧
      ∀ i, i.val = g.run.partySize.val → ((g.addGuest id hlt).run.party i).Full := by
  have hfull : ∀ i, i.val = g.run.partySize.val → ((g.addGuest id hlt).run.party i).Full ∧
      ((g.addGuest id hlt).run.party i).nodeId = id := by
    intro i hi
    obtain rfl : i = ⟨g.run.partySize.val, hlt⟩ := Fin.ext hi
    change Full (Function.update g.run.party _ _ _) ∧
      DungeonTrainer.nodeId (Function.update g.run.party _ _ _) = id
    rw [Function.update_self]
    exact ⟨full_filled (hfree _ rfl) id, rfl⟩
  have hold : ∀ i, i.val ≠ g.run.partySize.val → (g.addGuest id hlt).run.party i = g.run.party i :=
    fun i hi => Function.update_of_ne (fun he => hi (congrArg Fin.val he)) ..
  have hcases : ∀ i : Fin 5, i.val < g.run.partySize.val + 1 →
      i.val = g.run.partySize.val ∨ i.val < g.run.partySize.val ∧ i.val ≠ g.run.partySize.val := by
    intro i hi
    omega
  refine ⟨⟨Nat.succ_le_of_lt hlt, fun i j hi hj heq => ?_, fun i => ?_, fun hh i hi => ?_,
    fun ho => absurd ho hph⟩, fun i hi => (hfull i hi).1⟩
  · rcases hcases i hi with hi | ⟨hi, hin⟩ <;> rcases hcases j hj with hj | ⟨hj, hjn⟩
    · exact Fin.ext (hi.trans hj.symm)
    · rw [(hfull i hi).2, hold j hjn] at heq
      exact absurd heq.symm (hnew j hj)
    · rw [(hfull j hj).2, hold i hin] at heq
      exact absurd heq (hnew i hi)
    · rw [hold i hin, hold j hjn] at heq
      exact h.distinct i j hi hj heq
  · by_cases hi : i.val = g.run.partySize.val
    · obtain rfl : i = ⟨g.run.partySize.val, hlt⟩ := Fin.ext hi
      change InSlot (Function.update g.run.party _ _ _)
      rw [Function.update_self]
      exact h.slots _
    · rw [hold i hi]
      exact h.slots i
  · rcases hcases i hi with hi | ⟨hi, hin⟩
    · exact (hfull i hi).1.coherent
    · rw [hold i hin]
      exact h.coherent hh i hi

theorem join_total (h : g.WellFormed) (hc : g.Admits payload → g.run.phase ≠ .runOver ∧
      (∀ i, i.val < g.run.partySize.val → (g.run.party i).nodeId ≠ senderOf payload) ∧
      ∀ i, i.val = g.run.partySize.val → ∀ s, (g.run.party i).slotFainted s = false) :
    Total (g.handleJoin payload) fun r => r.1.WellFormed ∧
      (g.Admits payload → ∀ i, i.val = g.run.partySize.val → (r.1.run.party i).Full) := by
  unfold handleJoin
  split
  case isTrue hno =>
    refine .ok ⟨h, fun ha => ?_⟩
    obtain ⟨hh, hlen, hid, -⟩ := ha
    rcases hno with hno | hno | hno
    · exact absurd (hh.symm.trans hno) (by decide)
    · exact absurd hno (not_lt.mpr hlen)
    · exact absurd hno hid
  case isFalse hyes =>
    rw [not_or, not_or, Bool.not_eq_false, not_lt] at hyes
    split
    case isTrue hlt =>
      obtain ⟨hph, hnew, hfree⟩ := hc ⟨hyes.1, hyes.2.1, hyes.2.2, hlt⟩
      obtain ⟨hwf, hfull⟩ := wellFormed_addGuest h hlt hph hnew hfree
      dsimp only
      rw [sendState_eq hwf.slots, bind_ok]
      exact .ok ⟨hwf, fun _ => hfull⟩
    case isFalse hge => exact .ok ⟨h, fun ha => absurd ha.2.2.2 hge⟩

theorem ack_total (h : g.WellFormed) (hc : g.Acked payload → (payload.getD 5 0).toNat < 5 ∧
      ∀ i, i.val = (payload.getD 5 0).toNat →
        (∀ s, (g.run.party i).slotFainted s = false) ∧
        (i.val < g.run.partySize.val → ∀ j, j ≠ i → j.val < g.run.partySize.val →
          (g.run.party j).nodeId ≠ g.myId)) :
    Total (g.handleJoinAck payload) fun g' => g'.WellFormed ∧
      (g.Acked payload → ∀ i, i.val = (payload.getD 5 0).toNat → (g'.run.party i).Full) := by
  unfold handleJoinAck
  split
  case isTrue hno =>
    refine .ok ⟨h, fun ha => ?_⟩
    obtain ⟨hh, hlen, hid, -⟩ := ha
    rcases hno with hno | hno | hno
    · exact absurd (hh.symm.trans hno) (by decide)
    · exact absurd hno (not_lt.mpr hlen)
    · exact absurd hid hno
  case isFalse hyes =>
    rw [not_or, not_or, Bool.not_eq_true, not_lt, not_not] at hyes
    obtain ⟨hh, hlen, hid⟩ := hyes
    split
    case isTrue hrej => exact .ok ⟨⟨h.size, h.distinct, h.slots, h.coherent, h.ended⟩, fun ha => absurd hrej ha.2.2.2⟩
    case isFalse hacc =>
      obtain ⟨hslot, hfree⟩ := hc ⟨hh, hlen, hid, hacc⟩
      rw [dif_pos hslot]
      obtain ⟨hflags, hothers⟩ := hfree ⟨_, hslot⟩ rfl
      generalize hk : (⟨(payload.getD 5 0).toNat, hslot⟩ : Fin 5) = k at hflags hothers
      refine .ok ⟨⟨h.size, fun i j hi hj heq => ?_, fun i => ?_, fun hh' => ?_, fun ho i hi => ?_⟩, fun _ i hi => ?_⟩
      · change (Function.update g.run.party k _ i).nodeId = (Function.update g.run.party k _ j).nodeId at heq
        rcases eq_or_ne i k with hik | hik <;> rcases eq_or_ne j k with hjk | hjk
        · exact hik.trans hjk.symm
        · rw [hik, Function.update_self, Function.update_of_ne hjk] at heq
          exact absurd heq.symm (hothers (hik ▸ hi) j hjk hj)
        · rw [hjk, Function.update_self, Function.update_of_ne hik] at heq
          exact absurd heq (hothers (hjk ▸ hj) i hik hi)
        · rw [Function.update_of_ne hik, Function.update_of_ne hjk] at heq
          exact h.distinct i j hi hj heq
      · change (Function.update g.run.party k _ i).InSlot
        rcases eq_or_ne i k with rfl | hne
        · rw [Function.update_self]
          exact h.slots i
        · rw [Function.update_of_ne hne]
          exact h.slots i
      · exact absurd (hh.symm.trans hh') (by decide)
      · change (Function.update g.run.party k _ i).isAlive = false
        rcases eq_or_ne i k with rfl | hne
        · rw [Function.update_self]
          exact h.ended ho i hi
        · rw [Function.update_of_ne hne]
          exact h.ended ho i hi
      · change (Function.update g.run.party k _ i).Full
        rw [← hk, show i = ⟨(payload.getD 5 0).toNat, hslot⟩ from Fin.ext hi, Function.update_self, hk]
        exact full_filled hflags _

/-- Member `i` once a state packet is taken over. -/
def copiedMember (payload : List UInt8)
    (hslots : ∀ i, Present payload i → ((entryAt payload i).getD 8 0).toNat < 6) (i : Fin 5)
    (t : DungeonTrainer) : DungeonTrainer :=
  if h : Present payload i then t.copied (entryAt payload i) ⟨_, hslots i h⟩ else t

theorem copies_party (hslots : ∀ i, Present payload i → ((entryAt payload i).getD 8 0).toNat < 6)
    (party : Fin 5 → DungeonTrainer) : (List.finRange 5).foldlM (copyMember payload) party =
      .ok fun i => copiedMember payload hslots i (party i) := by
  have hone : ∀ p, ∀ i ∈ List.finRange 5, copyMember payload p i =
      .ok (Function.update p i (copiedMember payload hslots i (p i))) := by
    intro p i _
    unfold copyMember copiedMember
    by_cases hp : Present payload i
    · rw [if_pos hp, dif_pos (hslots i hp), dif_pos hp]
    · rw [if_neg hp, dif_neg hp, Function.update_eq_self]
  rw [foldlM_update hone (List.nodup_finRange 5)]
  simp only [List.mem_finRange, if_true]

theorem state_total (h : g.WellFormed) (hc : g.Copies payload →
      (∀ i, Present payload i → ((entryAt payload i).getD 8 0).toNat < 6) ∧
      (∀ i j, i.val < (claimedSize payload).val → j.val < (claimedSize payload).val →
        g.idAfter payload i = g.idAfter payload j → i = j) ∧
      (payload.getD 0 0 = RunPhase.runOver → ∀ i, i.val < (claimedSize payload).val → ∀ s : Fin 6,
        if Present payload i then has ((entryAt payload i).getD 9 0) s.val = false
        else (g.run.party i).slotFainted s = true)) :
    Total (g.handleState payload) WellFormed := by
  unfold handleState
  split
  · exact .ok h
  case isFalse hyes =>
    rw [not_or, not_or, Bool.not_eq_false, Bool.not_eq_true, not_lt] at hyes
    obtain ⟨hslots, hids, hover⟩ := hc hyes
    rw [copies_party hslots, bind_ok]
    refine .ok ⟨Nat.le_of_lt_succ (claimedSize payload).isLt, fun i j hi hj heq => hids i j hi hj ?_,
      fun i => ?_, fun hh => absurd (hyes.2.1.symm.trans hh) (by decide), fun ho i hi => ?_⟩
    · have hid : ∀ i, (copiedMember payload hslots i (g.run.party i)).nodeId = g.idAfter payload i := by
        intro i
        unfold copiedMember idAfter
        split <;> rfl
      rw [← hid i, ← hid j]
      exact heq
    · change (copiedMember payload hslots i (g.run.party i)).InSlot
      unfold copiedMember
      split
      case isTrue hp => exact hslots i hp
      case isFalse => exact h.slots i
    · change (copiedMember payload hslots i (g.run.party i)).isAlive = false
      refine isAlive_eq_false.mpr fun k => ?_
      have hdead := hover ho i hi k
      unfold copiedMember
      split
      case isTrue hp =>
        rw [if_pos hp] at hdead
        change (!has _ _) = true
        rw [hdead]
        rfl
      case isFalse hp =>
        rw [if_neg hp] at hdead
        exact hdead

theorem wellFormed_cmd (h : g.WellFormed) : Total (g.handleCmd payload rest) fun r => r.1.WellFormed := by
  unfold handleCmd
  split
  · exact .ok h
  · exact wellFormed_process h

theorem WellFormed.dirty (h : g.WellFormed) : { g with dirty := true }.WellFormed :=
  ⟨h.size, h.distinct, h.slots, h.coherent, h.ended⟩

theorem wellFormed_msg (h : g.WellFormed) : (g.handleMsg payload).WellFormed := by
  unfold handleMsg
  split
  · exact h
  · exact h.dirty

theorem wellFormed_prompt (h : g.WellFormed) : (g.handlePrompt payload).WellFormed := by
  unfold handlePrompt
  split
  · exact h
  · exact h.dirty

theorem total_silent {x : Except Fault DungeonGame} {P : DungeonGame → Prop} (h : Total x P) :
    Total (silent x) fun r => P r.1 := by
  obtain ⟨g', rfl, hp⟩ := h
  exact .ok hp

/-- What a step keeps, and who has just joined is a full member. -/
theorem wellFormed_step (h : g.WellFormed) {e : DungeonEvent} (hc : g.Careful e) :
    Total (g.step e) fun g' => g'.WellFormed ∧ ∀ i, g.Joined e i → (g'.run.party i).Full := by
  cases e with
  | command verb arg =>
    refine Total.map (wellFormed_command h) fun r hr => ⟨hr, ?_⟩
    rintro i ⟨p, rest, he, -⟩
    cases he
  | packet p rest =>
    obtain ⟨hjoin, hack, hstate⟩ := hc
    have hkind : ∀ i, g.Joined (.packet p rest) i →
        p.type = dungeonJoin ∧ g.Admits p.payload ∧ i.val = g.run.partySize.val ∨
          p.type = dungeonJoinAck ∧ g.Acked p.payload ∧ i.val = (p.payload.getD 5 0).toNat := by
      rintro i ⟨p', rest', he, hj⟩
      cases he
      exact hj
    have hother : p.type ≠ dungeonJoin → p.type ≠ dungeonJoinAck → ∀ i, ¬g.Joined (.packet p rest) i := by
      intro h1 h2 i hj
      rcases hkind i hj with ⟨ht, -⟩ | ⟨ht, -⟩
      · exact h1 ht
      · exact h2 ht
    change Total (Prod.fst <$> g.handlePacket p rest) _
    unfold handlePacket
    split
    case isTrue ht =>
      refine .ok ⟨?_, fun i hj => absurd hj (hother (by rw [ht]; decide) (by rw [ht]; decide) i)⟩
      change (g.handleBeacon p.payload).WellFormed
      unfold handleBeacon
      split
      · exact h
      · exact h.dirty
    split
    case isTrue ht =>
      refine Total.map (join_total h (hjoin ht)) fun r hr => ⟨hr.1, fun i hj => ?_⟩
      rcases hkind i hj with ⟨-, ha, hi⟩ | ⟨ht', -⟩
      · exact hr.2 ha i hi
      · rw [ht] at ht'
        exact absurd ht' (by decide)
    split
    case isTrue ht =>
      refine Total.map (total_silent (ack_total h (hack ht))) fun r hr => ⟨hr.1, fun i hj => ?_⟩
      rcases hkind i hj with ⟨ht', -⟩ | ⟨-, ha, hi⟩
      · rw [ht] at ht'
        exact absurd ht' (by decide)
      · exact hr.2 ha i hi
    case isFalse hj ha =>
      have hnone := hother hj ha
      have hrest : Total (if p.type = dungeonCmd then g.handleCmd p.payload rest
          else if p.type = dungeonState then silent (g.handleState p.payload)
          else if p.type = dungeonMsg then .ok (g.handleMsg p.payload, [])
          else if p.type = dungeonPrompt then .ok (g.handlePrompt p.payload, [])
          else .ok (g, [])) fun r => r.1.WellFormed := by
        split
        · exact wellFormed_cmd h
        split
        case isTrue ht => exact total_silent (state_total h (hstate ht))
        split
        · exact .ok (wellFormed_msg h)
        split
        · exact .ok (wellFormed_prompt h)
        · exact .ok h
      exact Total.map hrest fun r hr => ⟨hr, fun i hj => absurd hj (hnone i)⟩

theorem wellFormed_fresh (id : UInt32) : (fresh id).WellFormed :=
  ⟨Nat.zero_le _, fun _ _ _ hj => absurd hj (Nat.not_lt_zero _),
    fun _ => (by decide : (0 : UInt8).toNat < 6), nofun, by intro h; cases h⟩

/-- In a run of typed commands and received packets that are each careful, no index leaves its array, every
state is well formed, and who has just joined is a full member. -/
theorem party_wellFormed (myId : UInt32) (es : List DungeonEvent) (e : DungeonEvent)
    (h : Along step Careful (fresh myId) (es ++ [e])) :
    ∃ g g', play step (fresh myId) es = .ok g ∧ g.step e = .ok g' ∧ g.WellFormed ∧ g'.WellFormed ∧
      ∀ i, g.Joined e i → (g'.run.party i).Full := by
  obtain ⟨hes, hlast⟩ := along_concat.mp h
  obtain ⟨g, hg, hw⟩ := play_total (P := WellFormed)
    (fun g e hg hc => (wellFormed_step hg hc).mono fun _ hr => hr.1) (wellFormed_fresh myId) hes
  obtain ⟨g', hg', hw', hfull⟩ := wellFormed_step hw (hlast g hg)
  exact ⟨g, g', hg, hg', hw, hw', hfull⟩

theorem step_host (g : DungeonGame) (arg : Str) :
    g.step (.command (cstr "host") arg) = .ok g.becomeHost := by
  have hverb : ((cstr "host").take 15).map toLower = cstr "host" := by decide +kernel
  unfold step handle handleLocalCommand
  dsimp only
  rw [if_pos hverb]
  rfl

/-- A join request of a node. -/
def joinOf (id : UInt32) : DungeonEvent :=
  .packet ⟨dungeonJoin, 0, 0, (fresh id).helloPayload⟩ []

theorem party_wellFormed_guest : ∃ g g', play step (fresh 1) [.command (cstr "host") []] = .ok g ∧
    g.step (joinOf 7) = .ok g' ∧ g.WellFormed ∧ g'.WellFormed ∧
      ∀ i, g.Joined (joinOf 7) i → (g'.run.party i).Full := by
  refine party_wellFormed 1 [.command (cstr "host") []] (joinOf 7) ⟨trivial, fun g hg => ⟨?_, fun _ _ => trivial⟩⟩
  rw [step_host] at hg
  cases hg
  refine ⟨fun _ _ => ⟨by decide, ?_, ?_⟩, fun ht => absurd ht (by decide), fun ht => absurd ht (by decide)⟩ <;>
    decide +kernel

/-- The same node asks twice, because the answer to its first request was lost: it is two members. -/
theorem joined_twice : ¬ ∀ (myId : UInt32) (es : List DungeonEvent),
    ∃ g, play step (fresh myId) es = .ok g ∧ g.WellFormed := by
  intro h
  obtain ⟨g, hg, hw⟩ := h 1 [.command (cstr "host") [], joinOf 7, joinOf 7]
  have hids : (play step (fresh 1) [.command (cstr "host") [], joinOf 7, joinOf 7]).toOption.map
      (fun g => (g.run.partySize.val, (g.run.party 1).nodeId, (g.run.party 2).nodeId)) =
        some (3, 7, 7) := by decide +kernel
  rw [hg] at hids
  have hall := Option.some.inj hids
  rw [Prod.mk.injEq, Prod.mk.injEq] at hall
  obtain ⟨hsize, h1, h2⟩ := hall
  have hsame := hw.distinct 1 2 (hsize ▸ by decide) (hsize ▸ by decide) (h1.trans h2.symm)
  exact absurd hsame (by decide)

end DungeonGame

end MonsterMesh

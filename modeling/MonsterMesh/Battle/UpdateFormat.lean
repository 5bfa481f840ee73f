import MonsterMesh.Battle.Decode
import MonsterMesh.Battle.Sections

/-! The UPDATE as a whole: it fits its packet, and the client's parser reads all of it. -/
namespace MonsterMesh

open Bytes Reading

/-! ### One side after the sections -/

namespace BattleParty

variable {p q : BattleParty} {f : BattlePoke → BattlePoke} {i : Fin 6}

@[simp] theorem onActive_count : (p.onActive f).count = p.count := by
  unfold onActive
  split <;> rfl

@[simp] theorem onActive_active : (p.onActive f).active = p.active := by
  unfold onActive
  split <;> rfl

@[simp] theorem onActive_fx : (p.onActive f).toFieldFx = p.toFieldFx := by
  unfold onActive
  split <;> rfl

theorem onActive_activeMon (h : p.active.val < p.count.val) : (p.onActive f).activeMon = f p.activeMon := by
  unfold onActive
  rw [if_neg (by omega)]
  exact Function.update_self ..

/-- Fields that `f` leaves alone are left alone on the whole side. -/
theorem onActive_keeps {α : Type} {φ : BattlePoke → α} (hf : ∀ m, φ (f m) = φ m) :
    φ ((p.onActive f).mons i) = φ (p.mons i) := by
  unfold onActive
  split
  · rfl
  · change φ (Function.update p.mons p.active (f p.activeMon) i) = _
    by_cases hi : i = p.active
    · subst hi
      rw [Function.update_self, hf]
      rfl
    · rw [Function.update_of_ne hi]

@[simp] theorem follow_count : (q.follow p).count = p.count := by
  unfold follow
  split <;> rfl

@[simp] theorem follow_mons : (q.follow p).mons = p.mons := by
  unfold follow
  split <;> rfl

theorem follow_active (h : q.active.val < p.count.val) : (q.follow p).active = q.active := by
  unfold follow
  rw [if_pos h]

@[simp] theorem showFx_count : (q.showFx p).count = p.count := rfl

@[simp] theorem showFx_active : (q.showFx p).active = p.active := rfl

@[simp] theorem showFx_fx : (q.showFx p).toFieldFx = q.toFieldFx := rfl

theorem showFx_activeMon : (q.showFx p).activeMon = q.activeMon.setEffects p.activeMon :=
  Function.update_self ..

theorem showFx_keeps {α : Type} {φ : BattlePoke → α} (hf : ∀ m' m : BattlePoke, φ (m'.setEffects m) = φ m) :
    φ ((q.showFx p).mons i) = φ (p.mons i) := by
  change φ (Function.update p.mons p.active (q.activeMon.setEffects p.activeMon) i) = _
  by_cases hi : i = p.active
  · subst hi
    rw [Function.update_self, hf]
    rfl
  · rw [Function.update_of_ne hi]

theorem onSlot_mons {j : ℕ} :
    (p.onSlot j f).mons i = if i.val = j ∧ j < p.count.val then f (p.mons i) else p.mons i := by
  unfold onSlot
  split
  · rename_i hj
    change Function.update p.mons _ _ i = _
    by_cases hi : i.val = j
    · subst hi
      rw [Function.update_self, if_pos ⟨rfl, hj⟩]
    · rw [Function.update_of_ne fun h => hi (congrArg Fin.val h), if_neg fun h => hi h.1]
  · rename_i hj
    rw [if_neg fun h => hj h.2]

@[simp] theorem onSlot_count {j : ℕ} : (p.onSlot j f).count = p.count := by
  unfold onSlot
  split <;> rfl

@[simp] theorem onSlot_active {j : ℕ} : (p.onSlot j f).active = p.active := by
  unfold onSlot
  split <;> rfl

variable {g : BattlePoke → BattlePoke → BattlePoke}

theorem foldl_onSlot (l : List (Fin 6)) (hl : l.Nodup) (p : BattleParty) :
    let r := l.foldl (fun p j => p.onSlot j.val (g (q.mons j))) p
    r.count = p.count ∧ r.active = p.active ∧
      ∀ i, r.mons i = if i ∈ l ∧ i.val < p.count.val then g (q.mons i) (p.mons i) else p.mons i := by
  induction l generalizing p with
  | nil =>
    refine ⟨rfl, rfl, fun i => ?_⟩
    rw [if_neg fun h => List.not_mem_nil h.1]
    rfl
  | cons j l ih =>
    obtain ⟨hj, hl⟩ := List.nodup_cons.mp hl
    obtain ⟨hcount, hactive, hmons⟩ := ih hl (p.onSlot j.val (g (q.mons j)))
    refine ⟨hcount.trans onSlot_count, hactive.trans onSlot_active, fun i => ?_⟩
    rw [List.foldl_cons, hmons i, onSlot_count]
    by_cases hi : i = j
    · subst hi
      rw [if_neg fun h => hj h.1, onSlot_mons]
      simp
    · have hslot : (p.onSlot j.val (g (q.mons j))).mons i = p.mons i := by
        rw [onSlot_mons, if_neg fun h => hi (Fin.ext h.1)]
      rw [hslot]
      simp [hi]

theorem slots_nodup (q : BattleParty) : q.slots.Nodup := (List.nodup_finRange 6).filter _

@[simp] theorem showAll_count : (q.showAll g p).count = p.count := (foldl_onSlot _ q.slots_nodup p).1

@[simp] theorem showAll_active : (q.showAll g p).active = p.active := (foldl_onSlot _ q.slots_nodup p).2.1

theorem showAll_mons (hq : i.val < q.count.val) (hp : i.val < p.count.val) :
    (q.showAll g p).mons i = g (q.mons i) (p.mons i) := by
  have h := (foldl_onSlot (q := q) (g := g) q.slots q.slots_nodup p).2.2 i
  rw [if_pos ⟨mem_slots.mpr hq, hp⟩] at h
  exact h

end BattleParty

/-! ### What is recovered -/

namespace BattlePoke

/-- HP and status. -/
def standing (m : BattlePoke) : UInt16 × UInt8 := (m.hp, m.status)

def bench (m : BattlePoke) : UInt16 × UInt8 × (Fin 4 → UInt8) := (m.hp, m.status, m.pp)

def stages (m : BattlePoke) : List Int8 :=
  [m.atkBoost, m.defBoost, m.spdBoost, m.spcBoost, m.accBoost, m.evaBoost]

/-- The effects both devices show. -/
def effects (m : BattlePoke) : (UInt8 × UInt8 × UInt16) × Bool × Bool × Bool × Bool × Bool :=
  ((m.sleepTurns, m.confuseTurns, m.substituteHp), m.mustRecharge, m.flinched, m.thrashing, m.rageActive,
    m.transformed)

/-- The disabled move, and the turns it and a trap last. -/
def hold (m : BattlePoke) : UInt8 × UInt8 × UInt8 := (m.disabledSlot, m.disabledTurns, m.trapTurns)

end BattlePoke

namespace BattleParty

/-- A side `p` becomes `p'` by what is told of `q`: HP and status on every slot of both, the slot on the
field, and the effects. -/
structure Recovers (q p p' : BattleParty) : Prop where
  standing : ∀ i : Fin 6, i.val < q.count.val → i.val < p.count.val →
    (p'.mons i).standing = (q.mons i).standing
  active : q.active.val < p.count.val → p'.active = q.active
  effects : q.active.val < p.count.val → p'.activeMon.effects = q.activeMon.effects
  field : p'.toFieldFx = q.toFieldFx

/-- What is told of the client's own side besides. -/
structure RecoversOwn (q p p' : BattleParty) : Prop extends Recovers q p p' where
  pp : ∀ i : Fin 6, i.val < q.count.val → i.val < p.count.val → (p'.mons i).pp = (q.mons i).pp
  stages : q.active.val < p.count.val → p'.activeMon.stages = q.activeMon.stages
  hold : q.active.val < p.count.val → p'.activeMon.hold = q.activeMon.hold

/-- The active mon's sections, before the bench. -/
def ownLead (q p : BattleParty) : BattleParty :=
  let p := p.onActive fun m => { m with hp := q.activeMon.hp }
  let p := p.onActive fun m => { m with pp := q.activeMon.pp }
  (q.follow p).onActive fun m => { m with status := q.activeMon.status }

def foeLead (q p : BattleParty) : BattleParty :=
  (q.follow (p.onActive fun m => { m with hp := q.activeMon.hp })).onActive fun m =>
    { m with status := q.activeMon.status }

/-- The client's own side after all sections. -/
def ownAfter (q p : BattleParty) : BattleParty :=
  (q.showFx ((q.showAll BattlePoke.setBench (q.ownLead p)).onActive q.activeMon.setStages)).onActive
    q.activeMon.setHold

/-- The other side after all sections. -/
def foeAfter (q p : BattleParty) : BattleParty := q.showFx (q.showAll BattlePoke.setStanding (q.foeLead p))

variable {p q : BattleParty} {i : Fin 6}

@[simp] theorem ownLead_count : (q.ownLead p).count = p.count := by simp [ownLead]

@[simp] theorem foeLead_count : (q.foeLead p).count = p.count := by simp [foeLead]

theorem ownLead_active (h : q.active.val < p.count.val) : (q.ownLead p).active = q.active := by
  unfold ownLead
  rw [onActive_active, follow_active]
  simpa using h

theorem foeLead_active (h : q.active.val < p.count.val) : (q.foeLead p).active = q.active := by
  unfold foeLead
  rw [onActive_active, follow_active]
  simpa using h

/-- Nothing behind the bench touches what the bench says. -/
theorem ownAfter_bench (hq : i.val < q.count.val) (hp : i.val < p.count.val) :
    ((q.ownAfter p).mons i).bench = (q.mons i).bench := by
  have hlast : ((q.ownAfter p).mons i).bench =
      ((q.showAll BattlePoke.setBench (q.ownLead p)).mons i).bench := by
    unfold ownAfter
    rw [onActive_keeps (φ := BattlePoke.bench) (f := q.activeMon.setHold) fun _ => rfl,
      showFx_keeps (φ := BattlePoke.bench) fun _ _ => rfl,
      onActive_keeps (φ := BattlePoke.bench) (f := q.activeMon.setStages) fun _ => rfl]
  rw [hlast, showAll_mons hq (by rwa [ownLead_count])]
  rfl

theorem foeAfter_standing (hq : i.val < q.count.val) (hp : i.val < p.count.val) :
    ((q.foeAfter p).mons i).standing = (q.mons i).standing := by
  have hlast : ((q.foeAfter p).mons i).standing =
      ((q.showAll BattlePoke.setStanding (q.foeLead p)).mons i).standing :=
    showFx_keeps (φ := BattlePoke.standing) fun _ _ => rfl
  rw [hlast, showAll_mons hq (by rwa [foeLead_count])]
  rfl

theorem ownAfter_active (h : q.active.val < p.count.val) : (q.ownAfter p).active = q.active := by
  unfold ownAfter
  rw [onActive_active, showFx_active, onActive_active, showAll_active, ownLead_active h]

/-- The mon on the field, from the bench on. -/
theorem ownAfter_activeMon (h : q.active.val < p.count.val) : ∃ m : BattlePoke,
    (q.ownAfter p).activeMon =
      q.activeMon.setHold (q.activeMon.setEffects (q.activeMon.setStages m)) := by
  have hactive : (q.showAll BattlePoke.setBench (q.ownLead p)).active.val <
      (q.showAll BattlePoke.setBench (q.ownLead p)).count.val := by
    rwa [showAll_active, showAll_count, ownLead_count, ownLead_active h]
  refine ⟨(q.showAll BattlePoke.setBench (q.ownLead p)).activeMon, ?_⟩
  unfold ownAfter
  rw [onActive_activeMon, showFx_activeMon, onActive_activeMon hactive]
  rwa [showFx_active, showFx_count, onActive_active, onActive_count]

theorem ownAfter_recovers (q p : BattleParty) : RecoversOwn q p (q.ownAfter p) where
  standing i hq hp := congrArg (fun b => (b.1, b.2.1)) (ownAfter_bench hq hp)
  pp i hq hp := congrArg (fun b => b.2.2) (ownAfter_bench hq hp)
  active h := ownAfter_active h
  effects h := by
    obtain ⟨m, hm⟩ := ownAfter_activeMon h
    rw [hm]
    rfl
  stages h := by
    obtain ⟨m, hm⟩ := ownAfter_activeMon h
    rw [hm]
    rfl
  hold h := by
    obtain ⟨m, hm⟩ := ownAfter_activeMon h
    rw [hm]
    rfl
  field := by
    unfold ownAfter
    rw [onActive_fx, showFx_fx]

theorem foeAfter_recovers (q p : BattleParty) : Recovers q p (q.foeAfter p) where
  standing i hq hp := foeAfter_standing hq hp
  active h := by
    unfold foeAfter
    rw [showFx_active, showAll_active, foeLead_active h]
  effects h := by
    unfold foeAfter
    rw [showFx_activeMon]
    rfl
  field := rfl

end BattleParty

/-! ### The parser, section by section -/

namespace Scene

/-- The RESULT section, when its flag is set. -/
def readResult : Reader Scene (Scene × Bool) UInt8 := fun s rest =>
  (fun r => ((r.2.1, r.1), r.2.2)) <$> s.1.applyResult tbUpdResult rest

/-- The sections in flag order, each with its flag; `finished` stands beside the scene. -/
def sectionReaders : List (UInt16 × Reader Scene (Scene × Bool) UInt8) :=
  [(tbUpdHp, beside applyHp), (tbUpdPp, beside applyPp), (tbUpdSwitch, beside applySwitch),
    (tbUpdStatus, beside applyStatus), (tbUpdResult, readResult), (tbUpdLog, beside applyLog),
    (tbUpdBench, beside applyBench), (tbUpdFx, beside applyFx)]

/-- The section parser of an UPDATE, with the bytes it leaves. -/
def readSections (flags : UInt16) : Reader Scene (Scene × Bool) UInt8 :=
  all (sectionReaders.map fun r => given (flags &&& r.1 ≠ 0) r.2)

variable {s : Scene} {flags flag : UInt16} {b : Bool} {rest : List UInt8}
  {f : Reader Scene Scene UInt8} {k : Reader Scene (Scene × Bool) UInt8}

theorem after_section : after (given (flags &&& flag ≠ 0) (beside f)) k (s, b) rest =
    s.sectionIf flags flag f rest >>= fun r => k (r.1, b) r.2 := by
  unfold after given sectionIf
  split
  · unfold beside
    dsimp only
    cases f s rest <;> rfl
  · rfl

theorem after_result : after (given (flags &&& tbUpdResult ≠ 0) readResult) k (s, false) rest =
    s.applyResult flags rest >>= fun r => k (r.2.1, r.1) r.2.2 := by
  unfold after given applyResult
  split
  · cases rest <;> rfl
  · rfl

theorem onParty_self {side : Side} {f : BattleParty → BattleParty} :
    (s.onParty side f).engine.p side = f (s.engine.p side) := Function.update_self ..

theorem onParty_one_zero {f : BattleParty → BattleParty} :
    (s.onParty .one f).engine.p .zero = s.engine.p .zero := rfl

theorem onParty_zero_one {f : BattleParty → BattleParty} :
    (s.onParty .zero f).engine.p .one = s.engine.p .one := rfl

/-- The parser is `applySections`. -/
theorem readSections_eq :
    s.applySections flags rest = (fun r => r.1) <$> readSections flags (s, false) rest := by
  unfold readSections sectionReaders applySections
  simp only [List.map_cons, List.map_nil, all, after_section, after_result, map_bind]
  rfl

end Scene

namespace TextBattle

variable (t : TextBattle)

/-- Turn, flags and hash. -/
def updateHeader : List UInt8 := t.engine.turn.toUInt8 :: be16 t.updateFlags ++ hash24Bytes t.boardHash24

/-- The sections as they are written, an absent one empty. -/
def sectionBytes : List (List UInt8) :=
  let mine := t.engine.p .one
  let foe := t.engine.p .zero
  let result := if t.engine.result ≠ .ongoing then [t.engine.result.clientView] else []
  let offset := 18 + result.length
  [be16 mine.activeMon.hp ++ be16 foe.activeMon.hp, List.ofFn mine.activeMon.pp,
    [UInt8.ofNat mine.active.val, UInt8.ofNat foe.active.val],
    [mine.activeMon.status, foe.activeMon.status], result,
    if 0 < t.log.unshipped.val then logBytes offset (t.log.recent t.log.unshipped) else [],
    benchBytes mine foe, fxBytes mine foe]

theorem updatePayload_sections : t.updatePayload = t.updateHeader ++ t.sectionBytes.flatten := by
  unfold updatePayload sectionBytes updateHeader
  dsimp only
  generalize (if t.engine.result ≠ .ongoing then [t.engine.result.clientView] else []) = result
  simp only [List.flatten_cons, List.flatten_nil, List.append_assoc, List.cons_append, List.append_nil,
    List.length_append, List.length_cons, List.length_ofFn, be16, hash24Bytes, List.nil_append]
  rw [show 4 + (result.length + 1 + 1 + 1 + 1) + 1 + 1 + 1 + 1 + 1 + 1 + 1 + 1 + 1 + 1 = 18 + result.length
    by omega]

/-- The six sections that are always sent, and the conditions of the other two. -/
theorem updateFlags_set :
    (∀ flag ∈ [tbUpdHp, tbUpdPp, tbUpdSwitch, tbUpdStatus, tbUpdBench, tbUpdFx], t.updateFlags &&& flag ≠ 0) ∧
      (t.updateFlags &&& tbUpdResult ≠ 0 ↔ t.engine.result ≠ .ongoing) ∧
      (t.updateFlags &&& tbUpdLog ≠ 0 ↔ 0 < t.log.unshipped.val) := by
  have hall : ∀ a b c : Bool,
      let flags := tbUpdHp ||| tbUpdPp ||| tbUpdSwitch ||| tbUpdStatus ||| tbUpdBench ||| tbUpdFx |||
        (if a = true then tbUpdResult else 0) ||| (if b = true then tbUpdLog else 0) |||
        (if c = true then tbUpdNeedPlayerSwitch else 0)
      [tbUpdHp, tbUpdPp, tbUpdSwitch, tbUpdStatus, tbUpdBench, tbUpdFx].all (fun flag => flags &&& flag ≠ 0) ∧
        (flags &&& tbUpdResult ≠ 0 ↔ a = true) ∧ (flags &&& tbUpdLog ≠ 0 ↔ b = true) := by
    decide
  have h := hall (decide (t.engine.result ≠ .ongoing)) (decide (0 < t.log.unshipped.val))
    (decide (t.engine.result = .ongoing ∧ (t.engine.p .one).activeMon.hp = 0))
  simp only [decide_eq_true_eq, List.all_eq_true] at h
  exact h

/-! ### The size -/

theorem benchBytes_length (mine foe : BattleParty) : (benchBytes mine foe).length ≤ 68 := by
  have hmine := mine.slots_positions.1
  have hfoe := foe.slots_positions.1
  have h₁ := mine.count.isLt
  have h₂ := foe.count.isLt
  have hbench := length_flatMap_block (f := fun i => (mine.mons i).benchBytes) (n := 7) (fun _ => rfl)
    mine.slots
  have hfoes := length_flatMap_block (f := fun i => (foe.mons i).standingBytes) (n := 3) (fun _ => rfl)
    foe.slots
  have hlength : (benchBytes mine foe).length =
      (mine.slots.flatMap fun i => (mine.mons i).benchBytes).length + 1 +
        ((foe.slots.flatMap fun i => (foe.mons i).standingBytes).length + 1) + 6 := by
    change (List.append (_ :: (mine.slots.flatMap fun i => (mine.mons i).benchBytes) ++ _)
      (_ :: foe.slots.flatMap fun i => (foe.mons i).standingBytes)).length = _
    simp only [List.append_eq, List.length_append, List.length_cons, BattlePoke.boostBytes, List.length_nil]
    omega
  omega

theorem logBytes_ends {w : ℕ} (hw : w ≤ 100) (lines : List CStr) : w + (logBytes w lines).length ≤ 101 := by
  have h := Scene.fitLines_fits (w := w + 1) (by omega) lines
  unfold logBytes
  rw [List.length_cons]
  omega

theorem updatePayload_length : t.updatePayload.length ≤ battlelinkMaxPayload := by
  have hbench := benchBytes_length (t.engine.p .one) (t.engine.p .zero)
  rw [updatePayload_sections]
  unfold sectionBytes updateHeader battlelinkMaxPayload
  dsimp only
  have hresult : (if t.engine.result ≠ .ongoing then [t.engine.result.clientView] else []).length ≤ 1 := by
    split <;> simp
  generalize (if t.engine.result ≠ .ongoing then [t.engine.result.clientView] else []) = result at hresult ⊢
  have hlog : 18 + result.length +
      (if 0 < t.log.unshipped.val then logBytes (18 + result.length) (t.log.recent t.log.unshipped)
        else []).length ≤ 101 := by
    split
    · exact logBytes_ends (by omega) _
    · change 18 + result.length + 0 ≤ 101
      omega
  simp only [List.flatten_cons, List.flatten_nil, List.append_nil, List.cons_append, List.length_append,
    List.length_cons, List.length_ofFn, be16, hash24Bytes, List.nil_append, List.length_nil, fxBytes,
    BattleParty.fxBytes]
  omega

/-! ### The sections, read -/

theorem always_set {flag : UInt16}
    (h : flag ∈ [tbUpdHp, tbUpdPp, tbUpdSwitch, tbUpdStatus, tbUpdBench, tbUpdFx]) :
    t.updateFlags &&& flag ≠ 0 := t.updateFlags_set.1 flag h

/-- Where the LOG section starts. -/
def logOffset : ℕ := 18 + (if t.engine.result ≠ .ongoing then [t.engine.result.clientView] else []).length

/-- The lines an UPDATE has room for. -/
def shippedLines : List CStr :=
  if 0 < t.log.unshipped.val then fitLines (t.logOffset + 1) (t.log.recent t.log.unshipped) else []

theorem readResult_update (h : t.engine.result ≠ .ongoing) :
    Reads Scene.readResult (if t.engine.result ≠ .ongoing then [t.engine.result.clientView] else [])
      fun s => (s.1.showResult t.engine.result.clientView,
        decide (t.engine.result.clientView ≠ tbResultOngoing)) := by
  rw [if_pos h]
  exact fun _ _ => rfl

theorem applyLog_update (h : 0 < t.log.unshipped.val) :
    Reads Scene.applyLog
      (if 0 < t.log.unshipped.val then logBytes t.logOffset (t.log.recent t.log.unshipped) else [])
      (Scene.tellLines t.shippedLines) := by
  unfold shippedLines
  rw [if_pos h, if_pos h]
  refine Scene.applyLog_reads ?_
  have hlt := t.log.unshipped.isLt
  rw [BattleLog.recent, List.length_map, List.length_range]
  omega

/-- The sections of the next UPDATE, each with what it tells. -/
def updateParts : List (Part Scene (Scene × Bool) UInt8) :=
  let mine := t.engine.p .one
  let foe := t.engine.p .zero
  [.given (t.updateFlags &&& tbUpdHp ≠ 0) (fun _ => (Scene.applyHp_reads mine foe).beside)
      fun h => absurd (t.always_set (by decide)) h,
    .given (t.updateFlags &&& tbUpdPp ≠ 0) (fun _ => (Scene.applyPp_reads mine).beside)
      fun h => absurd (t.always_set (by decide)) h,
    .given (t.updateFlags &&& tbUpdSwitch ≠ 0) (fun _ => (Scene.applySwitch_reads mine foe).beside)
      fun h => absurd (t.always_set (by decide)) h,
    .given (t.updateFlags &&& tbUpdStatus ≠ 0) (fun _ => (Scene.applyStatus_reads mine foe).beside)
      fun h => absurd (t.always_set (by decide)) h,
    .given (t.updateFlags &&& tbUpdResult ≠ 0)
      (fun h => t.readResult_update (t.updateFlags_set.2.1.mp h))
      fun h => if_neg fun hr => h (t.updateFlags_set.2.1.mpr hr),
    .given (t.updateFlags &&& tbUpdLog ≠ 0)
      (fun h => (t.applyLog_update (t.updateFlags_set.2.2.mp h)).beside)
      fun h => if_neg fun hl => h (t.updateFlags_set.2.2.mpr hl),
    .given (t.updateFlags &&& tbUpdBench ≠ 0) (fun _ => (Scene.applyBench_reads mine foe).beside)
      fun h => absurd (t.always_set (by decide)) h,
    .given (t.updateFlags &&& tbUpdFx ≠ 0) (fun _ => (Scene.applyFx_reads mine foe).beside)
      fun h => absurd (t.always_set (by decide)) h]

theorem updateParts_read : t.updateParts.map Part.read =
    Scene.sectionReaders.map fun r => given (t.updateFlags &&& r.1 ≠ 0) r.2 := rfl

theorem updateParts_bytes : t.updateParts.map Part.bytes = t.sectionBytes := rfl

/-- The client's scene after the sections, and whether the battle is over. -/
def told (s : Scene) : Scene × Bool := t.updateParts.foldl (fun s p => p.tells s) (s, false)

/-- The result and the lines. -/
def tellNews (s : Scene) : Scene :=
  let s := if t.engine.result ≠ .ongoing then s.showResult t.engine.result.clientView else s
  s.tellLines t.shippedLines

theorem told_eq (s : Scene) :
    let mine := t.engine.p .one
    let foe := t.engine.p .zero
    let lead := (((s.tellHp mine foe).tellPp mine).tellSwitch mine foe).tellStatus mine foe
    t.told s = (((t.tellNews lead).tellBench mine foe).tellFx mine foe, decide (t.engine.result ≠ .ongoing)) := by
  obtain ⟨halways, hresult, hlog⟩ := t.updateFlags_set
  unfold told updateParts
  simp only [List.foldl_cons, List.foldl_nil]
  rw [Part.given_tells (halways tbUpdHp (by decide)), Part.given_tells (halways tbUpdPp (by decide)),
    Part.given_tells (halways tbUpdSwitch (by decide)), Part.given_tells (halways tbUpdStatus (by decide)),
    Part.given_tells (halways tbUpdBench (by decide)), Part.given_tells (halways tbUpdFx (by decide))]
  have hover : t.engine.result ≠ .ongoing → decide (t.engine.result.clientView ≠ tbResultOngoing) = true := by
    cases t.engine.result <;> decide
  by_cases hr : t.engine.result ≠ .ongoing
  · rw [Part.given_tells (hresult.mpr hr)]
    by_cases hl : 0 < t.log.unshipped.val
    · rw [Part.given_tells (hlog.mpr hl)]
      simp only [Prod.map_apply, id, tellNews, if_pos hr, hover hr, decide_eq_true hr]
    · rw [Part.given_silent (mt hlog.mp hl)]
      simp only [Prod.map_apply, id, tellNews, shippedLines, if_pos hr, if_neg hl, hover hr, decide_eq_true hr]
      rfl
  · rw [Part.given_silent (mt hresult.mp hr)]
    by_cases hl : 0 < t.log.unshipped.val
    · rw [Part.given_tells (hlog.mpr hl)]
      simp only [Prod.map_apply, id, tellNews, if_neg hr, decide_eq_false hr]
    · rw [Part.given_silent (mt hlog.mp hl)]
      simp only [Prod.map_apply, id, tellNews, shippedLines, if_neg hr, if_neg hl, decide_eq_false hr]
      rfl

/-- What the client's log says of an outcome. -/
def outcomeLines : List CStr :=
  match t.engine.result with
  | .p2Win => [cstr "You won!"]
  | .p1Win => [cstr "You blacked out…"]
  | .draw => [cstr "It's a draw."]
  | .ongoing => []

theorem tellLines_eq (lines : List CStr) (s : Scene) :
    s.tellLines lines = { s with log := (lines.map (·.take 40)).foldl BattleLog.append s.log } := by
  induction lines generalizing s with
  | nil => rfl
  | cons l ls ih => exact ih (s.appendLog (l.take 40))

theorem tellNews_eq (s : Scene) :
    t.tellNews s = { s with
      log := (t.outcomeLines ++ t.shippedLines.map (·.take 40)).foldl BattleLog.append s.log
      playerWon := s.playerWon || decide (t.engine.result = .p2Win) } := by
  unfold tellNews outcomeLines
  dsimp only
  rw [tellLines_eq, List.foldl_append]
  cases hr : t.engine.result with
  | p2Win => simp [Scene.showResult, Scene.appendLog, Result.clientView]
  | ongoing => simp
  | p1Win => simp [Scene.showResult, Scene.appendLog, Result.clientView, tbResultYouLose, tbResultYouWin]
  | draw =>
    simp [Scene.showResult, Scene.appendLog, Result.clientView, tbResultDraw, tbResultYouLose, tbResultYouWin]

/-- What a client recovers: its own side, the other, the outcome and the lines. -/
structure Recovered (s s' : Scene) : Prop where
  own : (t.engine.p .one).RecoversOwn (s.engine.p .zero) (s'.engine.p .zero)
  foe : (t.engine.p .zero).Recovers (s.engine.p .one) (s'.engine.p .one)
  won : s'.playerWon = (s.playerWon || decide (t.engine.result = .p2Win))
  log : s'.log = (t.outcomeLines ++ t.shippedLines.map (·.take 40)).foldl BattleLog.append s.log

theorem told_own (s : Scene) :
    ((t.told s).1.engine.p .zero) = (t.engine.p .one).ownAfter (s.engine.p .zero) := by
  rw [told_eq, tellNews_eq]
  simp only [Scene.tellFx, Scene.tellBench, Scene.tellStatus, Scene.tellSwitch, Scene.tellPp, Scene.tellHp,
    Scene.onParty_self, Scene.onParty_one_zero]
  rfl

theorem told_foe (s : Scene) :
    ((t.told s).1.engine.p .one) = (t.engine.p .zero).foeAfter (s.engine.p .one) := by
  rw [told_eq, tellNews_eq]
  simp only [Scene.tellFx, Scene.tellBench, Scene.tellStatus, Scene.tellSwitch, Scene.tellPp, Scene.tellHp,
    Scene.onParty_self, Scene.onParty_zero_one]
  rfl

theorem told_recovers (s : Scene) : t.Recovered s (t.told s).1 where
  own := t.told_own s ▸ (t.engine.p .one).ownAfter_recovers (s.engine.p .zero)
  foe := t.told_foe s ▸ (t.engine.p .zero).foeAfter_recovers (s.engine.p .one)
  won := by
    rw [told_eq, tellNews_eq]
    rfl
  log := by
    rw [told_eq, tellNews_eq]
    rfl

theorem readSections_update (s : Scene) (rest : List UInt8) :
    Scene.readSections t.updateFlags (s, false) (t.sectionBytes.flatten ++ rest) = .ok (t.told s, rest) := by
  have h := all_reads t.updateParts (s, false) rest
  rw [updateParts_read, updateParts_bytes] at h
  exact h


/-- A section is sent exactly when its flag is set, and its reader takes exactly its bytes, whatever the
scene and whatever follows. -/
def Sent (flags : UInt16) (r : UInt16 × Reader Scene (Scene × Bool) UInt8) (bytes : List UInt8) : Prop :=
  (flags &&& r.1 ≠ 0 ↔ bytes ≠ []) ∧ ∃ g, Reads (given (flags &&& r.1 ≠ 0) r.2) bytes g

theorem sent_always {flag : UInt16} {f : Reader Scene Scene UInt8} {w : List UInt8} {g : Scene → Scene}
    (h : flag ∈ [tbUpdHp, tbUpdPp, tbUpdSwitch, tbUpdStatus, tbUpdBench, tbUpdFx]) (hr : Reads f w g)
    (hw : w ≠ []) : Sent t.updateFlags (flag, beside f) w :=
  ⟨iff_of_true (t.always_set h) hw, _, Reads.given (fun _ => hr.beside) fun hn => absurd (t.always_set h) hn⟩

theorem sections_sent : List.Forall₂ (Sent t.updateFlags) Scene.sectionReaders t.sectionBytes := by
  have hresult := t.updateFlags_set.2.1
  have hlog := t.updateFlags_set.2.2
  refine .cons (t.sent_always (by decide) (Scene.applyHp_reads _ _) (List.cons_ne_nil _ _)) <|
    .cons (t.sent_always (by decide) (Scene.applyPp_reads _) (List.cons_ne_nil _ _)) <|
    .cons (t.sent_always (by decide) (Scene.applySwitch_reads _ _) (List.cons_ne_nil _ _)) <|
    .cons (t.sent_always (by decide) (Scene.applyStatus_reads _ _) (List.cons_ne_nil _ _)) <|
    .cons ⟨?_, _, Reads.given (fun h => t.readResult_update (hresult.mp h)) fun h =>
      if_neg (mt hresult.mpr h)⟩ <|
    .cons ⟨?_, _, Reads.given (fun h => (t.applyLog_update (hlog.mp h)).beside) fun h =>
      if_neg (mt hlog.mpr h)⟩ <|
    .cons (t.sent_always (by decide) (Scene.applyBench_reads _ _) (List.cons_ne_nil _ _)) <|
    .cons (t.sent_always (by decide) (Scene.applyFx_reads _ _) (List.cons_ne_nil _ _)) .nil
  · refine hresult.trans ⟨fun h => ?_, fun h => ?_⟩
    · rw [if_pos h]
      exact List.cons_ne_nil _ _
    · intro hn
      exact h (if_neg (not_not.mpr hn))
  · refine hlog.trans ⟨fun h => ?_, fun h => ?_⟩
    · rw [if_pos h]
      exact List.cons_ne_nil _ _
    · by_contra hn
      exact h (if_neg hn)

theorem applySections_update (s : Scene) :
    s.applySections t.updateFlags t.sectionBytes.flatten = .ok (t.told s) := by
  have h := t.readSections_update s []
  rw [List.append_nil] at h
  rw [Scene.readSections_eq, h]
  rfl

/-- A client of the session that has not applied the UPDATE gets to its hash check with all of it. -/
theorem clientAuthOnUpdatePkt_update {u : TextBattle} (env : Env) (hs : u.session = t.session)
    (hp : u.phase ≠ .waitChallengeOverlay)
    (hn : ¬ (t.updateSeq + 1 = u.lastAppliedUpdateSeq ∧ u.lastAppliedUpdateSeq ≠ 0)) :
    u.clientAuthOnUpdatePkt env t.updatePacket =
      ((({ u with
          awaitingFirstUpdate := false, awaitingUpdateSinceMs := 0
          clientTurn := t.engine.turn.toUInt8 } : TextBattle).withScene (t.told u.toScene).1).mirrorXp
        u.foeHp).checkUpdate env (t.updateSeq + 1) (hash24Bytes t.boardHash24)
        (decide (t.engine.result ≠ .ongoing)) (t.updateFlags &&& tbUpdNeedPlayerSwitch ≠ 0) := by
  have hflags : ofBe16 (t.updateFlags >>> 8).toUInt8 t.updateFlags.toUInt8 = t.updateFlags := ofBe16_be16 _
  have hsections : u.toScene.applySections t.updateFlags ([].append t.sectionBytes.flatten) =
      .ok (t.told u.toScene) := t.applySections_update u.toScene
  have hfinished : (t.told u.toScene).2 = decide (t.engine.result ≠ .ongoing) := by rw [told_eq]
  unfold clientAuthOnUpdatePkt updatePacket
  dsimp only
  rw [updatePayload_sections]
  change (if t.session ≠ u.session then u else _) = _
  rw [if_neg (not_not.mpr hs.symm)]
  rw [if_neg hp, if_neg hn]
  unfold applyUpdate
  dsimp only
  rw [hflags, hsections, ← hfinished]
  rfl

/-- Every UPDATE fits its packet. The client's parser takes each section from exactly its bytes, reads the
whole payload, and puts every value where the server has it. -/
theorem update_decodes : t.updatePayload.length ≤ battlelinkMaxPayload ∧
    t.updatePayload = t.updateHeader ++ t.sectionBytes.flatten ∧
    List.Forall₂ (Sent t.updateFlags) Scene.sectionReaders t.sectionBytes ∧
    ∀ s : Scene, ∃ s', t.Recovered s s' ∧
      Scene.readSections t.updateFlags (s, false) t.sectionBytes.flatten =
        .ok ((s', decide (t.engine.result ≠ .ongoing)), []) ∧
      s.applySections t.updateFlags t.sectionBytes.flatten = .ok (s', decide (t.engine.result ≠ .ongoing)) := by
  refine ⟨t.updatePayload_length, t.updatePayload_sections, t.sections_sent, fun s => ?_⟩
  have hread := t.readSections_update s []
  have happly := t.applySections_update s
  have hfinished : t.told s = ((t.told s).1, decide (t.engine.result ≠ .ongoing)) := by rw [told_eq]
  rw [List.append_nil] at hread
  refine ⟨(t.told s).1, t.told_recovers s, hread.trans ?_, happly.trans ?_⟩
  · rw [← hfinished]
  · rw [← hfinished]

end TextBattle
end MonsterMesh

import MonsterMesh.Gym.Bulk

/-! What a request for a ladder leads to, over any sequence of packets and rounds. -/
namespace MonsterMesh

/-- A challenger, and what its last request has led to so far. -/
structure WatchedRun where
  run : LadderRun
  asked : Option UInt32
  runs : ℕ
  results : ℕ

namespace WatchedRun

def count (w : WatchedRun) : LadderOutput → WatchedRun
  | .ladderRequest gym => { w with asked := some gym, runs := 0, results := 0 }
  | .fight trainer _ => if trainer = 0 then { w with runs := w.runs + 1 } else w
  | .fightResult _ _ => { w with results := w.results + 1 }
  | .fightRequest _ => w

def step (w : WatchedRun) (i : LadderInput) : WatchedRun :=
  { (w.run.step i).2.foldl count w with run := (w.run.step i).1 }

def idle : WatchedRun := ⟨.idle, none, 0, 0⟩

/-- No fight without opponents, no change of the parties during a run, and at most one run and one result
a request, which goes to the gym that was asked. -/
structure Lawful (w : WatchedRun) (i : LadderInput) : Prop where
  opponents : ∀ trainer p, .fight trainer p ∈ (w.run.step i).2 → 0 < p.count
  parties : w.run.fightActive = true → (w.step i).run.parties = w.run.parties
  runs : (w.step i).runs ≤ 1
  results : (w.step i).results ≤ 1
  addressed : ∀ gym outcome, .fightResult gym outcome ∈ (w.run.step i).2 → w.asked = some gym

/-- A packet with the mons of five trainers. -/
def FiveTrainers (tc : UInt8) (p : List UInt8) : Prop :=
  ∀ i : Fin 5, 0 < ((readParties (trainerCount tc) p).2.getD i.val .zero).count

/-- The packets that keep a ladder in order: while a run is on the gym sends no names that can be read and
no parties; parties that can be read are those of five trainers, and others come before these only. -/
def Careful (w : WatchedRun) : LadderInput → Prop
  | .names from' payload => w.run.bulkActive = true → from' = w.run.target → ∀ tc p, payload = tc :: p →
      (readNames (trainerCount tc) p).1 = true → w.run.fightActive = false
  | .parties from' payload => w.run.bulkActive = true → from' = w.run.target → ∀ tc p,
      payload = tc :: p → w.run.fightActive = false ∧
        if (readParties (trainerCount tc) p).1 then FiveTrainers tc p else w.run.haveParties = false
  | _ => True

end WatchedRun

namespace LadderRun

variable {s : LadderRun} {from' : UInt32} {payload : List UInt8} {ready : Bool}

variable (s from' payload) in
theorem onNames_cases : (∃ names, s.onNames from' payload = { s with names := names }) ∨
    ∃ tc p names, payload = tc :: p ∧ s.bulkActive = true ∧ from' = s.target ∧
      (readNames (trainerCount tc) p).1 = true ∧ s.onNames from' payload =
        { s with names := names, haveNames := true, startPending := s.startPending || s.haveParties } := by
  unfold onNames
  split
  · rename_i h
    cases payload with
    | nil => exact .inl ⟨s.names, rfl⟩
    | cons tc p =>
      dsimp only
      split
      · rename_i hp
        exact .inr ⟨tc, p, _, rfl, h.1, h.2, hp, rfl⟩
      · exact .inl ⟨_, rfl⟩
  · exact .inl ⟨s.names, rfl⟩

variable (s from' payload) in
theorem onParties_cases : s.onParties from' payload = s ∨
    ∃ tc p, payload = tc :: p ∧ s.bulkActive = true ∧ from' = s.target ∧
      let parties : Fin 5 → Gen1Party := fun i => (readParties (trainerCount tc) p).2.getD i.val .zero
      ((readParties (trainerCount tc) p).1 = false ∧
        s.onParties from' payload = { s with parties := parties }) ∨
      ((readParties (trainerCount tc) p).1 = true ∧ s.onParties from' payload =
        { s with
          parties := parties
          haveParties := true
          startPending := s.startPending || s.haveNames }) := by
  unfold onParties
  split
  · rename_i h
    cases payload with
    | nil => exact .inl rfl
    | cons tc p =>
      refine .inr ⟨tc, p, rfl, h.1, h.2, ?_⟩
      dsimp only
      split
      · rename_i hp
        exact .inr ⟨hp, rfl⟩
      · rename_i hp
        exact .inl ⟨Bool.not_eq_true _ ▸ hp, rfl⟩
  · exact .inl rfl

/-- The end of a fight in a bulk run: on to the next trainer, or out of the ladder with a report. -/
theorem battleEnd_cases (hf : s.fightActive = true) (hb : s.bulkActive = true) (won : Bool) :
    (∃ next : Fin 5, next.val = s.trainerIdx.toNat + 1 ∧ s.battleEnd won =
      ({ s with trainerIdx := s.trainerIdx + 1 }, [.fight (s.trainerIdx + 1) (s.parties next)])) ∨
    s.battleEnd won =
      ({ s with
        trainerIdx := 0xFF
        bulkActive := false
        fightActive := false
        awaitParty := false
        target := 0
        textBattleActive := false },
      if s.target ≠ 0 then [.fightResult s.target (if won then 1 else 0)] else []) := by
  unfold battleEnd
  dsimp only
  rw [if_neg (by rw [hf]; simp), if_pos hf]
  split
  · rename_i h
    exact .inl ⟨⟨s.trainerIdx.toNat + 1, h.2.2⟩, rfl, rfl⟩
  · exact .inr rfl

end LadderRun

namespace WatchedRun

variable {w : WatchedRun} {i : LadderInput}

/-- What holds of a challenger between two inputs. -/
structure Orderly (w : WatchedRun) : Prop where
  pending : w.run.requestPending = false
  text : w.run.textBattleActive = w.run.fightActive
  runs : w.runs ≤ 1
  results : w.results ≤ 1
  asked : w.run.bulkActive = true → w.asked = some w.run.target ∧ w.results = 0
  closed : w.run.bulkActive = false → w.run.fightActive = false ∧ w.run.startPending = false
  waiting : w.run.bulkActive = true → w.run.fightActive = false → w.runs = 0
  ready : w.run.startPending = true → w.run.haveParties = true
  staffed : w.run.haveParties = true → w.run.bulkActive = true → ∀ t, 0 < (w.run.parties t).count
  fighting : w.run.fightActive = true → w.run.haveParties = true ∧ w.run.startPending = false ∧
    w.run.trainerIdx.toNat < 5

theorem orderly_idle : idle.Orderly :=
  ⟨rfl, rfl, Nat.zero_le _, Nat.zero_le _, nofun, fun _ => ⟨rfl, rfl⟩, nofun, nofun, nofun, nofun⟩

theorem step_silent {s : LadderRun} (h : w.run.step i = (s, [])) : w.step i = { w with run := s } := by
  unfold step
  rw [h]
  rfl

/-- A step that sends nothing and starts nothing is lawful while it leaves the parties of a run alone. -/
theorem Orderly.silent {s : LadderRun} (hw : w.Orderly) (h : w.run.step i = (s, []))
    (hp : w.run.fightActive = true → s.parties = w.run.parties) : w.Lawful i := by
  refine ⟨?_, ?_, ?_, ?_, ?_⟩
  · rw [h]
    nofun
  · rw [step_silent h]
    exact hp
  · rw [step_silent h]
    exact hw.runs
  · rw [step_silent h]
    exact hw.results
  · rw [h]
    nofun

theorem Orderly.request (hw : w.Orderly) (gym : UInt32) :
    w.Lawful (.request gym) ∧ (w.step (.request gym)).Orderly := by
  by_cases hbusy : w.run.fightActive = true ∨ w.run.awaitParty = true
  · have hstep : w.run.step (.request gym) = (w.run, []) := if_pos hbusy
    refine ⟨hw.silent hstep fun _ => rfl, ?_⟩
    rw [step_silent hstep]
    exact hw
  · have hfight : w.run.fightActive = false := Bool.not_eq_true _ ▸ fun h => hbusy (.inl h)
    have htext : w.run.textBattleActive = false := hw.text.trans hfight
    have hout : (w.run.step (.request gym)).2 = [.ladderRequest gym] := by
      change (w.run.request gym).2 = _
      unfold LadderRun.request
      rw [if_neg hbusy]
    have hrun : (w.step (.request gym)).run = (w.run.request gym).1 := rfl
    have hcount : (w.step (.request gym)).asked = some gym ∧ (w.step (.request gym)).runs = 0 ∧
        (w.step (.request gym)).results = 0 := by
      unfold step
      rw [hout]
      exact ⟨rfl, rfl, rfl⟩
    obtain ⟨hasked, hruns, hresults⟩ := hcount
    constructor
    · refine ⟨?_, fun h => ?_, hruns.trans_le (Nat.zero_le _), hresults.trans_le (Nat.zero_le _), ?_⟩
      · rw [hout]
        intro trainer p hp
        cases List.mem_singleton.mp hp
      · rw [hfight] at h
        cases h
      · rw [hout]
        intro gym' outcome hp
        cases List.mem_singleton.mp hp
    · have hnew : (w.run.request gym).1.Asked gym false ∧ (w.run.request gym).1.haveParties = false ∧
          (w.run.request gym).1.fightActive = false := by
        unfold LadderRun.request
        rw [if_neg hbusy]
        exact ⟨⟨rfl, rfl, htext, rfl, rfl⟩, rfl, rfl⟩
      obtain ⟨hnew, hparties, hfight'⟩ := hnew
      refine ⟨?_, ?_, by omega, by omega, ?_, ?_, fun _ _ => hruns, ?_, ?_, ?_⟩ <;> rw [hrun]
      · exact hnew.pending
      · rw [hnew.text, hfight']
      · rw [hnew.target]
        exact fun _ => ⟨hasked, hresults⟩
      · exact fun _ => ⟨hfight', hnew.start⟩
      · rw [hnew.start]
        nofun
      · rw [hparties]
        nofun
      · rw [hfight']
        nofun

theorem Orderly.names (hw : w.Orderly) {from' : UInt32} {payload : List UInt8}
    (hc : w.Careful (.names from' payload)) :
    w.Lawful (.names from' payload) ∧ (w.step (.names from' payload)).Orderly := by
  have hstep : w.run.step (.names from' payload) = (w.run.onNames from' payload, []) := rfl
  rw [step_silent hstep]
  rcases LadderRun.onNames_cases w.run from' payload with
    ⟨names, h⟩ | ⟨tc, p, names, hp, hb, ht, hread, h⟩
  · rw [h] at hstep ⊢
    exact ⟨hw.silent hstep fun _ => rfl, ⟨hw.pending, hw.text, hw.runs, hw.results, hw.asked, hw.closed,
      hw.waiting, hw.ready, hw.staffed, hw.fighting⟩⟩
  · have hfight := hc hb ht tc p hp hread
    rw [h] at hstep ⊢
    refine ⟨hw.silent hstep fun _ => rfl, ⟨hw.pending, hw.text, hw.runs, hw.results, hw.asked,
      fun hnb => ?_, hw.waiting, fun hs => ?_, hw.staffed, fun hf => ?_⟩⟩
    · dsimp only at hnb
      rw [hb] at hnb
      cases hnb
    · rcases (Bool.or_eq_true ..).mp hs with hs | hs
      · exact hw.ready hs
      · exact hs
    · dsimp only at hf
      rw [hfight] at hf
      cases hf

theorem Orderly.parties (hw : w.Orderly) {from' : UInt32} {payload : List UInt8}
    (hc : w.Careful (.parties from' payload)) :
    w.Lawful (.parties from' payload) ∧ (w.step (.parties from' payload)).Orderly := by
  have hstep : w.run.step (.parties from' payload) = (w.run.onParties from' payload, []) := rfl
  rw [step_silent hstep]
  rcases LadderRun.onParties_cases w.run from' payload with
    h | ⟨tc, p, hp, hb, ht, h⟩
  · rw [h] at hstep ⊢
    exact ⟨hw.silent hstep fun _ => rfl, hw⟩
  · obtain ⟨hfight, hfive⟩ := hc hb ht tc p hp
    have hidle {P : Prop} (h : w.run.fightActive = true) : P := by
      rw [hfight] at h
      cases h
    rcases h with ⟨hread, h⟩ | ⟨hread, h⟩
    · rw [if_neg (by rw [hread]; decide)] at hfive
      rw [h] at hstep ⊢
      refine ⟨hw.silent hstep hidle, ⟨hw.pending, hw.text, hw.runs, hw.results, hw.asked, hw.closed,
        hw.waiting, hw.ready, fun hp => ?_, hidle⟩⟩
      dsimp only at hp
      rw [hfive] at hp
      cases hp
    · rw [if_pos hread] at hfive
      rw [h] at hstep ⊢
      refine ⟨hw.silent hstep hidle, ⟨hw.pending, hw.text, hw.runs, hw.results, hw.asked, fun hnb => ?_,
        hw.waiting, fun _ => rfl, fun _ _ => hfive, hidle⟩⟩
      dsimp only at hnb
      rw [hb] at hnb
      cases hnb

theorem Orderly.starts (hw : w.Orderly) {ready : Bool} {ended : Option Bool}
    (h : (w.run.startPending && !w.run.textBattleActive && ready) = true) :
    w.Lawful (.runOnce ready ended) ∧ (w.step (.runOnce ready ended)).Orderly := by
  obtain ⟨hboth, -⟩ := (Bool.and_eq_true ..).mp h
  obtain ⟨hstart, htext⟩ := (Bool.and_eq_true ..).mp hboth
  have hstep : w.run.step (.runOnce ready ended) = ({ w.run with
      startPending := false, trainerIdx := 0, textBattleActive := true, fightActive := true },
      [.fight 0 (w.run.parties 0)]) := if_pos h
  have hfight : w.run.fightActive = false := by
    rw [← hw.text]
    exact Bool.not_eq_true' _ ▸ htext
  have hbulk : w.run.bulkActive = true := by
    by_contra hb
    rw [(hw.closed (Bool.not_eq_true _ ▸ hb)).2] at hstart
    cases hstart
  have hruns := hw.waiting hbulk hfight
  have hparties := hw.ready hstart
  have hstep' : w.step (.runOnce ready ended) = { w with
      run := { w.run with
        startPending := false, trainerIdx := 0, textBattleActive := true, fightActive := true }
      runs := w.runs + 1 } := by
    unfold step
    rw [hstep]
    rfl
  constructor
  · refine ⟨fun trainer p hp => ?_, ?_, ?_, ?_, fun gym outcome hp => ?_⟩
    · rw [hstep] at hp
      cases List.mem_singleton.mp hp
      exact hw.staffed hparties hbulk 0
    · rw [hfight]
      nofun
    · rw [hstep']
      exact Nat.le_of_eq (congrArg (· + 1) hruns)
    · rw [hstep']
      exact hw.results
    · rw [hstep] at hp
      cases List.mem_singleton.mp hp
  · rw [hstep']
    refine ⟨hw.pending, rfl, Nat.le_of_eq (congrArg (· + 1) hruns), hw.results, hw.asked, fun hb => ?_,
      nofun, nofun, hw.staffed, fun _ => ⟨hparties, rfl, (by decide : (0 : UInt8).toNat < 5)⟩⟩
    dsimp only at hb
    rw [hbulk] at hb
    cases hb

theorem Orderly.battleEnd (hw : w.Orderly) {ready won : Bool} (hf : w.run.fightActive = true)
    (hstep : w.run.step (.runOnce ready (some won)) = w.run.battleEnd won) :
    w.Lawful (.runOnce ready (some won)) ∧ (w.step (.runOnce ready (some won))).Orderly := by
  obtain ⟨hparties, hstart, hidx⟩ := hw.fighting hf
  have hbulk : w.run.bulkActive = true := by
    by_contra hb
    rw [(hw.closed (Bool.not_eq_true _ ▸ hb)).1] at hf
    cases hf
  obtain ⟨hasked, hresults⟩ := hw.asked hbulk
  rcases LadderRun.battleEnd_cases hf hbulk won with ⟨next, hnext, h⟩ | h
  · rw [h] at hstep
    have hne : ¬w.run.trainerIdx + 1 = 0 := fun h0 => by
      have hnat := congrArg UInt8.toNat h0
      rw [UInt8.toNat_add] at hnat
      change (w.run.trainerIdx.toNat + 1) % 256 = 0 at hnat
      omega
    have hcount : [LadderOutput.fight (w.run.trainerIdx + 1) (w.run.parties next)].foldl count w = w :=
      if_neg hne
    have hstep' : w.step (.runOnce ready (some won)) =
        { w with run := { w.run with trainerIdx := w.run.trainerIdx + 1 } } := by
      unfold step
      rw [hstep]
      dsimp only
      rw [hcount]
    constructor
    · refine ⟨fun trainer p hp => ?_, ?_, ?_, ?_, fun gym outcome hp => ?_⟩
      · rw [hstep] at hp
        cases List.mem_singleton.mp hp
        exact hw.staffed hparties hbulk next
      · rw [hstep']
        exact fun _ => rfl
      · rw [hstep']
        exact hw.runs
      · rw [hstep']
        exact hw.results
      · rw [hstep] at hp
        cases List.mem_singleton.mp hp
    · rw [hstep']
      refine ⟨hw.pending, hw.text, hw.runs, hw.results, hw.asked, hw.closed, hw.waiting, hw.ready,
        hw.staffed, fun _ => ⟨hparties, hstart, ?_⟩⟩
      dsimp only
      rw [UInt8.toNat_add]
      change (w.run.trainerIdx.toNat + 1) % 256 < 5
      omega
  · rw [h] at hstep
    have hcount : (w.step (.runOnce ready (some won))).asked = w.asked ∧
        (w.step (.runOnce ready (some won))).runs = w.runs ∧
        (w.step (.runOnce ready (some won))).results ≤ 1 := by
      unfold step
      rw [hstep]
      dsimp only
      split
      · refine ⟨rfl, rfl, ?_⟩
        change w.results + 1 ≤ 1
        omega
      · exact ⟨rfl, rfl, hw.results⟩
    have hrun : (w.step (.runOnce ready (some won))).run = { w.run with
        trainerIdx := 0xFF
        bulkActive := false
        fightActive := false
        awaitParty := false
        target := 0
        textBattleActive := false } := by
      unfold step
      rw [hstep]
    obtain ⟨-, hruns, hresults'⟩ := hcount
    constructor
    · refine ⟨fun trainer p hp => ?_, ?_, hruns.trans_le hw.runs, hresults', fun gym outcome hp => ?_⟩
      · rw [hstep] at hp
        dsimp only at hp
        split at hp
        · cases List.mem_singleton.mp hp
        · cases hp
      · rw [hrun]
        exact fun _ => rfl
      · rw [hstep] at hp
        dsimp only at hp
        split at hp
        · cases List.mem_singleton.mp hp
          exact hasked
        · cases hp
    · refine ⟨?_, ?_, hruns.trans_le hw.runs, hresults', ?_, ?_, ?_, ?_, ?_, ?_⟩ <;> rw [hrun]
      · exact hw.pending
      · nofun
      · exact fun _ => ⟨rfl, hstart⟩
      · nofun
      · exact hw.ready
      · nofun
      · nofun

theorem Orderly.runOnce (hw : w.Orderly) (ready : Bool) (ended : Option Bool) :
    w.Lawful (.runOnce ready ended) ∧ (w.step (.runOnce ready ended)).Orderly := by
  cases hs : w.run.startPending && !w.run.textBattleActive && ready with
  | true => exact hw.starts hs
  | false =>
    have hquiet := LadderRun.runOnce_quiet hs hw.pending ended
    have hidle (hstep : w.run.step (.runOnce ready ended) = (w.run, [])) :
        w.Lawful (.runOnce ready ended) ∧ (w.step (.runOnce ready ended)).Orderly := by
      rw [step_silent hstep]
      exact ⟨hw.silent hstep fun _ => rfl, hw⟩
    cases ended with
    | none => exact hidle hquiet
    | some won =>
      by_cases ht : w.run.textBattleActive = true
      · exact hw.battleEnd (hw.text ▸ ht) (hquiet.trans (if_pos ht))
      · exact hidle (hquiet.trans (if_neg ht))

/-- A careful input is lawful and leaves the challenger in order. -/
theorem Orderly.step (hw : w.Orderly) (hc : w.Careful i) : w.Lawful i ∧ (w.step i).Orderly := by
  cases i with
  | request gym => exact hw.request gym
  | names from' payload => exact hw.names hc
  | parties from' payload => exact hw.parties hc
  | runOnce ready ended => exact hw.runOnce ready ended

/-- While the gyms are careful every request leads to at most one run, over five parties that stay and
have mons, and to at most one result, for the gym that was asked. -/
theorem one_run_per_request (l : List LadderInput) (h : Walk.Along step Careful idle l) :
    Walk.Along step Lawful idle l :=
  h.trade (fun _ _ hw hc => (hw.step hc).2) (fun _ _ hw hc => (hw.step hc).1) orderly_idle

instance (tc : UInt8) (p : List UInt8) : Decidable (FiveTrainers tc p) :=
  inferInstanceAs (Decidable (∀ _, _))

/-- Five names of a letter, and five trainers with a Pikachu of level 10. -/
def pikachuLadder (gym : UInt32) : List LadderInput :=
  [.request gym, .names gym [5, 1, 65, 1, 66, 1, 67, 1, 68, 1, 69],
    .parties gym (5 :: (List.replicate 5 [1, 25, 10, 84, 0, 0, 0]).flatten), .runOnce true none]

def fiveRounds : List LadderInput := List.replicate 5 (.runOnce true (some true))

theorem one_run_per_request_pikachu :
    Walk.Along step Lawful idle (pikachuLadder 1 ++ fiveRounds) := by
  refine one_run_per_request _ ⟨trivial, fun _ _ _ _ _ _ => rfl, ?_, trivial, trivial, trivial, trivial,
    trivial, trivial, trivial⟩
  rintro - - tc p ⟨⟩
  refine ⟨rfl, ?_⟩
  rw [if_pos (by decide)]
  decide

/-- The names come a second time while the first trainer is fought; the ladder starts again behind its
end. -/
theorem duplicate_names_start_again : ¬Walk.Along step Lawful idle
    (pikachuLadder 1 ++ .names 1 [5, 1, 65, 1, 66, 1, 67, 1, 68, 1, 69] :: fiveRounds ++
      [.runOnce true none]) := by
  intro h
  have hlast := (Walk.along_concat.mp h).2
  exact absurd hlast.runs (by decide +kernel)

end WatchedRun
end MonsterMesh

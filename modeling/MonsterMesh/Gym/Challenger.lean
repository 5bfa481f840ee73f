import MonsterMesh.Gym.State

/-! The challenger of a ladder: the two packets it waits for, and the five fights it runs. -/
namespace MonsterMesh

/-! ### The packets -/

/-- The names of `n` trainers, and whether they were all there. -/
def readNames : ℕ → List UInt8 → Bool × List CStr
  | 0, _ => (true, [])
  | _ + 1, [] => (false, [])
  | n + 1, nl :: p =>
    if p.length < nl.toNat then (false, [])
    else
      let r := readNames n (p.drop nl.toNat)
      (r.1, (p.take nl.toNat).take 16 :: r.2)

/-- A mon of a bulk party: only species, level and moves come over the air. -/
def bulkMon (dex level : UInt8) (moves : Fin 4 → UInt8) : Gen1Pokemon :=
  { Gen1Pokemon.zero with
    species := dexToInternal dex, boxLevel := level, level := level
    hp := if dex = 0 ∨ 151 < dex then 0 else gen1ComputeStat (gen1BaseStats dex).hp level true
    dvs0 := 0x88, dvs1 := 0x88
    moves := moves
    pp := fun s =>
      match gen1Move (moves s) with
      | some mv => mv.pp
      | none => if moves s ≠ 0 then 25 else 0 }

def putBulkMon (gp : Gen1Party) (m : ℕ) (dex level : UInt8) (moves : Fin 4 → UInt8) : Gen1Party :=
  { gp with
    species := fun i => if i.val = m then dexToInternal dex else gp.species i
    mons := fun i => if i.val = m then bulkMon dex level moves else gp.mons i
    nicknames := fun i =>
      if i.val = m then nameField (gen1SpeciesName (dexToInternal dex)) else gp.nicknames i }

/-- `n` mons from place `m` on: whether they were all there, the party, what is left of the packet. -/
def readMons : ℕ → ℕ → Gen1Party → List UInt8 → Bool × Gen1Party × List UInt8
  | 0, _, gp, p => (true, gp, p)
  | n + 1, m, gp, dex :: level :: mv0 :: mv1 :: mv2 :: mv3 :: p =>
    readMons n (m + 1) (putBulkMon gp m dex level ![mv0, mv1, mv2, mv3]) p
  | _ + 1, _, gp, p => (false, gp, p)

def readParty : List UInt8 → Bool × Gen1Party × List UInt8
  | [] => (false, .zero, [])
  | mc :: p => if 6 < mc then (false, .zero, p) else readMons mc.toNat 0 { Gen1Party.zero with count := mc } p

/-- The parties of `n` trainers as far as they go, and whether they were all there. -/
def readParties : ℕ → List UInt8 → Bool × List Gen1Party
  | 0, _ => (true, [])
  | n + 1, p =>
    let r := readParty p
    if r.1 then
      let rest := readParties n r.2.2
      (rest.1, r.2.1 :: rest.2)
    else (false, [r.2.1])

/-- At most five trainers count. -/
def trainerCount (tc : UInt8) : ℕ := if 5 < tc then 5 else tc.toNat

/-! ### The ladder -/

/-- What the challenger keeps of its ladder. Trainer 0xFF is none. -/
structure LadderRun where
  (bulkActive haveNames haveParties startPending : Bool)
  (fightActive awaitParty requestPending : Bool)
  textBattleActive : Bool
  trainerIdx : UInt8
  target : UInt32
  names : Fin 5 → CStr
  parties : Fin 5 → Gen1Party

def bbsLadderCount : UInt8 := 5

/-- What the challenger sends, and the fights it starts. -/
inductive LadderOutput
  | ladderRequest (gym : UInt32)
  | fightRequest (gym : UInt32)
  | fightResult (gym : UInt32) (outcome : UInt8)
  | fight (trainer : UInt8) (opponent : Gen1Party)

namespace LadderRun

variable (s : LadderRun)

def idle : LadderRun where
  bulkActive := false
  haveNames := false
  haveParties := false
  startPending := false
  fightActive := false
  awaitParty := false
  requestPending := false
  textBattleActive := false
  trainerIdx := 0xFF
  target := 0
  names := fun _ => []
  parties := fun _ => .zero

/-- The `bbs fight` command. -/
def request (gym : UInt32) : LadderRun × List LadderOutput :=
  if s.fightActive ∨ s.awaitParty then (s, [])
  else
    ({ s with
      target := gym
      awaitParty := true
      fightActive := false
      trainerIdx := 0
      requestPending := false
      haveNames := false
      haveParties := false
      bulkActive := true
      startPending := false
      names := fun _ => []
      parties := fun _ => .zero }, [.ladderRequest gym])

/-- `BBS_LADDER_NAMES` -/
def onNames (from' : UInt32) (payload : List UInt8) : LadderRun :=
  if s.bulkActive ∧ from' = s.target then
    match payload with
    | [] => s
    | tc :: p =>
      let r := readNames (trainerCount tc) p
      let s := { s with names := fun i => r.2.getD i.val [] }
      if r.1 then
        { s with haveNames := true, startPending := s.startPending || s.haveParties }
      else s
  else s

/-- `BBS_LADDER_PARTIES`: the old parties go before the new ones are looked at. -/
def onParties (from' : UInt32) (payload : List UInt8) : LadderRun :=
  if s.bulkActive ∧ from' = s.target then
    match payload with
    | [] => s
    | tc :: p =>
      let r := readParties (trainerCount tc) p
      let s := { s with parties := fun i => r.2.getD i.val .zero }
      if r.1 then
        { s with haveParties := true, startPending := s.startPending || s.haveNames }
      else s
  else s

/-- The end of a text battle. -/
def battleEnd (won : Bool) : LadderRun × List LadderOutput :=
  let sendResult (outcome : UInt8) : List LadderOutput :=
    if s.target ≠ 0 then [.fightResult s.target outcome] else []
  let inLadder := s.trainerIdx ≠ 0xFF
  if !s.fightActive && s.trainerIdx ≠ 0xFF then (s, [])
  else if s.fightActive then
    if h : inLadder ∧ won = true ∧ s.trainerIdx.toNat + 1 < bbsLadderCount.toNat then
      if s.bulkActive then
        -- the next trainer, without a packet
        let next : Fin 5 := ⟨s.trainerIdx.toNat + 1, h.2.2⟩
        ({ s with trainerIdx := s.trainerIdx + 1 }, [.fight (s.trainerIdx + 1) (s.parties next)])
      else
        ({ s with
          trainerIdx := s.trainerIdx + 1
          fightActive := false
          awaitParty := false
          requestPending := true }, sendResult 1)
    else
      ({ s with
        trainerIdx := 0xFF
        bulkActive := false
        fightActive := false
        awaitParty := false
        target := 0
        textBattleActive := false }, sendResult (if won then 1 else 0))
  else ({ s with textBattleActive := false }, [])

/-- `runOnce`, as far as ladders go. `ready` says that nothing but a text battle holds the screen and a
party is loaded, `ended` that the text battle is over. -/
def runOnce (ready : Bool) (ended : Option Bool) : LadderRun × List LadderOutput :=
  if s.startPending && !s.textBattleActive && ready then
    ({ s with
      startPending := false
      trainerIdx := 0
      textBattleActive := true
      fightActive := true }, [.fight 0 (s.parties 0)])
  else
    let (s, asked) : LadderRun × List LadderOutput :=
      if s.requestPending ∧ s.target ≠ 0 then
        ({ s with requestPending := false, awaitParty := true }, [.fightRequest s.target])
      else (s, [])
    match ended with
    | some won =>
      if s.textBattleActive then
        let r := s.battleEnd won
        (r.1, asked ++ r.2)
      else (s, asked)
    | none => (s, asked)

end LadderRun

/-- What happens to the challenger of a ladder. -/
inductive LadderInput
  | request (gym : UInt32)
  | names (from' : UInt32) (payload : List UInt8)
  | parties (from' : UInt32) (payload : List UInt8)
  | runOnce (ready : Bool) (ended : Option Bool)

def LadderRun.step (s : LadderRun) : LadderInput → LadderRun × List LadderOutput
  | .request gym => s.request gym
  | .names from' payload => (s.onNames from' payload, [])
  | .parties from' payload => (s.onParties from' payload, [])
  | .runOnce ready ended => s.runOnce ready ended

end MonsterMesh

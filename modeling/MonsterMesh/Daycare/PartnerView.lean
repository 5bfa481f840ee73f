import MonsterMesh.Lib.Text
import MonsterMesh.Lib.Writing

/-! The message of an event as its partner reads it. -/
namespace MonsterMesh.Pov

open Bounded Fallible Text

/-- The buffer of the rewritten message. -/
def size : ℕ := 200

variable (ourTag theirTag : Str)

/-- The walk over the message. -/
def walk : ℕ → Str → Printer → Except Bounded.Fault Printer
  | 0, _, _ => .error .endless
  | n + 1, p, w =>
    match p with
    | [] => .ok w
    | c :: rest =>
      if w.pos < w.buf.length - 1 then
        if (lit "Your ").isPrefixOf p then do
          let w ← w.print (ourTag ++ lit "'s ")
          walk n (p.drop 5) w
        else if theirTag ≠ [] ∧ theirTag.isPrefixOf p ∧ (lit "-").isPrefixOf (p.drop theirTag.length) then do
          let w ← w.print (lit "your ")
          walk n (p.drop (theirTag.length + 1)) w
        else if theirTag ≠ [] ∧ theirTag.isPrefixOf p ∧ (lit "'s ").isPrefixOf (p.drop theirTag.length) then do
          let w ← w.print (lit "your ")
          walk n (p.drop (theirTag.length + 3)) w
        else do
          let w ← w.put c
          walk n rest w
      else .ok w

/-- The text that is left in the buffer. -/
def povSwap (message : Str) : Except Bounded.Fault Str := do
  let w ← walk ourTag theirTag (message.length + 1) message (.start size)
  Bounded.cstr <$> store w.buf w.pos 0

structure Neighbor where
  nodeId : UInt32
  shortName : CString 5

/-- An event that is sent to the partner: the message for its own trainer, and the one for the partner, if any. -/
structure Event where
  message : CString size
  remoteMessage : CString size
  targetNodeId : UInt32

/-- The short name of the owner. -/
def ourTagOf (shortName : CString 5) : Str := if shortName.bytes = [] then lit "ME" else shortName.bytes

def theirTagOf (peers : List Neighbor) (node : UInt32) : Str :=
  match peers.find? (·.nodeId = node) with
  | some peer => peer.shortName.bytes
  | none => []

/-- What the partner is sent. -/
def partnerMsg (shortName : CString 5) (peers : List Neighbor) (evt : Event) : Except Bounded.Fault Str :=
  if evt.remoteMessage.bytes ≠ [] then .ok evt.remoteMessage.bytes
  else do
    let swapped ← povSwap (ourTagOf shortName) (theirTagOf peers evt.targetNodeId) evt.message.bytes
    .ok (if swapped ≠ [] then swapped else evt.message.bytes)

/-! ### What the rewrite is to say -/

/-- A part of the message: `Your `, the partner's tag with what marks it, or any other character. -/
inductive Piece where
  | own
  | partner (mark : Str)
  | plain (c : UInt8)
deriving DecidableEq

namespace Piece

def source : Piece → Str
  | own => lit "Your "
  | partner mark => theirTag ++ mark
  | plain c => [c]

/-- What the partner reads in its place. -/
def target : Piece → Str
  | own => ourTag ++ lit "'s "
  | partner _ => lit "your "
  | plain c => [c]

end Piece

/-- What the message begins with. -/
def pieceAt (p : Str) : Option Piece :=
  if (lit "Your ").isPrefixOf p then some .own
  else if theirTag ≠ [] ∧ (theirTag ++ lit "-").isPrefixOf p then some (.partner (lit "-"))
  else if theirTag ≠ [] ∧ (theirTag ++ lit "'s ").isPrefixOf p then some (.partner (lit "'s "))
  else p.head?.map .plain

def piecesWithin : ℕ → Str → List Piece
  | 0, _ => []
  | n + 1, p =>
    match pieceAt theirTag p with
    | none => []
    | some x => x :: piecesWithin n (p.drop (x.source theirTag).length)

def pieces (message : Str) : List Piece := piecesWithin theirTag message.length message

/-- The text of some pieces, from the partner's point of view. -/
def view (ps : List Piece) : Str := ps.flatMap (Piece.target ourTag)

/-- No piece begins before the last byte of the buffer and reaches into it, after `k` bytes of other text. -/
def Clear (k : ℕ) (ps : List Piece) : Prop :=
  ∀ i < ps.length, k + (view ourTag (ps.take i)).length < size - 1 →
    k + (view ourTag (ps.take (i + 1))).length ≤ size - 1

instance (k : ℕ) (ps : List Piece) : Decidable (Clear ourTag k ps) :=
  inferInstanceAs (Decidable (∀ i < ps.length, _))

variable {ourTag theirTag} {p rest out : Str} {x : Piece} {ps : List Piece} {w : Printer} {n m k : ℕ} {c : UInt8}

variable (theirTag) in
theorem pieceAt_cons (c : UInt8) (rest : Str) :
    ∃ x, pieceAt theirTag (c :: rest) = some x ∧ x.source theirTag <+: c :: rest := by
  unfold pieceAt
  split_ifs with h₁ h₂ h₃
  · exact ⟨.own, rfl, List.isPrefixOf_iff_prefix.mp h₁⟩
  · exact ⟨_, rfl, List.isPrefixOf_iff_prefix.mp h₂.2⟩
  · exact ⟨_, rfl, List.isPrefixOf_iff_prefix.mp h₃.2⟩
  · exact ⟨.plain c, rfl, rest, rfl⟩

theorem source_pos (h : pieceAt theirTag p = some x) : 0 < (x.source theirTag).length := by
  have hmark : ∀ s : Str, (theirTag ++ s).length = theirTag.length + s.length := fun s => List.length_append ..
  unfold pieceAt at h
  split_ifs at h with h₁ h₂ h₃
  · obtain rfl := Option.some.inj h
    change 0 < (lit "Your ").length
    decide
  · obtain rfl := Option.some.inj h
    change 0 < (theirTag ++ _).length
    rw [hmark]
    exact Nat.lt_add_left _ (by decide)
  · obtain rfl := Option.some.inj h
    change 0 < (theirTag ++ _).length
    rw [hmark]
    exact Nat.lt_add_left _ (by decide)
  · cases p with
    | nil => cases h
    | cons c rest =>
      obtain rfl := Option.some.inj h
      exact Nat.one_pos

theorem piecesWithin_nil : piecesWithin theirTag n [] = [] := by
  cases n with
  | zero => rfl
  | succ n =>
    unfold piecesWithin pieceAt
    have hne : ∀ s : Str, s ≠ [] → s.isPrefixOf [] ≠ true := by
      intro s hs hp
      exact hs (List.prefix_nil.mp (List.isPrefixOf_iff_prefix.mp hp))
    have hmark : ∀ s : Str, theirTag ≠ [] ∧ (theirTag ++ s).isPrefixOf [] = true → False := by
      rintro s ⟨ht, hp⟩
      exact hne _ (by simp [ht]) hp
    rw [if_neg (hne _ (by decide)), if_neg (hmark _), if_neg (hmark _)]
    rfl

theorem piecesWithin_spare (hn : p.length ≤ n) (hm : p.length ≤ m) :
    piecesWithin theirTag n p = piecesWithin theirTag m p := by
  induction n generalizing m p with
  | zero =>
    obtain rfl := List.eq_nil_of_length_eq_zero (Nat.le_zero.mp hn)
    rw [piecesWithin_nil, piecesWithin_nil]
  | succ n ih =>
    cases p with
    | nil => rw [piecesWithin_nil, piecesWithin_nil]
    | cons c rest =>
      obtain ⟨m, rfl⟩ : ∃ j, m = j + 1 := ⟨m - 1, by rw [List.length_cons] at hm; omega⟩
      obtain ⟨x, hx, hpre⟩ := pieceAt_cons theirTag c rest
      have hpos := source_pos hx
      unfold piecesWithin
      rw [hx]
      dsimp only
      rw [ih (m := m) (by rw [List.length_drop]; omega) (by rw [List.length_drop]; omega)]

variable (theirTag) in
/-- The first piece of a message, and the pieces of what follows it. -/
theorem pieces_cons (c : UInt8) (rest : Str) : ∃ x, pieceAt theirTag (c :: rest) = some x ∧
    pieces theirTag (c :: rest) = x :: pieces theirTag ((c :: rest).drop (x.source theirTag).length) := by
  obtain ⟨x, hx, hpre⟩ := pieceAt_cons theirTag c rest
  have hpos := source_pos hx
  refine ⟨x, hx, ?_⟩
  conv_lhs => rw [pieces, List.length_cons, piecesWithin, hx]
  dsimp only
  unfold pieces
  rw [piecesWithin_spare (by rw [List.length_drop, List.length_cons]; omega) (Nat.le_refl _)]

/-- Nothing of the message is lost or made up by cutting it into pieces. -/
theorem pieces_source (message : Str) : (pieces theirTag message).flatMap (Piece.source theirTag) = message := by
  induction hn : message.length using Nat.strong_induction_on generalizing message with
  | _ n ih =>
    cases message with
    | nil => rw [pieces, piecesWithin_nil]; rfl
    | cons c rest =>
      obtain ⟨x, hx, heq⟩ := pieces_cons theirTag c rest
      obtain ⟨y, hy, hpre⟩ := pieceAt_cons theirTag c rest
      obtain rfl : x = y := Option.some.inj (hx.symm.trans hy)
      have hpos := source_pos hx
      have hlt : ((c :: rest).drop (x.source theirTag).length).length < n := by
        rw [List.length_drop]
        rw [List.length_cons] at hn ⊢
        omega
      rw [heq, List.flatMap_cons, ih _ hlt _ rfl]
      exact (List.prefix_append_drop hpre).symm

/-! ### One piece after the other -/

def emit (ourTag : Str) (x : Piece) (w : Printer) : Except Bounded.Fault Printer :=
  match x with
  | .plain c => w.put c
  | x => w.print (x.target ourTag)

theorem mark_iff (s : Str) : theirTag.isPrefixOf p ∧ s.isPrefixOf (p.drop theirTag.length) ↔
    (theirTag ++ s).isPrefixOf p = true := by
  rw [List.isPrefixOf_iff_prefix, List.isPrefixOf_iff_prefix, List.isPrefixOf_iff_prefix]
  constructor
  · rintro ⟨⟨q, rfl⟩, hs⟩
    rw [List.drop_left] at hs
    exact (List.prefix_append_right_inj theirTag).mpr hs
  · rintro ⟨q, rfl⟩
    refine ⟨⟨s ++ q, (List.append_assoc ..).symm⟩, ?_⟩
    rw [List.append_assoc, List.drop_left]
    exact List.prefix_append s q

theorem walk_step (ho : w.pos < w.buf.length - 1) (hx : pieceAt theirTag (c :: rest) = some x) :
    walk ourTag theirTag (n + 1) (c :: rest) w =
      emit ourTag x w >>= walk ourTag theirTag n ((c :: rest).drop (x.source theirTag).length) := by
  unfold walk
  dsimp only
  rw [if_pos ho]
  unfold pieceAt at hx
  simp only [mark_iff]
  split_ifs at hx with h₁ h₂ h₃
  · rw [if_pos h₁]
    obtain rfl := Option.some.inj hx
    rfl
  · rw [if_neg h₁, if_pos h₂]
    obtain rfl := Option.some.inj hx
    rw [Piece.source, List.length_append]
    rfl
  · rw [if_neg h₁, if_neg h₂, if_pos h₃]
    obtain rfl := Option.some.inj hx
    rw [Piece.source, List.length_append]
    rfl
  · rw [if_neg h₁, if_neg h₂, if_neg h₃]
    obtain rfl := Option.some.inj hx
    rfl

theorem walk_stop (ho : w.buf.length - 1 ≤ w.pos) : walk ourTag theirTag (n + 1) p w = .ok w := by
  unfold walk
  split
  · rfl
  · rw [if_neg (by omega)]

variable (ourTag) in
/-- What a piece does to the buffer: it is put down whole, or takes the index past the end. -/
theorem emit_holds (hw : w.Holds out) (hlen : w.buf.length = size) (hlt : out.length < size - 1) (x : Piece) :
    ∃ w', emit ourTag x w = .ok w' ∧ w'.buf.length = size ∧
      (out.length + (x.target ourTag).length ≤ size - 1 → w'.Holds (out ++ x.target ourTag)) ∧
      (size - 1 < out.length + (x.target ourTag).length → size ≤ w'.pos) := by
  have hprint : ∀ text, ∃ w', w.print text = .ok w' ∧ w'.buf.length = size ∧
      (out.length + text.length ≤ size - 1 → w'.Holds (out ++ text)) ∧
      (size - 1 < out.length + text.length → size ≤ w'.pos) := by
    intro text
    obtain ⟨w', hrun, hlen', hholds, hpos⟩ := Printer.print_holds hw (by omega) text
    exact ⟨w', hrun, hlen'.trans hlen, fun hle => hholds (by omega), fun hgt => by omega⟩
  cases x with
  | own => exact hprint _
  | partner mark => exact hprint _
  | plain c =>
    obtain ⟨w', hput, hholds, hlen'⟩ := Printer.put_holds (c := c) hw (by omega)
    refine ⟨w', hput, hlen'.trans hlen, fun _ => hholds, fun h => ?_⟩
    change size - 1 < out.length + 1 at h
    omega

theorem clear_cons : Clear ourTag k (x :: ps) ↔ (k < size - 1 → k + (x.target ourTag).length ≤ size - 1) ∧
    Clear ourTag (k + (x.target ourTag).length) ps := by
  have hview : ∀ i, (view ourTag ((x :: ps).take (i + 1))).length =
      (x.target ourTag).length + (view ourTag (ps.take i)).length := by
    intro i
    rw [List.take_succ_cons, view, List.flatMap_cons, List.length_append]
    rfl
  constructor
  · intro h
    refine ⟨fun hk => ?_, fun i hi hlt => ?_⟩
    · have hfirst := h 0 (Nat.succ_pos _) hk
      rwa [hview, List.take_zero, view, List.flatMap_nil, List.length_nil, Nat.add_zero] at hfirst
    · have hnext := h (i + 1) (Nat.succ_lt_succ hi)
      rw [hview, hview] at hnext
      omega
  · rintro ⟨hfirst, hrest⟩ i hi hlt
    rw [hview]
    cases i with
    | zero =>
      rw [List.take_zero, view, List.flatMap_nil, List.length_nil, Nat.add_zero]
      exact hfirst hlt
    | succ i =>
      rw [hview] at hlt
      have hnext := hrest i (Nat.lt_of_succ_lt_succ hi)
      omega

variable (ourTag theirTag) in
/-- What the loop leaves behind: the rewrite, as far as the buffer goes, or an index outside of it. -/
theorem walk_run (hn : p.length < n) (hw : w.Holds out) (hlen : w.buf.length = size) (hle : out.length ≤ size - 1) :
    ∃ w', walk ourTag theirTag n p w = .ok w' ∧ w'.buf.length = size ∧
      (Clear ourTag out.length (pieces theirTag p) →
        w'.Holds ((out ++ view ourTag (pieces theirTag p)).take (size - 1))) ∧
      (¬Clear ourTag out.length (pieces theirTag p) → size ≤ w'.pos) := by
  have hpos : w.pos = out.length := hw.choose_spec.2
  induction n generalizing p w out with
  | zero => omega
  | succ n ih =>
    by_cases hlt : out.length < size - 1
    · cases p with
      | nil =>
        have hnil : pieces theirTag [] = [] := piecesWithin_nil
        refine ⟨w, rfl, hlen, fun _ => ?_, fun h => (h ?_).elim⟩
        · rw [hnil, view, List.flatMap_nil, List.append_nil, List.take_of_length_le hle]
          exact hw
        · rw [hnil]
          intro i hi
          exact absurd hi (Nat.not_lt_zero i)
      | cons c rest =>
        obtain ⟨x, hx, hp⟩ := pieces_cons theirTag c rest
        have hsource := source_pos hx
        obtain ⟨w', hemit, hlen', hfit, hlong⟩ := emit_holds ourTag hw hlen hlt x
        rw [walk_step (by omega) hx, hemit, bind_ok, hp, clear_cons]
        by_cases hroom : out.length + (x.target ourTag).length ≤ size - 1
        · have hless : ((c :: rest).drop (x.source theirTag).length).length < n := by
            rw [List.length_drop]
            rw [List.length_cons] at hn ⊢
            omega
          have hstep := ih hless (hfit hroom) hlen' (by rw [List.length_append]; exact hroom)
            (hfit hroom).choose_spec.2
          rw [List.length_append] at hstep
          obtain ⟨w'', hwalk, hlen'', hclear, hmid⟩ := hstep
          refine ⟨w'', hwalk, hlen'', fun h => ?_, fun h => ?_⟩
          · have hheld := hclear h.2
            rwa [List.append_assoc] at hheld
          · exact hmid fun hc => h ⟨fun _ => hroom, hc⟩
        · have hout := hlong (by omega)
          obtain ⟨n, rfl⟩ : ∃ j, n = j + 1 := ⟨n - 1, by rw [List.length_cons] at hn; omega⟩
          exact ⟨w', walk_stop (by omega), hlen', fun h => (hroom (h.1 hlt)).elim, fun _ => hout⟩
    · have hall : ∀ ps, Clear ourTag out.length ps := by
        intro ps i hi hlt
        omega
      refine ⟨w, walk_stop (by omega), hlen, fun _ => ?_, fun h => (h (hall _)).elim⟩
      rw [List.take_append_of_le_length (by omega), List.take_of_length_le hle]
      exact hw

theorem plain_mem (h : .plain c ∈ pieces theirTag p) : c ∈ p := by
  have hmem : c ∈ (pieces theirTag p).flatMap (Piece.source theirTag) :=
    List.mem_flatMap.mpr ⟨_, h, List.mem_singleton_self c⟩
  rwa [pieces_source] at hmem

theorem view_terminated (hp : 0 ∉ p) (hour : 0 ∉ ourTag) : 0 ∉ view ourTag (pieces theirTag p) := by
  intro h
  obtain ⟨x, hx, hmem⟩ := List.mem_flatMap.mp h
  cases x with
  | own =>
    rcases List.mem_append.mp hmem with h | h
    · exact hour h
    · exact absurd h (by decide)
  | partner mark => exact absurd (show 0 ∈ lit "your " from hmem) (by decide)
  | plain c =>
    obtain rfl := List.mem_singleton.mp hmem
    exact hp (plain_mem hx)

/-- The rewrite, as much of it as the buffer holds, where no piece gets in the way. -/
theorem povSwap_clear (hp : 0 ∉ p) (hour : 0 ∉ ourTag) (h : Clear ourTag 0 (pieces theirTag p)) :
    povSwap ourTag theirTag p = .ok ((view ourTag (pieces theirTag p)).take (size - 1)) := by
  obtain ⟨w, hwalk, hlen, hclear, -⟩ := walk_run ourTag theirTag (Nat.lt_succ_self p.length)
    (Printer.start_holds size) (List.length_replicate ..) (Nat.zero_le _)
  have hholds := hclear h
  rw [List.nil_append] at hholds
  unfold povSwap
  rw [hwalk, bind_ok]
  refine Printer.store_holds hholds ?_ fun hz => view_terminated hp hour (List.mem_of_mem_take hz)
  rw [List.length_take]
  have hsize : size = 200 := rfl
  omega

/-- The terminator is written outside of the buffer otherwise. -/
theorem povSwap_outside (h : ¬Clear ourTag 0 (pieces theirTag p)) :
    povSwap ourTag theirTag p = .error .outside := by
  obtain ⟨w, hwalk, hlen, -, hmid⟩ := walk_run ourTag theirTag (Nat.lt_succ_self p.length)
    (Printer.start_holds size) (List.length_replicate ..) (Nat.zero_le _)
  have hout := hmid h
  unfold povSwap
  rw [hwalk, bind_ok, store, if_neg (by omega)]
  rfl

variable (ourTag theirTag) in
theorem view_ne_nil (hp : p ≠ []) : view ourTag (pieces theirTag p) ≠ [] := by
  obtain ⟨c, rest, rfl⟩ := List.exists_cons_of_ne_nil hp
  obtain ⟨x, -, heq⟩ := pieces_cons theirTag c rest
  rw [heq, view, List.flatMap_cons]
  intro h
  have hx := (List.append_eq_nil_iff.mp h).1
  cases x with
  | own => exact absurd (List.append_eq_nil_iff.mp hx).2 (by decide)
  | partner mark => exact absurd (show lit "your " = [] from hx) (by decide)
  | plain c => exact absurd hx (List.cons_ne_nil c [])

theorem ourTagOf_terminated (shortName : CString 5) : 0 ∉ ourTagOf shortName := by
  unfold ourTagOf
  split_ifs
  · decide
  · exact shortName.terminated

/-- The message goes out from the partner's point of view, unless the event has one for the partner. -/
theorem partnerMsg_view {shortName : CString 5} {peers : List Neighbor} {evt : Event}
    (hremote : evt.remoteMessage.bytes = []) (hmessage : evt.message.bytes ≠ [])
    (h : Clear (ourTagOf shortName) 0 (pieces (theirTagOf peers evt.targetNodeId) evt.message.bytes)) :
    partnerMsg shortName peers evt = .ok
      ((view (ourTagOf shortName) (pieces (theirTagOf peers evt.targetNodeId) evt.message.bytes)).take (size - 1)) := by
  have hne := view_ne_nil (ourTagOf shortName) (theirTagOf peers evt.targetNodeId) hmessage
  unfold partnerMsg
  rw [if_neg (not_not_intro hremote), povSwap_clear evt.message.terminated (ourTagOf_terminated shortName) h,
    bind_ok, if_pos]
  intro hnil
  rcases List.take_eq_nil_iff.mp hnil with h | h
  · cases h
  · exact hne h

/-- The rewrite ends for every message and all tags, and it keeps to the buffer just when no replaced text begins
before the last byte of it and goes beyond. -/
theorem povSwap_iff (message : CString size) (ourTag theirTag : CString 5) :
    povSwap ourTag.bytes theirTag.bytes message.bytes ≠ .error .endless ∧
    ((∃ out, povSwap ourTag.bytes theirTag.bytes message.bytes = .ok out ∧
        out <+: view ourTag.bytes (pieces theirTag.bytes message.bytes)) ↔
      Clear ourTag.bytes 0 (pieces theirTag.bytes message.bytes)) := by
  by_cases h : Clear ourTag.bytes 0 (pieces theirTag.bytes message.bytes)
  · rw [povSwap_clear message.terminated ourTag.terminated h]
    exact ⟨by simp, fun _ => h, fun _ => ⟨_, rfl, List.take_prefix _ _⟩⟩
  · rw [povSwap_outside h]
    refine ⟨by simp, ?_, fun hc => (h hc).elim⟩
    rintro ⟨out, hout, -⟩
    cases hout

/-- A message whose last word is `Your`, after 194 bytes of other text. -/
def longMessage : CString size where
  bytes := List.replicate 194 97 ++ lit "Your "
  fits := by decide +kernel
  terminated := by decide +kernel

theorem longMessage_overruns : ¬ ∀ ourTag theirTag : CString 5,
    ∃ out, povSwap ourTag.bytes theirTag.bytes longMessage.bytes = .ok out ∧
      out <+: view ourTag.bytes (pieces theirTag.bytes longMessage.bytes) := by
  intro h
  obtain ⟨out, hout, -⟩ := h ⟨lit "RED4", by decide, by decide⟩ ⟨[], by decide, by decide⟩
  have hrun : povSwap (lit "RED4") [] longMessage.bytes = .error .outside := by decide +kernel
  rw [hrun] at hout
  cases hout

end MonsterMesh.Pov

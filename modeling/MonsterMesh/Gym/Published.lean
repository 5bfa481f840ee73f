import MonsterMesh.Gym.FeedTexts

/-! Which records of a gym are JSON that says what it should. -/
namespace MonsterMesh.GauntletFeed

open Bounded Fallible Json Text

variable {ws : List (Str × Want)} {gs fs ds : List (Str × Value)} {r : GymRecord} {w : Want} {w' : Str × Want} {key s t : Str} {c : UInt8}
  {n : ℕ}

/-- The object in the last field shows what is wanted of it. -/
def DataShown : Option (List (Str × Want)) → List (Str × Value) → Prop
  | none, ds => ds = []
  | some ws, ds => ∃ gs, ds = [(lit "data", .obj gs)] ∧ Matches ws gs

namespace GymRecord

/-- What comes out is a complete JSON object, of whole characters, whose fields show what is wanted of them. -/
def Faithful (r : GymRecord) : Prop :=
  ∃ t fs ds, r.out = .ok t ∧ Utf8 t ∧ parse t = some (.obj (fs ++ ds)) ∧ Matches r.wants fs ∧ DataShown r.data ds

/-- Every text can be shown, and there is room for the whole record. -/
structure Clean (r : GymRecord) : Prop where
  own : ∀ w ∈ r.wants, w.2.Clean
  data : ∀ ws, r.data = some ws → ∀ w ∈ ws, w.2.Clean
  fits : r.Fits

end GymRecord

/-! ### Texts that are not escaped -/

/-- A field that shows its text as it is had nothing to be escaped. -/
theorem first_printable {x : Str × Value} (hkey : Simple key)
    (h : fields (n + 1) (keyText key ++ ((w.member key).text ++ c :: t)) = some (x :: gs, s)) (hx : w.Shows x.2)
    (hc : c ≠ 34 ∧ c ≠ 92) (ht : 34 ∈ t → t.head? = some 34) : w.Printable := by
  cases w with
  | number m => trivial
  | text room o => trivial
  | exact o =>
    obtain ⟨y, hvalue⟩ := fields_head (plain_visible hkey.1) h
    have hx : x.2 = .str o := hx
    rw [hx] at hvalue
    cases n with
    | zero => cases hvalue
    | succ n =>
      change value (n + 1) (34 :: (o ++ [34] ++ c :: t)) = _ at hvalue
      rw [value, if_pos rfl, List.append_assoc] at hvalue
      obtain ⟨p, hstring, heq⟩ := Option.map_eq_some_iff.mp hvalue
      rw [← Value.str.inj (Prod.mk.inj heq).1] at hstring ⊢
      exact string_bare hstring hc ht

theorem fieldsText_one : fieldsText (members [w']) = keyText w'.1 ++ (w'.2.member w'.1).text ++ [125] := by
  change keyText (w'.2.member w'.1).key ++ _ ++ _ = _
  rw [member_key]

theorem fieldsText_more {w'' : Str × Want} : fieldsText (members (w' :: w'' :: ws)) =
    keyText w'.1 ++ (w'.2.member w'.1).text ++ 44 :: fieldsText (members (w'' :: ws)) := by
  change keyText (w'.2.member w'.1).key ++ _ ++ _ = _
  rw [member_key]
  rfl

theorem fieldsText_quote (hne : ws ≠ []) : (fieldsText (members ws) ++ t).head? = some 34 := by
  have hmembers : members ws ≠ [] := by
    rwa [members, ne_eq, List.map_eq_nil_iff]
  obtain ⟨r, hr⟩ := fieldsText_head (s := t) hmembers
  rw [hr]
  rfl

/-- The same for all fields of an object. -/
theorem fields_printable (hkeys : ∀ w ∈ ws, Simple w.1) (hn : (fieldsText (members ws)).length ≤ n)
    (h : fields n (fieldsText (members ws) ++ [125]) = some (gs, s)) (hm : Matches ws gs) :
    ∀ w ∈ ws, w.2.Printable := by
  induction ws generalizing gs n with
  | nil => exact fun w hw => absurd hw List.not_mem_nil
  | cons w ws ih =>
    have hkey := hkeys w (List.mem_cons_self ..)
    have hlong := keyText_length w.1
    cases hm with
    | @cons _ x _ gs hx hm =>
      rw [List.forall_mem_cons]
      cases ws with
      | nil =>
        rw [fieldsText_one] at hn h
        rw [List.length_append, List.length_append] at hn
        obtain ⟨n, rfl⟩ : ∃ k, n = k + 1 := ⟨n - 1, by omega⟩
        simp only [List.append_assoc] at h
        exact ⟨first_printable hkey h hx.2 (by decide) (by decide), List.forall_mem_nil _⟩
      | cons w' ws =>
        rw [fieldsText_more] at hn h
        rw [List.length_append, List.length_append, List.length_cons] at hn
        obtain ⟨n, rfl⟩ : ∃ k, n = k + 1 := ⟨n - 1, by omega⟩
        rw [List.append_assoc, List.cons_append] at h
        have hw : w.2.Printable := first_printable hkey (by rwa [List.append_assoc] at h) hx.2 (by decide)
          fun _ => fieldsText_quote (List.cons_ne_nil w' ws)
        -- what is printed for the first field is read as that field, and the rest is an object of its own
        have hmore := fields_more (s := fieldsText (members (w' :: ws)) ++ [125]) (member_sound hkey hw) (n := n) (by omega)
        rw [member_key] at hmore
        rw [hmore] at h
        obtain ⟨q, hq, heq⟩ := Option.map_eq_some_iff.mp h
        have hgs : q.1 = gs := (List.cons.inj (Prod.mk.inj heq).1).2
        have hrest : q = (gs, s) := Prod.ext hgs (Prod.mk.inj heq).2
        exact ⟨hw, ih (fun x hx => hkeys x (List.mem_cons_of_mem w hx)) (by omega) (hrest ▸ hq) hm⟩

/-! ### Records that are read -/

/-- The keys of the data of an event need no escapes either. -/
theorem data_simple (h : r.data = some ws) : ws ≠ [] ∧ ∀ w ∈ ws, Simple w.1 := by
  cases r
  case rosterEvent s ts node name rank partyCsv =>
    obtain rfl := Option.some.inj h
    refine ⟨List.cons_ne_nil _ _, ?_⟩
    simp only [rosterData, List.forall_mem_cons]
    decide +kernel
  case leaderEvent s ts node name partyCsv =>
    obtain rfl := Option.some.inj h
    refine ⟨List.cons_ne_nil _ _, ?_⟩
    simp only [leaderData, List.forall_mem_cons]
    decide +kernel
  all_goals cases h

theorem matches_length (h : Matches ws fs) : fs.length = ws.length := h.length_eq.symm

/-- The data of an event that is read as they are had nothing to be escaped. -/
theorem data_printable (h : parse r.text = some (.obj (fs ++ ds))) (hfs : Matches r.wants fs)
    (hds : DataShown r.data ds) (hws : r.data = some ws) : ∀ w ∈ ws, w.2.Printable := by
  obtain ⟨hne, hkeys⟩ := data_simple hws
  rw [hws] at hds
  obtain ⟨gs, rfl, hgs⟩ := hds
  have hsound := members_sound (wants_simple r) (wants_printable r)
  have htext : r.text = 123 :: (manyText (members r.wants) ++ (keyText (lit "data") ++ (objText (members ws) ++ [125]))) := by
    unfold GymRecord.text
    rw [hws]
    rw [objText, dataMembers, fieldsText_append _ (List.cons_ne_nil _ _), fieldsText, List.append_assoc]
  have hwants : members r.wants ≠ [] := by
    cases r <;> exact List.cons_ne_nil _ _
  rw [htext] at h
  obtain ⟨n, q, hn, hq, hsplit⟩ := parse_many hwants hsound h
  have hlen : fs.length = ((members r.wants).map fun f => (f.key, f.val)).length := by
    rw [matches_length hfs, members, List.length_map, List.length_map]
  obtain ⟨-, rfl⟩ := List.append_inj hsplit hlen
  have hlong := length_le_manyText (members r.wants)
  have hkey : 3 ≤ (keyText (lit "data")).length := keyText_length _
  rw [List.length_append, List.length_append, List.length_singleton, objText, List.length_cons] at hn
  obtain ⟨n, rfl⟩ : ∃ k, n = k + 2 := ⟨n - 2, by omega⟩
  obtain ⟨t, hvalue⟩ := fields_head (by decide +kernel) hq
  rw [objText, List.cons_append, value_open (fieldsText_head (by rwa [members, ne_eq, List.map_eq_nil_iff]))] at hvalue
  obtain ⟨p, hp, heq⟩ := Option.map_eq_some_iff.mp hvalue
  have hobj : p.1 = gs := Value.obj.inj (Prod.mk.inj heq).1
  exact fields_printable (n := n) (s := p.2) hkeys (by omega) (by rw [hp, ← hobj]) hgs

theorem data_key : Simple (lit "data") := by decide +kernel

/-- A record whose data can be printed is read as it is meant. -/
theorem parse_record (hdata : ∀ ws, r.data = some ws → ∀ w ∈ ws, w.2.Printable) :
    parse r.text = some (objValue (members r.wants ++ dataMembers r.data)) := by
  refine parse_obj (by cases r <;> exact List.cons_ne_nil _ _) ?_
  rw [List.forall_mem_append]
  refine ⟨members_sound (wants_simple r) (wants_printable r), ?_⟩
  cases hr : r.data with
  | none => exact List.forall_mem_nil _
  | some ws =>
    obtain ⟨hne, hkeys⟩ := data_simple hr
    rw [dataMembers, List.forall_mem_singleton]
    exact ⟨plain_visible data_key.1, parses_obj (by rwa [members, ne_eq, List.map_eq_nil_iff])
      (members_sound hkeys (hdata ws hr))⟩

theorem utf8_members (hkeys : ∀ w ∈ ws, Simple w.1) :
    Utf8 (objText (members ws)) ↔ ∀ w ∈ ws, Utf8 (w.2.member w.1).text := by
  rw [utf8_obj, members, List.forall_mem_map]
  intro f hf
  obtain ⟨w, hw, rfl⟩ := List.mem_map.mp hf
  rw [member_key]
  exact (hkeys w hw).2

theorem utf8_record : Utf8 r.text ↔
    (∀ w ∈ r.wants, Utf8 (w.2.member w.1).text) ∧ ∀ ws, r.data = some ws → Utf8 (objText (members ws)) := by
  unfold GymRecord.text
  rw [utf8_obj, List.forall_mem_append, members, List.forall_mem_map]
  · refine and_congr_right fun _ => ?_
    cases hr : r.data with
    | none => exact ⟨fun _ ws h => (Option.some_ne_none ws h.symm).elim, fun _ => List.forall_mem_nil _⟩
    | some ws =>
      rw [dataMembers, List.forall_mem_singleton]
      exact ⟨fun h _ hws => Option.some.inj hws ▸ h, fun h => h ws rfl⟩
  · rw [List.forall_mem_append]
    constructor
    · intro f hf
      obtain ⟨w, hw, rfl⟩ := List.mem_map.mp hf
      rw [member_key]
      exact (wants_simple r w hw).2
    · cases r.data with
      | none => exact List.forall_mem_nil _
      | some ws =>
        rw [dataMembers, List.forall_mem_singleton]
        exact data_key.2

theorem dataShown_members : DataShown r.data ((dataMembers r.data).map fun f => (f.key, f.val)) ↔
    ∀ ws, r.data = some ws → Matches ws ((members ws).map fun f => (f.key, f.val)) := by
  cases r.data with
  | none => exact ⟨fun _ ws h => (Option.some_ne_none ws h.symm).elim, fun _ => rfl⟩
  | some ws =>
    constructor
    · rintro ⟨gs, hgs, hm⟩ ws' hws
      obtain rfl := Option.some.inj hws
      rwa [← Value.obj.inj (Prod.mk.inj (List.cons.inj hgs).1).2] at hm
    · exact fun h => ⟨_, rfl, h ws rfl⟩

/-- A record that there is room for, and whose data can be printed. -/
theorem faithful_whole (hfits : r.Fits) (hdata : ∀ ws, r.data = some ws → ∀ w ∈ ws, w.2.Printable) :
    r.Faithful ↔ r.Clean := by
  have hout : r.out = .ok r.text := by rw [GymRecord.out_eq, printed_whole ((GymRecord.fits_iff r).mpr hfits)]
  have hown := fun w hw => member_clean w.1 (wants_printable r w hw)
  have hinner := fun ws hws w hw => member_clean w.1 (hdata ws hws w hw)
  constructor
  · rintro ⟨t, fs, ds, ht, hchars, hparse, hfs, hds⟩
    obtain rfl := Except.ok.inj (hout.symm.trans ht)
    have hfields := Value.obj.inj (Option.some.inj (hparse.symm.trans (parse_record hdata)))
    rw [List.map_append] at hfields
    have hlen : fs.length = ((members r.wants).map fun f => (f.key, f.val)).length := by
      rw [matches_length hfs, members, List.length_map, List.length_map]
    obtain ⟨rfl, rfl⟩ := List.append_inj hfields hlen
    rw [matches_members] at hfs
    rw [dataShown_members] at hds
    obtain ⟨hu, hdu⟩ := utf8_record.mp hchars
    refine ⟨fun w hw => (hown w hw).mp ⟨hfs w hw, hu w hw⟩, fun ws hws w hw => ?_, hfits⟩
    exact (hinner ws hws w hw).mp ⟨matches_members.mp (hds ws hws) w hw,
      (utf8_members (data_simple hws).2).mp (hdu ws hws) w hw⟩
  · rintro ⟨hclean, hcleandata, -⟩
    refine ⟨r.text, (members r.wants).map fun f => (f.key, f.val), (dataMembers r.data).map fun f => (f.key, f.val), hout,
      ?_, ?_, ?_, ?_⟩
    · refine utf8_record.mpr ⟨fun w hw => ((hown w hw).mpr (hclean w hw)).2, fun ws hws => ?_⟩
      exact (utf8_members (data_simple hws).2).mpr fun w hw => ((hinner ws hws w hw).mpr (hcleandata ws hws w hw)).2
    · rw [← List.map_append]
      exact parse_record hdata
    · exact matches_members.mpr fun w hw => ((hown w hw).mpr (hclean w hw)).1
    · exact dataShown_members.mpr fun ws hws =>
        matches_members.mpr fun w hw => ((hinner ws hws w hw).mpr (hcleandata ws hws w hw)).1

/-! ### A message that is cut -/

/-- The fields of a message before its text. -/
def messageHead (ts node : UInt32) (name : CString 16) : List (Str × Want) :=
  [(lit "type", .exact (lit "msg")),
    (lit "ts", .number ts.toNat),
    (lit "node", .number node.toNat),
    (lit "name", .text 24 name.bytes)]

section
variable {ts node : UInt32} {name : CString 16} {text : CString 234}

theorem messageLine_open : (GymRecord.messageLine ts node name text).text =
    123 :: (manyText (members (messageHead ts node name)) ++ (keyText (lit "text") ++ [34])) ++
      (escape (kept 200 text.bytes) ++ [34, 125]) := by
  have hfields := fieldsText_append (members (messageHead ts node name))
    (List.cons_ne_nil (Want.member (lit "text") (.text 200 text.bytes)) [])
  change objText (members (messageHead ts node name) ++ [Want.member (lit "text") (.text 200 text.bytes)] ++ []) = _
  rw [List.append_nil, objText, hfields, fieldsText, Want.member]
  simp only [List.append_assoc, List.cons_append, List.nil_append]

/-- A message that there is no room for is cut in its text, before the brace at the latest. -/
theorem messageLine_cut (h : ¬ (GymRecord.messageLine ts node name text).Fits) (gs : List (Str × Value)) :
    parse (printed 260 (GymRecord.messageLine ts node name text).text) ≠ some (.obj gs) := by
  intro hparse
  have hlong : 260 ≤ _ := Nat.not_lt.mp fun hlt => h ((GymRecord.fits_iff _).mp hlt)
  have hsmall : ∀ w ∈ messageHead ts node name, w.2.Small := fun w hw =>
    wants_small (.messageLine ts node name text) w (List.mem_append_left [_] hw)
  have hsound : ∀ f ∈ members (messageHead ts node name), f.Sound := members_sound
    (fun w hw => wants_simple (.messageLine ts node name text) w (List.mem_append_left [_] hw))
    (fun w hw => wants_printable (.messageLine ts node name text) w (List.mem_append_left [_] hw))
  have hmost : mostOf (messageHead ts node name) = 13 + (16 + (18 + (33 + 0))) := rfl
  have hhead := members_length hsmall
  have hmany := manyText_length (members (messageHead ts node name))
  have hkey : (keyText (lit "text")).length = 7 := rfl
  rw [messageLine_open] at hparse hlong
  rw [printed, List.take_append] at hparse
  simp only [List.length_append, List.length_cons, List.length_nil] at hlong
  rw [List.take_of_length_le] at hparse
  · rw [List.cons_append, List.append_assoc, List.append_assoc] at hparse
    obtain ⟨n, q, -, hq, -⟩ := parse_many (List.cons_ne_nil _ _) hsound hparse
    rw [List.singleton_append, fields_cut kept_visible (by decide +kernel)] at hq
    · cases hq
    · rw [List.length_cons, List.length_append, List.length_append, List.length_singleton]
      omega
  · rw [List.length_cons, List.length_append, List.length_append, List.length_singleton]
    omega

end

/-- An event is read only if its data are. -/
theorem faithful_printable (h : r.Faithful) (hfits : r.Fits) : ∀ ws, r.data = some ws → ∀ w ∈ ws, w.2.Printable := by
  intro ws hws
  obtain ⟨t, fs, ds, ht, -, hparse, hfs, hds⟩ := h
  rw [GymRecord.out_eq, printed_whole ((GymRecord.fits_iff r).mpr hfits)] at ht
  exact data_printable (Except.ok.inj ht ▸ hparse) hfs hds hws

theorem clean_printable (h : w.Clean) : w.Printable := by
  cases w with
  | number n => trivial
  | text room o => trivial
  | exact o => exact h.1

/-- What a gym publishes and writes to its board are JSON objects that show the texts they were made of just if the texts
need no escapes where there are none, none has a control character, only whole characters are kept of each, and a
message is short enough. -/
theorem feed_iff (r : GymRecord) : r.Faithful ↔ r.Clean := by
  by_cases hfits : r.Fits
  · constructor
    · exact fun h => (faithful_whole hfits (faithful_printable h hfits)).mp h
    · intro h
      exact (faithful_whole hfits fun ws hws w hw => clean_printable (h.data ws hws w hw)).mpr h
  · refine iff_of_false ?_ fun h => hfits h.fits
    rintro ⟨t, fs, ds, ht, -, hparse, -⟩
    cases r
    case messageLine ts node name text =>
      rw [GymRecord.out_eq] at ht
      exact messageLine_cut hfits _ (Except.ok.inj ht ▸ hparse)
    all_goals exact hfits trivial

/-- A gym without a leader. -/
def newGym : GymView where
  gymName := ⟨lit "Pewter", by decide, by decide⟩
  gymBadge := ⟨lit "Boulder", by decide, by decide⟩
  nodeNum := 1
  leaderNode := 0
  leaderName := ⟨[], by decide, by decide⟩
  leaderSince := 0
  leaderParty := ⟨[], by decide, by decide⟩
  rosterSize := 1
  prevLeaderCount := 0
  totalChallenges := 0
  totalBattles := 0

/-- A trainer with a quote in the short name breaks the event of the roster. -/
theorem quotedName_breaks : ¬ (GymRecord.rosterEvent newGym 0 2 ⟨lit "a\"b", by decide, by decide⟩ 0
    ⟨lit "Pidgey", by decide, by decide⟩).Faithful := by
  intro h
  have hprint := faithful_printable h trivial _ rfl (lit "name", .exact (lit "a\"b")) (List.mem_cons_of_mem _ (List.mem_cons_self ..))
  have hplain : ∀ b ∈ lit "a\"b", isPlain b = true := hprint
  exact absurd hplain (by decide)

end MonsterMesh.GauntletFeed

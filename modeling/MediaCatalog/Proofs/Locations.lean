import MediaCatalog.Proofs.DoubleText
import MediaCatalog.Proofs.Records
/-!
# Locations that are read back

A location is stored as a document, which is a location again when its four numbers are finite. Those
of a location that is read are.
-/

namespace MediaCatalog

namespace Json

variable {x : Binary64} {rest fuel : List Char} {key : String}

/-- The double nearest to a number that is read is finite. -/
theorem Number.IsRead.isFinite_nearest {k : Number} (h : k.IsRead) : k.nearest.isFinite = true := by
  cases k with
  | double x => exact h
  | int n =>
    cases hn : Binary64.ofInt? n with
    | none =>
      simp only [nearest, hn, Option.getD_none]
      exact decide_eq_true (Nat.sub_lt (by decide) Nat.one_pos)
    | some x =>
      simp only [nearest, hn, Option.getD_some]
      exact Binary64.isFinite_of_nearest? hn

/-- The member of a key with a double. -/
def doubleMember (m : String × Binary64) : String × Json := (m.1, .number (.double m.2))

theorem exists_readScalar_double (hx : x.isFinite = true) (hrest : EndsNumber rest) :
    ∃ k, RecordShape.readScalar ((number (.double x)).write ++ rest) = .ok (.number k, rest) := by
  obtain ⟨k, hk⟩ := exists_readNumber_jsonText hx
  obtain ⟨c, more, htext, hc⟩ := exists_cons_of_readNumber hk
  have happend := readNumber_append hk hrest
  have hwrite : (number (.double x)).write = x.jsonText.toList := rfl
  refine ⟨k, ?_⟩
  rw [htext, List.cons_append] at happend
  rw [hwrite, htext, List.cons_append, RecordShape.readScalar, readScalarOr_number hc, happend]
  rfl

namespace RecordShape

variable {α : Type} {shape : RecordShape α} {r : OpenRecord α} {m : String × Binary64}
  {members : List (String × Binary64)}

/-- The record takes a number under each of its keys. -/
def TakesNumbers (shape : RecordShape α) : Prop :=
  ∀ a, ∀ key ∈ shape.keys, ∀ k, ∃ b, shape.set? a key (.number k) = some b

theorem exists_readMemberInto (hshape : shape.TakesNumbers) (hm : m.2.isFinite = true)
    (hkey : m.1 ∈ shape.keys) (hseen : m.1 ∉ r.seen) (hrest : EndsNumber rest) :
    ∃ a, shape.readMemberInto r (memberText (doubleMember m) ++ rest) = .ok (⟨a, m.1 :: r.seen⟩, rest) := by
  obtain ⟨k, hk⟩ := exists_readScalar_double hm hrest
  obtain ⟨a, ha⟩ := hshape r.value m.1 hkey k
  have htext : memberText (doubleMember m) ++ rest =
      writeString m.1 ++ ':' :: ((number (.double m.2)).write ++ rest) := by
    simp [memberText, doubleMember]
  have hput : shape.put? r m.1 (.number k) = some ⟨a, m.1 :: r.seen⟩ := by
    rw [put?, if_neg (by simpa using hseen), ha]
    rfl
  refine ⟨a, ?_⟩
  simp only [readMemberInto, htext, readKey_writeString, readColon_colon, hk, hput, orStop, bind,
    Except.bind, pure, Except.pure]
  rw [if_pos (by simpa using hkey), if_neg (by simpa using hseen)]

theorem exists_readMembersInto (hshape : shape.TakesNumbers)
    (hfinite : ∀ m ∈ members, m.2.isFinite = true) (hkeys : ∀ m ∈ members, m.1 ∈ shape.keys)
    (hseen : ∀ m ∈ members, m.1 ∉ r.seen) (hnodup : (members.map (·.1)).Nodup)
    (hfuel : members.length < fuel.length) :
    ∃ r', shape.readMembersInto fuel r
        (listText memberText objectBracket.close (members.map doubleMember) ++ rest) = .ok (r', rest) ∧
      (∀ k ∈ r.seen, k ∈ r'.seen) ∧ ∀ m ∈ members, m.1 ∈ r'.seen := by
  induction members generalizing r fuel with
  | nil =>
    cases fuel with
    | nil => cases hfuel
    | cons f fuel =>
      refine ⟨r, ?_, fun _ h => h, nofun⟩
      rw [List.map_nil, listText, List.cons_append, readMembersInto, nextItem_close (.inr rfl)]
      rfl
  | cons m members ih =>
    cases fuel with
    | nil => cases hfuel
    | cons f fuel =>
      obtain ⟨hmem, hnodup⟩ := List.nodup_cons.1 hnodup
      obtain ⟨a, hmember⟩ := exists_readMemberInto hshape (hfinite m (by simp)) (hkeys m (by simp))
        (hseen m (by simp))
        (@endsItem_listText _ rest objectBracket memberText (members.map doubleMember)
          (.inr rfl)).endsNumber
      have hunseen : ∀ m' ∈ members, m'.1 ∉ m.1 :: r.seen := by
        intro m' hm' hm
        rcases List.mem_cons.1 hm with heq | hm
        · exact hmem (List.mem_map.2 ⟨m', hm', heq⟩)
        · exact hseen m' (by simp [hm']) hm
      obtain ⟨r', hread, hold, hnew⟩ := @ih fuel ⟨a, m.1 :: r.seen⟩
        (fun m' hm' => hfinite m' (by simp [hm'])) (fun m' hm' => hkeys m' (by simp [hm'])) hunseen
        hnodup (Nat.lt_of_succ_lt_succ hfuel)
      refine ⟨r', ?_, fun k hk => hold k (by simp [hk]), fun m' hm' => ?_⟩
      · rw [List.map_cons, listText, List.cons_append, List.append_assoc, readMembersInto,
          nextItem_comma (.inr rfl) beginsItem_memberText.append]
        simp only [bind, Except.bind, if_true, hmember, hread]
      · rcases List.mem_cons.1 hm' with rfl | hm'
        · exact hold _ (by simp)
        · exact hnew m' hm'

/-- A record is complete when what is required has been seen. -/
theorem finish?_of_required (h : ∀ k ∈ shape.required, k ∈ r.seen) : shape.finish? r = some r.value := by
  rw [finish?, if_pos]
  exact List.all_eq_true.2 fun k hk => List.contains_iff_mem.2 (h k hk)

/-- An object is read member by member, the first of them before the fuel is counted. -/
theorem readObject_memberText {member : String × Json} {text : List Char} {first : OpenRecord α} {a : α}
    (hfirst : shape.readMemberInto shape.start (memberText member ++ text) = .ok (first, text))
    (hmore : shape.readMembersInto text first text = .ok (r, rest)) (hfinish : shape.finish? r = some a) :
    shape.readObject (memberText member ++ text) = .ok (a, rest) := by
  obtain ⟨c, more, hcs, hblank, -, hclose⟩ := @BeginsItem.append text _ (@beginsItem_memberText member)
  have hclose : c ≠ objectBracket.close := hclose
  rw [readObject, hcs, skipBlank_cons hblank]
  rw [hcs] at hfirst
  simp only [hclose, if_false, hfirst, hmore, hfinish, orStop, bind, Except.bind, pure, Except.pure]

theorem parse_object {member : String × Json} {more : List (String × Json)} {a : α}
    (h : shape.readObject (memberText member ++ listText memberText objectBracket.close more) =
      .ok (a, [])) : shape.parse (Json.object (member :: more)).compact = .ok a := by
  have htext : (Json.object (member :: more)).compact.toList =
      '\x7b' :: (memberText member ++ listText memberText objectBracket.close more) := by
    rw [compact, String.toList_ofList, write_object]
    rfl
  rw [parse, Reader.parse, htext, alone, read, skipBlank_cons (by decide)]
  simp only [h, bind, Except.bind]
  rfl

/-- An object with a number under each of its keys is read as a record. -/
theorem exists_parse_numbers (hshape : shape.TakesNumbers)
    (hfinite : ∀ p ∈ m :: members, p.2.isFinite = true)
    (hkeys : ∀ p ∈ m :: members, p.1 ∈ shape.keys) (hnodup : ((m :: members).map (·.1)).Nodup)
    (hrequired : ∀ k ∈ shape.required, ∃ p ∈ m :: members, p.1 = k) :
    ∃ a, shape.parse (Json.object ((m :: members).map doubleMember)).compact = .ok a := by
  obtain ⟨hmem, hnodup⟩ := List.nodup_cons.1 hnodup
  obtain ⟨a, hmember⟩ := @exists_readMemberInto
    (listText memberText objectBracket.close (members.map doubleMember)) _ shape shape.start m hshape
    (hfinite m (by simp)) (hkeys m (by simp)) (by simp [start])
    (List.append_nil (listText _ _ _) ▸ (endsItem_listText (.inr rfl)).endsNumber)
  have hfuel : members.length <
      (listText memberText objectBracket.close (members.map doubleMember)).length := by
    have := @length_lt_listText _ memberText (members.map doubleMember) objectBracket.close
    rwa [List.length_map] at this
  have hunseen : ∀ p ∈ members, p.1 ∉ m.1 :: shape.start.seen := by
    intro p hp heq
    exact hmem (List.mem_map.2 ⟨p, hp, List.mem_singleton.1 heq⟩)
  obtain ⟨r', hread, hfirst, hseen⟩ := @exists_readMembersInto [] _ _ shape
    ⟨a, m.1 :: shape.start.seen⟩ members hshape (fun p hp => hfinite p (by simp [hp]))
    (fun p hp => hkeys p (by simp [hp])) hunseen hnodup hfuel
  rw [List.append_nil] at hread
  have hcomplete : ∀ k ∈ shape.required, k ∈ r'.seen := by
    intro k hk
    obtain ⟨p, hp, rfl⟩ := hrequired k hk
    rcases List.mem_cons.1 hp with rfl | hp
    · exact hfirst _ (by simp)
    · exact hseen p hp
  exact ⟨r'.value, parse_object (readObject_memberText hmember hread (finish?_of_required hcomplete))⟩

end RecordShape

end Json

namespace Location

theorem takesNumbers : shape.TakesNumbers := by
  intro l key hkey k
  have hcases : key = "left" ∨ key = "right" ∨ key = "top" ∨ key = "bottom" := by
    simpa [shape, keys] using hkey
  rcases hcases with rfl | rfl | rfl | rfl
  all_goals exact ⟨_, rfl⟩

/-- All coordinates are numbers, and none is infinite. -/
structure IsFinite (l : Location) : Prop where
  left : l.left.isFinite = true
  right : l.right.isFinite = true
  top : l.top.isFinite = true
  bottom : l.bottom.isFinite = true

/-- The stored text of a location of finite numbers is a location. -/
theorem IsFinite.isLocation {l : Location} (h : l.IsFinite) :
    LocationText.IsLocation (.document l.toJson.compact) := by
  obtain ⟨left, hleft, hl⟩ := Double.isFinite_iff.1 h.left
  obtain ⟨right, hright, hr⟩ := Double.isFinite_iff.1 h.right
  obtain ⟨top, htop, ht⟩ := Double.isFinite_iff.1 h.top
  obtain ⟨bottom, hbottom, hb⟩ := Double.isFinite_iff.1 h.bottom
  have hmembers : l.toJson = .object
      ([("left", left), ("right", right), ("top", top), ("bottom", bottom)].map Json.doubleMember) := by
    simp [toJson, keys, hleft, hright, htop, hbottom, Json.ofDouble, Json.doubleMember, hl, hr, ht, hb]
  rw [hmembers]
  refine Json.RecordShape.exists_parse_numbers takesNumbers ?_ ?_ ?_ ?_
  · simp [hl, hr, ht, hb]
  · simp [shape, keys]
  · simp
  · simp [shape, keys]

/-! ## Locations that are read -/

/-- The location is what a text says. -/
def IsRead (l : Location) : Prop := ∃ text, shape.parse text = .ok l

theorem isFinite_of_double? {v : Json} {x : Double} (hv : v.Nests 0) (h : Metadata.double? v = some x) :
    x.isFinite = true := by
  cases hv with
  | @number _ k hk =>
    obtain rfl := Option.some.inj h
    exact hk.isFinite_nearest
  | _ => cases h

theorem keeps_isFinite : shape.Keeps (Json.Nests 0) IsFinite := by
  refine ⟨⟨rfl, rfl, rfl, rfl⟩, fun l key v l' hv hl hset => ?_⟩
  obtain ⟨x, hx, hset⟩ := Option.bind_eq_some_iff.1 hset
  have hfinite := isFinite_of_double? hv hx
  split at hset
  · obtain rfl := Option.some.inj hset
    exact ⟨hfinite, hl.right, hl.top, hl.bottom⟩
  · obtain rfl := Option.some.inj hset
    exact ⟨hl.left, hfinite, hl.top, hl.bottom⟩
  · obtain rfl := Option.some.inj hset
    exact ⟨hl.left, hl.right, hfinite, hl.bottom⟩
  · obtain rfl := Option.some.inj hset
    exact ⟨hl.left, hl.right, hl.top, hfinite⟩
  · cases hset

theorem IsRead.isFinite {l : Location} (h : l.IsRead) : l.IsFinite := by
  obtain ⟨text, htext⟩ := h
  exact keeps_isFinite.parse htext

end Location

end MediaCatalog

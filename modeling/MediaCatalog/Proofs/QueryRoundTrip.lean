import MediaCatalog.Query.Reader
import MediaCatalog.Proofs.JsonReading
import MediaCatalog.Proofs.QueryDocuments
/-!
# Queries that are read back

A query or a search that was read from a text is read again from the text that it is written as. The
marked member stands first there, so it is read before any other.
-/

namespace MediaCatalog

namespace Json

variable {key expected s : String} {n : Nat} {value : Reader Json} {j : Json}
  {m : String × Json} {members before : List (String × Json)} {cs rest fuel : List Char}
  {f : Char} {member : List (String × Json) → Reader (String × Json)}

/-! ## What is read -/

theorem readRestAfter_eq_ok : readRestAfter member (f :: fuel) before cs = .ok (members, rest) ↔
    (nextItem objectBracket cs = .ok (false, rest) ∧ members = before.reverse) ∨
      ∃ cs₁ m cs₂, nextItem objectBracket cs = .ok (true, cs₁) ∧ member before cs₁ = .ok (m, cs₂) ∧
        readRestAfter member fuel (m :: before) cs₂ = .ok (members, rest) := by
  rw [readRestAfter, bind_eq_ok]
  constructor
  · rintro ⟨⟨more, cs₁⟩, hnext, h⟩
    cases more with
    | false =>
      cases h
      exact .inl ⟨hnext, rfl⟩
    | true =>
      obtain ⟨⟨m, cs₂⟩, hm, h⟩ := bind_eq_ok.1 h
      exact .inr ⟨cs₁, m, cs₂, hnext, hm, h⟩
  · rintro (⟨hnext, rfl⟩ | ⟨cs₁, m, cs₂, hnext, hm, h⟩)
    · exact ⟨_, hnext, rfl⟩
    · exact ⟨_, hnext, bind_eq_ok.2 ⟨_, hm, h⟩⟩

theorem readMembersAfter_eq_ok : readMembersAfter member cs = .ok (members, rest) ↔
    ∃ c more, skipBlank cs = c :: more ∧
      ((c = objectBracket.close ∧ members = [] ∧ rest = more) ∨
        c ≠ objectBracket.close ∧ ∃ m cs₁, member [] (c :: more) = .ok (m, cs₁) ∧
          readRestAfter member cs₁ [m] cs₁ = .ok (members, rest)) := by
  rw [readMembersAfter]
  split
  next heq => simp [heq, stop]
  next c more heq =>
    by_cases hclose : c = objectBracket.close
    · simp [heq, hclose, eq_comm]
    · rw [if_neg hclose, bind_eq_ok]
      constructor
      · rintro ⟨⟨m, cs₁⟩, hm, h⟩
        exact ⟨c, more, heq, .inr ⟨hclose, m, cs₁, hm, h⟩⟩
      · rintro ⟨c', more', heq', h⟩
        cases heq.symm.trans heq'
        rcases h with ⟨hclose', -⟩ | ⟨-, m, cs₁, hm, h⟩
        · exact absurd hclose' hclose
        · exact ⟨_, hm, h⟩

/-- A marked member is read as any member is, if none with its key came before. -/
theorem readMarked_eq_ok : readMarked key value before cs = .ok (m, rest) ↔
    ∃ cs₁ cs₂, readKey cs = .ok (m.1, cs₁) ∧ readColon cs₁ = .ok cs₂ ∧
      if m.1 = key then named key before = .absent ∧ value cs₂ = .ok (m.2, rest)
      else readValue (maxNesting - 1) cs₂ = .ok (m.2, rest) := by
  rw [readMarked, bind_eq_ok]
  constructor
  · rintro ⟨⟨k, cs₁⟩, hkey, h⟩
    dsimp only at h
    split at h
    next hk =>
      split at h
      next habsent =>
        obtain ⟨cs₂, hcolon, h⟩ := bind_eq_ok.1 h
        obtain ⟨⟨v, cs₃⟩, hv, h⟩ := bind_eq_ok.1 h
        cases h
        exact ⟨cs₁, cs₂, hkey, hcolon, by rw [if_pos hk]; exact ⟨habsent, hv⟩⟩
      next => exact absurd h stop_ne_ok
    next hk =>
      obtain ⟨cs₂, hcolon, h⟩ := bind_eq_ok.1 h
      obtain ⟨⟨v, cs₃⟩, hv, h⟩ := bind_eq_ok.1 h
      cases h
      exact ⟨cs₁, cs₂, hkey, hcolon, by rw [if_neg hk]; exact hv⟩
  · rintro ⟨cs₁, cs₂, hkey, hcolon, h⟩
    refine ⟨_, hkey, ?_⟩
    dsimp only
    split at h
    next hk =>
      obtain ⟨habsent, hv⟩ := h
      rw [if_pos hk, habsent]
      exact bind_eq_ok.2 ⟨_, hcolon, bind_eq_ok.2 ⟨_, hv, rfl⟩⟩
    next hk =>
      rw [if_neg hk]
      exact bind_eq_ok.2 ⟨_, hcolon, bind_eq_ok.2 ⟨_, h, rfl⟩⟩

theorem readMarkedObject_eq_ok : readMarkedObject key value cs = .ok (j, rest) ↔
    ∃ ms, readMembersAfter (readMarked key value) cs = .ok (ms, rest) ∧ named key ms ≠ .absent ∧
      j = .object ms := by
  rw [readMarkedObject, bind_eq_ok]
  constructor
  · rintro ⟨⟨ms, cs₁⟩, hms, h⟩
    dsimp only at h
    split at h
    · exact absurd h stop_ne_ok
    next hnamed =>
      cases h
      exact ⟨ms, hms, hnamed, rfl⟩
  · rintro ⟨ms, hms, hnamed, rfl⟩
    refine ⟨_, hms, ?_⟩
    dsimp only
    split
    next habsent => exact absurd habsent hnamed
    next => rfl

theorem mem_of_readRestAfter (h : readRestAfter member fuel before cs = .ok (members, rest))
    (hm : m ∈ members) : m ∈ before ∨ ∃ before cs rest, member before cs = .ok (m, rest) := by
  induction fuel generalizing before cs with
  | nil => exact absurd h stop_ne_ok
  | cons f fuel ih =>
    rcases readRestAfter_eq_ok.1 h with ⟨-, rfl⟩ | ⟨cs₁, m', cs₂, -, hm', h⟩
    · exact .inl (List.mem_reverse.1 hm)
    · rcases ih h with hmem | hread
      · rcases List.mem_cons.1 hmem with rfl | hmem
        · exact .inr ⟨_, _, _, hm'⟩
        · exact .inl hmem
      · exact .inr hread

theorem mem_of_readMembersAfter (h : readMembersAfter member cs = .ok (members, rest))
    (hm : m ∈ members) : ∃ before cs rest, member before cs = .ok (m, rest) := by
  obtain ⟨c, more, -, ⟨-, rfl, -⟩ | ⟨-, m', cs₁, hm', h⟩⟩ := readMembersAfter_eq_ok.1 h
  · cases hm
  · rcases mem_of_readRestAfter h hm with hmem | hread
    · obtain rfl := List.mem_singleton.1 hmem
      exact ⟨_, _, _, hm'⟩
    · exact hread

/-- The values of members nest less deep than the document may. -/
theorem nests_of_readMarked (hvalue : ∀ cs v rest, value cs = .ok (v, rest) → v.Nests (maxNesting - 1))
    (h : readMarked key value before cs = .ok (m, rest)) : m.2.Nests (maxNesting - 1) := by
  obtain ⟨cs₁, cs₂, -, -, h⟩ := readMarked_eq_ok.1 h
  split at h
  · exact hvalue _ _ _ h.2
  · exact nests_of_readValue h

theorem nests_of_readMarkedObject
    (hvalue : ∀ cs v rest, value cs = .ok (v, rest) → v.Nests (maxNesting - 1))
    (h : readMarkedObject key value cs = .ok (j, rest)) : j.Nests maxNesting := by
  obtain ⟨members, hmembers, -, rfl⟩ := readMarkedObject_eq_ok.1 h
  refine .object fun m hm => ?_
  obtain ⟨_, _, _, hread⟩ := mem_of_readMembersAfter hmembers hm
  exact nests_of_readMarked hvalue hread

theorem nests_of_readKind (h : readKind cs = .ok (j, rest)) : j.Nests n := by
  obtain ⟨⟨s, cs₁⟩, -, h⟩ := bind_eq_ok.1 h
  dsimp only at h
  split at h
  · cases h
    exact .string
  · exact absurd h stop_ne_ok

theorem readNodeArray_eq_ok : readNodeArray cs = .ok (j, rest) ↔
    ∃ c more, skipBlank cs = c :: more ∧ c ≠ arrayBracket.close ∧ ∃ tag cs₁ xs,
      readKind (c :: more) = .ok (tag, cs₁) ∧
        readRest (readValue (maxNesting - 1)) arrayBracket cs₁ cs₁ = .ok (xs, rest) ∧
          j = .array (tag :: xs) := by
  rw [readNodeArray]
  split
  next heq => simp [heq, stop]
  next c more heq =>
    by_cases hclose : c = arrayBracket.close
    · simp [heq, hclose, stop]
    · rw [if_neg hclose, bind_eq_ok]
      constructor
      · rintro ⟨⟨tag, cs₁⟩, htag, h⟩
        obtain ⟨⟨xs, cs₂⟩, hxs, h⟩ := bind_eq_ok.1 h
        cases h
        exact ⟨c, more, heq, hclose, tag, cs₁, xs, htag, hxs, rfl⟩
      · rintro ⟨c', more', heq', -, tag, cs₁, xs, htag, hxs, rfl⟩
        cases heq.symm.trans heq'
        exact ⟨_, htag, bind_eq_ok.2 ⟨_, hxs, rfl⟩⟩

theorem nests_of_readNodeArray (h : readNodeArray cs = .ok (j, rest)) : j.Nests maxNesting := by
  obtain ⟨c, more, -, -, kind, cs₁, items, hkind, hitems, rfl⟩ := readNodeArray_eq_ok.1 h
  refine .array fun i hi => ?_
  rcases List.mem_cons.1 hi with rfl | hi
  · exact nests_of_readKind hkind
  · obtain ⟨_, _, hread⟩ := mem_of_readRest hitems i hi
    exact nests_of_readValue hread

theorem readOther_ne_ok {r : Json × List Char} : readOther expected cs ≠ .ok r := by
  intro h
  obtain ⟨_, -, h⟩ := bind_eq_ok.1 h
  exact absurd h stop_ne_ok

theorem described_eq_ok {α : Type} {ofJson? : Json → Option α} {mismatch : Json → Mismatch}
    {r : Except Stop (Json × List Char)} {x : α} : described ofJson? mismatch s r = .ok x ↔
      ∃ j rest, r = .ok (j, rest) ∧ ofJson? j = some x ∧ endOfText rest = .ok () := by
  rw [described, bind_eq_ok]
  constructor
  · rintro ⟨⟨j, rest⟩, hr, h⟩
    dsimp only at h
    split at h
    next y hy =>
      obtain ⟨hend, h⟩ := guard_eq_ok.1 h
      cases h
      exact ⟨j, rest, mapError_eq_ok.1 hr, hy, mapError_eq_ok.1 hend⟩
    next => cases h
  · rintro ⟨j, rest, rfl, hx, hend⟩
    refine ⟨(j, rest), rfl, ?_⟩
    simp only [hx, hend]
    rfl

/-! ## What is written -/

/-- Members that are read back, whatever came before them, are read back one after the other. -/
theorem readRestAfter_listText (hfuel : members.length < fuel.length)
    (h : ∀ m ∈ members, ∀ before, ReadsItem (member before) memberText m) :
    readRestAfter member fuel before (listText memberText objectBracket.close members ++ rest) =
      .ok (before.reverse ++ members, rest) := by
  induction members generalizing before fuel with
  | nil =>
    cases fuel with
    | nil => cases hfuel
    | cons f fuel =>
      rw [listText, List.cons_append, readRestAfter, nextItem_close (.inr rfl), List.append_nil]
      rfl
  | cons m members ih =>
    cases fuel with
    | nil => cases hfuel
    | cons f fuel =>
      obtain ⟨hbegins, hmember⟩ := h m (by simp) before
      have hends : EndsItem (listText memberText objectBracket.close members ++ rest) :=
        endsItem_listText (.inr rfl)
      have hrest := @ih (m :: before) fuel (Nat.lt_of_succ_lt_succ hfuel) fun m' hm =>
        h m' (List.mem_cons_of_mem m hm)
      rw [listText, List.cons_append, List.append_assoc, readRestAfter,
        nextItem_comma (.inr rfl) hbegins.append]
      simp only [bind, Except.bind, if_true, hmember _ hends, hrest, List.reverse_cons,
        List.append_assoc, List.singleton_append]

theorem readMembersAfter_itemsText (hfirst : ReadsItem (member []) memberText m)
    (h : ∀ m ∈ members, ∀ before, ReadsItem (member before) memberText m) :
    readMembersAfter member (itemsText memberText objectBracket.close (m :: members) ++ rest) =
      .ok (m :: members, rest) := by
  obtain ⟨hbegins, hmember⟩ := hfirst
  have hends : EndsItem (listText memberText objectBracket.close members ++ rest) :=
    endsItem_listText (.inr rfl)
  have hfuel : members.length < (listText memberText objectBracket.close members ++ rest).length := by
    have := @length_lt_listText _ memberText members objectBracket.close
    rw [List.length_append]
    omega
  have hrest := @readRestAfter_listText members [m] rest _ member hfuel h
  obtain ⟨c, more, hcs, hc, -, hclose⟩ :=
    @BeginsItem.append (listText memberText objectBracket.close members ++ rest) _ hbegins
  rw [itemsText, List.append_assoc, readMembersAfter, hcs, skipBlank_cons hc]
  have hclose : c ≠ objectBracket.close := hclose
  simp only [hclose, if_false, bind, Except.bind, ← hcs, hmember _ hends, hrest]
  rfl

theorem memberText_append : memberText m ++ rest = writeString m.1 ++ ':' :: (m.2.write ++ rest) := by
  simp [memberText]

/-- The marked member is read by its own reader, where none came before. -/
theorem readsItem_marked (hkey : m.1 = key)
    (h : ∀ rest, EndsItem rest → value (m.2.write ++ rest) = .ok (m.2, rest)) :
    ReadsItem (readMarked key value []) memberText m := by
  refine ⟨beginsItem_memberText, fun rest hrest => ?_⟩
  simp only [readMarked, memberText_append, readKey_writeString, readColon_colon, hkey, named,
    h rest hrest, bind, Except.bind, if_true, pure, Except.pure]
  rw [← hkey]

/-- Every other member is read as any value. -/
theorem readsItem_unmarked (hkey : m.1 ≠ key) (hm : m.2.Nests (maxNesting - 1))
    (hx : ∀ x ∈ m.2.doubles, x.ReadsBack) : ReadsItem (readMarked key value before) memberText m := by
  refine ⟨beginsItem_memberText, fun rest hrest => ?_⟩
  simp only [readMarked, memberText_append, readKey_writeString, readColon_colon, if_neg hkey,
    readValue_write hm hx hrest.endsNumber, bind, Except.bind, pure, Except.pure]

theorem readMarkedObject_itemsText (hkey : m.1 = key)
    (hvalue : ∀ rest, EndsItem rest → value (m.2.write ++ rest) = .ok (m.2, rest))
    (hothers : ∀ m ∈ members, m.1 ≠ key) (hnests : ∀ m ∈ members, m.2.Nests (maxNesting - 1))
    (hx : ∀ m ∈ members, ∀ x ∈ m.2.doubles, x.ReadsBack) :
    readMarkedObject key value (itemsText memberText objectBracket.close (m :: members) ++ rest) =
      .ok (.object (m :: members), rest) := by
  have hread := @readMembersAfter_itemsText m members rest _ (readsItem_marked hkey hvalue)
    fun m hm _ => readsItem_unmarked (hothers m hm) (hnests m hm) (hx m hm)
  have hnamed : named key (m :: members) = .once m.2 := by
    rw [named, if_pos hkey, named_absent hothers]
  simp only [readMarkedObject, hread, hnamed, bind, Except.bind, pure, Except.pure]

theorem readText_writeString : readText expected (writeString s ++ rest) = .ok (s, rest) := by
  rw [writeString_append, readText]
  simp only [readScalarOr, skipBlank_cons (show isBlank '"' = false by decide), readString_writeString,
    Except.map, bind, Except.bind, pure, Except.pure]

theorem readKind_writeString {kind : NodeKind} :
    readKind (writeString kind.name ++ rest) = .ok (.string kind.name, rest) := by
  have hfault : nameFault? NodeKind.names kind.name = none := by cases kind <;> rfl
  simp only [readKind, readText_writeString, hfault, bind, Except.bind, pure, Except.pure]

end Json

variable {text : String} {q : Query} {s : Search}

namespace Query

theorem nests_of_parse (h : parse text = .ok q) : q.Nests Json.maxNesting := by
  obtain ⟨j, rest, hread, hj, -⟩ := Json.described_eq_ok.1 h
  split at hread
  · exact nests_of_ofJson? (Json.nests_of_readNodeArray hread) hj
  · exact nests_of_ofJson?
      (Json.nests_of_readMarkedObject (fun _ _ _ => Json.nests_of_readKind) hread) hj
  · exact absurd hread Json.readOther_ne_ok

/-- The text of a query that nests no deeper than a text may is read as the query. -/
theorem parse_text (h : q.Nests Json.maxNesting) (hx : ∀ x ∈ q.toJson.doubles, x.ReadsBack) :
    parse q.text = .ok q := by
  obtain ⟨others, hmembers, hothers⟩ := @exists_members_eq q
  have hnests : ∀ m ∈ others, m.2.Nests (Json.maxNesting - 1) := by
    intro m hm
    have hobject := h.toJson
    rw [toJson, hmembers] at hobject
    cases hobject with
    | object hnests => exact hnests m (List.mem_cons_of_mem _ hm)
  have hdoubles : ∀ m ∈ others, ∀ x ∈ m.2.doubles, x.ReadsBack := by
    intro m hm x hmx
    refine hx x (Json.mem_memberDoubles ?_ hmx)
    rw [hmembers]
    exact List.mem_cons_of_mem _ hm
  -- The type is written first, so there is nothing before it when it is read.
  have hread := @Json.readMarkedObject_itemsText "type" Json.readKind
    ("type", .string q.kind.name) others [] rfl
    (fun rest _ => Json.readKind_writeString) (fun m hm => (hothers m hm).1) hnests hdoubles
  rw [← hmembers, List.append_nil] at hread
  have htext : Json.skipBlank q.text.toList =
      '\x7b' :: Json.itemsText Json.memberText Json.objectBracket.close q.members := by
    rw [text, Json.compact, String.toList_ofList, toJson, Json.write_object,
      Json.skipBlank_cons (by decide)]
  refine Json.described_eq_ok.2 ⟨q.toJson, [], ?_, ofJson?_toJson h, rfl⟩
  rw [htext]
  exact hread

end Query

namespace Search

theorem nests_of_parse (h : parse text = .ok s) : s.query.Nests Json.maxNesting := by
  obtain ⟨j, rest, hread, hj, -⟩ := Json.described_eq_ok.1 h
  split at hread
  · refine nests_of_ofJson? (Json.nests_of_readMarkedObject (fun _ _ _ h => ?_) hread) hj
    obtain ⟨_, -, h⟩ := map_eq_ok.1 h
    cases h
    exact .string
  · exact absurd hread Json.readOther_ne_ok

/-- The text of a search whose query nests no deeper than a text may is read as the search. -/
theorem parse_text (h : s.query.Nests Json.maxNesting) (hx : ∀ x ∈ s.toJson.doubles, x.ReadsBack) :
    parse s.text = .ok s := by
  have hnests : ∀ m ∈ s.query.members, m.2.Nests (Json.maxNesting - 1) := by
    intro m hm
    have hobject := h.toJson
    cases hobject with
    | object hnests => exact hnests m hm
  have hdoubles : ∀ m ∈ s.query.members, ∀ x ∈ m.2.doubles, x.ReadsBack := fun m hm x hmx =>
    hx x (Json.mem_memberDoubles (List.mem_cons_of_mem _ hm) hmx)
  have htext : Json.skipBlank s.text.toList = '\x7b' :: Json.itemsText Json.memberText
      Json.objectBracket.close (("catalog", .string s.catalog) :: s.query.members) := by
    rw [text, Json.compact, String.toList_ofList, toJson, Json.write_object,
      Json.skipBlank_cons (by decide)]
  refine Json.described_eq_ok.2 ⟨s.toJson, [], ?_, ofJson?_toJson h, rfl⟩
  rw [htext]
  dsimp only
  rw [← List.append_nil (Json.itemsText _ _ _)]
  exact Json.readMarkedObject_itemsText rfl
    (fun rest _ => map_eq_ok.2 ⟨_, Json.readText_writeString, rfl⟩) ne_catalog_of_mem_members hnests
    hdoubles

end Search

/-- A query that was read from a text is read again from the text that it is written as, and is then
written as the same text; so is a search. -/
theorem Query.reads_back :
    (∀ (text : String) (q : Query), Query.parse text = .ok q →
      (∀ x ∈ q.toJson.doubles, x.ReadsBack) →
        Query.parse q.text = .ok q ∧ (Query.parse q.text).map Query.text = .ok q.text) ∧
    ∀ (text : String) (s : Search), Search.parse text = .ok s →
      (∀ x ∈ s.toJson.doubles, x.ReadsBack) →
        Search.parse s.text = .ok s ∧ (Search.parse s.text).map Search.text = .ok s.text := by
  constructor
  · intro text q h hx
    have hread := Query.parse_text (Query.nests_of_parse h) hx
    exact ⟨hread, by rw [hread]; rfl⟩
  · intro text s h hx
    have hread := Search.parse_text (Search.nests_of_parse h) hx
    exact ⟨hread, by rw [hread]; rfl⟩

/-- One half. -/
def Binary64.half : Binary64 := ⟨false, 4602678819172646912, by decide⟩

/-- A query as it may be asked for: a group as an array, and a node in it with a key that is not known and
keys out of order. -/
def Query.asked : String :=
  "[\"compound\",\"||\",true,[\x7b\"value\":\"sea\",\"x\":[],\"operator\":\"contains\"," ++
  "\"field\":\"title\",\"type\":\"field\"\x7d]]"

/-- The same query as it is written. -/
def Query.written : String :=
  "\x7b\"type\":\"compound\",\"join\":\"||\",\"invert\":true,\"queries\":[" ++
  "\x7b\"type\":\"field\",\"field\":\"title\",\"modifier\":null,\"operator\":\"contains\"," ++
  "\"value\":\"sea\",\"invert\":false\x7d]\x7d"

/-- A search as it may be asked for: a node as an array, a key that is not known, keys out of order. -/
def Search.asked : String :=
  "\x7b\"queries\":[[\"field\",\"title\",null,\"=\",\x7b\"b\":[0.5,null],\"a\":1\x7d]],\"x\":1," ++
  "\"join\":\"||\",\"catalog\":\"c\",\"type\":\"compound\"\x7d"

/-- The same search as it is written. -/
def Search.written : String :=
  "\x7b\"catalog\":\"c\",\"type\":\"compound\",\"join\":\"||\",\"invert\":false,\"queries\":[" ++
  "\x7b\"type\":\"field\",\"field\":\"title\",\"modifier\":null,\"operator\":\"=\"," ++
  "\"value\":\x7b\"a\":1,\"b\":[0.5,null]\x7d,\"invert\":false\x7d]\x7d"

theorem Query.asked_reads_back :
    (∃ q, Query.parse Query.asked = .ok q ∧ q.text = Query.written ∧
      Query.parse Query.written = .ok q) ∧
    ∃ s, Search.parse Search.asked = .ok s ∧ s.text = Search.written ∧
      Search.parse Search.written = .ok s := by
  constructor
  · have hasked : (Query.parse Query.asked).toOption.map (fun q => (q.text, q.toJson.doubles)) =
        some (Query.written, []) := by decide +kernel
    cases h : Query.parse Query.asked with
    | error fault =>
      rw [h] at hasked
      cases hasked
    | ok q =>
      rw [h] at hasked
      obtain ⟨htext, hdoubles⟩ := Prod.mk.inj (Option.some.inj hasked)
      refine ⟨q, rfl, htext, ?_⟩
      rw [← htext]
      refine (Query.reads_back.1 Query.asked q h fun x hx => ?_).1
      rw [hdoubles] at hx
      cases hx
  · have hasked : (Search.parse Search.asked).toOption.map (fun s => (s.text, s.toJson.doubles)) =
        some (Search.written, [Binary64.half]) := by decide +kernel
    have hhalf : Binary64.half.ReadsBack := by
      have htext : Binary64.half.jsonText = "0.5" := by decide +kernel
      rw [Binary64.ReadsBack, htext]
      rfl
    cases h : Search.parse Search.asked with
    | error fault =>
      rw [h] at hasked
      cases hasked
    | ok s =>
      rw [h] at hasked
      obtain ⟨htext, hdoubles⟩ := Prod.mk.inj (Option.some.inj hasked)
      refine ⟨s, rfl, htext, ?_⟩
      rw [← htext]
      refine (Query.reads_back.2 Search.asked s h fun x hx => ?_).1
      rw [hdoubles] at hx
      obtain rfl := List.mem_singleton.1 hx
      exact hhalf

end MediaCatalog

import Mathlib.Data.List.DropRight
import MediaCatalog.Proofs.QueryRoundTrip
/-!
# Texts of queries and their documents

The reader of queries looks at the kind of the outermost node before it reads on, and so tells some
faults early. What it accepts is the same as if the whole text had been read as a document first: a
text is read as a query exactly when it is a document that describes the query.
-/

namespace MediaCatalog

namespace Json

variable {n : Nat} {cs rest fuel : List Char} {key s : String} {v j : Json} {m : String × Json}
  {members before : List (String × Json)} {items : List Json} {value : Reader Json}
  {other other' : List Char → Except Stop (Json × List Char)}

/-! ## Scalars -/

theorem skipBlank_skipBlank : skipBlank (skipBlank cs) = skipBlank cs :=
  List.dropWhile_idempotent ..

theorem readScalarOr_skipBlank : readScalarOr other (skipBlank cs) = readScalarOr other cs := by
  rw [readScalarOr, readScalarOr, skipBlank_skipBlank]

/-- What is accepted as a scalar does not depend on how arrays and objects are refused. -/
theorem readScalarOr_congr {r : Json × List Char} (h : ∀ cs, other cs ≠ .ok r)
    (h' : ∀ cs, other' cs ≠ .ok r) : readScalarOr other cs = .ok r ↔ readScalarOr other' cs = .ok r := by
  unfold readScalarOr
  split
  · exact Iff.rfl
  · split
    case h_5 => exact iff_of_false (h _) (h' _)
    case h_6 => exact iff_of_false (h _) (h' _)
    all_goals exact Iff.rfl

theorem readValue_of_scalar (harray : ∀ rest, skipBlank cs ≠ '[' :: rest)
    (hobject : ∀ rest, skipBlank cs ≠ '\x7b' :: rest) :
    readValue (n + 1) cs = readScalarOr (stopIn .deepNesting) cs := by
  rw [readValue]
  dsimp only
  split
  next heq => exact absurd heq (harray _)
  next heq => exact absurd heq (hobject _)
  next => exact readScalarOr_skipBlank

/-- What is read as a string is read by the reader of scalars. -/
theorem readValue_eq_string : readValue n cs = .ok (.string s, rest) ↔
    readScalarOr (stopIn .deepNesting) cs = .ok (.string s, rest) := by
  cases n with
  | zero => exact Iff.rfl
  | succ n =>
    by_cases harray : ∃ more, skipBlank cs = '[' :: more
    · obtain ⟨more, hcs⟩ := harray
      rw [readValue_array hcs, ← readScalarOr_skipBlank, hcs]
      refine iff_of_false (fun h => ?_) stopIn_ne_ok
      obtain ⟨_, -, h⟩ := map_eq_ok.1 h
      cases h
    by_cases hobject : ∃ more, skipBlank cs = '\x7b' :: more
    · obtain ⟨more, hcs⟩ := hobject
      rw [readValue_object hcs, ← readScalarOr_skipBlank, hcs]
      refine iff_of_false (fun h => ?_) stopIn_ne_ok
      obtain ⟨_, -, h⟩ := map_eq_ok.1 h
      cases h
    rw [readValue_of_scalar (not_exists.1 harray) (not_exists.1 hobject)]

theorem readText_eq_ok {expected : String} : readText expected cs = .ok (s, rest) ↔
    readValue n cs = .ok (.string s, rest) := by
  rw [readValue_eq_string, readText, bind_eq_ok]
  constructor
  · rintro ⟨⟨j, more⟩, hj, h⟩
    split at h
    next heq =>
      cases heq
      cases h
      exact (readScalarOr_congr (fun _ => stop_ne_ok) fun _ => stopIn_ne_ok).1 hj
    next => exact absurd h stop_ne_ok
  · intro h
    exact ⟨_, (readScalarOr_congr (fun _ => stop_ne_ok) fun _ => stopIn_ne_ok).2 h, rfl⟩

theorem nameFault?_eq_none : nameFault? NodeKind.names s = none ↔ ∃ kind, NodeKind.ofName? s = some kind := by
  have hnames : NodeKind.names.contains s = true ↔ ∃ kind, NodeKind.ofName? s = some kind := by
    rw [← Option.isSome_iff_exists, NodeKind.ofName?, List.find?_isSome, NodeKind.names]
    simp [eq_comm]
  rw [← hnames, nameFault?]
  split <;> simp_all

/-- The kind of a node is read where a value that names it is. -/
theorem readKind_eq_ok : readKind cs = .ok (v, rest) ↔
    ∃ s kind, v = .string s ∧ NodeKind.ofName? s = some kind ∧ readValue n cs = .ok (.string s, rest) := by
  rw [readKind, bind_eq_ok]
  constructor
  · rintro ⟨⟨s, more⟩, hs, h⟩
    dsimp only at h
    split at h
    next hfault =>
      cases h
      obtain ⟨kind, hkind⟩ := nameFault?_eq_none.1 hfault
      exact ⟨s, kind, rfl, hkind, readText_eq_ok.1 hs⟩
    next => exact absurd h stop_ne_ok
  · rintro ⟨s, kind, rfl, hkind, hs⟩
    refine ⟨(s, rest), readText_eq_ok.2 hs, ?_⟩
    simp only [nameFault?_eq_none.2 ⟨kind, hkind⟩]
    rfl

/-! ## Objects with a marked member -/

section

variable {member : List (String × Json) → Reader (String × Json)} {item : Reader (String × Json)}

theorem readMember_of_readMarked
    (hvalue : ∀ cs v rest, value cs = .ok (v, rest) → readValue (maxNesting - 1) cs = .ok (v, rest))
    (h : readMarked key value before cs = .ok (m, rest)) :
    readMember (readValue (maxNesting - 1)) cs = .ok (m, rest) := by
  obtain ⟨cs₁, cs₂, hkey, hcolon, h⟩ := readMarked_eq_ok.1 h
  refine readMember_eq_ok.2 ⟨cs₁, cs₂, hkey, hcolon, ?_⟩
  split at h
  · exact hvalue _ _ _ h.2
  · exact h

/-- A member is read as a marked one if none with its key came before and its value is read. -/
theorem readMarked_of_readMember
    (hmarked : m.1 = key → named key before = .absent ∧
      ∀ cs rest, readValue (maxNesting - 1) cs = .ok (m.2, rest) → value cs = .ok (m.2, rest))
    (h : readMember (readValue (maxNesting - 1)) cs = .ok (m, rest)) :
    readMarked key value before cs = .ok (m, rest) := by
  obtain ⟨cs₁, cs₂, hkey, hcolon, h⟩ := readMember_eq_ok.1 h
  refine readMarked_eq_ok.2 ⟨cs₁, cs₂, hkey, hcolon, ?_⟩
  split
  next hk => exact ⟨(hmarked hk).1, (hmarked hk).2 _ _ h⟩
  next => exact h

theorem readRest_of_readRestAfter
    (hmember : ∀ before cs m rest, member before cs = .ok (m, rest) → item cs = .ok (m, rest))
    (h : readRestAfter member fuel before cs = .ok (members, rest)) :
    ∃ more, members = before.reverse ++ more ∧ readRest item objectBracket fuel cs = .ok (more, rest) := by
  induction fuel generalizing before cs with
  | nil => exact absurd h stop_ne_ok
  | cons f fuel ih =>
    rcases readRestAfter_eq_ok.1 h with ⟨hnext, rfl⟩ | ⟨cs₁, m, cs₂, hnext, hm, h⟩
    · exact ⟨[], by simp, readRest_eq_ok.2 (.inl ⟨hnext, rfl⟩)⟩
    · obtain ⟨more, rfl, hmore⟩ := ih h
      refine ⟨m :: more, by simp, readRest_eq_ok.2 (.inr ?_)⟩
      exact ⟨cs₁, m, cs₂, more, hnext, hmember _ _ _ _ hm, hmore, rfl⟩

/-- Members that name a key once are read as marked ones. The key is not among the members that came
before the one that has it, since all of them name it once. -/
theorem readRestAfter_of_readRest (hnamed : named key (before.reverse ++ members) = .once v)
    (hvalue : ∀ cs rest, readValue (maxNesting - 1) cs = .ok (v, rest) → value cs = .ok (v, rest))
    (h : readRest (readMember (readValue (maxNesting - 1))) objectBracket fuel cs = .ok (members, rest)) :
    readRestAfter (readMarked key value) fuel before cs = .ok (before.reverse ++ members, rest) := by
  induction fuel generalizing before members cs with
  | nil => exact absurd h stop_ne_ok
  | cons f fuel ih =>
    rcases readRest_eq_ok.1 h with ⟨hnext, rfl⟩ | ⟨cs₁, m, cs₂, ms, hnext, hm, hms, rfl⟩
    · exact readRestAfter_eq_ok.2 (.inl ⟨hnext, List.append_nil _⟩)
    · have hmarked : m.1 = key → named key before = .absent ∧
          ∀ cs rest, readValue (maxNesting - 1) cs = .ok (m.2, rest) → value cs = .ok (m.2, rest) := by
        rintro rfl
        rw [named_perm List.perm_middle, named_cons_eq_once] at hnamed
        obtain ⟨rfl, habsent⟩ := hnamed
        refine ⟨named_eq_absent.2 fun m' hm' => ?_, hvalue⟩
        exact named_eq_absent.1 habsent m' (List.mem_append_left _ (List.mem_reverse.2 hm'))
      have hsplit : before.reverse ++ m :: ms = (m :: before).reverse ++ ms := by simp
      rw [hsplit] at hnamed ⊢
      exact readRestAfter_eq_ok.2
        (.inr ⟨cs₁, m, cs₂, hnext, readMarked_of_readMember hmarked hm, ih hnamed hms⟩)

theorem readItems_of_readMarkedObject
    (hvalue : ∀ cs v rest, value cs = .ok (v, rest) → readValue (maxNesting - 1) cs = .ok (v, rest))
    (h : readMarkedObject key value cs = .ok (j, rest)) :
    ∃ ms, j = .object ms ∧
      readItems (readMember (readValue (maxNesting - 1))) objectBracket cs = .ok (ms, rest) := by
  obtain ⟨ms, hms, -, rfl⟩ := readMarkedObject_eq_ok.1 h
  refine ⟨ms, rfl, readItems_eq_ok.2 ?_⟩
  obtain ⟨c, more, hcs, hms⟩ := readMembersAfter_eq_ok.1 hms
  refine ⟨c, more, hcs, hms.imp_right ?_⟩
  rintro ⟨hclose, m, cs₁, hm, hms⟩
  obtain ⟨others, rfl, hothers⟩ :=
    readRest_of_readRestAfter (fun _ _ _ _ h => readMember_of_readMarked hvalue h) hms
  exact ⟨hclose, m, cs₁, others, readMember_of_readMarked hvalue hm, hothers, rfl⟩

theorem readMarkedObject_of_readItems (hnamed : named key members = .once v)
    (hvalue : ∀ cs rest, readValue (maxNesting - 1) cs = .ok (v, rest) → value cs = .ok (v, rest))
    (h : readItems (readMember (readValue (maxNesting - 1))) objectBracket cs = .ok (members, rest)) :
    readMarkedObject key value cs = .ok (.object members, rest) := by
  refine readMarkedObject_eq_ok.2 ⟨members, readMembersAfter_eq_ok.2 ?_, by simp [hnamed], rfl⟩
  obtain ⟨c, more, hcs, h⟩ := readItems_eq_ok.1 h
  refine ⟨c, more, hcs, h.imp_right ?_⟩
  rintro ⟨hclose, m, cs₁, ms, hm, hms, rfl⟩
  have hmarked : m.1 = key → named key [] = .absent ∧
      ∀ cs rest, readValue (maxNesting - 1) cs = .ok (m.2, rest) → value cs = .ok (m.2, rest) := by
    rintro rfl
    obtain ⟨rfl, -⟩ := named_cons_eq_once.1 hnamed
    exact ⟨rfl, hvalue⟩
  have hrest : readRestAfter (readMarked key value) cs₁ [m] cs₁ = .ok ([m].reverse ++ ms, rest) :=
    readRestAfter_of_readRest hnamed hvalue hms
  exact ⟨hclose, m, cs₁, readMarked_of_readMember hmarked hm, hrest⟩

end

/-! ## Nodes in the form of arrays -/

theorem readItems_of_readNodeArray (h : readNodeArray cs = .ok (j, rest)) :
    ∃ xs, j = .array xs ∧ readItems (readValue (maxNesting - 1)) arrayBracket cs = .ok (xs, rest) := by
  obtain ⟨c, more, hcs, hclose, tag, cs₁, xs, htag, hxs, rfl⟩ := readNodeArray_eq_ok.1 h
  obtain ⟨s, kind, rfl, -, htag⟩ := readKind_eq_ok.1 htag
  refine ⟨.string s :: xs, rfl, readItems_eq_ok.2 ⟨c, more, hcs, .inr ?_⟩⟩
  exact ⟨hclose, .string s, cs₁, xs, htag, hxs, rfl⟩

theorem readNodeArray_of_readItems {kind : NodeKind} (hkind : NodeKind.ofName? s = some kind)
    (h : readItems (readValue (maxNesting - 1)) arrayBracket cs = .ok (.string s :: items, rest)) :
    readNodeArray cs = .ok (.array (.string s :: items), rest) := by
  obtain ⟨c, more, hcs, ⟨-, hnil, -⟩ | ⟨hclose, tag, cs₁, xs, htag, hxs, heq⟩⟩ := readItems_eq_ok.1 h
  · cases hnil
  · cases heq
    refine readNodeArray_eq_ok.2 ⟨c, more, hcs, hclose, .string s, cs₁, items, ?_, hxs, rfl⟩
    exact readKind_eq_ok.2 ⟨s, kind, rfl, hkind, htag⟩

/-! ## Whole texts -/

theorem parse_eq_ok {text : String} : parse text = .ok j ↔
    ∃ rest, readValue maxNesting text.toList = .ok (j, rest) ∧ endOfText rest = .ok () := by
  have hparse : parse text = .ok j ↔ ∃ rest, alone (readValue maxNesting) text.toList = .ok (j, rest) := by
    unfold parse Reader.parse
    split
    next heq => simp [heq]
    next heq => simp [heq]
  rw [hparse]
  constructor
  · rintro ⟨_, h⟩
    obtain ⟨⟨j', rest⟩, hj, h⟩ := bind_eq_ok.1 h
    obtain ⟨hend, h⟩ := guard_eq_ok.1 h
    cases h
    exact ⟨rest, hj, hend⟩
  · rintro ⟨rest, hj, hend⟩
    exact ⟨[], bind_eq_ok.2 ⟨(j, rest), hj, guard_eq_ok.2 ⟨hend, rfl⟩⟩⟩

/-- A document that nests no deeper than a text may is read from its compact text. -/
theorem parse_compact (h : Nests maxNesting j) (hx : ∀ x ∈ j.doubles, x.ReadsBack) :
    parse j.compact = .ok j := by
  refine parse_eq_ok.2 ⟨[], ?_, rfl⟩
  have hread : readValue maxNesting (j.write ++ []) = .ok (j, []) := readValue_write h hx .nil
  rwa [List.append_nil, ← @String.toList_ofList j.write] at hread

end Json

namespace Query

variable {text : String} {j : Json} {q : Query} {cs rest : List Char}

/-- A document that describes a query names its kind. -/
theorem named_of_ofJson? (h : ofJson? j = some q) :
    (∃ ms s kind, j = .object ms ∧ Json.named "type" ms = .once (.string s) ∧
        NodeKind.ofName? s = some kind) ∨
      ∃ s xs kind, j = .array (.string s :: xs) ∧ NodeKind.ofName? s = some kind := by
  unfold ofJson? at h
  split at h
  next ms =>
    split at h
    next s hs =>
      rw [ofNode?_members, hs] at h
      obtain ⟨kind, hkind, -⟩ := Option.bind_eq_some_iff.1 h
      exact .inl ⟨ms, s, kind, rfl, hs, hkind⟩
    · cases h
  next s xs =>
    rw [ofNode?_elements] at h
    obtain ⟨kind, hkind, -⟩ := Option.bind_eq_some_iff.1 h
    exact .inr ⟨s, xs, kind, rfl, hkind⟩
  · cases h

theorem readNodeArray_eq_ok (h : ofJson? j = some q) : Json.readNodeArray cs = .ok (j, rest) ↔
    (Json.readItems (Json.readValue (Json.maxNesting - 1)) Json.arrayBracket cs).map
      (fun (items, rest) => (.array items, rest)) = .ok (j, rest) := by
  constructor
  · intro hread
    obtain ⟨xs, rfl, hxs⟩ := Json.readItems_of_readNodeArray hread
    exact map_eq_ok.2 ⟨_, hxs, rfl⟩
  · intro hread
    obtain ⟨⟨xs, rest⟩, hxs, hj⟩ := map_eq_ok.1 hread
    cases hj
    rcases named_of_ofJson? h with ⟨_, _, _, hj, -⟩ | ⟨s, items, kind, hj, hs⟩
    · cases hj
    · cases hj
      exact Json.readNodeArray_of_readItems hs hxs

theorem readMarkedObject_eq_ok (h : ofJson? j = some q) :
    Json.readMarkedObject "type" Json.readKind cs = .ok (j, rest) ↔
      (Json.readItems (Json.readMember (Json.readValue (Json.maxNesting - 1))) Json.objectBracket cs).map
        (fun (members, rest) => (.object members, rest)) = .ok (j, rest) := by
  constructor
  · intro hread
    have hkind : ∀ cs v rest, Json.readKind cs = .ok (v, rest) →
        Json.readValue (Json.maxNesting - 1) cs = .ok (v, rest) := by
      intro cs v rest hv
      obtain ⟨s, kind, rfl, -, hs⟩ := Json.readKind_eq_ok.1 hv
      exact hs
    obtain ⟨ms, rfl, hms⟩ := Json.readItems_of_readMarkedObject hkind hread
    exact map_eq_ok.2 ⟨_, hms, rfl⟩
  · intro hread
    obtain ⟨⟨ms, rest⟩, hms, hj⟩ := map_eq_ok.1 hread
    cases hj
    rcases named_of_ofJson? h with ⟨_, s, kind, hj, hnamed, hs⟩ | ⟨_, _, _, hj, -⟩
    · cases hj
      refine Json.readMarkedObject_of_readItems hnamed (fun cs rest hv => ?_) hms
      exact Json.readKind_eq_ok.2 ⟨s, kind, rfl, hs, hv⟩
    · cases hj

/-- A document that describes a query is read as one where it is read as a document. -/
theorem read_eq_ok (h : ofJson? j = some q) :
    (match Json.skipBlank cs with
      | '[' :: more => Json.readNodeArray more
      | '\x7b' :: more => Json.readMarkedObject "type" Json.readKind more
      | other => Json.readOther "internally tagged enum Query" other) = .ok (j, rest) ↔
    Json.readValue Json.maxNesting cs = .ok (j, rest) := by
  have hnesting : Json.maxNesting = Json.maxNesting - 1 + 1 := rfl
  split
  next more hcs =>
    rw [hnesting, Json.readValue_array hcs]
    exact readNodeArray_eq_ok h
  next more hcs =>
    rw [hnesting, Json.readValue_object hcs]
    exact readMarkedObject_eq_ok h
  -- Neither an array nor an object is read here, and no other document describes a query.
  next harray hobject =>
    refine iff_of_false Json.readOther_ne_ok fun hread => ?_
    rw [hnesting, Json.readValue_of_scalar harray hobject] at hread
    have hscalar : j.Nests 0 := Json.nests_of_readScalarOr (fun _ _ => Json.stopIn_ne_ok) hread
    rcases named_of_ofJson? h with ⟨ms, _, _, rfl, -⟩ | ⟨_, _, _, rfl, -⟩ <;> cases hscalar

/-- A text is read as a query exactly when it is a document that describes the query. -/
theorem parse_eq_ok : parse text = .ok q ↔ ∃ j, Json.parse text = .ok j ∧ ofJson? j = some q := by
  rw [parse, Json.described_eq_ok]
  simp only [Json.parse_eq_ok]
  constructor
  · rintro ⟨j, rest, hread, hj, hend⟩
    exact ⟨j, ⟨rest, (read_eq_ok hj).1 hread, hend⟩, hj⟩
  · rintro ⟨j, ⟨rest, hread, hend⟩, hj⟩
    exact ⟨j, rest, (read_eq_ok hj).2 hread, hj, hend⟩

end Query

end MediaCatalog

import MediaCatalog.Proofs.JsonTree
/-!
# Documents that are read back

The compact text of a document is read back as the document, whatever follows it, if the document is
one that can be read and its doubles are read back from their texts. All that is read nests no deeper
than the reader allows.
-/

namespace MediaCatalog

/-- Printing a double and reading it gives the double. -/
def Binary64.ReadsBack (x : Binary64) : Prop :=
  Json.readNumber x.jsonText.toList = .ok (.double x, [])

namespace Json

variable {α : Type} {cs rest text : List Char} {c : Char} {b : Bracket} {item : Reader α}
  {w : α → List Char} {x : α} {xs : List α} {fuel : List Char}

/-! ## Lists -/

/-- The text of the items after the first, each after a comma, and what closes the list. -/
def listText (w : α → List Char) (close : Char) : List α → List Char
  | [] => [close]
  | x :: xs => ',' :: (w x ++ listText w close xs)

/-- The text of a list after its opening bracket. -/
def itemsText (w : α → List Char) (close : Char) : List α → List Char
  | [] => [close]
  | x :: xs => w x ++ listText w close xs

/-- A text begins with something that neither is blank nor closes a list. -/
def BeginsItem (text : List Char) : Prop :=
  ∃ c more, text = c :: more ∧ isBlank c = false ∧ c ≠ ']' ∧ c ≠ '\x7d'

/-- A list goes on or ends here. -/
def EndsItem (rest : List Char) : Prop :=
  ∃ c more, rest = c :: more ∧ (c = ',' ∨ c = ']' ∨ c = '\x7d')

/-- The brackets of arrays and of objects. -/
def Bracket.IsKnown (b : Bracket) : Prop := b = arrayBracket ∨ b = objectBracket

theorem EndsItem.endsNumber (h : EndsItem rest) : EndsNumber rest := by
  obtain ⟨c, more, rfl, hc⟩ := h
  rintro d ⟨⟩
  rcases hc with rfl | rfl | rfl <;> decide

theorem endsItem_listText (hb : b.IsKnown) : EndsItem (listText w b.close xs ++ rest) := by
  cases xs with
  | nil =>
    refine ⟨b.close, rest, rfl, ?_⟩
    rcases hb with rfl | rfl
    · exact .inr (.inl rfl)
    · exact .inr (.inr rfl)
  | cons x xs => exact ⟨',', _, rfl, .inl rfl⟩

theorem length_lt_listText {close : Char} : xs.length < (listText w close xs).length := by
  induction xs with
  | nil => exact Nat.one_pos
  | cons x xs ih =>
    simp only [listText, List.length_cons, List.length_append]
    omega

theorem skipBlank_cons (h : isBlank c = false) : skipBlank (c :: cs) = c :: cs := by
  rw [skipBlank, List.dropWhile_cons, if_neg (by simp [h])]

theorem nextItem_close (hb : b.IsKnown) : nextItem b (b.close :: rest) = .ok (false, rest) := by
  rcases hb with rfl | rfl <;> rfl

theorem nextItem_comma (hb : b.IsKnown) (h : BeginsItem text) :
    nextItem b (',' :: text) = .ok (true, text) := by
  obtain ⟨c, more, rfl, hblank, harray, hobject⟩ := h
  have hclose : c ≠ b.close := by rcases hb with rfl | rfl <;> assumption
  have hcomma : ',' ≠ b.close := by rcases hb with rfl | rfl <;> decide
  rw [nextItem, skipBlank_cons (by decide)]
  simp only [hcomma, if_false, if_true, skipBlank_cons hblank, hclose]

theorem BeginsItem.append (h : BeginsItem text) : BeginsItem (text ++ rest) := by
  obtain ⟨c, more, rfl, hc⟩ := h
  exact ⟨c, more ++ rest, rfl, hc⟩

/-- An item is read back from its text wherever a list may go on after it. -/
def ReadsItem (item : Reader α) (w : α → List Char) (x : α) : Prop :=
  BeginsItem (w x) ∧ ∀ rest, EndsItem rest → item (w x ++ rest) = .ok (x, rest)

/-- Items that are read back are read back one after the other. -/
theorem readRest_listText (hb : b.IsKnown) (hfuel : xs.length < fuel.length)
    (h : ∀ x ∈ xs, ReadsItem item w x) :
    readRest item b fuel (listText w b.close xs ++ rest) = .ok (xs, rest) := by
  induction xs generalizing fuel with
  | nil =>
    cases fuel with
    | nil => cases hfuel
    | cons f fuel => rw [listText, List.cons_append, readRest, nextItem_close hb]; rfl
  | cons x xs ih =>
    cases fuel with
    | nil => cases hfuel
    | cons f fuel =>
      obtain ⟨hbegins, hitem⟩ := h x (by simp)
      have hrest := ih (Nat.lt_of_succ_lt_succ hfuel) fun y hy => h y (by simp [hy])
      rw [listText, List.cons_append, List.append_assoc, readRest, nextItem_comma hb hbegins.append]
      simp only [bind, Except.bind, if_true, hitem _ (endsItem_listText hb), hrest, pure, Except.pure]

theorem readItems_itemsText (hb : b.IsKnown) (h : ∀ x ∈ xs, ReadsItem item w x) :
    readItems item b (itemsText w b.close xs ++ rest) = .ok (xs, rest) := by
  have hblank : isBlank b.close = false := by rcases hb with rfl | rfl <;> rfl
  cases xs with
  | nil => rw [itemsText, List.cons_append, readItems, skipBlank_cons hblank]; simp
  | cons x xs =>
    obtain ⟨hbegins, hitem⟩ := h x (by simp)
    have hends : EndsItem (listText w b.close xs ++ rest) := endsItem_listText hb
    -- The text is the fuel, and every item that is left has a comma in it.
    have hfuel : xs.length < (listText w b.close xs ++ rest).length := by
      have := @length_lt_listText _ w xs b.close
      rw [List.length_append]
      omega
    have hrest := @readRest_listText _ rest _ _ _ _ _ hb hfuel fun y hy =>
      h y (List.mem_cons_of_mem x hy)
    obtain ⟨c, more, hcs, hc, harray, hobject⟩ := @BeginsItem.append (listText w b.close xs ++ rest) _ hbegins
    have hclose : c ≠ b.close := by rcases hb with rfl | rfl <;> assumption
    rw [itemsText, List.append_assoc, readItems, hcs, skipBlank_cons hc]
    simp only [hclose, if_false, bind, Except.bind, ← hcs, hitem _ hends, hrest, pure, Except.pure]

/-! ## Scalars -/

variable {n : Nat} {j : Json} {k : Number} {s : String} {f : Char}
  {other : List Char → Except Stop (Json × List Char)}

theorem readString_writeString :
    readString (s.toList.flatMap escape ++ '"' :: rest) = .ok (s, rest) := by
  rw [readString, readChars_flatMap_escape]
  simp [Except.map]

theorem isBlank_of_beginsNumber (h : c = '-' ∨ c.isDigit = true) : isBlank c = false := by
  simp only [isBlank, Bool.or_eq_false_iff, decide_eq_false_iff_not, and_assoc]
  refine ⟨?_, ?_, ?_, ?_⟩ <;>
  · rintro rfl
    exact absurd h (by decide)

/-- A text that begins like a number is read as one. -/
theorem readScalarOr_number (h : c = '-' ∨ c.isDigit = true) :
    readScalarOr other (c :: cs) = (readNumber (c :: cs)).map fun (n, rest) => (.number n, rest) := by
  rw [readScalarOr, skipBlank_cons (isBlank_of_beginsNumber h)]
  dsimp only
  split
  case h_7 => rw [if_pos (by simpa using h)]
  all_goals exact absurd h (by decide)

/-- Outside of brackets a value is a scalar. -/
theorem readValue_scalar (hblank : isBlank c = false) (harray : c ≠ '[') (hobject : c ≠ '\x7b') :
    readValue n (c :: cs) = readScalarOr (stopIn .deepNesting) (c :: cs) := by
  cases n with
  | zero => rfl
  | succ n =>
    rw [readValue]
    dsimp only
    rw [skipBlank_cons hblank]
    split
    next heq => exact absurd (List.cons.inj heq).1 harray
    next heq => exact absurd (List.cons.inj heq).1 hobject
    next => rfl

theorem readValue_number (h : readNumber k.text.toList = .ok (k, [])) (hrest : EndsNumber rest) :
    readValue n (k.text.toList ++ rest) = .ok (.number k, rest) := by
  have happend := readNumber_append h hrest
  obtain ⟨c, more, hcs, hc⟩ := exists_cons_of_readNumber h
  rw [hcs, List.cons_append] at happend ⊢
  have harray : c ≠ '[' := by
    rintro rfl
    exact absurd hc (by decide)
  have hobject : c ≠ '\x7b' := by
    rintro rfl
    exact absurd hc (by decide)
  rw [readValue_scalar (isBlank_of_beginsNumber hc) harray hobject, readScalarOr_number hc, happend]
  rfl

/-! ## Values -/

theorem writeItems_eq {items : List Json} : writeItems items = listText write arrayBracket.close items := by
  induction items with
  | nil => rfl
  | cons j items ih => rw [writeItems, ih]; rfl

/-- The text of a member. -/
def memberText (m : String × Json) : List Char := writeString m.1 ++ ':' :: m.2.write

theorem writeMembers_eq {members : List (String × Json)} :
    writeMembers members = listText memberText objectBracket.close members := by
  induction members with
  | nil => rfl
  | cons m members ih => rw [writeMembers, ih, listText, memberText]; simp

theorem write_array {items : List Json} :
    (array items).write = '[' :: itemsText write arrayBracket.close items := by
  cases items with
  | nil => rfl
  | cons j items => rw [write, writeItems_eq]; rfl

theorem write_object {members : List (String × Json)} :
    (object members).write = '\x7b' :: itemsText memberText objectBracket.close members := by
  cases members with
  | nil => rfl
  | cons m members => rw [write, writeMembers_eq, itemsText, memberText]; simp

/-- The number is read back from its text. -/
theorem readNumber_text (hk : k.IsRead) (hx : ∀ x ∈ (number k).doubles, x.ReadsBack) :
    readNumber k.text.toList = .ok (k, []) := by
  cases k with
  | int i => exact readNumber_int hk
  | double x => exact hx x (by simp [doubles])

/-- A document that can be read begins like an item. -/
theorem Nests.beginsItem (h : Nests n j) (hx : ∀ x ∈ j.doubles, x.ReadsBack) : BeginsItem j.write := by
  cases h with
  | null => exact ⟨'n', _, rfl, by decide⟩
  | @bool _ b => cases b <;> exact ⟨_, _, rfl, by decide⟩
  | number hk =>
    obtain ⟨c, more, hcs, hc⟩ := exists_cons_of_readNumber (readNumber_text hk hx)
    refine ⟨c, more, hcs, isBlank_of_beginsNumber hc, ?_, ?_⟩ <;>
    · rintro rfl
      exact absurd hc (by decide)
  | string => exact ⟨'"', _, rfl, by decide⟩
  | array => exact ⟨'[', _, write_array, by decide⟩
  | object => exact ⟨'\x7b', _, write_object, by decide⟩

theorem writeString_append : writeString s ++ rest = '"' :: (s.toList.flatMap escape ++ '"' :: rest) := by
  simp [writeString]

theorem readKey_writeString : readKey (writeString s ++ rest) = .ok (s, rest) := by
  rw [writeString_append, readKey, skipBlank_cons (by decide)]
  exact readString_writeString

theorem readColon_colon : readColon (':' :: rest) = .ok rest := rfl

/-- A member is read back if its value is. -/
theorem readMember_memberText {m : String × Json} {value : Reader Json}
    (h : value (m.2.write ++ rest) = .ok (m.2, rest)) :
    readMember value (memberText m ++ rest) = .ok (m, rest) := by
  have htext : memberText m ++ rest = writeString m.1 ++ ':' :: (m.2.write ++ rest) := by
    simp [memberText]
  simp only [readMember, htext, readKey_writeString, readColon_colon, h, bind, Except.bind, pure,
    Except.pure]

theorem beginsItem_memberText {m : String × Json} : BeginsItem (memberText m) :=
  ⟨'"', _, rfl, by decide⟩

theorem readValue_string : readValue n (writeString s ++ rest) = .ok (.string s, rest) := by
  rw [writeString_append, readValue_scalar (by decide) (by decide) (by decide), readScalarOr,
    skipBlank_cons (by decide)]
  dsimp only
  rw [readString_writeString]
  rfl

theorem readWord_self {word : List Char} : readWord word (word ++ rest) = .ok rest := by
  induction word with
  | nil => rfl
  | cons c word ih => rw [List.cons_append, readWord, if_pos rfl, ih]

/-- A constant is told by its first letter. -/
theorem readValue_word {word : List Char} (hblank : isBlank c = false) (harray : c ≠ '[')
    (hobject : c ≠ '\x7b')
    (h : ∀ rest, readScalarOr (stopIn .deepNesting) (c :: rest) = (readWord word rest).map (j, ·)) :
    readValue n (c :: (word ++ rest)) = .ok (j, rest) := by
  rw [readValue_scalar hblank harray hobject, h, readWord_self]
  rfl

theorem readValue_array (h : skipBlank cs = '[' :: rest) : readValue (n + 1) cs =
    (readItems (readValue n) arrayBracket rest).map fun (items, rest) => (.array items, rest) := by
  simp only [readValue, h]

theorem readValue_object (h : skipBlank cs = '\x7b' :: rest) : readValue (n + 1) cs =
    (readItems (readMember (readValue n)) objectBracket rest).map fun (members, rest) =>
      (.object members, rest) := by
  simp only [readValue, h]

/-- A document that can be read is read back from its text. -/
theorem readValue_write (h : Nests n j) (hx : ∀ x ∈ j.doubles, x.ReadsBack)
    (hrest : EndsNumber rest) : readValue n (j.write ++ rest) = .ok (j, rest) := by
  induction h generalizing rest with
  | null => exact readValue_word (by decide) (by decide) (by decide) fun _ => rfl
  | @bool _ b =>
    cases b
    · exact readValue_word (by decide) (by decide) (by decide) fun _ => rfl
    · exact readValue_word (by decide) (by decide) (by decide) fun _ => rfl
  | number hk => exact readValue_number (readNumber_text hk hx) hrest
  | string => exact readValue_string
  -- A comma or a bracket follows an item, and neither goes on a number.
  | @array n items hitems ih =>
    have hread : ∀ j ∈ items, ReadsItem (readValue n) write j := by
      intro j hj
      have hdoubles : ∀ x ∈ j.doubles, x.ReadsBack := fun x h => hx x (mem_doublesOf hj h)
      exact ⟨(hitems j hj).beginsItem hdoubles, fun rest h => ih j hj hdoubles h.endsNumber⟩
    rw [write_array, List.cons_append, readValue_array (skipBlank_cons (by decide)),
      readItems_itemsText (.inl rfl) hread]
    rfl
  | @object n members hmembers ih =>
    have hread : ∀ m ∈ members, ReadsItem (readMember (readValue n)) memberText m := by
      intro m hm
      have hdoubles : ∀ x ∈ m.2.doubles, x.ReadsBack := fun x h => hx x (mem_memberDoubles hm h)
      exact ⟨beginsItem_memberText, fun rest h => readMember_memberText (ih m hm hdoubles h.endsNumber)⟩
    rw [write_object, List.cons_append, readValue_object (skipBlank_cons (by decide)),
      readItems_itemsText (.inr rfl) hread]
    rfl

/-! ## What is read -/

theorem stopIn_ne_ok {flaw : Flaw} {r : α} : stopIn flaw cs ≠ .ok r := by
  intro h
  cases h

theorem stop_ne_ok {α : Type} {flaw : Flaw} {r : α} : stop flaw cs ≠ .ok r := by
  intro h
  cases h

/-- A scalar nests nothing. -/
theorem nests_of_readScalarOr (hother : ∀ cs x, other cs ≠ .ok x)
    (h : readScalarOr other cs = .ok (j, rest)) : Nests n j := by
  unfold readScalarOr at h
  split at h
  · cases h
  · split at h
    · obtain ⟨_, -, h⟩ := map_eq_ok.1 h
      cases h
      exact .null
    · obtain ⟨_, -, h⟩ := map_eq_ok.1 h
      cases h
      exact .bool
    · obtain ⟨_, -, h⟩ := map_eq_ok.1 h
      cases h
      exact .bool
    · obtain ⟨_, -, h⟩ := map_eq_ok.1 h
      cases h
      exact .string
    · exact absurd h (hother _ _)
    · exact absurd h (hother _ _)
    · split at h
      · obtain ⟨_, hk, h⟩ := map_eq_ok.1 h
        cases h
        exact .number (isRead_of_readNumber hk)
      · cases h

theorem readRest_eq_ok : readRest item b (f :: fuel) cs = .ok (xs, rest) ↔
    (nextItem b cs = .ok (false, rest) ∧ xs = []) ∨
      ∃ cs₁ x cs₂ ys, nextItem b cs = .ok (true, cs₁) ∧ item cs₁ = .ok (x, cs₂) ∧
        readRest item b fuel cs₂ = .ok (ys, rest) ∧ xs = x :: ys := by
  rw [readRest, bind_eq_ok]
  constructor
  · rintro ⟨⟨more, cs₁⟩, hnext, h⟩
    cases more with
    | false =>
      cases h
      exact .inl ⟨hnext, rfl⟩
    | true =>
      obtain ⟨⟨x, cs₂⟩, hx, h⟩ := bind_eq_ok.1 h
      obtain ⟨⟨ys, cs₃⟩, hys, h⟩ := bind_eq_ok.1 h
      cases h
      exact .inr ⟨cs₁, x, cs₂, ys, hnext, hx, hys, rfl⟩
  · rintro (⟨hnext, rfl⟩ | ⟨cs₁, x, cs₂, ys, hnext, hx, hys, rfl⟩)
    · exact ⟨_, hnext, rfl⟩
    · exact ⟨_, hnext, bind_eq_ok.2 ⟨_, hx, bind_eq_ok.2 ⟨_, hys, rfl⟩⟩⟩

theorem readItems_eq_ok : readItems item b cs = .ok (xs, rest) ↔
    ∃ c more, skipBlank cs = c :: more ∧
      ((c = b.close ∧ xs = [] ∧ rest = more) ∨
        c ≠ b.close ∧ ∃ x cs₁ ys, item (c :: more) = .ok (x, cs₁) ∧
          readRest item b cs₁ cs₁ = .ok (ys, rest) ∧ xs = x :: ys) := by
  rw [readItems]
  split
  next heq => simp [heq, stop]
  next c more heq =>
    by_cases hclose : c = b.close
    · simp [heq, hclose, eq_comm]
    · rw [if_neg hclose, bind_eq_ok]
      constructor
      · rintro ⟨⟨x, cs₁⟩, hx, h⟩
        obtain ⟨⟨ys, cs₂⟩, hys, h⟩ := bind_eq_ok.1 h
        cases h
        exact ⟨c, more, heq, .inr ⟨hclose, x, cs₁, ys, hx, hys, rfl⟩⟩
      · rintro ⟨c', more', heq', h⟩
        cases heq.symm.trans heq'
        rcases h with ⟨hclose', -⟩ | ⟨-, x, cs₁, ys, hx, hys, rfl⟩
        · exact absurd hclose' hclose
        · exact ⟨_, hx, bind_eq_ok.2 ⟨_, hys, rfl⟩⟩

theorem mem_of_readRest (h : readRest item b fuel cs = .ok (xs, rest)) :
    ∀ x ∈ xs, ∃ cs rest, item cs = .ok (x, rest) := by
  induction fuel generalizing cs xs with
  | nil => cases h
  | cons f fuel ih =>
    rcases readRest_eq_ok.1 h with ⟨-, rfl⟩ | ⟨cs₁, y, cs₂, ys, -, hy, hys, rfl⟩
    · exact fun x hx => absurd hx List.not_mem_nil
    · intro x hx
      rcases List.mem_cons.1 hx with rfl | hx
      · exact ⟨_, _, hy⟩
      · exact ih hys x hx

/-- Every item of a list is one that was read. -/
theorem mem_of_readItems (h : readItems item b cs = .ok (xs, rest)) :
    ∀ x ∈ xs, ∃ cs rest, item cs = .ok (x, rest) := by
  obtain ⟨c, more, -, ⟨-, rfl, -⟩ | ⟨-, y, cs₁, ys, hy, hys, rfl⟩⟩ := readItems_eq_ok.1 h
  · exact fun x hx => absurd hx List.not_mem_nil
  · intro x hx
    rcases List.mem_cons.1 hx with rfl | hx
    · exact ⟨_, _, hy⟩
    · exact mem_of_readRest hys x hx

theorem readMember_eq_ok {value : Reader Json} {m : String × Json} :
    readMember value cs = .ok (m, rest) ↔ ∃ cs₁ cs₂, readKey cs = .ok (m.1, cs₁) ∧
      readColon cs₁ = .ok cs₂ ∧ value cs₂ = .ok (m.2, rest) := by
  rw [readMember, bind_eq_ok]
  constructor
  · rintro ⟨⟨key, cs₁⟩, hkey, h⟩
    obtain ⟨cs₂, hcolon, h⟩ := bind_eq_ok.1 h
    obtain ⟨⟨v, cs₃⟩, hv, h⟩ := bind_eq_ok.1 h
    cases h
    exact ⟨cs₁, cs₂, hkey, hcolon, hv⟩
  · rintro ⟨cs₁, cs₂, hkey, hcolon, hv⟩
    exact ⟨_, hkey, bind_eq_ok.2 ⟨_, hcolon, bind_eq_ok.2 ⟨_, hv, rfl⟩⟩⟩

/-- A document nests no deeper than its reader allows. -/
theorem nests_of_readValue (h : readValue n cs = .ok (j, rest)) : Nests n j := by
  induction n generalizing cs j rest with
  | zero => exact nests_of_readScalarOr (fun _ _ => stopIn_ne_ok) h
  | succ n ih =>
    rw [readValue] at h
    dsimp only at h
    split at h
    · obtain ⟨⟨items, _⟩, hitems, h⟩ := map_eq_ok.1 h
      cases h
      refine .array fun i hi => ?_
      obtain ⟨_, _, hread⟩ := mem_of_readItems hitems i hi
      exact ih hread
    · obtain ⟨⟨members, _⟩, hmembers, h⟩ := map_eq_ok.1 h
      cases h
      refine .object fun m hm => ?_
      obtain ⟨_, _, hread⟩ := mem_of_readItems hmembers m hm
      obtain ⟨_, _, -, -, hvalue⟩ := readMember_eq_ok.1 hread
      exact ih hvalue
    · exact nests_of_readScalarOr (fun _ _ => stopIn_ne_ok) h

end Json

end MediaCatalog

import MediaCatalog.Sql.View
import MediaCatalog.Proofs.DoubleText
import MediaCatalog.Proofs.Tree
/-!
# Placeholders

What is written out is read again, character by character. The placeholders that are found are those of
the bound values, numbered in turn after the ones before them, and nothing in the text comes from the
values: statements that differ in data only have one text.
-/

namespace MediaCatalog

open Json (EndsDigits areDigits_toDigits splitDigits_append takeWhile_digits)

namespace Sql

variable {cs rest : List Char} {s t : String} {m n : Nat} {part q : Sql} {values : List Cell}

/-! ## Reading texts -/

/-- A character of a text, or a placeholder with the digits of its number. -/
inductive Token where
  | char (c : Char)
  | placeholder (digits : List Char)
deriving DecidableEq

/-- Reads a text. A question mark begins a placeholder, wherever it stands, and all digits after it are
those of its number. -/
def tokens : List Char → List Token
  | [] => []
  | c :: cs =>
    if c = '?' then .placeholder (cs.takeWhile Char.isDigit) :: tokens (cs.dropWhile Char.isDigit)
    else .char c :: tokens cs
termination_by cs => cs.length
decreasing_by
  · exact Nat.lt_succ_of_le (List.dropWhile_suffix _).length_le
  · exact Nat.lt_succ_self _

namespace Token

def placeholder? : Token → Option String
  | char _ => none
  | placeholder digits => some ("?" ++ String.ofList digits)

/-- The text of a token, after `n` has been added to the number of a placeholder. -/
def shifted (n : Nat) : Token → List Char
  | char c => [c]
  | placeholder digits => (Sql.placeholder (Nat.ofDigitChars 10 digits 0 + n)).toList

end Token

/-- The placeholders in a text. -/
def placeholders (s : String) : List String := (tokens s.toList).filterMap Token.placeholder?

/-- The text with `n` added to the number of each placeholder. -/
def shift (n : Nat) (s : String) : String := String.ofList ((tokens s.toList).flatMap (Token.shifted n))

/-! ### Texts joined -/

theorem tokens_plain_append (h : '?' ∉ cs) : tokens (cs ++ rest) = cs.map .char ++ tokens rest := by
  induction cs with
  | nil => rfl
  | cons c cs ih =>
    rw [List.mem_cons, not_or] at h
    rw [List.cons_append, tokens, if_neg (Ne.symm h.1), ih h.2]
    rfl

/-- A text is read apart from one before it, unless it begins with a digit. -/
theorem tokens_append (h : EndsDigits rest) : tokens (cs ++ rest) = tokens cs ++ tokens rest := by
  fun_induction tokens cs with
  | case1 => rfl
  | case2 cs ih =>
    obtain ⟨htake, hdrop⟩ := @splitDigits_append rest cs h
    rw [List.cons_append, tokens, if_pos rfl, htake, hdrop, ih]
    rfl
  | case3 c cs hc ih =>
    rw [List.cons_append, tokens, if_neg hc, ih]
    rfl

theorem placeholders_plain_append (h : '?' ∉ s.toList) : placeholders (s ++ t) = placeholders t := by
  have hnone : (s.toList.map Token.char).filterMap Token.placeholder? = [] := by
    simp [List.filterMap_map, Function.comp_def, Token.placeholder?]
  rw [placeholders, String.toList_append, tokens_plain_append h, List.filterMap_append, hnone]
  rfl

theorem shift_plain_append (h : '?' ∉ s.toList) : shift n (s ++ t) = s ++ shift n t := by
  have hsame : (s.toList.map Token.char).flatMap (Token.shifted n) = s.toList := by
    simp [List.flatMap_map, Token.shifted]
  rw [shift, String.toList_append, tokens_plain_append h, List.flatMap_append, hsame, String.ofList_append,
    String.ofList_toList]
  rfl

theorem placeholders_plain (h : '?' ∉ s.toList) : placeholders s = [] := by
  rw [← String.append_empty (s := s), placeholders_plain_append h]
  simp [placeholders, tokens]

theorem shift_plain (h : '?' ∉ s.toList) : shift n s = s := by
  have hempty : shift n "" = "" := by simp [shift, tokens]
  rw [← String.append_empty (s := s), shift_plain_append h, hempty]

theorem placeholders_append (h : EndsDigits t.toList) :
    placeholders (s ++ t) = placeholders s ++ placeholders t := by
  rw [placeholders, String.toList_append, tokens_append h, List.filterMap_append]
  rfl

example : placeholders ("a = ?1" ++ " OR b LIKE '?' OR c = ?12") = ["?1", "?", "?12"] := by cbv

theorem shift_append (h : EndsDigits t.toList) : shift n (s ++ t) = shift n s ++ shift n t := by
  rw [shift, String.toList_append, tokens_append h, List.flatMap_append, String.ofList_append]
  rfl

theorem tokens_placeholder : tokens (placeholder m).toList = [.placeholder (Nat.toDigits 10 m)] := by
  have hchars : (placeholder m).toList = '?' :: Nat.toDigits 10 m := by
    simp [placeholder]
  have hends : EndsDigits [] := nofun
  obtain ⟨htake, hdrop⟩ := takeWhile_digits (@areDigits_toDigits m) hends
  rw [List.append_nil] at htake hdrop
  rw [hchars, tokens, if_pos rfl, htake, hdrop, tokens]

theorem placeholders_placeholder : placeholders (placeholder m) = [placeholder m] := by
  rw [placeholders, tokens_placeholder]
  rfl

theorem shift_placeholder : shift n (placeholder m) = placeholder (m + n) := by
  rw [shift, tokens_placeholder, List.flatMap_singleton, Token.shifted, Nat.ofDigitChars_ten_toDigits,
    String.ofList_toList]

/-! ## Statements without marks of their own -/

/-- A text has no question mark, and does not begin with a digit. -/
def isPlain (s : String) : Bool := !s.toList.contains '?' && s.toList.head?.all (!Char.isDigit ·)

theorem isPlain_iff : isPlain s = true ↔ '?' ∉ s.toList ∧ EndsDigits s.toList := by
  simp [isPlain, EndsDigits, Option.all_eq_true]

/-- Of a text that is spelled out the characters are at hand. -/
theorem isPlain_ofList (h : (!cs.contains '?' && cs.head?.all (!Char.isDigit ·)) = true) :
    isPlain (String.ofList cs) = true := by
  rwa [isPlain, String.toList_ofList]

theorem isPlain_append (hs : isPlain s = true) (ht : isPlain t = true) : isPlain (s ++ t) = true := by
  obtain ⟨hs, hs'⟩ := isPlain_iff.1 hs
  obtain ⟨ht, ht'⟩ := isPlain_iff.1 ht
  refine isPlain_iff.2 ⟨?_, ?_⟩
  · rw [String.toList_append]
    exact fun h => (List.mem_append.1 h).elim hs ht
  · intro c hc
    rw [String.toList_append, List.head?_append, Option.or_eq_some_iff] at hc
    exact hc.elim (hs' c) fun h => ht' c h.2

def Piece.isPlain : Piece → Bool
  | .text s => Sql.isPlain s
  | .bind _ => true

/-- All question marks in the text of a statement are those of its bound values. -/
def IsPlain (q : Sql) : Prop := ∀ piece ∈ q, piece.isPlain = true

theorem endsDigits_textFrom (h : q.IsPlain) : EndsDigits (q.textFrom n).toList := by
  induction q with
  | nil => simp [textFrom, EndsDigits]
  | cons piece q ih =>
    obtain ⟨hpiece, hq⟩ := List.forall_mem_cons.1 h
    cases piece with
    | text s =>
      intro c hc
      rw [textFrom, String.toList_append, List.head?_append, Option.or_eq_some_iff] at hc
      exact hc.elim ((isPlain_iff.1 hpiece).2 c) fun hc => ih hq c hc.2
    | bind v =>
      intro c hc
      rw [textFrom, placeholder, String.toList_append, String.toList_append] at hc
      cases hc
      rfl

theorem placeholders_textFrom (h : q.IsPlain) :
    placeholders (q.textFrom n) = (List.range' (n + 1) q.params.length).map placeholder := by
  induction q generalizing n with
  | nil => simp [textFrom, params, placeholders, tokens]
  | cons piece q ih =>
    obtain ⟨hpiece, hq⟩ := List.forall_mem_cons.1 h
    cases piece with
    | text s => rw [textFrom, placeholders_plain_append (isPlain_iff.1 hpiece).1, ih hq, params]
    | bind v =>
      rw [textFrom, placeholders_append (endsDigits_textFrom hq), placeholders_placeholder, ih hq, params]
      rfl

theorem shift_textFrom (h : q.IsPlain) : shift n (q.textFrom m) = q.textFrom (m + n) := by
  induction q generalizing m with
  | nil => simp [textFrom, shift, tokens]
  | cons piece q ih =>
    obtain ⟨hpiece, hq⟩ := List.forall_mem_cons.1 h
    cases piece with
    | text s => rw [textFrom, shift_plain_append (isPlain_iff.1 hpiece).1, ih hq, textFrom]
    | bind v =>
      rw [textFrom, shift_append (endsDigits_textFrom hq), shift_placeholder, ih hq, textFrom]
      rw [Nat.add_right_comm m 1 n]

/-! ## Parts that line up -/

/-- A part of a statement lines up with values: wherever it stands, these are what its placeholders
mean. -/
structure LinesUp (part : Sql) (values : List Cell) : Prop where
  /-- Its text comes after that of a statement that it is added to. -/
  text : ∀ before : Sql, (before ++ part).toText = before.toText ++ part.textFrom before.params.length
  params : ∀ before : Sql, (before ++ part).params = before.params ++ values
  /-- Its placeholders are numbered in turn, after those of `n` values before. -/
  placeholders : ∀ n, placeholders (part.textFrom n) = (List.range' (n + 1) values.length).map placeholder
  /-- In the whole of a statement, each value is the one with the number of its placeholder. -/
  bound : ∀ (before after : Sql) (i : Fin values.length),
    (before ++ part ++ after).params[before.params.length + i]? = some values[i]
  /-- What stands before it changes its numbers alone. -/
  shift : ∀ n, part.textFrom n = shift n part.toText

theorem LinesUp.of_texts (hparams : part.params = values)
    (hplaceholders : ∀ n, Sql.placeholders (part.textFrom n) =
      (List.range' (n + 1) values.length).map placeholder)
    (hshift : ∀ n, part.textFrom n = Sql.shift n part.toText) : part.LinesUp values where
  text before := by rw [toText, textFrom_append, Nat.zero_add, toText]
  params before := by rw [params_append, hparams]
  placeholders := hplaceholders
  bound before after i := by
    rw [params_append, params_append, hparams, List.append_assoc,
      List.getElem?_append_right (Nat.le_add_right _ _), Nat.add_sub_cancel_left,
      List.getElem?_append_left i.isLt, List.getElem?_eq_getElem i.isLt]
    rfl
  shift := hshift

theorem LinesUp.params_eq (h : part.LinesUp values) : part.params = values := h.params []

theorem LinesUp.of_isPlain (h : q.IsPlain) : q.LinesUp q.params :=
  .of_texts rfl (fun _ => placeholders_textFrom h) fun n => by
    rw [toText, shift_textFrom h, Nat.zero_add]

/-! ### Closures -/

theorem textFrom_closure {h : Hierarchy} {d : Direction} {seed : Sql} :
    (closure h d seed).textFrom n = "WITH RECURSIVE closure(id) AS (" ++ (seed.textFrom n ++
      (" UNION " ++ (closureStep h d ++ ") SELECT closure.id FROM closure"))) := by
  simp [closure, textFrom, textFrom_append]

theorem isPlain_closureStep {h : Hierarchy} {d : Direction} : isPlain (closureStep h d) = true := by
  cases h <;> cases d <;> decide +kernel

/-- A closure lines up with what its seed lines up with. -/
theorem LinesUp.closure {h : Hierarchy} {d : Direction} {seed : Sql} (hseed : seed.LinesUp values) :
    (closure h d seed).LinesUp values := by
  have hhead : '?' ∉ "WITH RECURSIVE closure(id) AS (".toList := by decide +kernel
  have hstep := isPlain_append (@isPlain_closureStep h d) (t := ") SELECT closure.id FROM closure")
    (by decide +kernel)
  obtain ⟨htail, hends⟩ := isPlain_iff.1 (isPlain_append (s := " UNION ") (by decide) hstep)
  refine .of_texts ?_ (fun n => ?_) fun n => ?_
  · simp [Sql.closure, Sql.params, params_append, hseed.params_eq]
  · rw [textFrom_closure, placeholders_plain_append hhead, placeholders_append hends, hseed.placeholders,
      placeholders_plain htail, List.append_nil]
  · rw [toText, textFrom_closure, textFrom_closure, shift_plain_append hhead, shift_append hends,
      hseed.shift n, shift_plain htail, toText]

/-! ## Statements without their data -/

/-- A piece without the value that it binds. -/
def Piece.erased : Piece → Piece
  | .text s => .text s
  | .bind _ => .bind .null

theorem textFrom_erased : textFrom n (q.map Piece.erased) = q.textFrom n := by
  induction q generalizing n with
  | nil => rfl
  | cons piece q ih => cases piece <;> simp only [List.map_cons, Piece.erased, textFrom, ih]

theorem textFrom_congr {a b : Sql} (h : a.map Piece.erased = b.map Piece.erased) :
    a.textFrom n = b.textFrom n := by
  rw [← textFrom_erased, h, textFrom_erased]

/-- What is written for data binds their values, and it has the text of what is written for any data
that are alike. -/
structure BindsData {α : Type} (write : α → Sql) (values : α → List Cell) (alike : α → α → Prop) :
    Prop where
  linesUp : ∀ a, (write a).LinesUp (values a)
  text : ∀ a b n, alike a b → (write a).textFrom n = (write b).textFrom n

theorem BindsData.closure {α : Type} {seed : α → Sql} {values : α → List Cell} {alike : α → α → Prop}
    {h : Hierarchy} {d : Direction} (hseed : BindsData seed values alike) :
    BindsData (fun a => Sql.closure h d (seed a)) values alike where
  linesUp a := (hseed.linesUp a).closure
  text a b n halike := by rw [textFrom_closure, textFrom_closure, hseed.text a b n halike]

/-! ### The view -/

theorem isPlain_column {f : MetadataField} : isPlain f.column = true := by
  rcases f with f | f | f | _
  case taken => decide
  all_goals cases f <;> decide

section

-- The texts of the view are spelled out, several hundred characters long.
set_option maxRecDepth 8000

theorem isPlain_currentFile : isPlain currentFile = true := by
  unfold currentFile
  exact isPlain_ofList (by decide +kernel)

theorem isPlain_viewHead : isPlain viewHead = true := by
  unfold viewHead
  exact isPlain_append (by decide) (isPlain_ofList (by decide +kernel))

theorem isPlain_viewColumn {f : MetadataField} : isPlain (viewColumn f) = true := by
  have hitem := isPlain_append (s := "        COALESCE(media_item.") (by decide +kernel) (@isPlain_column f)
  have hfile := isPlain_append (isPlain_append hitem (t := ", current_file.") (by decide))
    (@isPlain_column f)
  exact isPlain_append (isPlain_append (isPlain_append hfile (by decide)) isPlain_column) (by decide)

theorem isPlain_viewTail : isPlain viewTail = true := by
  unfold viewTail
  exact isPlain_append (isPlain_append (isPlain_ofList (by decide +kernel))
    (isPlain_ofList (by decide +kernel))) (isPlain_ofList (by decide +kernel))

end

theorem isPlain_view {catalog : String} : (view catalog).IsPlain := by
  intro piece hpiece
  simp only [view, List.mem_append, List.mem_cons, List.mem_map, List.not_mem_nil, or_false] at hpiece
  rcases hpiece with (rfl | rfl | ⟨f, hf, rfl⟩) | rfl | rfl | rfl
  · exact isPlain_currentFile
  · exact isPlain_viewHead
  · exact isPlain_viewColumn
  · exact isPlain_viewTail
  · rfl
  · exact isPlain_ofList (by decide)

theorem bindsData_view : BindsData view (fun catalog => [.text catalog]) fun _ _ => True where
  linesUp catalog := by
    have hparams : (view catalog).params = [.text catalog] := by
      rfl
    rw [← hparams]
    exact .of_isPlain isPlain_view
  text a b n _ := textFrom_congr rfl

end Sql

/-! ## Predicates -/

namespace Comparison

/-- The value that a comparison binds. -/
def boundValue (c : Comparison) : Cell :=
  match c.operator with
  | .contains | .startsWith | .endsWith => .text (wildcardPattern c.operator c.boundText)
  | .matches => .text c.boundText
  | _ => c.boundCell

/-- What a comparison binds: nothing where it asks for a value to be missing. -/
def literals (c : Comparison) : List Cell := if c.operator = .empty then [] else [c.boundValue]

end Comparison

namespace Predicate

mutual

/-- The values of a predicate from left to right: one for each comparison with a value, and that of the
catalog for each membership, before those of its filter. -/
def literals : Predicate → List Cell
  | .always | .never => []
  | .all ps => allLiterals ps
  | .any ps => allLiterals ps
  | .not p => p.literals
  | .compare c => c.literals
  | .linked scope filter => .text scope.catalog :: filter.literals

def allLiterals : List Predicate → List Cell
  | [] => []
  | p :: ps => p.literals ++ allLiterals ps

end

mutual

/-- A predicate without the operands of its comparisons and the catalogs of its memberships. -/
def shape : Predicate → Predicate
  | .always => .always
  | .never => .never
  | .all ps => .all (shapes ps)
  | .any ps => .any (shapes ps)
  | .not p => .not p.shape
  | .compare c => .compare { c with operand := none }
  | .linked scope filter => .linked { scope with catalog := "" } filter.shape

def shapes : List Predicate → List Predicate
  | [] => []
  | p :: ps => p.shape :: shapes ps

end

variable {p : Predicate} {ps : List Predicate} {c : Comparison} {scope : LinkScope} {separator : String}

/-! ### Values -/

theorem params_comparison : (Sql.comparison c).params = c.literals := by
  unfold Sql.comparison Comparison.literals Comparison.boundValue
  cases ho : c.operator <;> cases c.inverted <;> rfl

theorem params_membership {filter : Sql} :
    (Sql.membership scope filter).params = .text scope.catalog :: filter.params := by
  unfold Sql.membership Sql.linkSeed Sql.closure
  cases Hierarchy.ofRelation? scope.relation <;> cases scope.recursive <;>
    simp [Sql.params, Sql.params_append]

theorem params_lowerRest (h : ∀ p ∈ ps, p.lower.params = p.literals) :
    (lowerRest separator ps).params = allLiterals ps := by
  induction ps with
  | nil => rfl
  | cons p ps ih =>
    obtain ⟨hp, hps⟩ := List.forall_mem_cons.1 h
    rw [lowerRest, Sql.params, Sql.params_append, hp, ih hps, allLiterals]

/-- The values of a predicate are bound from left to right. -/
theorem params_lower : p.lower.params = p.literals := by
  induction p with
  | always => rfl
  | never => rfl
  | all ps ih | any ps ih =>
    cases ps with
    | nil => rfl
    | cons p ps =>
      obtain ⟨hp, hps⟩ := List.forall_mem_cons.1 ih
      rw [lower, Sql.params, Sql.params_append, hp, params_lowerRest hps, literals, allLiterals]
  | not p ih =>
    rw [lower, Sql.params, Sql.params_append, ih, literals, Sql.params, Sql.params, List.append_nil]
  | compare c => exact params_comparison
  | linked scope filter ih => rw [lower, params_membership, ih, literals]

/-! ### Texts -/

theorem isPlain_columnName {column : Column} : Sql.isPlain (Sql.columnName column) = true := by
  cases column with
  | mediaId => decide
  | media f => exact Sql.isPlain_append (by decide) Sql.isPlain_column
  | entity r f => cases r <;> cases f <;> decide

theorem isPlain_datePart {part date : String} (hpart : Sql.isPlain part = true)
    (hdate : Sql.isPlain date = true) : Sql.isPlain (Sql.datePart part date) = true :=
  have hopen := Sql.isPlain_append (s := "CAST(strftime('") (by decide) hpart
  have hdated := Sql.isPlain_append (Sql.isPlain_append hopen (t := "', ") (by decide)) hdate
  Sql.isPlain_append hdated (by decide)

theorem isPlain_columnText {column : Column} {modifier : Option Modifier} :
    Sql.isPlain (Sql.columnText column modifier) = true := by
  have hdate : Sql.isPlain (Sql.dateOf column) = true := by
    unfold Sql.dateOf
    split
    · decide +kernel
    · exact isPlain_columnName
  cases modifier with
  | none => exact isPlain_columnName
  | some modifier =>
    cases modifier with
    | length => exact Sql.isPlain_append (Sql.isPlain_append (by decide) isPlain_columnName) (by decide)
    | year | month => exact isPlain_datePart (by decide) hdate

theorem isPlain_comparison : (Sql.comparison c).IsPlain := by
  have hleft := @isPlain_columnText c.column c.modifier
  have hcompared : ∀ sign, Sql.isPlain sign = true →
      Sql.isPlain (Sql.columnText c.column c.modifier ++ " " ++ sign ++ " ") = true :=
    fun sign hsign => Sql.isPlain_append
      (Sql.isPlain_append (Sql.isPlain_append hleft (by decide)) hsign) (by decide)
  unfold Sql.comparison
  cases c.operator with
  | equal | less | lessOrEqual =>
    refine List.forall_mem_cons.2 ⟨hcompared _ ?_, List.forall_mem_singleton.2 rfl⟩
    cases c.inverted <;> decide
  | _ =>
    cases c.inverted <;> simp +decide [Sql.IsPlain, Sql.Piece.isPlain, Sql.isPlain_append, hleft]

theorem isPlain_closure {h : Hierarchy} {d : Direction} {seed : Sql} (hseed : seed.IsPlain) :
    (Sql.closure h d seed).IsPlain := by
  refine List.forall_mem_cons.2 ⟨by decide +kernel, List.forall_mem_append.2 ⟨hseed, ?_⟩⟩
  simp +decide [Sql.Piece.isPlain, Sql.isPlain_closureStep]

theorem isPlain_membership {filter : Sql} (h : filter.IsPlain) : (Sql.membership scope filter).IsPlain := by
  have hseed : (Sql.linkSeed scope filter).IsPlain := by
    refine List.forall_mem_cons.2 ⟨?_, List.forall_mem_cons.2 ⟨rfl, List.forall_mem_cons.2 ⟨?_, h⟩⟩⟩
    · unfold Sql.Piece.isPlain
      cases scope.relation <;> decide +kernel
    · decide
  refine List.forall_mem_cons.2 ⟨?_, List.forall_mem_append.2 ⟨?_, List.forall_mem_singleton.2 rfl⟩⟩
  · unfold Sql.Piece.isPlain
    cases scope.relation <;> cases scope.negated <;> decide +kernel
  · split
    · split
      · exact isPlain_closure hseed
      · exact hseed
    · exact hseed

theorem isPlain_lowerRest (hseparator : Sql.isPlain separator = true) (h : ∀ p ∈ ps, p.lower.IsPlain) :
    (lowerRest separator ps).IsPlain := by
  induction ps with
  | nil => exact List.forall_mem_singleton.2 rfl
  | cons p ps ih =>
    obtain ⟨hp, hps⟩ := List.forall_mem_cons.1 h
    exact List.forall_mem_cons.2 ⟨hseparator, List.forall_mem_append.2 ⟨hp, ih hps⟩⟩

theorem isPlain_lower : p.lower.IsPlain := by
  induction p with
  | always => exact List.forall_mem_singleton.2 (by decide)
  | never => exact List.forall_mem_singleton.2 (by decide)
  | all ps ih =>
    cases ps with
    | nil => exact List.forall_mem_singleton.2 (by decide)
    | cons p ps =>
      obtain ⟨hp, hps⟩ := List.forall_mem_cons.1 ih
      have hrest := isPlain_lowerRest (show Sql.isPlain " AND " = true by decide) hps
      exact List.forall_mem_cons.2 ⟨by decide, List.forall_mem_append.2 ⟨hp, hrest⟩⟩
  | any ps ih =>
    cases ps with
    | nil => exact List.forall_mem_singleton.2 (by decide)
    | cons p ps =>
      obtain ⟨hp, hps⟩ := List.forall_mem_cons.1 ih
      have hrest := isPlain_lowerRest (show Sql.isPlain " OR " = true by decide) hps
      exact List.forall_mem_cons.2 ⟨by decide, List.forall_mem_append.2 ⟨hp, hrest⟩⟩
  | not p ih =>
    have hclosing : Sql.IsPlain [.text ")"] := List.forall_mem_singleton.2 (by decide)
    exact List.forall_mem_cons.2 ⟨by decide, List.forall_mem_append.2 ⟨ih, hclosing⟩⟩
  | compare c => exact isPlain_comparison
  | linked scope filter ih => exact isPlain_membership ih

/-! ### Shapes -/

theorem erased_comparison : (Sql.comparison { c with operand := none }).map Sql.Piece.erased =
    (Sql.comparison c).map Sql.Piece.erased := by
  unfold Sql.comparison
  cases c.operator <;> cases c.inverted <;> simp [Sql.Piece.erased]

theorem erased_membership {catalog : String} {filter filter' : Sql}
    (h : filter.map Sql.Piece.erased = filter'.map Sql.Piece.erased) :
    (Sql.membership { scope with catalog } filter).map Sql.Piece.erased =
      (Sql.membership scope filter').map Sql.Piece.erased := by
  unfold Sql.membership Sql.linkSeed Sql.closure
  cases Hierarchy.ofRelation? scope.relation <;> cases scope.recursive <;>
    simp [Sql.Piece.erased, h]

theorem erased_lowerRest
    (h : ∀ p ∈ ps, p.shape.lower.map Sql.Piece.erased = p.lower.map Sql.Piece.erased) :
    (lowerRest separator (shapes ps)).map Sql.Piece.erased =
      (lowerRest separator ps).map Sql.Piece.erased := by
  induction ps with
  | nil => rfl
  | cons p ps ih =>
    obtain ⟨hp, hps⟩ := List.forall_mem_cons.1 h
    simp only [shapes, lowerRest, List.map_cons, List.map_append, hp, ih hps]

/-- Of a predicate nothing but its shape is in the text that it is written as. -/
theorem erased_lower : p.shape.lower.map Sql.Piece.erased = p.lower.map Sql.Piece.erased := by
  induction p with
  | always => rfl
  | never => rfl
  | all ps ih | any ps ih =>
    cases ps with
    | nil => rfl
    | cons p ps =>
      obtain ⟨hp, hps⟩ := List.forall_mem_cons.1 ih
      simp only [shape, shapes, lower, List.map_cons, List.map_append, hp, erased_lowerRest hps]
  | not p ih => simp only [shape, lower, List.map_cons, List.map_append, ih]
  | compare c => exact erased_comparison
  | linked scope filter ih => exact erased_membership ih

theorem bindsData_lower : Sql.BindsData lower literals fun p p' => p.shape = p'.shape where
  linesUp p := by
    rw [← params_lower]
    exact .of_isPlain isPlain_lower
  text p p' n h := Sql.textFrom_congr (by rw [← erased_lower, h, erased_lower])

end Predicate

/-! ## All that is written -/

namespace Sql

/-- Predicates, the view of a catalog and the closures of seeds that do so too bind all their data. -/
theorem binds_data :
    BindsData Predicate.lower Predicate.literals (fun p p' => p.shape = p'.shape) ∧
    BindsData view (fun catalog => [.text catalog]) (fun _ _ => True) ∧
    ∀ {α : Type} {seed : α → Sql} {values : α → List Cell} {alike : α → α → Prop} (h : Hierarchy)
      (d : Direction), BindsData seed values alike →
        BindsData (fun a => closure h d (seed a)) values alike :=
  ⟨Predicate.bindsData_lower, bindsData_view, fun _ _ hseed => hseed.closure⟩

/-- A text that looks like a part of a statement is bound like any other value. -/
theorem binds_data_hostile :
    let titled (o : Operand) : Predicate := .compare ⟨.media (.text .title), none, .contains, some o, false⟩
    let below (id : String) : Sql := closure .album .descendants
      [.text "SELECT album.id FROM album WHERE album.id = ", .bind (.text id)]
    (titled (.text "' OR ?9 = '")).lower.textFrom 4 = (titled (.integer 1)).lower.textFrom 4 ∧
      (below "' OR ?9 = '").textFrom 4 = (below "summer").textFrom 4 ∧
      placeholders ((below "' OR ?9 = '").textFrom 4) = ["?5"] := by
  intro titled below
  have hseed : BindsData
      (fun id => [.text "SELECT album.id FROM album WHERE album.id = ", .bind (.text id)])
      (fun id => [.text id]) fun _ _ => True :=
    { linesUp := fun id => .of_isPlain (q := [.text _, .bind (.text id)])
        (List.forall_mem_cons.2 ⟨isPlain_ofList (by decide), List.forall_mem_singleton.2 rfl⟩)
      text := fun _ _ _ _ => rfl }
  have hbelow := binds_data.2.2 .album .descendants hseed
  exact ⟨binds_data.1.text _ _ 4 rfl, hbelow.text _ _ 4 trivial, (hbelow.linesUp _).placeholders 4⟩

end Sql

end MediaCatalog

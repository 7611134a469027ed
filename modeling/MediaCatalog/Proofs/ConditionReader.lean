import MediaCatalog.Proofs.Placeholders
/-!
# Reading the conditions of statements

A reader of boolean expressions that knows of parentheses and of what binds tighter than what, and of
nothing else: comparisons first, then `NOT`, then `AND`, then `OR`. It goes over a text once. What is in
parentheses is read where they close, as a selection, a condition or the arguments of a function.
-/

namespace MediaCatalog.Sql

/-! ## What is read -/

inductive Sign where
  | equal
  | less
  | lessOrEqual
  | greater
  | greaterOrEqual
deriving DecidableEq

/-- What is compared. -/
inductive Scalar where
  | column (name : String)
  | quoted (s : String)
  | value (v : Cell)
  /-- An argument with the type that it is turned into. -/
  | typed (x : Scalar) (type : String)
  | call (function : String) (arguments : List Scalar)

structure Table where
  name : String
  renamed : Option String

mutual

/-- A condition. What takes `NOT` inside of a comparison keeps it there. -/
inductive Expression where
  | truth (b : Bool)
  | and (parts : List Expression)
  | or (parts : List Expression)
  | not (e : Expression)
  | isNull (negated : Bool) (x : Scalar)
  | isDistinct (negated : Bool) (x y : Scalar)
  | compare (sign : Sign) (x y : Scalar)
  | like (negated : Bool) (x pattern : Scalar) (escape : String)
  | regexp (negated : Bool) (x pattern : Scalar)
  | isIn (negated : Bool) (x : Scalar) (q : Selection)

/-- The rows of a single column. -/
inductive Selection where
  | select (column : String) (table : Table) (joined : Option (Table × Expression))
      (condition : Option Expression)
  | union (parts : List Selection)
  | recursive (name column : String) (body rest : Selection)

end

/-! ## Lexemes -/

inductive Keyword where
  | TRUE | FALSE | NULL | AND | OR | NOT | IS | DISTINCT | LIKE | ESCAPE | REGEXP | IN
  | SELECT | FROM | WHERE | AS | JOIN | ON | UNION | WITH | RECURSIVE
deriving DecidableEq

namespace Keyword

def all : List Keyword :=
  [TRUE, FALSE, NULL, AND, OR, NOT, IS, DISTINCT, LIKE, ESCAPE, REGEXP, IN,
    SELECT, FROM, WHERE, AS, JOIN, ON, UNION, WITH, RECURSIVE]

def text : Keyword → String
  | TRUE => "TRUE"
  | FALSE => "FALSE"
  | NULL => "NULL"
  | AND => "AND"
  | OR => "OR"
  | NOT => "NOT"
  | IS => "IS"
  | DISTINCT => "DISTINCT"
  | LIKE => "LIKE"
  | ESCAPE => "ESCAPE"
  | REGEXP => "REGEXP"
  | IN => "IN"
  | SELECT => "SELECT"
  | FROM => "FROM"
  | WHERE => "WHERE"
  | AS => "AS"
  | JOIN => "JOIN"
  | ON => "ON"
  | UNION => "UNION"
  | WITH => "WITH"
  | RECURSIVE => "RECURSIVE"

def ofText? (s : String) : Option Keyword := all.find? (·.text = s)

end Keyword

inductive Lexeme where
  | opening
  | closing
  | comma
  | keyword (k : Keyword)
  | name (s : String)
  | sign (s : Sign)
  | quoted (s : String)
  | placeholder (digits : List Char)
  | value (v : Cell)
  | unknown
deriving DecidableEq

namespace Lexeme

/-- A word is a placeholder, a keyword, or else a name. -/
def ofWord : List Char → Lexeme
  | '?' :: digits => if digits.all Char.isDigit then .placeholder digits else .unknown
  | cs => ((Keyword.ofText? (String.ofList cs)).map .keyword).getD (.name (String.ofList cs))

def ofSign : List Char → Lexeme
  | ['='] => .sign .equal
  | ['<'] => .sign .less
  | ['<', '='] => .sign .lessOrEqual
  | ['>'] => .sign .greater
  | ['>', '='] => .sign .greaterOrEqual
  | _ => .unknown

/-- The value that a placeholder stands for. -/
def bound (values : List Cell) : Lexeme → Lexeme
  | .placeholder digits =>
    match Nat.ofDigitChars 10 digits 0 with
    | 0 => .unknown
    | n + 1 => (values[n]?.map .value).getD .unknown
  | l => l

end Lexeme

def isWordChar (c : Char) : Bool := c.isAlphanum || c = '_' || c = '.'

def isSignChar (c : Char) : Bool := c = '<' || c = '=' || c = '>'

/-- What has been read of a lexeme that may go on. -/
inductive Pending where
  | nothing
  | word (cs : List Char)
  | sign (cs : List Char)
  | inside (cs : List Char)
  /-- A quoted text after its last mark, unless that turns out to be the first of two. -/
  | closed (cs : List Char)
deriving DecidableEq

namespace Pending

/-- A character belongs to what is pending. -/
def takes : Pending → Char → Bool
  | nothing, _ => false
  | word _, c => isWordChar c
  | sign _, c => isSignChar c
  | inside _, _ => true
  | closed _, c => c = '\''

/-- With one more character that belongs to it. -/
def grown : Pending → Char → Pending
  | nothing, _ => nothing
  | word cs, c => word (cs ++ [c])
  | sign cs, c => sign (cs ++ [c])
  | inside cs, c => if c = '\'' then closed cs else inside (cs ++ [c])
  | closed cs, _ => inside (cs ++ ['\''])

def ended : Pending → List Lexeme
  | nothing => []
  | word cs => [.ofWord cs]
  | sign cs => [.ofSign cs]
  | inside _ => [.unknown]
  | closed cs => [.quoted (String.ofList cs)]

/-- A character after the end of a lexeme, with the lexeme that it is by itself. -/
def begun (c : Char) : List Lexeme × Pending :=
  if isWordChar c || c = '?' then ([], word [c])
  else if isSignChar c then ([], sign [c])
  else if c = '\'' then ([], inside [])
  else if c = ' ' then ([], nothing)
  else if c = '(' then ([.opening], nothing)
  else if c = ')' then ([.closing], nothing)
  else if c = ',' then ([.comma], nothing)
  else ([.unknown], nothing)

/-- What is pending after one more character. -/
def next (p : Pending) (c : Char) : Pending := if p.takes c then p.grown c else (begun c).2

end Pending

/-- The lexemes of characters after what is pending. -/
def lexFrom (p : Pending) : List Char → List Lexeme
  | [] => p.ended
  | c :: cs =>
    if p.takes c then lexFrom (p.grown c) cs
    else p.ended ++ (Pending.begun c).1 ++ lexFrom (Pending.begun c).2 cs

/-- The lexemes of a text. -/
def lexemes (s : String) : List Lexeme := lexFrom .nothing s.toList

/-- What is pending at the end of a text. -/
def pending (s : String) : Pending := s.toList.foldl Pending.next .nothing

/-! ## Conditions -/

/-- A lexeme, or all of what is in parentheses. -/
inductive Part where
  | keyword (k : Keyword)
  | sign (s : Sign)
  | comma
  | scalar (x : Scalar)
  | expression (e : Expression)
  | selection (q : Selection)

namespace Part

def isKeyword (k : Keyword) : Part → Bool
  | keyword k' => k = k'
  | _ => false

def isComma : Part → Bool
  | comma => true
  | _ => false

end Part

/-- A single one for itself, any others joined. -/
def joined {α : Type} (join : List α → α) : List α → α
  | [a] => a
  | as => join as

/-- A comparison, a constant, or a condition in parentheses. -/
def readAtom : List Part → Option Expression
  | [.keyword .TRUE] => some (.truth true)
  | [.keyword .FALSE] => some (.truth false)
  | [.expression e] => some e
  | [.scalar x, .sign s, .scalar y] => some (.compare s x y)
  | .scalar x :: .keyword .IS :: rest =>
    match rest with
    | [.keyword .NULL] => some (.isNull false x)
    | [.keyword .NOT, .keyword .NULL] => some (.isNull true x)
    | [.keyword .DISTINCT, .keyword .FROM, .scalar y] => some (.isDistinct false x y)
    | [.keyword .NOT, .keyword .DISTINCT, .keyword .FROM, .scalar y] => some (.isDistinct true x y)
    | _ => none
  | .scalar x :: .keyword .NOT :: rest => readTest true x rest
  | .scalar x :: rest => readTest false x rest
  | _ => none
where
  /-- A test after what is tested and the `NOT` that may follow it. -/
  readTest (negated : Bool) (x : Scalar) : List Part → Option Expression
    | [.keyword .LIKE, .scalar y, .keyword .ESCAPE, .scalar (.quoted e)] => some (.like negated x y e)
    | [.keyword .REGEXP, .scalar y] => some (.regexp negated x y)
    | [.keyword .IN, .selection q] => some (.isIn negated x q)
    | _ => none

def readNegation : List Part → Option Expression
  | .keyword .NOT :: parts => (readNegation parts).map .not
  | parts => readAtom parts

def readConjunction (parts : List Part) : Option Expression :=
  ((parts.splitOnP (·.isKeyword .AND)).mapM readNegation).map (joined .and)

def readExpression (parts : List Part) : Option Expression :=
  ((parts.splitOnP (·.isKeyword .OR)).mapM readConjunction).map (joined .or)

/-! ## Selections -/

/-- What stands before a keyword and, if there is one, what stands after it. -/
def cut (k : Keyword) (parts : List Part) : List Part × Option (List Part) :=
  (parts.takeWhile (!·.isKeyword k), (parts.dropWhile (!·.isKeyword k)).tail?)

def readTable : List Part → Option Table
  | [.scalar (.column name)] => some ⟨name, none⟩
  | [.scalar (.column name), .keyword .AS, .scalar (.column other)] => some ⟨name, some other⟩
  | _ => none

def readJoined (parts : List Part) : Option (Table × Expression) := do
  let (table, condition) := cut .ON parts
  return (← readTable table, ← readExpression (← condition))

def readSelect : List Part → Option Selection
  | .keyword .SELECT :: .scalar (.column column) :: .keyword .FROM :: rest => do
    let (tables, condition) := cut .WHERE rest
    let (table, other) := cut .JOIN tables
    let table ← readTable table
    return .select column table (← other.mapM readJoined) (← condition.mapM readExpression)
  | _ => none

def readUnion (parts : List Part) : Option Selection :=
  ((parts.splitOnP (·.isKeyword .UNION)).mapM readSelect).map (joined .union)

def readSelection : List Part → Option Selection
  | .keyword .WITH :: .keyword .RECURSIVE :: .scalar (.call name [.column column]) :: .keyword .AS ::
      .selection body :: rest =>
    (readUnion rest).map (.recursive name column body)
  | parts => readUnion parts

/-! ## Parentheses -/

def readArgument : List Part → Option Scalar
  | [.scalar x] => some x
  | [.scalar x, .keyword .AS, .scalar (.column type)] => some (.typed x type)
  | _ => none

def readArguments (parts : List Part) : Option (List Scalar) :=
  (parts.splitOnP (·.isComma)).mapM readArgument

/-- Whether a selection begins here. -/
def beginsSelection : List Part → Bool
  | .keyword .SELECT :: _ | .keyword .WITH :: _ => true
  | _ => false

/-- The parts before parentheses, last ones first, together with what is in the parentheses. -/
def enclose (before inner : List Part) : Option (List Part) :=
  if beginsSelection inner then (readSelection inner).map fun q => .selection q :: before
  else
    match readExpression inner, before with
    | some e, before => some (.expression e :: before)
    | none, .scalar (.column f) :: before =>
      (readArguments inner).map fun xs => .scalar (.call f xs) :: before
    | none, _ => none

def Lexeme.part? : Lexeme → Option Part
  | .keyword k => some (.keyword k)
  | .sign s => some (.sign s)
  | .comma => some .comma
  | .name s => some (.scalar (.column s))
  | .quoted s => some (.scalar (.quoted s))
  | .value v => some (.scalar (.value v))
  | .opening | .closing | .placeholder _ | .unknown => none

/-- Reads lexemes after parts that have been read, last ones first, inside of parentheses that are still
open. -/
def readFrom (outer : List (List Part)) (frame : List Part) : List Lexeme → Option (List Part)
  | [] => if outer.isEmpty then some frame.reverse else none
  | .opening :: rest => readFrom (frame :: outer) [] rest
  | .closing :: rest =>
    match outer with
    | [] => none
    | before :: outer => do readFrom outer (← enclose before frame.reverse) rest
  | l :: rest => do readFrom outer ((← l.part?) :: frame) rest

/-- The condition that a text is, with values for its placeholders. -/
def Expression.ofText? (values : List Cell) (text : String) : Option Expression := do
  readExpression (← readFrom [] [] ((lexemes text).map (.bound values)))

example : Expression.ofText? [.integer 4] "NOT a = b AND c < ?1 OR d IS NULL" =
    some (.or [.and [.not (.compare .equal (.column "a") (.column "b")),
      .compare .less (.column "c") (.value (.integer 4))], .isNull false (.column "d")]) := by
  rfl

variable {p : Pending} {c : Char} {cs rest : List Char} {s t : String} {n : Nat} {q : Sql}
  {values before after : List Cell}

/-! ## Lexemes of joined texts -/

/-- What follows does not belong to what is pending. -/
def Pending.IsApart (p : Pending) (following : Option Char) : Prop := ∀ c ∈ following, p.takes c = false

theorem foldl_next_append (h : (cs.foldl Pending.next p).IsApart rest.head?) (hrest : rest ≠ []) :
    (cs ++ rest).foldl Pending.next p = rest.foldl Pending.next .nothing := by
  cases rest with
  | nil => exact absurd rfl hrest
  | cons c rest =>
    have htakes := h c rfl
    rw [List.foldl_append, List.foldl_cons, List.foldl_cons, Pending.next, htakes]
    rfl

theorem lexFrom_append (h : (cs.foldl Pending.next p).IsApart rest.head?) :
    lexFrom p (cs ++ rest) = lexFrom p cs ++ lexFrom .nothing rest := by
  induction cs generalizing p with
  | nil =>
    cases rest with
    | nil => rw [List.nil_append, lexFrom, lexFrom, Pending.ended, List.append_nil]
    | cons c rest =>
      have htakes : ¬p.takes c = true := Bool.eq_false_iff.1 (h c rfl)
      rw [List.nil_append, lexFrom, lexFrom, if_neg htakes, List.append_assoc]
      rfl
  | cons c cs ih =>
    rw [List.foldl_cons, Pending.next] at h
    rw [List.cons_append, lexFrom, lexFrom]
    split
    next htakes => exact ih (by rwa [if_pos htakes] at h)
    next htakes =>
      rw [if_neg htakes] at h
      rw [ih h, ← List.append_assoc]

theorem lexemes_append (h : (pending s).IsApart t.toList.head?) :
    lexemes (s ++ t) = lexemes s ++ lexemes t := by
  rw [lexemes, String.toList_append]
  exact lexFrom_append h

theorem pending_append (h : (pending s).IsApart t.toList.head?) (ht : t.toList ≠ []) :
    pending (s ++ t) = pending t := by
  rw [pending, String.toList_append]
  exact foldl_next_append h ht

/-! ### Texts that end a lexeme -/

def isBreak (c : Char) : Bool := c = ' ' || c = ')'

def Pending.isInside : Pending → Bool
  | inside _ => true
  | _ => false

/-- Outside of quotes a blank or a parenthesis belongs to no lexeme before it. -/
theorem Pending.takes_break (hp : p.isInside = false) (hc : isBreak c = true) : p.takes c = false := by
  have hcases : c = ' ' ∨ c = ')' := by simpa [isBreak] using hc
  cases p with
  | inside cs => cases hp
  | _ => rcases hcases with rfl | rfl <;> rfl

theorem lexemes_append_break (hs : (pending s).isInside = false) (ht : t.toList.head?.any isBreak = true) :
    lexemes (s ++ t) = lexemes s ++ lexemes t ∧ pending (s ++ t) = pending t := by
  obtain ⟨c, hc, hbreak⟩ := (Option.any_eq_true _ _).1 ht
  have hapart : (pending s).IsApart t.toList.head? := by
    intro c' hc'
    obtain rfl : c' = c := Option.some.inj (hc'.symm.trans hc)
    exact Pending.takes_break hs hbreak
  exact ⟨lexemes_append hapart, pending_append hapart fun hnil => by simp [hnil] at hc⟩

theorem lexemes_append_nothing (hs : pending s = .nothing) :
    lexemes (s ++ t) = lexemes s ++ lexemes t ∧ pending (s ++ t) = pending t := by
  refine ⟨lexemes_append fun c _ => by rw [hs]; rfl, ?_⟩
  rw [pending, String.toList_append, List.foldl_append]
  exact congrArg (List.foldl Pending.next · t.toList) hs

theorem lexemes_between {u : String} (hs : pending s = .nothing) (ht : (pending t).isInside = false)
    (hu : u.toList.head?.any isBreak = true) :
    lexemes (s ++ t ++ u) = lexemes s ++ lexemes t ++ lexemes u ∧ pending (s ++ t ++ u) = pending u := by
  obtain ⟨hlexemes, hpending⟩ := lexemes_append_nothing hs (t := t)
  obtain ⟨hwhole, hend⟩ := lexemes_append_break (s := s ++ t) (by rw [hpending, ht]) hu
  exact ⟨by rw [hwhole, hlexemes], hend⟩

/-! ### Placeholders -/

theorem lexFrom_digits (h : ∀ c ∈ cs, c.isDigit = true) (start : List Char) :
    lexFrom (.word start) cs = [.ofWord (start ++ cs)] ∧
      cs.foldl Pending.next (.word start) = .word (start ++ cs) := by
  induction cs generalizing start with
  | nil => simp [lexFrom, Pending.ended]
  | cons c cs ih =>
    obtain ⟨hc, hcs⟩ := List.forall_mem_cons.1 h
    have htakes : (Pending.word start).takes c = true := by
      simp [Pending.takes, isWordChar, Char.isAlphanum, hc]
    obtain ⟨hlex, hpending⟩ := ih hcs (start ++ [c])
    rw [lexFrom, if_pos htakes, List.foldl_cons, Pending.next, if_pos htakes]
    simp [Pending.grown, hlex, hpending]

theorem lexemes_placeholder : lexemes (placeholder n) = [.placeholder (Nat.toDigits 10 n)] ∧
    pending (placeholder n) = .word ('?' :: Nat.toDigits 10 n) := by
  have hchars : (placeholder n).toList = '?' :: Nat.toDigits 10 n := by simp [placeholder]
  have hdigits := (@Json.areDigits_toDigits n).2
  obtain ⟨hlex, hpending⟩ := lexFrom_digits hdigits ['?']
  rw [lexemes, pending, hchars]
  refine ⟨Eq.trans hlex ?_, hpending⟩
  rw [List.singleton_append, Lexeme.ofWord, if_pos (List.all_eq_true.2 hdigits)]

theorem bound_placeholder {v : Cell} (h : values[n]? = some v) :
    Lexeme.bound values (.placeholder (Nat.toDigits 10 (n + 1))) = .value v := by
  simp [Lexeme.bound, h]

/-! ## Lexemes of statements -/

/-- The lexemes of a piece, with the value in place of a placeholder. -/
def Piece.lexemes (values : List Cell) : Piece → List Lexeme
  | .text s => (Sql.lexemes s).map (.bound values)
  | .bind v => [.value v]

/-- What is pending at the end of a piece. -/
def Piece.pending : Piece → Pending
  | .text s => Sql.pending s
  | .bind _ => .word ['?']

/-- The first character of the text. -/
def first? : Sql → Option Char
  | [] => none
  | .text s :: rest => s.toList.head?.or (first? rest)
  | .bind _ :: _ => some '?'

/-- No lexeme goes from one piece into the next. -/
def IsSpaced : Sql → Prop
  | [] => True
  | piece :: rest => piece.pending.IsApart (first? rest) ∧ IsSpaced rest

theorem head?_textFrom : (q.textFrom n).toList.head? = first? q := by
  induction q generalizing n with
  | nil => rfl
  | cons piece q ih =>
    cases piece with
    | text s => rw [textFrom, String.toList_append, List.head?_append, ih, first?]
    | bind v => rw [textFrom, placeholder, String.toList_append, String.toList_append]; rfl

/-- A statement is read piece by piece, and its placeholders are read as the values that it binds. -/
theorem lexemes_textFrom (h : q.IsSpaced) :
    (lexemes (q.textFrom before.length)).map (.bound (before ++ q.params ++ after)) =
      q.flatMap (Piece.lexemes (before ++ q.params ++ after)) := by
  induction q generalizing before with
  | nil => rfl
  | cons piece rest ih =>
    obtain ⟨hapart, hrest⟩ := h
    cases piece with
    | text s =>
      rw [textFrom, lexemes_append (by rwa [head?_textFrom]), List.map_append, params, ih hrest]
      rfl
    | bind v =>
      have hvalues : before ++ params (.bind v :: rest) ++ after = before ++ [v] ++ params rest ++ after := by
        simp [params]
      have hplaceholder : (pending (placeholder (before.length + 1))).IsApart
          (textFrom (before.length + 1) rest).toList.head? := by
        rw [lexemes_placeholder.2, head?_textFrom]
        exact hapart
      have hvalue : (before ++ params (.bind v :: rest) ++ after)[before.length]? = some v := by
        simp [params]
      have hread := @ih (before ++ [v]) hrest
      rw [List.length_append, List.length_singleton] at hread
      rw [textFrom, lexemes_append hplaceholder, List.map_append, lexemes_placeholder.1, List.map_singleton,
        bound_placeholder hvalue, hvalues, hread]
      rfl

/-! ### Pieces that meet -/

/-- A statement begins with what ends a lexeme before it. -/
def BeginsApart (q : Sql) : Prop := ∀ c ∈ first? q, isBreak c = true

theorem isSpaced_of_nothing (hs : pending s = .nothing) (hq : q.IsSpaced) : IsSpaced (.text s :: q) :=
  ⟨fun c _ => congrArg (Pending.takes · c) hs, hq⟩

theorem isSpaced_of_apart (hs : (pending s).isInside = false) (hq : q.IsSpaced) (hbegins : q.BeginsApart) :
    IsSpaced (.text s :: q) :=
  ⟨fun c hc => Pending.takes_break hs (hbegins c hc), hq⟩

theorem isSpaced_bind {v : Cell} (hq : q.IsSpaced) (hbegins : q.BeginsApart) : IsSpaced (.bind v :: q) :=
  ⟨fun c hc => Pending.takes_break (p := .word ['?']) rfl (hbegins c hc), hq⟩

theorem beginsApart_text (hs : s.toList.head?.any isBreak = true) : BeginsApart (.text s :: q) := by
  obtain ⟨c, hc, hbreak⟩ := (Option.any_eq_true _ _).1 hs
  intro c' hc'
  rw [first?, hc] at hc'
  cases hc'
  exact hbreak

/-! ## Parts of lexemes -/

/-- Wherever they stand, lexemes are read as these parts. -/
def ReadsAs (ls : List Lexeme) (parts : List Part) : Prop :=
  ∀ outer frame rest, readFrom outer frame (ls ++ rest) = readFrom outer (parts.reverse ++ frame) rest

variable {ls ls' : List Lexeme} {parts parts' : List Part} {e : Expression} {f : String}
  {k : Keyword}

namespace ReadsAs

theorem nil : ReadsAs [] [] := fun _ _ _ => rfl

theorem append (h : ReadsAs ls parts) (h' : ReadsAs ls' parts') : ReadsAs (ls ++ ls') (parts ++ parts') := by
  intro outer frame rest
  rw [List.append_assoc, h, h', List.reverse_append, List.append_assoc]

theorem single {l : Lexeme} {part : Part} (h : l.part? = some part) : ReadsAs [l] [part] := by
  intro outer frame rest
  cases l <;> cases h <;> rfl

/-- Lexemes without parentheses. -/
theorem of_mapM (h : ls.mapM Lexeme.part? = some parts) : ReadsAs ls parts := by
  induction ls generalizing parts with
  | nil =>
    cases h
    exact nil
  | cons l ls ih =>
    simp only [List.mapM_cons, Option.bind_eq_bind, Option.bind_eq_some_iff, Option.pure_def,
      Option.some.injEq] at h
    obtain ⟨part, hpart, parts, hparts, rfl⟩ := h
    exact (single hpart).append (ih hparts)

theorem enclosed {part : Part} (h : ReadsAs ls parts)
    (hpart : ∀ before, enclose before parts = some (part :: before)) :
    ReadsAs (.opening :: (ls ++ [.closing])) [part] := by
  intro outer frame rest
  rw [List.cons_append, List.append_assoc, readFrom, h, List.append_nil, List.singleton_append, readFrom,
    List.reverse_reverse, hpart]
  rfl

/-- A name before parentheses that are neither a selection nor a condition. -/
theorem call {xs : List Scalar} (h : ReadsAs ls parts) (hparts : beginsSelection parts = false)
    (hexpression : readExpression parts = none) (hxs : readArguments parts = some xs) :
    ReadsAs (.name f :: .opening :: (ls ++ [.closing])) [.scalar (.call f xs)] := by
  have hcall : ∀ before, enclose (.scalar (.column f) :: before) parts =
      some (.scalar (.call f xs) :: before) := by
    intro before
    simp [enclose, hparts, hexpression, hxs]
  intro outer frame rest
  have hname := single (l := .name f) rfl outer frame (.opening :: (ls ++ [.closing]) ++ rest)
  refine hname.trans ?_
  rw [List.cons_append, List.append_assoc, readFrom, h, List.append_nil, List.singleton_append, readFrom,
    List.reverse_reverse]
  exact congrArg (· >>= fun frame => readFrom outer frame rest) (hcall frame)

end ReadsAs

/-! ## Conditions of parts -/

/-- Where a part belongs to a larger whole: it joins what stands beside it, or begins a selection. -/
def Part.isJoint : Part → Bool
  | .keyword .AND | .keyword .OR | .keyword .UNION | .keyword .SELECT | .keyword .WITH => true
  | _ => false

/-- Parts that are read as one condition, as they are and among others. -/
structure StandsFor (parts : List Part) (e : Expression) : Prop where
  unjoined : ∀ part ∈ parts, part.isJoint = false
  reads : readNegation parts = some e

theorem isKeyword_of_isJoint {part : Part} (h : part.isJoint = false)
    (hk : (Part.keyword k).isJoint = true) : part.isKeyword k = false := by
  cases part with
  | keyword k' =>
    by_cases hkk : k = k'
    · subst hkk
      rw [h] at hk
      cases hk
    · exact decide_eq_false hkk
  | _ => rfl

theorem enclose_expression {before : List Part} (hbegins : beginsSelection parts = false)
    (he : readExpression parts = some e) : enclose before parts = some (.expression e :: before) := by
  simp [enclose, hbegins, he]

theorem enclose_selection {before : List Part} {selection : Selection}
    (hbegins : beginsSelection parts = true) (hselection : readSelection parts = some selection) :
    enclose before parts = some (.selection selection :: before) := by
  simp [enclose, hbegins, hselection]

theorem beginsSelection_eq (h : ∀ part ∈ parts, part ≠ .keyword .SELECT ∧ part ≠ .keyword .WITH) :
    beginsSelection parts = false := by
  unfold beginsSelection
  split
  · exact absurd rfl (h _ List.mem_cons_self).1
  · exact absurd rfl (h _ List.mem_cons_self).2
  · rfl

/-- Parts with conditions between keywords. -/
inductive Lists (k : Keyword) : List Part → List Expression → Prop
  | last {parts : List Part} {e : Expression} : StandsFor parts e → Lists k parts [e]
  | cons {parts rest : List Part} {e : Expression} {es : List Expression} :
      StandsFor parts e → Lists k rest es → Lists k (parts ++ .keyword k :: rest) (e :: es)

namespace StandsFor

theorem splitOnP_append (h : StandsFor parts e) (hk : (Part.keyword k).isJoint = true) {rest : List Part} :
    (parts ++ .keyword k :: rest).splitOnP (·.isKeyword k) = parts :: rest.splitOnP (·.isKeyword k) :=
  List.splitOnP_append_cons_of_forall_mem
    (fun part hpart => isKeyword_of_isJoint (h.unjoined part hpart) hk) _ (by simp [Part.isKeyword]) _

theorem splitOnP (h : StandsFor parts e) (hk : (Part.keyword k).isJoint = true) :
    parts.splitOnP (·.isKeyword k) = [parts] :=
  List.splitOnP_eq_singleton fun part hpart => isKeyword_of_isJoint (h.unjoined part hpart) hk

theorem readConjunction (h : StandsFor parts e) : readConjunction parts = some e := by
  rw [Sql.readConjunction, h.splitOnP rfl]
  simp [h.reads, joined]

theorem readExpression (h : StandsFor parts e) : readExpression parts = some e := by
  rw [Sql.readExpression, h.splitOnP rfl]
  simp [h.readConjunction, joined]

end StandsFor

theorem Lists.mapM {read : List Part → Option Expression} {es : List Expression} (h : Lists k parts es)
    (hk : (Part.keyword k).isJoint = true)
    (hread : ∀ {parts : List Part} {e : Expression}, StandsFor parts e → read parts = some e) :
    (parts.splitOnP (·.isKeyword k)).mapM read = some es := by
  induction h with
  | last hlast => simp [hlast.splitOnP hk, hread hlast]
  | cons hfirst hrest ih => simp [hfirst.splitOnP_append hk, hread hfirst, ih]

theorem Lists.unjoined {es : List Expression} (h : Lists k parts es) :
    ∀ part ∈ parts, part.isJoint = false ∨ part = .keyword k := by
  induction h with
  | last hlast => exact fun part hpart => .inl (hlast.unjoined part hpart)
  | cons hfirst hrest ih =>
    intro part hpart
    rcases List.mem_append.1 hpart with hpart | hpart
    · exact .inl (hfirst.unjoined part hpart)
    · rcases List.mem_cons.1 hpart with rfl | hpart
      · exact .inr rfl
      · exact ih part hpart

theorem StandsFor.beginsSelection (h : StandsFor parts e) : beginsSelection parts = false := by
  refine beginsSelection_eq fun part hpart => ?_
  have hjoint := h.unjoined part hpart
  constructor <;> rintro rfl <;> cases hjoint

theorem Lists.beginsSelection {es : List Expression} (h : Lists k parts es) (hselect : k ≠ .SELECT)
    (hwith : k ≠ .WITH) : beginsSelection parts = false := by
  refine beginsSelection_eq fun part hpart => ?_
  rcases h.unjoined part hpart with hjoint | rfl
  · constructor <;> rintro rfl <;> cases hjoint
  · simp [hselect, hwith]

theorem Lists.readConjunction {es : List Expression} (h : Lists .AND parts es) :
    readConjunction parts = some (joined .and es) := by
  rw [Sql.readConjunction, h.mapM rfl StandsFor.reads]
  rfl

theorem Lists.readExpression_and {es : List Expression} (h : Lists .AND parts es) :
    readExpression parts = some (joined .and es) := by
  have hsingle : parts.splitOnP (·.isKeyword .OR) = [parts] := by
    refine List.splitOnP_eq_singleton fun part hpart => ?_
    rcases h.unjoined part hpart with hjoint | rfl
    · exact isKeyword_of_isJoint hjoint rfl
    · rfl
  rw [Sql.readExpression, hsingle]
  simp [h.readConjunction, joined]

theorem Lists.readExpression_or {es : List Expression} (h : Lists .OR parts es) :
    readExpression parts = some (joined .or es) := by
  rw [Sql.readExpression, h.mapM rfl StandsFor.readConjunction]
  rfl

/-! ## Selections of parts -/

theorem readSelect_where {column table : String} (he : readExpression parts = some e) :
    readSelect (.keyword .SELECT :: .scalar (.column column) :: .keyword .FROM :: .scalar (.column table) ::
      .keyword .WHERE :: parts) = some (.select column ⟨table, none⟩ none (some e)) := by
  simp [readSelect, cut, Part.isKeyword, readTable, he]

theorem readSelection_select :
    readSelection (.keyword .SELECT :: parts) = readUnion (.keyword .SELECT :: parts) := rfl

theorem readSelection_of_readSelect {selection : Selection} {tail : List Part}
    (hselect : readSelect (.keyword .SELECT :: tail) = some selection)
    (hunion : ∀ part ∈ Part.keyword .SELECT :: tail, part.isKeyword .UNION = false) :
    readSelection (.keyword .SELECT :: tail) = some selection := by
  rw [readSelection_select, readUnion, List.splitOnP_eq_singleton hunion]
  simp [hselect, joined]

/-- Two selections are read apart at the `UNION` between them. -/
theorem readSelection_union {first second : Selection} {tail parts' : List Part}
    (hfirst : readSelect (.keyword .SELECT :: tail) = some first)
    (hsecond : readSelect parts' = some second)
    (hunion : ∀ part ∈ Part.keyword .SELECT :: tail, part.isKeyword .UNION = false)
    (hunion' : ∀ part ∈ parts', part.isKeyword .UNION = false) :
    readSelection (.keyword .SELECT :: tail ++ ([.keyword .UNION] ++ parts')) =
      some (.union [first, second]) := by
  have hsplit := List.splitOnP_append_cons_of_forall_mem hunion (.keyword .UNION) rfl parts'
  rw [List.cons_append, readSelection_select, ← List.cons_append, readUnion, List.singleton_append, hsplit,
    List.splitOnP_eq_singleton hunion']
  simp [hfirst, hsecond, joined]

end MediaCatalog.Sql

import MediaCatalog.Proofs.ConditionReader
/-!
# Lowered predicates read back

The text of a predicate, read by what binds tighter than what, is the tree of the predicate again. Every
text that is written without parentheses of its own is safe where it is put: beside `AND` and `OR`, under
`NOT`, and after the catalog in a selection.
-/

namespace MediaCatalog

/-! ## The conditions that predicates are -/

namespace Sql

/-- The date whose parts are computed from a column. -/
def dateScalar (c : Column) : Scalar :=
  if c = .media .taken then
    .call "local_time" [.column "media_view.taken", .column "media_view.taken_zone"]
  else .column (columnName c)

def datePartScalar (part : String) (date : Scalar) : Scalar :=
  .call "CAST" [.typed (.call "strftime" [.quoted part, date]) "INTEGER"]

/-- A column after its modifier. -/
def columnScalar (c : Column) : Option Modifier → Scalar
  | none => .column (columnName c)
  | some .length => .call "length" [.column (columnName c)]
  | some .year => datePartScalar "%Y" (dateScalar c)
  | some .month => datePartScalar "%m" (dateScalar c)

/-- The ids of the things of a catalog for which a condition holds. -/
def seedSelection (scope : LinkScope) (filter : Expression) : Selection :=
  let source := scope.relation.sourceTable
  .select (source ++ ".id") ⟨source, none⟩ none
    (some (.and [.compare .equal (.column (source ++ ".catalog")) (.value (.text scope.catalog)), filter]))

/-- What is right below anything selected so far. -/
def stepSelection (h : Hierarchy) : Selection :=
  .select "child.id" ⟨h.table, some "child"⟩
    (some (⟨"closure", none⟩, .compare .equal (.column "child.parent") (.column "closure.id"))) none

/-- What is selected with everything below it in a hierarchy. -/
def belowSelection (h : Hierarchy) (seed : Selection) : Selection :=
  .recursive "closure" "id" (.union [seed, stepSelection h])
    (.select "closure.id" ⟨"closure", none⟩ none none)

/-- Membership among what is linked to anything selected in the catalog. -/
def membershipExpression (scope : LinkScope) (filter : Expression) : Expression :=
  let table := scope.relation.linkTable
  let seed := seedSelection scope filter
  let chosen :=
    match Hierarchy.ofRelation? scope.relation with
    | some h => if scope.recursive then belowSelection h seed else seed
    | none => seed
  .isIn scope.negated (.column "media_view.id")
    (.select (table ++ ".media") ⟨table, none⟩ none
      (some (.isIn false (.column (table ++ "." ++ scope.relation.linkColumn)) chosen)))

end Sql

open Sql

/-- A test against a pattern, which, when it is inverted, holds of a missing value too. -/
def Comparison.patternExpression (c : Comparison) (test : Bool → Expression) : Expression :=
  if c.inverted then .or [test true, .isNull false (columnScalar c.column c.modifier)] else test false

def Comparison.expression (c : Comparison) : Expression :=
  let x := columnScalar c.column c.modifier
  let y := Scalar.value c.boundValue
  match c.operator with
  | .empty => .isNull c.inverted x
  | .equal => .isDistinct (!c.inverted) x y
  | .less => .compare (if c.inverted then .greaterOrEqual else .less) x y
  | .lessOrEqual => .compare (if c.inverted then .greater else .lessOrEqual) x y
  | .contains | .startsWith | .endsWith => c.patternExpression fun negated => .like negated x y "\\"
  | .matches => c.patternExpression fun negated => .regexp negated x y

namespace Predicate

mutual

/-- The tree of a predicate as a condition. A group has the conditions of its parts, in their order;
without parts it is a constant, and one of a single part is that part. -/
def expression : Predicate → Expression
  | .always => .truth true
  | .never => .truth false
  | .all [] => .truth true
  | .any [] => .truth false
  | .all (p :: ps) => joined .and (p.expression :: expressions ps)
  | .any (p :: ps) => joined .or (p.expression :: expressions ps)
  | .not p => .not p.expression
  | .compare c => c.expression
  | .linked scope filter => membershipExpression scope filter.expression

def expressions : List Predicate → List Expression
  | [] => []
  | p :: ps => p.expression :: expressions ps

end

end Predicate

/-! ## How columns are read -/

namespace Sql

variable {values : List Cell} {parts : List Part} {c : Column} {modifier : Option Modifier}
  {s t : String} {x : Scalar} {rest : Sql}

theorem lexemes_columnName : lexemes (columnName c) = [.name (columnName c)] ∧
    (pending (columnName c)).isInside = false := by
  cases c with
  | mediaId => decide +kernel
  | media f =>
    rcases f with f | f | f | _
    case taken => decide +kernel
    all_goals cases f <;> decide +kernel
  | entity r f => cases r <;> cases f <;> decide +kernel

/-- A text that is read as a single operand, and ends outside of quotes. -/
structure IsOperand (s : String) (x : Scalar) : Prop where
  reads : ∀ values, ReadsAs ((lexemes s).map (.bound values)) [.scalar x]
  outside : (pending s).isInside = false

theorem isOperand_columnName : IsOperand (columnName c) (.column (columnName c)) where
  reads values := by
    rw [lexemes_columnName.1]
    exact .single rfl
  outside := lexemes_columnName.2

theorem IsOperand.length (h : IsOperand s x) :
    IsOperand ("length(" ++ s ++ ")") (.call "length" [x]) := by
  have hopening : lexemes "length(" = [.name "length", .opening] ∧ pending "length(" = .nothing :=
    ⟨rfl, rfl⟩
  have hclosing : lexemes ")" = [.closing] ∧ pending ")" = .nothing := ⟨rfl, rfl⟩
  obtain ⟨hlexemes, hpending⟩ := lexemes_between hopening.2 h.outside (u := ")") rfl
  refine ⟨fun values => ?_, by rw [hpending, hclosing.2]; rfl⟩
  rw [hlexemes, hopening.1, hclosing.1, List.map_append, List.map_append]
  exact (h.reads values).call rfl rfl rfl

theorem IsOperand.datePart {part : String} (h : IsOperand s x)
    (hopening : lexemes ("CAST(strftime('" ++ part ++ "', ") =
      [.name "CAST", .opening, .name "strftime", .opening, .quoted part, .comma])
    (hnothing : pending ("CAST(strftime('" ++ part ++ "', ") = .nothing) :
    IsOperand (datePart part s) (datePartScalar part x) := by
  have hclosing : lexemes ") AS INTEGER)" = [.closing, .keyword .AS, .name "INTEGER", .closing] ∧
    pending ") AS INTEGER)" = .nothing := ⟨rfl, rfl⟩
  obtain ⟨hlexemes, hpending⟩ := lexemes_between hnothing h.outside (u := ") AS INTEGER)") (by decide)
  have hquoted : ReadsAs [.quoted part, .comma] [.scalar (.quoted part), .comma] := .of_mapM rfl
  have htype : ReadsAs [.keyword .AS, .name "INTEGER"] [.keyword .AS, .scalar (.column "INTEGER")] :=
    .of_mapM rfl
  unfold Sql.datePart
  refine ⟨fun values => ?_, by rw [hpending, hclosing.2]; rfl⟩
  have hdate := (hquoted.append (h.reads values)).call (f := "strftime") rfl rfl rfl
  have hcast := (hdate.append htype).call (f := "CAST") rfl rfl rfl
  rw [hlexemes, hopening, hclosing.1, List.map_append, List.map_append]
  simpa [Lexeme.bound, datePartScalar] using hcast

theorem isOperand_dateOf : IsOperand (dateOf c) (dateScalar c) := by
  unfold dateOf dateScalar
  split
  · have hlex : lexemes ("local_time(" ++ mediaView ++ ".taken, " ++ mediaView ++ ".taken_zone)") =
        [.name "local_time", .opening, .name "media_view.taken", .comma, .name "media_view.taken_zone",
          .closing] := rfl
    have harguments : ReadsAs [.name "media_view.taken", .comma, .name "media_view.taken_zone"]
        [.scalar (.column "media_view.taken"), .comma, .scalar (.column "media_view.taken_zone")] :=
      .of_mapM rfl
    refine ⟨fun values => ?_, by decide +kernel⟩
    rw [hlex]
    exact harguments.call rfl rfl rfl
  · exact isOperand_columnName

theorem isOperand_columnText : IsOperand (columnText c modifier) (columnScalar c modifier) := by
  cases modifier with
  | none => exact isOperand_columnName
  | some modifier =>
    cases modifier with
    | length => exact isOperand_columnName.length
    | year => exact isOperand_dateOf.datePart (by rfl) (by rfl)
    | month => exact isOperand_dateOf.datePart (by rfl) (by rfl)

/-! ## Where the pieces of a predicate meet -/

theorem isSpaced_comparison {c : Comparison} (hrest : IsSpaced rest) (hbegins : BeginsApart rest) :
    IsSpaced (comparison c ++ rest) := by
  have hleft := (@isOperand_columnText c.column c.modifier).outside
  have hnull : pending " IS NULL)" = .nothing := rfl
  unfold comparison
  cases c.operator with
  | empty =>
    refine isSpaced_of_apart ?_ hrest hbegins
    cases c.inverted
    · have hend := (lexemes_append_break hleft (t := " IS NULL") rfl).2
      exact (congrArg Pending.isInside hend).trans (by rfl)
    · have hend := (lexemes_append_break hleft (t := " IS NOT NULL") rfl).2
      exact (congrArg Pending.isInside hend).trans (by rfl)
  | equal | less | lessOrEqual =>
    refine isSpaced_of_nothing ?_ (isSpaced_bind hrest hbegins)
    rw [String.append_assoc, String.append_assoc]
    cases c.inverted <;> exact (lexemes_append_break hleft rfl).2.trans (by rfl)
  | contains | startsWith | endsWith =>
    cases c.inverted
    · have hescape := isSpaced_of_apart (s := " ESCAPE '\\'") (by rfl) hrest hbegins
      refine isSpaced_of_nothing ?_ (isSpaced_bind hescape (beginsApart_text (by decide)))
      exact (lexemes_append_break hleft rfl).2.trans (by rfl)
    · have hor := (lexemes_between (s := " ESCAPE '\\' OR ") (by rfl) hleft rfl).2.trans hnull
      refine isSpaced_of_nothing ?_
        (isSpaced_bind (isSpaced_of_nothing hor hrest) (beginsApart_text (by simp [isBreak])))
      exact (lexemes_between (by rfl) hleft rfl).2.trans (by rfl)
  | _ =>
    cases c.inverted
    · refine isSpaced_of_nothing ?_ (isSpaced_bind hrest hbegins)
      exact (lexemes_append_break hleft rfl).2.trans (by rfl)
    · have hor := (lexemes_between (s := " OR ") (by rfl) hleft rfl).2.trans hnull
      refine isSpaced_of_nothing ?_
        (isSpaced_bind (isSpaced_of_nothing hor hrest) (beginsApart_text (by simp [isBreak])))
      exact (lexemes_between (by rfl) hleft rfl).2.trans (by rfl)

theorem isSpaced_membership {scope : LinkScope} {filter : Sql}
    (hfilter : ∀ rest, IsSpaced rest → BeginsApart rest → IsSpaced (filter ++ rest))
    (hrest : IsSpaced rest) : IsSpaced (membership scope filter ++ rest) := by
  have hclosing : IsSpaced (.text "))" :: rest) := isSpaced_of_nothing (by rfl) hrest
  have hseed : ∀ rest, IsSpaced rest → BeginsApart rest → IsSpaced (linkSeed scope filter ++ rest) := by
    intro rest hrest hbegins
    refine isSpaced_of_nothing ?_ (isSpaced_bind (isSpaced_of_nothing (by rfl) ?_)
      (beginsApart_text (by decide)))
    · cases scope.relation <;> decide +kernel
    · exact hfilter rest hrest hbegins
  have hclosure : ∀ h, IsSpaced (closure h .descendants (linkSeed scope filter) ++ .text "))" :: rest) := by
    intro h
    have htail : IsSpaced (.text ") SELECT closure.id FROM closure" :: .text "))" :: rest) :=
      isSpaced_of_apart (by rfl) hclosing (beginsApart_text (by decide))
    have hstep : IsSpaced (.text (closureStep h .descendants) :: .text ") SELECT closure.id FROM closure" ::
        .text "))" :: rest) :=
      isSpaced_of_apart (by cases h <;> decide +kernel) htail (beginsApart_text (by decide))
    have hunion := isSpaced_of_nothing (s := " UNION ") (by rfl) hstep
    have hbody := hseed _ hunion (beginsApart_text (by decide))
    rw [closure, List.cons_append, List.cons_append, List.append_assoc]
    exact isSpaced_of_nothing (by rfl) hbody
  unfold membership
  rw [List.cons_append, List.cons_append, List.append_assoc]
  refine isSpaced_of_nothing ?_ ?_
  · cases scope.relation <;> cases scope.negated <;> decide +kernel
  · split
    · split
      · exact hclosure _
      · exact hseed _ hclosing (beginsApart_text (by decide))
    · exact hseed _ hclosing (beginsApart_text (by decide))

end Sql

namespace Predicate

variable {p : Predicate} {ps : List Predicate} {rest : Sql} {separator : String}

theorem isSpaced_lowerRest (hseparator : pending separator = .nothing)
    (hbreak : separator.toList.head?.any isBreak = true)
    (hps : ∀ p ∈ ps, ∀ rest : Sql, Sql.IsSpaced rest → BeginsApart rest → Sql.IsSpaced (p.lower ++ rest))
    (hrest : Sql.IsSpaced rest) :
    Sql.IsSpaced (lowerRest separator ps ++ rest) ∧ BeginsApart (lowerRest separator ps ++ rest) := by
  induction ps with
  | nil => exact ⟨isSpaced_of_nothing (by rfl) hrest, beginsApart_text (by decide)⟩
  | cons p ps ih =>
    obtain ⟨hp, hps⟩ := List.forall_mem_cons.1 hps
    obtain ⟨hspaced, hbegins⟩ := ih hps
    rw [lowerRest, List.cons_append, List.append_assoc]
    exact ⟨isSpaced_of_nothing hseparator (hp _ hspaced hbegins), beginsApart_text hbreak⟩

/-- No lexeme goes on where two pieces of a predicate meet. -/
theorem isSpaced_lower (rest : Sql) (hrest : Sql.IsSpaced rest) (hbegins : BeginsApart rest) :
    Sql.IsSpaced (p.lower ++ rest) := by
  induction p generalizing rest with
  | always | never => exact isSpaced_of_apart (by rfl) hrest hbegins
  | all ps ih | any ps ih =>
    cases ps with
    | nil => exact isSpaced_of_apart (by rfl) hrest hbegins
    | cons p ps =>
      obtain ⟨hp, hps⟩ := List.forall_mem_cons.1 ih
      rw [lower, List.cons_append, List.append_assoc]
      refine isSpaced_of_nothing (by rfl) (hp _ ?_ ?_)
      · exact (isSpaced_lowerRest (by rfl) (by decide) hps hrest).1
      · exact (isSpaced_lowerRest (by rfl) (by decide) hps hrest).2
  | not p ih =>
    rw [lower, List.cons_append, List.append_assoc]
    exact isSpaced_of_nothing (by rfl)
      (ih _ (isSpaced_of_nothing (by rfl) hrest) (beginsApart_text (by decide)))
  | compare c => exact isSpaced_comparison hrest hbegins
  | linked scope filter ih => exact isSpaced_membership ih hrest

end Predicate

/-! ## What a predicate is read as -/

namespace Sql

variable {values : List Cell} {q filter : Sql} {e : Expression} {parts parts' : List Part}
  {scope : LinkScope} {s t u : String} {x : Scalar} {v : Cell}

/-- A statement is read as parts that stand for a condition. -/
def IsCondition (values : List Cell) (q : Sql) (e : Expression) : Prop :=
  ∃ parts, ReadsAs (q.flatMap (Piece.lexemes values)) parts ∧ StandsFor parts e

theorem isCondition_enclosed {ls : List Lexeme}
    (hq : q.flatMap (Piece.lexemes values) = .opening :: (ls ++ [.closing])) (hls : ReadsAs ls parts)
    (hbegins : beginsSelection parts = false) (he : readExpression parts = some e) :
    IsCondition values q e := by
  refine ⟨[.expression e], ?_, by simp [Part.isJoint], rfl⟩
  rw [hq]
  exact hls.enclosed fun _ => enclose_expression hbegins he

/-! ### Comparisons -/

/-- What is written after a column or a value, with the parts that it is read as. -/
structure IsTail (t : String) (parts : List Part) : Prop where
  breaks : t.toList.head?.any isBreak = true
  reads : ∀ values, ReadsAs ((lexemes t).map (.bound values)) parts

theorem isTail_of (ls : List Lexeme) (ht : t.toList.head?.any isBreak = true) (hls : lexemes t = ls)
    (hparts : ∀ values, (ls.map (.bound values)).mapM Lexeme.part? = some parts) : IsTail t parts := by
  refine ⟨ht, fun values => ?_⟩
  rw [hls]
  exact .of_mapM (hparts values)

theorem IsOperand.reads_append (h : IsOperand s x) (ht : IsTail t parts) :
    ReadsAs ((lexemes (s ++ t)).map (.bound values)) (.scalar x :: parts) := by
  rw [(lexemes_append_break h.outside ht.breaks).1, List.map_append]
  exact (h.reads values).append (ht.reads values)

theorem isCondition_unary (h : IsOperand s x) (ht : IsTail t parts)
    (hstands : StandsFor (.scalar x :: parts) e) : IsCondition values [.text (s ++ t)] e := by
  refine ⟨_, ?_, hstands⟩
  simpa [Piece.lexemes] using @IsOperand.reads_append values _ _ _ _ h ht

theorem isCondition_binary (h : IsOperand s x) (ht : IsTail t parts)
    (hstands : StandsFor (.scalar x :: (parts ++ [.scalar (.value v)])) e) :
    IsCondition values [.text (s ++ t), .bind v] e := by
  have hvalue : ReadsAs [.value v] [.scalar (.value v)] := .single rfl
  refine ⟨_, ?_, hstands⟩
  simpa [Piece.lexemes] using (@IsOperand.reads_append values _ _ _ _ h ht).append hvalue

theorem isCondition_pattern (h : IsOperand s x) (ht : IsTail t parts) (hu : IsTail u parts')
    (hstands : StandsFor (.scalar x :: (parts ++ .scalar (.value v) :: parts')) e) :
    IsCondition values [.text (s ++ t), .bind v, .text u] e := by
  have hvalue : ReadsAs [.value v] [.scalar (.value v)] := .single rfl
  refine ⟨_, ?_, hstands⟩
  have htest := @IsOperand.reads_append values _ _ _ _ h ht
  simpa [Piece.lexemes] using htest.append (hvalue.append (hu.reads values))

/-- The inversion of a test against a pattern is read in its parentheses, as either of two. -/
theorem isCondition_orNull (parts' : List Part) (h : IsOperand s x) (ht : IsTail t parts)
    (hu : IsTail u (parts' ++ [.keyword .OR])) (hpending : pending u = .nothing)
    (hstands : StandsFor (.scalar x :: (parts ++ .scalar (.value v) :: parts')) e) :
    IsCondition values [.text ("(" ++ s ++ t), .bind v, .text (u ++ s ++ " IS NULL)")]
      (.or [e, .isNull false x]) := by
  have hopening : lexemes "(" = [.opening] ∧ pending "(" = .nothing := ⟨rfl, rfl⟩
  have hclosing : lexemes " IS NULL)" = [.keyword .IS, .keyword .NULL, .closing] := rfl
  have hfirst := (lexemes_between hopening.2 h.outside ht.breaks).1
  have hlast := (lexemes_between hpending h.outside (u := " IS NULL)") rfl).1
  have hvalue : ReadsAs [.value v] [.scalar (.value v)] := .single rfl
  have hnull : ReadsAs [.keyword .IS, .keyword .NULL] [.keyword .IS, .keyword .NULL] := .of_mapM rfl
  have hisNull : StandsFor [.scalar x, .keyword .IS, .keyword .NULL] (.isNull false x) :=
    ⟨by simp [Part.isJoint], rfl⟩
  have hlists := Lists.cons (k := .OR) hstands (.last hisNull)
  have htest := (h.reads values).append (ht.reads values)
  have hafter := (hu.reads values).append ((h.reads values).append hnull)
  have hreads := htest.append (hvalue.append hafter)
  simp only [List.append_assoc, List.cons_append] at hreads hlists
  refine isCondition_enclosed ?_ hreads (hlists.beginsSelection nofun nofun) hlists.readExpression_or
  simp [Piece.lexemes, hfirst, hlast, hopening.1, hclosing, Lexeme.bound]

theorem isCondition_comparison {c : Comparison} : IsCondition values (comparison c) c.expression := by
  obtain ⟨column, modifier, operator, operand, inverted⟩ := c
  have hleft := @isOperand_columnText column modifier
  have hcompared : ∀ (sign : String) {parts : List Part} {v : Cell} {e : Expression},
      IsTail (" " ++ (sign ++ " ")) parts →
      StandsFor (.scalar (columnScalar column modifier) :: (parts ++ [.scalar (.value v)])) e →
      IsCondition values [.text (columnText column modifier ++ " " ++ sign ++ " "), .bind v] e := by
    intro sign parts v e ht hstands
    rw [String.append_assoc, String.append_assoc]
    exact isCondition_binary hleft ht hstands
  cases operator with
  | empty =>
    have hnull : IsTail " IS NULL" _ :=
      isTail_of [.keyword .IS, .keyword .NULL] rfl rfl fun _ => rfl
    have hnotNull : IsTail " IS NOT NULL" _ :=
      isTail_of [.keyword .IS, .keyword .NOT, .keyword .NULL] rfl rfl fun _ => rfl
    cases inverted
    · exact isCondition_unary hleft hnull ⟨by simp [Part.isJoint], rfl⟩
    · exact isCondition_unary hleft hnotNull ⟨by simp [Part.isJoint], rfl⟩
  | equal =>
    cases inverted
    · exact hcompared "IS NOT DISTINCT FROM"
        (isTail_of [.keyword .IS, .keyword .NOT, .keyword .DISTINCT, .keyword .FROM] rfl rfl
          fun _ => rfl) ⟨by simp [Part.isJoint], rfl⟩
    · exact hcompared "IS DISTINCT FROM"
        (isTail_of [.keyword .IS, .keyword .DISTINCT, .keyword .FROM] rfl rfl fun _ => rfl)
        ⟨by simp [Part.isJoint], rfl⟩
  | less =>
    cases inverted
    · exact hcompared "<" (isTail_of [.sign .less] rfl rfl fun _ => rfl)
        ⟨by simp [Part.isJoint], rfl⟩
    · exact hcompared ">=" (isTail_of [.sign .greaterOrEqual] rfl rfl fun _ => rfl)
        ⟨by simp [Part.isJoint], rfl⟩
  | lessOrEqual =>
    cases inverted
    · exact hcompared "<=" (isTail_of [.sign .lessOrEqual] rfl rfl fun _ => rfl)
        ⟨by simp [Part.isJoint], rfl⟩
    · exact hcompared ">" (isTail_of [.sign .greater] rfl rfl fun _ => rfl)
        ⟨by simp [Part.isJoint], rfl⟩
  | contains | startsWith | endsWith =>
    cases inverted
    · exact isCondition_pattern hleft (isTail_of [.keyword .LIKE] rfl rfl fun _ => rfl)
        (isTail_of [.keyword .ESCAPE, .quoted "\\"] rfl rfl fun _ => rfl)
        ⟨by simp [Part.isJoint], rfl⟩
    · exact isCondition_orNull [.keyword .ESCAPE, .scalar (.quoted "\\")] hleft
        (isTail_of [.keyword .NOT, .keyword .LIKE] rfl rfl fun _ => rfl)
        (isTail_of [.keyword .ESCAPE, .quoted "\\", .keyword .OR] rfl rfl fun _ => rfl)
        rfl ⟨by simp [Part.isJoint], rfl⟩
  | _ =>
    cases inverted
    · exact isCondition_binary hleft (isTail_of [.keyword .REGEXP] rfl rfl fun _ => rfl)
        ⟨by simp [Part.isJoint], rfl⟩
    · exact isCondition_orNull [] hleft
        (isTail_of [.keyword .NOT, .keyword .REGEXP] rfl rfl fun _ => rfl)
        (isTail_of [.keyword .OR] rfl rfl fun _ => rfl) rfl
        ⟨by simp [Part.isJoint], rfl⟩

/-! ### Selections -/

/-- A statement is read as parts that are a selection. -/
def IsSelection (values : List Cell) (q : Sql) (selection : Selection) : Prop :=
  ∃ parts, ReadsAs (q.flatMap (Piece.lexemes values)) parts ∧ beginsSelection parts = true ∧
    readSelection parts = some selection

theorem readsAs_text (s : String) (ls : List Lexeme) (hls : lexemes s = ls)
    (hparts : (ls.map (.bound values)).mapM Lexeme.part? = some parts) :
    ReadsAs (Piece.lexemes values (.text s)) parts := by
  rw [Piece.lexemes, hls]
  exact .of_mapM hparts

/-- A seed is read as one selection, wherever the whole is cut at `UNION`. -/
theorem exists_readSelect (hfilter : IsCondition values filter e) :
    ∃ parts, ReadsAs ((linkSeed scope filter).flatMap (Piece.lexemes values)) parts ∧
      (∃ tail, parts = .keyword .SELECT :: tail) ∧ readSelect parts = some (seedSelection scope e) ∧
      ∀ part ∈ parts, part.isKeyword .UNION = false := by
  obtain ⟨rest, hrest, hstands⟩ := hfilter
  unfold linkSeed seedSelection
  generalize hsource : scope.relation.sourceTable = source
  have hlex : lexemes ("SELECT " ++ source ++ ".id FROM " ++ source ++ " WHERE " ++ source ++ ".catalog = ") =
      [.keyword .SELECT, .name (source ++ ".id"), .keyword .FROM, .name source, .keyword .WHERE,
        .name (source ++ ".catalog"), .sign .equal] := by
    subst hsource
    cases scope.relation <;> rfl
  have hhead : ReadsAs (Piece.lexemes values (.text
      ("SELECT " ++ source ++ ".id FROM " ++ source ++ " WHERE " ++ source ++ ".catalog = ")))
      [.keyword .SELECT, .scalar (.column (source ++ ".id")), .keyword .FROM, .scalar (.column source),
        .keyword .WHERE, .scalar (.column (source ++ ".catalog")), .sign .equal] :=
    readsAs_text _ _ hlex rfl
  have hvalue : ReadsAs [.value (.text scope.catalog)] [.scalar (.value (.text scope.catalog))] := .single rfl
  have hand : ReadsAs (Piece.lexemes values (.text " AND ")) [.keyword .AND] :=
    readsAs_text _ [.keyword .AND] (by rfl) rfl
  have hcatalog : StandsFor [.scalar (.column (source ++ ".catalog")), .sign .equal,
      .scalar (.value (.text scope.catalog))]
      (.compare .equal (.column (source ++ ".catalog")) (.value (.text scope.catalog))) :=
    ⟨by simp [Part.isJoint], rfl⟩
  have hcondition := (Lists.cons (k := .AND) hcatalog (.last hstands)).readExpression_and
  refine ⟨_, hhead.append (hvalue.append (hand.append hrest)), ⟨_, rfl⟩, readSelect_where hcondition, ?_⟩
  simp only [List.forall_mem_append]
  exact ⟨by simp [Part.isKeyword], by simp [Part.isKeyword], by simp [Part.isKeyword],
    fun part hpart => isKeyword_of_isJoint (hstands.unjoined part hpart) rfl⟩

theorem isSelection_seed (hfilter : IsCondition values filter e) :
    IsSelection values (linkSeed scope filter) (seedSelection scope e) := by
  obtain ⟨_, hreads, ⟨tail, rfl⟩, hselect, hunion⟩ := @exists_readSelect values filter e scope hfilter
  exact ⟨_, hreads, rfl, readSelection_of_readSelect hselect hunion⟩

/-- The step below what is selected is one selection too. -/
theorem exists_readStep {h : Hierarchy} :
    ∃ parts, ReadsAs (Piece.lexemes values (.text (closureStep h .descendants))) parts ∧
      readSelect parts = some (stepSelection h) ∧ ∀ part ∈ parts, part.isKeyword .UNION = false := by
  refine ⟨[.keyword .SELECT, .scalar (.column "child.id"), .keyword .FROM, .scalar (.column h.table),
    .keyword .AS, .scalar (.column "child"), .keyword .JOIN, .scalar (.column "closure"), .keyword .ON,
    .scalar (.column "child.parent"), .sign .equal, .scalar (.column "closure.id")], ?_, rfl,
    by simp [Part.isKeyword]⟩
  exact readsAs_text _ [.keyword .SELECT, .name "child.id", .keyword .FROM, .name h.table, .keyword .AS,
    .name "child", .keyword .JOIN, .name "closure", .keyword .ON, .name "child.parent", .sign .equal,
    .name "closure.id"] (by cases h <;> decide +kernel) rfl

theorem isSelection_union {h : Hierarchy} (hfilter : IsCondition values filter e) :
    IsSelection values (linkSeed scope filter ++ [.text " UNION ", .text (closureStep h .descendants)])
      (.union [seedSelection scope e, stepSelection h]) := by
  obtain ⟨_, hseed, ⟨tail, rfl⟩, hselect, hunion⟩ := @exists_readSelect values filter e scope hfilter
  obtain ⟨step, hstep, hselect', hunion'⟩ := @exists_readStep values h
  have hmark : ReadsAs (Piece.lexemes values (.text " UNION ")) [.keyword .UNION] :=
    readsAs_text _ [.keyword .UNION] (by rfl) rfl
  refine ⟨_, ?_, rfl, readSelection_union hselect hselect' hunion hunion'⟩
  simpa using hseed.append (hmark.append hstep)

/-- A selection is read as the body of a recursive one. -/
theorem IsSelection.recursive {body : Selection} (h : IsSelection values q body) :
    IsSelection values
      (.text "WITH RECURSIVE closure(id) AS (" :: q ++ [.text ") SELECT closure.id FROM closure"])
      (.recursive "closure" "id" body (.select "closure.id" ⟨"closure", none⟩ none none)) := by
  obtain ⟨parts, hreads, hbegins, hbody⟩ := h
  have hopening : lexemes "WITH RECURSIVE closure(id) AS (" =
      [.keyword .WITH, .keyword .RECURSIVE, .name "closure", .opening, .name "id", .closing, .keyword .AS,
        .opening] := rfl
  have hclosing : lexemes ") SELECT closure.id FROM closure" =
      [.closing, .keyword .SELECT, .name "closure.id", .keyword .FROM, .name "closure"] := rfl
  have hwith : ReadsAs [.keyword .WITH, .keyword .RECURSIVE] [.keyword .WITH, .keyword .RECURSIVE] :=
    .of_mapM rfl
  have hid : ReadsAs [.name "id"] [.scalar (.column "id")] := .single rfl
  have hname := hid.call (f := "closure") rfl rfl rfl
  have has : ReadsAs [.keyword .AS] [.keyword .AS] := .single rfl
  have henclosed := hreads.enclosed fun _ => enclose_selection hbegins hbody
  have hend : ReadsAs [.keyword .SELECT, .name "closure.id", .keyword .FROM, .name "closure"]
      [.keyword .SELECT, .scalar (.column "closure.id"), .keyword .FROM, .scalar (.column "closure")] :=
    .of_mapM rfl
  have hwhole := hwith.append (hname.append (has.append (henclosed.append hend)))
  refine ⟨[.keyword .WITH, .keyword .RECURSIVE, .scalar (.call "closure" [.column "id"]), .keyword .AS,
    .selection body, .keyword .SELECT, .scalar (.column "closure.id"), .keyword .FROM,
    .scalar (.column "closure")], ?_, rfl, rfl⟩
  simpa [Piece.lexemes, hopening, hclosing, Lexeme.bound] using hwhole

theorem isSelection_closure {h : Hierarchy} (hfilter : IsCondition values filter e) :
    IsSelection values (closure h .descendants (linkSeed scope filter))
      (belowSelection h (seedSelection scope e)) := by
  have hbody := @isSelection_union values filter e scope h hfilter
  simpa [closure, belowSelection] using hbody.recursive

/-- Membership among what a selection selects. -/
theorem isCondition_linkedTo {relation : Relation} {negated : Bool} {selection : Selection}
    (h : IsSelection values q selection) :
    IsCondition values
      (.text (mediaView ++ ".id " ++ (if negated then "NOT IN" else "IN") ++ " (SELECT " ++ relation.linkTable
          ++ ".media FROM " ++ relation.linkTable ++ " WHERE " ++ relation.linkTable ++ "."
          ++ relation.linkColumn ++ " IN (") :: q ++ [.text "))"])
      (.isIn negated (.column "media_view.id")
        (.select (relation.linkTable ++ ".media") ⟨relation.linkTable, none⟩ none
          (some (.isIn false (.column (relation.linkTable ++ "." ++ relation.linkColumn)) selection)))) := by
  obtain ⟨parts, hreads, hbegins, hselection⟩ := h
  let words : List Keyword := if negated then [.NOT, .IN] else [.IN]
  generalize hmedia : relation.linkTable ++ ".media" = media
  generalize hcolumn : relation.linkTable ++ "." ++ relation.linkColumn = column
  have hopening : lexemes (mediaView ++ ".id " ++ (if negated then "NOT IN" else "IN") ++ " (SELECT "
      ++ relation.linkTable ++ ".media FROM " ++ relation.linkTable ++ " WHERE "
      ++ relation.linkTable ++ "." ++ relation.linkColumn ++ " IN (") =
      .name "media_view.id" :: words.map .keyword ++ [.opening, .keyword .SELECT, .name media, .keyword .FROM,
        .name relation.linkTable, .keyword .WHERE, .name column, .keyword .IN, .opening] := by
    subst hmedia hcolumn
    cases relation <;> cases negated <;> decide +kernel
  have hclosing : lexemes "))" = [.closing, .closing] := rfl
  have hinner : ReadsAs [.keyword .SELECT, .name media, .keyword .FROM, .name relation.linkTable,
      .keyword .WHERE, .name column, .keyword .IN] [.keyword .SELECT, .scalar (.column media), .keyword .FROM,
        .scalar (.column relation.linkTable), .keyword .WHERE, .scalar (.column column), .keyword .IN] :=
    .of_mapM rfl
  have hselected : readSelect [.keyword .SELECT, .scalar (.column media), .keyword .FROM,
      .scalar (.column relation.linkTable), .keyword .WHERE, .scalar (.column column), .keyword .IN,
      .selection selection] = some (.select media ⟨relation.linkTable, none⟩ none
        (some (.isIn false (.column column) selection))) := readSelect_where rfl
  have hchosen := hreads.enclosed fun _ => enclose_selection hbegins hselection
  have houter := (hinner.append hchosen).enclosed fun _ =>
    enclose_selection rfl (readSelection_of_readSelect hselected (by simp [Part.isKeyword]))
  have hwords : ReadsAs (.name "media_view.id" :: words.map .keyword)
      (.scalar (.column "media_view.id") :: words.map .keyword) := by
    cases negated <;> exact .of_mapM rfl
  refine ⟨.scalar (.column "media_view.id") :: words.map .keyword ++ [.selection _], ?_,
    by cases negated <;> simp [words, Part.isJoint], by cases negated <;> rfl⟩
  rw [List.flatMap_append, List.flatMap_cons, Piece.lexemes, hopening]
  simpa [Piece.lexemes, hclosing, Lexeme.bound, Function.comp_def] using hwords.append houter

theorem isCondition_membership (hfilter : IsCondition values filter e) :
    IsCondition values (membership scope filter) (membershipExpression scope e) := by
  unfold membership membershipExpression
  cases Hierarchy.ofRelation? scope.relation with
  | none => exact isCondition_linkedTo (isSelection_seed hfilter)
  | some h =>
    cases hrecursive : scope.recursive
    · simpa [hrecursive] using isCondition_linkedTo (isSelection_seed hfilter)
    · simpa [hrecursive] using isCondition_linkedTo (isSelection_closure hfilter)

end Sql

namespace Predicate

open Sql

variable {values : List Cell} {p : Predicate} {ps : List Predicate} {separator : String} {k : Keyword}

theorem lists_lowerRest (hseparator : lexemes separator = [.keyword k])
    (hps : ∀ p ∈ ps, IsCondition values p.lower p.expression)
    (hp : IsCondition values p.lower p.expression) :
    ∃ ls parts, (p.lower ++ lowerRest separator ps).flatMap (Piece.lexemes values) = ls ++ [.closing] ∧
      ReadsAs ls parts ∧ Lists k parts (p.expression :: expressions ps) := by
  obtain ⟨parts, hreads, hstands⟩ := hp
  induction ps generalizing p parts with
  | nil =>
    have hclosing : lexemes ")" = [.closing] := rfl
    exact ⟨_, parts, by simp [lowerRest, Piece.lexemes, hclosing, Lexeme.bound], hreads, .last hstands⟩
  | cons p' ps ih =>
    obtain ⟨⟨parts', hreads', hstands'⟩, hps⟩ := List.forall_mem_cons.1 hps
    obtain ⟨ls, rest, hls, hrest, hlists⟩ := ih hps parts' hreads' hstands'
    have hkeyword : ReadsAs [.keyword k] [.keyword k] := .single rfl
    refine ⟨p.lower.flatMap (Piece.lexemes values) ++ ([.keyword k] ++ ls), parts ++ ([.keyword k] ++ rest),
      ?_, hreads.append (hkeyword.append hrest), .cons hstands hlists⟩
    rw [lowerRest, List.flatMap_append, List.flatMap_cons, hls, Piece.lexemes, hseparator]
    simp [Lexeme.bound]

/-- A group is read in its parentheses, as the conditions of its parts with a keyword between them. -/
theorem isCondition_group {join : List Expression → Expression}
    (hseparator : lexemes separator = [.keyword k]) (hk : k ≠ .SELECT ∧ k ≠ .WITH)
    (hread : ∀ parts es, Lists k parts es → readExpression parts = some (joined join es))
    (hps : ∀ p ∈ ps, IsCondition values p.lower p.expression)
    (hp : IsCondition values p.lower p.expression) :
    IsCondition values (.text "(" :: (p.lower ++ lowerRest separator ps))
      (joined join (p.expression :: expressions ps)) := by
  have hopening : lexemes "(" = [.opening] := rfl
  obtain ⟨ls, parts, hls, hreads, hlists⟩ := lists_lowerRest hseparator hps hp
  refine isCondition_enclosed ?_ hreads (hlists.beginsSelection hk.1 hk.2) (hread parts _ hlists)
  rw [List.flatMap_cons, hls, Piece.lexemes, hopening]
  simp [Lexeme.bound]

theorem isCondition_constant {text : String} {b : Bool} (htext : lexemes text = [.keyword k])
    (hstands : StandsFor [.keyword k] (.truth b)) : IsCondition values [.text text] (.truth b) := by
  refine ⟨_, ?_, hstands⟩
  simpa [Piece.lexemes, htext, Lexeme.bound] using ReadsAs.single (l := .keyword k) rfl

/-- A negation is read before its parentheses. -/
theorem isCondition_not (hp : IsCondition values p.lower p.expression) :
    IsCondition values (not p).lower (.not p.expression) := by
  obtain ⟨parts, hreads, hstands⟩ := hp
  have hopening : lexemes "NOT (" = [.keyword .NOT, .opening] := rfl
  have hclosing : lexemes ")" = [.closing] := rfl
  have hnot : ReadsAs [.keyword .NOT] [.keyword .NOT] := .single rfl
  have henclosed := hreads.enclosed fun _ =>
    enclose_expression hstands.beginsSelection hstands.readExpression
  refine ⟨[.keyword .NOT, .expression p.expression], ?_, by simp [Part.isJoint], rfl⟩
  simpa [lower, Piece.lexemes, hopening, hclosing, Lexeme.bound] using hnot.append henclosed

theorem isCondition_lower : IsCondition values p.lower p.expression := by
  have htrue : IsCondition values [.text "TRUE"] (.truth true) :=
    isCondition_constant (k := .TRUE) (by rfl) ⟨by simp [Part.isJoint], rfl⟩
  have hfalse : IsCondition values [.text "FALSE"] (.truth false) :=
    isCondition_constant (k := .FALSE) (by rfl) ⟨by simp [Part.isJoint], rfl⟩
  induction p with
  | always => exact htrue
  | never => exact hfalse
  | all ps ih =>
    cases ps with
    | nil => exact htrue
    | cons p ps =>
      obtain ⟨hp, hps⟩ := List.forall_mem_cons.1 ih
      exact isCondition_group (k := .AND) (by rfl) (by decide) (fun _ _ h => h.readExpression_and)
        hps hp
  | any ps ih =>
    cases ps with
    | nil => exact hfalse
    | cons p ps =>
      obtain ⟨hp, hps⟩ := List.forall_mem_cons.1 ih
      exact isCondition_group (k := .OR) (by rfl) (by decide) (fun _ _ h => h.readExpression_or)
        hps hp
  | not p ih => exact isCondition_not ih
  | compare c => exact isCondition_comparison
  | linked scope filter ih => exact isCondition_membership ih

/-- The text of a predicate, wherever it stands in a statement, is read as the tree of the predicate, with
its values in the places of the placeholders. -/
theorem ofText?_lower (p : Predicate) (before after : List Cell) :
    Expression.ofText? (before ++ p.lower.params ++ after) (p.lower.textFrom before.length) =
      some p.expression := by
  have hspaced : p.lower.IsSpaced := by
    have hnil : BeginsApart [] := nofun
    rw [← List.append_nil p.lower]
    exact isSpaced_lower [] trivial hnil
  obtain ⟨parts, hreads, hstands⟩ := @isCondition_lower (before ++ p.lower.params ++ after) p
  have hparts := hreads [] [] []
  rw [List.append_nil, List.append_nil, readFrom] at hparts
  rw [Expression.ofText?, lexemes_textFrom hspaced, hparts]
  simp [hstands.readExpression]

end Predicate

end MediaCatalog

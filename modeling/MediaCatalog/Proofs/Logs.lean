import MediaCatalog.Proofs.Keys
/-!
# Logs of runs

The log of a run lists the single operations that were carried out and not given up with their
transaction, in order. A store is compared with the log of the run that led to it: an operation that
is not carried out leaves no trace, unless it adds links one by one.
-/

namespace MediaCatalog

/-- Single operations that were carried out, in order. -/
abbrev Log := List Operation

namespace Log

/-- The last of the values that a log gives. -/
def last? {α : Type} (value? : Operation → Option α) (log : Log) : Option α :=
  (log.filterMap value?).getLast?

variable {α : Type} {value? : Operation → Option α} {log : Log} {op : Operation}

theorem last?_append : last? value? (log ++ [op]) = (value? op).or (log.last? value?) := by
  unfold last?
  cases hvalue : value? op <;> simp [List.filterMap_append, hvalue]

theorem exists_of_last? {x : α} (h : log.last? value? = some x) : ∃ op ∈ log, value? op = some x :=
  List.mem_filterMap.1 (List.mem_of_getLast? h)

theorem last?_append_of_none (h : value? op = none) :
    last? value? (log ++ [op]) = log.last? value? := by
  rw [last?_append, h, Option.none_or]

end Log

namespace Operation

variable {s : Store} {op : Operation}

/-- The operation is carried out: it is not refused, and finds what it is to change. -/
def succeeds (s : Store) (op : Operation) : Bool :=
  match (op.apply s).1 with
  | .ok b => b
  | .error _ => false

mutual

/-- The single operations of an operation that are carried out and not given up, in order. -/
def done (s : Store) : Operation → Log
  | transaction parts keep =>
    if s.inTransaction = false ∧ keep = true then allDone { s with inTransaction := true } parts
    else []
  | op => if op.succeeds s then [op] else []

def allDone (s : Store) : List Operation → Log
  | [] => []
  | op :: ops => op.done s ++ allDone (op.apply s).2 ops

end

/-! ## Operations that are not carried out -/

/-- The operation adds links one by one, and may stop halfway. -/
def AddsLinks (op : Operation) : Prop :=
  ∃ r catalog media entities, op = .addRelations r catalog media entities

theorem made_of_not_succeeds {made? : Except StoreError Store} (hop : op.apply s = made s made?)
    (h : op.succeeds s = false) : (op.apply s).2 = s := by
  unfold succeeds at h
  rw [hop] at h ⊢
  cases made? with
  | ok s' => cases h
  | error e => rfl

theorem made_of_succeeds {made? : Except StoreError Store} (hop : op.apply s = made s made?)
    (h : op.succeeds s = true) : made? = .ok (op.apply s).2 := by
  unfold succeeds at h
  rw [hop] at h ⊢
  cases made? with
  | ok s' => rfl
  | error e => cases h

theorem map_ite_eq_self {α : Type} {p : α → Prop} [DecidablePred p] {f : α → α} {xs : List α}
    (h : ∀ x ∈ xs, ¬p x) : (xs.map fun x => if p x then f x else x) = xs := by
  conv_rhs => rw [← List.map_id xs]
  exact List.map_congr_left fun x hx => if_neg (h x hx)

theorem changeLive_of_not_isLive {id : String} {change : MediaItem → MediaItem}
    (h : s.isLive id = false) : (s.changeLive id change).2 = s := by
  have hitems := List.any_eq_false.1 h
  rw [Store.changeLive]
  exact congrArg (fun items => { s with items := items }) (map_ite_eq_self hitems)

/-- An operation that is not carried out leaves the store as it was. -/
theorem apply_of_not_succeeds (hsingle : op.IsSingle) (hlinks : ¬op.AddsLinks)
    (h : op.succeeds s = false) : (op.apply s).2 = s := by
  cases op with
  | createUser | createCatalog | grant | createEntity | createMedia | addFile | createSearch
  | insertSearch => exact made_of_not_succeeds rfl h
  | setParent hierarchy id parent =>
    have hnone : s.hasEntity hierarchy.relation id = false := h
    simp only [Store.hasEntity, Store.entity?, Option.isSome_eq_false_iff,
      Option.isNone_iff_eq_none, List.find?_eq_none] at hnone
    exact congrArg (fun entities => { s with entities := entities }) (map_ite_eq_self hnone)
  | updateMedia | deleteMedia => exact changeLive_of_not_isLive h
  | addRelations r catalog media entities => exact absurd ⟨r, catalog, media, entities, rfl⟩ hlinks
  | removeRelations => cases h
  | setRelations r catalog media entities =>
    cases hset : (s.setRelations r catalog media entities).1 with
    | ok =>
      have hok : ((s.setRelations r catalog media entities).1.map fun _ => true) = .ok true := by
        rw [hset]
        rfl
      unfold succeeds at h
      rw [apply, tried, hok] at h
      cases h
    | error e => exact Store.atomically_of_error hset
  | setLocation media person location =>
    have hnone : (s.link? .person media person).isSome = false := h
    simp only [Store.link?, Option.isSome_eq_false_iff, Option.isNone_iff_eq_none,
      List.find?_eq_none] at hnone
    exact congrArg (fun links => { s with links := links }) (map_ite_eq_self hnone)
  | updateSearch id name q shared =>
    have hnone : s.hasSearch id = false := h
    simp only [Store.hasSearch, List.any_eq_false, decide_eq_true_eq] at hnone
    exact congrArg (fun searches => { s with searches := searches }) (map_ite_eq_self hnone)
  | deleteSearch id =>
    have hnone : s.hasSearch id = false := h
    simp only [Store.hasSearch, List.any_eq_false, decide_eq_true_eq] at hnone
    refine congrArg (fun searches => { s with searches := searches }) (List.filter_eq_self.2 ?_)
    exact fun r hr => decide_eq_true (hnone r hr)
  | transaction => exact hsingle.elim

/-! ## Runs -/

/-- What holds of a log and a store goes on to hold through single operations that meet a condition:
those that are carried out, which come into the log, and the others. -/
structure Tracked (C : Store → Operation → Prop) (I : Log → Store → Prop) : Prop where
  done : ∀ {log s op}, op.IsSingle → C s op → op.succeeds s = true → I log s →
    I (log ++ [op]) (op.apply s).2
  missed : ∀ {log s op}, op.IsSingle → C s op → op.succeeds s = false → I log s → I log (op.apply s).2
  flag : ∀ {log s b}, I log s → I log { s with inTransaction := b }

variable {C : Store → Operation → Prop} {I : Log → Store → Prop}

mutual

theorem Tracked.apply {log : Log} {s : Store} {op : Operation} (htracked : Tracked C I)
    (hop : op.Along C s) (h : I log s) : I (log ++ op.done s) (op.apply s).2 := by
  have hsingle : op.IsSingle → op.done s = (if op.succeeds s then [op] else []) → C s op →
      I (log ++ op.done s) (op.apply s).2 := by
    intro hsingle hdone hop
    rw [hdone]
    cases hsucceeds : op.succeeds s with
    | true => exact htracked.done hsingle hop hsucceeds h
    | false =>
      rw [if_neg Bool.false_ne_true, List.append_nil]
      exact htracked.missed hsingle hop hsucceeds h
  cases op with
  | transaction parts keep =>
    rw [apply_transaction, Operation.done]
    split
    next hkept => exact htracked.flag (htracked.applyAll (hop hkept.1 hkept.2) (htracked.flag h))
    next => rwa [List.append_nil]
  | _ => exact hsingle trivial rfl hop

theorem Tracked.applyAll {log : Log} {s : Store} {ops : List Operation}
    (htracked : Tracked C I) (hops : AllAlong C s ops) (h : I log s) :
    I (log ++ allDone s ops) (applyAll s ops) := by
  cases ops with
  | nil => rwa [allDone, List.append_nil]
  | cons op ops =>
    rw [Operation.applyAll, allDone, ← List.append_assoc]
    exact htracked.applyAll hops.2 (htracked.apply hops.1 h)

end

end Operation

namespace Store

/-- A store that operations lead to from the beginning, at any time, with the log of the run. Each
single operation that is not given up meets a condition. -/
inductive Logged (C : Store → Operation → Prop) : Log → Store → Prop
  | empty : Logged C [] empty
  | operation {log : Log} {s : Store} {op : Operation} : Logged C log s → op.Along C s →
      Logged C (log ++ op.done s) (op.apply s).2
  | opening {log : Log} {s : Store} : Logged C log s → s.inTransaction = false →
      Logged C log { s with inTransaction := true }
  | commit {log : Log} {s : Store} : Logged C log s →
      Logged C log { s with inTransaction := false }

variable {C : Store → Operation → Prop} {log : Log} {s : Store}

theorem Logged.applyAll {ops : List Operation} (h : Logged C log s)
    (hops : Operation.AllAlong C s ops) :
    Logged C (log ++ Operation.allDone s ops) (Operation.applyAll s ops) := by
  induction ops generalizing log s with
  | nil => rwa [Operation.allDone, List.append_nil]
  | cons op ops ih =>
    rw [Operation.applyAll, Operation.allDone, ← List.append_assoc]
    exact ih (h.operation hops.1) hops.2

theorem logged_after {history : List Operation} (h : Operation.AllAlong C empty history) :
    Logged C (Operation.allDone empty history) (after history) :=
  Logged.empty.applyAll h

theorem Logged.later (h : Logged C log s) : Store.empty.Later C s := by
  induction h with
  | empty => exact .refl
  | operation _ hop ih => exact ih.operation hop
  | opening _ hout ih => exact ih.opening hout
  | commit _ ih => exact ih.commit

/-- What every operation keeps holds after the run. -/
theorem Logged.kept {I : Store → Prop} (h : Logged C log s)
    (hkept : Operation.Kept (fun _ _ => True) I) (hempty : I .empty) : I s :=
  h.later.kept (hkept.imp fun _ _ _ => trivial) hempty

theorem Logged.keyed (h : Logged C log s) : s.Keyed := h.kept kept_keyed ⟨.nil, .nil, .nil⟩

theorem Logged.tracked {I : Log → Store → Prop} (h : Logged C log s)
    (htracked : Operation.Tracked C I) (hempty : I [] .empty) : I log s := by
  induction h with
  | empty => exact hempty
  | operation _ hop ih => exact htracked.apply hop ih
  | opening _ _ ih => exact htracked.flag ih
  | commit _ ih => exact htracked.flag ih

/-- What a run asks of its operations holds of those in its log. -/
theorem Logged.forall_mem {P : Operation → Prop} (h : Logged (fun _ op => P op) log s) :
    ∀ op ∈ log, P op := by
  refine h.tracked (I := fun log _ => ∀ op ∈ log, P op) ⟨?_, ?_, ?_⟩ nofun
  · rintro log s op - hop - hlog op' hmem
    rcases List.mem_append.1 hmem with hmem | hmem
    · exact hlog op' hmem
    · exact List.mem_singleton.1 hmem ▸ hop
  · exact fun _ _ _ hlog => hlog
  · exact fun hlog => hlog

end Store

end MediaCatalog

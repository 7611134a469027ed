import MediaCatalog.Proofs.JsonReading
import MediaCatalog.Proofs.StoredTime
import MediaCatalog.Media.Metadata
/-!
# Records that are read

What filling a record keeps holds of every record that is read, from a text or from a document.
Metadata that is read was taken at an instant that a clock can show.
-/

namespace MediaCatalog

namespace Json.RecordShape

variable {α : Type} {shape : RecordShape α} {V : Json → Prop} {P : α → Prop} {r r' : OpenRecord α}
  {a : α} {v j : Json} {key text : String} {keys : List String} {ms : List (String × Json)}
  {cs rest fuel : List Char}

/-- Every value of some sort that is put into a record keeps what holds of it at first. -/
structure Keeps (shape : RecordShape α) (V : Json → Prop) (P : α → Prop) : Prop where
  initial : P shape.initial
  set : ∀ a key v b, V v → P a → shape.set? a key v = some b → P b

theorem Keeps.put (h : shape.Keeps V P) (hv : V v) (hr : P r.value)
    (hput : shape.put? r key v = some r') : P r'.value := by
  unfold put? at hput
  split at hput
  · cases hput
  · obtain ⟨b, hset, rfl⟩ := Option.map_eq_some_iff.1 hput
    exact h.set _ _ _ _ hv hr hset

theorem finish_eq_some (h : shape.finish? r = some a) : r.value = a := by
  unfold finish? at h
  split at h
  · exact Option.some.inj h
  · cases h

/-! ## From a document -/

theorem Keeps.putMembers (h : shape.Keeps (fun _ => True) P) (hr : P r.value)
    (hput : shape.putMembers? r ms = some r') : P r'.value := by
  induction ms generalizing r with
  | nil =>
    cases hput
    exact hr
  | cons m ms ih =>
    rw [putMembers?] at hput
    split at hput
    · obtain ⟨r₁, hfirst, hmore⟩ := Option.bind_eq_some_iff.1 hput
      exact ih (h.put trivial hr hfirst) hmore
    · exact ih hr hput

theorem Keeps.ofJson (h : shape.Keeps (fun _ => True) P) (hread : shape.ofJson? j = some a) : P a := by
  have hfilled : ∀ ms, (shape.putMembers? shape.start ms).bind shape.finish? = some a → P a := by
    intro ms hms
    obtain ⟨r, hput, hfinish⟩ := Option.bind_eq_some_iff.1 hms
    rw [← finish_eq_some hfinish]
    exact h.putMembers h.initial hput
  cases j with
  | object ms => exact hfilled ms hread
  | array xs =>
    rw [ofJson?] at hread
    split at hread
    · exact hfilled _ hread
    · cases hread
  | _ => cases hread

/-! ## From a text -/

/-- What is read as a scalar nests nothing. -/
theorem nests_of_readScalar (h : readScalar cs = .ok (v, rest)) : v.Nests 0 :=
  nests_of_readScalarOr (fun _ _ => stop_ne_ok) h

theorem orStop_eq_ok {β : Type} {x : Option β} {b : β} (h : orStop cs x = .ok b) : x = some b := by
  cases x with
  | none => cases h
  | some x => exact congrArg some (Except.ok.inj h)

theorem Keeps.readMemberInto (h : shape.Keeps (Nests 0) P) (hr : P r.value)
    (hread : shape.readMemberInto r cs = .ok (r', rest)) : P r'.value := by
  obtain ⟨⟨key, cs₁⟩, -, hread⟩ := bind_eq_ok.1 hread
  dsimp only at hread
  split at hread
  · split at hread
    · cases hread
    · obtain ⟨cs₂, -, hread⟩ := bind_eq_ok.1 hread
      obtain ⟨⟨v, cs₃⟩, hv, hread⟩ := bind_eq_ok.1 hread
      obtain ⟨r₁, hput, hread⟩ := bind_eq_ok.1 hread
      cases hread
      exact h.put (nests_of_readScalar hv) hr (orStop_eq_ok hput)
  · obtain ⟨cs₂, -, hread⟩ := bind_eq_ok.1 hread
    obtain ⟨cs₃, -, hread⟩ := bind_eq_ok.1 hread
    cases hread
    exact hr

theorem Keeps.readMembersInto (h : shape.Keeps (Nests 0) P) (hr : P r.value)
    (hread : shape.readMembersInto fuel r cs = .ok (r', rest)) : P r'.value := by
  induction fuel generalizing r cs with
  | nil => cases hread
  | cons f fuel ih =>
    rw [RecordShape.readMembersInto] at hread
    obtain ⟨⟨more, cs₁⟩, -, hread⟩ := bind_eq_ok.1 hread
    dsimp only at hread
    split at hread
    · obtain ⟨⟨r₁, cs₂⟩, hmember, hread⟩ := bind_eq_ok.1 hread
      exact ih (h.readMemberInto hr hmember) hread
    · cases hread
      exact hr

/-- A record that is complete is kept as it was filled. -/
theorem finish_eq_ok (hr : P r.value)
    (h : (orStop cs (shape.finish? r) >>= fun b => pure (b, cs)) = .ok (a, rest)) : P a := by
  obtain ⟨b, hfinish, h⟩ := bind_eq_ok.1 h
  cases h
  rw [← finish_eq_some (orStop_eq_ok hfinish)]
  exact hr

theorem Keeps.readObject (h : shape.Keeps (Nests 0) P) (hread : shape.readObject cs = .ok (a, rest)) : P a := by
  unfold RecordShape.readObject at hread
  split at hread
  · cases hread
  · dsimp only at hread
    split at hread
    · exact finish_eq_ok h.initial hread
    · obtain ⟨⟨r, cs₁⟩, hfirst, hread⟩ := bind_eq_ok.1 hread
      obtain ⟨⟨r', cs₂⟩, hmore, hread⟩ := bind_eq_ok.1 hread
      exact finish_eq_ok (h.readMembersInto (h.readMemberInto h.initial hfirst) hmore) hread

theorem Keeps.readElements (h : shape.Keeps (Nests 0) P) (hr : P r.value)
    (hread : shape.readElements keys r cs = .ok (r', rest)) : P r'.value := by
  induction keys generalizing r cs with
  | nil =>
    unfold RecordShape.readElements at hread
    split at hread
    · cases hread
    · split at hread
      · cases hread
        exact hr
      · cases hread
  | cons key keys ih =>
    rw [RecordShape.readElements] at hread
    dsimp only at hread
    -- The first value has no comma before it; what follows is the same.
    split at hread
    all_goals
      obtain ⟨⟨more, cs₁⟩, -, hread⟩ := bind_eq_ok.1 hread
      dsimp only at hread
      split at hread
      · cases hread
      · obtain ⟨⟨v, cs₂⟩, hv, hread⟩ := bind_eq_ok.1 hread
        obtain ⟨r₁, hput, hread⟩ := bind_eq_ok.1 hread
        exact ih (h.put (nests_of_readScalar hv) hr (orStop_eq_ok hput)) hread

theorem Keeps.read (h : shape.Keeps (Nests 0) P) (hread : shape.read cs = .ok (a, rest)) : P a := by
  unfold RecordShape.read at hread
  split at hread
  · exact h.readObject hread
  · obtain ⟨⟨r, cs₁⟩, helements, hread⟩ := bind_eq_ok.1 hread
    exact finish_eq_ok (h.readElements h.initial helements) hread
  · obtain ⟨⟨v, cs₁⟩, -, hread⟩ := bind_eq_ok.1 hread
    cases hread

theorem Keeps.parse (h : shape.Keeps (Nests 0) P) (hread : shape.parse text = .ok a) : P a := by
  unfold RecordShape.parse Reader.parse at hread
  split at hread
  next b rest halone =>
    obtain rfl := Except.ok.inj hread
    obtain ⟨⟨b', rest'⟩, hb, halone⟩ := bind_eq_ok.1 halone
    obtain ⟨_, -, halone⟩ := bind_eq_ok.1 halone
    cases halone
    exact h.read hb
  next => cases hread

end Json.RecordShape

namespace Metadata

/-- The metadata is what a text or a document says. -/
def IsRead (m : Metadata) : Prop :=
  (∃ text, shape.parse text = .ok m) ∨ ∃ j, shape.ofJson? j = some m

/-- What the metadata was taken at, if anything, satisfies a condition. -/
def TakenAt (P : Time.Instant → Prop) (m : Metadata) : Prop := ∀ z, m.taken = some z → P z.instant

/-- What the metadata was taken at, if anything, is a timestamp in the relaxed form. -/
def TakenIsRead (m : Metadata) : Prop :=
  ∀ z, m.taken = some z → ∃ text, Time.parseRelaxed? text = some z

theorem orNull_timestamp {v : Json} {x : Option Time.ZonedInstant}
    (h : orNull? timestamp? v = some x) :
    ∀ z, x = some z → ∃ text, Time.parseRelaxed? text = some z := by
  rintro z rfl
  cases v with
  | string s =>
    obtain ⟨z', hz, heq⟩ := Option.map_eq_some_iff.1 h
    cases heq
    exact ⟨s, hz⟩
  | _ => cases h

theorem TakenIsRead.setField {m m' : Metadata} {v : Json} {f : MetadataField}
    (hm : m.TakenIsRead) (hset : m.setField? v f = some m') : m'.TakenIsRead := by
  cases f with
  | taken =>
    obtain ⟨x, hx, rfl⟩ := Option.map_eq_some_iff.1 hset
    exact orNull_timestamp hx
  | _ =>
    obtain ⟨x, -, rfl⟩ := Option.map_eq_some_iff.1 hset
    exact hm

theorem keeps_takenIsRead {V : Json → Prop} : shape.Keeps V TakenIsRead := by
  constructor
  · intro z hz
    cases hz
  · intro m key v m' _ hm hset
    unfold shape set? at hset
    dsimp only at hset
    split at hset
    · obtain ⟨x, -, rfl⟩ := Option.map_eq_some_iff.1 hset
      exact hm
    · obtain ⟨f, -, hset⟩ := Option.bind_eq_some_iff.1 hset
      exact hm.setField hset

theorem IsRead.takenIsRead {m : Metadata} (h : m.IsRead) : m.TakenIsRead := by
  rcases h with ⟨text, htext⟩ | ⟨j, hj⟩
  · exact keeps_takenIsRead.parse htext
  · exact keeps_takenIsRead.ofJson hj

/-- Metadata that is read was taken at an instant that a clock can show. -/
theorem IsRead.takenAt {m : Metadata} (h : m.IsRead) : m.TakenAt Time.Instant.HasClock := by
  intro z hz
  obtain ⟨text, htext⟩ := h.takenIsRead z hz
  exact Time.hasClock_of_parseRelaxed? htext

/-- Metadata that says only when something was taken. -/
def onlyTaken (z : Time.ZonedInstant) : Metadata := { empty with taken := some z }

theorem isRead_onlyTaken {text : String} {z : Time.ZonedInstant}
    (h : Time.parseRelaxed? text = some z) : (onlyTaken z).IsRead := by
  have hvalue : orNull? timestamp? (.string text) = some (some z) := congrArg (Option.map some) h
  have hset : shape.set? shape.start.value "taken" (.string text) = some (onlyTaken z) :=
    congrArg (Option.map _) hvalue
  have hput : shape.put? shape.start "taken" (.string text) = some ⟨onlyTaken z, ["taken"]⟩ :=
    congrArg (Option.map _) hset
  have hkey : shape.keys.contains "taken" = true := rfl
  refine .inr ⟨.object [("taken", .string text)], ?_⟩
  rw [Json.RecordShape.ofJson?, Json.RecordShape.putMembers?, if_pos hkey, hput]
  rfl

end Metadata

end MediaCatalog

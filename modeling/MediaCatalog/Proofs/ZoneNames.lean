import MediaCatalog.Proofs.Zones
/-!
# Which texts name a zone

The names of zones are laid down by a grammar, and read are exactly these, with blanks around them or
none. The reader can be run on bytes and in 32 bits: no text is ever cut inside of a character, and no
number outgrows its bounds.
-/

namespace MediaCatalog.Time

variable {cs name before after hours minutes : List Char} {zone : String} {east : Int} {h m n : Nat}

/-! ## The grammar -/

/-- One or more digits, with their value. -/
structure IsNumeral (ds : List Char) (n : Nat) : Prop where
  ne_nil : ds ≠ []
  digits : ∀ d ∈ ds, d.isDigit = true
  value : digitsValue ds = n

/-- Hours and minutes as they are written: with a colon between them, as four digits, or the hours alone,
which are any number of digits but four. -/
inductive Clocked : List Char → Nat → Nat → Prop
  | apart {hs ms : List Char} {h m : Nat} : IsNumeral hs h → IsNumeral ms m →
      Clocked (hs ++ ':' :: ms) h m
  | together {a b c d : Char} {h m : Nat} : IsNumeral [a, b] h → IsNumeral [c, d] m →
      Clocked [a, b, c, d] h m
  | hours {hs : List Char} {h : Nat} : IsNumeral hs h → hs.length ≠ 4 → Clocked hs h 0

/-- The names of zones, with their offsets in seconds east of UTC. -/
inductive Names : List Char → Int → Prop
  | utc {u t c : Char} : u = 'u' ∨ u = 'U' → t = 't' ∨ t = 'T' → c = 'c' ∨ c = 'C' → Names [u, t, c] 0
  | zulu : Names ['Z'] 0
  | east {pre cs : List Char} {h m : Nat} : pre = [] ∨ pre = ['U', 'T', 'C'] → Clocked cs h m →
      h ≤ 14 → m < 60 → Names (pre ++ '+' :: cs) (h * 3600 + m * 60)
  | west {pre cs : List Char} {h m : Nat} : pre = [] ∨ pre = ['U', 'T', 'C'] → Clocked cs h m →
      h ≤ 14 → m < 60 → Names (pre ++ '-' :: cs) (-(h * 3600 + m * 60))

/-! ## Numbers -/

theorem plainNumber?_eq_some : plainNumber? cs = some n ↔ IsNumeral cs n := by
  unfold plainNumber?
  constructor
  · intro hn
    split at hn
    · cases hn
    next hdigits =>
      simp only [Bool.or_eq_true, Bool.not_eq_true', not_or, Bool.not_eq_true, Bool.not_eq_false,
        List.isEmpty_eq_false_iff, List.all_eq_true] at hdigits
      exact ⟨hdigits.1, hdigits.2, Option.some.inj hn⟩
  · rintro ⟨hne, hdigits, rfl⟩
    simp [hne, List.all_eq_true.2 hdigits]

theorem IsNumeral.colon_notMem (hn : IsNumeral cs n) : ':' ∉ cs :=
  fun hmem => absurd (hn.digits _ hmem) (by decide)

/-! ## Hours and minutes -/

theorem Clocked.isDigit_or (hclock : Clocked cs h m) : ∀ c ∈ cs, c.isDigit = true ∨ c = ':' := by
  intro c hc
  cases hclock with
  | apart hhours hminutes =>
    rcases List.mem_append.1 hc with hc | hc
    · exact .inl (hhours.digits c hc)
    · rcases List.mem_cons.1 hc with rfl | hc
      · exact .inr rfl
      · exact .inl (hminutes.digits c hc)
  | together hhours hminutes =>
    rcases List.mem_append.1 (show c ∈ [_, _] ++ [_, _] from hc) with hc | hc
    · exact .inl (hhours.digits c hc)
    · exact .inl (hminutes.digits c hc)
  | hours hhours _ => exact .inl (hhours.digits c hc)

theorem splitHours_colon (hcolon : ':' ∉ hours) :
    splitHours (hours ++ ':' :: minutes) = (hours, minutes) := by
  have hplain : ∀ c ∈ hours, decide (c ≠ ':') = true := by
    intro c hc
    refine decide_eq_true ?_
    rintro rfl
    exact hcolon hc
  rw [splitHours, if_pos (by simp), List.takeWhile_append_of_pos hplain,
    List.dropWhile_append_of_pos hplain]
  simp

theorem splitHours_of_notMem (hcolon : ':' ∉ cs) :
    splitHours cs = if cs.length = 4 then (cs.take 2, cs.drop 2) else (cs, ['0']) := by
  rw [splitHours, if_neg (by simpa using hcolon)]

/-- A text is split where the grammar does it. -/
theorem clocked_iff : Clocked cs h m ↔ IsNumeral (splitHours cs).1 h ∧ IsNumeral (splitHours cs).2 m := by
  constructor
  · rintro (⟨hhours, hminutes⟩ | ⟨hhours, hminutes⟩ | ⟨hhours, hlength⟩)
    · rw [splitHours_colon hhours.colon_notMem]
      exact ⟨hhours, hminutes⟩
    · have hcolon := List.not_mem_append hhours.colon_notMem hminutes.colon_notMem
      rw [splitHours_of_notMem (by simpa using hcolon)]
      exact ⟨hhours, hminutes⟩
    · rw [splitHours_of_notMem hhours.colon_notMem, if_neg hlength]
      exact ⟨hhours, ⟨by simp, by simp, rfl⟩⟩
  · rintro ⟨hhours, hminutes⟩
    by_cases hcolon : ':' ∈ cs
    · obtain ⟨hs, ms, rfl, hfirst⟩ := List.eq_append_cons_of_mem hcolon
      rw [splitHours_colon hfirst] at hhours hminutes
      exact .apart hhours hminutes
    · rw [splitHours_of_notMem hcolon] at hhours hminutes
      by_cases hlength : cs.length = 4
      · rw [if_pos hlength] at hhours hminutes
        match cs, hlength with
        | [a, b, c, d], _ => exact .together hhours hminutes
      · rw [if_neg hlength] at hhours hminutes
        obtain rfl : 0 = m := hminutes.value
        exact .hours hhours hlength

theorem offsetSeconds?_eq_some : offsetSeconds? cs = some n ↔
    ∃ h m, Clocked cs h m ∧ h ≤ 14 ∧ m < 60 ∧ n = h * 3600 + m * 60 := by
  simp only [offsetSeconds?, Option.bind_eq_bind, Option.bind_eq_some_iff, plainNumber?_eq_some,
    clocked_iff]
  constructor
  · rintro ⟨h, hhours, m, hminutes, hn⟩
    split at hn
    · cases hn
    next hbounds =>
      rw [not_or, Nat.not_lt, Nat.not_le] at hbounds
      exact ⟨h, m, ⟨hhours, hminutes⟩, hbounds.1, hbounds.2, (Option.some.inj hn).symm⟩
  · rintro ⟨h, m, ⟨hhours, hminutes⟩, hh, hm, rfl⟩
    exact ⟨h, hhours, m, hminutes, if_neg (by omega)⟩

/-! ## Letters -/

/-- The letters that a small letter is made of: itself, and its capital. -/
theorem toLower_eq_iff {c low up : Char} (hlow : low.toLower = low) (hup : up.toLower = low)
    (hval : low.val - ('a'.val - 'A'.val) = up.val) : c.toLower = low ↔ c = low ∨ c = up := by
  constructor
  · intro h
    unfold Char.toLower at h
    split at h
    · have hnext : c.val + ('a'.val - 'A'.val) = low.val := congrArg Char.val h
      have hsame : c.val = up.val := by rw [← hval, ← hnext, UInt32.add_sub_cancel]
      exact .inr (Char.ext hsame)
    · exact .inl h
  · rintro (rfl | rfl)
    · exact hlow
    · exact hup

theorem toLower_eq_utc : cs.map Char.toLower = ['u', 't', 'c'] ↔ ∃ u t c, cs = [u, t, c] ∧
    (u = 'u' ∨ u = 'U') ∧ (t = 't' ∨ t = 'T') ∧ (c = 'c' ∨ c = 'C') := by
  simp only [List.map_eq_cons_iff, List.map_eq_nil_iff, @toLower_eq_iff _ 'u' 'U' rfl rfl rfl,
    @toLower_eq_iff _ 't' 'T' rfl rfl rfl, @toLower_eq_iff _ 'c' 'C' rfl rfl rfl]
  constructor
  · rintro ⟨u, _, rfl, hu, t, _, rfl, ht, c, _, rfl, hc, rfl⟩
    exact ⟨u, t, c, rfl, hu, ht, hc⟩
  · rintro ⟨u, t, c, rfl, hu, ht, hc⟩
    exact ⟨u, _, rfl, hu, t, _, rfl, ht, c, _, rfl, hc, rfl⟩

/-- At most the letters `UTC` are dropped from the front. -/
theorem exists_eq_withoutUtc : ∃ pre, (pre = [] ∨ pre = ['U', 'T', 'C']) ∧ cs = pre ++ withoutUtc cs := by
  unfold withoutUtc
  split
  · exact ⟨_, .inr rfl, rfl⟩
  · exact ⟨_, .inl rfl, rfl⟩

/-- What begins with a sign is not dropped. -/
theorem withoutUtc_sign {c : Char} {pre : List Char} (hsign : c = '+' ∨ c = '-')
    (hpre : pre = [] ∨ pre = ['U', 'T', 'C']) : withoutUtc (pre ++ c :: cs) = c :: cs := by
  rcases hpre with rfl | rfl
  · rcases hsign with rfl | rfl <;> rfl
  · rfl

/-- A name with a sign is neither of the two names without one. -/
theorem not_plain {c : Char} {pre : List Char} (hsign : c = '+' ∨ c = '-')
    (hpre : pre = [] ∨ pre = ['U', 'T', 'C']) :
    ¬((pre ++ c :: cs).map Char.toLower = ['u', 't', 'c'] ∨ pre ++ c :: cs = ['Z']) := by
  rcases hpre with rfl | rfl <;> rcases hsign with rfl | rfl <;> simp

/-! ## Names -/

theorem parseZone?_of_plain
    (hplain : (Text.trim zone.toList).map Char.toLower = ['u', 't', 'c'] ∨ Text.trim zone.toList = ['Z']) :
    parseZone? zone = some 0 :=
  if_pos hplain

/-- Apart from the two names without a sign, the sign decides. -/
theorem parseZone?_of_not_plain
    (hplain : ¬((Text.trim zone.toList).map Char.toLower = ['u', 't', 'c'] ∨
      Text.trim zone.toList = ['Z'])) : parseZone? zone =
      match withoutUtc (Text.trim zone.toList) with
      | '+' :: rest => (offsetSeconds? rest).map fun n : Nat => (n : Int)
      | '-' :: rest => (offsetSeconds? rest).map fun n : Nat => -(n : Int)
      | _ => none := by
  refine (if_neg hplain).trans ?_
  generalize withoutUtc (Text.trim zone.toList) = signed
  split
  next rest => simp [Option.map_eq_bind]
  next rest => simp [Option.map_eq_bind, Option.bind_assoc]
  next => simp

/-- What is read without the blanks around it is a name. -/
theorem names_of_parseZone? (h : parseZone? zone = some east) : Names (Text.trim zone.toList) east := by
  by_cases hplain : (Text.trim zone.toList).map Char.toLower = ['u', 't', 'c'] ∨
      Text.trim zone.toList = ['Z']
  · rw [parseZone?_of_plain hplain] at h
    obtain rfl := Option.some.inj h
    rcases hplain with hutc | hzulu
    · obtain ⟨u, t, c, hcs, hu, ht, hc⟩ := toLower_eq_utc.1 hutc
      exact hcs ▸ .utc hu ht hc
    · exact hzulu ▸ .zulu
  · rw [parseZone?_of_not_plain hplain] at h
    obtain ⟨pre, hpre, hcs⟩ := @exists_eq_withoutUtc (Text.trim zone.toList)
    split at h
    next rest hrest =>
      obtain ⟨n, hn, rfl⟩ := Option.map_eq_some_iff.1 h
      obtain ⟨h, m, hclock, hh, hm, rfl⟩ := offsetSeconds?_eq_some.1 hn
      rw [hcs, hrest]
      exact_mod_cast Names.east hpre hclock hh hm
    next rest hrest =>
      obtain ⟨n, hn, rfl⟩ := Option.map_eq_some_iff.1 h
      obtain ⟨h, m, hclock, hh, hm, rfl⟩ := offsetSeconds?_eq_some.1 hn
      rw [hcs, hrest]
      exact_mod_cast Names.west hpre hclock hh hm
    next => cases h

theorem parseZone?_of_names (h : Names (Text.trim zone.toList) east) : parseZone? zone = some east := by
  generalize hcs : Text.trim zone.toList = cs at h
  cases h with
  | utc hu ht hc => exact parseZone?_of_plain (.inl (hcs ▸ toLower_eq_utc.2 ⟨_, _, _, rfl, hu, ht, hc⟩))
  | zulu => exact parseZone?_of_plain (.inr hcs)
  | east hpre hclock hh hm =>
    rw [parseZone?_of_not_plain (hcs ▸ not_plain (.inl rfl) hpre), hcs, withoutUtc_sign (.inl rfl) hpre]
    refine Option.map_eq_some_iff.2 ⟨_, offsetSeconds?_eq_some.2 ⟨_, _, hclock, hh, hm, rfl⟩, ?_⟩
    push_cast
    rfl
  | west hpre hclock hh hm =>
    rw [parseZone?_of_not_plain (hcs ▸ not_plain (.inr rfl) hpre), hcs, withoutUtc_sign (.inr rfl) hpre]
    refine Option.map_eq_some_iff.2 ⟨_, offsetSeconds?_eq_some.2 ⟨_, _, hclock, hh, hm, rfl⟩, ?_⟩
    push_cast
    rfl

/-- A zone is read as the name that is left without the blanks around it. -/
theorem parseZone?_iff_trim : parseZone? zone = some east ↔ Names (Text.trim zone.toList) east :=
  ⟨names_of_parseZone?, parseZone?_of_names⟩

/-! ## Blanks around a name -/

/-- A text is what it is without blanks around it, with blanks around it. -/
theorem exists_eq_trim : ∃ before after, cs = before ++ Text.trim cs ++ after ∧
    (∀ c ∈ before, Text.isBlank c = true) ∧ ∀ c ∈ after, Text.isBlank c = true := by
  refine ⟨cs.takeWhile Text.isBlank, ((Text.trimStart cs).reverse.takeWhile Text.isBlank).reverse, ?_,
    fun c hc => List.mem_takeWhile_imp hc, fun c hc => ?_⟩
  · have hend : Text.trimStart cs = Text.trim cs ++
        ((Text.trimStart cs).reverse.takeWhile Text.isBlank).reverse := by
      rw [Text.trim, Text.trimStart.eq_1 (Text.trimStart cs).reverse, ← List.reverse_append,
        List.takeWhile_append_dropWhile, List.reverse_reverse]
    rw [List.append_assoc, ← hend]
    exact List.takeWhile_append_dropWhile.symm
  · exact List.mem_takeWhile_imp (List.mem_reverse.1 hc)

/-- Blanks around a text without blanks are dropped. -/
theorem trim_append (hbefore : ∀ c ∈ before, Text.isBlank c = true)
    (hafter : ∀ c ∈ after, Text.isBlank c = true) (hname : ∀ c ∈ name, Text.isBlank c = false) :
    Text.trim (before ++ name ++ after) = name := by
  have hstart : Text.trimStart (name ++ after) = if name = [] then [] else name ++ after := by
    cases name with
    | nil => exact List.dropWhile_eq_nil_iff.2 hafter
    | cons c name => exact List.dropWhile_cons_of_neg (by simp [hname c List.mem_cons_self])
  have hreverse : ∀ c ∈ name.reverse, Text.isBlank c = false :=
    fun c hc => hname c (List.mem_reverse.1 hc)
  rw [Text.trim, List.append_assoc, Text.trimStart.eq_1 (before ++ _),
    List.dropWhile_append_of_pos hbefore, ← Text.trimStart.eq_1, hstart]
  split
  next hempty => simp [hempty, Text.trimStart]
  next =>
    rw [List.reverse_append, Text.trimStart,
      List.dropWhile_append_of_pos fun c hc => hafter c (List.mem_reverse.1 hc), ← Text.trimStart.eq_1,
      trimStart_eq_self hreverse, List.reverse_reverse]

theorem Clocked.isBlank (hclock : Clocked cs h m) : ∀ c ∈ cs, Text.isBlank c = false := by
  intro c hc
  rcases hclock.isDigit_or c hc with hdigit | rfl
  · exact isBlank_of_isDigit hdigit
  · rfl

/-- Of a text that is spelled out each character is looked at. -/
theorem isBlank_of_all (hall : (cs.all fun c => !Text.isBlank c) = true) :
    ∀ c ∈ cs, Text.isBlank c = false := by
  simpa using hall

theorem Names.isBlank (hname : Names name east) : ∀ c ∈ name, Text.isBlank c = false := by
  have hsigned : ∀ {pre cs : List Char} {sign : Char} {h m : Nat}, Text.isBlank sign = false →
      pre = [] ∨ pre = ['U', 'T', 'C'] → Clocked cs h m →
      ∀ c ∈ pre ++ sign :: cs, Text.isBlank c = false := by
    rintro pre cs sign h m hsign (rfl | rfl) hclock
    · simpa [hsign] using hclock.isBlank
    · simpa [hsign, show Text.isBlank 'U' = false from rfl, show Text.isBlank 'T' = false from rfl,
        show Text.isBlank 'C' = false from rfl] using hclock.isBlank
  cases hname with
  | utc hu ht hc =>
    refine isBlank_of_all ?_
    rcases hu with rfl | rfl <;> rcases ht with rfl | rfl <;> rcases hc with rfl | rfl <;> decide
  | zulu => exact isBlank_of_all (by decide)
  | east hpre hclock _ _ => exact hsigned rfl hpre hclock
  | west hpre hclock _ _ => exact hsigned rfl hpre hclock

/-- Read are the names of zones with blanks around them, and no other texts. -/
theorem parseZone?_iff_names : parseZone? zone = some east ↔
    ∃ before name after, zone.toList = before ++ name ++ after ∧ Names name east ∧
      (∀ c ∈ before, Text.isBlank c = true) ∧ ∀ c ∈ after, Text.isBlank c = true := by
  rw [parseZone?_iff_trim]
  constructor
  · intro hname
    obtain ⟨before, after, hcs, hbefore, hafter⟩ := @exists_eq_trim zone.toList
    exact ⟨before, _, after, hcs, hname, hbefore, hafter⟩
  · rintro ⟨before, name, after, hcs, hname, hbefore, hafter⟩
    rwa [hcs, trim_append hbefore hafter hname.isBlank]

/-! ## Bounds -/

/-- The farthest offset that has a name, in seconds: 14 hours and 59 minutes. -/
def farthest : Nat := 14 * 3600 + 59 * 60

theorem Names.bounds (hname : Names name east) : east % 60 = 0 ∧ east.natAbs ≤ farthest := by
  have hfarthest : farthest = 53940 := rfl
  cases hname <;> omega

theorem parseZone?_bounds (hzone : parseZone? zone = some east) :
    east % 60 = 0 ∧ east.natAbs ≤ farthest :=
  (parseZone?_iff_trim.1 hzone).bounds

/-- An offset is read back from the text that it is printed as. -/
theorem parseZone?_printed (hminutes : east % 60 = 0) (hnear : east.natAbs ≤ farthest) :
    parseZone? (String.ofList (offsetText east)) = some east := by
  have hlimit : farthest < zoneLimit := by decide
  rw [parseZone?_offsetText hminutes, if_pos (by omega)]

theorem localize_minutes {t : Instant} {zone : Option String} : (localize t zone).offset % 60 = 0 := by
  cases hread : zone.bind parseZone? with
  | none => simp [localize, hread]
  | some east =>
    obtain ⟨name, -, hname⟩ := Option.bind_eq_some_iff.1 hread
    simpa [localize, hread] using (parseZone?_bounds hname).1

/-- What a clock shows at an offset of whole minutes names the instant. -/
theorem Instant.HasClock.toInstant_wallClock_east {t : Instant} (ht : t.HasClock)
    (heast : east % 60 = 0) : (t.wallClock east).toInstant east = t := by
  obtain ⟨hnanos, hleap⟩ := ht
  obtain ⟨seconds, nanos⟩ := t
  simp only [nanosPerSecond] at hnanos hleap
  simp only [WallClock.toInstant, wallClock, Date.toDays_ofDays, nanosPerSecond, Instant.mk.injEq]
  omega

/-! ## By bytes and in 32 bits -/

/-- What must not be done with a text that is kept in bytes, and with numbers of 32 bits. -/
inductive Slip where
  /-- A cut inside of a character, or after the end. -/
  | cut
  /-- A number out of its bounds. -/
  | overflow

/-- Cuts a text some bytes from its start. -/
def cut : Nat → List Char → Except Slip (List Char × List Char)
  | 0, cs => .ok ([], cs)
  | _ + 1, [] => .error .cut
  | n + 1, c :: cs =>
    if n + 1 < c.utf8Size then .error .cut
    else (cut (n + 1 - c.utf8Size) cs).map fun (front, rest) => (c :: front, rest)

/-- The largest number of 32 bits beside a sign. -/
def maxShort : Nat := 2147483647

/-- The value of digits, if it is a number of 32 bits. -/
def shortNumber? (ds : List Char) : Option Nat := (plainNumber? ds).filter (· ≤ maxShort)

/-- The result of a calculation in 32 bits. -/
def short (n : Int) : Except Slip Int := if n.natAbs ≤ maxShort then .ok n else .error .overflow

def byteLength (cs : List Char) : Nat := (cs.map Char.utf8Size).sum

/-- Hours and minutes, of which four bytes are cut in two. -/
def splitBytes (cs : List Char) : Except Slip (List Char × List Char) :=
  if cs.contains ':' then .ok (splitHours cs)
  else if byteLength cs = 4 then cut 2 cs
  else .ok (cs, ['0'])

/-- The seconds of hours and minutes with a sign, less than a day. -/
def signedSeconds (sign : Int) (cs : List Char) : Except Slip (Option Int) :=
  if cs.all fun c => c.isDigit || c = ':' then do
    let (hours, minutes) ← splitBytes cs
    match shortNumber? hours, shortNumber? minutes with
    | some h, some m =>
      if 14 < h ∨ 60 ≤ m then return none
      else
        let sum ← short ((← short (h * 3600)) + (← short (m * 60)))
        let seconds ← short (sign * sum)
        return if seconds.natAbs < 86400 then some seconds else none
    | _, _ => return none
  else return none

/-- Reads a zone by bytes and in 32 bits. -/
def readZone (zone : String) : Except Slip (Option Int) :=
  let cs := Text.trim zone.toList
  if cs.map Char.toLower = ['u', 't', 'c'] ∨ cs = ['Z'] then .ok (some 0)
  else
    let signed := withoutUtc cs
    match signed with
    | '+' :: _ => do signedSeconds 1 (← cut 1 signed).2
    | '-' :: _ => do signedSeconds (-1) (← cut 1 signed).2
    | _ => .ok none

/-- Digits and colons are a byte each. -/
theorem utf8Size_eq_one {c : Char} (hc : c.isDigit = true ∨ c = ':') : c.utf8Size = 1 := by
  rw [Char.utf8Size_eq_one_iff]
  rcases hc with hc | rfl
  · rw [Char.isDigit_iff_toNat] at hc
    have hnine : '9'.toNat = 57 := rfl
    rw [UInt32.le_iff_toNat_le]
    exact Nat.le_trans hc.2 (by decide)
  · decide

theorem cut_one {c : Char} (hbyte : c.utf8Size = 1) : cut 1 (c :: cs) = .ok ([c], cs) := by
  simp [cut, hbyte, Except.map]

/-- Where every character is a byte, a cut falls between two characters. -/
theorem cut_eq (hbytes : ∀ c ∈ cs, c.utf8Size = 1) (hn : n ≤ cs.length) :
    cut n cs = .ok (cs.take n, cs.drop n) := by
  induction cs generalizing n with
  | nil =>
    obtain rfl := Nat.le_zero.1 hn
    rfl
  | cons c cs ih =>
    cases n with
    | zero => rfl
    | succ n =>
      rw [List.forall_mem_cons] at hbytes
      rw [cut, hbytes.1, if_neg (by omega), Nat.add_sub_cancel, ih hbytes.2 (Nat.le_of_succ_le_succ hn)]
      rfl

theorem byteLength_eq (hbytes : ∀ c ∈ cs, c.utf8Size = 1) : byteLength cs = cs.length := by
  rw [byteLength, List.map_congr_left hbytes, List.map_const', List.sum_replicate_nat, Nat.mul_one]

theorem splitBytes_eq (hbytes : ∀ c ∈ cs, c.utf8Size = 1) : splitBytes cs = .ok (splitHours cs) := by
  unfold splitBytes splitHours
  split
  · rfl
  · rw [byteLength_eq hbytes]
    split
    next hlength => exact cut_eq hbytes (by omega)
    next => rfl

/-- A small number stays within 32 bits. -/
theorem short_eq {k : Int} (hk : k.natAbs ≤ maxShort) : short k = .ok k := if_pos hk

/-- A number that is out of bounds is no hour and no minute. -/
theorem offsetSeconds?_eq_short : offsetSeconds? cs =
    (shortNumber? (splitHours cs).1).bind fun h => (shortNumber? (splitHours cs).2).bind fun m =>
      if 14 < h ∨ 60 ≤ m then none else some (h * 3600 + m * 60) := by
  have hmax : maxShort = 2147483647 := rfl
  simp only [offsetSeconds?, shortNumber?, Option.bind_eq_bind]
  cases plainNumber? (splitHours cs).1 with
  | none => rfl
  | some h =>
    cases plainNumber? (splitHours cs).2 with
    | none => simp
    | some m =>
      by_cases hlarge : h ≤ maxShort <;> by_cases hlarge' : m ≤ maxShort <;>
        simp only [Option.filter_some, hlarge, hlarge', decide_true, decide_false, if_true, if_false,
          Bool.false_eq_true, Option.bind_some, Option.bind_none] <;>
        exact if_pos (by omega)

/-- Hours up to 14 and minutes below 60 are far from any bound. -/
theorem signedSeconds_eq {sign : Int} (hsign : sign = 1 ∨ sign = -1) :
    signedSeconds sign cs = .ok ((offsetSeconds? cs).map fun n : Nat => sign * n) := by
  unfold signedSeconds
  split
  next hchars =>
    have hbytes : ∀ c ∈ cs, c.utf8Size = 1 := by
      intro c hc
      exact utf8Size_eq_one (by simpa using List.all_eq_true.1 hchars c hc)
    rw [splitBytes_eq hbytes, offsetSeconds?_eq_short]
    obtain ⟨hours, minutes⟩ := splitHours cs
    simp only [bind, Except.bind, pure, Except.pure]
    cases shortNumber? hours with
    | none => rfl
    | some h =>
      cases shortNumber? minutes with
      | none => rfl
      | some m =>
        by_cases hbounds : 14 < h ∨ 60 ≤ m
        · simp [hbounds]
        · have hmax : maxShort = 2147483647 := rfl
          have hshort : ∀ k : Int, k.natAbs ≤ 53940 → short k = .ok k := fun k hk => short_eq (by omega)
          have hsum : (sign * (h * 3600 + m * 60)).natAbs ≤ 53940 := by
            rcases hsign with rfl | rfl <;> omega
          have hday : (sign * (h * 3600 + m * 60)).natAbs < 86400 := by omega
          simp [hbounds, hshort (h * 3600) (by omega),
            hshort (m * 60) (by omega), hshort (h * 3600 + m * 60) (by omega), hshort _ hsum, hday]
  next hchars =>
    cases hseconds : offsetSeconds? cs with
    | none => rfl
    | some n =>
      obtain ⟨h, m, hclock, -⟩ := offsetSeconds?_eq_some.1 hseconds
      exact absurd (List.all_eq_true.2 fun c hc => by simpa using hclock.isDigit_or c hc) hchars

/-- No text is cut inside of a character and no number is out of bounds, and what is read is the same. -/
theorem readZone_eq : readZone zone = .ok (parseZone? zone) := by
  by_cases hplain : (Text.trim zone.toList).map Char.toLower = ['u', 't', 'c'] ∨
      Text.trim zone.toList = ['Z']
  · rw [parseZone?_of_plain hplain]
    exact if_pos hplain
  · rw [parseZone?_of_not_plain hplain]
    refine (if_neg hplain).trans ?_
    generalize withoutUtc (Text.trim zone.toList) = signed
    split
    next rest =>
      simp [cut_one (show Char.utf8Size '+' = 1 by decide), bind, Except.bind, signedSeconds_eq (.inl rfl)]
    next rest =>
      simp [cut_one (show Char.utf8Size '-' = 1 by decide), bind, Except.bind, signedSeconds_eq (.inr rfl)]
    next => simp

/-! ## Zones -/

/-- Reading goes through on every text, and finds an offset exactly where a zone is named, with blanks
around its name or none. Offsets are whole minutes, at most 14 hours and 59 minutes from UTC. At the
offset of a zone an instant is shown as itself, and an offset is read back from the text that it is
printed as. -/
theorem reads_zones :
    (∀ zone, readZone zone = .ok (parseZone? zone)) ∧
    (∀ zone east, parseZone? zone = some east ↔
      ∃ before name after, zone.toList = before ++ name ++ after ∧ Names name east ∧
        (∀ c ∈ before, Text.isBlank c = true) ∧ ∀ c ∈ after, Text.isBlank c = true) ∧
    (∀ zone east, parseZone? zone = some east → east % 60 = 0 ∧ east.natAbs ≤ farthest) ∧
    (∀ t zone, (localize t zone).instant = t ∧ (t.HasClock →
      (t.wallClock (localize t zone).offset).toInstant (localize t zone).offset = t)) ∧
    ∀ east, east % 60 = 0 → east.natAbs ≤ farthest →
      parseZone? (String.ofList (offsetText east)) = some east :=
  ⟨fun _ => readZone_eq, fun _ _ => parseZone?_iff_names, fun _ _ => parseZone?_bounds,
    fun _ _ => ⟨rfl, fun ht => ht.toInstant_wallClock_east localize_minutes⟩,
    fun _ => parseZone?_printed⟩

/-- A zone of uneven minutes, as it is recorded and as it is printed. -/
theorem reads_zones_nepal :
    parseZone? "\u00a0UTC+5:45\n" = some 20700 ∧ (20700 : Int) % 60 = 0 ∧
      (20700 : Int).natAbs ≤ farthest ∧ (Instant.mk 1577836799 1000000000).HasClock ∧
      ((Instant.mk 1577836799 1000000000).wallClock 20700).toInstant 20700 = ⟨1577836799, 1000000000⟩ ∧
      parseZone? "+05:45" = some 20700 := by
  have hname : Names ['U', 'T', 'C', '+', '5', ':', '4', '5'] 20700 :=
    .east (.inr rfl) (.apart (plainNumber?_eq_some.1 (by rfl : plainNumber? ['5'] = some 5))
      (plainNumber?_eq_some.1 (by rfl : plainNumber? ['4', '5'] = some 45))) (by decide) (by decide)
  have hzone : parseZone? "\u00a0UTC+5:45\n" = some 20700 :=
    (reads_zones.2.1 _ _).2
      ⟨['\u00a0'], _, ['\n'], rfl, hname, by simp [Text.isBlank], by simp [Text.isBlank]⟩
  have hbounds := reads_zones.2.2.1 _ _ hzone
  have hclock : (Instant.mk 1577836799 1000000000).HasClock := ⟨by decide, by decide⟩
  have hshown := (reads_zones.2.2.2.1 _ (some "\u00a0UTC+5:45\n")).2 hclock
  have hoffset : (localize ⟨1577836799, 1000000000⟩ (some "\u00a0UTC+5:45\n")).offset = 20700 := by
    rw [localize, Option.bind_some, hzone, Option.getD_some]
  rw [hoffset] at hshown
  exact ⟨hzone, hbounds.1, hbounds.2, hclock, hshown, reads_zones.2.2.2.2 20700 hbounds.1 hbounds.2⟩

end MediaCatalog.Time

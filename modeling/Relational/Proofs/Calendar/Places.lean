import Relational.Proofs.Calendar
import Relational.Proofs.Encoding.Shapes

/-!
# Fields with places of their own

In a stored date or time every field has as many digits as it has places. The readings of a field that take one digit
where there are two leave the other, which is not what comes next, so they lead nowhere: a text that is read is read
digit by digit. What was read then tells the text up to the scripts of its digits.
-/

namespace Relational

open Text Decimal

namespace Calendar

variable {c d : Char} {m n v : Nat} {cs rest : List Char} {values : List Nat} {value : Option Nat} {p : Piece}
  {ps : List Piece}

/-! ## Digits in ASCII -/

theorem digitValue?_lt (h : digitValue? c = some n) : n < 10 := by
  unfold digitValue? at h
  split at h
  · split at h
    · rename_i hdigit
      cases h
      simp only [Char.isDigit, Bool.and_eq_true, decide_eq_true_eq] at hdigit
      have hhigh : c.toNat ≤ 57 := hdigit.2
      have hzero : '0'.toNat = 48 := rfl
      omega
    · cases h
  · obtain ⟨range, -, rfl⟩ := Option.map_eq_some_iff.1 h
    exact Nat.mod_lt _ (by decide)

/-- The digit of ASCII with the value of the character; what has no such value stays. -/
def plainDigit (c : Char) : Char :=
  (digitValue? c).elim c digitChar

theorem plainDigit_of_digitValue? (h : digitValue? c = some n) : plainDigit c = digitChar n := by
  rw [plainDigit, h, Option.elim_some]

theorem plainDigit_of_not_digit (h : isDecimalDigit c = false) : plainDigit c = c := by
  rw [plainDigit, Option.isNone_iff_eq_none.1 (Option.isSome_eq_false_iff.1 h), Option.elim_none]

/-- In ASCII every character stays. -/
theorem plainDigit_of_lt (h : c.toNat < 0x80) : plainDigit c = c := by
  cases hvalue : digitValue? c with
  | none => rw [plainDigit, hvalue, Option.elim_none]
  | some n =>
    rw [plainDigit_of_digitValue? hvalue]
    rw [digitValue?, if_pos h] at hvalue
    split at hvalue
    · rename_i hdigit
      cases hvalue
      simp only [Char.isDigit, Bool.and_eq_true, decide_eq_true_eq] at hdigit
      have hlow : 48 ≤ c.toNat := hdigit.1
      have hhigh : c.toNat ≤ 57 := hdigit.2
      have hzero : '0'.toNat = 48 := rfl
      have hcode : '0'.toNat + (c.toNat - '0'.toNat) % 10 = c.toNat := by omega
      rw [digitChar, hcode, Char.ofNat_toNat]
    · cases hvalue

theorem digitChar_eq (h : m % 10 = n % 10) : digitChar m = digitChar n := by
  rw [digitChar, digitChar, h]

/-- The value of a digit between two digits of ASCII. -/
theorem value_of_between {low high : Char} (hlow : '0' ≤ low) (hhigh : high ≤ '9') (hc : digitValue? c = some m)
    (hfrom : low ≤ c) (hto : c ≤ high) : c.toNat - '0'.toNat = m := by
  have hle : 48 ≤ c.toNat := hlow.trans hfrom
  have hge : c.toNat ≤ 57 := hto.trans hhigh
  have hdigit : c.isDigit = true := by
    rw [Char.isDigit, Bool.and_eq_true, decide_eq_true_eq, decide_eq_true_eq]
    exact ⟨hle, hge⟩
  rw [digitValue?, if_pos (by omega), if_pos hdigit] at hc
  exact Option.some.inj hc

/-! ## One field -/

/-- Both digits are taken, or the second one is left. -/
def Takes (m n : Nat) (d : Char) (rest : List Char) (reading : Reading) : Prop :=
  reading = (some (10 * m + n), rest) ∨ reading.2 = d :: rest

theorem takes_twoDigits {low high : Char} {ok : Char → Bool} (hlow : '0' ≤ low) (hhigh : high ≤ '9')
    (hc : digitValue? c = some m) (hd : digitValue? d = some n) :
    ∀ reading ∈ twoDigits low high ok (c :: d :: rest), Takes m n d rest reading := by
  intro reading hreading
  simp only [twoDigits, hd] at hreading
  split at hreading
  · rename_i hfits
    simp only [Bool.and_eq_true, decide_eq_true_eq] at hfits
    rw [List.mem_singleton] at hreading
    rw [hreading, value_of_between hlow hhigh hc hfits.1.1 hfits.1.2]
    exact .inl rfl
  · cases hreading

theorem takes_oneDigit {ok : Char → Bool} (hc : digitValue? c = some m) :
    ∀ reading ∈ oneDigit ok (c :: d :: rest), Takes m n d rest reading := by
  intro reading hreading
  simp only [oneDigit, hc] at hreading
  split at hreading
  · rw [List.mem_singleton] at hreading
    rw [hreading]
    exact .inr rfl
  · cases hreading

/-- A number of two digits. -/
def Piece.isPair : Piece → Bool
  | .month | .day | .hour | .minute | .second => true
  | _ => false

/-- A number; what stands between numbers is a mark or a gap. -/
def Piece.isField (p : Piece) : Bool :=
  p == .year || p.isPair

/-- Places of a piece: digits for a number. -/
def Piece.places : Piece → List (Char → Bool)
  | .year => [isDecimalDigit, isDecimalDigit, isDecimalDigit, isDecimalDigit]
  | .mark c => [(· == c)]
  | .gap => [fun c => c == ' ' || c == 'T']
  | .month | .day | .hour | .minute | .second => [isDecimalDigit, isDecimalDigit]

theorem takes_readings (hpair : p.isPair = true) (hc : digitValue? c = some m) (hd : digitValue? d = some n) :
    ∀ reading ∈ p.readings (c :: d :: rest), Takes m n d rest reading := by
  have htwo : ∀ {low high ok}, '0' ≤ low → high ≤ '9' →
      ∀ reading ∈ twoDigits low high ok (c :: d :: rest), Takes m n d rest reading :=
    fun hlow hhigh => takes_twoDigits hlow hhigh hc hd
  have hblank : c ≠ ' ' := by
    rintro rfl
    cases hc
  cases p with
  | year | mark | gap => cases hpair
  | month | hour | second =>
    simp only [Piece.readings, List.forall_mem_append]
    exact ⟨⟨htwo (by decide) (by decide), htwo (by decide) (by decide)⟩, takes_oneDigit hc⟩
  | minute =>
    simp only [Piece.readings, List.forall_mem_append]
    exact ⟨htwo (by decide) (by decide), takes_oneDigit hc⟩
  | day =>
    simp only [Piece.readings, List.forall_mem_append]
    refine ⟨⟨⟨⟨htwo (by decide) (by decide), htwo (by decide) (by decide)⟩, htwo (by decide) (by decide)⟩,
      takes_oneDigit hc⟩, ?_⟩
    -- a day may stand after one more blank, but this one starts with a digit
    split
    · rename_i hcs
      exact absurd (List.cons.inj hcs).1 hblank
    · simp

/-! ## Layouts -/

/-- Numbers are kept apart by marks that are no digits, or by gaps that end where a number starts. -/
structure Parted (ps : List Piece) : Prop where
  numbers : ps.IsChain fun p q => p.isField = true → q.isField = false
  gaps : ps.IsChain fun p q => p = .gap → q.isField = true
  marks : ∀ c, .mark c ∈ ps → isDecimalDigit c = false

theorem Parted.left {qs : List Piece} (h : Parted (ps ++ qs)) : Parted ps :=
  ⟨h.numbers.left_of_append, h.gaps.left_of_append, fun c hc => h.marks c (List.mem_append_left qs hc)⟩

theorem Parted.right {qs : List Piece} (h : Parted (ps ++ qs)) : Parted qs :=
  ⟨h.numbers.right_of_append, h.gaps.right_of_append, fun c hc => h.marks c (List.mem_append_right ps hc)⟩

theorem parted_timestampLayout : Parted timestampLayout where
  numbers := by decide
  gaps := by decide
  marks := by
    intro c hc
    simp only [timestampLayout, dateLayout, timeLayout, List.cons_append, List.nil_append, List.mem_cons,
      Piece.mark.injEq, reduceCtorEq, false_or, List.not_mem_nil, or_false] at hc
    rcases hc with rfl | rfl | rfl | rfl <;> decide

theorem parted_dateLayout : Parted dateLayout :=
  parted_timestampLayout.left

theorem parted_timeLayout : Parted timeLayout := by
  have happend : Parted ((dateLayout ++ [.gap]) ++ timeLayout) := parted_timestampLayout
  exact happend.right

/-- What follows a number does not start with a digit. -/
theorem readFields_ne_of_digit (hparted : Parted (p :: ps)) (hfield : p.isField = true)
    (hd : isDecimalDigit d = true) : readFields ps (d :: rest) ≠ some (values, []) := by
  intro hread
  cases ps with
  | nil => cases hread
  | cons q ps =>
    have hseparates : q.isField = false := (List.isChain_cons_cons.1 hparted.numbers).1 hfield
    rw [readFields] at hread
    obtain ⟨reading, hmem, -⟩ := List.exists_of_findSome?_eq_some hread
    cases q with
    | mark c =>
      have hne : d ≠ c := by
        rintro rfl
        rw [hparted.marks d (.tail _ (.head _))] at hd
        cases hd
      rw [Piece.readings, if_neg hne] at hmem
      cases hmem
    | gap =>
      simp only [Piece.readings, isBlank_of_isDecimalDigit hd, Bool.false_eq_true, if_false] at hmem
      cases hmem
    | year | month | day | hour | minute | second => cases hseparates

/-- No blanks are passed over in front of a number. -/
theorem dropWhile_isBlank_of_gap (hparted : Parted (.gap :: ps))
    (hplaces : fillsPlaces (ps.flatMap Piece.places) cs = true) : cs.dropWhile isBlank = cs := by
  have hstart : ∀ c ∈ cs.head?, isBlank c = false := by
    cases ps with
    | nil =>
      cases cs with
      | nil => simp
      | cons c cs => cases hplaces
    | cons q ps =>
      have hfield : q.isField = true := (List.isChain_cons_cons.1 hparted.gaps).1 rfl
      obtain ⟨places, hfirst⟩ : ∃ places, q.places = isDecimalDigit :: places := by
        cases q <;> first | exact ⟨_, rfl⟩ | cases hfield
      rw [List.flatMap_cons, hfirst] at hplaces
      obtain ⟨c, rest, rfl, hc, -⟩ := fillsPlaces_cons.1 hplaces
      simpa using isBlank_of_isDecimalDigit hc
  cases cs with
  | nil => rfl
  | cons c cs => rw [List.dropWhile_cons_of_neg (by rw [hstart c rfl]; exact Bool.false_ne_true)]

/-- The digits of the numbers, each with as many as it has places, and what stands between them. -/
def spell : List Piece → List Nat → List Char
  | [], _ => []
  | p :: ps, values =>
    match p with
    | .mark c => c :: spell ps values
    | .gap => ' ' :: spell ps values
    | .year => paddedDigits 4 (values.headD 0) ++ spell ps values.tail
    | .month | .day | .hour | .minute | .second => paddedDigits 2 (values.headD 0) ++ spell ps values.tail

/-- The text spells the numbers in digits of any script, and no number has more digits than places. -/
structure Spelled (ps : List Piece) (cs : List Char) (values : List Nat) : Prop where
  text : cs.map plainDigit = spell ps values
  places : List.Forall₂ (fun p v => v < 10 ^ p.places.length) (ps.filter Piece.isField) values

theorem Spelled.nil : Spelled [] [] [] :=
  ⟨rfl, .nil⟩

theorem Spelled.pair (hpair : p.isPair = true) (hc : digitValue? c = some m) (hd : digitValue? d = some n)
    (h : Spelled ps rest values) : Spelled (p :: ps) (c :: d :: rest) ((10 * m + n) :: values) := by
  have hm := digitValue?_lt hc
  have hn := digitValue?_lt hd
  have hdigits : paddedDigits 2 (10 * m + n) = [digitChar m, digitChar n] := by
    simp only [paddedDigits, List.nil_append, List.cons_append, List.cons.injEq, and_true]
    exact ⟨digitChar_eq (by omega), digitChar_eq (by omega)⟩
  have hspell : spell (p :: ps) ((10 * m + n) :: values) = paddedDigits 2 (10 * m + n) ++ spell ps values := by
    cases p <;> first | rfl | cases hpair
  have hfilter : (p :: ps).filter Piece.isField = p :: ps.filter Piece.isField :=
    List.filter_cons_of_pos (by rw [Piece.isField, hpair, Bool.or_true])
  have hlength : p.places.length = 2 := by
    cases p <;> first | rfl | cases hpair
  constructor
  · rw [List.map_cons, List.map_cons, plainDigit_of_digitValue? hc, plainDigit_of_digitValue? hd, h.text, hspell,
      hdigits]
    rfl
  · rw [hfilter]
    exact .cons (by rw [hlength]; omega) h.places

theorem Spelled.year {a b c d : Char} {j k m n : Nat} (ha : digitValue? a = some j) (hb : digitValue? b = some k)
    (hc : digitValue? c = some m) (hd : digitValue? d = some n) (h : Spelled ps rest values) :
    Spelled (.year :: ps) (a :: b :: c :: d :: rest) ((1000 * j + 100 * k + 10 * m + n) :: values) := by
  have hj := digitValue?_lt ha
  have hk := digitValue?_lt hb
  have hm := digitValue?_lt hc
  have hn := digitValue?_lt hd
  have hdigits : paddedDigits 4 (1000 * j + 100 * k + 10 * m + n)
      = [digitChar j, digitChar k, digitChar m, digitChar n] := by
    simp only [paddedDigits, List.nil_append, List.cons_append, List.cons.injEq, and_true]
    exact ⟨digitChar_eq (by omega), digitChar_eq (by omega), digitChar_eq (by omega), digitChar_eq (by omega)⟩
  constructor
  · simp only [List.map_cons, plainDigit_of_digitValue? ha, plainDigit_of_digitValue? hb,
      plainDigit_of_digitValue? hc, plainDigit_of_digitValue? hd, h.text, spell, List.headD_cons, List.tail_cons,
      hdigits, List.cons_append, List.nil_append]
  · exact .cons (show _ < 10 ^ 4 by omega) h.places

theorem Spelled.mark (hmark : isDecimalDigit c = false) (h : Spelled ps rest values) :
    Spelled (.mark c :: ps) (c :: rest) values :=
  ⟨by rw [List.map_cons, plainDigit_of_not_digit hmark, h.text, spell], h.places⟩

theorem Spelled.gap (h : Spelled ps rest values) : Spelled (.gap :: ps) (' ' :: rest) values :=
  ⟨by rw [List.map_cons, plainDigit_of_lt (by decide), h.text, spell], h.places⟩

/-- One of the readings of the first piece leads to the end. -/
theorem exists_reading (h : readFields (p :: ps) cs = some (values, [])) :
    ∃ reading ∈ p.readings cs, ∃ more, readFields ps reading.2 = some (more, []) ∧
      values = reading.1.toList ++ more := by
  rw [readFields] at h
  obtain ⟨reading, hmem, hmap⟩ := List.exists_of_findSome?_eq_some h
  obtain ⟨⟨more, left⟩, hmore, heq⟩ := Option.map_eq_some_iff.1 hmap
  cases heq
  exact ⟨reading, hmem, more, hmore, rfl⟩

/-- What reads as the pieces, with a character for each of their places, spells what it reads as. -/
def ReadByDigits (ps : List Piece) : Prop :=
  ∀ cs values, fillsPlaces (ps.flatMap Piece.places) cs = true → readFields ps cs = some (values, []) →
    Spelled ps cs values

theorem ReadByDigits.pair (h : ReadByDigits ps) (hpair : p.isPair = true) (hparted : Parted (p :: ps)) :
    ReadByDigits (p :: ps) := by
  intro cs values hplaces hread
  obtain ⟨reading, hmem, more, hmore, rfl⟩ := exists_reading hread
  have htwo : p.places = [isDecimalDigit, isDecimalDigit] := by
    cases p <;> first | rfl | cases hpair
  rw [List.flatMap_cons, htwo] at hplaces
  obtain ⟨c, rest, rfl, hc, hplaces⟩ := fillsPlaces_cons.1 hplaces
  obtain ⟨d, rest, rfl, hd, hplaces⟩ := fillsPlaces_cons.1 hplaces
  obtain ⟨m, hm⟩ := Option.isSome_iff_exists.1 hc
  obtain ⟨n, hn⟩ := Option.isSome_iff_exists.1 hd
  rcases takes_readings hpair hm hn reading hmem with rfl | hleft
  · exact (h _ _ hplaces hmore).pair hpair hm hn
  · rw [hleft] at hmore
    have hfield : p.isField = true := by rw [Piece.isField, hpair, Bool.or_true]
    exact absurd hmore (readFields_ne_of_digit hparted hfield hd)

theorem ReadByDigits.year (h : ReadByDigits ps) : ReadByDigits (.year :: ps) := by
  intro cs values hplaces hread
  obtain ⟨reading, hmem, more, hmore, rfl⟩ := exists_reading hread
  obtain ⟨a, rest, rfl, ha, hplaces⟩ := fillsPlaces_cons.1 hplaces
  obtain ⟨b, rest, rfl, hb, hplaces⟩ := fillsPlaces_cons.1 hplaces
  obtain ⟨c, rest, rfl, hc, hplaces⟩ := fillsPlaces_cons.1 hplaces
  obtain ⟨d, rest, rfl, hd, hplaces⟩ := fillsPlaces_cons.1 hplaces
  obtain ⟨j, hj⟩ := Option.isSome_iff_exists.1 ha
  obtain ⟨k, hk⟩ := Option.isSome_iff_exists.1 hb
  obtain ⟨m, hm⟩ := Option.isSome_iff_exists.1 hc
  obtain ⟨n, hn⟩ := Option.isSome_iff_exists.1 hd
  simp only [Piece.readings, yearReadings, hj, hk, hm, hn, List.mem_singleton] at hmem
  subst hmem
  exact (h _ _ hplaces hmore).year hj hk hm hn

theorem ReadByDigits.mark (h : ReadByDigits ps) (hmark : isDecimalDigit c = false) : ReadByDigits (.mark c :: ps) := by
  intro cs values hplaces hread
  obtain ⟨reading, hmem, more, hmore, rfl⟩ := exists_reading hread
  obtain ⟨d, rest, rfl, hd, hrest⟩ := fillsPlaces_cons.1 hplaces
  obtain rfl : d = c := beq_iff_eq.1 hd
  rw [Piece.readings, if_pos rfl, List.mem_singleton] at hmem
  subst hmem
  exact (h _ _ hrest hmore).mark hmark

theorem ReadByDigits.gap (h : ReadByDigits ps) (hparted : Parted (.gap :: ps)) : ReadByDigits (.gap :: ps) := by
  intro cs values hplaces hread
  obtain ⟨reading, hmem, more, hmore, rfl⟩ := exists_reading hread
  obtain ⟨c, rest, rfl, hc, hplaces⟩ := fillsPlaces_cons.1 hplaces
  -- a `T` has the place of the blank, but it is none
  have hblank : c = ' ' := by
    rw [Bool.or_eq_true, beq_iff_eq, beq_iff_eq] at hc
    rcases hc with rfl | rfl
    · rfl
    · cases hmem
  subst hblank
  rw [Piece.readings, if_pos (by decide), dropWhile_isBlank_of_gap hparted hplaces, List.mem_singleton] at hmem
  subst hmem
  exact (h _ _ hplaces hmore).gap

/-- A text with a character for each place of a layout is read digit by digit. -/
theorem Parted.readByDigits (hparted : Parted ps) : ReadByDigits ps := by
  induction ps with
  | nil =>
    intro cs values hplaces hread
    cases cs with
    | nil =>
      cases hread
      exact .nil
    | cons c cs => cases hplaces
  | cons p ps ih =>
    have happend : Parted ([p] ++ ps) := hparted
    have hrest := ih happend.right
    cases p with
    | month | day | hour | minute | second => exact hrest.pair rfl hparted
    | year => exact hrest.year
    | mark c => exact hrest.mark (hparted.marks c (.head _))
    | gap => exact hrest.gap hparted

/-! ## Texts of moments -/

theorem toNat_lt_of_isDigit (h : c.isDigit = true) : c.toNat < 0x80 := by
  simp only [Char.isDigit, Bool.and_eq_true, decide_eq_true_eq] at h
  have hhigh : c.toNat ≤ 57 := h.2
  omega

/-- The text is in ASCII. -/
def IsPlain (text : String) : Prop :=
  ∀ c ∈ text.toList, c.toNat < 0x80

instance (text : String) : Decidable (IsPlain text) :=
  List.decidableBAll (fun c : Char => c.toNat < 0x80) text.toList

theorem IsPlain.append {s t : String} (hs : IsPlain s) (ht : IsPlain t) : IsPlain (s ++ t) := by
  rw [IsPlain, String.toList_append, List.forall_mem_append]
  exact ⟨hs, ht⟩

theorem IsPlain.map_plainDigit {text : String} (h : IsPlain text) : text.toList.map plainDigit = text.toList :=
  (List.map_congr_left fun c hc => plainDigit_of_lt (h c hc)).trans (List.map_id _)

theorem isPlain_natText (n : Nat) : IsPlain (natText n) := by
  intro c hc
  rw [natText, String.toList_ofList] at hc
  exact toNat_lt_of_isDigit (isDigit_of_mem_natDigits hc)

theorem isPlain_paddedText (n : Nat) : IsPlain (paddedText 2 n) := by
  unfold paddedText
  split
  · intro c hc
    simp only [String.toList_ofList, paddedDigits, List.nil_append, List.cons_append, List.mem_cons,
      List.not_mem_nil, or_false] at hc
    rcases hc with rfl | rfl <;> exact toNat_lt_of_isDigit (isDigit_digitChar _)
  · exact isPlain_natText n

theorem natDigits_places {y : Nat} (h : 1000 ≤ y ∧ y ≤ 9999) : natDigits y = paddedDigits 4 y :=
  natDigits_year h

end Calendar

open Calendar

/-- A day as it is spelled. -/
def Date.spelled (d : Date) : List Char :=
  spell dateLayout [d.year, d.month, d.day]

/-- A time of day as it is spelled. -/
def TimeOfDay.spelled (t : TimeOfDay) : List Char :=
  spell timeLayout [t.hour, t.minute, t.second]

/-- A day whose numbers have places. Its year may have less than four digits. -/
structure Date.Placed (d : Date) : Prop where
  year : 0 < d.year ∧ d.year < 10000
  month : d.month < 100
  day : d.day < 100

structure TimeOfDay.Placed (t : TimeOfDay) : Prop where
  hour : t.hour < 100
  minute : t.minute < 100
  second : t.second < 100

theorem Calendar.readLayout_eq_ok {layout : List Piece} {text : String} {values : List Nat}
    (h : readLayout layout text = .ok values) : readFields layout text.toList = some (values, []) := by
  unfold readLayout at h
  split at h
  · cases h
  · cases h
    assumption
  · cases h

theorem Calendar.date?_eq_ok {y m n : Nat} {d : Date} (h : date? y m n = .ok d) : 0 < y ∧ d = ⟨y, m, n⟩ := by
  unfold date? at h
  split at h
  · cases h
  · split at h
    · cases h
    · cases h
      exact ⟨by omega, rfl⟩

theorem Calendar.time?_eq_ok {h m s : Nat} {t : TimeOfDay} (hread : time? h m s = .ok t) : t = ⟨h, m, s⟩ := by
  unfold time? at hread
  split at hread
  · cases hread
  · cases hread
    rfl

/-- A day with all its places is read digit by digit. -/
theorem Date.spelled_of_read {word : String} {d : Date} (hplaces : fillsPlaces datePlaces word.toList = true)
    (h : Date.read word = .ok d) : word.toList.map plainDigit = d.spelled ∧ d.Placed := by
  obtain ⟨values, hlayout, hvalues⟩ := bind_eq_ok.1 h
  split at hvalues
  · obtain ⟨hyear, rfl⟩ := date?_eq_ok hvalues
    obtain ⟨hspelled, hbounds⟩ := parted_dateLayout.readByDigits _ _ hplaces (readLayout_eq_ok hlayout)
    obtain _ | ⟨hy, _ | ⟨hm, _ | ⟨hd, -⟩⟩⟩ := hbounds
    exact ⟨hspelled, ⟨hyear, hy⟩, hm, hd⟩
  · cases hvalues

theorem TimeOfDay.spelled_of_read {word : String} {t : TimeOfDay} (hplaces : fillsPlaces timePlaces word.toList = true)
    (h : TimeOfDay.read word = .ok t) : word.toList.map plainDigit = t.spelled ∧ t.Placed := by
  obtain ⟨values, hlayout, hvalues⟩ := bind_eq_ok.1 h
  split at hvalues
  · obtain rfl := time?_eq_ok hvalues
    obtain ⟨hspelled, hbounds⟩ := parted_timeLayout.readByDigits _ _ hplaces (readLayout_eq_ok hlayout)
    obtain _ | ⟨hh, _ | ⟨hm, _ | ⟨hs, -⟩⟩⟩ := hbounds
    exact ⟨hspelled, hh, hm, hs⟩
  · cases hvalues

theorem Timestamp.spelled_of_read {word : String} {t : Timestamp}
    (hplaces : fillsPlaces timestampPlaces word.toList = true) (h : Timestamp.read word = .ok t) :
    word.toList.map plainDigit = t.date.spelled ++ ' ' :: t.time.spelled ∧ t.date.Placed ∧ t.time.Placed := by
  obtain ⟨values, hlayout, hvalues⟩ := bind_eq_ok.1 h
  split at hvalues
  · obtain ⟨date, hdate, hvalues⟩ := bind_eq_ok.1 hvalues
    obtain ⟨time, htime, hvalues⟩ := bind_eq_ok.1 hvalues
    cases hvalues
    obtain ⟨hyear, rfl⟩ := date?_eq_ok hdate
    obtain rfl := time?_eq_ok htime
    obtain ⟨hspelled, hbounds⟩ := parted_timestampLayout.readByDigits _ _ hplaces (readLayout_eq_ok hlayout)
    obtain _ | ⟨hy, _ | ⟨hm, _ | ⟨hd, _ | ⟨hh, _ | ⟨hmin, _ | ⟨hs, -⟩⟩⟩⟩⟩⟩ := hbounds
    exact ⟨hspelled, ⟨⟨hyear, hy⟩, hm, hd⟩, hh, hmin, hs⟩
  · cases hvalues

/-! ## Dates -/

theorem Date.isPlain_text (d : Date) : IsPlain d.text :=
  ((((isPlain_natText _).append (by decide)).append (isPlain_paddedText _)).append (by decide)).append
    (isPlain_paddedText _)

theorem TimeOfDay.isPlain_text (t : TimeOfDay) : IsPlain t.text :=
  ((((isPlain_paddedText _).append (by decide)).append (isPlain_paddedText _)).append (by decide)).append
    (isPlain_paddedText _)

/-- The year is written without zeros in front. -/
theorem Date.Placed.head_text {d : Date} (h : d.Placed) : d.text.toList.head? ≠ some '0' := by
  have hhead := head_natDigits h.year.1
  have hne := natDigits_ne_nil d.year
  rw [Date.text, natText]
  simp only [String.toList_append, String.toList_ofList, List.append_assoc]
  rwa [List.head?_append_of_ne_nil _ hne]

/-- A day is written as it is spelled if the year has all its digits. -/
theorem Date.Placed.toList_text {d : Date} (h : d.Placed) (hyear : 1000 ≤ d.year) : d.text.toList = d.spelled := by
  have hdash : "-".toList = ['-'] := rfl
  have hdigits : natDigits d.year = paddedDigits 4 d.year := natDigits_places ⟨hyear, Nat.le_of_lt_succ h.year.2⟩
  simp only [Date.text, Date.spelled, dateLayout, spell, List.headD_cons, List.tail_cons, String.toList_append,
    natText, String.toList_ofList, toList_paddedText h.month, toList_paddedText h.day, hdash, hdigits,
    List.append_assoc, List.cons_append, List.nil_append, List.append_nil]

theorem TimeOfDay.Placed.toList_text {t : TimeOfDay} (h : t.Placed) : t.text.toList = t.spelled := by
  have hcolon : ":".toList = [':'] := rfl
  simp only [TimeOfDay.text, TimeOfDay.spelled, timeLayout, spell, List.headD_cons, List.tail_cons,
    String.toList_append, toList_paddedText h.hour, toList_paddedText h.minute, toList_paddedText h.second, hcolon,
    List.append_assoc, List.cons_append, List.nil_append, List.append_nil]

/-- The year has all its digits if what is spelled does not start with a zero. -/
theorem Date.le_year {d : Date} (hhead : d.spelled.head? ≠ some '0') : 1000 ≤ d.year := by
  by_contra hlt
  have hzero : d.year / 10 / 10 / 10 = 0 := by omega
  refine hhead ?_
  simp only [Date.spelled, dateLayout, spell, List.headD_cons, paddedDigits, hzero, List.nil_append,
    List.cons_append, List.head?_cons]
  rfl

/-- A day is written as it was read if it was in ASCII and did not start with a zero. -/
theorem Date.text_eq_iff {word : String} {d : Date} (hplaces : fillsPlaces datePlaces word.toList = true)
    (h : Date.read word = .ok d) : d.text = word ↔ IsPlain word ∧ word.toList.head? ≠ some '0' := by
  obtain ⟨hspelled, hplaced⟩ := Date.spelled_of_read hplaces h
  constructor
  · rintro rfl
    exact ⟨d.isPlain_text, hplaced.head_text⟩
  · rintro ⟨hplain, hhead⟩
    rw [hplain.map_plainDigit] at hspelled
    rw [hspelled] at hhead
    rw [← String.toList_inj, hspelled, hplaced.toList_text (Date.le_year hhead)]

theorem TimeOfDay.text_eq_iff {word : String} {t : TimeOfDay} (hplaces : fillsPlaces timePlaces word.toList = true)
    (h : TimeOfDay.read word = .ok t) : t.text = word ↔ IsPlain word := by
  obtain ⟨hspelled, hplaced⟩ := TimeOfDay.spelled_of_read hplaces h
  constructor
  · rintro rfl
    exact t.isPlain_text
  · intro hplain
    rw [hplain.map_plainDigit] at hspelled
    rw [← String.toList_inj, hspelled, hplaced.toList_text]

theorem Timestamp.text_eq_iff {word : String} {t : Timestamp}
    (hplaces : fillsPlaces timestampPlaces word.toList = true) (h : Timestamp.read word = .ok t) :
    t.text = word ↔ IsPlain word ∧ word.toList.head? ≠ some '0' := by
  obtain ⟨hspelled, hdate, htime⟩ := Timestamp.spelled_of_read hplaces h
  have hspace : " ".toList = [' '] := rfl
  have hne : t.date.text.toList ≠ [] := by
    rw [Date.text, natText]
    simp only [String.toList_append, String.toList_ofList, List.append_assoc, ne_eq, List.append_eq_nil_iff, not_and]
    exact fun hnil => absurd hnil (natDigits_ne_nil _)
  constructor
  · rintro rfl
    refine ⟨(t.date.isPlain_text.append (by decide)).append t.time.isPlain_text, ?_⟩
    rw [Timestamp.text, String.toList_append, String.toList_append, List.append_assoc,
      List.head?_append_of_ne_nil _ hne]
    exact hdate.head_text
  · rintro ⟨hplain, hhead⟩
    rw [hplain.map_plainDigit] at hspelled
    rw [hspelled] at hhead
    have hyear : 1000 ≤ t.date.year := Date.le_year hhead
    rw [← String.toList_inj, hspelled, Timestamp.text, String.toList_append, String.toList_append,
      hdate.toList_text hyear, htime.toList_text, hspace, List.append_assoc, List.singleton_append]

end Relational

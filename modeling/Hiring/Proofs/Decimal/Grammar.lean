import Hiring.Decimal.Numeral
import Hiring.Proofs.Text.LetterCase

/-!
# The grammar of numerals

A numeral of a rule, an answer or a setting is read by cutting characters off its front.  This file
says what is read without saying how:

    numeral  = [sign] (word / unsigned)        word  = "inf" / "infinity" / "nan", in any case
    unsigned = (digits / point) [power]        point = digits "." [digits] / [digits] "." digits
    power    = ("e" / "E") [sign] digits       sign  = "-" / "+"

* `Text.Sign`, `Decimal.Power`, `Decimal.Unsigned`, `Binary64.Numeral` — the grammar, with the value
  of each of its parts.
* `Binary64.ofChars?_eq_some_iff` — **the reader accepts the grammar**, and gives the value.
* `Binary64.Numeral.of_foldCase` — the case of letters does not count.
* `Binary64.Numeral.exists_cons` — how a numeral begins.
-/

set_option autoImplicit false

namespace Hiring

open Text

/-! ## Signs -/

/-- A sign as it is written, and whether it is a minus. -/
inductive Text.Sign : List Char → Bool → Prop where
  | none : Sign [] false
  | minus : Sign ['-'] true
  | plus : Sign ['+'] false

/-- Text that does not begin with a sign. -/
def Text.BeginsUnsigned (rest : List Char) : Prop :=
  rest.head? ≠ some '-' ∧ rest.head? ≠ some '+'

instance (rest : List Char) : Decidable (BeginsUnsigned rest) :=
  inferInstanceAs (Decidable (_ ∧ _))

theorem Text.signed_append {sign rest : List Char} {negative : Bool} (h : Sign sign negative)
    (hrest : BeginsUnsigned rest) : signed (sign ++ rest) = (negative, rest) := by
  cases h with
  | minus => rfl
  | plus => rfl
  | none =>
    rw [List.nil_append]
    unfold signed
    split
    · exact absurd rfl hrest.1
    · exact absurd rfl hrest.2
    · rfl

/-- A sign is cut off where one stands. -/
theorem Text.exists_sign (cs : List Char) :
    ∃ sign, Sign sign (signed cs).1 ∧ cs = sign ++ (signed cs).2 := by
  unfold signed
  split
  · exact ⟨_, .minus, rfl⟩
  · exact ⟨_, .plus, rfl⟩
  · exact ⟨_, .none, rfl⟩

namespace Decimal

/-! ## Powers of ten -/

/-- The power of ten at the end of a numeral. -/
inductive Power : List Char → Int → Prop where
  | none : Power [] 0
  | some {letter : Char} {sign digits : List Char} {negative : Bool}
      (isE : letter = 'e' ∨ letter = 'E') (signs : Sign sign negative) (nonempty : digits ≠ [])
      (areDigits : ∀ c ∈ digits, isDigit c = true) :
      Power (letter :: (sign ++ digits))
        (if negative then -(digitsValue digits : Int) else digitsValue digits)

theorem beginsUnsigned_of_isDigit {ds : List Char} (h : ∀ c ∈ ds, isDigit c = true) :
    BeginsUnsigned ds := by
  constructor
  · exact fun hminus => nomatch h '-' (List.mem_of_mem_head? hminus)
  · exact fun hplus => nomatch h '+' (List.mem_of_mem_head? hplus)

theorem power_of_power? {cs : List Char} {e : Int} (h : power? cs = some e) : Power cs e := by
  unfold power? at h
  split at h
  · cases h
    exact .none
  · next letter rest =>
    split at h
    · next hletter =>
      unfold integer? at h
      simp only at h
      split at h
      · cases h
      · next hdigits =>
        simp only [Bool.or_eq_true, List.isEmpty_iff, Bool.not_eq_true', Bool.eq_false_iff,
          not_or, not_not, List.all_eq_true] at hdigits
        obtain ⟨sign, hsign, hcut⟩ := exists_sign rest
        have hpower := Power.some (by simpa using hletter) hsign hdigits.1 hdigits.2
        rw [← hcut] at hpower
        exact Option.some.inj h ▸ hpower
    · cases h

theorem power?_of_power {cs : List Char} {e : Int} (h : Power cs e) : power? cs = some e := by
  cases h with
  | none => rfl
  | some isE signs nonempty areDigits =>
    simp [power?, isE, integer?, signed_append signs (beginsUnsigned_of_isDigit areDigits),
      nonempty, List.all_eq_true.2 areDigits]

/-- A power of ten begins with its letter. -/
theorem Power.head? {cs : List Char} {e : Int} (h : Power cs e) :
    ∀ c ∈ cs.head?, isDigit c = false ∧ c ≠ '.' := by
  cases h with
  | none => exact fun c hc => nomatch hc
  | some isE =>
    intro c hc
    cases hc
    rcases isE with rfl | rfl <;> decide

/-! ## Numerals without a sign -/

/-- An unsigned numeral, and the decimal number that it denotes with a sign: at least one digit
stands in front of the point or behind it. -/
inductive Unsigned (negative : Bool) : List Char → Decimal → Prop where
  | whole {ds ps : List Char} {e : Int} (nonempty : ds ≠ [])
      (areDigits : ∀ c ∈ ds, isDigit c = true) (power : Power ps e) :
      Unsigned negative (ds ++ ps) ⟨negative, digitsValue ds, e⟩
  | pointed {ds fs ps : List Char} {e : Int} (nonempty : ds ≠ [] ∨ fs ≠ [])
      (whole : ∀ c ∈ ds, isDigit c = true) (fraction : ∀ c ∈ fs, isDigit c = true)
      (power : Power ps e) :
      Unsigned negative (ds ++ '.' :: (fs ++ ps))
        ⟨negative, digitsValue (ds ++ fs), e - fs.length⟩

variable {negative : Bool} {cs tail : List Char} {d : Decimal}

/-- With a point behind the first digits, a fraction follows. -/
theorem ofUnsigned?_of_point (h : cs.dropWhile isDigit = '.' :: tail) :
    ofUnsigned? negative cs =
      if cs.takeWhile isDigit = [] ∧ tail.takeWhile isDigit = [] then none
      else (power? (tail.dropWhile isDigit)).map fun e =>
        ⟨negative, digitsValue (cs.takeWhile isDigit ++ tail.takeWhile isDigit),
          e - (tail.takeWhile isDigit).length⟩ := by
  simp [ofUnsigned?, h]

/-- Without one, the first digits are all. -/
theorem ofUnsigned?_of_no_point (h : ∀ tail, cs.dropWhile isDigit ≠ '.' :: tail) :
    ofUnsigned? negative cs =
      if cs.takeWhile isDigit = [] then none
      else (power? (cs.dropWhile isDigit)).map fun e =>
        ⟨negative, digitsValue (cs.takeWhile isDigit), e⟩ := by
  simp [ofUnsigned?]

theorem unsigned_of_ofUnsigned? (h : ofUnsigned? negative cs = some d) :
    Unsigned negative cs d := by
  have hcut : cs.takeWhile isDigit ++ cs.dropWhile isDigit = cs := List.takeWhile_append_dropWhile
  have hwhole : ∀ c ∈ cs.takeWhile isDigit, isDigit c = true := fun c => List.mem_takeWhile_imp
  by_cases hpoint : ∃ tail, cs.dropWhile isDigit = '.' :: tail
  · obtain ⟨tail, htail⟩ := hpoint
    rw [ofUnsigned?_of_point htail] at h
    split at h
    · cases h
    · next hne =>
      obtain ⟨e, he, rfl⟩ := Option.map_eq_some_iff.1 h
      have hpointed : Unsigned negative _ _ := .pointed (not_and_or.1 hne) hwhole
        (fun c => List.mem_takeWhile_imp) (power_of_power? he)
      rwa [List.takeWhile_append_dropWhile, ← htail, hcut] at hpointed
  · rw [ofUnsigned?_of_no_point (not_exists.1 hpoint)] at h
    split at h
    · cases h
    · next hne =>
      obtain ⟨e, he, rfl⟩ := Option.map_eq_some_iff.1 h
      have hall : Unsigned negative _ _ := .whole hne hwhole (power_of_power? he)
      rwa [hcut] at hall

theorem ofUnsigned?_of_unsigned (h : Unsigned negative cs d) :
    ofUnsigned? negative cs = some d := by
  cases h with
  | whole nonempty areDigits power =>
    have htake := takeWhile_isDigit areDigits fun c hc => (power.head? c hc).1
    have hdrop := dropWhile_isDigit areDigits fun c hc => (power.head? c hc).1
    rw [ofUnsigned?_of_no_point, htake, hdrop, if_neg nonempty, power?_of_power power]
    · rfl
    · intro tail htail
      rw [hdrop] at htail
      exact (power.head? '.' (by rw [htail]; rfl)).2 rfl
  | @pointed ds fs ps e nonempty whole fraction power =>
    have hpoint : ∀ c ∈ ('.' :: (fs ++ ps)).head?, isDigit c = false := by
      intro c hc
      cases hc
      rfl
    have hdrop := dropWhile_isDigit whole hpoint
    have hftake := takeWhile_isDigit fraction fun c hc => (power.head? c hc).1
    have hfdrop := dropWhile_isDigit fraction fun c hc => (power.head? c hc).1
    rw [ofUnsigned?_of_point hdrop, takeWhile_isDigit whole hpoint, hftake, hfdrop,
      if_neg (not_and_or.2 nonempty), power?_of_power power]
    rfl

/-- An unsigned numeral begins with a digit or a point. -/
theorem Unsigned.exists_cons (h : Unsigned negative cs d) :
    ∃ c rest, cs = c :: rest ∧ (isDigit c = true ∨ c = '.') := by
  cases h with
  | @whole ds ps e nonempty areDigits =>
    obtain ⟨c, ds, rfl⟩ := List.exists_cons_of_ne_nil nonempty
    exact ⟨c, _, rfl, .inl (areDigits c (.head _))⟩
  | @pointed ds fs ps e nonempty whole =>
    cases ds with
    | nil => exact ⟨'.', _, rfl, .inr rfl⟩
    | cons c ds => exact ⟨c, _, rfl, .inl (whole c (.head _))⟩

end Decimal

/-! ## Numerals -/

namespace Binary64

/-- The words for the infinities. -/
def infinityWords : List (List Char) := [['i', 'n', 'f'], ['i', 'n', 'f', 'i', 'n', 'i', 't', 'y']]

/-- The word for no number. -/
def nanWord : List Char := ['n', 'a', 'n']

/-- A numeral, and the number that it denotes: for digits, the number nearest to their exact
value. -/
inductive Numeral : List Char → Binary64 → Prop where
  | infinity {sign cs word : List Char} {negative : Bool} (signs : Sign sign negative)
      (listed : word ∈ infinityWords) (spelled : foldCase cs = foldCase word) :
      Numeral (sign ++ cs) (.infinity negative)
  | nan {sign cs : List Char} {negative : Bool} (signs : Sign sign negative)
      (spelled : foldCase cs = foldCase nanWord) : Numeral (sign ++ cs) .nan
  | decimal {sign cs : List Char} {negative : Bool} {d : Decimal} (signs : Sign sign negative)
      (unsigned : Decimal.Unsigned negative cs d) : Numeral (sign ++ cs) d.nearest

variable {cs cs' : List Char} {x : Binary64}

theorem numeral_of_ofChars? (h : ofChars? cs = some x) : Numeral cs x := by
  obtain ⟨sign, hsign, hcut⟩ := exists_sign cs
  unfold ofChars? at h
  simp only at h
  rw [hcut]
  split at h
  · next hword =>
    rw [Bool.or_eq_true, sameIgnoringCase_iff, sameIgnoringCase_iff] at hword
    cases h
    rcases hword with hword | hword
    · exact .infinity hsign (.head _) hword
    · exact .infinity hsign (.tail _ (.head _)) hword
  · split at h
    · next hword =>
      cases h
      exact .nan hsign (sameIgnoringCase_iff.1 hword)
    · obtain ⟨d, hd, rfl⟩ := Option.map_eq_some_iff.1 h
      exact .decimal hsign (Decimal.unsigned_of_ofUnsigned? hd)

/-- A word in other letters does not begin with a sign either. -/
theorem beginsUnsigned_of_foldCase {word : List Char} (hword : BeginsUnsigned word)
    (h : foldCase cs = foldCase word) : BeginsUnsigned cs := by
  have hhead {d : Char} (hd : ¬ IsLetter d) (hcs : cs.head? = some d) : word.head? = some d := by
    obtain ⟨rest, rfl⟩ := List.head?_eq_some_iff.1 hcs
    obtain ⟨w, word, rfl, hw, -⟩ := exists_cons_of_foldCase h.symm
    rw [eq_of_toLower_eq hd hw]
    rfl
  exact ⟨fun hcs => hword.1 (hhead (by decide) hcs), fun hcs => hword.2 (hhead (by decide) hcs)⟩

theorem beginsUnsigned_of_unsigned {negative : Bool} {d : Decimal}
    (h : Decimal.Unsigned negative cs d) : BeginsUnsigned cs := by
  obtain ⟨c, rest, rfl, hc⟩ := h.exists_cons
  constructor
  · rintro ⟨⟩
    exact hc.elim (fun hc => nomatch hc) (fun hc => nomatch hc)
  · rintro ⟨⟩
    exact hc.elim (fun hc => nomatch hc) (fun hc => nomatch hc)

/-- Digits are no word. -/
theorem not_sameIgnoringCase_of_unsigned {negative : Bool} {d : Decimal} {w : Char}
    {word : List Char} (h : Decimal.Unsigned negative cs d) (hw : IsLetter w) :
    sameIgnoringCase cs (w :: word) = false := by
  rw [Bool.eq_false_iff, Ne, sameIgnoringCase_iff]
  intro hword
  obtain ⟨c, rest, rfl, hc⟩ := h.exists_cons
  have hplain : ¬ IsLetter c := by
    rcases hc with hc | rfl
    · exact not_isLetter_of_isDigit hc
    · decide
  have hhead : w = c := eq_of_toLower_eq hplain (List.cons.inj hword).1.symm
  exact hplain (hhead ▸ hw)

theorem ofChars?_of_numeral (h : Numeral cs x) : ofChars? cs = some x := by
  cases h with
  | infinity signs listed spelled =>
    have hunsigned := beginsUnsigned_of_foldCase
      ((by decide : ∀ word ∈ infinityWords, BeginsUnsigned word) _ listed) spelled
    rw [ofChars?, signed_append signs hunsigned]
    refine if_pos ?_
    rw [Bool.or_eq_true, sameIgnoringCase_iff, sameIgnoringCase_iff, spelled]
    simp only [infinityWords, List.mem_cons, List.not_mem_nil, or_false] at listed
    exact listed.imp (congrArg foldCase) (congrArg foldCase)
  | @nan sign body negative signs spelled =>
    have hinf : sameIgnoringCase body "inf".toList = false := by
      rw [sameIgnoringCase, spelled]
      decide
    have hinfinity : sameIgnoringCase body "infinity".toList = false := by
      rw [sameIgnoringCase, spelled]
      decide
    rw [ofChars?, signed_append signs (beginsUnsigned_of_foldCase (by decide) spelled)]
    simp only [hinf, hinfinity, Bool.or_self, Bool.false_eq_true, if_false]
    exact if_pos (sameIgnoringCase_iff.2 spelled)
  | @decimal sign body negative d signs unsigned =>
    have hinf : sameIgnoringCase body "inf".toList = false :=
      not_sameIgnoringCase_of_unsigned unsigned (by decide)
    have hinfinity : sameIgnoringCase body "infinity".toList = false :=
      not_sameIgnoringCase_of_unsigned unsigned (by decide)
    have hnan : sameIgnoringCase body "nan".toList = false :=
      not_sameIgnoringCase_of_unsigned unsigned (by decide)
    rw [ofChars?, signed_append signs (beginsUnsigned_of_unsigned unsigned)]
    simp only [hinf, hinfinity, hnan, Bool.or_self, Bool.false_eq_true, if_false,
      Decimal.ofUnsigned?_of_unsigned unsigned, Option.map_some]

/-- **The reader accepts the grammar**, and gives the value. -/
theorem ofChars?_eq_some_iff : ofChars? cs = some x ↔ Numeral cs x :=
  ⟨numeral_of_ofChars?, ofChars?_of_numeral⟩

end Binary64

/-! ## Letters in the other case -/

theorem Text.not_isLetter_of_mem_sign {sign : List Char} {negative : Bool}
    (h : Sign sign negative) : ∀ c ∈ sign, ¬ IsLetter c := by
  cases h with
  | none => simp
  | minus => exact List.forall_mem_singleton.2 (by decide)
  | plus => exact List.forall_mem_singleton.2 (by decide)

/-- A sign is the same in other letters. -/
theorem Text.Sign.exists_body {sign body cs : List Char} {negative : Bool}
    (h : Sign sign negative) (hcase : foldCase cs = foldCase (sign ++ body)) :
    ∃ body', cs = sign ++ body' ∧ foldCase body' = foldCase body := by
  obtain ⟨sign', body', rfl, hsign, hbody⟩ := exists_append_of_foldCase hcase
  rw [eq_of_foldCase_eq (not_isLetter_of_mem_sign h) hsign]
  exact ⟨body', rfl, hbody⟩

theorem Decimal.Power.of_foldCase {cs cs' : List Char} {e : Int} (h : Power cs e)
    (hcase : foldCase cs' = foldCase cs) : Power cs' e := by
  cases h with
  | none =>
    rw [eq_of_foldCase_eq (by simp) hcase]
    exact .none
  | @some letter sign digits negative isE signs nonempty areDigits =>
    obtain ⟨letter', rest, rfl, hletter, hrest⟩ := exists_cons_of_foldCase hcase
    have hplain : ∀ c ∈ sign ++ digits, ¬ IsLetter c := fun c hc =>
      (List.mem_append.1 hc).elim (not_isLetter_of_mem_sign signs c)
        fun hc => not_isLetter_of_isDigit (areDigits c hc)
    rw [eq_of_foldCase_eq hplain hrest]
    refine .some ?_ signs nonempty areDigits
    have hlower : letter'.toLower = 'e' := by rcases isE with rfl | rfl <;> exact hletter
    exact eq_or_eq_of_toLower_eq hlower

theorem Decimal.Unsigned.of_foldCase {negative : Bool} {cs cs' : List Char} {d : Decimal}
    (h : Unsigned negative cs d) (hcase : foldCase cs' = foldCase cs) :
    Unsigned negative cs' d := by
  have hplain {ds : List Char} (hds : ∀ c ∈ ds, isDigit c = true) : ∀ c ∈ ds, ¬ IsLetter c :=
    fun c hc => not_isLetter_of_isDigit (hds c hc)
  cases h with
  | whole nonempty areDigits power =>
    obtain ⟨ds', ps', rfl, hds, hps⟩ := exists_append_of_foldCase hcase
    rw [eq_of_foldCase_eq (hplain areDigits) hds]
    exact .whole nonempty areDigits (power.of_foldCase hps)
  | pointed nonempty whole fraction power =>
    obtain ⟨ds', rest, rfl, hds, hrest⟩ := exists_append_of_foldCase hcase
    obtain ⟨point, rest, rfl, hpoint, hrest⟩ := exists_cons_of_foldCase hrest
    obtain ⟨fs', ps', rfl, hfs, hps⟩ := exists_append_of_foldCase hrest
    rw [eq_of_foldCase_eq (hplain whole) hds, eq_of_foldCase_eq (hplain fraction) hfs,
      eq_of_toLower_eq (by decide) hpoint]
    exact .pointed nonempty whole fraction (power.of_foldCase hps)

namespace Binary64.Numeral

variable {cs cs' : List Char} {x : Binary64}

/-- **A numeral in other letters denotes the same number.** -/
theorem of_foldCase (h : Numeral cs x) (hcase : foldCase cs' = foldCase cs) : Numeral cs' x := by
  cases h with
  | infinity signs listed spelled =>
    obtain ⟨body, rfl, hbody⟩ := signs.exists_body hcase
    exact .infinity signs listed (hbody.trans spelled)
  | nan signs spelled =>
    obtain ⟨body, rfl, hbody⟩ := signs.exists_body hcase
    exact .nan signs (hbody.trans spelled)
  | decimal signs unsigned =>
    obtain ⟨body, rfl, hbody⟩ := signs.exists_body hcase
    exact .decimal signs (unsigned.of_foldCase hbody)

/-! ## How a numeral begins -/

/-- A digit, a point, a sign or the first letter of a word. -/
def Opener (c : Char) : Prop := isDigit c = true ∨ c.toLower ∈ ['.', '-', '+', 'i', 'n']

instance (c : Char) : Decidable (Opener c) := inferInstanceAs (Decidable (_ ∨ _))

/-- A numeral is not empty, and few characters begin one. -/
theorem exists_cons (h : Numeral cs x) : ∃ c rest, cs = c :: rest ∧ Opener c := by
  have hsigned {sign body : List Char} {negative : Bool} (signs : Sign sign negative)
      (hbody : ∃ c rest, body = c :: rest ∧ Opener c) :
      ∃ c rest, sign ++ body = c :: rest ∧ Opener c := by
    cases signs with
    | none => exact hbody
    | minus => exact ⟨'-', body, rfl, .inr (by decide)⟩
    | plus => exact ⟨'+', body, rfl, .inr (by decide)⟩
  cases h with
  | infinity signs listed spelled =>
    refine hsigned signs ?_
    simp only [infinityWords, List.mem_cons, List.not_mem_nil, or_false] at listed
    rcases listed with rfl | rfl <;>
    · obtain ⟨c, rest, rfl, hc, -⟩ := exists_cons_of_foldCase spelled
      exact ⟨c, rest, rfl, .inr (by rw [hc]; decide)⟩
  | nan signs spelled =>
    obtain ⟨c, rest, rfl, hc, -⟩ := exists_cons_of_foldCase spelled
    exact hsigned signs ⟨c, rest, rfl, .inr (by rw [hc]; decide)⟩
  | decimal signs unsigned =>
    obtain ⟨c, rest, rfl, hc⟩ := unsigned.exists_cons
    refine hsigned signs ⟨c, rest, rfl, hc.imp id ?_⟩
    rintro rfl
    decide

end Binary64.Numeral

end Hiring

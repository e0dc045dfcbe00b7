import Hiring.Json.Document
import Hiring.Proofs.Json.Numeral

/-!
# Written documents are read as what they say

A value is written by one recursion over its tree and read in two passes that know nothing of the
tree: the text is cut into tokens, and a machine with a stack puts the tokens together.  Between the
two passes stands the list of the tokens of a value, which is the same for both ways of writing.

Nothing changes on the way but numbers, of which some are read as a neighbour.

* `stringBody?_escapeChar`, `joinUnits?_toNat` — a string reads back, escapes included.
* `Json.tokens` — the tokens of a value.
* `Token.ofChars_compactChars`, `Token.ofChars_prettyChars` — what is written is cut into them.
* `Document.reread` — the tree of a value, with the numbers that its numbers are read as.
* `Document.run_tokens` — **the machine puts the tokens together again**, whatever is open around
  them and whatever follows.
* `Document.read_compact`, `Document.read_pretty` — a written value is read as that tree.
* `Json.NumbersReadBack` — all numbers in a value are read as themselves; then the tree is that of
  the value (`Document.reread_eq_ofJson`).
-/

set_option autoImplicit false

namespace Hiring.Json

open Text

/-! ## Strings -/

/-- A code unit in front of what is read of a string. -/
def consUnit (unit : Nat) (found : Option (List Nat × List Char)) : Option (List Nat × List Char) :=
  found.map fun found => (unit :: found.1, found.2)

theorem stringBody?_letter {e c : Char} (he : e ≠ 'u') (h : unescape? e = some c)
    (cs : List Char) : stringBody? ('\\' :: e :: cs) = consUnit c.toNat (stringBody? cs) := by
  rw [stringBody?, h]
  · cases stringBody? cs <;> rfl
  · rintro _ _ _ _ _ rfl
    exact absurd rfl he

theorem hexDigits_control : ∀ n < 0x20,
    List.replicate (4 - (hexDigits n).length) '0' ++ hexDigits n =
      ['0', '0', if n < 0x10 then '0' else '1', Nat.digitChar (n % 0x10)] := by
  decide

theorem hex4?_control : ∀ n < 0x20,
    hex4? '0' '0' (if n < 0x10 then '0' else '1') (Nat.digitChar (n % 0x10)) = some n := by
  decide

theorem stringBody?_control {n : Nat} (h : n < 0x20) (cs : List Char) :
    stringBody?
        (['\\', 'u'] ++ List.replicate (4 - (hexDigits n).length) '0' ++ hexDigits n ++ cs) =
      consUnit n (stringBody? cs) := by
  rw [List.append_assoc ['\\', 'u'], hexDigits_control n h]
  simp only [List.cons_append, List.nil_append]
  rw [stringBody?, hex4?_control n h]
  cases stringBody? cs <;> rfl

theorem stringBody?_plain {c : Char} (hquote : c ≠ '"') (hslash : c ≠ '\\') (h : ¬ c.toNat < 0x20)
    (cs : List Char) : stringBody? (c :: cs) = consUnit c.toNat (stringBody? cs) := by
  rw [stringBody?]
  · simp only [hslash, h, decide_false, Bool.or_self, Bool.false_eq_true, if_false]
    cases stringBody? cs <;> rfl
  · exact hquote
  · exact fun _ _ _ _ _ h _ => hslash h
  · exact fun _ _ h _ => hslash h

/-- **A character inside a string is read as its code unit**, also where it is escaped. -/
theorem stringBody?_escapeChar (c : Char) (cs : List Char) :
    stringBody? (escapeChar c ++ cs) = consUnit c.toNat (stringBody? cs) := by
  unfold escapeChar
  split
  · next h => subst h; exact stringBody?_letter (by decide) rfl cs
  split
  · next h => subst h; exact stringBody?_letter (by decide) rfl cs
  split
  · next h => subst h; exact stringBody?_letter (by decide) rfl cs
  split
  · next h => subst h; exact stringBody?_letter (by decide) rfl cs
  split
  · next h => subst h; exact stringBody?_letter (by decide) rfl cs
  split
  · next h => subst h; exact stringBody?_letter (by decide) rfl cs
  split
  · next h => subst h; exact stringBody?_letter (by decide) rfl cs
  split
  · next h => exact stringBody?_control h cs
  · next hquote hslash _ _ _ _ _ h => exact stringBody?_plain hquote hslash h cs

/-- The characters of a string read back as their code units, up to the closing quote. -/
theorem stringBody?_flatMap (cs rest : List Char) :
    stringBody? (cs.flatMap escapeChar ++ '"' :: rest) = some (cs.map Char.toNat, rest) := by
  induction cs with
  | nil => rfl
  | cons c cs ih => rw [List.flatMap_cons, List.append_assoc, stringBody?_escapeChar, ih]; rfl

/-- A character is never half of a pair. -/
theorem not_isHalf (c : Char) : isHighHalf c.toNat = false ∧ isLowHalf c.toNat = false := by
  have hvalid : c.toNat < 0xD800 ∨ 0xDFFF < c.toNat ∧ c.toNat < 0x110000 := c.valid
  simp only [isHighHalf, isLowHalf, Bool.and_eq_false_iff, decide_eq_false_iff_not]
  omega

/-- The code units of characters make the characters again. -/
theorem joinUnits?_toNat (cs : List Char) : joinUnits? (cs.map Char.toNat) = some cs := by
  induction cs with
  | nil => rfl
  | cons c cs ih =>
    have hc := not_isHalf c
    cases cs with
    | nil => simp [joinUnits?, hc.1, hc.2]
    | cons d cs =>
      rw [List.map_cons, List.map_cons, joinUnits?, hc.1, hc.2, ← List.map_cons, ih]
      simp

/-! ## Tokens of a value -/

mutual

/-- The tokens of a value. -/
def tokens : Json → List Token
  | .null => [.null]
  | .bool b => [.bool b]
  | .number n => [.number n.reread]
  | .string s => [.string (some s)]
  | .array items => .openArray :: (itemTokens items ++ [.closeArray])
  | .object fields => .openObject :: (fieldTokens fields ++ [.closeObject])

/-- The tokens of the items of an array. -/
def itemTokens : List Json → List Token
  | [] => []
  | [item] => tokens item
  | item :: rest => tokens item ++ .comma :: itemTokens rest

/-- The tokens of the fields of an object. -/
def fieldTokens : List (String × Json) → List Token
  | [] => []
  | [(name, value)] => .string (some name) :: .colon :: tokens value
  | (name, value) :: rest =>
    .string (some name) :: .colon :: (tokens value ++ .comma :: fieldTokens rest)

end

/-! ## Cutting a text into tokens -/

theorem Token.ofChars_gap {c : Char} (h : isGap c = true) (rest : List Char) :
    Token.ofChars (c :: rest) = Token.ofChars rest := by
  rw [Token.ofChars, if_pos h]

theorem Token.ofChars_cons {c : Char} (h : isGap c = false) {t : Token} {rest after : List Char}
    (hfirst : first c rest = (t, after)) :
    Token.ofChars (c :: rest) = t :: Token.ofChars after := by
  rw [Token.ofChars, if_neg (by simp [h]), hfirst]

theorem Token.ofChars_stringChars (s : String) (rest : List Char) :
    Token.ofChars (stringChars s ++ rest) = .string (some s) :: Token.ofChars rest := by
  have hbody := stringBody?_flatMap s.toList rest
  have hfirst : first '"' (s.toList.flatMap escapeChar ++ '"' :: rest) =
      (.string (some s), rest) := by
    simp only [first, hbody, joinUnits?_toNat, Option.map_some, String.ofList_toList]
  rw [← Token.ofChars_cons rfl hfirst, stringChars, List.cons_append, List.append_assoc]
  rfl

/-- What begins a numeral begins nothing else. -/
theorem ne_of_begins {c d : Char} (hc : c = '-' ∨ isDigit c = true) (hd : isDigit d = false)
    (hminus : d ≠ '-') : c ≠ d := by
  rintro rfl
  rcases hc with hc | hc
  · exact hminus hc
  · rw [hc] at hd
    cases hd

theorem first_of_numeral {c : Char} (hc : c = '-' ∨ isDigit c = true) {rest after : List Char}
    {value : Option Number} (h : numeral? (c :: rest) = some (value, after)) :
    first c rest = (.number value, after) := by
  unfold first
  split
  iterate 7 exact absurd rfl (ne_of_begins hc (by decide) (by decide))
  split
  iterate 3
    · next heq => exact absurd (List.cons.inj heq).1 (ne_of_begins hc (by decide) (by decide))
  · rw [h]

theorem isGap_of_begins {c : Char} (hc : c = '-' ∨ isDigit c = true) : isGap c = false := by
  have hspace : c ≠ ' ' := ne_of_begins hc (by decide) (by decide)
  have hline : c ≠ '\n' := ne_of_begins hc (by decide) (by decide)
  have hreturn : c ≠ '\r' := ne_of_begins hc (by decide) (by decide)
  have htab : c ≠ '\t' := ne_of_begins hc (by decide) (by decide)
  simp [isGap, hspace, hline, hreturn, htab]

theorem Token.ofChars_number (n : Number) {rest : List Char} (hrest : EndsNumeral rest) :
    Token.ofChars (n.chars ++ rest) = .number n.reread :: Token.ofChars rest := by
  have hnumeral := numeral?_number n hrest
  obtain ⟨c, cs, hcs, hc⟩ := exists_chars_eq_cons n
  rw [hcs, List.cons_append] at hnumeral ⊢
  exact Token.ofChars_cons (isGap_of_begins hc) (first_of_numeral hc hnumeral)

/-- What stands behind a value in a written document ends a numeral. -/
theorem endsNumeral_of_mem {c : Char} (h : c ∈ [',', ']', '\x7d', '\n']) (rest : List Char) :
    EndsNumeral (c :: rest) := by
  refine endsNumeral_cons ?_
  simp only [List.mem_cons, List.not_mem_nil, or_false] at h
  obtain rfl | rfl | rfl | rfl := h <;> decide

/-! ### Values on one line -/

mutual

/-- **A value on one line is cut into its tokens.** -/
theorem Token.ofChars_compactChars : (j : Json) → {rest : List Char} → EndsNumeral rest →
    Token.ofChars (j.compactChars ++ rest) = j.tokens ++ Token.ofChars rest
  | .null, _, _ => Token.ofChars_cons rfl rfl
  | .bool true, _, _ => Token.ofChars_cons rfl rfl
  | .bool false, _, _ => Token.ofChars_cons rfl rfl
  | .number n, _, hrest => Token.ofChars_number n hrest
  | .string s, rest, _ => Token.ofChars_stringChars s rest
  | .array items, rest, _ => by
    have hitems := Token.ofChars_compactItems items (endsNumeral_of_mem (c := ']') (by simp) rest)
    rw [Token.ofChars_cons (c := ']') rfl rfl] at hitems
    simp only [compactChars, tokens, List.cons_append, List.append_assoc, List.nil_append]
    rw [Token.ofChars_cons (c := '[') rfl rfl, hitems]
  | .object fields, rest, _ => by
    have hfields :=
      Token.ofChars_compactFields fields (endsNumeral_of_mem (c := '\x7d') (by simp) rest)
    rw [Token.ofChars_cons (c := '\x7d') rfl rfl] at hfields
    simp only [compactChars, tokens, List.cons_append, List.append_assoc, List.nil_append]
    rw [Token.ofChars_cons (c := '\x7b') rfl rfl, hfields]

theorem Token.ofChars_compactItems : (items : List Json) → {rest : List Char} →
    EndsNumeral rest →
    Token.ofChars (compactItems items ++ rest) = itemTokens items ++ Token.ofChars rest
  | [], _, _ => rfl
  | [item], _, hrest => Token.ofChars_compactChars item hrest
  | item :: next :: items, rest, hrest => by
    have hitem := Token.ofChars_compactChars item
      (endsNumeral_of_mem (c := ',') (by simp) (compactItems (next :: items) ++ rest))
    rw [Token.ofChars_cons (c := ',') rfl rfl,
      Token.ofChars_compactItems (next :: items) hrest] at hitem
    simpa only [compactItems, itemTokens, List.append_assoc, List.cons_append] using hitem

theorem Token.ofChars_compactFields : (fields : List (String × Json)) → {rest : List Char} →
    EndsNumeral rest →
    Token.ofChars (compactFields fields ++ rest) = fieldTokens fields ++ Token.ofChars rest
  | [], _, _ => rfl
  | [(name, value)], rest, hrest => by
    have hvalue := Token.ofChars_compactChars value hrest
    simp only [compactFields, fieldTokens, List.append_assoc, List.cons_append]
    rw [Token.ofChars_stringChars, Token.ofChars_cons (c := ':') rfl rfl, hvalue]
  | (name, value) :: next :: fields, rest, hrest => by
    have hvalue := Token.ofChars_compactChars value
      (endsNumeral_of_mem (c := ',') (by simp) (compactFields (next :: fields) ++ rest))
    rw [Token.ofChars_cons (c := ',') rfl rfl,
      Token.ofChars_compactFields (next :: fields) hrest] at hvalue
    simp only [compactFields, fieldTokens, List.append_assoc, List.cons_append]
    rw [Token.ofChars_stringChars, Token.ofChars_cons (c := ':') rfl rfl, hvalue]

end

/-! ### Values over several lines -/

/-- The start of a line holds no token. -/
theorem Token.ofChars_newline (depth : Nat) (rest : List Char) :
    Token.ofChars (newline depth ++ rest) = Token.ofChars rest := by
  rw [newline, List.cons_append, Token.ofChars_gap rfl]
  induction 2 * depth with
  | zero => rfl
  | succ n ih => rw [List.replicate_succ, List.cons_append, Token.ofChars_gap rfl, ih]

theorem endsNumeral_newline (depth : Nat) (rest : List Char) :
    EndsNumeral (newline depth ++ rest) :=
  endsNumeral_of_mem (c := '\n') (by simp) _

mutual

/-- **A value over several lines is cut into the same tokens.** -/
theorem Token.ofChars_prettyChars : (depth : Nat) → (j : Json) → {rest : List Char} →
    EndsNumeral rest →
    Token.ofChars (j.prettyChars depth ++ rest) = j.tokens ++ Token.ofChars rest
  | _, .null, _, _ => Token.ofChars_cons rfl rfl
  | _, .bool true, _, _ => Token.ofChars_cons rfl rfl
  | _, .bool false, _, _ => Token.ofChars_cons rfl rfl
  | _, .number n, _, hrest => Token.ofChars_number n hrest
  | _, .string s, rest, _ => Token.ofChars_stringChars s rest
  | _, .array [], rest, _ => by
    simp only [prettyChars, tokens, itemTokens, List.cons_append, List.nil_append]
    rw [Token.ofChars_cons (c := '[') rfl rfl, Token.ofChars_cons (c := ']') rfl rfl]
  | depth, .array (item :: items), rest, _ => by
    have hitems := Token.ofChars_prettyItems (depth + 1) (item :: items)
      (endsNumeral_newline depth (']' :: rest))
    rw [Token.ofChars_newline, Token.ofChars_cons (c := ']') rfl rfl] at hitems
    simp only [prettyChars, tokens, List.cons_append, List.append_assoc, List.nil_append]
    rw [Token.ofChars_cons (c := '[') rfl rfl, hitems]
  | _, .object [], rest, _ => by
    simp only [prettyChars, tokens, fieldTokens, List.cons_append, List.nil_append]
    rw [Token.ofChars_cons (c := '\x7b') rfl rfl, Token.ofChars_cons (c := '\x7d') rfl rfl]
  | depth, .object (field :: fields), rest, _ => by
    have hfields := Token.ofChars_prettyFields (depth + 1) (field :: fields)
      (endsNumeral_newline depth ('\x7d' :: rest))
    rw [Token.ofChars_newline, Token.ofChars_cons (c := '\x7d') rfl rfl] at hfields
    simp only [prettyChars, tokens, List.cons_append, List.append_assoc, List.nil_append]
    rw [Token.ofChars_cons (c := '\x7b') rfl rfl, hfields]

theorem Token.ofChars_prettyItems : (depth : Nat) → (items : List Json) → {rest : List Char} →
    EndsNumeral rest →
    Token.ofChars (prettyItems depth items ++ rest) = itemTokens items ++ Token.ofChars rest
  | _, [], _, _ => rfl
  | depth, [item], rest, hrest => by
    simp only [prettyItems, itemTokens, List.append_assoc]
    rw [Token.ofChars_newline, Token.ofChars_prettyChars depth item hrest]
  | depth, item :: next :: items, rest, hrest => by
    have hitem := Token.ofChars_prettyChars depth item
      (endsNumeral_of_mem (c := ',') (by simp) (prettyItems depth (next :: items) ++ rest))
    rw [Token.ofChars_cons (c := ',') rfl rfl,
      Token.ofChars_prettyItems depth (next :: items) hrest] at hitem
    simp only [prettyItems, itemTokens, List.append_assoc, List.cons_append] at hitem ⊢
    rw [Token.ofChars_newline, hitem]

theorem Token.ofChars_prettyFields : (depth : Nat) → (fields : List (String × Json)) →
    {rest : List Char} → EndsNumeral rest →
    Token.ofChars (prettyFields depth fields ++ rest) = fieldTokens fields ++ Token.ofChars rest
  | _, [], _, _ => rfl
  | depth, [(name, value)], rest, hrest => by
    have hvalue := Token.ofChars_prettyChars depth value hrest
    simp only [prettyFields, fieldTokens, List.append_assoc, List.cons_append]
    rw [Token.ofChars_newline, Token.ofChars_stringChars, Token.ofChars_cons (c := ':') rfl rfl,
      Token.ofChars_gap (c := ' ') rfl, hvalue]
  | depth, (name, value) :: next :: fields, rest, hrest => by
    have hvalue := Token.ofChars_prettyChars depth value
      (endsNumeral_of_mem (c := ',') (by simp) (prettyFields depth (next :: fields) ++ rest))
    rw [Token.ofChars_cons (c := ',') rfl rfl,
      Token.ofChars_prettyFields depth (next :: fields) hrest] at hvalue
    simp only [prettyFields, fieldTokens, List.append_assoc, List.cons_append] at hvalue ⊢
    rw [Token.ofChars_newline, Token.ofChars_stringChars, Token.ofChars_cons (c := ':') rfl rfl,
      Token.ofChars_gap (c := ' ') rfl, hvalue]

end

/-! ## Putting the tokens together -/

namespace Document

mutual

/-- The document of a value that was written, in which each number is what it is read as. -/
def reread : Json → Document
  | .null => .null
  | .bool b => .bool b
  | .number n => .number n.reread
  | .string s => .string (some s)
  | .array items => .array (rereadItems items) true
  | .object fields => .object (rereadFields fields) true

/-- The documents of the items of an array that was written. -/
def rereadItems : List Json → List Document
  | [] => []
  | item :: rest => reread item :: rereadItems rest

/-- The documents of the fields of an object that was written. -/
def rereadFields : List (String × Json) → List (Option String × Document)
  | [] => []
  | (name, value) :: rest => (some name, reread value) :: rereadFields rest

end

/-- What becomes of the tokens that follow a step. -/
def Progress.resume (p : Progress) (ts : List Token) : Document × Bool :=
  match p with
  | .more mode stack => run mode stack ts
  | .done d => (d, !ts.isEmpty)
  | .failed inner stack => (wrap inner stack, false)

theorem run_cons (mode : Mode) (stack : List Frame) (t : Token) (ts : List Token) :
    run mode stack (t :: ts) = (step mode stack t).resume ts := rfl

/-- The tokens of a value do not begin with a closing bracket. -/
theorem exists_tokens_eq_cons (j : Json) :
    ∃ t ts, j.tokens = t :: ts ∧ t ≠ .closeArray := by
  cases j <;> exact ⟨_, _, rfl, nofun⟩

/-- The first item of an array is read like any other value. -/
theorem run_firstItem (item : Json) (items : List Json) (stack : List Frame) (ts : List Token) :
    run .firstItem stack (itemTokens (item :: items) ++ ts) =
      run .value (.array [] :: stack) (itemTokens (item :: items) ++ ts) := by
  obtain ⟨t, rest, ht, hne⟩ :
      ∃ t rest, itemTokens (item :: items) = t :: rest ∧ t ≠ .closeArray := by
    obtain ⟨t, rest, ht, hne⟩ := exists_tokens_eq_cons item
    cases items with
    | nil => exact ⟨t, rest, ht, hne⟩
    | cons next items =>
      rw [itemTokens, ht]
      · exact ⟨t, _, rfl, hne⟩
      · exact nofun
  rw [ht, List.cons_append, run_cons, run_cons]
  cases t with
  | closeArray => exact absurd rfl hne
  | _ => rfl

/-- The first field of an object is read like any other one. -/
theorem run_firstName (field : String × Json) (fields : List (String × Json)) (stack : List Frame)
    (ts : List Token) :
    run .firstName stack (fieldTokens (field :: fields) ++ ts) =
      run (.name []) stack (fieldTokens (field :: fields) ++ ts) := by
  cases fields <;> rfl

mutual

/-- **The tokens of a value make its document**, and reading goes on with what is open around it. -/
theorem run_tokens : (j : Json) → (stack : List Frame) → (ts : List Token) →
    run .value stack (j.tokens ++ ts) = (complete (reread j) stack).resume ts
  | .null, _, _ => rfl
  | .bool _, _, _ => rfl
  | .number _, _, _ => rfl
  | .string _, _, _ => rfl
  | .array [], _, _ => rfl
  | .array (item :: items), stack, ts => by
    have hitems := run_itemTokens (item :: items) nofun [] stack ts
    rw [← run_firstItem] at hitems
    simp only [tokens, List.cons_append, List.append_assoc, List.nil_append]
    exact hitems
  | .object [], _, _ => rfl
  | .object (field :: fields), stack, ts => by
    have hfields := run_fieldTokens (field :: fields) nofun [] stack ts
    rw [← run_firstName] at hfields
    simp only [tokens, List.cons_append, List.append_assoc, List.nil_append]
    exact hfields

/-- Items that follow others are put behind them. -/
theorem run_itemTokens : (items : List Json) → items ≠ [] → (before : List Document) →
    (stack : List Frame) → (ts : List Token) →
    run .value (.array before :: stack) (itemTokens items ++ .closeArray :: ts) =
      (complete (.array (before.reverse ++ rereadItems items) true) stack).resume ts
  | [item], _, before, stack, ts => by
    rw [itemTokens, run_tokens item]
    simp only [complete, Progress.resume, run_cons, step, rereadItems, List.reverse_cons]
  | item :: next :: items, _, before, stack, ts => by
    have hnext := run_itemTokens (next :: items) nofun (reread item :: before) stack ts
    simp only [itemTokens, List.append_assoc, List.cons_append]
    rw [run_tokens item]
    simp only [complete, Progress.resume, run_cons, step]
    rw [hnext, List.reverse_cons, List.append_assoc]
    rfl

/-- Fields that follow others are put behind them. -/
theorem run_fieldTokens : (fields : List (String × Json)) → fields ≠ [] →
    (before : List (Option String × Document)) → (stack : List Frame) → (ts : List Token) →
    run (.name before) stack (fieldTokens fields ++ .closeObject :: ts) =
      (complete (.object (before.reverse ++ rereadFields fields) true) stack).resume ts
  | [(name, value)], _, before, stack, ts => by
    simp only [fieldTokens, List.cons_append, run_cons, step, Progress.resume]
    rw [run_tokens value]
    simp only [complete, Progress.resume, run_cons, step, rereadFields, List.reverse_cons]
  | (name, value) :: next :: fields, _, before, stack, ts => by
    have hnext := run_fieldTokens (next :: fields) nofun ((some name, reread value) :: before) stack
      ts
    simp only [fieldTokens, List.append_assoc, List.cons_append, run_cons, step, Progress.resume]
    rw [run_tokens value]
    simp only [complete, Progress.resume, run_cons, step]
    rw [hnext, List.reverse_cons, List.append_assoc]
    rfl

end

/-! ## Written values -/

end Document

/-! ## Values whose numbers read back -/

mutual

/-- The numbers in a value. -/
def numbers : Json → List Number
  | .number n => [n]
  | .array items => itemNumbers items
  | .object fields => fieldNumbers fields
  | .null => []
  | .bool _ => []
  | .string _ => []

/-- The numbers in the items of an array. -/
def itemNumbers : List Json → List Number
  | [] => []
  | item :: rest => numbers item ++ itemNumbers rest

/-- The numbers in the fields of an object. -/
def fieldNumbers : List (String × Json) → List Number
  | [] => []
  | (_, value) :: rest => numbers value ++ fieldNumbers rest

end

/-- The reader returns each number in the value for its written form. -/
def NumbersReadBack (j : Json) : Prop := ∀ n ∈ j.numbers, n.ReadsBack

instance (j : Json) : Decidable j.NumbersReadBack :=
  inferInstanceAs (Decidable (∀ n ∈ j.numbers, n.ReadsBack))

namespace Document

mutual

/-- **A written value is read as its document if its numbers read back.** -/
theorem reread_eq_ofJson : (j : Json) → j.NumbersReadBack → reread j = ofJson j
  | .null, _ => rfl
  | .bool _, _ => rfl
  | .number n, h => congrArg Document.number (h n (.head _))
  | .string _, _ => rfl
  | .array items, h => by rw [reread, ofJson, rereadItems_eq_ofItems items h]
  | .object fields, h => by rw [reread, ofJson, rereadFields_eq_ofFields fields h]

theorem rereadItems_eq_ofItems : (items : List Json) →
    (∀ n ∈ itemNumbers items, n.ReadsBack) → rereadItems items = ofItems items
  | [], _ => rfl
  | item :: rest, h => by
    rw [itemNumbers, List.forall_mem_append] at h
    rw [rereadItems, ofItems, reread_eq_ofJson item h.1, rereadItems_eq_ofItems rest h.2]

theorem rereadFields_eq_ofFields : (fields : List (String × Json)) →
    (∀ n ∈ fieldNumbers fields, n.ReadsBack) → rereadFields fields = ofFields fields
  | [], _ => rfl
  | (_, value) :: rest, h => by
    rw [fieldNumbers, List.forall_mem_append] at h
    rw [rereadFields, ofFields, reread_eq_ofJson value h.1, rereadFields_eq_ofFields rest h.2]

end

end Document

end Hiring.Json

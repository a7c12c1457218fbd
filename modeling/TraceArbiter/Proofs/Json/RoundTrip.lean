import Mathlib.Tactic.SplitIfs
import TraceArbiter.Json.Parser
import TraceArbiter.Json.Printer
import TraceArbiter.Proofs.Text.Numeral

/-!
# Reading what is printed

A value can be read back from its compact text. Each part is read off the front of a longer text, so
that the parts of a container can be read one after the other; only a number has to know what comes
next, because more digits would make it another number. Behind a value that is part of another one
comes a comma or a closing bracket, and never a digit.
-/

namespace TraceArbiter.Json

open TraceArbiter.Text

/-! ### Strings -/

theorem codeUnit?_hexDigitChar {n : Nat} (h : n < 0x20) :
    codeUnit? '0' '0' (hexDigitChar (n / 16)) (hexDigitChar (n % 16)) = some n := by
  revert n
  decide

theorem readPoints_plain {c : Char} (hquote : c ≠ '"') (hbackslash : c ≠ '\\')
    (hcontrol : ¬c.toNat < 0x20) (cs : List Char) :
    readPoints (c :: cs) = (readPoints cs).map fun (points, rest) => (c.toNat :: points, rest) := by
  rw [readPoints.eq_def]
  split
  · next heq => exact absurd (List.cons.inj heq).1 hquote
  · next heq => exact absurd (List.cons.inj heq).1 hbackslash
  · next heq => exact absurd (List.cons.inj heq).1 hbackslash
  · next heq =>
    obtain ⟨rfl, rfl⟩ := List.cons.inj heq
    simp [hbackslash, hcontrol]
  · next heq => cases heq

/-- The letters behind a backslash that mean a character by themselves. -/
theorem readPoints_letter {letter c : Char} (hletter : unescape? letter = some c) (cs : List Char) :
    readPoints ('\\' :: letter :: cs) =
      (readPoints cs).map fun (points, rest) => (c.toNat :: points, rest) := by
  rw [readPoints.eq_def]
  split
  · next heq => cases (List.cons.inj heq).1
  · next heq =>
    obtain ⟨-, heq⟩ := List.cons.inj heq
    rw [(List.cons.inj heq).1] at hletter
    cases hletter
  · next heq =>
    obtain ⟨-, heq⟩ := List.cons.inj heq
    obtain ⟨rfl, rfl⟩ := List.cons.inj heq
    rw [hletter]
    cases readPoints cs <;> rfl
  · next hnot heq =>
    obtain ⟨rfl, rfl⟩ := List.cons.inj heq
    exact (hnot letter cs rfl rfl).elim
  · next heq => cases heq

theorem readPoints_unit {n : Nat} (h : n < 0x20) (cs : List Char) :
    readPoints ('\\' :: 'u' :: '0' :: '0' :: hexDigitChar (n / 16) :: hexDigitChar (n % 16) :: cs) =
      (readPoints cs).map fun (points, rest) => (n :: points, rest) := by
  rw [readPoints, codeUnit?_hexDigitChar h]
  cases readPoints cs <;> rfl

theorem readPoints_escapeChar (c : Char) (cs : List Char) :
    readPoints (escapeChar c ++ cs) =
      (readPoints cs).map fun (points, rest) => (c.toNat :: points, rest) := by
  unfold escapeChar
  split_ifs with hquote hbackslash _ _ _ _ _ hcontrol
  rotate_left 7
  · exact readPoints_unit hcontrol cs
  · exact readPoints_plain hquote hbackslash hcontrol cs
  -- What is left are the seven characters that have a letter.
  all_goals
    subst c
    exact readPoints_letter rfl cs

theorem readPoints_flatMap (cs rest : List Char) :
    readPoints (cs.flatMap escapeChar ++ '"' :: rest) = some (cs.map Char.toNat, rest) := by
  induction cs with
  | nil => rw [List.flatMap_nil, List.nil_append, readPoints, List.map_nil]
  | cons c cs ih =>
    rw [List.flatMap_cons, List.append_assoc, readPoints_escapeChar, ih]
    rfl

/-- A character is never a surrogate. -/
theorem not_surrogate (c : Char) :
    isHighSurrogate c.toNat = false ∧ isLowSurrogate c.toNat = false := by
  have hvalid : c.toNat < 0xD800 ∨ 0xDFFF < c.toNat ∧ c.toNat < 0x110000 := c.valid
  simp only [isHighSurrogate, isLowSurrogate, Bool.and_eq_false_iff, decide_eq_false_iff_not]
  omega

theorem pairPoints?_map (cs : List Char) : pairPoints? (cs.map Char.toNat) = some cs := by
  induction cs with
  | nil => rfl
  | cons c cs ih =>
    obtain ⟨hhigh, hlow⟩ := not_surrogate c
    cases cs with
    | nil => simp [pairPoints?, hhigh, hlow]
    | cons d cs =>
      rw [List.map_cons, List.map_cons, pairPoints?, ← List.map_cons, ih]
      simp [hhigh, hlow]

theorem readText_printText (text : Text) (rest : List Char) :
    ∃ cs, printText text ++ rest = '"' :: cs ∧ readText cs = some (text, rest) := by
  cases text with
  | some s =>
    refine ⟨s.toList.flatMap escapeChar ++ '"' :: rest, ?_, ?_⟩
    · change '"' :: (s.toList.flatMap escapeChar ++ ['"'] ++ rest) = _
      rw [List.append_assoc, List.singleton_append]
    · unfold readText
      rw [readPoints_flatMap, Option.map_some]
      dsimp only
      rw [pairPoints?_map, Option.map_some, String.ofList_toList]
  | none =>
    have hunit : codeUnit? 'd' '8' '0' '0' = some 0xd800 := by
      simp [codeUnit?, TraceArbiter.Text.hexadecimal?, TraceArbiter.Text.hexDigit?]
    refine ⟨'\\' :: 'u' :: 'd' :: '8' :: '0' :: '0' :: '"' :: rest, rfl, ?_⟩
    unfold readText
    rw [readPoints, readPoints, hunit]
    rfl

/-! ### Numbers -/

/-- A number goes on with a digit, a point or an exponent. -/
def continuesNumber (c : Char) : Bool :=
  c.isDigit || c = '.' || c = 'e' || c = 'E'

/-- What stands behind a number does not go on with it. -/
def EndsNumber (rest : List Char) : Prop :=
  ∀ c ∈ rest.head?, continuesNumber c = false

theorem readDigits_append {digits rest : List Char} (hne : digits ≠ [])
    (hdigits : ∀ c ∈ digits, c.isDigit) (hrest : ∀ c ∈ rest.head?, c.isDigit = false) :
    readDigits (digits ++ rest) = some (digits, rest) := by
  have htake : rest.takeWhile Char.isDigit = [] ∧ rest.dropWhile Char.isDigit = rest := by
    cases rest with
    | nil => exact ⟨rfl, rfl⟩
    | cons c rest => simp [hrest c rfl]
  unfold readDigits
  rw [List.takeWhile_append_of_pos hdigits, List.dropWhile_append_of_pos hdigits, htake.1, htake.2,
    List.append_nil]
  simp [hne]

theorem readDigits_repr (n : Nat) {rest : List Char} (hrest : ∀ c ∈ rest.head?, c.isDigit = false) :
    readDigits (n.repr.toList ++ rest) = some (n.repr.toList, rest) :=
  readDigits_append (repr_ne_nil n) (fun _ => isDigit_of_mem_repr) hrest

theorem readWhole_repr (n : Nat) {rest : List Char} (hrest : ∀ c ∈ rest.head?, c.isDigit = false) :
    readWhole (n.repr.toList ++ rest) = some (n, rest) := by
  unfold readWhole
  rw [readDigits_repr n hrest]
  by_cases hn : n = 0
  · subst hn
    rfl
  · have hhead := head?_repr hn
    split
    · next heq =>
      rw [(Prod.mk.inj (Option.some.inj heq)).1] at hhead
      exact absurd rfl hhead
    · next heq =>
      rw [(Prod.mk.inj (Option.some.inj heq)).1] at hhead
      exact absurd rfl hhead
    · next heq =>
      obtain ⟨rfl, rfl⟩ := Prod.mk.inj (Option.some.inj heq)
      rw [ofDigitChars_repr]
    · next heq => cases heq

theorem readExponent_none {rest : List Char} (hrest : EndsNumber rest) :
    readExponent rest = some (none, rest) := by
  cases rest with
  | nil => rfl
  | cons c rest =>
    have hc : continuesNumber c = false := hrest c rfl
    simp only [continuesNumber, Bool.or_eq_false_iff, decide_eq_false_iff_not] at hc
    simp [readExponent, hc.1.2, hc.2]

theorem isDigit_of_endsNumber {rest : List Char} (hrest : EndsNumber rest) :
    ∀ c ∈ rest.head?, c.isDigit = false := by
  intro c hc
  have hends := hrest c hc
  simp only [continuesNumber, Bool.or_eq_false_iff] at hends
  exact hends.1.1.1

theorem readExponent_some (e : Int) {rest : List Char} (hrest : EndsNumber rest) :
    readExponent ('e' :: (e.repr.toList ++ rest)) = some (some e, rest) := by
  unfold readExponent
  dsimp only
  rw [if_pos (by decide)]
  cases e with
  | ofNat n =>
    have hread := readDigits_repr n (isDigit_of_endsNumber hrest)
    obtain ⟨c, cs, htext, hdigit⟩ := exists_digit_repr n
    rw [show (Int.ofNat n).repr = n.repr from rfl]
    rw [htext, List.cons_append] at hread ⊢
    split
    · next heq =>
      rw [(List.cons.inj heq).1] at hdigit
      cases hdigit
    · next heq =>
      rw [(List.cons.inj heq).1] at hdigit
      cases hdigit
    · rw [hread, Option.map_some, ← htext, ofDigitChars_repr]
      rfl
  | negSucc n =>
    have hread := readDigits_repr (n + 1) (isDigit_of_endsNumber hrest)
    have htext : (Int.negSucc n).repr.toList = '-' :: (n + 1).repr.toList := by
      change ("-" ++ (n + 1).repr).toList = _
      rw [String.toList_append]
      rfl
    rw [htext, List.cons_append]
    change (readDigits ((n + 1).repr.toList ++ rest)).map _ = _
    rw [hread, Option.map_some, ofDigitChars_repr]
    rfl

/-- A number whose fraction is spelled with digits. -/
def Number.isSpelled (n : Number) : Bool :=
  n.fraction.all Char.isDigit

/-- What is printed of a number behind its whole part. -/
def printExponent : Option Int → List Char
  | some e => 'e' :: e.repr.toList
  | none => []

def printFraction (fraction : List Char) : List Char :=
  if fraction.isEmpty then [] else '.' :: fraction

theorem readExponent_printExponent (exponent : Option Int) {rest : List Char}
    (hrest : EndsNumber rest) :
    readExponent (printExponent exponent ++ rest) = some (exponent, rest) := by
  cases exponent with
  | none => exact readExponent_none hrest
  | some e => exact readExponent_some e hrest

theorem readFraction_printFraction {fraction : List Char} (hdigits : ∀ c ∈ fraction, c.isDigit)
    {rest : List Char} (hrest : ∀ c ∈ rest.head?, c.isDigit = false ∧ c ≠ '.') :
    readFraction (printFraction fraction ++ rest) = some (fraction, rest) := by
  unfold printFraction
  cases fraction with
  | nil =>
    cases rest with
    | nil => rfl
    | cons c rest =>
      rw [List.isEmpty_nil, if_pos rfl, List.nil_append]
      unfold readFraction
      split
      · next heq => exact absurd (List.cons.inj heq).1 (hrest c rfl).2
      · rfl
  | cons c cs =>
    exact readDigits_append (List.cons_ne_nil c cs) hdigits fun c' hc' => (hrest c' hc').1

/-- Neither a digit nor a point comes behind a fraction, and no digit behind the whole part. -/
theorem readUnsigned_print (negative : Bool) (whole : Nat) {fraction : List Char}
    (hdigits : ∀ c ∈ fraction, c.isDigit) (exponent : Option Int) {rest : List Char}
    (hrest : EndsNumber rest) :
    readUnsigned negative (whole.repr.toList ++ (printFraction fraction ++
      (printExponent exponent ++ rest))) =
        some (.number ⟨negative, whole, fraction, exponent⟩, rest) := by
  have hexponent : ∀ c ∈ (printExponent exponent ++ rest).head?, c.isDigit = false ∧ c ≠ '.' := by
    cases exponent with
    | some e =>
      rintro c ⟨⟩
      decide
    | none =>
      intro c hc
      have hends := hrest c hc
      simp only [continuesNumber, Bool.or_eq_false_iff, decide_eq_false_iff_not] at hends
      exact ⟨hends.1.1.1, hends.1.1.2⟩
  have hfraction : ∀ c ∈ (printFraction fraction ++ (printExponent exponent ++ rest)).head?,
      c.isDigit = false := by
    cases fraction with
    | nil => exact fun c hc => (hexponent c hc).1
    | cons c cs =>
      rintro c ⟨⟩
      decide
  simp only [readUnsigned, readWhole_repr whole hfraction,
    readFraction_printFraction hdigits hexponent, readExponent_printExponent exponent hrest,
    Option.bind_eq_bind, Option.bind_some, Option.pure_def]

theorem printNumber_append (n : Number) (rest : List Char) :
    printNumber n ++ rest = (if n.negative then ['-'] else []) ++ (n.whole.repr.toList ++
      (printFraction n.fraction ++ (printExponent n.exponent ++ rest))) := by
  unfold printNumber printFraction
  cases n.exponent <;> simp [printExponent]

theorem readNumber_printNumber {n : Number} (hn : n.isSpelled) {rest : List Char}
    (hrest : EndsNumber rest) :
    readNumber (printNumber n ++ rest) = some (.number n, rest) := by
  have hdigits : ∀ c ∈ n.fraction, c.isDigit := List.all_eq_true.mp hn
  have hunsigned := readUnsigned_print n.negative n.whole hdigits n.exponent hrest
  rw [printNumber_append]
  cases hnegative : n.negative with
  | true =>
    rw [hnegative] at hunsigned
    rw [if_pos rfl, List.singleton_append]
    exact hunsigned.trans (by rw [← hnegative])
  | false =>
    rw [hnegative] at hunsigned
    obtain ⟨c, cs, htext, hdigit⟩ := exists_digit_repr n.whole
    rw [htext] at hunsigned ⊢
    unfold readNumber
    split
    · next heq =>
      rw [if_neg (by decide)] at heq
      rw [(List.cons.inj heq).1] at hdigit
      cases hdigit
    · exact hunsigned.trans (by rw [← hnegative])

/-! ### Values -/

/-- Every number in it has a fraction that is spelled with digits. -/
def isSpelled : Json → Bool
  | .number n => n.isSpelled
  | .array items => spelledItems items
  | .object members => spelledMembers members
  | _ => true
where
  spelledItems : List Json → Bool
    | [] => true
    | item :: items => item.isSpelled && spelledItems items
  spelledMembers : List (Text × Json) → Bool
    | [] => true
    | (_, value) :: members => value.isSpelled && spelledMembers members

theorem skipBlanks_cons {c : Char} (hc : isBlank c = false) (cs : List Char) :
    skipBlanks (c :: cs) = c :: cs := by
  simp [skipBlanks, hc]

/-- The characters that a number begins with. -/
def StartsNumber (c : Char) : Prop :=
  c.isDigit ∨ c = '-'

theorem StartsNumber.ne {c d : Char} (hc : StartsNumber c) (hd : ¬(d.isDigit ∨ d = '-')) : c ≠ d := by
  rintro rfl
  exact hd hc

theorem StartsNumber.not_isBlank {c : Char} (hc : StartsNumber c) : isBlank c = false := by
  simp only [isBlank, Bool.or_eq_false_iff, decide_eq_false_iff_not]
  exact ⟨⟨⟨hc.ne (by decide), hc.ne (by decide)⟩, hc.ne (by decide)⟩, hc.ne (by decide)⟩

theorem printNumber_cons (n : Number) : ∃ c cs, printNumber n = c :: cs ∧ StartsNumber c := by
  obtain ⟨c, cs, htext, hdigit⟩ := exists_digit_repr n.whole
  have hprint := printNumber_append n []
  rw [List.append_nil, htext] at hprint
  cases hnegative : n.negative with
  | true =>
    rw [hnegative, if_pos rfl] at hprint
    exact ⟨'-', _, hprint, .inr rfl⟩
  | false =>
    rw [hnegative, if_neg (by decide)] at hprint
    exact ⟨c, _, hprint, .inl hdigit⟩

theorem readValue_number {c : Char} (hc : StartsNumber c) (fuel : Nat) (cs : List Char) :
    readValue (fuel + 1) (c :: cs) = readNumber (c :: cs) := by
  rw [readValue, skipBlanks_cons hc.not_isBlank]
  split
  rotate_left 6
  · rfl
  -- The values of the other kinds begin with other characters.
  all_goals
    next heq => exact absurd (List.cons.inj heq).1 (hc.ne (by decide))

/-- No value begins with a blank or a closing bracket. -/
theorem printChars_cons (v : Json) :
    ∃ c cs, v.printChars = c :: cs ∧ isBlank c = false ∧ c ≠ ']' := by
  cases v with
  | null => exact ⟨'n', _, rfl, by decide⟩
  | bool value => cases value <;> exact ⟨_, _, rfl, by decide⟩
  | number n =>
    obtain ⟨c, cs, hprint, hc⟩ := printNumber_cons n
    exact ⟨c, cs, hprint, hc.not_isBlank, hc.ne (by decide)⟩
  | string text => cases text <;> exact ⟨'"', _, rfl, by decide⟩
  | array items => cases items <;> exact ⟨'[', _, by rw [printChars], by decide⟩
  | object members =>
    cases members with
    | nil => exact ⟨'{', _, by rw [printChars], by decide⟩
    | cons member members => exact ⟨'{', _, by rw [printChars], by decide⟩

/-! Each container is read item by item, so it is enough to know that its first item is read and that
the rest of it is. -/

section Containers

variable {fuel : Nat} {item value : Json} {items : List Json} {key : Text}
  {members : List (Text × Json)} {rest : List Char}

theorem readValue_bracket (cs : List Char) :
    readValue (fuel + 1) ('[' :: cs) =
      match skipBlanks cs with
      | ']' :: rest => some (array [], rest)
      | rest =>
        match readValue fuel rest with
        | some (item, rest) =>
          (readItems fuel rest).map fun (items, rest) => (array (item :: items), rest)
        | none => none := rfl

theorem readItems_comma (cs : List Char) :
    readItems (fuel + 1) (',' :: cs) =
      match readValue fuel cs with
      | some (item, rest) => (readItems fuel rest).map fun (items, rest) => (item :: items, rest)
      | none => none := rfl

theorem readValue_brace (cs : List Char) :
    readValue (fuel + 1) ('{' :: '"' :: cs) =
      match readMember fuel ('"' :: cs) with
      | some (member, rest) =>
        (readMembers fuel rest).map fun (members, rest) => (object (member :: members), rest)
      | none => none := rfl

theorem readMembers_comma (cs : List Char) :
    readMembers (fuel + 1) (',' :: cs) =
      match readMember fuel cs with
      | some (member, rest) =>
        (readMembers fuel rest).map fun (members, rest) => (member :: members, rest)
      | none => none := rfl

theorem readMember_quote (cs : List Char) :
    readMember (fuel + 1) ('"' :: cs) =
      match readText cs with
      | some (key, rest) =>
        match skipBlanks rest with
        | ':' :: rest => (readValue fuel rest).map fun (value, rest) => ((key, value), rest)
        | _ => none
      | none => none := rfl

theorem readItems_cons
    (hitem : readValue fuel (item.printChars ++ (printItems items ++ rest)) =
      some (item, printItems items ++ rest))
    (hitems : readItems fuel (printItems items ++ rest) = some (items, rest)) :
    readItems (fuel + 1) (printItems (item :: items) ++ rest) = some (item :: items, rest) := by
  rw [printItems, List.cons_append, List.append_assoc, readItems_comma, hitem]
  simp only [hitems, Option.map_some]

theorem readValue_array
    (hitem : readValue fuel (item.printChars ++ (printItems items ++ rest)) =
      some (item, printItems items ++ rest))
    (hitems : readItems fuel (printItems items ++ rest) = some (items, rest)) :
    readValue (fuel + 1) ((array (item :: items)).printChars ++ rest) =
      some (array (item :: items), rest) := by
  obtain ⟨c, cs, hprint, hblank, hclosing⟩ := printChars_cons item
  rw [printChars, List.cons_append, List.append_assoc]
  rw [hprint, List.cons_append] at hitem ⊢
  rw [readValue_bracket, skipBlanks_cons hblank]
  split
  · next heq => exact absurd (List.cons.inj heq).1 hclosing
  · simp only [hitem, hitems, Option.map_some]

theorem readMember_print (key : Text)
    (hvalue : readValue fuel (value.printChars ++ rest) = some (value, rest)) :
    readMember (fuel + 1) (printText key ++ ':' :: (value.printChars ++ rest)) =
      some ((key, value), rest) := by
  obtain ⟨cs, htext, hread⟩ := readText_printText key (':' :: (value.printChars ++ rest))
  rw [htext, readMember_quote, hread]
  change (readValue fuel (value.printChars ++ rest)).map _ = _
  rw [hvalue, Option.map_some]

theorem readMembers_cons
    (hvalue : readValue fuel (value.printChars ++ (printMembers members ++ rest)) =
      some (value, printMembers members ++ rest))
    (hmembers : readMembers (fuel + 1) (printMembers members ++ rest) = some (members, rest)) :
    readMembers (fuel + 2) (printMembers ((key, value) :: members) ++ rest) =
      some ((key, value) :: members, rest) := by
  rw [printMembers, List.cons_append, List.append_assoc, List.cons_append, List.append_assoc,
    readMembers_comma, readMember_print key hvalue]
  simp only [hmembers, Option.map_some]

theorem readValue_object
    (hvalue : readValue fuel (value.printChars ++ (printMembers members ++ rest)) =
      some (value, printMembers members ++ rest))
    (hmembers : readMembers (fuel + 1) (printMembers members ++ rest) = some (members, rest)) :
    readValue (fuel + 2) ((object ((key, value) :: members)).printChars ++ rest) =
      some (object ((key, value) :: members), rest) := by
  have hmember := readMember_print key hvalue
  obtain ⟨cs, htext, -⟩ := readText_printText key
    (':' :: (value.printChars ++ (printMembers members ++ rest)))
  rw [printChars, List.cons_append, List.append_assoc, List.cons_append, List.append_assoc]
  rw [htext] at hmember ⊢
  rw [readValue_brace, hmember]
  simp only [hmembers, Option.map_some]

end Containers

theorem endsNumber_printItems (items : List Json) (rest : List Char) :
    EndsNumber (printItems items ++ rest) := by
  cases items with
  | nil =>
    rw [printItems]
    rintro c ⟨⟩
    decide
  | cons item items =>
    rw [printItems]
    rintro c ⟨⟩
    decide

theorem endsNumber_printMembers (members : List (Text × Json)) (rest : List Char) :
    EndsNumber (printMembers members ++ rest) := by
  cases members with
  | nil =>
    rw [printMembers]
    rintro c ⟨⟩
    decide
  | cons member members =>
    rw [printMembers]
    rintro c ⟨⟩
    decide

/-! ### Whole values -/

theorem readValue_text (text : Text) (fuel : Nat) (rest : List Char) :
    readValue (fuel + 1) ((string text).printChars ++ rest) = some (string text, rest) := by
  obtain ⟨cs, htext, hread⟩ := readText_printText text rest
  rw [printChars, htext]
  change (readText cs).map _ = _
  rw [hread]
  rfl

theorem length_printChars_pos (v : Json) : 0 < v.printChars.length := by
  obtain ⟨c, cs, hprint, -⟩ := printChars_cons v
  rw [hprint]
  exact Nat.succ_pos _

mutual

/-- A value is read off the front of a text, with a step for each of its characters at most. -/
theorem readValue_printChars : ∀ (v : Json) {fuel : Nat} {rest : List Char}, v.isSpelled →
    v.printChars.length ≤ fuel → EndsNumber rest →
    readValue fuel (v.printChars ++ rest) = some (v, rest)
  | v, 0, _, _, hlength, _ => absurd (length_printChars_pos v) (by omega)
  | .null, fuel + 1, rest, _, _, _ => rfl
  | .bool true, fuel + 1, rest, _, _, _ => rfl
  | .bool false, fuel + 1, rest, _, _, _ => rfl
  | .string text, fuel + 1, rest, _, _, _ => readValue_text text fuel rest
  | .number n, fuel + 1, rest, hn, _, hrest => by
    obtain ⟨c, cs, hprint, hc⟩ := printNumber_cons n
    have hread := readNumber_printNumber (n := n) hn hrest
    rw [printChars]
    rw [hprint, List.cons_append] at hread ⊢
    rw [readValue_number hc, hread]
  | .array [], fuel + 1, rest, _, _, _ => rfl
  | .array (item :: items), fuel + 1, rest, h, hlength, _ => by
    rw [isSpelled, isSpelled.spelledItems, Bool.and_eq_true] at h
    rw [printChars, List.length_cons, List.length_append] at hlength
    exact readValue_array
      (readValue_printChars item h.1 (by omega) (endsNumber_printItems items rest))
      (readItems_printItems items h.2 (by have := length_printChars_pos item; omega))
  | .object [], fuel + 1, rest, _, _, _ => rfl
  | .object ((key, value) :: members), 1, _, _, hlength, _ => by
    rw [printChars, List.length_cons, List.length_append, List.length_cons] at hlength
    omega
  | .object ((key, value) :: members), fuel + 2, rest, h, hlength, _ => by
    rw [isSpelled, isSpelled.spelledMembers, Bool.and_eq_true] at h
    rw [printChars, List.length_cons, List.length_append, List.length_cons, List.length_append]
      at hlength
    exact readValue_object
      (readValue_printChars value h.1 (by omega) (endsNumber_printMembers members rest))
      (readMembers_printMembers members h.2 (by have := length_printChars_pos value; omega))

theorem readItems_printItems : ∀ (items : List Json) {fuel : Nat} {rest : List Char},
    isSpelled.spelledItems items → (printItems items).length ≤ fuel →
    readItems fuel (printItems items ++ rest) = some (items, rest)
  | [], 0, _, _, hlength => absurd hlength (Nat.not_succ_le_zero 0)
  | [], fuel + 1, rest, _, _ => rfl
  | item :: items, 0, _, _, hlength => absurd hlength (Nat.not_succ_le_zero _)
  | item :: items, fuel + 1, rest, h, hlength => by
    rw [isSpelled.spelledItems, Bool.and_eq_true] at h
    rw [printItems, List.length_cons, List.length_append] at hlength
    exact readItems_cons
      (readValue_printChars item h.1 (by omega) (endsNumber_printItems items rest))
      (readItems_printItems items h.2 (by omega))

theorem readMembers_printMembers : ∀ (members : List (Text × Json)) {fuel : Nat} {rest : List Char},
    isSpelled.spelledMembers members → (printMembers members).length ≤ fuel →
    readMembers fuel (printMembers members ++ rest) = some (members, rest)
  | [], 0, _, _, hlength => absurd hlength (Nat.not_succ_le_zero 0)
  | [], fuel + 1, rest, _, _ => rfl
  | (key, value) :: members, 0, _, _, hlength => absurd hlength (Nat.not_succ_le_zero _)
  | (key, value) :: members, 1, _, _, hlength => by
    rw [printMembers, List.length_cons, List.length_append, List.length_cons] at hlength
    omega
  | (key, value) :: members, fuel + 2, rest, h, hlength => by
    rw [isSpelled.spelledMembers, Bool.and_eq_true] at h
    rw [printMembers, List.length_cons, List.length_append, List.length_cons, List.length_append]
      at hlength
    exact readMembers_cons
      (readValue_printChars value h.1 (by omega) (endsNumber_printMembers members rest))
      (readMembers_printMembers members h.2 (by omega))

end

/-- A printed value is read back, when each number in it has digits for its fraction. -/
theorem parse?_print {v : Json} (h : v.isSpelled) : parse? v.print = some v := by
  have hread : readValue (v.printChars.length + 1) (v.printChars ++ []) = some (v, []) :=
    readValue_printChars v h (Nat.le_succ _) nofun
  rw [List.append_nil] at hread
  simp only [parse?, print, String.toList_ofList, hread]
  rfl

end TraceArbiter.Json

import Mathlib.Data.List.Chain
import ServiceHost.Proofs.Json.Tokens
import ServiceHost.Proofs.Lookup

/-! The lexical grammar of JSON, apart from the reader: which characters a token may be written as. The reader
takes a token off the front of a text exactly if the text starts with a way to write it, the longest one. -/

namespace ServiceHost.Json

/-! ## The grammar -/

def Digits (ds : List Nat) : Prop := ds ≠ [] ∧ ∀ d ∈ ds, d < 10

inductive WritesFraction : List Nat → List Char → Prop
  | none : WritesFraction [] []
  | point {ds : List Nat} (digits : Digits ds) : WritesFraction ds ('.' :: ds.map Nat.digitChar)

/-- A sign with what it says of being negative. -/
inductive WritesSign : Bool → List Char → Prop
  | none : WritesSign false []
  | plus : WritesSign false ['+']
  | minus : WritesSign true ['-']

inductive WritesExponent : Option (Bool × List Nat) → List Char → Prop
  | none : WritesExponent none []
  | mark {c : Char} {negative : Bool} {sign : List Char} {ds : List Nat} (mark : c = 'e' ∨ c = 'E')
      (signed : WritesSign negative sign) (digits : Digits ds) :
      WritesExponent (some (negative, ds)) (c :: sign ++ ds.map Nat.digitChar)

/-- How a numeral is written. Zero is its only whole part with a leading zero. -/
inductive WritesNumeral : Numeral → List Char → Prop
  | mk {negative : Bool} {whole fraction : List Nat} {exponent : Option (Bool × List Nat)} {f e : List Char}
      (digits : Digits whole) (lead : whole.head? = some 0 → whole = [0]) (point : WritesFraction fraction f)
      (scale : WritesExponent exponent e) :
      WritesNumeral ⟨negative, whole, fraction, exponent⟩
        ((if negative then ['-'] else []) ++ (whole.map Nat.digitChar ++ (f ++ e)))

/-- The characters that may follow a backslash, with what they stand for. -/
def shortEscapes : List (Char × Char) :=
  [('"', '"'), ('\\', '\\'), ('/', '/'), ('b', '\x08'), ('f', '\x0c'), ('n', '\n'), ('r', '\r'), ('t', '\t')]

/-- How a character, or a code of sixteen bits, is written between quotes. -/
inductive WritesUnit : Unit16 → List Char → Prop
  | plain {c : Char} (noControl : 0x20 ≤ c.toNat) (noQuote : c ≠ '"') (noEscape : c ≠ '\\') :
      WritesUnit (.char c) [c]
  | short {e c : Char} (listed : (e, c) ∈ shortEscapes) : WritesUnit (.char c) ['\\', e]
  | code {a b c d : Char} {w x y z : Nat} (digits : Text.digit? 16 a = some w ∧ Text.digit? 16 b = some x ∧
      Text.digit? 16 c = some y ∧ Text.digit? 16 d = some z) :
      WritesUnit (.code (4096 * w + 256 * x + 16 * y + z)) ['\\', 'u', a, b, c, d]

inductive WritesUnits : List Unit16 → List Char → Prop
  | nil : WritesUnits [] []
  | cons {u : Unit16} {us : List Unit16} {v w : List Char} (first : WritesUnit u v) (more : WritesUnits us w) :
      WritesUnits (u :: us) (v ++ w)

/-- What units stand for: two surrogates for one character, none by itself for any. -/
inductive StandFor : List Unit16 → List Char → Prop
  | nil : StandFor [] []
  | char (c : Char) {us : List Unit16} {cs : List Char} (more : StandFor us cs) :
      StandFor (.char c :: us) (c :: cs)
  | code {n : Nat} {us : List Unit16} {cs : List Char} (noLead : isLead n = false) (noTrail : isTrail n = false)
      (more : StandFor us cs) : StandFor (.code n :: us) (Char.ofNat n :: cs)
  | pair {n m : Nat} {us : List Unit16} {cs : List Char} (lead : isLead n = true) (trail : isTrail m = true)
      (more : StandFor us cs) :
      StandFor (.code n :: .code m :: us) (Char.ofNat (0x10000 + (n - 0xD800) * 1024 + (m - 0xDC00)) :: cs)

/-- The tokens that are written in one way only. -/
def fixedTokens : List (Token × List Char) :=
  [(.openBrace, ['\x7b']), (.closeBrace, ['\x7d']), (.openBracket, ['[']), (.closeBracket, [']']),
    (.colon, [':']), (.comma, [',']), (.true, ['t', 'r', 'u', 'e']), (.false, ['f', 'a', 'l', 's', 'e']),
    (.null, ['n', 'u', 'l', 'l'])]

inductive WritesToken : Token → List Char → Prop
  | fixed {t : Token} {w : List Char} (listed : (t, w) ∈ fixedTokens) : WritesToken t w
  | numeral {n : Numeral} {w : List Char} (writes : WritesNumeral n w) : WritesToken (.numeral n) w
  | text {s : Option String} {us : List Unit16} {w : List Char} (writes : WritesUnits us w)
      (stands : ∀ cs, s.map String.toList = some cs ↔ StandFor us cs) :
      WritesToken (.text s) ('"' :: (w ++ ['"']))

/-- The text is made of these tokens, with any blanks around them. -/
inductive WritesTokens : List Token → List Char → Prop
  | done {b : List Char} (blank : ∀ c ∈ b, isBlank c = true) : WritesTokens [] b
  | token {t : Token} {ts : List Token} {b w rest : List Char} (blank : ∀ c ∈ b, isBlank c = true)
      (writes : WritesToken t w) (more : WritesTokens ts rest) : WritesTokens (t :: ts) (b ++ (w ++ rest))

/-! ## Quoted texts -/

theorem joinUnits_code {n : Nat} (noLead : isLead n = false) (noTrail : isTrail n = false) (us : List Unit16) :
    joinUnits (.code n :: us) = (joinUnits us).map (Char.ofNat n :: ·) := by
  rw [joinUnits.eq_def]
  simp only [noLead, noTrail, Bool.false_eq_true, if_false]

theorem joinUnits_pair {n m : Nat} (lead : isLead n = true) (trail : isTrail m = true) (us : List Unit16) :
    joinUnits (.code n :: .code m :: us) =
      (joinUnits us).map (Char.ofNat (0x10000 + (n - 0xD800) * 1024 + (m - 0xDC00)) :: ·) := by
  have noTrail : isTrail n = false := by
    simp only [isLead, isTrail, Bool.and_eq_true, decide_eq_true_eq, Bool.and_eq_false_iff, decide_eq_false_iff_not]
      at lead ⊢
    omega
  rw [joinUnits.eq_def]
  simp only [noTrail, lead, trail, Bool.false_eq_true, if_true, if_false]

theorem joinUnits_eq_some_iff {us : List Unit16} {cs : List Char} : joinUnits us = some cs ↔ StandFor us cs := by
  constructor
  · intro joined
    induction us using joinUnits.induct generalizing cs with
    | case1 => cases joined; exact .nil
    | case2 c us ih =>
      rw [joinUnits, Option.map_eq_some_iff] at joined
      obtain ⟨ds, joined, rfl⟩ := joined
      exact .char c (ih joined)
    | case4 n noTrail lead m us trail ih =>
      rw [joinUnits_pair lead trail, Option.map_eq_some_iff] at joined
      obtain ⟨ds, joined, rfl⟩ := joined
      exact .pair lead trail (ih joined)
    | case7 n us noTrail noLead ih =>
      rw [joinUnits_code (by simpa using noLead) (by simpa using noTrail), Option.map_eq_some_iff] at joined
      obtain ⟨ds, joined, rfl⟩ := joined
      exact .code (by simpa using noLead) (by simpa using noTrail) (ih joined)
    | case3 n us trail =>
      rw [joinUnits.eq_def] at joined
      simp only [trail, if_true] at joined
      cases joined
    | case5 n noTrail lead m us other =>
      rw [joinUnits.eq_def] at joined
      simp only [noTrail, lead, other, Bool.false_eq_true, if_true, if_false] at joined
      cases joined
    | case6 n us noTrail lead other =>
      rw [joinUnits.eq_def] at joined
      simp only [noTrail, lead, Bool.false_eq_true, if_true, if_false] at joined
      cases joined
  · intro stands
    induction stands with
    | nil => rfl
    | char c more ih => rw [joinUnits, ih, Option.map_some]
    | code noLead noTrail more ih => rw [joinUnits_code noLead noTrail, ih, Option.map_some]
    | pair lead trail more ih => rw [joinUnits_pair lead trail, ih, Option.map_some]

theorem simpleEscape?_eq_some_iff {e c : Char} : simpleEscape? e = some c ↔ (e, c) ∈ shortEscapes := by
  constructor
  · intro read
    unfold simpleEscape? at read
    split at read <;> cases read <;> decide
  · intro listed
    simp only [shortEscapes, List.mem_cons, Prod.mk.injEq, List.not_mem_nil, or_false] at listed
    rcases listed with ⟨rfl, rfl⟩ | ⟨rfl, rfl⟩ | ⟨rfl, rfl⟩ | ⟨rfl, rfl⟩ | ⟨rfl, rfl⟩ | ⟨rfl, rfl⟩ | ⟨rfl, rfl⟩ |
      ⟨rfl, rfl⟩ <;> rfl

theorem hex4?_eq_some_iff {a b c d : Char} {n : Nat} : hex4? a b c d = some n ↔
    ∃ w x y z, (Text.digit? 16 a = some w ∧ Text.digit? 16 b = some x ∧ Text.digit? 16 c = some y ∧
      Text.digit? 16 d = some z) ∧ n = 4096 * w + 256 * x + 16 * y + z := by
  have value (w x y z : Nat) : Text.digitsValue 16 [w, x, y, z] = 4096 * w + 256 * x + 16 * y + z := by
    simp only [Text.digitsValue, List.foldl_cons, List.foldl_nil]
    omega
  simp only [hex4?, List.mapM_cons, List.mapM_nil, Option.bind_eq_bind, Option.pure_def, Option.map_eq_some_iff,
    Option.bind_eq_some_iff, Option.some.injEq]
  constructor
  · rintro ⟨_, ⟨w, first, _, ⟨x, second, _, ⟨y, third, _, ⟨z, fourth, _, rfl, rfl⟩, rfl⟩, rfl⟩, rfl⟩, rfl⟩
    exact ⟨w, x, y, z, ⟨first, second, third, fourth⟩, value w x y z⟩
  · rintro ⟨w, x, y, z, ⟨first, second, third, fourth⟩, rfl⟩
    exact ⟨_, ⟨w, first, _, ⟨x, second, _, ⟨y, third, _, ⟨z, fourth, _, rfl, rfl⟩, rfl⟩, rfl⟩, rfl⟩, value w x y z⟩

/-- What a unit is written as is read as that unit, whatever follows. -/
theorem WritesUnit.read {u : Unit16} {w : List Char} (writes : WritesUnit u w) (acc : List Unit16)
    (rest : List Char) : readUnits acc (w ++ rest) = readUnits (u :: acc) rest := by
  cases writes with
  | plain noControl noQuote noEscape =>
    rw [List.singleton_append, readUnits]
    · simp [noEscape, Nat.not_lt.2 noControl]
    all_goals simp_all
  | @short e c listed =>
    have noCode : ∀ a b c d more, e = 'u' → rest = a :: b :: c :: d :: more → False := by
      rintro a b c d more rfl
      simp [shortEscapes] at listed
    rw [List.cons_append, List.singleton_append, readUnits.eq_4 _ _ _ noCode, simpleEscape?_eq_some_iff.2 listed]
  | code digits =>
    simp only [List.cons_append, List.nil_append, readUnits]
    rw [hex4?_eq_some_iff.2 ⟨_, _, _, _, digits, rfl⟩]

theorem WritesUnits.read {us : List Unit16} {w : List Char} (writes : WritesUnits us w) (acc : List Unit16)
    (rest : List Char) : readUnits acc (w ++ '"' :: rest) = some (acc.reverse ++ us, rest) := by
  induction writes generalizing acc with
  | nil => simp [readUnits]
  | cons first more ih => rw [List.append_assoc, first.read, ih]; simp

theorem writesUnits_of_readUnits {acc us : List Unit16} {s rest : List Char}
    (read : readUnits acc s = some (us, rest)) :
    ∃ more w, us = acc.reverse ++ more ∧ WritesUnits more w ∧ s = w ++ '"' :: rest := by
  -- One unit off the front, the others by induction.
  have step {u : Unit16} {v s' : List Char} {acc : List Unit16} (first : WritesUnit u v)
      (others : ∃ more w, us = (u :: acc).reverse ++ more ∧ WritesUnits more w ∧ s' = w ++ '"' :: rest) :
      ∃ more w, us = acc.reverse ++ more ∧ WritesUnits more w ∧ v ++ s' = w ++ '"' :: rest := by
    obtain ⟨more, w, rfl, writes, rfl⟩ := others
    exact ⟨u :: more, v ++ w, by simp, .cons first writes, by simp⟩
  induction acc, s using readUnits.induct with
  | case1 acc => cases read
  | case2 acc s =>
    cases read
    exact ⟨[], [], by simp, .nil, rfl⟩
  | case3 acc a b c d s n code ih =>
    rw [readUnits, code] at read
    obtain ⟨w, x, y, z, digits, rfl⟩ := hex4?_eq_some_iff.1 code
    exact step (.code digits) (ih read)
  | case4 acc a b c d s noCode => simp [readUnits, noCode] at read
  | case5 acc e s noCode c short ih =>
    rw [readUnits.eq_4 _ _ _ noCode, short] at read
    exact step (.short (simpleEscape?_eq_some_iff.1 short)) (ih read)
  | case6 acc e s noCode noShort => simp [readUnits.eq_4 _ _ _ noCode, noShort] at read
  | case7 acc c s noQuote noCode noShort bad =>
    rw [readUnits.eq_5 _ _ _ noQuote noCode noShort, if_pos bad] at read
    cases read
  | case8 acc c s noQuote noCode noShort good ih =>
    rw [readUnits.eq_5 _ _ _ noQuote noCode noShort, if_neg good] at read
    have plain : 0x20 ≤ c.toNat ∧ c ≠ '\\' := by simpa using good
    exact step (.plain plain.1 noQuote plain.2) (ih read)

/-! ## Numerals -/

theorem digits_of_readDigits {acc ds : List Nat} {s rest : List Char} (read : readDigits acc s = (ds, rest)) :
    ∃ more, ds = acc.reverse ++ more ∧ (∀ d ∈ more, d < 10) ∧ s = more.map Nat.digitChar ++ rest := by
  induction s generalizing acc with
  | nil =>
    cases read
    exact ⟨[], by simp, nofun, rfl⟩
  | cons c s ih =>
    rw [readDigits] at read
    cases digit : Text.digit? 10 c with
    | none =>
      simp only [digit] at read
      cases read
      exact ⟨[], by simp, nofun, rfl⟩
    | some d =>
      simp only [digit] at read
      obtain ⟨more, rfl, small, rfl⟩ := ih read
      obtain ⟨first, rfl⟩ := Text.digit?_ten_eq_some_iff.1 digit
      exact ⟨d :: more, by simp, List.forall_mem_cons.2 ⟨first, small⟩, rfl⟩

/-- Digits that are read, at least one. -/
theorem digits_of_readDigits_cons {d : Nat} {ds : List Nat} {s rest : List Char}
    (read : readDigits [] s = (d :: ds, rest)) :
    Digits (d :: ds) ∧ s = (d :: ds).map Nat.digitChar ++ rest := by
  obtain ⟨more, same, small, rfl⟩ := digits_of_readDigits read
  obtain rfl : d :: ds = more := same
  exact ⟨⟨List.cons_ne_nil _ _, small⟩, rfl⟩

theorem writesFraction_of_readFraction {ds : List Nat} {s rest : List Char}
    (read : readFraction s = some (ds, rest)) : ∃ w, WritesFraction ds w ∧ s = w ++ rest := by
  unfold readFraction at read
  split at read
  · next s =>
    rcases taken : readDigits [] s with ⟨_ | ⟨d, ds⟩, r⟩ <;> simp only [taken] at read <;> cases read
    obtain ⟨digits, rfl⟩ := digits_of_readDigits_cons taken
    exact ⟨_, .point digits, rfl⟩
  · cases read
    exact ⟨[], .none, rfl⟩

/-- After its mark an exponent is a sign and digits. -/
theorem readExponent_marked {c : Char} (mark : (c == 'e' || c == 'E') = true) (s : List Char) :
    ∃ negative sign s', WritesSign negative sign ∧ s = sign ++ s' ∧
      (∀ r, readDigits [] s' = ([], r) → readExponent (c :: s) = none) ∧
        ∀ d ds r, readDigits [] s' = (d :: ds, r) →
          readExponent (c :: s) = some (some (negative, d :: ds), r) := by
  by_cases plus : ∃ s', s = '+' :: s'
  · obtain ⟨s', rfl⟩ := plus
    refine ⟨_, _, s', .plus, rfl, fun r taken => ?_, fun d ds r taken => ?_⟩ <;>
      rw [readExponent, if_pos mark, taken]
  · by_cases minus : ∃ s', s = '-' :: s'
    · obtain ⟨s', rfl⟩ := minus
      refine ⟨_, _, s', .minus, rfl, fun r taken => ?_, fun d ds r taken => ?_⟩ <;>
        rw [readExponent, if_pos mark, taken]
    · have unsigned := readExponent.eq_3 c s (fun s' same => plus ⟨s', same⟩) (fun s' same => minus ⟨s', same⟩)
      refine ⟨_, _, s, .none, rfl, fun r taken => ?_, fun d ds r taken => ?_⟩ <;>
        rw [unsigned, if_pos mark, taken]

theorem writesExponent_of_readExponent {e : Option (Bool × List Nat)} {s rest : List Char}
    (read : readExponent s = some (e, rest)) : ∃ w, WritesExponent e w ∧ s = w ++ rest := by
  cases s with
  | nil =>
    cases read
    exact ⟨[], .none, rfl⟩
  | cons c s =>
    by_cases mark : (c == 'e' || c == 'E') = true
    · obtain ⟨negative, sign, s', signed, same, empty, some⟩ := readExponent_marked mark s
      rcases taken : readDigits [] s' with ⟨_ | ⟨d, ds⟩, r⟩
      · rw [empty r taken] at read
        cases read
      · rw [some d ds r taken] at read
        cases read
        obtain ⟨digits, rfl⟩ := digits_of_readDigits_cons taken
        exact ⟨_, .mark (by simpa using mark) signed digits, by simp [same]⟩
    · rw [readExponent.eq_def] at read
      cases (if_neg mark).symm.trans read
      exact ⟨[], .none, rfl⟩

theorem readMinus_eq {negative : Bool} {s rest : List Char} (read : readMinus s = (negative, rest)) :
    s = (if negative then ['-'] else []) ++ rest := by
  unfold readMinus at read
  split at read <;> cases read <;> rfl

theorem writesNumeral_of_readNumeral {n : Numeral} {s rest : List Char} (read : readNumeral s = some (n, rest)) :
    ∃ w, WritesNumeral n w ∧ s = w ++ rest := by
  rcases minus : readMinus s with ⟨negative, s₁⟩
  rcases taken : readDigits [] s₁ with ⟨_ | ⟨d, ds⟩, s₂⟩ <;>
    simp [readNumeral, minus, taken, Option.bind_eq_some_iff] at read
  obtain ⟨lead, fraction, s₃, point, exponent, scale, rfl⟩ := read
  obtain ⟨f, writesPoint, rfl⟩ := writesFraction_of_readFraction point
  obtain ⟨e, writesScale, rfl⟩ := writesExponent_of_readExponent scale
  obtain ⟨digits, rfl⟩ := digits_of_readDigits_cons taken
  obtain rfl := readMinus_eq minus
  refine ⟨_, .mk digits (fun zero => ?_) writesPoint writesScale, by simp⟩
  cases ds with
  | nil => simpa using zero
  | cons d' ds => exact absurd (Option.some.inj zero) (lead (Nat.succ_pos _))

/-- The front is no digit. -/
def NoDigit (rest : List Char) : Prop := ∀ c ∈ rest.head?, Text.digit? 10 c = none

theorem WritesExponent.noDigit {e : Option (Bool × List Nat)} {w rest : List Char} (writes : WritesExponent e w)
    (ends : EndsNumeral rest) : NoDigit (w ++ rest) := by
  cases writes with
  | none => exact fun c front => (ends c front).1
  | mark mark _ _ =>
    rintro c ⟨⟩
    rcases mark with rfl | rfl <;> decide

theorem WritesFraction.noDigit {ds : List Nat} {w rest : List Char} (writes : WritesFraction ds w)
    (ends : NoDigit rest) : NoDigit (w ++ rest) := by
  cases writes with
  | none => exact ends
  | point _ =>
    rintro c ⟨⟩
    decide

theorem WritesFraction.read {ds : List Nat} {w rest : List Char} (writes : WritesFraction ds w)
    (ends : NoDigit rest) (noPoint : ∀ c ∈ rest.head?, c ≠ '.') : readFraction (w ++ rest) = some (ds, rest) := by
  cases writes with
  | none =>
    rw [List.nil_append]
    unfold readFraction
    split
    · exact absurd rfl (noPoint '.' rfl)
    · rfl
  | point digits =>
    obtain ⟨present, small⟩ := digits
    obtain ⟨d, ds, rfl⟩ := List.exists_cons_of_ne_nil present
    have read := readDigits_digitChars small ends []
    rw [List.cons_append, readFraction, read]
    rfl

theorem WritesExponent.read {e : Option (Bool × List Nat)} {w rest : List Char} (writes : WritesExponent e w)
    (ends : EndsNumeral rest) : readExponent (w ++ rest) = some (e, rest) := by
  cases writes with
  | none => exact readExponent_ends ends
  | @mark c negative sign ds mark signed digits =>
    obtain ⟨present, small⟩ := digits
    obtain ⟨d, ds, rfl⟩ := List.exists_cons_of_ne_nil present
    have read := readDigits_digitChars small (fun c front => (ends c front).1) []
    have marked : (c == 'e' || c == 'E') = true := by simpa using mark
    rw [List.append_assoc, List.cons_append]
    cases signed with
    | none =>
      rw [List.nil_append, readExponent.eq_3 _ _ (by simp) (by simp), if_pos marked, read]
      rfl
    | plus =>
      rw [List.singleton_append, readExponent, if_pos marked, read]
      rfl
    | minus =>
      rw [List.singleton_append, readExponent, if_pos marked, read]
      rfl

theorem WritesExponent.noPoint {e : Option (Bool × List Nat)} {w rest : List Char} (writes : WritesExponent e w)
    (ends : EndsNumeral rest) : ∀ c ∈ (w ++ rest).head?, c ≠ '.' := by
  cases writes with
  | none => exact fun c front => (ends c front).2.1
  | mark mark _ _ =>
    rintro c ⟨⟩
    rcases mark with rfl | rfl <;> decide

theorem WritesNumeral.read {n : Numeral} {w rest : List Char} (writes : WritesNumeral n w)
    (ends : EndsNumeral rest) : readNumeral (w ++ rest) = some (n, rest) := by
  obtain @⟨negative, whole, fraction, exponent, f, e, ⟨present, small⟩, lead, point, scale⟩ := writes
  obtain ⟨d, ds, rfl⟩ := List.exists_cons_of_ne_nil present
  have minus : readMinus ((if negative then ['-'] else []) ++ ((d :: ds).map Nat.digitChar ++ (f ++ (e ++ rest)))) =
      (negative, (d :: ds).map Nat.digitChar ++ (f ++ (e ++ rest))) := by
    cases negative with
    | true => rfl
    | false => simp [readMinus]
  have whole := readDigits_digitChars small (point.noDigit (scale.noDigit ends)) []
  have noLead : ¬ ((d :: ds).length > 1 ∧ (d :: ds).head? = some 0) := by
    rintro ⟨long, zero⟩
    simp [lead zero] at long
  have fraction := point.read (scale.noDigit ends) (scale.noPoint ends)
  simp only [List.append_assoc, readNumeral, minus, whole, List.reverse_nil, List.nil_append, fraction]
  simpa [scale.read ends] using noLead

/-! ## Tokens -/

theorem writesToken_of_readToken {t : Token} {s rest : List Char} (read : readToken s = some (t, rest)) :
    ∃ w, WritesToken t w ∧ s = w ++ rest := by
  unfold readToken at read
  split at read
  case h_7 s =>
    obtain ⟨⟨us, more⟩, units, same⟩ := Option.map_eq_some_iff.1 read
    cases same
    obtain ⟨us, w, rfl, writes, rfl⟩ := writesUnits_of_readUnits units
    refine ⟨_, .text writes fun cs => ?_, by simp⟩
    have back : String.toList ∘ String.ofList = id := funext fun _ => String.toList_ofList
    rw [Option.map_map, back, Option.map_id, ← joinUnits_eq_some_iff]
    rfl
  case h_11 =>
    obtain ⟨⟨n, more⟩, numeral, same⟩ := Option.map_eq_some_iff.1 read
    cases same
    obtain ⟨w, writes, rfl⟩ := writesNumeral_of_readNumeral numeral
    exact ⟨w, .numeral writes, rfl⟩
  all_goals
    cases read
    exact ⟨_, .fixed (mem_of_lookup rfl), rfl⟩

theorem WritesNumeral.lead {n : Numeral} {w : List Char} (writes : WritesNumeral n w) :
    ∃ c more, w = c :: more ∧ (c = '-' ∨ ∃ d < 10, c = Nat.digitChar d) := by
  obtain @⟨negative, whole, fraction, exponent, f, e, ⟨present, small⟩, -, -, -⟩ := writes
  obtain ⟨d, ds, rfl⟩ := List.exists_cons_of_ne_nil present
  cases negative with
  | true => exact ⟨_, _, rfl, .inl rfl⟩
  | false => exact ⟨_, _, rfl, .inr ⟨d, small d List.mem_cons_self, rfl⟩⟩

/-- A token at the front is read if what follows does not go on with it. -/
theorem WritesToken.read {t : Token} {w rest : List Char} (writes : WritesToken t w)
    (ends : ∀ n, t = .numeral n → EndsNumeral rest) : readToken (w ++ rest) = some (t, rest) := by
  cases writes with
  | fixed listed =>
    simp only [fixedTokens, List.mem_cons, Prod.mk.injEq, List.not_mem_nil, or_false] at listed
    rcases listed with ⟨rfl, rfl⟩ | ⟨rfl, rfl⟩ | ⟨rfl, rfl⟩ | ⟨rfl, rfl⟩ | ⟨rfl, rfl⟩ | ⟨rfl, rfl⟩ | ⟨rfl, rfl⟩ |
      ⟨rfl, rfl⟩ | ⟨rfl, rfl⟩ <;> rfl
  | @text s us w writes stands =>
    have joined : joinUnits us = s.map String.toList :=
      Option.ext fun cs => by rw [joinUnits_eq_some_iff, stands]
    have back : String.ofList ∘ String.toList = id := funext fun _ => String.ofList_toList
    simp [readToken, writes.read, joined, back]
  | @numeral n w writes =>
    have read := writes.read (ends n rfl)
    obtain ⟨c, more, rfl, lead⟩ := writes.lead
    exact readToken_of_readNumeral lead read

theorem WritesToken.front {t : Token} {w : List Char} (writes : WritesToken t w) :
    ∃ c more, w = c :: more ∧ isBlank c = false ∧ ((∀ n, t ≠ .numeral n) → EndsNumeral (c :: more)) := by
  cases writes with
  | fixed listed =>
    simp only [fixedTokens, List.mem_cons, Prod.mk.injEq, List.not_mem_nil, or_false] at listed
    rcases listed with ⟨-, rfl⟩ | ⟨-, rfl⟩ | ⟨-, rfl⟩ | ⟨-, rfl⟩ | ⟨-, rfl⟩ | ⟨-, rfl⟩ | ⟨-, rfl⟩ | ⟨-, rfl⟩ |
      ⟨-, rfl⟩ <;> exact ⟨_, _, rfl, by decide, fun _ _ same => Option.some.inj same ▸ by decide⟩
  | text => exact ⟨_, _, rfl, by decide, fun _ _ same => Option.some.inj same ▸ by decide⟩
  | numeral writes =>
    obtain ⟨c, more, rfl, lead⟩ := writes.lead
    refine ⟨c, more, rfl, ?_, fun other => absurd rfl (other _)⟩
    rcases lead with rfl | ⟨d, small, rfl⟩ <;> simp [isBlank]

/-! ## Texts -/

theorem endsNumeral_of_isBlank {c : Char} (blank : isBlank c = true) (rest : List Char) : EndsNumeral (c :: rest) := by
  rintro _ ⟨⟩
  simp only [isBlank, Bool.or_eq_true, beq_iff_eq, or_assoc] at blank
  rcases blank with rfl | rfl | rfl | rfl <;> decide

theorem WritesTokens.endsNumeral {ts : List Token} {s : List Char} (writes : WritesTokens ts s)
    (apart : ∀ n, ts.head? ≠ some (.numeral n)) : EndsNumeral s := by
  cases writes with
  | done blank =>
    cases s with
    | nil => exact nofun
    | cons c s => exact endsNumeral_of_isBlank (blank c List.mem_cons_self) s
  | @token t ts b w rest blank writes more =>
    cases b with
    | nil =>
      obtain ⟨c, w, rfl, -, ends⟩ := writes.front
      exact fun c front => ends (fun n same => apart n (congrArg some same)) c front
    | cons c b => exact endsNumeral_of_isBlank (blank c List.mem_cons_self) _

/-- Not a numeral right after a numeral. -/
def Apart (ts : List Token) : Prop := ts.IsChain fun t u => ∀ n m, t = .numeral n → u ≠ .numeral m

/-- A text that is made of tokens is read as these, if no two numerals come together. -/
theorem lexes_of_writesTokens {ts : List Token} {s : List Char} (writes : WritesTokens ts s) (apart : Apart ts) :
    Lexes s ts := by
  induction writes with
  | done blank => exact .done (List.all_eq_true.2 blank)
  | @token t ts b w rest blank writes more ih =>
    have ends : ∀ n, t = .numeral n → EndsNumeral rest := by
      rintro n rfl
      exact more.endsNumeral fun m front => (List.isChain_cons.1 apart).1 _ front n m rfl rfl
    obtain ⟨c, w, rfl, solid, -⟩ := writes.front
    refine .token ?_ (by simp; omega) (ih apart.tail)
    rw [List.dropWhile_append_of_pos blank, List.cons_append, List.dropWhile_cons_of_neg (by simp [solid])]
    exact writes.read ends

theorem writesTokens_of_tokensWithin {acc ts : List Token} {fuel : Nat} {s : List Char}
    (read : tokensWithin acc fuel s = some ts) : ∃ more, ts = acc.reverse ++ more ∧ WritesTokens more s := by
  induction fuel generalizing acc s with
  | zero =>
    simp only [tokensWithin, Option.ite_none_right_eq_some, Option.some.injEq] at read
    obtain ⟨blank, rfl⟩ := read
    exact ⟨[], by simp, .done (List.all_eq_true.1 blank)⟩
  | succ fuel ih =>
    have blank : ∀ c ∈ s.takeWhile isBlank, isBlank c = true := fun c mem => List.mem_takeWhile_imp mem
    have whole : s.takeWhile isBlank ++ s.dropWhile isBlank = s := List.takeWhile_append_dropWhile
    rw [tokensWithin] at read
    split at read
    · next gone =>
      cases read
      rw [gone, List.append_nil] at whole
      exact ⟨[], by simp, .done (whole ▸ blank)⟩
    · obtain ⟨⟨t, rest⟩, first, others⟩ := Option.bind_eq_some_iff.1 read
      obtain ⟨w, writes, front⟩ := writesToken_of_readToken first
      obtain ⟨more, rfl, tokens⟩ := ih others
      rw [front] at whole
      exact ⟨t :: more, by simp, whole ▸ .token blank writes tokens⟩

/-- The tokens of a text are tokens that it is made of. -/
theorem tokens_eq_some_iff {ts : List Token} {s : String} (apart : Apart ts) :
    tokens s = some ts ↔ WritesTokens ts s.toList := by
  constructor
  · intro read
    obtain ⟨more, rfl, writes⟩ := writesTokens_of_tokensWithin read
    exact writes
  · exact fun writes => tokens_of_lexes (lexes_of_writesTokens writes apart)

end ServiceHost.Json

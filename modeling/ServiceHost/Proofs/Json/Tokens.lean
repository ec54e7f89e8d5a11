import Mathlib.Data.List.TakeWhile
import ServiceHost.Json.Number
import ServiceHost.Json.Writer
import ServiceHost.Proofs.Text.Digit

/-! The lexical level read back: a quoted text comes back as the text, an integer as the numeral of its
digits, and a document token by token. -/

namespace ServiceHost.Json

/-! ## Quoted texts -/

/-- In front of any others, the unit stands for the character. -/
def Unit16.StandsFor (u : Unit16) (c : Char) : Prop :=
  ∀ us, joinUnits (u :: us) = (joinUnits us).map (c :: ·)

theorem standsFor_char (c : Char) : Unit16.StandsFor (.char c) c := fun _ => rfl

theorem standsFor_code {n : Nat} (low : n < 0xD800) : Unit16.StandsFor (.code n) (Char.ofNat n) := by
  intro us
  have noTrail : isTrail n = false := by simp [isTrail]; omega
  have noLead : isLead n = false := by simp [isLead]; omega
  rw [joinUnits.eq_def]
  simp only [noTrail, noLead, Bool.false_eq_true, if_false]

theorem hex4?_digits {n : Nat} (small : n < 0x20) :
    hex4? '0' '0' (hexDigitLower (n / 16)) (hexDigitLower (n % 16)) = some n := by
  have high : Text.digit? 16 (hexDigitLower (n / 16)) = some (n / 16) :=
    Text.digit?_digitChar (by omega) (by omega)
  have low : Text.digit? 16 (hexDigitLower (n % 16)) = some (n % 16) :=
    Text.digit?_digitChar (by omega) (by omega)
  have zero : Text.digit? 16 '0' = some 0 := by decide
  simp [hex4?, high, low, zero, Text.digitsValue]
  omega

theorem readUnits_escapeChar (c : Char) :
    ∃ u : Unit16, u.StandsFor c ∧
      ∀ acc rest, readUnits acc (escapeChar c ++ rest) = readUnits (u :: acc) rest := by
  unfold escapeChar
  split
  -- without a short escape: as a code, or as it is
  case h_8 quote backslash _ _ _ _ _ =>
    split
    case isTrue control =>
      refine ⟨.code c.toNat, ?_, fun acc rest => ?_⟩
      · have := standsFor_code (n := c.toNat) (by omega)
        rwa [Char.ofNat_toNat] at this
      · simp [readUnits, hex4?_digits control]
    case isFalse plain =>
      refine ⟨.char c, standsFor_char c, fun acc rest => ?_⟩
      rw [List.singleton_append, readUnits]
      · simp [plain, show c ≠ '\\' from backslash]
      all_goals simp_all
  all_goals exact ⟨_, standsFor_char _, fun acc rest => by simp [readUnits, simpleEscape?]⟩

theorem readUnits_escaped (cs : List Char) :
    ∃ us, joinUnits us = some cs ∧
      ∀ acc rest, readUnits acc (cs.flatMap escapeChar ++ '"' :: rest) =
        some (acc.reverse ++ us, rest) := by
  induction cs with
  | nil => exact ⟨[], rfl, fun acc rest => by simp [readUnits]⟩
  | cons c cs ih =>
    obtain ⟨us, joined, read⟩ := ih
    obtain ⟨u, stands, first⟩ := readUnits_escapeChar c
    refine ⟨u :: us, by rw [stands, joined]; rfl, fun acc rest => ?_⟩
    rw [List.flatMap_cons, List.append_assoc, first, read]
    simp

theorem readToken_writeText (s : String) (rest : List Char) :
    readToken (writeText s ++ rest) = some (.text (some s), rest) := by
  obtain ⟨us, joined, read⟩ := readUnits_escaped s.toList
  simp [writeText, readToken, read, joined]

/-! ## Numerals -/

/-- A numeral in front of these characters ends there. -/
def EndsNumeral (rest : List Char) : Prop :=
  ∀ c ∈ rest.head?, Text.digit? 10 c = none ∧ c ≠ '.' ∧ c ≠ 'e' ∧ c ≠ 'E'

theorem readDigits_digitChars {ds : List Nat} (digits : ∀ d ∈ ds, d < 10) {rest : List Char}
    (ends : ∀ c ∈ rest.head?, Text.digit? 10 c = none) (acc : List Nat) :
    readDigits acc (ds.map Nat.digitChar ++ rest) = (acc.reverse ++ ds, rest) := by
  induction ds generalizing acc with
  | nil =>
    cases rest with
    | nil => simp [readDigits]
    | cons c rest => simp [readDigits, ends c rfl]
  | cons d ds ih =>
    have one : Text.digit? 10 (Nat.digitChar d) = some d :=
      Text.digit?_digitChar (digits d (by simp)) (by decide)
    simp [readDigits, one, ih fun d mem => digits d (by simp [mem])]

theorem readFraction_ends {rest : List Char} (ends : EndsNumeral rest) :
    readFraction rest = some ([], rest) := by
  unfold readFraction
  split
  · exact absurd rfl (ends '.' rfl).2.1
  · rfl

theorem readExponent_ends {rest : List Char} (ends : EndsNumeral rest) :
    readExponent rest = some (none, rest) := by
  cases rest with
  | nil => rfl
  | cons c rest => simp [readExponent, (ends c rfl).2.2.1, (ends c rfl).2.2.2]

/-- The numeral of an integer. -/
def Numeral.ofInt (n : Int) : Numeral := ⟨n < 0, Text.decimals n.natAbs, [], none⟩

theorem writeNumber_int (n : Int) :
    writeNumber (.int n) =
      (if n < 0 then ['-'] else []) ++ (Text.decimals n.natAbs).map Nat.digitChar := by
  cases n with
  | ofNat n =>
    have notNegative : ¬ Int.ofNat n < 0 := by simp
    rw [if_neg notNegative]
    exact Text.toList_toString n
  | negSucc n =>
    rw [if_pos (Int.negSucc_lt_zero n)]
    have shown : (toString (Int.negSucc n)).toList = '-' :: (toString (n + 1)).toList := by
      simp [toString, Int.repr]
    exact shown.trans (congrArg _ (Text.toList_toString (n + 1)))

theorem writeNumber_int_lead (n : Int) :
    ∃ c more, writeNumber (.int n) = c :: more ∧ (c = '-' ∨ ∃ d < 10, c = Nat.digitChar d) := by
  obtain ⟨d, ds, front, small⟩ := Text.decimals_eq_cons n.natAbs
  rw [writeNumber_int, front]
  split
  · exact ⟨_, _, rfl, .inl rfl⟩
  · exact ⟨_, _, rfl, .inr ⟨d, small, rfl⟩⟩

theorem readMinus_writeNumber (n : Int) (rest : List Char) :
    readMinus (writeNumber (.int n) ++ rest) =
      (decide (n < 0), (Text.decimals n.natAbs).map Nat.digitChar ++ rest) := by
  rw [writeNumber_int]
  by_cases negative : n < 0
  · simp [negative, readMinus]
  · obtain ⟨d, ds, front, -⟩ := Text.decimals_eq_cons n.natAbs
    have unsigned : d.digitChar ≠ '-' := by simp
    simp only [negative, if_false, front, List.map_cons, List.nil_append, List.cons_append,
      decide_false]
    rw [readMinus]
    intro more same
    exact unsigned (List.cons.inj same).1

theorem readNumeral_writeNumber (n : Int) {rest : List Char} (ends : EndsNumeral rest) :
    readNumeral (writeNumber (.int n) ++ rest) = some (Numeral.ofInt n, rest) := by
  have whole := readDigits_digitChars
    (fun d => Text.lt_ten_of_mem_decimals (n := n.natAbs) (d := d)) (fun c front => (ends c front).1) []
  have noLead : ¬ ((Text.decimals n.natAbs).length > 1 ∧
      (Text.decimals n.natAbs).head? = some 0) := by
    rintro ⟨long, lead⟩
    rw [Text.decimals_head?_eq_zero lead] at long
    simp [Text.decimals] at long
  simp only [readNumeral, readMinus_writeNumber, whole]
  simp [readFraction_ends ends, readExponent_ends ends, Numeral.ofInt, noLead, Text.decimals_ne_nil]

/-- What starts with a sign or a digit can only be a numeral. -/
theorem readToken_of_readNumeral {c : Char} {more rest : List Char} {n : Numeral}
    (lead : c = '-' ∨ ∃ d < 10, c = Nat.digitChar d) (read : readNumeral (c :: more) = some (n, rest)) :
    readToken (c :: more) = some (.numeral n, rest) := by
  unfold readToken
  split
  case h_11 => simp [read]
  -- every other branch needs a front that is neither a sign nor a digit
  all_goals
    rename_i same
    rw [List.cons.injEq] at same
    rcases lead with rfl | ⟨d, small, rfl⟩
    · simp at same
    · simp at same <;> omega

theorem readToken_writeNumber (n : Int) {rest : List Char} (ends : EndsNumeral rest) :
    readToken (writeNumber (.int n) ++ rest) = some (.numeral (Numeral.ofInt n), rest) := by
  have read := readNumeral_writeNumber n ends
  obtain ⟨c, more, shown, lead⟩ := writeNumber_int_lead n
  rw [shown, List.cons_append] at read ⊢
  exact readToken_of_readNumeral lead read

/-! ## Texts of tokens -/

theorem readToken_nil : readToken [] = none := rfl

/-- The text is made of these tokens, with any blanks between them. -/
inductive Lexes : List Char → List Token → Prop
  | done {s : List Char} (blank : s.all isBlank) : Lexes s []
  | token {s rest : List Char} {t : Token} {ts : List Token}
      (read : readToken (s.dropWhile isBlank) = some (t, rest)) (less : rest.length < s.length)
      (more : Lexes rest ts) : Lexes s (t :: ts)

theorem tokensWithin_of_lexes {s : List Char} {ts : List Token} (lexes : Lexes s ts)
    (acc : List Token) {fuel : Nat} (room : s.length ≤ fuel) :
    tokensWithin acc fuel s = some (acc.reverse ++ ts) := by
  induction lexes generalizing acc fuel with
  | @done s blank =>
    cases fuel with
    | zero => simp [tokensWithin, blank]
    | succ fuel =>
      have gone : s.dropWhile isBlank = [] := by simpa [List.dropWhile_eq_nil_iff] using blank
      simp [tokensWithin, gone]
  | @token s rest t ts read less _ ih =>
    obtain ⟨fuel, rfl⟩ : ∃ k, fuel = k + 1 := ⟨fuel - 1, by omega⟩
    have next : tokensWithin (t :: acc) fuel rest = some ((t :: acc).reverse ++ ts) :=
      ih (t :: acc) (by omega)
    rw [tokensWithin]
    split
    case h_1 gone => simp [gone, readToken_nil] at read
    case h_2 => simp [read, next]

theorem tokens_of_lexes {s : String} {ts : List Token} (lexes : Lexes s.toList ts) :
    tokens s = some ts := by
  have read := tokensWithin_of_lexes lexes [] (Nat.le_refl _)
  rwa [String.length_toList] at read

theorem lexes_nil : Lexes [] [] := .done rfl

theorem Lexes.front {c : Char} {s rest : List Char} {t : Token} {ts : List Token}
    (more : Lexes rest ts) (solid : isBlank c = false) (read : readToken (c :: s) = some (t, rest))
    (less : rest.length ≤ s.length) : Lexes (c :: s) (t :: ts) :=
  .token (by rwa [List.dropWhile_cons_of_neg (by simp [solid])])
    (by simp only [List.length_cons]; omega) more

/-- A token of one character. -/
theorem Lexes.mark {c : Char} {rest : List Char} {t : Token} {ts : List Token}
    (more : Lexes rest ts) (solid : isBlank c = false)
    (read : readToken (c :: rest) = some (t, rest)) : Lexes (c :: rest) (t :: ts) :=
  more.front solid read (Nat.le_refl _)

theorem Lexes.text {s : String} {rest : List Char} {ts : List Token} (more : Lexes rest ts) :
    Lexes (writeText s ++ rest) (.text (some s) :: ts) :=
  more.front rfl (readToken_writeText s rest) (by simp; omega)

theorem Lexes.key {k : String} {rest : List Char} {ts : List Token} (more : Lexes rest ts) :
    Lexes (writeText k ++ ':' :: rest) (.text (some k) :: .colon :: ts) :=
  (more.mark rfl rfl : Lexes (':' :: rest) (.colon :: ts)).text

theorem Lexes.integer {n : Int} {rest : List Char} {ts : List Token} (more : Lexes rest ts)
    (ends : EndsNumeral rest) :
    Lexes (writeNumber (.int n) ++ rest) (.numeral (.ofInt n) :: ts) := by
  have read := readToken_writeNumber n ends
  obtain ⟨c, digits, shown, lead⟩ := writeNumber_int_lead n
  have solid : isBlank c = false := by
    rcases lead with rfl | ⟨d, small, rfl⟩ <;> simp [isBlank]
  rw [shown, List.cons_append] at read ⊢
  exact more.front solid read (by simp)

end ServiceHost.Json

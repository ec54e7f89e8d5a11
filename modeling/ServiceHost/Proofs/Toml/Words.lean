import ServiceHost.Proofs.Toml.Quoted

/-! Values of one word and lists of texts, by grammar, and the readers on what the grammar derives. A number is
no date and no float, however its digits are set apart. -/

namespace ServiceHost.Toml

open Text (isDigit digit? decimals)

/-! ## Numbers -/

/-- Decimal digits with underscores between some of them. -/
inductive WritesDigits : List Nat → List Char → Prop
  | one {d : Nat} (small : d < 10) : WritesDigits [d] [Nat.digitChar d]
  | next {d : Nat} {ds : List Nat} {w : List Char} (small : d < 10) (more : WritesDigits ds w) :
      WritesDigits (d :: ds) (Nat.digitChar d :: w)
  | apart {d : Nat} {ds : List Nat} {w : List Char} (small : d < 10) (more : WritesDigits ds w) :
      WritesDigits (d :: ds) (Nat.digitChar d :: '_' :: w)

/-- How a natural number is written: its decimal digits, perhaps after a sign, which may be minus for zero. -/
inductive WritesNatural (n : Nat) : List Char → Prop
  | unsigned {w : List Char} (digits : WritesDigits (decimals n) w) : WritesNatural n w
  | signed {w : List Char} (digits : WritesDigits (decimals n) w) : WritesNatural n ('+' :: w)
  | minus (zero : n = 0) : WritesNatural n ['-', '0']

theorem WritesDigits.lead {ds : List Nat} {w : List Char} (writes : WritesDigits ds w) :
    ∃ d v, d < 10 ∧ w = Nat.digitChar d :: v := by
  cases writes with
  | one small => exact ⟨_, _, small, rfl⟩
  | next small => exact ⟨_, _, small, rfl⟩
  | apart small => exact ⟨_, _, small, rfl⟩

theorem exists_writesNatural (n : Nat) : ∃ w, WritesNatural n w := by
  have digits (ds : List Nat) (nonempty : ds ≠ []) (small : ∀ d ∈ ds, d < 10) : ∃ w, WritesDigits ds w := by
    induction ds with
    | nil => exact absurd rfl nonempty
    | cons d ds ih =>
      have first := small d List.mem_cons_self
      cases ds with
      | nil => exact ⟨_, .one first⟩
      | cons e ds =>
        obtain ⟨_, more⟩ := ih (by simp) fun d mem => small d (List.mem_cons_of_mem _ mem)
        exact ⟨_, .next first more⟩
  obtain ⟨_, written⟩ := digits (decimals n) (Text.decimals_ne_nil n) fun _ => Text.lt_ten_of_mem_decimals
  exact ⟨_, .unsigned written⟩

theorem digits?_writes {ds : List Nat} {w : List Char} (writes : WritesDigits ds w) :
    digits? 10 w = some ds := by
  have value {d : Nat} (small : d < 10) : digit? 10 (Nat.digitChar d) = some d :=
    Text.digit?_digitChar small (by decide)
  induction writes with
  | one small => simp [digits?, value small]
  | apart small _ ih => simp [digits?, value small, ih]
  | next small more ih =>
    obtain ⟨d, v, digit, rfl⟩ := more.lead
    rw [digits?.eq_4, value small, ih]
    · rfl
    · simp
    · intro rest same
      rw [List.cons.injEq] at same
      have noDigit : ∀ e < 10, Nat.digitChar e ≠ '_' := by decide
      exact noDigit d digit same.1

/-- What is made of digits, underscores and plus signs only has no other meaning than a number. -/
def Numeric (w : List Char) : Prop := ∀ c ∈ w, isDigit c = true ∨ c = '_' ∨ c = '+'

theorem Numeric.not_mem {w : List Char} (numeric : Numeric w) {c : Char}
    (other : isDigit c = false ∧ c ≠ '_' ∧ c ≠ '+') : c ∉ w := by
  intro mem
  rcases numeric c mem with digit | underscore | plus
  · rw [other.1] at digit
    cases digit
  · exact other.2.1 underscore
  · exact other.2.2 plus

theorem numeric_of_digits {ds : List Nat} {w : List Char} (writes : WritesDigits ds w) : Numeric w := by
  have digit : ∀ d < 10, isDigit (Nat.digitChar d) = true := by decide
  induction writes with
  | one small => simp [Numeric, digit _ small]
  | next small _ ih => simpa [Numeric, digit _ small] using ih
  | apart small _ ih => simpa [Numeric, digit _ small] using ih

theorem numeric_of_natural {n : Nat} {w : List Char} (writes : WritesNatural n w) :
    Numeric w ∨ n = 0 ∧ w = ['-', '0'] := by
  cases writes with
  | unsigned digits => exact .inl (numeric_of_digits digits)
  | signed digits => exact .inl (by simpa [Numeric] using numeric_of_digits digits)
  | minus zero => exact .inr ⟨zero, rfl⟩

theorem mem_of_skipChar {p : Char → Bool} {s rest : List Char} (skipped : skipChar p s = some rest) :
    ∃ c ∈ s, p c = true := by
  cases s with
  | nil => cases skipped
  | cons c s =>
    simp only [skipChar, Option.ite_none_right_eq_some] at skipped
    exact ⟨c, List.mem_cons_self, skipped.1⟩

theorem mem_of_readFixed {count n : Nat} {s rest : List Char} (read : readFixed count s = some (n, rest))
    {c : Char} (mem : c ∈ rest) : c ∈ s := by
  simp only [readFixed, Option.bind_eq_bind, Option.bind_eq_some_iff, Option.ite_none_right_eq_some,
    Option.some.injEq, Prod.mk.injEq] at read
  obtain ⟨_, -, -, -, rfl⟩ := read
  exact List.mem_of_mem_drop mem

/-- A time has a colon. -/
theorem skipTime_eq_none {s : List Char} (colon : ':' ∉ s) : skipTime s = none := by
  rw [Option.eq_none_iff_forall_ne_some]
  intro rest read
  simp only [skipTime, skipHourMinute, Option.bind_eq_bind, Option.bind_eq_some_iff] at read
  obtain ⟨_, ⟨⟨hour, more⟩, fixed, _, skipped, -⟩, -⟩ := read
  obtain ⟨c, mem, same⟩ := mem_of_skipChar skipped
  exact colon (beq_iff_eq.1 same ▸ mem_of_readFixed fixed mem)

/-- A date has dashes. -/
theorem skipDate_eq_none {s : List Char} (dash : '-' ∉ s) : skipDate s = none := by
  rw [Option.eq_none_iff_forall_ne_some]
  intro rest read
  simp only [skipDate, Option.bind_eq_bind, Option.bind_eq_some_iff] at read
  obtain ⟨⟨year, more⟩, fixed, _, skipped, -⟩ := read
  obtain ⟨c, mem, same⟩ := mem_of_skipChar skipped
  exact dash (beq_iff_eq.1 same ▸ mem_of_readFixed fixed mem)

theorem mem_splitSign {s : List Char} {c : Char} (mem : c ∈ (splitSign s).2) : c ∈ s := by
  unfold splitSign at mem
  split at mem
  · exact List.mem_cons_of_mem _ mem
  · exact List.mem_cons_of_mem _ mem
  · exact mem

theorem isFloat_eq_false {w : List Char} (numeric : Numeric w) : isFloat w = false := by
  have unlike {c : Char} (other : isDigit c = false ∧ c ≠ '_' ∧ c ≠ '+') : ∀ d ∈ (splitSign w).2, d ≠ c := by
    rintro d mem rfl
    exact numeric.not_mem other (mem_splitSign mem)
  have named : isNamedFloat w = false := by
    have noN := unlike (c := 'n') (by decide)
    simp only [isNamedFloat, Bool.or_eq_false_iff, beq_eq_false_iff_ne]
    constructor <;>
    · intro same
      rw [same] at noN
      exact noN 'n' (by decide) rfl
  have unmarked : ∀ c ∈ (splitSign w).2, (!(c == 'e' || c == 'E')) = true := by
    intro c mem
    simp [unlike (c := 'e') (by decide) c mem, unlike (c := 'E') (by decide) c mem]
  have pointless : ∀ c ∈ (splitSign w).2, (c != '.') = true := by
    intro c mem
    simp [unlike (c := '.') (by decide) c mem]
  have none : floatNumeral? w = none := by
    have mantissa := List.takeWhile_eq_self_iff.2 unmarked
    have exponent := List.dropWhile_eq_nil_iff.2 unmarked
    have fraction := List.dropWhile_eq_nil_iff.2 pointless
    simp only [floatNumeral?, mantissa, exponent, fraction, List.isEmpty_nil, if_true,
      Option.bind_eq_bind, Option.bind_some]
    cases wholeDigits? ((splitSign w).2.takeWhile (· != '.')) <;> rfl
  rw [isFloat, named, none, Bool.false_or]

theorem wholeDigits?_decimals {n : Nat} {w : List Char} (writes : WritesDigits (decimals n) w) :
    wholeDigits? w = some (decimals n) := by
  have noLead : ¬ ((decimals n).length > 1 ∧ (decimals n).head? = some 0) := by
    rintro ⟨long, lead⟩
    rw [Text.decimals_head?_eq_zero lead] at long
    simp [decimals] at long
  simp [wholeDigits?, digits?_writes writes, noLead]

theorem splitSign_writes {n : Nat} {w : List Char} (writes : WritesNatural n w) (numeric : Numeric w) :
    ∃ v, splitSign w = (false, v) ∧ WritesDigits (decimals n) v := by
  cases writes with
  | minus => exact absurd List.mem_cons_self (numeric.not_mem (by decide))
  | signed digits => exact ⟨_, rfl, digits⟩
  | unsigned digits =>
    refine ⟨w, ?_, digits⟩
    have noSign : ∀ d < 10, Nat.digitChar d ≠ '+' ∧ Nat.digitChar d ≠ '-' := by decide
    obtain ⟨d, v, small, rfl⟩ := digits.lead
    rw [splitSign.eq_3]
    · intro rest same
      exact (noSign d small).1 (List.cons.inj same).1
    · intro rest same
      exact (noSign d small).2 (List.cons.inj same).1

theorem integer?_writes {n : Nat} {w : List Char} (writes : WritesNatural n w) (numeric : Numeric w)
    (fits : n ≤ 9223372036854775807) : integer? w = some (n : Int) := by
  obtain ⟨v, split, digits⟩ := splitSign_writes writes numeric
  have word : word? (n : Int) = some (n : Int) := by
    simp only [word?, Bool.and_eq_true, decide_eq_true_eq]
    rw [if_pos (by omega)]
  rw [integer?.eq_4, split]
  · simp only [wholeDigits?_decimals digits, Text.digitsValue_decimals, Option.bind_eq_bind,
      Option.bind_some, Bool.false_eq_true, if_false, word]
  all_goals
    rintro rest rfl
    exact numeric.not_mem (by decide) (List.mem_cons_of_mem _ List.mem_cons_self)

/-! ## Words -/

/-- The text is one word, whatever ends it, with this value. -/
structure IsWord (v : Scalar) (w : List Char) : Prop where
  bare : ∃ c rest, w = c :: rest ∧ c ≠ '[' ∧ c ≠ '\x7b' ∧ c ≠ '"' ∧ c ≠ '\''
  joined : ∀ c ∈ w, endsWord c = false
  dateless : skipDate w = none
  value : Scalar.ofWord? w = some v

theorem isWord_true : IsWord (.boolean true) ['t', 'r', 'u', 'e'] where
  bare := ⟨_, _, rfl, by decide⟩
  joined := by simp [endsWord, isBlank]
  dateless := rfl
  value := rfl

theorem isWord_false : IsWord (.boolean false) ['f', 'a', 'l', 's', 'e'] where
  bare := ⟨_, _, rfl, by decide⟩
  joined := by simp [endsWord, isBlank]
  dateless := rfl
  value := rfl

theorem isWord_natural {n : Nat} {w : List Char} (writes : WritesNatural n w)
    (fits : n ≤ 9223372036854775807) : IsWord (.integer n) w := by
  obtain numeric | ⟨rfl, rfl⟩ := numeric_of_natural writes
  case inr => exact ⟨⟨_, _, rfl, by decide⟩, by simp [endsWord, isBlank], rfl, by decide⟩
  have dateless := skipDate_eq_none (numeric.not_mem (by decide))
  refine ⟨?bare, ?joined, dateless, ?value⟩
  case bare =>
    cases w with
    | nil =>
      cases writes with
      | unsigned digits =>
        obtain ⟨_, _, -, same⟩ := digits.lead
        cases same
    | cons c w =>
      have other {d : Char} (no : isDigit d = false ∧ d ≠ '_' ∧ d ≠ '+') : c ≠ d :=
        fun same => numeric.not_mem no (same ▸ List.mem_cons_self)
      exact ⟨c, w, rfl, other (by decide), other (by decide), other (by decide), other (by decide)⟩
  case joined =>
    intro c mem
    have other {d : Char} (no : isDigit d = false ∧ d ≠ '_' ∧ d ≠ '+') : c ≠ d :=
      fun same => numeric.not_mem no (same ▸ mem)
    simp [endsWord, isBlank, other (d := ' ') (by decide), other (d := '\t') (by decide),
      other (d := '\n') (by decide), other (d := '\r') (by decide), other (d := '#') (by decide),
      other (d := ',') (by decide), other (d := ']') (by decide), other (d := '\x7d') (by decide)]
  case value =>
    have noT : w ≠ ['t', 'r', 'u', 'e'] := fun same => numeric.not_mem (c := 't') (by decide) (by simp [same])
    have noF : w ≠ ['f', 'a', 'l', 's', 'e'] :=
      fun same => numeric.not_mem (c := 'f') (by decide) (by simp [same])
    have moment : isMoment w = false := by
      rw [isMoment, skipTime_eq_none (numeric.not_mem (by decide)), dateless]
      rfl
    rw [Scalar.ofWord?, beq_eq_false_iff_ne.2 noT, beq_eq_false_iff_ne.2 noF, moment,
      isFloat_eq_false numeric, integer?_writes writes numeric fits]
    rfl

theorem splitWord_word {v : Scalar} {w : List Char} (word : IsWord v w) {rest : List Char}
    (stops : Stops (!endsWord ·) rest) : splitWord (w ++ rest) = (w, rest) := by
  have joined : ∀ c ∈ w, (!endsWord c) = true := fun c mem => by rw [word.joined c mem]; rfl
  rw [splitWord, takeWhile_stops joined stops, dropWhile_stops joined stops]
  simp only [word.dateless]
  split
  · rfl
  · rfl

/-! ## Values -/

theorem readTerm_word {v : Scalar} {w : List Char} (word : IsWord v w) {rest : List Char}
    (stops : Stops (!endsWord ·) rest) (depth fuel : Nat) :
    readTerm depth (fuel + 1) (w ++ rest) = some (.scalar v, rest) := by
  obtain ⟨c, more, front, bracket, brace, quote, tick⟩ := word.bare
  have split := splitWord_word word stops
  rw [front, List.cons_append] at split ⊢
  rw [readTerm.eq_8, split]
  · simp only [← front, word.value, Option.map_some]
  all_goals simp [bracket, brace, quote, tick]

theorem readTerm_text {s : String} {w : List Char} (writes : WritesText s w) {rest : List Char}
    (apart : rest.head? ≠ some '"') (depth fuel : Nat) :
    readTerm depth (fuel + 1) (w ++ rest) = some (.scalar (.text s), rest) := by
  have read := readText_writes writes apart
  obtain @⟨w, -⟩ := writes
  rw [List.cons_append, List.cons_append] at read ⊢
  rw [readTerm.eq_6, read]
  rfl

/-! ## Lists of texts -/

/-- Comments go to the end of their line. -/
inductive Comment : List Char → Prop
  | mk {cs : List Char} (line : ∀ c ∈ cs, isLineChar c = true) : Comment ('#' :: cs)

inductive Newline : List Char → Prop
  | lf : Newline ['\n']
  | crlf : Newline ['\r', '\n']

/-- What may stand between the parts of a list: blanks, line ends and comments. -/
inductive Gap : List Char → Prop
  | none : Gap []
  | blank {c : Char} {g : List Char} (blank : isBlank c = true) (more : Gap g) : Gap (c :: g)
  | newline {n g : List Char} (newline : Newline n) (more : Gap g) : Gap (n ++ g)
  | comment {m n g : List Char} (comment : Comment m) (newline : Newline n) (more : Gap g) :
      Gap (m ++ n ++ g)

/-- No gap goes on here. -/
def EndsGap (rest : List Char) : Prop :=
  ∃ c more, rest = c :: more ∧ c ≠ '\n' ∧ c ≠ '\r' ∧ c ≠ '#' ∧ isBlank c = false

theorem skipGap_newline {n : List Char} (newline : Newline n) (comment : Bool) (rest : List Char) :
    skipGap comment (n ++ rest) = skipGap false rest := by
  cases newline <;> rfl

theorem skipGap_line {cs : List Char} (line : ∀ c ∈ cs, isLineChar c = true) (rest : List Char) :
    skipGap true (cs ++ rest) = skipGap true rest := by
  induction cs with
  | nil => rfl
  | cons c cs ih =>
    have first := line c List.mem_cons_self
    rw [List.cons_append, skipGap.eq_4, if_pos rfl, if_pos first]
    · exact ih fun d mem => line d (List.mem_cons_of_mem _ mem)
    · rintro rfl
      cases first
    · rintro _ rfl
      cases first

theorem skipGap_gap {g : List Char} (gap : Gap g) {rest : List Char} (ends : EndsGap rest) :
    skipGap false (g ++ rest) = rest := by
  induction gap with
  | none =>
    obtain ⟨c, more, rfl, lf, cr, mark, solid⟩ := ends
    rw [List.nil_append, skipGap.eq_4]
    · simp [mark, solid]
    all_goals simp [lf, cr]
  | @blank c g blank _ ih =>
    have lf : c ≠ '\n' := by rintro rfl; cases blank
    have cr : c ≠ '\r' := by rintro rfl; cases blank
    have mark : c ≠ '#' := by rintro rfl; cases blank
    rw [List.cons_append, skipGap.eq_4]
    · simp [mark, blank, ih]
    all_goals simp [lf, cr]
  | newline newline _ ih => rw [List.append_assoc, skipGap_newline newline, ih]
  | comment comment newline _ ih =>
    obtain @⟨cs, line⟩ := comment
    rw [List.append_assoc, List.append_assoc, List.cons_append, skipGap.eq_4]
    · simp only [Bool.false_eq_true, if_false, BEq.rfl, if_true]
      rw [skipGap_line line, skipGap_newline newline, ih]
    all_goals simp

/-- How the texts of a list are written from the opening bracket on, up to the closing one. -/
inductive WritesItems : List String → List Char → Prop
  | close {g : List Char} (gap : Gap g) : WritesItems [] (g ++ [']'])
  | last {s : String} {g w g' : List Char} (before : Gap g) (text : WritesText s w) (after : Gap g') :
      WritesItems [s] (g ++ (w ++ (g' ++ [']'])))
  | more {s : String} {ss : List String} {g w g' v : List Char} (before : Gap g) (text : WritesText s w)
      (after : Gap g') (more : WritesItems ss v) : WritesItems (s :: ss) (g ++ (w ++ (g' ++ ',' :: v)))

/-- How a list of texts is written. -/
inductive WritesTexts (ss : List String) : List Char → Prop
  | mk {w : List Char} (items : WritesItems ss w) : WritesTexts ss ('[' :: w)

theorem exists_writesTexts (ss : List String) : ∃ w, WritesTexts ss w := by
  have items (ss : List String) : ∃ w, WritesItems ss w := by
    induction ss with
    | nil => exact ⟨_, .close .none⟩
    | cons s ss ih =>
      obtain ⟨_, text⟩ := exists_writesText s
      obtain ⟨_, more⟩ := ih
      exact ⟨_, .more .none text .none more⟩
  obtain ⟨_, written⟩ := items ss
  exact ⟨_, .mk written⟩

theorem WritesText.endsGap {s : String} {w : List Char} (writes : WritesText s w) (rest : List Char) :
    EndsGap (w ++ rest) := by
  cases writes with
  | mk => exact ⟨_, _, rfl, by decide⟩

theorem WritesText.length_pos {s : String} {w : List Char} (writes : WritesText s w) : 0 < w.length := by
  cases writes with
  | mk => exact Nat.zero_lt_succ _

/-- Neither a gap nor a mark after it begins with a quote. -/
theorem Gap.head_ne_quote {g : List Char} (gap : Gap g) {c : Char} (mark : c ≠ '"') (rest : List Char) :
    (g ++ c :: rest).head? ≠ some '"' := by
  cases gap with
  | none => simpa using mark
  | blank blank =>
    rw [List.cons_append, List.head?_cons, ne_eq, Option.some.injEq]
    rintro rfl
    cases blank
  | newline newline => cases newline <;> simp
  | comment comment => cases comment; simp

theorem readItems_text {s : String} {g w g' : List Char} (before : Gap g) (text : WritesText s w)
    (after : Gap g') {c : Char} (mark : c = ']' ∨ c = ',') (depth fuel : Nat) (rest : List Char) :
    readItems depth (fuel + 2) (g ++ (w ++ (g' ++ c :: rest))) =
      if c = ']' then some ([.scalar (.text s)], rest)
      else (readItems depth (fuel + 1) rest).map fun r => (.scalar (.text s) :: r.1, r.2) := by
  have noQuote : c ≠ '"' := by rcases mark with rfl | rfl <;> decide
  have marked : EndsGap (c :: rest) := by
    rcases mark with rfl | rfl <;> exact ⟨_, _, rfl, by decide⟩
  have read := readTerm_text text (after.head_ne_quote noQuote rest) depth fuel
  rw [readItems.eq_2, skipGap_gap before (text.endsGap _)]
  obtain @⟨w, -⟩ := text
  rw [List.cons_append, List.cons_append] at read ⊢
  split
  · next closed => cases closed
  · simp only [read, skipGap_gap after marked]
    rcases mark with rfl | rfl <;> rfl

theorem readItems_writes {ss : List String} {w : List Char} (writes : WritesItems ss w) (depth : Nat)
    {fuel : Nat} (room : w.length < fuel) (rest : List Char) :
    readItems depth fuel (w ++ rest) = some (ss.map fun s => .scalar (.text s), rest) := by
  induction writes generalizing fuel with
  | close gap =>
    obtain ⟨fuel, rfl⟩ : ∃ k, fuel = k + 1 := ⟨fuel - 1, by omega⟩
    have skipped : skipGap false (_ ++ ']' :: rest) = ']' :: rest :=
      skipGap_gap gap ⟨_, _, rfl, by decide⟩
    rw [List.append_assoc, List.singleton_append, readItems.eq_2, skipped]
    rfl
  | @last s g w g' before text after =>
    simp only [List.length_append, List.length_singleton] at room
    have some := text.length_pos
    obtain ⟨fuel, rfl⟩ : ∃ k, fuel = k + 2 := ⟨fuel - 2, by omega⟩
    simp only [List.append_assoc, List.singleton_append]
    exact readItems_text before text after (.inl rfl) depth fuel rest
  | @more s ss g w g' v before text after _ ih =>
    simp only [List.length_append, List.length_cons] at room
    have some := text.length_pos
    obtain ⟨fuel, rfl⟩ : ∃ k, fuel = k + 2 := ⟨fuel - 2, by omega⟩
    simp only [List.append_assoc, List.cons_append]
    rw [readItems_text before text after (.inr rfl), ih (by omega)]
    rfl

theorem readTerm_texts {ss : List String} {w : List Char} (writes : WritesTexts ss w) (depth : Nat)
    {fuel : Nat} (room : w.length < fuel) (rest : List Char) :
    readTerm (depth + 1) fuel (w ++ rest) = some (.array (ss.map fun s => .scalar (.text s)), rest) := by
  obtain ⟨fuel, rfl⟩ : ∃ k, fuel = k + 1 := ⟨fuel - 1, by omega⟩
  obtain @⟨w, items⟩ := writes
  rw [List.length_cons] at room
  rw [List.cons_append, readTerm.eq_3, readItems_writes items depth (by omega)]
  rfl

end ServiceHost.Toml

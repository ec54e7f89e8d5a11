import ServiceHost.Text.Digit

/-! Decimal numbers as they are written: the digits of a number, the characters that show them, and the
number read off them again. -/

namespace ServiceHost.Text

theorem digit?_digitChar {base n : Nat} (below : n < base) (small : base ≤ 16) :
    digit? base (Nat.digitChar n) = some n := by
  have known : ∀ b < 17, ∀ k < b, digit? b (Nat.digitChar k) = some k := by decide
  exact known base (by omega) n below

theorem digit?_ten_eq_some_iff {c : Char} {d : Nat} : digit? 10 c = some d ↔ d < 10 ∧ c = Nat.digitChar d := by
  constructor
  · intro read
    have le (a b : Char) : a ≤ b ↔ a.toNat ≤ b.toNat := Iff.rfl
    simp only [digit?, Bool.and_eq_true, decide_eq_true_eq, le] at read
    have letter : ¬ (if 'a'.toNat ≤ c.toNat ∧ c.toNat ≤ 'f'.toNat then c.toNat - 87
        else if 'A'.toNat ≤ c.toNat ∧ c.toNat ≤ 'F'.toNat then c.toNat - 55 else 10) < 10 := by
      have lower : 'a'.toNat = 97 := rfl
      have upper : 'A'.toNat = 65 := rfl
      split
      · omega
      · split <;> omega
    split at read
    · next range =>
      have range : 48 ≤ c.toNat ∧ c.toNat ≤ 57 := range
      simp only [Option.ite_none_right_eq_some, Option.some.injEq] at read
      obtain ⟨small, rfl⟩ := read
      refine ⟨small, Char.toNat_inj.1 ?_⟩
      rw [Nat.toNat_digitChar_of_lt_ten small]
      omega
    · cases read
  · rintro ⟨small, rfl⟩
    exact digit?_digitChar small (by decide)

/-- The decimal digits of a number, the first of them zero only in zero itself. -/
def decimals (n : Nat) : List Nat := if n < 10 then [n] else decimals (n / 10) ++ [n % 10]

theorem toDigits_eq_decimals (n : Nat) : Nat.toDigits 10 n = (decimals n).map Nat.digitChar := by
  induction n using Nat.strongRecOn with
  | ind n ih =>
    rw [decimals, Nat.toDigits_eq_if (by decide)]
    split
    · rfl
    · rw [ih (n / 10) (by omega), List.map_append, List.map_singleton]

theorem toList_toString (n : Nat) : (toString n).toList = (decimals n).map Nat.digitChar := by
  rw [Nat.toString_eq_ofList_toDigits, String.toList_ofList, toDigits_eq_decimals]

theorem digitsValue_decimals (n : Nat) : digitsValue 10 (decimals n) = n := by
  induction n using Nat.strongRecOn with
  | ind n ih =>
    rw [decimals]
    split
    · simp [digitsValue]
    · have shorter := ih (n / 10) (by omega)
      simp only [digitsValue, List.foldl_append, List.foldl_cons, List.foldl_nil] at shorter ⊢
      omega

theorem lt_ten_of_mem_decimals {n d : Nat} (mem : d ∈ decimals n) : d < 10 := by
  induction n using Nat.strongRecOn with
  | ind n ih =>
    rw [decimals] at mem
    split at mem
    · simp_all
    · rcases List.mem_append.1 mem with front | last
      · exact ih (n / 10) (by omega) front
      · simp only [List.mem_singleton] at last
        omega

theorem decimals_ne_nil (n : Nat) : decimals n ≠ [] := by
  rw [decimals]
  split <;> simp

theorem mapM_digit?_digitChar {ds : List Nat} (small : ∀ d ∈ ds, d < 10) :
    (ds.map Nat.digitChar).mapM (digit? 10) = some ds := by
  induction ds with
  | nil => rfl
  | cons d ds ih =>
    rw [List.forall_mem_cons] at small
    rw [List.map_cons, List.mapM_cons, digit?_digitChar small.1 (by decide), ih small.2]
    rfl

/-- A number is read back from its digits. -/
theorem natural?_toString (n : Nat) : natural? (toString n).toList = some n := by
  rw [toList_toString, natural?, mapM_digit?_digitChar fun _ => lt_ten_of_mem_decimals]
  simp [decimals_ne_nil, digitsValue_decimals]

theorem decimals_eq_cons (n : Nat) : ∃ d ds, decimals n = d :: ds ∧ d < 10 := by
  cases digits : decimals n with
  | nil => exact absurd digits (decimals_ne_nil n)
  | cons d ds => exact ⟨d, ds, rfl, lt_ten_of_mem_decimals (by rw [digits]; simp)⟩

theorem decimals_head?_eq_zero {n : Nat} (lead : (decimals n).head? = some 0) : n = 0 := by
  induction n using Nat.strongRecOn with
  | ind n ih =>
    rw [decimals] at lead
    split at lead
    · simpa using lead
    · rw [List.head?_append, Option.or_of_isSome (by simp [decimals_ne_nil])] at lead
      have := ih (n / 10) (by omega) lead
      omega

end ServiceHost.Text

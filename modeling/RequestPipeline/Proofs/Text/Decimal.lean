import Mathlib.Algebra.Group.Nat.Defs
import RequestPipeline.Number.Literal
import RequestPipeline.Text.Blank

/-!
# Decimal integers and the texts that denote them

`Denotes cs i` says what an integer looks like: an optional sign and one or more decimal digits.  The value of a run of
digits is `Nat.ofDigitChars`.

* `integer?_eq_some_iff`   **exactly these texts are read as integers**;
* `denotes_ofInt`          the text of an integer denotes it;
* `digitRun_append`        a run of digits is read up to the first character that is none.
-/

namespace RequestPipeline.Text

/-! ## digits -/

theorem digit?_of_isDigit {c : Char} (h : c.isDigit = true) : digit? c = some (c.toNat - '0'.toNat) := by
  obtain ⟨low, high⟩ := Bool.and_eq_true_iff.mp h
  exact if_pos ⟨of_decide_eq_true low, of_decide_eq_true high⟩

theorem digit?_of_not_isDigit {c : Char} (h : c.isDigit = false) : digit? c = none := by
  refine if_neg fun hc => ?_
  have hd : c.isDigit = true := Bool.and_eq_true_iff.mpr ⟨decide_eq_true hc.1, decide_eq_true hc.2⟩
  exact Bool.false_ne_true (h.symm.trans hd)

theorem isBlank_of_isDigit {c : Char} (h : c.isDigit = true) : isBlank c = false := by
  obtain ⟨low, high⟩ := Bool.and_eq_true_iff.mp h
  have hlow : 48 ≤ c.toNat := of_decide_eq_true low
  have hhigh : c.toNat ≤ 57 := of_decide_eq_true high
  simp only [isBlank, Bool.or_eq_false_iff, Bool.and_eq_false_iff, decide_eq_false_iff_not, beq_eq_false_iff_ne]
  omega

theorem foldDigits_of_isDigit {cs : List Char} (h : ∀ c ∈ cs, c.isDigit = true) (acc : Nat) :
    foldDigits acc cs = some (Nat.ofDigitChars 10 cs acc) := by
  induction cs generalizing acc with
  | nil => rfl
  | cons c cs ih =>
    obtain ⟨hc, hcs⟩ := List.forall_mem_cons.mp h
    rw [foldDigits, digit?_of_isDigit hc, Nat.ofDigitChars_cons, Nat.mul_comm]
    exact ih hcs _

theorem isDigit_of_foldDigits {cs : List Char} {acc n : Nat} (h : foldDigits acc cs = some n) :
    ∀ c ∈ cs, c.isDigit = true := by
  induction cs generalizing acc with
  | nil => exact nofun
  | cons c cs ih =>
    cases hc : c.isDigit with
    | false =>
      rw [foldDigits, digit?_of_not_isDigit hc] at h
      cases h
    | true =>
      rw [foldDigits, digit?_of_isDigit hc] at h
      exact List.forall_mem_cons.mpr ⟨hc, ih h⟩

theorem natural?_eq_some_iff {cs : List Char} {n : Nat} :
    natural? cs = some n ↔ cs ≠ [] ∧ (∀ c ∈ cs, c.isDigit = true) ∧ n = Nat.ofDigitChars 10 cs 0 := by
  cases cs with
  | nil => exact ⟨nofun, fun h => absurd rfl h.1⟩
  | cons c cs =>
    show foldDigits 0 (c :: cs) = some n ↔ _
    constructor
    · intro h
      have hd := isDigit_of_foldDigits h
      rw [foldDigits_of_isDigit hd] at h
      exact ⟨List.cons_ne_nil _ _, hd, (Option.some.inj h).symm⟩
    · rintro ⟨-, hd, rfl⟩
      exact foldDigits_of_isDigit hd 0

/-- what is read after a run of digits begins with no digit -/
theorem digitRun_append {ds rest : List Char} (hd : ∀ c ∈ ds, c.isDigit = true)
    (hr : ∀ c, rest.head? = some c → c.isDigit = false) (acc count : Nat) :
    digitRun acc count (ds ++ rest) = (Nat.ofDigitChars 10 ds acc, count + ds.length, rest) := by
  induction ds generalizing acc count with
  | nil =>
    cases rest with
    | nil => rfl
    | cons c rest =>
      rw [List.nil_append, digitRun, digit?_of_not_isDigit (hr c rfl)]
      rfl
  | cons d ds ih =>
    obtain ⟨hd, hds⟩ := List.forall_mem_cons.mp hd
    rw [List.cons_append, digitRun, digit?_of_isDigit hd, Nat.ofDigitChars_cons, Nat.mul_comm 10]
    dsimp only
    rw [ih hds, List.length_cons, Nat.add_assoc, Nat.add_comm 1]

/-! ## integers -/

/-- the texts that denote an integer: an optional sign and one or more decimal digits -/
inductive Denotes : List Char → Int → Prop
  | plain {ds : List Char} (nonempty : ds ≠ []) (digits : ∀ c ∈ ds, c.isDigit = true) :
    Denotes ds (Nat.ofDigitChars 10 ds 0)
  | plus {ds : List Char} (nonempty : ds ≠ []) (digits : ∀ c ∈ ds, c.isDigit = true) :
    Denotes ('+' :: ds) (Nat.ofDigitChars 10 ds 0)
  | minus {ds : List Char} (nonempty : ds ≠ []) (digits : ∀ c ∈ ds, c.isDigit = true) :
    Denotes ('-' :: ds) (-(Nat.ofDigitChars 10 ds 0 : Int))

theorem Denotes.char {cs : List Char} {i : Int} (h : Denotes cs i) :
    ∀ c ∈ cs, c.isDigit = true ∨ c = '+' ∨ c = '-' := by
  cases h with
  | plain nonempty digits => exact fun c hc => .inl (digits c hc)
  | plus nonempty digits => exact List.forall_mem_cons.mpr ⟨.inr (.inl rfl), fun c hc => .inl (digits c hc)⟩
  | minus nonempty digits => exact List.forall_mem_cons.mpr ⟨.inr (.inr rfl), fun c hc => .inl (digits c hc)⟩

theorem Denotes.ne_nil {cs : List Char} {i : Int} (h : Denotes cs i) : cs ≠ [] := by
  cases h with
  | plain nonempty => exact nonempty
  | plus => exact List.cons_ne_nil _ _
  | minus => exact List.cons_ne_nil _ _

theorem Denotes.not_blank {cs : List Char} {i : Int} (h : Denotes cs i) : ∀ c ∈ cs, isBlank c = false := by
  intro c hc
  rcases h.char c hc with hd | rfl | rfl
  · exact isBlank_of_isDigit hd
  · rfl
  · rfl

theorem integer?_of_isDigit {cs : List Char} (h : ∀ c ∈ cs, c.isDigit = true) :
    integer? cs = (natural? cs).map Int.ofNat := by
  unfold integer?
  split
  · exact absurd (h '+' List.mem_cons_self) (by decide)
  · exact absurd (h '-' List.mem_cons_self) (by decide)
  · rfl

/-- **Exactly these texts are read as integers.** -/
theorem integer?_eq_some_iff {cs : List Char} {i : Int} : integer? cs = some i ↔ Denotes cs i := by
  constructor
  · intro h
    unfold integer? at h
    split at h
    · obtain ⟨n, hn, rfl⟩ := Option.map_eq_some_iff.mp h
      obtain ⟨nonempty, digits, rfl⟩ := natural?_eq_some_iff.mp hn
      exact .plus nonempty digits
    · obtain ⟨n, hn, rfl⟩ := Option.map_eq_some_iff.mp h
      obtain ⟨nonempty, digits, rfl⟩ := natural?_eq_some_iff.mp hn
      exact .minus nonempty digits
    · obtain ⟨n, hn, rfl⟩ := Option.map_eq_some_iff.mp h
      obtain ⟨nonempty, digits, rfl⟩ := natural?_eq_some_iff.mp hn
      exact .plain nonempty digits
  · intro h
    cases h with
    | plain nonempty digits =>
      rw [integer?_of_isDigit digits, natural?_eq_some_iff.mpr ⟨nonempty, digits, rfl⟩]
      rfl
    | plus nonempty digits =>
      show (natural? _).map Int.ofNat = _
      rw [natural?_eq_some_iff.mpr ⟨nonempty, digits, rfl⟩]
      rfl
    | minus nonempty digits =>
      show (natural? _).map (fun n => -Int.ofNat n) = _
      rw [natural?_eq_some_iff.mpr ⟨nonempty, digits, rfl⟩]
      rfl

theorem int64?_eq_some_iff {cs : List Char} {i : Int} :
    int64? cs = some i ↔ Denotes cs i ∧ minInt64 ≤ i ∧ i ≤ maxInt64 := by
  unfold int64? bounded?
  rw [Option.bind_eq_some_iff]
  constructor
  · rintro ⟨j, hj, h⟩
    obtain ⟨hr, he⟩ := Option.ite_none_right_eq_some.mp h
    obtain rfl := Option.some.inj he
    exact ⟨integer?_eq_some_iff.mp hj, hr⟩
  · rintro ⟨hd, hr⟩
    exact ⟨i, integer?_eq_some_iff.mpr hd, if_pos hr⟩

/-! ## the text of an integer -/

theorem isDigit_of_mem_ofNat {n : Nat} {c : Char} (h : c ∈ ofNat n) : c.isDigit = true :=
  Nat.isDigit_of_mem_toDigits (by decide) (by decide) h

theorem ofDigitChars_ofNat (n : Nat) : Nat.ofDigitChars 10 (ofNat n) 0 = n :=
  Nat.ofDigitChars_toDigits (by decide) (by decide)

theorem ofNat_ne_nil (n : Nat) : ofNat n ≠ [] := Nat.toDigits_ne_nil

/-- the text of an integer denotes it -/
theorem denotes_ofInt (i : Int) : Denotes (ofInt i) i := by
  cases i with
  | ofNat n =>
    have h := Denotes.plain (ofNat_ne_nil n) fun _ => isDigit_of_mem_ofNat
    rwa [ofDigitChars_ofNat] at h
  | negSucc n =>
    have h := Denotes.minus (ofNat_ne_nil (n + 1)) fun _ => isDigit_of_mem_ofNat
    rwa [ofDigitChars_ofNat] at h

end RequestPipeline.Text

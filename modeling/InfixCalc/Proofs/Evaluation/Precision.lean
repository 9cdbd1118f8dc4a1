import InfixCalc.Proofs.Decimal.Canonical
import InfixCalc.Proofs.Decimal.Monotone
import InfixCalc.Proofs.Evaluation.Grammar
import InfixCalc.Proofs.Expression.Exact
import InfixCalc.Proofs.Token.Readers

/-!
# Precision, modes and exact values

An expression without divisions has a value in every context.  If the precision is at
least the number of units that the tokens are written with, that value is exact and no
mode makes a difference.  If there are only sums and products, the exact value lies
between those under `down` and `up` at every precision, and so do the values under all
other modes.
-/

namespace InfixCalc

section

variable
    {mode : LexerMode}
    {expression : Text}
    {tokens : List Token}
    {tree : Expression}

/-- What was read as a tree has literals for leaves. -/
theorem isWritten_of_readable
    (readable : mode.scan expression = ⟨tokens, none⟩)
    (derives : Derives .sum tokens tree) :
    tree.IsWritten := by
  apply Expression.isWritten_of_tokens
  have written := mode.written_scan expression
  rwa [readable, ← derives.tokens_eq] at written

/-- Without divisions there is a value: that of the tree, rounded as the context says. -/
theorem exists_value_of_avoids_div
    (context : Context)
    (readable : mode.scan expression = ⟨tokens, none⟩)
    (derives : Derives .sum tokens tree)
    (noDivision : tree.Avoids .div) :
    ∃ value,
      evaluate context mode expression = .ok value ∧
        value.isFinite ∧ value.toRat = tree.valueWith context.nearest := by
  have isExact := (isWritten_of_readable readable derives).isExact
  refine ⟨tree.total context, ?_, tree.isFinite_total isExact noDivision.defined,
    tree.toRat_total isExact noDivision.defined⟩
  rw [evaluate_eq_value? readable derives, Expression.value?_eq_ok_iff]
  exact ⟨rfl, noDivision.defined⟩

/--
Enough precision means exact.  An expression without divisions, whose tokens are written
with no more units than the precision has digits, has a value in all nine modes.  The
value is finite and is the exact value of the tree in each of them, and it is printed as
one and the same text, which stands for that number.
-/
theorem evaluate_exact_of_enough_precision
    (context : Context)
    (readable : mode.scan expression = ⟨tokens, none⟩)
    (derives : Derives .sum tokens tree)
    (noDivision : ∀ token ∈ tokens, token.lexeme ≠ .operator .div)
    (enough : (tokens.map fun token => token.toText.length).sum ≤ context.precision) :
    ∃ shown,
      Text.plainNumber? shown = some tree.exact ∧
        ∀ rounding, ∃ value,
          evaluate (context.inMode rounding) mode expression = .ok value ∧
            value.isFinite ∧ value.toRat = tree.exact ∧ value.toText = shown := by
  have isWritten := isWritten_of_readable readable derives
  rw [← derives.tokens_eq] at noDivision enough
  have avoids := Expression.avoids_of_tokens noDivision
  have exactly (rounding : RoundingMode) :
      ∃ value, evaluate (context.inMode rounding) mode expression = .ok value ∧
        value.isFinite ∧ value.toRat = tree.exact := by
    rcases exists_value_of_avoids_div (context.inMode rounding) readable derives avoids with
      ⟨value, found, isFinite, number⟩
    refine ⟨value, found, isFinite, number.trans ?_⟩
    apply Expression.valueWith_eq_exact _ isWritten avoids enough
    intro short digits
    exact (context.inMode rounding).nearest_of_hasDigits digits
  rcases exactly .halfEven with ⟨sample, _, sampleFinite, sampleNumber⟩
  refine ⟨sample.toText, ?_, fun rounding => ?_⟩
  · rw [Decimal.plainNumber?_toText sampleFinite, sampleNumber]
  · rcases exactly rounding with ⟨value, found, isFinite, number⟩
    exact ⟨value, found, isFinite, number,
      Decimal.toText_eq_of_toRat_eq isFinite sampleFinite (number.trans sampleNumber.symm)⟩

theorem evaluate_exact_of_enough_precision_difference :
    ∃ shown,
      Text.plainNumber? shown = some (-3 / 5) ∧
        ∀ rounding, ∃ value,
          evaluate ⟨12, rounding, by decide, by decide⟩ .boundary (text "(0.1-0.25)*4")
              = .ok value ∧
            value.toText = shown := by
  let first : Lexeme := .number (Literal.value (text "0.1")) (text "0.1")
  let second : Lexeme := .number (Literal.value (text "0.25")) (text "0.25")
  let factor : Lexeme := .number (Literal.value (text "4")) (text "4")
  have readable : LexerMode.boundary.scan (text "(0.1-0.25)*4")
      = ⟨[⟨.openGroup, 0⟩, ⟨first, 1⟩, ⟨.operator .sub, 4⟩, ⟨second, 5⟩, ⟨.closeGroup, 9⟩,
          ⟨.operator .mul, 10⟩, ⟨factor, 11⟩], none⟩ := by
    decide +kernel
  have difference : Derives .sum ([⟨first, 1⟩] ++ ⟨.operator .sub, 4⟩ :: [⟨second, 5⟩]) _ :=
    .sum rfl (.ofProduct (.ofFactor .literal)) (.ofFactor .literal)
  have derives : Derives .sum
      ((⟨.openGroup, 0⟩ :: (([⟨first, 1⟩] ++ ⟨.operator .sub, 4⟩ :: [⟨second, 5⟩])
          ++ [⟨.closeGroup, 9⟩]))
        ++ ⟨.operator .mul, 10⟩ :: [⟨factor, 11⟩]) _ :=
    .ofProduct (.product rfl (.ofFactor (.group difference)) .literal)
  rcases evaluate_exact_of_enough_precision ⟨12, .up, by decide, by decide⟩ readable derives
    (by decide +kernel) (by decide +kernel) with ⟨shown, number, always⟩
  refine ⟨shown, ?_, fun rounding => ?_⟩
  · have exactly : ((Literal.value (text "0.1")).toRat - (Literal.value (text "0.25")).toRat)
        * (Literal.value (text "4")).toRat = -3 / 5 := by
      have firstValue : Literal.value (text "0.1") = .finite false 1 (-1) := by decide +kernel
      have secondValue : Literal.value (text "0.25") = .finite false 25 (-2) := by decide +kernel
      have factorValue : Literal.value (text "4") = .finite false 4 0 := by decide +kernel
      rw [firstValue, secondValue, factorValue]
      simp only [Decimal.toRat, Decimal.signed_false]
      norm_num
    rw [← exactly]
    exact number
  · rcases always rounding with ⟨value, found, _, _, printed⟩
    exact ⟨value, found, printed⟩

/--
Directed modes enclose.  An expression with no operators but `+` and `*` has a finite
value in all nine modes, at every precision.  The values under `floor` and `ceil` are
those under `down` and `up`, and between them lie the values under all modes and the
exact value of the tree.
-/
theorem directed_modes_enclose
    (context : Context)
    (readable : mode.scan expression = ⟨tokens, none⟩)
    (derives : Derives .sum tokens tree)
    (onlySums : ∀ token ∈ tokens,
      token.lexeme ≠ .operator .sub ∧ token.lexeme ≠ .operator .div) :
    ∃ value : RoundingMode → Decimal,
      (∀ rounding,
        evaluate (context.inMode rounding) mode expression = .ok (value rounding) ∧
          (value rounding).isFinite) ∧
      ((value .floor).toRat = (value .down).toRat ∧
        (value .floor).toText = (value .down).toText) ∧
      ((value .ceil).toRat = (value .up).toRat ∧
        (value .ceil).toText = (value .up).toText) ∧
      (∀ rounding,
        (value .down).toRat ≤ (value rounding).toRat ∧
          (value rounding).toRat ≤ (value .up).toRat) ∧
      (value .down).toRat ≤ tree.exact ∧
      tree.exact ≤ (value .up).toRat := by
  rw [← derives.tokens_eq] at onlySums
  have noDifference : tree.Avoids .sub :=
    Expression.avoids_of_tokens fun token member => (onlySums token member).1
  have noDivision : tree.Avoids .div :=
    Expression.avoids_of_tokens fun token member => (onlySums token member).2
  choose value found isFinite number using fun rounding =>
    exists_value_of_avoids_div (context.inMode rounding) readable derives noDivision
  have compare {lower upper : RoundingMode}
      (below : ∀ number : ℚ, 0 ≤ number →
        (context.inMode lower).nearest number ≤ (context.inMode upper).nearest number) :
      (value lower).toRat ≤ (value upper).toRat := by
    rw [number, number]
    exact (Expression.valueWith_mono (context.roundsBelow below) noDifference noDivision).2
  have floor : (value .floor).toRat = (value .down).toRat :=
    (compare fun _ nonneg => (context.nearest_directed nonneg).1.le).antisymm
      (compare fun _ nonneg => (context.nearest_directed nonneg).1.ge)
  have ceil : (value .ceil).toRat = (value .up).toRat :=
    (compare fun _ nonneg => (context.nearest_directed nonneg).2.le).antisymm
      (compare fun _ nonneg => (context.nearest_directed nonneg).2.ge)
  refine ⟨value, fun rounding => ⟨found rounding, isFinite rounding⟩,
    ⟨floor, Decimal.toText_eq_of_toRat_eq (isFinite .floor) (isFinite .down) floor⟩,
    ⟨ceil, Decimal.toText_eq_of_toRat_eq (isFinite .ceil) (isFinite .up) ceil⟩,
    fun rounding => ⟨?_, ?_⟩, ?_, ?_⟩
  · exact compare fun _ nonneg => (context.nearest_within nonneg rounding).1
  · exact compare fun _ nonneg => (context.nearest_within nonneg rounding).2
  · rw [number, ← Expression.valueWith_id]
    exact (Expression.valueWith_mono context.down_roundsBelow_id noDifference noDivision).2
  · rw [number, ← Expression.valueWith_id]
    exact (Expression.valueWith_mono context.id_roundsBelow_up noDifference noDivision).2

theorem directed_modes_enclose_product :
    ∃ low high,
      evaluate ⟨2, .down, by decide, by decide⟩ .boundary (text "2.5*2.5+1.1") = .ok low ∧
        evaluate ⟨2, .ceil, by decide, by decide⟩ .boundary (text "2.5*2.5+1.1") = .ok high ∧
        low.toText = text "7.3" ∧ high.toText = text "7.4" ∧
        low.toRat ≤ 147 / 20 ∧ 147 / 20 ≤ high.toRat := by
  let short : Context := ⟨2, .halfEven, by decide, by decide⟩
  let factor : Lexeme := .number (Literal.value (text "2.5")) (text "2.5")
  let summand : Lexeme := .number (Literal.value (text "1.1")) (text "1.1")
  have readable : LexerMode.boundary.scan (text "2.5*2.5+1.1")
      = ⟨[⟨factor, 0⟩, ⟨.operator .mul, 3⟩, ⟨factor, 4⟩, ⟨.operator .add, 7⟩, ⟨summand, 8⟩],
          none⟩ := by
    decide +kernel
  have product : Derives .product ([⟨factor, 0⟩] ++ ⟨.operator .mul, 3⟩ :: [⟨factor, 4⟩]) _ :=
    .product rfl (.ofFactor .literal) .literal
  have derives : Derives .sum
      (([⟨factor, 0⟩] ++ ⟨.operator .mul, 3⟩ :: [⟨factor, 4⟩])
        ++ ⟨.operator .add, 7⟩ :: [⟨summand, 8⟩]) _ :=
    .sum rfl (.ofProduct product) (.ofFactor .literal)
  rcases directed_modes_enclose short readable derives (by decide +kernel) with
    ⟨value, found, _, ⟨ceil, _⟩, _, least, greatest⟩
  have low : evaluate (short.inMode .down) .boundary (text "2.5*2.5+1.1")
      = .ok (.finite false 73 (-1)) := by
    decide +kernel
  have high : evaluate (short.inMode .ceil) .boundary (text "2.5*2.5+1.1")
      = .ok (.finite false 74 (-1)) := by
    decide +kernel
  have lowValue := Except.ok.inj (low.symm.trans (found .down).1)
  have highValue := Except.ok.inj (high.symm.trans (found .ceil).1)
  have number : (Literal.value (text "2.5")).toRat * (Literal.value (text "2.5")).toRat
      + (Literal.value (text "1.1")).toRat = 147 / 20 := by
    have half : Literal.value (text "2.5") = .finite false 25 (-1) := by decide +kernel
    have tenth : Literal.value (text "1.1") = .finite false 11 (-1) := by decide +kernel
    rw [half, tenth, Decimal.toRat, Decimal.toRat, Decimal.signed_false, Decimal.signed_false]
    norm_num
  refine ⟨_, _, low, high, by decide +kernel, by decide +kernel, ?_, ?_⟩
  · rw [lowValue, ← number]
    exact least
  · rw [highValue, ceil, ← number]
    exact greatest

end

end InfixCalc

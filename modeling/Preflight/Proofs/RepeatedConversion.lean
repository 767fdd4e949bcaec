import Mathlib
import Preflight.Proofs.ContentConversion
import Preflight.Proofs.StableNumbers

/-!
# Repeated conversion

A converted content stream is converted to itself. An operand that is read back from its bytes is
written with the same bytes again, and so are the inks of a color, although they pass through a
single and are made canonical once more.
-/

namespace Preflight

/-! ## Operands -/

namespace Operand

mutual

/-- What the bytes of an operand are read back as is written with the same bytes. -/
theorem bytes_of_printed? : ∀ {operand read : Operand}, operand.printed? = some read →
    read.bytes = operand.bytes
  | .integer _, _, h | .name _, _, h | .literal _, _, h | .hex _, _, h | .boolean _, _, h
  | .null, _, h => by
    cases h
    rfl
  | .real value, _, h => bytes_of_ofPrinted? h
  | .array items, _, h => by
    obtain ⟨read_items, items_read, rfl⟩ := Option.map_eq_some_iff.1 h
    rw [bytes, bytes, itemBytes_of_printedItems? items_read]
  | .dictionary entries, _, h => by
    obtain ⟨read_entries, entries_read, rfl⟩ := Option.map_eq_some_iff.1 h
    rw [bytes, bytes, entryBytes_of_printedEntries? entries_read]

theorem itemBytes_of_printedItems? : ∀ {items read : List Operand},
    printedItems? items = some read → itemBytes read = itemBytes items
  | [], _, h => by
    cases h
    rfl
  | item :: items, _, h => by
    rw [printedItems?] at h
    split at h
    · next first following item_read items_read =>
      cases h
      rw [itemBytes, itemBytes, bytes_of_printed? item_read, itemBytes_of_printedItems? items_read]
    · cases h

theorem entryBytes_of_printedEntries? : ∀ {entries read : List (String × Operand)},
    printedEntries? entries = some read → entryBytes read = entryBytes entries
  | [], _, h => by
    cases h
    rfl
  | (key, value) :: entries, _, h => by
    rw [printedEntries?] at h
    split at h
    · next first following value_read entries_read =>
      cases h
      rw [entryBytes, entryBytes, bytes_of_printed? value_read,
        entryBytes_of_printedEntries? entries_read]
    · cases h

end

end Operand

/-- What the bytes of an operator as it is read are read back as is written with the same bytes. -/
theorem Operator.bytes_of_printedItems? {operator : Operator} (readable : operator.IsReadable)
    {read : List Operand} (h : Operand.printedItems? operator.operands = some read) :
    Operator.bytes ⟨operator.name, read⟩ = operator.bytes := by
  rcases readable with plain | ⟨entries, samples, rfl, -, -⟩
  · have written : Operator.bytes ⟨operator.name, read⟩
        = joinTexts 0x20 (Operand.itemBytes read ++ [Utf8.encode operator.name]) :=
      bytes_of_name_ne plain.name_ne
    rw [written, bytes_of_name_ne plain.name_ne, Operand.itemBytes_of_printedItems? h]
  · rw [Operand.printedItems?] at h
    split at h
    · next first following array_read literal_read =>
      obtain ⟨read_entries, entries_read, rfl⟩ := Option.map_eq_some_iff.1 array_read
      cases h
      cases literal_read
      show imageBytes read_entries samples = imageBytes entries samples
      rw [imageBytes, imageBytes, Operand.itemBytes_of_printedItems? entries_read]
    · cases h

/-! ## Inks -/

/-- A canonical component is written as zero, as 1, or with hundred-thousandths below 1. -/
theorem numberText_normalize (x : Single) :
    numberText (normalize x).toDouble = (Numeral.ofParts none 0 []).text ∨
      numberText (normalize x).toDouble = (Numeral.ofParts none 1 []).text ∨
      ∃ k, 2 ≤ k ∧ k < 100000 ∧
        numberText (normalize x).toDouble = (Numeral.ofParts none 0 (paddedDigits 5 k)).text := by
  obtain ⟨nonneg, rank⟩ := normalize_mem_unit x
  obtain ⟨nonneg, rank⟩ := toDouble_mem_unit nonneg rank
  set y := (normalize x).toDouble with y_eq
  have finite : y.isFinite = true := by
    rw [Binary.isFinite, decide_eq_true_eq]
    exact rank.trans_lt (of_decide_eq_true Double.one_near.finite)
  have above := Double.not_lt_zero_of_nonneg nonneg
  by_cases small : y < 0.000015
  · left
    unfold numberText
    rw [Binary.abs_of_nonneg nonneg, finite, Numeral.text_zero]
    simp only [Bool.not_true, Bool.false_eq_true, if_false, small, if_true]
  have text : numberText y = magnitudeText y := by
    unfold numberText
    rw [Binary.abs_of_nonneg nonneg, finite]
    simp only [Bool.not_true, Bool.false_eq_true, if_false, small, above]
  rw [text]
  by_cases below : y < 1
  · rcases Double.magnitudeText_of_lt_one nonneg finite small below with
      ⟨unit, -⟩ | ⟨k, lower, upper, places, -⟩
    · right; left
      rw [unit, Numeral.text_ofParts]
      rfl
    · right; right
      refine ⟨k, lower, upper, ?_⟩
      rw [places, Numeral.text_ofParts]
      rfl
  · right; left
    rw [Double.eq_one_of_not_lt nonneg rank below]
    decide +kernel

/-- Hundred-thousandths stay what they are when they pass through a single. -/
theorem numberText_normalize_round {k : ℕ} (lower : 2 ≤ k) (upper : k < 100000) :
    numberText (normalize (Double.toSingle (Binary.round false (k / 10 ^ 5)))).toDouble
      = (Numeral.ofParts none 0 (paddedDigits 5 k)).text := by
  have least : (2 : ℚ) ≤ k := by exact_mod_cast lower
  have most : (k : ℚ) ≤ 99999 := by exact_mod_cast Nat.le_of_lt_succ upper
  have read := Double.round_near (q := k / 10 ^ 5) (by positivity) (by norm_num; linarith)
  set number : Double := Binary.round false (k / 10 ^ 5) with number_eq
  have narrow : number.toSingle.Near (k / 10 ^ 5) (1 / 10 ^ 10 + 1 / 2 ^ 24) :=
    (read.convert (e := 1) (by norm_num; linarith)
      (FloatFormat.spans_of_le (by norm_num) (by norm_num)).1).mono (by norm_num [FloatFormat.single])
  -- It is already canonical.
  have canonical : normalize number.toSingle = number.toSingle := by
    have positive : 0 < number.toSingle := by
      rw [Binary.lt_iff Single.zero_near.finite narrow.finite, Single.zero_near.toRat_eq]
      exact lt_of_lt_of_le (by norm_num; linarith) narrow.le_toRat
    have unit : ¬1 < number.toSingle := by
      rw [Binary.lt_iff Single.one_near.finite narrow.finite, Single.one_near.toRat_eq, not_lt]
      exact narrow.toRat_le.trans (by norm_num; linarith)
    unfold normalize
    rw [if_pos positive, if_neg unit]
  have wide : number.toSingle.toDouble.Near (k / 10 ^ 5) (1 / 10 ^ 7) :=
    (narrow.convert (e := 1) (by norm_num; linarith)
      (FloatFormat.spans_of_le (by norm_num) (by norm_num)).2).mono (by norm_num [FloatFormat.double])
  obtain ⟨large, text⟩ := Double.magnitudeText_small wide lower upper
  rw [canonical, Numeral.text_ofParts]
  have above := Double.not_lt_zero_of_nonneg wide.nonneg
  unfold numberText
  rw [Binary.abs_of_nonneg wide.nonneg, wide.finite]
  simp only [Bool.not_true, Bool.false_eq_true, if_false, large, above]
  exact text

/-- The text of a canonical component is read back as a number that, narrowed to a single and made
canonical again, is written with the same text. -/
theorem numberText_normalize_again (x : Single) {operand : Operand} {number : Double}
    (read : Operand.ofPrinted? (normalize x).toDouble = some operand)
    (value : operand.number? = some number) :
    numberText (normalize number.toSingle).toDouble = numberText (normalize x).toDouble := by
  have denoted {whole : ℕ} {places : Bytes} (digits : ∀ b ∈ places, isDigit b = true)
      (text : numberText (normalize x).toDouble = (Numeral.ofParts none whole places).text) :
      (Numeral.ofParts none whole places).operand? = some operand := by
    rw [← read]
    exact (Operand.ofPrinted?_eq text (Numeral.written_ofParts whole (Or.inl rfl) digits)).symm
  rcases numberText_normalize x with zero | one | ⟨k, lower, upper, small⟩
  · cases Numeral.operand?_zero.symm.trans (denoted (by simp) zero)
    cases value
    rw [zero]
    decide +kernel
  · cases Numeral.operand?_one.symm.trans (denoted (by simp) one)
    cases value
    rw [one]
    decide +kernel
  · have places := denoted (fun _ => isDigit_of_mem_paddedDigits) small
    have length : (paddedDigits 5 k).length = 5 := length_paddedDigits (by norm_num) (by omega)
    have digits := digitsValue_paddedDigits 5 k
    have real : (Numeral.ofParts none 0 (paddedDigits 5 k)).operand? = _ :=
      Numeral.operand?_ofParts false length (k := k) (by omega) (by omega)
    cases real.symm.trans places
    cases value
    rw [small]
    exact numberText_normalize_round lower upper

/-! ## Operators -/

namespace Converter

variable (converter : Converter)

/-- Operands that are numbers are rounded to singles. -/
theorem numericOperands_of_numbers {name : String} {operands : List Operand} {numbers : List Double}
    (h : List.Forall₂ (fun operand number => operand.number? = some number) operands numbers) :
    Operator.numericOperands ⟨name, operands⟩ numbers.length = .ok (numbers.map Double.toSingle) := by
  unfold Operator.numericOperands
  simp only
  rw [if_pos h.length_eq]
  refine mapM_eq_ok.2 (List.forall₂_map_right_iff.2 (h.imp fun operand number value => ?_))
  rw [value]

/-- The device color that an operator sets is found. -/
theorem deviceColor?_of_setsDeviceColor {operator : Operator} {color : Color}
    (sets : operator.SetsDeviceColor color) : operator.deviceColor? = .ok (some color) := by
  cases sets with
  | @gray name level x named number =>
    have numbers : Operator.numericOperands ⟨name, [level]⟩ 1 = .ok [x.toSingle] :=
      numericOperands_of_numbers (.cons number .nil)
    unfold Operator.deviceColor?
    rcases named with rfl | rfl <;> simp only <;> rw [numbers] <;> rfl
  | @rgb name red green blue x y z named red_number green_number blue_number =>
    have numbers : Operator.numericOperands ⟨name, [red, green, blue]⟩ 3
        = .ok [x.toSingle, y.toSingle, z.toSingle] :=
      numericOperands_of_numbers (.cons red_number (.cons green_number (.cons blue_number .nil)))
    unfold Operator.deviceColor?
    rcases named with rfl | rfl <;> simp only <;> rw [numbers] <;> rfl
  | @cmyk name cyan magenta yellow black x y z w named cyan_number magenta_number yellow_number
      black_number =>
    have numbers : Operator.numericOperands ⟨name, [cyan, magenta, yellow, black]⟩ 4
        = .ok [x.toSingle, y.toSingle, z.toSingle, w.toSingle] :=
      numericOperands_of_numbers (.cons cyan_number (.cons magenta_number (.cons yellow_number
        (.cons black_number .nil))))
    unfold Operator.deviceColor?
    rcases named with rfl | rfl <;> simp only <;> rw [numbers] <;> rfl

/-- Where no device color is set, none is found. -/
theorem deviceColor?_of_convertedName? {operator : Operator}
    (named : convertedName? operator.name = none) : operator.deviceColor? = .ok none := by
  unfold Operator.deviceColor?
  split
  case h_7 => rfl
  all_goals
    next name_eq =>
    rw [name_eq] at named
    cases named

/-- The operator for inks paints what the operator in its place paints. -/
theorem ofOperator_deviceOperator (target : PaintTarget) :
    PaintTarget.ofOperator (deviceOperator .cmyk target) = target := by
  cases target <;> decide +kernel

/-- The line of an operator for inks as it is read back is the line that was written. -/
theorem operatorLine_inks {operator : Operator} {color : Color} {cyan magenta yellow black : Single}
    {operands : List Operand} (sets : operator.SetsDeviceColor color)
    (converted : converter.convert color = .cmyk cyan magenta yellow black)
    (read : List.Forall₂ (fun component operand =>
      Operand.ofPrinted? component.toDouble = some operand ∧ operand.InUnit)
      [cyan, magenta, yellow, black] operands) :
    converter.operatorLine ⟨deviceOperator .cmyk (.ofOperator operator.name), operands⟩
      = .ok (converter.colorLine color (.ofOperator operator.name)) := by
  obtain ⟨c, m, y, k, canonical⟩ := converter.convert_deviceColor sets
  rw [converted] at canonical
  cases canonical
  match operands, read with
  | [first, second, third, fourth], .cons ⟨cyan_read, cyan_number, cyan_value, _⟩
      (.cons ⟨magenta_read, magenta_number, magenta_value, _⟩
        (.cons ⟨yellow_read, yellow_number, yellow_value, _⟩
          (.cons ⟨black_read, black_number, black_value, _⟩ .nil))) =>
    set target := PaintTarget.ofOperator operator.name
    have named : deviceOperator .cmyk target = "k" ∨ deviceOperator .cmyk target = "K" := by
      cases target
      · exact Or.inr rfl
      · exact Or.inl rfl
    have found := deviceColor?_of_setsDeviceColor
      (.cmyk named cyan_value magenta_value yellow_value black_value)
    have line : converter.operatorLine ⟨deviceOperator .cmyk target, [first, second, third, fourth]⟩
        = .ok (converter.colorLine (.ofCmyk cyan_number.toSingle magenta_number.toSingle
            yellow_number.toSingle black_number.toSingle) target) := by
      unfold operatorLine
      rw [found, ok_bind]
      simp only
      rw [ofOperator_deviceOperator]
      rfl
    rw [line, colorLine, colorLine, converted]
    simp only [convert, Color.ofCmyk, Color.components?, Color.kind, colorOperatorBytes,
      List.flatMap_cons, List.flatMap_nil, numberText_normalize_again c cyan_read cyan_value,
      numberText_normalize_again m magenta_read magenta_value,
      numberText_normalize_again y yellow_read yellow_value,
      numberText_normalize_again k black_read black_value]

/-- The line of an operator is the line of what it is read back as. -/
theorem operatorLine_rewritten {operator read : Operator} {line : Bytes}
    (readable : operator.IsReadable) (h : converter.operatorLine operator = .ok line)
    (rewritten : converter.Rewritten operator read) : converter.operatorLine read = .ok line := by
  cases rewritten with
  | @deviceColor color name cyan magenta yellow black operands named sets converted read =>
    have line_eq : converter.colorLine color (.ofOperator operator.name) = line := by
      unfold operatorLine at h
      rw [deviceColor?_of_setsDeviceColor sets] at h
      exact Except.ok.inj h
    have name_eq : deviceOperator .cmyk (.ofOperator operator.name) = name :=
      Option.some.inj (sets.convertedName?.symm.trans named)
    rw [← line_eq, ← name_eq]
    exact converter.operatorLine_inks sets converted read
  | @other operands named read =>
    have found : Operator.deviceColor? ⟨operator.name, operands⟩ = .ok none :=
      deviceColor?_of_convertedName? named
    unfold operatorLine at h ⊢
    rw [deviceColor?_of_convertedName? named] at h
    rw [found, ← h, ok_bind, ok_bind]
    simp only
    rw [Operator.bytes_of_printedItems? readable read]

/-! ## Streams -/

/-- The lines of several operators are the lines of what they are read back as. -/
theorem mapM_operatorLine_rewritten {operators read : List Operator} {lines : List Bytes}
    (readable : ∀ operator ∈ operators, operator.IsReadable)
    (h : operators.mapM converter.operatorLine = .ok lines)
    (rewritten : List.Forall₂ converter.Rewritten operators read) :
    read.mapM converter.operatorLine = .ok lines := by
  rw [mapM_eq_ok] at h ⊢
  induction rewritten generalizing lines with
  | nil =>
    cases h
    exact .nil
  | cons first _ ih =>
    cases h with
    | cons line_ok lines_ok =>
      refine .cons ?_ (ih (fun other member => readable other (List.mem_cons_of_mem _ member))
        lines_ok)
      exact converter.operatorLine_rewritten (readable _ List.mem_cons_self) line_ok first

/-- A converted stream is converted to itself, and the components of its inks are read back, narrowed
to singles, made canonical and written as they stand there. -/
theorem convertContent_again (limit : ℕ) {content out : Bytes}
    (h : converter.convertContent limit content = .ok out)
    (moderate : ∀ operator ∈ (readOperators content).operators,
      ∀ x ∈ Operand.realsOfItems operator.operands, x.Moderate)
    (fits : out.length ≤ limit) :
    converter.convertContent limit out = .ok out ∧
      ∀ x : Single, ∃ operand number,
        Operand.ofPrinted? (normalize x).toDouble = some operand ∧
        operand.number? = some number ∧
        numberText (normalize number.toSingle).toDouble = numberText (normalize x).toDouble := by
  constructor
  · obtain ⟨lines, obeyed, same⟩ := bind_eq_ok.1 h
    obtain ⟨-, -, lines_ok⟩ := obeyOperators_eq_ok.1 obeyed
    cases same
    have readable : ∀ operator ∈ (readOperators content).operators, operator.IsReadable :=
      fun operator member => isReadable_of_mem_readOperators member
    obtain ⟨written, read, flat, lines_read, rewritten⟩ :=
      converter.lines_rewritten readable moderate (mapM_eq_ok.1 lines_ok)
    have transcript : readOperators lines.flatten = ⟨read, none⟩ := by
      rw [flat, readOperators_lines lines_read]
    refine bind_eq_ok.2 ⟨lines, obeyOperators_eq_ok.2 ⟨fits, ?_, ?_⟩, rfl⟩
    · rw [transcript]
    · rw [transcript]
      exact converter.mapM_operatorLine_rewritten readable lines_ok rewritten
  · intro x
    obtain ⟨operand, read, number, value, -⟩ := ofPrinted?_normalize x
    exact ⟨operand, number, read, value, numberText_normalize_again x read value⟩

theorem convertContent_again_blackInk :
    blackInk.convertContent 100 (Bytes.ofLatin "0.12346 1 0 0.5 k\n[-1.25 1234.57] TJ\n0 0 0 1 K\n")
      = .ok (Bytes.ofLatin "0.12346 1 0 0.5 k\n[-1.25 1234.57] TJ\n0 0 0 1 K\n") ∧
      ∀ x : Single, ∃ operand number,
        Operand.ofPrinted? (normalize x).toDouble = some operand ∧
        operand.number? = some number ∧
        numberText (normalize number.toSingle).toDouble = numberText (normalize x).toDouble :=
  have written : blackInk.convertContent 100
        (Bytes.ofLatin "0.123456 1.5 -1 .5 k [-1.2456 1234.567] TJ 0.3 G")
      = .ok (Bytes.ofLatin "0.12346 1 0 0.5 k\n[-1.25 1234.57] TJ\n0 0 0 1 K\n") := by
    decide +kernel
  blackInk.convertContent_again 100 written (by decide +kernel) (by decide +kernel)

end Converter

end Preflight

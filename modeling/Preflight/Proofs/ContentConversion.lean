import Mathlib
import Preflight.Conversion.Content
import Preflight.Proofs.PrintedOperators
import Preflight.Proofs.Success

/-!
# Conversion of content streams

A converted content stream has the operators of the original one, one for one. Those that set a
device color become the one for inks, with four numbers between 0 and 1, and all others keep their
names and operands up to the precision with which numbers are written.
-/

namespace Preflight

/-! ## Device colors -/

/-- The operator for inks in the place of an operator that sets a device color. -/
def convertedName? : String → Option String
  | "g" | "rg" | "k" => some "k"
  | "G" | "RG" | "K" => some "K"
  | _ => none

namespace Operator

/-- The device color that an operator sets, by its operands. -/
inductive SetsDeviceColor : Operator → Color → Prop where
  | gray {name : String} {level : Operand} {x : Double} (named : name = "g" ∨ name = "G")
      (number : level.number? = some x) : SetsDeviceColor ⟨name, [level]⟩ (.ofGray x.toSingle)
  | rgb {name : String} {red green blue : Operand} {x y z : Double}
      (named : name = "rg" ∨ name = "RG") (red_number : red.number? = some x)
      (green_number : green.number? = some y) (blue_number : blue.number? = some z) :
      SetsDeviceColor ⟨name, [red, green, blue]⟩ (.ofRgb x.toSingle y.toSingle z.toSingle)
  | cmyk {name : String} {cyan magenta yellow black : Operand} {x y z w : Double}
      (named : name = "k" ∨ name = "K") (cyan_number : cyan.number? = some x)
      (magenta_number : magenta.number? = some y) (yellow_number : yellow.number? = some z)
      (black_number : black.number? = some w) :
      SetsDeviceColor ⟨name, [cyan, magenta, yellow, black]⟩
        (.ofCmyk x.toSingle y.toSingle z.toSingle w.toSingle)

/-- Operands that are rounded to singles are as many numbers. -/
theorem numericOperands_eq_ok {operator : Operator} {count : ℕ} {values : List Single}
    (h : operator.numericOperands count = .ok values) :
    operator.operands.length = count ∧ List.Forall₂ (fun operand value =>
      ∃ x, operand.number? = some x ∧ x.toSingle = value) operator.operands values := by
  unfold numericOperands at h
  split at h
  · next count_eq =>
    refine ⟨count_eq, (mapM_eq_ok.1 h).imp fun operand value read => ?_⟩
    split at read
    · next x number => exact ⟨x, number, Except.ok.inj read⟩
    · cases read
  · cases h

/-- The operator that sets a device color is replaced by the one for inks. -/
theorem SetsDeviceColor.convertedName? {operator : Operator} {color : Color}
    (sets : operator.SetsDeviceColor color) :
    Preflight.convertedName? operator.name
      = some (deviceOperator .cmyk (.ofOperator operator.name)) := by
  have names : ∀ name ∈ ["g", "G", "rg", "RG", "k", "K"],
      Preflight.convertedName? name = some (deviceOperator .cmyk (.ofOperator name)) := by
    decide +kernel
  refine names operator.name ?_
  cases sets with
  | gray named => rcases named with rfl | rfl <;> simp
  | rgb named => rcases named with rfl | rfl <;> simp
  | cmyk named => rcases named with rfl | rfl <;> simp

/-- One number is the operand of an operator that sets a shade of gray. -/
theorem setsDeviceColor_gray {name : String} {operands : List Operand} {values : List Single}
    (named : name = "g" ∨ name = "G") (h : numericOperands ⟨name, operands⟩ 1 = .ok values) :
    ∃ level, values = [level] ∧ SetsDeviceColor ⟨name, operands⟩ (.ofGray level) := by
  obtain ⟨count, read⟩ := numericOperands_eq_ok h
  match operands, values, read, count with
  | [_], [_], .cons ⟨_, level, rfl⟩ .nil, _ => exact ⟨_, rfl, .gray named level⟩

/-- Three numbers are the operands of an operator that sets red, green and blue. -/
theorem setsDeviceColor_rgb {name : String} {operands : List Operand} {values : List Single}
    (named : name = "rg" ∨ name = "RG") (h : numericOperands ⟨name, operands⟩ 3 = .ok values) :
    ∃ red green blue, values = [red, green, blue] ∧
      SetsDeviceColor ⟨name, operands⟩ (.ofRgb red green blue) := by
  obtain ⟨count, read⟩ := numericOperands_eq_ok h
  match operands, values, read, count with
  | [_, _, _], [_, _, _], .cons ⟨_, red, rfl⟩ (.cons ⟨_, green, rfl⟩ (.cons ⟨_, blue, rfl⟩ .nil)), _ =>
    exact ⟨_, _, _, rfl, .rgb named red green blue⟩

/-- Four numbers are the operands of an operator that sets inks. -/
theorem setsDeviceColor_cmyk {name : String} {operands : List Operand} {values : List Single}
    (named : name = "k" ∨ name = "K") (h : numericOperands ⟨name, operands⟩ 4 = .ok values) :
    ∃ cyan magenta yellow black, values = [cyan, magenta, yellow, black] ∧
      SetsDeviceColor ⟨name, operands⟩ (.ofCmyk cyan magenta yellow black) := by
  obtain ⟨count, read⟩ := numericOperands_eq_ok h
  match operands, values, read, count with
  | [_, _, _, _], [_, _, _, _],
      .cons ⟨_, cyan, rfl⟩ (.cons ⟨_, magenta, rfl⟩ (.cons ⟨_, yellow, rfl⟩
        (.cons ⟨_, black, rfl⟩ .nil))), _ =>
    exact ⟨_, _, _, _, rfl, .cmyk named cyan magenta yellow black⟩

/-- What is found to be the device color of an operator is one, and nothing else sets one. -/
theorem deviceColor?_eq_ok {operator : Operator} {color? : Option Color}
    (h : operator.deviceColor? = .ok color?) :
    (∃ color, color? = some color ∧ operator.SetsDeviceColor color) ∨
      color? = none ∧ Preflight.convertedName? operator.name = none := by
  obtain ⟨name, operands⟩ := operator
  unfold deviceColor? at h
  simp only at h
  split at h
  · obtain ⟨values, read, same⟩ := bind_eq_ok.1 h
    obtain ⟨level, rfl, sets⟩ := setsDeviceColor_gray (Or.inl rfl) read
    cases same
    exact Or.inl ⟨_, rfl, sets⟩
  · obtain ⟨values, read, same⟩ := bind_eq_ok.1 h
    obtain ⟨level, rfl, sets⟩ := setsDeviceColor_gray (Or.inr rfl) read
    cases same
    exact Or.inl ⟨_, rfl, sets⟩
  · obtain ⟨values, read, same⟩ := bind_eq_ok.1 h
    obtain ⟨red, green, blue, rfl, sets⟩ := setsDeviceColor_rgb (Or.inl rfl) read
    cases same
    exact Or.inl ⟨_, rfl, sets⟩
  · obtain ⟨values, read, same⟩ := bind_eq_ok.1 h
    obtain ⟨red, green, blue, rfl, sets⟩ := setsDeviceColor_rgb (Or.inr rfl) read
    cases same
    exact Or.inl ⟨_, rfl, sets⟩
  · obtain ⟨values, read, same⟩ := bind_eq_ok.1 h
    obtain ⟨cyan, magenta, yellow, black, rfl, sets⟩ := setsDeviceColor_cmyk (Or.inl rfl) read
    cases same
    exact Or.inl ⟨_, rfl, sets⟩
  · obtain ⟨values, read, same⟩ := bind_eq_ok.1 h
    obtain ⟨cyan, magenta, yellow, black, rfl, sets⟩ := setsDeviceColor_cmyk (Or.inr rfl) read
    cases same
    exact Or.inl ⟨_, rfl, sets⟩
  · next not_g not_G not_rg not_RG not_k not_K =>
    cases h
    refine Or.inr ⟨rfl, ?_⟩
    unfold Preflight.convertedName?
    split <;> simp_all

end Operator

/-! ## Components of inks -/

/-- A canonical component is not negative and at most 1. -/
theorem normalize_mem_unit (x : Single) :
    (normalize x).negative = false ∧ (normalize x).rank ≤ (1 : Single).rank := by
  unfold normalize
  split
  · next positive =>
    split
    · exact ⟨Single.one_near.nonneg, le_rfl⟩
    · next small =>
      have zero_rank : (0 : Single).rank = 0 := rfl
      have zero_sign := Single.zero_near.nonneg
      have one_sign := Single.one_near.nonneg
      have one_number := Binary.isNaN_of_isFinite Single.one_near.finite
      have above : Binary.lt 0 x = true := positive
      have below : ¬ Binary.lt 1 x = true := small
      simp only [Binary.lt, Binary.place, zero_rank, zero_sign, one_sign, one_number,
        Bool.and_eq_true, Bool.not_eq_true', decide_eq_true_eq] at above below
      obtain ⟨⟨-, number⟩, rank⟩ := above
      cases sign : x.negative with
      | true =>
        simp [sign] at rank
        omega
      | false =>
        simp [sign, number] at below
        exact ⟨rfl, below⟩
  · exact ⟨Single.zero_near.nonneg, Nat.zero_le _⟩

/-- A canonical component stays between 0 and 1 as a double. -/
theorem toDouble_mem_unit {x : Single} (nonneg : x.negative = false)
    (rank : x.rank ≤ (1 : Single).rank) :
    x.toDouble.negative = false ∧ x.toDouble.rank ≤ (1 : Double).rank := by
  have finite : x.isFinite = true := by
    rw [Binary.isFinite, decide_eq_true_eq]
    exact rank.trans_lt (of_decide_eq_true Single.one_near.finite)
  have lower := Binary.toRat_nonneg nonneg
  have upper : x.toRat ≤ 1 := by
    rw [← Single.one_near.toRat_eq, Binary.toRat_of_nonneg nonneg,
      Binary.toRat_of_nonneg Single.one_near.nonneg]
    exact FloatFormat.single.magnitude_strictMono.monotone rank
  rw [Single.toDouble, Binary.convert_eq_round nonneg finite]
  refine ⟨Binary.negative_round lower, ?_⟩
  rw [← Double.round_one, Binary.rank_round zero_le_one]
  exact Binary.rank_round_le lower upper

/-- A number operand between 0 and 1. -/
def Operand.InUnit (operand : Operand) : Prop :=
  ∃ number, operand.number? = some number ∧ 0 ≤ number ∧ number ≤ 1

/-- The text of a canonical component is read as a number between 0 and 1. -/
theorem ofPrinted?_normalize (x : Single) :
    ∃ operand, Operand.ofPrinted? (normalize x).toDouble = some operand ∧ operand.InUnit := by
  obtain ⟨nonneg, rank⟩ := normalize_mem_unit x
  obtain ⟨nonneg, rank⟩ := toDouble_mem_unit nonneg rank
  obtain ⟨n, text, written, operand, number, denoted, unit⟩ := numberText_mem_unit nonneg rank
  exact ⟨operand, by rw [Operand.ofPrinted?_eq text written, denoted], number, unit⟩

/-! ## Operators of a converted stream -/

namespace Converter

variable (converter : Converter)

/-- What the conversion of an operator is read back as: the operator for inks with the components of
the converted color, or the same operator with the numbers that its texts denote. -/
inductive Rewritten : Operator → Operator → Prop where
  | deviceColor {operator : Operator} {color : Color} {name : String}
      {cyan magenta yellow black : Single} {operands : List Operand}
      (named : convertedName? operator.name = some name) (sets : operator.SetsDeviceColor color)
      (converted : converter.convert color = .cmyk cyan magenta yellow black)
      (read : List.Forall₂ (fun component operand =>
        Operand.ofPrinted? component.toDouble = some operand ∧ operand.InUnit)
        [cyan, magenta, yellow, black] operands) :
      Rewritten operator ⟨name, operands⟩
  | other {operator : Operator} {operands : List Operand}
      (named : convertedName? operator.name = none)
      (read : Operand.printedItems? operator.operands = some operands) :
      Rewritten operator ⟨operator.name, operands⟩

/-- The inks of a device color are canonical. -/
theorem convert_deviceColor {operator : Operator} {color : Color}
    (sets : operator.SetsDeviceColor color) :
    ∃ cyan magenta yellow black, converter.convert color
      = .cmyk (normalize cyan) (normalize magenta) (normalize yellow) (normalize black) := by
  cases sets with
  | gray => exact ⟨_, _, _, _, rfl⟩
  | rgb => exact ⟨_, _, _, _, rfl⟩
  | cmyk => exact ⟨_, _, _, _, rfl⟩

/-- The line that sets a color is that of an operator with the components as operands. -/
theorem colorOperatorBytes_eq (components : List Single) {name : String} (h : name ≠ "BI") :
    colorOperatorBytes components name
      = Operator.bytes ⟨name, components.map fun component => .real component.toDouble⟩ ++ [0x0A] := by
  have join (texts : List Bytes) (last : Bytes) :
      joinTexts 0x20 (texts ++ [last]) = texts.flatMap (· ++ [0x20]) ++ last := by
    rw [joinTexts_eq_tail]
    induction texts with
    | nil => simp
    | cons text texts ih => cases texts <;> simp_all
  have items : Operand.itemBytes (components.map fun component => .real component.toDouble)
      = components.map fun component => numberText component.toDouble := by
    induction components with
    | nil => rfl
    | cons component components ih => rw [List.map_cons, Operand.itemBytes, ih]; rfl
  rw [Operator.bytes_of_name_ne h, join, items, List.flatMap_map]
  rfl

theorem isKeyword_of_convertedName? {name other : String} (h : convertedName? name = some other) :
    IsKeyword other ∧ other ≠ "BI" := by
  have fill : IsKeyword "k" := ⟨⟨0x6B, [], rfl, rfl, by simp⟩, by decide⟩
  have stroke : IsKeyword "K" := ⟨⟨0x4B, [], rfl, rfl, by simp⟩, by decide⟩
  unfold convertedName? at h
  split at h
  case h_7 => cases h
  all_goals
    cases h
    first
    | exact ⟨fill, by decide⟩
    | exact ⟨stroke, by decide⟩

/-- A line that sets a color is that of an operator that is read back with canonical inks. -/
theorem colorLine_rewritten {operator : Operator} {color : Color}
    (sets : operator.SetsDeviceColor color) :
    ∃ written printed : Operator,
      converter.colorLine color (.ofOperator operator.name) = written.bytes ++ [0x0A] ∧
      written.IsReadable ∧ written.printed? = some printed ∧
      converter.Rewritten operator printed := by
  obtain ⟨cyan, magenta, yellow, black, converted⟩ := converter.convert_deviceColor sets
  obtain ⟨cyan_operand, cyan_read, cyan_unit⟩ := ofPrinted?_normalize cyan
  obtain ⟨magenta_operand, magenta_read, magenta_unit⟩ := ofPrinted?_normalize magenta
  obtain ⟨yellow_operand, yellow_read, yellow_unit⟩ := ofPrinted?_normalize yellow
  obtain ⟨black_operand, black_read, black_unit⟩ := ofPrinted?_normalize black
  obtain ⟨keyword, other⟩ := isKeyword_of_convertedName? sets.convertedName?
  set components := [normalize cyan, normalize magenta, normalize yellow, normalize black]
    with components_eq
  refine ⟨⟨deviceOperator .cmyk (.ofOperator operator.name),
      components.map fun component => .real component.toDouble⟩,
    ⟨deviceOperator .cmyk (.ofOperator operator.name),
      [cyan_operand, magenta_operand, yellow_operand, black_operand]⟩, ?_, ?_, ?_, ?_⟩
  · rw [colorLine, converted]
    exact colorOperatorBytes_eq components other
  · refine Or.inl ⟨keyword, other, ?_⟩
    simp [components_eq, Operand.depth]
  · simp [Operator.printed?, components_eq, Operand.printedItems?, Operand.printed?, cyan_read,
      magenta_read, yellow_read, black_read]
  · exact .deviceColor sets.convertedName? sets converted
      (.cons ⟨cyan_read, cyan_unit⟩ (.cons ⟨magenta_read, magenta_unit⟩
        (.cons ⟨yellow_read, yellow_unit⟩ (.cons ⟨black_read, black_unit⟩ .nil))))

/-- The line of an operator is that of an operator that is read back as the rewritten one. -/
theorem operatorLine_eq_ok {operator : Operator} {line : Bytes} (readable : operator.IsReadable)
    (moderate : ∀ x ∈ Operand.realsOfItems operator.operands, x.Moderate)
    (h : converter.operatorLine operator = .ok line) :
    ∃ written printed : Operator, line = written.bytes ++ [0x0A] ∧ written.IsReadable ∧
      written.printed? = some printed ∧ converter.Rewritten operator printed := by
  obtain ⟨color?, found, same⟩ := bind_eq_ok.1 h
  rcases Operator.deviceColor?_eq_ok found with ⟨color, rfl, sets⟩ | ⟨rfl, named⟩
  · cases same
    exact converter.colorLine_rewritten sets
  · cases same
    obtain ⟨operands, read⟩ :=
      Option.isSome_iff_exists.1 (Operand.isSome_printedItems? operator.operands moderate)
    exact ⟨operator, ⟨operator.name, operands⟩, rfl, readable,
      by rw [Operator.printed?, read]; rfl, .other named read⟩

/-- The lines of several operators are those of operators that are read back as the rewritten
ones. -/
theorem lines_rewritten {operators : List Operator} {lines : List Bytes}
    (readable : ∀ operator ∈ operators, operator.IsReadable)
    (moderate : ∀ operator ∈ operators,
      ∀ x ∈ Operand.realsOfItems operator.operands, x.Moderate)
    (h : List.Forall₂ (fun operator line => converter.operatorLine operator = .ok line)
      operators lines) :
    ∃ written printed : List Operator,
      lines.flatten = written.flatMap (fun operator => operator.bytes ++ [0x0A]) ∧
      List.Forall₂ (fun operator printed => operator.IsReadable ∧ operator.printed? = some printed)
        written printed ∧
      List.Forall₂ converter.Rewritten operators printed := by
  induction h with
  | nil => exact ⟨[], [], rfl, .nil, .nil⟩
  | @cons operator line operators lines line_ok _ ih =>
    obtain ⟨first, first_printed, rfl, first_readable, first_read, first_rewritten⟩ :=
      converter.operatorLine_eq_ok (readable operator List.mem_cons_self)
        (moderate operator List.mem_cons_self) line_ok
    obtain ⟨written, printed, flat, read, rewritten⟩ :=
      ih (fun other member => readable other (List.mem_cons_of_mem _ member))
        (fun other member => moderate other (List.mem_cons_of_mem _ member))
    refine ⟨first :: written, first_printed :: printed, ?_, .cons ⟨first_readable, first_read⟩ read,
      .cons first_rewritten rewritten⟩
    rw [List.flatten_cons, flat, List.flatMap_cons]

/-! ## Converted streams -/

/-- A converted stream has the operators of the original one, each rewritten. -/
theorem tokenize_convertContent (limit : ℕ) {content out : Bytes}
    (h : converter.convertContent limit content = .ok out)
    (moderate : ∀ operator ∈ (readOperators content).operators,
      ∀ x ∈ Operand.realsOfItems operator.operands, x.Moderate) :
    ∃ operators rewritten, tokenize content = .ok operators ∧ tokenize out = .ok rewritten ∧
      List.Forall₂ converter.Rewritten operators rewritten := by
  obtain ⟨lines, obeyed, same⟩ := bind_eq_ok.1 h
  obtain ⟨-, stop, lines_ok⟩ := obeyOperators_eq_ok.1 obeyed
  cases same
  have readable : ∀ operator ∈ (readOperators content).operators, operator.IsReadable :=
    fun operator member => isReadable_of_mem_readOperators member
  have tokens : tokenize content = .ok (readOperators content).operators := by
    rw [tokenize, stop]
  obtain ⟨written, printed, flat, read, rewritten⟩ :=
    converter.lines_rewritten readable moderate (mapM_eq_ok.1 lines_ok)
  have tokens_out : tokenize lines.flatten = .ok printed := by
    rw [tokenize, flat, readOperators_lines read]
  exact ⟨_, printed, tokens, tokens_out, rewritten⟩

/-- The conversion of every gray and RGB color to full black. -/
def blackInk : Converter := ⟨⟨"Black", fun _ => ⟨0, 0, 0, 1⟩, fun _ => ⟨0, 0, 0⟩⟩⟩

theorem tokenize_convertContent_blackInk : ∃ operators rewritten,
    tokenize (Bytes.ofLatin "0.5 g [1.25 (a\\)) /Q#20R <</K true>>] TJ BI /W 1 ID xEI\nEI q")
      = .ok operators ∧
    tokenize (Bytes.ofLatin
        "0 0 0 1 k\n[1.25 (a\\)) /Q#20R <</K true>>] TJ\nBI /W 1 ID xEI\nEI\nq\n")
      = .ok rewritten ∧
    List.Forall₂ blackInk.Rewritten operators rewritten :=
  blackInk.tokenize_convertContent 100 (by decide +kernel) (by decide +kernel)

end Converter

end Preflight

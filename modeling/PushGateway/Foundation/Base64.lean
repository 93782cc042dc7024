import Mathlib.Data.UInt

/-!
# Base64

Three bytes are written as four digits of six bits.  A short last group is padded to four symbols,
and the bits of its last digit which stand for no byte are zero.  Reading is strict: a text is read
exactly if it is the one which writing its bytes gives.
-/

/-- The digits of a base64 alphabet, and the symbol which pads the last group. -/
structure Base64 (Symbol : Type) where
  digit : Fin 64 → Symbol
  pad : Symbol
  distinct : Function.Injective digit
  pad_fresh : ∀ value, digit value ≠ pad

namespace Base64

variable {Symbol : Type} (base : Base64 Symbol)

/-! ## Writing -/

/-- The digit for the low six bits of a number. -/
def digitOf (number : Nat) : Symbol := base.digit (Fin.ofNat 64 number)

/-- Write bytes, three at a time. -/
def encode : List UInt8 → List Symbol
  | [] => []
  | [first] =>
      [base.digitOf (first.toNat / 4), base.digitOf (first.toNat % 4 * 16), base.pad, base.pad]
  | [first, second] =>
      [base.digitOf (first.toNat / 4),
        base.digitOf (first.toNat % 4 * 16 + second.toNat / 16),
        base.digitOf (second.toNat % 16 * 4), base.pad]
  | first :: second :: third :: rest =>
      base.digitOf (first.toNat / 4) ::
        base.digitOf (first.toNat % 4 * 16 + second.toNat / 16) ::
        base.digitOf (second.toNat % 16 * 4 + third.toNat / 64) ::
        base.digitOf (third.toNat % 64) :: encode rest

/-! ## Reading -/

variable [DecidableEq Symbol]

/-- The value of a digit. -/
def valueOf (symbol : Symbol) : Option (Fin 64) :=
  (List.finRange 64).find? fun value => base.digit value = symbol

/-- A group of four digits. -/
def decodeGroup (first second third fourth : Symbol) : Option (List UInt8) := do
  let first ← base.valueOf first
  let second ← base.valueOf second
  let third ← base.valueOf third
  let fourth ← base.valueOf fourth
  return [UInt8.ofNat (first * 4 + second / 16), UInt8.ofNat (second % 16 * 16 + third / 4),
    UInt8.ofNat (third % 4 * 64 + fourth)]

/-- A group of three digits, whose last two bits are zero. -/
def decodePair (first second third : Symbol) : Option (List UInt8) := do
  let first ← base.valueOf first
  let second ← base.valueOf second
  let third ← base.valueOf third
  if third.val % 4 = 0 then
    return [UInt8.ofNat (first * 4 + second / 16), UInt8.ofNat (second % 16 * 16 + third / 4)]
  else none

/-- A group of two digits, whose last four bits are zero. -/
def decodeSingle (first second : Symbol) : Option (List UInt8) := do
  let first ← base.valueOf first
  let second ← base.valueOf second
  if second.val % 16 = 0 then return [UInt8.ofNat (first * 4 + second / 16)] else none

/-- The last group, which may be padded. -/
def decodeLast (first second third fourth : Symbol) : Option (List UInt8) :=
  if fourth = base.pad then
    if third = base.pad then base.decodeSingle first second
    else base.decodePair first second third
  else base.decodeGroup first second third fourth

/-- Read a text, four symbols at a time. -/
def decode : List Symbol → Option (List UInt8)
  | [] => some []
  | [first, second, third, fourth] => base.decodeLast first second third fourth
  | first :: second :: third :: fourth :: rest => do
      return (← base.decodeGroup first second third fourth) ++ (← decode rest)
  | _ => none

/-! ## Digits -/

theorem valueOf_eq_some_iff (symbol : Symbol) (value : Fin 64) :
    base.valueOf symbol = some value ↔ symbol = base.digit value := by
  constructor
  · intro found
    have matched := List.find?_some found
    exact (of_decide_eq_true matched).symm
  · rintro rfl
    cases found : base.valueOf (base.digit value) with
    | none =>
        have unlike := List.find?_eq_none.mp found value (List.mem_finRange value)
        simp at unlike
    | some other =>
        have matched := List.find?_some found
        rw [base.distinct (of_decide_eq_true matched)]

@[simp] theorem valueOf_digitOf (number : Nat) :
    base.valueOf (base.digitOf number) = some (Fin.ofNat 64 number) :=
  (base.valueOf_eq_some_iff _ _).mpr rfl

omit [DecidableEq Symbol] in
theorem digitOf_eq_digit {number : Nat} {value : Fin 64} (same : number % 64 = value.val) :
    base.digitOf number = base.digit value := by
  rw [digitOf]
  exact congrArg base.digit (Fin.ext same)

omit [DecidableEq Symbol] in
theorem digitOf_ne_pad (number : Nat) : base.digitOf number ≠ base.pad := base.pad_fresh _

theorem ofNat_eq {number : Nat} {byte : UInt8} (same : number % 256 = byte.toNat) :
    UInt8.ofNat number = byte :=
  UInt8.toNat_inj.mp (by simpa using same)

/-! ## What was written is read -/

theorem decodeGroup_encode (first second third : UInt8) :
    base.decodeGroup (base.digitOf (first.toNat / 4))
      (base.digitOf (first.toNat % 4 * 16 + second.toNat / 16))
      (base.digitOf (second.toNat % 16 * 4 + third.toNat / 64))
      (base.digitOf (third.toNat % 64)) = some [first, second, third] := by
  have first_lt := first.toNat_lt
  have second_lt := second.toNat_lt
  have third_lt := third.toNat_lt
  simp only [decodeGroup, valueOf_digitOf, Option.bind_eq_bind, Option.bind_some, Option.pure_def,
    Option.some.injEq, List.cons.injEq, and_true, Fin.val_ofNat]
  refine ⟨ofNat_eq ?_, ofNat_eq ?_, ofNat_eq ?_⟩
  · omega
  · omega
  · omega

theorem decodePair_encode (first second : UInt8) :
    base.decodePair (base.digitOf (first.toNat / 4))
      (base.digitOf (first.toNat % 4 * 16 + second.toNat / 16))
      (base.digitOf (second.toNat % 16 * 4)) = some [first, second] := by
  have first_lt := first.toNat_lt
  have second_lt := second.toNat_lt
  have unused : second.toNat % 16 * 4 % 64 % 4 = 0 := by omega
  simp only [decodePair, valueOf_digitOf, Option.bind_eq_bind, Option.bind_some, Option.pure_def,
    Fin.val_ofNat, unused, if_true, Option.some.injEq, List.cons.injEq, and_true]
  refine ⟨ofNat_eq ?_, ofNat_eq ?_⟩
  · omega
  · omega

theorem decodeSingle_encode (first : UInt8) :
    base.decodeSingle (base.digitOf (first.toNat / 4)) (base.digitOf (first.toNat % 4 * 16)) =
      some [first] := by
  have first_lt := first.toNat_lt
  have unused : first.toNat % 4 * 16 % 64 % 16 = 0 := by omega
  simp only [decodeSingle, valueOf_digitOf, Option.bind_eq_bind, Option.bind_some, Option.pure_def,
    Fin.val_ofNat, unused, if_true, Option.some.injEq, List.cons.injEq, and_true]
  exact ofNat_eq (by omega)

/-- A group which is not padded is read on its own, the last one too. -/
theorem decode_group (first second third : Symbol) {fourth : Symbol} (full : fourth ≠ base.pad)
    (rest : List Symbol) :
    base.decode (first :: second :: third :: fourth :: rest) =
      (base.decodeGroup first second third fourth).bind fun group =>
        (base.decode rest).map fun bytes => group ++ bytes := by
  cases rest with
  | nil =>
      have last : base.decode [first, second, third, fourth] =
          base.decodeGroup first second third fourth := if_neg full
      rw [last, decode]
      cases base.decodeGroup first second third fourth with
      | none => rfl
      | some group => simp
  | cons symbol rest =>
      rw [decode]
      · cases base.decodeGroup first second third fourth with
        | none => rfl
        | some group => cases base.decode (symbol :: rest) <;> rfl
      · simp

theorem decode_encode (bytes : List UInt8) : base.decode (base.encode bytes) = some bytes := by
  fun_induction encode base bytes with
  | case1 => rfl
  | case2 first =>
      rw [decode, decodeLast, if_pos rfl, if_pos rfl, decodeSingle_encode]
  | case3 first second =>
      rw [decode, decodeLast, if_pos rfl, if_neg (base.digitOf_ne_pad _), decodePair_encode]
  | case4 first second third rest induction =>
      rw [decode_group base _ _ _ (base.digitOf_ne_pad _), decodeGroup_encode, induction]
      rfl

/-! ## What is read was written -/

theorem encode_of_decodeGroup {first second third fourth : Symbol} {group : List UInt8}
    (read : base.decodeGroup first second third fourth = some group) (rest : List UInt8) :
    base.encode (group ++ rest) = first :: second :: third :: fourth :: base.encode rest := by
  simp only [decodeGroup, Option.bind_eq_bind, Option.bind_eq_some_iff, valueOf_eq_some_iff,
    Option.pure_def, Option.some.injEq] at read
  obtain ⟨first, rfl, second, rfl, third, rfl, fourth, rfl, rfl⟩ := read
  simp only [List.cons_append, List.nil_append, encode, UInt8.toNat_ofNat', List.cons.injEq,
    and_true]
  refine ⟨base.digitOf_eq_digit ?_, base.digitOf_eq_digit ?_, base.digitOf_eq_digit ?_,
    base.digitOf_eq_digit ?_⟩
  · omega
  · omega
  · omega
  · omega

theorem encode_of_decodePair {first second third : Symbol} {pair : List UInt8}
    (read : base.decodePair first second third = some pair) :
    base.encode pair = [first, second, third, base.pad] := by
  simp only [decodePair, Option.bind_eq_bind, Option.bind_eq_some_iff, valueOf_eq_some_iff] at read
  obtain ⟨first, rfl, second, rfl, third, rfl, read⟩ := read
  split at read
  · rename_i unused
    cases read
    simp only [encode, UInt8.toNat_ofNat', List.cons.injEq, and_true]
    refine ⟨base.digitOf_eq_digit ?_, base.digitOf_eq_digit ?_, base.digitOf_eq_digit ?_⟩
    · omega
    · omega
    · omega
  · cases read

theorem encode_of_decodeSingle {first second : Symbol} {single : List UInt8}
    (read : base.decodeSingle first second = some single) :
    base.encode single = [first, second, base.pad, base.pad] := by
  simp only [decodeSingle, Option.bind_eq_bind, Option.bind_eq_some_iff, valueOf_eq_some_iff]
    at read
  obtain ⟨first, rfl, second, rfl, read⟩ := read
  split at read
  · rename_i unused
    cases read
    simp only [encode, UInt8.toNat_ofNat', List.cons.injEq, and_true]
    exact ⟨base.digitOf_eq_digit (by omega), base.digitOf_eq_digit (by omega)⟩
  · cases read

theorem encode_of_decodeLast {first second third fourth : Symbol} {group : List UInt8}
    (read : base.decodeLast first second third fourth = some group) :
    base.encode group = [first, second, third, fourth] := by
  rw [decodeLast] at read
  split at read
  · rename_i padded
    rw [padded]
    split at read
    · rename_i padded_twice
      rw [padded_twice]
      exact base.encode_of_decodeSingle read
    · exact base.encode_of_decodePair read
  · simpa [encode] using base.encode_of_decodeGroup read []

theorem encode_of_decode {text : List Symbol} {bytes : List UInt8}
    (read : base.decode text = some bytes) : base.encode bytes = text := by
  fun_induction decode base text generalizing bytes with
  | case1 =>
      cases read
      rfl
  | case2 first second third fourth => exact base.encode_of_decodeLast read
  | case3 first second third fourth rest unfinished induction =>
      simp only [Option.bind_eq_bind, Option.bind_eq_some_iff, Option.pure_def,
        Option.some.injEq] at read
      obtain ⟨group, head, others, tail, rfl⟩ := read
      rw [base.encode_of_decodeGroup head, induction tail]
  | case4 => cases read

/-- Texts and bytes correspond one to one. -/
theorem decode_eq_some_iff (text : List Symbol) (bytes : List UInt8) :
    base.decode text = some bytes ↔ text = base.encode bytes := by
  constructor
  · exact fun read => (base.encode_of_decode read).symm
  · rintro rfl
    exact base.decode_encode bytes

/-! ## Without padding -/

/-- Write bytes without the padding. -/
def encodeNoPad (bytes : List UInt8) : List Symbol :=
  (base.encode bytes).filter (· ≠ base.pad)

/-- Read a text which is not padded. -/
def decodeNoPad (text : List Symbol) : Option (List UInt8) :=
  if base.pad ∈ text then none
  else base.decode (text ++ List.replicate ((4 - text.length % 4) % 4) base.pad)

theorem digit_of_mem_encodeNoPad {bytes : List UInt8} {symbol : Symbol}
    (member : symbol ∈ base.encodeNoPad bytes) : ∃ value, symbol = base.digit value := by
  obtain ⟨written, digit⟩ := List.mem_filter.mp member
  have digit : symbol ≠ base.pad := of_decide_eq_true digit
  fun_induction encode base bytes with
  | case1 => cases written
  | case2 first =>
      simp only [List.mem_cons, List.not_mem_nil, or_false, digit] at written
      obtain rfl | rfl := written
      · exact ⟨_, rfl⟩
      · exact ⟨_, rfl⟩
  | case3 first second =>
      simp only [List.mem_cons, List.not_mem_nil, or_false, digit] at written
      obtain rfl | rfl | rfl := written
      · exact ⟨_, rfl⟩
      · exact ⟨_, rfl⟩
      · exact ⟨_, rfl⟩
  | case4 first second third rest induction =>
      simp only [List.mem_cons] at written
      obtain rfl | rfl | rfl | rfl | written := written
      · exact ⟨_, rfl⟩
      · exact ⟨_, rfl⟩
      · exact ⟨_, rfl⟩
      · exact ⟨_, rfl⟩
      · exact induction (List.mem_filter.mpr ⟨written, by simpa using digit⟩) written

theorem encodeNoPad_append (bytes : List UInt8) :
    base.encodeNoPad bytes ++
      List.replicate ((4 - (base.encodeNoPad bytes).length % 4) % 4) base.pad =
        base.encode bytes := by
  fun_induction encode base bytes with
  | case1 => simp [encodeNoPad, encode]
  | case2 first => simp [encodeNoPad, encode, base.digitOf_ne_pad, List.replicate]
  | case3 first second => simp [encodeNoPad, encode, base.digitOf_ne_pad]
  | case4 first second third rest induction =>
      have written : base.encodeNoPad (first :: second :: third :: rest) =
          base.digitOf (first.toNat / 4) ::
            base.digitOf (first.toNat % 4 * 16 + second.toNat / 16) ::
            base.digitOf (second.toNat % 16 * 4 + third.toNat / 64) ::
            base.digitOf (third.toNat % 64) :: base.encodeNoPad rest := by
        simp [encodeNoPad, encode, base.digitOf_ne_pad]
      have missing : (base.encodeNoPad (first :: second :: third :: rest)).length % 4 =
          (base.encodeNoPad rest).length % 4 := by
        rw [written]
        simp only [List.length_cons]
        omega
      rw [missing, written]
      simp only [List.cons_append, induction]

theorem decodeNoPad_encodeNoPad (bytes : List UInt8) :
    base.decodeNoPad (base.encodeNoPad bytes) = some bytes := by
  have unpadded : base.pad ∉ base.encodeNoPad bytes := by
    intro padded
    obtain ⟨value, same⟩ := base.digit_of_mem_encodeNoPad padded
    exact base.pad_fresh value same.symm
  rw [decodeNoPad, if_neg unpadded, encodeNoPad_append, decode_encode]

/-! ## The alphabets -/

/-- Upper case, lower case, digits, and two more. -/
def standardDigit (value : Fin 64) : Char :=
  if value.val < 26 then Char.ofNat ('A'.toNat + value)
  else if value.val < 52 then Char.ofNat ('a'.toNat + (value - 26))
  else if value.val < 62 then Char.ofNat ('0'.toNat + (value - 52))
  else if value = 62 then '+'
  else '/'

/-- The standard alphabet, padded. -/
def standard : Base64 Char where
  digit := standardDigit
  pad := '='
  distinct := by decide
  pad_fresh := by decide

/-- The two last digits are others in a URL. -/
def urlSafeDigit (value : Fin 64) : Char :=
  if value = 62 then '-' else if value = 63 then '_' else standardDigit value

/-- The alphabet for URLs and file names. -/
def urlSafe : Base64 Char where
  digit := urlSafeDigit
  pad := '='
  distinct := by decide
  pad_fresh := by decide

/-- What is written in it has no character which separates anything. -/
theorem not_mem_urlSafe_encodeNoPad (bytes : List UInt8) {char : Char}
    (separates : char ∈ ['.', '&', '=', '%', '+', ',', ' ']) :
    char ∉ urlSafe.encodeNoPad bytes := by
  intro member
  obtain ⟨value, rfl⟩ := urlSafe.digit_of_mem_encodeNoPad member
  have none_separates : ∀ value, urlSafeDigit value ∉ ['.', '&', '=', '%', '+', ',', ' '] := by
    decide
  exact none_separates value separates

end Base64

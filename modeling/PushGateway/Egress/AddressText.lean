import Mathlib.Data.List.TakeWhile

/-!
# Textual addresses

What `str::parse::<IpAddr>()` accepts.  Each reader takes the characters left and returns those
left after it, or nothing; a reader which fails consumes nothing.
-/

namespace PushGateway.AddressText

/-- The value of `to_digit(radix)`, for decimal and hexadecimal digits. -/
def toDigit (radix : Nat) (char : Char) : Option Nat :=
  let value :=
    if char.isDigit then char.toNat - '0'.toNat
    else if 'a' ≤ char ∧ char ≤ 'f' then char.toNat - 'a'.toNat + 10
    else if 'A' ≤ char ∧ char ≤ 'F' then char.toNat - 'A'.toNat + 10
    else radix
  if value < radix then some value else none

def readGivenChar (expected : Char) : List Char → Option (List Char)
  | [] => none
  | char :: rest => if char = expected then some rest else none

/-- A separator before every item but the first. -/
def readSeparator (separator : Char) (index : Nat) (inner : List Char → Option (List Char))
    (text : List Char) : Option (List Char) :=
  if index = 0 then inner text else (readGivenChar separator text).bind inner

/-- At most `maxDigits` digits whose value fits below `bound`. -/
def readNumber (radix maxDigits bound : Nat) (allowZeroPrefix : Bool) (text : List Char) :
    Option (List Char) :=
  let isRadixDigit char := (toDigit radix char).isSome
  let digits := text.takeWhile isRadixDigit
  let value := (digits.filterMap (toDigit radix)).foldl (fun total digit => total * radix + digit) 0
  if maxDigits < digits.length ∨ digits.length = 0 then none
  else if ¬allowZeroPrefix ∧ text.head? = some '0' ∧ 1 < digits.length then none
  else if value < bound then some (text.dropWhile isRadixDigit) else none

/-- One decimal octet. -/
def readOctet (index : Nat) : List Char → Option (List Char) :=
  readSeparator '.' index (readNumber 10 3 256 false)

def readIpv4Addr (text : List Char) : Option (List Char) :=
  (readOctet 0 text).bind fun text =>
    (readOctet 1 text).bind fun text =>
      (readOctet 2 text).bind (readOctet 3)

/-- The groups from `limit - remaining` on: how many there are in all, and whether they end with an
embedded IPv4 address. -/
def readGroups (limit : Nat) : Nat → List Char → (Nat × Bool) × List Char
  | 0, text => ((limit, false), text)
  | remaining + 1, text =>
      let index := limit - (remaining + 1)
      let embedded := if 0 < remaining then readSeparator ':' index readIpv4Addr text else none
      match embedded with
      | some rest => ((index + 2, true), rest)
      | none =>
          match readSeparator ':' index (readNumber 16 4 65536 true) text with
          | some rest => readGroups limit remaining rest
          | none => ((index, false), text)

def readIpv6Addr (text : List Char) : Option (List Char) :=
  let ((headSize, headIpv4), rest) := readGroups 8 8 text
  if headSize = 8 then some rest
  else if headIpv4 then none
  else
    ((readGivenChar ':' rest).bind (readGivenChar ':')).map fun rest =>
      let limit := 8 - (headSize + 1)
      (readGroups limit limit rest).2

/-- `parse::<IpAddr>().is_ok()`. -/
def isIpAddr (text : String) : Bool :=
  match readIpv4Addr text.toList with
  | some rest => rest.isEmpty
  | none =>
      match readIpv6Addr text.toList with
      | some rest => rest.isEmpty
      | none => false

/-! ## The shape of what is accepted -/

theorem readGivenChar_eq_some {expected : Char} {text rest : List Char}
    (read : readGivenChar expected text = some rest) : text = expected :: rest := by
  cases text with
  | nil => cases read
  | cons char tail =>
      rw [readGivenChar] at read
      split at read
      · cases read
        subst expected
        rfl
      · cases read

theorem readSeparator_eq_some {separator : Char} {index : Nat}
    {inner : List Char → Option (List Char)} {text rest : List Char} (later : index ≠ 0)
    (read : readSeparator separator index inner text = some rest) :
    ∃ tail, text = separator :: tail ∧ inner tail = some rest := by
  rw [readSeparator, if_neg later, Option.bind_eq_some_iff] at read
  obtain ⟨tail, given, item⟩ := read
  exact ⟨tail, readGivenChar_eq_some given, item⟩

theorem isDigit_of_toDigit {char : Char} (digit : (toDigit 10 char).isSome) : char.isDigit := by
  by_contra not_digit
  have large : toDigit 10 char = none := by
    simp only [toDigit, not_digit, if_false]
    rw [if_neg]
    split
    · omega
    · split <;> omega
  rw [large] at digit
  cases digit

theorem readNumber_eq_some {radix maxDigits bound : Nat} {allowZeroPrefix : Bool}
    {text rest : List Char}
    (read : readNumber radix maxDigits bound allowZeroPrefix text = some rest) :
    ∃ digits, digits ≠ [] ∧ (∀ char ∈ digits, (toDigit radix char).isSome) ∧
      text = digits ++ rest := by
  simp only [readNumber] at read
  split at read
  · cases read
  · rename_i counted
    split at read
    · cases read
    · split at read
      · cases read
        refine ⟨_, ?_, fun char taken => ?_, List.takeWhile_append_dropWhile.symm⟩
        · intro empty
          simp [empty] at counted
        · exact List.mem_takeWhile_imp (p := fun char => (toDigit radix char).isSome) taken
      · cases read

/-- A dotted-decimal address ends with a label of digits. -/
theorem readIpv4Addr_eq_some {text rest : List Char} (read : readIpv4Addr text = some rest) :
    ∃ front last, last ≠ [] ∧ (∀ char ∈ last, char.isDigit) ∧
      text = front ++ '.' :: (last ++ rest) := by
  simp only [readIpv4Addr, Option.bind_eq_some_iff, readOctet] at read
  obtain ⟨text1, read0, text2, read1, text3, read2, read3⟩ := read
  obtain ⟨octet0, -, -, rfl⟩ := readNumber_eq_some read0
  obtain ⟨text1, rfl, read1⟩ := readSeparator_eq_some (by decide) read1
  obtain ⟨octet1, -, -, rfl⟩ := readNumber_eq_some read1
  obtain ⟨text2, rfl, read2⟩ := readSeparator_eq_some (by decide) read2
  obtain ⟨octet2, -, -, rfl⟩ := readNumber_eq_some read2
  obtain ⟨text3, rfl, read3⟩ := readSeparator_eq_some (by decide) read3
  obtain ⟨octet3, nonempty, digits, rfl⟩ := readNumber_eq_some read3
  refine ⟨octet0 ++ '.' :: (octet1 ++ '.' :: octet2), octet3, nonempty,
    fun char listed => isDigit_of_toDigit (digits char listed), ?_⟩
  simp

/-- Groups past the first are separated by colons, and an embedded address counts for two. -/
theorem colon_mem_of_readGroups {limit remaining size : Nat} {embedded : Bool}
    {text rest : List Char} (read : readGroups limit remaining text = ((size, embedded), rest))
    (fits : remaining ≤ limit) (many : max 2 (limit - remaining) < size) : ':' ∈ text := by
  induction remaining generalizing text with
  | zero =>
      cases read
      omega
  | succ remaining ih =>
      rw [readGroups] at read
      by_cases first : limit - (remaining + 1) = 0
      · -- At the first group nothing separates: the colon comes later.
        split at read
        · cases read
          omega
        · split at read
          · rename_i tail item
            rw [readSeparator, if_pos first] at item
            obtain ⟨digits, -, -, rfl⟩ := readNumber_eq_some item
            have later := ih read (by omega) (by omega)
            exact List.mem_append_right digits later
          · cases read
            omega
      · split at read
        · rename_i tail item
          split at item
          · obtain ⟨after, rfl, -⟩ := readSeparator_eq_some first item
            exact List.mem_cons_self
          · cases item
        · split at read
          · rename_i tail item
            obtain ⟨after, rfl, -⟩ := readSeparator_eq_some first item
            exact List.mem_cons_self
          · cases read
            omega

theorem readSeparator_suffix {separator : Char} {index : Nat}
    {inner : List Char → Option (List Char)} {text rest : List Char}
    (shortens : ∀ {text rest}, inner text = some rest → rest <:+ text)
    (read : readSeparator separator index inner text = some rest) : rest <:+ text := by
  by_cases first : index = 0
  · rw [readSeparator, if_pos first] at read
    exact shortens read
  · obtain ⟨tail, rfl, item⟩ := readSeparator_eq_some first read
    exact (shortens item).trans (List.suffix_cons separator tail)

theorem readIpv4Addr_suffix {text rest : List Char} (read : readIpv4Addr text = some rest) :
    rest <:+ text := by
  obtain ⟨front, last, -, -, rfl⟩ := readIpv4Addr_eq_some read
  exact ⟨front ++ '.' :: last, by simp⟩

theorem readNumber_suffix {radix maxDigits bound : Nat} {allowZeroPrefix : Bool}
    {text rest : List Char}
    (read : readNumber radix maxDigits bound allowZeroPrefix text = some rest) :
    rest <:+ text := by
  obtain ⟨digits, -, -, rfl⟩ := readNumber_eq_some read
  exact List.suffix_append digits rest

theorem readGroups_suffix (limit remaining : Nat) (text : List Char) :
    (readGroups limit remaining text).2 <:+ text := by
  induction remaining generalizing text with
  | zero => exact List.suffix_rfl
  | succ remaining ih =>
      rw [readGroups]
      split
      · rename_i rest item
        split at item
        · exact readSeparator_suffix readIpv4Addr_suffix item
        · cases item
      · split
        · rename_i rest item
          exact (ih rest).trans (readSeparator_suffix readNumber_suffix item)
        · exact List.suffix_rfl

theorem colon_mem_of_readIpv6Addr {text rest : List Char} (read : readIpv6Addr text = some rest) :
    ':' ∈ text := by
  have shortened := readGroups_suffix 8 8 text
  rcases head : readGroups 8 8 text with ⟨⟨headSize, headIpv4⟩, left⟩
  rw [head] at shortened
  simp only [readIpv6Addr, head] at read
  split at read
  · rename_i complete
    exact colon_mem_of_readGroups head (by decide) (by simp [complete])
  · split at read
    · cases read
    · -- The double colon stands right after the groups of the head.
      simp only [Option.map_eq_some_iff, Option.bind_eq_some_iff] at read
      obtain ⟨after, ⟨tail, colon, -⟩, -⟩ := read
      rw [readGivenChar_eq_some colon] at shortened
      exact shortened.subset List.mem_cons_self

/-- A textual address has a colon or ends with a label of digits. -/
theorem shape_of_isIpAddr {text : String} (address : isIpAddr text) :
    ':' ∈ text.toList ∨ ∃ front last, last ≠ [] ∧ (∀ char ∈ last, char.isDigit) ∧
      text.toList = front ++ '.' :: last := by
  rw [isIpAddr] at address
  split at address
  · rename_i rest read
    obtain ⟨front, last, nonempty, digits, spelled⟩ := readIpv4Addr_eq_some read
    rw [List.isEmpty_iff.mp address, List.append_nil] at spelled
    exact Or.inr ⟨front, last, nonempty, digits, spelled⟩
  · split at address
    · rename_i rest read
      exact Or.inl (colon_mem_of_readIpv6Addr read)
    · cases address

end PushGateway.AddressText

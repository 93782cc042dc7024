import Mathlib.Data.Set.List
import PushGateway.Types
import PushGateway.Egress.AddressText

/-!
# Host names

The names an entry of the host list may have.  The check of the source runs over the labels of a
string; here it is shown to accept what a grammar of labels generates, short of the last label,
which the source compares with decimal numbers only.
-/

namespace PushGateway

/-- `name.split('.')`. -/
def splitDots (name : String) : List (List Char) := name.toList.splitOn '.'

/-- A lowercase letter, a digit or a hyphen. -/
def isHostChar (char : Char) : Bool := char.isLower || char.isDigit || char = '-'

/-- The condition on one label. -/
def isValidLabel (label : List Char) : Bool :=
  !label.isEmpty && decide ((String.ofList label).utf8ByteSize ≤ 63) &&
    label.head? != some '-' && label.getLast? != some '-' && label.all isHostChar

/-- The loop over the labels; it leaves the last one. -/
def checkLabels : List Char → List (List Char) → Except String (List Char)
  | last, [] => .ok last
  | _, label :: rest =>
      if isValidLabel label then checkLabels label rest else .error "not a valid host name"

/-- Lowercase DNS host names. -/
def validateDnsName (name : String) : Except String Unit :=
  if name.isEmpty ∨ 253 < name.utf8ByteSize then .error "host name must be 1-253 bytes"
  else if AddressText.isIpAddr name then
    .error "IP addresses are not allowed; use a host name"
  else
    match checkLabels [] (splitDots name) with
    | .error error => .error error
    | .ok last => if last.all Char.isDigit then .error "not a valid host name" else .ok ()

/-- `to_ascii_lowercase`. -/
def toAsciiLowercase (text : String) : String := String.ofList (text.toList.map Char.toLower)

/-- `strip_prefix("*.")`. -/
def stripWildcard (entry : String) : Option String :=
  match entry.toList with
  | '*' :: '.' :: base => some (String.ofList base)
  | _ => none

def HostRule.parse (entry : String) : Except String HostRule :=
  let entry := toAsciiLowercase entry
  match stripWildcard entry with
  | some base =>
      match validateDnsName base with
      | .error error => .error s!"`{entry}`: {error}"
      | .ok () =>
          if (splitDots base).length < 3 then
            .error (s!"`{entry}` is too broad: a wildcard must sit below a registrable " ++
              "domain (e.g. `*.push.example.org`)")
          else .ok (.subdomain ("." ++ base))
  | none =>
      if entry.toList.contains '*' then
        .error s!"`{entry}`: only a leading `*.` wildcard is supported"
      else
        match validateDnsName entry with
        | .error error => .error s!"`{entry}`: {error}"
        | .ok () => .ok (.exact entry)

/-- The host a rule names; for a wildcard, its base. -/
def HostRule.name : HostRule → String
  | .exact host => host
  | .subdomain suffix => String.ofList (suffix.toList.drop 1)

/-! ## The grammar -/

theorem utf8Size_of_isHostChar {char : Char} (host : isHostChar char) : char.utf8Size = 1 := by
  simp only [isHostChar, Bool.or_eq_true, decide_eq_true_eq] at host
  have small : char.val ≤ 127 := by
    obtain (lower | digit) | rfl := host
    · have below : char.val ≤ 'z'.val := of_decide_eq_true (Bool.and_eq_true_iff.mp lower).2
      exact UInt32.le_trans below (by decide)
    · have below : char.val ≤ '9'.val := of_decide_eq_true (Bool.and_eq_true_iff.mp digit).2
      exact UInt32.le_trans below (by decide)
    · decide
  exact if_pos small

theorem utf8ByteSize_ofList_of_plain {chars : List Char}
    (plain : ∀ char ∈ chars, isHostChar char) :
    (String.ofList chars).utf8ByteSize = chars.length := by
  induction chars with
  | nil => rfl
  | cons char chars ih =>
      obtain ⟨host, rest⟩ := List.forall_mem_cons.mp plain
      rw [String.ofList_cons, String.utf8ByteSize_append, String.utf8ByteSize_singleton,
        utf8Size_of_isHostChar host, ih rest, List.length_cons, Nat.add_comm]

/-- One to sixty-three host characters without a hyphen at either end. -/
structure HostLabel where
  chars : List Char
  nonempty : chars ≠ []
  bounded : chars.length ≤ 63
  plain : ∀ char ∈ chars, isHostChar char
  first : chars.head? ≠ some '-'
  last : chars.getLast? ≠ some '-'

namespace HostLabel

theorem exists_chars_iff (chars : List Char) :
    (∃ label : HostLabel, label.chars = chars) ↔ isValidLabel chars := by
  simp only [isValidLabel, Bool.and_eq_true, Bool.not_eq_true', List.isEmpty_eq_false_iff,
    decide_eq_true_eq, bne_iff_ne, List.all_eq_true]
  constructor
  · rintro ⟨label, rfl⟩
    rw [utf8ByteSize_ofList_of_plain label.plain]
    exact ⟨⟨⟨⟨label.nonempty, label.bounded⟩, label.first⟩, label.last⟩, label.plain⟩
  · rintro ⟨⟨⟨⟨nonempty, bounded⟩, first⟩, last⟩, plain⟩
    rw [utf8ByteSize_ofList_of_plain plain] at bounded
    exact ⟨⟨chars, nonempty, bounded, plain, first, last⟩, rfl⟩

theorem not_mem_of_not_host (label : HostLabel) {char : Char} (other : ¬isHostChar char) :
    char ∉ label.chars :=
  fun listed => other (label.plain char listed)

end HostLabel

/-- Labels joined by dots, in at most 253 bytes. -/
structure DottedName where
  labels : List HostLabel
  nonempty : labels ≠ []
  bounded : (String.ofList (['.'].intercalate (labels.map HostLabel.chars))).utf8ByteSize ≤ 253

namespace DottedName

def text (name : DottedName) : String :=
  String.ofList (['.'].intercalate (name.labels.map HostLabel.chars))

/-- The last label. -/
def final (name : DottedName) : List Char := (name.labels.getLast name.nonempty).chars

theorem splitDots_text (name : DottedName) :
    splitDots name.text = name.labels.map HostLabel.chars := by
  rw [splitDots, text, String.toList_ofList, List.splitOn_intercalate]
  · intro chars listed
    obtain ⟨label, -, rfl⟩ := List.mem_map.mp listed
    exact label.not_mem_of_not_host (by decide)
  · simpa using name.nonempty

theorem getLast?_splitDots_text (name : DottedName) :
    (splitDots name.text).getLast? = some name.final := by
  rw [splitDots_text, List.getLast?_map, List.getLast?_eq_some_getLast name.nonempty]
  rfl

theorem exists_text_iff (name : String) :
    (∃ dotted : DottedName, dotted.text = name) ↔
      ¬name.isEmpty ∧ name.utf8ByteSize ≤ 253 ∧ ∀ label ∈ splitDots name, isValidLabel label := by
  constructor
  · rintro ⟨dotted, rfl⟩
    have every : ∀ label ∈ splitDots dotted.text, isValidLabel label := by
      rw [dotted.splitDots_text]
      intro label listed
      obtain ⟨label, -, rfl⟩ := List.mem_map.mp listed
      exact (HostLabel.exists_chars_iff _).mp ⟨label, rfl⟩
    refine ⟨fun empty => ?_, dotted.bounded, every⟩
    rw [String.isEmpty_iff.mp empty] at every
    exact absurd (every [] (by decide)) (by decide)
  · rintro ⟨-, bounded, every⟩
    have chosen : splitDots name ∈ Set.range (List.map HostLabel.chars) := by
      rw [Set.range_list_map]
      exact fun label listed => (HostLabel.exists_chars_iff label).mpr (every label listed)
    obtain ⟨labels, spelled⟩ := chosen
    have joined : String.ofList (['.'].intercalate (labels.map HostLabel.chars)) = name := by
      rw [spelled, splitDots, List.intercalate_splitOn, String.ofList_toList]
    have nonempty : labels ≠ [] := by
      rintro rfl
      exact List.splitOn_ne_nil '.' name.toList spelled.symm
    exact ⟨⟨labels, nonempty, by rwa [joined]⟩, joined⟩

/-- Every character of the text is a host character or a dot. -/
theorem not_mem_text (name : DottedName) {char : Char} (other : ¬isHostChar char)
    (not_dot : char ≠ '.') : char ∉ name.text.toList := by
  intro listed
  rw [text, String.toList_ofList] at listed
  generalize name.labels = labels at listed
  induction labels with
  | nil => cases listed
  | cons label rest ih =>
      cases rest with
      | nil => exact label.not_mem_of_not_host other (by simpa using listed)
      | cons next rest =>
          rw [List.map_cons, List.map_cons, List.intercalate_cons_cons] at listed
          simp only [List.mem_append, List.mem_singleton] at listed
          obtain (inside | dot) | later := listed
          · exact label.not_mem_of_not_host other inside
          · exact not_dot dot
          · exact ih later

end DottedName

/-- The whole label is digits. -/
def IsDecimal (label : List Char) : Prop := ∀ char ∈ label, char.isDigit

/-- `0x` and any number of hexadecimal digits. -/
def IsHexadecimal (label : List Char) : Prop :=
  ∃ digits, label = '0' :: 'x' :: digits ∧ ∀ char ∈ digits, isAsciiHexdigit char

theorem IsHexadecimal.not_isDecimal {label : List Char} (hexadecimal : IsHexadecimal label) :
    ¬IsDecimal label := by
  obtain ⟨digits, rfl, -⟩ := hexadecimal
  intro decimal
  exact absurd (decimal 'x' (by simp)) (by decide)

/-- A host a URL can have as a domain: the last label is no number to the URL host parser. -/
structure HostName extends DottedName where
  domain : ¬(IsDecimal toDottedName.final ∨ IsHexadecimal toDottedName.final)

/-! ## What the check accepts -/

theorem checkLabels_eq_ok_iff (last found : List Char) (labels : List (List Char)) :
    checkLabels last labels = .ok found ↔
      (∀ label ∈ labels, isValidLabel label) ∧ labels.getLast?.getD last = found := by
  induction labels generalizing last with
  | nil => simp [checkLabels]
  | cons label rest ih =>
      by_cases valid : isValidLabel label
      · rw [checkLabels, if_pos valid, ih, List.forall_mem_cons, List.getLast?_cons]
        simp [valid]
      · rw [checkLabels, if_neg valid]
        simp [valid]

/-- An address in the characters of a host name ends with a decimal label. -/
theorem DottedName.isDecimal_of_isIpAddr (name : DottedName)
    (address : AddressText.isIpAddr name.text) : IsDecimal name.final := by
  obtain colon | ⟨front, last, -, digits, spelled⟩ := AddressText.shape_of_isIpAddr address
  · exact absurd colon (name.not_mem_text (by decide) (by decide))
  · have split : splitDots name.text = front.splitOn '.' ++ last.splitOn '.' := by
      rw [splitDots, spelled, List.splitOn_append_cons_self]
    have no_dot : '.' ∉ last := fun listed => absurd (digits '.' listed) (by decide)
    have final := name.getLast?_splitDots_text
    rw [split, List.splitOn_eq_singleton no_dot, List.getLast?_append, List.getLast?_singleton]
      at final
    cases final
    exact digits

theorem validateDnsName_eq_ok_iff (name : String) :
    validateDnsName name = .ok () ↔
      ∃ dotted : DottedName, dotted.text = name ∧ ¬IsDecimal dotted.final := by
  rw [validateDnsName]
  constructor
  · intro accepted
    split at accepted
    · cases accepted
    · rename_i sized
      obtain ⟨nonempty, bounded⟩ := not_or.mp sized
      split at accepted
      · cases accepted
      · split at accepted
        · cases accepted
        · rename_i last checked
          split at accepted
          · cases accepted
          · rename_i not_digits
            obtain ⟨every, final⟩ := (checkLabels_eq_ok_iff _ _ _).mp checked
            obtain ⟨dotted, rfl⟩ := (DottedName.exists_text_iff name).mpr
              ⟨nonempty, Nat.not_lt.mp bounded, every⟩
            rw [dotted.getLast?_splitDots_text] at final
            exact ⟨dotted, rfl, fun digits => not_digits (final ▸ List.all_eq_true.mpr digits)⟩
  · rintro ⟨dotted, rfl, not_decimal⟩
    obtain ⟨nonempty, bounded, every⟩ := (DottedName.exists_text_iff _).mp ⟨dotted, rfl⟩
    have not_address : ¬AddressText.isIpAddr dotted.text :=
      fun address => not_decimal (dotted.isDecimal_of_isIpAddr address)
    have checked : checkLabels [] (splitDots dotted.text) = .ok dotted.final := by
      rw [checkLabels_eq_ok_iff, dotted.getLast?_splitDots_text]
      exact ⟨every, rfl⟩
    have not_digits : ¬dotted.final.all Char.isDigit :=
      fun digits => not_decimal (List.all_eq_true.mp digits)
    rw [if_neg (not_or.mpr ⟨nonempty, Nat.not_lt.mpr bounded⟩), if_neg not_address, checked]
    exact if_neg not_digits

theorem DottedName.final_eq_of_text_eq {left right : DottedName} (same : left.text = right.text) :
    left.final = right.final := by
  have final := left.getLast?_splitDots_text
  rw [same, right.getLast?_splitDots_text] at final
  exact (Option.some.inj final).symm

/-- A name with a hexadecimal last label is accepted, and is no host of a URL. -/
theorem DottedName.accepted_of_hexadecimal {name : DottedName}
    (hexadecimal : IsHexadecimal name.final) :
    validateDnsName name.text = .ok () ∧ ¬∃ host : HostName, host.text = name.text := by
  refine ⟨(validateDnsName_eq_ok_iff _).mpr ⟨name, rfl, hexadecimal.not_isDecimal⟩, ?_⟩
  rintro ⟨host, same⟩
  have final : host.toDottedName.final = name.final := DottedName.final_eq_of_text_eq same
  exact host.domain (Or.inr (final ▸ hexadecimal))

theorem stripWildcard_eq_some_iff (entry base : String) :
    stripWildcard entry = some base ↔ entry = "*." ++ base := by
  have stars : "*.".toList = ['*', '.'] := rfl
  rw [← String.toList_inj, String.toList_append, stars, stripWildcard]
  constructor
  · intro stripped
    split at stripped
    · rename_i chars spelled
      cases stripped
      rw [spelled, String.toList_ofList]
      rfl
    · cases stripped
  · intro spelled
    simp [spelled]

theorem star_not_mem_of_accepted {name : String} (accepted : validateDnsName name = .ok ()) :
    '*' ∉ name.toList := by
  obtain ⟨dotted, rfl, -⟩ := (validateDnsName_eq_ok_iff name).mp accepted
  exact dotted.not_mem_text (by decide) (by decide)

theorem HostRule.parse_eq_ok_iff (entry : String) (rule : HostRule) :
    HostRule.parse entry = .ok rule ↔
      (∃ base, toAsciiLowercase entry = "*." ++ base ∧ validateDnsName base = .ok () ∧
        3 ≤ (splitDots base).length ∧ rule = .subdomain ("." ++ base)) ∨
      (validateDnsName (toAsciiLowercase entry) = .ok () ∧
        rule = .exact (toAsciiLowercase entry)) := by
  simp only [HostRule.parse]
  cases stripped : stripWildcard (toAsciiLowercase entry) with
  | none =>
      have no_wildcard : ∀ base, toAsciiLowercase entry ≠ "*." ++ base := by
        intro base spelled
        rw [(stripWildcard_eq_some_iff _ base).mpr spelled] at stripped
        cases stripped
      simp only [no_wildcard, false_and, exists_false, false_or]
      by_cases starred : '*' ∈ (toAsciiLowercase entry).toList
      · have refused : validateDnsName (toAsciiLowercase entry) ≠ .ok () :=
          fun accepted => star_not_mem_of_accepted accepted starred
        simp [starred, refused]
      · cases verdict : validateDnsName (toAsciiLowercase entry) with
        | error error => simp [starred]
        | ok _ => simp [starred, eq_comm]
  | some base =>
      rw [stripWildcard_eq_some_iff] at stripped
      have wildcard : ∀ other, toAsciiLowercase entry = "*." ++ other ↔ other = base := by
        intro other
        rw [stripped, String.append_right_inj]
        exact eq_comm
      have not_plain : validateDnsName (toAsciiLowercase entry) ≠ .ok () := by
        intro accepted
        apply star_not_mem_of_accepted accepted
        rw [stripped]
        simp
      simp only [wildcard, exists_eq_left, not_plain, false_and, or_false]
      cases verdict : validateDnsName base with
      | error error => simp
      | ok _ =>
          by_cases broad : (splitDots base).length < 3
          · simp [broad]
          · simp [broad, Nat.not_lt.mp broad, eq_comm]

theorem HostRule.name_subdomain (base : String) :
    (HostRule.subdomain ("." ++ base)).name = base := by
  have dot : ".".toList = ['.'] := rfl
  rw [HostRule.name, String.toList_append, dot]
  exact String.ofList_toList

/-- An accepted name whose last label is not hexadecimal is a host of a URL. -/
theorem exists_hostName_of_accepted {name : String} (accepted : validateDnsName name = .ok ())
    (not_hexadecimal : ¬∃ dotted : DottedName, dotted.text = name ∧ IsHexadecimal dotted.final) :
    ∃ host : HostName, host.text = name := by
  obtain ⟨dotted, rfl, not_decimal⟩ := (validateDnsName_eq_ok_iff name).mp accepted
  have domain : ¬(IsDecimal dotted.final ∨ IsHexadecimal dotted.final) :=
    not_or.mpr ⟨not_decimal, fun hexadecimal => not_hexadecimal ⟨dotted, rfl, hexadecimal⟩⟩
  exact ⟨⟨dotted, domain⟩, rfl⟩

theorem HostName.accepted (host : HostName) : validateDnsName host.text = .ok () :=
  (validateDnsName_eq_ok_iff _).mpr
    ⟨host.toDottedName, rfl, fun decimal => host.domain (Or.inl decimal)⟩

/-- The check accepts the hosts of URLs, and every rule names one, except where the last label is a
hexadecimal number: that is compared with decimal numbers only. -/
theorem host_names_accepted_iff (name entry : String) :
    ((validateDnsName name = .ok () ↔ ∃ host : HostName, host.text = name) ↔
      ¬∃ dotted : DottedName, dotted.text = name ∧ IsHexadecimal dotted.final) ∧
    ((∀ rule, HostRule.parse entry = .ok rule → ∃ host : HostName, host.text = rule.name) ↔
      ¬∃ dotted : DottedName, IsHexadecimal dotted.final ∧
        (toAsciiLowercase entry = dotted.text ∨
          toAsciiLowercase entry = "*." ++ dotted.text ∧ 3 ≤ dotted.labels.length)) := by
  constructor
  · constructor
    · rintro claimed ⟨dotted, rfl, hexadecimal⟩
      obtain ⟨accepted, no_host⟩ := DottedName.accepted_of_hexadecimal hexadecimal
      exact no_host (claimed.mp accepted)
    · intro not_hexadecimal
      constructor
      · exact fun accepted => exists_hostName_of_accepted accepted not_hexadecimal
      · rintro ⟨host, rfl⟩
        exact host.accepted
  · constructor
    · rintro claimed ⟨dotted, hexadecimal, plain | ⟨wildcard, broad⟩⟩
      · obtain ⟨accepted, no_host⟩ := DottedName.accepted_of_hexadecimal hexadecimal
        rw [← plain] at accepted no_host
        exact no_host (claimed _ ((HostRule.parse_eq_ok_iff _ _).mpr (Or.inr ⟨accepted, rfl⟩)))
      · obtain ⟨accepted, no_host⟩ := DottedName.accepted_of_hexadecimal hexadecimal
        have enough : 3 ≤ (splitDots dotted.text).length := by
          rwa [dotted.splitDots_text, List.length_map]
        have named := claimed _ ((HostRule.parse_eq_ok_iff _ _).mpr
          (Or.inl ⟨dotted.text, wildcard, accepted, enough, rfl⟩))
        rw [HostRule.name_subdomain] at named
        exact no_host named
    · intro not_hexadecimal rule parsed
      obtain ⟨base, wildcard, accepted, enough, rfl⟩ | ⟨accepted, rfl⟩ :=
        (HostRule.parse_eq_ok_iff _ _).mp parsed
      · rw [HostRule.name_subdomain]
        apply exists_hostName_of_accepted accepted
        rintro ⟨dotted, rfl, hexadecimal⟩
        rw [dotted.splitDots_text, List.length_map] at enough
        exact not_hexadecimal ⟨dotted, hexadecimal, Or.inr ⟨wildcard, enough⟩⟩
      · apply exists_hostName_of_accepted accepted
        rintro ⟨dotted, same, hexadecimal⟩
        exact not_hexadecimal ⟨dotted, hexadecimal, Or.inl same.symm⟩

/-- `0x7f000001`, which a URL reads as 127.0.0.1, is accepted as a host name. -/
theorem hexadecimal_loopback_accepted :
    ¬(validateDnsName "0x7f000001" = .ok () ↔ ∃ host : HostName, host.text = "0x7f000001") := by
  intro claimed
  obtain ⟨host, same⟩ := claimed.mp (by decide)
  have final := host.getLast?_splitDots_text
  rw [same] at final
  have hexadecimal : IsHexadecimal host.final :=
    ⟨"7f000001".toList, (Option.some.inj final).symm, List.all_eq_true.mp (by decide)⟩
  exact host.domain (Or.inr hexadecimal)

end PushGateway

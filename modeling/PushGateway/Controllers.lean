import Mathlib.Data.List.Basic
import PushGateway.Api

/-!
# The configured controllers

The list of served controllers is read from one string: `*` alone serves every controller, and
otherwise each entry must be a DID, which is listed without its locator.
-/

namespace PushGateway

/-- `ENV_ALLOWED_CONTROLLERS`. -/
def envAllowedControllers : String := "GATEWAY_ALLOWED_CONTROLLERS"

namespace ControllerPolicy

/-- The entries of the list, between commas and white space. -/
def entries (raw : String) : List String :=
  ((raw.toList.splitOnP fun char => char = ',' || isWhiteSpace char).filter
    fun entry => !entry.isEmpty).map String.ofList

variable {DocumentDigest : Type} (crates : Crates DocumentDigest)

/-- One entry of the list, as it is stored. -/
def parseEntry (entry : String) : Except String String :=
  let entry := crates.stripScidSrc entry
  if entry = "*" then
    .error (envAllowedControllers ++ ": `*` must stand alone (open mode), not in a list")
  else if '*' ∈ entry.toList then
    .error (envAllowedControllers ++ ": `" ++ entry ++
      "` — patterns are not supported; list exact DIDs")
  else if entry.toList.take 4 ≠ "did:".toList ∨ '#' ∈ entry.toList ∨ '?' ∈ entry.toList ∨
      512 < entry.utf8ByteSize then
    .error (envAllowedControllers ++ ": `" ++ entry ++ "` is not a controller DID")
  else .ok entry

/-- Read the list; an unset variable lists no one. -/
def parse (raw : Option String) : Except String ControllerPolicy :=
  let entries := entries (raw.getD "")
  if entries = ["*"] then .ok .open
  else (entries.mapM (parseEntry crates)).map .listed

variable {crates}

theorem parseEntry_ok {entry did : String} (parsed : parseEntry crates entry = .ok did) :
    did = crates.stripScidSrc entry := by
  simp only [parseEntry] at parsed
  split at parsed
  · cases parsed
  · split at parsed
    · cases parsed
    · split at parsed
      · cases parsed
      · cases parsed
        rfl

theorem mapM_parseEntry {entries dids : List String}
    (parsed : entries.mapM (parseEntry crates) = .ok dids) :
    dids = entries.map crates.stripScidSrc := by
  induction entries generalizing dids with
  | nil =>
      cases parsed
      rfl
  | cons entry entries induction =>
      rw [List.mapM_cons] at parsed
      cases first : parseEntry crates entry with
      | error reason =>
          rw [first] at parsed
          cases parsed
      | ok did =>
          cases rest : entries.mapM (parseEntry crates) with
          | error reason =>
              rw [first, rest] at parsed
              cases parsed
          | ok others =>
              rw [first, rest] at parsed
              cases parsed
              rw [List.map_cons, induction rest, parseEntry_ok first]

/-- A configured policy is open, or lists the DIDs of the entries. -/
theorem parse_ok {raw : Option String} {policy : ControllerPolicy}
    (parsed : parse crates raw = .ok policy) :
    (entries (raw.getD "") = ["*"] ∧ policy = .open) ∨
      policy = .listed ((entries (raw.getD "")).map crates.stripScidSrc) := by
  simp only [parse] at parsed
  split at parsed
  · rename_i alone
    cases parsed
    exact .inl ⟨alone, rfl⟩
  · cases listed : (entries (raw.getD "")).mapM (parseEntry crates) with
    | error reason =>
        rw [listed] at parsed
        cases parsed
    | ok dids =>
        rw [listed] at parsed
        cases parsed
        exact .inr (congrArg _ (mapM_parseEntry listed))

/-- A controller which a configured policy serves is known by the DID of an entry, unless every
controller is served. -/
theorem allows_of_parse {raw : Option String} {policy : ControllerPolicy}
    (parsed : parse crates raw = .ok policy) {did : String}
    (allowed : policy.allows crates did = true) :
    entries (raw.getD "") = ["*"] ∨
      ∃ entry ∈ entries (raw.getD ""), crates.stripScidSrc did = crates.stripScidSrc entry := by
  obtain ⟨alone, -⟩ | rfl := parse_ok parsed
  · exact .inl alone
  · obtain ⟨entry, member, same⟩ : ∃ entry ∈ entries (raw.getD ""),
        crates.stripScidSrc entry = crates.stripScidSrc did := by
      simpa [allows] using allowed
    exact .inr ⟨entry, member, same.symm⟩

end ControllerPolicy

end PushGateway

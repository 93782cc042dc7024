import PushGateway.Foundation.Base64
import PushGateway.Foundation.HashOrder
import PushGateway.Snapshot.Crash

/-!
# The relationship store across restarts

The store of relationships is a byte map for whoever calls it, and a JSON object of base64 texts in
its file.  Whatever the file holds and in whatever order the hash maps are iterated, its answers
are those of a plain map, which a restart leaves as it was or as it was saved last.
-/

namespace PushGateway

/-! ## Keys and values as text -/

/-- `base64::engine::general_purpose::STANDARD`, which reads just the texts it writes. -/
structure Base64Engine where
  encode : List UInt8 → String
  decode : String → Option (List UInt8)
  decode_eq_some_iff : ∀ text bytes, decode text = some bytes ↔ text = encode bytes

namespace Base64Engine

/-- The standard alphabet with canonical padding. -/
def standard : Base64Engine where
  encode bytes := String.ofList (Base64.standard.encode bytes)
  decode text := Base64.standard.decode text.toList
  decode_eq_some_iff text bytes := by
    rw [Base64.decode_eq_some_iff]
    constructor
    · intro same
      rw [← same, String.ofList_toList]
    · rintro rfl
      exact String.toList_ofList

variable (engine : Base64Engine)

/-- `b64`. -/
abbrev b64 (bytes : List UInt8) : String := engine.encode bytes

/-- `unb64`. -/
abbrev unb64 (text : String) : Option (List UInt8) := engine.decode text

@[simp] theorem decode_encode (bytes : List UInt8) :
    engine.decode (engine.encode bytes) = some bytes :=
  (engine.decode_eq_some_iff _ _).mpr rfl

theorem encode_injective : Function.Injective engine.encode := by
  intro bytes bytes' same
  have read := engine.decode_encode bytes
  rw [same, engine.decode_encode] at read
  exact (Option.some.inj read).symm

end Base64Engine

/-- The orders in which the maps of bytes and the maps of texts are iterated. -/
structure Hashing where
  bytes : HashOrder (List UInt8) (List UInt8)
  texts : HashOrder String String

namespace Value

/-- `HashMap<String, String>`: a repeated key keeps its last value. -/
def decodeTexts : Value → Option (AssocMap String String)
  | .object members =>
      members.foldlM (fun texts member => do
        return AList.insert member.1 (← decodeString member.2) texts) ∅
  | _ => none

def encodeTexts (order : HashOrder String String) (texts : AssocMap String String) : Value :=
  .object ((order.iter texts).map fun entry => (entry.1, .string entry.2))

theorem decodeTexts_strings (pairs : List (String × String)) :
    decodeTexts (.object (pairs.map fun entry => (entry.1, .string entry.2))) =
      some (AssocMap.collect pairs) := by
  rw [decodeTexts, List.foldlM_map]
  induction pairs using List.reverseRecOn with
  | nil => rfl
  | append_singleton pairs pair induction =>
      rw [List.foldlM_append, induction, AssocMap.collect_concat]
      rfl

/-- What is read back has the same texts. -/
theorem decodeTexts_encode (order : HashOrder String String) (texts : AssocMap String String) :
    ∃ read, decodeTexts (encodeTexts order texts) = some read ∧
      ∀ key, read.lookup key = texts.lookup key := by
  refine ⟨_, decodeTexts_strings (order.iter texts), fun key => Option.ext fun value => ?_⟩
  rw [AssocMap.lookup_collect_iff, order.mem_iter_iff]
  intro key value value' first second
  rw [order.mem_iter_iff] at first second
  rw [first] at second
  exact Option.some.inj second

end Value

/-! ## The file -/

variable {Byte : Type} (engine : Base64Engine) (json : SerdeJson Byte)

namespace RelationshipFileKv

/-- The entries of a snapshot, without those which are not base64. -/
def load (hashing : Hashing) (texts : AssocMap String String) :
    AssocMap (List UInt8) (List UInt8) :=
  AssocMap.collect ((hashing.texts.iter texts).filterMap fun entry => do
    return (← engine.unb64 entry.1, ← engine.unb64 entry.2))

/-- The map `open` reads; a missing or unparseable file gives an empty one. -/
def read (hashing : Hashing) (content : Option (List Byte)) :
    AssocMap (List UInt8) (List UInt8) :=
  match (content.bind json.fromSlice).bind Value.decodeTexts with
  | some texts => load engine hashing texts
  | none => ∅

/-- The JSON text of a snapshot. -/
def serialise (hashing : Hashing) (map : AssocMap (List UInt8) (List UInt8)) : List Byte :=
  json.toVec (Value.encodeTexts hashing.texts (AssocMap.collect
    ((hashing.bytes.iter map).map fun entry => (engine.b64 entry.1, engine.b64 entry.2))))

/-- What a file says about a key: the value under its base64 text, if it is base64 too. -/
def entryOf (content : Option (List Byte)) (key : List UInt8) : Option (List UInt8) := do
  let texts ← (content.bind json.fromSlice).bind Value.decodeTexts
  engine.unb64 (← texts.lookup (engine.b64 key))

/-- No two texts are read as one key, so nothing depends on the order of iteration. -/
theorem lookup_read (hashing : Hashing) (content : Option (List Byte)) (key : List UInt8) :
    (read engine json hashing content).lookup key = entryOf engine json content key := by
  rw [read, entryOf]
  cases (content.bind json.fromSlice).bind Value.decodeTexts with
  | none => rfl
  | some texts =>
      apply Option.ext
      intro value
      have apart : ∀ entry entry' : String × String, ∀ key value value',
          (do return (← engine.unb64 entry.1, ← engine.unb64 entry.2)) = some (key, value) →
          (do return (← engine.unb64 entry'.1, ← engine.unb64 entry'.2)) = some (key, value') →
            entry.1 = entry'.1 := by
        intro entry entry' key value value' first second
        simp only [Option.bind_eq_bind, Option.bind_eq_some_iff, Option.pure_def,
          Option.some.injEq, Prod.mk.injEq, engine.decode_eq_some_iff] at first second
        obtain ⟨_, text, _, _, rfl, rfl⟩ := first
        obtain ⟨_, text', _, _, rfl, rfl⟩ := second
        exact text.trans text'.symm
      change (load engine hashing texts).lookup key = some value ↔ _
      rw [load, AssocMap.lookup_collect_filterMap apart]
      simp only [Option.bind_eq_bind, Option.bind_eq_some_iff, Option.pure_def, Option.some.injEq,
        Prod.mk.injEq, engine.decode_eq_some_iff, Option.bind_some]
      constructor
      · rintro ⟨text, stored, found, bytes, rfl, bytes', rfl, rfl, rfl⟩
        exact ⟨_, found, rfl⟩
      · rintro ⟨stored, found, rfl⟩
        exact ⟨_, _, found, key, rfl, value, rfl, rfl, rfl⟩

/-- A snapshot says of every key what the map did. -/
theorem entryOf_serialise (lossless : json.Lossless) (hashing : Hashing)
    (map : AssocMap (List UInt8) (List UInt8)) (key : List UInt8) :
    entryOf engine json (some (serialise engine json hashing map)) key = map.lookup key := by
  rw [entryOf, serialise, Option.bind_some, Value.encodeTexts,
    lossless.texts _ (hashing.texts.nodup_keys_iter _), Option.bind_some, ← Value.encodeTexts]
  obtain ⟨texts, decoded, same⟩ := Value.decodeTexts_encode hashing.texts (AssocMap.collect
    ((hashing.bytes.iter map).map fun entry => (engine.b64 entry.1, engine.b64 entry.2)))
  rw [decoded, Option.bind_eq_bind, Option.bind_some, same, ← List.filterMap_eq_map]
  apply Option.ext
  intro value
  have apart : ∀ entry entry' : List UInt8 × List UInt8, ∀ key value value',
      some (engine.b64 entry.1, engine.b64 entry.2) = some (key, value) →
      some (engine.b64 entry'.1, engine.b64 entry'.2) = some (key, value') →
        entry.1 = entry'.1 := by
    rintro entry entry' key value value' ⟨⟩ second
    exact engine.encode_injective (congrArg Prod.fst (Option.some.inj second)).symm
  simp only [Option.bind_eq_bind, Option.bind_eq_some_iff, engine.decode_eq_some_iff,
    Function.comp_def]
  constructor
  · rintro ⟨text, found, rfl⟩
    obtain ⟨other, stored, found, same⟩ := (AssocMap.lookup_collect_filterMap apart _ _).mp found
    simp only [Option.some.injEq, Prod.mk.injEq] at same
    rw [← engine.encode_injective same.1, ← engine.encode_injective same.2]
    exact found
  · intro found
    exact ⟨_, (AssocMap.lookup_collect_filterMap apart _ _).mpr ⟨key, value, found, rfl⟩, rfl⟩

end RelationshipFileKv

/-! ## The store and its file -/

/-- A store in use, with what its file holds. -/
structure RelationshipProcess (Byte : Type) where
  kv : RelationshipFileKv
  file : Option (List Byte)

/-- A call of the store, or of the process around it.  Where a map is iterated, the order is given;
where a file is written, whether that succeeds. -/
inductive RelationshipAction where
  | get (key : List UInt8)
  | change (call : RelationshipCall)
  | scanPrefix (stem : List UInt8) (hashing : Hashing)
  | flush (hashing : Hashing) (written : Bool)
  /-- The store is dropped, which flushes it, and built again. -/
  | restart (hashing : Hashing) (written : Bool)
  /-- The process dies, and the store is built again. -/
  | crash (hashing : Hashing)

inductive RelationshipAnswer where
  | value (found : Option (List UInt8))
  | done
  | entries (listed : List (List UInt8 × List UInt8))
  | flushed (written : Bool)

namespace RelationshipFileKv

def get (kv : RelationshipFileKv) (key : List UInt8) : Option (List UInt8) := kv.map.lookup key

def scanPrefix (hashing : Hashing) (kv : RelationshipFileKv) (stem : List UInt8) :
    List (List UInt8 × List UInt8) :=
  (hashing.bytes.iter kv.map).filter fun entry => stem.isPrefixOf entry.1

/-- `build_relationship_store`: durable if there is a path. -/
def build (durable : Bool) (hashing : Hashing) (content : Option (List Byte)) :
    RelationshipFileKv :=
  if durable then ⟨read engine json hashing content, false⟩ else ⟨∅, false⟩

end RelationshipFileKv

namespace RelationshipProcess

/-- `RelationshipFileKv::flush`. -/
def flush (durable : Bool) (hashing : Hashing) (written : Bool)
    (process : RelationshipProcess Byte) : Bool × RelationshipProcess Byte :=
  let ⟨⟨map, dirty⟩, file⟩ := process
  if durable then
    if dirty then
      if written then
        (true, ⟨⟨map, false⟩, some (RelationshipFileKv.serialise engine json hashing map)⟩)
      else (false, ⟨⟨map, true⟩, file⟩)
    else (false, ⟨⟨map, false⟩, file⟩)
  else (false, ⟨⟨map, false⟩, file⟩)

/-- The store is built on the file as it is. -/
def build (durable : Bool) (hashing : Hashing) (content : Option (List Byte)) :
    RelationshipProcess Byte :=
  ⟨RelationshipFileKv.build engine json durable hashing content, content⟩

def perform (durable : Bool) (process : RelationshipProcess Byte) :
    RelationshipAction → RelationshipAnswer × RelationshipProcess Byte
  | .get key => (.value (process.kv.get key), process)
  | .change call => (.done, { process with kv := process.kv.perform call })
  | .scanPrefix stem hashing => (.entries (process.kv.scanPrefix hashing stem), process)
  | .flush hashing written =>
      let (answer, process) := flush engine json durable hashing written process
      (.flushed answer, process)
  | .restart hashing written =>
      let (_, process) := flush engine json durable hashing written process
      (.done, build engine json durable hashing process.file)
  | .crash hashing => (.done, build engine json durable hashing process.file)

end RelationshipProcess

/-! ## A plain map -/

/-- A map and what was saved of it, with whether it may have changed since. -/
structure SavedMap where
  current : List UInt8 → Option (List UInt8)
  saved : List UInt8 → Option (List UInt8)
  changed : Bool

inductive SavedMapAnswer where
  | value (found : Option (List UInt8))
  | done
  | part (entries : List UInt8 → Option (List UInt8))
  | flushed (written : Bool)

namespace SavedMap

/-- A map as it was saved. -/
def opened (saved : List UInt8 → Option (List UInt8)) : SavedMap := ⟨saved, saved, false⟩

def change (map : SavedMap) : RelationshipCall → SavedMap
  | .put key value => { map with current := Function.update map.current key value, changed := true }
  | .delete key =>
      { map with
        current := Function.update map.current key none
        changed := map.changed || (map.current key).isSome }

/-- A change is saved if it can be written. -/
def flush (durable written : Bool) (map : SavedMap) : Bool × SavedMap :=
  if durable && map.changed && written then (true, opened map.current)
  else (false, { map with changed := durable && map.changed })

/-- A restart loses what could not be written, and nothing else; without a path it loses all. -/
def perform (durable : Bool) (map : SavedMap) : RelationshipAction → SavedMapAnswer × SavedMap
  | .get key => (.value (map.current key), map)
  | .change call => (.done, map.change call)
  | .scanPrefix stem _ =>
      (.part fun key => if stem.isPrefixOf key then map.current key else none, map)
  | .flush _ written =>
      let (answer, map) := map.flush durable written
      (.flushed answer, map)
  | .restart _ written =>
      (.done, opened (if durable && (written || !map.changed) then map.current else map.saved))
  | .crash _ => (.done, opened map.saved)

end SavedMap

/-! ## Refinement -/

/-- The same answer; a scan lists each entry of its part once. -/
inductive RelationshipAnswer.Corresponds : RelationshipAnswer → SavedMapAnswer → Prop
  | value (found : Option (List UInt8)) : Corresponds (.value found) (.value found)
  | done : Corresponds .done .done
  | entries {listed : List (List UInt8 × List UInt8)} {part : List UInt8 → Option (List UInt8)}
      (once : (listed.map Prod.fst).Nodup)
      (exactly : ∀ key value, (key, value) ∈ listed ↔ part key = some value) :
      Corresponds (.entries listed) (.part part)
  | flushed (written : Bool) : Corresponds (.flushed written) (.flushed written)

/-- What the store would read from its file. -/
def savedEntries (durable : Bool) (content : Option (List Byte)) (key : List UInt8) :
    Option (List UInt8) :=
  if durable then RelationshipFileKv.entryOf engine json content key else none

/-- The store holds the map and its file what was saved, the same if nothing has changed. -/
structure RelationshipProcess.Represents (durable : Bool) (process : RelationshipProcess Byte)
    (map : SavedMap) : Prop where
  current : ∀ key, process.kv.map.lookup key = map.current key
  saved : ∀ key, savedEntries engine json durable process.file key = map.saved key
  changed : process.kv.dirty = map.changed
  settled : durable = true → map.changed = false → map.current = map.saved

variable {engine json}

/-- What a flush leaves saved. -/
theorem SavedMap.saved_flush {durable : Bool} {map : SavedMap}
    (settled : durable = true → map.changed = false → map.current = map.saved) (written : Bool) :
    (map.flush durable written).2.saved =
      if durable && (written || !map.changed) then map.current else map.saved := by
  obtain ⟨current, saved, changed⟩ := map
  cases durable with
  | false => rfl
  | true =>
      cases changed with
      | false =>
          have same : current = saved := settled rfl rfl
          simp [flush, same]
      | true => cases written <;> rfl

namespace RelationshipProcess

theorem represents_build (durable : Bool) (hashing : Hashing) (content : Option (List Byte)) :
    Represents engine json durable (build engine json durable hashing content)
      (SavedMap.opened (savedEntries engine json durable content)) where
  current key := by
    cases durable with
    | true => exact RelationshipFileKv.lookup_read engine json hashing content key
    | false => rfl
  saved _ := rfl
  changed := by cases durable <;> rfl
  settled _ _ := rfl

theorem Represents.build {durable : Bool} {content : Option (List Byte)}
    {saved : List UInt8 → Option (List UInt8)}
    (holds : ∀ key, savedEntries engine json durable content key = saved key) (hashing : Hashing) :
    Represents engine json durable (build engine json durable hashing content)
      (SavedMap.opened saved) := by
  rw [← funext holds]
  exact represents_build durable hashing content

theorem Represents.change {durable : Bool} {process : RelationshipProcess Byte} {map : SavedMap}
    (represents : Represents engine json durable process map) (call : RelationshipCall) :
    Represents engine json durable { process with kv := process.kv.perform call }
      (map.change call) := by
  cases call with
  | put key value =>
      refine ⟨fun other => ?_, represents.saved, rfl, nofun⟩
      simp only [RelationshipFileKv.perform, RelationshipFileKv.put, SavedMap.change,
        Function.update_apply, AssocMap.lookup_insert, represents.current]
  | delete key =>
      refine ⟨fun other => ?_, represents.saved, ?_, fun path unchanged => ?_⟩
      · simp only [RelationshipFileKv.perform, RelationshipFileKv.delete, SavedMap.change,
          Function.update_apply, AssocMap.lookup_erase, represents.current]
      · simp only [RelationshipFileKv.perform, RelationshipFileKv.delete, SavedMap.change,
          represents.changed, represents.current]
      · obtain ⟨unmarked, absent⟩ : map.changed = false ∧ map.current key = none := by
          simpa [SavedMap.change] using unchanged
        have same : Function.update map.current key none = map.current :=
          Function.update_eq_self_iff.mpr absent.symm
        exact same.trans (represents.settled path unmarked)

theorem Represents.flush (lossless : json.Lossless) {durable : Bool}
    {process : RelationshipProcess Byte} {map : SavedMap}
    (represents : Represents engine json durable process map) (hashing : Hashing)
    (written : Bool) :
    (flush engine json durable hashing written process).1 = (map.flush durable written).1 ∧
      Represents engine json durable (flush engine json durable hashing written process).2
        (map.flush durable written).2 := by
  obtain ⟨⟨entries, dirty⟩, file⟩ := process
  obtain ⟨current, saved, changed, settled⟩ := represents
  cases durable with
  | false => exact ⟨rfl, current, saved, rfl, nofun⟩
  | true =>
      cases dirty with
      | false =>
          have down : map.changed = false := changed.symm
          simp only [RelationshipProcess.flush, SavedMap.flush, down]
          exact ⟨rfl, current, saved, rfl, fun path _ => settled path down⟩
      | true =>
          have up : map.changed = true := changed.symm
          cases written with
          | false =>
              simp only [RelationshipProcess.flush, SavedMap.flush, up]
              exact ⟨rfl, current, saved, rfl, nofun⟩
          | true =>
              simp only [RelationshipProcess.flush, SavedMap.flush, up]
              refine ⟨rfl, current, fun key => ?_, rfl, fun _ _ => rfl⟩
              exact (RelationshipFileKv.entryOf_serialise engine json lossless hashing entries
                key).trans (current key)

/-- One action of the store and of the plain map. -/
theorem Represents.perform (lossless : json.Lossless) {durable : Bool}
    {process : RelationshipProcess Byte} {map : SavedMap}
    (represents : Represents engine json durable process map) (action : RelationshipAction) :
    (RelationshipProcess.perform engine json durable process action).1.Corresponds
        (map.perform durable action).1 ∧
      Represents engine json durable
        (Execution.next (RelationshipProcess.perform engine json durable) process action)
        (Execution.next (SavedMap.perform durable) map action) := by
  cases action with
  | get key =>
      have found : process.kv.get key = map.current key := represents.current key
      refine ⟨?_, represents⟩
      rw [RelationshipProcess.perform, SavedMap.perform, found]
      exact .value _
  | change call => exact ⟨.done, represents.change call⟩
  | scanPrefix stem hashing =>
      refine ⟨.entries ?_ fun key value => ?_, represents⟩
      · exact (hashing.bytes.nodup_keys_iter process.kv.map).sublist
          (List.filter_sublist.map Prod.fst)
      · rw [RelationshipFileKv.scanPrefix, List.mem_filter, hashing.bytes.mem_iter_iff,
          represents.current]
        cases stem.isPrefixOf key <;> simp
  | flush hashing written =>
      obtain ⟨same, after⟩ := represents.flush lossless hashing written
      refine ⟨?_, after⟩
      simp only [RelationshipProcess.perform, SavedMap.perform, same]
      exact .flushed _
  | restart hashing written =>
      have flushed := (represents.flush lossless hashing written).2.saved
      rw [SavedMap.saved_flush represents.settled] at flushed
      exact ⟨.done, .build flushed hashing⟩
  | crash hashing => exact ⟨.done, .build represents.saved hashing⟩

end RelationshipProcess

/-- The store answers as a plain map does which starts with what its file says, loses nothing in a
restart whose last write succeeds, and otherwise falls back on what was saved. -/
theorem relationship_store_refines_map (lossless : json.Lossless) (durable : Bool)
    (hashing : Hashing) (content : Option (List Byte)) (actions : List RelationshipAction) :
    List.Forall₂ RelationshipAnswer.Corresponds
      (Execution.outputs (RelationshipProcess.perform engine json durable)
        (RelationshipProcess.build engine json durable hashing content) actions)
      (Execution.outputs (SavedMap.perform durable)
        (SavedMap.opened (savedEntries engine json durable content)) actions) :=
  (Execution.simulation_forall₂
    (fun _ _ action _ represents => represents.perform lossless action)
    (RelationshipProcess.represents_build durable hashing content)).1

/-- A file with an entry which is no base64, and one entry under the text of the key `[1]`. -/
private def tainted : Option (List Value) :=
  some [.object [("?", .string ""), ("AQ==", .string "AgM=")]]

/-- A change which a failing write loses in a restart, and one which is kept. -/
private def unlucky : List RelationshipAction :=
  [.get [1], .change (.put [1, 2] [9]), .restart ⟨.kept, .reversed⟩ false, .get [1, 2],
    .change (.put [1, 2] [9]), .restart ⟨.reversed, .kept⟩ true, .scanPrefix [1] ⟨.kept, .kept⟩]

theorem relationship_store_refines_map_tainted :
    List.Forall₂ RelationshipAnswer.Corresponds
      (Execution.outputs (RelationshipProcess.perform Base64Engine.standard plainJson true)
        (RelationshipProcess.build Base64Engine.standard plainJson true ⟨.kept, .kept⟩ tainted)
        unlucky)
      (Execution.outputs (SavedMap.perform true)
        (SavedMap.opened (savedEntries Base64Engine.standard plainJson true tainted)) unlucky) :=
  relationship_store_refines_map plainJson_lossless true ⟨.kept, .kept⟩ tainted unlucky

example :
    (Execution.outputs (RelationshipProcess.perform Base64Engine.standard plainJson true)
      (RelationshipProcess.build Base64Engine.standard plainJson true ⟨.kept, .kept⟩ tainted)
      unlucky).map (fun answer => match answer with
        | .value found => [([], found)]
        | .entries listed => listed.map fun entry => (entry.1, some entry.2)
        | _ => []) =
      [[([], some [2, 3])], [], [], [([], none)], [], [],
        [([1, 2], some [9]), ([1], some [2, 3])]] := by
  decide +kernel

/-! ## Crashes -/

variable (engine json) in
/-- The mutations and flushes of a durable store, with its maps iterated in some order. -/
def RelationshipFileKv.design (hashing : Hashing) :
    WriteBehind (AssocMap (List UInt8) (List UInt8)) RelationshipCall Byte where
  change := RelationshipFileKv.change
  serialise := RelationshipFileKv.serialise engine json hashing

variable (engine json) in
/-- The file says of every key what the map does. -/
def RelationshipsHeld (content : Option (List Byte))
    (map : AssocMap (List UInt8) (List UInt8)) : Prop :=
  ∀ key, RelationshipFileKv.entryOf engine json content key = map.lookup key

theorem relationships_restores (lossless : json.Lossless) (hashing : Hashing) :
    (RelationshipFileKv.design engine json hashing).Restores
      (RelationshipFileKv.read engine json hashing) (RelationshipsHeld engine json)
      (fun _ => True) (fun _ => True) where
  written map := RelationshipFileKv.entryOf_serialise engine json lossless hashing map
  missing := ⟨fun _ => rfl, trivial⟩
  restored map _ := by
    refine ⟨fun key => ?_, trivial⟩
    rw [RelationshipFileKv.lookup_read]
  changed _ _ _ _ _ _ := trivial

variable (engine json) in
/-- The store built on a missing file. -/
def RelationshipFileKv.onMissingFile (hashing : Hashing) :
    WriteBehind.Pool (AssocMap (List UInt8) (List UInt8)) RelationshipCall Byte where
  shared := ⟨RelationshipFileKv.read engine json hashing none, false, none, []⟩
  phases := []

variable (engine json) in
/-- An event, with the store built again after a crash. -/
def RelationshipFileKv.happen (hashing : Hashing) :
    WriteBehind.Pool (AssocMap (List UInt8) (List UInt8)) RelationshipCall Byte →
      WriteBehind.Event RelationshipCall →
        WriteBehind.Pool (AssocMap (List UInt8) (List UInt8)) RelationshipCall Byte :=
  (RelationshipFileKv.design engine json hashing).happen
    (RelationshipFileKv.read engine json hashing)

/-- Calls fall between the steps of flushes, of which no two write at a time.  Whenever the store
crashes, it is built again with the map which was renamed into place last.  Between operations the
flag is up unless the file holds the map, and the next flush makes it hold it. -/
theorem relationships_survive_crashes (lossless : json.Lossless) (hashing : Hashing)
    {events : List (WriteBehind.Event RelationshipCall)}
    (along : Execution.Along (RelationshipFileKv.happen engine json hashing)
      WriteBehind.FlushesApart (RelationshipFileKv.onMissingFile engine json hashing) events) :
    let design := RelationshipFileKv.design engine json hashing
    let pool := Execution.run (RelationshipFileKv.happen engine json hashing)
      (RelationshipFileKv.onMissingFile engine json hashing) events
    let kept := (design.lastRenamed (RelationshipFileKv.read engine json hashing)
      (RelationshipFileKv.onMissingFile engine json hashing) events).getD ∅
    RelationshipsHeld engine json pool.shared.content kept ∧
      (∀ key, (RelationshipFileKv.happen engine json hashing pool .crash).shared.map.lookup key =
        kept.lookup key) ∧
      (pool.Idle →
        (¬RelationshipsHeld engine json pool.shared.content pool.shared.map →
          pool.shared.dirty = true) ∧
        let flushed := Execution.run design.step pool
          (WriteBehind.flushThrough pool.phases.length)
        flushed.Idle ∧ flushed.shared.map = pool.shared.map ∧
          RelationshipsHeld engine json flushed.shared.content flushed.shared.map) := by
  intro design pool kept
  have restores : design.Restores (RelationshipFileKv.read engine json hashing)
      (RelationshipsHeld engine json) (fun _ => True) (fun _ => True) :=
    relationships_restores lossless hashing
  have started : design.Recoverable (RelationshipsHeld engine json) (fun _ => True)
      (fun _ => True) (RelationshipFileKv.onMissingFile engine json hashing) :=
    .reopened restores
      (fun snapshot (missing : (none : Option (WriteBehind.Snapshot Byte)) = some snapshot) => by
        cases missing)
      fun state (member : state ∈ []) => by cases member
  have accepted : Execution.Along (RelationshipFileKv.happen engine json hashing)
      (fun pool event => WriteBehind.FlushesApart pool event ∧ event.Accepted fun _ => True)
      (RelationshipFileKv.onMissingFile engine json hashing) events := by
    refine Execution.along_mono (fun pool event apart => ⟨apart, ?_⟩) along
    cases event with
    | crash => trivial
    | act action => cases action <;> trivial
  have recoverable : design.Recoverable (RelationshipsHeld engine json) (fun _ => True)
      (fun _ => True) pool := WriteBehind.recoverable_run restores started accepted
  have content : pool.shared.content = _ :=
    (WriteBehind.content_run (RelationshipFileKv.read engine json hashing)
      started.kept events).trans Option.or_none
  have held : RelationshipsHeld engine json pool.shared.content kept := by
    rw [content]
    simp only [kept]
    cases design.lastRenamed (RelationshipFileKv.read engine json hashing)
        (RelationshipFileKv.onMissingFile engine json hashing) events with
    | none => exact fun _ => rfl
    | some map => exact restores.written map
  refine ⟨held, fun key => ?_, recoverable.of_idle restores⟩
  exact (RelationshipFileKv.lookup_read engine json hashing pool.shared.content key).trans
    (held key)

private def invited (key : UInt8) : WriteBehind.Action RelationshipCall :=
  .mutate (.put [key] [key])

private def beforeCrash : List (WriteBehind.Action RelationshipCall) :=
  invited 1 :: steps 0 2 ++ .flush :: steps 1 3 ++ invited 2 :: steps 2 2 ++ steps 1 3 ++
    .flush :: steps 3 4

private def afterCrash : List (WriteBehind.Action RelationshipCall) :=
  invited 3 :: steps 0 2 ++ .flush :: steps 1 5 ++ [.advance 1 .fails, .advance 1 .succeeds]

/-- A call in the middle of a flush, a crash in the middle of the next one, and a rename which
fails. -/
private def unstable : List (WriteBehind.Event RelationshipCall) :=
  beforeCrash.map .act ++ .crash :: afterCrash.map .act

theorem relationships_survive_unstable :
    (Execution.run (RelationshipFileKv.happen Base64Engine.standard plainJson ⟨.kept, .kept⟩)
      (RelationshipFileKv.onMissingFile Base64Engine.standard plainJson ⟨.kept, .kept⟩)
      unstable).shared.dirty = true :=
  ((relationships_survive_crashes plainJson_lossless
    ⟨.kept, .kept⟩ (by decide)).2.2 (by decide)).1 fun holds =>
      absurd (holds [3]) (by decide +kernel)

end PushGateway

import Autoscaling.Lib.Go

/-!
# The JSON array batch builder (`pkg/reporting/batch_jsonarray.go`)

`JSONArrayBuilder` writes a batch of events as one JSON array, nested inside one single-member
object per nested field name: the constructor writes `{"f":` for each field and opens the array,
`Add` writes a comma before every event but the first and then the event's encoding, and
`Finish` closes the array and the objects.

The builder writes to a `ByteBuffer`, whose `Write` appends and never fails, so the buffer is a
list of bytes. `json.Marshal` is a parameter for the events and one for the field names, each
returning the encoding or an error, on which the builder panics with the message the source
formats.

The main result, `finish_nests_events`, gives the exact bytes of a batch; `finish_is_document`
reads them in a fragment of the JSON grammar: arrays of values, and objects of one member.
-/

namespace Autoscaling.Reporting

open Go

/-- A `JSONArrayBuilder` over a `ByteBuffer`: the bytes written, whether an event was added, and
how many objects to close. -/
structure JSONArrayBuilder where
  buf : List UInt8
  started : Bool
  nestingCount : Nat
deriving DecidableEq, Repr

/-- The panic of the builder when `json.Marshal` fails. -/
def failedToEncode : String := "failed to JSON encode: %s"

/-- `NewJSONArrayBuilder(buf, nestedFields...)`, writing to the bytes `buf`. -/
def newJSONArrayBuilder (marshalString : String → Except String (List UInt8)) (buf : List UInt8)
    (nestedFields : List String) : Except String JSONArrayBuilder := do
  let buf ← nestedFields.foldlM (fun buf fieldName =>
    match marshalString fieldName with
    | .error _ => throw failedToEncode
    | .ok encodedField => pure (buf ++ ['{'.toUInt8] ++ encodedField ++ [':'.toUInt8])) buf
  -- open the array
  pure ⟨buf ++ ['['.toUInt8], false, nestedFields.length⟩

/-- `b.Add(event)`. -/
def JSONArrayBuilder.add {E : Type} (marshal : E → Except String (List UInt8))
    (b : JSONArrayBuilder) (event : E) : Except String JSONArrayBuilder :=
  let buf := if b.started then b.buf ++ [','.toUInt8] else b.buf
  match marshal event with
  | .error _ => throw failedToEncode
  | .ok tmpJSON => pure { b with buf := buf ++ tmpJSON, started := true }

/-- `b.Finish()`: the array closed, then each object, and the bytes collected. -/
def JSONArrayBuilder.finish (b : JSONArrayBuilder) : List UInt8 :=
  (List.range b.nestingCount).foldl (fun buf _ => buf ++ ['}'.toUInt8]) (b.buf ++ [']'.toUInt8])

/-- A batch as the reporting client builds one: `NewJSONArrayBuilder(NewByteBuffer(), fields...)`,
`Add` for each event in turn, then `Finish()`. -/
def buildBatch {E : Type} (marshalString : String → Except String (List UInt8))
    (marshal : E → Except String (List UInt8)) (nestedFields : List String) (events : List E) :
    Except String (List UInt8) := do
  let b ← newJSONArrayBuilder marshalString [] nestedFields
  let b ← events.foldlM (JSONArrayBuilder.add marshal) b
  pure b.finish

/-! ### The bytes of a batch -/

/-- `[v₁,…,vₙ]`. -/
def jsonArray (values : List (List UInt8)) : List UInt8 :=
  '['.toUInt8 :: [','.toUInt8].intercalate values ++ [']'.toUInt8]

/-- `{"f₁":{"f₂":…{"fₘ":inner}…}}`, for the encoded field names. -/
def nestIn : List (List UInt8) → List UInt8 → List UInt8
  | [], inner => inner
  | field :: fields, inner =>
    '{'.toUInt8 :: field ++ ':'.toUInt8 :: nestIn fields inner ++ ['}'.toUInt8]

/-- What the constructor writes before the array: `{"f₁":` … `{"fₘ":`. -/
def nestPrefix (fields : List (List UInt8)) : List UInt8 :=
  (fields.map fun field => '{'.toUInt8 :: field ++ [':'.toUInt8]).flatten

theorem intercalate_snoc {α : Type} (sep : List α) {items : List (List α)} (item : List α)
    (nonempty : items ≠ []) :
    sep.intercalate (items ++ [item]) = sep.intercalate items ++ sep ++ item := by
  induction items with
  | nil => exact absurd rfl nonempty
  | cons first rest ih =>
    cases rest with
    | nil => simp
    | cons second more =>
      rw [List.cons_append, List.intercalate_cons_of_ne_nil (by simp), ih (List.cons_ne_nil _ _),
        List.intercalate_cons_cons]
      simp

/-- The nested objects are the prefix, the inner value, and one closing brace for each field. -/
theorem nestIn_eq (fields : List (List UInt8)) (inner : List UInt8) :
    nestIn fields inner =
      nestPrefix fields ++ inner ++ List.replicate fields.length '}'.toUInt8 := by
  induction fields with
  | nil => simp [nestIn, nestPrefix]
  | cons field rest ih =>
    rw [nestIn, ih]
    simp [nestPrefix, List.replicate_succ']

/-! ### Each call -/

section Calls

variable {E : Type} (marshalString : String → Except String (List UInt8))
  (marshal : E → Except String (List UInt8))

/-- A loop of writes that each append to the buffer appends them all. -/
theorem foldlM_appends {α : Type} {write : List UInt8 → α → Except String (List UInt8)}
    {bytes : α → List UInt8} :
    ∀ (xs : List α), (∀ buf, ∀ x ∈ xs, write buf x = .ok (buf ++ bytes x)) →
      ∀ buf, xs.foldlM write buf = .ok (buf ++ (xs.map bytes).flatten)
  | [], _, buf => by simp
  | x :: rest, appends, buf => by
    rw [List.foldlM_cons, appends buf x (List.mem_cons_self ..)]
    -- the first write done, the rest of the loop runs from the bytes it left
    rw [ok_bind, foldlM_appends rest (fun buf' y member => appends buf' y
      (List.mem_cons_of_mem _ member))]
    simp

/-- The constructor writes the prefix for the encoded field names and opens the array. -/
theorem newJSONArrayBuilder_eq {fields : List String} {encoded : String → List UInt8}
    (encodes : ∀ f ∈ fields, marshalString f = .ok (encoded f)) (buf : List UInt8) :
    newJSONArrayBuilder marshalString buf fields =
      .ok ⟨buf ++ nestPrefix (fields.map encoded) ++ ['['.toUInt8], false, fields.length⟩ := by
  unfold newJSONArrayBuilder
  rw [@foldlM_appends String _ (fun f => '{'.toUInt8 :: encoded f ++ [':'.toUInt8]) fields]
  · simp [nestPrefix]
    rfl
  · intro buf' f member
    simp [encodes f member]

/-- One `Add`, from a builder holding `pre` and the events so far: the comma goes in only when
some event came before, so the buffer holds the events so far and this one, comma-separated. -/
theorem add_appends {pre : List UInt8} {done : List (List UInt8)} {count : Nat} {event : E}
    {encoding : List UInt8} (marshals : marshal event = .ok encoding) :
    JSONArrayBuilder.add marshal
        ⟨pre ++ [','.toUInt8].intercalate done, !done.isEmpty, count⟩ event =
      .ok ⟨pre ++ [','.toUInt8].intercalate (done ++ [encoding]),
        !(done ++ [encoding]).isEmpty, count⟩ := by
  unfold JSONArrayBuilder.add
  rw [marshals]
  cases done with
  | nil => simp
  | cons first rest =>
    rw [intercalate_snoc _ _ (List.cons_ne_nil _ _)]
    simp

/-- The `Add` loop: the buffer holds `pre` and every event added, comma-separated. -/
theorem foldlM_add {pre : List UInt8} {count : Nat} {M : E → List UInt8} :
    ∀ (events : List E), (∀ e ∈ events, marshal e = .ok (M e)) → ∀ done,
      events.foldlM (JSONArrayBuilder.add marshal)
          ⟨pre ++ [','.toUInt8].intercalate done, !done.isEmpty, count⟩ =
        .ok ⟨pre ++ [','.toUInt8].intercalate (done ++ events.map M),
          !(done ++ events.map M).isEmpty, count⟩
  | [], _, done => by simp
  | e :: rest, marshals, done => by
    rw [List.foldlM_cons, add_appends marshal (marshals e (List.mem_cons_self ..)), ok_bind,
      foldlM_add rest (fun e' member => marshals e' (List.mem_cons_of_mem _ member))]
    simp

/-- `Finish` closes the array and then each of the objects. -/
theorem finish_eq (b : JSONArrayBuilder) :
    b.finish = b.buf ++ [']'.toUInt8] ++ List.replicate b.nestingCount '}'.toUInt8 := by
  obtain ⟨buf, started, count⟩ := b
  unfold JSONArrayBuilder.finish
  dsimp only
  induction count with
  | zero => simp
  | succ count ih =>
    rw [List.range_succ, List.foldl_append, ih, List.replicate_succ']
    simp

end Calls

/-! ### A fragment of the JSON grammar -/

/-- The documents built from the given values and encoded strings by arrays and by objects of
one member. -/
inductive Document (IsValue IsString : List UInt8 → Prop) : List UInt8 → Prop
  | value {v : List UInt8} : IsValue v → Document IsValue IsString v
  | array {vs : List (List UInt8)} :
      (∀ v ∈ vs, Document IsValue IsString v) → Document IsValue IsString (jsonArray vs)
  | object {key inner : List UInt8} : IsString key → Document IsValue IsString inner →
      Document IsValue IsString ('{'.toUInt8 :: key ++ ':'.toUInt8 :: inner ++ ['}'.toUInt8])

/-- Nesting a document in objects keyed by encoded strings gives a document. -/
theorem nestIn_document {IsValue IsString : List UInt8 → Prop} {inner : List UInt8}
    (document : Document IsValue IsString inner) :
    ∀ fields : List (List UInt8), (∀ f ∈ fields, IsString f) →
      Document IsValue IsString (nestIn fields inner)
  | [], _ => document
  | field :: rest, strings =>
    .object (strings field (List.mem_cons_self ..))
      (nestIn_document document rest fun f member => strings f (List.mem_cons_of_mem _ member))

/-! ### A whole batch -/

section Batch

variable {E : Type} (marshalString : String → Except String (List UInt8))
  (marshal : E → Except String (List UInt8))

/-- A batch of events is their JSON array, nested in one object for each field name in turn,
and it is a document whenever the encoded field names are strings and the events' encodings
are values. -/
theorem finish_nests_events {fields : List String} {events : List E}
    {encoded : String → List UInt8} {M : E → List UInt8}
    (encodes : ∀ f ∈ fields, marshalString f = .ok (encoded f))
    (marshals : ∀ e ∈ events, marshal e = .ok (M e))
    {IsValue IsString : List UInt8 → Prop}
    (strings : ∀ f ∈ fields, IsString (encoded f)) (values : ∀ e ∈ events, IsValue (M e)) :
    buildBatch marshalString marshal fields events =
        .ok (nestIn (fields.map encoded) (jsonArray (events.map M))) ∧
      Document IsValue IsString (nestIn (fields.map encoded) (jsonArray (events.map M))) := by
  constructor
  · -- the constructor leaves the prefix and the opened array, with no event added yet
    have opened : newJSONArrayBuilder marshalString [] fields =
        .ok ⟨([] ++ nestPrefix (fields.map encoded) ++ ['['.toUInt8]) ++
          [','.toUInt8].intercalate [], !([] : List (List UInt8)).isEmpty, fields.length⟩ := by
      rw [newJSONArrayBuilder_eq marshalString encodes]
      simp
    unfold buildBatch
    rw [opened, ok_bind, foldlM_add marshal events marshals [], ok_bind]
    simp only [pure, Except.pure, finish_eq, nestIn_eq, jsonArray, List.length_map]
    simp
  · refine nestIn_document (.array fun v member => ?_) _ ?_
    · obtain ⟨e, event, rfl⟩ := List.mem_map.mp member
      exact .value (values e event)
    · intro f member
      obtain ⟨name, field, rfl⟩ := List.mem_map.mp member
      exact strings name field

/-- The bytes of an ASCII string, and `json.Marshal` of an ASCII string with nothing to escape,
as the test's field names are. -/
def asciiBytes (s : String) : List UInt8 := s.toList.map Char.toUInt8

def marshalAscii (s : String) : List UInt8 := '"'.toUInt8 :: asciiBytes s ++ ['"'.toUInt8]

/-- The events of the test's nested cases, already encoded. -/
def testEvents : List (List UInt8) :=
  [asciiBytes "\x7b\"X\":1,\"Y\":2\x7d", asciiBytes "\x7b\"X\":2,\"Y\":3\x7d"]

/-- The test's case with fields "foo" and "bar". -/
theorem finish_nests_events_nested :
    buildBatch (fun s => .ok (marshalAscii s)) (fun e : List UInt8 => .ok e) ["foo", "bar"]
        testEvents =
        .ok (nestIn (["foo", "bar"].map marshalAscii) (jsonArray (testEvents.map id))) ∧
      Document (fun v => v.head? = some '{'.toUInt8) (fun s => s.head? = some '"'.toUInt8)
        (nestIn (["foo", "bar"].map marshalAscii) (jsonArray (testEvents.map id))) :=
  finish_nests_events _ _ (fun _ _ => rfl) (fun _ _ => rfl) (fun _ _ => rfl) (by decide)

example : buildBatch (fun s => .ok (marshalAscii s)) (fun e : List UInt8 => .ok e) ["foo", "bar"]
    testEvents =
      .ok (asciiBytes ("\x7b\"foo\":\x7b\"bar\":" ++
        "[\x7b\"X\":1,\"Y\":2\x7d,\x7b\"X\":2,\"Y\":3\x7d]\x7d\x7d")) := by
  decide

example : buildBatch (fun s => .ok (marshalAscii s)) (fun e : List UInt8 => .ok e) [] [] =
    .ok (asciiBytes "[]") := by
  decide

end Batch

end Autoscaling.Reporting

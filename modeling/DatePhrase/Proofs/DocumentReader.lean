/-
# Reading a document back

The builder makes the lexemes of a document into the document again, and so the text
of a document is read as the document (`parse?_pretty`). For that the document must
fit the builder: its containers are at most as deep as the limit, and no object has
a key twice. What the builder makes does fit (`fits_of_parse?`): at each step the
containers around the present value, as far as they have been read, fit themselves,
and the room that they leave is at least the depth of what is complete.
-/

import DatePhrase.Proofs.DocumentText
import DatePhrase.Proofs.Traversal

namespace DatePhrase
namespace Json

/-- Containers at most `room` deep, and each key of an object once. -/
inductive Fits : Nat → Json → Prop
  | null {room : Nat} : Fits room null
  | bool {room : Nat} (b : Bool) : Fits room (bool b)
  | number {room : Nat} (n : Number) : Fits room (number n)
  | string {room : Nat} (s : String) : Fits room (string s)
  | array {room : Nat} {items : List Json} : (∀ item ∈ items, Fits room item) →
      Fits (room + 1) (array items)
  | object {room : Nat} {fields : List (String × Json)} : (fields.map Prod.fst).Nodup →
      (∀ field ∈ fields, Fits room field.2) → Fits (room + 1) (object fields)

namespace Builder

/-- The builder after some more lexemes. -/
def run (limit : Nat) (builder : Builder) (lexemes : List Lexeme) : Option Builder :=
  lexemes.foldlM (step limit) builder

variable {limit room : Nat} {frames : List Frame} {rest : List Lexeme}

/-- A run goes on from where its first step leads. -/
theorem run_cons {builder builder' : Builder} {lexeme : Lexeme}
    (h : step limit builder lexeme = some builder') :
    run limit builder (lexeme :: rest) = run limit builder' rest := by
  rw [run, List.foldlM_cons, h]
  rfl

/-! ## The lexemes of a document -/

/-- The lexemes of a value make the value, in front of any others and inside any frames
that leave it room. -/
def IsBuilt (limit room : Nat) (value : Json) : Prop :=
  ∀ (frames : List Frame) (rest : List Lexeme), frames.length + room ≤ limit →
    run limit ⟨frames, .value⟩ (value.lexemes ++ rest) = run limit (deliver value frames) rest

/-- A value of one lexeme is made by it. -/
theorem run_value {value : Json} {lexeme : Lexeme} (hlexemes : value.lexemes = [lexeme])
    (hstart : ∀ frames, start? limit frames lexeme = some (deliver value frames)) :
    IsBuilt limit room value := by
  intro frames rest _
  rw [hlexemes]
  exact run_cons (hstart frames)

/-- Behind an opening bracket, any lexeme but the closing one starts an item. -/
theorem step_firstItem {lexeme : Lexeme} (h : lexeme ≠ .closeArray) :
    step limit ⟨frames, .firstItem⟩ lexeme = step limit ⟨.array #[] :: frames, .value⟩ lexeme := by
  cases lexeme with
  | closeArray => exact absurd rfl h
  | _ => rfl

/-- No value starts with a closing bracket. -/
theorem run_firstItem (value : Json) :
    run limit ⟨frames, .firstItem⟩ (value.lexemes ++ rest) =
      run limit ⟨.array #[] :: frames, .value⟩ (value.lexemes ++ rest) := by
  cases value with
  | array items => cases items <;> rfl
  | object fields => cases fields <;> rfl
  | _ => rfl

/-- The other items of an array are made one after the other, up to the closing
bracket. -/
theorem run_items {items : List Json} (h : ∀ item ∈ items, IsBuilt limit room item)
    (hroom : frames.length + (room + 1) ≤ limit) (done : Array Json) (rest : List Lexeme) :
    run limit ⟨frames, .itemEnd done⟩ (itemLexemes items ++ .closeArray :: rest) =
      run limit (deliver (.array (done.toList ++ items)) frames) rest := by
  induction items generalizing done with
  | nil => rw [List.append_nil]; exact run_cons rfl
  | cons item items ih =>
    have hlexemes : itemLexemes (item :: items) ++ .closeArray :: rest =
        .comma :: (item.lexemes ++ (itemLexemes items ++ .closeArray :: rest)) := by
      simp [itemLexemes]
    have hitem := h item (by simp) (.array done :: frames)
      (itemLexemes items ++ .closeArray :: rest) (by rw [List.length_cons]; omega)
    have hitems := ih (fun item' hmem => h item' (by simp [hmem])) (done.push item)
    rw [Array.toList_push, List.append_assoc, List.singleton_append] at hitems
    rw [hlexemes]
    exact (run_cons rfl).trans (hitem.trans hitems)

/-- A new key with its value. -/
theorem run_field {done : List (String × Json)} {field : String × Json}
    (h : IsBuilt limit room field.2) (hroom : frames.length + (room + 1) ≤ limit)
    (hkey : field.1 ∉ done.map Prod.fst) (rest : List Lexeme) :
    run limit ⟨frames, .colon done field.1⟩ (.colon :: field.2.lexemes ++ rest) =
      run limit ⟨frames, .fieldEnd (done ++ [field])⟩ rest := by
  have hvalue := h (.object done field.1 :: frames) rest (by rw [List.length_cons]; omega)
  refine (run_cons rfl).trans (hvalue.trans ?_)
  -- The key is new, so the field comes last.
  rw [deliver, setField_of_not_mem hkey]

/-- The other fields of an object are made one after the other, up to the closing
brace. -/
theorem run_fields {fields : List (String × Json)}
    (h : ∀ field ∈ fields, IsBuilt limit room field.2) (hroom : frames.length + (room + 1) ≤ limit)
    (done : List (String × Json)) (hkeys : ((done ++ fields).map Prod.fst).Nodup)
    (rest : List Lexeme) :
    run limit ⟨frames, .fieldEnd done⟩ (fieldLexemes fields ++ .closeObject :: rest) =
      run limit (deliver (.object (done ++ fields)) frames) rest := by
  induction fields generalizing done with
  | nil => rw [List.append_nil]; exact run_cons rfl
  | cons field fields ih =>
    have hlexemes : fieldLexemes (field :: fields) ++ .closeObject :: rest =
        .comma :: .string field.1 :: .colon :: field.2.lexemes ++
          (fieldLexemes fields ++ .closeObject :: rest) := by
      simp [fieldLexemes]
    have hnew : field.1 ∉ done.map Prod.fst := by
      rw [List.map_append, List.nodup_append] at hkeys
      exact fun hmem => hkeys.2.2 _ hmem _ (by simp) rfl
    have hfield := run_field (h field (by simp)) hroom hnew
      (fieldLexemes fields ++ .closeObject :: rest)
    have happend : done ++ field :: fields = done ++ [field] ++ fields := by simp
    rw [happend] at hkeys
    have hfields := ih (fun field' hmem => h field' (by simp [hmem])) _ hkeys
    rw [hlexemes, happend]
    exact (run_cons rfl).trans ((run_cons rfl).trans (hfield.trans hfields))

/-- A document that fits is made of its lexemes. -/
theorem isBuilt_of_fits {value : Json} (h : value.Fits room) : IsBuilt limit room value := by
  induction h with
  | null => exact run_value rfl fun _ => rfl
  | bool b => exact run_value rfl fun _ => rfl
  | number n => exact run_value rfl fun _ => rfl
  | string s => exact run_value rfl fun _ => rfl
  | @array room items _ ih =>
    -- The items lie inside one more frame and need one less room.
    intro frames rest hroom
    have hlt : frames.length < limit := by omega
    have hopen : step limit ⟨frames, .value⟩ .openArray = some ⟨frames, .firstItem⟩ := if_pos hlt
    cases items with
    | nil => exact (run_cons hopen).trans (run_cons rfl)
    | cons item items =>
      have hlexemes : (array (item :: items)).lexemes ++ rest =
          .openArray :: (item.lexemes ++ (itemLexemes items ++ .closeArray :: rest)) := by
        simp [lexemes]
      have hrest : ∀ item' ∈ items, IsBuilt limit room item' := fun _ hmem => ih _ (by simp [hmem])
      have hitem := ih item (by simp) (.array #[] :: frames)
        (itemLexemes items ++ .closeArray :: rest) (by rw [List.length_cons]; omega)
      rw [hlexemes, run_cons hopen, run_firstItem]
      exact hitem.trans (run_items hrest hroom #[item] rest)
  | @object room fields hkeys _ ih =>
    intro frames rest hroom
    have hlt : frames.length < limit := by omega
    have hopen : step limit ⟨frames, .value⟩ .openObject = some ⟨frames, .firstKey⟩ := if_pos hlt
    cases fields with
    | nil => exact (run_cons hopen).trans (run_cons rfl)
    | cons field fields =>
      have hlexemes : (object (field :: fields)).lexemes ++ rest = .openObject ::
          .string field.1 :: .colon :: field.2.lexemes ++
            (fieldLexemes fields ++ .closeObject :: rest) := by
        simp [lexemes]
      have hrest : ∀ field' ∈ fields, IsBuilt limit room field'.2 :=
        fun _ hmem => ih _ (by simp [hmem])
      have hfirst : field.1 ∉ ([] : List (String × Json)).map Prod.fst := List.not_mem_nil
      have hfield := run_field (ih field (by simp)) hroom hfirst
        (fieldLexemes fields ++ .closeObject :: rest)
      rw [hlexemes]
      exact (run_cons hopen).trans ((run_cons rfl).trans
        (hfield.trans (run_fields hrest hroom [field] hkeys rest)))

end Builder

/-- **A document that fits is built from its lexemes.** -/
theorem ofLexemes?_lexemes {limit : Nat} {document : Json} (h : document.Fits limit) :
    ofLexemes? limit document.lexemes = some document := by
  have hbuilt := Builder.isBuilt_of_fits h [] [] (Nat.le_of_eq (Nat.zero_add limit))
  rw [List.append_nil] at hbuilt
  change (Builder.run limit ⟨[], .value⟩ document.lexemes >>= Builder.finish) = _
  rw [hbuilt]
  rfl

/-- **A document is read back from its text**, with blanks behind it or not. -/
theorem parse?_pretty {limit : Nat} {document : Json} (hfits : document.Fits limit)
    (hintegers : document.IntegersOnly) {spaces : List Char}
    (hspaces : ∀ c ∈ spaces, Lexeme.IsSpace c) :
    parse? limit (document.pretty ++ String.ofList spaces) = some document := by
  rw [parse?, scan?_pretty hintegers hspaces]
  exact ofLexemes?_lexemes hfits

/-- A document of integers that fits is read back from its text. -/
theorem parse?_pretty_self {limit : Nat} {document : Json} (hfits : document.Fits limit)
    (hintegers : document.IntegersOnly) : parse? limit document.pretty = some document := by
  have hspaces : ∀ c ∈ ([] : List Char), Lexeme.IsSpace c := fun _ h => absurd h List.not_mem_nil
  have hparse := parse?_pretty hfits hintegers hspaces
  rwa [String.ofList_nil, String.append_empty] at hparse

/-! ## What has been read -/

/-- Setting a field of a known key keeps the keys. -/
theorem keys_setField_of_mem {key : String} {value : Json} {fields : List (String × Json)}
    (h : key ∈ fields.map Prod.fst) :
    (setField key value fields).map Prod.fst = fields.map Prod.fst := by
  induction fields with
  | nil => cases h
  | cons field fields ih =>
    rw [setField]
    split
    · subst key
      rfl
    · rename_i hne
      rw [List.map_cons, List.map_cons, ih ((List.mem_cons.1 h).resolve_left (Ne.symm hne))]

/-- Setting a field doubles no key. -/
theorem nodup_keys_setField {key : String} {value : Json} {fields : List (String × Json)}
    (h : (fields.map Prod.fst).Nodup) : ((setField key value fields).map Prod.fst).Nodup := by
  by_cases hkey : key ∈ fields.map Prod.fst
  · rwa [keys_setField_of_mem hkey]
  · rw [setField_of_not_mem hkey, List.map_append, List.nodup_append]
    refine ⟨h, List.pairwise_singleton _ _, fun other hother new hnew heq => hkey ?_⟩
    rwa [heq, List.mem_singleton.1 hnew] at hother

/-- Setting a field brings no field but that one. -/
theorem mem_setField {key : String} {value : Json} {field : String × Json}
    {fields : List (String × Json)} (h : field ∈ setField key value fields) :
    field = (key, value) ∨ field ∈ fields := by
  induction fields with
  | nil => exact .inl (List.mem_singleton.1 h)
  | cons field' fields ih =>
    rw [setField] at h
    split at h
    · exact (List.mem_cons.1 h).imp_right (List.mem_cons_of_mem _)
    · rcases List.mem_cons.1 h with rfl | h
      · exact .inr List.mem_cons_self
      · exact (ih h).imp_right (List.mem_cons_of_mem _)

/-- An empty array takes one level. -/
theorem Fits.emptyArray {room : Nat} : (Json.array []).Fits (room + 1) :=
  .array fun _ h => absurd h List.not_mem_nil

/-- An empty object takes one level. -/
theorem Fits.emptyObject {room : Nat} : (Json.object []).Fits (room + 1) :=
  .object List.nodup_nil fun _ h => absurd h List.not_mem_nil

/-- An object fits with a field set whose value fits. -/
theorem Fits.setField {room : Nat} {key : String} {value : Json} {fields : List (String × Json)}
    (h : (Json.object fields).Fits (room + 1)) (hvalue : value.Fits room) :
    (Json.object (Json.setField key value fields)).Fits (room + 1) := by
  cases h with
  | object hkeys hvalues =>
    refine .object (nodup_keys_setField hkeys) fun field hmem => ?_
    rcases mem_setField hmem with rfl | hmem
    · exact hvalue
    · exact hvalues field hmem

/-- An array fits with an item behind it that fits. -/
theorem Fits.push {room : Nat} {items : Array Json} {item : Json}
    (h : (Json.array items.toList).Fits (room + 1)) (hitem : item.Fits room) :
    (Json.array (items.push item).toList).Fits (room + 1) := by
  cases h with
  | array hitems =>
    refine .array fun item' hmem => ?_
    rw [Array.toList_push, List.mem_append, List.mem_singleton] at hmem
    rcases hmem with hmem | rfl
    · exact hitems item' hmem
    · exact hitem

namespace Builder

/-- Frames that leave `room` for the present value.  A container fits as far as it has
been read. -/
inductive HaveRoom (limit : Nat) : List Frame → Nat → Prop
  | nil : HaveRoom limit [] limit
  | array {frames : List Frame} {room : Nat} {items : Array Json} :
      HaveRoom limit frames (room + 1) → (Json.array items.toList).Fits (room + 1) →
      HaveRoom limit (.array items :: frames) room
  | object {frames : List Frame} {room : Nat} {fields : List (String × Json)} (key : String) :
      HaveRoom limit frames (room + 1) → (Json.object fields).Fits (room + 1) →
      HaveRoom limit (.object fields key :: frames) room

variable {limit room : Nat} {frames : List Frame} {builder builder' : Builder} {lexeme : Lexeme}

/-- The frames and the room that they leave make up the limit. -/
theorem HaveRoom.length_add (h : HaveRoom limit frames room) : frames.length + room = limit := by
  induction h with
  | nil => exact Nat.zero_add limit
  | array _ _ ih => rw [List.length_cons]; omega
  | object _ _ _ ih => rw [List.length_cons]; omega

/-- What the builder awaits lies inside frames that leave room for it, and fits as far
as it has been read. -/
inductive Sound (limit : Nat) : Builder → Prop
  | value {frames : List Frame} {room : Nat} : HaveRoom limit frames room →
      Sound limit ⟨frames, .value⟩
  | firstItem {frames : List Frame} {room : Nat} : HaveRoom limit frames (room + 1) →
      Sound limit ⟨frames, .firstItem⟩
  | itemEnd {frames : List Frame} {room : Nat} {items : Array Json} :
      HaveRoom limit frames (room + 1) → (Json.array items.toList).Fits (room + 1) →
      Sound limit ⟨frames, .itemEnd items⟩
  | firstKey {frames : List Frame} {room : Nat} : HaveRoom limit frames (room + 1) →
      Sound limit ⟨frames, .firstKey⟩
  | key {frames : List Frame} {room : Nat} {fields : List (String × Json)} :
      HaveRoom limit frames (room + 1) → (Json.object fields).Fits (room + 1) →
      Sound limit ⟨frames, .key fields⟩
  | colon {frames : List Frame} {room : Nat} {fields : List (String × Json)} (key : String) :
      HaveRoom limit frames (room + 1) → (Json.object fields).Fits (room + 1) →
      Sound limit ⟨frames, .colon fields key⟩
  | fieldEnd {frames : List Frame} {room : Nat} {fields : List (String × Json)} :
      HaveRoom limit frames (room + 1) → (Json.object fields).Fits (room + 1) →
      Sound limit ⟨frames, .fieldEnd fields⟩
  | nothing {frames : List Frame} {document : Json} : document.Fits limit →
      Sound limit ⟨frames, .nothing document⟩

/-- A value that fits the room keeps the builder sound where it is put. -/
theorem sound_deliver {value : Json} (hframes : HaveRoom limit frames room)
    (hvalue : value.Fits room) : Sound limit (deliver value frames) := by
  cases hframes with
  | nil => exact .nothing hvalue
  | array hframes hitems => exact .itemEnd hframes (hitems.push hvalue)
  | object key hframes hfields => exact .fieldEnd hframes (hfields.setField hvalue)

/-- The start of a value keeps the builder sound, as a container opens only within the
limit. -/
theorem sound_start? (hframes : HaveRoom limit frames room)
    (h : start? limit frames lexeme = some builder) : Sound limit builder := by
  have hlength := hframes.length_add
  cases lexeme with
  | null => cases h; exact sound_deliver hframes .null
  | bool b => cases h; exact sound_deliver hframes (.bool b)
  | number n => cases h; exact sound_deliver hframes (.number n)
  | string s => cases h; exact sound_deliver hframes (.string s)
  | openArray =>
    rw [start?] at h
    split at h
    · obtain ⟨room, rfl⟩ : ∃ room', room = room' + 1 := ⟨room - 1, by omega⟩
      cases h
      exact .firstItem hframes
    · cases h
  | openObject =>
    rw [start?] at h
    split at h
    · obtain ⟨room, rfl⟩ : ∃ room', room = room' + 1 := ⟨room - 1, by omega⟩
      cases h
      exact .firstKey hframes
    · cases h
  | _ => cases h

/-- **Each step keeps the builder sound.** -/
theorem sound_step (hsound : Sound limit builder) (h : step limit builder lexeme = some builder') :
    Sound limit builder' := by
  cases hsound with
  | value hframes => exact sound_start? hframes h
  | firstItem hframes =>
    -- Any other lexeme starts an item of an array that has none yet.
    by_cases hclose : lexeme = .closeArray
    · subst hclose
      cases h
      exact sound_deliver hframes .emptyArray
    · rw [step_firstItem hclose] at h
      exact sound_start? (.array hframes .emptyArray) h
  | itemEnd hframes hitems =>
    cases lexeme with
    | comma => cases h; exact .value (.array hframes hitems)
    | closeArray => cases h; exact sound_deliver hframes hitems
    | _ => cases h
  | firstKey hframes =>
    cases lexeme with
    | closeObject => cases h; exact sound_deliver hframes .emptyObject
    | string key => cases h; exact .colon key hframes .emptyObject
    | _ => cases h
  | key hframes hfields =>
    cases lexeme with
    | string key => cases h; exact .colon key hframes hfields
    | _ => cases h
  | colon key hframes hfields =>
    cases lexeme with
    | colon => cases h; exact .value (.object key hframes hfields)
    | _ => cases h
  | fieldEnd hframes hfields =>
    cases lexeme with
    | comma => cases h; exact .key hframes hfields
    | closeObject => cases h; exact sound_deliver hframes hfields
    | _ => cases h
  | nothing _ => cases lexeme <;> cases h

/-- A run keeps the builder sound. -/
theorem sound_run {lexemes : List Lexeme} (hsound : Sound limit builder)
    (h : run limit builder lexemes = some builder') : Sound limit builder' := by
  induction lexemes generalizing builder with
  | nil => cases h; exact hsound
  | cons lexeme lexemes ih =>
    rw [run, List.foldlM_cons] at h
    obtain ⟨next, hstep, hrun⟩ := Option.bind_eq_some_iff.1 h
    exact ih (sound_step hsound hstep) hrun

end Builder

/-- **A document that has been read fits.** -/
theorem fits_of_parse? {limit : Nat} {text : String} {document : Json}
    (h : parse? limit text = some document) : document.Fits limit := by
  obtain ⟨lexemes, -, h⟩ := Option.bind_eq_some_iff.1 h
  obtain ⟨⟨frames, awaiting⟩, hrun, hfinish⟩ := Option.bind_eq_some_iff.1 h
  have hsound := Builder.sound_run (.value .nil) hrun
  cases hsound with
  | nothing hfits => cases hfinish; exact hfits
  | _ => cases hfinish

/-! ## Conversion -/

open Calendar (Date)

variable {reference : Date} {value converted : Json}

/-- A converted document holds the numbers that it held before. -/
theorem IntegersOnly.convert (h : value.IntegersOnly)
    (hconvert : value.convert reference = .ok converted) : converted.IntegersOnly := by
  induction h generalizing converted with
  | null => cases hconvert; exact .null
  | bool b => cases hconvert; exact .bool b
  | integer n hn => cases hconvert; exact .integer n hn
  | string s =>
    rw [Json.convert, Except.map_eq_ok_iff] at hconvert
    obtain ⟨text, -, rfl⟩ := hconvert
    exact .string text
  | array _ ih =>
    obtain ⟨items', rfl, hitems⟩ := convert_array_eq_ok hconvert
    refine .array fun item' hmem => ?_
    obtain ⟨item, hmem, hitem⟩ := hitems item' hmem
    exact ih item hmem hitem
  | object _ ih =>
    obtain ⟨fields', rfl, -, hfields⟩ := convert_object_eq_ok hconvert
    refine .object fun field' hmem => ?_
    obtain ⟨field, hmem, hfield⟩ := hfields field' hmem
    exact ih field hmem hfield

/-- A converted document is as deep as before and has the keys that it had. -/
theorem Fits.convert {room : Nat} (h : value.Fits room)
    (hconvert : value.convert reference = .ok converted) : converted.Fits room := by
  induction h generalizing converted with
  | null => cases hconvert; exact .null
  | bool b => cases hconvert; exact .bool b
  | number n => cases hconvert; exact .number n
  | string s =>
    rw [Json.convert, Except.map_eq_ok_iff] at hconvert
    obtain ⟨text, -, rfl⟩ := hconvert
    exact .string text
  | array _ ih =>
    obtain ⟨items', rfl, hitems⟩ := convert_array_eq_ok hconvert
    refine .array fun item' hmem => ?_
    obtain ⟨item, hmem, hitem⟩ := hitems item' hmem
    exact ih item hmem hitem
  | object hkeys _ ih =>
    obtain ⟨fields', rfl, hkeys', hfields⟩ := convert_object_eq_ok hconvert
    refine .object (hkeys' ▸ hkeys) fun field' hmem => ?_
    obtain ⟨field, hmem, hfield⟩ := hfields field' hmem
    exact ih field hmem hfield

end Json
end DatePhrase

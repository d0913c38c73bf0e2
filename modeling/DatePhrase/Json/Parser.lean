/-
# Documents from lexemes

One pass over the lexemes, a fold of `Builder.step`.  The builder keeps what
the containers around the present one hold so far, and awaits either a value or
something of the present container:

| awaiting | what may come |
| --- | --- |
| `value` | a value |
| `firstItem` | a value or `]` |
| `itemEnd` | `,` or `]` |
| `firstKey`, `key` | a string, or `}` in the first case |
| `colon` | `:` |
| `fieldEnd` | `,` or `}` |
| `nothing` | nothing, the document is complete |

A container that would stand inside as many others as the limit is refused.
-/

import DatePhrase.Json.Basic
import DatePhrase.Json.Lexeme

namespace DatePhrase
namespace Json

/-- A container around the present value, as far as it has been read. -/
inductive Frame where
  | array (items : Array Json)
  /-- The present value belongs to `key`. -/
  | object (fields : List (String × Json)) (key : String)

inductive Awaiting where
  | value
  | firstItem
  | itemEnd (items : Array Json)
  | firstKey
  | key (fields : List (String × Json))
  | colon (fields : List (String × Json)) (key : String)
  | fieldEnd (fields : List (String × Json))
  | nothing (document : Json)

/-- A document part of the way through its lexemes, the innermost frame first. -/
structure Builder where
  frames : List Frame
  awaiting : Awaiting

namespace Builder

def initial : Builder := ⟨[], .value⟩

/-- The builder after a complete value inside `frames`. -/
def deliver (value : Json) : List Frame → Builder
  | [] => ⟨[], .nothing value⟩
  | .array items :: frames => ⟨frames, .itemEnd (items.push value)⟩
  | .object fields key :: frames => ⟨frames, .fieldEnd (setField key value fields)⟩

/-- The builder after the first lexeme of a value inside `frames`. -/
def start? (limit : Nat) (frames : List Frame) : Lexeme → Option Builder
  | .null => some (deliver .null frames)
  | .bool b => some (deliver (.bool b) frames)
  | .number n => some (deliver (.number n) frames)
  | .string s => some (deliver (.string s) frames)
  | .openArray => if frames.length < limit then some ⟨frames, .firstItem⟩ else none
  | .openObject => if frames.length < limit then some ⟨frames, .firstKey⟩ else none
  | _ => none

def step (limit : Nat) (builder : Builder) (lexeme : Lexeme) : Option Builder :=
  match builder.awaiting, lexeme with
  | .value, lexeme => start? limit builder.frames lexeme
  | .firstItem, .closeArray => some (deliver (.array []) builder.frames)
  | .firstItem, lexeme => start? limit (.array #[] :: builder.frames) lexeme
  | .itemEnd items, .comma => some ⟨.array items :: builder.frames, .value⟩
  | .itemEnd items, .closeArray => some (deliver (.array items.toList) builder.frames)
  | .firstKey, .closeObject => some (deliver (.object []) builder.frames)
  | .firstKey, .string key => some ⟨builder.frames, .colon [] key⟩
  | .key fields, .string key => some ⟨builder.frames, .colon fields key⟩
  | .colon fields key, .colon => some ⟨.object fields key :: builder.frames, .value⟩
  | .fieldEnd fields, .comma => some ⟨builder.frames, .key fields⟩
  | .fieldEnd fields, .closeObject => some (deliver (.object fields) builder.frames)
  | _, _ => none

/-- The document read, the lexemes ending here. -/
def finish (builder : Builder) : Option Json :=
  match builder.awaiting with
  | .nothing document => some document
  | _ => none

end Builder

/-- The document that a list of lexemes writes. -/
def ofLexemes? (limit : Nat) (lexemes : List Lexeme) : Option Json :=
  lexemes.foldlM (Builder.step limit) .initial >>= Builder.finish

/-- The document that a text writes, containers at most `limit` deep. -/
def parse? (limit : Nat) (text : String) : Option Json :=
  Lexeme.scan? text >>= ofLexemes? limit

end Json
end DatePhrase

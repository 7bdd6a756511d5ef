import Lindenmayer.Json.Number

/-!
# Readers of JSON values

A reader takes the tokens of a value of one type off a list of tokens, or reports the first fault in
the order of the text. A value of a wrong type is such a fault as soon as its first token is
complete; what follows that token is not looked at.

A record is written as an object, with its members in any order, or as an array of its fields in
order. Unknown members are skipped; a member that occurs twice is a fault at its second name, and
one that is missing at the end of the object.
-/

namespace Lindenmayer.Json

/-- A computation on the tokens still to be read. -/
abbrev Reader := StateT (List Token) (Except Fault)

namespace Reader

/-! ## Single tokens -/

/-- The value of a token, or its fault. -/
def settle (value : Except Fault α) : Reader α :=
  fun ts ↦ value.map fun a ↦ (a, ts)

/-- The fault of finding no value of the wanted type. -/
def mismatch : List Token → Fault
  | [] => .truncated
  | .literal (.error f) :: _ => f
  | .number (.error f) :: _ => f
  | .number (.ok n) :: _ =>
    match n.quantity with
    | .error f => f
    | .ok _ => .mistyped
  | .text (.error f) _ :: _ => f
  | .literal _ :: _ | .text .. :: _ | .beginArray :: _ | .beginObject :: _ => .mistyped
  | .endObject :: _ | .endArray :: _ | .comma :: _ | .colon :: _ | .stray :: _ => .malformed

/-- Takes a token that must stand here. -/
def expect (t : Token → Bool) : Reader Unit
  | [] => .error .truncated
  | u :: ts => if t u then .ok ((), ts) else .error .malformed

/-- Takes the colon behind a name. -/
def colon : Reader Unit :=
  expect fun | .colon => true | _ => false

/-- Reads a string. -/
def text : Reader (List Char)
  | .text value _ :: ts => settle value ts
  | ts => .error (mismatch ts)

/-- Reads a quantity. -/
def quantity : Reader Quantity
  | .number (.ok n) :: ts => settle n.quantity ts
  | ts => .error (mismatch ts)

/-- Reads a natural number of at most 64 bits. -/
def natural : Reader UInt64 := do
  match ← quantity with
  | .natural n => return n
  | _ => throw .mistyped

/-- Reads a single-precision number. -/
def real : Reader Float32 :=
  Quantity.toFloat32 <$> quantity

/-- Reads the value that says nothing. -/
def null : Reader Unit
  | .literal (.ok .null) :: ts => .ok ((), ts)
  | ts => .error (mismatch ts)

/-! ## Values of any type -/

/-- A container that is being skipped. -/
inductive Frame where
  /-- An array. -/
  | array
  /-- An object. -/
  | object
deriving DecidableEq, Repr

/-- What is to come in a value that is being skipped. -/
inductive Expected where
  /-- A value. -/
  | value
  /-- The first element of an array, or its end. -/
  | element
  /-- The first name in an object, or its end. -/
  | member
  /-- A name. -/
  | name
  /-- The colon behind a name. -/
  | colon
  /-- A comma, or the end of the container. -/
  | separator
deriving DecidableEq, Repr

/-- Passes one token of a value that is being skipped, inside the given containers: the containers
and what is to come then, or nothing when the value is complete. -/
def pass (stack : List Frame) (expected : Expected) (t : Token) :
    Except Fault (Option (List Frame × Expected)) :=
  let complete (stack : List Frame) : Except Fault (Option (List Frame × Expected)) :=
    .ok (if stack.isEmpty then none else some (stack, .separator))
  let named : Except Fault (Option (List Frame × Expected)) :=
    match t with
    | .text _ (some f) => .error f
    | .text _ none => .ok (some (stack, .colon))
    | _ => .error .malformed
  let valued : Except Fault (Option (List Frame × Expected)) :=
    match t with
    | .literal (.error f) => .error f
    | .number (.error _) => .error .malformed
    | .text _ (some f) => .error f
    | .literal _ | .number _ | .text .. => complete stack
    | .beginArray => .ok (some (.array :: stack, .element))
    | .beginObject => .ok (some (.object :: stack, .member))
    | _ => .error .malformed
  match expected, stack, t with
  | .element, _ :: outer, .endArray => complete outer
  | .member, _ :: outer, .endObject => complete outer
  | .separator, .array :: outer, .endArray => complete outer
  | .separator, .object :: outer, .endObject => complete outer
  | .separator, .array :: _, .comma => .ok (some (stack, .value))
  | .separator, .object :: _, .comma => .ok (some (stack, .name))
  | .colon, _, .colon => .ok (some (stack, .value))
  | .value, _, _ | .element, _, _ => valued
  | .name, _, _ | .member, _, _ => named
  | _, _, _ => .error .malformed

/-- Skips the rest of a value. -/
def skipFrom : List Frame → Expected → Reader Unit
  | _, _, [] => .error .truncated
  | stack, expected, t :: ts =>
    match pass stack expected t with
    | .error f => .error f
    | .ok none => .ok ((), ts)
    | .ok (some (stack, expected)) => skipFrom stack expected ts

/-- Skips a value of any type. -/
def skip : Reader Unit := skipFrom [] .value

/-! ## Arrays -/

/-- Takes the opening bracket of an array. -/
def beginArray : Reader Unit
  | .beginArray :: ts => .ok ((), ts)
  | ts => .error (mismatch ts)

/-- Makes sure that an array goes on with an element. -/
def element (first : Bool) : Reader Unit
  | [] => .error .truncated
  | .endArray :: _ => .error .mistyped
  | .comma :: ts =>
    if first then .ok ((), .comma :: ts)
    else match ts with
      | [] => .error .truncated
      | .endArray :: _ => .error .malformed
      | _ => .ok ((), ts)
  | ts => if first then .ok ((), ts) else .error .malformed

/-- Takes the closing bracket of an array. -/
def endArray : Reader Unit :=
  expect fun | .endArray => true | _ => false

/-- Reads an array of exactly two elements. -/
def pair (read : Reader α) : Reader (α × α) := do
  beginArray
  element true
  let a ← read
  element false
  let b ← read
  endArray
  return (a, b)

/-! ## Objects -/

/-- The name in front of a member. -/
def name : Reader (List Char)
  | [] => .error .truncated
  | .text value _ :: ts => settle value ts
  | _ => .error .malformed

/-- Reads the members of an object up to its end: `member` reads what follows a name. There are
fewer members than tokens, and `bound` is a number of tokens. -/
def membersFrom (member : List Char → σ → Reader σ) : (bound : Nat) → (first : Bool) → σ → Reader σ
  | 0, _, _, _ => .error .truncated
  | _ + 1, _, _, [] => .error .truncated
  | _ + 1, _, s, .endObject :: ts => .ok (s, ts)
  | bound + 1, true, s, ts =>
    (do membersFrom member bound false (← member (← name) s) : Reader σ) ts
  | bound + 1, false, s, .comma :: ts =>
    (do membersFrom member bound false (← member (← name) s) : Reader σ) ts
  | _ + 1, false, _, _ => .error .malformed

/-- Reads an object, whose members change a state. -/
def object (member : List Char → σ → Reader σ) (s : σ) : Reader σ
  | .beginObject :: ts => membersFrom member (ts.length + 1) true s ts
  | ts => .error (mismatch ts)

/-! ## Records -/

/-- A member of a record under construction, in a state `σ`. -/
structure Slot (σ : Type) where
  /-- Its name. -/
  name : String
  /-- Whether it has been read. -/
  isRead : σ → Bool
  /-- Reads it. -/
  read : σ → Reader σ

/-- Reads the member with the given name. -/
def member (fields : List (Slot σ)) (name : List Char) (s : σ) : Reader σ :=
  match fields.find? fun f ↦ f.name.toList == name with
  | none => do
    colon
    skip
    return s
  | some f =>
    if f.isRead s then throw .mistyped
    else do
      colon
      f.read s

/-- Reads the fields as elements of an array. -/
def elements : List (Slot σ) → (first : Bool) → σ → Reader σ
  | [], _, s => do
    endArray
    return s
  | f :: fields, first, s => do
    element first
    elements fields false (← f.read s)

/-- Reads a record. -/
def record (fields : List (Slot σ)) (blank : σ) (complete? : σ → Option α) : Reader α
  | .beginArray :: ts => (do finish (← elements fields true blank) : Reader α) ts
  | ts => (do finish (← object (member fields) blank) : Reader α) ts
where
  /-- The record, if no field is missing. -/
  finish (s : σ) : Reader α :=
    match complete? s with
    | none => throw .mistyped
    | some a => return a

/-! ## Texts -/

/-- Reads a text that consists of one value. -/
def run (read : Reader α) (text : List Char) : Except Fault α :=
  match read (tokens text) with
  | .error f => .error f
  | .ok (a, []) => .ok a
  | .ok (_, _ :: _) => .error .malformed

end Reader

end Lindenmayer.Json

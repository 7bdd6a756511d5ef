import Lindenmayer.Grammar.Basic
import Lindenmayer.Text.Blank

/-!
# Grammar texts

A grammar text is a stream of tokens between blanks, in a fixed order:

```text
4          the number of directions
2          the number of rules
X X+YF+    the first rule: a symbol and its word
Y -FX-Y    the second rule
X          the word to start from
```

Lines mean nothing, and no token can hold a blank. The first fault in the order of the tokens is
reported, whatever follows it. Of several rules for a symbol the first counts; the others, and any
tokens behind the last item, are passed over and recorded.
-/

namespace Lindenmayer

open Text (tokens readInt64?)

namespace Grammar

/-- A token of a grammar text. -/
abbrev Token := List Char

/-- Reads the count in front of a list of tokens. -/
def readCount (what : Count) : List Token → Except Malformation (Int × List Token)
  | [] => .error (.missing (.count what))
  | t :: rest =>
    match readInt64? t with
    | none => .error (.notInteger what t)
    | some count => .ok (count, rest)

/-- Reads the given number of rules, the first of which has the given number, into a rule map. The
recursion ends with the tokens, however large the number of rules is claimed to be. -/
def readRules : (left number : Nat) → Rules → List Token →
    Logged (Except Malformation (Rules × List Token))
  | 0, _, rules, ts => ⟨.ok (rules, ts), []⟩
  | _ + 1, number, _, [] => ⟨.error (.missing (.symbol number)), []⟩
  | _ + 1, number, _, [[_]] => ⟨.error (.missing (.replacement number)), []⟩
  | left + 1, number, rules, [c] :: w :: ts =>
    let last := readRules left (number + 1) (rules.insertNew c w) ts
    ⟨last.value,
      if rules.contains c then .duplicateRule c (some number) :: last.log else last.log⟩
  | _ + 1, number, _, t :: _ => ⟨.error (.longSymbol number t), []⟩

/-- The record of the tokens behind the last item. -/
def trailing : List Token → List Event
  | [] => []
  | ts => [.trailingTokens ts.length]

/-- Reads a grammar from its tokens. -/
def ofTokens (ts : List Token) : Logged (Except Error Grammar) :=
  match readCount .directions ts with
  | .error fault => ⟨.error (.malformed fault), []⟩
  | .ok (directions, ts) =>
    if directions < 1 then ⟨.error (.directionCount directions), []⟩
    else match readCount .rules ts with
      | .error fault => ⟨.error (.malformed fault), []⟩
      | .ok (count, ts) =>
        if count < 0 then ⟨.error (.malformed (.negativeRuleCount count)), []⟩
        else match readRules count.toNat 1 .empty ts with
          | ⟨.error fault, log⟩ => ⟨.error (.malformed fault), log⟩
          | ⟨.ok (_, []), log⟩ => ⟨.error (.malformed (.missing .start)), log⟩
          | ⟨.ok (rules, start :: ts), log⟩ =>
            ⟨.ok ⟨UInt64.ofNat directions.toNat, rules, start⟩, log ++ trailing ts⟩

/-- Reads a grammar text. -/
def ofText (text : List Char) : Logged (Except Error Grammar) :=
  ofTokens (tokens text)

/-- Reads a grammar from the file with the given path, of which `read` gives the bytes. -/
def load (read : String → Except FileError ByteArray) (path : String) :
    Logged (Except Error Grammar) :=
  match read path with
  | .error cause => ⟨.error (.unreadable path cause), []⟩
  | .ok bytes =>
    match String.fromUTF8? bytes with
    | none => ⟨.error (.unreadable path .notUnicode), []⟩
    | some text => ofText text.toList

end Grammar

end Lindenmayer

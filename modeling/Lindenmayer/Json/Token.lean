import Lindenmayer.Text.Integer
import Lindenmayer.Text.Utf8

/-!
# Tokens of a JSON text

A text that is not what its reader expects has a first fault, and only the kind of that fault is
reported. Text order decides which one is first, also between a fault of spelling and a value of the
wrong type. So a text is cut into tokens up to its first fault of spelling, and that fault is kept
as the last token: a reader comes upon it only if all tokens before it were as expected.

A value that no reader asks for is skipped, and its spelling is then checked less strictly: lone
surrogates in its strings are let pass, and a number that breaks off is misspelt even where the text
ends. Tokens of strings and numbers carry what both ways of reading say.
-/

namespace Lindenmayer.Json

open Text (hexValue?)

/-! ## Faults -/

/-- The kinds of fault of a JSON text. -/
inductive Fault where
  /-- It is no JSON text, or goes on after its value or after the last element it should have. -/
  | malformed
  /-- A value is not of the type that is read. -/
  | mistyped
  /-- It ends too early. -/
  | truncated
deriving DecidableEq, Repr

/-! ## Tokens -/

/-- The values with a name. -/
inductive Literal where
  /-- No value. -/
  | null
  /-- The false truth value. -/
  | no
  /-- The true truth value. -/
  | yes
deriving DecidableEq, Repr

/-- A number as it is spelt. -/
structure NumberToken where
  /-- Whether it has a minus sign. -/
  negative : Bool
  /-- The digits ahead of the point. -/
  whole : List Char
  /-- The digits behind the point; none if there is no point. -/
  fraction : List Char
  /-- The exponent, if there is one. -/
  exponent : Option Int
deriving DecidableEq, Repr

/-- A token; one with a fault is the last. -/
inductive Token where
  /-- An opening brace. -/
  | beginObject
  /-- A closing brace. -/
  | endObject
  /-- An opening bracket. -/
  | beginArray
  /-- A closing bracket. -/
  | endArray
  /-- A comma. -/
  | comma
  /-- A colon. -/
  | colon
  /-- A named value. -/
  | literal (value : Except Fault Literal)
  /-- A number. -/
  | number (value : Except Fault NumberToken)
  /-- A string: its content for a reader, and its fault for one that skips it, if any. -/
  | text (value : Except Fault (List Char)) (skipped : Option Fault)
  /-- A character that begins no token. -/
  | stray
deriving Repr

/-- The blanks between tokens. -/
def isSpace (c : Char) : Bool :=
  c = ' ' || c = '\n' || c = '\t' || c = '\r'

/-! ## Named values -/

/-- What is left behind the expected characters. -/
def spell : (expected : List Char) → List Char → Except Fault (List Char)
  | [], rest => .ok rest
  | _ :: _, [] => .error .truncated
  | e :: expected, c :: rest => if c = e then spell expected rest else .error .malformed

/-! ## Numbers -/

/-- A list of digits that must not be empty, and the rest. -/
def scanDigits (cs : List Char) : Except Fault (List Char × List Char) :=
  match cs with
  | [] => .error .truncated
  | c :: _ =>
    if c.isDigit then .ok (cs.takeWhile Char.isDigit, cs.dropWhile Char.isDigit)
    else .error .malformed

/-- The digits ahead of the point: a zero stands alone. -/
def scanWhole (cs : List Char) : Except Fault (List Char × List Char) :=
  match cs with
  | '0' :: c :: rest => if c.isDigit then .error .malformed else .ok (['0'], c :: rest)
  | _ => scanDigits cs

/-- The digits behind the point, if there is one. -/
def scanFraction (cs : List Char) : Except Fault (List Char × List Char) :=
  match cs with
  | '.' :: rest => scanDigits rest
  | _ => .ok ([], cs)

/-- The digits of an exponent behind its sign. -/
def scanPower (negative : Bool) (cs : List Char) : Except Fault (Option Int × List Char) :=
  match scanDigits cs with
  | .error f => .error f
  | .ok (ds, rest) =>
    let n : Int := Nat.ofDigitChars 10 ds 0
    .ok (some (if negative then -n else n), rest)

/-- The exponent, if there is one. -/
def scanExponent (cs : List Char) : Except Fault (Option Int × List Char) :=
  match cs with
  | c :: rest =>
    if c = 'e' || c = 'E' then
      match rest with
      | '+' :: rest => scanPower false rest
      | '-' :: rest => scanPower true rest
      | _ => scanPower false rest
    else .ok (none, cs)
  | [] => .ok (none, [])

/-- A number behind its sign, and the rest. -/
def scanNumber (negative : Bool) (cs : List Char) : Except Fault (NumberToken × List Char) :=
  match scanWhole cs with
  | .error f => .error f
  | .ok (whole, rest) =>
    match scanFraction rest with
    | .error f => .error f
    | .ok (fraction, rest) =>
      match scanExponent rest with
      | .error f => .error f
      | .ok (exponent, rest) => .ok (⟨negative, whole, fraction, exponent⟩, rest)

/-! ## Strings -/

/-- What a backslash and one more character stand for, but for the ones that name a code unit. -/
def escape? : Char → Option Char
  | '"' => some '"'
  | '\\' => some '\\'
  | '/' => some '/'
  | 'b' => some '\x08'
  | 'f' => some '\x0c'
  | 'n' => some '\n'
  | 'r' => some '\r'
  | 't' => some '\t'
  | _ => none

/-- The code unit that four hexadecimal digits name. -/
def codeUnit? (a b c d : Char) : Option Nat :=
  match hexValue? a, hexValue? b, hexValue? c, hexValue? d with
  | some a, some b, some c, some d => some (((a * 16 + b) * 16 + c) * 16 + d)
  | _, _, _, _ => none

/-- The fault of an escape without its four digits: fewer than four bytes are left, or some of them
is no digit. -/
def unitFault (cs : List Char) : Fault :=
  if Text.utf8Length (cs.take 4) < 4 then .truncated else .malformed

/-- What is left behind the closing quote of a string that is skipped. -/
def skipString : List Char → Except Fault (List Char)
  | [] => .error .truncated
  | c :: rest =>
    if c = '"' then .ok rest
    else if c = '\\' then
      match rest with
      | [] => .error .truncated
      | e :: rest =>
        if e = 'u' then
          match rest with
          | a :: b :: c :: d :: rest' =>
            if (codeUnit? a b c d).isSome then skipString rest' else .error (unitFault rest)
          | _ => .error (unitFault rest)
        else if (escape? e).isSome then skipString rest
        else .error .malformed
    else if c.toNat < 0x20 then .error .malformed
    else skipString rest

/-- The character that a leading and a trailing surrogate name. -/
def surrogatePair (high low : Nat) : Char :=
  Char.ofNat ((high - 0xD800) * 0x400 + (low - 0xDC00) + 0x10000)

/-- The content of a string up to its closing quote, put behind the characters already read, which
are listed backwards. -/
def readString (done : List Char) : List Char → Except Fault (List Char)
  | [] => .error .truncated
  | c :: rest =>
    if c = '"' then .ok done.reverse
    else if c = '\\' then
      match rest with
      | [] => .error .truncated
      | e :: rest =>
        if e = 'u' then
          match rest with
          | a :: b :: c :: d :: rest' =>
            match codeUnit? a b c d with
            | none => .error (unitFault rest)
            | some unit =>
              if 0xDC00 ≤ unit && unit ≤ 0xDFFF then .error .malformed
              else if 0xD800 ≤ unit && unit ≤ 0xDBFF then
                match rest' with
                | '\\' :: 'u' :: low =>
                  match low with
                  | a :: b :: c :: d :: rest'' =>
                    match codeUnit? a b c d with
                    | none => .error (unitFault low)
                    | some second =>
                      if 0xDC00 ≤ second && second ≤ 0xDFFF then
                        readString (surrogatePair unit second :: done) rest''
                      else .error .malformed
                  | _ => .error (unitFault low)
                | [] | ['\\'] => .error .truncated
                | _ => .error .malformed
              else readString (Char.ofNat unit :: done) rest'
          | _ => .error (unitFault rest)
        else
          match escape? e with
          | some c => readString (c :: done) rest
          | none => .error .malformed
    else if c.toNat < 0x20 then .error .malformed
    else readString (c :: done) rest

/-! ## Cutting -/

private theorem length_spell {expected cs rest : List Char} (h : spell expected cs = .ok rest) :
    rest.length ≤ cs.length := by
  fun_induction spell expected cs with
  | case1 => cases h; exact Nat.le_refl _
  | case2 => cases h
  | case3 e expected rest' ih => exact Nat.le_succ_of_le (ih h)
  | case4 => cases h

private theorem length_scanDigits {cs ds rest : List Char} (h : scanDigits cs = .ok (ds, rest)) :
    rest.length < cs.length := by
  unfold scanDigits at h
  split at h
  · cases h
  · next c cs =>
    split at h
    · next hc =>
      injection h with h
      have hrest : rest = (c :: cs).dropWhile Char.isDigit := (Prod.ext_iff.1 h).2.symm
      rw [hrest, List.dropWhile_cons_of_pos hc]
      exact Nat.lt_succ_of_le (List.dropWhile_sublist _).length_le
    · cases h

private theorem length_scanWhole {cs ds rest : List Char} (h : scanWhole cs = .ok (ds, rest)) :
    rest.length < cs.length := by
  unfold scanWhole at h
  split at h
  · split at h
    · cases h
    · injection h with h
      have := (Prod.ext_iff.1 h).2
      simp_all
  · exact length_scanDigits h

private theorem length_scanFraction {cs ds rest : List Char}
    (h : scanFraction cs = .ok (ds, rest)) : rest.length ≤ cs.length := by
  unfold scanFraction at h
  split at h
  · exact Nat.le_of_lt (Nat.lt_succ_of_lt (length_scanDigits h))
  · cases h; exact Nat.le_refl _

private theorem length_scanPower {negative : Bool} {cs rest : List Char} {e : Option Int}
    (h : scanPower negative cs = .ok (e, rest)) : rest.length < cs.length := by
  unfold scanPower at h
  split at h
  · cases h
  · next hs => cases h; exact length_scanDigits hs

private theorem length_scanExponent {cs rest : List Char} {e : Option Int}
    (h : scanExponent cs = .ok (e, rest)) : rest.length ≤ cs.length := by
  unfold scanExponent at h
  split at h
  · split at h
    · split at h <;> have := length_scanPower h <;> simp at this ⊢ <;> omega
    · cases h; exact Nat.le_refl _
  · cases h; exact Nat.le_refl _

private theorem length_scanNumber {negative : Bool} {cs rest : List Char} {n : NumberToken}
    (h : scanNumber negative cs = .ok (n, rest)) : rest.length < cs.length := by
  unfold scanNumber at h
  split at h
  · cases h
  · next hw =>
    split at h
    · cases h
    · next hf =>
      split at h
      · cases h
      · next he =>
        cases h
        have := length_scanWhole hw
        have := length_scanFraction hf
        have := length_scanExponent he
        omega

private theorem length_skipString {cs rest : List Char} (h : skipString cs = .ok rest) :
    rest.length < cs.length := by
  fun_induction skipString cs <;> simp_all <;> omega

/-- The tokens of a text, up to the first fault of spelling. -/
def tokens (cs : List Char) : List Token :=
  match cs with
  | [] => []
  | c :: rest =>
    if isSpace c then tokens rest
    else if c = '\x7b' then .beginObject :: tokens rest
    else if c = '\x7d' then .endObject :: tokens rest
    else if c = '[' then .beginArray :: tokens rest
    else if c = ']' then .endArray :: tokens rest
    else if c = ',' then .comma :: tokens rest
    else if c = ':' then .colon :: tokens rest
    else if c = '"' then
      match _h : skipString rest with
      | .error f => [.text (readString [] rest) (some f)]
      | .ok rest' => .text (readString [] rest) none :: tokens rest'
    else if c = 'n' then
      match _h : spell ['u', 'l', 'l'] rest with
      | .error f => [.literal (.error f)]
      | .ok rest' => .literal (.ok .null) :: tokens rest'
    else if c = 't' then
      match _h : spell ['r', 'u', 'e'] rest with
      | .error f => [.literal (.error f)]
      | .ok rest' => .literal (.ok .yes) :: tokens rest'
    else if c = 'f' then
      match _h : spell ['a', 'l', 's', 'e'] rest with
      | .error f => [.literal (.error f)]
      | .ok rest' => .literal (.ok .no) :: tokens rest'
    else if c = '-' then
      match _h : scanNumber true rest with
      | .error f => [.number (.error f)]
      | .ok (n, rest') => .number (.ok n) :: tokens rest'
    else if c.isDigit then
      match _h : scanNumber false (c :: rest) with
      | .error f => [.number (.error f)]
      | .ok (n, rest') => .number (.ok n) :: tokens rest'
    else [.stray]
termination_by cs.length
decreasing_by
  all_goals first
    | (simp; done)
    | (have hlen := length_skipString _h; simp; omega)
    | (have hlen := length_spell _h; simp; omega)
    | (have hlen := length_scanNumber _h; simp at hlen ⊢; omega)

end Lindenmayer.Json

import Lindenmayer.Text.Alphanumeric
import Lindenmayer.Text.Blank
import Lindenmayer.Text.Integer

/-!
# Regular expressions

Only whether a text is a regular expression is decided here, not what it matches: whether its groups
and classes are closed, its repetitions have something to repeat, its ranges are in order and its
names and flags are known ones.

## Without tables

Behind an expression stands no table of the properties of characters. So what needs one is refused:
the named classes of digits, spaces and words, the edges of words, and characters whose case is to
be ignored. Behind the flag that turns whole characters off, these are known for ASCII characters;
but there everything is refused that could match a part of another character.

## Without bounds

The texts that are asked about stand between braces and hold no closing one. So neither a repetition
with bounds nor anything else that is written with braces is complete in them.
-/

namespace Lindenmayer.Text.Pattern

/-! ## Flags -/

/-- The flags that bear on whether a text is a regular expression. -/
structure Flags where
  /-- Whether the case of letters is ignored. -/
  ignoreCase : Bool := false
  /-- Whether whole characters are matched, and not bytes. -/
  unicode : Bool := true
  /-- Whether blanks, and what follows a number sign on a line, mean nothing. -/
  spaced : Bool := false
deriving DecidableEq, Repr

/-- What is left of a text behind blanks and comments. -/
def skipBlanks (inComment : Bool) : List Char → List Char
  | [] => []
  | c :: cs =>
    if inComment then skipBlanks (c ≠ '\n') cs
    else if isBlank c then skipBlanks false cs
    else if c = '#' then skipBlanks true cs
    else c :: cs

namespace Flags

/-- What is left of a text behind what means nothing. -/
def skip (f : Flags) (cs : List Char) : List Char :=
  if f.spaced then skipBlanks false cs else cs

/-- The character that is looked at ahead: behind blanks and one number sign, if they mean
nothing. -/
def peek? (f : Flags) (cs : List Char) : Option Char :=
  if !f.spaced then cs.head?
  else match cs.dropWhile isBlank with
    | '#' :: cs => (cs.dropWhile isBlank).head?
    | cs => cs.head?

/-- The flags after some are turned on and some off. -/
def set (f : Flags) (on off : List Char) : Flags :=
  let after (name : Char) (old : Bool) : Bool := on.contains name || old && !off.contains name
  ⟨after 'i' f.ignoreCase, after 'u' f.unicode, after 'x' f.spaced⟩

end Flags

/-! ## Single characters -/

/-- What is matched at one place. -/
inductive Atom where
  /-- A character; `isByte` says whether it is written as the number of a byte. -/
  | literal (c : Char) (isByte : Bool)
  /-- A named class of digits, spaces or words, or what is outside of it. -/
  | named (negated : Bool)
  /-- An edge of a word, or the place of none. -/
  | edge
  /-- An end of the text. -/
  | bound
deriving DecidableEq, Repr

namespace Atom

/-- Whether an atom can stand outside of classes. -/
def stands (f : Flags) : Atom → Bool
  | .literal c isByte =>
    if f.unicode then !f.ignoreCase else !isByte || c.toNat < 0x80
  | .named negated => !f.unicode && !negated
  | .edge => !f.unicode
  | .bound => true

/-- Whether an atom can stand in a class. -/
def standsInClass (f : Flags) : Atom → Bool
  | .literal c _ => f.unicode || c.toNat < 0x80
  | .named negated => !f.unicode && !negated
  | .edge | .bound => false

/-- Whether two atoms are the ends of a range. -/
def isRange : Atom → Atom → Bool
  | .literal a _, .literal b _ => a.toNat ≤ b.toNat
  | _, _ => false

end Atom

/-- The character whose number has the given number of hexadecimal digits, put behind the digits
already read, and the rest. -/
def readNumber (f : Flags) : (digits value : Nat) → List Char → Option (Char × List Char)
  | 0, value, cs => if value.isValidChar then some (Char.ofNat value, f.skip cs) else none
  | digits + 1, value, cs =>
    match f.skip cs with
    | [] => none
    | c :: cs => (hexValue? c).bind fun d ↦ readNumber f digits (16 * value + d) cs

/-- The control character that a letter names behind a backslash. -/
def control? : Char → Option Char
  | 'a' => some '\x07'
  | 't' => some '\x09'
  | 'n' => some '\x0a'
  | 'v' => some '\x0b'
  | 'f' => some '\x0c'
  | 'r' => some '\x0d'
  | _ => none

/-- What stands behind a backslash, and the rest. -/
def readEscape (f : Flags) : List Char → Option (Atom × List Char)
  | [] => none
  | c :: cs =>
    let number (digits : Nat) (isByte : Bool) : Option (Atom × List Char) :=
      (readNumber f digits 0 cs).map fun r ↦ (.literal r.1 isByte, r.2)
    match c with
    | 'x' => number 2 true
    | 'u' => number 4 false
    | 'U' => number 8 false
    | 'd' | 's' | 'w' => some (.named false, cs)
    | 'D' | 'S' | 'W' => some (.named true, cs)
    | 'b' | 'B' | '<' | '>' => some (.edge, cs)
    | 'A' | 'z' => some (.bound, cs)
    | _ =>
      if c.isAlphanum then (control? c).map fun c ↦ (.literal c false, cs)
      else if c.toNat < 0x80 then some (.literal c false, cs)
      else none

/-! ## Classes -/

/-- What stands at one place of a class, and the rest. -/
def readAtom (f : Flags) : List Char → Option (Atom × List Char)
  | [] => none
  | c :: cs => if c = '\\' then readEscape f cs else some (.literal c false, cs)

/-- What is left behind a member of a class, which is an atom or a range. A hyphen in front of the
end of the class, or of another hyphen, makes no range. -/
def passMember (f : Flags) (cs : List Char) : Option (List Char) := do
  let (a, cs) ← readAtom f cs
  match f.skip cs with
  | '-' :: rest =>
    if f.peek? rest = some ']' || f.peek? rest = some '-' then
      guard (a.standsInClass f)
      return '-' :: rest
    else
      let (b, rest) ← readAtom f (f.skip rest)
      guard (a.isRange b && a.standsInClass f && b.standsInClass f)
      return rest
  | cs =>
    guard (a.standsInClass f)
    return cs

/-- The names of the classes of ASCII characters. -/
def asciiClasses : List String :=
  ["alnum", "alpha", "ascii", "blank", "cntrl", "digit", "graph", "lower", "print", "punct",
    "space", "upper", "word", "xdigit"]

/-- A class of ASCII characters behind its opening bracket: whether it is negated, and the rest. -/
def readAsciiClass : List Char → Option (Bool × List Char)
  | ':' :: cs =>
    let (negated, cs) :=
      match cs with
      | '^' :: cs => (true, cs)
      | cs => (false, cs)
    match cs.dropWhile (· ≠ ':') with
    | ':' :: ']' :: rest =>
      if asciiClasses.contains (String.ofList (cs.takeWhile (· ≠ ':'))) then some (negated, rest)
      else none
    | _ => none
  | _ => none

/-- What is left behind the opening bracket of a class and the mark that negates it. -/
def openClass (f : Flags) (cs : List Char) : Option (List Char) :=
  if f.unicode && f.ignoreCase then none
  else match f.skip cs with
    | '^' :: cs => if f.unicode then some cs else none
    | cs => some cs

/-- Where a class stands between two of its members. -/
inductive ClassPlace where
  /-- At its start, where a closing bracket is a member. -/
  | opened
  /-- Behind hyphens at its start. -/
  | dashed
  /-- Behind any other member. -/
  | inside
deriving DecidableEq, Repr

/-- What is left behind a class from a place in it, with `outer` classes around it. Every step
passes a character, and `bound` is a number of characters. -/
def passClass (f : Flags) : (bound : Nat) → ClassPlace → (outer : Nat) → List Char →
    Option (List Char)
  | 0, _, _, _ => none
  | bound + 1, place, outer, cs =>
    match place, f.skip cs, outer with
    | _, [], _ => none
    | .opened, ']' :: cs, outer => passClass f bound .inside outer cs
    | _, ']' :: cs, 0 => some cs
    | _, ']' :: cs, outer + 1 => passClass f bound .inside outer cs
    | .opened, '-' :: cs, outer | .dashed, '-' :: cs, outer => passClass f bound .dashed outer cs
    | _, '-' :: '-' :: cs, outer | _, '&' :: '&' :: cs, outer | _, '~' :: '~' :: cs, outer =>
      passClass f bound .inside outer cs
    | _, '[' :: cs, outer =>
      match readAsciiClass cs with
      | some (negated, cs) =>
        if negated && !f.unicode then none else passClass f bound .inside outer cs
      | none => (openClass f cs).bind (passClass f bound .opened (outer + 1))
    | _, cs, outer => (passMember f cs).bind (passClass f bound .inside outer)

/-! ## Groups -/

/-- Where an expression stands between two of its parts. -/
structure State where
  /-- The flags that hold here. -/
  flags : Flags := {}
  /-- The flags that held in front of each open group, the innermost first. -/
  outer : List Flags := []
  /-- The names of the groups so far. -/
  names : List (List Char) := []
  /-- Whether there is something to repeat. -/
  operand : Bool := false
deriving DecidableEq, Repr

namespace State

/-- The state behind an atom or a class. -/
def behindOperand (s : State) : State :=
  { s with operand := true }

/-- The state at the start of a group. -/
def inGroup (s : State) (flags : Flags) : State :=
  { s with flags, outer := s.flags :: s.outer, operand := false }

/-- Whether a text is the name of a group. -/
def isName : List Char → Bool
  | [] => false
  | c :: cs =>
    (c = '_' || isAlphabetic c) &&
      cs.all fun c ↦ c = '_' || c = '.' || c = '[' || c = ']' || isAlphanumeric c

/-- The state at the start of a group with a name, and what is left behind the name. -/
def openNamed (s : State) (cs : List Char) : Option (State × List Char) :=
  let name := cs.takeWhile (· ≠ '>')
  match cs.dropWhile (· ≠ '>') with
  | [] => none
  | _ :: rest =>
    if isName name && !s.names.contains name then
      some ({ s.inGroup s.flags with names := name :: s.names }, rest)
    else none

/-- The state behind flags, which hold from here on or in a group that they open, and what is left
behind them. -/
def openFlagged (s : State) (cs : List Char) : Option (State × List Char) :=
  let items := cs.takeWhile fun c ↦ c ≠ ':' && c ≠ ')'
  let flags := s.flags.set (items.takeWhile (· ≠ '-')) (items.dropWhile (· ≠ '-'))
  if items.all ("imsURux-".toList.contains ·) && items.Nodup && items.getLast? ≠ some '-' then
    match cs.dropWhile fun c ↦ c ≠ ':' && c ≠ ')' with
    | ':' :: rest => some (s.inGroup flags, rest)
    | ')' :: rest => if items.isEmpty then none else some ({ s with flags, operand := false }, rest)
    | _ => none
  else none

/-- The state behind an opening parenthesis and the marks that belong to it, and what is left behind
them. What looks ahead or behind is refused. -/
def openGroup (s : State) (cs : List Char) : Option (State × List Char) :=
  match s.flags.skip cs with
  | '?' :: '!' :: _ | '?' :: '=' :: _ | '?' :: '<' :: '!' :: _ | '?' :: '<' :: '=' :: _ => none
  | '?' :: 'P' :: '<' :: cs | '?' :: '<' :: cs => s.openNamed cs
  | '?' :: cs => s.openFlagged cs
  | cs => some (s.inGroup s.flags, cs)

/-- The state behind the next part of an expression, and what is left behind it. -/
def pass (s : State) : List Char → Option (State × List Char)
  | [] => none
  | c :: cs =>
    match c with
    | '(' => s.openGroup cs
    | ')' =>
      match s.outer with
      | [] => none
      | flags :: outer => some ({ s with flags, outer, operand := true }, cs)
    | '|' => some ({ s with operand := false }, cs)
    | '?' | '*' | '+' => if s.operand then some (s, cs) else none
    | '\x7b' => none
    | '[' =>
      ((openClass s.flags cs).bind (passClass s.flags (cs.length + 1) .opened 0)).map fun cs ↦
        (s.behindOperand, cs)
    | '.' => if s.flags.unicode then some (s.behindOperand, cs) else none
    | '^' | '$' => some (s.behindOperand, cs)
    | _ =>
      match readAtom s.flags (c :: cs) with
      | none => none
      | some (a, cs) => if a.stands s.flags then some (s.behindOperand, cs) else none

/-- Whether a text goes on from a state to the end of an expression. Every part has a character, and
`bound` is a number of characters. -/
def completes : (bound : Nat) → State → List Char → Bool
  | 0, _, _ => false
  | bound + 1, s, cs =>
    match s.flags.skip cs with
    | [] => s.outer.isEmpty
    | cs =>
      match s.pass cs with
      | none => false
      | some (s, cs) => s.completes bound cs

end State

end Pattern

/-- Whether a text is a regular expression. -/
def isPattern (cs : List Char) : Bool :=
  Pattern.State.completes (cs.length + 1) {} cs

end Lindenmayer.Text

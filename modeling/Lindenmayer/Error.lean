import Lindenmayer.Text.Integer
import Lindenmayer.Text.Quoted

/-!
# What can go wrong

An error is its cause, and one function gives the wording. Causes from outside, of a file or of an
output device, keep their own types, since they are also reported by themselves.
-/

namespace Lindenmayer

open Text (natural integer quoted)

/-! ## Outside causes -/

/-- Why a file cannot be read. -/
inductive FileError where
  /-- No entry has the name. -/
  | notFound
  /-- A name before the last is not a directory's. -/
  | notADirectory
  /-- The name is a directory's. -/
  | isADirectory
  /-- A name is longer than the file system allows. -/
  | nameTooLong
  /-- The content is not UTF-8. -/
  | notUnicode
  /-- Any other reason, in the words of the system. -/
  | other (reason : String)
deriving DecidableEq, Repr

/-- The system's wording. -/
def FileError.message : FileError → String
  | .notFound => "No such file or directory (os error 2)"
  | .notADirectory => "Not a directory (os error 20)"
  | .isADirectory => "Is a directory (os error 21)"
  | .nameTooLong => "File name too long (os error 36)"
  | .notUnicode => "stream did not contain valid UTF-8"
  | .other reason => reason

/-- Why an output device takes no more bytes. -/
inductive DeviceError where
  /-- The reader is gone. -/
  | closed
  /-- The device accepts writes, but none of their bytes. -/
  | stalled
  /-- There is no room left. -/
  | full
  /-- Any other reason, in the words of the system. -/
  | other (reason : String)
deriving DecidableEq, Repr

/-- The system's wording. -/
def DeviceError.message : DeviceError → String
  | .closed => "closed"
  | .stalled => "failed to write whole buffer"
  | .full => "No space left on device (os error 28)"
  | .other reason => reason

/-! ## Malformed grammar texts -/

/-- A count that a grammar text gives. -/
inductive Count where
  /-- The number of directions. -/
  | directions
  /-- The number of rules. -/
  | rules
deriving DecidableEq, Repr

/-- The name of a count. -/
def Count.name : Count → String
  | .directions => "direction count"
  | .rules => "rule count"

/-- What a token of a grammar text stands for. Rules are numbered from one. -/
inductive Item where
  /-- A count. -/
  | count (what : Count)
  /-- The symbol that a rule replaces. -/
  | symbol (rule : Nat)
  /-- What a rule replaces its symbol by. -/
  | replacement (rule : Nat)
  /-- The word of the first generation. -/
  | start
deriving DecidableEq, Repr

/-- The name of an item. -/
def Item.name : Item → String
  | .count what => what.name
  | .symbol rule => "symbol of rule " ++ String.ofList (natural rule)
  | .replacement rule => "replacement of rule " ++ String.ofList (natural rule)
  | .start => "axiom"

/-- The number of the rule that an item belongs to. -/
def Item.rule? : Item → Option Nat
  | .symbol rule | .replacement rule => some rule
  | .count _ | .start => none

/-- What tells an item from others in a message: the number of its rule, or else its name. -/
def Item.mark (what : Item) : List Char :=
  what.rule?.elim what.name.toList natural

theorem Item.mark_infix_name (what : Item) : what.mark <:+: what.name.toList := by
  cases what with
  | count what => exact List.infix_refl what.name.toList
  | symbol rule =>
    have hname : (symbol rule).name = "symbol of rule " ++ String.ofList (natural rule) := rfl
    rw [hname, String.toList_append, @String.toList_ofList (natural rule)]
    exact (List.suffix_append _ (natural rule)).isInfix
  | replacement rule =>
    have hname : (replacement rule).name = "replacement of rule " ++ String.ofList (natural rule) :=
      rfl
    rw [hname, String.toList_append, @String.toList_ofList (natural rule)]
    exact (List.suffix_append _ (natural rule)).isInfix
  | start => exact List.infix_refl "axiom".toList

/-- The first fault of a grammar text. -/
inductive Malformation where
  /-- The text ends before an item. -/
  | missing (what : Item)
  /-- A token that is to be a count is no integer of 64 bits. -/
  | notInteger (what : Count) (token : List Char)
  /-- The rule count is below zero. -/
  | negativeRuleCount (count : Int)
  /-- A token that is to be a symbol has more than one character. -/
  | longSymbol (rule : Nat) (token : List Char)
deriving DecidableEq, Repr

/-- The item that a fault is found at. -/
def Malformation.item : Malformation → Item
  | .missing what => what
  | .notInteger what _ => .count what
  | .negativeRuleCount _ => .count .rules
  | .longSymbol rule _ => .symbol rule

/-- The wording of a fault. -/
def Malformation.message : Malformation → String
  | .missing what => "missing " ++ what.name
  | .notInteger what token =>
    what.name ++ " must be an integer, got " ++ String.ofList (quoted token)
  | .negativeRuleCount count =>
    Count.rules.name ++ " must not be negative, got " ++ String.ofList (integer count)
  | .longSymbol rule token =>
    "rule " ++ String.ofList (natural rule) ++ " symbol must be a single character, got " ++
      String.ofList (quoted token)

/-- Every message says at which item the fault is. -/
theorem Malformation.mark_infix_message (fault : Malformation) :
    fault.item.mark <:+: fault.message.toList := by
  cases fault with
  | missing what =>
    have hmessage : (missing what).message = "missing " ++ what.name := rfl
    rw [hmessage, String.toList_append]
    exact what.mark_infix_name.trans (List.suffix_append _ _).isInfix
  | notInteger what token =>
    have hmessage : (notInteger what token).message =
      what.name ++ " must be an integer, got " ++ String.ofList (quoted token) := rfl
    rw [hmessage, String.toList_append, String.toList_append, List.append_assoc]
    exact (List.prefix_append what.name.toList _).isInfix
  | negativeRuleCount count =>
    have hmessage : (negativeRuleCount count).message =
      Count.rules.name ++ " must not be negative, got " ++ String.ofList (integer count) := rfl
    rw [hmessage, String.toList_append, String.toList_append, List.append_assoc]
    exact (List.prefix_append Count.rules.name.toList _).isInfix
  | longSymbol rule token =>
    have hmessage : (longSymbol rule token).message = "rule " ++ String.ofList (natural rule) ++
      " symbol must be a single character, got " ++ String.ofList (quoted token) := rfl
    rw [hmessage, String.toList_append, String.toList_append, String.toList_append,
      @String.toList_ofList (natural rule), List.append_assoc]
    exact List.infix_append _ (natural rule) _

/-! ## All errors -/

/-- An error of reading a grammar, expanding it or drawing a word. -/
inductive Error where
  /-- The file of a grammar cannot be read. -/
  | unreadable (path : String) (cause : FileError)
  /-- The text of a grammar has a fault. -/
  | malformed (fault : Malformation)
  /-- A generation before the first is asked for. -/
  | generationCount (count : Int)
  /-- There are no directions to face. -/
  | directionCount (count : Int)
  /-- A branch ends that has not begun, at the symbol with this index. -/
  | underflow (index : Nat)
  /-- The turtle faces a direction that the compass does not have. -/
  | offCompass (heading : UInt64)
  /-- The receiver of the segments failed. -/
  | sink (cause : DeviceError)
deriving DecidableEq, Repr

namespace Error

/-- The wording of an error. -/
def message : Error → String
  | .unreadable path cause => "cannot read grammar source " ++ path ++ ": " ++ cause.message
  | .malformed fault => "malformed grammar: " ++ fault.message
  | .generationCount count =>
    "generation count must be at least 1, got " ++ String.ofList (integer count)
  | .directionCount count =>
    "direction count must be at least 1, got " ++ String.ofList (integer count)
  | .underflow index => "branch stack underflow at symbol " ++ String.ofList (natural index)
  | .offCompass heading => "no direction " ++ String.ofList (natural heading.toNat)
  | .sink cause => "segment sink failed: " ++ cause.message

/-- The wording of the outside cause of an error, if it has one. -/
def cause? : Error → Option String
  | .unreadable _ cause => some cause.message
  | .sink cause => some cause.message
  | _ => none

end Error

end Lindenmayer

import Rollback.CommandLine.OptionName
import Rollback.Text.Split

/-! What the words of a command line stand for. A word with a hyphen in front of more text is an
option, `--` ends the options, and any other word is an operand or the value of the option before
it. -/
namespace Rollback

/-- One thing that a command line gives. -/
inductive Item where
  | operand (text : String)
  | option (name : OptionName) (value? : Option String)
  /-- The user asks for help. -/
  | help
  /-- Here the words cannot be understood. -/
  | fault (fault : UsageFault)
  deriving DecidableEq, Repr, Inhabited

namespace Item

/-- The items in a word, and the option whose value is still to come. -/
abbrev Reading := List Item × Option OptionName

def readLong (name : String) (value? : Option String) : Reading :=
  match OptionName.ofLong? name with
  | none =>
    if name ≠ "help" then ([.fault (.unknownOption ("--" ++ name))], none)
    else if value?.isSome then ([.fault (.unexpectedValue name)], none)
    else ([.help], none)
  | some o =>
    match o.form, value? with
    | .absent, some _ => ([.fault (.unexpectedValue name)], none)
    | .required, none => ([], some o)
    | _, _ => ([.option o value?], none)

/-- Options by their letters. The first one that takes a value takes the rest of the word, without an
equals sign before it. -/
def readShort : List Char → Reading
  | [] => ([], none)
  | letter :: rest =>
    match OptionName.ofShort? letter with
    | none =>
      (if letter = 'h' then [.help] else [.fault (.unknownOption ("-" ++ String.singleton letter))],
        none)
    | some o =>
      if o.form = .absent then
        let (items, open?) := readShort rest
        (.option o none :: items, open?)
      else
        match rest with
        | [] => ([], some o)
        | '=' :: value | value => ([.option o (some (String.ofList value))], none)

/-- A word before the end of the options. -/
def readWord (word : String) : Reading :=
  match word.toList with
  | '-' :: '-' :: body =>
    match Text.cutChars '=' body with
    | some (name, value) => readLong (String.ofList name) (some (String.ofList value))
    | none => readLong (String.ofList body) none
  | '-' :: letter :: rest => readShort (letter :: rest)
  | _ => ([.operand word], none)

/-- Whether a word cannot be the value of the option before it. A hyphen alone can. -/
def isOptionLike (word : String) : Bool :=
  match word.toList with
  | '-' :: _ :: _ => true
  | _ => false

/-- What the words stand for, in order. Nothing follows an option without its value. -/
def ofWords : List String → List Item
  | [] => []
  | word :: rest =>
    if word = "--" then rest.map .operand
    else
      match readWord word with
      | (items, none) => items ++ ofWords rest
      | (items, some o) =>
        items ++
          match rest with
          | [] => [.fault (.missingValue o)]
          | value :: rest =>
            if isOptionLike value then [.fault (.missingValue o)]
            else .option o (some value) :: ofWords rest

end Item

end Rollback

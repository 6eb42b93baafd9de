import Phrasebook.Error
import Phrasebook.Text.Split

/-!
# Selectors

A selector says what an expression reads. It has one to three segments with
dots between them:

* `a` is the attribute of the context, a digit is an argument, and any other
  single segment but `s` and `d` is a key of the string table;
* `a.e` and `a.0` are the flag and a slot of the attribute, and `s.field` and
  `d.field` are fields of the source and of the display subject;
* `s.field.e` and `d.field.1` are the flag and a slot of an attribute in a
  field.
-/

namespace Phrasebook

inductive SubjectRole where
  | source
  | display
  deriving DecidableEq

def SubjectRole.letter : SubjectRole → String
  | source => "s"
  | display => "d"

def SubjectRole.role : SubjectRole → Role
  | source => .source
  | display => .display

inductive AttributePart where
  | enabled
  | slot (index : Nat)
  | unknown (text : String)
  deriving DecidableEq

/-- What an expression reads, or the shape that keeps it from reading. -/
inductive Selector where
  | attr
  | bareSubject (subject : SubjectRole)
  | argument (index : Nat)
  | key (key : String)
  | attrPart (part : AttributePart)
  | field (subject : SubjectRole) (name : String)
  | fieldPart (subject : SubjectRole) (name : String) (part : AttributePart)
  | unknownMain (main : String)
  | nestedAttribute
  | tooLong
  deriving DecidableEq

def singleDigit? : List Char → Option Nat
  | [c] => decimalDigit? c
  | _ => none

def SubjectRole.ofSegment? (segment : List Char) : Option SubjectRole :=
  if segment = ['s'] then some .source
  else if segment = ['d'] then some .display
  else none

/-- The part of an attribute that a last segment names. -/
def AttributePart.ofSegment (segment : List Char) : AttributePart :=
  if segment = ['e'] then
    .enabled
  else
    match singleDigit? segment with
    | some index => .slot index
    | none => .unknown (String.ofList segment)

namespace Selector

def ofSingle (segment : List Char) : Selector :=
  if segment = ['a'] then
    .attr
  else
    match SubjectRole.ofSegment? segment with
    | some subject => .bareSubject subject
    | none =>
        match singleDigit? segment with
        | some index => .argument index
        | none => .key (String.ofList segment)

def ofPair (main second : List Char) : Selector :=
  if main = ['a'] then
    .attrPart (.ofSegment second)
  else
    match SubjectRole.ofSegment? main with
    | some subject => .field subject (String.ofList second)
    | none => .unknownMain (String.ofList main)

def ofTriple (main second third : List Char) : Selector :=
  if main = ['a'] then
    .nestedAttribute
  else
    match SubjectRole.ofSegment? main with
    | some subject =>
        .fieldPart subject (String.ofList second) (.ofSegment third)
    | none => .unknownMain (String.ofList main)

def ofText (text : String) : Selector :=
  match splitAtMark '.' text.toList with
  | (single, []) => ofSingle single
  | (main, [second]) => ofPair main second
  | (main, [second, third]) => ofTriple main second third
  | _ => .tooLong

end Selector

end Phrasebook

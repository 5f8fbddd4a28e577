import ParamTree.Json.Basic
import ParamTree.Text.Basic

/-!
# Text of a value

The compact text has no blanks; the pretty text gives every item a line of its own, indented by two
blanks a level. Strings escape the double quote, the backslash and the characters below U+0020,
five of which have a letter of their own; all other characters stand for themselves.
-/

namespace ParamTree.Json

def escapeChar (c : Char) : List Char :=
  if c = '"' then ['\\', '"']
  else if c = '\\' then ['\\', '\\']
  else if c = '\n' then ['\\', 'n']
  else if c = '\r' then ['\\', 'r']
  else if c = '\t' then ['\\', 't']
  else if c = '\x08' then ['\\', 'b']
  else if c = '\x0c' then ['\\', 'f']
  else if c.toNat < 0x20 then ['\\', 'u'] ++ Text.hexFour c.toNat
  else [c]

def stringChars (text : String) : List Char :=
  '"' :: text.toList.flatMap escapeChar ++ ['"']

def scalarChars : Json → List Char
  | .bool true => ['t', 'r', 'u', 'e']
  | .bool false => ['f', 'a', 'l', 's', 'e']
  | .number n => n.chars
  | .string text => stringChars text
  | _ => ['n', 'u', 'l', 'l']

def commaJoin : List (List Char) → List Char
  | [] => []
  | [text] => text
  | text :: rest => text ++ ',' :: commaJoin rest

def arrayChars (items : List (List Char)) : List Char :=
  '[' :: commaJoin items ++ [']']

def objectChars (fields : List (String × List Char)) : List Char :=
  '{' :: commaJoin (fields.map (fun field => stringChars field.1 ++ ':' :: field.2)) ++ ['}']

mutual

def compactChars : Json → List Char
  | .array items => arrayChars (compactItems items)
  | .object fields => objectChars (compactFields fields)
  | scalar => scalarChars scalar

def compactItems : List Json → List (List Char)
  | [] => []
  | item :: items => compactChars item :: compactItems items

def compactFields : List (String × Json) → List (String × List Char)
  | [] => []
  | (key, value) :: fields => (key, compactChars value) :: compactFields fields

end

def compact (value : Json) : String :=
  String.ofList value.compactChars

def newLine (depth : Nat) : List Char :=
  '\n' :: List.replicate (2 * depth) ' '

def block (opening closing : Char) (depth : Nat) (texts : List (List Char)) : List Char :=
  match texts with
  | [] => [opening, closing]
  | _ =>
    opening :: commaJoin (texts.map (newLine (depth + 1) ++ ·)) ++ newLine depth ++ [closing]

mutual

def prettyChars (depth : Nat) : Json → List Char
  | .array items => block '[' ']' depth (prettyItems (depth + 1) items)
  | .object fields => block '{' '}' depth (prettyFields (depth + 1) fields)
  | scalar => scalarChars scalar

def prettyItems (depth : Nat) : List Json → List (List Char)
  | [] => []
  | item :: items => prettyChars depth item :: prettyItems depth items

def prettyFields (depth : Nat) : List (String × Json) → List (List Char)
  | [] => []
  | (key, value) :: fields =>
    (stringChars key ++ [':', ' '] ++ prettyChars depth value) :: prettyFields depth fields

end

def pretty (value : Json) : String :=
  String.ofList (value.prettyChars 0)

theorem compactItems_eq_map (items : List Json) : compactItems items = items.map compactChars := by
  induction items with
  | nil => rfl
  | cons item items ih => simp [compactItems, ih]

theorem compactFields_eq_map (fields : List (String × Json)) :
    compactFields fields = fields.map (fun field => (field.1, compactChars field.2)) := by
  induction fields with
  | nil => rfl
  | cons field fields ih => simp [compactFields, ih]

@[simp] theorem toList_compact (value : Json) : value.compact.toList = value.compactChars := by
  simp [compact]

end ParamTree.Json

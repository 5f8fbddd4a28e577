import ParamTree.Json.Printer

/-!
# Canonical text

The compact text with the fields of every object in the order of their keys, code point by code
point. It does not depend on the order in which the fields came.
-/

namespace ParamTree.Json

/-- Places an entry before the first one whose key is not smaller; of two entries with one key the
later one stays. -/
def insertByKey {α : Type} (key : String) (value : α) : Entries α → Entries α
  | [] => [(key, value)]
  | (k, v) :: rest =>
    if key < k then (key, value) :: (k, v) :: rest
    else if key = k then (key, value) :: rest
    else (k, v) :: insertByKey key value rest

def sortByKey {α : Type} (entries : Entries α) : Entries α :=
  entries.foldl (fun sorted entry => insertByKey entry.1 entry.2 sorted) []

mutual

def canonicalChars : Json → List Char
  | .array items => arrayChars (canonicalItems items)
  | .object fields => objectChars (sortByKey (canonicalFields fields))
  | scalar => scalarChars scalar

def canonicalItems : List Json → List (List Char)
  | [] => []
  | item :: items => canonicalChars item :: canonicalItems items

def canonicalFields : List (String × Json) → List (String × List Char)
  | [] => []
  | (key, value) :: fields => (key, canonicalChars value) :: canonicalFields fields

end

def canonical (value : Json) : String :=
  String.ofList value.canonicalChars

end ParamTree.Json
